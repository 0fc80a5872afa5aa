import OptionProject.Position.LivePositionAggregate
import OptionProject.Risk.Engine

/-!
# Positions for the risk engine

`core/position/position_aggregate.py`, the adapter that hands its aggregates to the risk engine,
and `environments/live/position/live_position_aggregate_risk_source.py`, which projects the live
aggregates. Flat positions are left out.

## Main definitions

* `LivePositionAggregateRiskSource.snapshot` — the open positions of the live aggregates.
* `positionAggregateToRiskInput` — the positions of a source as the input of the risk engine.
* `Settled` — aggregates that fills have led to.

## Main results

* `snapshot_settled`, `positionAggregateToRiskInput_settled` — the projections never raise, and
  keep the open positions under their keys.
-/
namespace OptionProject.Position
open Library Contracts Risk

/-- `PositionAggregate` of `core/position`. -/
structure PositionAggregate where
  side : String
  qty : ℤ
  avgPrice : Option ℚ := none
  deriving DecidableEq

structure PositionAggregateSource where
  snapshot : Except Raised (Dict String PositionAggregate)

/-! ## The live source -/

/-- `PositionAggregate` of the live module. -/
structure LivePositionAggregate.Snapshot where
  instrumentId : String
  side : Option Side
  qty : ℤ
  avgPrice : Option ℚ

def LivePositionAggregate.snapshot (self : LivePositionAggregate) : Snapshot :=
  ⟨self.instrumentId, self.side, self.qty, self.avgPrice⟩

structure LivePositionAggregateRiskSource where
  aggregates : Dict String LivePositionAggregate

namespace LivePositionAggregateRiskSource

/-- The loop body, for one instrument. -/
def project (projected : Dict String PositionAggregate) (entry : String × LivePositionAggregate) :
    Except Raised (Dict String PositionAggregate) :=
  let (instrumentId, aggregate) := entry
  if instrumentId = "" then .error ⟨.typeError, "LIVE_POSITION_INSTRUMENT_ID_REQUIRED"⟩
  else
    let state := aggregate.snapshot
    if state.instrumentId ≠ instrumentId then
      .error ⟨.valueError, "LIVE_POSITION_INSTRUMENT_ID_MISMATCH"⟩
    else if state.qty = 0 then .ok projected
    else
      match state.side with
      | none => .error ⟨.typeError, "LIVE_POSITION_SIDE_REQUIRED"⟩
      | some side =>
        if state.qty ≤ 0 then .error ⟨.typeError, "LIVE_POSITION_QTY_REQUIRED"⟩
        else .ok (projected.set instrumentId ⟨sideText side, state.qty, state.avgPrice⟩)

def snapshot (self : LivePositionAggregateRiskSource) :
    Except Raised (Dict String PositionAggregate) :=
  self.aggregates.entries.foldlM project .empty

def toSource (self : LivePositionAggregateRiskSource) : PositionAggregateSource := ⟨self.snapshot⟩

end LivePositionAggregateRiskSource

/-! ## The adapter -/

/-- The loop body, for one instrument. -/
def mapPosition (positions : Dict String RiskPosition) (entry : String × PositionAggregate) :
    Except Raised (Dict String RiskPosition) :=
  let (instrumentKey, aggregate) := entry
  if instrumentKey = "" then .error ⟨.typeError, "RISK_POSITION_INSTRUMENT_KEY_REQUIRED"⟩
  else if aggregate.side = "" then .error ⟨.typeError, "RISK_POSITION_SIDE_REQUIRED"⟩
  else .ok (positions.set instrumentKey ⟨aggregate.side, aggregate.qty⟩)

def positionAggregateToRiskInput (source : PositionAggregateSource) :
    Except Raised RiskPositionInput := do
  let snapshot ← source.snapshot
  let positions ← snapshot.entries.foldlM mapPosition .empty
  .ok ⟨positions⟩

/-! ## Aggregates that fills have led to -/

/-- Every instrument id has the aggregate that some fills have made of a new one. -/
def Settled (aggregates : Dict String LivePositionAggregate) : Prop :=
  ∀ instrumentId aggregate, aggregates.get? instrumentId = some aggregate →
    ∃ fresh fills, LivePositionAggregate.create instrumentId = .ok fresh ∧
      fresh.instrumentId = instrumentId ∧ fresh.applyFills fills = .ok aggregate

/-- The open position of an aggregate. -/
def LivePositionAggregate.open? (self : LivePositionAggregate) : Option PositionAggregate :=
  self.side.map fun side => ⟨sideText side, self.qty, self.avgPrice⟩

def LivePositionAggregate.riskPosition? (self : LivePositionAggregate) : Option RiskPosition :=
  self.side.map fun side => ⟨sideText side, self.qty⟩

variable {aggregates : Dict String LivePositionAggregate} {instrumentId : String}
  {aggregate : LivePositionAggregate}

theorem ofHolding_of_settled (settled : Settled aggregates)
    (found : aggregates.get? instrumentId = some aggregate) :
    instrumentId ≠ "" ∧ ∃ h, aggregate = .ofHolding instrumentId h := by
  obtain ⟨fresh, fills, created, named, filled⟩ := settled instrumentId aggregate found
  unfold LivePositionAggregate.create at created
  rw [ite_error_eq_ok] at created
  obtain ⟨nonempty, ⟨⟩⟩ := created
  have standing := LivePositionAggregate.applyFills_ofHolding (strip instrumentId) none fills
  cases filled.symm.trans standing
  have named : strip instrumentId = instrumentId := named
  exact ⟨named ▸ nonempty, _, by rw [named]⟩

namespace LivePositionAggregateRiskSource

theorem project_ofHolding (nonempty : instrumentId ≠ "") (h : Holding ℚ)
    (projected : Dict String PositionAggregate) :
    project projected (instrumentId, .ofHolding instrumentId h) =
      .ok ((LivePositionAggregate.ofHolding instrumentId h).open?.elim projected
        (projected.set instrumentId ·)) := by
  cases h with
  | none => simp [project, nonempty, LivePositionAggregate.ofHolding,
      LivePositionAggregate.snapshot, LivePositionAggregate.open?]
  | some lot => simp [project, nonempty, LivePositionAggregate.ofHolding,
      LivePositionAggregate.snapshot, LivePositionAggregate.open?, lot.size_pos.ne',
      not_le.mpr lot.size_pos]

/-- The snapshot of settled aggregates has the open ones. -/
theorem snapshot_settled (settled : Settled aggregates) :
    snapshot ⟨aggregates⟩ = .ok (aggregates.filterMap fun _ aggregate => aggregate.open?) := by
  refine Dict.foldlM_filterMap fun projected entry member => ?_
  obtain ⟨instrumentId, aggregate⟩ := entry
  obtain ⟨nonempty, h, rfl⟩ := ofHolding_of_settled settled (Dict.get?_of_mem member)
  exact project_ofHolding nonempty h projected

end LivePositionAggregateRiskSource

/-- The risk engine is given the open positions of settled aggregates, under their ids. -/
theorem positionAggregateToRiskInput_settled (settled : Settled aggregates) :
    positionAggregateToRiskInput (LivePositionAggregateRiskSource.mk aggregates).toSource =
      .ok ⟨aggregates.filterMap fun _ aggregate => aggregate.riskPosition?⟩ := by
  unfold positionAggregateToRiskInput LivePositionAggregateRiskSource.toSource
  rw [LivePositionAggregateRiskSource.snapshot_settled settled]
  have mapped := @Dict.foldlM_filterMap _ _ _ _
    (fun _ (aggregate : PositionAggregate) => some (⟨aggregate.side, aggregate.qty⟩ : RiskPosition))
    Raised mapPosition (aggregates.filterMap fun _ aggregate => aggregate.open?) ?_
  · simp only [bind, Except.bind, mapped, Dict.filterMap_filterMap]
    congr 3
    funext _ aggregate
    cases side : aggregate.side <;>
      simp [LivePositionAggregate.open?, LivePositionAggregate.riskPosition?, side]
  · rintro positions ⟨instrumentId, position⟩ member
    obtain ⟨aggregate, member, projected⟩ := Dict.mem_filterMap.mp member
    have nonempty := (ofHolding_of_settled settled (Dict.get?_of_mem member)).1
    obtain ⟨side, -, rfl⟩ := Option.map_eq_some_iff.mp projected
    have named : sideText side ≠ "" := by cases side <;> decide
    simp [mapPosition, nonempty, named]

end OptionProject.Position
