import OptionProject.Position.RiskSource
import OptionProject.Virtual.Books

/-!
# The live and the virtual aggregate

Both aggregates carry out the same average-cost holdings, and what they hand to the risk engine
is the same.

## Main definitions

* `VirtualPositionAggregate.snapshot` — the virtual aggregate for the risk engine.
* `SameState` — two aggregates with the same position.

## Main results

* `sameState_applyFills` — the aggregates after every run of fills.
-/
namespace OptionProject.Virtual
open Library Contracts Position

def VirtualPositionAggregate.snapshot (self : VirtualPositionAggregate ℚ) :
    Except Raised (Dict String PositionAggregate) :=
  if self.qty = 0 then .ok .empty
  else
    match self.side with
    | none => .error ⟨.runtimeError, "POSITION_AGGREGATE_SIDE_REQUIRED"⟩
    | some side => .ok (Dict.empty.set self.instrumentId ⟨side, self.qty, self.avgPrice⟩)

/-- The source of a single live aggregate. -/
def riskSourceOf (live : LivePositionAggregate) : LivePositionAggregateRiskSource :=
  ⟨Dict.empty.set live.instrumentId live⟩

/-- The same side, quantity and average price, and the same projection for the risk engine. -/
structure SameState (live : LivePositionAggregate)
    (virtual : VirtualPositionAggregate ℚ) : Prop where
  side : live.side.map sideText = virtual.side
  qty : live.qty = virtual.qty
  avgPrice : live.avgPrice = virtual.avgPrice
  snapshot : (riskSourceOf live).snapshot = virtual.snapshot

variable {instrumentId : String}

/-- Two aggregates that stand for one holding. -/
theorem sameState_ofHolding (nonempty : instrumentId ≠ "") (h : Holding ℚ) :
    SameState (.ofHolding instrumentId h) (.ofHolding instrumentId h) := by
  have named : (LivePositionAggregate.ofHolding instrumentId h).instrumentId = instrumentId := by
    cases h <;> rfl
  have entries : (riskSourceOf (.ofHolding instrumentId h)).aggregates.entries =
      [(instrumentId, .ofHolding instrumentId h)] := by
    rw [riskSourceOf, named]
    rfl
  have snapshot : (riskSourceOf (.ofHolding instrumentId h)).snapshot =
      .ok ((LivePositionAggregate.ofHolding instrumentId h).open?.elim .empty
        (Dict.empty.set instrumentId ·)) := by
    rw [LivePositionAggregateRiskSource.snapshot, entries, List.foldlM_cons,
      LivePositionAggregateRiskSource.project_ofHolding nonempty h .empty]
    rfl
  cases h with
  | none => exact ⟨rfl, rfl, rfl, snapshot⟩
  | some lot =>
    refine ⟨rfl, rfl, rfl, snapshot.trans ?_⟩
    simp [VirtualPositionAggregate.snapshot, VirtualPositionAggregate.ofHolding,
      LivePositionAggregate.open?, LivePositionAggregate.ofHolding, lot.size_pos.ne']

/-- A new live and a new virtual aggregate of one instrument are the same after every run of
fills, so after each fill of it. -/
theorem sameState_applyFills {raw : String} {fresh : LivePositionAggregate}
    (created : LivePositionAggregate.create raw = .ok fresh) (fills : List (Trade ℚ)) :
    ∃ live virtual, fresh.applyFills fills = .ok live ∧
      ({ instrumentId := fresh.instrumentId } : VirtualPositionAggregate ℚ).applyFills fills =
        .ok virtual ∧
      SameState live virtual := by
  unfold LivePositionAggregate.create at created
  rw [ite_error_eq_ok] at created
  obtain ⟨nonempty, ⟨⟩⟩ := created
  exact ⟨_, _, LivePositionAggregate.applyFills_ofHolding (strip raw) none fills,
    VirtualPositionAggregate.applyFills_ofHolding (strip raw) none fills,
    sameState_ofHolding nonempty _⟩

/-- Buying 2 and then selling 5 of one option. -/
theorem sameState_applyFills_crossing :
    let fills : List (Trade ℚ) := [⟨.buy, 2, 1, by decide, by decide⟩,
      ⟨.sell, 5, 2, by decide, by decide⟩]
    ∃ live virtual,
      ({ instrumentId := "OPTION_X" } : LivePositionAggregate).applyFills fills = .ok live ∧
      ({ instrumentId := "OPTION_X" } : VirtualPositionAggregate ℚ).applyFills fills =
        .ok virtual ∧
      SameState live virtual :=
  @sameState_applyFills "OPTION_X" { instrumentId := "OPTION_X" } (by decide +kernel) _

end OptionProject.Virtual
