import OptionProject.Position.RiskSource
import OptionProject.Risk.Approvals

/-!
# The expected position and the settled one

The risk engine projects what an order leaves of a position, the live aggregate settles the fill
of it. Both carry out one case analysis on the same position; the engine takes another position
when the order's own is not open and one other is.

## Main definitions

* `Agrees` — an expectation that is what the aggregate settles on.

## Main results

* `agrees_own` — the engine and the aggregate on the same position.
* `agrees_iff` — when the projection agrees with settlement.
-/
namespace OptionProject.Position
open Library Contracts Risk RiskOrderCommand
open RiskEngine (expectedFrom calculateExpectedPosition_eq)

variable {C : Type} [RiskOrderCommand C] {command : C} {instrumentKey : String}

/-- The side and the quantity are those of the aggregate, FLAT and 0 for a flat one. -/
def Agrees (expected : ExpectedPosition) (aggregate : LivePositionAggregate) : Prop :=
  expected.side = aggregate.side.elim "FLAT" sideText ∧ expected.qty = aggregate.qty

theorem sideText_ne_flat (side : Side) : sideText side ≠ "FLAT" := by cases side <;> decide

theorem sideText_ne_empty (side : Side) : sideText side ≠ "" := by cases side <;> decide

/-- On the same position the engine expects what the aggregate settles on. -/
theorem agrees_own (h : Holding ℚ) (t : Trade ℚ) :
    Agrees (expectedFrom instrumentKey
        (LivePositionAggregate.ofHolding instrumentKey h).riskPosition? (sideText t.side) t.size)
      (.ofHolding instrumentKey (h.fill t)) := by
  cases h with
  | none => exact ⟨rfl, rfl⟩
  | some lot =>
    have open_lot : ¬(lot.size = 0 ∨ sideText lot.side = "") :=
      not_or.mpr ⟨lot.size_pos.ne', sideText_ne_empty lot.side⟩
    simp only [LivePositionAggregate.riskPosition?, LivePositionAggregate.ofHolding,
      Option.map_some, expectedFrom, open_lot, if_false]
    by_cases same : t.side = lot.side
    · rw [if_pos (congrArg sideText same.symm), Holding.fill_same lot t same]
      exact ⟨rfl, rfl⟩
    · rw [if_neg (sideText_injective.ne (Ne.symm same))]
      rcases lt_trichotomy t.size lot.size with smaller | equal | larger
      · rw [if_pos smaller, Holding.fill_smaller lot t same smaller]
        exact ⟨rfl, rfl⟩
      · rw [if_neg equal.not_lt, if_pos equal, Holding.fill_equal lot t same equal]
        exact ⟨rfl, rfl⟩
      · rw [if_neg larger.not_gt, if_neg larger.ne', Holding.fill_larger lot t same larger]
        exact ⟨rfl, rfl⟩

/-- On the position of another instrument it never expects what a fill makes of a flat one. -/
theorem not_agrees_borrowed (lot : Lot ℚ) (t : Trade ℚ) :
    ¬Agrees (expectedFrom instrumentKey (some ⟨sideText lot.side, lot.size⟩) (sideText t.side)
        t.size) (.ofHolding instrumentKey (Holding.fill none t)) := by
  have open_lot : ¬(lot.size = 0 ∨ sideText lot.side = "") :=
    not_or.mpr ⟨lot.size_pos.ne', sideText_ne_empty lot.side⟩
  have size := lot.size_pos
  simp only [expectedFrom, open_lot, if_false, Holding.fill, LivePositionAggregate.ofHolding,
    Agrees, Option.elim_some]
  by_cases same : lot.side = t.side
  · rw [if_pos (congrArg sideText same)]
    rintro ⟨-, quantity⟩
    dsimp only at quantity
    omega
  · rw [if_neg (sideText_injective.ne same)]
    split_ifs
    · rintro ⟨other, -⟩
      exact same (sideText_injective other)
    · rintro ⟨flat, -⟩
      exact sideText_ne_flat t.side flat.symm
    · rintro ⟨-, quantity⟩
      dsimp only at quantity
      omega

/-! ## The projection of all positions -/

variable {aggregates : Dict String LivePositionAggregate}

/-- The order's instrument has an open position. -/
def OwnOpen (aggregates : Dict String LivePositionAggregate) (instrumentKey : String) : Prop :=
  ∃ aggregate, aggregates.get? instrumentKey = some aggregate ∧ aggregate.side ≠ none

/-- The number of open positions. -/
def openCount (aggregates : Dict String LivePositionAggregate) : ℕ :=
  aggregates.values.countP (·.side.isSome)

def riskPositions (aggregates : Dict String LivePositionAggregate) : Dict String RiskPosition :=
  aggregates.filterMap fun _ aggregate => aggregate.riskPosition?

theorem length_riskPositions :
    (riskPositions aggregates).entries.length = openCount aggregates := by
  rw [riskPositions, Dict.filterMap, List.length_filterMap_eq_countP, openCount, Dict.values,
    List.countP_map]
  congr 1
  funext entry
  simp [LivePositionAggregate.riskPosition?]

/-- The aggregate of the order's instrument, a new one if there is none. -/
def ownAggregate (aggregates : Dict String LivePositionAggregate) (instrumentKey : String) :
    LivePositionAggregate :=
  (aggregates.get? instrumentKey).getD { instrumentId := instrumentKey }

theorem exists_ownAggregate (settled : Settled aggregates) (instrumentKey : String) :
    ∃ h, ownAggregate aggregates instrumentKey = .ofHolding instrumentKey h ∧
      (riskPositions aggregates).get? instrumentKey =
        (LivePositionAggregate.ofHolding instrumentKey h).riskPosition? ∧
      (OwnOpen aggregates instrumentKey ↔ h ≠ none) := by
  unfold ownAggregate riskPositions OwnOpen
  rw [Dict.get?_filterMap]
  cases found : aggregates.get? instrumentKey with
  | none => exact ⟨none, rfl, rfl, by simp⟩
  | some aggregate =>
    obtain ⟨-, h, rfl⟩ := ofHolding_of_settled settled found
    refine ⟨h, rfl, rfl, ?_⟩
    cases h <;> simp [LivePositionAggregate.ofHolding]

theorem currentPosition_riskPositions :
    RiskEngine.currentPosition instrumentKey (some ⟨riskPositions aggregates⟩) =
      ((riskPositions aggregates).get? instrumentKey).or
        (if openCount aggregates = 1 then (riskPositions aggregates).values.head? else none) := by
  rw [← length_riskPositions, Dict.values]
  unfold RiskEngine.currentPosition
  dsimp only
  cases (riskPositions aggregates).get? instrumentKey with
  | some position => rfl
  | none => rcases (riskPositions aggregates).entries with _ | ⟨only, _ | _⟩ <;> simp

/-- The position of an only entry is that of a holding. -/
theorem exists_lot_of_openCount (settled : Settled aggregates) (one : openCount aggregates = 1) :
    ∃ lot : Lot ℚ, (riskPositions aggregates).values.head? =
      some ⟨sideText lot.side, lot.size⟩ := by
  rw [← length_riskPositions] at one
  obtain ⟨⟨instrumentId, position⟩, only⟩ := List.length_eq_one_iff.mp one
  have member : (instrumentId, position) ∈ (riskPositions aggregates).entries := by simp [only]
  obtain ⟨aggregate, given, projected⟩ := Dict.mem_filterMap.mp member
  obtain ⟨-, h, rfl⟩ := ofHolding_of_settled settled (Dict.get?_of_mem given)
  cases h with
  | none => cases projected
  | some lot =>
    cases projected
    exact ⟨lot, by simp [Dict.values, only, LivePositionAggregate.ofHolding]⟩

/-- For all settled aggregates and every order, the engine expects what the aggregate of the
order's instrument settles on exactly when that one is open, or not exactly one other is. -/
theorem agrees_iff (settled : Settled aggregates)
    (key : getInstrumentKey command = .ok instrumentKey) {orderSide : Side}
    (sided : side command = sideText orderSide) (positive : 0 < qty command) {price : ℚ}
    (priced : 0 < price) :
    ∃ input expected after,
      positionAggregateToRiskInput (LivePositionAggregateRiskSource.mk aggregates).toSource =
        .ok input ∧
      RiskEngine.calculateExpectedPosition command (some input) = .ok expected ∧
      (ownAggregate aggregates instrumentKey).applyFill (side command) (qty command) price =
        .ok after ∧
      (Agrees expected after ↔ OwnOpen aggregates instrumentKey ∨ openCount aggregates ≠ 1) := by
  obtain ⟨h, own, taken, isOpen⟩ := exists_ownAggregate settled instrumentKey
  let t : Trade ℚ := ⟨orderSide, qty command, price, positive, priced⟩
  have filled : (ownAggregate aggregates instrumentKey).applyFill (side command) (qty command)
      price = .ok (.ofHolding instrumentKey (h.fill t)) := by
    rw [own, sided]
    exact LivePositionAggregate.applyFill_ofHolding instrumentKey h t
  refine ⟨_, _, _, positionAggregateToRiskInput_settled settled,
    calculateExpectedPosition_eq key _, filled, ?_⟩
  rw [← riskPositions, currentPosition_riskPositions, taken, sided, isOpen]
  cases h with
  | some lot => exact iff_of_true (agrees_own (some lot) t) (.inl (by simp))
  | none =>
    by_cases one : openCount aggregates = 1
    · obtain ⟨lot, borrowed⟩ := exists_lot_of_openCount settled one
      rw [if_pos one, borrowed]
      exact iff_of_false (not_agrees_borrowed lot t) (by simp [one])
    · rw [if_neg one]
      exact iff_of_true (agrees_own none t) (.inr one)

/-- Five lots are held of one instrument. -/
def longAggregates : Dict String LivePositionAggregate :=
  .ofList [("OPTION:B", ⟨"OPTION:B", some .buy, 5, some 100⟩)]

theorem settled_longAggregates : Settled longAggregates := by
  intro instrumentId aggregate found
  have given := Dict.mem_of_get?_ofList found
  simp only [List.mem_singleton, Prod.mk.injEq] at given
  obtain ⟨rfl, rfl⟩ := given
  exact ⟨{ instrumentId := "OPTION:B" }, [⟨.buy, 5, 100, by decide, by decide +kernel⟩],
    by decide +kernel, rfl, by decide +kernel⟩

/-- An order that closes two of the lots held. -/
theorem agrees_iff_closing :
    let order : Command := { qty := 2, side := "SELL", instrumentKey := "OPTION:B" }
    ∃ input expected after,
      positionAggregateToRiskInput (LivePositionAggregateRiskSource.mk longAggregates).toSource =
        .ok input ∧
      RiskEngine.calculateExpectedPosition order (some input) = .ok expected ∧
      (ownAggregate longAggregates "OPTION:B").applyFill "SELL" 2 101 = .ok after ∧
      (Agrees expected after ↔ OwnOpen longAggregates "OPTION:B" ∨ openCount longAggregates ≠ 1) :=
  @agrees_iff Command _ { qty := 2, side := "SELL", instrumentKey := "OPTION:B" } "OPTION:B"
    longAggregates settled_longAggregates rfl .sell rfl (by decide) 101 (by decide +kernel)

/-- An order for another instrument is taken for one that closes the lots held. -/
theorem other_position_expected :
    let order : Command := { qty := 2, side := "SELL", instrumentKey := "OPTION:A" }
    (positionAggregateToRiskInput
        (LivePositionAggregateRiskSource.mk longAggregates).toSource).bind (fun input =>
      RiskEngine.calculateExpectedPosition order (some input)) = .ok ⟨"OPTION:A", "BUY", 3⟩ ∧
    (ownAggregate longAggregates "OPTION:A").applyFill "SELL" 2 101 =
      .ok ⟨"OPTION:A", some .sell, 2, some 101⟩ := by
  decide +kernel

end OptionProject.Position
