import OptionProject.Virtual.PaperAccount
import OptionProject.Virtual.Settlement

/-!
# The two books of the virtual environment

The position manager of the virtual firm and the virtual position aggregate are fed with the same
fills. The aggregate carries out average-cost holdings; the manager carries out those that drop
what a fill has left after closing the position.

## Main definitions

* `HeldPosition.ofLot`, `VirtualPositionAggregate.ofHolding` — what stands for a holding.
* `SameBook` — the manager's entry of a symbol is what the aggregate holds.

## Main results

* `updatePosition_ofHolding`, `applyFill_ofHolding` — one fill on either book.
* `sameBook_iff` — when the books agree all along a run of fills.
-/
namespace OptionProject.Virtual
open Library Contracts

theorem sideText_inj {side side' : Side} : sideText side = sideText side' ↔ side = side' := by
  cases side <;> cases side' <;> decide

/-! ## The position manager -/

def HeldPosition.ofLot (lot : Lot ℚ) : HeldPosition := ⟨lot.size, lot.cost, sideText lot.side⟩

theorem HeldPosition.sign_ofLot (lot : Lot ℚ) :
    (if (ofLot lot).side = "BUY" then (1 : ℚ) else -1) = lot.side.sign := by
  unfold ofLot
  cases lot.side <;> simp [sideText, Side.sign]

namespace PositionManager

/-- The positions with the holding of one symbol replaced. -/
def write (positions : Dict String HeldPosition) (symbol : String) :
    Holding ℚ → Dict String HeldPosition
  | none => positions.erase symbol
  | some lot => positions.set symbol (.ofLot lot)

variable {positions : Dict String HeldPosition} {symbol : String} {h : Holding ℚ}

theorem get?_write (h : Holding ℚ) :
    (write positions symbol h).get? symbol = h.map .ofLot := by
  cases h <;> simp [write]

/-- A fill against an open entry closes what it can of it. -/
theorem updatePosition_against {p : HeldPosition} {side : String}
    (held : positions.get? symbol = some p) (nonzero : p.qty ≠ 0) (against : p.side ≠ side)
    (qty : ℤ) (price : ℚ) :
    (⟨positions⟩ : PositionManager).updatePosition symbol side qty price =
      (.ok ((price - p.avgPrice) * (min p.qty qty : ℤ) * 250000 *
          (if p.side = "BUY" then 1 else -1)),
        ⟨if p.qty - min p.qty qty ≠ 0 then
            positions.set symbol { p with qty := p.qty - min p.qty qty }
          else positions.erase symbol⟩) := by
  simp only [updatePosition, held, Option.getD_some, nonzero, against, or_self, if_false]
  split <;> rfl

/-- One fill on an entry that stands for a holding is absorbed by the holding. -/
theorem updatePosition_ofHolding (held : positions.get? symbol = h.map .ofLot) (t : Trade ℚ) :
    (⟨positions⟩ : PositionManager).updatePosition symbol (sideText t.side) t.size t.price =
      (.ok (250000 * h.booked t), ⟨write positions symbol (h.absorb t)⟩) := by
  have size : (t.size : ℚ) ≠ 0 := Int.cast_ne_zero.mpr t.size_pos.ne'
  cases h with
  | none =>
    simp [updatePosition, held, t.size_pos.ne', size, write, Holding.absorb, Holding.Fits,
      Holding.fill, HeldPosition.ofLot]
  | some lot =>
    by_cases same : t.side = lot.side
    · have total := (add_pos lot.size_pos t.size_pos).ne'
      rw [Holding.absorb_same lot t same, Holding.fill_same lot t same, Holding.booked_some,
        Holding.closed_same lot t same]
      simp [updatePosition, held, HeldPosition.ofLot, same, total, write, Holding.averageCost]
    · have against : sideText lot.side ≠ sideText t.side := mt sideText_inj.mp (Ne.symm same)
      rw [updatePosition_against held lot.size_pos.ne' against, HeldPosition.sign_ofLot,
        Holding.booked_some, Holding.closed_against lot t same]
      simp only [HeldPosition.ofLot]
      have pnl : (t.price - lot.cost) * (min lot.size t.size : ℤ) * 250000 * lot.side.sign =
          250000 * ((min t.size lot.size : ℤ) * (t.price - lot.cost) * lot.side.sign) := by
        rw [min_comm]
        ring
      rw [pnl]
      rcases lt_or_ge t.size lot.size with smaller | closes
      · rw [Holding.absorb_smaller lot t smaller, Holding.fill_smaller lot t same smaller]
        simp [min_eq_right smaller.le, sub_ne_zero.mpr smaller.ne', write, HeldPosition.ofLot]
      · rw [Holding.absorb_closed lot t same closes]
        simp [min_eq_left closes, write]

/-- A run of fills on one symbol. -/
def updatePositions (self : PositionManager) (symbol : String) :
    List (Trade ℚ) → Except Raised PositionManager
  | [] => .ok self
  | fill :: rest =>
    match self.updatePosition symbol (sideText fill.side) fill.size fill.price with
    | (.error e, _) => .error e
    | (.ok _, next) => next.updatePositions symbol rest

theorem updatePositions_ofHolding (held : positions.get? symbol = h.map .ofLot)
    (fills : List (Trade ℚ)) :
    ∃ after, (⟨positions⟩ : PositionManager).updatePositions symbol fills = .ok ⟨after⟩ ∧
      after.get? symbol = (h.absorbed fills).map .ofLot := by
  induction fills generalizing positions h with
  | nil => exact ⟨positions, rfl, held⟩
  | cons fill rest ih =>
    simp only [updatePositions, updatePosition_ofHolding held]
    exact ih (get?_write _)

end PositionManager

/-! ## The aggregate -/

/-- Floats that compute exactly. -/
def exactFloat : FloatArithmetic ℚ where
  ofDecimal := id
  scale price quantity := .ok (price * quantity)
  add := (· + ·)
  divide amount quantity :=
    if quantity = 0 then .error ⟨.zeroDivisionError, "float division by zero"⟩
    else .ok (amount / quantity)

namespace VirtualPositionAggregate

/-- The aggregate of an instrument that stands for a holding. -/
def ofHolding (instrumentId : String) : Holding ℚ → VirtualPositionAggregate ℚ
  | none => { instrumentId }
  | some lot => ⟨instrumentId, some (sideText lot.side), lot.size, some lot.cost⟩

/-- One fill on the aggregate is one trade on the holding it stands for. -/
theorem applyFill_ofHolding (instrumentId : String) (h : Holding ℚ) (t : Trade ℚ) :
    (ofHolding instrumentId h).applyFill exactFloat (sideText t.side) t.size (some t.price) =
      (.ok (), ofHolding instrumentId (h.fill t)) := by
  have named : sideText t.side ≠ "" := by cases t.side <;> decide
  have valid : sideText t.side ∈ ["BUY", "SELL"] := by cases t.side <;> decide
  unfold applyFill
  rw [if_neg named, if_neg (not_not.mpr valid), if_neg (not_le.mpr t.size_pos)]
  cases h with
  | none => rfl
  | some lot =>
    have nonzero := lot.size_pos.ne'
    by_cases same : t.side = lot.side
    · have total := (add_pos lot.size_pos t.size_pos).ne'
      rw [Holding.fill_same lot t same]
      simp [ofHolding, nonzero, same, averagePrice, exactFloat, total, Holding.averageCost, bind,
        Except.bind]
    · have apart : sideText lot.side ≠ sideText t.side := mt sideText_inj.mp (Ne.symm same)
      rcases lt_trichotomy t.size lot.size with smaller | equal | larger
      · rw [Holding.fill_smaller lot t same smaller]
        simp [ofHolding, nonzero, apart, smaller]
      · rw [Holding.fill_equal lot t same equal]
        simp [ofHolding, nonzero, apart, equal]
      · rw [Holding.fill_larger lot t same larger]
        simp [ofHolding, nonzero, apart, larger.not_gt, larger.ne']

/-- A run of fills. -/
def applyFills (self : VirtualPositionAggregate ℚ) :
    List (Trade ℚ) → Except Raised (VirtualPositionAggregate ℚ)
  | [] => .ok self
  | fill :: rest =>
    match self.applyFill exactFloat (sideText fill.side) fill.size (some fill.price) with
    | (.error e, _) => .error e
    | (.ok _, next) => next.applyFills rest

theorem applyFills_ofHolding (instrumentId : String) (h : Holding ℚ) (fills : List (Trade ℚ)) :
    (ofHolding instrumentId h).applyFills fills = .ok (ofHolding instrumentId (h.after fills)) := by
  induction fills generalizing h with
  | nil => rfl
  | cons fill rest ih =>
    simp only [applyFills, applyFill_ofHolding]
    exact ih (h.fill fill)

end VirtualPositionAggregate

/-! ## Agreement -/

/-- The entry of a symbol has the side, the quantity and the average price that the aggregate
holds, and is absent when the aggregate is flat. -/
def SameBook (manager : PositionManager) (symbol : String)
    (aggregate : VirtualPositionAggregate ℚ) : Prop :=
  let entry := manager.positions.get? symbol
  aggregate.side = entry.map (·.side) ∧ aggregate.qty = (entry.map (·.qty)).getD 0 ∧
    aggregate.avgPrice = entry.map (·.avgPrice)

theorem sameBook_ofHolding {manager : PositionManager} {symbol : String} {h h' : Holding ℚ}
    (held : manager.positions.get? symbol = h.map .ofLot) (instrumentId : String) :
    SameBook manager symbol (.ofHolding instrumentId h') ↔ h = h' := by
  unfold SameBook
  rw [held]
  cases h with
  | none => cases h' <;> simp [VirtualPositionAggregate.ofHolding]
  | some lot =>
    cases h' with
    | none => simp [VirtualPositionAggregate.ofHolding]
    | some lot' =>
      obtain ⟨side, size, cost, -, -⟩ := lot
      obtain ⟨side', size', cost', -, -⟩ := lot'
      simp only [Option.map_some, VirtualPositionAggregate.ofHolding, HeldPosition.ofLot,
        Option.getD_some, Option.some.injEq, sideText_inj, Lot.mk.injEq]
      constructor
      · rintro ⟨sides, sizes, costs⟩
        exact ⟨sides.symm, sizes.symm, costs.symm⟩
      · rintro ⟨sides, sizes, costs⟩
        exact ⟨sides.symm, sizes.symm, costs.symm⟩

/-- The fill is against the position, and larger. -/
def VirtualPositionAggregate.Exceeded (self : VirtualPositionAggregate ℚ) (fill : Trade ℚ) :
    Prop :=
  self.side ≠ none ∧ self.side ≠ some (sideText fill.side) ∧ self.qty < fill.size

theorem exceeded_ofHolding (instrumentId : String) (h : Holding ℚ) (fill : Trade ℚ) :
    (VirtualPositionAggregate.ofHolding instrumentId h).Exceeded fill ↔ ¬h.Fits fill := by
  cases h with
  | none => simp [VirtualPositionAggregate.Exceeded, VirtualPositionAggregate.ofHolding,
      Holding.Fits]
  | some lot =>
    simp only [VirtualPositionAggregate.Exceeded, VirtualPositionAggregate.ofHolding,
      Holding.Fits, ne_eq, reduceCtorEq, not_false_eq_true, true_and, Option.some.injEq,
      sideText_inj, not_or, not_le, eq_comm]

/-- Both books take every run of fills, and agree after each fill of it exactly when no fill
of the run is against the position and larger. -/
theorem sameBook_iff (symbol instrumentId : String) (fills : List (Trade ℚ)) :
    (∀ before, before <+: fills → ∃ manager aggregate,
      ({} : PositionManager).updatePositions symbol before = .ok manager ∧
      ({ instrumentId } : VirtualPositionAggregate ℚ).applyFills before = .ok aggregate ∧
      SameBook manager symbol aggregate) ↔
    ∀ before fill aggregate, before ++ [fill] <+: fills →
      ({ instrumentId } : VirtualPositionAggregate ℚ).applyFills before = .ok aggregate →
      ¬aggregate.Exceeded fill := by
  have standard (before : List (Trade ℚ)) :
      ({ instrumentId } : VirtualPositionAggregate ℚ).applyFills before =
        .ok (.ofHolding instrumentId (Holding.after none before)) :=
    VirtualPositionAggregate.applyFills_ofHolding instrumentId none before
  have managed (before : List (Trade ℚ)) := @PositionManager.updatePositions_ofHolding
    Dict.empty symbol none rfl before
  have agree : (∀ before, before <+: fills → ∃ manager aggregate,
      ({} : PositionManager).updatePositions symbol before = .ok manager ∧
      ({ instrumentId } : VirtualPositionAggregate ℚ).applyFills before = .ok aggregate ∧
      SameBook manager symbol aggregate) ↔
      ∀ before, before <+: fills →
        Holding.absorbed (none : Holding ℚ) before = Holding.after none before := by
    refine forall₂_congr fun before _ => ?_
    obtain ⟨after, returned, held⟩ := managed before
    constructor
    · rintro ⟨manager, aggregate, returned', standard', same⟩
      cases returned.symm.trans returned'
      cases (standard before).symm.trans standard'
      exact (sameBook_ofHolding held instrumentId).mp same
    · intro same
      exact ⟨_, _, returned, standard before, (sameBook_ofHolding held instrumentId).mpr same⟩
  rw [agree, Holding.absorbed_eq_after_iff]
  constructor
  · intro fits before fill aggregate le returned
    cases (standard before).symm.trans returned
    rw [exceeded_ofHolding, not_not]
    exact fits before fill le
  · intro fits before fill le
    have within := fits before fill _ le (standard before)
    rwa [exceeded_ofHolding, not_not] at within

/-- Buying 1 and then selling 2: the firm's book is flat, the aggregate is short 1. -/
theorem books_differ :
    let fills : List (Trade ℚ) := [⟨.buy, 1, 100, by decide, by decide +kernel⟩,
      ⟨.sell, 2, 100, by decide, by decide +kernel⟩]
    ∃ manager aggregate,
      ({} : PositionManager).updatePositions "OPTION_X" fills = .ok manager ∧
      ({ instrumentId := "OPTION_X" } : VirtualPositionAggregate ℚ).applyFills fills =
        .ok aggregate ∧
      manager.positions.get? "OPTION_X" = none ∧ aggregate.side = some "SELL" ∧
      aggregate.qty = 1 ∧ ¬SameBook manager "OPTION_X" aggregate := by
  refine ⟨_, _, rfl, rfl, by decide +kernel, by decide +kernel, by decide +kernel, ?_⟩
  unfold SameBook
  decide +kernel

end OptionProject.Virtual
