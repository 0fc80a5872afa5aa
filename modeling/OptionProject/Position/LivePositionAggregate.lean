import OptionProject.Contracts.Types

/-!
# The live position aggregate

`environments/live/position/live_position_aggregate.py`: the authoritative side, quantity
and average price of one instrument. The aggregate is shown to carry out the abstract
average-cost holdings, and the accounting facts of holdings are read back for it.

## Main definitions

* `LivePositionAggregate.applyFill` — one fill, with the checks and branches of the source.
* `LivePositionAggregate.applyFills` — a run of well-formed fills.
* `LivePositionAggregate.ofHolding` — the aggregate that stands for a holding.
-/
namespace OptionProject.Position
open Library Contracts

structure LivePositionAggregate where
  instrumentId : String
  side : Option Side := none
  qty : ℤ := 0
  avgPrice : Option ℚ := none
  deriving DecidableEq

namespace LivePositionAggregate

def create (instrumentId : String) : Except Raised LivePositionAggregate :=
  let instrumentId := strip instrumentId
  if instrumentId = "" then .error ⟨.valueError, "INSTRUMENT_ID_REQUIRED"⟩
  else .ok { instrumentId }

def applyFill (self : LivePositionAggregate) (side : String) (quantity : ℤ) (price : ℚ) :
    Except Raised LivePositionAggregate :=
  match sideOf? side with
  | none => .error ⟨.valueError, "SIDE_INVALID"⟩
  | some side =>
    if quantity ≤ 0 then .error ⟨.valueError, "QUANTITY_INVALID"⟩
    else if price ≤ 0 then .error ⟨.valueError, "PRICE_INVALID"⟩
    else
      match self.side with
      | none => .ok { self with side := some side, qty := quantity, avgPrice := some price }
      | some held =>
        if self.qty = 0 then
          .ok { self with side := some side, qty := quantity, avgPrice := some price }
        else if side = held then
          match self.avgPrice with
          | none => .error ⟨.typeError,
              "unsupported operand type(s) for *: 'NoneType' and 'int'"⟩
          | some avgPrice => .ok { self with
              avgPrice := some ((avgPrice * self.qty + price * quantity) / (self.qty + quantity))
              qty := self.qty + quantity }
        else if quantity < self.qty then .ok { self with qty := self.qty - quantity }
        else if quantity = self.qty then
          .ok { self with side := none, qty := 0, avgPrice := none }
        else .ok { self with
          side := some side, qty := quantity - self.qty, avgPrice := some price }

/-! ## Refinement of holdings -/

/-- The aggregate of an instrument that stands for a holding. -/
def ofHolding (instrumentId : String) : Holding ℚ → LivePositionAggregate
  | none => { instrumentId }
  | some lot => ⟨instrumentId, some lot.side, lot.size, some lot.cost⟩

/-- One fill on the aggregate is one trade on the holding it stands for. -/
theorem applyFill_ofHolding (instrumentId : String) (h : Holding ℚ) (t : Trade ℚ) :
    (ofHolding instrumentId h).applyFill (sideText t.side) t.size t.price =
      .ok (ofHolding instrumentId (h.fill t)) := by
  have size := not_le.mpr t.size_pos
  have price := not_le.mpr t.price_pos
  cases h with
  | none => simp [applyFill, ofHolding, Holding.fill, size, price]
  | some lot =>
    have nonzero := lot.size_pos.ne'
    by_cases same : t.side = lot.side
    · rw [Holding.fill_same lot t same]
      simp [applyFill, ofHolding, size, price, nonzero, same, Holding.averageCost]
    · rcases lt_trichotomy t.size lot.size with smaller | equal | larger
      · rw [Holding.fill_smaller lot t same smaller]
        simp [applyFill, ofHolding, size, price, nonzero, same, smaller]
      · rw [Holding.fill_equal lot t same equal]
        simp [applyFill, ofHolding, price, nonzero, same, equal, lot.size_pos]
      · rw [Holding.fill_larger lot t same larger]
        simp [applyFill, ofHolding, size, price, nonzero, same, larger.not_gt, larger.ne']

/-- The run of a list of fills, stopping at the first one that raises. -/
def applyFills (self : LivePositionAggregate) (fills : List (Trade ℚ)) :
    Except Raised LivePositionAggregate :=
  fills.foldlM (fun agg fill => agg.applyFill (sideText fill.side) fill.size fill.price) self

theorem applyFills_ofHolding (instrumentId : String) (h : Holding ℚ) (fills : List (Trade ℚ)) :
    (ofHolding instrumentId h).applyFills fills =
      .ok (ofHolding instrumentId (h.after fills)) := by
  induction fills generalizing h with
  | nil => rfl
  | cons fill rest ih =>
    rw [applyFills, List.foldlM_cons, applyFill_ofHolding]
    exact ih (h.fill fill)

/-! ## Accounting -/

/-- `qty` for BUY, `-qty` for SELL. -/
def signedQty (self : LivePositionAggregate) : ℤ :=
  match self.side with
  | none => 0
  | some held => held.sign * self.qty

/-- Open profit at a mark price. -/
def openPnl (self : LivePositionAggregate) (mark : ℚ) : ℚ :=
  match self.avgPrice with
  | none => 0
  | some avgPrice => self.signedQty * (mark - avgPrice)

/-- The quantity of a fill that closes what is held. -/
def closedQuantity (self : LivePositionAggregate) (fill : Trade ℚ) : ℤ :=
  match self.side with
  | none => 0
  | some held => if fill.side = held then 0 else min fill.size self.qty

/-- Closed quantity times price against average price, signed by the held side. -/
def bookedPnl (self : LivePositionAggregate) (fill : Trade ℚ) : ℚ :=
  match self.side, self.avgPrice with
  | some held, some avgPrice =>
    self.closedQuantity fill * (fill.price - avgPrice) * held.sign
  | _, _ => 0

/-- The profit a run of fills books in total. -/
def realisedPnl : LivePositionAggregate → List (Trade ℚ) → ℚ
  | _, [] => 0
  | self, fill :: rest =>
    self.bookedPnl fill +
      match self.applyFill (sideText fill.side) fill.size fill.price with
      | .ok next => next.realisedPnl rest
      | .error _ => 0

@[simp] theorem signedQty_ofHolding (instrumentId : String) (h : Holding ℚ) :
    (ofHolding instrumentId h).signedQty = h.net := by cases h <;> rfl

theorem openPnl_ofHolding (instrumentId : String) (h : Holding ℚ) (mark : ℚ) :
    (ofHolding instrumentId h).openPnl mark = h.net * mark - h.basis := by
  cases h with
  | none => simp [openPnl, ofHolding]
  | some lot =>
    simp only [openPnl, signedQty_ofHolding]
    simp only [ofHolding, Holding.net_some, Holding.basis_some]
    push_cast
    ring

@[simp] theorem bookedPnl_ofHolding (instrumentId : String) (h : Holding ℚ) (fill : Trade ℚ) :
    (ofHolding instrumentId h).bookedPnl fill = h.booked fill := by cases h <;> rfl

theorem realisedPnl_ofHolding (instrumentId : String) (h : Holding ℚ)
    (fills : List (Trade ℚ)) :
    (ofHolding instrumentId h).realisedPnl fills = h.totalBooked fills := by
  induction fills generalizing h with
  | nil => rfl
  | cons fill rest ih =>
    simp only [realisedPnl, applyFill_ofHolding, bookedPnl_ofHolding, Holding.totalBooked, ih]

/-- Quantity, side and average price are present together, and positive when present. -/
structure WellFormed (self : LivePositionAggregate) : Prop where
  qty_nonneg : 0 ≤ self.qty
  qty_eq_zero_iff : self.qty = 0 ↔ self.side = none
  side_eq_none_iff : self.side = none ↔ self.avgPrice = none
  avgPrice_pos : ∀ avgPrice, self.avgPrice = some avgPrice → 0 < avgPrice

theorem wellFormed_ofHolding (instrumentId : String) (h : Holding ℚ) :
    (ofHolding instrumentId h).WellFormed := by
  cases h with
  | none => constructor <;> simp [ofHolding]
  | some lot =>
    refine ⟨lot.size_pos.le, ?_, by simp [ofHolding], ?_⟩
    · simpa [ofHolding] using lot.size_pos.ne'
    · rintro avgPrice ⟨⟩
      exact lot.cost_pos

/-- A run of fills from a fresh aggregate never raises and accounts for every fill: the
stored fields fit together, the signed quantity is the sum of the signed fills, and booked
plus open profit at any mark is what the fills earn at that mark. Every prefix of a run is
a run, so this holds after each fill. -/
theorem applyFills_accounts (instrumentId : String) (fills : List (Trade ℚ)) :
    ∃ agg, ({ instrumentId } : LivePositionAggregate).applyFills fills = .ok agg ∧
      agg.WellFormed ∧
      agg.signedQty = (fills.map Trade.signed).sum ∧
      ∀ mark : ℚ, ({ instrumentId } : LivePositionAggregate).realisedPnl fills +
        agg.openPnl mark = (fills.map fun fill => (fill.signed : ℚ) * (mark - fill.price)).sum := by
  refine ⟨ofHolding instrumentId (Holding.after none fills),
    applyFills_ofHolding instrumentId none fills, wellFormed_ofHolding _ _, ?_, fun mark => ?_⟩
  · rw [signedQty_ofHolding, Holding.net_after, Holding.net_none, zero_add]
  · rw [openPnl_ofHolding, show ({ instrumentId } : LivePositionAggregate) =
      ofHolding instrumentId none from rfl, realisedPnl_ofHolding]
    exact Holding.marked_conserved fills mark

/-! ## Divided fills -/

/-- What fills have made of a new aggregate stands for a holding. -/
theorem exists_ofHolding {raw : String} {fresh self : LivePositionAggregate}
    {fills : List (Trade ℚ)} (created : create raw = .ok fresh)
    (reached : fresh.applyFills fills = .ok self) :
    ∃ h, self = ofHolding (strip raw) h := by
  unfold create at created
  rw [ite_error_eq_ok] at created
  obtain ⟨-, ⟨⟩⟩ := created
  have standing := applyFills_ofHolding (strip raw) none fills
  cases reached.symm.trans standing
  exact ⟨_, rfl⟩

/-- From every position that fills have led to, two fills of one side at one price do what one fill
of both quantities does. -/
theorem applyFill_divided {raw : String} {fresh self : LivePositionAggregate}
    {fills : List (Trade ℚ)} (created : create raw = .ok fresh)
    (reached : fresh.applyFills fills = .ok self) (side : Side) {first second : ℤ} {price : ℚ}
    (first_pos : 0 < first) (second_pos : 0 < second) (price_pos : 0 < price) :
    ∃ next, self.applyFill (sideText side) (first + second) price = .ok next ∧
      (do (← self.applyFill (sideText side) first price).applyFill (sideText side) second price) =
        .ok next := by
  obtain ⟨h, rfl⟩ := exists_ofHolding created reached
  let one : Trade ℚ := ⟨side, first, price, first_pos, price_pos⟩
  let other : Trade ℚ := ⟨side, second, price, second_pos, price_pos⟩
  let both : Trade ℚ := ⟨side, first + second, price, add_pos first_pos second_pos, price_pos⟩
  have merges : both.Merges [one, other] := by
    refine ⟨by simp [one, other, both], by simp [totalSize, one, other, both], ?_⟩
    simp only [totalWorth, List.map_cons, List.map_nil, List.sum_cons, List.sum_nil, one, other,
      both]
    push_cast
    ring
  have divided : h.after [one, other] = h.fill both :=
    Holding.after_eq_fill_of_priced merges (by simp [one, other, both])
  refine ⟨_, applyFill_ofHolding (strip raw) h both, ?_⟩
  have fills := applyFills_ofHolding (strip raw) h [one, other]
  rw [divided] at fills
  simpa only [applyFills, List.foldlM_cons, List.foldlM_nil, bind_pure] using fills

/-- Three are held; a sale of five is divided into three, which closes them, and two. -/
theorem applyFill_divided_crossing :
    let self : LivePositionAggregate := ⟨"I1", some .buy, 3, some 100⟩
    ∃ next, self.applyFill (sideText .sell) (3 + 2) 90 = .ok next ∧
      (do (← self.applyFill (sideText .sell) 3 90).applyFill (sideText .sell) 2 90) = .ok next :=
  @applyFill_divided "I1" { instrumentId := "I1" } ⟨"I1", some .buy, 3, some 100⟩
    [⟨.buy, 3, 100, by decide, by decide⟩] (by decide +kernel) (by decide +kernel) .sell 3 2 90
    (by decide) (by decide) (by decide)

end LivePositionAggregate

end OptionProject.Position
