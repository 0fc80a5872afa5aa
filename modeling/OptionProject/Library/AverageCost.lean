import Mathlib.Algebra.Order.Field.Basic
import Mathlib.Algebra.BigOperators.Group.List.Basic
import Mathlib.Data.List.Induction
import Mathlib.Data.List.Infix
import Mathlib.Data.Int.ConditionallyCompleteOrder
import Mathlib.Tactic.FieldSimp
import Mathlib.Tactic.Linarith
import Mathlib.Tactic.Ring

/-!
# Average-cost holdings

A holding in one instrument under average-cost accounting: flat, or one lot with a side,
a positive size and a positive average cost. Trades on the side of the lot average its
cost, trades against it close at the old cost and may flip it. Prices live in an arbitrary
ordered field, so that every division is exact.

## Main results

* `Holding.net_fill` — the signed size adds up.
* `Holding.basis_fill` — what a trade adds to signed size times cost is its own value and
  the profit it books.
* `Holding.marked_conserved` — booked profit plus the open profit at any mark is the sum
  over all trades of their own profit at that mark.
* `Holding.absorbed_eq_after_iff` — when a book that drops what exceeds the lot keeps up.
* `Holding.after_eq_fill`, `Holding.after_eq_fill_of_priced` — when trades of one side do what one
  trade for all of them does.
-/
namespace OptionProject.Library

inductive Side
  | buy
  | sell
  deriving DecidableEq, Repr

def Side.sign : Side → ℤ
  | .buy => 1
  | .sell => -1

theorem Side.sign_of_ne {s t : Side} (ne : s ≠ t) : s.sign = -t.sign := by
  cases s <;> cases t <;> simp_all [sign]

variable {K : Type*} [Field K] [LinearOrder K]

/-- One executed trade. -/
structure Trade (K : Type*) [Field K] [LinearOrder K] where
  side : Side
  size : ℤ
  price : K
  size_pos : 0 < size
  price_pos : 0 < price

def Trade.signed (t : Trade K) : ℤ := t.side.sign * t.size

/-- An open lot. -/
structure Lot (K : Type*) [Field K] [LinearOrder K] where
  side : Side
  size : ℤ
  cost : K
  size_pos : 0 < size
  cost_pos : 0 < cost

/-- Flat, or one open lot. -/
abbrev Holding (K : Type*) [Field K] [LinearOrder K] := Option (Lot K)

namespace Holding

/-- Signed size, zero when flat. -/
def net : Holding K → ℤ
  | none => 0
  | some lot => lot.side.sign * lot.size

/-- Signed size times cost, zero when flat. -/
def basis : Holding K → K
  | none => 0
  | some lot => ((lot.side.sign * lot.size : ℤ) : K) * lot.cost

/-- How much of the holding a trade closes. -/
def closed : Holding K → Trade K → ℤ
  | none, _ => 0
  | some lot, t => if t.side = lot.side then 0 else min t.size lot.size

/-- The profit a trade books: what it closes, at its price against the cost. -/
def booked : Holding K → Trade K → K
  | none, _ => 0
  | some lot, t => closed (some lot) t * (t.price - lot.cost) * lot.side.sign

@[simp] theorem net_none : net (none : Holding K) = 0 := rfl
@[simp] theorem net_some (lot : Lot K) : net (some lot) = lot.side.sign * lot.size := rfl
@[simp] theorem basis_none : basis (none : Holding K) = 0 := rfl
@[simp] theorem basis_some (lot : Lot K) :
    basis (some lot) = (lot.side.sign : K) * lot.size * lot.cost := by simp [basis]
@[simp] theorem booked_none (t : Trade K) : booked none t = 0 := rfl
@[simp] theorem booked_some (lot : Lot K) (t : Trade K) :
    booked (some lot) t = closed (some lot) t * (t.price - lot.cost) * lot.side.sign := rfl

theorem closed_same (lot : Lot K) (t : Trade K) (same : t.side = lot.side) :
    closed (some lot) t = 0 := by simp [closed, same]

theorem closed_against (lot : Lot K) (t : Trade K) (against : t.side ≠ lot.side) :
    closed (some lot) t = min t.size lot.size := by simp [closed, against]

variable [IsStrictOrderedRing K]

/-- The size-weighted mean of the lot's cost and the trade's price. -/
def averageCost (lot : Lot K) (t : Trade K) : K :=
  (lot.cost * lot.size + t.price * t.size) / (lot.size + t.size)

theorem averageCost_pos (lot : Lot K) (t : Trade K) : 0 < averageCost lot t := by
  have lot_size : (0 : K) < lot.size := Int.cast_pos.mpr lot.size_pos
  have size : (0 : K) < t.size := Int.cast_pos.mpr t.size_pos
  exact div_pos (add_pos (mul_pos lot.cost_pos lot_size) (mul_pos t.price_pos size))
    (add_pos lot_size size)

def fill : Holding K → Trade K → Holding K
  | none, t => some ⟨t.side, t.size, t.price, t.size_pos, t.price_pos⟩
  | some lot, t =>
    if t.side = lot.side then
      some ⟨lot.side, lot.size + t.size, averageCost lot t,
        add_pos lot.size_pos t.size_pos, averageCost_pos lot t⟩
    else if smaller : t.size < lot.size then
      some ⟨lot.side, lot.size - t.size, lot.cost, sub_pos.mpr smaller, lot.cost_pos⟩
    else if larger : lot.size < t.size then
      some ⟨t.side, t.size - lot.size, t.price, sub_pos.mpr larger, t.price_pos⟩
    else none

section Branches

variable (lot : Lot K) (t : Trade K)

theorem fill_same (same : t.side = lot.side) :
    fill (some lot) t = some ⟨lot.side, lot.size + t.size, averageCost lot t,
      add_pos lot.size_pos t.size_pos, averageCost_pos lot t⟩ := by simp [fill, same]

theorem fill_smaller (against : t.side ≠ lot.side) (smaller : t.size < lot.size) :
    fill (some lot) t =
      some ⟨lot.side, lot.size - t.size, lot.cost, sub_pos.mpr smaller, lot.cost_pos⟩ := by
  simp [fill, against, smaller]

theorem fill_larger (against : t.side ≠ lot.side) (larger : lot.size < t.size) :
    fill (some lot) t =
      some ⟨t.side, t.size - lot.size, t.price, sub_pos.mpr larger, t.price_pos⟩ := by
  simp [fill, against, larger, larger.le]

theorem fill_equal (against : t.side ≠ lot.side) (equal : t.size = lot.size) :
    fill (some lot) t = none := by simp [fill, against, equal]

end Branches

theorem net_fill (h : Holding K) (t : Trade K) : (h.fill t).net = h.net + t.signed := by
  cases h with
  | none => simp [fill, Trade.signed]
  | some lot =>
    by_cases same : t.side = lot.side
    · rw [fill_same lot t same, net_some, net_some, Trade.signed, same]
      ring
    · have opposite := Side.sign_of_ne same
      rcases lt_trichotomy t.size lot.size with smaller | equal | larger
      · rw [fill_smaller lot t same smaller, net_some, net_some, Trade.signed, opposite]
        ring
      · rw [fill_equal lot t same equal, net_none, net_some, Trade.signed, opposite, equal]
        ring
      · rw [fill_larger lot t same larger, net_some, net_some, Trade.signed, opposite]
        ring

theorem basis_fill (h : Holding K) (t : Trade K) :
    (h.fill t).basis = h.basis + t.signed * t.price + h.booked t := by
  cases h with
  | none => simp [fill, Trade.signed]
  | some lot =>
    by_cases same : t.side = lot.side
    · have total : (lot.size : K) + t.size ≠ 0 := by
        have size := add_pos lot.size_pos t.size_pos
        exact_mod_cast size.ne'
      rw [fill_same lot t same, basis_some, basis_some, booked_some, closed_same lot t same,
        Trade.signed, same]
      simp only [averageCost]
      push_cast
      field_simp
      ring
    · have opposite := Side.sign_of_ne same
      rw [booked_some, closed_against lot t same, Trade.signed, opposite]
      rcases lt_trichotomy t.size lot.size with smaller | equal | larger
      · rw [fill_smaller lot t same smaller, min_eq_left smaller.le, basis_some, basis_some]
        push_cast
        ring
      · rw [fill_equal lot t same equal, equal, min_self, basis_none, basis_some]
        push_cast
        ring
      · rw [fill_larger lot t same larger, min_eq_right larger.le, basis_some, basis_some,
          opposite]
        push_cast
        ring

/-! ## Runs of trades -/

/-- The holding a list of trades leaves, from a given one. -/
def after (h : Holding K) (trades : List (Trade K)) : Holding K := trades.foldl fill h

/-- The profit all trades of a list book. -/
def totalBooked : Holding K → List (Trade K) → K
  | _, [] => 0
  | h, t :: rest => h.booked t + totalBooked (h.fill t) rest

theorem net_after (h : Holding K) (trades : List (Trade K)) :
    (h.after trades).net = h.net + (trades.map Trade.signed).sum := by
  induction trades generalizing h with
  | nil => simp [after]
  | cons t rest ih =>
    have step := ih (h.fill t)
    rw [net_fill] at step
    simpa [after, add_assoc] using step

theorem basis_after (h : Holding K) (trades : List (Trade K)) :
    (h.after trades).basis = h.basis +
      (trades.map fun t => (t.signed : K) * t.price).sum + h.totalBooked trades := by
  induction trades generalizing h with
  | nil => simp [after, totalBooked]
  | cons t rest ih =>
    have step := ih (h.fill t)
    rw [basis_fill] at step
    simp only [after, List.foldl_cons, List.map_cons, List.sum_cons, totalBooked] at step ⊢
    rw [step]
    ring

omit [LinearOrder K] [IsStrictOrderedRing K] in
/-- What quantities earn at a mark is their sum at the mark, less what they were worth. -/
theorem sum_marked {α : Type*} (quantity : α → ℤ) (price : α → K) (mark : K) (items : List α) :
    (items.map fun a => (quantity a : K) * (mark - price a)).sum =
      ((items.map quantity).sum : ℤ) * mark -
        (items.map fun a => (quantity a : K) * price a).sum := by
  induction items with
  | nil => simp
  | cons a rest ih =>
    simp only [List.map_cons, List.sum_cons, ih]
    push_cast
    ring

/-- Booked and open profit together are what the trades earn one by one at the mark. -/
theorem marked_conserved (trades : List (Trade K)) (mark : K) :
    totalBooked none trades + (((after none trades).net : K) * mark - (after none trades).basis) =
      (trades.map fun t => (t.signed : K) * (mark - t.price)).sum := by
  have net := net_after (none : Holding K) trades
  have basis := basis_after (none : Holding K) trades
  rw [net_none, zero_add] at net
  rw [basis_none, zero_add] at basis
  rw [net, basis, sum_marked Trade.signed Trade.price]
  ring

/-! ## Books that only close -/

/-- The trade leaves nothing over when it closes the lot. -/
def Fits : Holding K → Trade K → Prop
  | none, _ => True
  | some lot, t => t.side = lot.side ∨ t.size ≤ lot.size

instance (h : Holding K) (t : Trade K) : Decidable (h.Fits t) :=
  match h with
  | none => isTrue trivial
  | some lot => inferInstanceAs (Decidable (t.side = lot.side ∨ t.size ≤ lot.size))

/-- Like `fill`, but what a trade has left after closing the lot is dropped. -/
def absorb (h : Holding K) (t : Trade K) : Holding K := if h.Fits t then h.fill t else none

theorem absorb_of_fits {h : Holding K} {t : Trade K} (fits : h.Fits t) :
    h.absorb t = h.fill t := by simp [absorb, fits]

theorem absorb_same (lot : Lot K) (t : Trade K) (same : t.side = lot.side) :
    absorb (some lot) t = fill (some lot) t := absorb_of_fits (.inl same)

theorem absorb_smaller (lot : Lot K) (t : Trade K) (smaller : t.size < lot.size) :
    absorb (some lot) t = fill (some lot) t := absorb_of_fits (.inr smaller.le)

theorem absorb_closed (lot : Lot K) (t : Trade K) (against : t.side ≠ lot.side)
    (closes : lot.size ≤ t.size) : absorb (some lot) t = none := by
  unfold absorb
  split
  next fits => exact fill_equal lot t against (le_antisymm (fits.resolve_left against) closes)
  next => rfl

/-- A trade that does not fit leaves an open lot where `absorb` leaves none. -/
theorem absorb_eq_fill_iff {h : Holding K} {t : Trade K} : h.absorb t = h.fill t ↔ h.Fits t := by
  refine ⟨fun same => ?_, absorb_of_fits⟩
  by_contra exceeds
  cases h with
  | none => exact exceeds trivial
  | some lot =>
    obtain ⟨against, larger⟩ := not_or.mp exceeds
    rw [absorb_closed lot t against (not_le.mp larger).le,
      fill_larger lot t against (not_le.mp larger)] at same
    cases same

def absorbed (h : Holding K) (trades : List (Trade K)) : Holding K := trades.foldl absorb h

theorem absorbed_concat (h : Holding K) (trades : List (Trade K)) (t : Trade K) :
    h.absorbed (trades ++ [t]) = (h.absorbed trades).absorb t := by simp [absorbed]

theorem after_concat (h : Holding K) (trades : List (Trade K)) (t : Trade K) :
    h.after (trades ++ [t]) = (h.after trades).fill t := by simp [after]

/-- The two books agree all along a run exactly when every trade of it fits. -/
theorem absorbed_eq_after_iff (h : Holding K) (trades : List (Trade K)) :
    (∀ before, before <+: trades → h.absorbed before = h.after before) ↔
      ∀ before t, before ++ [t] <+: trades → (h.after before).Fits t := by
  constructor
  · intro agree before t le
    have earlier := agree before ((List.prefix_append before [t]).trans le)
    have next := agree _ le
    rw [absorbed_concat, after_concat, earlier] at next
    exact absorb_eq_fill_iff.mp next
  · intro fits before le
    induction before using List.reverseRecOn with
    | nil => rfl
    | append_singleton before t ih =>
      rw [absorbed_concat, after_concat, ih ((List.prefix_append before [t]).trans le)]
      exact absorb_of_fits (fits before t le)

/-! ## One trade for many -/

omit [IsStrictOrderedRing K] in
theorem signed_ne_zero (lot : Lot K) : lot.side.sign * lot.size ≠ 0 := by
  refine mul_ne_zero ?_ lot.size_pos.ne'
  cases lot.side <;> decide

omit [IsStrictOrderedRing K] in
/-- The signed size tells the side and the size. -/
theorem eq_of_net {h h' : Holding K} (net : h.net = h'.net) :
    h.map (fun lot => (lot.side, lot.size)) = h'.map fun lot => (lot.side, lot.size) := by
  cases h with
  | none =>
    cases h' with
    | none => rfl
    | some lot' => exact absurd net.symm (signed_ne_zero lot')
  | some lot =>
    cases h' with
    | none => exact absurd net (signed_ne_zero lot)
    | some lot' =>
      obtain ⟨side, size, _, size_pos, _⟩ := lot
      obtain ⟨side', size', _, size_pos', _⟩ := lot'
      simp only [net_some] at net
      cases side <;> cases side' <;> simp only [Side.sign] at net <;> simp <;> omega

/-- The signed size and the basis tell the holding. -/
theorem eq_of_net_of_basis {h h' : Holding K} (net : h.net = h'.net) (basis : h.basis = h'.basis) :
    h = h' := by
  have same := eq_of_net net
  cases h with
  | none =>
    cases h' with
    | none => rfl
    | some lot' => cases same
  | some lot =>
    cases h' with
    | none => cases same
    | some lot' =>
      have cost : lot.cost = lot'.cost := by
        change ((lot.side.sign * lot.size : ℤ) : K) * lot.cost = _ at basis
        rw [show lot.side.sign * lot.size = lot'.side.sign * lot'.size from net] at basis
        exact mul_left_cancel₀ (Int.cast_ne_zero.mpr (signed_ne_zero lot')) basis
      obtain ⟨side, size, _, _, _⟩ := lot
      obtain ⟨side', size', _, _, _⟩ := lot'
      cases cost
      cases same
      rfl

end Holding

section Totals

variable {trades : List (Trade K)}

def totalSize (trades : List (Trade K)) : ℤ := (trades.map (·.size)).sum

/-- Sizes times prices. -/
def totalWorth (trades : List (Trade K)) : K :=
  (trades.map fun t => (t.size : K) * t.price).sum

@[simp] theorem totalSize_cons (t : Trade K) :
    totalSize (t :: trades) = t.size + totalSize trades := List.sum_cons

@[simp] theorem totalWorth_cons (t : Trade K) :
    totalWorth (t :: trades) = t.size * t.price + totalWorth trades := List.sum_cons

theorem totalSize_append (trades later : List (Trade K)) :
    totalSize (trades ++ later) = totalSize trades + totalSize later := by
  simp [totalSize]

theorem totalWorth_append (trades later : List (Trade K)) :
    totalWorth (trades ++ later) = totalWorth trades + totalWorth later := by
  simp [totalWorth]

theorem totalSize_nonneg (trades : List (Trade K)) : 0 ≤ totalSize trades := by
  induction trades with
  | nil => exact le_rfl
  | cons t rest ih => exact totalSize_cons t ▸ add_nonneg t.size_pos.le ih

theorem totalSize_pos (some_trade : trades ≠ []) : 0 < totalSize trades := by
  cases trades with
  | nil => exact absurd rfl some_trade
  | cons t rest =>
    exact totalSize_cons t ▸ add_pos_of_pos_of_nonneg t.size_pos (totalSize_nonneg rest)

theorem totalWorth_nonneg [IsStrictOrderedRing K] (trades : List (Trade K)) :
    0 ≤ totalWorth trades := by
  induction trades with
  | nil => exact le_rfl
  | cons t rest ih =>
    have size : (0 : K) < t.size := Int.cast_pos.mpr t.size_pos
    exact totalWorth_cons t ▸ add_nonneg (mul_pos size t.price_pos).le ih

theorem totalWorth_pos [IsStrictOrderedRing K] (some_trade : trades ≠ []) :
    0 < totalWorth trades := by
  cases trades with
  | nil => exact absurd rfl some_trade
  | cons t rest =>
    have size : (0 : K) < t.size := Int.cast_pos.mpr t.size_pos
    exact totalWorth_cons t ▸ add_pos_of_pos_of_nonneg (mul_pos size t.price_pos)
      (totalWorth_nonneg rest)

end Totals

/-- One trade for all of the given ones, at their mean price. -/
structure Trade.Merges (t : Trade K) (trades : List (Trade K)) : Prop where
  side : ∀ part ∈ trades, part.side = t.side
  size : t.size = totalSize trades
  worth : (t.size : K) * t.price = totalWorth trades

namespace Holding

variable {h : Holding K} {t : Trade K} {trades : List (Trade K)} {s : Side}

theorem sum_signed (sides : ∀ part ∈ trades, part.side = s) :
    (trades.map Trade.signed).sum = s.sign * totalSize trades := by
  induction trades with
  | nil => simp [totalSize]
  | cons t rest ih =>
    obtain ⟨rfl, sides⟩ := List.forall_mem_cons.mp sides
    rw [List.map_cons, List.sum_cons, ih sides, totalSize_cons, Trade.signed]
    ring

theorem sum_signed_worth (sides : ∀ part ∈ trades, part.side = s) :
    (trades.map fun t => (t.signed : K) * t.price).sum = s.sign * totalWorth trades := by
  induction trades with
  | nil => simp [totalWorth]
  | cons t rest ih =>
    obtain ⟨rfl, sides⟩ := List.forall_mem_cons.mp sides
    rw [List.map_cons, List.sum_cons, ih sides, totalWorth_cons, Trade.signed]
    push_cast
    ring

variable [IsStrictOrderedRing K]

/-- Trades of one side add up to the signed size of the one trade. -/
theorem net_after_eq (merges : t.Merges trades) : (h.after trades).net = (h.fill t).net := by
  rw [net_after, net_fill, sum_signed merges.side, Trade.signed, merges.size]

/-- Trades on the side of the lot book nothing. -/
theorem totalBooked_same (sides : ∀ part ∈ trades, part.side = s)
    (held : ∀ lot, h = some lot → lot.side = s) : h.totalBooked trades = 0 := by
  induction trades generalizing h with
  | nil => rfl
  | cons t rest ih =>
    obtain ⟨same, sides⟩ := List.forall_mem_cons.mp sides
    cases h with
    | none =>
      rw [totalBooked, booked_none, zero_add]
      exact ih sides fun lot filled => by cases filled; exact same
    | some lot =>
      have side : t.side = lot.side := same.trans (held lot rfl).symm
      rw [totalBooked, booked_some, closed_same lot t side, fill_same lot t side]
      rw [ih sides fun lot' filled => by cases filled; exact held lot rfl]
      simp

/-- Trades that close no more than the lot book at its cost. -/
theorem totalBooked_against (lot : Lot K) (sides : ∀ part ∈ trades, part.side = s)
    (against : s ≠ lot.side) (within : totalSize trades ≤ lot.size) :
    totalBooked (some lot) trades =
      (totalWorth trades - totalSize trades * lot.cost) * lot.side.sign := by
  induction trades generalizing lot with
  | nil => simp [totalBooked, totalSize, totalWorth]
  | cons t rest ih =>
    obtain ⟨same, sides⟩ := List.forall_mem_cons.mp sides
    have opposite : t.side ≠ lot.side := same ▸ against
    rw [totalSize_cons] at within
    have nonneg := totalSize_nonneg rest
    have booked : booked (some lot) t = t.size * (t.price - lot.cost) * lot.side.sign := by
      rw [booked_some, closed_against lot t opposite, min_eq_left (by omega)]
    rw [totalBooked, booked, totalSize_cons, totalWorth_cons]
    rcases lt_or_ge t.size lot.size with smaller | closes
    · have left := ih ⟨lot.side, lot.size - t.size, lot.cost, sub_pos.mpr smaller, lot.cost_pos⟩
        sides against (by dsimp only; omega)
      rw [fill_smaller lot t opposite smaller, left]
      push_cast
      ring
    · -- the lot is closed, so nothing is left to trade
      obtain rfl : rest = [] := by
        by_contra more
        have := totalSize_pos more
        omega
      simp only [totalBooked, totalSize, totalWorth, List.map_nil, List.sum_nil, add_zero]
      ring

/-- Trades at one price against the lot book what they close of it, however they divide it. -/
theorem totalBooked_priced (lot : Lot K) {price : K} (sides : ∀ part ∈ trades, part.side = s)
    (against : s ≠ lot.side) (prices : ∀ part ∈ trades, part.price = price) :
    totalBooked (some lot) trades =
      (min (totalSize trades) lot.size : ℤ) * (price - lot.cost) * lot.side.sign := by
  induction trades generalizing lot with
  | nil => simp [totalBooked, totalSize, lot.size_pos.le]
  | cons t rest ih =>
    obtain ⟨same, sides⟩ := List.forall_mem_cons.mp sides
    obtain ⟨rfl, prices⟩ := List.forall_mem_cons.mp prices
    have opposite : t.side ≠ lot.side := same ▸ against
    have nonneg := totalSize_nonneg rest
    rw [totalBooked, booked_some, closed_against lot t opposite, totalSize_cons]
    rcases lt_trichotomy t.size lot.size with smaller | equal | larger
    · have left := ih ⟨lot.side, lot.size - t.size, lot.cost, sub_pos.mpr smaller, lot.cost_pos⟩
        sides against prices
      have parts : min (t.size + totalSize rest) lot.size =
          t.size + min (totalSize rest) (lot.size - t.size) := by omega
      rw [fill_smaller lot t opposite smaller, left, min_eq_left smaller.le, parts]
      push_cast
      ring
    · -- what is left opens a lot, and adds to it
      rw [fill_equal lot t opposite equal, totalBooked_same sides fun _ held => by cases held]
      rw [equal, min_self, min_eq_right (by omega), add_zero]
    · rw [fill_larger lot t opposite larger,
        totalBooked_same sides fun _ filled => by cases filled; exact same]
      rw [min_eq_right larger.le, min_eq_right (by omega), add_zero]

/-- Trades of one side do what the one trade does, when they book the same against a lot. -/
theorem after_eq_fill_of_booked (merges : t.Merges trades)
    (booked : ∀ lot, h = some lot → t.side ≠ lot.side →
      totalBooked (some lot) trades = Holding.booked (some lot) t) :
    h.after trades = h.fill t := by
  have booked : h.totalBooked trades = h.booked t := by
    cases h with
    | none => rw [totalBooked_same merges.side (fun _ held => by cases held), booked_none]
    | some lot =>
      by_cases same : t.side = lot.side
      · rw [totalBooked_same merges.side (fun _ held => by cases held; exact same.symm),
          booked_some, closed_same lot t same]
        simp
      · exact booked lot rfl same
  refine eq_of_net_of_basis (net_after_eq merges) ?_
  rw [basis_after, basis_fill, sum_signed_worth merges.side, Trade.signed, ← merges.worth, booked]
  push_cast
  ring

/-- Trades of one side do what the one trade does, unless it is against the lot and larger. -/
theorem after_eq_fill (merges : t.Merges trades) (fits : h.Fits t) : h.after trades = h.fill t := by
  refine after_eq_fill_of_booked merges ?_
  rintro lot rfl against
  have smaller := fits.resolve_left against
  rw [totalBooked_against lot merges.side against (merges.size ▸ smaller), booked_some,
    closed_against lot t against, min_eq_left smaller, ← merges.worth, ← merges.size]
  ring

/-- Trades of one side at one price do what the one trade does. -/
theorem after_eq_fill_of_priced (merges : t.Merges trades)
    (prices : ∀ part ∈ trades, part.price = t.price) : h.after trades = h.fill t := by
  refine after_eq_fill_of_booked merges ?_
  rintro lot rfl against
  rw [totalBooked_priced lot merges.side against prices, booked_some, closed_against lot t against,
    merges.size]

end Holding

end OptionProject.Library
