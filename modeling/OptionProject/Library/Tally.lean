import Mathlib.Algebra.BigOperators.Intervals
import Mathlib.Algebra.Order.BigOperators.Group.Finset
import Mathlib.Data.Int.ConditionallyCompleteOrder
import Mathlib.Data.List.GetD

/-!
# Tallies fed item by item and by readings

A growing list of items has a running total. A tally follows it through two feeds: single
items, each at most once and in any order, and readings of the running total after some
number of items, which replace the tally. The tally never passes the total as long as no
item is counted singly after a reading that already contained it.

## Main results

* `Tally.Bounded` — the invariant: the last reading, and the single items beyond it.
* `Tally.Bounded.count_le` — a bounded tally does not pass the total.
* `Tally.Bounded.item`, `single`, `skip`, `read` — the steps that keep the invariant.
-/
namespace OptionProject.Library

/-- The items so far, which of them were fed singly, how many the last reading contained,
and the count. -/
structure Tally (M : Type*) where
  items : List M
  singles : Finset ℕ
  mark : ℕ
  count : M

namespace Tally

variable {M : Type*} [AddCommMonoid M]

theorem sum_take (items : List M) (n : ℕ) :
    (items.take n).sum = ∑ i ∈ Finset.range n, items.getD i 0 := by
  induction n with
  | zero => simp
  | succ n ih =>
    rw [Finset.sum_range_succ, ← ih, List.take_add_one, List.sum_append]
    cases h : items[n]? <;> simp [List.getD, h]

/-- The single items that the last reading did not contain. -/
def ahead (t : Tally M) : Finset ℕ := {i ∈ t.singles | t.mark ≤ i}

variable [PartialOrder M]

structure Bounded (t : Tally M) : Prop where
  mark_le : t.mark ≤ t.items.length
  singles_lt : ∀ i ∈ t.singles, i < t.items.length
  nonneg : ∀ x ∈ t.items, 0 ≤ x
  count_le_read : t.count ≤ (t.items.take t.mark).sum + ∑ i ∈ t.ahead, t.items.getD i 0

theorem bounded_empty : Bounded (⟨[], ∅, 0, 0⟩ : Tally M) where
  mark_le := Nat.zero_le _
  singles_lt := by simp
  nonneg := by simp
  count_le_read := by simp [ahead]

theorem Bounded.getD_nonneg {t : Tally M} (bounded : t.Bounded) (i : ℕ) :
    0 ≤ t.items.getD i 0 := by
  by_cases inside : i < t.items.length
  · rw [List.getD_eq_getElem _ _ inside]
    exact bounded.nonneg _ (List.getElem_mem inside)
  · rw [List.getD_eq_default _ _ (not_lt.mp inside)]

/-- A new item changes no earlier one. -/
theorem Bounded.item {t : Tally M} (bounded : t.Bounded) {x : M} (nonneg : 0 ≤ x) :
    Bounded { t with items := t.items ++ [x] } where
  mark_le := by simpa using Nat.le_succ_of_le bounded.mark_le
  singles_lt i mem := by simpa using Nat.lt_succ_of_lt (bounded.singles_lt i mem)
  nonneg y mem := by
    rcases List.mem_append.mp mem with old | new
    · exact bounded.nonneg y old
    · exact List.mem_singleton.mp new ▸ nonneg
  count_le_read := by
    have same : ∀ i ∈ t.ahead, (t.items ++ [x]).getD i 0 = t.items.getD i 0 := fun i ahead =>
      List.getD_append _ _ _ _ (bounded.singles_lt i (Finset.mem_filter.mp ahead).1)
    have kept := bounded.count_le_read
    rw [← Finset.sum_congr rfl same] at kept
    simpa [ahead, List.take_append_of_le_length bounded.mark_le] using kept

variable [IsOrderedAddMonoid M]

/-- A bounded tally does not pass the running total. -/
theorem Bounded.count_le {t : Tally M} (bounded : t.Bounded) : t.count ≤ t.items.sum := by
  have disjoint : Disjoint (Finset.range t.mark) t.ahead := by
    refine Finset.disjoint_left.mpr fun i read ahead => ?_
    have before := Finset.mem_range.mp read
    have after := (Finset.mem_filter.mp ahead).2
    omega
  have inside : Finset.range t.mark ∪ t.ahead ⊆ Finset.range t.items.length := by
    refine Finset.union_subset (Finset.range_subset_range.mpr bounded.mark_le) fun i ahead => ?_
    exact Finset.mem_range.mpr (bounded.singles_lt i (Finset.mem_filter.mp ahead).1)
  calc t.count
      ≤ (t.items.take t.mark).sum + ∑ i ∈ t.ahead, t.items.getD i 0 := bounded.count_le_read
    _ = ∑ i ∈ Finset.range t.mark ∪ t.ahead, t.items.getD i 0 := by
        rw [Finset.sum_union disjoint, sum_take]
    _ ≤ ∑ i ∈ Finset.range t.items.length, t.items.getD i 0 :=
        Finset.sum_le_sum_of_subset_of_nonneg inside fun i _ _ => bounded.getD_nonneg i
    _ = t.items.sum := by rw [← sum_take, List.take_length]

/-- A single item that no reading contained is counted. -/
theorem Bounded.single {t : Tally M} (bounded : t.Bounded) {i : ℕ} (inside : i < t.items.length)
    (fresh : i ∉ t.singles) (unread : t.mark ≤ i) :
    Bounded { t with singles := insert i t.singles, count := t.count + t.items.getD i 0 } where
  mark_le := bounded.mark_le
  singles_lt := Finset.forall_mem_insert _ _ _ |>.mpr ⟨inside, bounded.singles_lt⟩
  nonneg := bounded.nonneg
  count_le_read := by
    have grown : ahead { t with singles := insert i t.singles, count := t.count + t.items.getD i 0 }
        = insert i t.ahead := by simp [ahead, Finset.filter_insert, unread]
    have new : i ∉ t.ahead := fun ahead => fresh (Finset.mem_filter.mp ahead).1
    rw [grown, Finset.sum_insert new, add_comm (t.items.getD i 0), ← add_assoc]
    exact add_le_add_left bounded.count_le_read _

/-- A single item may be left out. -/
theorem Bounded.skip {t : Tally M} (bounded : t.Bounded) {i : ℕ} (inside : i < t.items.length) :
    Bounded { t with singles := insert i t.singles } where
  mark_le := bounded.mark_le
  singles_lt := Finset.forall_mem_insert _ _ _ |>.mpr ⟨inside, bounded.singles_lt⟩
  nonneg := bounded.nonneg
  count_le_read := by
    have more : t.ahead ⊆ ahead { t with singles := insert i t.singles } :=
      Finset.filter_subset_filter _ (Finset.subset_insert _ _)
    exact bounded.count_le_read.trans (add_le_add_right
      (Finset.sum_le_sum_of_subset_of_nonneg more fun j _ _ => bounded.getD_nonneg j) _)

/-- A reading replaces the count. -/
theorem Bounded.read {t : Tally M} (bounded : t.Bounded) {n : ℕ} (inside : n ≤ t.items.length) :
    Bounded { t with mark := n, count := (t.items.take n).sum } where
  mark_le := inside
  singles_lt := bounded.singles_lt
  nonneg := bounded.nonneg
  count_le_read := le_add_of_nonneg_right (Finset.sum_nonneg fun j _ => bounded.getD_nonneg j)

end Tally

end OptionProject.Library
