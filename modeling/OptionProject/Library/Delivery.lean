import Mathlib.Algebra.BigOperators.Group.Finset.Basic
import Mathlib.Data.Finset.Option
import Mathlib.Data.List.Induction
import OptionProject.Library.Consume

/-!
# Deliveries through a consuming gate

Items are delivered one after another, some of them more than once; an item without a key is
turned away. Behind a gate that consumes the keys only the first item of a key acts.

## Main definitions

* `deliverAll` — the keys consumed and the state after a list of deliveries.

## Main results

* `deliverAll_redelivered` — a later item of a key changes nothing.
* `measure_deliverAll` — what the state measures is the sum over the keys of what their first items
  add to it.
-/
namespace OptionProject.Library

variable {α ε β σ κ : Type*} [DecidableEq κ] (key : α → Option κ)
  (act : α → σ → Except ε β × σ)

def deliver (now : Finset κ × σ) (x : α) : Finset κ × σ :=
  match key x with
  | none => now
  | some k => (consume k now.1 now.2 (act x)).2

def deliverAll (now : Finset κ × σ) (xs : List α) : Finset κ × σ := xs.foldl (deliver key act) now

/-- The keys that some item has. -/
def keysOf (xs : List α) : Finset κ := (xs.filterMap key).toFinset

def firstOf (xs : List α) (k : κ) : Option α := xs.find? fun x => key x = some k

variable {key act} {now : Finset κ × σ} {xs front rest : List α} {x : α} {k : κ}

theorem deliver_none (unkeyed : key x = none) : deliver key act now x = now := by
  rw [deliver, unkeyed]

theorem deliver_seen (keyed : key x = some k) (seen : k ∈ now.1) : deliver key act now x = now := by
  simp only [deliver, keyed, consume_seen seen]

theorem deliver_fresh (keyed : key x = some k) (fresh : k ∉ now.1) :
    deliver key act now x = (insert k now.1, (act x now.2).2) := by
  simp only [deliver, keyed, consume_fresh fresh]

theorem deliverAll_append :
    deliverAll key act now (front ++ rest) =
      deliverAll key act (deliverAll key act now front) rest :=
  List.foldl_append

@[simp] theorem mem_keysOf : k ∈ keysOf key xs ↔ ∃ x ∈ xs, key x = some k := by
  simp [keysOf]

theorem keysOf_concat : keysOf key (xs ++ [x]) = keysOf key xs ∪ (key x).toFinset := by
  ext k
  simp [or_and_right, exists_or, eq_comm]

/-- The keys consumed are those that were delivered. -/
theorem seen_deliverAll (xs : List α) :
    (deliverAll key act now xs).1 = now.1 ∪ keysOf key xs := by
  induction xs using List.reverseRecOn with
  | nil => simp [deliverAll, keysOf]
  | append_singleton xs x ih =>
    rw [deliverAll_append, keysOf_concat, ← Finset.union_assoc, ← ih]
    generalize deliverAll key act now xs = later
    change (deliver key act later x).1 = _
    cases keyed : key x with
    | none => simp [deliver_none keyed]
    | some k =>
      by_cases seen : k ∈ later.1
      · simp [deliver_seen keyed seen, seen]
      · rw [deliver_fresh keyed seen, Option.toFinset_some, Finset.union_comm, Finset.insert_eq]

/-- A delivery whose key came before, however long ago, changes nothing, then or later. -/
theorem deliverAll_redelivered (keyed : key x = some k) (before : ∃ y ∈ front, key y = some k) :
    deliverAll key act now (front ++ x :: rest) = deliverAll key act now (front ++ rest) := by
  have seen : k ∈ (deliverAll key act now front).1 := by
    rw [seen_deliverAll]
    exact Finset.mem_union_right _ (mem_keysOf.mpr before)
  rw [deliverAll_append, deliverAll_append]
  exact congrArg (fun later => deliverAll key act later rest) (deliver_seen keyed seen)

theorem firstOf_concat_of_mem (known : k ∈ keysOf key xs) :
    firstOf key (xs ++ [x]) k = firstOf key xs k := by
  obtain ⟨y, member, keyed⟩ := mem_keysOf.mp known
  have found : (firstOf key xs k).isSome := by
    rw [firstOf, List.find?_isSome]
    exact ⟨y, member, decide_eq_true keyed⟩
  rw [firstOf, List.find?_append, ← firstOf, Option.or_of_isSome found]

theorem firstOf_concat_self (keyed : key x = some k) (fresh : k ∉ keysOf key xs) :
    firstOf key (xs ++ [x]) k = some x := by
  have none_before : xs.find? (fun y => key y = some k) = none := by
    rw [List.find?_eq_none]
    intro y member keyed'
    exact fresh (mem_keysOf.mpr ⟨y, member, of_decide_eq_true keyed'⟩)
  rw [firstOf, List.find?_append, none_before]
  simp [keyed]

/-- If every action adds its own gain to a measure of the state, then the deliveries add up to the
gains of the first items of the keys. -/
theorem measure_deliverAll {M : Type*} [AddCommMonoid M] {inv : σ → Prop} {measure : σ → M}
    {gain : α → M} {start : σ} (holds : inv start)
    (adds : ∀ x state, inv state →
      inv (act x state).2 ∧ measure (act x state).2 = measure state + gain x) (xs : List α) :
    inv (deliverAll key act (∅, start) xs).2 ∧
      measure (deliverAll key act (∅, start) xs).2 =
        measure start + ∑ k ∈ keysOf key xs, (firstOf key xs k).elim 0 gain := by
  induction xs using List.reverseRecOn with
  | nil => exact ⟨holds, by simp [deliverAll, keysOf]⟩
  | append_singleton xs x ih =>
    have consumed := @seen_deliverAll _ _ _ _ _ _ key act (∅, start) xs
    rw [Finset.empty_union] at consumed
    have earlier : ∑ k ∈ keysOf key xs, (firstOf key (xs ++ [x]) k).elim 0 gain =
        ∑ k ∈ keysOf key xs, (firstOf key xs k).elim 0 gain :=
      Finset.sum_congr rfl fun k known => by rw [firstOf_concat_of_mem known]
    obtain ⟨kept, measured⟩ := ih
    rw [deliverAll_append, keysOf_concat]
    generalize deliverAll key act (∅, start) xs = later at consumed kept measured
    change inv (deliver key act later x).2 ∧ measure (deliver key act later x).2 = _
    cases keyed : key x with
    | none =>
      rw [deliver_none keyed, Option.toFinset_none, Finset.union_empty, earlier]
      exact ⟨kept, measured⟩
    | some k =>
      by_cases seen : k ∈ later.1
      · have known : k ∈ keysOf key xs := consumed ▸ seen
        rw [deliver_seen keyed seen, Option.toFinset_some,
          Finset.union_eq_left.mpr (Finset.singleton_subset_iff.mpr known), earlier]
        exact ⟨kept, measured⟩
      · have fresh : k ∉ keysOf key xs := consumed ▸ seen
        obtain ⟨kept', added⟩ := adds x later.2 kept
        rw [deliver_fresh keyed seen]
        refine ⟨kept', ?_⟩
        rw [added, measured, Option.toFinset_some, Finset.union_comm, ← Finset.insert_eq,
          Finset.sum_insert fresh, earlier, firstOf_concat_self keyed fresh, Option.elim_some,
          add_assoc, add_comm (gain x)]

end OptionProject.Library
