import Mathlib.Data.List.Induction
import Mathlib.Data.List.MinMax
import Mathlib.Data.List.Sort
import OptionProject.Library.Dict

/-!
# First claims

The elements of a list claim their keys one after another. The first element of a key holds it,
a later one is kept when it is on the holder's side, and dropped otherwise. What a scan with a
table of holders keeps and drops is what two filters of the list give.

## Main results

* `FirstClaim.kept_scan`, `FirstClaim.dropped_scan` — the scan as filters.
* `FirstClaim.find?_sortedBy` — in a list that was sorted by a measure, the holder of a key
  is the first element of least measure among those with the key.
* `FirstClaim.sortedBy_eq_of_perm` — where the measure tells the elements apart, their order
  before the sort does not matter.
-/
namespace OptionProject.Library.FirstClaim

variable {α κ σ : Type*} [DecidableEq κ] [DecidableEq σ] (key : α → κ) (side : α → σ)

/-- The holders of the keys, the elements kept, and those dropped with the holder they met. -/
structure Claims (κ α : Type*) where
  holders : Dict κ α
  kept : List α
  dropped : List (α × α)

def claim (claims : Claims κ α) (x : α) : Claims κ α :=
  match claims.holders.get? (key x) with
  | none =>
    { claims with holders := claims.holders.set (key x) x, kept := claims.kept ++ [x] }
  | some holder =>
    if side holder = side x then { claims with kept := claims.kept ++ [x] }
    else { claims with dropped := claims.dropped ++ [(x, holder)] }

def scan (xs : List α) : Claims κ α := xs.foldl (claim key side) ⟨.empty, [], []⟩

/-- The first element with the key of the given one. -/
def holder (xs : List α) (x : α) : α := (xs.find? fun y => key y = key x).getD x

def agrees (xs : List α) (x : α) : Bool := side (holder key xs x) = side x

variable {key side} {xs : List α} {x y : α}

theorem find?_of_mem (key : α → κ) (member : y ∈ xs) :
    xs.find? (fun z => key z = key y) = some (holder key xs y) := by
  cases found : xs.find? (fun z => key z = key y) with
  | none => exact absurd (List.find?_eq_none.mp found y member) (by simp)
  | some first => rw [holder, found, Option.getD_some]

/-- The holder of an element has its key. -/
theorem key_holder (key : α → κ) (member : y ∈ xs) : key (holder key xs y) = key y := by
  simpa using List.find?_some (find?_of_mem key member)

theorem holder_mem (member : y ∈ xs) : holder key xs y ∈ xs :=
  List.mem_of_find?_eq_some (find?_of_mem key member)

/-- The holder of a key stands before every other element that has it. -/
theorem sublist_holder (member : y ∈ xs) (other : holder key xs y ≠ y) :
    [holder key xs y, y].Sublist xs := by
  have found := find?_of_mem key member
  generalize holder key xs y = first at found other ⊢
  obtain ⟨-, front, rest, rfl, free⟩ := List.find?_eq_some_iff_append.mp found
  have after : y ∈ rest := by
    rcases List.mem_append.mp member with early | late
    · simpa using free y early
    · simpa [other.symm] using late
  exact List.Sublist.trans (by simpa using after) (List.sublist_append_right front _)

/-- A later element changes no holder. -/
theorem holder_concat_of_mem (member : y ∈ xs) :
    holder key (xs ++ [x]) y = holder key xs y := by
  rw [holder, List.find?_append, find?_of_mem key member, Option.some_or, Option.getD_some]

theorem holder_concat_self : holder key (xs ++ [x]) x = holder key xs x := by
  rw [holder, holder, List.find?_append]
  cases xs.find? (fun z => key z = key x) with
  | none => simp
  | some first => rfl

theorem agrees_concat_of_mem (member : y ∈ xs) :
    agrees key side (xs ++ [x]) y = agrees key side xs y := by
  rw [agrees, agrees, holder_concat_of_mem member]

theorem agrees_concat_self : agrees key side (xs ++ [x]) x = agrees key side xs x := by
  rw [agrees, agrees, holder_concat_self]

theorem scan_concat : scan key side (xs ++ [x]) = claim key side (scan key side xs) x := by
  simp [scan]

theorem holders_claim (claims : Claims κ α) (k : κ) :
    (claim key side claims x).holders.get? k =
      (claims.holders.get? k).or (if key x = k then some x else none) := by
  unfold claim
  cases found : claims.holders.get? (key x) with
  | none =>
    rw [Dict.get?_set]
    by_cases same : k = key x
    · simp [same, found]
    · simp [same, Ne.symm same]
  | some holder =>
    have kept : claims.holders.get? k =
        (claims.holders.get? k).or (if key x = k then some x else none) := by
      by_cases same : key x = k
      · simp [← same, found]
      · simp [same]
    dsimp only
    split
    · exact kept
    · exact kept

/-- The holder of a key is the first element that has it. -/
theorem holders_scan (k : κ) :
    (scan key side xs).holders.get? k = xs.find? fun x => key x = k := by
  induction xs using List.reverseRecOn with
  | nil => rfl
  | append_singleton xs x ih =>
    rw [scan_concat, holders_claim, ih, List.find?_append]
    congr 1
    by_cases same : key x = k <;> simp [same]

/-- What a claim adds to the elements kept and dropped. -/
theorem claim_scan (xs : List α) (x : α) :
    (claim key side (scan key side xs) x).kept =
        (scan key side xs).kept ++ [x].filter (agrees key side xs) ∧
      (claim key side (scan key side xs) x).dropped =
        (scan key side xs).dropped ++
          ([x].filter (fun y => !agrees key side xs y)).map fun y => (y, holder key xs y) := by
  unfold claim
  rw [holders_scan]
  cases found : xs.find? (fun y => key y = key x) with
  | none => simp [agrees, holder, found]
  | some first =>
    by_cases same : side first = side x
    · simp [agrees, holder, found, same]
    · simp [agrees, holder, found, same]

theorem kept_scan : (scan key side xs).kept = xs.filter (agrees key side xs) := by
  induction xs using List.reverseRecOn with
  | nil => rfl
  | append_singleton xs x ih =>
    rw [scan_concat, (claim_scan xs x).1, ih, List.filter_append]
    congr 1
    · exact List.filter_congr fun y member => (agrees_concat_of_mem member).symm
    · exact List.filter_congr fun y member => by
        rw [List.mem_singleton.mp member, agrees_concat_self]

theorem dropped_scan :
    (scan key side xs).dropped =
      (xs.filter fun x => !agrees key side xs x).map fun x => (x, holder key xs x) := by
  induction xs using List.reverseRecOn with
  | nil => rfl
  | append_singleton xs x ih =>
    rw [scan_concat, (claim_scan xs x).2, ih, List.filter_append, List.map_append]
    congr 1
    · rw [List.filter_congr fun y member => by
        rw [← @agrees_concat_of_mem _ _ _ _ _ key side xs x y member]]
      refine List.map_congr_left fun y member => ?_
      rw [holder_concat_of_mem (List.mem_of_mem_filter member)]
    · rw [List.filter_congr fun y member => by
        rw [List.mem_singleton.mp member, ← agrees_concat_self]]
      refine List.map_congr_left fun y member => ?_
      rw [List.mem_singleton.mp (List.mem_of_mem_filter member), holder_concat_self]

/-! ## Claims in the order of a measure -/

section Measure

variable {β : Type*} [LinearOrder β] (measure : α → β) {p : α → Bool}

/-- Sorted by the measure; elements of one measure stay in their order. -/
def sortedBy (xs : List α) : List α := xs.insertionSort (Order.Preimage measure (· ≤ ·))

/-- The first element of least measure. -/
def leastBy (xs : List α) : Option α := xs.argmin measure

theorem sortedBy_perm (xs : List α) : (sortedBy measure xs).Perm xs := List.perm_insertionSort _ xs

@[simp] theorem mem_sortedBy : x ∈ sortedBy measure xs ↔ x ∈ xs := List.mem_insertionSort _

theorem pairwise_sortedBy (xs : List α) :
    (sortedBy measure xs).Pairwise fun x y => measure x ≤ measure y :=
  List.pairwise_insertionSort (Order.Preimage measure (· ≤ ·)) xs

variable {measure}

theorem filter_orderedInsert {sorted : List α}
    (pairwise : sorted.Pairwise fun x y => measure x ≤ measure y) (x : α) :
    (sorted.orderedInsert (Order.Preimage measure (· ≤ ·)) x).filter p =
      if p x then (sorted.filter p).orderedInsert (Order.Preimage measure (· ≤ ·)) x
      else sorted.filter p := by
  induction sorted with
  | nil => by_cases holds : p x <;> simp [holds]
  | cons y rest ih =>
    obtain ⟨least, pairwise⟩ := List.pairwise_cons.mp pairwise
    by_cases first : Order.Preimage measure (· ≤ ·) x y
    · -- `x` goes in front, and stays in front of whatever the filter leaves
      have before : ∀ z ∈ (y :: rest).filter p, Order.Preimage measure (· ≤ ·) x z := by
        intro z member
        rcases List.mem_cons.mp (List.mem_of_mem_filter member) with rfl | later
        · exact first
        · exact le_trans first (least z later)
      rw [List.orderedInsert_cons_of_le _ _ first, List.filter_cons]
      cases kept : (y :: rest).filter p with
      | nil => simp
      | cons z zs =>
        rw [List.orderedInsert_cons_of_le _ _ (before z (by simp [kept]))]
    · have later : ¬measure x ≤ measure y := first
      rw [List.orderedInsert_of_not_le _ _ first, List.filter_cons, ih pairwise]
      by_cases holds : p x <;> by_cases stays : p y <;> simp [holds, stays, Order.Preimage, later]

theorem filter_sortedBy (xs : List α) :
    (sortedBy measure xs).filter p = sortedBy measure (xs.filter p) := by
  induction xs with
  | nil => rfl
  | cons x xs ih =>
    have inserted := @filter_orderedInsert _ _ _ measure p _ (pairwise_sortedBy measure xs) x
    rw [ih] at inserted
    by_cases holds : p x <;> simpa [sortedBy, holds] using inserted

theorem head?_sortedBy (xs : List α) : (sortedBy measure xs).head? = leastBy measure xs := by
  induction xs with
  | nil => rfl
  | cons x xs ih =>
    rw [leastBy, List.argmin_cons, ← leastBy, ← ih, sortedBy, List.insertionSort_cons]
    change List.head? ((sortedBy measure xs).orderedInsert _ x) = _
    cases sortedBy measure xs with
    | nil => rfl
    | cons y rest =>
      by_cases first : measure x ≤ measure y
      · simp [Order.Preimage, first, not_lt.mpr first]
      · simp [Order.Preimage, first, not_le.mp first]

/-- After sorting, the first element of a kind is the first one of least measure. -/
theorem find?_sortedBy (xs : List α) :
    (sortedBy measure xs).find? p = leastBy measure (xs.filter p) := by
  rw [← List.head?_filter, filter_sortedBy, head?_sortedBy]

theorem sortedBy_eq_of_perm {xs ys : List α} (permuted : ys.Perm xs)
    (injective : ∀ x ∈ xs, ∀ y ∈ xs, measure x = measure y → x = y) :
    sortedBy measure ys = sortedBy measure xs := by
  refine List.Perm.eq_of_pairwise ?_ (pairwise_sortedBy measure ys) (pairwise_sortedBy measure xs)
    ((sortedBy_perm measure ys).trans (permuted.trans (sortedBy_perm measure xs).symm))
  intro x y left right le ge
  have given : x ∈ xs := permuted.mem_iff.mp ((mem_sortedBy measure).mp left)
  exact injective x given y ((mem_sortedBy measure).mp right) (le_antisymm le ge)

/-- Elements from a bound on do not matter to the least one, if there is one below the bound. -/
theorem leastBy_filter_lt {bound : β} (member : x ∈ xs) (below : measure x < bound) :
    leastBy measure (xs.filter fun y => measure y < bound) = leastBy measure xs := by
  rw [← find?_sortedBy, ← head?_sortedBy]
  have sorted := pairwise_sortedBy measure xs
  have kept : x ∈ sortedBy measure xs := (mem_sortedBy measure).mpr member
  cases found : sortedBy measure xs with
  | nil => rfl
  | cons first rest =>
    rw [found] at sorted kept
    have least : measure first ≤ measure x := by
      rcases List.mem_cons.mp kept with rfl | later
      · exact le_rfl
      · exact (List.pairwise_cons.mp sorted).1 x later
    simp [least.trans_lt below]

/-- An element above another one can be put in anywhere. -/
theorem leastBy_insert {front rest : List α} (member : x ∈ front ++ rest)
    (below : measure x < measure y) :
    leastBy measure (front ++ y :: rest) = leastBy measure (front ++ rest) := by
  have member' : x ∈ front ++ y :: rest :=
    ((List.sublist_cons_self y rest).append_left front).mem member
  rw [← leastBy_filter_lt member below, ← leastBy_filter_lt member' below]
  simp

end Measure
end OptionProject.Library.FirstClaim
