import Mathlib.Algebra.BigOperators.Group.List.Basic
import Mathlib.Data.List.Induction
import Mathlib.Data.List.Lemmas
import Mathlib.Data.List.Nodup
import Mathlib.Tactic.Abel

/-!
# Insertion-ordered dictionaries

A finite map kept as the list of its entries in the order the keys were first
inserted. Assigning to a present key keeps its place, a new key goes to the end.
The absence of repeated keys is a field, so every dictionary that can be built is
well formed.

## Main definitions

* `Dict.get?`, `Dict.contains` — lookup.
* `Dict.set`, `Dict.erase` — assignment and removal of one key.
* `Dict.ofList` — the dictionary of a list of assignments, the last one winning.
* `Dict.update` — all entries of another dictionary assigned.
* `Dict.filterMap` — the values that a function keeps, under their keys.
* `Dict.total` — a quantity summed over the values.

## Main results

* `Dict.total_set`, `Dict.total_erase` — how the sum changes with one key.
-/
namespace OptionProject.Library

/-- Assignment on the list of entries: in place when the key is there, else at the end. -/
def assign {κ ν : Type*} [DecidableEq κ] (key : κ) (value : ν) : List (κ × ν) → List (κ × ν)
  | [] => [(key, value)]
  | entry :: rest =>
    if entry.1 = key then (key, value) :: rest else entry :: assign key value rest

structure Dict (κ ν : Type*) where
  entries : List (κ × ν)
  nodupKeys : (entries.map Prod.fst).Nodup
  deriving DecidableEq

namespace Dict

variable {κ ν : Type*} [DecidableEq κ]

omit [DecidableEq κ] in
theorem ext {d d' : Dict κ ν} (same : d.entries = d'.entries) : d = d' := by
  cases d
  cases d'
  cases same
  rfl

theorem mem_keys_assign (key k : κ) (value : ν) (entries : List (κ × ν)) :
    k ∈ (assign key value entries).map Prod.fst ↔ k = key ∨ k ∈ entries.map Prod.fst := by
  induction entries with
  | nil => simp [assign]
  | cons entry rest ih =>
    by_cases same : entry.1 = key
    · simp [assign, same]
    · simp only [assign, same, if_false, List.map_cons, List.mem_cons, ih]
      tauto

theorem nodup_assign (key : κ) (value : ν) (entries : List (κ × ν))
    (nodup : (entries.map Prod.fst).Nodup) : ((assign key value entries).map Prod.fst).Nodup := by
  induction entries with
  | nil => simp [assign]
  | cons entry rest ih =>
    obtain ⟨fresh, rest_nodup⟩ := List.nodup_cons.mp nodup
    by_cases same : entry.1 = key
    · simp only [assign, same, if_true, List.map_cons]
      exact List.nodup_cons.mpr ⟨same ▸ fresh, rest_nodup⟩
    · simp only [assign, same, if_false, List.map_cons, List.nodup_cons]
      refine ⟨fun mem => ?_, ih rest_nodup⟩
      rcases (mem_keys_assign key entry.1 value rest).mp mem with eq | old
      · exact same eq
      · exact fresh old

def empty : Dict κ ν := ⟨[], by simp⟩

def get? (d : Dict κ ν) (key : κ) : Option ν :=
  (d.entries.find? fun entry => entry.1 = key).map Prod.snd

def contains (d : Dict κ ν) (key : κ) : Bool := (d.get? key).isSome

def set (d : Dict κ ν) (key : κ) (value : ν) : Dict κ ν :=
  ⟨assign key value d.entries, nodup_assign key value d.entries d.nodupKeys⟩

def erase (d : Dict κ ν) (key : κ) : Dict κ ν where
  entries := d.entries.filter fun entry => entry.1 ≠ key
  nodupKeys := d.nodupKeys.sublist (List.Sublist.map _ List.filter_sublist)

def ofList (assignments : List (κ × ν)) : Dict κ ν :=
  assignments.foldl (fun d entry => d.set entry.1 entry.2) empty

theorem mem_of_get? {d : Dict κ ν} {key : κ} {value : ν} (found : d.get? key = some value) :
    (key, value) ∈ d.entries := by
  obtain ⟨entry, first, rfl⟩ := Option.map_eq_some_iff.mp found
  have same : entry.1 = key := by simpa using List.find?_some first
  exact same ▸ List.mem_of_find?_eq_some first

@[simp] theorem get?_empty (key : κ) : (empty : Dict κ ν).get? key = none := rfl

theorem find?_assign (key k : κ) (value : ν) (entries : List (κ × ν)) :
    ((assign key value entries).find? fun entry => entry.1 = k).map Prod.snd =
      if k = key then some value else (entries.find? fun entry => entry.1 = k).map Prod.snd := by
  induction entries with
  | nil => by_cases same : k = key <;> simp [assign, same, eq_comm]
  | cons entry rest ih =>
    by_cases replaced : entry.1 = key
    · by_cases same : k = key
      · simp [assign, replaced, same]
      · simp [assign, replaced, same, Ne.symm same]
    · by_cases here : entry.1 = k
      · have other : k ≠ key := fun eq => replaced (here.trans eq)
        simp [assign, here, other]
      · simpa [assign, replaced, here] using ih

theorem get?_set (d : Dict κ ν) (key k : κ) (value : ν) :
    (d.set key value).get? k = if k = key then some value else d.get? k :=
  find?_assign key k value d.entries

@[simp] theorem get?_set_self (d : Dict κ ν) (key : κ) (value : ν) :
    (d.set key value).get? key = some value := by simp [get?_set]

theorem get?_set_of_ne (d : Dict κ ν) {key k : κ} (value : ν) (ne : k ≠ key) :
    (d.set key value).get? k = d.get? k := by simp [get?_set, ne]

theorem get?_erase (d : Dict κ ν) (key k : κ) :
    (d.erase key).get? k = if k = key then none else d.get? k := by
  unfold get? erase
  by_cases same : k = key
  · simp [same]
  · simp only [List.find?_filter, same, if_false]
    congr 2
    funext entry
    by_cases here : entry.1 = k <;> simp [here, same]

@[simp] theorem get?_erase_self (d : Dict κ ν) (key : κ) : (d.erase key).get? key = none := by
  simp [get?_erase]

theorem get?_erase_of_ne (d : Dict κ ν) {key k : κ} (ne : k ≠ key) :
    (d.erase key).get? k = d.get? k := by simp [get?_erase, ne]

theorem set_set (d : Dict κ ν) (key : κ) (value later : ν) :
    (d.set key value).set key later = d.set key later := by
  obtain ⟨entries, nodup⟩ := d
  apply ext
  change assign key later (assign key value entries) = assign key later entries
  clear nodup
  induction entries with
  | nil => simp [assign]
  | cons entry rest ih => by_cases same : entry.1 = key <;> simp [assign, same, ih]

/-- A property of all values survives an assignment that has it. -/
theorem forall_get?_set {P : κ → ν → Prop} {d : Dict κ ν} {key : κ} {value : ν}
    (old : ∀ k v, d.get? k = some v → P k v) (new : P key value) :
    ∀ k v, (d.set key value).get? k = some v → P k v := by
  intro k v found
  rw [get?_set] at found
  split at found
  next same =>
    cases found
    exact same ▸ new
  next => exact old k v found

theorem mem_of_get?_foldl {entries : List (κ × ν)} {d : Dict κ ν} {key : κ} {value : ν}
    (found : (entries.foldl (fun d entry => d.set entry.1 entry.2) d).get? key = some value) :
    (key, value) ∈ entries ∨ d.get? key = some value := by
  induction entries generalizing d with
  | nil => exact .inr found
  | cons entry rest ih =>
    rcases ih found with later | before
    · exact .inl (List.mem_cons_of_mem _ later)
    · rw [get?_set] at before
      split at before
      next same =>
        cases before
        exact .inl (same ▸ List.mem_cons_self)
      next => exact .inr before

theorem mem_of_get?_ofList {entries : List (κ × ν)} {key : κ} {value : ν}
    (found : (ofList entries).get? key = some value) : (key, value) ∈ entries :=
  (mem_of_get?_foldl found).resolve_right (by simp)

theorem contains_set {d : Dict κ ν} {key k : κ} {value : ν} :
    (d.set key value).contains k ↔ k = key ∨ d.contains k := by
  rw [contains, get?_set]
  by_cases same : k = key <;> simp [same, contains]

/-! ## Keys and defaults -/

def keys (d : Dict κ ν) : List κ := d.entries.map Prod.fst

def values (d : Dict κ ν) : List ν := d.entries.map Prod.snd

def getD (d : Dict κ ν) (key : κ) (default : ν) : ν := (d.get? key).getD default

theorem get?_of_mem {d : Dict κ ν} {key : κ} {value : ν} (member : (key, value) ∈ d.entries) :
    d.get? key = some value := by
  cases found : d.get? key with
  | none =>
    have absent := List.find?_eq_none.mp (Option.map_eq_none_iff.mp found) _ member
    simp at absent
  | some other =>
    have same := List.inj_on_of_nodup_map d.nodupKeys (mem_of_get? found) member rfl
    rw [(Prod.mk.inj same).2]

theorem get?_eq_none_iff {d : Dict κ ν} {key : κ} : d.get? key = none ↔ key ∉ d.keys := by
  simp only [get?, Option.map_eq_none_iff, List.find?_eq_none, decide_eq_true_eq, keys,
    List.mem_map, not_exists, not_and]

theorem getD_of_not_mem {d : Dict κ ν} {key : κ} (absent : key ∉ d.keys) (default : ν) :
    d.getD key default = default := by simp [getD, get?_eq_none_iff.mpr absent]

theorem mem_values {d : Dict κ ν} {value : ν} :
    value ∈ d.values ↔ ∃ key, d.get? key = some value := by
  simp only [values, List.mem_map, Prod.exists, exists_eq_right]
  exact exists_congr fun key => ⟨get?_of_mem, mem_of_get?⟩

/-! ## Assigning many keys -/

def update (d later : Dict κ ν) : Dict κ ν :=
  later.entries.foldl (fun d entry => d.set entry.1 entry.2) d

theorem get?_foldl_set (entries : List (κ × ν)) (nodup : (entries.map Prod.fst).Nodup)
    (d : Dict κ ν) (key : κ) :
    (entries.foldl (fun d entry => d.set entry.1 entry.2) d).get? key =
      ((entries.find? fun entry => entry.1 = key).map Prod.snd).or (d.get? key) := by
  induction entries generalizing d with
  | nil => rfl
  | cons entry rest ih =>
    obtain ⟨fresh, rest_nodup⟩ := List.nodup_cons.mp nodup
    rw [List.foldl_cons, ih rest_nodup, get?_set]
    by_cases here : entry.1 = key
    · have absent : rest.find? (fun entry => entry.1 = key) = none := by
        rw [List.find?_eq_none]
        intro other member
        simp only [decide_eq_true_eq]
        rintro rfl
        exact fresh (here ▸ List.mem_map_of_mem member)
      simp [here, absent]
    · simp [here, Ne.symm here]

/-- The later dictionary wins. -/
theorem get?_update (d later : Dict κ ν) (key : κ) :
    (d.update later).get? key = (later.get? key).or (d.get? key) :=
  get?_foldl_set later.entries later.nodupKeys d key

theorem assign_of_not_mem {key : κ} (value : ν) {entries : List (κ × ν)}
    (fresh : key ∉ entries.map Prod.fst) :
    assign key value entries = entries ++ [(key, value)] := by
  induction entries with
  | nil => rfl
  | cons entry rest ih =>
    obtain ⟨other, fresh⟩ := not_or.mp (mt List.mem_cons.mpr fresh)
    simp only [assign, Ne.symm other, if_false, ih fresh, List.cons_append]

/-- Assigning keys that are new appends their entries. -/
theorem entries_foldl_set (entries : List (κ × ν)) (d : Dict κ ν)
    (nodup : ((d.entries ++ entries).map Prod.fst).Nodup) :
    (entries.foldl (fun d entry => d.set entry.1 entry.2) d).entries = d.entries ++ entries := by
  induction entries generalizing d with
  | nil => exact (List.append_nil _).symm
  | cons entry rest ih =>
    have fresh : entry.1 ∉ d.entries.map Prod.fst := by
      rw [List.map_append, List.map_cons] at nodup
      exact fun member => (List.nodup_append.mp nodup).2.2 _ member _ List.mem_cons_self rfl
    have appended : (d.set entry.1 entry.2).entries = d.entries ++ [entry] :=
      assign_of_not_mem entry.2 fresh
    rw [List.foldl_cons, ih _ (by simpa [appended] using nodup), appended, List.append_assoc]
    rfl

/-- The dictionary of assignments with different keys has them as its entries. -/
theorem entries_ofList {entries : List (κ × ν)} (nodup : (entries.map Prod.fst).Nodup) :
    (ofList entries).entries = entries :=
  entries_foldl_set entries empty nodup

theorem keys_foldl_set_subset (entries : List (κ × ν)) (d : Dict κ ν) :
    (entries.foldl (fun d entry => d.set entry.1 entry.2) d).keys ⊆
      d.keys ++ entries.map Prod.fst := by
  induction entries generalizing d with
  | nil => simp
  | cons entry rest ih =>
    intro key member
    have inside := ih (d.set entry.1 entry.2) member
    simp only [List.mem_append, keys, set, mem_keys_assign, List.map_cons, List.mem_cons]
      at inside ⊢
    tauto

/-- Assignments that leave as many entries as they are have different keys. -/
theorem nodup_of_length_ofList {entries : List (κ × ν)}
    (all : (ofList entries).entries.length = entries.length) :
    (entries.map Prod.fst).Nodup := by
  have inside : (ofList entries).keys ⊆ entries.map Prod.fst :=
    keys_foldl_set_subset entries empty
  generalize ofList entries = made at all inside
  have perm : made.keys.Perm (entries.map Prod.fst) :=
    (List.subperm_of_subset made.nodupKeys inside).perm_of_length_le (by simp [all])
  exact perm.nodup_iff.mp made.nodupKeys

section Assigned

variable {α : Type*} (key : α → κ) (value : α → Option ν)

omit [DecidableEq κ] in
theorem map_fst_assigned_sublist (items : List α) :
    ((items.filterMap fun a => (value a).map (key a, ·)).map Prod.fst).Sublist
      (items.map key) := by
  induction items with
  | nil => exact .slnil
  | cons a items ih =>
    cases valued : value a with
    | none => simpa [valued] using ih.cons (key a)
    | some v => simpa [valued] using ih

/-- Where items with different keys are assigned the values that they have, the dictionary has
the value of each item under its key. -/
theorem get?_ofList_assigned {items : List α} (distinct : (items.map key).Nodup) {a : α}
    (member : a ∈ items) :
    (ofList (items.filterMap fun a => (value a).map (key a, ·))).get? (key a) = value a := by
  cases valued : value a with
  | some v =>
    refine get?_of_mem ?_
    rw [entries_ofList (distinct.sublist (map_fst_assigned_sublist key value items))]
    exact List.mem_filterMap.mpr ⟨a, member, by rw [valued, Option.map_some]⟩
  | none =>
    by_contra found
    obtain ⟨v, found⟩ := Option.ne_none_iff_exists'.mp found
    obtain ⟨b, inside, same⟩ := List.mem_filterMap.mp (mem_of_get?_ofList found)
    obtain ⟨v', valued', pair⟩ := Option.map_eq_some_iff.mp same
    have same : b = a :=
      List.inj_on_of_nodup_map distinct inside member (congrArg Prod.fst pair)
    cases valued.symm.trans (same ▸ valued')

/-- Each item under its key. -/
def setEach (d : Dict κ α) (items : List α) : Dict κ α := items.foldl (fun d a => d.set (key a) a) d

theorem setEach_cons (d : Dict κ α) (a : α) (items : List α) :
    d.setEach key (a :: items) = (d.set (key a) a).setEach key items := rfl

theorem get?_setEach {items : List α} (distinct : (items.map key).Nodup) {a : α}
    (member : a ∈ items) : (empty.setEach key items).get? (key a) = some a := by
  have found := get?_ofList_assigned key some distinct member
  simpa [setEach, ofList, List.foldl_map, List.filterMap_eq_map'] using found

/-- The items have different keys, none of them a key of the dictionary. -/
structure Fresh (d : Dict κ ν) (items : List α) : Prop where
  distinct : (items.map key).Nodup
  new : ∀ a ∈ items, d.get? (key a) = none

variable {key} in
theorem Fresh.set {d : Dict κ ν} {a : α} {items : List α} (fresh : d.Fresh key (a :: items))
    (v : ν) : (d.set (key a) v).Fresh key items := by
  obtain ⟨other, distinct⟩ := List.nodup_cons.mp fresh.distinct
  refine ⟨distinct, fun b member => ?_⟩
  rw [get?_set_of_ne]
  · exact fresh.new b (List.mem_cons_of_mem _ member)
  · exact fun same => other (List.mem_map.mpr ⟨b, member, same⟩)

end Assigned

theorem empty_update (d : Dict κ ν) : (empty : Dict κ ν).update d = d := by
  have same : ((empty : Dict κ ν).update d).entries = d.entries :=
    entries_foldl_set d.entries empty d.nodupKeys
  exact ext same

/-! ## Copying some of the entries -/

section FilterMap

variable {μ ξ : Type*} {f : κ → ν → Option μ}

omit [DecidableEq κ] in
theorem map_fst_filterMap_sublist (f : κ → ν → Option μ) (entries : List (κ × ν)) :
    ((entries.filterMap fun entry => (f entry.1 entry.2).map (entry.1, ·)).map Prod.fst).Sublist
      (entries.map Prod.fst) := by
  induction entries with
  | nil => exact .slnil
  | cons entry rest ih =>
    cases kept : f entry.1 entry.2 with
    | none => simpa [kept] using ih.cons entry.1
    | some value => simpa [kept] using ih

def filterMap (f : κ → ν → Option μ) (d : Dict κ ν) : Dict κ μ where
  entries := d.entries.filterMap fun entry => (f entry.1 entry.2).map (entry.1, ·)
  nodupKeys := d.nodupKeys.sublist (map_fst_filterMap_sublist f d.entries)

omit [DecidableEq κ] in
theorem mem_filterMap {d : Dict κ ν} {key : κ} {kept : μ} :
    (key, kept) ∈ (d.filterMap f).entries ↔
      ∃ value, (key, value) ∈ d.entries ∧ f key value = some kept := by
  simp only [filterMap, List.mem_filterMap, Option.map_eq_some_iff, Prod.mk.injEq, Prod.exists]
  constructor
  · rintro ⟨_, value, member, _, found, rfl, rfl⟩
    exact ⟨value, member, found⟩
  · rintro ⟨value, member, found⟩
    exact ⟨key, value, member, kept, found, rfl, rfl⟩

@[simp] theorem get?_filterMap (d : Dict κ ν) (key : κ) :
    (d.filterMap f).get? key = (d.get? key).bind (f key) := by
  ext kept
  constructor
  · intro found
    obtain ⟨value, member, same⟩ := mem_filterMap.mp (mem_of_get? found)
    rw [get?_of_mem member, Option.bind_some, same]
  · intro found
    obtain ⟨value, member, same⟩ := Option.bind_eq_some_iff.mp found
    exact get?_of_mem (mem_filterMap.mpr ⟨value, mem_of_get? member, same⟩)

omit [DecidableEq κ] in
theorem filterMap_filterMap (g : κ → μ → Option ξ) (d : Dict κ ν) :
    (d.filterMap f).filterMap g = d.filterMap fun key value => (f key value).bind (g key) := by
  apply ext
  simp only [filterMap, List.filterMap_filterMap]
  refine List.filterMap_congr fun entry _ => ?_
  cases f entry.1 entry.2 <;> rfl

/-- A loop that assigns some of the entries to a new dictionary. -/
theorem foldlM_filterMap {ε : Type*} {step : Dict κ μ → κ × ν → Except ε (Dict κ μ)}
    {d : Dict κ ν} (steps : ∀ copied, ∀ entry ∈ d.entries,
      step copied entry = .ok ((f entry.1 entry.2).elim copied (copied.set entry.1 ·))) :
    d.entries.foldlM step empty = .ok (d.filterMap f) := by
  have copy (entries : List (κ × ν)) (given : ∀ entry ∈ entries, entry ∈ d.entries)
      (copied : Dict κ μ) : entries.foldlM step copied =
        .ok ((entries.filterMap fun entry => (f entry.1 entry.2).map (entry.1, ·)).foldl
          (fun copied entry => copied.set entry.1 entry.2) copied) := by
    induction entries generalizing copied with
    | nil => rfl
    | cons entry rest ih =>
      obtain ⟨first, given⟩ := List.forall_mem_cons.mp given
      rw [List.foldlM_cons, steps copied entry first]
      cases kept : f entry.1 entry.2 with
      | none => simpa [kept, bind, Except.bind] using ih given copied
      | some value => simpa [kept, bind, Except.bind] using ih given (copied.set entry.1 value)
  rw [copy d.entries (fun _ member => member) empty]
  exact congrArg Except.ok (empty_update (d.filterMap f))

end FilterMap

/-- One value under many keys. -/
def setAll (d : Dict κ ν) (keys : List κ) (value : ν) : Dict κ ν :=
  keys.foldl (fun d key => d.set key value) d

theorem get?_setAll (d : Dict κ ν) (keys : List κ) (value : ν) (k : κ) :
    (d.setAll keys value).get? k = if k ∈ keys then some value else d.get? k := by
  induction keys generalizing d with
  | nil => simp [setAll]
  | cons key rest ih =>
    rw [setAll, List.foldl_cons, ← setAll, ih, get?_set]
    by_cases here : k = key <;> simp [here]

/-- Under every key stands what the last item with this key brings. -/
theorem get?_foldl_setAll {α : Type*} (keys : α → List κ) (value : α → ν) (items : List α)
    (d : Dict κ ν) (k : κ) :
    (items.foldl (fun d item => d.setAll (keys item) (value item)) d).get? k =
      ((items.filter fun item => k ∈ keys item).getLast?.map value).or (d.get? k) := by
  induction items using List.reverseRecOn with
  | nil => rfl
  | append_singleton items item ih =>
    rw [List.foldl_append, List.foldl_cons, List.foldl_nil, get?_setAll, ih, List.filter_append]
    by_cases member : k ∈ keys item <;> simp [member]

/-! ## One key alone -/

/-- The entry of one key, if there is one. -/
def only (key : κ) (d : Dict κ ν) : Dict κ ν := (d.get? key).elim empty (empty.set key ·)

section Total

variable {M : Type*} [AddCommGroup M] (f : ν → M)

def total (d : Dict κ ν) : M := (d.entries.map fun entry => f entry.2).sum

theorem sum_assign (key : κ) (value : ν) (entries : List (κ × ν)) :
    ((assign key value entries).map fun entry => f entry.2).sum =
      (entries.map fun entry => f entry.2).sum + f value -
        (((entries.find? fun entry => entry.1 = key).map Prod.snd).elim 0 f) := by
  induction entries with
  | nil => simp [assign]
  | cons entry rest ih =>
    by_cases replaced : entry.1 = key
    · simp only [assign, replaced, if_true, List.map_cons, List.sum_cons, decide_true,
        List.find?_cons_of_pos, Option.map_some, Option.elim_some]
      abel
    · simp only [assign, replaced, if_false, List.map_cons, List.sum_cons, ih,
        List.find?_cons_of_neg, decide_false, Bool.false_eq_true, not_false_eq_true]
      abel

theorem total_set (d : Dict κ ν) (key : κ) (value : ν) :
    (d.set key value).total f = d.total f + f value - (d.get? key).elim 0 f :=
  sum_assign f key value d.entries

theorem sum_filter_ne (key : κ) (entries : List (κ × ν)) (nodup : (entries.map Prod.fst).Nodup) :
    ((entries.filter fun entry => entry.1 ≠ key).map fun entry => f entry.2).sum =
      (entries.map fun entry => f entry.2).sum -
        (((entries.find? fun entry => entry.1 = key).map Prod.snd).elim 0 f) := by
  induction entries with
  | nil => simp
  | cons entry rest ih =>
    obtain ⟨fresh, rest_nodup⟩ := List.nodup_cons.mp nodup
    by_cases removed : entry.1 = key
    · have kept : rest.filter (fun entry => entry.1 ≠ key) = rest := by
        rw [List.filter_eq_self]
        intro other member
        rw [decide_eq_true_eq]
        rintro rfl
        exact fresh (removed ▸ List.mem_map_of_mem member)
      rw [List.filter_cons_of_neg (by simp [removed]), kept]
      simp [removed]
    · rw [List.filter_cons_of_pos (by simp [removed]), List.map_cons, List.sum_cons,
        ih rest_nodup, List.find?_cons_of_neg (by simp [removed]), List.map_cons, List.sum_cons]
      abel

theorem total_erase (d : Dict κ ν) (key : κ) :
    (d.erase key).total f = d.total f - (d.get? key).elim 0 f :=
  sum_filter_ne f key d.entries d.nodupKeys

omit [DecidableEq κ] in
@[simp] theorem total_empty : (empty : Dict κ ν).total f = 0 := rfl

end Total

end Dict

end OptionProject.Library
