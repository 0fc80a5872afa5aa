import OptionProject.Library.Dict

/-!
# Items registered under their keys

Items are registered one after another under the key that each of them has. An item may come again,
but another item of the same key is a conflict, and it ends the registration.

## Main results

* `registerAll_eq_ok` — what a registration without a conflict holds.
* `exists_registerAll` — items of which any two of one key are the same can be registered.
* `registerAll_eq_error` — a registration that ends names a conflict.
-/
namespace OptionProject.Library.Registered

variable {κ α ε : Type*} [DecidableEq κ] [DecidableEq α] (key : α → κ) (conflict : α → ε)

def register (seen : Dict κ α) (item : α) : Except ε (Dict κ α) :=
  match seen.get? (key item) with
  | some existing =>
    if existing ≠ item then .error (conflict item) else .ok (seen.set (key item) item)
  | none => .ok (seen.set (key item) item)

def registerAll (items : List α) : Except ε (Dict κ α) :=
  items.foldlM (register key conflict) .empty

/-- Any two items of one key are the same. -/
def Consistent (items : List α) : Prop :=
  ∀ a ∈ items, ∀ b ∈ items, key a = key b → a = b

/-- The dictionary has the items under their keys, and nothing else. -/
def Holds (seen : Dict κ α) (items : List α) : Prop :=
  ∀ k a, seen.get? k = some a ↔ a ∈ items ∧ key a = k

variable {key conflict} {seen next : Dict κ α} {items later : List α} {item : α} {e : ε}

omit [DecidableEq α] in
/-- Among different items one is the only one. -/
theorem eq_singleton_iff (nodup : items.Nodup) :
    items = [item] ↔ item ∈ items ∧ ∀ a ∈ items, a = item := by
  constructor
  · rintro rfl
    simp
  · rintro ⟨inside, only⟩
    match items with
    | [] => cases inside
    | [a] => rw [only a List.mem_cons_self]
    | a :: b :: rest =>
      have same : a = b := (only a (by simp)).trans (only b (by simp)).symm
      simp [same] at nodup

omit [DecidableEq α] in
theorem Holds.consistent (holds : Holds key seen items) : Consistent key items := by
  intro a inside b inside' same
  have there := (holds (key b) a).mpr ⟨inside, same⟩
  rw [(holds (key b) b).mpr ⟨inside', rfl⟩] at there
  exact (Option.some.inj there).symm

omit [DecidableEq α] in
theorem Holds.mem_values (holds : Holds key seen items) : item ∈ seen.values ↔ item ∈ items := by
  rw [Dict.mem_values]
  constructor
  · rintro ⟨k, there⟩
    exact ((holds k item).mp there).1
  · exact fun inside => ⟨key item, (holds _ _).mpr ⟨inside, rfl⟩⟩

omit [DecidableEq α] in
theorem Holds.map_values (holds : Holds key seen items) : seen.values.map key = seen.keys := by
  rw [Dict.values, Dict.keys, List.map_map]
  refine List.map_congr_left fun entry member => ?_
  exact ((holds entry.1 entry.2).mp (Dict.get?_of_mem member)).2

theorem register_eq_ok (holds : Holds key seen items)
    (registered : register key conflict seen item = .ok next) :
    Holds key next (items ++ [item]) := by
  have fresh_or_same : ∀ a ∈ items, key a = key item → a = item := by
    intro a inside same
    have there := (holds (key item) a).mpr ⟨inside, same⟩
    simp only [register, there] at registered
    split at registered
    · cases registered
    next known => exact not_not.mp known
  have assigned : next = seen.set (key item) item := by
    unfold register at registered
    grind
  intro k a
  rw [assigned, Dict.get?_set, List.mem_append, List.mem_singleton]
  split
  next here => grind
  next apart =>
    rw [holds]
    grind

theorem exists_register (holds : Holds key seen items)
    (consistent : ∀ a ∈ items, key a = key item → a = item) :
    ∃ next, register key conflict seen item = .ok next := by
  unfold register
  cases there : seen.get? (key item) with
  | none => exact ⟨_, rfl⟩
  | some existing =>
    obtain ⟨inside, same⟩ := (holds _ _).mp there
    obtain rfl := consistent existing inside same
    exact ⟨_, if_neg (not_not.mpr rfl)⟩

theorem register_eq_error (holds : Holds key seen items)
    (refused : register key conflict seen item = .error e) :
    e = conflict item ∧ ∃ a ∈ items, key a = key item ∧ a ≠ item := by
  unfold register at refused
  split at refused
  next existing there =>
    split at refused
    next other =>
      cases refused
      obtain ⟨inside, same⟩ := (holds _ _).mp there
      exact ⟨rfl, existing, inside, same, other⟩
    · cases refused
  · cases refused

/-! ## Many items -/

omit [DecidableEq α] in
theorem holds_empty : Holds key (.empty : Dict κ α) [] := by
  intro k a
  simp [Dict.get?, Dict.empty]

theorem holds_foldlM (holds : Holds key seen items)
    (ran : later.foldlM (register key conflict) seen = .ok next) :
    Holds key next (items ++ later) := by
  induction later generalizing seen items with
  | nil =>
    cases ran
    rwa [List.append_nil]
  | cons item later ih =>
    rw [List.foldlM_cons] at ran
    cases registered : register key conflict seen item with
    | error e =>
      rw [registered] at ran
      cases ran
    | ok after =>
      rw [registered] at ran
      rw [List.append_cons]
      exact ih (register_eq_ok holds registered) ran

/-- A registration holds exactly the items, and had no conflict. -/
theorem registerAll_eq_ok (ran : registerAll key conflict items = .ok next) :
    Holds key next items := holds_foldlM holds_empty ran

theorem exists_foldlM (holds : Holds key seen items)
    (consistent : Consistent key (items ++ later)) :
    ∃ next, later.foldlM (register key conflict) seen = .ok next := by
  induction later generalizing seen items with
  | nil => exact ⟨seen, rfl⟩
  | cons item later ih =>
    obtain ⟨after, registered⟩ : ∃ after, register key conflict seen item = .ok after :=
      exists_register holds fun a inside same =>
        consistent a (by simp [inside]) item (by simp) same
    obtain ⟨next, ran⟩ := ih (register_eq_ok holds registered) (by rwa [← List.append_cons])
    refine ⟨next, ?_⟩
    rw [List.foldlM_cons, registered]
    exact ran

theorem exists_registerAll (consistent : Consistent key items) :
    ∃ next, registerAll key conflict items = .ok next :=
  exists_foldlM holds_empty consistent

theorem foldlM_eq_error (holds : Holds key seen items)
    (refused : later.foldlM (register key conflict) seen = .error e) :
    ∃ a ∈ items ++ later, ∃ b ∈ later, key a = key b ∧ a ≠ b ∧ e = conflict b := by
  induction later generalizing seen items with
  | nil => cases refused
  | cons item later ih =>
    rw [List.foldlM_cons] at refused
    cases registered : register key conflict seen item with
    | error e' =>
      rw [registered] at refused
      cases refused
      obtain ⟨rfl, a, inside, same, other⟩ := register_eq_error holds registered
      exact ⟨a, by simp [inside], item, List.mem_cons_self, same, other, rfl⟩
    | ok after =>
      rw [registered] at refused
      obtain ⟨a, inside, b, inside', conflicts⟩ := ih (register_eq_ok holds registered) refused
      exact ⟨a, by rwa [List.append_cons], b, List.mem_cons_of_mem _ inside', conflicts⟩

/-- A registration that ends names a conflict. -/
theorem registerAll_eq_error (refused : registerAll key conflict items = .error e) :
    ∃ a ∈ items, ∃ b ∈ items, key a = key b ∧ a ≠ b ∧ e = conflict b :=
  foldlM_eq_error holds_empty refused

end OptionProject.Library.Registered
