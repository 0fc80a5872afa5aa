import Mathlib.Data.Finset.Insert
import Mathlib.Logic.Function.Basic

/-!
# Consuming a key before acting on it

A call on a state returns or raises and leaves a state either way. A call is all-or-nothing
when raising leaves the state it found. A gate that runs an action once for each key, and
remembers the key before the action runs, is all-or-nothing exactly where the action cannot
raise: the key of a failed action stays consumed and its next delivery is dropped.

## Main results

* `allOrNothing_consume_iff` — when a consuming gate is all-or-nothing.
-/
namespace OptionProject.Library

variable {ε α σ κ : Type*}

/-- Raising leaves the state the call found. -/
def AllOrNothing (before : σ) (call : Except ε α × σ) : Prop :=
  ∀ e, call.1 = .error e → call.2 = before

theorem AllOrNothing.of_ok {before after : σ} (a : α) :
    AllOrNothing before ((.ok a, after) : Except ε α × σ) := by
  intro e raised
  cases raised

theorem AllOrNothing.of_unchanged (before : σ) (result : Except ε α) :
    AllOrNothing before (result, before) := fun _ _ => rfl

theorem not_allOrNothing {before after : σ} (e : ε) (changed : after ≠ before) :
    ¬AllOrNothing before ((.error e, after) : Except ε α × σ) :=
  fun holds => changed (holds e rfl)

/-- All-or-nothing does not depend on how state and result are presented. -/
theorem allOrNothing_map_iff {τ β : Type*} {f : σ → τ} (injective : f.Injective) (g : α → β)
    (before : σ) (call : Except ε α × σ) :
    AllOrNothing (f before) (call.1.map g, f call.2) ↔ AllOrNothing before call := by
  obtain ⟨result, after⟩ := call
  cases result with
  | ok a => exact ⟨fun _ => .of_ok a, fun _ => .of_ok (g a)⟩
  | error e =>
    constructor
    · intro holds e' _
      exact injective (holds e rfl)
    · intro holds e' _
      exact congrArg f (holds e rfl)

variable [DecidableEq κ]

/-- Act once for each key: drop a seen key, else remember it and act. -/
def consume (key : κ) (seen : Finset κ) (state : σ) (act : σ → Except ε α × σ) :
    Except ε (Option α) × Finset κ × σ :=
  if key ∈ seen then (.ok none, seen, state)
  else ((act state).1.map some, insert key seen, (act state).2)

theorem consume_seen {key : κ} {seen : Finset κ} (known : key ∈ seen) (state : σ)
    (act : σ → Except ε α × σ) : consume key seen state act = (.ok none, seen, state) := by
  simp [consume, known]

theorem consume_fresh {key : κ} {seen : Finset κ} (fresh : key ∉ seen) (state : σ)
    (act : σ → Except ε α × σ) :
    consume key seen state act =
      ((act state).1.map some, insert key seen, (act state).2) := by
  simp [consume, fresh]

/-- A consuming gate is all-or-nothing exactly when the key is seen or the action returns. -/
theorem allOrNothing_consume_iff (key : κ) (seen : Finset κ) (state : σ)
    (act : σ → Except ε α × σ) :
    AllOrNothing (seen, state) (consume key seen state act) ↔
      key ∈ seen ∨ ∃ a, (act state).1 = .ok a := by
  by_cases known : key ∈ seen
  · rw [consume_seen known]
    exact ⟨fun _ => .inl known, fun _ => .of_ok none⟩
  · rw [consume_fresh known]
    have grown : insert key seen ≠ seen := by simpa using known
    cases returned : (act state).1 with
    | ok a => exact ⟨fun _ => .inr ⟨a, rfl⟩, fun _ => .of_ok (some a)⟩
    | error e =>
      refine ⟨fun holds => absurd holds (not_allOrNothing e ?_), ?_⟩
      · exact fun same => grown (congrArg Prod.fst same)
      · rintro (seen_before | ⟨a, eq⟩)
        · exact absurd seen_before known
        · cases eq

end OptionProject.Library
