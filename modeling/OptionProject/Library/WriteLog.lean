import OptionProject.Library.Dict

/-!
# Logs of writes

A table that takes every write answers with the last one of a log. A table that refuses to change a
value answers with the first.

## Main definitions

* `WriteLog.first`, `WriteLog.last` — the first and the last write under a key.

## Main results

* `WriteLog.get?_foldl_set` — what a table holds after a log.
* `WriteLog.last_or_eq` — writes that change no value may as well be ignored.
-/
namespace OptionProject.Library.WriteLog

variable {κ ν : Type*} [DecidableEq κ] {log later : List (κ × ν)} {key : κ} {value : ν}

def first (log : List (κ × ν)) (key : κ) : Option ν :=
  (log.find? fun write => write.1 = key).map Prod.snd

def last (log : List (κ × ν)) (key : κ) : Option ν := first log.reverse key

@[simp] theorem first_nil (key : κ) : first ([] : List (κ × ν)) key = none := rfl

@[simp] theorem last_nil (key : κ) : last ([] : List (κ × ν)) key = none := rfl

theorem first_append (log later : List (κ × ν)) (key : κ) :
    first (log ++ later) key = (first log key).or (first later key) := by
  rw [first, List.find?_append, Option.map_or]
  rfl

theorem last_append (log later : List (κ × ν)) (key : κ) :
    last (log ++ later) key = (last later key).or (last log key) := by
  rw [last, List.reverse_append, first_append]
  rfl

theorem mem_of_first (found : first log key = some value) : (key, value) ∈ log := by
  obtain ⟨write, there, rfl⟩ := Option.map_eq_some_iff.mp found
  obtain rfl : write.1 = key := by simpa using List.find?_some there
  exact List.mem_of_find?_eq_some there

theorem mem_of_last (found : last log key = some value) : (key, value) ∈ log :=
  List.mem_reverse.mp (mem_of_first found)

/-- A value that was written first stays the first. -/
theorem first_of_prefix (le : log <+: later) (found : first log key = some value) :
    first later key = some value := by
  obtain ⟨rest, rfl⟩ := le
  rw [first_append, found, Option.some_or]

/-- Where a key is written with one value only, the first write and the last say the same. -/
theorem last_eq_first (agree : ∀ write ∈ log, ∀ other ∈ log, write.1 = other.1 → write = other)
    (key : κ) : last log key = first log key := by
  cases found : first log key with
  | none =>
    cases found' : last log key with
    | none => rfl
    | some value =>
      have absent := List.find?_eq_none.mp (Option.map_eq_none_iff.mp found)
      exact absurd (absent _ (mem_of_last found')) (by simp)
  | some value =>
    cases found' : last log key with
    | none =>
      have absent := List.find?_eq_none.mp (Option.map_eq_none_iff.mp found')
      exact absurd (absent _ (List.mem_reverse.mpr (mem_of_first found))) (by simp)
    | some other =>
      have same := agree _ (mem_of_first found) _ (mem_of_last found') rfl
      rw [(Prod.mk.inj same).2]

/-- The writes change none of the values that are there. -/
theorem last_or_eq {there : κ → Option ν}
    (unchanged : ∀ write ∈ log, ∀ value, there write.1 = some value → value = write.2) (key : κ) :
    (last log key).or (there key) = (there key).or (last log key) := by
  cases found : last log key with
  | none => simp
  | some value =>
    cases before : there key with
    | none => rfl
    | some old =>
      rw [Option.some_or, Option.some_or, unchanged _ (mem_of_last found) old before]

/-- A table holds the last write under each key. -/
theorem get?_foldl_set (log : List (κ × ν)) (d : Dict κ ν) (key : κ) :
    (log.foldl (fun d write => d.set write.1 write.2) d).get? key =
      (last log key).or (d.get? key) := by
  induction log generalizing d with
  | nil => rfl
  | cons write rest ih =>
    rw [List.foldl_cons, ih, Dict.get?_set, ← List.singleton_append, last_append, Option.or_assoc]
    congr 1
    by_cases here : write.1 = key
    · simp [last, first, here]
    · simp [last, first, here, Ne.symm here]

end OptionProject.Library.WriteLog
