import Mathlib.Data.List.Basic
import Mathlib.Data.List.Induction
import Mathlib.Data.List.Infix

/-!
# Runs of a machine

A machine takes moves one after another, and a move may be impossible in a state. A run is a
list of moves, each of them possible; the states it visits are those of its prefixes.

## Main definitions

* `Machine.run` — the state after a list of moves.
* `Machine.Visits`, `Machine.Takes` — the states and the moves along a run.
* `Machine.emitting` — a machine that keeps what its evaluations emit.

## Main results

* `Machine.run_invariant` — what every move preserves holds after every run.
* `Machine.forall_visits_iff` — when exactly the moves of a kind break a property, a run keeps
  it exactly when it takes none of them.
* `Machine.follows_iff` — the same for a monitor of what a machine emits.
* `Machine.Once.countP_le` — a monitor with a flag accepts a signal of its kind once.
-/
namespace OptionProject.Library.Machine

variable {σ μ : Type*} (step : σ → μ → Option σ)

def run (s : σ) (moves : List μ) : Option σ := moves.foldlM step s

/-- The run goes through the state. -/
def Visits (s : σ) (moves : List μ) (t : σ) : Prop :=
  ∃ before, before <+: moves ∧ run step s before = some t

/-- The run makes the move in the state. -/
def Takes (s : σ) (moves : List μ) (t : σ) (m : μ) : Prop :=
  ∃ before, before ++ [m] <+: moves ∧ run step s before = some t

variable {step} {s t : σ} {moves later : List μ}

@[simp] theorem run_nil : run step s [] = some s := rfl

theorem run_append : run step s (moves ++ later) = (run step s moves).bind (run step · later) :=
  List.foldlM_append

theorem takes_cons {m m' : μ} :
    Takes step s (m :: moves) t m' ↔
      t = s ∧ m' = m ∨ ∃ u, step s m = some u ∧ Takes step u moves t m' := by
  constructor
  · rintro ⟨_ | ⟨m₁, before⟩, le, there⟩
    · rw [List.nil_append, List.cons_prefix_cons] at le
      exact .inl ⟨(Option.some.inj there).symm, le.1⟩
    · rw [List.cons_append, List.cons_prefix_cons] at le
      obtain ⟨rfl, le⟩ := le
      obtain ⟨u, next, there⟩ := Option.bind_eq_some_iff.mp there
      exact .inr ⟨u, next, before, le, there⟩
  · rintro (⟨rfl, rfl⟩ | ⟨u, next, before, le, there⟩)
    · exact ⟨[], by simp, rfl⟩
    · refine ⟨m :: before, by simpa using le, ?_⟩
      simpa [run, next] using there

@[simp] theorem takes_nil {m : μ} : ¬Takes step s [] t m := by
  rintro ⟨before, le, -⟩
  simp at le

theorem mem_of_takes {m : μ} (takes : Takes step s moves t m) : m ∈ moves := by
  obtain ⟨before, le, -⟩ := takes
  exact le.subset (by simp)

/-- The moves of a later part of a run are moves of the run. -/
theorem takes_of_later {before : List μ} {u : σ} {m : μ} (le : before ++ later <+: moves)
    (ran : run step s before = some t) (takes : Takes step t later u m) :
    Takes step s moves u m := by
  obtain ⟨between, le', there⟩ := takes
  refine ⟨before ++ between, ?_, ?_⟩
  · rw [List.append_assoc]
    exact ((List.prefix_append_right_inj before).mpr le').trans le
  · rw [run_append, ran]
    exact there

theorem run_concat {m : μ} :
    run step s (moves ++ [m]) = some t ↔
      ∃ u, run step s moves = some u ∧ step u m = some t := by
  simp [run, Option.bind_eq_some_iff]

/-- Where every move of a machine is one of another, so is every run. -/
theorem run_of_simulates {τ : Type*} {step' : τ → μ → Option τ} (f : σ → τ)
    (simulates : ∀ u m v, step u m = some v → step' (f u) m = some (f v))
    (ran : run step s moves = some t) : run step' (f s) moves = some (f t) := by
  induction moves using List.reverseRecOn generalizing t with
  | nil => exact congrArg (some <| f ·) (Option.some.inj ran)
  | append_singleton moves m ih =>
    obtain ⟨u, before, last⟩ := run_concat.mp ran
    exact run_concat.mpr ⟨f u, ih before, simulates u m t last⟩

/-- Every part of a run that is possible is possible. -/
theorem run_of_prefix {before : List μ} (ran : run step s moves = some t)
    (le : before <+: moves) : ∃ u, run step s before = some u := by
  obtain ⟨later, rfl⟩ := le
  rw [run_append] at ran
  obtain ⟨u, ran, -⟩ := Option.bind_eq_some_iff.mp ran
  exact ⟨u, ran⟩

/-- Where every move can be traced back, so can every run. -/
theorem run_injective (back : ∀ u v m w, step u m = some w → step v m = some w → u = v)
    {u v w : σ} (ran : run step u moves = some w) (ran' : run step v moves = some w) : u = v := by
  induction moves using List.reverseRecOn generalizing w with
  | nil => exact Option.some.inj (ran.trans ran'.symm)
  | append_singleton moves m ih =>
    obtain ⟨x, before, last⟩ := run_concat.mp ran
    obtain ⟨y, before', last'⟩ := run_concat.mp ran'
    obtain rfl : x = y := back x y m w last last'
    exact ih before before'

theorem run_invariant {P : σ → Prop} (start : P s)
    (move : ∀ u m v, P u → step u m = some v → P v) (ran : run step s moves = some t) : P t := by
  induction moves using List.reverseRecOn generalizing t with
  | nil => exact Option.some.inj ran ▸ start
  | append_singleton moves m ih =>
    obtain ⟨u, before, last⟩ := run_concat.mp ran
    exact move u m t (ih before) last

/-- What every move keeps holds wherever a run goes. -/
theorem visits_kept {P : σ → Prop} (start : P s)
    (move : ∀ u m v, P u → step u m = some v → P v) (visited : Visits step s moves t) : P t := by
  obtain ⟨before, -, ran⟩ := visited
  exact run_invariant start move ran

/-- An invariant that the moves of a run keep holds wherever the run goes. -/
theorem visits_invariant {P : σ → Prop} {safe : σ → μ → Prop} (start : P s)
    (move : ∀ u m v, P u → safe u m → step u m = some v → P v)
    (taken : ∀ u m, Takes step s moves u m → safe u m) :
    ∀ u, Visits step s moves u → P u := by
  rintro u ⟨before, le, there⟩
  induction before using List.reverseRecOn generalizing u with
  | nil => exact Option.some.inj there ▸ start
  | append_singleton before m ih =>
    obtain ⟨v, earlier, last⟩ := run_concat.mp there
    exact move v m u (ih v ((List.prefix_append before [m]).trans le) earlier)
      (taken v m ⟨before, le, earlier⟩) last

/-- Where an invariant lets every safe move be made, a run of safe moves is possible. -/
theorem exists_run {P : σ → Prop} {safe : σ → μ → Prop} (start : P s)
    (move : ∀ u m, P u → safe u m → ∃ v, step u m = some v ∧ P v)
    (taken : ∀ u m, Takes step s moves u m → safe u m) : ∃ t, run step s moves = some t := by
  induction moves generalizing s with
  | nil => exact ⟨s, rfl⟩
  | cons m moves ih =>
    obtain ⟨u, next, kept⟩ := move s m start (taken s m (takes_cons.mpr (.inl ⟨rfl, rfl⟩)))
    obtain ⟨t, ran⟩ := ih kept fun v m' takes => taken v m' (takes_cons.mpr (.inr ⟨u, next, takes⟩))
    refine ⟨t, ?_⟩
    simpa [run, next] using ran

/-- Where every move is possible, every run is. -/
theorem run_total (possible : ∀ u m, ∃ v, step u m = some v) (s : σ) (moves : List μ) :
    ∃ t, run step s moves = some t := by
  induction moves generalizing s with
  | nil => exact ⟨s, rfl⟩
  | cons m moves ih =>
    obtain ⟨u, next⟩ := possible s m
    obtain ⟨t, ran⟩ := ih u
    refine ⟨t, ?_⟩
    simpa [run, next] using ran

/-- Then the moves of a run are those that it takes. -/
theorem exists_takes (possible : ∀ u m, ∃ v, step u m = some v) {m : μ} (mem : m ∈ moves) :
    ∃ u, Takes step s moves u m := by
  obtain ⟨before, later, rfl⟩ := List.append_of_mem mem
  obtain ⟨u, there⟩ := run_total possible s before
  exact ⟨u, before, by simp, there⟩

/-- Under an invariant, let the bad moves be those that lead out of the good states, and all
others keep them. A run visits good states only exactly when it takes no bad move. -/
theorem forall_visits_iff {inv good : σ → Prop} {bad : σ → μ → Prop}
    (start : inv s) (start_good : good s)
    (move : ∀ u m v, inv u → step u m = some v → inv v)
    (keeps : ∀ u m v, inv u → good u → ¬bad u m → step u m = some v → good v)
    (breaks : ∀ u m v, inv u → good u → bad u m → step u m = some v → ¬good v)
    (ran : run step s moves = some t) :
    (∀ u, Visits step s moves u → good u) ↔
      ∀ u m, Takes step s moves u m → ¬bad u m := by
  constructor
  · rintro visited u m ⟨before, le, there⟩ isBad
    obtain ⟨v, next⟩ := run_of_prefix ran le
    obtain ⟨u', there', last⟩ := run_concat.mp next
    obtain rfl : u' = u := Option.some.inj (there'.symm.trans there)
    have there_good : good u' := visited u' ⟨before, (List.prefix_append _ _).trans le, there⟩
    exact breaks u' m v (run_invariant start move there) there_good isBad last
      (visited v ⟨_, le, next⟩)
  · intro safe u visited
    exact (@visits_invariant _ _ step s moves (fun u => inv u ∧ good u) _ ⟨start, start_good⟩
      (fun u m v kept safe next => ⟨move u m v kept.1 next, keeps u m v kept.1 kept.2 safe next⟩)
      safe u visited).2

/-- The same where every move is possible, so that every run is. -/
theorem forall_visits_iff_of_total {inv good : σ → Prop} {bad : σ → μ → Prop}
    (possible : ∀ u m, ∃ v, step u m = some v) (start : inv s) (start_good : good s)
    (move : ∀ u m v, inv u → step u m = some v → inv v)
    (keeps : ∀ u m v, inv u → good u → ¬bad u m → step u m = some v → good v)
    (breaks : ∀ u m v, inv u → good u → bad u m → step u m = some v → ¬good v) :
    (∀ u, Visits step s moves u → good u) ↔
      ∀ u m, Takes step s moves u m → ¬bad u m := by
  obtain ⟨t, ran⟩ := run_total possible s moves
  exact forall_visits_iff start start_good move keeps breaks ran

/-! ## Machines that emit -/

section Emitting

variable {ι ς ρ : Type*} (evaluate : σ → ι → List ς × σ) (monitor : ρ → ς → Option ρ)
  (shown : σ → ρ)

/-- What an evaluation emits is kept beside the state. -/
def emitting (now : σ × List ς) (input : ι) : Option (σ × List ς) :=
  some ((evaluate now.1 input).2, now.2 ++ (evaluate now.1 input).1)

theorem emitting_eq_some {now next : σ × List ς} {input : ι} :
    emitting evaluate now input = some next ↔
      ((evaluate now.1 input).2, now.2 ++ (evaluate now.1 input).1) = next :=
  Option.some_inj

/-- Outputs lead a monitor that can be traced back from one state only. -/
theorem leads_iff {before starts after : ρ} {outputs : List ς}
    (back : ∀ a b signal c, monitor a signal = some c → monitor b signal = some c → a = b)
    (leads : run monitor starts outputs = some after) :
    run monitor before outputs = some after ↔ starts = before :=
  ⟨run_injective back leads, fun same => same ▸ leads⟩

/-- Let the evaluations that lose nothing be those whose outputs lead the monitor from what the
state shows before to what it shows after. Then the outputs of a run lead it all along exactly when
no evaluation loses anything. -/
theorem follows_iff {inv : σ → Prop} {loses : σ → ι → Prop} {inputs : List ι} (start : inv s)
    (keeps : ∀ u input, inv u → inv (evaluate u input).2)
    (leads : ∀ u input, inv u → (run monitor (shown u) (evaluate u input).1 =
      some (shown (evaluate u input).2) ↔ ¬loses u input)) :
    (∀ now, Visits (emitting evaluate) (s, []) inputs now →
      run monitor (shown s) now.2 = some (shown now.1)) ↔
    ∀ now input, Takes (emitting evaluate) (s, []) inputs now input → ¬loses now.1 input := by
  have possible (now : σ × List ς) (input : ι) : ∃ next, emitting evaluate now input = some next :=
    ⟨_, rfl⟩
  have goesOn (now : σ × List ς) (input : ι) (followed : run monitor (shown s) now.2 =
      some (shown now.1)) : run monitor (shown s) (now.2 ++ (evaluate now.1 input).1) =
        run monitor (shown now.1) (evaluate now.1 input).1 := by
    rw [run_append, followed, Option.bind_some]
  refine @forall_visits_iff_of_total _ _ _ (s, []) inputs (fun now => inv now.1)
    (fun now => run monitor (shown s) now.2 = some (shown now.1))
    (fun now input => loses now.1 input) possible start rfl ?_ ?_ ?_
  · rintro now input _ kept ⟨⟩
    exact keeps now.1 input kept
  · rintro now input _ kept followed safe ⟨⟩
    exact (goesOn now input followed).trans ((leads now.1 input kept).mpr safe)
  · rintro now input _ kept followed lost ⟨⟩ follows
    exact (leads now.1 input kept).mp ((goesOn now input followed).symm.trans follows) lost

variable {monitor}

theorem run_map {τ : Type*} (f : τ → ς) (a : ρ) (signals : List τ) :
    run monitor a (signals.map f) = run (fun a signal => monitor a (f signal)) a signals := by
  rw [run, run, List.foldlM_map]

theorem run_cons {a b : ρ} {signal : ς} {signals : List ς} :
    run monitor a (signal :: signals) = some b ↔
      ∃ c, monitor a signal = some c ∧ run monitor c signals = some b := by
  rw [run, List.foldlM_cons]
  exact Option.bind_eq_some_iff

/-- A flag that stays up: signals of one kind find it down and put it up. -/
structure Once (monitor : ρ → ς → Option ρ) (flag : ρ → Bool) (kind : ς → Bool) : Prop where
  stays : ∀ a signal b, monitor a signal = some b → flag a → flag b
  found_down : ∀ a signal b, monitor a signal = some b → kind signal → flag a = false
  put_up : ∀ a signal b, monitor a signal = some b → kind signal → flag b

variable {flag : ρ → Bool} {kind : ς → Bool} {a b : ρ} {signals : List ς}

theorem Once.countP_le (once : Once monitor flag kind) (ran : run monitor a signals = some b) :
    signals.countP kind ≤ if flag a then 0 else 1 := by
  induction signals generalizing a with
  | nil => simp
  | cons signal rest ih =>
    obtain ⟨c, moved, later⟩ := run_cons.mp ran
    have le := ih later
    by_cases here : kind signal
    · rw [List.countP_cons_of_pos here, once.found_down a signal c moved here]
      rw [once.put_up a signal c moved here] at le
      simpa using le
    · rw [List.countP_cons_of_neg here]
      have kept := once.stays a signal c moved
      grind

/-- After a signal that puts the flag up, too, there is none of the kind. -/
theorem Once.pairwise (once : Once monitor flag kind) {other : ς → Bool}
    (put_up : ∀ a signal b, monitor a signal = some b → other signal → flag b)
    (ran : run monitor a signals = some b) :
    signals.Pairwise fun earlier later => other earlier → ¬kind later := by
  induction signals generalizing a with
  | nil => exact .nil
  | cons signal rest ih =>
    obtain ⟨c, moved, later⟩ := run_cons.mp ran
    refine .cons (fun next member before after => ?_) (ih later)
    have none_left := once.countP_le later
    rw [put_up a signal c moved before, if_pos rfl, Nat.le_zero, List.countP_eq_zero] at none_left
    exact none_left next member after

end Emitting

/-! ## Machines of several parts, kept in a list -/

section Parts

variable {α : Type*} {parts : List α} {part found : α} {index i : ℕ}

theorem getElem?_concat (there : (parts ++ [part])[i]? = some found) :
    parts[i]? = some found ∨ i = parts.length ∧ found = part := by
  rcases Nat.lt_or_ge i parts.length with inside | outside
  · exact .inl (by rwa [List.getElem?_append_left inside] at there)
  · rw [List.getElem?_append_right outside, List.getElem?_singleton] at there
    split at there
    · exact .inr ⟨by omega, (Option.some.inj there).symm⟩
    · cases there

theorem getElem?_set_cases (there : (parts.set index part)[i]? = some found) :
    i = index ∧ found = part ∨ i ≠ index ∧ parts[i]? = some found := by
  rw [List.getElem?_set] at there
  split at there
  next same =>
    split at there
    · exact .inl ⟨same.symm, (Option.some.inj there).symm⟩
    · cases there
  next apart => exact .inr ⟨Ne.symm apart, there⟩

/-- A part that is replaced counts as its replacement does. -/
theorem countP_set_add (p : α → Bool) {old : α} (known : parts[index]? = some old) :
    (parts.set index part).countP p + (if p old = true then 1 else 0) =
      parts.countP p + (if p part = true then 1 else 0) := by
  obtain ⟨inside, rfl⟩ := List.getElem?_eq_some_iff.mp known
  rw [List.countP_set inside]
  have counted : p parts[index] = true → 0 < parts.countP p :=
    fun holds => List.countP_pos_iff.mpr ⟨_, List.getElem_mem inside, holds⟩
  grind

/-- Of a kind of which there is at most one part, all parts are the same. -/
theorem eq_of_countP_le_one {p : α → Bool} (one : parts.countP p ≤ 1) (member : found ∈ parts)
    (member' : part ∈ parts) (holds : p found = true) (holds' : p part = true) : found = part := by
  rw [List.countP_eq_length_filter] at one
  have inside := List.mem_filter.mpr ⟨member, holds⟩
  have inside' := List.mem_filter.mpr ⟨member', holds'⟩
  generalize parts.filter p = kept at one inside inside'
  match kept with
  | [] => cases inside
  | [only] => rw [List.mem_singleton.mp inside, List.mem_singleton.mp inside']
  | _ :: _ :: _ => simp at one

/-- The other parts stay. -/
theorem mem_set_of_ne {old : α} (member : found ∈ parts) (known : parts[index]? = some old)
    (apart : found ≠ old) : found ∈ parts.set index part := by
  obtain ⟨i, there⟩ := List.mem_iff_getElem?.mp member
  refine List.mem_iff_getElem?.mpr ⟨i, ?_⟩
  rw [List.getElem?_set_ne, there]
  rintro rfl
  exact apart (Option.some.inj (there.symm.trans known))

end Parts
end OptionProject.Library.Machine
