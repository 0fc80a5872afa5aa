import OptionProject.Library.Machine
import OptionProject.Lifecycle.Segments

/-!
# Interleaved calls of a coordinator

Any number of calls of one coordinator, interleaved at their awaits. The admission flags of a
coordinator do not change while a start awaits, so another call can stop the controller under
it, and the start completes all the same; it is the only way in which a started coordinator
comes to a stopped controller.

## Main definitions

* `Interleaving` — the coordinator, its calls, and what they have done to the controller and
  to the callback.
* `Interleaving.Sound` — a started coordinator has a running controller and its transport.
* `Interleaving.Interferes` — the step stops the controller under the start of another call.

## Main results

* `sound_of_not_interferes` — interleavings without interference stay sound.
* `unsound_of_interferes` — a start that completes after an interference is unsound.
-/
namespace OptionProject.Lifecycle
open Library

/-- A call, where it stands, whether it went on after its first segment, and how often the
callback had been run when it began. -/
structure Task where
  call : Call
  point : Point
  entered : Bool
  runsBefore : ℕ
  deriving DecidableEq

/-- A controller rejects a start while it is running. -/
def Answers.ofController (running : Bool) (answers : Answers) : Answers :=
  if running = true ∧ answers.controllerStart = .returned then
    { answers with controllerStart := .raised }
  else answers

/-- The first segment of a call, or the next segment of the call at an index. -/
inductive Step
  | begin (call : Call) (answers : Answers)
  | resume (index : ℕ) (outcome : CallOutcome) (answers : Answers)

structure Interleaving (R : Type) where
  coordinator : LiveRuntimeLifecycleCoordinator R
  tasks : List Task := []
  /-- The controller has been started, and not stopped since. -/
  controllerRunning : Bool := false
  callbackRuns : ℕ := 0
  /-- How often the callback had been run when the last successful start began. -/
  runsBeforeStart : ℕ := 0

namespace Interleaving

variable {R : Type}

def create (callback : Option R) : Interleaving R where
  coordinator := { releaseExecutionTransportOwnership := callback }

/-- What a segment does is recorded. -/
def record (self : Interleaving R) (turn : Turn R) : Interleaving R :=
  { self with
    coordinator := turn.coordinator
    controllerRunning := controllerAfter self.controllerRunning turn.events
    callbackRuns := self.callbackRuns + Lifecycle.callbackRuns turn.events }

/-- The segment of a step, with the call that takes it. -/
def turnOf (self : Interleaving R) : Step → Option (Task × Turn R)
  | .begin call answers =>
    let turn := self.coordinator.begin call (answers.ofController self.controllerRunning)
    let entered := match turn.point with
      | .done _ => false
      | _ => true
    some (⟨call, turn.point, entered, self.callbackRuns⟩, turn)
  | .resume index outcome answers => do
    let task ← self.tasks[index]?
    let turn ← self.coordinator.resume task.point outcome answers
    some (task, turn)

def perform (self : Interleaving R) (step : Step) : Option (Interleaving R) := do
  let (task, turn) ← self.turnOf step
  some (match step with
    | .begin _ _ => { self.record turn with tasks := self.tasks ++ [task] }
    | .resume index outcome _ =>
      { self.record turn with
        tasks := self.tasks.set index { task with point := turn.point }
        runsBeforeStart :=
          if task.point.launches outcome then task.runsBefore else self.runsBeforeStart })

/-- While the coordinator is started and no stop is in progress, the controller has been
started and not stopped since, and the callback has not been run since that start began. -/
def Sound (self : Interleaving R) : Prop :=
  self.coordinator.started = true → (∀ task ∈ self.tasks, task.point.isStopping = false) →
    self.controllerRunning = true ∧ self.callbackRuns = self.runsBeforeStart

/-- The call a step belongs to has the index. -/
def indexOf (self : Interleaving R) : Step → ℕ
  | .begin _ _ => self.tasks.length
  | .resume index _ _ => index

/-- The step stops the controller while the start of another call is in progress. -/
def Interferes (self : Interleaving R) (step : Step) : Prop :=
  (∃ task turn, self.turnOf step = some (task, turn) ∧ stopsController turn.events = true) ∧
    ∃ i task, i ≠ self.indexOf step ∧ self.tasks[i]? = some task ∧ task.point.isStarting = true

/-! ## Steps -/

variable {self next : Interleaving R} {step : Step} {call : Call} {answers : Answers}
  {outcome : CallOutcome} {index : ℕ} {turn : Turn R} {entry : Entry}

/-- A begun call is one more task. -/
theorem perform_begin (performed : self.perform (.begin call answers) = some next) :
    ∃ task turn, self.turnOf (.begin call answers) = some (task, turn) ∧
      task.call = call ∧ task.point = turn.point ∧ task.runsBefore = self.callbackRuns ∧
      (task.entered = true ↔ ∀ result, turn.point ≠ .done result) ∧
      Segment self.coordinator (answers.ofController self.controllerRunning) (.begin call) turn ∧
      next = { self.record turn with tasks := self.tasks ++ [task] } := by
  cases performed
  refine ⟨_, _, rfl, rfl, rfl, rfl, ?_, LiveRuntimeLifecycleCoordinator.begin_segment _ _ _, rfl⟩
  generalize (self.coordinator.begin call (answers.ofController self.controllerRunning)).point = p
  cases p <;> simp

/-- A resumed call stands at another point. -/
theorem perform_resume (performed : self.perform (.resume index outcome answers) = some next) :
    ∃ task turn, self.tasks[index]? = some task ∧
      self.turnOf (.resume index outcome answers) = some (task, turn) ∧
      Segment self.coordinator answers (.resume task.point outcome) turn ∧
      next =
        { self.record turn with
          tasks := self.tasks.set index { task with point := turn.point }
          runsBeforeStart :=
            if task.point.launches outcome then task.runsBefore else self.runsBeforeStart } := by
  simp only [perform, turnOf, Option.bind_eq_bind, Option.bind_eq_some_iff,
    Option.some.injEq] at performed
  obtain ⟨⟨task, turn⟩, ⟨task', known, turn', resumed, same⟩, rfl⟩ := performed
  obtain ⟨rfl, rfl⟩ := Prod.mk.inj same
  refine ⟨task', turn', known, ?_, LiveRuntimeLifecycleCoordinator.resume_segment resumed, rfl⟩
  simp [turnOf, known, resumed]

/-! ## Interference -/

/-- While a start is in progress, the controller runs and the transport is held. -/
structure Undisturbed (now : Interleaving R) : Prop where
  single : ∀ (i j : ℕ) first second, now.tasks[i]? = some first → now.tasks[j]? = some second →
    first.point.isStarting = true → second.point.isStarting = true → i = j
  starting : ∀ (i : ℕ) task, now.tasks[i]? = some task → task.point.isStarting = true →
    now.controllerRunning = true ∧ now.callbackRuns = task.runsBefore ∧
      now.coordinator.started = false
  started : now.coordinator.started = true →
    now.controllerRunning = true ∧ now.callbackRuns = now.runsBeforeStart

theorem Undisturbed.sound (undisturbed : self.Undisturbed) : self.Sound :=
  fun started _ => undisturbed.started started

theorem undisturbed_create (callback : Option R) : (create callback).Undisturbed := by
  refine ⟨?_, ?_, nofun⟩
  · intro i j first second there
    cases there
  · intro i task there
    cases there

/-- A segment that starts keeps what a running controller has. -/
theorem record_of_starts (starts : Starts turn.events) (running : self.controllerRunning = true) :
    (self.record turn).controllerRunning = true ∧
      (self.record turn).callbackRuns = self.callbackRuns := by
  simp only [record, running, starts.controller, starts.callback, Nat.add_zero, and_self]

/-- The segment of another call leaves a start in progress alone, unless it interferes. -/
theorem Undisturbed.other_start (undisturbed : self.Undisturbed) {task : Task}
    (safe : ¬self.Interferes step) (taken : self.turnOf step = some (task, turn))
    (segment : Segment self.coordinator answers entry turn)
    (launches : ∀ policy, entry ≠ .resume (.startingExecution policy) .returned)
    {i : ℕ} {other : Task} (apart : i ≠ self.indexOf step) (known : self.tasks[i]? = some other)
    (starting : other.point.isStarting = true) :
    (self.record turn).controllerRunning = true ∧
      (self.record turn).callbackRuns = other.runsBefore ∧
      (self.record turn).coordinator.started = false := by
  obtain ⟨running, runs, stopped⟩ := undisturbed.starting i other known starting
  have starts : Starts turn.events := by
    rcases segment.stops_or_starts with stops | starts
    · exact absurd ⟨⟨task, turn, taken, stops.stops⟩, i, other, apart, known, starting⟩ safe
    · exact starts
  obtain ⟨running', runs'⟩ := record_of_starts starts running
  refine ⟨running', runs'.trans runs, ?_⟩
  by_contra started
  rw [Bool.not_eq_false] at started
  rcases segment.started_cases started with ⟨⟨policy, launched⟩, -⟩ | ⟨before, -⟩
  · exact launches policy launched
  · cases stopped.symm.trans before

theorem Undisturbed.perform_begin (undisturbed : self.Undisturbed)
    (safe : ¬self.Interferes (.begin call answers))
    (performed : self.perform (.begin call answers) = some next) : next.Undisturbed := by
  obtain ⟨task, turn, taken, -, point, runs, -, segment, rfl⟩ :=
    Interleaving.perform_begin performed
  have entered : task.point.isStarting = true →
      self.controllerRunning = false ∧ turn.coordinator.started = false ∧
        (∀ running, controllerAfter running turn.events = true) ∧ Starts turn.events := by
    intro starting
    obtain ⟨same, ⟨-, accepted, admitted, controller, starts⟩ | ⟨_, _, resumed, -⟩⟩ :=
      segment.starting_cases (point ▸ starting)
    · simp only [LiveRuntimeLifecycleCoordinator.restartAdmitted, Bool.and_eq_true,
        Bool.not_eq_true'] at admitted
      refine ⟨?_, same ▸ admitted.1.1, controller, starts⟩
      unfold Answers.ofController at accepted
      split at accepted
      · cases accepted
      next free => exact Bool.eq_false_iff.mpr fun running => free ⟨running, accepted⟩
    · cases resumed
  have running {i : ℕ} {other : Task} (known : self.tasks[i]? = some other)
      (starting : other.point.isStarting = true) : self.controllerRunning ≠ false := by
    rw [(undisturbed.starting i other known starting).1]
    decide
  refine ⟨?_, ?_, ?_⟩
  · intro i j first second atI atJ startI startJ
    rcases Machine.getElem?_concat atI with oldI | ⟨endI, rfl⟩
    · rcases Machine.getElem?_concat atJ with oldJ | ⟨-, rfl⟩
      · exact undisturbed.single i j first second oldI oldJ startI startJ
      · exact absurd (entered startJ).1 (running oldI startI)
    · rcases Machine.getElem?_concat atJ with oldJ | ⟨endJ, -⟩
      · exact absurd (entered startI).1 (running oldJ startJ)
      · rw [endI, endJ]
  · intro i found there starting
    rcases Machine.getElem?_concat there with old | ⟨-, rfl⟩
    · refine undisturbed.other_start safe taken segment (by simp) ?_ old starting
      exact (List.getElem?_eq_some_iff.mp old).1.ne
    · obtain ⟨-, stopped, controller, starts⟩ := entered starting
      refine ⟨controller _, ?_, stopped⟩
      show self.callbackRuns + Lifecycle.callbackRuns turn.events = _
      rw [starts.callback, runs, Nat.add_zero]
  · intro started
    rcases segment.started_cases started with
      ⟨⟨_, launched⟩, -⟩ | ⟨before, starts | ⟨_, _, resumed⟩⟩
    · cases launched
    · obtain ⟨controller, held⟩ := undisturbed.started before
      exact (record_of_starts starts controller).imp_right fun same => same.trans held
    · cases resumed

theorem Undisturbed.perform_resume (undisturbed : self.Undisturbed)
    (safe : ¬self.Interferes (.resume index outcome answers))
    (performed : self.perform (.resume index outcome answers) = some next) :
    next.Undisturbed := by
  obtain ⟨task, turn, known, taken, segment, rfl⟩ := Interleaving.perform_resume performed
  -- a start in progress after the step was one before it
  have old {i : ℕ} {found : Task}
      (there : (self.tasks.set index { task with point := turn.point })[i]? = some found)
      (starting : found.point.isStarting = true) :
      ∃ before, self.tasks[i]? = some before ∧ before.point.isStarting = true ∧
        before.runsBefore = found.runsBefore := by
    rcases Machine.getElem?_set_cases there with ⟨rfl, rfl⟩ | ⟨-, same⟩
    · refine ⟨task, known, ?_, rfl⟩
      obtain ⟨-, ⟨⟨_, began⟩, -⟩ | ⟨policy, _, resumed, -⟩⟩ := segment.starting_cases starting
      · cases began
      · rw [(Entry.resume.inj resumed).1]
        rfl
    · exact ⟨found, same, starting, rfl⟩
  refine ⟨?_, ?_, ?_⟩
  · intro i j first second atI atJ startI startJ
    obtain ⟨first', oldI, startI', -⟩ := old atI startI
    obtain ⟨second', oldJ, startJ', -⟩ := old atJ startJ
    exact undisturbed.single i j first' second' oldI oldJ startI' startJ'
  · intro i found there starting
    rcases Machine.getElem?_set_cases there with ⟨rfl, rfl⟩ | ⟨apart, same⟩
    · obtain ⟨unchanged, ⟨⟨_, began⟩, -⟩ | ⟨policy, _, resumed, silent⟩⟩ :=
        segment.starting_cases starting
      · cases began
      · have before : task.point.isStarting = true := by
          rw [(Entry.resume.inj resumed).1]
          rfl
        obtain ⟨controller, runs, stopped⟩ := undisturbed.starting _ task known before
        obtain ⟨controller', runs'⟩ := record_of_starts silent.starts controller
        exact ⟨controller', runs'.trans runs, (congrArg _ unchanged).trans stopped⟩
    · refine undisturbed.other_start safe taken segment ?_ apart same starting
      intro policy launched
      have launching : task.point.isStarting = true := by
        rw [(Entry.resume.inj launched).1]
        rfl
      exact apart (undisturbed.single i index found task same known starting launching)
  · intro started
    rcases segment.started_cases started with ⟨⟨policy, launched⟩, silent⟩ | ⟨before, kept⟩
    · obtain ⟨at', rfl⟩ := Entry.resume.inj launched
      have launches : task.point.launches .returned = true := by
        rw [at']
        rfl
      obtain ⟨controller, runs, -⟩ := undisturbed.starting index task known (by rw [at']; rfl)
      obtain ⟨controller', runs'⟩ := record_of_starts silent.starts controller
      refine ⟨controller', runs'.trans (runs.trans ?_)⟩
      rw [launches, if_pos rfl]
    · have other : task.point.isStarting = false := by
        by_contra starting
        rw [Bool.not_eq_false] at starting
        cases (undisturbed.starting index task known starting).2.2.symm.trans before
      obtain ⟨controller, held⟩ := undisturbed.started before
      rcases kept with starts | ⟨cause, _, resumed⟩
      · obtain ⟨controller', runs'⟩ := record_of_starts starts controller
        refine ⟨controller', runs'.trans (held.trans ?_)⟩
        rw [Point.launches_of_isStarting other]
        rfl
      · rw [(Entry.resume.inj resumed).1] at other
        cases other

theorem Undisturbed.perform (undisturbed : self.Undisturbed) (safe : ¬self.Interferes step)
    (performed : self.perform step = some next) : next.Undisturbed := by
  cases step with
  | begin call answers => exact undisturbed.perform_begin safe performed
  | resume index outcome answers => exact undisturbed.perform_resume safe performed

/-- In an interleaving in which no call stops the controller under the start of another one, a
started coordinator always has a running controller and its transport, until it is stopped. -/
theorem sound_of_not_interferes (callback : Option R) (steps : List Step)
    (safe : ∀ now step, Machine.Takes perform (create callback) steps now step →
      ¬now.Interferes step) :
    ∀ now, Machine.Visits perform (create callback) steps now → now.Sound := by
  have undisturbed := Machine.visits_invariant (undisturbed_create callback)
    (fun now step after inv safe performed => inv.perform safe performed) safe
  exact fun now visited => (undisturbed now visited).sound

/-- A coordinator whose start has completed, and none of whose calls is stopping. -/
theorem sound_started :
    ∃ now, Machine.run perform (create (some 7))
        [.begin (.start none) {}, .resume 0 .returned {}] = some now ∧
      now.coordinator.started = true ∧ (∀ task ∈ now.tasks, task.point.isStopping = false) ∧
      now.Sound := by
  refine ⟨_, rfl, rfl, by decide, ?_⟩
  refine sound_of_not_interferes (some 7) [.begin (.start none) {}, .resume 0 .returned {}] ?_ _
    ⟨_, List.prefix_rfl, rfl⟩
  intro now step taken
  simp only [Machine.takes_cons, Machine.takes_nil, and_false, exists_false, or_false] at taken
  rcases taken with ⟨rfl, rfl⟩ | ⟨_, ⟨⟩, ⟨rfl, rfl⟩⟩ <;>
    rintro ⟨-, i, task, apart, known, starting⟩
  · cases known
  · rcases i with _ | i
    · exact apart rfl
    · cases known

/-- A stop that finds nothing to stop runs while a start awaits, and the start completes. -/
theorem started_over_stopped_controller :
    ∃ now, Machine.run perform (create (some 7))
        [.begin (.start none) {}, .begin .stop {}, .resume 0 .returned {}] = some now ∧
      now.tasks.map (·.point) = [.done .returned, .done .returned] ∧
      now.coordinator.started = true ∧ now.controllerRunning = false ∧ now.callbackRuns = 1 ∧
      ¬now.Sound := by
  refine ⟨_, rfl, rfl, rfl, rfl, rfl, ?_⟩
  intro sound
  exact nomatch (sound rfl (by decide)).1

/-- A start that is in progress while another call stops the controller completes as if it had
not: the coordinator is started over a stopped controller. -/
theorem unsound_of_interferes {i : ℕ} {other : Task} {policy : Option ShutdownPolicy}
    {later : Interleaving R} {answers' : Answers}
    (stops : ∃ task turn, self.turnOf step = some (task, turn) ∧
      stopsController turn.events = true)
    (performed : self.perform step = some next) (known : next.tasks[i]? = some other)
    (starting : other.point = .startingExecution policy)
    (idle : ∀ task ∈ next.tasks, task.point.isStopping = false)
    (completed : next.perform (.resume i .returned answers') = some later) : ¬later.Sound := by
  have stopped : next.controllerRunning = false := by
    obtain ⟨task, turn, taken, stops⟩ := stops
    cases step with
    | begin call answers =>
      obtain ⟨task', turn', taken', -, -, -, -, segment, rfl⟩ := perform_begin performed
      obtain ⟨rfl, rfl⟩ := Prod.mk.inj (Option.some.inj (taken.symm.trans taken'))
      exact (segment.stops_of stops).controller _
    | resume index outcome answers =>
      obtain ⟨task', turn', -, taken', segment, rfl⟩ := perform_resume performed
      obtain ⟨rfl, rfl⟩ := Prod.mk.inj (Option.some.inj (taken.symm.trans taken'))
      exact (segment.stops_of stops).controller _
  intro sound
  simp only [perform, turnOf, known, starting, LiveRuntimeLifecycleCoordinator.resume,
    LiveRuntimeLifecycleCoordinator.executionStarted, Option.bind_eq_bind, Option.bind_some,
    Option.some.injEq] at completed
  subst completed
  have running := (sound rfl ?_).1
  · exact nomatch stopped.symm.trans running
  · intro task member
    rcases List.mem_or_eq_of_mem_set member with old | rfl
    · exact idle task old
    · rfl

end Interleaving
end OptionProject.Lifecycle
