import OptionProject.Lifecycle.Interleavings

/-!
# The lifecycle is closed by its failures

Calls of a coordinator one after another, with injected calls that return or raise. After
every call the flags are those of a started, a stopped or a failed coordinator, and a failed
one refuses every further call without touching what was injected.

## Main results

* `Segment.fits` — a segment takes flags that fit its point to flags that fit the next one.
* `fail_closed` — the flags after every call, and what a technical state ends.
-/
namespace OptionProject.Lifecycle
open Library

/-- The injected calls return or raise an `Exception`. -/
structure Answers.Ordinary (answers : Answers) : Prop where
  controllerStart : answers.controllerStart.isOrdinary = true
  startupReconcile : answers.startupReconcile.isOrdinary = true
  controllerStop : answers.controllerStop.isOrdinary = true
  releaseOwnership : answers.releaseOwnership.isOrdinary = true
  cancelReceives : ∀ outcome, answers.cancelReceives = .finished outcome →
    outcome.isOrdinary = true

namespace LiveRuntimeLifecycleCoordinator

variable {R : Type}

def flags (self : LiveRuntimeLifecycleCoordinator R) : Bool × Bool × Option TechnicalState :=
  (self.started, self.stopping, self.technicalState)

/-- Started, stopped, or failed. -/
def Settled (self : LiveRuntimeLifecycleCoordinator R) : Prop :=
  self.flags = (true, false, none) ∨ self.flags = (false, false, none) ∨
    ∃ state, self.flags = (false, true, some state)

/-- The flags of a coordinator while its only call stands at the point. -/
def Fits (self : LiveRuntimeLifecycleCoordinator R) : Point → Prop
  | .startingExecution _ | .closingStartup _ => self.flags = (false, false, none)
  | .receiving _ => self.flags = (true, false, none)
  | .closingExecution | .draining _ | .cancellingReceives _ | .drainingCancelled _ =>
    self.flags = (true, true, none)
  | .done _ => self.Settled

variable {self : LiveRuntimeLifecycleCoordinator R} {point : Point}

theorem fits_iff_of_isStopping (stopping : point.isStopping = true) :
    self.Fits point ↔ self.flags = (true, true, none) := by
  cases point with
  | startingExecution => cases stopping
  | closingStartup => cases stopping
  | receiving => cases stopping
  | done => cases stopping
  | _ => rfl

theorem fits_iff_of_isStarting (starting : point.isStarting = true) :
    self.Fits point ↔ self.flags = (false, false, none) := by
  cases point with
  | startingExecution => rfl
  | closingStartup => rfl
  | _ => cases starting

theorem settled_fail (state : TechnicalState) : (self.fail state).Settled :=
  .inr (.inr ⟨state, rfl⟩)

theorem flags_of_admitted (admitted : self.restartAdmitted = true) :
    self.flags = (false, false, none) := by
  simp only [restartAdmitted, Bool.and_eq_true, Bool.not_eq_true', Option.isNone_iff_eq_none]
    at admitted
  simp [flags, admitted]

theorem Settled.of_started (settled : self.Settled) (started : self.started = true) :
    self.flags = (true, false, none) := by
  rcases settled with running | stopped | ⟨state, failed⟩
  · exact running
  · cases (Prod.mk.inj stopped).1.symm.trans started
  · cases (Prod.mk.inj failed).1.symm.trans started

/-- A coordinator in a technical state refuses every call. -/
theorem begin_of_technicalState {state : TechnicalState} (settled : self.Settled)
    (failed : self.technicalState = some state) (call : Call) (answers : Answers) :
    ∃ e, self.begin call answers = ⟨self, .done (.raised e), []⟩ := by
  have stopped : self.started = false := by
    rcases settled with flags | flags | ⟨_, flags⟩
    · cases (Prod.mk.inj (Prod.mk.inj flags).2).2.symm.trans failed
    · cases (Prod.mk.inj (Prod.mk.inj flags).2).2.symm.trans failed
    · exact (Prod.mk.inj flags).1
  cases call with
  | start policy => exact ⟨_, by simp [begin, beginStart, restartAdmitted, failed]; rfl⟩
  | receiveExecutionOnce => exact ⟨_, by simp [begin, beginReceive, stopped]; rfl⟩
  | stop => exact ⟨_, by simp [begin, beginStop, stopped, failed]; rfl⟩

end LiveRuntimeLifecycleCoordinator

section Fits
open LiveRuntimeLifecycleCoordinator

variable {R : Type} {self : LiveRuntimeLifecycleCoordinator R} {answers : Answers}
  {entry : Entry} {turn : Turn R}

theorem Segment.fits (segment : Segment self answers entry turn) (ordinary : answers.Ordinary)
    (fits : self.Fits entry.point) : turn.coordinator.Fits turn.point := by
  cases segment with
  | refused => exact fits
  | entered admitted => exact flags_of_admitted admitted
  | startInterrupted => exact fits
  | launched => exact .inl rfl
  | startFailed => exact fits
  | startupInterrupted _ starting =>
    exact .inr (.inl ((fits_iff_of_isStarting starting).mp fits))
  | cleanupCancelled => exact settled_fail _
  | unstarted _ _ reason =>
    unfold StopsUnstarted at reason
    split at reason
    · exact fits
    · exact fits
    · exact .inr (.inl fits)
    · exact reason.elim
  | unstartedFailed => exact settled_fail _
  | receiving _ started => exact Settled.of_started fits started
  | received => exact .inl fits
  | stopping started =>
    have := Settled.of_started fits started
    simp_all [flags, Fits]
  | stopMoved before after =>
    exact (fits_iff_of_isStopping after).mpr ((fits_iff_of_isStopping before).mp fits)
  | stopFailed => exact settled_fail _
  | stopped => exact .inr (.inl rfl)
  | stopBroken => exact settled_fail _
  | stopInterrupted _ _ _ abnormal =>
    rcases abnormal with stop | release
    · cases stop.symm.trans ordinary.controllerStop
    · cases release.symm.trans ordinary.releaseOwnership

theorem LiveRuntimeLifecycleCoordinator.Fits.technicalState {point : Point}
    (fits : self.Fits point) (ongoing : point.isDone = false) : self.technicalState = none := by
  cases point with
  | done => cases ongoing
  | _ => exact (Prod.mk.inj (Prod.mk.inj fits).2).2

theorem Answers.Ordinary.ofController (ordinary : answers.Ordinary) (running : Bool) :
    (answers.ofController running).Ordinary := by
  unfold Answers.ofController
  split
  · exact { ordinary with controllerStart := rfl }
  · exact ordinary

end Fits

/-! ## Runs -/

/-- The injected calls of the step return or raise an `Exception`, and so does its await unless
it is cancelled. -/
def Step.Ordinary : Step → Prop
  | .begin _ answers => answers.Ordinary
  | .resume _ outcome answers => outcome ≠ .interrupted ∧ answers.Ordinary

namespace Interleaving

variable {R : Type} {self next : Interleaving R} {step : Step} {index : ℕ} {turn : Turn R}

/-- No call is in progress. -/
def Idle (self : Interleaving R) : Prop := ∀ task ∈ self.tasks, task.point.isDone = true

/-- A call is begun when no other one is in progress. -/
def Sequential (self : Interleaving R) : Step → Prop
  | .begin _ _ => self.Idle
  | .resume _ _ _ => True

/-- No call is in progress and the coordinator is settled, or the flags fit the only one that
is. -/
def Orderly (self : Interleaving R) : Prop :=
  self.Idle ∧ self.coordinator.Settled ∨
    ∃ (index : ℕ) (task : Task), self.tasks[index]? = some task ∧ task.point.isDone = false ∧
      self.coordinator.Fits task.point ∧
      ∀ (i : ℕ) other, i ≠ index → self.tasks[i]? = some other → other.point.isDone = true

/-- The state after a segment of the only call in progress. -/
theorem orderly_of_fits {task : Task} (known : self.tasks[index]? = some task)
    (fits : self.coordinator.Fits task.point)
    (others : ∀ (i : ℕ) other, i ≠ index → self.tasks[i]? = some other →
      other.point.isDone = true) : self.Orderly := by
  cases ended : task.point.isDone with
  | true =>
    refine .inl ⟨?_, ?_⟩
    · intro other member
      obtain ⟨i, there⟩ := List.mem_iff_getElem?.mp member
      by_cases same : i = index
      · subst same
        rwa [← Option.some.inj (known.symm.trans there)]
      · exact others i other same there
    · cases at' : task.point with
      | done result => rwa [at'] at fits
      | _ => simp [at', Point.isDone] at ended
  | false => exact .inr ⟨index, task, known, ended, fits, others⟩

theorem Orderly.settled (orderly : self.Orderly) (idle : self.Idle) :
    self.coordinator.Settled := by
  rcases orderly with ⟨-, settled⟩ | ⟨index, task, known, ongoing, -⟩
  · exact settled
  · cases ongoing.symm.trans (idle task (List.mem_of_getElem? known))

/-- The call that is resumed is the only one in progress. -/
theorem Orderly.resumed {task : Task} (orderly : self.Orderly)
    (known : self.tasks[index]? = some task) (ongoing : task.point.isDone = false) :
    self.coordinator.Fits task.point ∧
      ∀ (i : ℕ) other, i ≠ index → self.tasks[i]? = some other → other.point.isDone = true := by
  rcases orderly with ⟨idle, -⟩ | ⟨index', task', known', -, fits, others⟩
  · cases ongoing.symm.trans (idle task (List.mem_of_getElem? known))
  · by_cases same : index = index'
    · subst same
      cases known.symm.trans known'
      exact ⟨fits, others⟩
    · cases ongoing.symm.trans (others index task same known)

theorem Orderly.perform (orderly : self.Orderly) (sequential : self.Sequential step)
    (ordinary : step.Ordinary) (performed : self.perform step = some next) : next.Orderly := by
  cases step with
  | begin call answers =>
    obtain ⟨task, turn, -, -, at', -, -, segment, rfl⟩ := perform_begin performed
    have fits := segment.fits (ordinary.ofController _) (orderly.settled sequential)
    refine orderly_of_fits List.getElem?_concat_length (at' ▸ fits) ?_
    intro i other apart there
    rcases Machine.getElem?_concat there with old | ⟨last, -⟩
    · exact sequential other (List.mem_of_getElem? old)
    · exact absurd last apart
  | resume index outcome answers =>
    obtain ⟨task, turn, known, -, segment, rfl⟩ := perform_resume performed
    obtain ⟨fits, others⟩ := orderly.resumed known segment.ongoing
    have inside : index < self.tasks.length := (List.getElem?_eq_some_iff.mp known).1
    refine orderly_of_fits (List.getElem?_set_self inside) (segment.fits ordinary.2 fits) ?_
    intro i other apart there
    rcases Machine.getElem?_set_cases there with ⟨same, -⟩ | ⟨-, old⟩
    · exact absurd same apart
    · exact others i other apart old

/-- A technical state is never left. -/
theorem technicalState_perform {state : TechnicalState} (orderly : self.Orderly)
    (sequential : self.Sequential step) (failed : self.coordinator.technicalState = some state)
    (performed : self.perform step = some next) :
    next.coordinator.technicalState = some state := by
  cases step with
  | begin call answers =>
    obtain ⟨e, refused⟩ := LiveRuntimeLifecycleCoordinator.begin_of_technicalState
      (orderly.settled sequential) failed call (answers.ofController self.controllerRunning)
    cases performed
    simpa [record, refused] using failed
  | resume index outcome answers =>
    obtain ⟨task, turn, known, -, segment, rfl⟩ := perform_resume performed
    obtain ⟨fits, -⟩ := orderly.resumed known segment.ongoing
    have clear : self.coordinator.technicalState = none := fits.technicalState segment.ongoing
    cases clear.symm.trans failed

/-- A failed coordinator has no call in progress, and refuses every call. -/
theorem Orderly.refuses {state : TechnicalState} (orderly : self.Orderly)
    (failed : self.coordinator.technicalState = some state) (call : Call) (answers : Answers) :
    ∃ e, self.coordinator.begin call answers = ⟨self.coordinator, .done (.raised e), []⟩ := by
  rcases orderly with ⟨-, settled⟩ | ⟨index, task, -, ongoing, fits, -⟩
  · exact LiveRuntimeLifecycleCoordinator.begin_of_technicalState settled failed call answers
  · cases (fits.technicalState ongoing).symm.trans failed

theorem orderly_create (callback : Option R) : (create callback).Orderly := by
  refine .inl ⟨?_, .inr (.inl rfl)⟩
  intro task member
  cases member

/-- After every call of a sequential run the coordinator is started, stopped or failed, and one
that has failed stays in its technical state and refuses every later call. -/
theorem fail_closed (callback : Option R) (steps : List Step)
    (sequential : ∀ now step, Machine.Takes perform (create callback) steps now step →
      now.Sequential step)
    (ordinary : ∀ step ∈ steps, step.Ordinary) :
    (∀ now, Machine.Visits perform (create callback) steps now → now.Idle →
      now.coordinator.Settled) ∧
    ∀ before later now after state, before ++ later <+: steps →
      Machine.run perform (create callback) before = some now →
      Machine.run perform now later = some after →
      now.coordinator.technicalState = some state →
        after.coordinator.technicalState = some state ∧
        ∀ call answers, ∃ e,
          after.coordinator.begin call answers = ⟨after.coordinator, .done (.raised e), []⟩ := by
  have orderly := Machine.visits_invariant (orderly_create callback)
    (fun now step next orderly taken performed =>
      orderly.perform (sequential now step taken) (ordinary step (Machine.mem_of_takes taken))
        performed)
    (fun _ _ taken => taken)
  refine ⟨fun now visited idle => (orderly now visited).settled idle, ?_⟩
  intro before later now after state le ran ran' failed
  have there : now.Orderly := orderly now ⟨before, (List.prefix_append _ _).trans le, ran⟩
  obtain ⟨orderly', failed'⟩ :
      after.Orderly ∧ after.coordinator.technicalState = some state := by
    refine Machine.visits_invariant
      (P := fun now => now.Orderly ∧ now.coordinator.technicalState = some state)
      ⟨there, failed⟩ ?_ (fun _ _ taken => Machine.takes_of_later le ran taken) after
      ⟨later, List.prefix_rfl, ran'⟩
    intro now step next kept taken performed
    have sequential := sequential now step taken
    exact ⟨kept.1.perform sequential (ordinary step (Machine.mem_of_takes taken)) performed,
      technicalState_perform kept.1 sequential kept.2 performed⟩
  exact ⟨failed', orderly'.refuses failed'⟩

/-- A start fails, and so does the controller's stop after it; the coordinator is asked to stop. -/
theorem fail_closed_failed_start :
    let steps : List Step :=
      [.begin (.start none) {}, .resume 0 .raised {},
        .resume 0 .returned { controllerStop := .raised }, .begin .stop {}]
    ∀ now, Machine.Visits perform (create (some 7)) steps now → now.Idle →
      now.coordinator.Settled := by
  intro steps
  refine (fail_closed (some 7) steps ?_ ?_).1
  · intro now step taken
    simp only [steps, Machine.takes_cons, Machine.takes_nil, and_false, exists_false, or_false]
      at taken
    rcases taken with ⟨rfl, rfl⟩ | ⟨_, ⟨⟩, ⟨rfl, rfl⟩ | ⟨_, ⟨⟩, ⟨rfl, rfl⟩ |
      ⟨_, ⟨⟩, ⟨rfl, rfl⟩⟩⟩⟩
    · intro task member
      cases member
    · trivial
    · trivial
    · intro task member
      rw [List.mem_singleton.mp member]
      rfl
  · intro step member
    have answers : ({} : Answers).Ordinary := ⟨rfl, rfl, rfl, rfl, by simp⟩
    simp only [steps, List.mem_cons, List.not_mem_nil, or_false] at member
    rcases member with rfl | rfl | rfl | rfl
    · exact answers
    · exact ⟨by simp, answers⟩
    · exact ⟨by simp, { answers with controllerStop := rfl }⟩
    · exact answers

end Interleaving
end OptionProject.Lifecycle
