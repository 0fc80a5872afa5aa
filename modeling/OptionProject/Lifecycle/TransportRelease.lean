import OptionProject.Library.Machine
import OptionProject.Lifecycle.Segments

/-!
# When the transport is released

Starts and stops of one coordinator, called one after another with any receives beside them. The
callback that releases the transport is to run only after the controller was stopped, and after
an execution that was started has been closed. The cleanup of a failed start forgets that its
`close_execution` raised, and an exception that no handler catches leaves an open execution
behind an unstarted coordinator.

## Main definitions

* `CallSequence` — the coordinator, its call, and everything that was done to the outside.
* `Watch` — what the events say about the controller and the execution.
* `CallSequence.Leaks` — the segments that leave an open execution to be forgotten.

## Main results

* `CallSequence.releases_in_order` — the runs in which the transport is released in order.
* `CallSequence.releases_open_of_leaks` — after a leak at most a stop is missing for a release
  over an open execution.
-/
namespace OptionProject.Lifecycle
open Library

/-! ## Calls one after another -/

/-- The first segment of a start or a stop, the next one, or those of a receive. -/
inductive CallStep
  | start (policy : Option ShutdownPolicy) (answers : Answers)
  | stop (answers : Answers)
  | resume (outcome : CallOutcome) (answers : Answers)
  | receive (answers : Answers)
  | received (index : ℕ) (outcome : CallOutcome)

/-- A coordinator, the point of its start or stop, the tasks of its receives, and the events. -/
structure CallSequence (R : Type) where
  coordinator : LiveRuntimeLifecycleCoordinator R
  point : Point := .done .returned
  receives : List (Option ℕ) := []
  events : List (Event R) := []

namespace CallSequence

variable {R : Type}

def create (callback : Option R) : CallSequence R where
  coordinator := { releaseExecutionTransportOwnership := callback }

/-- The segment of a start or stop is done. -/
def moved (self : CallSequence R) (turn : Turn R) : CallSequence R :=
  { self with
    coordinator := turn.coordinator
    point := turn.point
    events := self.events ++ turn.events }

/-- The segment of a receive is done. -/
def beside (self : CallSequence R) (turn : Turn R) (receives : List (Option ℕ)) :
    CallSequence R :=
  { self with
    coordinator := turn.coordinator
    receives
    events := self.events ++ turn.events }

def perform (self : CallSequence R) : CallStep → Option (CallSequence R)
  | .start policy answers =>
    if self.point.isDone then
      some (self.moved (self.coordinator.begin (.start policy) answers))
    else none
  | .stop answers =>
    if self.point.isDone then some (self.moved (self.coordinator.begin .stop answers)) else none
  | .resume outcome answers => do
    let turn ← self.coordinator.resume self.point outcome answers
    some (self.moved turn)
  | .receive answers =>
    let turn := self.coordinator.begin .receiveExecutionOnce answers
    some (self.beside turn (match turn.point with
      | .receiving task => self.receives ++ [task]
      | _ => self.receives))
  | .received index outcome => do
    let task ← self.receives[index]?
    let turn ← self.coordinator.resume (.receiving task) outcome {}
    some (self.beside turn (self.receives.eraseIdx index))

end CallSequence

/-! ## What the events say -/

/-- The controller was stopped and not started since; a start of the execution was attempted
and it was not closed since. -/
structure Watch where
  controllerStopped : Bool := false
  executionOpen : Bool := false
  deriving DecidableEq

/-- The monitor of the events: it refuses a release before the controller is stopped or while
the execution is open. -/
def Watch.observe {R : Type} (watch : Watch) : Event R → Option Watch
  | .called .controllerStart => some { watch with controllerStopped := false }
  | .ended .controllerStop outcome => some { watch with controllerStopped := outcome = .returned }
  | .called .startExecution => some { watch with executionOpen := true }
  | .ended .closeExecution .returned => some { watch with executionOpen := false }
  | .released _ _ => if watch.controllerStopped && !watch.executionOpen then some watch else none
  | _ => some watch

/-- The transport is released only in order. -/
def ReleasesInOrder {R : Type} (events : List (Event R)) : Prop :=
  ∃ watch, Machine.run Watch.observe {} events = some watch

/-- The segment runs the `finally` block of a stop that was neither cancelled nor timed out. -/
def Point.finishesStop : Point → CallOutcome → Answers → Prop
  | .draining _, outcome, answers =>
    outcome = .returned ∨ outcome = .interrupted ∨
      outcome = .raised ∧ answers.cancelReceives = .finished .interrupted
  | .cancellingReceives _, outcome, _ => outcome = .interrupted
  | .drainingCancelled _, outcome, _ => outcome = .returned ∨ outcome = .interrupted
  | _, _, _ => False

/-- The stop goes on after a `close_execution` that raised. -/
def Point.closeFailed : Point → Bool
  | .draining failed | .cancellingReceives failed | .drainingCancelled failed => failed
  | _ => false

/-- A segment that goes on, or ends in no technical state, over an execution that is open. -/
def Point.leaks (point : Point) (outcome : CallOutcome) (answers : Answers) : Prop :=
  match point with
  | .startingExecution _ => outcome = .interrupted
  | .closingStartup _ =>
    outcome = .interrupted ∨ outcome = .raised ∧ answers.controllerStop ≠ .raised
  | .closingExecution => outcome = .interrupted ∧ answers.controllerStop ≠ .raised
  | point =>
    point.closeFailed = true ∧ point.finishesStop outcome answers ∧
      answers.controllerStop.isOrdinary = false

namespace CallSequence

variable {R : Type}

/-- The start or stop of a coordinator with its callback leaks. -/
def Leaks (self : CallSequence R) : CallStep → Prop
  | .resume outcome answers =>
    self.coordinator.releaseExecutionTransportOwnership.isSome = true ∧
      self.point.leaks outcome answers
  | _ => False

end CallSequence

/-! ## What a segment keeps -/

section Segments

variable {R : Type} {self : LiveRuntimeLifecycleCoordinator R} {watch w : Watch}
  {answers : Answers} {outcome : CallOutcome} {point : Point} {turn : Turn R}
  {events : List (Event R)}

/-- An execution is open while a call says so; beside that only a started coordinator has one,
or one in a technical state, or one that has no callback to run. -/
def LiveRuntimeLifecycleCoordinator.Accounts (self : LiveRuntimeLifecycleCoordinator R)
    (executionOpen : Bool) : Point → Prop
  | .startingExecution _ | .closingStartup _ =>
    executionOpen = true ∧ self.started = false ∧ self.technicalState = none
  | .closingExecution => executionOpen = true ∧ self.technicalState = none
  | .draining failed | .cancellingReceives failed | .drainingCancelled failed =>
    executionOpen = failed ∧ self.technicalState = none
  | .receiving _ => False
  | .done _ =>
    (self.started = true → executionOpen = true ∧ self.technicalState = none) ∧
      (self.releaseExecutionTransportOwnership.isSome = true → self.started = false →
        self.technicalState = none → executionOpen = false)

/-- The monitor accepts what the segment does, and the coordinator accounts for the execution. -/
def Turn.InOrder (turn : Turn R) (watch : Watch) : Prop :=
  ∃ after, Machine.run Watch.observe watch turn.events = some after ∧
    turn.coordinator.Accounts after.executionOpen turn.point

/-- An unstarted coordinator in no technical state, whose callback a stop would run over an
execution that is open. -/
def LiveRuntimeLifecycleCoordinator.Left (self : LiveRuntimeLifecycleCoordinator R)
    (watch : Watch) : Prop :=
  watch.executionOpen = true ∧ self.started = false ∧ self.technicalState = none ∧
    ∃ callback, self.releaseExecutionTransportOwnership = some callback

/-- The monitor refuses what the segment does, or the segment leaves such a coordinator. -/
def Turn.Leaves (turn : Turn R) (watch : Watch) : Prop :=
  Machine.run Watch.observe watch turn.events = none ∨
    ∃ after, Machine.run Watch.observe watch turn.events = some after ∧
      turn.point.isDone = true ∧ turn.coordinator.Left after

theorem Turn.Leaves.after (leaves : turn.Leaves w)
    (ran : Machine.run Watch.observe watch events = some w) :
    (turn.after events).Leaves watch := by
  simpa only [Turn.Leaves, Turn.after, Machine.run_append, ran, Option.bind_some] using leaves

theorem Turn.InOrder.after (inOrder : turn.InOrder w)
    (ran : Machine.run Watch.observe watch events = some w) :
    (turn.after events).InOrder watch := by
  obtain ⟨after, later, accounts⟩ := inOrder
  refine ⟨after, ?_, accounts⟩
  simp only [Turn.after, Machine.run_append, ran, Option.bind_some, later]

namespace LiveRuntimeLifecycleCoordinator

theorem finish_inOrder (accounts : ∀ result, self.Accounts watch.executionOpen (.done result))
    (result : CallResult) : (self.finish result).InOrder watch :=
  ⟨watch, rfl, accounts result⟩

/-- An unstarted coordinator accounts for its execution if it is in a technical state, has no
callback, or has it closed. -/
theorem unstarted_inOrder {result : CallResult} (stopped : self.started = false)
    (closed : self.technicalState = none →
      self.releaseExecutionTransportOwnership.isSome = true → watch.executionOpen = false) :
    (self.finish result).InOrder watch := by
  refine finish_inOrder (fun _ => ⟨?_, fun held _ clear => closed clear held⟩) result
  intro started
  cases stopped.symm.trans started

theorem fail_inOrder (state : TechnicalState) (result : CallResult) :
    ((self.fail state).finish result).InOrder watch := by
  refine unstarted_inOrder rfl ?_
  intro clear
  cases clear

/-- After the controller has stopped, and with no execution open, the callback may be run. -/
theorem releaseTransportOwnership_inOrder (answers : Answers)
    (closed : self.releaseExecutionTransportOwnership.isSome = true →
      watch.executionOpen = false) :
    ∃ outcome callback events,
      self.releaseTransportOwnership answers =
        (outcome, { self with releaseExecutionTransportOwnership := callback }, events) ∧
      (callback.isSome = true → watch.executionOpen = false) ∧
      Machine.run Watch.observe watch (made .controllerStop .returned ++ events) =
        some { watch with controllerStopped := true } := by
  rcases self.releaseTransportOwnership_cases answers with ⟨-, same⟩ | ⟨callback, held, released⟩
  · exact ⟨_, _, _, same, fun held => closed held, rfl⟩
  · have closed : watch.executionOpen = false := closed (by rw [held]; rfl)
    refine ⟨_, _, _, released, fun _ => closed, ?_⟩
    simp [Machine.run, made, Watch.observe, closed]

theorem run_controllerStop (outcome : CallOutcome) :
    Machine.run (Watch.observe (R := R)) watch (made .controllerStop outcome) =
      some { watch with controllerStopped := outcome = .returned } := by
  simp [Machine.run, made, Watch.observe]

theorem stopAndRelease_inOrder (stopped : self.started = false)
    (closed : self.releaseExecutionTransportOwnership.isSome = true →
      watch.executionOpen = true → answers.controllerStop = .raised) (result : CallResult) :
    (self.stopAndRelease answers result).InOrder watch := by
  have closed (normal : answers.controllerStop ≠ .raised)
      (held : self.releaseExecutionTransportOwnership.isSome = true) :
      watch.executionOpen = false := by
    by_contra isOpen
    exact normal (closed held (by simpa using isOpen))
  have abnormal (normal : answers.controllerStop ≠ .raised) (controllerStopped : Bool)
      (result : CallResult) :
      (self.finish result).InOrder { watch with controllerStopped } :=
    unstarted_inOrder stopped fun _ => closed normal
  unfold stopAndRelease
  cases stop : answers.controllerStop with
  | returned =>
    obtain ⟨outcome, callback, events, released, held, ran⟩ :=
      releaseTransportOwnership_inOrder answers (closed (by simp [stop]))
    have ended (result : CallResult) :
        (finish { self with releaseExecutionTransportOwnership := callback } result).InOrder
          { watch with controllerStopped := true } :=
      unstarted_inOrder stopped fun _ => held
    rw [released]
    refine Turn.InOrder.after ?_ ran
    cases outcome with
    | returned => exact ended _
    | raised => exact fail_inOrder _ _
    | cancelled => exact ended _
    | interrupted => exact ended _
  | raised => exact (fail_inOrder _ _).after (run_controllerStop _)
  | cancelled => exact (abnormal (by simp [stop]) _ _).after (run_controllerStop _)
  | interrupted => exact (abnormal (by simp [stop]) _ _).after (run_controllerStop _)

theorem finishStop_inOrder {closeFailed : Bool}
    (closed : self.releaseExecutionTransportOwnership.isSome = true →
      watch.executionOpen = true → answers.controllerStop = .raised ∨
        closeFailed = true ∧ answers.controllerStop = .returned) (result : CallResult) :
    (self.finishStop closeFailed result answers).InOrder watch := by
  have closed (normal : answers.controllerStop ≠ .raised)
      (went : closeFailed = false ∨ answers.controllerStop ≠ .returned)
      (held : self.releaseExecutionTransportOwnership.isSome = true) :
      watch.executionOpen = false := by
    by_contra isOpen
    have := closed held (by simpa using isOpen)
    simp_all
  have abnormal (normal : answers.controllerStop ≠ .raised)
      (other : answers.controllerStop ≠ .returned) (controllerStopped : Bool)
      (result : CallResult) :
      (finish { self with started := false } result).InOrder { watch with controllerStopped } :=
    unstarted_inOrder rfl fun _ => closed normal (.inr other)
  unfold finishStop
  cases stop : answers.controllerStop with
  | returned =>
    cases closeFailed with
    | true => exact (fail_inOrder _ _).after (run_controllerStop _)
    | false =>
      obtain ⟨outcome, callback, events, released, held, ran⟩ :=
        @releaseTransportOwnership_inOrder _ { self with started := false } _ answers
          (closed (by simp [stop]) (.inl rfl))
      have ended (stopping : Bool) (technicalState : Option TechnicalState)
          (result : CallResult) :
          (finish { self with
              started := false
              releaseExecutionTransportOwnership := callback
              stopping
              technicalState } result).InOrder { watch with controllerStopped := true } :=
        unstarted_inOrder rfl fun _ => held
      simp only [Bool.false_eq_true, if_false, released]
      refine Turn.InOrder.after ?_ ran
      cases outcome with
      | returned => exact ended _ _ _
      | raised => exact fail_inOrder _ _
      | cancelled => exact ended _ _ _
      | interrupted => exact ended _ _ _
  | raised => exact (fail_inOrder _ _).after (run_controllerStop _)
  | cancelled =>
    exact (abnormal (by simp [stop]) (by simp [stop]) _ _).after (run_controllerStop _)
  | interrupted =>
    exact (abnormal (by simp [stop]) (by simp [stop]) _ _).after (run_controllerStop _)

theorem abandonStart_inOrder {call : Injected} (stopped : self.started = false)
    (closed : self.releaseExecutionTransportOwnership.isSome = true →
      watch.executionOpen = false) :
    (self.abandonStart call outcome answers).InOrder watch := by
  unfold abandonStart
  split
  · exact unstarted_inOrder stopped fun _ => closed
  · refine stopAndRelease_inOrder stopped ?_ _
    intro held isOpen
    cases (closed held).symm.trans isOpen

theorem beginStart_inOrder (policy : Option ShutdownPolicy)
    (admitted : self.restartAdmitted = true)
    (closed : self.releaseExecutionTransportOwnership.isSome = true →
      watch.executionOpen = false) : (self.beginStart policy answers).InOrder watch := by
  have ⟨stopped, clear⟩ : self.started = false ∧ self.technicalState = none := by
    simp only [restartAdmitted, Bool.and_eq_true, Bool.not_eq_true', Option.isNone_iff_eq_none]
      at admitted
    exact ⟨admitted.1.1, admitted.2⟩
  unfold beginStart
  rw [admitted]
  split
  next refused => cases refused
  split
  · exact Turn.InOrder.after (w := { watch with controllerStopped := false })
      (abandonStart_inOrder stopped closed) rfl
  split
  · exact Turn.InOrder.after (w := { watch with controllerStopped := false })
      (abandonStart_inOrder stopped closed) rfl
  · exact ⟨{ watch with controllerStopped := false, executionOpen := true }, rfl, rfl, stopped,
      clear⟩

theorem begin_inOrder {result : CallResult} (accounts : self.Accounts watch.executionOpen
    (.done result)) {call : Call} (other : call ≠ .receiveExecutionOnce) :
    (self.begin call answers).InOrder watch := by
  have unchanged (result : CallResult) : (self.finish result).InOrder watch :=
    finish_inOrder (fun _ => accounts) result
  cases call with
  | receiveExecutionOnce => exact absurd rfl other
  | start policy =>
    show (self.beginStart policy answers).InOrder watch
    by_cases admitted : self.restartAdmitted = true
    · refine beginStart_inOrder policy admitted fun held => accounts.2 held ?_ ?_
      all_goals simp_all [restartAdmitted]
    · unfold beginStart
      rw [Bool.not_eq_true] at admitted
      rw [admitted]
      exact unchanged _
  | stop =>
    show (self.beginStop answers).InOrder watch
    unfold beginStop
    split
    next idle =>
      have stopped : self.started = false := by simpa using idle
      split
      · exact unchanged _
      next clear =>
        refine stopAndRelease_inOrder stopped ?_ _
        intro held isOpen
        have := accounts.2 held stopped (by simpa using clear)
        cases this.symm.trans isOpen
    next running =>
      have running : self.started = true := by simpa using running
      cases shutdownTimeouts self.policy with
      | error e => exact unchanged _
      | ok timeouts => exact ⟨watch, rfl, accounts.1 running⟩

/-- At the end of a stop the execution is open if its close failed. -/
theorem finishStop_of_accounts {closeFailed : Bool} (account : watch.executionOpen = closeFailed)
    (sound : self.releaseExecutionTransportOwnership.isSome = true → closeFailed = true →
      answers.controllerStop.isOrdinary = true) (result : CallResult) :
    (self.finishStop closeFailed result answers).InOrder watch := by
  refine finishStop_inOrder ?_ result
  intro held isOpen
  have failed : closeFailed = true := account.symm.trans isOpen
  have ordinary := sound held failed
  cases stop : answers.controllerStop with
  | returned => exact .inr ⟨failed, rfl⟩
  | raised => exact .inl rfl
  | cancelled => simp [stop, CallOutcome.isOrdinary] at ordinary
  | interrupted => simp [stop, CallOutcome.isOrdinary] at ordinary

theorem receivesCancelled_inOrder {closeFailed : Bool}
    (account : watch.executionOpen = closeFailed) (clear : self.technicalState = none)
    (sound : self.releaseExecutionTransportOwnership.isSome = true → closeFailed = true →
      outcome = .interrupted → answers.controllerStop.isOrdinary = true) :
    (self.receivesCancelled closeFailed outcome answers).InOrder watch := by
  refine Turn.InOrder.after ?_ rfl
  cases outcome with
  | returned => exact ⟨watch, rfl, account, clear⟩
  | raised => exact fail_inOrder _ _
  | cancelled => exact fail_inOrder _ _
  | interrupted =>
    exact finishStop_of_accounts account (fun held failed => sound held failed rfl) _

theorem cancelInflightReceives_inOrder {closeFailed : Bool}
    (account : watch.executionOpen = closeFailed) (clear : self.technicalState = none)
    (sound : self.releaseExecutionTransportOwnership.isSome = true → closeFailed = true →
      answers.cancelReceives = .finished .interrupted →
      answers.controllerStop.isOrdinary = true) :
    (self.cancelInflightReceives closeFailed answers).InOrder watch := by
  unfold cancelInflightReceives
  cases hook : answers.cancelReceives with
  | absent =>
    refine ⟨watch, ?_, account, clear⟩
    generalize self.receiveTasks.filter _ = tasks
    induction tasks with
    | nil => rfl
    | cons task tasks ih => exact ih
  | finished outcome =>
    refine (receivesCancelled_inOrder account clear ?_).after rfl
    intro held failed interrupted
    exact sound held failed (interrupted ▸ hook)
  | awaitable => exact ⟨watch, rfl, account, clear⟩

theorem drained_inOrder {closeFailed : Bool} {timedOut : Turn R}
    (account : watch.executionOpen = closeFailed)
    (timeout : outcome = .raised → timedOut.InOrder watch)
    (sound : self.releaseExecutionTransportOwnership.isSome = true → closeFailed = true →
      outcome = .returned ∨ outcome = .interrupted → answers.controllerStop.isOrdinary = true)
    (resumed : self.drained closeFailed outcome answers timedOut = some turn) :
    turn.InOrder watch := by
  cases outcome with
  | returned =>
    simp only [drained, Option.ite_none_right_eq_some, Option.some.injEq] at resumed
    obtain ⟨-, rfl⟩ := resumed
    exact finishStop_of_accounts account (fun held failed => sound held failed (.inl rfl)) _
  | raised => exact Option.some.inj resumed ▸ timeout rfl
  | cancelled => exact Option.some.inj resumed ▸ fail_inOrder _ _
  | interrupted =>
    cases resumed
    exact finishStop_of_accounts account (fun held failed => sound held failed (.inr rfl)) _

theorem executionStarted_inOrder {policy : Option ShutdownPolicy}
    (isOpen : watch.executionOpen = true) (stopped : self.started = false)
    (clear : self.technicalState = none)
    (sound : self.releaseExecutionTransportOwnership.isSome = true → outcome ≠ .interrupted) :
    (self.executionStarted policy outcome).InOrder watch := by
  refine Turn.InOrder.after (w := watch) ?_ (by cases outcome <;> rfl)
  cases outcome with
  | returned =>
    refine finish_inOrder (fun _ => ⟨fun _ => ⟨isOpen, rfl⟩, ?_⟩) _
    intro _ stopped'
    cases stopped'
  | raised => exact ⟨watch, rfl, isOpen, stopped, clear⟩
  | cancelled => exact ⟨watch, rfl, isOpen, stopped, clear⟩
  | interrupted => exact unstarted_inOrder stopped fun _ held => absurd rfl (sound held)

theorem startupClosed_inOrder {cause : Thrown} (stopped : self.started = false)
    (sound : self.releaseExecutionTransportOwnership.isSome = true →
      ¬(Point.closingStartup cause).leaks outcome answers) :
    (self.startupClosed cause outcome answers).InOrder watch := by
  cases outcome with
  | returned =>
    refine Turn.InOrder.after (w := { watch with executionOpen := false })
      (stopAndRelease_inOrder stopped ?_ _) rfl
    intro _ isOpen
    cases isOpen
  | raised =>
    refine Turn.InOrder.after (w := watch) (stopAndRelease_inOrder stopped ?_ _) rfl
    intro held _
    by_contra normal
    exact sound held (.inr ⟨rfl, normal⟩)
  | cancelled => exact Turn.InOrder.after (w := watch) (fail_inOrder _ _) rfl
  | interrupted =>
    refine Turn.InOrder.after (w := watch) ?_ rfl
    exact unstarted_inOrder stopped fun _ held => absurd (.inl rfl) (sound held)

theorem executionClosed_inOrder (isOpen : watch.executionOpen = true)
    (clear : self.technicalState = none)
    (sound : self.releaseExecutionTransportOwnership.isSome = true →
      ¬Point.closingExecution.leaks outcome answers) :
    (self.executionClosed outcome answers).InOrder watch := by
  cases outcome with
  | returned => exact ⟨{ watch with executionOpen := false }, rfl, rfl, clear⟩
  | raised => exact ⟨watch, rfl, isOpen, clear⟩
  | cancelled => exact Turn.InOrder.after (w := watch) (fail_inOrder _ _) rfl
  | interrupted =>
    refine Turn.InOrder.after (w := watch) (finishStop_inOrder ?_ _) rfl
    intro held _
    by_contra abnormal
    exact sound held ⟨rfl, fun raised => abnormal (.inl raised)⟩

theorem resume_inOrder (accounts : self.Accounts watch.executionOpen point)
    (sound : self.releaseExecutionTransportOwnership.isSome = true →
      ¬point.leaks outcome answers)
    (resumed : self.resume point outcome answers = some turn) : turn.InOrder watch := by
  -- a wait at the end of a stop leaks only when it ends the stop
  have ending {closeFailed : Bool} (waits : point.closeFailed = closeFailed)
      (leaks : point.leaks outcome answers ↔ point.closeFailed = true ∧
        point.finishesStop outcome answers ∧ answers.controllerStop.isOrdinary = false)
      (held : self.releaseExecutionTransportOwnership.isSome = true) (failed : closeFailed = true)
      (finishes : point.finishesStop outcome answers) :
      answers.controllerStop.isOrdinary = true := by
    by_contra abnormal
    exact sound held (leaks.mpr ⟨waits.trans failed, finishes, by simpa using abnormal⟩)
  cases point with
  | startingExecution policy =>
    cases resumed
    exact executionStarted_inOrder accounts.1 accounts.2.1 accounts.2.2 sound
  | closingStartup cause =>
    cases resumed
    exact startupClosed_inOrder accounts.2.1 sound
  | receiving task => exact accounts.elim
  | closingExecution =>
    cases resumed
    exact executionClosed_inOrder accounts.1 accounts.2 sound
  | draining closeFailed =>
    refine drained_inOrder accounts.1 ?_ ?_ resumed
    · rintro rfl
      refine cancelInflightReceives_inOrder accounts.1 accounts.2 fun held failed hook => ?_
      exact ending rfl .rfl held failed (.inr (.inr ⟨rfl, hook⟩))
    · rintro held failed (returned | interrupted)
      · exact ending rfl .rfl held failed (.inl returned)
      · exact ending rfl .rfl held failed (.inr (.inl interrupted))
  | cancellingReceives closeFailed =>
    cases resumed
    exact receivesCancelled_inOrder accounts.1 accounts.2 (ending rfl .rfl)
  | drainingCancelled closeFailed =>
    exact drained_inOrder accounts.1 (fun _ => fail_inOrder _ _) (ending rfl .rfl) resumed
  | done result => cases resumed

/-! ### Leaks -/

theorem unstarted_leaves {result : CallResult} (left : self.Left watch) :
    (self.finish result).Leaves watch :=
  .inr ⟨watch, rfl, rfl, left⟩

/-- Over an open execution the monitor refuses to have the callback run. -/
theorem releaseTransportOwnership_refused {callback : R} (isOpen : watch.executionOpen = true)
    (held : self.releaseExecutionTransportOwnership = some callback) (answers : Answers) :
    ∃ outcome released events,
      self.releaseTransportOwnership answers = (outcome, released, events) ∧
      Machine.run Watch.observe watch (made .controllerStop .returned ++ events) = none := by
  rcases self.releaseTransportOwnership_cases answers with ⟨empty, -⟩ | ⟨callback', -, released⟩
  · cases empty.symm.trans held
  · refine ⟨_, _, _, released, ?_⟩
    simp [Machine.run, made, Watch.observe, isOpen]

theorem stopAndRelease_leaves (left : self.Left watch)
    (normal : answers.controllerStop ≠ .raised) (result : CallResult) :
    (self.stopAndRelease answers result).Leaves watch := by
  obtain ⟨isOpen, stopped, clear, callback, held⟩ := left
  unfold stopAndRelease
  cases stop : answers.controllerStop with
  | returned =>
    obtain ⟨outcome, released, events, ran, refused⟩ :=
      releaseTransportOwnership_refused isOpen held answers
    refine .inl ?_
    rw [ran]
    simp only [Turn.after, Machine.run_append, refused, Option.bind_none]
  | raised => exact absurd stop normal
  | cancelled =>
    exact .inr ⟨_, run_controllerStop _, rfl, isOpen, stopped, clear, callback, held⟩
  | interrupted =>
    exact .inr ⟨_, run_controllerStop _, rfl, isOpen, stopped, clear, callback, held⟩

theorem finishStop_leaves {closeFailed : Bool} (isOpen : watch.executionOpen = true)
    (clear : self.technicalState = none)
    (held : self.releaseExecutionTransportOwnership.isSome = true)
    (normal : answers.controllerStop ≠ .raised)
    (went : closeFailed = false ∨ answers.controllerStop ≠ .returned) (result : CallResult) :
    (self.finishStop closeFailed result answers).Leaves watch := by
  obtain ⟨callback, held⟩ := Option.isSome_iff_exists.mp held
  unfold finishStop
  cases stop : answers.controllerStop with
  | returned =>
    obtain rfl : closeFailed = false := went.resolve_right fun other => other stop
    have held : { self with started := false }.releaseExecutionTransportOwnership = some callback :=
      held
    obtain ⟨outcome, released, events, ran, refused⟩ :=
      releaseTransportOwnership_refused isOpen held answers
    refine .inl ?_
    dsimp only
    rw [ran]
    simp only [Turn.after, Machine.run_append, refused, Option.bind_none, Bool.false_eq_true,
      if_false]
  | raised => exact absurd stop normal
  | cancelled => exact .inr ⟨_, run_controllerStop _, rfl, isOpen, rfl, clear, callback, held⟩
  | interrupted => exact .inr ⟨_, run_controllerStop _, rfl, isOpen, rfl, clear, callback, held⟩

/-- A stop of such a coordinator runs its callback. -/
theorem stop_of_left (left : self.Left watch) :
    Machine.run Watch.observe watch (self.begin .stop {}).events = none := by
  obtain ⟨isOpen, stopped, clear, callback, held⟩ := left
  simp [begin, beginStop, stopped, clear, stopAndRelease, releaseTransportOwnership, held,
    Turn.after, finish, Machine.run, made, Watch.observe, isOpen]

/-- A stop whose close failed ends, and the controller's stop does not return or raise. -/
theorem finishStop_leaves_failed {closeFailed : Bool}
    (account : watch.executionOpen = closeFailed) (clear : self.technicalState = none)
    (held : self.releaseExecutionTransportOwnership.isSome = true) (failed : closeFailed = true)
    (abnormal : answers.controllerStop.isOrdinary = false) (result : CallResult) :
    (self.finishStop closeFailed result answers).Leaves watch := by
  refine finishStop_leaves (account.trans failed) clear held ?_ (.inr ?_) result
  · rintro raised
    simp [raised, CallOutcome.isOrdinary] at abnormal
  · rintro returned
    simp [returned, CallOutcome.isOrdinary] at abnormal

theorem resume_leaves (accounts : self.Accounts watch.executionOpen point)
    (held : self.releaseExecutionTransportOwnership.isSome = true)
    (leaks : point.leaks outcome answers)
    (resumed : self.resume point outcome answers = some turn) : turn.Leaves watch := by
  cases point with
  | startingExecution policy =>
    cases leaks
    cases resumed
    refine Turn.Leaves.after (w := watch) ?_ rfl
    exact unstarted_leaves
      ⟨accounts.1, accounts.2.1, accounts.2.2, Option.isSome_iff_exists.mp held⟩
  | closingStartup cause =>
    cases resumed
    have left : self.Left watch :=
      ⟨accounts.1, accounts.2.1, accounts.2.2, Option.isSome_iff_exists.mp held⟩
    refine Turn.Leaves.after (w := watch) ?_ (by rcases leaks with rfl | ⟨rfl, -⟩ <;> rfl)
    rcases leaks with rfl | ⟨rfl, normal⟩
    · exact unstarted_leaves left
    · exact stopAndRelease_leaves left normal _
  | receiving task => exact accounts.elim
  | closingExecution =>
    obtain ⟨rfl, normal⟩ := leaks
    cases resumed
    refine Turn.Leaves.after (w := watch) ?_ rfl
    exact finishStop_leaves accounts.1 accounts.2 held normal (.inl rfl) _
  | draining closeFailed =>
    obtain ⟨failed, finishes, abnormal⟩ := leaks
    have ending := finishStop_leaves_failed accounts.1 accounts.2 held failed abnormal
    rcases finishes with rfl | rfl | ⟨rfl, hook⟩
    · simp only [resume, drained, Option.ite_none_right_eq_some, Option.some.injEq] at resumed
      exact resumed.2 ▸ ending _
    · cases resumed
      exact ending _
    · cases resumed
      unfold cancelInflightReceives
      rw [hook]
      exact Turn.Leaves.after (Turn.Leaves.after (ending _) rfl) rfl
  | cancellingReceives closeFailed =>
    obtain ⟨failed, rfl, abnormal⟩ := leaks
    cases resumed
    exact (finishStop_leaves_failed accounts.1 accounts.2 held failed abnormal _).after rfl
  | drainingCancelled closeFailed =>
    obtain ⟨failed, finishes, abnormal⟩ := leaks
    have ending := finishStop_leaves_failed accounts.1 accounts.2 held failed abnormal
    rcases finishes with rfl | rfl
    · simp only [resume, drained, Option.ite_none_right_eq_some, Option.some.injEq] at resumed
      exact resumed.2 ▸ ending _
    · cases resumed
      exact ending _
  | done result => cases resumed

end LiveRuntimeLifecycleCoordinator
end Segments

/-! ## Runs -/

namespace CallSequence

variable {R : Type} {self next : CallSequence R} {move : CallStep} {turn : Turn R}
  {watch : Watch}

/-- The events so far are in order, and the coordinator accounts for the execution. -/
def Watched (now : CallSequence R) : Prop :=
  ∃ watch, Machine.run Watch.observe {} now.events = some watch ∧
    now.coordinator.Accounts watch.executionOpen now.point

theorem Watched.releasesInOrder (watched : self.Watched) : ReleasesInOrder self.events :=
  watched.imp fun _ kept => kept.1

theorem watched_create (callback : Option R) : (create callback).Watched :=
  ⟨{}, rfl, nofun, fun _ _ _ => rfl⟩

theorem watched_moved (ran : Machine.run Watch.observe {} self.events = some watch)
    (inOrder : turn.InOrder watch) : (self.moved turn).Watched := by
  obtain ⟨after, later, accounts⟩ := inOrder
  refine ⟨after, ?_, accounts⟩
  simp only [moved, Machine.run_append, ran, Option.bind_some, later]

/-- A receive leaves the flags, the callback and the execution alone. -/
theorem watched_beside {receives : List (Option ℕ)} (watched : self.Watched)
    (flags : turn.coordinator.started = self.coordinator.started ∧
      turn.coordinator.technicalState = self.coordinator.technicalState ∧
      turn.coordinator.releaseExecutionTransportOwnership =
        self.coordinator.releaseExecutionTransportOwnership)
    (quiet : ∀ watch, Machine.run Watch.observe watch turn.events = some watch) :
    (self.beside turn receives).Watched := by
  obtain ⟨watch, ran, accounts⟩ := watched
  refine ⟨watch, by simp only [beside, Machine.run_append, ran, Option.bind_some, quiet], ?_⟩
  unfold LiveRuntimeLifecycleCoordinator.Accounts
  simp only [beside, flags]
  exact accounts

theorem watched_begin (watched : self.Watched) (done : self.point.isDone = true) {call : Call}
    (other : call ≠ .receiveExecutionOnce) (answers : Answers) :
    (self.moved (self.coordinator.begin call answers)).Watched := by
  obtain ⟨watch, ran, accounts⟩ := watched
  cases at' : self.point with
  | done result =>
    rw [at'] at accounts
    exact watched_moved ran (LiveRuntimeLifecycleCoordinator.begin_inOrder accounts other)
  | _ => simp [at', Point.isDone] at done

theorem Watched.perform (watched : self.Watched) (sound : ¬self.Leaks move)
    (performed : self.perform move = some next) : next.Watched := by
  cases move with
  | start policy answers =>
    simp only [CallSequence.perform, Option.ite_none_right_eq_some, Option.some.injEq]
      at performed
    obtain ⟨done, rfl⟩ := performed
    exact watched_begin watched done (by simp) answers
  | stop answers =>
    simp only [CallSequence.perform, Option.ite_none_right_eq_some, Option.some.injEq]
      at performed
    obtain ⟨done, rfl⟩ := performed
    exact watched_begin watched done (by simp) answers
  | resume outcome answers =>
    obtain ⟨turn, resumed, ⟨⟩⟩ := Option.bind_eq_some_iff.mp performed
    obtain ⟨watch, ran, accounts⟩ := watched
    refine watched_moved ran (LiveRuntimeLifecycleCoordinator.resume_inOrder accounts ?_ resumed)
    exact fun held leaks => sound ⟨held, leaks⟩
  | receive answers =>
    cases performed
    refine watched_beside watched ?_ ?_
    · unfold LiveRuntimeLifecycleCoordinator.begin LiveRuntimeLifecycleCoordinator.beginReceive
      dsimp only
      split <;> exact ⟨rfl, rfl, rfl⟩
    · unfold LiveRuntimeLifecycleCoordinator.begin LiveRuntimeLifecycleCoordinator.beginReceive
      dsimp only
      split <;> exact fun _ => rfl
  | received index outcome =>
    obtain ⟨task, -, received⟩ := Option.bind_eq_some_iff.mp performed
    cases received
    exact watched_beside watched ⟨rfl, rfl, rfl⟩ fun _ => rfl

/-- Where no segment leaks, the transport is released only after the controller was stopped and
the execution that was started is closed. -/
theorem releases_in_order (callback : Option R) (moves : List CallStep)
    (sound : ∀ now move, Machine.Takes perform (create callback) moves now move →
      ¬now.Leaks move) :
    ∀ now, Machine.Visits perform (create callback) moves now → ReleasesInOrder now.events := by
  intro now visited
  have watched : now.Watched :=
    Machine.visits_invariant (watched_create callback)
      (fun _ _ _ watched sound performed => watched.perform sound performed) sound now visited
  exact watched.releasesInOrder

/-- After a leak the transport has been released over an open execution, or a stop does it. -/
theorem releases_open_of_leaks (watched : self.Watched) (leaks : self.Leaks move)
    (performed : self.perform move = some next) :
    ¬ReleasesInOrder next.events ∨
      ∃ after, next.perform (.stop {}) = some after ∧ ¬ReleasesInOrder after.events := by
  cases move with
  | resume outcome answers =>
    obtain ⟨turn, resumed, ⟨⟩⟩ := Option.bind_eq_some_iff.mp performed
    obtain ⟨watch, ran, accounts⟩ := watched
    rcases LiveRuntimeLifecycleCoordinator.resume_leaves accounts leaks.1 leaks.2 resumed with
      refused | ⟨after, later, done, left⟩
    · refine .inl ?_
      rintro ⟨last, ran'⟩
      simp only [moved, Machine.run_append, ran, Option.bind_some, refused] at ran'
      cases ran'
    · refine .inr ⟨(self.moved turn).moved (turn.coordinator.begin .stop {}), ?_, ?_⟩
      · simp only [CallSequence.perform, moved, done, if_true]
      · rintro ⟨last, ran'⟩
        simp only [moved, Machine.run_append, ran, later, Option.bind_some,
          LiveRuntimeLifecycleCoordinator.stop_of_left left] at ran'
        cases ran'
  | _ => exact leaks.elim

/-- A start fails, and its execution is closed; then the coordinator is stopped. -/
theorem releases_in_order_failed_start :
    let moves : List CallStep :=
      [.start none {}, .resume .raised {}, .resume .returned {}, .stop {}]
    ∀ now, Machine.Visits perform (create (some 7)) moves now → ReleasesInOrder now.events := by
  intro moves
  refine releases_in_order (some 7) moves ?_
  intro now step taken
  simp only [moves, Machine.takes_cons, Machine.takes_nil, and_false, exists_false, or_false]
    at taken
  rcases taken with ⟨rfl, rfl⟩ | ⟨_, ⟨⟩, ⟨rfl, rfl⟩ | ⟨_, ⟨⟩, ⟨rfl, rfl⟩ |
    ⟨_, ⟨⟩, ⟨rfl, rfl⟩⟩⟩⟩
  · exact id
  · rintro ⟨-, ⟨⟩⟩
  · rintro ⟨-, interrupted | ⟨raised, -⟩⟩
    · cases interrupted
    · cases raised
  · exact id

/-- A start fails, closing its execution raises, and the transport is released all the same. -/
theorem released_over_open_execution :
    ∃ now, Machine.Visits perform (create (some 7))
        [.start none {}, .resume .raised {}, .resume .raised {}] now ∧
      now.events = made .controllerStart .returned ++ made .startupReconcile .returned ++
        made .startExecution .raised ++ made .closeExecution .raised ++
        made .controllerStop .returned ++ [.released 7 .returned] ∧
      ¬ReleasesInOrder now.events := by
  refine ⟨_, ⟨_, List.prefix_rfl, rfl⟩, rfl, ?_⟩
  rintro ⟨watch, ⟨⟩⟩

end CallSequence
end OptionProject.Lifecycle
