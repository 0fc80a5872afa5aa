import OptionProject.Lifecycle.Effects

/-!
# What a segment can do

Every segment of a call is one of a few kinds: it refuses, moves on to another await, starts
or ends a receive, launches, fails, or stops the controller. Results about concurrent calls
are proved over these kinds, and never over the segments themselves.

## Main results

* `Segment` — the kinds of segments, with the state, the point and the events each leaves.
* `begin_segment`, `resume_segment` — every segment is of one of these kinds.
-/
namespace OptionProject.Lifecycle

/-- A call is begun, or an await of it has ended. -/
inductive Entry
  | begin (call : Call)
  | resume (point : Point) (outcome : CallOutcome)
  deriving DecidableEq

/-- Where a call stands before the segment: one that is begun has not got anywhere. -/
def Entry.point : Entry → Point
  | .begin _ => .done .returned
  | .resume point _ => point

/-- The call returns, or raises an `Exception`. -/
def CallOutcome.isOrdinary : CallOutcome → Bool
  | .returned | .raised => true
  | .cancelled | .interrupted => false

def Point.isDone : Point → Bool
  | .done _ => true
  | _ => false

def Point.isReceiving : Point → Bool
  | .receiving _ => true
  | _ => false

/-- The call is a stop that has not ended. -/
def Point.isStopping : Point → Bool
  | .closingExecution | .draining _ | .cancellingReceives _ | .drainingCancelled _ => true
  | _ => false

theorem Point.isStarting_of_isStopping {point : Point} (stopping : point.isStopping = true) :
    point.isStarting = false := by
  cases point with
  | startingExecution => cases stopping
  | closingStartup => cases stopping
  | _ => rfl

theorem Point.isStopping_of_isDone {point : Point} (done : point.isDone = true) :
    point.isStopping = false := by
  cases point with
  | done => rfl
  | _ => cases done

theorem Point.isReceiving_of_isStarting {point : Point} (starting : point.isStarting = true) :
    point.isReceiving = false := by
  cases point with
  | receiving => cases starting
  | _ => rfl

theorem Point.isReceiving_of_isStopping {point : Point} (stopping : point.isStopping = true) :
    point.isReceiving = false := by
  cases point with
  | receiving => cases stopping
  | _ => rfl

section Events

variable {R : Type}

/-- The controller has been started and not stopped since. -/
def controllerAfter (running : Bool) (events : List (Event R)) : Bool :=
  events.foldl (fun running event =>
    match event with
    | .ended .controllerStart .returned => true
    | .called .controllerStop => false
    | _ => running) running

def stopsController (events : List (Event R)) : Bool :=
  events.any fun event =>
    match event with
    | .called .controllerStop => true
    | _ => false

/-- How often the callback is run, whether it returns or raises. -/
def callbackRuns (events : List (Event R)) : ℕ :=
  events.countP fun event =>
    match event with
    | .released _ _ => true
    | _ => false

/-- Neither the controller nor the callback is called. -/
structure Silent (events : List (Event R)) : Prop where
  controller : ∀ running, controllerAfter running events = running
  stops : stopsController events = false
  callback : callbackRuns events = 0

/-- The controller may have been started, and is not stopped. -/
structure Starts (events : List (Event R)) : Prop where
  controller : controllerAfter true events = true
  stops : stopsController events = false
  callback : callbackRuns events = 0

/-- The controller is stopped. -/
structure Stops (events : List (Event R)) : Prop where
  controller : ∀ running, controllerAfter running events = false
  stops : stopsController events = true

variable {events later : List (Event R)}

theorem controllerAfter_append (running : Bool) :
    controllerAfter running (events ++ later) =
      controllerAfter (controllerAfter running events) later :=
  List.foldl_append

theorem Silent.append (silent : Silent events) (silent' : Silent later) :
    Silent (events ++ later) := by
  refine ⟨fun running => ?_, ?_, ?_⟩
  · rw [controllerAfter_append, silent.controller, silent'.controller]
  · have := silent.stops
    have := silent'.stops
    simp_all [stopsController]
  · have := silent.callback
    have := silent'.callback
    simp_all [callbackRuns]

theorem Silent.starts (silent : Silent events) : Starts events :=
  ⟨silent.controller true, silent.stops, silent.callback⟩

theorem Stops.after (stops : Stops later) (events : List (Event R)) : Stops (events ++ later) := by
  refine ⟨fun running => ?_, ?_⟩
  · rw [controllerAfter_append, stops.controller]
  · have := stops.stops
    simp_all [stopsController]

end Events

variable {R : Type} (self : LiveRuntimeLifecycleCoordinator R) (answers : Answers)

/-- The controller is stopped and the transport released without a started coordinator: in a
start that fails, or by a stop that finds nothing to stop. -/
def LiveRuntimeLifecycleCoordinator.StopsUnstarted : Entry → Prop
  | .begin .stop => self.started = false ∧ self.technicalState = none
  | .begin (.start _) => self.restartAdmitted = true
  | .resume (.closingStartup _) _ => True
  | _ => False

theorem LiveRuntimeLifecycleCoordinator.StopsUnstarted.cases {self} {entry : Entry}
    (reason : StopsUnstarted (R := R) self entry) :
    (entry = .begin .stop ∧ self.started = false ∧ self.technicalState = none) ∨
      self.restartAdmitted = true ∨
      ∃ cause outcome, entry = .resume (.closingStartup cause) outcome := by
  unfold StopsUnstarted at reason
  split at reason
  · exact .inl ⟨rfl, reason⟩
  · exact .inr (.inl reason)
  next cause outcome => exact .inr (.inr ⟨cause, outcome, rfl⟩)
  · exact reason.elim

theorem LiveRuntimeLifecycleCoordinator.StopsUnstarted.isReceiving {self} {entry : Entry}
    (reason : StopsUnstarted (R := R) self entry) : entry.point.isReceiving = false := by
  unfold StopsUnstarted at reason
  split at reason
  · rfl
  · rfl
  · rfl
  · exact reason.elim

/-- The kinds of segments. -/
inductive Segment : Entry → Turn R → Prop
  | refused (call : Call) (e : Thrown) : Segment (.begin call) ⟨self, .done (.raised e), []⟩
  | entered {policy : Option ShutdownPolicy} {events : List (Event R)}
      (admitted : self.restartAdmitted = true) (accepted : answers.controllerStart = .returned)
      (controller : ∀ running, controllerAfter running events = true) (starts : Starts events) :
      Segment (.begin (.start policy)) ⟨self, .startingExecution policy, events⟩
  | startInterrupted {policy : Option ShutdownPolicy} {events : List (Event R)} (e : Thrown)
      (admitted : self.restartAdmitted = true) (starts : Starts events) :
      Segment (.begin (.start policy)) ⟨self, .done (.raised e), events⟩
  | launched {events : List (Event R)} (policy : Option ShutdownPolicy) (silent : Silent events) :
      Segment (.resume (.startingExecution policy) .returned)
        ⟨{ self with started := true, stopping := false, policy, technicalState := none },
          .done .returned, events⟩
  | startFailed {outcome : CallOutcome} {events : List (Event R)}
      (policy : Option ShutdownPolicy) (cause : Thrown) (silent : Silent events) :
      Segment (.resume (.startingExecution policy) outcome) ⟨self, .closingStartup cause, events⟩
  | startupInterrupted {point : Point} {outcome : CallOutcome} {events : List (Event R)}
      (e : Thrown) (starting : point.isStarting = true) (interrupted : outcome = .interrupted)
      (silent : Silent events) :
      Segment (.resume point outcome) ⟨self, .done (.raised e), events⟩
  | cleanupCancelled {outcome : CallOutcome} {events : List (Event R)} (cause e : Thrown)
      (silent : Silent events) :
      Segment (.resume (.closingStartup cause) outcome)
        ⟨self.fail .startupCleanupCancelled, .done (.raised e), events⟩
  | unstarted {entry : Entry} {events : List (Event R)} (callback : Option R)
      (result : CallResult)
      (reason : self.StopsUnstarted entry)
      (normal : result = .returned → entry = .begin .stop) (stops : Stops events) :
      Segment entry
        ⟨{ self with releaseExecutionTransportOwnership := callback }, .done result, events⟩
  | unstartedFailed {entry : Entry} {events : List (Event R)} (state : TechnicalState)
      (e : Thrown)
      (reason : self.StopsUnstarted entry)
      (stops : Stops events) :
      Segment entry ⟨self.fail state, .done (.raised e), events⟩
  | receiving {events : List (Event R)} (tasks : List ℕ) (started : self.started = true)
      (open' : self.stopping = false) (silent : Silent events) :
      Segment (.begin .receiveExecutionOnce)
        ⟨{ self with
            activeReceives := self.activeReceives + 1
            receivesDrained := false
            receiveTasks := tasks },
          .receiving answers.currentTask, events⟩
  | received {task : Option ℕ} {outcome : CallOutcome} {events : List (Event R)}
      (tasks : List ℕ) (result : CallResult) (silent : Silent events) :
      Segment (.resume (.receiving task) outcome)
        ⟨{ self with
            activeReceives := self.activeReceives - 1
            receivesDrained := self.activeReceives - 1 = 0 || self.receivesDrained
            receiveTasks := tasks },
          .done result, events⟩
  | stopping {events : List (Event R)} (started : self.started = true) (silent : Silent events) :
      Segment (.begin .stop) ⟨{ self with stopping := true }, .closingExecution, events⟩
  | stopMoved {point next : Point} {outcome : CallOutcome} {events : List (Event R)}
      (before : point.isStopping = true) (after : next.isStopping = true)
      (silent : Silent events) :
      Segment (.resume point outcome) ⟨self, next, events⟩
  | stopFailed {point : Point} {outcome : CallOutcome} {events : List (Event R)}
      (state : TechnicalState) (e : Thrown) (before : point.isStopping = true)
      (silent : Silent events) :
      Segment (.resume point outcome) ⟨self.fail state, .done (.raised e), events⟩
  | stopped {point : Point} {outcome : CallOutcome} {events : List (Event R)}
      (callback : Option R) (result : CallResult) (before : point.isStopping = true)
      (drained : self.receivesDrained = true ∨ outcome = .interrupted ∨
        answers.cancelReceives = .finished .interrupted)
      (stops : Stops events) :
      Segment (.resume point outcome)
        ⟨{ self with
            started := false
            stopping := false
            technicalState := none
            releaseExecutionTransportOwnership := callback },
          .done result, events⟩
  | stopBroken {point : Point} {outcome : CallOutcome} {events : List (Event R)}
      (state : TechnicalState) (result : CallResult) (before : point.isStopping = true)
      (drained : self.receivesDrained = true ∨ outcome = .interrupted ∨
        answers.cancelReceives = .finished .interrupted)
      (stops : Stops events) :
      Segment (.resume point outcome) ⟨self.fail state, .done result, events⟩
  -- an injected call of the `finally` block raised what no handler catches
  | stopInterrupted {point : Point} {outcome : CallOutcome} {events : List (Event R)}
      (e : Thrown) (before : point.isStopping = true)
      (drained : self.receivesDrained = true ∨ outcome = .interrupted ∨
        answers.cancelReceives = .finished .interrupted)
      (abnormal : answers.controllerStop.isOrdinary = false ∨
        answers.releaseOwnership.isOrdinary = false)
      (stops : Stops events) :
      Segment (.resume point outcome)
        ⟨{ self with started := false }, .done (.raised e), events⟩

section Cases

variable {self answers} {entry : Entry} {turn : Turn R} {point : Point} {outcome : CallOutcome}
  {events : List (Event R)}

namespace LiveRuntimeLifecycleCoordinator

/-- The events of a segment that ends by stopping the controller. -/
theorem stops_made (outcome : CallOutcome) (later : List (Event R))
    (quiet : ∀ running, controllerAfter running later = running) :
    Stops (made .controllerStop outcome ++ later) := by
  refine ⟨fun running => ?_, rfl⟩
  rw [controllerAfter_append, quiet]
  rfl

/-- A release does nothing to the controller. The callback is kept unless the release returns. -/
theorem releaseTransportOwnership_quiet (self : LiveRuntimeLifecycleCoordinator R)
    (answers : Answers) :
    ∃ outcome callback events,
      self.releaseTransportOwnership answers =
        (outcome, { self with releaseExecutionTransportOwnership := callback }, events) ∧
      (∀ running, controllerAfter running events = running) ∧
      (outcome = .returned ∨
        callback = self.releaseExecutionTransportOwnership ∧
          outcome = answers.releaseOwnership) := by
  rcases self.releaseTransportOwnership_cases answers with ⟨-, same⟩ | ⟨callback, held, released⟩
  · exact ⟨_, _, _, same, fun _ => rfl, .inl rfl⟩
  · refine ⟨_, _, _, released, fun _ => rfl, ?_⟩
    by_cases returned : answers.releaseOwnership = .returned
    · exact .inl returned
    · exact .inr ⟨by rw [if_neg returned, held], rfl⟩

theorem stopAndRelease_segment (events : List (Event R)) (result : CallResult)
    (reason : self.StopsUnstarted entry) (normal : result = .returned → entry = .begin .stop) :
    Segment self answers entry ((self.stopAndRelease answers result).after events) := by
  have quiet (outcome : CallOutcome) :
      Stops (events ++ ((made .controllerStop outcome : List (Event R)) ++ [])) :=
    (stops_made _ _ fun _ => rfl).after events
  unfold stopAndRelease
  cases answers.controllerStop with
  | returned =>
    obtain ⟨outcome, callback, runs, released, silent, kept⟩ :=
      releaseTransportOwnership_quiet self answers
    have ran : Stops (events ++ (made .controllerStop .returned ++ runs ++ [])) := by
      rw [List.append_nil]
      exact (stops_made _ _ silent).after events
    rw [released]
    cases outcome with
    | returned => exact .unstarted callback result reason normal ran
    | raised =>
      obtain ⟨rfl, -⟩ : callback = _ ∧ _ := kept.resolve_left nofun
      exact .unstartedFailed _ _ reason ran
    | cancelled => exact .unstarted callback _ reason nofun ran
    | interrupted => exact .unstarted callback _ reason nofun ran
  | raised => exact .unstartedFailed _ _ reason (quiet _)
  | cancelled => exact .unstarted _ _ reason nofun (quiet _)
  | interrupted => exact .unstarted _ _ reason nofun (quiet _)

theorem finishStop_segment (events : List (Event R)) (closeFailed : Bool) (result : CallResult)
    (before : point.isStopping = true)
    (drained : self.receivesDrained = true ∨ outcome = .interrupted ∨
      answers.cancelReceives = .finished .interrupted) :
    Segment self answers (.resume point outcome)
      ((self.finishStop closeFailed result answers).after events) := by
  have quiet (outcome : CallOutcome) :
      Stops (events ++ ((made .controllerStop outcome : List (Event R)) ++ [])) :=
    (stops_made _ _ fun _ => rfl).after events
  unfold finishStop
  cases stop : answers.controllerStop with
  | returned =>
    cases closeFailed with
    | true => exact .stopBroken _ result before drained (quiet _)
    | false =>
      obtain ⟨outcome', callback, runs, released, silent, kept⟩ :=
        releaseTransportOwnership_quiet { self with started := false } answers
      have ran : Stops (events ++ (made .controllerStop .returned ++ runs ++ [])) := by
        rw [List.append_nil]
        exact (stops_made _ _ silent).after events
      simp only [released, Bool.false_eq_true, if_false]
      cases outcome' with
      | returned => exact .stopped callback result before drained ran
      | raised =>
        obtain ⟨rfl, -⟩ : callback = _ ∧ _ := kept.resolve_left nofun
        exact .stopBroken _ _ before drained ran
      | cancelled =>
        obtain ⟨rfl, answered⟩ : callback = _ ∧ _ := kept.resolve_left nofun
        exact .stopInterrupted _ before drained (.inr (by rw [← answered]; rfl)) ran
      | interrupted =>
        obtain ⟨rfl, answered⟩ : callback = _ ∧ _ := kept.resolve_left nofun
        exact .stopInterrupted _ before drained (.inr (by rw [← answered]; rfl)) ran
  | raised => exact .stopBroken _ _ before drained (quiet _)
  | cancelled => exact .stopInterrupted _ before drained (.inl (by rw [stop]; rfl)) (quiet _)
  | interrupted => exact .stopInterrupted _ before drained (.inl (by rw [stop]; rfl)) (quiet _)

theorem abandonStart_segment (policy : Option ShutdownPolicy) (call : Injected)
    (admitted : self.restartAdmitted = true) (starts : Starts events) :
    Segment self answers (.begin (.start policy))
      ((self.abandonStart call outcome answers).after events) := by
  unfold abandonStart
  split
  · refine .startInterrupted _ admitted ?_
    rwa [show (self.finish _).events = [] from rfl, List.append_nil]
  · exact stopAndRelease_segment _ _ admitted nofun

theorem begin_segment (self : LiveRuntimeLifecycleCoordinator R) (call : Call)
    (answers : Answers) : Segment self answers (.begin call) (self.begin call answers) := by
  cases call with
  | start policy =>
    show Segment self answers _ (self.beginStart policy answers)
    unfold beginStart
    split
    · exact .refused _ _
    next admitted =>
      rw [Bool.not_eq_true', Bool.not_eq_false] at admitted
      split
      next refused =>
        refine abandonStart_segment policy _ admitted ⟨?_, rfl, rfl⟩
        cases answered : answers.controllerStart with
        | returned => exact absurd answered refused
        | raised => rfl
        | cancelled => rfl
        | interrupted => rfl
      next accepted =>
        rw [not_not] at accepted
        split
        · refine abandonStart_segment policy _ admitted ⟨?_, rfl, rfl⟩
          cases answers.startupReconcile <;> rfl
        · exact .entered admitted accepted (fun _ => rfl) ⟨rfl, rfl, rfl⟩
  | receiveExecutionOnce =>
    show Segment self answers _ (self.beginReceive answers)
    unfold beginReceive
    split
    · exact .refused _ _
    next started =>
      simp only [Bool.or_eq_true, Bool.not_eq_true', not_or, Bool.not_eq_false,
        Bool.not_eq_true] at started
      exact .receiving _ started.1 started.2 ⟨fun _ => rfl, rfl, rfl⟩
  | stop =>
    show Segment self answers _ (self.beginStop answers)
    unfold beginStop
    split
    next idle =>
      split
      · exact .refused _ _
      next clear =>
        refine stopAndRelease_segment [] .returned ⟨by simpa using idle, ?_⟩ fun _ => rfl
        simpa using clear
    next started =>
      cases shutdownTimeouts self.policy with
      | error e => exact .refused _ _
      | ok timeouts => exact .stopping (by simpa using started) ⟨fun _ => rfl, rfl, rfl⟩

theorem silent_cancelledTasks (tasks : List ℕ) :
    Silent (tasks.map .cancelledTask : List (Event R)) := by
  induction tasks with
  | nil => exact ⟨fun _ => rfl, rfl, rfl⟩
  | cons task tasks ih => exact ⟨ih.controller, ih.stops, by simp [callbackRuns]⟩

/-- The cancellation of the receives ends in a resumed wait, or in its own await. -/
theorem receivesCancelled_segment (events : List (Event R)) (closeFailed : Bool)
    (hook : CallOutcome) (before : point.isStopping = true)
    (interrupted : hook = .interrupted →
      outcome = .interrupted ∨ answers.cancelReceives = .finished .interrupted)
    (silent : Silent events) :
    Segment self answers (.resume point outcome)
      ((self.receivesCancelled closeFailed hook answers).after events) := by
  have quiet : Silent (events ++ ([.ended .cancelReceives hook] ++ [])) :=
    silent.append ⟨fun _ => rfl, rfl, rfl⟩
  cases hook with
  | returned => exact .stopMoved before rfl quiet
  | raised => exact .stopFailed _ _ before quiet
  | cancelled => exact .stopFailed _ _ before quiet
  | interrupted =>
    have finished := @finishStop_segment R self answers point outcome
      (events ++ [.ended .cancelReceives .interrupted]) closeFailed
      (.raised (.injected .cancelReceives .interrupted)) before (.inr (interrupted rfl))
    simpa [receivesCancelled, Turn.after] using finished

theorem cancelInflightReceives_segment (closeFailed : Bool) (before : point.isStopping = true) :
    Segment self answers (.resume point outcome)
      (self.cancelInflightReceives closeFailed answers) := by
  unfold cancelInflightReceives
  cases hook : answers.cancelReceives with
  | absent => exact .stopMoved before rfl (silent_cancelledTasks _)
  | finished outcome =>
    refine receivesCancelled_segment _ closeFailed outcome before ?_ ⟨fun _ => rfl, rfl, rfl⟩
    rintro rfl
    exact .inr hook
  | awaitable => exact .stopMoved before rfl ⟨fun _ => rfl, rfl, rfl⟩

theorem drained_segment {timedOut : Turn R} (before : point.isStopping = true)
    (timeout : Segment self answers (.resume point outcome) timedOut) (closeFailed : Bool)
    (resumed : self.drained closeFailed outcome answers timedOut = some turn) :
    Segment self answers (.resume point outcome) turn := by
  cases outcome with
  | returned =>
    simp only [drained, Option.ite_none_right_eq_some, Option.some.injEq] at resumed
    obtain ⟨drained, rfl⟩ := resumed
    exact finishStop_segment [] _ _ before (.inl drained)
  | raised => exact Option.some.inj resumed ▸ timeout
  | cancelled =>
    cases resumed
    exact .stopFailed _ _ before ⟨fun _ => rfl, rfl, rfl⟩
  | interrupted =>
    cases resumed
    exact finishStop_segment [] _ _ before (.inr (.inl rfl))

theorem resume_segment (resumed : self.resume point outcome answers = some turn) :
    Segment self answers (.resume point outcome) turn := by
  cases point with
  | startingExecution policy =>
    cases resumed
    cases outcome with
    | returned => exact .launched policy ⟨fun _ => rfl, rfl, rfl⟩
    | raised => exact .startFailed policy _ ⟨fun _ => rfl, rfl, rfl⟩
    | cancelled => exact .startFailed policy _ ⟨fun _ => rfl, rfl, rfl⟩
    | interrupted => exact .startupInterrupted _ rfl rfl ⟨fun _ => rfl, rfl, rfl⟩
  | closingStartup cause =>
    cases resumed
    cases outcome with
    | returned => exact stopAndRelease_segment _ _ trivial nofun
    | raised => exact stopAndRelease_segment _ _ trivial nofun
    | cancelled => exact .cleanupCancelled cause _ ⟨fun _ => rfl, rfl, rfl⟩
    | interrupted => exact .startupInterrupted _ rfl rfl ⟨fun _ => rfl, rfl, rfl⟩
  | receiving task =>
    cases resumed
    exact .received _ _ ⟨fun _ => rfl, rfl, rfl⟩
  | closingExecution =>
    cases resumed
    cases outcome with
    | returned => exact .stopMoved rfl rfl ⟨fun _ => rfl, rfl, rfl⟩
    | raised => exact .stopMoved rfl rfl ⟨fun _ => rfl, rfl, rfl⟩
    | cancelled => exact .stopFailed _ _ rfl ⟨fun _ => rfl, rfl, rfl⟩
    | interrupted => exact finishStop_segment _ _ _ rfl (.inr (.inl rfl))
  | draining closeFailed =>
    exact drained_segment rfl (cancelInflightReceives_segment closeFailed rfl) _ resumed
  | cancellingReceives closeFailed =>
    cases resumed
    exact receivesCancelled_segment [] closeFailed outcome rfl .inl ⟨fun _ => rfl, rfl, rfl⟩
  | drainingCancelled closeFailed =>
    exact drained_segment rfl (.stopFailed _ _ rfl ⟨fun _ => rfl, rfl, rfl⟩) _ resumed
  | done result => cases resumed

end LiveRuntimeLifecycleCoordinator
namespace Segment

/-- A segment stops the controller, or leaves a running controller and the callback alone. -/
theorem stops_or_starts (segment : Segment self answers entry turn) :
    Stops turn.events ∨ Starts turn.events := by
  cases segment with
  | refused => exact .inr ⟨rfl, rfl, rfl⟩
  | entered _ _ _ starts => exact .inr starts
  | startInterrupted _ _ starts => exact .inr starts
  | launched _ silent => exact .inr silent.starts
  | startFailed _ _ silent => exact .inr silent.starts
  | startupInterrupted _ _ _ silent => exact .inr silent.starts
  | cleanupCancelled _ _ silent => exact .inr silent.starts
  | unstarted _ _ _ _ stops => exact .inl stops
  | unstartedFailed _ _ _ stops => exact .inl stops
  | receiving _ _ _ silent => exact .inr silent.starts
  | received _ _ silent => exact .inr silent.starts
  | stopping _ silent => exact .inr silent.starts
  | stopMoved _ _ silent => exact .inr silent.starts
  | stopFailed _ _ _ silent => exact .inr silent.starts
  | stopped _ _ _ _ stops => exact .inl stops
  | stopBroken _ _ _ _ stops => exact .inl stops
  | stopInterrupted _ _ _ _ stops => exact .inl stops

/-- A call that has ended is not resumed. -/
theorem ongoing (segment : Segment self answers (.resume point outcome) turn) :
    point.isDone = false := by
  cases point with
  | done result =>
    cases segment with
    | startupInterrupted _ starting => cases starting
    | unstarted _ _ reason => exact reason.elim
    | unstartedFailed _ _ reason => exact reason.elim
    | stopMoved before => cases before
    | stopFailed _ _ before => cases before
    | stopped _ _ before => cases before
    | stopBroken _ _ before => cases before
    | stopInterrupted _ before => cases before
  | _ => rfl

theorem stops_of (segment : Segment self answers entry turn)
    (stops : stopsController turn.events = true) : Stops turn.events :=
  segment.stops_or_starts.resolve_right fun starts => nomatch stops.symm.trans starts.stops

/-- A coordinator that is started after a segment was launched by it, or was started before
and its controller not stopped, unless the segment cleans up a failed start. -/
theorem started_cases (segment : Segment self answers entry turn)
    (started : turn.coordinator.started = true) :
    (∃ policy, entry = .resume (.startingExecution policy) .returned) ∧ Silent turn.events ∨
      self.started = true ∧
        (Starts turn.events ∨
          ∃ cause outcome, entry = .resume (.closingStartup cause) outcome) := by
  have idle (admitted : self.restartAdmitted = true) : self.started = false := by
    simp only [LiveRuntimeLifecycleCoordinator.restartAdmitted, Bool.and_eq_true,
      Bool.not_eq_true'] at admitted
    exact admitted.1.1
  cases segment with
  | refused => exact .inr ⟨started, .inl ⟨rfl, rfl, rfl⟩⟩
  | entered _ _ _ starts => exact .inr ⟨started, .inl starts⟩
  | startInterrupted _ _ starts => exact .inr ⟨started, .inl starts⟩
  | launched policy silent => exact .inl ⟨⟨policy, rfl⟩, silent⟩
  | startFailed _ _ silent => exact .inr ⟨started, .inl silent.starts⟩
  | startupInterrupted _ _ _ silent => exact .inr ⟨started, .inl silent.starts⟩
  | cleanupCancelled => cases started
  | unstarted _ _ reason normal stops =>
    unfold LiveRuntimeLifecycleCoordinator.StopsUnstarted at reason
    split at reason
    · cases reason.1.symm.trans started
    · cases (idle reason).symm.trans started
    next cause outcome => exact .inr ⟨started, .inr ⟨cause, outcome, rfl⟩⟩
    · exact reason.elim
  | unstartedFailed => cases started
  | receiving _ _ _ silent => exact .inr ⟨started, .inl silent.starts⟩
  | received _ _ silent => exact .inr ⟨started, .inl silent.starts⟩
  | stopping _ silent => exact .inr ⟨started, .inl silent.starts⟩
  | stopMoved _ _ silent => exact .inr ⟨started, .inl silent.starts⟩
  | stopFailed => cases started
  | stopped => cases started
  | stopBroken => cases started
  | stopInterrupted => cases started

/-- A call that is a start in progress after a segment was one before, and is entered with the
controller's consent. -/
theorem starting_cases (segment : Segment self answers entry turn)
    (starting : turn.point.isStarting = true) :
    turn.coordinator = self ∧
      ((∃ policy, entry = .begin (.start policy)) ∧ answers.controllerStart = .returned ∧
          self.restartAdmitted = true ∧
          (∀ running, controllerAfter running turn.events = true) ∧ Starts turn.events ∨
        ∃ policy outcome, entry = .resume (.startingExecution policy) outcome ∧
          Silent turn.events) := by
  cases segment with
  | entered admitted accepted controller starts =>
    exact ⟨rfl, .inl ⟨⟨_, rfl⟩, accepted, admitted, controller, starts⟩⟩
  | startFailed policy _ silent => exact ⟨rfl, .inr ⟨policy, _, rfl, silent⟩⟩
  | stopMoved _ after => cases (Point.isStarting_of_isStopping after).symm.trans starting
  | _ => cases starting

end Segment
end Cases
end OptionProject.Lifecycle
