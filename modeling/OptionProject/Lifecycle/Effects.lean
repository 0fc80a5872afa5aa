import OptionProject.Lifecycle.Coordinator

/-!
# What a segment does to the callback

Whatever the injected calls answer, a segment of a call keeps the callback that releases the
transport, or runs it and drops it; and only the segment that completes a start sets the
started flag.

## Main results

* `Effect` — what a segment does to the callback and the started flag.
* `begin_effect`, `resume_effect` — every segment has it.
-/
namespace OptionProject.Lifecycle

/-- The callbacks that have been run. -/
def released {R : Type} (events : List (Event R)) : List R :=
  events.filterMap fun event =>
    match event with
    | .released callback .returned => some callback
    | _ => none

/-- The call is a start that has not ended. -/
def Point.isStarting : Point → Bool
  | .startingExecution _ | .closingStartup _ => true
  | _ => false

/-- The segment that completes a start. -/
def Point.launches : Point → CallOutcome → Bool
  | .startingExecution _, .returned => true
  | _, _ => false

theorem Point.launches_of_isStarting {point : Point} {outcome : CallOutcome}
    (other : point.isStarting = false) : point.launches outcome = false := by
  cases point with
  | startingExecution => cases other
  | _ => rfl

/-- A segment keeps the callback, or runs it and leaves the coordinator unstarted. Only one
that completes a start sets the started flag. -/
structure Effect {R : Type} (before : LiveRuntimeLifecycleCoordinator R) (launches : Bool)
    (turn : Turn R) : Prop where
  callback :
    turn.coordinator.releaseExecutionTransportOwnership =
        before.releaseExecutionTransportOwnership ∧ released turn.events = [] ∨
      ∃ callback, before.releaseExecutionTransportOwnership = some callback ∧
        turn.coordinator.releaseExecutionTransportOwnership = none ∧
        released turn.events = [callback] ∧ turn.coordinator.started = false
  started : turn.coordinator.started = true → launches = true ∨ before.started = true
  launched : launches = true → turn.coordinator.started = true
  starting : turn.point.isStarting = true → turn.coordinator.started = false

section Effects

variable {R : Type} {self before left : LiveRuntimeLifecycleCoordinator R} {turn : Turn R}
  {point : Point} {events : List (Event R)}

/-- A segment that only moves on, or sets the flags of a stopped coordinator. -/
theorem Effect.kept
    (callback : left.releaseExecutionTransportOwnership =
      before.releaseExecutionTransportOwnership)
    (started : left.started = true → before.started = true)
    (starting : point.isStarting = true → left.started = false)
    (silent : released events = []) : Effect before false ⟨left, point, events⟩ :=
  ⟨.inl ⟨callback, silent⟩, fun h => .inr (started h), nofun, starting⟩

/-- A segment that ends with the callback run. -/
theorem Effect.ran {callback : R}
    (held : before.releaseExecutionTransportOwnership = some callback)
    (dropped : left.releaseExecutionTransportOwnership = none) (stopped : left.started = false)
    (ran : released events = [callback]) : Effect before false ⟨left, point, events⟩ :=
  ⟨.inr ⟨callback, held, dropped, ran, stopped⟩, fun h => (nomatch stopped.symm.trans h), nofun,
    fun _ => stopped⟩

theorem Effect.after {launches : Bool} (effect : Effect before launches turn)
    (silent : released events = []) : Effect before launches (turn.after events) := by
  obtain ⟨callback, started, launched, starting⟩ := effect
  refine ⟨?_, started, launched, starting⟩
  simpa [Turn.after, released, List.filterMap_append, show events.filterMap _ = [] from silent]
    using callback

namespace LiveRuntimeLifecycleCoordinator

theorem finish_effect (result : CallResult) : Effect self false (self.finish result) :=
  .kept rfl id nofun rfl

theorem fail_effect (state : TechnicalState) (result : CallResult) :
    Effect self false ((self.fail state).finish result) :=
  .kept rfl nofun nofun rfl

/-- The callback is run if there is one, and dropped once it has returned. -/
theorem releaseTransportOwnership_cases (self : LiveRuntimeLifecycleCoordinator R)
    (answers : Answers) :
    (self.releaseExecutionTransportOwnership = none ∧
      self.releaseTransportOwnership answers = (.returned, self, [])) ∨
    ∃ callback, self.releaseExecutionTransportOwnership = some callback ∧
      self.releaseTransportOwnership answers =
        (answers.releaseOwnership,
          { self with
            releaseExecutionTransportOwnership :=
              if answers.releaseOwnership = .returned then none else some callback },
          [.released callback answers.releaseOwnership]) := by
  obtain ⟨_ | callback⟩ := self
  · exact .inl ⟨rfl, rfl⟩
  · refine .inr ⟨callback, rfl, ?_⟩
    unfold releaseTransportOwnership
    cases answers.releaseOwnership <;> rfl

theorem stopAndRelease_effect (stopped : self.started = false) (answers : Answers)
    (result : CallResult) : Effect self false (self.stopAndRelease answers result) := by
  unfold stopAndRelease
  cases answers.controllerStop with
  | returned =>
    rcases self.releaseTransportOwnership_cases answers with
      ⟨-, same⟩ | ⟨callback, held, released⟩
    · rw [same]
      exact (finish_effect result).after rfl
    · rw [released]
      cases answers.releaseOwnership with
      | returned => exact .ran held rfl stopped rfl
      | raised => exact .kept held.symm nofun nofun rfl
      | cancelled => exact .kept held.symm id nofun rfl
      | interrupted => exact .kept held.symm id nofun rfl
  | raised => exact (fail_effect _ _).after rfl
  | cancelled => exact (finish_effect _).after rfl
  | interrupted => exact (finish_effect _).after rfl

theorem finishStop_effect (closeFailed : Bool) (result : CallResult) (answers : Answers) :
    Effect self false (self.finishStop closeFailed result answers) := by
  unfold finishStop
  cases answers.controllerStop with
  | returned =>
    cases closeFailed with
    | true => exact .kept rfl nofun nofun rfl
    | false =>
      rcases { self with started := false }.releaseTransportOwnership_cases answers with
        ⟨-, same⟩ | ⟨callback, held, released⟩
      · simp only [same, Bool.false_eq_true, if_false]
        exact .kept rfl nofun nofun rfl
      · simp only [released, Bool.false_eq_true, if_false]
        cases answers.releaseOwnership with
        | returned => exact .ran held rfl rfl rfl
        | raised => exact .kept held.symm nofun nofun rfl
        | cancelled => exact .kept held.symm nofun nofun rfl
        | interrupted => exact .kept held.symm nofun nofun rfl
  | raised => exact .kept rfl nofun nofun rfl
  | cancelled => exact .kept rfl nofun nofun rfl
  | interrupted => exact .kept rfl nofun nofun rfl

theorem abandonStart_effect (stopped : self.started = false) (call : Injected)
    (outcome : CallOutcome) (answers : Answers) :
    Effect self false (self.abandonStart call outcome answers) := by
  unfold abandonStart
  split
  · exact finish_effect _
  · exact stopAndRelease_effect stopped answers _

theorem begin_effect (call : Call) (answers : Answers) :
    Effect self false (self.begin call answers) := by
  cases call with
  | start policy =>
    show Effect self false (self.beginStart policy answers)
    unfold beginStart
    by_cases admitted : self.restartAdmitted = true
    · have stopped : self.started = false := by
        simp only [restartAdmitted, Bool.and_eq_true, Bool.not_eq_true'] at admitted
        exact admitted.1.1
      rw [admitted]
      split
      next h => cases h
      split
      · exact (abandonStart_effect stopped _ _ answers).after rfl
      split
      · exact (abandonStart_effect stopped _ _ answers).after rfl
      · exact .kept rfl id (fun _ => stopped) rfl
    · rw [Bool.not_eq_true] at admitted
      rw [admitted]
      exact finish_effect _
  | receiveExecutionOnce =>
    show Effect self false (self.beginReceive answers)
    unfold beginReceive
    split
    · exact finish_effect _
    · exact .kept rfl id nofun rfl
  | stop =>
    show Effect self false (self.beginStop answers)
    unfold beginStop
    split
    next idle =>
      have stopped : self.started = false := by simpa using idle
      split
      · exact finish_effect _
      · exact stopAndRelease_effect stopped answers _
    next =>
      cases shutdownTimeouts self.policy with
      | error e => exact finish_effect _
      | ok timeouts => exact .kept rfl id nofun rfl

theorem receivesCancelled_effect (closeFailed : Bool) (outcome : CallOutcome)
    (answers : Answers) :
    Effect self false (self.receivesCancelled closeFailed outcome answers) := by
  refine Effect.after ?_ rfl
  cases outcome with
  | returned => exact .kept rfl id nofun rfl
  | raised => exact fail_effect _ _
  | cancelled => exact fail_effect _ _
  | interrupted => exact finishStop_effect _ _ answers

theorem cancelInflightReceives_effect (closeFailed : Bool) (answers : Answers) :
    Effect self false (self.cancelInflightReceives closeFailed answers) := by
  unfold cancelInflightReceives
  cases answers.cancelReceives with
  | absent => exact .kept rfl id nofun (by simp [released])
  | finished outcome => exact (receivesCancelled_effect closeFailed outcome answers).after rfl
  | awaitable => exact .kept rfl id nofun rfl

theorem drained_effect {timedOut : Turn R} (timeout : Effect self false timedOut)
    (closeFailed : Bool) (outcome : CallOutcome) (answers : Answers)
    (resumed : self.drained closeFailed outcome answers timedOut = some turn) :
    Effect self false turn := by
  cases outcome with
  | returned =>
    simp only [drained, Option.ite_none_right_eq_some, Option.some.injEq] at resumed
    obtain ⟨-, rfl⟩ := resumed
    exact finishStop_effect _ _ answers
  | raised => exact Option.some.inj resumed ▸ timeout
  | cancelled => exact Option.some.inj resumed ▸ fail_effect _ _
  | interrupted => exact Option.some.inj resumed ▸ finishStop_effect _ _ answers

theorem resume_effect {outcome : CallOutcome} {answers : Answers}
    (starting : point.isStarting = true → self.started = false)
    (resumed : self.resume point outcome answers = some turn) :
    Effect self (point.launches outcome) turn := by
  cases point with
  | startingExecution policy =>
    cases resumed
    refine Effect.after ?_ rfl
    have stopped := starting rfl
    cases outcome with
    | returned => exact ⟨.inl ⟨rfl, rfl⟩, fun _ => .inl rfl, fun _ => rfl, nofun⟩
    | raised => exact .kept rfl id (fun _ => stopped) rfl
    | cancelled => exact .kept rfl id (fun _ => stopped) rfl
    | interrupted => exact finish_effect _
  | closingStartup cause =>
    cases resumed
    refine Effect.after ?_ rfl
    have stopped := starting rfl
    cases outcome with
    | returned => exact stopAndRelease_effect stopped answers _
    | raised => exact stopAndRelease_effect stopped answers _
    | cancelled => exact fail_effect _ _
    | interrupted => exact finish_effect _
  | receiving task =>
    cases resumed
    exact .kept rfl id nofun rfl
  | closingExecution =>
    cases resumed
    refine Effect.after ?_ rfl
    cases outcome with
    | returned => exact .kept rfl id nofun rfl
    | raised => exact .kept rfl id nofun rfl
    | cancelled => exact fail_effect _ _
    | interrupted => exact finishStop_effect _ _ answers
  | draining closeFailed =>
    exact drained_effect (cancelInflightReceives_effect closeFailed answers) _ _ _ resumed
  | cancellingReceives closeFailed =>
    cases resumed
    exact receivesCancelled_effect closeFailed outcome answers
  | drainingCancelled closeFailed =>
    exact drained_effect (fail_effect _ _) _ _ _ resumed
  | done result => cases resumed

end LiveRuntimeLifecycleCoordinator
end Effects
end OptionProject.Lifecycle
