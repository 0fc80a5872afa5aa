import Mathlib.Data.Rat.Defs
import OptionProject.Contracts.Types

/-!
# The live runtime lifecycle coordinator

`application/composition/live_runtime_lifecycle_coordinator.py`. A call of the coordinator
runs from one `await` to the next without a break, so it is modelled by its segments: what it
does up to its first `await`, and what it does when that resumes. How the injected controller,
bootstrap and callback answer in a segment is an input, and so is how an `await` ends; the
calls it makes are listed. The references to controller and bootstrap are never reassigned,
so the identity assertion passes.

## Main definitions

* `LiveRuntimeLifecycleCoordinator` — the state, over the callbacks that release a transport.
* `begin`, `resume` — the first segment of a call, and the later ones.
-/
namespace OptionProject.Lifecycle
open Contracts

inductive TechnicalState
  | startupCleanupCancelled
  | stopControllerFailed
  | transportOwnershipReleaseFailed
  | stopShutdownCancelled
  | stopExecutionCloseFailed
  | stopTimeout
  deriving DecidableEq, Repr

/-- The value of the property `technical_state`. -/
def TechnicalState.text : TechnicalState → String
  | startupCleanupCancelled => "STARTUP_CLEANUP_CANCELLED"
  | stopControllerFailed => "STOP_CONTROLLER_FAILED"
  | transportOwnershipReleaseFailed => "TRANSPORT_OWNERSHIP_RELEASE_FAILED"
  | stopShutdownCancelled => "STOP_SHUTDOWN_CANCELLED"
  | stopExecutionCloseFailed => "STOP_EXECUTION_CLOSE_FAILED"
  | stopTimeout => "STOP_TIMEOUT"

/-- How a call ends: normally, with an `Exception`, with `CancelledError`, or with another
`BaseException`, which no handler of the coordinator catches. -/
inductive CallOutcome
  | returned
  | raised
  | cancelled
  | interrupted
  deriving DecidableEq, Repr

/-- The calls of injected objects. -/
inductive Injected
  | controllerStart
  | startupReconcile
  | startExecution
  | closeExecution
  | receiveExecution
  | cancelReceives
  | controllerStop
  | releaseOwnership
  deriving DecidableEq, Repr

/-- What a call of the coordinator can raise: an error of its own, what an injected call
raised, or what ended its wait for the receives. -/
inductive Thrown
  | own (e : Raised)
  | injected (call : Injected) (outcome : CallOutcome)
  | drain (outcome : CallOutcome)
  deriving DecidableEq

inductive CallResult
  | returned
  | raised (e : Thrown)
  deriving DecidableEq

/-- A timeout attribute of a policy; reading it as a number may raise. -/
inductive TimeoutValue
  | absent
  | seconds (value : ℚ)
  | unreadable (e : Raised)
  deriving DecidableEq

structure ShutdownPolicy where
  gracefulShutdownTimeoutSeconds : TimeoutValue := .absent
  cancellationDrainTimeoutSeconds : TimeoutValue := .absent
  deriving DecidableEq

/-- How the transport's own cancellation answers, if the bootstrap has one. -/
inductive CancelHook
  | absent
  | finished (outcome : CallOutcome)
  | awaitable
  deriving DecidableEq

/-- The answers a segment gets, and the task it runs in. -/
structure Answers where
  controllerStart : CallOutcome := .returned
  startupReconcile : CallOutcome := .returned
  controllerStop : CallOutcome := .returned
  releaseOwnership : CallOutcome := .returned
  cancelReceives : CancelHook := .absent
  currentTask : Option ℕ := none

/-- What a segment does to the outside. -/
inductive Event (R : Type)
  | called (call : Injected)
  | ended (call : Injected) (outcome : CallOutcome)
  | released (callback : R) (outcome : CallOutcome)
  | cancelledTask (task : ℕ)

/-- Where a call stands: at one of its awaits, or at its end. -/
inductive Point
  | startingExecution (policy : Option ShutdownPolicy)
  | closingStartup (cause : Thrown)
  | receiving (task : Option ℕ)
  | closingExecution
  | draining (closeFailed : Bool)
  | cancellingReceives (closeFailed : Bool)
  | drainingCancelled (closeFailed : Bool)
  | done (result : CallResult)
  deriving DecidableEq

structure LiveRuntimeLifecycleCoordinator (R : Type) where
  releaseExecutionTransportOwnership : Option R
  started : Bool := false
  stopping : Bool := false
  activeReceives : ℤ := 0
  receiveTasks : List ℕ := []
  receivesDrained : Bool := true
  policy : Option ShutdownPolicy := none
  technicalState : Option TechnicalState := none

/-- One segment: the state it leaves, where the call stands, and what it did. -/
structure Turn (R : Type) where
  coordinator : LiveRuntimeLifecycleCoordinator R
  point : Point
  events : List (Event R)

def Turn.after {R : Type} (events : List (Event R)) (turn : Turn R) : Turn R :=
  { turn with events := events ++ turn.events }

/-- The events of a call that is made and ends in one segment. -/
def made {R : Type} (call : Injected) (outcome : CallOutcome) : List (Event R) :=
  [.called call, .ended call outcome]

/-- The calls of a coordinator. -/
inductive Call
  | start (policy : Option ShutdownPolicy)
  | receiveExecutionOnce
  | stop
  deriving DecidableEq

def Call.isStart : Call → Bool
  | .start _ => true
  | _ => false

def runtimeError (message : String) : CallResult := .raised (.own ⟨.runtimeError, message⟩)

namespace LiveRuntimeLifecycleCoordinator

variable {R : Type}

def restartAdmitted (self : LiveRuntimeLifecycleCoordinator R) : Bool :=
  !self.started && !self.stopping && self.technicalState.isNone

/-- The end of a call. -/
def finish (self : LiveRuntimeLifecycleCoordinator R) (result : CallResult) : Turn R :=
  ⟨self, .done result, []⟩

/-- Not started, stopping, and in a technical state. -/
def fail (self : LiveRuntimeLifecycleCoordinator R) (state : TechnicalState) :
    LiveRuntimeLifecycleCoordinator R :=
  { self with started := false, stopping := true, technicalState := some state }

/-- `_release_transport_ownership`: the callback is dropped once it has returned. -/
def releaseTransportOwnership (self : LiveRuntimeLifecycleCoordinator R) (answers : Answers) :
    CallOutcome × LiveRuntimeLifecycleCoordinator R × List (Event R) :=
  match self.releaseExecutionTransportOwnership with
  | none => (.returned, self, [])
  | some callback =>
    match answers.releaseOwnership with
    | .returned =>
      (.returned, { self with releaseExecutionTransportOwnership := none },
        [.released callback .returned])
    | outcome => (outcome, self, [.released callback outcome])

/-- The controller is stopped and the transport released, after a failed start and when an
unstarted coordinator is stopped; if both return, the call ends with `result`. -/
def stopAndRelease (self : LiveRuntimeLifecycleCoordinator R) (answers : Answers)
    (result : CallResult) : Turn R :=
  match answers.controllerStop with
  | .returned =>
    let (outcome, released, events) := self.releaseTransportOwnership answers
    let turn : Turn R := match outcome with
      | .returned => released.finish result
      | .raised =>
        (released.fail .transportOwnershipReleaseFailed).finish
          (.raised (.injected .releaseOwnership .raised))
      | outcome => released.finish (.raised (.injected .releaseOwnership outcome))
    turn.after (made .controllerStop .returned ++ events)
  | .raised =>
    ((self.fail .stopControllerFailed).finish (.raised (.injected .controllerStop .raised))).after
      (made .controllerStop .raised)
  | outcome =>
    (self.finish (.raised (.injected .controllerStop outcome))).after (made .controllerStop outcome)

/-! ## Starting -/

/-- A start that failed before its execution was attempted, or after it was closed. -/
def abandonStart (self : LiveRuntimeLifecycleCoordinator R) (call : Injected)
    (outcome : CallOutcome) (answers : Answers) : Turn R :=
  if outcome = .interrupted then self.finish (.raised (.injected call outcome))
  else self.stopAndRelease answers (.raised (.injected call outcome))

def beginStart (self : LiveRuntimeLifecycleCoordinator R) (policy : Option ShutdownPolicy)
    (answers : Answers) : Turn R :=
  if !self.restartAdmitted then self.finish (runtimeError "LIVE_RUNTIME_RESTART_NOT_ADMITTED")
  else if answers.controllerStart ≠ .returned then
    (self.abandonStart .controllerStart answers.controllerStart answers).after
      (made .controllerStart answers.controllerStart)
  else if answers.startupReconcile ≠ .returned then
    (self.abandonStart .startupReconcile answers.startupReconcile answers).after
      (made .controllerStart .returned ++ made .startupReconcile answers.startupReconcile)
  else
    ⟨self, .startingExecution policy,
      made .controllerStart .returned ++ made .startupReconcile .returned ++
        [.called .startExecution]⟩

/-- `start_execution` has ended. -/
def executionStarted (self : LiveRuntimeLifecycleCoordinator R)
    (policy : Option ShutdownPolicy) (outcome : CallOutcome) : Turn R :=
  let turn : Turn R := match outcome with
    | .returned =>
      finish { self with started := true, stopping := false, policy, technicalState := none }
        .returned
    | .interrupted => self.finish (.raised (.injected .startExecution .interrupted))
    | outcome =>
      ⟨self, .closingStartup (.injected .startExecution outcome), [.called .closeExecution]⟩
  turn.after [.ended .startExecution outcome]

/-- `close_execution` has ended in the cleanup of a failed start. -/
def startupClosed (self : LiveRuntimeLifecycleCoordinator R) (cause : Thrown)
    (outcome : CallOutcome) (answers : Answers) : Turn R :=
  let turn : Turn R := match outcome with
    | .cancelled =>
      (self.fail .startupCleanupCancelled).finish (.raised (.injected .closeExecution .cancelled))
    | .interrupted => self.finish (.raised (.injected .closeExecution .interrupted))
    | _ => self.stopAndRelease answers (.raised cause)
  turn.after [.ended .closeExecution outcome]

/-! ## Receiving -/

def beginReceive (self : LiveRuntimeLifecycleCoordinator R) (answers : Answers) : Turn R :=
  if !self.started || self.stopping then self.finish (runtimeError "LIVE_RUNTIME_NOT_STARTED")
  else
    ⟨{ self with
        activeReceives := self.activeReceives + 1
        receivesDrained := false
        receiveTasks :=
          (answers.currentTask.map fun task => self.receiveTasks.insert task).getD
            self.receiveTasks },
      .receiving answers.currentTask, [.called .receiveExecution]⟩

/-- `receive_execution_once` of the bootstrap has ended. -/
def received (self : LiveRuntimeLifecycleCoordinator R) (task : Option ℕ)
    (outcome : CallOutcome) : Turn R :=
  let active := self.activeReceives - 1
  ⟨{ self with
      receiveTasks := (task.map fun task => self.receiveTasks.erase task).getD self.receiveTasks
      activeReceives := active
      receivesDrained := active = 0 || self.receivesDrained },
    .done (if outcome = .returned then .returned
      else .raised (.injected .receiveExecution outcome)),
    [.ended .receiveExecution outcome]⟩

/-! ## Stopping -/

def shutdownTimeout (value : TimeoutValue) (default : ℚ) : Except Raised ℚ :=
  match value with
  | .absent => .ok default
  | .seconds value => .ok value
  | .unreadable e => .error e

/-- The two timeouts of the policy. -/
def shutdownTimeouts (policy : Option ShutdownPolicy) : Except Raised (ℚ × ℚ) := do
  let policy := policy.getD {}
  let graceful ← shutdownTimeout policy.gracefulShutdownTimeoutSeconds 10
  let cancellation ← shutdownTimeout policy.cancellationDrainTimeoutSeconds 5
  if graceful < 0 ∨ cancellation < 0 then
    .error ⟨.valueError, "LIVE_RUNTIME_INVALID_SHUTDOWN_TIMEOUT"⟩
  else .ok (graceful, cancellation)

def beginStop (self : LiveRuntimeLifecycleCoordinator R) (answers : Answers) : Turn R :=
  if !self.started then
    if self.technicalState.isSome then
      self.finish (runtimeError "LIVE_RUNTIME_RESTART_NOT_ADMITTED")
    else self.stopAndRelease answers .returned
  else
    match shutdownTimeouts self.policy with
    | .error e => self.finish (.raised (.own e))
    | .ok _ => ⟨{ self with stopping := true }, .closingExecution, [.called .closeExecution]⟩

/-- What a stop that ran to its end raises last: the error of `close_execution`. -/
def stopResult (closeFailed : Bool) : CallResult :=
  if closeFailed then .raised (.injected .closeExecution .raised) else .returned

/-- The `finally` block of a stop that was neither cancelled nor timed out. -/
def finishStop (self : LiveRuntimeLifecycleCoordinator R) (closeFailed : Bool)
    (result : CallResult) (answers : Answers) : Turn R :=
  let stopped := { self with started := false }
  match answers.controllerStop with
  | .returned =>
    if closeFailed then
      ((stopped.fail .stopExecutionCloseFailed).finish result).after
        (made .controllerStop .returned)
    else
      let (outcome, released, events) := stopped.releaseTransportOwnership answers
      let turn : Turn R := match outcome with
        | .returned => finish { released with stopping := false, technicalState := none } result
        | .raised =>
          (released.fail .transportOwnershipReleaseFailed).finish
            (.raised (.injected .releaseOwnership .raised))
        | outcome => released.finish (.raised (.injected .releaseOwnership outcome))
      turn.after (made .controllerStop .returned ++ events)
  | .raised =>
    ((stopped.fail .stopControllerFailed).finish
      (.raised (.injected .controllerStop .raised))).after (made .controllerStop .raised)
  | outcome =>
    (stopped.finish (.raised (.injected .controllerStop outcome))).after
      (made .controllerStop outcome)

def shutdownCancelled (self : LiveRuntimeLifecycleCoordinator R) (e : Thrown) : Turn R :=
  (self.fail .stopShutdownCancelled).finish (.raised e)

def shutdownTimedOut (self : LiveRuntimeLifecycleCoordinator R) (message : String) : Turn R :=
  (self.fail .stopTimeout).finish (runtimeError message)

/-- `close_execution` has ended in a stop. -/
def executionClosed (self : LiveRuntimeLifecycleCoordinator R) (outcome : CallOutcome)
    (answers : Answers) : Turn R :=
  let turn : Turn R := match outcome with
    | .returned => ⟨self, .draining false, []⟩
    | .raised => ⟨self, .draining true, []⟩
    | .cancelled => self.shutdownCancelled (.injected .closeExecution .cancelled)
    | .interrupted =>
      self.finishStop false (.raised (.injected .closeExecution .interrupted)) answers
  turn.after [.ended .closeExecution outcome]

/-- The cancellation of the receives has ended. -/
def receivesCancelled (self : LiveRuntimeLifecycleCoordinator R) (closeFailed : Bool)
    (outcome : CallOutcome) (answers : Answers) : Turn R :=
  let turn : Turn R := match outcome with
    | .returned => ⟨self, .drainingCancelled closeFailed, []⟩
    | .raised => self.shutdownTimedOut "LIVE_RUNTIME_SHUTDOWN_CANCELLATION_FAILED"
    | .cancelled => self.shutdownCancelled (.injected .cancelReceives .cancelled)
    | .interrupted =>
      self.finishStop closeFailed (.raised (.injected .cancelReceives .interrupted)) answers
  turn.after [.ended .cancelReceives outcome]

/-- `_cancel_inflight_receives`, by the transport or by the admitted tasks. -/
def cancelInflightReceives (self : LiveRuntimeLifecycleCoordinator R) (closeFailed : Bool)
    (answers : Answers) : Turn R :=
  match answers.cancelReceives with
  | .absent =>
    ⟨self, .drainingCancelled closeFailed,
      (self.receiveTasks.filter fun task => answers.currentTask ≠ some task).map .cancelledTask⟩
  | .awaitable => ⟨self, .cancellingReceives closeFailed, [.called .cancelReceives]⟩
  | .finished outcome =>
    (self.receivesCancelled closeFailed outcome answers).after [.called .cancelReceives]

/-- A wait for the receives has ended: it returns only when they are drained, and raises only
`TimeoutError`, after which the call goes on with `timedOut`. -/
def drained (self : LiveRuntimeLifecycleCoordinator R) (closeFailed : Bool)
    (outcome : CallOutcome) (answers : Answers) (timedOut : Turn R) : Option (Turn R) :=
  match outcome with
  | .returned =>
    if self.receivesDrained then
      some (self.finishStop closeFailed (stopResult closeFailed) answers)
    else none
  | .raised => some timedOut
  | .cancelled => some (self.shutdownCancelled (.drain .cancelled))
  | .interrupted =>
    some (self.finishStop closeFailed (.raised (.drain .interrupted)) answers)

/-! ## Calls -/

def begin (self : LiveRuntimeLifecycleCoordinator R) (call : Call) (answers : Answers) : Turn R :=
  match call with
  | .start policy => self.beginStart policy answers
  | .receiveExecutionOnce => self.beginReceive answers
  | .stop => self.beginStop answers

def resume (self : LiveRuntimeLifecycleCoordinator R) (point : Point) (outcome : CallOutcome)
    (answers : Answers) : Option (Turn R) :=
  match point with
  | .startingExecution policy => some (self.executionStarted policy outcome)
  | .closingStartup cause => some (self.startupClosed cause outcome answers)
  | .receiving task => some (self.received task outcome)
  | .closingExecution => some (self.executionClosed outcome answers)
  | .draining closeFailed =>
    self.drained closeFailed outcome answers (self.cancelInflightReceives closeFailed answers)
  | .cancellingReceives closeFailed =>
    some (self.receivesCancelled closeFailed outcome answers)
  | .drainingCancelled closeFailed =>
    self.drained closeFailed outcome answers
      (self.shutdownTimedOut "LIVE_RUNTIME_SHUTDOWN_DRAIN_TIMEOUT")
  | .done _ => none

end LiveRuntimeLifecycleCoordinator
end OptionProject.Lifecycle
