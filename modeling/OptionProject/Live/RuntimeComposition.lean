import OptionProject.Live.ExecutionTransport
import OptionProject.Live.RecoveryService
import OptionProject.Live.SentOnce
import OptionProject.Live.Settlement

/-!
# The assembled live runtime

`live_execution_runtime_composition_factory.py`: the router, the consumer of execution frames,
the recovery service and the settlement share one OMS, one deduplicator and one position.
The factory does not get that far in the source: `self` and two of the four parameters of
`LiveExecutionPositionBridge.__init__` are commented out, so its keyword construction raises a
`TypeError`. The runtime here is the one that the factory assembles once the bridge is built.

## Main definitions

* `LiveExecutionRuntimeComposition.perform` — what can happen to it, in any order.
* `Outstanding` — a command that was sent, and of which no fill is known.

## Main results

* `unsettled_after` — whatever happens, every order that was sent stays outstanding at its full
  quantity, and the position is the one of the start.
-/
namespace OptionProject.Live
open Library Contracts Oms Position

structure LiveExecutionRuntimeComposition where
  routing : LiveRouting
  dedup : ExecutionEventDeduplicator
  position : LivePositionAggregate

namespace LiveExecutionRuntimeComposition

/-- The settlement bridge over the shared stores. -/
def bridge (self : LiveExecutionRuntimeComposition) : LiveExecutionPositionBridge :=
  ⟨self.routing.oms, self.dedup, self.position⟩

def settle (self : LiveExecutionRuntimeComposition) (report : ExecutionReport) :
    Outcome LiveExecutionRuntimeComposition OrderState :=
  match self.bridge.settle report with
  | (answer, after) =>
    (answer, ⟨{ self.routing with oms := after.oms }, after.dedup, after.position⟩)

/-- `KISFuturesExecutionConsumer.receive_once` on a frame of the transport: the report is
converted by the instance of the adapter and settled. -/
def receiveExecutionOnce (sha256 : String → String) (self : LiveExecutionRuntimeComposition)
    (frame : String) : Outcome LiveExecutionRuntimeComposition ExecutionReport :=
  let converted := do
    let notice ← KISFuturesExecutionNoticeAdapter.parse frame
    let brokerOrderId ← notice.brokerOrderId
    let correlation ← KISFuturesExecutionCorrelationProvider.resolve self.routing.oms brokerOrderId
    KISFuturesExecutionNoticeAdapter.call sha256 .ofInstance notice
      { clientOrderId := correlation.clientOrderId
        orderQuantity := correlation.orderQuantity
        priorFilledQuantity := correlation.priorFilledQuantity }
  match converted with
  | .error e => (.error e, self)
  | .ok report =>
    match self.settle report with
    | (.error e, after) => (.error e, after)
    | (.ok _, after) => (.ok report, after)

/-- `LiveExecutionRecoveryService.recover` on what the transport answers. -/
def recover (self : LiveExecutionRuntimeComposition) (answer : Except Raised Response) :
    Outcome LiveExecutionRuntimeComposition (List OrderState) :=
  LiveExecutionRecoveryService.recover self.routing.oms (fun _ => answer)
    (fun report now => now.settle report) () self

/-! ## Events -/

/-- What happens to the runtime, with what the transports answer. -/
inductive Event
  | operate (move : LiveRouting.Move)
  | call (call : OmsCall)
  | receive (frame : String)
  | settle (report : ExecutionReport)
  | recover (answer : Except Raised Response)

/-- What an event returns. The answers of operators' calls are left out. -/
inductive Reply
  | operated
  | routed (response : BrokerOrderResponse)
  | ordered (state : OrderState)
  | received (report : ExecutionReport)
  | settled (state : OrderState)
  | recovered (states : List OrderState)

def perform (sha256 : String → String) (self : LiveExecutionRuntimeComposition) :
    Event → Outcome LiveExecutionRuntimeComposition Reply
  | .operate (.route call) =>
    match self.routing.registerAndRoute call with
    | (answer, routing) => (answer.map .routed, { self with routing })
  | .operate move => (.ok .operated, { self with routing := self.routing.perform move })
  | .call call =>
    match call.perform self.routing.oms with
    | (answer, oms) => (answer.map .ordered, { self with routing := { self.routing with oms } })
  | .receive frame =>
    match receiveExecutionOnce sha256 self frame with
    | (answer, after) => (answer.map .received, after)
  | .settle report =>
    match self.settle report with
    | (answer, after) => (answer.map .settled, after)
  | .recover response =>
    match self.recover response with
    | (answer, after) => (answer.map .recovered, after)

/-- The runtime after events that return or raise. -/
def after (sha256 : String → String) (self : LiveExecutionRuntimeComposition)
    (events : List Event) : LiveExecutionRuntimeComposition :=
  events.foldl (fun now event => (now.perform sha256 event).2) self

/-! ## What routing leaves in the OMS -/

/-- A command that was sent, and of which the OMS knows no acknowledgement and no fill. -/
def Outstanding (oms : OrderStateMachine) (sent : BrokerOrderCommand) : Prop :=
  ∃ state, oms.get (strip sent.clientOrderId) = some state ∧ state.status = .submitted ∧
    state.filledQuantity = 0 ∧ state.orderQuantity = sent.quantity

section Routing

variable {oms next : OrderStateMachine} {routing : LiveRouting} {call : RouteCall}
  {command sent : BrokerOrderCommand}

theorem Outstanding.change (change : oms.Change next) (outstanding : Outstanding oms sent) :
    Outstanding next sent := by
  obtain ⟨state, known, status, filled, quantity⟩ := outstanding
  unfold OrderStateMachine.get at known
  cases change with
  | unchanged => exact ⟨state, known, status, filled, quantity⟩
  | registered clientOrderId registeredQuantity stripped nonempty positive fresh =>
    have other : strip sent.clientOrderId ≠ clientOrderId := by
      rintro same
      cases (same ▸ known).symm.trans fresh
    refine ⟨state, ?_, status, filled, quantity⟩
    exact (Dict.get?_set_of_ne _ _ other).trans known
  | commanded clientOrderId current command' present _ =>
    by_cases same : strip sent.clientOrderId = clientOrderId
    · obtain rfl : state = current := Option.some.inj ((same ▸ known).symm.trans present)
      refine ⟨{ state with brokerOrderCommand := some command' }, ?_, status, filled, quantity⟩
      rw [same]
      exact Dict.get?_set_self _ _ _
    · refine ⟨state, ?_, status, filled, quantity⟩
      exact (Dict.get?_set_of_ne _ _ same).trans known
  | correlated => exact ⟨state, known, status, filled, quantity⟩

/-! What every change of the OMS keeps is kept by a routing call, part by part. -/

variable {P : OrderStateMachine → Prop}
  (step : ∀ oms next, OrderStateMachine.Change oms next → P oms → P next)
include step

theorem oms_intend (start : P oms) : P (LiveRouting.intend oms command).2 := by
  unfold LiveRouting.intend
  split
  · exact start
  · have kept := step _ _ (oms.applyIntent_change command.clientOrderId command.quantity) start
    split <;> simpa [*] using kept

theorem oms_submit (start : P routing.oms) : P (routing.submit command call).2.oms := by
  have kept := step _ _ (routing.oms.registerBrokerOrderCommand_change command) start
  unfold LiveRouting.submit
  split <;> simpa [*] using kept

theorem oms_acknowledge {answer : Except Raised (Option BrokerOrderResponse)}
    (start : P routing.oms) : P (routing.acknowledge command answer).2.oms := by
  unfold LiveRouting.acknowledge
  split
  · exact start
  · exact start
  · split
    · exact start
    · split
      · exact start
      · next event _ =>
        have kept := step _ _ (routing.oms.applyAck_change event) start
        split <;> simpa [*] using kept

theorem oms_registerAndRoute (start : P routing.oms) :
    P (routing.registerAndRoute call).2.oms := by
  unfold LiveRouting.registerAndRoute
  split
  · exact start
  · exact start
  · next command _ _ _ =>
    have intended := @oms_intend _ command _ step start
    split
    · next failed => simpa [failed] using intended
    · next oms taken =>
      rw [taken] at intended
      have submitted : P (LiveRouting.submit { routing with oms } command call).2.oms :=
        oms_submit step intended
      -- the answer of the broker is not to be computed
      generalize LiveRouting.submit { routing with oms } command call = answered at submitted ⊢
      obtain ⟨answer, after⟩ := answered
      exact oms_acknowledge step submitted

omit step

/-- A command that is taken stays on its order, which is otherwise as it was submitted. -/
theorem registered_spec {state : OrderState} (unacked : oms.Unacknowledged)
    (registered : (oms.registerBrokerOrderCommand command).1 = .ok state) :
    (oms.registerBrokerOrderCommand command).2.get (strip command.clientOrderId) = some state ∧
      state.status = .submitted ∧ state.filledQuantity = 0 ∧
      state.orderQuantity = command.quantity := by
  unfold OrderStateMachine.registerBrokerOrderCommand at registered ⊢
  by_cases unnamed : strip command.clientOrderId = ""
  · simp [unnamed] at registered
  cases known : oms.states.get? (strip command.clientOrderId) with
  | none => simp [unnamed, known] at registered
  | some current =>
    obtain ⟨status, -, filled, -⟩ := unacked _ current known
    by_cases other : command.quantity ≠ current.orderQuantity
    · simp [unnamed, known, status, other] at registered
    · cases matching : OrderStateMachine.instrumentMatches command with
      | false => simp [unnamed, known, status, other, matching] at registered
      | true =>
        simp only [unnamed, known, status, other, matching, List.mem_cons, true_or,
          not_true_eq_false, Bool.not_true, Bool.false_eq_true, if_false] at registered ⊢
        cases registered
        exact ⟨Dict.get?_set_self _ _ _, rfl, filled, (not_not.mp other).symm⟩

/-- The mapping only adds the symbol of the broker. -/
theorem eq_of_brokerCommand {broker : LiveBrokerAdapter} {currentSymbol : Except Raised String}
    (mapped : broker.brokerCommand command currentSymbol = .ok sent) :
    ∃ brokerSymbol, sent = { command with brokerSymbol } := by
  unfold LiveBrokerAdapter.brokerCommand at mapped
  split at mapped
  · split at mapped
    · simp only [toBrokerCommand, ite_error_eq_ok, bind_eq_ok, Except.ok.injEq] at mapped
      obtain ⟨-, -, -, -, -, symbol, -, -, rfl⟩ := mapped
      exact ⟨some symbol, rfl⟩
    · cases mapped
  · cases mapped
    exact ⟨command.brokerSymbol, rfl⟩

/-- The order of a call that is sent is outstanding after the call. -/
theorem outstanding_of_sends (unacked : routing.oms.Unacknowledged)
    (sends : LiveRouting.Sends routing call command sent) :
    Outstanding (routing.registerAndRoute call).2.oms sent := by
  obtain ⟨intended, state, registered⟩ := sends.registers
  obtain ⟨token, approved⟩ := Option.isSome_iff_exists.mp sends.approved
  obtain ⟨symbol, rfl⟩ := eq_of_brokerCommand sends.passes.mapped
  have before : (LiveRouting.intend routing.oms command).2.Unacknowledged :=
    oms_intend (fun _ _ => OrderStateMachine.Unacknowledged.change) unacked
  have placed : Outstanding _ command := ⟨state, registered_spec before registered⟩
  cases taken : LiveRouting.intend routing.oms command with
  | mk answer oms =>
    rw [taken] at intended registered placed
    cases stored : oms.registerBrokerOrderCommand command with
    | mk answer' oms' =>
      rw [stored] at registered placed
      obtain rfl : answer = .ok () := intended
      obtain rfl : answer' = .ok state := registered
      rw [LiveRouting.registerAndRoute, sends.given, approved]
      simp only [taken, LiveRouting.submit, stored]
      exact oms_acknowledge (fun _ _ change held => Outstanding.change change held) placed

theorem submitted_registerAndRoute (routing : LiveRouting) (call : RouteCall) :
    (routing.registerAndRoute call).2.broker.submitted = routing.broker.submitted ∨
      ∃ command sent, LiveRouting.Sends routing call command sent ∧
        (routing.registerAndRoute call).2.broker.submitted =
          routing.broker.submitted ++ [sent] := by
  rcases LiveRouting.broker_registerAndRoute routing call with
    ⟨command, given, approved, registers, asked⟩ | ⟨-, same⟩
  · by_cases passes : ∃ sent, LiveBrokerAdapter.Passes routing.broker command call.identity
        call.accountAgeSeconds call.answers sent
    · obtain ⟨sent, passes⟩ := passes
      refine .inr ⟨command, sent, ⟨given, approved, registers, passes⟩, ?_⟩
      rw [asked, LiveBrokerAdapter.submit_of_passes passes]
    · left
      rw [asked]
      exact LiveBrokerAdapter.submitted_of_not_passes fun sent passing => passes ⟨sent, passing⟩
  · left
    rw [same]

end Routing

/-! ## Reports, frames and recoveries -/

variable {now : LiveExecutionRuntimeComposition}

/-- No order is acknowledged, and no execution was consumed. -/
structure Blind (now : LiveExecutionRuntimeComposition) : Prop where
  unacknowledged : now.routing.oms.Unacknowledged
  unseen : now.dedup = .empty

/-- A report is refused: no order in the OMS can take a fill. -/
theorem settle_refused (blind : Blind now) (report : ExecutionReport) :
    ∃ e, now.settle report = (.error e, now) := by
  obtain ⟨unacked, unseen⟩ := blind
  obtain ⟨⟨oms, broker⟩, dedup, position⟩ := now
  obtain rfl : dedup = .empty := unseen
  unfold settle bridge LiveExecutionPositionBridge.settle
  cases known : oms.get report.clientOrderId with
  | none => exact ⟨_, rfl⟩
  | some state =>
    have status : state.status = .submitted := (unacked _ state known).1
    by_cases unnamed : strip (orEmpty report.executionId) = ""
    · exact ⟨⟨.valueError, "EXECUTION_EVENT_ID_REQUIRED"⟩, by simp [unnamed]⟩
    · refine ⟨transitionError "EXECUTION_BEFORE_ACK", ?_⟩
      simp [unnamed, status, ExecutionEventDeduplicator.contains, ExecutionEventDeduplicator.empty]

/-- No broker order id resolves. -/
theorem resolve_refused {orders : OrderStateMachine} (unacked : orders.Unacknowledged)
    (brokerOrderId : String) :
    ∃ e, KISFuturesExecutionCorrelationProvider.resolve orders brokerOrderId = .error e := by
  unfold KISFuturesExecutionCorrelationProvider.resolve
    OrderStateMachine.resolveExecutionCorrelation
  by_cases unnamed : strip brokerOrderId = ""
  · exact ⟨_, by rw [if_pos unnamed]⟩
  rw [if_neg unnamed]
  cases orders.brokerToClient.get? (strip brokerOrderId) with
  | none => exact ⟨_, rfl⟩
  | some clientOrderId =>
    cases known : orders.states.get? clientOrderId with
    | none =>
      exact ⟨⟨.kisFuturesExecutionCorrelationError, "CORRELATED_ORDER_STATE_MISSING"⟩,
        by simp [known, transitionError]⟩
    | some state =>
      have status := (unacked clientOrderId state known).1
      exact ⟨⟨.kisFuturesExecutionCorrelationError, "EXECUTION_CORRELATION_STATE_INVALID"⟩,
        by simp [known, status, transitionError]⟩

/-- A frame is never converted. -/
theorem receiveExecutionOnce_refused {sha256 : String → String} (blind : Blind now)
    (frame : String) : ∃ e, receiveExecutionOnce sha256 now frame = (.error e, now) := by
  unfold receiveExecutionOnce
  cases KISFuturesExecutionNoticeAdapter.parse frame with
  | error e => exact ⟨e, rfl⟩
  | ok notice =>
    cases named : notice.brokerOrderId with
    | error e => exact ⟨e, by simp [named, bind, Except.bind]⟩
    | ok brokerOrderId =>
      obtain ⟨e, failed⟩ := resolve_refused blind.unacknowledged brokerOrderId
      exact ⟨e, by simp [named, failed, bind, Except.bind]⟩

/-- A recovery returns only where the broker lists no execution. -/
theorem recover_refused (blind : Blind now) (answer : Except Raised Response) :
    (∃ e, now.recover answer = (.error e, now)) ∨
      answer = .ok ⟨some []⟩ ∧ now.recover answer = (.ok [], now) := by
  unfold recover LiveExecutionRecoveryService.recover
  cases answer with
  | error e => exact .inl ⟨e, rfl⟩
  | ok response =>
    cases normalized : KISFuturesExecutionRecoveryAdapter.normalize response
        (LiveExecutionRecoveryService.contextForOrder now.routing.oms) with
    | error e => exact .inl ⟨e, by simp only [normalized]⟩
    | ok reports =>
      obtain ⟨rows, state, output, rfl, projects⟩ :=
        KISFuturesExecutionRecoveryAdapter.projects_of_normalize normalized
      match rows with
      | [] =>
        obtain ⟨output1⟩ := response
        obtain rfl : output1 = some [] := output
        have silent : [] = state.reports := Except.ok.inj normalized
        refine .inr ⟨rfl, ?_⟩
        simp only [normalized, ← silent]
        rfl
      | row :: rest =>
        -- the order of a row would have to resolve
        have listed :
            KISFuturesExecutionRecoveryAdapter.rowsOf (field row "odno") (row :: rest) ≠ [] := by
          simp [KISFuturesExecutionRecoveryAdapter.rowsOf]
        obtain ⟨context, given, -⟩ := projects.orderAccounts listed
        obtain ⟨e, failed⟩ := resolve_refused blind.unacknowledged (field row "odno")
        simp [LiveExecutionRecoveryService.contextForOrder, failed, bind, Except.bind] at given

/-! ## Runs -/

/-- No fill is known: the position stands where it did, and every order that was sent is
outstanding. -/
structure Unsettled (position : LivePositionAggregate) (now : LiveExecutionRuntimeComposition) :
    Prop extends Blind now where
  position : now.position = position
  outstanding : ∀ sent ∈ now.routing.broker.submitted, Outstanding now.routing.oms sent

variable {position : LivePositionAggregate} {sha256 : String → String}

theorem Unsettled.route (unsettled : Unsettled position now) (call : RouteCall) :
    Unsettled position { now with routing := (now.routing.registerAndRoute call).2 } := by
  obtain ⟨⟨unacked, unseen⟩, same, outstanding⟩ := unsettled
  refine ⟨⟨?_, unseen⟩, same, fun sent submitted => ?_⟩
  · exact oms_registerAndRoute (fun _ _ => OrderStateMachine.Unacknowledged.change) unacked
  · have kept (old : sent ∈ now.routing.broker.submitted) :
        Outstanding (now.routing.registerAndRoute call).2.oms sent :=
      oms_registerAndRoute (fun _ _ change held => Outstanding.change change held)
        (outstanding sent old)
    dsimp only at submitted
    rcases submitted_registerAndRoute now.routing call with nothing | ⟨command, new, sends, one⟩
    · exact kept (nothing ▸ submitted)
    · rw [one] at submitted
      rcases List.mem_append.mp submitted with old | last
      · exact kept old
      · obtain rfl := List.mem_singleton.mp last
        exact outstanding_of_sends unacked sends

theorem Unsettled.call (unsettled : Unsettled position now) (call : OmsCall) :
    Unsettled position
      { now with routing := { now.routing with oms := (call.perform now.routing.oms).2 } } := by
  obtain ⟨⟨unacked, unseen⟩, same, outstanding⟩ := unsettled
  have change := call.perform_change now.routing.oms
  exact ⟨⟨unacked.change change, unseen⟩, same, fun sent submitted =>
    (outstanding sent submitted).change change⟩

/-- A call that leaves the OMS and what was sent alone. -/
theorem Unsettled.operated {routing : LiveRouting} (unsettled : Unsettled position now)
    (oms : routing.oms = now.routing.oms)
    (submitted : routing.broker.submitted = now.routing.broker.submitted) :
    Unsettled position { now with routing } := by
  obtain ⟨⟨unacked, unseen⟩, same, outstanding⟩ := unsettled
  refine ⟨⟨?_, unseen⟩, same, ?_⟩
  · rwa [oms]
  · rwa [oms, submitted]

theorem Unsettled.perform (unsettled : Unsettled position now) (event : Event) :
    Unsettled position (now.perform sha256 event).2 := by
  cases event with
  | operate move =>
    cases move with
    | route call =>
      have routed := unsettled.route call
      rw [LiveExecutionRuntimeComposition.perform]
      -- the answer of the router is not to be computed
      generalize now.routing.registerAndRoute call = answered at routed ⊢
      obtain ⟨answer, routing⟩ := answered
      exact routed
    | connect authenticated => exact unsettled.operated rfl rfl
    | approve approval =>
      have routed : Unsettled position
          { now with routing := now.routing.perform (.approve approval) } :=
        unsettled.operated rfl (by simp only [LiveRouting.perform])
      exact routed
    | revoke => exact unsettled.operated rfl rfl
  | call call =>
    have called := unsettled.call call
    rw [LiveExecutionRuntimeComposition.perform]
    generalize call.perform now.routing.oms = answered at called ⊢
    obtain ⟨answer, oms⟩ := answered
    exact called
  | receive frame =>
    obtain ⟨e, refused⟩ := @receiveExecutionOnce_refused _ sha256 unsettled.toBlind frame
    rwa [LiveExecutionRuntimeComposition.perform, refused]
  | settle report =>
    obtain ⟨e, refused⟩ := settle_refused unsettled.toBlind report
    rwa [LiveExecutionRuntimeComposition.perform, refused]
  | recover answer =>
    rcases recover_refused unsettled.toBlind answer with ⟨e, refused⟩ | ⟨-, refused⟩ <;>
      rwa [LiveExecutionRuntimeComposition.perform, refused]

theorem Unsettled.after (unsettled : Unsettled position now) (events : List Event) :
    Unsettled position (now.after sha256 events) :=
  List.foldlRecOn events _ unsettled fun _ held event _ => held.perform event

/-! ## Replies -/

/-- An acknowledgement fails in the OMS, so no routing call returns. -/
theorem registerAndRoute_refused (routing : LiveRouting) (call : RouteCall) :
    ∃ e, (routing.registerAndRoute call).1 = .error e := by
  have acknowledged (routing : LiveRouting) (command : BrokerOrderCommand)
      (answer : Except Raised (Option BrokerOrderResponse)) :
      ∃ e, (routing.acknowledge command answer).1 = .error e := by
    unfold LiveRouting.acknowledge
    split
    · exact ⟨_, rfl⟩
    · exact ⟨_, rfl⟩
    · split
      · exact ⟨_, rfl⟩
      · split
        · exact ⟨_, rfl⟩
        · next event _ =>
          have raised := routing.oms.applyAck_raised event
          split
          · exact ⟨_, rfl⟩
          · simp [*, Outcome.raised] at raised
  unfold LiveRouting.registerAndRoute
  split
  · exact ⟨_, rfl⟩
  · exact ⟨_, rfl⟩
  · split
    · exact ⟨_, rfl⟩
    · exact acknowledged _ _ _

/-- A call of the OMS that returns gives an order as it was submitted. -/
theorem status_of_performed {oms : OrderStateMachine} (unacked : oms.Unacknowledged)
    {call : OmsCall} {state : OrderState} (returned : (call.perform oms).1 = .ok state) :
    state.status = .submitted ∧ state.filledQuantity = 0 := by
  cases call with
  | applyIntent clientOrderId quantity =>
    simp only [OmsCall.perform, OrderStateMachine.applyIntent] at returned
    split_ifs at returned
    cases returned
    exact ⟨rfl, rfl⟩
  | registerBrokerOrderCommand command =>
    obtain ⟨-, status, filled, -⟩ := registered_spec unacked returned
    exact ⟨status, filled⟩
  | applyAck event =>
    have raised := oms.applyAck_raised event
    simp only [OmsCall.perform] at returned
    simp [Outcome.raised, returned] at raised
  | applyExecution report =>
    obtain ⟨e, failed⟩ := oms.applyExecution_fails report
    simp [OmsCall.perform, failed] at returned

/-- Which replies there are while no fill is known. -/
def Silent (sha256 : String → String) (now : LiveExecutionRuntimeComposition) : Prop :=
  ∀ event reply, (now.perform sha256 event).1 = .ok reply →
    reply = .operated ∨
    (∃ state, reply = .ordered state ∧ state.status = .submitted ∧ state.filledQuantity = 0) ∨
    event = .recover (.ok ⟨some []⟩) ∧ reply = .recovered []

theorem Blind.silent (blind : Blind now) : Silent sha256 now := by
  intro event reply returned
  cases event with
  | operate move =>
    cases move with
    | route call =>
      obtain ⟨e, refused⟩ := registerAndRoute_refused now.routing call
      simp [LiveExecutionRuntimeComposition.perform, refused, Except.map] at returned
    | connect authenticated => exact .inl (Except.ok.inj returned).symm
    | approve approval => exact .inl (Except.ok.inj returned).symm
    | revoke => exact .inl (Except.ok.inj returned).symm
  | call call =>
    cases answered : (call.perform now.routing.oms).1 with
    | error e => simp [LiveExecutionRuntimeComposition.perform, answered, Except.map] at returned
    | ok state =>
      obtain rfl : .ordered state = reply := by
        simpa [LiveExecutionRuntimeComposition.perform, answered, Except.map] using returned
      exact .inr (.inl ⟨state, rfl, status_of_performed blind.unacknowledged answered⟩)
  | receive frame =>
    obtain ⟨e, refused⟩ := @receiveExecutionOnce_refused _ sha256 blind frame
    rw [LiveExecutionRuntimeComposition.perform, refused] at returned
    cases returned
  | settle report =>
    obtain ⟨e, refused⟩ := settle_refused blind report
    rw [LiveExecutionRuntimeComposition.perform, refused] at returned
    cases returned
  | recover answer =>
    rcases recover_refused blind answer with ⟨e, refused⟩ | ⟨rfl, refused⟩
    · rw [LiveExecutionRuntimeComposition.perform, refused] at returned
      cases returned
    · rw [LiveExecutionRuntimeComposition.perform, refused] at returned
      exact .inr (.inr ⟨rfl, (Except.ok.inj returned).symm⟩)

/-- Whatever happens to a runtime that starts without orders, in any order: every order that was
sent stays outstanding at its full quantity, the position stays where it was, and no routing call,
frame or report is ever answered. -/
theorem unsettled_after (sha256 : String → String) {start : LiveExecutionRuntimeComposition}
    (unordered : start.routing.oms = .empty) (unsent : start.routing.broker.submitted = [])
    (unseen : start.dedup = .empty) (events : List Event) :
    Unsettled start.position (start.after sha256 events) ∧
      Silent sha256 (start.after sha256 events) := by
  have begins : Unsettled start.position start := by
    refine ⟨⟨?_, unseen⟩, rfl, ?_⟩
    · rw [unordered]
      exact OrderStateMachine.unacknowledged_after []
    · simp [unsent]
  exact ⟨begins.after events, (begins.after events).toBlind.silent⟩

/-- An order of 2 that the broker filled, after its notice, its report and its recovery. -/
theorem unsettled_filled_order :
    let start : LiveExecutionRuntimeComposition :=
      { routing := .armed, dedup := .empty, position := { instrumentId := "F-202612" } }
    let report : ExecutionReport :=
      { clientOrderId := "ORD-1", brokerOrderId := some "B1", executionId := some "E1",
        status := "FILLED", filledQuantity := 2, remainingQuantity := 0,
        executionPrice := some 350, executionTimestamp := none }
    let row : Row := .ofList [("odno", "B1"), ("tot_ccld_qty", "2"), ("avg_idx", "350")]
    let events := [.operate (.route (LiveRouting.futuresCall "ORD-1")),
      .receive ("1|H0IFCNI0|22|id^acct^B1^0^01^0^0^101W12^2^350.25^101010^0^Y^2^01^2" ++
        "^name^fut^0^1^1^350.25"), .settle report, .recover (.ok ⟨some [some row]⟩)]
    let now := start.after id events
    now.routing.sentIds = ["ORD-1"] ∧
      Unsettled { instrumentId := "F-202612" } now ∧ Silent id now := by
  intro start report row events now
  have accounted : Unsettled start.position now ∧ Silent id now :=
    unsettled_after id rfl rfl rfl events
  have sent : now.routing.sentIds = ["ORD-1"] := by decide +kernel
  exact ⟨sent, accounted⟩

end LiveExecutionRuntimeComposition
end OptionProject.Live
