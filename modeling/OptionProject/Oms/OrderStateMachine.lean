import OptionProject.Contracts.Types
import OptionProject.Library.Dict

/-!
# The OMS order state machine

`core/oms/oms_fsm.py`: the order states by client order id, the broker-to-client
correlation table, and the four operations on them. `apply_ack` and `apply_execution`
end in an `OrderState(...)` call whose arguments are commented out in the source, so
that call raises; what they wrote before it stays written.
-/
namespace OptionProject.Oms
open Library Contracts

inductive OrderStatus
  | submitted
  | acked
  | rejected
  | partiallyFilled
  | filled
  deriving DecidableEq, Repr

structure OrderState where
  clientOrderId : String
  status : OrderStatus
  brokerOrderId : Option String := none
  orderQuantity : ℤ := 0
  filledQuantity : ℤ := 0
  brokerOrderCommand : Option BrokerOrderCommand := none
  averageExecutionPrice : Option ℚ := none
  deriving DecidableEq

structure ExecutionCorrelation where
  clientOrderId : String
  brokerOrderId : String
  orderQuantity : ℤ
  priorFilledQuantity : ℤ
  priorAveragePrice : Option ℚ := none
  deriving DecidableEq

structure OrderStateMachine where
  states : Dict String OrderState
  brokerToClient : Dict String String
  deriving DecidableEq

/-- An `OrderStateTransitionError`. -/
def transitionError (message : String) : Raised := ⟨.orderStateTransitionError, message⟩

/-- `OrderState(status)`: one positional argument where two are required. -/
def orderStateWithoutStatus : Raised :=
  ⟨.typeError, "OrderState.__init__() missing 1 required positional argument: 'status'"⟩

/-- `OrderState()`. -/
def orderStateWithoutArguments : Raised :=
  ⟨.typeError, "OrderState.__init__() missing 2 required positional arguments: " ++
    "'client_order_id' and 'status'"⟩

/-- `() / Decimal(cumulative)`. -/
def tupleDividedByDecimal : Raised :=
  ⟨.typeError, "unsupported operand type(s) for /: 'tuple' and 'decimal.Decimal'"⟩

namespace OrderStateMachine

def empty : OrderStateMachine := ⟨.empty, .empty⟩

/-- `self._states[client_order_id] = state`. -/
def setState (self : OrderStateMachine) (clientOrderId : String) (state : OrderState) :
    OrderStateMachine := { self with states := self.states.set clientOrderId state }

/-- `self._broker_to_client[broker_order_id] = client_order_id`. -/
def correlate (self : OrderStateMachine) (brokerOrderId clientOrderId : String) :
    OrderStateMachine :=
  { self with brokerToClient := self.brokerToClient.set brokerOrderId clientOrderId }

/-- `intent` needs only a client order id and a quantity. -/
def applyIntent (self : OrderStateMachine) (clientOrderId : String) (quantity : ℤ) :
    Outcome OrderStateMachine OrderState :=
  let clientOrderId := strip clientOrderId
  if clientOrderId = "" then (.error (transitionError "CLIENT_ORDER_ID_REQUIRED"), self)
  else if quantity ≤ 0 then (.error (transitionError "ORDER_QUANTITY_INVALID"), self)
  else if self.states.contains clientOrderId then
    (.error (transitionError "ORDER_INTENT_ALREADY_REGISTERED"), self)
  else
    let state : OrderState :=
      { clientOrderId, status := .submitted, orderQuantity := quantity }
    (.ok state, self.setState clientOrderId state)

/-- The command's identity, when it has one, names the command's instrument. -/
def instrumentMatches (command : BrokerOrderCommand) : Bool :=
  match command.instrumentIdentity with
  | none => true
  | some identity => command.instrumentId == identity.instrumentId

def registerBrokerOrderCommand (self : OrderStateMachine) (command : BrokerOrderCommand) :
    Outcome OrderStateMachine OrderState :=
  let clientOrderId := strip command.clientOrderId
  if clientOrderId = "" then (.error (transitionError "CLIENT_ORDER_ID_REQUIRED"), self)
  else
    match self.states.get? clientOrderId with
    | none => (.error (transitionError "ORDER_NOT_REGISTERED"), self)
    | some current =>
      if current.status ∉ [.submitted, .acked] then
        (.error (transitionError "BROKER_COMMAND_AFTER_INVALID_STATE"), self)
      else if command.quantity ≠ current.orderQuantity then
        (.error (transitionError "BROKER_COMMAND_QUANTITY_MISMATCH"), self)
      else if !instrumentMatches command then
        (.error (transitionError "BROKER_COMMAND_INSTRUMENT_ID_MISMATCH"), self)
      else
        let state : OrderState := { current with brokerOrderCommand := some command }
        (.ok state, self.setState clientOrderId state)

def applyAck (self : OrderStateMachine) (event : OrderAckEvent) :
    Outcome OrderStateMachine OrderState :=
  let clientOrderId := strip event.clientOrderId
  if clientOrderId = "" then (.error (transitionError "CLIENT_ORDER_ID_REQUIRED"), self)
  else
    match self.states.get? clientOrderId with
    | none => (.error (transitionError "ORDER_NOT_REGISTERED"), self)
    | some current =>
      if current.status ∉ [.submitted, .acked] then
        (.error (transitionError "ACK_AFTER_TERMINAL_STATE"), self)
      else if event.accepted && orEmpty event.brokerOrderId == "" then
        (.error (transitionError "BROKER_ORDER_ID_REQUIRED_FOR_ACCEPTED_ACK"), self)
      else if event.accepted then
        let brokerOrderId := strip (orEmpty event.brokerOrderId)
        if (self.brokerToClient.get? brokerOrderId).any (· ≠ clientOrderId) then
          (.error (transitionError "BROKER_ORDER_ID_ALREADY_CORRELATED"), self)
        else (.error orderStateWithoutStatus, self.correlate brokerOrderId clientOrderId)
      else (.error orderStateWithoutStatus, self)

def resolveExecutionCorrelation (self : OrderStateMachine) (brokerOrderId : String) :
    Except Raised ExecutionCorrelation :=
  let brokerId := strip brokerOrderId
  if brokerId = "" then .error (transitionError "BROKER_ORDER_ID_REQUIRED")
  else
    match self.brokerToClient.get? brokerId with
    | none => .error (transitionError "BROKER_ORDER_ID_NOT_CORRELATED")
    | some clientOrderId =>
      match self.states.get? clientOrderId with
      | none => .error (transitionError "CORRELATED_ORDER_STATE_MISSING")
      | some state =>
        if state.status ∉ [.acked, .partiallyFilled] then
          .error (transitionError "EXECUTION_CORRELATION_STATE_INVALID")
        else .ok
          { clientOrderId := state.clientOrderId
            brokerOrderId := brokerId
            orderQuantity := state.orderQuantity
            priorFilledQuantity := state.filledQuantity
            priorAveragePrice := state.averageExecutionPrice }

def getBrokerOrderCommand (self : OrderStateMachine) (brokerOrderId : Option String) :
    Except Raised BrokerOrderCommand :=
  let brokerId := strip (orEmpty brokerOrderId)
  if brokerId = "" then .error (transitionError "BROKER_ORDER_ID_REQUIRED")
  else
    match self.brokerToClient.get? brokerId with
    | none => .error (transitionError "BROKER_ORDER_ID_NOT_CORRELATED")
    | some clientOrderId =>
      match (self.states.get? clientOrderId).bind fun state =>
          state.brokerOrderCommand.map (state, ·) with
      | none => .error (transitionError "BROKER_ORDER_COMMAND_NOT_REGISTERED")
      | some (state, command) =>
        if state.brokerOrderId ≠ some brokerId then
          .error (transitionError "BROKER_ORDER_ID_MISMATCH")
        else .ok command

def get (self : OrderStateMachine) (clientOrderId : String) : Option OrderState :=
  self.states.get? clientOrderId

end OrderStateMachine

/-- The checks `apply_execution` makes against the current state of the order, and `settle`
before it consumes an execution id. -/
def checkExecution (current : OrderState) (report : ExecutionReport) : Except Raised Unit :=
  if report.status ∉ ["PARTIALLY_FILLED", "FILLED"] then
    .error (transitionError "UNSUPPORTED_EXECUTION_STATUS")
  else if report.filledQuantity ≤ 0 then
    .error (transitionError "FILLED_QUANTITY_INVALID")
  else if current.orderQuantity < current.filledQuantity + report.filledQuantity then
    .error (transitionError "FILLED_QUANTITY_EXCEEDS_ORDER")
  else if report.remainingQuantity ≠
      current.orderQuantity - (current.filledQuantity + report.filledQuantity) then
    .error (transitionError "REMAINING_QUANTITY_MISMATCH")
  else if orEmpty report.brokerOrderId ≠ "" ∧ current.brokerOrderId ≠ report.brokerOrderId then
    .error (transitionError "BROKER_ORDER_ID_MISMATCH")
  else .ok ()

/-- The new average price: a first positive price starts it, a later one meets the division
of an empty tuple. -/
def nextAverageExecutionPrice (current : OrderState) (report : ExecutionReport) :
    Except Raised (Option ℚ) :=
  match report.executionPrice with
  | none => .ok current.averageExecutionPrice
  | some price =>
    if price ≤ 0 then .ok current.averageExecutionPrice
    else if current.filledQuantity = 0 ∨ current.averageExecutionPrice = none then
      .ok (some price)
    else .error tupleDividedByDecimal

def OrderStateMachine.applyExecution (self : OrderStateMachine) (report : ExecutionReport) :
    Outcome OrderStateMachine OrderState :=
  let clientOrderId := strip report.clientOrderId
  match self.states.get? clientOrderId with
  | none => (.error (transitionError "ORDER_NOT_REGISTERED"), self)
  | some current =>
    if current.status ∉ [.acked, .partiallyFilled] then
      (.error (transitionError "EXECUTION_BEFORE_ACK"), self)
    else
      match checkExecution current report with
      | .error e => (.error e, self)
      | .ok () =>
        match nextAverageExecutionPrice current report with
        | .error e => (.error e, self)
        | .ok _ => (.error orderStateWithoutArguments, self)

end OptionProject.Oms
