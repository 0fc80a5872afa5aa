import OptionProject.Library.Machine
import OptionProject.Oms.OrderStateMachine
import OptionProject.Risk.Engine

/-!
# The live submission of an order

`core/oms/order_router.py` over the registering broker of
`live_execution_runtime_composition_factory.py` and the adapter of
`environments/live/broker/kis_live_broker.py`, with `idempotency.py`, `safety_gate.py` and
`futures_broker_command_adapter.py`. What the transport and the contract master answer are
inputs of a call.

## Main definitions

* `LiveBrokerAdapter.submit` — the checks in front of the transport, and the transport.
* `LiveRouting.registerAndRoute` — the router over both brokers.
-/
namespace OptionProject.Live
open Library Contracts Oms

/-! ## Reservations -/

structure OrderIdentity where
  clientOrderId : String
  strategyId : String
  intentFingerprint : String

structure IdempotencyRegistry where
  identities : Dict String String

/-- An id that is reserved once is refused from then on, also to the same intent. -/
def IdempotencyRegistry.reserve (self : IdempotencyRegistry) (identity : OrderIdentity) :
    Bool × IdempotencyRegistry :=
  let fingerprint := identity.strategyId ++ ":" ++ identity.intentFingerprint
  match self.identities.get? identity.clientOrderId with
  | some _ => (false, self)
  | none => (true, ⟨self.identities.set identity.clientOrderId fingerprint⟩)

/-! ## The safety gate -/

structure LiveSafetyPolicy where
  killSwitch : Bool := true
  maxOrderQuantity : ℤ := 0
  maxDailyLoss : ℚ := 0
  maxPositionQuantity : ℤ := 0
  maxAccountStalenessSeconds : ℚ := 5

def LiveSafetyPolicy.canSubmit (self : LiveSafetyPolicy) : Bool :=
  !self.killSwitch && decide (0 < self.maxOrderQuantity) && decide (0 < self.maxDailyLoss) &&
    decide (0 < self.maxPositionQuantity)

structure LiveApproval where
  approvedBy : String
  approvedAt : String
  reason : String

structure LiveGateResult where
  allowed : Bool
  reason : String

structure LiveSafetyGate where
  policy : LiveSafetyPolicy
  approval : Option LiveApproval := none

def LiveSafetyGate.approve (self : LiveSafetyGate) (approval : LiveApproval) :
    Outcome LiveSafetyGate Unit :=
  if strip approval.approvedBy = "" then
    (.error ⟨.valueError, "approval identity is required"⟩, self)
  else (.ok (), { self with approval := some approval })

def LiveSafetyGate.revoke (self : LiveSafetyGate) : LiveSafetyGate := { self with approval := none }

def LiveSafetyGate.evaluate (self : LiveSafetyGate) (quantity : ℤ) (accountAgeSeconds : ℚ) :
    LiveGateResult :=
  if self.approval.isNone then ⟨false, "live approval is missing"⟩
  else if !self.policy.canSubmit then ⟨false, "live safety policy is disarmed"⟩
  else if quantity ≤ 0 ∨ self.policy.maxOrderQuantity < quantity then
    ⟨false, "order quantity exceeds live limit"⟩
  else if self.policy.maxAccountStalenessSeconds < accountAgeSeconds then
    ⟨false, "account/position data is stale"⟩
  else ⟨true, "approved"⟩

/-! ## The broker -/

/-- What the contract master and the transport answer during a call; `none` is a response of
another type. -/
structure BrokerAnswers where
  currentSymbol : Except Raised String
  response : Except Raised (Option BrokerOrderResponse)

def mappingError (message : String) : Raised := ⟨.futuresBrokerCommandMappingError, message⟩

/-- `KisFuturesBrokerCommandAdapter.to_broker_command`. -/
def toBrokerCommand (currentSymbol : Except Raised String) (command : BrokerOrderCommand) :
    Except Raised BrokerOrderCommand :=
  if command.assetType ≠ some "FUTURES" then .error (mappingError "FUTURES_ASSET_TYPE_REQUIRED")
  else if command.clientOrderId = "" then .error (mappingError "CLIENT_ORDER_ID_REQUIRED")
  else if command.instrumentId = "" then .error (mappingError "INSTRUMENT_ID_REQUIRED")
  else if command.quantity ≤ 0 then .error (mappingError "QUANTITY_REQUIRED")
  else if command.orderType = "" then .error (mappingError "ORDER_TYPE_REQUIRED")
  else do
    let brokerSymbol ← currentSymbol
    if brokerSymbol = "" then .error (mappingError "FUTURES_BROKER_SYMBOL_REQUIRED")
    else .ok { command with brokerSymbol := some brokerSymbol }

/-- The adapter, with the commands its transport was called with. -/
structure LiveBrokerAdapter where
  gate : LiveSafetyGate
  idempotency : IdempotencyRegistry
  hasFuturesCommandAdapter : Bool := true
  connected : Bool := false
  submitted : List BrokerOrderCommand := []

namespace LiveBrokerAdapter

def runtimeError (message : String) : Raised := ⟨.runtimeError, message⟩

def connect (self : LiveBrokerAdapter) (authenticated : Bool) : LiveBrokerAdapter :=
  { self with connected := authenticated }

/-- The command for the transport. -/
def brokerCommand (self : LiveBrokerAdapter) (command : BrokerOrderCommand)
    (currentSymbol : Except Raised String) : Except Raised BrokerOrderCommand :=
  if command.assetType = some "FUTURES" then
    if self.hasFuturesCommandAdapter then toBrokerCommand currentSymbol command
    else .error (runtimeError "FUTURES_COMMAND_ADAPTER_REQUIRED")
  else .ok command

/-- The reservation is made before the gate is asked, and stays when the gate refuses. -/
def submit (self : LiveBrokerAdapter) (command : BrokerOrderCommand) (identity : OrderIdentity)
    (accountAgeSeconds : ℚ) (answers : BrokerAnswers) :
    Outcome LiveBrokerAdapter (Option BrokerOrderResponse) :=
  if !self.connected then (.error (runtimeError "live broker is disconnected"), self)
  else
    match self.idempotency.reserve identity with
    | (false, _) => (.error (runtimeError "duplicate client order identity"), self)
    | (true, idempotency) =>
      let reserved := { self with idempotency }
      let gate := self.gate.evaluate command.quantity accountAgeSeconds
      if !gate.allowed then (.error (runtimeError gate.reason), reserved)
      else
        match self.brokerCommand command answers.currentSymbol with
        | .error e => (.error e, reserved)
        | .ok brokerCommand =>
          (answers.response,
            { reserved with submitted := self.submitted ++ [brokerCommand] })

end LiveBrokerAdapter

/-! ## The router -/

/-- The order states and the adapter that the registering broker holds. -/
structure LiveRouting where
  oms : OrderStateMachine
  broker : LiveBrokerAdapter

/-- The arguments of `register_and_route`, with the answers its call will get. -/
structure RouteCall where
  command : Option BrokerOrderCommand
  token : Option Risk.RiskApprovalToken
  identity : OrderIdentity
  accountAgeSeconds : ℚ
  answers : BrokerAnswers

def routerError (message : String) : Raised := ⟨.orderRouterError, message⟩

def toOrderAckEvent (response : BrokerOrderResponse) : Except Raised OrderAckEvent :=
  if response.clientOrderId = "" then .error ⟨.orderAckBoundaryError, "CLIENT_ORDER_ID_REQUIRED"⟩
  else if response.accepted ∧ orEmpty response.brokerOrderId = "" then
    .error ⟨.orderAckBoundaryError, "BROKER_ORDER_ID_REQUIRED_FOR_ACCEPTED_ACK"⟩
  else .ok
    { clientOrderId := response.clientOrderId
      accepted := response.accepted
      brokerOrderId := response.brokerOrderId
      brokerCode := response.brokerCode
      message := response.message }

namespace LiveRouting

/-- A command unknown to the OMS is registered as an intent; a known one is left alone. -/
def intend (oms : OrderStateMachine) (command : BrokerOrderCommand) :
    Outcome OrderStateMachine Unit :=
  match oms.get command.clientOrderId with
  | some _ => (.ok (), oms)
  | none =>
    match oms.applyIntent command.clientOrderId command.quantity with
    | (.error e, after) => (.error e, after)
    | (.ok _, after) => (.ok (), after)

/-- `OMSCommandRegisteringBroker.submit`. -/
def submit (self : LiveRouting) (command : BrokerOrderCommand) (call : RouteCall) :
    Outcome LiveRouting (Option BrokerOrderResponse) :=
  match self.oms.registerBrokerOrderCommand command with
  | (.error e, oms) => (.error e, { self with oms })
  | (.ok _, oms) =>
    match self.broker.submit command call.identity call.accountAgeSeconds call.answers with
    | (answer, broker) => (answer, { oms, broker })

/-- What the router does with the answer of the broker. -/
def acknowledge (self : LiveRouting) (command : BrokerOrderCommand)
    (answer : Except Raised (Option BrokerOrderResponse)) :
    Outcome LiveRouting BrokerOrderResponse :=
  match answer with
  | .error e => (.error e, self)
  | .ok none => (.error (routerError "BROKER_ORDER_RESPONSE_REQUIRED"), self)
  | .ok (some response) =>
    if response.clientOrderId ≠ command.clientOrderId then
      (.error (routerError "BROKER_RESPONSE_CLIENT_ORDER_ID_MISMATCH"), self)
    else
      match toOrderAckEvent response with
      | .error e => (.error e, self)
      | .ok event =>
        match self.oms.applyAck event with
        | (.error e, oms) => (.error e, { self with oms })
        | (.ok _, oms) => (.ok response, { self with oms })

def registerAndRoute (self : LiveRouting) (call : RouteCall) :
    Outcome LiveRouting BrokerOrderResponse :=
  match call.command, call.token with
  | none, _ => (.error (routerError "BROKER_ORDER_COMMAND_REQUIRED"), self)
  | some _, none => (.error (routerError "RISK_APPROVAL_TOKEN_REQUIRED"), self)
  | some command, some _ =>
    match intend self.oms command with
    | (.error e, oms) => (.error e, { self with oms })
    | (.ok (), oms) =>
      match submit { self with oms } command call with
      | (answer, after) => after.acknowledge command answer

end LiveRouting
end OptionProject.Live
