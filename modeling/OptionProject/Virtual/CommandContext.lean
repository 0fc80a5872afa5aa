import OptionProject.Contracts.Canonical
import OptionProject.Oms.OrderIntentFactory

/-!
# Commands for the virtual broker

`environments/virtual/execution/order_intent_adapter.py` and
`environments/virtual/execution/vssf_command_context_provider.py`: an intent becomes a broker
command, and that a command of the canonical contracts. With the two calls that make the intent,
an order passes four checked stages, each with a record of its own.

## Main definitions

* `OrderIntentAdapter.toBrokerCommand`, `CanonicalVSSFCommandContextProvider.buildCommand` — the
  last two stages.
* `virtualOrderCommand` — the four stages one after another.
* `Provenance` — where the fields of a command come from.

## Main results

* `eq_of_toBrokerCommand`, `conveys_of_buildCommand` — what the last two stages pass on.
* `virtualOrderCommand_provenance` — every command is of the decision, the risk result and the
  signal, and none is of a refused result.
-/
namespace OptionProject.Virtual
open Library Contracts Oms

/-! ## Broker commands -/

def orderIntentMappingError (text : String) : PythonException := ⟨"OrderIntentMappingError", text⟩

namespace OrderIntentAdapter

/-- An option must name its contract. -/
def checkOption (intent : OrderIntent) : Except PythonException Unit :=
  if intent.assetType ≠ some "OPTION" then .ok ()
  else
    match intent.instrumentIdentity with
    | none => .error (orderIntentMappingError "OPTION_IDENTITY_REQUIRED")
    | some identity =>
      if identity.symbol = "" ∨ orEmpty identity.expiry = "" then
        .error (orderIntentMappingError "OPTION_SYMBOL_EXPIRY_REQUIRED")
      else if identity.optionType = none ∨ identity.strike.getD 0 ≤ 0 then
        .error (orderIntentMappingError "OPTION_CONTRACT_FIELDS_REQUIRED")
      else if identity.instrumentId ≠ intent.instrumentId then
        .error (orderIntentMappingError "INSTRUMENT_IDENTITY_MISMATCH")
      else .ok ()

def brokerOrderCommand (intent : OrderIntent) : BrokerOrderCommand where
  clientOrderId := intent.clientOrderId
  instrumentId := intent.instrumentId
  side := intent.side
  quantity := intent.quantity
  orderType := orEmpty intent.orderType
  brokerSymbol := intent.instrumentIdentity.map (·.symbol)
  instrumentIdentity := intent.instrumentIdentity
  assetType := intent.assetType
  requestedPrice := intent.requestedPrice
  strategyId := intent.strategyId
  orderPurpose := intent.orderPurpose
  trackId := intent.trackId
  tagId := intent.tagId
  groupId := intent.groupId
  legId := intent.legId

def toBrokerCommand (intent : OrderIntent) : Except PythonException BrokerOrderCommand :=
  if intent.clientOrderId = "" then .error (orderIntentMappingError "CLIENT_ORDER_ID_REQUIRED")
  else if intent.instrumentId = "" then .error (orderIntentMappingError "INSTRUMENT_ID_REQUIRED")
  else if intent.quantity ≤ 0 then .error (orderIntentMappingError "QUANTITY_REQUIRED")
  else if intent.side = "" then .error (orderIntentMappingError "SIDE_REQUIRED")
  else if orEmpty intent.orderType = "" then .error (orderIntentMappingError "ORDER_TYPE_REQUIRED")
  else do
    let () ← checkOption intent
    .ok (brokerOrderCommand intent)

end OrderIntentAdapter

theorem eq_of_toBrokerCommand {intent : OrderIntent} {order : BrokerOrderCommand}
    (mapped : OrderIntentAdapter.toBrokerCommand intent = .ok order) :
    order = OrderIntentAdapter.brokerOrderCommand intent := by
  simp only [OrderIntentAdapter.toBrokerCommand, ite_error_eq_ok, bind_eq_ok] at mapped
  obtain ⟨_, _, _, _, _, _, _, returned⟩ := mapped
  exact (Except.ok.inj returned).symm

/-! ## Canonical commands -/

variable {F : Type} [PythonFloat F]

def vssfCommandContextError (text : String) : PythonException := ⟨"VSSFCommandContextError", text⟩

/-- The enumerations raise nothing but a `ValueError`. -/
def raisingValueError {α : Type} (member : Except Raised α) : Except PythonException α :=
  member.mapError fun raised => ⟨"ValueError", raised.message⟩

theorem raisingValueError_eq_ok {α : Type} {member : Except Raised α} {a : α} :
    raisingValueError member = .ok a ↔ member = .ok a := by
  cases member <;> simp [raisingValueError, Except.mapError]

namespace CanonicalVSSFCommandContextProvider

def canonicalOrderCommand (order : BrokerOrderCommand) (identity : OptionInstrumentIdentity)
    (price strike : ℚ) : Except PythonException (CanonicalOrderCommand F) := do
  let assetType ← raisingValueError (canonicalAssetType (orEmpty order.assetType))
  let side ← raisingValueError (canonicalOrderSide order.side)
  let optionType ← raisingValueError (canonicalOptionType (orEmpty identity.optionType))
  .ok
    { clientOrderId := order.clientOrderId
      trackId := orEmpty order.trackId
      assetType, side
      qty := order.quantity
      price := PythonFloat.ofDecimal price
      optionType := some optionType
      strike := PythonFloat.ofDecimal strike
      symbol := identity.symbol
      expiry := orEmpty identity.expiry
      tagId := orEmpty order.tagId }

def buildCommand (order : BrokerOrderCommand) :
    Except PythonException (CanonicalOrderCommand F) :=
  if order.clientOrderId = "" then .error (vssfCommandContextError "CLIENT_ORDER_ID_REQUIRED")
  else if orEmpty order.trackId = "" then .error (vssfCommandContextError "TRACK_ID_REQUIRED")
  else if order.quantity ≤ 0 then .error (vssfCommandContextError "QUANTITY_REQUIRED")
  else
    match order.requestedPrice with
    | none => .error (vssfCommandContextError "REQUESTED_PRICE_REQUIRED")
    | some price =>
      if order.assetType ≠ some CanonicalAssetType.option.value then
        .error (vssfCommandContextError "OPTION_ASSET_TYPE_REQUIRED")
      else if order.side ≠ sideText .buy ∧ order.side ≠ sideText .sell then
        .error (vssfCommandContextError "CANONICAL_SIDE_REQUIRED")
      else
        match order.instrumentIdentity with
        | none => .error (vssfCommandContextError "OPTION_IDENTITY_REQUIRED")
        | some identity =>
          if identity.instrumentId ≠ order.instrumentId then
            .error (vssfCommandContextError "INSTRUMENT_IDENTITY_MISMATCH")
          else if identity.symbol = "" then
            .error (vssfCommandContextError "OPTION_SYMBOL_REQUIRED")
          else if orEmpty identity.expiry = "" then
            .error (vssfCommandContextError "OPTION_EXPIRY_REQUIRED")
          else if identity.optionType ≠ some CanonicalOptionType.call.value ∧
              identity.optionType ≠ some CanonicalOptionType.put.value then
            .error (vssfCommandContextError "CANONICAL_OPTION_TYPE_REQUIRED")
          else
            match identity.strike with
            | none => .error (vssfCommandContextError "OPTION_STRIKE_REQUIRED")
            | some strike =>
              if strike ≤ 0 then .error (vssfCommandContextError "OPTION_STRIKE_REQUIRED")
              else if orEmpty order.tagId = "" then
                .error (vssfCommandContextError "TAG_ID_REQUIRED")
              else canonicalOrderCommand order identity price strike

end CanonicalVSSFCommandContextProvider

/-- The command is on the contract of the identity. -/
structure OnContract (identity : OptionInstrumentIdentity) (command : CanonicalOrderCommand F) :
    Prop where
  symbol : command.symbol = identity.symbol
  expiry : identity.expiry = some command.expiry
  optionType : ∃ optionType, command.optionType = some optionType ∧
    identity.optionType = some optionType.value
  strike : ∃ strike, identity.strike = some strike ∧
    command.strike = PythonFloat.ofDecimal strike

/-- What the last stage passes on of a broker command. -/
structure Conveys (order : BrokerOrderCommand) (command : CanonicalOrderCommand F) : Prop where
  clientOrderId : command.clientOrderId = order.clientOrderId
  trackId : order.trackId = some command.trackId
  tagId : order.tagId = some command.tagId
  assetType : order.assetType = some command.assetType.value
  side : order.side = sideText command.side
  qty : command.qty = order.quantity
  price : ∃ price, order.requestedPrice = some price ∧
    command.price = PythonFloat.ofDecimal price
  contract : ∃ identity, order.instrumentIdentity = some identity ∧ OnContract identity command

/-- The fields that may be missing are there once every check has passed. -/
theorem buildCommand_given {order : BrokerOrderCommand} {command : CanonicalOrderCommand F}
    (built : CanonicalVSSFCommandContextProvider.buildCommand order = .ok command) :
    ∃ price identity strike, order.requestedPrice = some price ∧
      order.instrumentIdentity = some identity ∧ identity.strike = some strike ∧
        orEmpty order.trackId ≠ "" ∧ orEmpty order.tagId ≠ "" ∧ orEmpty identity.expiry ≠ "" ∧
          order.assetType = some CanonicalAssetType.option.value ∧
            CanonicalVSSFCommandContextProvider.canonicalOrderCommand order identity price
              strike = .ok command := by
  unfold CanonicalVSSFCommandContextProvider.buildCommand at built
  simp only [ite_error_eq_ok] at built
  obtain ⟨_, track, _, built⟩ := built
  split at built
  next => cases built
  next price priced =>
    simp only [ite_error_eq_ok, not_not] at built
    obtain ⟨option, _, built⟩ := built
    split at built
    next => cases built
    next identity named =>
      simp only [ite_error_eq_ok, not_not] at built
      obtain ⟨_, _, expires, _, built⟩ := built
      split at built
      next => cases built
      next strike struck =>
        simp only [ite_error_eq_ok] at built
        obtain ⟨_, tag, built⟩ := built
        exact ⟨price, identity, strike, priced, named, struck, track, tag, expires, option,
          built⟩

theorem conveys_of_buildCommand {order : BrokerOrderCommand} {command : CanonicalOrderCommand F}
    (built : CanonicalVSSFCommandContextProvider.buildCommand order = .ok command) :
    Conveys order command := by
  obtain ⟨price, identity, strike, priced, named, struck, track, tag, expires, option, built⟩ :=
    buildCommand_given built
  simp only [CanonicalVSSFCommandContextProvider.canonicalOrderCommand, bind_eq_ok,
    raisingValueError_eq_ok, canonicalAssetType_eq_ok, canonicalOrderSide_eq_ok,
    canonicalOptionType_eq_ok] at built
  obtain ⟨assetType, sameAsset, side, sameSide, optionType, sameType, returned⟩ := built
  cases Except.ok.inj returned
  have typed : identity.optionType = some optionType.value := by
    have given : orEmpty identity.optionType ≠ "" := by
      rw [sameType]
      cases optionType <;> simp [CanonicalOptionType.value]
    rw [eq_some_orEmpty given, sameType]
  exact
    { clientOrderId := rfl
      trackId := eq_some_orEmpty track
      tagId := eq_some_orEmpty tag
      assetType := by rw [← sameAsset, option]; rfl
      side := sameSide
      qty := rfl
      price := ⟨price, priced, rfl⟩
      contract := ⟨identity, named, rfl, eq_some_orEmpty expires, ⟨optionType, rfl, typed⟩,
        ⟨strike, struck, rfl⟩⟩ }

/-! ## The four stages -/

variable [UpperCaseTable] {decision : PositionExecutionDecision} {riskResult : RiskResult}
  {signal : Signal}

/-- The four calls one after another, each on what the one before it returned. -/
def virtualOrderCommand (decision : PositionExecutionDecision) (riskResult : RiskResult)
    (signal : Signal) : Except PythonException (CanonicalOrderCommand F) := do
  let execution ← buildOrderIntentExecutionInput decision riskResult
  let intent ← OrderIntentFactory.create signal execution
  let order ← OrderIntentAdapter.toBrokerCommand intent
  CanonicalVSSFCommandContextProvider.buildCommand order

/-- Where the fields of a command come from. The decision has a quantity too, which is nowhere
used. -/
structure Provenance (decision : PositionExecutionDecision) (riskResult : RiskResult)
    (signal : Signal) (command : CanonicalOrderCommand F) : Prop where
  qty : command.qty = riskResult.approvedQty
  qty_pos : 0 < command.qty
  reduced : upper riskResult.decision = "REDUCE" → riskResult.reducedQty = some command.qty
  side : signal.direction = "LONG" ∧ command.side = .buy ∨
    signal.direction = "SHORT" ∧ command.side = .sell
  clientOrderId : command.clientOrderId = decision.clientOrderId
  trackId : decision.trackId = some command.trackId
  tagId : decision.tagId = some command.tagId
  contract : ∃ own, signal.instrumentIdentity = some own ∧ OnContract own command

/-- The result is denied, of a decision that is not known, or does not agree with itself. -/
inductive Refused (riskResult : RiskResult) : Prop
  | denied (denies : upper riskResult.decision = "DENY" ∨ riskResult.isApproved = false)
  | unknown (unknown : upper riskResult.decision ∉ ["DENY", "ALLOW", "REDUCE"])
  | inconsistent (reduces : upper riskResult.decision = "REDUCE")
      (differs : riskResult.reducedQty ≠ some riskResult.approvedQty)
  | empty (nonpos : riskResult.approvedQty ≤ 0)

theorem Refused.not_approves {quantity : ℤ} (refused : Refused riskResult) :
    ¬riskResult.Approves quantity := by
  rintro ⟨approved, rfl, pos, decided⟩
  cases refused with
  | denied denies => grind
  | unknown unknown => grind
  | inconsistent reduces differs => grind
  | empty nonpos => omega

/-- What the four stages made a command of. -/
theorem virtualOrderCommand_stages {command : CanonicalOrderCommand F}
    (made : virtualOrderCommand decision riskResult signal = .ok command) :
    ∃ quantity side own, riskResult.Approves quantity ∧
      sideOfDirection signal.direction = some side ∧ signal.instrumentIdentity = some own ∧
        Conveys (OrderIntentAdapter.brokerOrderCommand (OrderIntentFactory.orderIntent signal
          (decision.executionInput quantity) side (some own) own.instrumentId)) command := by
  obtain ⟨execution, built, made⟩ := bind_eq_ok.mp made
  obtain ⟨intent, created, made⟩ := bind_eq_ok.mp made
  obtain ⟨order, mapped, made⟩ := bind_eq_ok.mp made
  obtain ⟨quantity, approves, rfl⟩ := buildOrderIntentExecutionInput_eq_ok.mp built
  obtain ⟨_, side, own, directed, selects, rfl⟩ := create_eq_ok.mp created
  cases eq_of_toBrokerCommand mapped
  exact ⟨quantity, side, own, approves, directed, selects.named, conveys_of_buildCommand made⟩

theorem virtualOrderCommand_provenance :
    (∀ command : CanonicalOrderCommand F,
      virtualOrderCommand decision riskResult signal = .ok command →
        Provenance decision riskResult signal command) ∧
      (Refused riskResult → ∀ command : CanonicalOrderCommand F,
        virtualOrderCommand decision riskResult signal ≠ .ok command) := by
  constructor
  · intro command made
    obtain ⟨quantity, side, own, approves, directed, named, conveys⟩ :=
      virtualOrderCommand_stages made
    have sided : side = command.side := sideText_injective conveys.side
    obtain ⟨identity, same, contract⟩ := conveys.contract
    cases Option.some.inj same
    exact
      { qty := conveys.qty.trans approves.approvedQty.symm
        qty_pos := conveys.qty ▸ approves.pos
        reduced := by
          intro reduces
          obtain allowed | ⟨_, reduced⟩ := approves.decided
          · simp [reduces] at allowed
          · exact conveys.qty ▸ reduced
        side := sideOfDirection_eq_some.mp (sided ▸ directed)
        clientOrderId := conveys.clientOrderId
        trackId := conveys.trackId
        tagId := conveys.tagId
        contract := ⟨own, named, contract⟩ }
  · intro refused command made
    obtain ⟨_, _, _, approves, _⟩ := virtualOrderCommand_stages made
    exact refused.not_approves approves

def entryDecision : PositionExecutionDecision where
  clientOrderId := "ORD-1"
  approvedQuantity := 5
  requestedPrice := some (5 / 4)
  orderType := "LIMIT"
  orderPurpose := "ENTRY"
  assetType := "OPTION"
  trackId := some "track1"
  tagId := some "tail-defense"

def longCall : Signal where
  strategyId := "track1"
  direction := "LONG"
  instrumentIdentity := some ⟨"AUTH-OPTION-1", "KOSPI200", some "202609", some "CALL", some 350⟩
  strikeOverride := some 350

omit [UpperCaseTable] in
theorem virtualOrderCommand_provenance_reduced :
    letI : UpperCaseTable := ⟨fun c => [c]⟩
    (∃ command : CanonicalOrderCommand WholeFloat,
      virtualOrderCommand entryDecision ⟨"reduce", true, 3, some ⟨some 3⟩⟩ longCall =
          .ok command ∧
        Provenance entryDecision ⟨"reduce", true, 3, some ⟨some 3⟩⟩ longCall command) ∧
      ∀ command : CanonicalOrderCommand WholeFloat,
        virtualOrderCommand entryDecision ⟨"REDUCE", true, 4, some ⟨some 3⟩⟩ longCall ≠
          .ok command := by
  let : UpperCaseTable := ⟨fun c => [c]⟩
  refine ⟨⟨_, rfl, virtualOrderCommand_provenance.1 _ rfl⟩, ?_⟩
  exact virtualOrderCommand_provenance.2 (.inconsistent (by decide) (by decide))

end OptionProject.Virtual
