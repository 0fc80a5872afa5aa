import OptionProject.Contracts.Types

/-!
# Order intents

`core/oms/risk_order_intent_adapter.py`, `core/oms/option_identity_resolver.py` and
`core/oms/order_intent_factory.py`: a decision on an execution takes its quantity from the risk
result, and becomes an intent for the instrument of a signal.

## Main definitions

* `buildOrderIntentExecutionInput` — the decision with the quantity of the risk result.
* `OptionIdentityResolver.resolve` — the identity of an option, which overrides do not change.
* `OrderIntentFactory.create` — the intent.

## Main results

* `buildOrderIntentExecutionInput_eq_ok`, `resolve_eq_ok`, `create_eq_ok` — when each of them
  returns, and what.
-/
namespace OptionProject.Oms
open Library Contracts

/-! ## Upper case -/

/-- What the Unicode tables say of the characters beyond ASCII: the upper case of one may be
several. -/
class UpperCaseTable where
  upperCase : Char → List Char

variable [UpperCaseTable]

/-- `text.upper()`. -/
def upper (text : String) : String :=
  .ofList (text.toList.flatMap fun c =>
    if c.toNat < 0x80 then [c.toUpper] else UpperCaseTable.upperCase c)

/-! ## The risk result -/

structure PositionExecutionDecision where
  clientOrderId : String
  approvedQuantity : ℤ
  requestedPrice : Option ℚ
  orderType : String
  orderPurpose : String
  assetType : String
  trackId : Option String := none
  tagId : Option String := none

/-- The command of a reduction, of which only `getattr(reduced, "qty", None)` is used. -/
structure ReducedCommand where
  qty : Option ℤ

structure RiskResult where
  decision : String
  isApproved : Bool
  approvedQty : ℤ
  reducedCommand : Option ReducedCommand := none

def RiskResult.reducedQty (riskResult : RiskResult) : Option ℤ :=
  riskResult.reducedCommand.bind (·.qty)

structure OrderIntentExecutionInput where
  clientOrderId : String
  quantity : ℤ
  requestedPrice : Option ℚ
  orderType : String
  orderPurpose : String
  assetType : String
  trackId : Option String := none
  tagId : Option String := none

def riskOrderIntentMappingError (text : String) : PythonException :=
  ⟨"RiskOrderIntentMappingError", text⟩

/-- The quantity of a result that is not denied. -/
def riskQuantity (riskResult : RiskResult) : Except PythonException ℤ :=
  let status := upper riskResult.decision
  if status = "ALLOW" then .ok riskResult.approvedQty
  else if status = "REDUCE" then
    match riskResult.reducedQty with
    | none => .error (riskOrderIntentMappingError "REDUCED_QUANTITY_REQUIRED")
    | some reducedQty =>
      if riskResult.approvedQty ≠ reducedQty then
        .error (riskOrderIntentMappingError "RISK_QUANTITY_PROVENANCE_MISMATCH")
      else .ok reducedQty
  else .error (riskOrderIntentMappingError ("UNKNOWN_RISK_DECISION: " ++ status))

omit [UpperCaseTable] in
def PositionExecutionDecision.executionInput (decision : PositionExecutionDecision)
    (quantity : ℤ) : OrderIntentExecutionInput where
  clientOrderId := decision.clientOrderId
  quantity := quantity
  requestedPrice := decision.requestedPrice
  orderType := decision.orderType
  orderPurpose := decision.orderPurpose
  assetType := decision.assetType
  trackId := decision.trackId
  tagId := decision.tagId

/-- A denied result raises without a text. -/
def buildOrderIntentExecutionInput (decision : PositionExecutionDecision)
    (riskResult : RiskResult) : Except PythonException OrderIntentExecutionInput :=
  if upper riskResult.decision = "DENY" ∨ riskResult.isApproved = false then
    .error (riskOrderIntentMappingError "")
  else do
    let quantity ← riskQuantity riskResult
    if quantity ≤ 0 then .error (riskOrderIntentMappingError "APPROVED_QUANTITY_REQUIRED")
    else .ok (decision.executionInput quantity)

/-- The result approves of a quantity, and does not contradict itself. -/
structure RiskResult.Approves (riskResult : RiskResult) (quantity : ℤ) : Prop where
  isApproved : riskResult.isApproved = true
  approvedQty : riskResult.approvedQty = quantity
  pos : 0 < quantity
  decided : upper riskResult.decision = "ALLOW" ∨
    upper riskResult.decision = "REDUCE" ∧ riskResult.reducedQty = some quantity

theorem riskQuantity_eq_ok {riskResult : RiskResult} {quantity : ℤ} :
    riskQuantity riskResult = .ok quantity ↔ riskResult.approvedQty = quantity ∧
      (upper riskResult.decision = "ALLOW" ∨
        upper riskResult.decision = "REDUCE" ∧ riskResult.reducedQty = some quantity) := by
  unfold riskQuantity
  by_cases allowed : upper riskResult.decision = "ALLOW"
  · simp [allowed]
  · by_cases reduces : upper riskResult.decision = "REDUCE"
    · cases held : riskResult.reducedQty with
      | none => simp [reduces]
      | some reducedQty =>
        simp only [reduces, ite_true]
        grind
    · simp [allowed, reduces]

theorem buildOrderIntentExecutionInput_eq_ok {decision : PositionExecutionDecision}
    {riskResult : RiskResult} {execution : OrderIntentExecutionInput} :
    buildOrderIntentExecutionInput decision riskResult = .ok execution ↔
      ∃ quantity, riskResult.Approves quantity ∧ decision.executionInput quantity = execution := by
  simp only [buildOrderIntentExecutionInput, ite_error_eq_ok, bind_eq_ok, riskQuantity_eq_ok,
    Except.ok.injEq, not_or, Bool.not_eq_false, not_le]
  constructor
  · rintro ⟨⟨_, approved⟩, quantity, ⟨same, decided⟩, pos, rfl⟩
    exact ⟨quantity, ⟨approved, same, pos, decided⟩, rfl⟩
  · rintro ⟨quantity, approves, rfl⟩
    refine ⟨⟨?_, approves.isApproved⟩, quantity, ⟨approves.approvedQty, approves.decided⟩,
      approves.pos, rfl⟩
    intro denied
    obtain allowed | ⟨reduces, _⟩ := approves.decided
    · simp [denied] at allowed
    · simp [denied] at reduces

omit [UpperCaseTable]

/-! ## The identity of an option -/

def identityResolutionError (text : String) : PythonException := ⟨"IdentityResolutionError", text⟩

structure OptionIdentityResolutionInput where
  instrumentIdentity : Option OptionInstrumentIdentity
  optionTypeOverride : Option String := none
  strikeOverride : Option ℚ := none

/-- An override says nothing new. -/
def Confirms {α : Type} (override value : Option α) : Prop := override = none ∨ override = value

instance {α : Type} [DecidableEq α] (override value : Option α) :
    Decidable (Confirms override value) := inferInstanceAs (Decidable (_ ∨ _))

theorem Confirms.or_eq {α : Type} {override value : Option α} (confirms : Confirms override value) :
    override.or value = value := by
  obtain rfl | rfl := confirms
  · rfl
  · exact Option.or_self

namespace OptionIdentityResolver

def resolve (request : OptionIdentityResolutionInput) :
    Except PythonException OptionInstrumentIdentity :=
  match request.instrumentIdentity with
  | none => .error (identityResolutionError "OPTION_IDENTITY_REQUIRED")
  | some identity =>
    let optionType := request.optionTypeOverride.or identity.optionType
    let strike := request.strikeOverride.or identity.strike
    if ¬Confirms request.optionTypeOverride identity.optionType then
      .error (identityResolutionError "AUTHORITATIVE_IDENTITY_REQUIRED_FOR_OPTION_TYPE_OVERRIDE")
    else if ¬Confirms request.strikeOverride identity.strike then
      .error (identityResolutionError "AUTHORITATIVE_IDENTITY_REQUIRED_FOR_STRIKE_OVERRIDE")
    else if identity.instrumentId = "" then
      .error (identityResolutionError "INSTRUMENT_ID_REQUIRED")
    else if identity.symbol = "" then .error (identityResolutionError "SYMBOL_REQUIRED")
    else if orEmpty identity.expiry = "" then .error (identityResolutionError "EXPIRY_REQUIRED")
    else if optionType = none then .error (identityResolutionError "OPTION_TYPE_REQUIRED")
    -- a missing strike is refused as one of zero
    else if strike.getD 0 ≤ 0 then .error (identityResolutionError "STRIKE_REQUIRED")
    else .ok { identity with optionType, strike }

end OptionIdentityResolver

/-- An identity that names its contract. -/
structure Complete (identity : OptionInstrumentIdentity) : Prop where
  instrumentId : identity.instrumentId ≠ ""
  symbol : identity.symbol ≠ ""
  expiry : orEmpty identity.expiry ≠ ""
  optionType : identity.optionType ≠ none
  strike : 0 < identity.strike.getD 0

/-- The identity is that of the request, whatever the overrides. -/
theorem resolve_eq_ok {request : OptionIdentityResolutionInput}
    {identity : OptionInstrumentIdentity} :
    OptionIdentityResolver.resolve request = .ok identity ↔
      request.instrumentIdentity = some identity ∧
        Confirms request.optionTypeOverride identity.optionType ∧
          Confirms request.strikeOverride identity.strike ∧ Complete identity := by
  unfold OptionIdentityResolver.resolve
  cases given : request.instrumentIdentity with
  | none => simp
  | some own =>
    simp only [ite_error_eq_ok, not_not, not_le, Except.ok.injEq, Option.some.injEq]
    constructor
    · rintro ⟨sameType, sameStrike, id, symbol, expiry, optionType, strike, rfl⟩
      rw [sameType.or_eq] at optionType ⊢
      rw [sameStrike.or_eq] at strike ⊢
      exact ⟨rfl, sameType, sameStrike, id, symbol, expiry, optionType, strike⟩
    · rintro ⟨rfl, sameType, sameStrike, id, symbol, expiry, optionType, strike⟩
      rw [sameType.or_eq, sameStrike.or_eq]
      exact ⟨sameType, sameStrike, id, symbol, expiry, optionType, strike, rfl⟩

/-! ## The intent -/

def orderIntentValidationError (text : String) : PythonException :=
  ⟨"OrderIntentValidationError", text⟩

/-- What the factory reads of a strategy's signal. -/
structure Signal where
  strategyId : String
  direction : String
  instrumentIdentity : Option OptionInstrumentIdentity := none
  optionTypeOverride : Option String := none
  strikeOverride : Option ℚ := none

def sideOfDirection (direction : String) : Option Side :=
  [("LONG", .buy), ("SHORT", .sell)].lookup direction

theorem sideOfDirection_eq_some {direction : String} {side : Side} :
    sideOfDirection direction = some side ↔
      direction = "LONG" ∧ side = .buy ∨ direction = "SHORT" ∧ side = .sell := by
  unfold sideOfDirection
  cases side <;> grind

namespace OrderIntentFactory

/-- Only the identity of an option is resolved. -/
def identity (signal : Signal) (assetType : String) :
    Except PythonException (Option OptionInstrumentIdentity) :=
  if assetType = "OPTION" then do
    let identity ← OptionIdentityResolver.resolve
      ⟨signal.instrumentIdentity, signal.optionTypeOverride, signal.strikeOverride⟩
    .ok (some identity)
  else .ok signal.instrumentIdentity

def orderIntent (signal : Signal) (execution : OrderIntentExecutionInput) (side : Side)
    (identity : Option OptionInstrumentIdentity) (instrumentId : String) : OrderIntent where
  clientOrderId := execution.clientOrderId
  instrumentId := instrumentId
  side := sideText side
  quantity := execution.quantity
  intentType := execution.orderPurpose
  strategyId := some signal.strategyId
  instrumentIdentity := identity
  assetType := some execution.assetType
  requestedPrice := execution.requestedPrice
  orderType := some execution.orderType
  orderPurpose := some execution.orderPurpose
  trackId := execution.trackId
  tagId := execution.tagId

def create (signal : Signal) (execution : OrderIntentExecutionInput) :
    Except PythonException OrderIntent :=
  if execution.quantity ≤ 0 then .error (orderIntentValidationError "QUANTITY_REQUIRED")
  else if execution.orderType = "" then .error (orderIntentValidationError "ORDER_TYPE_REQUIRED")
  else if execution.orderPurpose = "" then
    .error (orderIntentValidationError "ORDER_PURPOSE_REQUIRED")
  else if execution.assetType = "" then .error (orderIntentValidationError "ASSET_TYPE_REQUIRED")
  else
    match sideOfDirection signal.direction with
    | none => .error (orderIntentValidationError "ORDER_SIDE_REQUIRED")
    | some side => do
      let identity ← identity signal execution.assetType
      let instrumentId := orEmpty (identity.map (·.instrumentId))
      if instrumentId = "" then .error (orderIntentValidationError "INSTRUMENT_ID_REQUIRED")
      else .ok (orderIntent signal execution side identity instrumentId)

end OrderIntentFactory

structure Executable (execution : OrderIntentExecutionInput) : Prop where
  quantity : 0 < execution.quantity
  orderType : execution.orderType ≠ ""
  orderPurpose : execution.orderPurpose ≠ ""
  assetType : execution.assetType ≠ ""

/-- The signal is for an instrument of its own, which it does not change. -/
structure Selects (signal : Signal) (assetType : String) (own : OptionInstrumentIdentity) :
    Prop where
  named : signal.instrumentIdentity = some own
  instrumentId : own.instrumentId ≠ ""
  option : assetType = "OPTION" →
    Confirms signal.optionTypeOverride own.optionType ∧
      Confirms signal.strikeOverride own.strike ∧ Complete own

variable {signal : Signal} {execution : OrderIntentExecutionInput} {assetType : String}

theorem identity_eq_ok {identity : Option OptionInstrumentIdentity} :
    OrderIntentFactory.identity signal assetType = .ok identity ∧
        orEmpty (identity.map (·.instrumentId)) ≠ "" ↔
      ∃ own, Selects signal assetType own ∧ some own = identity := by
  unfold OrderIntentFactory.identity
  constructor
  · rintro ⟨returned, named⟩
    split at returned
    next option =>
      obtain ⟨own, resolved, returned⟩ := bind_eq_ok.mp returned
      cases returned
      obtain ⟨same, confirms⟩ := resolve_eq_ok.mp resolved
      exact ⟨own, ⟨same, named, fun _ => confirms⟩, rfl⟩
    next other =>
      cases returned
      cases held : signal.instrumentIdentity with
      | none => simp [held, orEmpty] at named
      | some own =>
        rw [held] at named
        exact ⟨own, ⟨held, named, fun option => absurd option other⟩, rfl⟩
  · rintro ⟨own, selects, rfl⟩
    refine ⟨?_, selects.instrumentId⟩
    split
    next option =>
      exact bind_eq_ok.mpr ⟨own, resolve_eq_ok.mpr ⟨selects.named, selects.option option⟩, rfl⟩
    next => rw [selects.named]

theorem create_eq_ok {intent : OrderIntent} :
    OrderIntentFactory.create signal execution = .ok intent ↔
      Executable execution ∧ ∃ side own, sideOfDirection signal.direction = some side ∧
        Selects signal execution.assetType own ∧
          OrderIntentFactory.orderIntent signal execution side (some own) own.instrumentId =
            intent := by
  unfold OrderIntentFactory.create
  simp only [ite_error_eq_ok, not_le]
  constructor
  · rintro ⟨quantity, orderType, orderPurpose, assetType, created⟩
    refine ⟨⟨quantity, orderType, orderPurpose, assetType⟩, ?_⟩
    split at created
    next => cases created
    next side known =>
      obtain ⟨identity, returned, created⟩ := bind_eq_ok.mp created
      obtain ⟨named, created⟩ := ite_error_eq_ok.mp created
      obtain ⟨own, selects, rfl⟩ := identity_eq_ok.mp ⟨returned, named⟩
      exact ⟨side, own, known, selects, Except.ok.inj created⟩
  · rintro ⟨executable, side, own, known, selects, rfl⟩
    refine ⟨executable.quantity, executable.orderType, executable.orderPurpose,
      executable.assetType, ?_⟩
    obtain ⟨returned, named⟩ := identity_eq_ok.mpr ⟨own, selects, rfl⟩
    rw [known]
    exact bind_eq_ok.mpr ⟨some own, returned, ite_error_eq_ok.mpr ⟨named, rfl⟩⟩

end OptionProject.Oms
