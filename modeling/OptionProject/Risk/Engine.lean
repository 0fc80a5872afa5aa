import OptionProject.Library.Dict
import OptionProject.Library.Rounding
import OptionProject.Risk.Config

/-!
# The risk engine

`core/risk/risk_engine.py`: the pre-trade gates in their order, with the two reductions of
an order, and the gate in front of the router. A command is anything that offers the data of
the protocol and `dataclasses.replace` on its quantity; the margin calculator is any function
on commands that may raise; the random id and the time of a token are inputs. Quotients are
rounded in the decimal context of the engine, sums are exact.

## Main definitions

* `RiskEngine.calculateExpectedPosition` — the position an order is expected to leave.
* `RiskEngine.limitPosition`, `RiskEngine.limitMargin` — the two gates that may reduce.
* `RiskEngine.evaluateOrder`, `RiskGate.admitOrder` — the evaluation and the gate.
-/
namespace OptionProject.Risk
open Library Contracts

/-! ## Commands -/

/-- The protocol of a command; replacing the quantity keeps all other data. -/
class RiskOrderCommand (C : Type) where
  clientOrderId : C → String
  trackId : C → String
  qty : C → ℤ
  side : C → String
  tagId : C → String
  getInstrumentKey : C → Except Raised String
  replaceQty : C → ℤ → C
  clientOrderId_replaceQty :
    ∀ command n, clientOrderId (replaceQty command n) = clientOrderId command
  trackId_replaceQty : ∀ command n, trackId (replaceQty command n) = trackId command
  qty_replaceQty : ∀ command n, qty (replaceQty command n) = n
  side_replaceQty : ∀ command n, side (replaceQty command n) = side command
  tagId_replaceQty : ∀ command n, tagId (replaceQty command n) = tagId command
  getInstrumentKey_replaceQty :
    ∀ command n, getInstrumentKey (replaceQty command n) = getInstrumentKey command
  replaceQty_replaceQty : ∀ command m n, replaceQty (replaceQty command m) n = replaceQty command n
  replaceQty_qty : ∀ command, replaceQty command (qty command) = command

attribute [simp] RiskOrderCommand.qty_replaceQty RiskOrderCommand.side_replaceQty
  RiskOrderCommand.tagId_replaceQty RiskOrderCommand.replaceQty_replaceQty
  RiskOrderCommand.replaceQty_qty

/-- A command with exactly the protocol's data. -/
structure Command where
  clientOrderId : String := "order-1"
  trackId : String := "track1"
  qty : ℤ
  price : ℚ := 1
  side : String
  tagId : String := ""
  instrumentKey : String

instance : RiskOrderCommand Command where
  clientOrderId := Command.clientOrderId
  trackId := Command.trackId
  qty := Command.qty
  side := Command.side
  tagId := Command.tagId
  getInstrumentKey command := .ok command.instrumentKey
  replaceQty command n := { command with qty := n }
  clientOrderId_replaceQty _ _ := rfl
  trackId_replaceQty _ _ := rfl
  qty_replaceQty _ _ := rfl
  side_replaceQty _ _ := rfl
  tagId_replaceQty _ _ := rfl
  getInstrumentKey_replaceQty _ _ := rfl
  replaceQty_replaceQty _ _ _ := rfl
  replaceQty_qty _ := rfl

abbrev MarginCalculator (C : Type) := C → Except Raised ℚ

/-! ## Inputs and results -/

structure RiskAccountInput where
  totalBalance : ℚ
  realizedPnl : ℚ
  usedMargin : ℚ
  freeMargin : ℚ

structure RiskPosition where
  side : String
  qty : ℤ
  deriving DecidableEq, Repr

structure RiskPositionInput where
  positions : Dict String RiskPosition

/-- A number as a `Decimal` holds it. -/
inductive DecimalValue
  | finite (q : ℚ)
  | infinite (negative : Bool)
  | nan
  deriving DecidableEq

structure RiskSensorSnapshot where
  isVolSpike : Bool := false
  isCrisisRegime : Bool := false
  isMarginDietRequired : Bool := false
  isAccountStale : Bool := false
  isPositionStale : Bool := false
  activeVolRatio : DecimalValue := .finite 1
  reason : String := "NORMAL"

structure RiskApprovalToken where
  orderId : String
  timestampNs : ℕ
  signature : String
  deriving DecidableEq, Repr

inductive Decision
  | allow
  | reduce
  | deny
  deriving DecidableEq, Repr

structure RiskEvaluationResult (C : Type) where
  isApproved : Bool
  decision : Decision
  originalQty : ℤ
  approvedQty : ℤ
  rejectionReason : Option String := none
  requiredMargin : ℚ := 0
  estimatedMarginRatio : ℚ := 0
  token : Option RiskApprovalToken := none
  reducedCommand : Option C := none

/-- A denial with what it reports. -/
structure Denial where
  reason : String
  requiredMargin : ℚ := 0
  estimatedMarginRatio : ℚ := 0

/-- What ends an evaluation before its approval: an exception, or a denial. -/
inductive Stop
  | raised (e : Raised)
  | denied (denial : Denial)

/-- A call that may raise, inside an evaluation. -/
def attempt {α : Type} : Except Raised α → Except Stop α
  | .ok a => .ok a
  | .error e => .error (.raised e)

theorem attempt_eq_ok {α : Type} {x : Except Raised α} {a : α} :
    attempt x = .ok a ↔ x = .ok a := by
  cases x <;> simp [attempt]

/-- An order that passed the margin gate: the command, its margin and the ratio. -/
structure Approval (C : Type) where
  effective : C
  requiredMargin : ℚ
  estimatedRatio : ℚ

structure ExpectedPosition where
  instrumentKey : String
  side : String
  qty : ℤ
  deriving DecidableEq, Repr

/-! ## The engine -/

structure RiskEngine where
  config : RiskConfig
  isKillSwitchActive : Bool := false
  dailyRealizedLoss : ℚ := 0
  context : DecimalContext := .standard

namespace RiskEngine
open RiskOrderCommand

variable {C : Type} [RiskOrderCommand C]

def triggerKillSwitch (self : RiskEngine) : RiskEngine := { self with isKillSwitchActive := true }

def resetKillSwitch (self : RiskEngine) : RiskEngine := { self with isKillSwitchActive := false }

def recordRealizedLoss (self : RiskEngine) (amount : ℚ) : RiskEngine :=
  if amount < 0 then { self with dailyRealizedLoss := self.dailyRealizedLoss + |amount| }
  else self

/-- The entry under the key, or else the only entry of the map. -/
def currentPosition (instrumentKey : String) (positions : Option RiskPositionInput) :
    Option RiskPosition :=
  match positions with
  | none => none
  | some input =>
    match input.positions.get? instrumentKey with
    | some position => some position
    | none =>
      match input.positions.entries with
      | [(_, only)] => some only
      | _ => none

def calculateExpectedPosition (command : C) (positions : Option RiskPositionInput) :
    Except Raised ExpectedPosition := do
  let instrumentKey ← getInstrumentKey command
  let orderSide := side command
  match currentPosition instrumentKey positions with
  | none => .ok ⟨instrumentKey, orderSide, qty command⟩
  | some current =>
    if current.qty = 0 ∨ current.side = "" then .ok ⟨instrumentKey, orderSide, qty command⟩
    else if current.side = orderSide then
      .ok ⟨instrumentKey, current.side, current.qty + qty command⟩
    else if qty command < current.qty then
      .ok ⟨instrumentKey, current.side, current.qty - qty command⟩
    else if qty command = current.qty then .ok ⟨instrumentKey, "FLAT", 0⟩
    else .ok ⟨instrumentKey, orderSide, qty command - current.qty⟩

/-- The gates before the position limit. -/
def screen (self : RiskEngine) (command : C) (account : RiskAccountInput) : Except Stop Unit :=
  let config := self.config
  let totalLoss := self.dailyRealizedLoss + |min 0 account.realizedPnl|
  if self.isKillSwitchActive then .error (.denied ⟨"REJECTED_BY_KILL_SWITCH", 0, 0⟩)
  else if qty command ≤ 0 then
    .error (.denied ⟨"INVALID_ORDER_QTY: " ++ toString (qty command), 0, 0⟩)
  else if config.maxOrderQty < qty command then
    .error (.denied ⟨"EXCEEDED_MAX_ORDER_QTY: " ++ toString (qty command) ++ " > " ++
      toString config.maxOrderQty, 0, 0⟩)
  else if config.maxDailyLossKrw ≤ totalLoss then
    .error (.denied ⟨"EXCEEDED_MAX_DAILY_LOSS: " ++ amountText totalLoss ++ " >= " ++
      amountText config.maxDailyLossKrw ++ " KRW", 0, 0⟩)
  else .ok ()

/-- The position gate: the order as it is, reduced to the remaining capacity, or denied. -/
def limitPosition (config : RiskConfig) (command : C) (positions : Option RiskPositionInput)
    (allowReduction : Bool) : Except Stop C := do
  let expected ← attempt (calculateExpectedPosition command positions)
  if config.maxPositionPerInstrument < expected.qty then
    let current := currentPosition expected.instrumentKey positions
    let currentQty := (current.map (·.qty)).getD 0
    let remainingCapacity := config.maxPositionPerInstrument - currentQty
    if allowReduction ∧ 0 < remainingCapacity ∧ remainingCapacity < qty command then
      .ok (replaceQty command remainingCapacity)
    else .error (.denied ⟨"EXCEEDED_INSTRUMENT_LIMIT: " ++ toString expected.qty ++ " > " ++
      toString config.maxPositionPerInstrument, 0, 0⟩)
  else .ok command

def estimatedRatio (context : DecimalContext) (account : RiskAccountInput)
    (requiredMargin : ℚ) : ℚ :=
  if 0 < account.totalBalance then
    context.divide (account.usedMargin + requiredMargin) account.totalBalance
  else 1

/-- `int(number)`. -/
def truncate (q : ℚ) : ℤ := if 0 ≤ q then ⌊q⌋ else ⌈q⌉

/-- What free margin affords at the average unit margin. -/
def maxAffordableQty (context : DecimalContext) (freeMargin requiredMargin : ℚ)
    (quantity : ℤ) : ℤ :=
  let unitMargin := if 0 < quantity then context.divide requiredMargin quantity else 0
  if 0 < unitMargin then truncate (context.divide freeMargin unitMargin) else 0

-- a lot costs 1.666…667, and three of them more than 5
example : maxAffordableQty .standard 5 10 6 = 2 := by decide +kernel

/-- The margin gate: the order as it is, reduced to the affordable quantity, or denied. -/
def limitMargin (context : DecimalContext) (marginEngine : MarginCalculator C) (command : C)
    (account : RiskAccountInput) (allowReduction : Bool) : Except Stop (Approval C) := do
  let requiredMargin ← attempt (marginEngine command)
  if account.freeMargin < requiredMargin then
    let affordable := maxAffordableQty context account.freeMargin requiredMargin (qty command)
    if allowReduction ∧ 0 < affordable ∧ affordable < qty command then
      let reduced := replaceQty command affordable
      let requiredMargin ← attempt (marginEngine reduced)
      .ok ⟨reduced, requiredMargin, estimatedRatio context account requiredMargin⟩
    else .error (.denied ⟨"INSUFFICIENT_FREE_MARGIN: req=" ++ amountText requiredMargin ++
      " > free=" ++ amountText account.freeMargin ++ " KRW", requiredMargin,
      estimatedRatio context account requiredMargin⟩)
  else .ok ⟨command, requiredMargin, estimatedRatio context account requiredMargin⟩

/-- All gates in their order. -/
def judge (self : RiskEngine) (marginEngine : MarginCalculator C) (command : C)
    (account : RiskAccountInput) (positions : Option RiskPositionInput)
    (sensorSnapshot : Option RiskSensorSnapshot) (allowReduction : Bool) :
    Except Stop (Approval C) := do
  let () ← self.screen command account
  let limited ← limitPosition self.config command positions allowReduction
  let approval ← limitMargin self.context marginEngine limited account allowReduction
  if self.config.maxMarginUtilizationRatio < approval.estimatedRatio then
    .error (.denied ⟨"EXCEEDED_MAX_MARGIN_RATIO: " ++ percentText approval.estimatedRatio ++
      " > " ++ percentText self.config.maxMarginUtilizationRatio, approval.requiredMargin,
      approval.estimatedRatio⟩)
  else
    match sensorSnapshot with
    | none => .ok approval
    | some snapshot =>
      if snapshot.isMarginDietRequired ∧ tagId approval.effective ≠ "RISK_HEDGE" then
        .error (.denied ⟨"MARGIN_DIET_ACTIVE: Blocked new entry under " ++ snapshot.reason,
          approval.requiredMargin, approval.estimatedRatio⟩)
      else .ok approval

/-- The random id and the time a token is issued with. -/
structure TokenSeed where
  uuid : String
  timeNs : ℕ

def approvalToken (seed : TokenSeed) (command : C) : RiskApprovalToken :=
  ⟨seed.uuid, seed.timeNs, "SIG-RISK-APPROVED-" ++ trackId command ++ "-" ++ clientOrderId command⟩

def approvedResult (seed : TokenSeed) (command : C) (approval : Approval C) :
    RiskEvaluationResult C :=
  let isReduced := qty approval.effective < qty command
  { isApproved := true
    decision := if isReduced then .reduce else .allow
    originalQty := qty command
    approvedQty := qty approval.effective
    requiredMargin := approval.requiredMargin
    estimatedMarginRatio := approval.estimatedRatio
    token := some (approvalToken seed approval.effective)
    reducedCommand := if isReduced then some approval.effective else none }

def deniedResult (command : C) (denial : Denial) : RiskEvaluationResult C :=
  { isApproved := false
    decision := .deny
    originalQty := qty command
    approvedQty := 0
    rejectionReason := some denial.reason
    requiredMargin := denial.requiredMargin
    estimatedMarginRatio := denial.estimatedMarginRatio }

def evaluateOrder (self : RiskEngine) (marginEngine : MarginCalculator C) (seed : TokenSeed)
    (command : C) (account : RiskAccountInput) (positions : Option RiskPositionInput)
    (sensorSnapshot : Option RiskSensorSnapshot) (allowReduction : Bool) :
    Except Raised (RiskEvaluationResult C) :=
  match self.judge marginEngine command account positions sensorSnapshot allowReduction with
  | .ok approval => .ok (approvedResult seed command approval)
  | .error (.denied denial) => .ok (deniedResult command denial)
  | .error (.raised e) => .error e

end RiskEngine

/-! ## The gate -/

/-- The gate with the last result it saw. -/
structure RiskGate (C : Type) where
  engine : RiskEngine
  marginEngine : MarginCalculator C
  lastEvaluationResult : Option (RiskEvaluationResult C) := none

/-- Approved with a token, or the reason why not. -/
def RiskGate.admitOrder {C : Type} [RiskOrderCommand C] (self : RiskGate C)
    (seed : RiskEngine.TokenSeed) (command : C) (account : RiskAccountInput)
    (positions : Option RiskPositionInput) (sensorSnapshot : Option RiskSensorSnapshot)
    (allowReduction : Bool) :
    Outcome (RiskGate C) (Bool × Option RiskApprovalToken × Option String) :=
  match self.engine.evaluateOrder self.marginEngine seed command account positions
      sensorSnapshot allowReduction with
  | .error e => (.error e, self)
  | .ok result =>
    let gate := { self with lastEvaluationResult := some result }
    if result.isApproved ∧ result.token.isSome then (.ok (true, result.token, none), gate)
    else (.ok (false, none, result.rejectionReason), gate)

end OptionProject.Risk
