import OptionProject.Contracts.Types
import OptionProject.Library.Dict

/-!
# The REST recovery adapter

`kis_futures_execution_recovery_adapter.py`: rows of the broker's order-level fill snapshot
become execution reports of what is new since the last known cumulative quantity. A row is
the text of each of its values; `output1` may be missing, and an element of it may be no
mapping. The three dictionaries of `normalize` always have the same keys and are one here.
-/
namespace OptionProject.Live
open Library Contracts

/-- A response row, every value as `str` writes it. -/
abbrev Row := Dict String String

/-- The part of a response that `normalize` reads. -/
structure Response where
  output1 : Option (List (Option Row))

/-- A `KISExecutionRecoveryInvalid`. -/
def recoveryInvalid (message : String) : Raised := ⟨.kisExecutionRecoveryInvalid, message⟩

/-- The correlation data of one order, as its constructor lets it through. -/
structure KISExecutionRecoveryContext where
  clientOrderId : String
  orderQuantity : ℤ
  priorFilledQuantity : ℤ
  priorAveragePrice : Option ℚ
  clientOrderId_nonblank : strip clientOrderId ≠ ""
  orderQuantity_pos : 0 < orderQuantity
  priorFilledQuantity_nonneg : 0 ≤ priorFilledQuantity

def KISExecutionRecoveryContext.create (clientOrderId : String) (orderQuantity : ℤ)
    (priorFilledQuantity : ℤ) (priorAveragePrice : Option ℚ) :
    Except Raised KISExecutionRecoveryContext :=
  if nonblank : strip clientOrderId = "" then
    .error (recoveryInvalid "CLIENT_ORDER_ID_REQUIRED")
  else if positive : orderQuantity ≤ 0 then .error (recoveryInvalid "ORDER_QUANTITY_REQUIRED")
  else if nonneg : priorFilledQuantity < 0 then
    .error (recoveryInvalid "PRIOR_FILLED_QUANTITY_INVALID")
  else .ok ⟨clientOrderId, orderQuantity, priorFilledQuantity, priorAveragePrice, nonblank,
    not_le.mp positive, not_lt.mp nonneg⟩

/-! ## Fields of a row -/

/-- `str(row.get(key, "")).strip()`. -/
def field (row : Row) (key : String) : String := strip ((row.get? key).getD "")

def required (row : Row) (key : String) : Except Raised String :=
  if field row key = "" then .error (recoveryInvalid (key.toUpper ++ "_REQUIRED"))
  else .ok (field row key)

def nonNegativeInt (row : Row) (key : String) : Except Raised ℤ :=
  match parseInt (field row key) with
  | none => .error (recoveryInvalid (key.toUpper ++ "_INVALID"))
  | some value =>
    if value < 0 then .error (recoveryInvalid (key.toUpper ++ "_INVALID")) else .ok value

def positiveDecimal (row : Row) (key : String) : Except Raised Decimal :=
  match parseDecimal (field row key) with
  | none => .error (recoveryInvalid (key.toUpper ++ "_INVALID"))
  | some value =>
    if value.value ≤ 0 then .error (recoveryInvalid (key.toUpper ++ "_INVALID")) else .ok value

/-- The price of the new quantity that explains the step from the old average to the new. -/
def deltaExecutionPrice (cumulative : ℤ) (cumulativeAverage : ℚ) (priorFilledQuantity : ℤ)
    (priorAveragePrice : Option ℚ) : Except Raised ℚ :=
  if priorFilledQuantity = 0 then .ok cumulativeAverage
  else
    match priorAveragePrice with
    | none => .error (recoveryInvalid "PRIOR_AVERAGE_PRICE_REQUIRED_FOR_DELTA_PRICE")
    | some priorAveragePrice =>
      let deltaQuantity := cumulative - priorFilledQuantity
      if deltaQuantity ≤ 0 then .error (recoveryInvalid "DELTA_QUANTITY_INVALID")
      else
        let deltaPrice := (cumulativeAverage * cumulative -
          priorAveragePrice * priorFilledQuantity) / deltaQuantity
        if deltaPrice ≤ 0 then .error (recoveryInvalid "DELTA_EXECUTION_PRICE_INVALID")
        else .ok deltaPrice

def snapshotIdentity (orderId : String) (cumulative : ℤ) (cumulativeAverage : Decimal) :
    String :=
  "REST-CCNL-SNAPSHOT|" ++ orderId ++ "|" ++ toString cumulative ++ "|" ++ cumulativeAverage.text

/-! ## Timestamps -/

/-- Days of a month in the proleptic Gregorian calendar. -/
def daysInMonth (year month : ℕ) : ℕ :=
  if month = 2 then
    if year % 4 = 0 ∧ (year % 100 ≠ 0 ∨ year % 400 = 0) then 29 else 28
  else if month ∈ [4, 6, 9, 11] then 30 else 31

/-- A two-digit field: for each first character, the least and greatest second digit. -/
def directive (classes : List (Char × ℕ × ℕ)) (c d : Char) : Option ℕ := do
  let (_, low, high) ← classes.find? (·.1 = c)
  let tens ← digitValue? c
  let ones ← digitValue? d
  if low ≤ ones ∧ ones ≤ high then some (10 * tens + ones) else none

/-- `datetime.strptime(text, "%Y%m%d%H%M%S")` on a text of fourteen characters. -/
def strptime? (text : String) : Option DateTime :=
  match text.toList with
  | [y₁, y₂, y₃, y₄, m₁, m₂, d₁, d₂, h₁, h₂, n₁, n₂, s₁, s₂] => do
    let sixties := [('0', 0, 9), ('1', 0, 9), ('2', 0, 9), ('3', 0, 9), ('4', 0, 9), ('5', 0, 9)]
    let year ← [y₁, y₂, y₃, y₄].mapM digitValue?
    let month ← directive [('0', 1, 9), ('1', 0, 2)] m₁ m₂
    let day ← directive [('0', 1, 9), ('1', 0, 9), ('2', 0, 9), ('3', 0, 1)] d₁ d₂
    let hour ← directive [('0', 0, 9), ('1', 0, 9), ('2', 0, 3)] h₁ h₂
    let minute ← directive sixties n₁ n₂
    let second ← directive sixties s₁ s₂
    let time : DateTime := ⟨ofDigits year, month, day, hour, minute, second⟩
    if time.year = 0 ∨ daysInMonth time.year time.month < time.day then none else some time
  | _ => none

/-- The wordings of `strptime`'s own `ValueError` are one here. -/
def timestampOrNone (row : Row) : Except Raised (Option DateTime) :=
  let orderDate := field row "ord_dt"
  let orderTime := field row "ord_tmd"
  if orderDate.length = 8 ∧ isDigit orderDate ∧ orderTime.length = 6 ∧ isDigit orderTime then
    match strptime? (orderDate ++ orderTime) with
    | none => .error ⟨.valueError, "time data does not match format"⟩
    | some time => .ok (some time)
  else .ok none

/-! ## Reports -/

def recoveryFreshness : DataQuality :=
  { isFresh := true, isComplete := false, sourceAvailable := true
    reason := some "KIS inquire-ccnl REST recovery order snapshot" }

namespace KISFuturesExecutionRecoveryAdapter

def toExecutionReport (row : Row) (context : KISExecutionRecoveryContext) :
    Except Raised (Option ExecutionReport) := do
  let orderId ← required row "odno"
  let cumulative ← nonNegativeInt row "tot_ccld_qty"
  if cumulative < context.priorFilledQuantity then
    .error (recoveryInvalid "CUMULATIVE_FILLED_QUANTITY_REGRESSION")
  else if context.orderQuantity < cumulative then
    .error (recoveryInvalid "EXECUTION_QUANTITY_EXCEEDS_ORDER")
  else if cumulative - context.priorFilledQuantity = 0 then .ok none
  else
    let cumulativeAverage ← positiveDecimal row "avg_idx"
    let price ← deltaExecutionPrice cumulative cumulativeAverage.value
      context.priorFilledQuantity context.priorAveragePrice
    let timestamp ← timestampOrNone row
    .ok (some
      { clientOrderId := context.clientOrderId
        brokerOrderId := some orderId
        executionId := some (snapshotIdentity orderId cumulative cumulativeAverage)
        status := if cumulative = context.orderQuantity then "FILLED" else "PARTIALLY_FILLED"
        filledQuantity := cumulative - context.priorFilledQuantity
        remainingQuantity := context.orderQuantity - cumulative
        executionPrice := some price
        executionTimestamp := timestamp
        sourceFreshness := some recoveryFreshness })

/-- What `normalize` keeps of an order: its first context and the two accumulators. -/
structure OrderProgress where
  context : KISExecutionRecoveryContext
  cumulative : ℤ
  average : Option ℚ

def OrderProgress.start (context : KISExecutionRecoveryContext) : OrderProgress :=
  ⟨context, context.priorFilledQuantity, context.priorAveragePrice⟩

/-- One row of one order: the report, if any, and the accumulators after it. -/
def advance (progress : OrderProgress) (row : Row) :
    Except Raised (OrderProgress × List ExecutionReport) := do
  let currentContext ← KISExecutionRecoveryContext.create progress.context.clientOrderId
    progress.context.orderQuantity progress.cumulative progress.average
  match ← toExecutionReport row currentContext with
  | none => .ok (progress, [])
  | some report =>
    let average ← positiveDecimal row "avg_idx"
    let cumulative := progress.cumulative + report.filledQuantity
    .ok ({ progress with cumulative, average := some average.value }, [report])

/-- The loop state of `normalize`. -/
structure Normalisation where
  byOrder : Dict String OrderProgress
  reports : List ExecutionReport

/-- The order's accumulators, opened from its context on its first row. -/
def progressOf (contextForOrder : String → Except Raised KISExecutionRecoveryContext)
    (state : Normalisation) (orderId : String) : Except Raised OrderProgress :=
  match state.byOrder.get? orderId with
  | some progress => .ok progress
  | none => (contextForOrder orderId).map OrderProgress.start

/-- The body of the loop. -/
def normalizeRow (contextForOrder : String → Except Raised KISExecutionRecoveryContext)
    (state : Normalisation) (element : Option Row) : Except Raised Normalisation :=
  match element with
  | none => .error (recoveryInvalid "OUTPUT1_ROW_INVALID")
  | some row => do
    let orderId ← required row "odno"
    let progress ← progressOf contextForOrder state orderId
    let (progress, reports) ← advance progress row
    .ok ⟨state.byOrder.set orderId progress, state.reports ++ reports⟩

def normalize (response : Response)
    (contextForOrder : String → Except Raised KISExecutionRecoveryContext) :
    Except Raised (List ExecutionReport) :=
  match response.output1 with
  | none => .error (recoveryInvalid "OUTPUT1_REQUIRED")
  | some rows =>
    (rows.foldlM (normalizeRow contextForOrder) ⟨.empty, []⟩).map (·.reports)

end KISFuturesExecutionRecoveryAdapter

end OptionProject.Live
