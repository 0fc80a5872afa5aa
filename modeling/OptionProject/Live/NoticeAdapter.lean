import OptionProject.Contracts.Types
import OptionProject.Library.Dict

/-!
# The realtime notice adapter

`kis_futures_execution_adapter.py`: a typed `H0IFCNI0` notice and its conversion into an
execution report. `to_execution_report` has lost its `self` parameter in the source: called
on the class it converts, called on an instance it raises. The SHA-256 digest of a frame, as
hexadecimal text, is a parameter.
-/
namespace OptionProject.Live
open Library Contracts

/-- The correlation data of one order, unchecked until it is used. -/
structure KISFuturesExecutionContext where
  clientOrderId : String
  orderQuantity : ℤ
  priorFilledQuantity : ℤ := 0
  groupId : Option String := none
  legId : Option String := none

/-- A notice keeps the texts of its fields and the frame it came in. -/
structure KISFuturesExecutionNotice where
  values : Dict String String
  rawFrame : String

/-- A `KISFuturesExecutionAdapterInvalid`. -/
def adapterInvalid (message : String) : Raised := ⟨.kisFuturesExecutionAdapterInvalid, message⟩

namespace KISFuturesExecutionNotice

/-- `self.values[key].strip()`. -/
def value (self : KISFuturesExecutionNotice) (key : String) : Except Raised String :=
  match self.values.get? key with
  | none => .error ⟨.keyError, "'" ++ key ++ "'"⟩
  | some text => .ok (strip text)

def brokerOrderId (self : KISFuturesExecutionNotice) : Except Raised String := do
  let value ← self.value "oder_no"
  if value = "" then .error (adapterInvalid "KIS execution notice has no order number")
  else .ok value

def filledQuantity (self : KISFuturesExecutionNotice) : Except Raised ℤ := do
  match parseInt (← self.value "cntg_qty") with
  | none => .error (adapterInvalid "invalid KIS cntg_qty")
  | some quantity =>
    if quantity ≤ 0 then .error (adapterInvalid "KIS execution quantity must be positive")
    else .ok quantity

def executionPrice (self : KISFuturesExecutionNotice) : Except Raised ℚ := do
  match parseDecimal (← self.value "cntg_unpr") with
  | none => .error (adapterInvalid "invalid KIS cntg_unpr")
  | some price =>
    if price.value ≤ 0 then .error (adapterInvalid "KIS execution price must be positive")
    else .ok price.value

end KISFuturesExecutionNotice

def noticeFreshness : DataQuality :=
  { isFresh := true, isComplete := false, sourceAvailable := true
    reason := some "KIS H0IFCNI0 supplies execution time without calendar date" }

namespace KISFuturesExecutionNoticeAdapter

/-- The function as the class holds it. -/
def toExecutionReport (sha256 : String → String) (notice : KISFuturesExecutionNotice)
    (context : KISFuturesExecutionContext) : Except Raised ExecutionReport := do
  if strip context.clientOrderId = "" then .error (adapterInvalid "client_order_id is required")
  else if context.orderQuantity ≤ 0 then
    .error (adapterInvalid "order_quantity must be positive")
  else if context.priorFilledQuantity < 0 then
    .error (adapterInvalid "prior_filled_quantity must be non-negative")
  else
    let executed ← notice.value "cntg_yn"
    if executed.toUpper ≠ "Y" then .error (adapterInvalid "notice is not an execution event")
    else
      let fillQty ← notice.filledQuantity
      let cumulative := context.priorFilledQuantity + fillQty
      if context.orderQuantity < cumulative then
        .error (adapterInvalid "execution quantity exceeds order quantity")
      else
        let brokerOrderId ← notice.brokerOrderId
        let executionPrice ← notice.executionPrice
        .ok
          { clientOrderId := context.clientOrderId
            brokerOrderId := some brokerOrderId
            executionId := some ("KIS-H0IFCNI0-" ++ sha256 notice.rawFrame)
            status := if cumulative = context.orderQuantity then "FILLED" else "PARTIALLY_FILLED"
            filledQuantity := fillQty
            remainingQuantity := context.orderQuantity - cumulative
            executionPrice := some executionPrice
            executionTimestamp := none
            sourceFreshness := some noticeFreshness
            groupId := context.groupId
            legId := context.legId }

/-- How `to_execution_report(notice, context)` is reached: through the class or through an
instance, which passes itself as one argument too many. -/
inductive Receiver
  | ofClass
  | ofInstance
  deriving DecidableEq, Repr

def call (sha256 : String → String) (receiver : Receiver) (notice : KISFuturesExecutionNotice)
    (context : KISFuturesExecutionContext) : Except Raised ExecutionReport :=
  match receiver with
  | .ofClass => toExecutionReport sha256 notice context
  | .ofInstance => .error ⟨.typeError, "KISFuturesExecutionNoticeAdapter." ++
      "to_execution_report() takes 2 positional arguments but 3 were given"⟩

/-- A converted notice reports its own quantity, within the order. -/
theorem call_spec {sha256 : String → String} {receiver : Receiver}
    {notice : KISFuturesExecutionNotice} {context : KISFuturesExecutionContext}
    {report : ExecutionReport} (returned : call sha256 receiver notice context = .ok report) :
    notice.filledQuantity = .ok report.filledQuantity ∧
      context.priorFilledQuantity + report.filledQuantity ≤ context.orderQuantity := by
  cases receiver with
  | ofInstance => cases returned
  | ofClass =>
    obtain ⟨-, returned⟩ := ite_error_eq_ok.mp returned
    obtain ⟨-, returned⟩ := ite_error_eq_ok.mp returned
    obtain ⟨-, returned⟩ := ite_error_eq_ok.mp returned
    obtain ⟨executed, -, returned⟩ := bind_eq_ok.mp returned
    obtain ⟨-, returned⟩ := ite_error_eq_ok.mp returned
    obtain ⟨fillQty, filled, returned⟩ := bind_eq_ok.mp returned
    obtain ⟨within, returned⟩ := ite_error_eq_ok.mp returned
    obtain ⟨brokerOrderId, -, returned⟩ := bind_eq_ok.mp returned
    obtain ⟨executionPrice, -, returned⟩ := bind_eq_ok.mp returned
    cases returned
    exact ⟨filled, not_lt.mp within⟩

end KISFuturesExecutionNoticeAdapter

end OptionProject.Live
