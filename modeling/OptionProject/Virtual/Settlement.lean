import OptionProject.Library.Consume
import OptionProject.Contracts.Types

/-!
# Virtual settlement

`execution_event_identity_adapter.py`, `execution_event_deduplicator.py`,
`virtual_position_aggregate.py`, `virtual_position_fill_adapter.py` and
`virtual_execution_position_bridge.py` of the virtual environment: the report of a broker
submission passes the deduplicator and is applied to the virtual position. Average prices
are floats, kept abstract: the arithmetic on them is a parameter, and scaling or dividing by
a quantity can raise.

## Main results

* `settle_eq_consume` — an identified report meets a gate that consumes first.
* `allOrNothing_submit_iff` — when a failed submission leaves both stores as they were.
-/
namespace OptionProject.Virtual
open Library Contracts

/-- The float operations the virtual position uses. -/
structure FloatArithmetic (F : Type) where
  ofDecimal : ℚ → F
  scale : F → ℤ → Except Raised F
  add : F → F → F
  divide : F → ℤ → Except Raised F

structure VirtualPositionAggregate (F : Type) where
  instrumentId : String
  side : Option String := none
  qty : ℤ := 0
  avgPrice : Option F := none
  deriving DecidableEq

variable {F : Type} (float : FloatArithmetic F)

/-- `((avg_price * old_qty) + (price * quantity)) / qty`. -/
def averagePrice (avgPrice : F) (oldQty : ℤ) (price : F) (quantity : ℤ) : Except Raised F := do
  let held ← float.scale avgPrice oldQty
  let filled ← float.scale price quantity
  float.divide (float.add held filled) (oldQty + quantity)

/-- A fill on the held side writes the quantity before it averages the price. -/
def VirtualPositionAggregate.applyFill (self : VirtualPositionAggregate F) (side : String)
    (quantity : ℤ) (price : Option F) : Outcome (VirtualPositionAggregate F) Unit :=
  if side = "" then (.error ⟨.valueError, "POSITION_AGGREGATE_SIDE_REQUIRED"⟩, self)
  else if side ∉ ["BUY", "SELL"] then
    (.error ⟨.valueError, "POSITION_AGGREGATE_SIDE_INVALID"⟩, self)
  else if quantity ≤ 0 then (.error ⟨.valueError, "POSITION_AGGREGATE_QTY_REQUIRED"⟩, self)
  else if self.qty = 0 then
    (.ok (), { self with side := some side, qty := quantity, avgPrice := price })
  else if self.side = some side then
    let grown := { self with qty := self.qty + quantity }
    match price, self.avgPrice with
    | none, _ => (.ok (), grown)
    | some price, none => (.ok (), { grown with avgPrice := some price })
    | some price, some avgPrice =>
      match averagePrice float avgPrice self.qty price quantity with
      | .error e => (.error e, grown)
      | .ok average => (.ok (), { grown with avgPrice := some average })
  else if quantity < self.qty then (.ok (), { self with qty := self.qty - quantity })
  else if quantity = self.qty then
    (.ok (), { self with side := none, qty := 0, avgPrice := none })
  else
    (.ok (), { self with side := some side, qty := quantity - self.qty, avgPrice := price })

/-- `VirtualPositionFillAdapter.apply` on the position it was built with. -/
def VirtualPositionFillAdapter.apply (command : BrokerOrderCommand) (report : ExecutionReport)
    (position : VirtualPositionAggregate F) : Outcome (VirtualPositionAggregate F) Unit :=
  if command.clientOrderId ≠ report.clientOrderId then
    (.error ⟨.valueError, "POSITION_FILL_CLIENT_ORDER_ID_MISMATCH"⟩, position)
  else if command.instrumentId ≠ position.instrumentId then
    (.error ⟨.valueError, "POSITION_FILL_INSTRUMENT_ID_MISMATCH"⟩, position)
  else if command.side ∉ ["BUY", "SELL"] then
    (.error ⟨.valueError, "POSITION_FILL_SIDE_REQUIRED"⟩, position)
  else if report.filledQuantity ≤ 0 then
    (.error ⟨.valueError, "POSITION_FILL_QTY_REQUIRED"⟩, position)
  else
    match report.executionPrice with
    | none => (.error ⟨.valueError, "POSITION_FILL_PRICE_REQUIRED"⟩, position)
    | some price =>
      position.applyFill float command.side report.filledQuantity (some (float.ofDecimal price))

structure ExecutionEventIdentity where
  executionId : String
  clientOrderId : String
  deriving DecidableEq, Repr

/-- Identifiers are kept as they are, not stripped. -/
def ExecutionEventIdentityAdapter.identify (report : ExecutionReport) :
    Except Raised ExecutionEventIdentity :=
  if orEmpty report.executionId = "" then .error ⟨.valueError, "EXECUTION_EVENT_ID_REQUIRED"⟩
  else if report.clientOrderId = "" then
    .error ⟨.valueError, "EXECUTION_EVENT_CLIENT_ORDER_ID_REQUIRED"⟩
  else .ok ⟨orEmpty report.executionId, report.clientOrderId⟩

structure ExecutionEventDeduplicator where
  seenExecutionIds : Finset String
  deriving DecidableEq

def ExecutionEventDeduplicator.accept (self : ExecutionEventDeduplicator)
    (report : ExecutionReport) : Outcome ExecutionEventDeduplicator Bool :=
  match ExecutionEventIdentityAdapter.identify report with
  | .error e => (.error e, self)
  | .ok identity =>
    if identity.executionId ∈ self.seenExecutionIds then (.ok false, self)
    else (.ok true, ⟨insert identity.executionId self.seenExecutionIds⟩)

/-- The bridge with the stores it settles into. -/
structure VirtualExecutionPositionBridge (F : Type) where
  deduplicator : ExecutionEventDeduplicator
  position : VirtualPositionAggregate F
  deriving DecidableEq

namespace VirtualExecutionPositionBridge

/-- The settlement part of `submit`: what it does with the broker's report. -/
def settle (self : VirtualExecutionPositionBridge F) (command : BrokerOrderCommand)
    (report : ExecutionReport) : Outcome (VirtualExecutionPositionBridge F) ExecutionReport :=
  match self.deduplicator.accept report with
  | (.error e, _) => (.error e, self)
  | (.ok false, _) => (.ok report, self)
  | (.ok true, deduplicator) =>
    let (result, position) :=
      VirtualPositionFillAdapter.apply float command report self.position
    (result.map fun _ => report, { deduplicator, position })

def submit (broker : BrokerOrderCommand → Except Raised ExecutionReport)
    (self : VirtualExecutionPositionBridge F) (command : BrokerOrderCommand) :
    Outcome (VirtualExecutionPositionBridge F) ExecutionReport :=
  match broker command with
  | .error e => (.error e, self)
  | .ok report => self.settle float command report

/-- The fill adapter cannot apply the report: a check fails, or the averaging overflows. -/
def CannotApply (position : VirtualPositionAggregate F) (command : BrokerOrderCommand)
    (report : ExecutionReport) : Prop :=
  command.clientOrderId ≠ report.clientOrderId ∨ command.instrumentId ≠ position.instrumentId ∨
    command.side ∉ ["BUY", "SELL"] ∨ report.filledQuantity ≤ 0 ∨
    report.executionPrice = none ∨
    (position.qty ≠ 0 ∧ position.side = some command.side ∧
      ∃ avgPrice price e, position.avgPrice = some avgPrice ∧
        report.executionPrice = some price ∧
        averagePrice float avgPrice position.qty (float.ofDecimal price) report.filledQuantity =
          .error e)

/-- The report carries an identity that was not consumed before. -/
def IsNewExecution (self : VirtualExecutionPositionBridge F) (report : ExecutionReport) : Prop :=
  orEmpty report.executionId ≠ "" ∧ report.clientOrderId ≠ "" ∧
    orEmpty report.executionId ∉ self.deduplicator.seenExecutionIds

/-- An identified report goes through a gate that consumes its id first. -/
theorem settle_eq_consume (self : VirtualExecutionPositionBridge F)
    (command : BrokerOrderCommand) {report : ExecutionReport}
    (named : orEmpty report.executionId ≠ "") (owned : report.clientOrderId ≠ "") :
    let gate := consume (orEmpty report.executionId) self.deduplicator.seenExecutionIds
      self.position (VirtualPositionFillAdapter.apply float command report)
    self.settle float command report = (gate.1.map fun _ => report, ⟨⟨gate.2.1⟩, gate.2.2⟩) := by
  intro gate
  have identified : ExecutionEventIdentityAdapter.identify report =
      .ok ⟨orEmpty report.executionId, report.clientOrderId⟩ := by
    simp [ExecutionEventIdentityAdapter.identify, named, owned]
  by_cases seen : orEmpty report.executionId ∈ self.deduplicator.seenExecutionIds
  · have dropped : gate = _ := consume_seen seen _ _
    simp only [settle, ExecutionEventDeduplicator.accept, identified, seen, if_true, dropped]
    rfl
  · have acted : gate = _ := consume_fresh seen _ _
    simp only [settle, ExecutionEventDeduplicator.accept, identified, seen, if_false, acted]
    cases (VirtualPositionFillAdapter.apply float command report self.position).1 <;> rfl

theorem settle_unidentified (self : VirtualExecutionPositionBridge F)
    (command : BrokerOrderCommand) {report : ExecutionReport}
    (unidentified : ¬(orEmpty report.executionId ≠ "" ∧ report.clientOrderId ≠ "")) :
    ∃ e, self.settle float command report = (.error e, self) := by
  unfold settle ExecutionEventDeduplicator.accept ExecutionEventIdentityAdapter.identify
  by_cases unnamed : orEmpty report.executionId = ""
  · exact ⟨_, by simp only [unnamed, if_true]; rfl⟩
  · have unowned : report.clientOrderId = "" :=
      not_not.mp fun owned => unidentified ⟨unnamed, owned⟩
    exact ⟨_, by simp [unnamed, unowned]; rfl⟩

/-- A valid fill is applied to the position unless the averaging raises. -/
theorem applyFill_ok_iff (position : VirtualPositionAggregate F) {side : String}
    {quantity : ℤ} (price : F) (valid : side ∈ ["BUY", "SELL"]) (positive : 0 < quantity) :
    (∃ a, (position.applyFill float side quantity (some price)).1 = .ok a) ↔
      ¬(position.qty ≠ 0 ∧ position.side = some side ∧
        ∃ avgPrice e, position.avgPrice = some avgPrice ∧
          averagePrice float avgPrice position.qty price quantity = .error e) := by
  have nonempty : side ≠ "" := by
    rintro rfl
    exact absurd valid (by decide)
  unfold VirtualPositionAggregate.applyFill
  rw [if_neg nonempty, if_neg (not_not.mpr valid), if_neg (not_le.mpr positive)]
  by_cases flat : position.qty = 0
  · simp [flat]
  rw [if_neg flat]
  by_cases same : position.side = some side
  · rw [if_pos same]
    cases position.avgPrice with
    | none => simp
    | some avgPrice =>
      dsimp only
      cases averaged : averagePrice float avgPrice position.qty price quantity with
      | error e => simp [flat, same, averaged]
      | ok average => simp [averaged]
  · rw [if_neg same]
    have trivially : ¬(position.qty ≠ 0 ∧ position.side = some side ∧
        ∃ avgPrice e, position.avgPrice = some avgPrice ∧
          averagePrice float avgPrice position.qty price quantity = .error e) :=
      fun raises => same raises.2.1
    simp only [trivially, not_false_eq_true, iff_true]
    split_ifs <;> exact ⟨(), rfl⟩

/-- The fill adapter returns exactly when nothing keeps it from applying the report. -/
theorem apply_ok_iff (position : VirtualPositionAggregate F) (command : BrokerOrderCommand)
    (report : ExecutionReport) :
    (∃ a, (VirtualPositionFillAdapter.apply float command report position).1 = .ok a) ↔
      ¬CannotApply float position command report := by
  unfold VirtualPositionFillAdapter.apply CannotApply
  by_cases order : command.clientOrderId ≠ report.clientOrderId
  · simp [order]
  by_cases instrument : command.instrumentId ≠ position.instrumentId
  · simp [order, instrument]
  by_cases side : command.side ∉ ["BUY", "SELL"]
  · rw [if_neg order, if_neg instrument, if_pos side]
    exact ⟨fun ⟨_, eq⟩ => (nomatch eq), fun can => absurd (.inr (.inr (.inl side))) can⟩
  by_cases quantity : report.filledQuantity ≤ 0
  · rw [if_neg order, if_neg instrument, if_neg side, if_pos quantity]
    exact ⟨fun ⟨_, eq⟩ => (nomatch eq), fun can =>
      absurd (.inr (.inr (.inr (.inl quantity)))) can⟩
  rw [if_neg order, if_neg instrument, if_neg side, if_neg quantity]
  cases report.executionPrice with
  | none => simp
  | some price =>
    have applied := applyFill_ok_iff float position (float.ofDecimal price) (not_not.mp side)
      (not_le.mp quantity)
    simp only [applied, order, instrument, side, quantity, false_or, reduceCtorEq,
      Option.some.injEq, exists_and_left, exists_eq_left']

/-- A submission is all-or-nothing exactly when the broker's report is not both new and
impossible to apply. -/
theorem allOrNothing_submit_iff (broker : BrokerOrderCommand → Except Raised ExecutionReport)
    (self : VirtualExecutionPositionBridge F) (command : BrokerOrderCommand) :
    AllOrNothing self (self.submit float broker command) ↔
      ¬∃ report, broker command = .ok report ∧ self.IsNewExecution report ∧
        CannotApply float self.position command report := by
  unfold submit
  cases broker command with
  | error e => simp [AllOrNothing]
  | ok report =>
    simp only [Except.ok.injEq, exists_eq_left']
    by_cases identified : orEmpty report.executionId ≠ "" ∧ report.clientOrderId ≠ ""
    · have gate := allOrNothing_consume_iff (orEmpty report.executionId)
        self.deduplicator.seenExecutionIds self.position
        (VirtualPositionFillAdapter.apply float command report)
      have presented : Function.Injective fun stores : Finset String × VirtualPositionAggregate F =>
          (⟨⟨stores.1⟩, stores.2⟩ : VirtualExecutionPositionBridge F) := by
        rintro ⟨seen, position⟩ ⟨seen', position'⟩ same
        simpa using same
      rw [settle_eq_consume float self command identified.1 identified.2,
        allOrNothing_map_iff presented _ (self.deduplicator.seenExecutionIds, self.position),
        gate, apply_ok_iff, IsNewExecution]
      tauto
    · obtain ⟨e, failed⟩ := settle_unidentified float self command identified
      rw [failed]
      refine ⟨fun _ ⟨new, _⟩ => identified ⟨new.1, new.2.1⟩, fun _ => .of_unchanged _ _⟩

end VirtualExecutionPositionBridge

end OptionProject.Virtual
