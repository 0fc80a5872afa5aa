import OptionProject.Library.Consume
import OptionProject.Oms.Runs
import OptionProject.Position.LivePositionAggregate

/-!
# Live settlement

`execution_event_deduplicator.py`, `live_position_fill_adapter.py` and
`live_execution_position_bridge.py` of the live environment: an execution report is checked
against the OMS, its id is consumed, the OMS applies it, and the position takes the fill.
The three stores are one state here. (`LiveExecutionPositionBridge.__init__` has lost its
`self` parameter in the source; the bridge is taken with its four attributes set.)

## Main results

* `settle_eq_consume` — a report that passes the checks meets a gate that consumes first.
* `allOrNothing_settle_iff` — when a failed settlement leaves all three stores as they were.
-/
namespace OptionProject.Live
open Library Contracts Oms Position

structure ExecutionEventDeduplicator where
  seenExecutionIds : Finset String
  deriving DecidableEq

namespace ExecutionEventDeduplicator

def empty : ExecutionEventDeduplicator := ⟨∅⟩

def accept (self : ExecutionEventDeduplicator) (report : ExecutionReport) :
    Outcome ExecutionEventDeduplicator Bool :=
  let executionId := strip (orEmpty report.executionId)
  if executionId = "" then (.error ⟨.valueError, "EXECUTION_EVENT_ID_REQUIRED"⟩, self)
  else if executionId ∈ self.seenExecutionIds then (.ok false, self)
  else (.ok true, ⟨insert executionId self.seenExecutionIds⟩)

def contains (self : ExecutionEventDeduplicator) (executionId : String) : Bool :=
  strip executionId ∈ self.seenExecutionIds

end ExecutionEventDeduplicator

/-- `LivePositionFillAdapter.apply` on the aggregate it was built with. -/
def LivePositionFillAdapter.apply (aggregate : LivePositionAggregate)
    (command : BrokerOrderCommand) (report : ExecutionReport) :
    Except Raised LivePositionAggregate :=
  if command.clientOrderId ≠ report.clientOrderId then
    .error ⟨.valueError, "CLIENT_ORDER_ID_MISMATCH"⟩
  else if command.instrumentId ≠ aggregate.instrumentId then
    .error ⟨.valueError, "INSTRUMENT_ID_MISMATCH"⟩
  else if command.side ∉ ["BUY", "SELL"] then .error ⟨.valueError, "SIDE_INVALID"⟩
  else if report.filledQuantity ≤ 0 ∨ command.quantity < report.filledQuantity then
    .error ⟨.valueError, "FILLED_QUANTITY_INVALID"⟩
  else
    match report.executionPrice with
    | none => .error ⟨.valueError, "EXECUTION_PRICE_REQUIRED"⟩
    | some price => aggregate.applyFill command.side report.filledQuantity price

/-- The bridge with the stores it settles into. -/
structure LiveExecutionPositionBridge where
  oms : OrderStateMachine
  dedup : ExecutionEventDeduplicator
  position : LivePositionAggregate
  deriving DecidableEq

namespace LiveExecutionPositionBridge

/-- What follows once the id is consumed: the OMS transition, then the position fill. -/
def applySettlement (command : BrokerOrderCommand) (report : ExecutionReport)
    (stores : OrderStateMachine × LivePositionAggregate) :
    Outcome (OrderStateMachine × LivePositionAggregate) OrderState :=
  match stores.1.applyExecution report with
  | (.error e, oms) => (.error e, oms, stores.2)
  | (.ok state, oms) =>
    match LivePositionFillAdapter.apply stores.2 command report with
    | .error e => (.error e, oms, stores.2)
    | .ok position => (.ok state, oms, position)

def settle (self : LiveExecutionPositionBridge) (report : ExecutionReport) :
    Outcome LiveExecutionPositionBridge OrderState :=
  match self.oms.get report.clientOrderId with
  | none => (.error (transitionError "EXECUTION_BEFORE_ACK"), self)
  | some state =>
    let executionId := strip (orEmpty report.executionId)
    if executionId = "" then (.error ⟨.valueError, "EXECUTION_EVENT_ID_REQUIRED"⟩, self)
    else if self.dedup.contains executionId then (.ok state, self)
    else if state.status ∉ [.acked, .partiallyFilled] then
      (.error (transitionError "EXECUTION_BEFORE_ACK"), self)
    else
      match self.oms.getBrokerOrderCommand report.brokerOrderId with
      | .error e => (.error e, self)
      | .ok command =>
        match checkExecution state report with
        | .error e => (.error e, self)
        | .ok () =>
          match self.dedup.accept report with
          | (.error e, _) => (.error e, self)
          | (.ok false, _) => (.ok state, self)
          | (.ok true, dedup) =>
            let (result, oms, position) :=
              applySettlement command report (self.oms, self.position)
            (result, { oms, dedup, position })

/-- The checks `settle` makes on a new event before it consumes the id. -/
structure PassesChecks (bridge : LiveExecutionPositionBridge) (report : ExecutionReport)
    (state : OrderState) (command : BrokerOrderCommand) : Prop where
  known : bridge.oms.get report.clientOrderId = some state
  status : state.status ∈ [.acked, .partiallyFilled]
  commanded : bridge.oms.getBrokerOrderCommand report.brokerOrderId = .ok command
  checked : checkExecution state report = .ok ()

/-- The report names an execution that was not consumed before. -/
def IsNewExecution (self : LiveExecutionPositionBridge) (report : ExecutionReport) : Prop :=
  strip (orEmpty report.executionId) ≠ "" ∧
    strip (orEmpty report.executionId) ∉ self.dedup.seenExecutionIds

/-- A known id is a replay: it changes nothing, whatever the status of the order. -/
theorem settle_replay {self : LiveExecutionPositionBridge} {report : ExecutionReport}
    {state : OrderState} (known : self.oms.get report.clientOrderId = some state)
    (named : strip (orEmpty report.executionId) ≠ "")
    (seen : strip (orEmpty report.executionId) ∈ self.dedup.seenExecutionIds) :
    self.settle report = (.ok state, self) := by
  simp [settle, known, named, ExecutionEventDeduplicator.contains, seen]

/-- A named report that passes the checks goes through a gate that consumes its id first. -/
theorem settle_eq_consume {self : LiveExecutionPositionBridge} {report : ExecutionReport}
    {state : OrderState} {command : BrokerOrderCommand}
    (passes : self.PassesChecks report state command)
    (named : strip (orEmpty report.executionId) ≠ "") :
    let gate := consume (strip (orEmpty report.executionId)) self.dedup.seenExecutionIds
      (self.oms, self.position) (applySettlement command report)
    self.settle report = (gate.1.map (·.getD state), ⟨gate.2.2.1, ⟨gate.2.1⟩, gate.2.2.2⟩) := by
  intro gate
  by_cases seen : strip (orEmpty report.executionId) ∈ self.dedup.seenExecutionIds
  · have dropped : gate = _ := consume_seen seen _ _
    rw [dropped, settle_replay passes.known named seen]
    rfl
  · have acted : gate = _ := consume_fresh seen _ _
    have accepted : self.dedup.accept report = (.ok true,
        ⟨insert (strip (orEmpty report.executionId)) self.dedup.seenExecutionIds⟩) := by
      simp [ExecutionEventDeduplicator.accept, named, seen]
    have status := not_not.mpr passes.status
    simp only [settle, passes.known, named, if_false, ExecutionEventDeduplicator.contains,
      strip_strip, seen, decide_false, Bool.false_eq_true, status, passes.commanded,
      passes.checked, accepted, acted]
    cases (applySettlement command report (self.oms, self.position)).1 <;> rfl

/-- Without the checks passed, or without an id, nothing is written. -/
theorem settle_unchanged {self : LiveExecutionPositionBridge} {report : ExecutionReport}
    (refused : ¬((∃ state command, self.PassesChecks report state command) ∧
      self.IsNewExecution report)) : (self.settle report).2 = self := by
  unfold settle
  cases known : self.oms.get report.clientOrderId with
  | none => rfl
  | some state =>
    dsimp only
    by_cases unnamed : strip (orEmpty report.executionId) = ""
    · rw [if_pos unnamed]
    rw [if_neg unnamed]
    by_cases seen : strip (orEmpty report.executionId) ∈ self.dedup.seenExecutionIds
    · simp [ExecutionEventDeduplicator.contains, seen]
    have unseen : ¬self.dedup.contains (strip (orEmpty report.executionId)) = true := by
      simpa [ExecutionEventDeduplicator.contains] using seen
    rw [if_neg unseen]
    by_cases status : state.status ∉ [.acked, .partiallyFilled]
    · rw [if_pos status]
    rw [if_neg status]
    cases commanded : self.oms.getBrokerOrderCommand report.brokerOrderId with
    | error e => rfl
    | ok command =>
      cases checked : checkExecution state report with
      | error e => rfl
      | ok _ =>
        have passes : self.PassesChecks report state command :=
          ⟨known, not_not.mp status, commanded, checked⟩
        exact absurd ⟨⟨state, command, passes⟩, unnamed, seen⟩ refused

/-- The OMS never carries out the transition, so the step after the gate always raises. -/
theorem applySettlement_fails (command : BrokerOrderCommand) (report : ExecutionReport)
    (stores : OrderStateMachine × LivePositionAggregate) :
    ∃ e, applySettlement command report stores = (.error e, stores) := by
  obtain ⟨e, failed⟩ := stores.1.applyExecution_fails report
  exact ⟨e, by rw [applySettlement, failed]⟩

/-- Settlement is all-or-nothing exactly on the reports that do not reach the gate as new. -/
theorem allOrNothing_settle_iff (self : LiveExecutionPositionBridge) (report : ExecutionReport) :
    AllOrNothing self (self.settle report) ↔
      ¬((∃ state command, self.PassesChecks report state command) ∧
        self.IsNewExecution report) := by
  have presented : Function.Injective
      fun stores : Finset String × OrderStateMachine × LivePositionAggregate =>
        (⟨stores.2.1, ⟨stores.1⟩, stores.2.2⟩ : LiveExecutionPositionBridge) := by
    rintro ⟨seen, oms, position⟩ ⟨seen', oms', position'⟩ same
    simp only [mk.injEq, ExecutionEventDeduplicator.mk.injEq] at same
    obtain ⟨rfl, rfl, rfl⟩ := same
    rfl
  constructor
  · rintro holds ⟨⟨state, command, passes⟩, named, unseen⟩
    obtain ⟨e, failed⟩ := applySettlement_fails command report (self.oms, self.position)
    rw [settle_eq_consume passes named, allOrNothing_map_iff presented _
      (self.dedup.seenExecutionIds, self.oms, self.position), allOrNothing_consume_iff] at holds
    rcases holds with seen | ⟨a, returned⟩
    · exact unseen seen
    · rw [failed] at returned
      cases returned
  · intro refused e _
    exact settle_unchanged refused

/-- The id a failed settlement consumed makes its redelivery a replay: the fill is lost. -/
theorem settle_again {self : LiveExecutionPositionBridge} {report : ExecutionReport}
    {state : OrderState} {command : BrokerOrderCommand}
    (passes : self.PassesChecks report state command) (new : self.IsNewExecution report) :
    ((self.settle report).2.settle report) = (.ok state, (self.settle report).2) := by
  obtain ⟨e, failed⟩ := applySettlement_fails command report (self.oms, self.position)
  have settled := settle_eq_consume passes new.1
  rw [consume_fresh new.2, failed] at settled
  rw [settled]
  exact settle_replay passes.known new.1 (Finset.mem_insert_self _ _)

end LiveExecutionPositionBridge

end OptionProject.Live
