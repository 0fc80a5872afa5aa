import OptionProject.Live.Settlement
import OptionProject.Virtual.Settlement

/-!
# Settlement in both environments

Both bridges consume the id of an execution before they apply it, so both lose the fill of
an application that raises.

## Main results

* `settlement_allOrNothing_iff` — where settlement is all-or-nothing.
-/
namespace OptionProject
open Library Contracts Oms Position

variable {F : Type} (float : Virtual.FloatArithmetic F)

/-- A live settlement is all-or-nothing unless the report is new and passes every check; a
virtual one unless the report is new and the fill adapter cannot apply it. -/
theorem settlement_allOrNothing_iff (live : Live.LiveExecutionPositionBridge)
    (report : ExecutionReport) (virtual : Virtual.VirtualExecutionPositionBridge F)
    (broker : BrokerOrderCommand → Except Raised ExecutionReport)
    (command : BrokerOrderCommand) :
    (AllOrNothing live (live.settle report) ↔
      ¬((∃ state command, live.PassesChecks report state command) ∧
        live.IsNewExecution report)) ∧
    (AllOrNothing virtual (virtual.submit float broker command) ↔
      ¬∃ report, broker command = .ok report ∧ virtual.IsNewExecution report ∧
        Virtual.VirtualExecutionPositionBridge.CannotApply float virtual.position command
          report) :=
  ⟨live.allOrNothing_settle_iff report, virtual.allOrNothing_submit_iff float broker command⟩

/-- A valid partial fill of an acknowledged order, and a virtual fill without a price. -/
theorem settlement_loses_fills :
    let command : BrokerOrderCommand :=
      { clientOrderId := "C1", instrumentId := "I1", side := "BUY", quantity := 5
        orderType := "MARKET" }
    let report : ExecutionReport :=
      { clientOrderId := "C1", brokerOrderId := some "B1", executionId := some "E1"
        status := "PARTIALLY_FILLED", filledQuantity := 2, remainingQuantity := 3
        executionPrice := some 350, executionTimestamp := none }
    let order : OrderState :=
      { clientOrderId := "C1", status := .acked, brokerOrderId := some "B1"
        orderQuantity := 5, brokerOrderCommand := some command }
    let live : Live.LiveExecutionPositionBridge :=
      { oms := (OrderStateMachine.empty.setState "C1" order).correlate "B1" "C1"
        dedup := .empty, position := { instrumentId := "I1" } }
    let virtual : Virtual.VirtualExecutionPositionBridge ℚ :=
      { deduplicator := ⟨∅⟩, position := { instrumentId := "I1" } }
    let float : Virtual.FloatArithmetic ℚ :=
      ⟨id, fun x n => .ok (x * n), (· + ·), fun x n => .ok (x / n)⟩
    ¬AllOrNothing live (live.settle report) ∧
      ¬AllOrNothing virtual
        (virtual.submit float (fun _ => .ok { report with executionPrice := none }) command) := by
  intro command report order live virtual float
  constructor
  · rw [live.allOrNothing_settle_iff, not_not]
    exact ⟨⟨order, command, by decide, by decide, by decide, by decide⟩, by decide, by decide⟩
  · rw [virtual.allOrNothing_submit_iff, not_not]
    exact ⟨_, rfl, ⟨by decide, by decide, by decide⟩, .inr (.inr (.inr (.inr (.inl rfl))))⟩

end OptionProject
