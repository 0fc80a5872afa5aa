import OptionProject.Oms.OrderStateMachine

/-!
# Runs of the order state machine

What one OMS call can do to the state, raising or not, and what therefore holds after any
sequence of calls: the states stay well formed, and no order ever leaves `SUBMITTED`,
because neither an acknowledgement nor an execution can be recorded.

## Main results

* `OmsCall.perform_change` — the state changes a call can make.
* `wellFormed_after`, `unacknowledged_after` — the invariants of every run.
* `not_carriesFills` — no order is carried through an acknowledgement and its fills.
-/
namespace OptionProject.Oms
open Library Contracts

/-- One call on the state machine. -/
inductive OmsCall
  | applyIntent (clientOrderId : String) (quantity : ℤ)
  | registerBrokerOrderCommand (command : BrokerOrderCommand)
  | applyAck (event : OrderAckEvent)
  | applyExecution (report : ExecutionReport)

def OmsCall.perform (self : OrderStateMachine) :
    OmsCall → Outcome OrderStateMachine OrderState
  | .applyIntent clientOrderId quantity => self.applyIntent clientOrderId quantity
  | .registerBrokerOrderCommand command => self.registerBrokerOrderCommand command
  | .applyAck event => self.applyAck event
  | .applyExecution report => self.applyExecution report

namespace OrderStateMachine

/-- The state after a sequence of calls, whether they return or raise. -/
def after (self : OrderStateMachine) (calls : List OmsCall) : OrderStateMachine :=
  calls.foldl (fun oms call => (call.perform oms).2) self

/-- The changes a call can make: none, a new order, a command on an order, or an entry of
the correlation table. -/
inductive Change (self : OrderStateMachine) : OrderStateMachine → Prop
  | unchanged : Change self self
  | registered (clientOrderId : String) (quantity : ℤ)
      (stripped : strip clientOrderId = clientOrderId) (nonempty : clientOrderId ≠ "")
      (positive : 0 < quantity) (fresh : self.states.get? clientOrderId = none) :
      Change self (self.setState clientOrderId
        { clientOrderId, status := .submitted, orderQuantity := quantity })
  | commanded (clientOrderId : String) (current : OrderState) (command : BrokerOrderCommand)
      (known : self.states.get? clientOrderId = some current)
      (quantity : command.quantity = current.orderQuantity) :
      Change self
        (self.setState clientOrderId { current with brokerOrderCommand := some command })
  | correlated (clientOrderId brokerOrderId : String) (current : OrderState)
      (known : self.states.get? clientOrderId = some current) :
      Change self (self.correlate brokerOrderId clientOrderId)

theorem applyIntent_change (self : OrderStateMachine) (clientOrderId : String) (quantity : ℤ) :
    Change self (self.applyIntent clientOrderId quantity).2 := by
  unfold applyIntent
  dsimp only
  split_ifs with empty nonpositive present
  · exact .unchanged
  · exact .unchanged
  · exact .unchanged
  · refine .registered _ _ (strip_strip _) empty (not_le.mp nonpositive) ?_
    simpa [Dict.contains] using present

theorem registerBrokerOrderCommand_change (self : OrderStateMachine)
    (command : BrokerOrderCommand) :
    Change self (self.registerBrokerOrderCommand command).2 := by
  unfold registerBrokerOrderCommand
  dsimp only
  by_cases empty : strip command.clientOrderId = ""
  · rw [if_pos empty]
    exact .unchanged
  rw [if_neg empty]
  cases known : self.states.get? (strip command.clientOrderId) with
  | none => exact .unchanged
  | some current =>
    dsimp only
    by_cases status : current.status ∉ [.submitted, .acked]
    · rw [if_pos status]
      exact .unchanged
    rw [if_neg status]
    by_cases quantity : command.quantity ≠ current.orderQuantity
    · rw [if_pos quantity]
      exact .unchanged
    rw [if_neg quantity]
    cases instrumentMatches command
    · exact .unchanged
    · exact .commanded _ current command known (not_not.mp quantity)

theorem applyAck_change (self : OrderStateMachine) (event : OrderAckEvent) :
    Change self (self.applyAck event).2 := by
  unfold applyAck
  dsimp only
  by_cases empty : strip event.clientOrderId = ""
  · rw [if_pos empty]
    exact .unchanged
  rw [if_neg empty]
  cases known : self.states.get? (strip event.clientOrderId) with
  | none => exact .unchanged
  | some current =>
    dsimp only
    by_cases status : current.status ∉ [.submitted, .acked]
    · rw [if_pos status]
      exact .unchanged
    rw [if_neg status]
    cases event.accepted with
    | false => exact .unchanged
    | true =>
      simp only [Bool.true_and, if_true]
      split
      · exact .unchanged
      · split
        · exact .unchanged
        · exact .correlated _ _ current known

/-- An acknowledgement always raises. -/
theorem applyAck_raised (self : OrderStateMachine) (event : OrderAckEvent) :
    (self.applyAck event).raised = true := by
  unfold applyAck
  dsimp only
  by_cases empty : strip event.clientOrderId = ""
  · rw [if_pos empty]
    rfl
  rw [if_neg empty]
  cases self.states.get? (strip event.clientOrderId) with
  | none => rfl
  | some current =>
    dsimp only
    split_ifs <;> rfl

/-- An execution always raises and changes nothing. -/
theorem applyExecution_fails (self : OrderStateMachine) (report : ExecutionReport) :
    ∃ e, self.applyExecution report = (.error e, self) := by
  unfold applyExecution
  dsimp only
  cases self.states.get? (strip report.clientOrderId) with
  | none => exact ⟨_, rfl⟩
  | some current =>
    dsimp only
    by_cases status : current.status ∉ [.acked, .partiallyFilled]
    · rw [if_pos status]
      exact ⟨_, rfl⟩
    · rw [if_neg status]
      cases checkExecution current report with
      | error e => exact ⟨e, rfl⟩
      | ok _ => cases nextAverageExecutionPrice current report <;> exact ⟨_, rfl⟩

end OrderStateMachine

open OrderStateMachine

theorem OmsCall.perform_change (self : OrderStateMachine) (call : OmsCall) :
    Change self (call.perform self).2 := by
  cases call with
  | applyIntent clientOrderId quantity => exact applyIntent_change self clientOrderId quantity
  | registerBrokerOrderCommand command => exact registerBrokerOrderCommand_change self command
  | applyAck event => exact applyAck_change self event
  | applyExecution report =>
    obtain ⟨e, failed⟩ := self.applyExecution_fails report
    rw [perform, failed]
    exact .unchanged

namespace OrderStateMachine

/-- A property that every change keeps holds after every run that starts with it. -/
theorem after_induction {P : OrderStateMachine → Prop}
    (step : ∀ oms next, Change oms next → P oms → P next) {self : OrderStateMachine}
    (calls : List OmsCall) (start : P self) : P (self.after calls) :=
  List.foldlRecOn calls _ start fun oms holds call _ =>
    step oms _ (call.perform_change oms) holds

/-- The facts about one registered order that all operations keep. -/
structure SoundOrder (clientOrderId : String) (state : OrderState) : Prop where
  key : state.clientOrderId = clientOrderId
  stripped : strip clientOrderId = clientOrderId
  nonempty : clientOrderId ≠ ""
  quantity_pos : 0 < state.orderQuantity
  filled_nonneg : 0 ≤ state.filledQuantity
  filled_le : state.filledQuantity ≤ state.orderQuantity

theorem registered_set {self : OrderStateMachine} {clientOrderId key : String}
    {state : OrderState} (known : (self.states.get? key).isSome) :
    ((self.setState clientOrderId state).states.get? key).isSome := by
  simp only [setState, Dict.get?_set]
  split
  · rfl
  · exact known

structure WellFormed (oms : OrderStateMachine) : Prop where
  sound : ∀ clientOrderId state, oms.states.get? clientOrderId = some state →
    SoundOrder clientOrderId state
  registered : ∀ brokerOrderId clientOrderId,
    oms.brokerToClient.get? brokerOrderId = some clientOrderId →
      (oms.states.get? clientOrderId).isSome

theorem WellFormed.change {self next : OrderStateMachine} (change : Change self next)
    (wf : self.WellFormed) : next.WellFormed := by
  cases change with
  | unchanged => exact wf
  | registered clientOrderId quantity stripped nonempty positive fresh =>
    refine ⟨Dict.forall_get?_set wf.sound
      ⟨rfl, stripped, nonempty, positive, le_rfl, positive.le⟩, fun b c found => ?_⟩
    exact registered_set (wf.registered b c found)
  | commanded clientOrderId current command known quantity =>
    have sound := wf.sound clientOrderId current known
    refine ⟨Dict.forall_get?_set wf.sound
      ⟨sound.key, sound.stripped, sound.nonempty, sound.quantity_pos, sound.filled_nonneg,
        sound.filled_le⟩, fun b c found => ?_⟩
    exact registered_set (wf.registered b c found)
  | correlated clientOrderId brokerOrderId current known =>
    have present : (self.states.get? clientOrderId).isSome := by rw [known]; rfl
    exact ⟨wf.sound, Dict.forall_get?_set wf.registered present⟩

theorem wellFormed_after (calls : List OmsCall) : (empty.after calls).WellFormed :=
  after_induction (fun _ _ => WellFormed.change) calls
    ⟨fun _ _ found => (nomatch found), fun _ _ found => (nomatch found)⟩

/-- No order has been acknowledged or filled. -/
def Unacknowledged (self : OrderStateMachine) : Prop :=
  ∀ clientOrderId state, self.states.get? clientOrderId = some state →
    state.status = .submitted ∧ state.brokerOrderId = none ∧ state.filledQuantity = 0 ∧
      state.averageExecutionPrice = none

theorem Unacknowledged.change {self next : OrderStateMachine} (change : Change self next)
    (unacked : self.Unacknowledged) : next.Unacknowledged := by
  cases change with
  | unchanged => exact unacked
  | registered => exact Dict.forall_get?_set unacked ⟨rfl, rfl, rfl, rfl⟩
  | commanded clientOrderId current command known quantity =>
    exact Dict.forall_get?_set unacked (unacked clientOrderId current known)
  | correlated => exact unacked

/-- In every state the OMS can reach, every order is still `SUBMITTED`. -/
theorem unacknowledged_after (calls : List OmsCall) : (empty.after calls).Unacknowledged :=
  after_induction (fun _ _ => Unacknowledged.change) calls fun _ _ found => nomatch found

/-! ## Orders carried through their fills -/

/-- The reports of fills of one order: positive quantities and prices, each report with what
the running sum leaves of the order, and `FILLED` exactly when nothing is left. -/
def IsFillStream (clientOrderId brokerOrderId : String) (quantity : ℤ) :
    ℤ → List ExecutionReport → Prop
  | _, [] => True
  | filled, report :: rest =>
    let cumulative := filled + report.filledQuantity
    report.clientOrderId = clientOrderId ∧ report.brokerOrderId = some brokerOrderId ∧
      0 < report.filledQuantity ∧ cumulative ≤ quantity ∧
      (∃ price, report.executionPrice = some price ∧ 0 < price) ∧
      report.remainingQuantity = quantity - cumulative ∧
      report.status = (if report.remainingQuantity = 0 then "FILLED" else "PARTIALLY_FILLED") ∧
      IsFillStream clientOrderId brokerOrderId quantity cumulative rest

/-- The order as its fills should leave it. -/
def IsFilledTo (self : OrderStateMachine) (clientOrderId brokerOrderId : String)
    (quantity : ℤ) (reports : List ExecutionReport) : Prop :=
  let filled := totalFilled reports
  ∃ state, self.get clientOrderId = some state ∧
    state.status = (if filled = quantity then .filled else .partiallyFilled) ∧
    state.filledQuantity = filled ∧ state.brokerOrderId = some brokerOrderId ∧
    state.averageExecutionPrice = some (totalNotional reports / filled)

/-- Every report is applied; before each the broker id resolves to the running sum, as long
as the order is not complete; `done` are the reports before. -/
def AppliesFills (clientOrderId brokerOrderId : String) (quantity : ℤ) :
    OrderStateMachine → List ExecutionReport → List ExecutionReport → Prop
  | self, done, [] => done ≠ [] → self.IsFilledTo clientOrderId brokerOrderId quantity done
  | self, done, report :: rest =>
    let filled := totalFilled done
    (filled < quantity → ∃ correlation,
      self.resolveExecutionCorrelation brokerOrderId = .ok correlation ∧
        correlation.clientOrderId = clientOrderId ∧
        correlation.priorFilledQuantity = filled) ∧
    (self.applyExecution report).raised = false ∧
    AppliesFills clientOrderId brokerOrderId quantity (self.applyExecution report).2
      (done ++ [report]) rest

/-- The acknowledgement is accepted and every fill after it is applied. -/
def CarriesFills (self : OrderStateMachine) (event : OrderAckEvent) (quantity : ℤ)
    (reports : List ExecutionReport) : Prop :=
  (self.applyAck event).raised = false ∧
    AppliesFills event.clientOrderId (orEmpty event.brokerOrderId) quantity
      (self.applyAck event).2 [] reports

/-- Even an order that was acknowledged before is not carried through any fill. -/
theorem not_appliesFills (self : OrderStateMachine) (clientOrderId brokerOrderId : String)
    (quantity : ℤ) (done : List ExecutionReport) (report : ExecutionReport)
    (rest : List ExecutionReport) :
    ¬AppliesFills clientOrderId brokerOrderId quantity self done (report :: rest) := by
  rintro ⟨-, returned, -⟩
  obtain ⟨e, failed⟩ := self.applyExecution_fails report
  simp [failed, Outcome.raised] at returned

/-- No acknowledgement returns, so no order is carried through its fills. -/
theorem not_carriesFills (self : OrderStateMachine) (event : OrderAckEvent) (quantity : ℤ)
    (reports : List ExecutionReport) : ¬self.CarriesFills event quantity reports := by
  rintro ⟨returned, -⟩
  simp [applyAck_raised] at returned

/-- One order of 5, its acknowledgement, and its single complete fill. -/
theorem single_fill_not_carried :
    let oms := empty.after [.applyIntent "C1" 5]
    let event : OrderAckEvent :=
      { clientOrderId := "C1", accepted := true, brokerOrderId := some "B1" }
    let report : ExecutionReport :=
      { clientOrderId := "C1", brokerOrderId := some "B1", executionId := some "E1",
        status := "FILLED", filledQuantity := 5, remainingQuantity := 0,
        executionPrice := some 100, executionTimestamp := none }
    (oms.get "C1").map (·.orderQuantity) = some 5 ∧ oms.brokerToClient.get? "B1" = none ∧
      IsFillStream "C1" "B1" 5 0 [report] ∧ ¬oms.CarriesFills event 5 [report] := by
  refine ⟨by decide, by decide, ⟨rfl, rfl, by decide, by decide, ⟨100, rfl, by norm_num⟩, rfl,
    rfl, trivial⟩, ?_⟩
  rintro ⟨returned, -⟩
  exact absurd returned (by decide)

end OrderStateMachine

end OptionProject.Oms
