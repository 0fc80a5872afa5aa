import OptionProject.Library.Machine
import OptionProject.Oms.Runs

/-!
# The correlation table

An acknowledgement writes the broker-to-client table before it builds the new order state, and
that fails, so the order never gets its broker order id. The table therefore agrees with the
orders exactly as long as no order is acknowledged.

## Main definitions

* `OrderStateMachine.Correlated` — the table agrees with the orders.
* `OrderStateMachine.Acknowledges` — the call accepts an order that is registered.

## Main results

* `correlated_iff` — the runs in which the table agrees with the orders in every state.
-/
namespace OptionProject.Oms
open Library Contracts

def OmsCall.step (self : OrderStateMachine) (call : OmsCall) : Option OrderStateMachine :=
  some (call.perform self).2

namespace OrderStateMachine

variable {self next : OrderStateMachine} {call : OmsCall}

/-- Every entry refers to a registered order that has its broker order id, and no two entries
to the same order. -/
structure Correlated (oms : OrderStateMachine) : Prop where
  registered : ∀ brokerOrderId clientOrderId,
    oms.brokerToClient.get? brokerOrderId = some clientOrderId →
      ∃ state, oms.states.get? clientOrderId = some state ∧
        state.brokerOrderId = some brokerOrderId
  distinct : ∀ brokerOrderId brokerOrderId' clientOrderId,
    oms.brokerToClient.get? brokerOrderId = some clientOrderId →
      oms.brokerToClient.get? brokerOrderId' = some clientOrderId →
        brokerOrderId = brokerOrderId'

/-- An accepted acknowledgement, with a broker order id, of a registered order. -/
def Acknowledges (self : OrderStateMachine) : OmsCall → Prop
  | .applyAck event => event.accepted = true ∧ orEmpty event.brokerOrderId ≠ "" ∧
      (self.states.get? (strip event.clientOrderId)).isSome = true
  | _ => False

/-- Without an acknowledged order, only an empty table agrees with the orders. -/
theorem correlated_iff_empty (unacked : self.Unacknowledged) :
    self.Correlated ↔ ∀ brokerOrderId, self.brokerToClient.get? brokerOrderId = none := by
  constructor
  · intro correlated brokerOrderId
    cases found : self.brokerToClient.get? brokerOrderId with
    | none => rfl
    | some clientOrderId =>
      obtain ⟨state, known, same⟩ := correlated.registered brokerOrderId clientOrderId found
      cases (unacked clientOrderId state known).2.1.symm.trans same
  · intro empty
    refine ⟨?_, ?_⟩
    · intro brokerOrderId clientOrderId found
      cases (empty brokerOrderId).symm.trans found
    · intro brokerOrderId brokerOrderId' clientOrderId found
      cases (empty brokerOrderId).symm.trans found

/-- Every other call leaves the table as it is. -/
theorem brokerToClient_of_not_acknowledges (other : ¬self.Acknowledges call) :
    (call.perform self).2.brokerToClient = self.brokerToClient := by
  cases call with
  | applyIntent clientOrderId quantity =>
    simp only [OmsCall.perform, applyIntent]
    split_ifs <;> rfl
  | registerBrokerOrderCommand command =>
    simp only [OmsCall.perform, registerBrokerOrderCommand]
    split
    · rfl
    · cases self.states.get? (strip command.clientOrderId) with
      | none => rfl
      | some current =>
        dsimp only
        split_ifs <;> rfl
  | applyAck event =>
    simp only [OmsCall.perform, applyAck]
    split
    · rfl
    cases known : self.states.get? (strip event.clientOrderId) with
    | none => rfl
    | some current =>
      cases accepted : event.accepted with
      | false =>
        simp only [Bool.false_and, Bool.false_eq_true, if_false]
        split_ifs <;> rfl
      | true =>
        have blank : orEmpty event.brokerOrderId = "" := by
          by_contra filled
          exact other ⟨accepted, filled, by rw [known]; rfl⟩
        simp only [blank, Bool.true_and, beq_self_eq_true, if_true]
        split_ifs <;> rfl
  | applyExecution report =>
    obtain ⟨e, failed⟩ := self.applyExecution_fails report
    rw [OmsCall.perform, failed]

/-- An acknowledgement leaves an entry in the table. -/
theorem brokerToClient_of_acknowledges (wf : self.WellFormed) (unacked : self.Unacknowledged)
    (acknowledges : self.Acknowledges call) :
    ∃ brokerOrderId clientOrderId,
      (call.perform self).2.brokerToClient.get? brokerOrderId = some clientOrderId := by
  cases call with
  | applyAck event =>
    obtain ⟨accepted, filled, registered⟩ := acknowledges
    obtain ⟨current, known⟩ := Option.isSome_iff_exists.mp registered
    have nonempty := (wf.sound _ current known).nonempty
    have status := (unacked _ current known).1
    simp only [OmsCall.perform, applyAck, if_neg nonempty, known, status, accepted, Bool.true_and,
      List.mem_cons, true_or, not_true_eq_false, if_false, beq_iff_eq, filled, if_true]
    split
    next taken =>
      cases found : self.brokerToClient.get? (strip (orEmpty event.brokerOrderId)) with
      | none => simp [found] at taken
      | some clientOrderId => exact ⟨_, clientOrderId, found⟩
    next => exact ⟨_, _, Dict.get?_set_self _ _ _⟩
  | _ => exact acknowledges.elim

/-- The table agrees with the orders in every state of a run exactly when the run acknowledges
no order. -/
theorem correlated_iff (calls : List OmsCall) :
    (∀ oms, Machine.Visits OmsCall.step empty calls oms → oms.Correlated) ↔
      ∀ oms call, Machine.Takes OmsCall.step empty calls oms call → ¬oms.Acknowledges call := by
  have possible (oms : OrderStateMachine) (call : OmsCall) :
      ∃ next, OmsCall.step oms call = some next := ⟨_, rfl⟩
  let inv (oms : OrderStateMachine) : Prop := oms.WellFormed ∧ oms.Unacknowledged
  have start : inv empty := ⟨wellFormed_after [], unacknowledged_after []⟩
  refine Machine.forall_visits_iff_of_total possible start ?_ ?_ ?_ ?_
  · exact (correlated_iff_empty (unacknowledged_after [])).mpr fun _ => rfl
  · rintro oms call next ⟨wf, unacked⟩ ⟨⟩
    exact ⟨wf.change (call.perform_change oms), unacked.change (call.perform_change oms)⟩
  · rintro oms call next ⟨wf, unacked⟩ correlated other ⟨⟩
    rw [correlated_iff_empty (unacked.change (call.perform_change oms)),
      brokerToClient_of_not_acknowledges other]
    exact (correlated_iff_empty unacked).mp correlated
  · rintro oms call next ⟨wf, unacked⟩ - acknowledges ⟨⟩ correlated
    obtain ⟨brokerOrderId, clientOrderId, found⟩ :=
      brokerToClient_of_acknowledges wf unacked acknowledges
    have empty := (correlated_iff_empty (unacked.change (call.perform_change oms))).mp correlated
    cases (empty brokerOrderId).symm.trans found

/-- One order of 5, and its acknowledgement. -/
theorem acknowledged_order_not_correlated :
    let calls : List OmsCall :=
      [.applyIntent "C1" 5,
        .applyAck { clientOrderId := "C1", accepted := true, brokerOrderId := some "B1" }]
    let oms := empty.after calls
    Machine.Visits OmsCall.step empty calls oms ∧
      oms.brokerToClient.get? "B1" = some "C1" ∧
      (oms.get "C1").map (·.brokerOrderId) = some none ∧ ¬oms.Correlated := by
  refine ⟨⟨_, List.prefix_rfl, rfl⟩, by decide, by decide, ?_⟩
  intro correlated
  obtain ⟨state, known, same⟩ := correlated.registered "B1" "C1" (by decide)
  have none := (unacknowledged_after _ "C1" state known).2.1
  cases none.symm.trans same

end OrderStateMachine
end OptionProject.Oms
