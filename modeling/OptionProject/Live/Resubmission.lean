import OptionProject.Live.SentOnce

/-!
# Orders that were refused

A call of the adapter reserves the id of its identity before the gate and the mapping of futures
commands can refuse the command. The id then stays reserved by an order that was never sent.

## Main definitions

* `Resubmittable` — what a refused call should leave behind.

## Main results

* `resubmittable_iff` — which refused calls do.
* `LiveRouting.never_sent` — after the others no run sends a command under their identity.
-/
namespace OptionProject.Live
open Library Contracts

namespace LiveBrokerAdapter

variable {broker : LiveBrokerAdapter} {command sent : BrokerOrderCommand}
  {identity : OrderIdentity} {accountAgeSeconds : ℚ} {answers : BrokerAnswers}

/-- The call raises, and the transport is not called. -/
def RaisesBeforeTransport (broker : LiveBrokerAdapter) (command : BrokerOrderCommand)
    (identity : OrderIdentity) (accountAgeSeconds : ℚ) (answers : BrokerAnswers) : Prop :=
  ∃ raised after, broker.submit command identity accountAgeSeconds answers =
    (.error raised, after) ∧ after.submitted = broker.submitted

/-- The registry is as before. So the command, where its id was free, reaches the transport in every
later state with that registry in which the other checks pass. -/
structure Resubmittable (broker : LiveBrokerAdapter) (command : BrokerOrderCommand)
    (identity : OrderIdentity) (accountAgeSeconds : ℚ) (answers : BrokerAnswers) : Prop where
  unchanged : (broker.submit command identity accountAgeSeconds answers).2.idempotency =
    broker.idempotency
  reaches : broker.idempotency.identities.get? identity.clientOrderId = none →
    ∀ later : LiveBrokerAdapter,
      later.idempotency =
        (broker.submit command identity accountAgeSeconds answers).2.idempotency →
      ∀ ageSeconds again sent, later.connected = true →
        (later.gate.evaluate command.quantity ageSeconds).allowed = true →
        later.brokerCommand command again.currentSymbol = .ok sent →
        (later.submit command identity ageSeconds again).2.submitted = later.submitted ++ [sent]

theorem resubmittable_of_unchanged
    (unchanged : (broker.submit command identity accountAgeSeconds answers).2.idempotency =
      broker.idempotency) :
    Resubmittable broker command identity accountAgeSeconds answers := by
  refine ⟨unchanged, fun unreserved later same ageSeconds again sent connected allowed mapped => ?_⟩
  have free : later.idempotency.identities.get? identity.clientOrderId = none := by
    rwa [same, unchanged]
  rw [submit_of_passes ⟨connected, free, allowed, mapped⟩]

theorem reserve_ne {registry : IdempotencyRegistry}
    (unreserved : registry.identities.get? identity.clientOrderId = none) :
    (registry.reserve identity).2 ≠ registry := by
  intro same
  have reserved := congrArg (·.identities.get? identity.clientOrderId) same
  simp [IdempotencyRegistry.reserve, unreserved] at reserved

theorem not_refusedLate_of_passes
    (passes : Passes broker command identity accountAgeSeconds answers sent) :
    ¬RefusedLate broker command identity accountAgeSeconds answers := by
  intro late
  rcases late.refused with refused | unmappable
  · exact Bool.false_ne_true (refused.symm.trans passes.allowed)
  · obtain ⟨raised, unmapped⟩ := unmappable_iff.mp unmappable
    cases unmapped.symm.trans passes.mapped

theorem RefusedLate.not_early
    (late : RefusedLate broker command identity accountAgeSeconds answers) :
    ¬broker.RefusedEarly identity := by
  rintro (disconnected | ⟨fingerprint, reserved⟩)
  · exact Bool.false_ne_true (disconnected.symm.trans late.connected)
  · cases reserved.symm.trans late.unreserved

/-- The refusal leaves the id reserved. -/
theorem RefusedLate.reserved
    (late : RefusedLate broker command identity accountAgeSeconds answers) :
    let after := (broker.submit command identity accountAgeSeconds answers).2
    ∃ fingerprint, after.idempotency.identities.get? identity.clientOrderId =
      some fingerprint := by
  intro after
  rcases submit_cases broker command identity accountAgeSeconds answers with
    ⟨sent, passes⟩ | ⟨early, -⟩ | ⟨-, raised, stopped⟩
  · exact absurd late (not_refusedLate_of_passes passes)
  · exact absurd early late.not_early
  · simp only [after, stopped]
    simp [IdempotencyRegistry.reserve, late.unreserved]

/-- A call that raises before the transport leaves the registry as it was, so that the command can
be submitted again, unless it was refused behind the reservation. -/
theorem resubmittable_iff (broker : LiveBrokerAdapter) (command : BrokerOrderCommand)
    (identity : OrderIdentity) (accountAgeSeconds : ℚ) (answers : BrokerAnswers) :
    (RaisesBeforeTransport broker command identity accountAgeSeconds answers →
      Resubmittable broker command identity accountAgeSeconds answers) ↔
    ¬RefusedLate broker command identity accountAgeSeconds answers := by
  rcases submit_cases broker command identity accountAgeSeconds answers with
    ⟨sent, passes⟩ | ⟨early, raised, stopped⟩ | ⟨late, raised, stopped⟩
  · refine iff_of_true (fun raises => ?_) (not_refusedLate_of_passes passes)
    obtain ⟨raised, after, stopped, unsent⟩ := raises
    rw [submit_of_passes passes, Prod.mk.injEq] at stopped
    rw [← stopped.2] at unsent
    exact absurd unsent (by simp)
  · refine iff_of_true (fun _ => resubmittable_of_unchanged (by rw [stopped])) fun late => ?_
    exact late.not_early early
  · refine iff_of_false (fun resubmittable => ?_) (not_not_intro late)
    have unchanged := (resubmittable ⟨raised, _, stopped, rfl⟩).unchanged
    rw [stopped] at unchanged
    exact reserve_ne late.unreserved unchanged

/-- An adapter that is connected and has limits, but no approval. -/
def unapproved : LiveBrokerAdapter :=
  { LiveRouting.armed.broker with gate := LiveRouting.armed.broker.gate.revoke }

def optionOrder : BrokerOrderCommand where
  clientOrderId := "ORD-1"
  instrumentId := "KR4"
  side := "BUY"
  quantity := 2
  orderType := "LIMIT"
  assetType := some "OPTION"

/-- The order is refused for want of an approval, and after the approval as a duplicate. -/
theorem refused_order_is_duplicate :
    let identity : OrderIdentity := ⟨"ORD-1", "Track1", "fp-1"⟩
    let answers : BrokerAnswers := ⟨.ok "", .ok none⟩
    let refused := unapproved.submit optionOrder identity 1 answers
    let approved := { refused.2 with gate := LiveRouting.armed.broker.gate }
    let again := approved.submit optionOrder identity 1 answers
    refused.1 = .error (runtimeError "live approval is missing") ∧ refused.2.submitted = [] ∧
      again.1 = .error (runtimeError "duplicate client order identity") ∧
      again.2.submitted = [] ∧ ¬Resubmittable unapproved optionOrder identity 1 answers := by
  refine ⟨rfl, rfl, rfl, rfl, fun resubmittable => ?_⟩
  have unchanged := congrArg (·.identities.get? "ORD-1") resubmittable.unchanged
  exact absurd unchanged (by decide +kernel)

end LiveBrokerAdapter

/-! ## Runs after a refusal -/

namespace LiveRouting

variable {start : LiveRouting} {command : BrokerOrderCommand} {identity : OrderIdentity}
  {accountAgeSeconds : ℚ} {answers : BrokerAnswers}

/-- In no run after the refusal is a command sent under the identity. -/
theorem never_sent
    (late : LiveBrokerAdapter.RefusedLate start.broker command identity accountAgeSeconds answers)
    (moves : List Move) :
    let refused := start.broker.submit command identity accountAgeSeconds answers
    ∀ now, Machine.Visits step { start with broker := refused.2 } moves now →
      ∀ call command sent, call.identity.clientOrderId = identity.clientOrderId →
        ¬Sends now call command sent := by
  intro refused now visited call command' sent same sends
  obtain ⟨fingerprint, reserved⟩ := late.reserved
  have kept : now.broker.idempotency.identities.get? identity.clientOrderId =
      some fingerprint := by
    refine Machine.visits_kept (P := fun now : LiveRouting =>
      now.broker.idempotency.identities.get? identity.clientOrderId = some fingerprint)
      reserved ?_ visited
    rintro now move _ found ⟨⟩
    exact stays_reserved move found
  cases kept.symm.trans (same ▸ sends.passes.unreserved)

end LiveRouting
end OptionProject.Live
