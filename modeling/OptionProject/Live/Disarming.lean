import Mathlib.Data.Fintype.EquivFin
import OptionProject.Live.SentOnce

/-!
# Stopping the live bundle

`environments/live/bundle.py`. A stop puts a disarmed policy into the bundle. The order path asks
the gate of the broker, which keeps its own policy and its own approval.

## Main definitions

* `LiveEnvironmentBundle.stop` — the stop of the source.
* `LiveSafetyGate.Armed` — a gate with an approval and a policy that can submit.
* `Watched.Disarms` — a run in which no submission passes after a stop without a new approval.

## Main results

* `Watched.disarmed_of_stopped` — the policy of the bundle itself is disarmed after every stop.
* `Watched.disarms_of_unarmed` — runs that never stop with an armed gate disarm.
* `Watched.not_disarms_of_armed` — a stop with an armed gate lets a submission follow.
-/
namespace OptionProject.Live
open Library Contracts

/-- The bundle, as far as a stop and the order path use it. -/
structure LiveEnvironmentBundle where
  broker : LiveBrokerAdapter
  policy : LiveSafetyPolicy

namespace LiveEnvironmentBundle

variable (self : LiveEnvironmentBundle)

def connect (authenticated : Bool) : LiveEnvironmentBundle :=
  { self with broker := self.broker.connect authenticated }

def stop : LiveEnvironmentBundle := { self with policy := {} }

end LiveEnvironmentBundle

/-- The arguments of a submission, with the answers its call will get. -/
structure SubmitCall where
  command : BrokerOrderCommand
  identity : OrderIdentity
  accountAgeSeconds : ℚ
  answers : BrokerAnswers

namespace LiveSafetyGate

/-- The gate has an approval, and its own policy can submit. -/
structure Armed (gate : LiveSafetyGate) : Prop where
  approved : gate.approval.isSome = true
  canSubmit : gate.policy.canSubmit = true

theorem allowed_evaluate_iff {gate : LiveSafetyGate} {quantity : ℤ} {accountAgeSeconds : ℚ} :
    (gate.evaluate quantity accountAgeSeconds).allowed = true ↔
      gate.Armed ∧ 0 < quantity ∧ quantity ≤ gate.policy.maxOrderQuantity ∧
        accountAgeSeconds ≤ gate.policy.maxAccountStalenessSeconds := by
  have armed_iff : gate.Armed ↔ gate.approval.isSome = true ∧ gate.policy.canSubmit = true :=
    ⟨fun armed => ⟨armed.approved, armed.canSubmit⟩, fun both => ⟨both.1, both.2⟩⟩
  unfold evaluate
  rw [armed_iff]
  rcases gate.approval with _ | approval
  · simp
  · cases gate.policy.canSubmit
    · simp
    · simp only [Option.isNone_some, Option.isSome_some]
      grind

end LiveSafetyGate

/-! ## Runs -/

/-- The bundle in a run, with whether it was stopped after the last call of `approve`. -/
structure Watched where
  bundle : LiveEnvironmentBundle
  stopped : Bool := false

namespace Watched

inductive Move
  | connect (authenticated : Bool)
  | approve (approval : LiveApproval)
  | revoke
  | stop
  | submit (call : SubmitCall)

/-- The bundle whose broker is replaced. -/
def withBroker (now : Watched) (broker : LiveBrokerAdapter) : Watched :=
  { now with bundle := { now.bundle with broker } }

/-- The broker after a submission. -/
def submitted (now : Watched) (call : SubmitCall) : LiveBrokerAdapter :=
  (now.bundle.broker.submit call.command call.identity call.accountAgeSeconds call.answers).2

def perform (now : Watched) : Move → Watched
  | .connect authenticated => { now with bundle := now.bundle.connect authenticated }
  | .approve approval =>
    let broker := now.bundle.broker
    let gate := (broker.gate.approve approval).2
    { now.withBroker { broker with gate } with stopped := false }
  | .revoke =>
    let broker := now.bundle.broker
    now.withBroker { broker with gate := broker.gate.revoke }
  | .stop => { bundle := now.bundle.stop, stopped := true }
  | .submit call => now.withBroker (now.submitted call)

def step (now : Watched) (move : Move) : Option Watched := some (now.perform move)

/-- The policy of the bundle stays disarmed after a stop, whatever its gate does. -/
theorem disarmed_of_stopped {bundle : LiveEnvironmentBundle} {moves : List Move} {now : Watched}
    (visited : Machine.Visits step ⟨bundle, false⟩ moves now) (stopped : now.stopped = true) :
    now.bundle.policy.canSubmit = false := by
  have disarmed : now.stopped = true → now.bundle.policy = {} := by
    refine Machine.visits_kept (P := fun now : Watched => now.stopped = true →
      now.bundle.policy = {}) ?_ ?_ visited
    · intro started
      cases started
    · rintro now move _ kept ⟨⟩ stopped
      cases move with
      | approve approval => cases stopped
      | stop => rfl
      | connect authenticated => exact kept stopped
      | revoke => exact kept stopped
      | submit call => exact kept stopped
  simp [disarmed stopped, LiveSafetyPolicy.canSubmit]

/-- The submission calls the transport. -/
def Reaches (now : Watched) (call : SubmitCall) : Prop :=
  (now.submitted call).submitted ≠ now.bundle.broker.submitted

/-- No submission of the run reaches the transport after a stop and before an approval. -/
def Disarms (start : Watched) (moves : List Move) : Prop :=
  ∀ now call, Machine.Takes step start moves now (.submit call) → now.stopped = true →
    ¬now.Reaches call

theorem reaches_iff {now : Watched} {call : SubmitCall} :
    now.Reaches call ↔ ∃ sent, now.bundle.broker.Passes call.command call.identity
      call.accountAgeSeconds call.answers sent := by
  constructor
  · intro reaches
    by_contra stopped
    exact reaches (LiveBrokerAdapter.submitted_of_not_passes (not_exists.mp stopped))
  · rintro ⟨sent, passes⟩ same
    rw [submitted, LiveBrokerAdapter.submit_of_passes passes] at same
    simp at same

/-- Only an armed gate lets a submission through. -/
theorem armed_of_reaches {now : Watched} {call : SubmitCall} (reaches : now.Reaches call) :
    now.bundle.broker.gate.Armed := by
  obtain ⟨sent, passes⟩ := reaches_iff.mp reaches
  exact (LiveSafetyGate.allowed_evaluate_iff.mp passes.allowed).1

theorem gate_submitted (now : Watched) (call : SubmitCall) :
    (now.submitted call).gate = now.bundle.broker.gate := by
  unfold submitted
  rcases LiveBrokerAdapter.submit_cases now.bundle.broker call.command call.identity
    call.accountAgeSeconds call.answers with ⟨sent, passes⟩ | ⟨-, raised, refused⟩ |
      ⟨-, raised, refused⟩
  · rw [LiveBrokerAdapter.submit_of_passes passes]
  · rw [refused]
  · rw [refused]

/-! ## Stops of an armed gate -/

/-- The bundle is stopped while the gate of its broker is armed. -/
def StopsArmed (now : Watched) (move : Move) : Prop :=
  move = .stop ∧ now.bundle.broker.gate.Armed

/-- While the bundle is stopped its gate is not armed. -/
def Unarmed (now : Watched) : Prop := now.stopped = true → ¬now.bundle.broker.gate.Armed

theorem unarmed_perform {now : Watched} {move : Move} (unarmed : now.Unarmed)
    (safe : ¬now.StopsArmed move) : (now.perform move).Unarmed := by
  intro stopped armed
  cases move with
  | connect authenticated => exact unarmed stopped armed
  | approve approval => cases stopped
  | revoke => cases armed.approved
  | stop => exact safe ⟨rfl, armed⟩
  | submit call =>
    have same : (now.perform (.submit call)).bundle.broker.gate = now.bundle.broker.gate :=
      gate_submitted now call
    exact unarmed stopped (same ▸ armed)

/-- In every run that never stops the bundle while the gate is armed, no submission reaches the
transport after a stop and before an approval. -/
theorem disarms_of_unarmed (bundle : LiveEnvironmentBundle) (moves : List Move)
    (safe : ∀ now move, Machine.Takes step ⟨bundle, false⟩ moves now move →
      ¬now.StopsArmed move) :
    Disarms ⟨bundle, false⟩ moves := by
  have unarmed : ∀ now, Machine.Visits step ⟨bundle, false⟩ moves now → now.Unarmed := by
    refine @Machine.visits_invariant _ _ step _ moves Unarmed
      (fun now move => ¬now.StopsArmed move) ?_ ?_ safe
    · intro stopped
      cases stopped
    · rintro now move _ kept safe ⟨⟩
      exact unarmed_perform kept safe
  rintro now call ⟨before, le, there⟩ stopped reaches
  have visited : Machine.Visits step ⟨bundle, false⟩ moves now :=
    ⟨before, (List.prefix_append _ _).trans le, there⟩
  exact unarmed now visited stopped (armed_of_reaches reaches)

theorem exists_unused (identities : Dict String String) : ∃ key, identities.get? key = none := by
  have : Infinite String := Infinite.of_injective (fun n => String.ofList (List.replicate n 'a'))
    fun m n same => by simpa using congrArg List.length (String.ofList_injective same)
  obtain ⟨key, unused⟩ := Infinite.exists_notMem_finset identities.keys.toFinset
  exact ⟨key, Dict.get?_eq_none_iff.mpr fun used => unused (List.mem_toFinset.mpr used)⟩

/-- An option order of one lot, as fresh as the policy of the gate asks. -/
def smallCall (policy : LiveSafetyPolicy) (clientOrderId : String) : SubmitCall where
  command :=
    { clientOrderId, instrumentId := "KR4", side := "BUY", quantity := 1, orderType := "LIMIT",
      assetType := some "OPTION" }
  identity := ⟨clientOrderId, "Track1", "fp-1"⟩
  accountAgeSeconds := policy.maxAccountStalenessSeconds
  answers := ⟨.ok "", .ok none⟩

/-- After a stop with an armed gate a submission of a new order reaches the transport. -/
theorem not_disarms_of_armed {now : Watched} (armed : now.bundle.broker.gate.Armed) :
    ∃ call, ¬Disarms now [.stop, .connect true, .submit call] := by
  obtain ⟨clientOrderId, unused⟩ := exists_unused now.bundle.broker.idempotency.identities
  have canSubmit := armed.canSubmit
  simp only [LiveSafetyPolicy.canSubmit, Bool.and_eq_true, decide_eq_true_eq] at canSubmit
  have allowed : (now.bundle.broker.gate.evaluate 1
      now.bundle.broker.gate.policy.maxAccountStalenessSeconds).allowed = true :=
    LiveSafetyGate.allowed_evaluate_iff.mpr ⟨armed, one_pos, canSubmit.1.1.2, le_rfl⟩
  refine ⟨smallCall now.bundle.broker.gate.policy clientOrderId, fun disarms => ?_⟩
  refine disarms ((now.perform .stop).perform (.connect true)) _
    ⟨[.stop, .connect true], List.prefix_rfl, rfl⟩ rfl (reaches_iff.mpr ?_)
  exact ⟨_, rfl, unused, allowed, rfl⟩

/-- A bundle started with a policy, whose gate was armed with it. -/
def started : LiveEnvironmentBundle where
  broker := LiveRouting.armed.broker
  policy := LiveRouting.armed.broker.gate.policy

def optionCall : SubmitCall where
  command :=
    { clientOrderId := "ORD-1", instrumentId := "KR4", side := "BUY", quantity := 2,
      orderType := "LIMIT", assetType := some "OPTION" }
  identity := ⟨"ORD-1", "Track1", "fp-1"⟩
  accountAgeSeconds := 1
  answers := ⟨.ok "", .ok none⟩

/-- With the approval revoked before the stop, the order is not submitted. -/
theorem disarms_revoked :
    Disarms ⟨started, false⟩ [.revoke, .stop, .submit optionCall] ∧
      ∃ now, Machine.run step ⟨started, false⟩ [.revoke, .stop] = some now ∧
        now.stopped = true ∧ ¬now.Reaches optionCall := by
  have disarms : Disarms ⟨started, false⟩ [.revoke, .stop, .submit optionCall] := by
    refine disarms_of_unarmed started _ ?_
    rintro now move taken ⟨rfl, armed⟩
    rcases Machine.takes_cons.mp taken with ⟨-, stop⟩ | ⟨_, ⟨⟩, taken⟩
    · cases stop
    · rcases Machine.takes_cons.mp taken with ⟨rfl, -⟩ | ⟨_, ⟨⟩, taken⟩
      · cases armed.approved
      · rcases Machine.takes_cons.mp taken with ⟨-, stop⟩ | ⟨_, -, taken⟩
        · cases stop
        · exact Machine.takes_nil taken
  exact ⟨disarms, _, rfl, rfl, disarms _ optionCall ⟨[.revoke, .stop], List.prefix_rfl, rfl⟩ rfl⟩

/-- The order goes to the transport after the stop. -/
theorem submitted_after_stop : ¬Disarms ⟨started, false⟩ [.stop, .submit optionCall] := by
  intro disarms
  refine disarms ⟨started.stop, true⟩ optionCall ⟨[.stop], List.prefix_rfl, rfl⟩ rfl ?_
  intro same
  exact absurd (congrArg List.length same) (by decide +kernel)

end Watched
end OptionProject.Live
