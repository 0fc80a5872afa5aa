import Mathlib.Data.List.Dedup
import OptionProject.Contracts.Types

/-!
# Submission of multi-leg orders

`core/oms/multi_leg_submission.py`: intents that have been approved are to be routed in their
declared order. The line that routes a leg stands in a comment, so a call checks and prepares the
legs and routes none of them. What the mapper and the supplier answer to their calls are inputs;
the calls of the router are listed.

## Main definitions

* `submitMultiLegIntents` — the submission of a list of intents.
* `RoutesInOrder` — every leg is routed once, in order, up to the first that is refused.

## Main results

* `routesInOrder_iff` — this is so exactly when no leg is accepted at all.
-/
namespace OptionProject.Oms
open Library Contracts

/-- A router, with the answers of its `register_and_route`, if it has one. -/
structure OrderRouter (T R : Type) where
  registerAndRoute : Option (BrokerOrderCommand → T → Except Raised R)

/-- A call of `register_and_route`. -/
structure RoutingCall (T R : Type) where
  command : BrokerOrderCommand
  token : T
  answer : Except Raised R

/-- The mapper, the supplier of tokens and the router of a submission. A mapper or a supplier may
answer each of its calls differently. -/
structure Submission (T R : Type) where
  toBrokerCommand : ℕ → OrderIntent → Except Raised (Option BrokerOrderCommand)
  approvalTokenFor : ℕ → OrderIntent → BrokerOrderCommand → Except Raised (Option T)
  orderRouter : Option (OrderRouter T R)

def multiLegSubmissionError (message : String) : Raised := ⟨.multiLegSubmissionError, message⟩

section Submission

variable {T R : Type} (submission : Submission T R)

/-- The checks before the first leg. -/
def validateIntents (intents : List OrderIntent) : Except Raised Unit :=
  match intents with
  | [] => .error (multiLegSubmissionError "MULTI_LEG_INTENTS_REQUIRED")
  | first :: _ =>
    if (submission.orderRouter.bind (·.registerAndRoute)).isNone then
      .error (multiLegSubmissionError "ORDER_ROUTER_REQUIRED")
    else if orEmpty first.groupId = "" then
      .error (multiLegSubmissionError "GROUP_ID_REQUIRED")
    else if (intents.map (·.groupId)).dedup.length ≠ 1 then
      .error (multiLegSubmissionError "GROUP_ID_MISMATCH")
    else if (intents.map (·.legId)).dedup.length ≠ intents.length ∨
        intents.any fun intent => orEmpty intent.legId = "" then
      .error (multiLegSubmissionError "UNIQUE_LEG_ID_REQUIRED")
    else .ok ()

/-- The command and the token of the leg at index `n`. -/
def prepareLeg (n : ℕ) (intent : OrderIntent) : Except Raised (BrokerOrderCommand × T) := do
  match ← submission.toBrokerCommand n intent with
  | none => .error (multiLegSubmissionError "BROKER_COMMAND_REQUIRED")
  | some command =>
    if command.groupId ≠ intent.groupId ∨ command.legId ≠ intent.legId then
      .error (multiLegSubmissionError "GROUP_LEG_PROVENANCE_MISMATCH")
    else
      match ← submission.approvalTokenFor n intent command with
      | none => .error (multiLegSubmissionError "RISK_APPROVAL_TOKEN_REQUIRED")
      | some token => .ok (command, token)

/-- The loop over the legs from index `n` on. -/
def submitLegs (n : ℕ) (intents : List OrderIntent) (responses : List R)
    (calls : List (RoutingCall T R)) : Outcome (List (RoutingCall T R)) (List R) :=
  match intents with
  | [] => (.ok responses, calls)
  | intent :: later =>
    match prepareLeg submission n intent with
    | .error e => (.error e, calls)
    -- the source has `responses.append(order_router.register_and_route(...))` as a comment here
    | .ok _ => submitLegs (n + 1) later responses calls

def submitMultiLegIntents (intents : List OrderIntent) :
    Outcome (List (RoutingCall T R)) (List R) :=
  match validateIntents submission intents with
  | .error e => (.error e, [])
  | .ok () => submitLegs submission 0 intents [] []

/-! ## What a submission is for -/

/-- The calls route the legs, each with its own command and token, in their order. -/
def Routed (intents : List OrderIntent) (calls : List (RoutingCall T R)) : Prop :=
  List.Forall₂ (fun leg (call : RoutingCall T R) =>
    prepareLeg submission leg.2 leg.1 = .ok (call.command, call.token)) intents.zipIdx calls

/-- The call raises at the leg with index `k`. -/
def RaisesAt (intents : List OrderIntent) (k : ℕ) (e : Raised) : Prop :=
  validateIntents submission intents = .ok () ∧
    (∃ intent, intents[k]? = some intent ∧ prepareLeg submission k intent = .error e) ∧
    ∀ (j : ℕ) intent, j < k → intents[j]? = some intent →
      ∃ prepared, prepareLeg submission j intent = .ok prepared

/-- A call that returns has routed every leg, and returns the responses in their order; one that
raises at a leg has routed those before it. -/
structure RoutesInOrder (intents : List OrderIntent) (outcome : Except Raised (List R))
    (calls : List (RoutingCall T R)) : Prop where
  returned : ∀ responses, outcome = .ok responses →
    Routed submission intents calls ∧ calls.map (·.answer) = responses.map .ok
  raised : ∀ k e, RaisesAt submission intents k e → outcome = .error e →
    Routed submission (intents.take k) calls

/-- The checks pass, and the first leg gets its command and its token. -/
def AcceptsFirst (intents : List OrderIntent) : Prop :=
  validateIntents submission intents = .ok () ∧
    ∃ first ∈ intents.head?, ∃ prepared, prepareLeg submission 0 first = .ok prepared

variable {submission} {intents : List OrderIntent} {calls : List (RoutingCall T R)}

/-- The loop returns what it was given once every leg is prepared, or raises at the first leg that
is refused; it never calls the router. -/
theorem submitLegs_cases (submission : Submission T R) (n : ℕ) (intents : List OrderIntent)
    (responses : List R) (calls : List (RoutingCall T R)) :
    (submitLegs submission n intents responses calls = (.ok responses, calls) ∧
      ∀ (j : ℕ) intent, intents[j]? = some intent →
        ∃ prepared, prepareLeg submission (n + j) intent = .ok prepared) ∨
    ∃ k e, submitLegs submission n intents responses calls = (.error e, calls) ∧
      (∃ intent, intents[k]? = some intent ∧ prepareLeg submission (n + k) intent = .error e) ∧
      ∀ (j : ℕ) intent, j < k → intents[j]? = some intent →
        ∃ prepared, prepareLeg submission (n + j) intent = .ok prepared := by
  induction intents generalizing n with
  | nil => exact .inl ⟨rfl, by simp⟩
  | cons intent later ih =>
    unfold submitLegs
    cases prepared : prepareLeg submission n intent with
    | error e => exact .inr ⟨0, e, rfl, ⟨intent, rfl, prepared⟩, by simp⟩
    | ok leg =>
      have before (m : ℕ) (fine : ∀ (j : ℕ) intent, j < m → later[j]? = some intent →
          ∃ prepared, prepareLeg submission (n + 1 + j) intent = .ok prepared) :
          ∀ (j : ℕ) other, j < m + 1 → (intent :: later)[j]? = some other →
            ∃ prepared, prepareLeg submission (n + j) other = .ok prepared := by
        rintro (_ | j) other lt there
        · cases there
          exact ⟨leg, prepared⟩
        · have := fine j other (by omega) there
          rwa [Nat.add_right_comm] at this
      rcases ih (n + 1) with ⟨ended, fine⟩ | ⟨k, e, ended, ⟨failing, there, refused⟩, fine⟩
      · refine .inl ⟨ended, fun j other there => ?_⟩
        exact before (j + 1) (fun i other _ => fine i other) j other (by omega) there
      · refine .inr ⟨k + 1, e, ended, ⟨failing, there, ?_⟩, before k fine⟩
        rwa [Nat.add_right_comm] at refused

theorem RaisesAt.eq_zero {k : ℕ} {e e' : Raised} {first : OrderIntent}
    (raises : RaisesAt submission intents k e) (head : intents[0]? = some first)
    (refused : prepareLeg submission 0 first = .error e') : k = 0 := by
  by_contra positive
  obtain ⟨prepared, fine⟩ := raises.2.2 0 first (Nat.pos_of_ne_zero positive) head
  cases fine.symm.trans refused

/-- Calls that are none route no leg. -/
theorem eq_nil_of_routed (routed : Routed submission intents []) : intents = [] := by
  have none : intents.zipIdx = [] := List.forall₂_nil_right_iff.mp routed
  simpa using none

/-- The submission does what it is for exactly when nothing is to be routed: its checks refuse the
intents, or the first leg does not get its command and its token. -/
theorem routesInOrder_iff (submission : Submission T R) (intents : List OrderIntent) :
    RoutesInOrder submission intents (submitMultiLegIntents submission intents).1
        (submitMultiLegIntents submission intents).2 ↔
      ¬AcceptsFirst submission intents := by
  unfold submitMultiLegIntents
  cases valid : validateIntents submission intents with
  | error e =>
    refine iff_of_true ⟨nofun, ?_⟩ ?_
    · intro k e' raises
      cases valid.symm.trans raises.1
    · intro accepts
      cases valid.symm.trans accepts.1
  | ok _ =>
    obtain ⟨first, later, rfl⟩ : ∃ first later, intents = first :: later := by
      cases intents with
      | nil => cases valid
      | cons first later => exact ⟨first, later, rfl⟩
    dsimp only
    rcases submitLegs_cases submission 0 (first :: later) [] [] with
      ⟨ended, fine⟩ | ⟨k, e, ended, ⟨failing, there, refused⟩, fine⟩
    · rw [ended]
      refine iff_of_false ?_ (not_not.mpr ⟨valid, first, rfl, fine 0 first rfl⟩)
      intro routes
      cases eq_nil_of_routed (routes.returned [] rfl).1
    simp only [Nat.zero_add] at refused fine
    rw [ended]
    cases k with
    | zero =>
      cases there
      refine iff_of_true ⟨nofun, ?_⟩ ?_
      · intro k' e' raises _
        rw [raises.eq_zero rfl refused]
        exact .nil
      · rintro ⟨-, _, ⟨⟩, prepared, accepted⟩
        cases refused.symm.trans accepted
    | succ k =>
      refine iff_of_false ?_ (not_not.mpr ⟨valid, first, rfl, fine 0 first k.succ_pos rfl⟩)
      intro routes
      have raises : RaisesAt submission (first :: later) (k + 1) e :=
        ⟨valid, ⟨failing, there, refused⟩, fine⟩
      cases eq_nil_of_routed (routes.raised (k + 1) e raises rfl)

/-- Two legs are accepted, and none is routed. -/
theorem accepted_legs_not_routed :
    let submission : Submission String String :=
      { toBrokerCommand := fun _ intent => .ok (some
          { clientOrderId := intent.clientOrderId, instrumentId := intent.instrumentId,
            side := intent.side, quantity := intent.quantity, orderType := "LIMIT",
            groupId := intent.groupId, legId := intent.legId })
        approvalTokenFor := fun _ intent _ => .ok (some ("T:" ++ orEmpty intent.legId))
        orderRouter := some ⟨some fun command _ => .ok (orEmpty command.legId)⟩ }
    let leg (legId : String) : OrderIntent :=
      { clientOrderId := "G-2:" ++ legId, instrumentId := "OPT-" ++ legId, side := "SELL",
        quantity := 1, intentType := "ENTRY", groupId := some "G-2", legId := some legId }
    let intents := [leg "a", leg "b"]
    (submitMultiLegIntents submission intents).1 = .ok [] ∧
      (submitMultiLegIntents submission intents).2 = [] ∧
      ¬RoutesInOrder submission intents (submitMultiLegIntents submission intents).1
        (submitMultiLegIntents submission intents).2 := by
  refine ⟨rfl, rfl, fun routes => ?_⟩
  cases eq_nil_of_routed (routes.returned [] rfl).1

end Submission
end OptionProject.Oms
