import OptionProject.Library.Related
import OptionProject.Oms.MultiLegMaterializer
import OptionProject.Oms.MultiLegSubmission

/-!
# From a plan to its submission

The plans that `core/oms/contracts.py` builds, and what becomes of the intents of a plan in a
submission.

## Main definitions

* `MultiLegExecutionPlan.create` — a plan, with the checks of `__post_init__`.
* `buildPairPlan`, `buildTrapPlan` — the plans of two and of four legs.

## Main results

* `submitMultiLegIntents_materialized` — when the submission of the intents of a plan returns.
-/
namespace OptionProject.Oms
open Library Contracts

/-! ## Plans -/

def valueError (message : String) : PythonException := ⟨"ValueError", message⟩

def MultiLegExecutionPlan.create (groupId strategyId : String) (legs : List ExecutionLeg)
    (purpose : Option String) : Except PythonException MultiLegExecutionPlan :=
  if groupId_ne : groupId = "" then .error (valueError "group_id must be non-empty")
  else if legs_ne : legs = [] then
    .error (valueError "MultiLegExecutionPlan requires at least one leg")
  else if nodup_legIds : ¬(legs.map (·.legId)).Nodup then
    .error (valueError "leg_id values must be unique within a plan")
  else if quantity_pos : ¬∀ leg ∈ legs, 0 < leg.quantity then
    .error (valueError "leg quantity must be positive")
  else .ok
    { groupId
      strategyId
      legs
      purpose
      groupId_ne
      legs_ne
      nodup_legIds := not_not.mp nodup_legIds
      quantity_pos := not_not.mp quantity_pos }

def buildPairPlan (groupId strategyId purpose : String) (putStrike callStrike : ℚ)
    (putQuantity callQuantity : ℤ) (side : String := "BUY") :
    Except PythonException MultiLegExecutionPlan :=
  MultiLegExecutionPlan.create groupId strategyId
    [{ legId := "put", side, quantity := putQuantity, optionType := some "PUT",
       strike := some putStrike },
      { legId := "call", side, quantity := callQuantity, optionType := some "CALL",
        strike := some callStrike }]
    (some purpose)

def buildTrapPlan (groupId strategyId purpose : String)
    (shortPut shortCall longPut longCall : ℚ) (quantity : ℤ := 1) :
    Except PythonException MultiLegExecutionPlan :=
  MultiLegExecutionPlan.create groupId strategyId
    [{ legId := "short_put", side := "SELL", quantity, optionType := some "PUT",
       strike := some shortPut },
      { legId := "short_call", side := "SELL", quantity, optionType := some "CALL",
        strike := some shortCall },
      { legId := "long_put", side := "BUY", quantity, optionType := some "PUT",
        strike := some longPut },
      { legId := "long_call", side := "BUY", quantity, optionType := some "CALL",
        strike := some longCall }]
    (some purpose)

theorem MultiLegExecutionPlan.create_eq_ok {groupId strategyId : String} {legs : List ExecutionLeg}
    {purpose : Option String} (groupId_ne : groupId ≠ "") (legs_ne : legs ≠ [])
    (nodup_legIds : (legs.map (·.legId)).Nodup) (quantity_pos : ∀ leg ∈ legs, 0 < leg.quantity) :
    MultiLegExecutionPlan.create groupId strategyId legs purpose =
      .ok ⟨groupId, strategyId, legs, purpose, groupId_ne, legs_ne, nodup_legIds,
        quantity_pos⟩ := by
  unfold MultiLegExecutionPlan.create
  rw [dif_neg groupId_ne, dif_neg legs_ne, dif_neg (not_not.mpr nodup_legIds),
    dif_neg (not_not.mpr quantity_pos)]

/-! ## Submission -/

variable {T R : Type} {submission : Submission T R} {plan : MultiLegExecutionPlan}
  {resolveIdentity : IdentityResolver} {semantics : MultiLegExecutionSemantics}
  {clientOrderIdFor : Option ClientOrderIdFor} {intents : List OrderIntent}

/-- Each leg has its intent, in the order of the plan. -/
theorem inOrder_of_materialized (materialized :
      materializeMultiLegPlan plan resolveIdentity semantics clientOrderIdFor = .ok intents) :
    List.Forall₂ (fun leg intent => intent.groupId = some plan.groupId ∧
      intent.legId = some leg.legId) plan.legs intents := by
  obtain ⟨-, materialized⟩ := ite_error_eq_ok.mp materialized
  obtain ⟨-, materialized⟩ := ite_error_eq_ok.mp materialized
  obtain ⟨-, materialized⟩ := ite_error_eq_ok.mp materialized
  refine (mapM_eq_ok.mp materialized).imp fun leg intent created => ?_
  obtain ⟨identity, -, created⟩ := bind_eq_ok.mp created
  obtain ⟨clientOrderId, -, created⟩ := bind_eq_ok.mp created
  obtain ⟨-, created⟩ := ite_error_eq_ok.mp created
  cases created
  exact ⟨rfl, rfl⟩

/-- Intents of one group whose leg ids are those of a plan get through the checks of a batch exactly
when none of the ids is blank. -/
theorem validateIntents_eq_ok_iff
    (routed : ∃ registerAndRoute, submission.orderRouter = some ⟨some registerAndRoute⟩)
    (inOrder : List.Forall₂ (fun leg intent => intent.groupId = some plan.groupId ∧
      intent.legId = some leg.legId) plan.legs intents) :
    validateIntents submission intents = .ok () ↔ ∀ leg ∈ plan.legs, leg.legId ≠ "" := by
  obtain ⟨registerAndRoute, router⟩ := routed
  have groups : ∀ intent ∈ intents, intent.groupId = some plan.groupId := fun intent member =>
    have ⟨_, _, group, _⟩ := Related.exists_left inOrder member
    group
  have legIds : intents.map (·.legId) = plan.legs.map fun leg => some leg.legId := by
    rw [← List.forall₂_eq_eq_eq, List.forall₂_map_left_iff, List.forall₂_map_right_iff]
    exact inOrder.flip.imp fun _ _ same => same.2
  have nonempty : intents ≠ [] := by
    rintro rfl
    exact plan.legs_ne (List.forall₂_nil_right_iff.mp inOrder)
  have group : (intents.map (·.groupId)).dedup = [some plan.groupId] := by
    have all : intents.map (·.groupId) = List.replicate intents.length (some plan.groupId) :=
      List.map_eq_replicate_iff.mpr groups
    rw [all, List.replicate_dedup (by simpa using nonempty)]
  have unique : (intents.map (·.legId)).dedup.length = intents.length := by
    have nodup : (intents.map (·.legId)).Nodup := by
      rw [legIds]
      have some_injective := plan.nodup_legIds.map (Option.some_injective String)
      rwa [List.map_map] at some_injective
    rw [nodup.dedup, List.length_map]
  have blank : (intents.any fun intent => decide (orEmpty intent.legId = "")) = true ↔
      ∃ leg ∈ plan.legs, leg.legId = "" := by
    have ids : (intents.map (·.legId)).any (fun legId => decide (orEmpty legId = "")) = true ↔
        ∃ leg ∈ plan.legs, leg.legId = "" := by
      rw [legIds, List.any_map, List.any_eq_true]
      refine exists_congr fun leg => and_congr_right fun _ => ?_
      exact decide_eq_true_iff
    rwa [List.any_map] at ids
  obtain ⟨first, later, rfl⟩ := List.exists_cons_of_ne_nil nonempty
  have head : orEmpty first.groupId ≠ "" := by
    rw [groups first List.mem_cons_self]
    exact plan.groupId_ne
  simp only [validateIntents, router, Option.bind_some, Option.isNone_some, Bool.false_eq_true,
    if_false, head, group, List.length_singleton, ne_eq, not_true_eq_false, unique, false_or, blank]
  by_cases some_blank : ∃ leg ∈ plan.legs, leg.legId = ""
  · rw [if_pos some_blank]
    grind
  · rw [if_neg some_blank]
    grind

/-- The leg gets a command with its group and its id, and a token. -/
def LegPrepared (submission : Submission T R) (plan : MultiLegExecutionPlan) (n : ℕ)
    (leg : ExecutionLeg) (intent : OrderIntent) : Prop :=
  ∃ command token, submission.toBrokerCommand n intent = .ok (some command) ∧
    command.groupId = some plan.groupId ∧ command.legId = some leg.legId ∧
    submission.approvalTokenFor n intent command = .ok (some token)

theorem prepareLeg_eq_ok_iff {n : ℕ} {leg : ExecutionLeg} {intent : OrderIntent}
    (group : intent.groupId = some plan.groupId) (legId : intent.legId = some leg.legId) :
    (∃ prepared, prepareLeg submission n intent = .ok prepared) ↔
      LegPrepared submission plan n leg intent := by
  unfold prepareLeg LegPrepared
  cases mapped : submission.toBrokerCommand n intent with
  | error e => simp [bind, Except.bind]
  | ok command =>
    cases command with
    | none => simp [bind, Except.bind]
    | some command =>
      simp only [bind, Except.bind, group, legId, Except.ok.injEq, Option.some.injEq]
      by_cases mismatch : command.groupId ≠ some plan.groupId ∨ command.legId ≠ some leg.legId
      · rw [if_pos mismatch]
        grind
      · rw [if_neg mismatch]
        obtain ⟨sameGroup, sameLeg⟩ : command.groupId = some plan.groupId ∧
          command.legId = some leg.legId := by simpa using mismatch
        cases answer : submission.approvalTokenFor n intent command with
        | error e => simp [answer]
        | ok token => cases token <;> simp [sameGroup, sameLeg, answer]

/-- A submission that returns has no responses to return, and has routed no leg. -/
theorem submitMultiLegIntents_of_returned {answer : List R}
    (returned : (submitMultiLegIntents submission intents).1 = .ok answer) :
    submitMultiLegIntents submission intents = (.ok [], []) := by
  unfold submitMultiLegIntents at returned ⊢
  cases checked : validateIntents submission intents with
  | error e =>
    rw [checked] at returned
    cases returned
  | ok _ =>
    rw [checked] at returned
    dsimp only at returned ⊢
    rcases submitLegs_cases submission 0 intents [] [] with ⟨ended, -⟩ | ⟨_, _, ended, -⟩
    · exact ended
    · rw [ended] at returned
      cases returned

/-- The submission of the intents of a plan returns exactly when every leg has an id, a command with
the ids of the plan and of the leg, and a token; and what it returns is empty, no leg having been
routed. -/
theorem submitMultiLegIntents_materialized
    (routed : ∃ registerAndRoute, submission.orderRouter = some ⟨some registerAndRoute⟩)
    (materialized :
      materializeMultiLegPlan plan resolveIdentity semantics clientOrderIdFor = .ok intents) :
    ((∃ answer, (submitMultiLegIntents submission intents).1 = .ok answer) ↔
      (∀ leg ∈ plan.legs, leg.legId ≠ "") ∧
      ∀ n leg intent, plan.legs[n]? = some leg → intents[n]? = some intent →
        LegPrepared submission plan n leg intent) ∧
    ∀ answer, (submitMultiLegIntents submission intents).1 = .ok answer →
      submitMultiLegIntents submission intents = (.ok [], []) := by
  refine ⟨?_, fun answer returned => submitMultiLegIntents_of_returned returned⟩
  have inOrder := inOrder_of_materialized materialized
  rw [← validateIntents_eq_ok_iff routed inOrder]
  have length := inOrder.length_eq
  have prepared_iff (n : ℕ) (leg : ExecutionLeg) (intent : OrderIntent)
      (planned : plan.legs[n]? = some leg) (created : intents[n]? = some intent) :
      (∃ prepared, prepareLeg submission n intent = .ok prepared) ↔
        LegPrepared submission plan n leg intent := by
    obtain ⟨lt, rfl⟩ := List.getElem?_eq_some_iff.mp planned
    obtain ⟨lt', rfl⟩ := List.getElem?_eq_some_iff.mp created
    obtain ⟨group, legId⟩ := inOrder.get lt lt'
    exact prepareLeg_eq_ok_iff group legId
  unfold submitMultiLegIntents
  cases checked : validateIntents submission intents with
  | error e => simp
  | ok _ =>
    simp only [true_and]
    rcases submitLegs_cases submission 0 intents [] [] with
      ⟨ended, fine⟩ | ⟨k, e, ended, ⟨failing, there, refused⟩, -⟩
    · rw [ended]
      refine iff_of_true ⟨[], rfl⟩ fun n leg intent planned created => ?_
      have accepted := fine n intent created
      rw [Nat.zero_add] at accepted
      exact (prepared_iff n leg intent planned created).mp accepted
    · rw [ended]
      refine iff_of_false nofun fun prepared => ?_
      rw [Nat.zero_add] at refused
      have lt : k < plan.legs.length := by
        rw [length]
        exact (List.getElem?_eq_some_iff.mp there).1
      have planned := List.getElem?_eq_getElem lt
      obtain ⟨leg, accepted⟩ :=
        (prepared_iff k _ failing planned there).mpr (prepared k _ failing planned there)
      cases refused.symm.trans accepted

/-- A strangle whose legs are known and get commands and tokens. -/
theorem submitMultiLegIntents_strangle :
    let submission : Submission String String :=
      { toBrokerCommand := fun _ intent => .ok (some
          { clientOrderId := intent.clientOrderId, instrumentId := intent.instrumentId,
            side := intent.side, quantity := intent.quantity, orderType := "LIMIT",
            groupId := intent.groupId, legId := intent.legId })
        approvalTokenFor := fun _ intent _ => .ok (some ("T:" ++ orEmpty intent.legId))
        orderRouter := some ⟨some fun command _ => .ok (orEmpty command.legId)⟩ }
    let known : IdentityResolver := fun leg =>
      .ok (some ⟨"KR4" ++ leg.legId, "KOSPI200", none, leg.optionType, leg.strike⟩)
    ∃ plan intents,
      buildPairPlan "G7" "track6" "DAILY_TAIL_INSURANCE_ENTRY" 335 365 1 1 = .ok plan ∧
      materializeMultiLegPlan plan known limitEntry none = .ok intents ∧
      ((∃ answer, (submitMultiLegIntents submission intents).1 = .ok answer) ↔
        (∀ leg ∈ plan.legs, leg.legId ≠ "") ∧
        ∀ n leg intent, plan.legs[n]? = some leg → intents[n]? = some intent →
          LegPrepared submission plan n leg intent) ∧
      ∀ answer, (submitMultiLegIntents submission intents).1 = .ok answer →
        submitMultiLegIntents submission intents = (.ok [], []) := by
  intro submission known
  exact ⟨_, _, rfl, rfl,
    @submitMultiLegIntents_materialized _ _ submission _ known limitEntry none _ ⟨_, rfl⟩ rfl⟩

end OptionProject.Oms
