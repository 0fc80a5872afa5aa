import Mathlib.Data.List.Nodup
import OptionProject.Contracts.Types

/-!
# Materialization of multi-leg plans

`core/oms/multi_leg_materializer.py` and the plan of `contracts/types.py`: every leg of a plan
becomes an intent. Without a function for the order ids, an id is the group id and the leg id around
a colon. Both are free texts, so a colon in one of them may stand for that of the id.

## Main definitions

* `MultiLegExecutionPlan` — a plan with the checks made when it is created.
* `materializeMultiLegPlan` — the intents of a plan.
* `Shifted` — pairs of ids that are written in one way.

## Main results

* `default_ids_distinct_iff` — the pairs of legs whose ids are different.
-/
namespace OptionProject.Oms
open Library Contracts

structure ExecutionLeg where
  legId : String
  side : String
  quantity : ℤ
  optionType : Option String := none
  strike : Option ℚ := none
  requestedPrice : Option ℚ := none
  deriving DecidableEq

structure MultiLegExecutionPlan where
  groupId : String
  strategyId : String
  legs : List ExecutionLeg
  purpose : Option String := none
  groupId_ne : groupId ≠ ""
  legs_ne : legs ≠ []
  nodup_legIds : (legs.map (·.legId)).Nodup
  quantity_pos : ∀ leg ∈ legs, 0 < leg.quantity

structure MultiLegExecutionSemantics where
  orderType : String
  orderPurpose : String
  assetType : String := "OPTION"

/-- What is known of the instrument of a leg. The legs of a plan are different, so each of them is
asked for once. -/
abbrev IdentityResolver := ExecutionLeg → Except PythonException (Option OptionInstrumentIdentity)

def materializationError (message : String) : PythonException :=
  ⟨"MultiLegMaterializationError", message⟩

/-! ## Order ids -/

def defaultClientOrderId (plan : MultiLegExecutionPlan) (leg : ExecutionLeg) : String :=
  plan.groupId ++ ":" ++ leg.legId

abbrev ClientOrderIdFor := MultiLegExecutionPlan → ExecutionLeg → Except PythonException String

/-! ## Materialization -/

/-- The identity of a leg, which must have an id and the type and strike that the leg has. -/
def authoritativeIdentity (resolveIdentity : IdentityResolver) (leg : ExecutionLeg) :
    Except PythonException OptionInstrumentIdentity := do
  match ← resolveIdentity leg with
  | none => .error (materializationError "AUTHORITATIVE_IDENTITY_REQUIRED")
  | some identity =>
    if identity.instrumentId = "" then
      .error (materializationError "AUTHORITATIVE_IDENTITY_REQUIRED")
    else if leg.optionType.isSome ∧ identity.optionType ≠ leg.optionType then
      .error (materializationError "OPTION_TYPE_IDENTITY_MISMATCH")
    else if leg.strike.isSome ∧ identity.strike ≠ leg.strike then
      .error (materializationError "STRIKE_IDENTITY_MISMATCH")
    else .ok identity

def legIntent (plan : MultiLegExecutionPlan) (leg : ExecutionLeg)
    (identity : OptionInstrumentIdentity) (semantics : MultiLegExecutionSemantics)
    (clientOrderId : String) : OrderIntent where
  clientOrderId := clientOrderId
  instrumentId := identity.instrumentId
  side := leg.side
  quantity := leg.quantity
  intentType := semantics.orderPurpose
  strategyId := some plan.strategyId
  instrumentIdentity := some identity
  assetType := some semantics.assetType
  requestedPrice := leg.requestedPrice
  orderType := some semantics.orderType
  orderPurpose := some semantics.orderPurpose
  trackId := some plan.strategyId
  groupId := some plan.groupId
  legId := some leg.legId

def materializeLeg (plan : MultiLegExecutionPlan) (resolveIdentity : IdentityResolver)
    (semantics : MultiLegExecutionSemantics) (clientOrderIdFor : ClientOrderIdFor)
    (leg : ExecutionLeg) : Except PythonException OrderIntent := do
  let identity ← authoritativeIdentity resolveIdentity leg
  let clientOrderId ← clientOrderIdFor plan leg
  if clientOrderId = "" then .error (materializationError "CLIENT_ORDER_ID_REQUIRED")
  else .ok (legIntent plan leg identity semantics clientOrderId)

def materializeMultiLegPlan (plan : MultiLegExecutionPlan) (resolveIdentity : IdentityResolver)
    (semantics : MultiLegExecutionSemantics) (clientOrderIdFor : Option ClientOrderIdFor) :
    Except PythonException (List OrderIntent) :=
  if semantics.orderType = "" then .error (materializationError "ORDER_TYPE_REQUIRED")
  else if semantics.orderPurpose = "" then .error (materializationError "ORDER_PURPOSE_REQUIRED")
  else if semantics.assetType ≠ "OPTION" then
    .error (materializationError "OPTION_ASSET_TYPE_REQUIRED")
  else
    let makeClientId := clientOrderIdFor.getD fun plan leg => .ok (defaultClientOrderId plan leg)
    plan.legs.mapM (materializeLeg plan resolveIdentity semantics makeClientId)

/-! ## Distinct ids -/

/-- A part of one id has moved over the colon into the other. -/
def Shifted (group leg group' leg' : String) : Prop :=
  ∃ part, group' = group ++ ":" ++ part ∧ leg = part ++ ":" ++ leg' ∨
    group = group' ++ ":" ++ part ∧ leg' = part ++ ":" ++ leg

variable {plan plan' : MultiLegExecutionPlan} {leg leg' : ExecutionLeg}

theorem defaultClientOrderId_eq_iff :
    defaultClientOrderId plan leg = defaultClientOrderId plan' leg' ↔
      (plan.groupId, leg.legId) = (plan'.groupId, leg'.legId) ∨
        Shifted plan.groupId leg.legId plan'.groupId leg'.legId := by
  rw [Prod.mk.injEq]
  exact separator_eq_iff ':' rfl

/-- The ids of one group differ in their leg ids. -/
theorem defaultClientOrderId_injective (plan : MultiLegExecutionPlan)
    (same : defaultClientOrderId plan leg = defaultClientOrderId plan leg') :
    leg.legId = leg'.legId := by
  have chars := congrArg String.toList same
  simp only [defaultClientOrderId, String.toList_append] at chars
  exact String.toList_inj.mp (List.append_cancel_left chars)

/-- The intents of a plan, leg by leg, under the default ids. -/
structure Materialized (plan : MultiLegExecutionPlan) (intents : List OrderIntent) : Prop where
  inOrder : List.Forall₂ (fun leg intent => intent.legId = some leg.legId ∧
    intent.groupId = some plan.groupId ∧ intent.clientOrderId = defaultClientOrderId plan leg)
    plan.legs intents
  distinct : (intents.map (·.clientOrderId)).Nodup

theorem materialized {resolveIdentity : IdentityResolver} {semantics : MultiLegExecutionSemantics}
    {intents : List OrderIntent}
    (returned : materializeMultiLegPlan plan resolveIdentity semantics none = .ok intents) :
    Materialized plan intents := by
  obtain ⟨-, returned⟩ := ite_error_eq_ok.mp returned
  obtain ⟨-, returned⟩ := ite_error_eq_ok.mp returned
  obtain ⟨-, returned⟩ := ite_error_eq_ok.mp returned
  have inOrder : List.Forall₂ (fun leg intent => intent.legId = some leg.legId ∧
      intent.groupId = some plan.groupId ∧ intent.clientOrderId = defaultClientOrderId plan leg)
      plan.legs intents := by
    refine (mapM_eq_ok.mp returned).imp fun leg intent created => ?_
    obtain ⟨identity, -, created⟩ := bind_eq_ok.mp created
    obtain ⟨clientOrderId, made, created⟩ := bind_eq_ok.mp created
    obtain ⟨-, created⟩ := ite_error_eq_ok.mp created
    cases made
    cases created
    exact ⟨rfl, rfl, rfl⟩
  refine ⟨inOrder, ?_⟩
  have ids : plan.legs.map (defaultClientOrderId plan) = intents.map (·.clientOrderId) := by
    rw [← List.forall₂_eq_eq_eq, List.forall₂_map_left_iff, List.forall₂_map_right_iff]
    exact inOrder.imp fun _ _ created => created.2.2.symm
  rw [← ids]
  refine List.pairwise_map.mpr ((List.pairwise_map.mp plan.nodup_legIds).imp fun other same => ?_)
  exact other (defaultClientOrderId_injective plan same)

/-- The intents of a plan are those of its legs, in their order and under different ids. Legs of any
two plans with other pairs of group id and leg id have other ids exactly when neither pair comes
from the other by moving a part over the colon. -/
theorem default_ids_distinct_iff (plan plan' : MultiLegExecutionPlan)
    (resolveIdentity : IdentityResolver) (semantics : MultiLegExecutionSemantics)
    (intents : List OrderIntent)
    (returned : materializeMultiLegPlan plan resolveIdentity semantics none = .ok intents) :
    Materialized plan intents ∧ ∀ leg leg' : ExecutionLeg,
      (plan.groupId, leg.legId) ≠ (plan'.groupId, leg'.legId) →
        (defaultClientOrderId plan leg ≠ defaultClientOrderId plan' leg' ↔
          ¬Shifted plan.groupId leg.legId plan'.groupId leg'.legId) := by
  refine ⟨materialized returned, fun leg leg' other => not_congr ?_⟩
  rw [defaultClientOrderId_eq_iff, or_iff_right other]

/-- A plan of one leg. -/
def single (groupId legId : String) (groupId_ne : groupId ≠ "") : MultiLegExecutionPlan where
  groupId := groupId
  strategyId := "track6"
  legs := [{ legId := legId, side := "BUY", quantity := 1 }]
  groupId_ne := groupId_ne
  legs_ne := List.cons_ne_nil _ _
  nodup_legIds := List.nodup_singleton _
  quantity_pos _ member := List.mem_singleton.mp member ▸ Int.one_pos

def listed (_leg : ExecutionLeg) : Except PythonException (Option OptionInstrumentIdentity) :=
  .ok (some ⟨"KR4", "KOSPI200", none, none, none⟩)

def limitEntry : MultiLegExecutionSemantics where
  orderType := "LIMIT"
  orderPurpose := "ENTRY"

def putAndCall : MultiLegExecutionPlan where
  groupId := "G1"
  strategyId := "track6"
  legs := [{ legId := "put", side := "BUY", quantity := 1 },
    { legId := "call", side := "BUY", quantity := 2 }]
  groupId_ne := by decide
  legs_ne := List.cons_ne_nil _ _
  nodup_legIds := by decide
  quantity_pos := by decide

theorem default_ids_distinct_pair :
    let plan' := single "G2" "put" (by decide)
    ∃ intents, intents.map (·.clientOrderId) = ["G1:put", "G1:call"] ∧
      Materialized putAndCall intents ∧ ∀ leg leg' : ExecutionLeg,
        (putAndCall.groupId, leg.legId) ≠ (plan'.groupId, leg'.legId) →
          (defaultClientOrderId putAndCall leg ≠ defaultClientOrderId plan' leg' ↔
            ¬Shifted putAndCall.groupId leg.legId plan'.groupId leg'.legId) := by
  intro plan'
  exact ⟨_, rfl, default_ids_distinct_iff putAndCall plan' listed limitEntry _ rfl⟩

/-- The leg `C` of the group `A:B`, and the leg `B:C` of the group `A`. -/
theorem default_ids_collide :
    let ids (plan : MultiLegExecutionPlan) :=
      (materializeMultiLegPlan plan listed limitEntry none).map fun intents =>
        intents.map (·.clientOrderId)
    ids (single "A:B" "C" (by decide)) = .ok ["A:B:C"] ∧
      ids (single "A" "B:C" (by decide)) = .ok ["A:B:C"] ∧ ("A:B", "C") ≠ ("A", "B:C") := by
  decide +kernel

end OptionProject.Oms
