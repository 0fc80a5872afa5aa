import OptionProject.Decision.Commands
import OptionProject.Position.RiskSource
import OptionProject.Risk.Approvals

/-!
# From the risk gate to the router

The two implementations of the seam between the risk gate and the order router:
`route_after_risk` of `core/runtime/reference_execution_pipeline.py`, and
`route_from_runtime_authoritative_sources` with the account and position adapters of
`core/risk/risk_input.py` and `core/position` and the projection of
`core/oms/risk_approved_broker_command_adapter.py`.

## Main definitions

* `routeAfterRisk`, `routeFromRuntimeAuthoritativeSources` — the two implementations.
* `Truthful` — the result of a call tells what the call did.

## Main results

* `tellsTruth_iff` — the first always tells the truth, the second only when the gate denies.
-/
namespace OptionProject.Risk
open Library Contracts OptionProject.Decision OptionProject.Position

variable {F : Type} [PythonFloat F]

instance : RiskOrderCommand (CanonicalRiskCommandAdapter F) where
  clientOrderId command := command.clientOrderId
  trackId command := command.trackId
  qty command := command.qty
  side command := sideText command.side
  tagId command := command.tagId
  getInstrumentKey command := command.getInstrumentKey
  replaceQty command n := { command with qty := n }
  clientOrderId_replaceQty _ _ := rfl
  trackId_replaceQty _ _ := rfl
  qty_replaceQty _ _ := rfl
  side_replaceQty _ _ := rfl
  tagId_replaceQty _ _ := rfl
  getInstrumentKey_replaceQty _ _ := rfl
  replaceQty_replaceQty _ _ _ := rfl
  replaceQty_qty _ := rfl

/-! ## The account -/

structure AccountSnapshot where
  balances : Dict String ℚ

def accountFields : List String := ["cash", "realized_pnl", "margin_used", "available_cash"]

def accountSnapshotToRiskInput (snapshot : AccountSnapshot) : Except Raised RiskAccountInput :=
  let missing := accountFields.filter fun key => !snapshot.balances.contains key
  let balance (key : String) : ℚ := (snapshot.balances.get? key).getD 0
  if missing ≠ [] then
    .error ⟨.valueError, "RISK_ACCOUNT_FIELDS_REQUIRED: " ++ ",".intercalate missing⟩
  else .ok ⟨balance "cash", balance "realized_pnl", balance "margin_used",
    balance "available_cash"⟩

/-! ## The routed command -/

/-- What the router is called with. -/
inductive RoutedCommand (F : Type)
  | risk (command : CanonicalRiskCommandAdapter F)
  | broker (command : BrokerOrderCommand)

omit [PythonFloat F] in
def RoutedCommand.quantity : RoutedCommand F → ℤ
  | .risk command => command.qty
  | .broker command => command.quantity

omit [PythonFloat F] in
def projectRiskEffectiveQuantity (original : Option BrokerOrderCommand)
    (effective : Option (CanonicalRiskCommandAdapter F)) : Except Raised BrokerOrderCommand :=
  match original, effective with
  | none, _ => .error ⟨.riskApprovedBrokerCommandError, "BROKER_ORDER_COMMAND_REQUIRED"⟩
  | some _, none => .error ⟨.riskApprovedBrokerCommandError, "RISK_EFFECTIVE_COMMAND_REQUIRED"⟩
  | some original, some effective =>
    if original.clientOrderId ≠ effective.clientOrderId then
      .error ⟨.riskApprovedBrokerCommandError, "CLIENT_ORDER_ID_MISMATCH"⟩
    else if original.quantity ≤ 0 ∨ effective.qty ≤ 0 then
      .error ⟨.riskApprovedBrokerCommandError, "QUANTITY_REQUIRED"⟩
    else if original.quantity < effective.qty then
      .error ⟨.riskApprovedBrokerCommandError, "RISK_QUANTITY_INCREASE_FORBIDDEN"⟩
    else .ok { original with quantity := effective.qty }

omit [PythonFloat F] in
def routedCommand (brokerCommand : Option BrokerOrderCommand)
    (effective : CanonicalRiskCommandAdapter F) : Except Raised (RoutedCommand F) :=
  match brokerCommand with
  | none => .ok (.risk effective)
  | some original => do
    let projected ← projectRiskEffectiveQuantity (some original) (some effective)
    .ok (.broker projected)

/-! ## The two implementations -/

structure ReferenceExecutionResult (F : Type) where
  approved : Bool
  decision : Risk.Decision
  routed : Bool
  effectiveCommand : Option (CanonicalRiskCommandAdapter F)
  rejectionReason : Option String := none

/-- The gate, and the calls the router has received. -/
structure Seam (F : Type) where
  gate : RiskGate (CanonicalRiskCommandAdapter F)
  routed : List (RoutedCommand F) := []

/-- What `register_and_route` does with a command: it may raise. -/
abbrev OrderRouter (F : Type) := RoutedCommand F → Except Raised Unit

omit [PythonFloat F] in
def effectiveCommand (result : RiskEvaluationResult (CanonicalRiskCommandAdapter F))
    (adapted : CanonicalRiskCommandAdapter F) : CanonicalRiskCommandAdapter F :=
  match result.decision, result.reducedCommand with
  | .reduce, some reduced => reduced
  | _, _ => adapted

omit [PythonFloat F] in
/-- The answer to a denial. -/
def refusal (rejectionReason : Option String)
    (result : Option (RiskEvaluationResult (CanonicalRiskCommandAdapter F))) :
    ReferenceExecutionResult F where
  approved := false
  decision := (result.map (·.decision)).getD .deny
  routed := false
  effectiveCommand := none
  rejectionReason :=
    if orEmpty rejectionReason = "" then result.bind (·.rejectionReason) else rejectionReason

def routeAfterRisk (orderRouter : OrderRouter F) (seam : Seam F) (seed : RiskEngine.TokenSeed)
    (command : CanonicalOrderCommand F) (account : RiskAccountInput)
    (positions : Option RiskPositionInput) (sensorSnapshot : Option RiskSensorSnapshot)
    (allowReduction : Bool) : Outcome (Seam F) (ReferenceExecutionResult F) :=
  let adapted := CanonicalRiskCommandAdapter.fromCommand command
  match seam.gate.admitOrder seed adapted account positions sensorSnapshot allowReduction with
  | (.error e, gate) => (.error e, { seam with gate })
  | (.ok (approved, _token, rejectionReason), gate) =>
    match approved, gate.lastEvaluationResult with
    | true, some result =>
      let effective := effectiveCommand result adapted
      let after : Seam F := { gate, routed := seam.routed ++ [.risk effective] }
      match orderRouter (.risk effective) with
      | .error e => (.error e, after)
      | .ok () => (.ok ⟨true, result.decision, true, some effective, none⟩, after)
    | _, result => (.ok (refusal rejectionReason result), { seam with gate })

structure RiskRouterContext (F : Type) where
  accountSnapshot : AccountSnapshot
  positionSource : PositionAggregateSource
  orderRouter : OrderRouter F
  brokerCommand : Option BrokerOrderCommand := none

/-- The call of the router stands in a comment in the source: the routed command is projected
and dropped. -/
def routeFromRuntimeAuthoritativeSources (seam : Seam F) (seed : RiskEngine.TokenSeed)
    (command : CanonicalOrderCommand F) (context : RiskRouterContext F)
    (sensorSnapshot : Option RiskSensorSnapshot) (allowReduction : Bool) :
    Outcome (Seam F) (ReferenceExecutionResult F) :=
  let adapted := CanonicalRiskCommandAdapter.fromCommand command
  match accountSnapshotToRiskInput context.accountSnapshot with
  | .error e => (.error e, seam)
  | .ok account =>
    match positionAggregateToRiskInput context.positionSource with
    | .error e => (.error e, seam)
    | .ok positions =>
      match seam.gate.admitOrder seed adapted account (some positions) sensorSnapshot
          allowReduction with
      | (.error e, gate) => (.error e, { seam with gate })
      | (.ok (approved, token, rejectionReason), gate) =>
        match approved, gate.lastEvaluationResult with
        | true, some result =>
          let effective := effectiveCommand result adapted
          match token with
          | none => (.error ⟨.runtimeError, "RISK_APPROVAL_TOKEN_REQUIRED"⟩, { seam with gate })
          | some _ =>
            match routedCommand context.brokerCommand effective with
            | .error e => (.error e, { seam with gate })
            | .ok _ =>
              (.ok ⟨true, result.decision, true, some effective, none⟩, { seam with gate })
        | _, result => (.ok (refusal rejectionReason result), { seam with gate })

/-! ## What is routed -/

variable {seam : Seam F} {gate : RiskGate (CanonicalRiskCommandAdapter F)}
  {seed : RiskEngine.TokenSeed} {adapted : CanonicalRiskCommandAdapter F}
  {account : RiskAccountInput} {positions : Option RiskPositionInput}
  {sensorSnapshot : Option RiskSensorSnapshot} {allowReduction : Bool}
  {approval : Approval (CanonicalRiskCommandAdapter F)}

open RiskEngine in
/-- The effective command of an approval is the approved order, reduced or not. -/
theorem effectiveCommand_approved
    (passed : gate.engine.judge gate.marginEngine adapted account positions sensorSnapshot
      allowReduction = .ok approval) :
    effectiveCommand (approvedResult seed adapted approval) adapted = approval.effective := by
  obtain ⟨limited, judged⟩ := judge_spec passed
  rcases judged.isCut with same | ⟨n, -, smaller, reduced⟩
  · simp [effectiveCommand, approvedResult, same]
  · simp only [effectiveCommand, approvedResult, reduced, RiskOrderCommand.qty_replaceQty]
    rw [if_pos smaller, if_pos smaller]

/-! ## Telling the truth -/

/-- The gate approved the last order it evaluated. -/
def Approved (gate : RiskGate (CanonicalRiskCommandAdapter F)) : Prop :=
  ∃ evaluation, gate.lastEvaluationResult = some evaluation ∧ evaluation.isApproved = true

/-- The result of a call tells what the call did: one call of the router with the approved
quantity when it says `routed`, none otherwise. -/
structure Truthful (command : CanonicalOrderCommand F) (before after : Seam F)
    (result : ReferenceExecutionResult F) : Prop where
  routed_iff : result.routed = true ↔ Approved after.gate
  effect : ∃ calls, after.routed = before.routed ++ calls ∧
    calls.length = (if result.routed then 1 else 0) ∧
    ∀ call ∈ calls, ∃ evaluation, after.gate.lastEvaluationResult = some evaluation ∧
      call.quantity = evaluation.approvedQty ∧ evaluation.approvedQty ≤ command.qty

def TellsTruth (command : CanonicalOrderCommand F) (before : Seam F)
    (outcome : Outcome (Seam F) (ReferenceExecutionResult F)) : Prop :=
  ∀ result, outcome.1 = .ok result → Truthful command before outcome.2 result

omit [PythonFloat F] in
theorem tellsTruth_raised {command : CanonicalOrderCommand F} {before after : Seam F} {e : Raised} :
    TellsTruth command before (.error e, after) := by
  intro result returned
  cases returned

/-- A denial that calls nothing tells the truth. -/
theorem tellsTruth_refusal {command : CanonicalOrderCommand F} {reason : Option String}
    {denial : Denial} :
    let evaluation := some (RiskEngine.deniedResult adapted denial)
    TellsTruth command seam (.ok (refusal reason evaluation),
      { seam with gate := { seam.gate with lastEvaluationResult := evaluation } }) := by
  intro evaluation result returned
  cases returned
  refine ⟨?_, [], by simp, by simp [refusal], by simp⟩
  simp [refusal, Approved, evaluation, RiskEngine.deniedResult]

variable (orderRouter : OrderRouter F) (seam : Seam F) (seed : RiskEngine.TokenSeed)
  (command : CanonicalOrderCommand F) (account : RiskAccountInput)
  (positions : Option RiskPositionInput) (context : RiskRouterContext F)
  (sensorSnapshot : Option RiskSensorSnapshot) (allowReduction : Bool)

/-- The seam that takes its inputs as they are tells the truth. -/
theorem tellsTruth_routeAfterRisk :
    TellsTruth command seam (routeAfterRisk orderRouter seam seed command account positions
      sensorSnapshot allowReduction) := by
  unfold routeAfterRisk
  dsimp only
  cases judged : seam.gate.engine.judge seam.gate.marginEngine (.fromCommand command) account
    positions sensorSnapshot allowReduction with
  | error stop =>
    cases stop with
    | raised e =>
      rw [RiskEngine.admitOrder_of_raised judged]
      exact tellsTruth_raised
    | denied denial =>
      rw [RiskEngine.admitOrder_of_denied judged]
      exact tellsTruth_refusal
  | ok approval =>
    rw [RiskEngine.admitOrder_of_approved judged]
    obtain ⟨limited, spec⟩ := RiskEngine.judge_spec judged
    dsimp only
    rw [effectiveCommand_approved judged]
    cases orderRouter (.risk approval.effective) with
    | error e => exact tellsTruth_raised
    | ok _ =>
      intro result returned
      cases returned
      refine ⟨by simp [Approved, RiskEngine.approvedResult], [_], rfl, rfl, ?_⟩
      intro call member
      obtain rfl := List.mem_singleton.mp member
      exact ⟨_, rfl, rfl, spec.qty_bounds.2⟩

omit [PythonFloat F] in
/-- When the broker command takes the approved quantity. -/
theorem routedCommand_returns_iff {brokerCommand : Option BrokerOrderCommand}
    {effective : CanonicalRiskCommandAdapter F} (positive : 0 < effective.qty) :
    (∃ routed, routedCommand brokerCommand effective = .ok routed) ↔
      ∀ original ∈ brokerCommand, original.clientOrderId = effective.clientOrderId ∧
        effective.qty ≤ original.quantity := by
  cases brokerCommand with
  | none => simp [routedCommand]
  | some original =>
    simp only [routedCommand, bind_eq_ok, projectRiskEffectiveQuantity, ite_error_eq_ok,
      Option.mem_some_iff, forall_eq']
    constructor
    · rintro ⟨_, _, ⟨identity, -, fits, -⟩, -⟩
      exact ⟨not_not.mp identity, not_lt.mp fits⟩
    · rintro ⟨identity, fits⟩
      exact ⟨_, _, ⟨not_not.mpr identity, by omega, not_lt.mpr fits, rfl⟩, rfl⟩

/-- The inputs of the context are complete, the gate lets the order through, and the broker
command, if there is one, belongs to the order and is no smaller than what is approved. -/
def Passes (seam : Seam F) (command : CanonicalOrderCommand F) (context : RiskRouterContext F)
    (sensorSnapshot : Option RiskSensorSnapshot) (allowReduction : Bool) : Prop :=
  ∃ account positions approval,
    accountSnapshotToRiskInput context.accountSnapshot = .ok account ∧
    positionAggregateToRiskInput context.positionSource = .ok positions ∧
    seam.gate.engine.judge seam.gate.marginEngine
      (CanonicalRiskCommandAdapter.fromCommand command) account (some positions) sensorSnapshot
      allowReduction = .ok approval ∧
    ∀ original ∈ context.brokerCommand, original.clientOrderId = command.clientOrderId ∧
      approval.effective.qty ≤ original.quantity

/-- The seam that assembles its inputs tells the truth only where it routes nothing. -/
theorem tellsTruth_routeFromRuntime_iff :
    TellsTruth command seam (routeFromRuntimeAuthoritativeSources seam seed command context
      sensorSnapshot allowReduction) ↔
      ¬Passes seam command context sensorSnapshot allowReduction := by
  unfold routeFromRuntimeAuthoritativeSources Passes
  dsimp only
  cases accounts : accountSnapshotToRiskInput context.accountSnapshot with
  | error e => simp [tellsTruth_raised]
  | ok account =>
    cases held : positionAggregateToRiskInput context.positionSource with
    | error e => simp [tellsTruth_raised]
    | ok positions =>
      dsimp only
      cases judged : seam.gate.engine.judge seam.gate.marginEngine (.fromCommand command) account
        (some positions) sensorSnapshot allowReduction with
      | error stop =>
        cases stop with
        | raised e =>
          rw [RiskEngine.admitOrder_of_raised judged]
          simp [tellsTruth_raised, judged]
        | denied denial =>
          rw [RiskEngine.admitOrder_of_denied judged]
          simp [judged, tellsTruth_refusal]
      | ok approval =>
        rw [RiskEngine.admitOrder_of_approved judged]
        obtain ⟨limited, spec⟩ := RiskEngine.judge_spec judged
        have fits := @routedCommand_returns_iff _ context.brokerCommand _ spec.qty_bounds.1
        have identity : approval.effective.clientOrderId = command.clientOrderId :=
          spec.isCut.clientOrderId
        rw [identity] at fits
        dsimp only
        rw [effectiveCommand_approved judged]
        cases routed : routedCommand context.brokerCommand approval.effective with
        | error e =>
          refine iff_of_true tellsTruth_raised ?_
          rintro ⟨_, _, _, ⟨⟩, ⟨⟩, passed, broker⟩
          cases judged.symm.trans passed
          obtain ⟨_, returned⟩ := fits.mpr broker
          cases routed.symm.trans returned
        | ok _ =>
          refine iff_of_false ?_ (not_not.mpr
            ⟨account, positions, approval, rfl, rfl, judged, fits.mp ⟨_, routed⟩⟩)
          intro truthful
          -- the result says `routed`, and nothing was called
          obtain ⟨calls, same, one, -⟩ := (truthful _ rfl).effect
          have silent : calls = [] := by simpa using same
          simp [silent] at one

/-- The first implementation tells the truth on every input, the second on exactly those on
which the gate lets nothing through or the call raises. -/
theorem tellsTruth_iff :
    TellsTruth command seam (routeAfterRisk orderRouter seam seed command account positions
        sensorSnapshot allowReduction) ∧
      (TellsTruth command seam (routeFromRuntimeAuthoritativeSources seam seed command context
        sensorSnapshot allowReduction) ↔
        ¬Passes seam command context sensorSnapshot allowReduction) :=
  ⟨tellsTruth_routeAfterRisk orderRouter seam seed command account positions sensorSnapshot
      allowReduction,
    tellsTruth_routeFromRuntime_iff seam seed command context sensorSnapshot allowReduction⟩

/-- An order of the pipeline's tests that the gate lets through as it is. -/
def futuresOrder : CanonicalOrderCommand WholeFloat where
  clientOrderId := "c1"
  trackId := "Track4"
  assetType := .futures
  side := .buy
  qty := 4
  price := ⟨100⟩
  optionType := none
  strike := ⟨0⟩
  symbol := "KOSPI200F"
  tagId := "T"

def openSeam : Seam WholeFloat where
  gate :=
    { engine := { config := .standard }
      marginEngine := fun command => .ok (100 * command.qty) }

def fundedContext : RiskRouterContext WholeFloat where
  accountSnapshot := ⟨.ofList [("cash", 50000000), ("realized_pnl", 0), ("margin_used", 1000),
    ("available_cash", 49999000)]⟩
  positionSource := ⟨.ok .empty⟩
  orderRouter := fun _ => .ok ()

/-- The order is reported as routed, and the router was not called. -/
theorem routed_without_call :
    let outcome := routeFromRuntimeAuthoritativeSources openSeam ⟨"uuid", 0⟩ futuresOrder
      fundedContext none false
    outcome.1.toOption.map (fun result => (result.approved, result.routed)) = some (true, true) ∧
      outcome.2.routed.length = 0 := by
  decide +kernel

end OptionProject.Risk
