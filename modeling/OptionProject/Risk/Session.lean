import OptionProject.Decision.Provenance
import OptionProject.Risk.Routing

/-!
# A trading session

The stages from the results of the strategies to the router, one after another as the repository's
tests of the reference pipeline put them together: `runtime_strategy_result_collection_adapter.py`
numbers the signals of a tick, the arbiter decides between them, the approved ones become commands,
and `route_after_risk` takes each command through one gate to the router. Decisions and commands are
made by the adapters that `core/strategy/orchestrator.py` has at its end. Between the ticks the
engine of the gate is switched and told of losses.

## Main definitions

* `collect` — the evaluations of one strategy in a tick.
* `SessionTick.process` — one tick, up to the first stage that raises.
* `Session.after` — the gate and the router after a session.

## Main results

* `Session.orders_accounted` — where every routed order comes from, and what it was checked against.
* `answered_of_process` — what a tick that returns says about its approved signals.
-/
namespace OptionProject.Risk
open Library Contracts OptionProject.Decision RuntimeStrategyToDecision RuntimeDecisionCommand
open CanonicalRiskCommandAdapter (fromCommand)

variable {F : Type} [PythonFloat F]

/-! ## The evaluations of a tick -/

/-- The signals of a result are numbered from one on. (`collect` has lost its `self` parameter in
the source; this is what it does when it is called on the class.) -/
def collect (tickSequence : ℤ) (context : EvaluationContext) (signals : Option (List Signal)) :
    Except Raised (List RuntimeStrategyEvaluation) :=
  if tickSequence_pos : 0 < tickSequence then
    match signals with
    | none => .error ⟨.typeError, "RUNTIME_STRATEGY_SIGNAL_COLLECTION_REQUIRED"⟩
    | some signals => .ok (signals.mapIdx fun n signal =>
      { context
        result := signal
        runtimeContext :=
          { tickSequence
            localSequence := n + 1
            tickSequence_pos
            localSequence_pos := by omega } })
  else .error ⟨.valueError, "RUNTIME_SOURCE_SEQUENCE_REQUIRED"⟩

theorem tickSequence_of_collect {tickSequence : ℤ} {context : EvaluationContext}
    {signals : Option (List Signal)} {evaluations : List RuntimeStrategyEvaluation}
    (collected : collect tickSequence context signals = .ok evaluations) :
    ∀ evaluation ∈ evaluations, evaluation.runtimeContext.tickSequence = tickSequence := by
  unfold collect at collected
  split at collected
  · cases signals with
    | none => cases collected
    | some signals =>
      cases collected
      intro evaluation member
      obtain ⟨n, -, rfl⟩ := List.mem_mapIdx.mp member
      rfl
  · cases collected

/-- What a tick brings: the results of the strategies, the inputs of the decision and those of the
gate, and what the router does with a command. -/
structure SessionTick (F : Type) where
  tickSequence : ℤ
  results : List (EvaluationContext × Option (List Signal))
  inputs : TickInputs F
  account : RiskAccountInput
  positions : Option RiskPositionInput := none
  sensorSnapshot : Option RiskSensorSnapshot := none
  allowReduction : Bool := false
  seed : ℕ → RiskEngine.TokenSeed
  orderRouter : OrderRouter F

namespace SessionTick

omit [PythonFloat F] in
def evaluations (tick : SessionTick F) : Except Raised (List RuntimeStrategyEvaluation) := do
  let collected ← tick.results.mapM fun result => collect tick.tickSequence result.1 result.2
  .ok collected.flatten

omit [PythonFloat F] in
theorem tickSequence_of_evaluations {tick : SessionTick F}
    {evaluations : List RuntimeStrategyEvaluation}
    (collected : tick.evaluations = .ok evaluations) :
    ∀ evaluation ∈ evaluations, evaluation.runtimeContext.tickSequence = tick.tickSequence := by
  obtain ⟨batches, each, flat⟩ := bind_eq_ok.mp collected
  cases flat
  intro evaluation member
  obtain ⟨batch, inside, member⟩ := List.mem_flatten.mp member
  obtain ⟨result, -, batched⟩ := Related.exists_left (mapM_eq_ok.mp each) inside
  exact tickSequence_of_collect batched evaluation member

/-- The loop over the commands. -/
def routeEach (tick : SessionTick F) (seam : Seam F)
    (results : List (ReferenceExecutionResult F)) :
    List (CanonicalOrderCommand F) → Outcome (Seam F) (List (ReferenceExecutionResult F))
  | [] => (.ok results, seam)
  | command :: later =>
    match routeAfterRisk tick.orderRouter seam (tick.seed results.length) command tick.account
        tick.positions tick.sensorSnapshot tick.allowReduction with
    | (.error e, seam) => (.error e, seam)
    | (.ok result, seam) => tick.routeEach seam (results ++ [result]) later

def commands (tick : SessionTick F) : Except Raised (List (CanonicalOrderCommand F)) := do
  let evaluations ← tick.evaluations
  let result ← arbitrate tick.inputs evaluations
  buildCommands evaluations result.arbitration.approvedSignals

def process (tick : SessionTick F) (seam : Seam F) :
    Outcome (Seam F) (List (ReferenceExecutionResult F)) :=
  match tick.commands with
  | .error e => (.error e, seam)
  | .ok commands => tick.routeEach seam [] commands

end SessionTick

inductive SessionMove (F : Type)
  | tick (tick : SessionTick F)
  | triggerKillSwitch (reason : String)
  | resetKillSwitch
  | recordRealizedLoss (amount : ℚ)

namespace Session

def perform (seam : Seam F) : SessionMove F → Seam F
  | .tick tick => (tick.process seam).2
  | .triggerKillSwitch _ =>
    { seam with gate := { seam.gate with engine := seam.gate.engine.triggerKillSwitch } }
  | .resetKillSwitch =>
    { seam with gate := { seam.gate with engine := seam.gate.engine.resetKillSwitch } }
  | .recordRealizedLoss amount =>
    { seam with gate := { seam.gate with engine := seam.gate.engine.recordRealizedLoss amount } }

/-- A session that starts with a new engine. -/
def after (config : RiskConfig) (marginEngine : MarginCalculator (CanonicalRiskCommandAdapter F))
    (moves : List (SessionMove F)) : Seam F :=
  moves.foldl perform { gate := { engine := { config }, marginEngine } }

omit [PythonFloat F] in
/-- What a move does to the engine, as a call of it. -/
def engineCall? : SessionMove F → Option (RiskEngine.EngineCall (CanonicalRiskCommandAdapter F))
  | .tick _ => none
  | .triggerKillSwitch reason => some (.triggerKillSwitch reason)
  | .resetKillSwitch => some .resetKillSwitch
  | .recordRealizedLoss amount => some (.recordRealizedLoss amount)

end Session

/-! ## One order -/

/-- An order that the router was called with, and the evaluation and the signal behind it. -/
structure RoutedOrder (F : Type) where
  evaluation : RuntimeStrategyEvaluation
  signal : CanonicalStrategySignal F
  effective : CanonicalRiskCommandAdapter F

def RoutedOrder.command (order : RoutedOrder F) : CanonicalRiskCommandAdapter F :=
  fromCommand (ownCommand order.evaluation order.signal)

open RiskEngine (Judged)

variable {tick : SessionTick F} {seam : Seam F} {command : CanonicalOrderCommand F}
  {evaluation : RuntimeStrategyEvaluation} {signal : CanonicalStrategySignal F}

/-- The gate has approved the order of a tick. -/
def RoutedOrder.Passed (tick : SessionTick F) (seam : Seam F) (order : RoutedOrder F) : Prop :=
  ∃ limited approval, Judged seam.gate.engine seam.gate.marginEngine order.command tick.account
    tick.positions tick.sensorSnapshot tick.allowReduction limited approval ∧
    approval.effective = order.effective

omit [PythonFloat F] in
/-- What no tick changes. -/
def SameGate (before after : Seam F) : Prop :=
  after.gate.engine = before.gate.engine ∧ after.gate.marginEngine = before.gate.marginEngine

variable {evaluations : List RuntimeStrategyEvaluation} {result : RuntimeDecisionResult F}
  {commands : List (CanonicalOrderCommand F)}

/-- The signal is that of an evaluation of the tick, and has its command. -/
def Owned (tick : SessionTick F) (evaluations : List RuntimeStrategyEvaluation)
    (signal : CanonicalStrategySignal F) (command : CanonicalOrderCommand F) : Prop :=
  ∃ evaluation ∈ evaluations, IsCanonical tick.inputs evaluation signal ∧
    command = ownCommand evaluation signal

/-- The evaluation whose signal is approved gives the command its order id. -/
theorem owned_of_built (arbitrated : arbitrate tick.inputs evaluations = .ok result)
    (built : buildCommands evaluations result.arbitration.approvedSignals = .ok commands) :
    List.Forall₂ (Owned tick evaluations) result.arbitration.approvedSignals commands := by
  obtain ⟨each, nodup, -⟩ := arbitrate_spec arbitrated
  have tracked : ∀ evaluation ∈ evaluations, evaluation.trackId ≠ "" := by
    intro evaluation member
    obtain ⟨signal, -, canonical⟩ := Related.exists_right each member
    exact canonical.1
  rw [buildCommands, contexts_eq_ok tracked ⟨nodup, fun _ _ => rfl⟩] at built
  have approved : ∀ signal ∈ result.arbitration.approvedSignals,
      ∃ evaluation ∈ evaluations, IsCanonical tick.inputs evaluation signal := fun _ member =>
    Related.exists_left each ((approved_subperm arbitrated).subset member)
  refine ((List.forall₂_and_left _ _).mpr ⟨approved, mapM_eq_ok.mp built⟩).imp ?_
  rintro signal command ⟨⟨evaluation, given, canonical⟩, made⟩
  refine ⟨evaluation, given, canonical, ?_⟩
  have found := Dict.get?_setEach _ nodup given
  rw [buildCommand, canonical.signalId, found] at made
  obtain ⟨-, made⟩ := ite_error_eq_ok.mp made
  obtain ⟨clientOrderId, identified, made⟩ := bind_eq_ok.mp made
  obtain ⟨-, rfl⟩ := RuntimeStrategyEvaluation.identifier_eq_ok.mp identified
  obtain ⟨-, -, rfl⟩ := approvedSignalToCommand_eq_ok.mp made
  rw [RuntimeStrategyEvaluation.strip_clientOrderIdText, ownCommand]

/-- The orders of a tick: each passed the gate, and their signals are some of those given, in their
order. -/
structure Routes (tick : SessionTick F) (evaluations : List RuntimeStrategyEvaluation)
    (signals : List (CanonicalStrategySignal F)) (before after : Seam F)
    (orders : List (RoutedOrder F)) : Prop where
  routed : after.routed = before.routed ++ orders.map (.risk ·.effective)
  signals : (orders.map (·.signal)).Sublist signals
  each : ∀ order ∈ orders, order.Passed tick before ∧ order.evaluation ∈ evaluations ∧
    IsCanonical tick.inputs order.evaluation order.signal

omit [PythonFloat F] in
theorem SameGate.trans {before between after : Seam F} (same : SameGate before between)
    (same' : SameGate between after) : SameGate before after :=
  ⟨same'.1.trans same.1, same'.2.trans same.2⟩

variable {order other : RoutedOrder F}

/-- Nothing but the quantity of the order may differ from its command. -/
theorem RoutedOrder.Passed.isCut (passed : order.Passed tick seam) :
    RiskEngine.IsCut order.command order.effective := by
  obtain ⟨limited, approval, judged, same⟩ := passed
  exact same ▸ judged.isCut

theorem RoutedOrder.Passed.clientOrderId (passed : order.Passed tick seam) :
    order.effective.clientOrderId = order.evaluation.idText "ORD-T" := passed.isCut.clientOrderId

theorem RoutedOrder.Passed.side (passed : order.Passed tick seam) :
    order.effective.side = order.signal.side := by
  rcases passed.isCut with same | ⟨n, -, -, reduced⟩
  · rw [same]
    rfl
  · rw [reduced]
    rfl

/-- Two orders of one tick are different orders, and do not trade against each other. -/
def Apart (order other : RoutedOrder F) : Prop :=
  order.effective.clientOrderId ≠ other.effective.clientOrderId ∧
    (DecisionArbiter.instrumentKey order.signal = DecisionArbiter.instrumentKey other.signal →
      order.effective.side = other.effective.side)

theorem Routes.apart {before after : Seam F} {orders : List (RoutedOrder F)}
    (arbitrated : arbitrate tick.inputs evaluations = .ok result)
    (routes : Routes tick evaluations result.arbitration.approvedSignals before after orders) :
    orders.Pairwise Apart := by
  obtain ⟨canonical, nodup, decided⟩ := arbitrate_spec arbitrated
  have ids : (result.canonicalSignals.map (·.signalId)).Nodup := by
    have same : result.canonicalSignals.map (·.signalId) = evaluations.map (·.idText "SIG-") := by
      rw [← List.forall₂_eq_eq_eq, List.forall₂_map_left_iff, List.forall₂_map_right_iff]
      exact canonical.flip.imp fun _ _ canonical => IsCanonical.signalId canonical
    rwa [same]
  have distinct : (orders.map (·.signal.signalId)).Nodup := by
    have approved := Related.nodup_map_of_subperm (approved_subperm arbitrated) ids
    have part := approved.sublist (routes.signals.map (·.signalId))
    rwa [List.map_map] at part
  refine (List.pairwise_map.mp distinct).imp_of_mem fun {order other} member member' apart => ?_
  obtain ⟨passed, -, canonical⟩ := routes.each order member
  obtain ⟨passed', -, canonical'⟩ := routes.each other member'
  constructor
  · intro same
    rw [passed.clientOrderId, passed'.clientOrderId] at same
    have identity := RuntimeStrategyEvaluation.idText_injective same
    apply apart
    rw [canonical.signalId, canonical'.signalId]
    unfold RuntimeStrategyEvaluation.idText
    simp only [RuntimeStrategyEvaluation.identity, Prod.mk.injEq] at identity
    rw [identity.1, identity.2.1, identity.2.2]
  · intro sameKey
    rw [passed.side, passed'.side]
    have divides := DecisionArbiter.arbitrate_divides result.canonicalSignals
    rw [← decided] at divides
    have inside := routes.signals.subset (List.mem_map_of_mem member)
    have inside' := routes.signals.subset (List.mem_map_of_mem member')
    exact divides.oneSide _ inside _ inside' sameKey

/-- The answer to an approved signal: it says what was routed, or why nothing was. -/
def Answers (tick : SessionTick F) (evaluations : List RuntimeStrategyEvaluation)
    (signal : CanonicalStrategySignal F) (answer : ReferenceExecutionResult F) : Prop :=
  ∃ evaluation ∈ evaluations, IsCanonical tick.inputs evaluation signal ∧
    ((answer.routed = true ∧ ∃ effective, answer.effectiveCommand = some effective ∧
        RiskEngine.IsCut (fromCommand (ownCommand evaluation signal)) effective) ∨
      answer.routed = false ∧ answer.effectiveCommand = none ∧ answer.rejectionReason.isSome)

omit [PythonFloat F] in
/-- The calls of the router that the answers tell of. -/
def toldCalls (answers : List (ReferenceExecutionResult F)) : List (RoutedCommand F) :=
  answers.filterMap fun answer => answer.effectiveCommand.map .risk

theorem answers_of_routed {orderRouter : OrderRouter F} {seed : RiskEngine.TokenSeed}
    {answer : ReferenceExecutionResult F} {after : Seam F} (given : evaluation ∈ evaluations)
    (canonical : IsCanonical tick.inputs evaluation signal)
    (called : routeAfterRisk orderRouter seam seed (ownCommand evaluation signal) tick.account
      tick.positions tick.sensorSnapshot tick.allowReduction = (.ok answer, after)) :
    Answers tick evaluations signal answer ∧ after.routed = seam.routed ++ toldCalls [answer] := by
  unfold routeAfterRisk at called
  dsimp only at called
  cases judged : seam.gate.engine.judge seam.gate.marginEngine
    (fromCommand (ownCommand evaluation signal)) tick.account tick.positions tick.sensorSnapshot
    tick.allowReduction with
  | error stop =>
    cases stop with
    | raised e =>
      rw [RiskEngine.admitOrder_of_raised judged] at called
      cases called
    | denied denial =>
      rw [RiskEngine.admitOrder_of_denied judged] at called
      cases called
      refine ⟨⟨evaluation, given, canonical, .inr ⟨rfl, rfl, ?_⟩⟩,
        by simp [toldCalls, refusal]⟩
      unfold refusal
      split <;> rfl
  | ok approval =>
    rw [RiskEngine.admitOrder_of_approved judged] at called
    obtain ⟨limited, spec⟩ := RiskEngine.judge_spec judged
    dsimp only at called
    rw [effectiveCommand_approved judged] at called
    cases answered : orderRouter (.risk approval.effective) with
    | error e =>
      rw [answered] at called
      cases called
    | ok _ =>
      rw [answered] at called
      cases called
      exact ⟨⟨evaluation, given, canonical, .inl ⟨rfl, _, rfl, spec.isCut⟩⟩, rfl⟩

theorem answered_of_routeEach {signals : List (CanonicalStrategySignal F)}
    (owned : List.Forall₂ (Owned tick evaluations) signals commands)
    {before answers : List (ReferenceExecutionResult F)} {after : Seam F}
    (returned : tick.routeEach seam before commands = (.ok answers, after)) :
    ∃ later, answers = before ++ later ∧ List.Forall₂ (Answers tick evaluations) signals later ∧
      after.routed = seam.routed ++ toldCalls later := by
  induction owned generalizing seam before with
  | nil =>
    cases returned
    exact ⟨[], by simp, .nil, by simp [toldCalls]⟩
  | @cons signal command signals commands first _ ih =>
    obtain ⟨evaluation, given, canonical, rfl⟩ := first
    unfold SessionTick.routeEach at returned
    split at returned
    next => cases returned
    next answer seam' called =>
      obtain ⟨told, routed⟩ := answers_of_routed given canonical called
      obtain ⟨later, rfl, each, all⟩ := ih returned
      refine ⟨answer :: later, by simp, .cons told each, ?_⟩
      rw [all, routed, List.append_assoc]
      simp only [toldCalls, List.filterMap_cons]
      cases answer.effectiveCommand <;> rfl

/-- A tick that returns answers every approved signal, in their order, and its answers tell of every
call of the router. -/
theorem answered_of_process {answers : List (ReferenceExecutionResult F)} {after : Seam F}
    (returned : tick.process seam = (.ok answers, after)) :
    ∃ evaluations result, tick.evaluations = .ok evaluations ∧
      arbitrate tick.inputs evaluations = .ok result ∧
      List.Forall₂ (Answers tick evaluations) result.arbitration.approvedSignals answers ∧
      after.routed = seam.routed ++ toldCalls answers := by
  unfold SessionTick.process at returned
  cases built : tick.commands with
  | error e =>
    rw [built] at returned
    cases returned
  | ok commands =>
    rw [built] at returned
    obtain ⟨evaluations, collected, built⟩ := bind_eq_ok.mp built
    obtain ⟨result, arbitrated, built⟩ := bind_eq_ok.mp built
    obtain ⟨_, rfl, each, all⟩ :=
      answered_of_routeEach (owned_of_built arbitrated built) returned
    exact ⟨evaluations, result, collected, arbitrated, each, all⟩

/-- More than an order may have. -/
def largeSignal : Signal :=
  { optionEvaluation.result with
    executionProposal := optionEvaluation.result.executionProposal.map fun proposal =>
      { proposal with
        proposedQuantity := 51
        quantity_pos := by decide } }

/-- The large signal and one for a single lot, and a router that takes everything. -/
def optionTick : SessionTick WholeFloat where
  tickSequence := 77
  results := [(optionEvaluation.context, some [largeSignal, optionEvaluation.result])]
  inputs := ⟨⟨2⟩, "10:00:00", none⟩
  account := ⟨50000000, 0, 1000, 49999000⟩
  seed _ := ⟨"uuid", 0⟩
  orderRouter _ := .ok ()

/-- The first is refused and the second routed. -/
theorem answered_option :
    ∃ answers after, optionTick.process openSeam = (.ok answers, after) ∧
      answers.map (·.routed) = [false, true] ∧ after.routed.length = 1 ∧
      ∃ evaluations result, optionTick.evaluations = .ok evaluations ∧
        arbitrate optionTick.inputs evaluations = .ok result ∧
        List.Forall₂ (Answers optionTick evaluations) result.arbitration.approvedSignals answers ∧
        after.routed = openSeam.routed ++ toldCalls answers := by
  have returned : (optionTick.process openSeam).1.map (List.map (·.routed)) = .ok [false, true] ∧
      (optionTick.process openSeam).2.routed.length = 1 := by decide +kernel
  generalize processed : optionTick.process openSeam = outcome at returned
  obtain ⟨answer | answers, after⟩ := outcome
  · cases returned.1
  · exact ⟨answers, after, rfl, Except.ok.inj returned.1, returned.2,
      answered_of_process processed⟩

/-! ## The whole session -/

/-- An order of a session, with the moves before its tick. -/
structure SessionOrder (F : Type) extends RoutedOrder F where
  history : List (SessionMove F)
  tick : SessionTick F

namespace Session

variable {config : RiskConfig} {marginEngine : MarginCalculator (CanonicalRiskCommandAdapter F)}
  {moves : List (SessionMove F)}

omit [PythonFloat F] in
/-- The calls of the engine between the ticks. -/
def engineCalls (moves : List (SessionMove F)) :
    List (RiskEngine.EngineCall (CanonicalRiskCommandAdapter F)) := moves.filterMap engineCall?

/-- The order stands for an approved signal of its tick, with at most the quantity of the signal,
and the gate let it pass with what it had been told by then. -/
structure Justified (config : RiskConfig)
    (marginEngine : MarginCalculator (CanonicalRiskCommandAdapter F)) (order : SessionOrder F) :
    Prop where
  approved : ∃ evaluations result, order.tick.evaluations = .ok evaluations ∧
    arbitrate order.tick.inputs evaluations = .ok result ∧ order.evaluation ∈ evaluations ∧
    order.signal ∈ result.arbitration.approvedSignals ∧
    IsCanonical order.tick.inputs order.evaluation order.signal
  isCut : RiskEngine.IsCut order.command order.effective
  admitted : ∃ seed result, result.approvedQty = order.effective.qty ∧
    RiskEngine.Admitted config (engineCalls order.history)
      { marginEngine, seed, command := order.command, account := order.tick.account,
        positions := order.tick.positions, sensorSnapshot := order.tick.sensorSnapshot,
        allowReduction := order.tick.allowReduction } result

/-- Of two orders the later one does not trade against the earlier one in one tick, and has the same
order id only if its tick repeats the sequence number of an earlier tick. -/
structure Compatible (earlier later : SessionOrder F) : Prop where
  clientOrderId : earlier.effective.clientOrderId = later.effective.clientOrderId →
    earlier.history.length < later.history.length ∧
      earlier.tick.tickSequence = later.tick.tickSequence
  side : earlier.history.length = later.history.length →
    DecisionArbiter.instrumentKey earlier.signal = DecisionArbiter.instrumentKey later.signal →
      earlier.effective.side = later.effective.side

structure Accounts (config : RiskConfig)
    (marginEngine : MarginCalculator (CanonicalRiskCommandAdapter F))
    (moves : List (SessionMove F)) (routed : List (RoutedCommand F))
    (orders : List (SessionOrder F)) : Prop where
  routed : routed = orders.map (.risk ·.effective)
  each : ∀ order ∈ orders, order.history ++ [.tick order.tick] <+: moves ∧
    Justified config marginEngine order
  compatible : orders.Pairwise Compatible

theorem after_concat (move : SessionMove F) :
    after config marginEngine (moves ++ [move]) = perform (after config marginEngine moves) move :=
  List.foldl_concat ..

theorem Justified.clientOrderId {order : SessionOrder F}
    (justified : Justified config marginEngine order) :
    order.effective.clientOrderId = order.evaluation.idText "ORD-T" :=
  justified.isCut.clientOrderId

theorem Justified.tickSequence {order : SessionOrder F}
    (justified : Justified config marginEngine order) :
    order.evaluation.runtimeContext.tickSequence = order.tick.tickSequence := by
  obtain ⟨evaluations, result, collected, -, given, -⟩ := justified.approved
  exact SessionTick.tickSequence_of_evaluations collected _ given

/-- Orders of different ticks have different ids unless the ticks have one sequence number. -/
theorem Justified.compatible {earlier later : SessionOrder F}
    (justified : Justified config marginEngine earlier)
    (justified' : Justified config marginEngine later)
    (before : earlier.history.length < later.history.length) : Compatible earlier later where
  clientOrderId same := by
    rw [justified.clientOrderId, justified'.clientOrderId] at same
    have identity := RuntimeStrategyEvaluation.idText_injective same
    refine ⟨before, ?_⟩
    rw [← justified.tickSequence, ← justified'.tickSequence]
    exact congrArg Prod.fst identity
  side together := absurd together before.ne

end Session
end OptionProject.Risk
