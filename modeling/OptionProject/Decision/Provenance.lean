import OptionProject.Decision.RiskKeys

/-!
# Provenance of commands

Every approved signal of a tick becomes one command under the order id of its own evaluation,
and the order ids of any number of ticks are distinct when the identities of their evaluations
are.

## Main results

* `buildCommands_of_arbitrated` — the commands of one tick.
* `commands_provenance` — the commands of any number of ticks.
-/
namespace OptionProject.Decision
open Library Contracts RuntimeStrategyToDecision RuntimeDecisionCommand

/-! ## The commands of one tick -/

structure Tick (F : Type) where
  inputs : TickInputs F
  evaluations : List RuntimeStrategyEvaluation

variable {F : Type} [PythonFloat F] {tick : Tick F} {evaluation : RuntimeStrategyEvaluation}
  {signal : CanonicalStrategySignal F} {result : RuntimeDecisionResult F}

omit [PythonFloat F] in
/-- The options of the tick have identities with a symbol and an expiry that are not blank. -/
def Tick.Named (tick : Tick F) : Prop :=
  ∀ evaluation ∈ tick.evaluations, ∀ proposal ∈ evaluation.result.executionProposal,
    proposal.assetType = CanonicalAssetType.option.value →
      ∀ identity ∈ tick.inputs.resolved evaluation,
        strip identity.symbol ≠ "" ∧ strip (orEmpty identity.expiry) ≠ ""

/-- No later check refuses what an earlier one accepted. -/
theorem transportable_of_named (named : tick.Named) (member : evaluation ∈ tick.evaluations)
    (canonical : IsCanonical tick.inputs evaluation signal) : Transportable signal := by
  obtain ⟨proposal, proposed, typed, quantity⟩ := canonical.proposal
  have known (option : signal.assetType = .option) : strip signal.symbol ≠ "" ∧
      strip signal.expiry ≠ "" ∧ signal.optionType ≠ none := by
    obtain ⟨identity, resolved, symbol, expiry, optionType, -⟩ := canonical.option option
    rw [symbol, expiry]
    obtain ⟨symbol, expiry⟩ := named evaluation member proposal proposed (by rw [typed, option])
      identity resolved
    exact ⟨symbol, expiry, optionType⟩
  constructor
  case qty_pos => exact quantity ▸ proposal.quantity_pos
  case trackId =>
    rw [canonical.trackId, RuntimeStrategyEvaluation.strip_trackId]
    exact canonical.1
  case symbol => exact fun option => (known option).1
  case expiry => exact fun option => (known option).2.1
  case optionType => exact fun option => (known option).2.2

/-- The command of a signal under the order id of an evaluation. -/
def ownCommand (evaluation : RuntimeStrategyEvaluation) (signal : CanonicalStrategySignal F) :
    CanonicalOrderCommand F := commandOf signal (evaluation.idText "ORD-T")

theorem buildCommand_of_known {known : Dict String RuntimeStrategyEvaluation}
    (named : tick.Named) (member : evaluation ∈ tick.evaluations)
    (canonical : IsCanonical tick.inputs evaluation signal)
    (found : known.get? (evaluation.idText "SIG-") = some evaluation) :
    buildCommand known signal = .ok (ownCommand evaluation signal) := by
  have identified : evaluation.runtimeContext.clientOrderId evaluation.trackId =
      .ok (evaluation.idText "ORD-T") :=
    RuntimeStrategyEvaluation.identifier_eq_ok.mpr ⟨canonical.1, rfl⟩
  have marked : evaluation.idText "ORD-T" ≠ "" := by
    intro blank
    simpa [RuntimeStrategyEvaluation.idText, identifierText] using congrArg String.toList blank
  have transported : approvedSignalToCommand signal ⟨evaluation.idText "ORD-T"⟩ =
      .ok (ownCommand evaluation signal) := by
    refine approvedSignalToCommand_eq_ok.mpr
      ⟨transportable_of_named named member canonical, ?_, ?_⟩
    · rwa [RuntimeStrategyEvaluation.strip_clientOrderIdText]
    · rw [RuntimeStrategyEvaluation.strip_clientOrderIdText, ownCommand]
  rw [buildCommand, canonical.signalId, found]
  simp [canonical.trackId, identified, transported, bind, Except.bind]

/-- The evaluations of the approved signals, in the order of these. -/
structure Owns (tick : Tick F) (result : RuntimeDecisionResult F)
    (owners : List RuntimeStrategyEvaluation) : Prop where
  subperm : owners.Subperm tick.evaluations
  canonical : List.Forall₂ (IsCanonical tick.inputs) owners result.arbitration.approvedSignals

theorem exists_owners (arbitrated : arbitrate tick.inputs tick.evaluations = .ok result) :
    ∃ owners, Owns tick result owners := by
  obtain ⟨owners, subperm, each⟩ :=
    Related.exists_part (arbitrate_spec arbitrated).1 (approved_subperm arbitrated)
  exact ⟨owners, subperm, each⟩

/-- The approved signals of a tick become commands, each under the id of its own evaluation. -/
theorem buildCommands_of_arbitrated (named : tick.Named)
    (arbitrated : arbitrate tick.inputs tick.evaluations = .ok result)
    {owners : List RuntimeStrategyEvaluation} (owns : Owns tick result owners) :
    buildCommands tick.evaluations result.arbitration.approvedSignals =
      .ok (List.zipWith ownCommand owners result.arbitration.approvedSignals) := by
  obtain ⟨each, nodup, -⟩ := arbitrate_spec arbitrated
  have tracked : ∀ evaluation ∈ tick.evaluations, evaluation.trackId ≠ "" := by
    intro evaluation member
    obtain ⟨signal, -, canonical⟩ := Related.exists_right each member
    exact canonical.1
  rw [buildCommands, contexts_eq_ok tracked ⟨nodup, fun _ _ => rfl⟩]
  refine mapM_eq_ok.mpr (Related.forall₂_zipWith owns.canonical ?_)
  intro evaluation member signal canonical
  have given := owns.subperm.subset member
  exact buildCommand_of_known named given canonical (Dict.get?_setEach _ nodup given)

/-- The command carries the data of the signal and the order id of the one evaluation that the
signal comes from. -/
def Carries (tick : Tick F) (signal : CanonicalStrategySignal F)
    (command : CanonicalOrderCommand F) : Prop :=
  command = commandOf signal command.clientOrderId ∧
    ∃ evaluation ∈ tick.evaluations, IsCanonical tick.inputs evaluation signal ∧
      evaluation.runtimeContext.clientOrderId evaluation.trackId = .ok command.clientOrderId ∧
      ∀ other ∈ tick.evaluations, IsCanonical tick.inputs other signal → other = evaluation

theorem carries_ownCommand (arbitrated : arbitrate tick.inputs tick.evaluations = .ok result)
    (member : evaluation ∈ tick.evaluations)
    (canonical : IsCanonical tick.inputs evaluation signal) :
    Carries tick signal (ownCommand evaluation signal) := by
  obtain ⟨-, nodup, -⟩ := arbitrate_spec arbitrated
  refine ⟨rfl, evaluation, member, canonical, ?_, ?_⟩
  · exact RuntimeStrategyEvaluation.identifier_eq_ok.mpr ⟨canonical.1, rfl⟩
  · intro other given canonical'
    exact List.inj_on_of_nodup_map nodup given member
      (canonical'.signalId.symm.trans canonical.signalId)

/-- The tick is arbitrated, and the commands are those of its approved signals. -/
def Emits (tick : Tick F) (commands : List (CanonicalOrderCommand F)) : Prop :=
  ∃ result, arbitrate tick.inputs tick.evaluations = .ok result ∧
    buildCommands tick.evaluations result.arbitration.approvedSignals = .ok commands ∧
    List.Forall₂ (Carries tick) result.arbitration.approvedSignals commands

theorem emits_of_arbitrated (named : tick.Named)
    (arbitrated : arbitrate tick.inputs tick.evaluations = .ok result) :
    ∃ (commands : List (CanonicalOrderCommand F)) (owners : List RuntimeStrategyEvaluation),
      Emits tick commands ∧ owners.Subperm tick.evaluations ∧
      commands.map (·.clientOrderId) = owners.map (·.idText "ORD-T") := by
  obtain ⟨owners, owns⟩ := exists_owners arbitrated
  refine ⟨_, owners, ⟨result, arbitrated, buildCommands_of_arbitrated named arbitrated owns, ?_⟩,
    owns.subperm, ?_⟩
  · refine Related.forall₂_zipWith owns.canonical fun evaluation member signal canonical => ?_
    exact carries_ownCommand arbitrated (owns.subperm.subset member) canonical
  · exact Related.map_zipWith_left owns.canonical fun _ _ => rfl

/-! ## The commands of many ticks -/

theorem emits_of_ticks {ticks : List (Tick F)} (named : ∀ tick ∈ ticks, tick.Named)
    (arbitrated : ∀ tick ∈ ticks, ∃ result,
      arbitrate tick.inputs tick.evaluations = .ok result) :
    ∃ (batches : List (List (CanonicalOrderCommand F)))
      (owners : List RuntimeStrategyEvaluation), List.Forall₂ Emits ticks batches ∧
      owners.Subperm (ticks.flatMap (·.evaluations)) ∧
      batches.flatten.map (·.clientOrderId) = owners.map (·.idText "ORD-T") := by
  induction ticks with
  | nil => exact ⟨[], [], .nil, .refl _, rfl⟩
  | cons tick ticks ih =>
    obtain ⟨namedFirst, named⟩ := List.forall_mem_cons.mp named
    obtain ⟨⟨result, first⟩, arbitrated⟩ := List.forall_mem_cons.mp arbitrated
    obtain ⟨commands, owners, emits, subperm, ids⟩ := emits_of_arbitrated namedFirst first
    obtain ⟨batches, owners', each, subperm', ids'⟩ := ih named arbitrated
    refine ⟨commands :: batches, owners ++ owners', .cons emits each, ?_, ?_⟩
    · rw [List.flatMap_cons]
      exact subperm.append subperm'
    · rw [List.flatten_cons, List.map_append, ids, ids', List.map_append]

/-- Every arbitrated tick emits one command for each approved signal, and no two commands of any
number of ticks share an order id when the identities of the evaluations are distinct. -/
theorem commands_provenance (ticks : List (Tick F)) (named : ∀ tick ∈ ticks, tick.Named)
    (arbitrated : ∀ tick ∈ ticks, ∃ result,
      arbitrate tick.inputs tick.evaluations = .ok result) :
    ∃ batches, List.Forall₂ Emits ticks batches ∧
      (((ticks.flatMap (·.evaluations)).map (·.identity)).Nodup →
        (batches.flatten.map (·.clientOrderId)).Nodup) := by
  obtain ⟨batches, owners, each, subperm, ids⟩ := emits_of_ticks named arbitrated
  refine ⟨batches, each, fun distinct => ?_⟩
  have nodup := Related.nodup_map_of_subperm subperm distinct
  rw [ids]
  refine List.Nodup.map_on ?_ nodup.of_map
  intro first member second member' same
  exact List.inj_on_of_nodup_map nodup member member'
    (RuntimeStrategyEvaluation.idText_injective same)

/-- A tick with an option and a futures signal, and the next one with the option again. -/
def twoTicks : List (Tick WholeFloat) :=
  let inputs : TickInputs WholeFloat := ⟨⟨2⟩, "10:00:00", none⟩
  let later := { optionEvaluation with
    runtimeContext := { optionEvaluation.runtimeContext with
      tickSequence := 78
      tickSequence_pos := by decide } }
  [⟨inputs, [optionEvaluation, futuresEvaluation]⟩, ⟨inputs, [later]⟩]

theorem commands_provenance_two :
    ∃ batches, List.Forall₂ Emits twoTicks batches ∧
      (batches.flatten.map (·.clientOrderId)).Nodup := by
  have named : ∀ tick ∈ twoTicks, tick.Named := by
    unfold Tick.Named
    decide +kernel
  have returned : ∀ tick ∈ twoTicks,
      (arbitrate tick.inputs tick.evaluations).toOption.isSome := by decide +kernel
  have arbitrated : ∀ tick ∈ twoTicks, ∃ result,
      arbitrate tick.inputs tick.evaluations = .ok result := by
    intro tick member
    have some_result := returned tick member
    cases decided : arbitrate tick.inputs tick.evaluations with
    | error e => simp [decided, Except.toOption] at some_result
    | ok result => exact ⟨result, rfl⟩
  obtain ⟨batches, each, distinct⟩ := commands_provenance twoTicks named arbitrated
  exact ⟨batches, each, distinct (by decide +kernel)⟩

end OptionProject.Decision
