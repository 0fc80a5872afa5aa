import OptionProject.Decision.InstrumentKeys
import OptionProject.Decision.Runtime
import OptionProject.Library.Related

/-!
# Risk keys of pipeline orders

Which ticks give only commands that the risk gate can look up. A futures signal loses its symbol
when it becomes canonical, so its command has no key.

## Main results

* `keyed_commands_iff` — all commands of a tick have a key exactly when all evaluations propose
  options with a strike that is no zero as a float.
-/
namespace OptionProject.Decision
open Library Contracts CanonicalRiskCommandAdapter RuntimeStrategyToDecision RuntimeDecisionCommand

variable {F : Type} [PythonFloat F] {inputs : TickInputs F}
  {evaluation : RuntimeStrategyEvaluation} {evaluations : List RuntimeStrategyEvaluation}
  {signal : CanonicalStrategySignal F} {approved : List (CanonicalStrategySignal F)}
  {command : CanonicalOrderCommand F} {commands : List (CanonicalOrderCommand F)}
  {result : RuntimeDecisionResult F}

/-- The evaluation proposes an option whose resolved identity has a strike that is no zero as a
float. -/
def Keyable (inputs : TickInputs F) (evaluation : RuntimeStrategyEvaluation) : Prop :=
  ∃ proposal identity strike, evaluation.result.executionProposal = some proposal ∧
    proposal.assetType = CanonicalAssetType.option.value ∧
    inputs.resolved evaluation = some identity ∧ identity.strike = some strike ∧
    PythonFloat.isZero (PythonFloat.ofDecimal strike : F) = false

theorem keyable_iff (canonical : IsCanonical inputs evaluation signal) :
    Keyable inputs evaluation ↔
      signal.assetType = .option ∧ PythonFloat.isZero signal.strike = false := by
  obtain ⟨proposal, proposed, typed, -⟩ := canonical.proposal
  constructor
  · rintro ⟨proposal', identity, strike, proposed', option, resolved, struck, nonzero⟩
    obtain rfl : proposal = proposal' := Option.some.inj (proposed.symm.trans proposed')
    have isOption := CanonicalAssetType.value_injective (typed.symm.trans option)
    obtain ⟨identity', resolved', -, -, -, value, struck', same⟩ := canonical.option isOption
    obtain rfl : identity = identity' := Option.some.inj (resolved.symm.trans resolved')
    obtain rfl : strike = value := Option.some.inj (struck.symm.trans struck')
    exact ⟨isOption, by rw [same, nonzero]⟩
  · rintro ⟨isOption, nonzero⟩
    obtain ⟨identity, resolved, -, -, -, value, struck, same⟩ := canonical.option isOption
    exact ⟨proposal, identity, value, proposed, by rw [typed, isOption], resolved, struck,
      by rw [← same, nonzero]⟩

/-- The command of a canonical signal has a key when its evaluation is keyable. -/
theorem getInstrumentKey_returns_iff_keyable (canonical : IsCanonical inputs evaluation signal)
    {context : DecisionCommandContext}
    (built : approvedSignalToCommand signal context = .ok command) :
    (∃ key, (fromCommand command).getInstrumentKey = .ok key) ↔ Keyable inputs evaluation := by
  rw [getInstrumentKey_returns_iff built, keyable_iff canonical]
  constructor
  · rintro (keyed | ⟨futures, named⟩)
    · exact keyed
    · exact absurd (canonical.futures futures) named
  · exact .inl

omit [PythonFloat F] in
theorem buildCommand_spec {known : Dict String RuntimeStrategyEvaluation}
    (built : buildCommand known signal = .ok command) :
    ∃ context, approvedSignalToCommand signal context = .ok command := by
  unfold buildCommand at built
  split at built
  next => cases built
  next owner found =>
    obtain ⟨-, built⟩ := ite_error_eq_ok.mp built
    obtain ⟨clientOrderId, -, built⟩ := bind_eq_ok.mp built
    exact ⟨⟨clientOrderId⟩, built⟩

omit [PythonFloat F] in
/-- Every approved signal has its command, and every command its approved signal. -/
theorem buildCommands_spec (built : buildCommands evaluations approved = .ok commands) :
    List.Forall₂ (fun signal command =>
      ∃ context, approvedSignalToCommand signal context = .ok command) approved commands := by
  obtain ⟨known, -, built⟩ := bind_eq_ok.mp built
  exact (mapM_eq_ok.mp built).imp fun _ _ => buildCommand_spec

/-- Signals on one arbiter instrument are keyable together. -/
theorem keyable_congr {other : RuntimeStrategyEvaluation} {signal' : CanonicalStrategySignal F}
    (canonical : IsCanonical inputs evaluation signal)
    (canonical' : IsCanonical inputs other signal')
    (same : DecisionArbiter.instrumentKey signal = DecisionArbiter.instrumentKey signal') :
    Keyable inputs evaluation ↔ Keyable inputs other := by
  obtain ⟨assetType, strike, -⟩ := instrumentKey_eq_iff.mp same
  rw [keyable_iff canonical, keyable_iff canonical', assetType,
    PythonFloat.isZero_of_text _ _ strike]

/-- All commands of a tick have a key exactly when all its evaluations are keyable. -/
theorem keyed_commands_iff (arbitrated : arbitrate inputs evaluations = .ok result)
    (built : buildCommands evaluations result.arbitration.approvedSignals = .ok commands) :
    (∀ command ∈ commands, ∃ key, (fromCommand command).getInstrumentKey = .ok key) ↔
      ∀ evaluation ∈ evaluations, Keyable inputs evaluation := by
  obtain ⟨each, -, decided⟩ := arbitrate_spec arbitrated
  have transported := buildCommands_spec built
  constructor
  · intro keyed evaluation member
    obtain ⟨signal, given, canonical⟩ := Related.exists_right each member
    -- the holder of the instrument is approved, and its command has a key
    have approved := DecisionArbiter.holder_approved given
    rw [← decided] at approved
    obtain ⟨command, sent, context, transport⟩ := Related.exists_right transported approved
    obtain ⟨owner, -, canonical'⟩ :=
      Related.exists_left each ((approved_subperm arbitrated).subset approved)
    have keyable := (getInstrumentKey_returns_iff_keyable canonical' transport).mp
      (keyed command sent)
    exact (keyable_congr canonical canonical'
      (DecisionArbiter.instrumentKey_holder given).symm).mpr keyable
  · intro keyable command member
    obtain ⟨signal, approved, context, transport⟩ := Related.exists_left transported member
    obtain ⟨owner, given, canonical⟩ :=
      Related.exists_left each ((approved_subperm arbitrated).subset approved)
    exact (getInstrumentKey_returns_iff_keyable canonical transport).mpr (keyable owner given)

/-- The commands of a tick. -/
def tickCommands (inputs : TickInputs F) (evaluations : List RuntimeStrategyEvaluation) :
    Except Raised (List (CanonicalOrderCommand F)) := do
  let result ← arbitrate inputs evaluations
  buildCommands evaluations result.arbitration.approvedSignals

def optionEvaluation : RuntimeStrategyEvaluation where
  context := ⟨some "Track1"⟩
  result :=
    { reason := "FENCE_BUILD"
      instrumentIdentity := some
        { instrumentId := "KRX-OPT-350-C-2026-10", symbol := "KRXOPT",
          expiry := some "2026-10-08", optionType := some "CALL", strike := some 350 }
      executionProposal := some
        { proposedQuantity := 1, assetType := "OPTION", side := some "BUY" } }
  runtimeContext := { tickSequence := 77, localSequence := 1 }

theorem keyed_commands_option :
    ∃ result commands, arbitrate (F := WholeFloat) ⟨⟨2⟩, "10:00:00", none⟩ [optionEvaluation] =
        .ok result ∧
      buildCommands [optionEvaluation] result.arbitration.approvedSignals = .ok commands ∧
      commands.length = 1 ∧
      ∀ command ∈ commands, ∃ key, (fromCommand command).getInstrumentKey = .ok key := by
  let command : CanonicalOrderCommand WholeFloat :=
    ⟨"ORD-T77-Track1-1", "Track1", .option, .buy, 1, ⟨2⟩, some .call, ⟨350⟩, "KRXOPT",
      "2026-10-08", ""⟩
  have sent : tickCommands (F := WholeFloat) ⟨⟨2⟩, "10:00:00", none⟩ [optionEvaluation] =
      .ok [command] := by decide +kernel
  obtain ⟨result, arbitrated, built⟩ := bind_eq_ok.mp sent
  refine ⟨result, _, arbitrated, built, rfl, (keyed_commands_iff arbitrated built).mpr ?_⟩
  intro evaluation member
  obtain rfl : evaluation = optionEvaluation := List.mem_singleton.mp member
  exact ⟨_, _, 350, rfl, rfl, rfl, rfl, by decide +kernel⟩

def futuresEvaluation : RuntimeStrategyEvaluation where
  context := ⟨some "Track4"⟩
  result :=
    { reason := "DELTA_HEDGE"
      executionProposal := some
        { proposedQuantity := 1, assetType := "FUTURES", side := some "BUY",
          tagId := some "DELTA_HEDGE" } }
  runtimeContext := { tickSequence := 77, localSequence := 1 }

/-- The command of a futures evaluation is built, and has no key. -/
theorem futures_command_without_key :
    ∃ command : CanonicalOrderCommand WholeFloat,
      tickCommands ⟨⟨351⟩, "10:00:00", none⟩ [futuresEvaluation] = .ok [command] ∧
        (fromCommand command).getInstrumentKey =
          .error ⟨.valueError, "FUTURES_RISK_INSTRUMENT_KEY_REQUIRED"⟩ := by
  refine ⟨⟨"ORD-T77-Track4-1", "Track4", .futures, .buy, 1, ⟨351⟩, none, ⟨0⟩, "", "",
    "DELTA_HEDGE"⟩, ?_, ?_⟩ <;> decide +kernel

end OptionProject.Decision
