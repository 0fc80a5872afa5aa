import OptionProject.Decision.Arbiter
import OptionProject.Decision.Commands

/-!
# The decision stage of a tick

`core/runtime/runtime_execution_context.py` and the adapters of `core/strategy/orchestrator.py`:
the evaluations of a tick become canonical signals, the arbiter decides between them, and the
approved ones become commands under the ids the runtime owns.

## Main definitions

* `signalToCanonical` — one strategy signal as a canonical one.
* `RuntimeStrategyToDecision.arbitrate` — all signals of a tick, arbitrated.
* `RuntimeDecisionCommand.buildCommands` — the approved signals as commands.
-/
namespace OptionProject.Decision
open Library Contracts

/-! ## Strategy signals -/

/-- A proposal with the checks made when it is created. -/
structure StrategyExecutionProposal where
  proposedQuantity : ℤ
  assetType : String
  side : Option String := none
  tagId : Option String := none
  optionType : Option String := none
  strike : Option ℚ := none
  quantity_pos : 0 < proposedQuantity := by decide
  assetType_ne : assetType ≠ "" := by decide
  strike_pos : ∀ value ∈ strike, 0 < value := by decide

structure Signal where
  reason : String
  instrumentIdentity : Option OptionInstrumentIdentity := none
  executionProposal : Option StrategyExecutionProposal := none

/-! ## Runtime identities -/

/-- The identity of an evaluation that the runtime loop owns. -/
structure RuntimeExecutionContext where
  tickSequence : ℤ
  localSequence : ℤ
  tickSequence_pos : 0 < tickSequence := by decide
  localSequence_pos : 0 < localSequence := by decide

/-- The text of an id. -/
def identifierText (mark : String) (tickSequence : ℤ) (track : String) (localSequence : ℤ) :
    String :=
  mark ++ toString tickSequence ++ "-" ++ track ++ "-" ++ toString localSequence

def RuntimeExecutionContext.identifier (self : RuntimeExecutionContext) (mark trackId : String) :
    Except Raised String :=
  let track := strip trackId
  if track = "" then .error ⟨.valueError, "track_id is required"⟩
  else .ok (identifierText mark self.tickSequence track self.localSequence)

def RuntimeExecutionContext.signalId (self : RuntimeExecutionContext) (trackId : String) :
    Except Raised String := self.identifier "SIG-" trackId

def RuntimeExecutionContext.clientOrderId (self : RuntimeExecutionContext) (trackId : String) :
    Except Raised String := self.identifier "ORD-T" trackId

structure EvaluationContext where
  strategyId : Option String

structure RuntimeStrategyEvaluation where
  context : EvaluationContext
  result : Signal
  runtimeContext : RuntimeExecutionContext

/-- The stripped id of the strategy that was evaluated. -/
def RuntimeStrategyEvaluation.trackId (evaluation : RuntimeStrategyEvaluation) : String :=
  strip (orEmpty evaluation.context.strategyId)

def RuntimeStrategyEvaluation.signalId (evaluation : RuntimeStrategyEvaluation) :
    Except Raised String :=
  if evaluation.trackId = "" then .error ⟨.valueError, "RUNTIME_TRACK_ID_REQUIRED"⟩
  else evaluation.runtimeContext.signalId evaluation.trackId

/-! ## Reading identities -/

/-- The ids keep free-text tracks apart. -/
theorem identifierText_injective {mark track track' : String} {tick tick' ordinal ordinal' : ℤ}
    (tick_pos : 0 < tick) (tick_pos' : 0 < tick') (ordinal_pos : 0 < ordinal)
    (ordinal_pos' : 0 < ordinal')
    (same : identifierText mark tick track ordinal = identifierText mark tick' track' ordinal') :
    tick = tick' ∧ track = track' ∧ ordinal = ordinal' := by
  unfold identifierText at same
  -- the ordinal follows the last dash, the tick precedes the first one after the mark
  obtain ⟨front, last⟩ := (lastSeparator_inj '-' rfl (dash_free_intText ordinal_pos.le)
    (dash_free_intText ordinal_pos'.le)).mp same
  have unmarked : toString tick ++ "-" ++ track = toString tick' ++ "-" ++ track' := by
    simpa [String.append_assoc] using front
  obtain ⟨first, middle⟩ := (firstSeparator_inj '-' rfl (dash_free_intText tick_pos.le)
    (dash_free_intText tick_pos'.le)).mp unmarked
  exact ⟨intText_injective first, middle, intText_injective last⟩

/-- An id has no whitespace around it. -/
theorem strip_identifierText {mark track : String} {tick ordinal : ℤ} {c : Char}
    (first : mark.toList.head? = some c) (solid : isSpace c = false) :
    strip (identifierText mark tick track ordinal) = identifierText mark tick track ordinal := by
  have chars : (identifierText mark tick track ordinal).toList =
      mark.toList ++ ((toString tick).toList ++ '-' :: track.toList) ++
        '-' :: (toString ordinal).toList := by
    simp [identifierText, List.append_assoc]
  refine strip_eq_self ?_ ?_
  · have marked : mark.toList ≠ [] := by
      intro empty
      simp [empty] at first
    rw [chars, List.append_assoc, List.head?_append_of_ne_nil _ marked, first]
    simpa using solid
  · intro d ending
    rw [chars, List.getLast?_append_of_ne_nil _ (List.cons_ne_nil _ _)] at ending
    rcases List.mem_cons.mp (List.mem_of_getLast? ending) with rfl | digit
    · rfl
    · exact isSpace_of_isNumeral (isNumeral_intText ordinal d digit)

namespace RuntimeStrategyEvaluation

variable {evaluation : RuntimeStrategyEvaluation} {id : String}

/-- What tells the evaluations of all ticks apart. -/
def identity (evaluation : RuntimeStrategyEvaluation) : ℤ × String × ℤ :=
  (evaluation.runtimeContext.tickSequence, evaluation.trackId,
    evaluation.runtimeContext.localSequence)

/-- The id of an evaluation under a mark. -/
def idText (evaluation : RuntimeStrategyEvaluation) (mark : String) : String :=
  identifierText mark evaluation.runtimeContext.tickSequence evaluation.trackId
    evaluation.runtimeContext.localSequence

theorem idText_injective {mark : String} {other : RuntimeStrategyEvaluation}
    (same : evaluation.idText mark = other.idText mark) : evaluation.identity = other.identity := by
  obtain ⟨tick, track, ordinal⟩ := identifierText_injective
    evaluation.runtimeContext.tickSequence_pos other.runtimeContext.tickSequence_pos
    evaluation.runtimeContext.localSequence_pos other.runtimeContext.localSequence_pos same
  simp [identity, tick, track, ordinal]

@[simp] theorem strip_trackId : strip evaluation.trackId = evaluation.trackId := strip_strip _

@[simp] theorem strip_signalIdText : strip (evaluation.idText "SIG-") = evaluation.idText "SIG-" :=
  strip_identifierText (c := 'S') rfl rfl

@[simp] theorem strip_clientOrderIdText :
    strip (evaluation.idText "ORD-T") = evaluation.idText "ORD-T" :=
  strip_identifierText (c := 'O') rfl rfl

theorem identifier_eq_ok {mark : String} :
    evaluation.runtimeContext.identifier mark evaluation.trackId = .ok id ↔
      evaluation.trackId ≠ "" ∧ evaluation.idText mark = id := by
  rw [RuntimeExecutionContext.identifier, ite_error_eq_ok, strip_trackId, Except.ok.injEq]
  rfl

theorem signalId_eq_ok :
    evaluation.signalId = .ok id ↔ evaluation.trackId ≠ "" ∧ evaluation.idText "SIG-" = id := by
  rw [signalId, ite_error_eq_ok, RuntimeExecutionContext.signalId, identifier_eq_ok]
  simp

end RuntimeStrategyEvaluation

/-! ## Canonical signals -/

variable {F : Type} [PythonFloat F]

/-- The values of a canonical signal that the runtime supplies. -/
structure RuntimeSignalContext (F : Type) where
  signalId : String
  trackId : String
  price : F
  timestamp : String

def requireNonEmpty (value fieldName : String) : Except Raised String :=
  if strip value = "" then .error ⟨.valueError, fieldName ++ "_REQUIRED"⟩ else .ok (strip value)

def checkProposal (proposal : StrategyExecutionProposal) : Except Raised Unit :=
  if proposal.proposedQuantity ≤ 0 then .error ⟨.valueError, "QTY_REQUIRED"⟩
  else if proposal.assetType = "" then .error ⟨.valueError, "ASSET_TYPE_REQUIRED"⟩
  else if orEmpty proposal.side = "" then .error ⟨.valueError, "SIDE_REQUIRED"⟩
  else .ok ()

/-- The instrument data of a canonical signal. -/
structure SignalInstrument (F : Type) where
  optionType : Option CanonicalOptionType
  strike : F
  symbol : String
  expiry : String

/-- Only options take data from the identity. -/
def signalInstrument (assetType : CanonicalAssetType) (proposal : StrategyExecutionProposal)
    (identity : Option OptionInstrumentIdentity) : Except Raised (SignalInstrument F) :=
  match assetType, identity with
  | .futures, _ => .ok ⟨none, PythonFloat.zero, "", ""⟩
  | .option, none => .error ⟨.valueError, "OPTION_IDENTITY_REQUIRED"⟩
  | .option, some identity =>
    if identity.instrumentId = "" ∨ identity.symbol = "" ∨ orEmpty identity.expiry = "" then
      .error ⟨.valueError, "OPTION_IDENTITY_INCOMPLETE"⟩
    else
      match identity.optionType, identity.strike with
      | some optionType, some strike =>
        if proposal.optionType ≠ none ∧ proposal.optionType ≠ some optionType then
          .error ⟨.valueError, "OPTION_TYPE_IDENTITY_MISMATCH"⟩
        else if proposal.strike ≠ none ∧ proposal.strike ≠ some strike then
          .error ⟨.valueError, "STRIKE_IDENTITY_MISMATCH"⟩
        else do
          let optionType ← canonicalOptionType optionType
          .ok ⟨some optionType, PythonFloat.ofDecimal strike, identity.symbol,
            orEmpty identity.expiry⟩
      | _, _ => .error ⟨.valueError, "OPTION_IDENTITY_INCOMPLETE"⟩

def signalToCanonical (signal : Signal) (runtime : RuntimeSignalContext F)
    (instrumentIdentity : Option OptionInstrumentIdentity) :
    Except Raised (CanonicalStrategySignal F) := do
  let signalId ← requireNonEmpty runtime.signalId "SIGNAL_ID"
  let trackId ← requireNonEmpty runtime.trackId "TRACK_ID"
  match signal.executionProposal with
  | none => .error ⟨.valueError, "EXECUTION_PROPOSAL_REQUIRED"⟩
  | some proposal => do
    let () ← checkProposal proposal
    let assetType ← canonicalAssetType proposal.assetType
    let side ← canonicalOrderSide (orEmpty proposal.side)
    let instrument ← signalInstrument assetType proposal
      (instrumentIdentity.or signal.instrumentIdentity)
    .ok
      { signalId, trackId, assetType, side
        qty := proposal.proposedQuantity
        price := runtime.price
        optionType := instrument.optionType
        strike := instrument.strike
        tagId := orEmpty proposal.tagId
        reason := signal.reason
        timestamp := runtime.timestamp
        symbol := instrument.symbol
        expiry := instrument.expiry }

/-- What the instrument data of an option are taken from. -/
structure OptionInstrument (identity : OptionInstrumentIdentity)
    (instrument : SignalInstrument F) : Prop where
  symbol_ne : identity.symbol ≠ ""
  expiry_ne : orEmpty identity.expiry ≠ ""
  symbol : instrument.symbol = identity.symbol
  expiry : instrument.expiry = orEmpty identity.expiry
  optionType : ∃ text optionType, identity.optionType = some text ∧
    canonicalOptionType text = .ok optionType ∧ instrument.optionType = some optionType
  strike : ∃ value, identity.strike = some value ∧ instrument.strike = PythonFloat.ofDecimal value

theorem signalInstrument_option {proposal : StrategyExecutionProposal}
    {given : Option OptionInstrumentIdentity} {instrument : SignalInstrument F}
    (returned : signalInstrument .option proposal given = .ok instrument) :
    ∃ identity, given = some identity ∧ OptionInstrument identity instrument := by
  cases given with
  | none => cases returned
  | some identity =>
    obtain ⟨complete, returned⟩ := ite_error_eq_ok.mp returned
    obtain ⟨-, symbol, expiry⟩ : identity.instrumentId ≠ "" ∧ identity.symbol ≠ "" ∧
        orEmpty identity.expiry ≠ "" := by simpa using complete
    split at returned
    next text value typed struck =>
      obtain ⟨-, returned⟩ := ite_error_eq_ok.mp returned
      obtain ⟨-, returned⟩ := ite_error_eq_ok.mp returned
      obtain ⟨optionType, read, returned⟩ := bind_eq_ok.mp returned
      cases returned
      exact ⟨identity, rfl, symbol, expiry, rfl, rfl, ⟨text, optionType, typed, read, rfl⟩,
        value, struck, rfl⟩
    next => cases returned

/-- Everything a canonical signal takes over. -/
theorem signalToCanonical_spec {signal : Signal} {runtime : RuntimeSignalContext F}
    {identity : Option OptionInstrumentIdentity} {canonical : CanonicalStrategySignal F}
    (returned : signalToCanonical signal runtime identity = .ok canonical) :
    strip runtime.signalId ≠ "" ∧ strip runtime.trackId ≠ "" ∧
      ∃ proposal instrument, signal.executionProposal = some proposal ∧
        proposal.assetType = canonical.assetType.value ∧
        canonicalOrderSide (orEmpty proposal.side) = .ok canonical.side ∧
        signalInstrument canonical.assetType proposal (identity.or signal.instrumentIdentity) =
          .ok instrument ∧
        canonical =
          { signalId := strip runtime.signalId
            trackId := strip runtime.trackId
            assetType := canonical.assetType
            side := canonical.side
            qty := proposal.proposedQuantity
            price := runtime.price
            optionType := instrument.optionType
            strike := instrument.strike
            tagId := orEmpty proposal.tagId
            reason := signal.reason
            timestamp := runtime.timestamp
            symbol := instrument.symbol
            expiry := instrument.expiry } := by
  obtain ⟨signalId, identified, returned⟩ := bind_eq_ok.mp returned
  obtain ⟨trackId, tracked, returned⟩ := bind_eq_ok.mp returned
  obtain ⟨signalId_ne, identified⟩ := ite_error_eq_ok.mp identified
  obtain ⟨trackId_ne, tracked⟩ := ite_error_eq_ok.mp tracked
  cases identified
  cases tracked
  split at returned
  next => cases returned
  next proposal proposed =>
    obtain ⟨_, -, returned⟩ := bind_eq_ok.mp returned
    obtain ⟨assetType, typed, returned⟩ := bind_eq_ok.mp returned
    obtain ⟨side, sided, returned⟩ := bind_eq_ok.mp returned
    obtain ⟨instrument, found, returned⟩ := bind_eq_ok.mp returned
    cases returned
    exact ⟨signalId_ne, trackId_ne, proposal, instrument, proposed,
      canonicalAssetType_eq_ok.mp typed, sided, found, rfl⟩

/-! ## The arbitration of a tick -/

abbrev InstrumentIdentityProvider :=
  RuntimeStrategyEvaluation → Except Raised (Option OptionInstrumentIdentity)

/-- The arguments of a tick besides its evaluations. -/
structure TickInputs (F : Type) where
  price : F
  timestamp : String
  instrumentIdentityProvider : Option InstrumentIdentityProvider := none

omit [PythonFloat F] in
def TickInputs.identity (inputs : TickInputs F) (evaluation : RuntimeStrategyEvaluation) :
    Except Raised (Option OptionInstrumentIdentity) :=
  match inputs.instrumentIdentityProvider with
  | some provider => provider evaluation
  | none => .ok none

omit [PythonFloat F] in
/-- The identity an option takes its data from: the provider's, or else the signal's own. -/
def TickInputs.resolved (inputs : TickInputs F) (evaluation : RuntimeStrategyEvaluation) :
    Option OptionInstrumentIdentity :=
  match inputs.identity evaluation with
  | .ok identity => identity.or evaluation.result.instrumentIdentity
  | .error _ => none

structure RuntimeDecisionResult (F : Type) where
  canonicalSignals : List (CanonicalStrategySignal F)
  arbitration : ArbitrationResult F

namespace RuntimeStrategyToDecision

/-- The loop over the evaluations, with the signal ids seen so far. -/
def canonicalSignals (inputs : TickInputs F) (seenSignalIds : List String) :
    List RuntimeStrategyEvaluation → Except Raised (List (CanonicalStrategySignal F))
  | [] => .ok []
  | evaluation :: rest => do
    let signalId ← evaluation.signalId
    if signalId ∈ seenSignalIds then .error ⟨.valueError, "RUNTIME_DUPLICATE_SIGNAL_ID"⟩
    else do
      let identity ← inputs.identity evaluation
      let signal ← signalToCanonical evaluation.result
        ⟨signalId, evaluation.trackId, inputs.price, inputs.timestamp⟩ identity
      let signals ← canonicalSignals inputs (signalId :: seenSignalIds) rest
      .ok (signal :: signals)

def arbitrate (inputs : TickInputs F) (evaluations : List RuntimeStrategyEvaluation) :
    Except Raised (RuntimeDecisionResult F) := do
  let signals ← canonicalSignals inputs [] evaluations
  .ok ⟨signals, DecisionArbiter.arbitrate signals⟩

/-- The signal is what the tick makes of the evaluation. -/
def IsCanonical (inputs : TickInputs F) (evaluation : RuntimeStrategyEvaluation)
    (signal : CanonicalStrategySignal F) : Prop :=
  evaluation.trackId ≠ "" ∧ ∃ identity, inputs.identity evaluation = .ok identity ∧
    signalToCanonical evaluation.result
      ⟨evaluation.idText "SIG-", evaluation.trackId, inputs.price, inputs.timestamp⟩ identity =
        .ok signal

variable {inputs : TickInputs F} {evaluation : RuntimeStrategyEvaluation}
  {evaluations : List RuntimeStrategyEvaluation} {seen : List String}
  {signal : CanonicalStrategySignal F} {signals : List (CanonicalStrategySignal F)}
  {result : RuntimeDecisionResult F}

theorem IsCanonical.signalId (canonical : IsCanonical inputs evaluation signal) :
    signal.signalId = evaluation.idText "SIG-" := by
  obtain ⟨-, identity, -, returned⟩ := canonical
  obtain ⟨-, -, proposal, instrument, -, -, -, -, same⟩ := signalToCanonical_spec returned
  rw [same]
  simp

theorem IsCanonical.trackId (canonical : IsCanonical inputs evaluation signal) :
    signal.trackId = evaluation.trackId := by
  obtain ⟨-, identity, -, returned⟩ := canonical
  obtain ⟨-, -, proposal, instrument, -, -, -, -, same⟩ := signalToCanonical_spec returned
  rw [same]
  simp

theorem IsCanonical.proposal (canonical : IsCanonical inputs evaluation signal) :
    ∃ proposal, evaluation.result.executionProposal = some proposal ∧
      proposal.assetType = signal.assetType.value ∧ signal.qty = proposal.proposedQuantity := by
  obtain ⟨-, identity, -, returned⟩ := canonical
  obtain ⟨-, -, proposal, instrument, proposed, typed, -, -, same⟩ :=
    signalToCanonical_spec returned
  exact ⟨proposal, proposed, typed, by rw [same]⟩

/-- A futures signal names no contract. -/
theorem IsCanonical.futures (canonical : IsCanonical inputs evaluation signal)
    (futures : signal.assetType = .futures) : signal.symbol = "" := by
  obtain ⟨-, identity, -, returned⟩ := canonical
  obtain ⟨-, -, proposal, instrument, -, -, -, found, same⟩ := signalToCanonical_spec returned
  rw [futures] at found
  cases found
  rw [same]

/-- An option signal has the data of its resolved identity. -/
theorem IsCanonical.option (canonical : IsCanonical inputs evaluation signal)
    (option : signal.assetType = .option) :
    ∃ identity, inputs.resolved evaluation = some identity ∧
      signal.symbol = identity.symbol ∧ signal.expiry = orEmpty identity.expiry ∧
      signal.optionType ≠ none ∧
      ∃ strike, identity.strike = some strike ∧ signal.strike = PythonFloat.ofDecimal strike := by
  obtain ⟨-, given, provided, returned⟩ := canonical
  obtain ⟨-, -, proposal, instrument, -, -, -, found, same⟩ := signalToCanonical_spec returned
  rw [option] at found
  obtain ⟨identity, resolved, taken⟩ := signalInstrument_option found
  obtain ⟨text, optionType, -, -, typed⟩ := taken.optionType
  obtain ⟨value, struck, strike⟩ := taken.strike
  refine ⟨identity, ?_, ?_, ?_, ?_, value, struck, ?_⟩
  · simp [TickInputs.resolved, provided, resolved]
  · rw [same, taken.symbol]
  · rw [same, taken.expiry]
  · rw [same]
    simp [typed]
  · rw [same, strike]

/-- Each evaluation has its own canonical signal, under an id that no other has. -/
theorem canonicalSignals_spec (returned : canonicalSignals inputs seen evaluations = .ok signals) :
    List.Forall₂ (IsCanonical inputs) evaluations signals ∧
      (evaluations.map (·.idText "SIG-")).Nodup ∧
      ∀ evaluation ∈ evaluations, evaluation.idText "SIG-" ∉ seen := by
  induction evaluations generalizing seen signals with
  | nil =>
    cases returned
    simp
  | cons evaluation rest ih =>
    obtain ⟨signalId, identified, returned⟩ := bind_eq_ok.mp returned
    obtain ⟨tracked, rfl⟩ := RuntimeStrategyEvaluation.signalId_eq_ok.mp identified
    obtain ⟨fresh, returned⟩ := ite_error_eq_ok.mp returned
    obtain ⟨identity, resolved, returned⟩ := bind_eq_ok.mp returned
    obtain ⟨signal, canonical, returned⟩ := bind_eq_ok.mp returned
    obtain ⟨later, collected, returned⟩ := bind_eq_ok.mp returned
    cases returned
    obtain ⟨each, nodup, unseen⟩ := ih collected
    refine ⟨.cons ⟨tracked, identity, resolved, canonical⟩ each, ?_, ?_⟩
    · rw [List.map_cons, List.nodup_cons]
      refine ⟨fun repeated => ?_, nodup⟩
      obtain ⟨other, member, same⟩ := List.mem_map.mp repeated
      exact unseen other member (by simp [same])
    · intro other member
      rcases List.mem_cons.mp member with rfl | member
      · exact fresh
      · exact fun old => unseen other member (List.mem_cons_of_mem _ old)

/-- A tick that is arbitrated has one canonical signal for each evaluation. -/
theorem arbitrate_spec (returned : arbitrate inputs evaluations = .ok result) :
    List.Forall₂ (IsCanonical inputs) evaluations result.canonicalSignals ∧
      (evaluations.map (·.idText "SIG-")).Nodup ∧
      result.arbitration = DecisionArbiter.arbitrate result.canonicalSignals := by
  obtain ⟨signals, collected, same⟩ := bind_eq_ok.mp returned
  cases same
  obtain ⟨each, nodup, -⟩ := canonicalSignals_spec collected
  exact ⟨each, nodup, rfl⟩

theorem approved_subperm (returned : arbitrate inputs evaluations = .ok result) :
    result.arbitration.approvedSignals.Subperm result.canonicalSignals := by
  rw [(arbitrate_spec returned).2.2]
  exact DecisionArbiter.approvedSignals_subperm

end RuntimeStrategyToDecision

/-! ## The commands of a tick -/

namespace RuntimeDecisionCommand

/-- The evaluations by their signal ids. -/
def contexts (known : Dict String RuntimeStrategyEvaluation) :
    List RuntimeStrategyEvaluation → Except Raised (Dict String RuntimeStrategyEvaluation)
  | [] => .ok known
  | evaluation :: rest => do
    let signalId ← evaluation.signalId
    if known.contains signalId then .error ⟨.valueError, "RUNTIME_DUPLICATE_SIGNAL_ID"⟩
    else contexts (known.set signalId evaluation) rest

omit [PythonFloat F] in
def buildCommand (known : Dict String RuntimeStrategyEvaluation)
    (signal : CanonicalStrategySignal F) : Except Raised (CanonicalOrderCommand F) :=
  match known.get? signal.signalId with
  | none => .error ⟨.valueError, "RUNTIME_APPROVED_SIGNAL_CONTEXT_REQUIRED"⟩
  | some evaluation =>
    if evaluation.trackId ≠ signal.trackId then
      .error ⟨.valueError, "RUNTIME_TRACK_ID_CONTEXT_MISMATCH"⟩
    else do
      let clientOrderId ← evaluation.runtimeContext.clientOrderId evaluation.trackId
      approvedSignalToCommand signal ⟨clientOrderId⟩

omit [PythonFloat F] in
def buildCommands (evaluations : List RuntimeStrategyEvaluation)
    (approvedSignals : List (CanonicalStrategySignal F)) :
    Except Raised (List (CanonicalOrderCommand F)) := do
  let known ← contexts .empty evaluations
  approvedSignals.mapM (buildCommand known)

/-- Evaluations with ids of their own are all taken up under them. -/
theorem contexts_eq_ok {known : Dict String RuntimeStrategyEvaluation}
    {evaluations : List RuntimeStrategyEvaluation}
    (tracked : ∀ evaluation ∈ evaluations, evaluation.trackId ≠ "")
    (fresh : known.Fresh (·.idText "SIG-") evaluations) :
    contexts known evaluations = .ok (known.setEach (·.idText "SIG-") evaluations) := by
  induction evaluations generalizing known with
  | nil => rfl
  | cons first rest ih =>
    obtain ⟨tracked, trackedRest⟩ := List.forall_mem_cons.mp tracked
    have identified := RuntimeStrategyEvaluation.signalId_eq_ok.mpr ⟨tracked, rfl⟩
    have new : known.get? (first.idText "SIG-") = none := fresh.new first List.mem_cons_self
    rw [contexts, identified]
    simpa [Dict.contains, Dict.setEach_cons, new, bind, Except.bind] using
      ih trackedRest (fresh.set first)

end RuntimeDecisionCommand
end OptionProject.Decision
