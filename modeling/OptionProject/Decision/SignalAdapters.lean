import OptionProject.Decision.RiskKeys

/-!
# The other conversion of signals

`core/strategy/canonical_signal_adapter.py` converts strategy signals as the orchestrator does, and
`core/oms/canonical_order_command_adapter.py` makes commands of converted signals. Only the first
takes over the instrument id, without which the second makes no command.

## Main definitions

* `CanonicalSignalAdapter.signalToCanonical` — the other conversion.
* `CanonicalOrderCommandAdapter.create` — the command of a converted signal.
* `Describes` — an identity that a proposed option can have.

## Main results

* `conversions_agree_iff` — the inputs on which both conversions do the same.
* `orchestrator_signal_refused`, `adapter_option_accepted` — which signals become commands.
-/
namespace OptionProject.Decision
open Library Contracts

variable {F : Type} [PythonFloat F]

/-! ## The other conversion -/

namespace CanonicalSignalAdapter

/-- The signal and the runtime both name an instrument, and not the same one. -/
def IdentityMismatch (signalIdentity instrumentIdentity : Option OptionInstrumentIdentity) : Prop :=
  signalIdentity ≠ none ∧ instrumentIdentity ≠ none ∧ signalIdentity ≠ instrumentIdentity

instance (signalIdentity instrumentIdentity : Option OptionInstrumentIdentity) :
    Decidable (IdentityMismatch signalIdentity instrumentIdentity) :=
  inferInstanceAs (Decidable (_ ∧ _ ∧ _))

def agreedIdentity (signalIdentity instrumentIdentity : Option OptionInstrumentIdentity) :
    Except Raised (Option OptionInstrumentIdentity) :=
  if IdentityMismatch signalIdentity instrumentIdentity then
    .error ⟨.valueError, "OPTION_IDENTITY_MISMATCH"⟩
  else .ok (signalIdentity.or instrumentIdentity)

/-- Only options name their instrument. -/
def instrumentId (assetType : CanonicalAssetType) (identity : Option OptionInstrumentIdentity) :
    String :=
  match assetType, identity with
  | .option, some identity => identity.instrumentId
  | _, _ => ""

def signalToCanonical (signal : Signal) (runtime : RuntimeSignalContext F)
    (instrumentIdentity : Option OptionInstrumentIdentity) :
    Except Raised (CanonicalStrategySignal F) := do
  let signalId ← requireNonEmpty runtime.signalId "SIGNAL_ID"
  let trackId ← requireNonEmpty runtime.trackId "TRACK_ID"
  match signal.executionProposal with
  | none => .error ⟨.valueError, "EXECUTION_PROPOSAL_REQUIRED"⟩
  | some proposal => do
    let () ← checkProposal proposal
    let assetType ← canonicalAssetType proposal.assetType
    let side ← canonicalOrderSide (orEmpty proposal.side)
    let identity ← agreedIdentity signal.instrumentIdentity instrumentIdentity
    let instrument ← signalInstrument assetType proposal identity
    .ok
      { signalId, trackId, assetType, side
        qty := proposal.proposedQuantity
        price := runtime.price
        optionType := instrument.optionType
        strike := instrument.strike
        tagId := orEmpty proposal.tagId
        reason := signal.reason
        timestamp := runtime.timestamp
        symbol := instrument.symbol
        expiry := instrument.expiry
        instrumentId := instrumentId assetType identity }

end CanonicalSignalAdapter

/-! ## Commands of converted signals -/

namespace CanonicalOrderCommandAdapter

/-- `number <= 0`. -/
abbrev IsNonPositive (F : Type) := F → Bool

omit [PythonFloat F] in
/-- Only options must name their contract. -/
def checkContract (nonPositive : IsNonPositive F) (signal : CanonicalStrategySignal F) :
    Except Raised Unit :=
  match signal.assetType with
  | .futures => .ok ()
  | .option =>
    if signal.symbol = "" ∨ signal.expiry = "" then
      .error ⟨.valueError, "OPTION_SYMBOL_EXPIRY_REQUIRED"⟩
    else if signal.optionType = none then .error ⟨.valueError, "OPTION_TYPE_REQUIRED"⟩
    else if nonPositive signal.strike then .error ⟨.valueError, "STRIKE_REQUIRED"⟩
    else .ok ()

omit [PythonFloat F] in
/-- Raises a `CanonicalOrderCommandValidationError`, which is a `ValueError`. -/
def create (nonPositive : IsNonPositive F) (signal : CanonicalStrategySignal F)
    (runtime : RuntimeExecutionContext) : Except Raised (CanonicalOrderCommand F) :=
  if signal.qty ≤ 0 then .error ⟨.valueError, "QUANTITY_REQUIRED"⟩
  else if nonPositive signal.price then .error ⟨.valueError, "PRICE_REQUIRED"⟩
  else if signal.trackId = "" then .error ⟨.valueError, "TRACK_ID_REQUIRED"⟩
  else if signal.instrumentId = "" then
    .error ⟨.valueError, "AUTHORITATIVE_INSTRUMENT_ID_REQUIRED"⟩
  else do
    let clientOrderId ← runtime.clientOrderId signal.trackId
    let () ← checkContract nonPositive signal
    .ok (commandOf signal clientOrderId)

/-- What a command asks of a signal. -/
structure Commandable (nonPositive : IsNonPositive F) (signal : CanonicalStrategySignal F) :
    Prop where
  qty_pos : 0 < signal.qty
  price : nonPositive signal.price = false
  trackId : signal.trackId ≠ ""
  instrumentId : signal.instrumentId ≠ ""
  contract : checkContract nonPositive signal = .ok ()

end CanonicalOrderCommandAdapter

/-! ## Agreement -/

/-- Both computations raise, or both return the same. -/
def Agree {ε α : Type} (first second : Except ε α) : Prop :=
  first.toOption = second.toOption

theorem agree_iff {ε α : Type} {first second : Except ε α} :
    Agree first second ↔ ∀ a, first = .ok a ↔ second = .ok a := by
  rw [Agree]
  cases first <;> cases second <;> simp [Except.toOption, eq_comm]

/-- Computations with a common first step agree when their second steps do. -/
theorem agree_bind {ε α β : Type} {x : Except ε α} {f g : α → Except ε β} :
    Agree (x >>= f) (x >>= g) ↔ ∀ a, x = .ok a → Agree (f a) (g a) := by
  cases x with
  | error e => exact iff_of_true rfl fun a returned => nomatch returned
  | ok a =>
    constructor
    · rintro agree _ ⟨⟩
      exact agree
    · intro agree
      exact agree a rfl

/-- An identity under which the option of a proposal can be traded. -/
structure Describes (identity : OptionInstrumentIdentity) (proposal : StrategyExecutionProposal) :
    Prop where
  instrumentId : identity.instrumentId ≠ ""
  symbol : identity.symbol ≠ ""
  expiry : orEmpty identity.expiry ≠ ""
  optionType : ∃ optionType : CanonicalOptionType, identity.optionType = some optionType.value ∧
    (proposal.optionType = none ∨ proposal.optionType = some optionType.value)
  strike : ∃ strike, identity.strike = some strike ∧
    (proposal.strike = none ∨ proposal.strike = some strike)

/-- The signal can be converted as far as its ids and the side of its proposal go. -/
structure Convertible (signal : Signal) (runtime : RuntimeSignalContext F)
    (proposal : StrategyExecutionProposal) : Prop where
  signalId : strip runtime.signalId ≠ ""
  trackId : strip runtime.trackId ≠ ""
  proposed : signal.executionProposal = some proposal
  side : ∃ side : Side, proposal.side = some (sideText side)

/-- An option can be converted with the identities that describe it. -/
theorem signalInstrument_isOk_iff {proposal : StrategyExecutionProposal}
    {given : Option OptionInstrumentIdentity} :
    (∃ instrument : SignalInstrument F, signalInstrument .option proposal given = .ok instrument) ↔
      ∃ identity ∈ given, Describes identity proposal := by
  constructor
  · rintro ⟨instrument, returned⟩
    obtain ⟨identity, rfl, taken⟩ := signalInstrument_option returned
    obtain ⟨text, optionType, typed, read, -⟩ := taken.optionType
    obtain ⟨value, struck, -⟩ := taken.strike
    obtain ⟨complete, returned⟩ := ite_error_eq_ok.mp returned
    rw [typed, struck] at returned
    obtain ⟨sameType, returned⟩ := ite_error_eq_ok.mp returned
    obtain ⟨sameStrike, -⟩ := ite_error_eq_ok.mp returned
    cases canonicalOptionType_eq_ok.mp read
    exact ⟨identity, rfl, fun empty => complete (.inl empty), taken.symbol_ne, taken.expiry_ne,
      ⟨optionType, typed, by grind⟩, value, struck, by grind⟩
  · rintro ⟨identity, rfl, described⟩
    obtain ⟨optionType, typed, sameType⟩ := described.optionType
    obtain ⟨strike, struck, sameStrike⟩ := described.strike
    let instrument : SignalInstrument F :=
      ⟨some optionType, PythonFloat.ofDecimal strike, identity.symbol, orEmpty identity.expiry⟩
    refine ⟨instrument, ite_error_eq_ok.mpr ⟨?_, ?_⟩⟩
    · exact not_or.mpr ⟨described.instrumentId, not_or.mpr ⟨described.symbol, described.expiry⟩⟩
    · rw [typed, struck]
      refine ite_error_eq_ok.mpr ⟨by grind, ite_error_eq_ok.mpr ⟨by grind, ?_⟩⟩
      exact bind_eq_ok.mpr ⟨optionType, canonicalOptionType_eq_ok.mpr rfl, rfl⟩

open CanonicalSignalAdapter CanonicalOrderCommandAdapter

/-- An agreed identity is the one that the orchestrator takes. -/
theorem agreedIdentity_eq_ok
    {signalIdentity instrumentIdentity identity : Option OptionInstrumentIdentity} :
    agreedIdentity signalIdentity instrumentIdentity = .ok identity ↔
      ¬IdentityMismatch signalIdentity instrumentIdentity ∧
        instrumentIdentity.or signalIdentity = identity := by
  rw [agreedIdentity, ite_error_eq_ok, Except.ok.injEq]
  refine and_congr_right fun agreed => ?_
  rw [IdentityMismatch] at agreed
  cases signalIdentity <;> cases instrumentIdentity <;> grind

section
variable {α : Type} (build : SignalInstrument F → String → α)
  {proposal : StrategyExecutionProposal}
  {signalIdentity instrumentIdentity : Option OptionInstrumentIdentity}

/-- What the orchestrator makes of the instrument. -/
def orchestratorInstrument (build : SignalInstrument F → String → α)
    (proposal : StrategyExecutionProposal) (assetType : CanonicalAssetType)
    (signalIdentity instrumentIdentity : Option OptionInstrumentIdentity) : Except Raised α := do
  let instrument ← signalInstrument assetType proposal (instrumentIdentity.or signalIdentity)
  .ok (build instrument "")

/-- What the adapter makes of it. -/
def adapterInstrument (build : SignalInstrument F → String → α)
    (proposal : StrategyExecutionProposal) (assetType : CanonicalAssetType)
    (signalIdentity instrumentIdentity : Option OptionInstrumentIdentity) : Except Raised α := do
  let identity ← agreedIdentity signalIdentity instrumentIdentity
  let instrument ← signalInstrument assetType proposal identity
  .ok (build instrument (instrumentId assetType identity))

theorem futures_agree_iff :
    Agree (orchestratorInstrument build proposal .futures signalIdentity instrumentIdentity)
        (adapterInstrument build proposal .futures signalIdentity instrumentIdentity) ↔
      ¬IdentityMismatch signalIdentity instrumentIdentity := by
  unfold adapterInstrument agreedIdentity
  split
  next mismatch => exact iff_of_false nofun (not_not_intro mismatch)
  next agreed => exact iff_of_true rfl agreed

/-- An option that the orchestrator converts loses its instrument id. -/
theorem option_agree_iff (named : ∀ instrument id id', build instrument id = build instrument id' →
      id = id') :
    Agree (orchestratorInstrument build proposal .option signalIdentity instrumentIdentity)
        (adapterInstrument build proposal .option signalIdentity instrumentIdentity) ↔
      ∀ identity ∈ instrumentIdentity.or signalIdentity, ¬Describes identity proposal := by
  rw [agree_iff]
  constructor
  · intro agree identity resolved described
    obtain ⟨instrument, found⟩ :=
      signalInstrument_isOk_iff (F := F) |>.mpr ⟨identity, resolved, described⟩
    have returned := (agree _).mp (bind_eq_ok.mpr ⟨instrument, found, rfl⟩)
    obtain ⟨identity', agreed, returned⟩ := bind_eq_ok.mp returned
    obtain ⟨-, rfl⟩ := agreedIdentity_eq_ok.mp agreed
    obtain ⟨instrument', found', built⟩ := bind_eq_ok.mp returned
    cases found.symm.trans found'
    have named := named _ _ _ (Except.ok.inj built)
    rw [resolved] at named
    exact described.instrumentId named
  · intro undescribed a
    have unfounded : ∀ instrument : SignalInstrument F,
        signalInstrument .option proposal (instrumentIdentity.or signalIdentity) ≠
          .ok instrument := by
      intro instrument found
      obtain ⟨identity, resolved, described⟩ := signalInstrument_isOk_iff.mp ⟨instrument, found⟩
      exact undescribed identity resolved described
    -- neither of them finds an instrument
    refine iff_of_false (fun returned => ?_) fun returned => ?_
    · obtain ⟨instrument, found, -⟩ := bind_eq_ok.mp returned
      exact unfounded instrument found
    · obtain ⟨identity, agreed, returned⟩ := bind_eq_ok.mp returned
      obtain ⟨-, rfl⟩ := agreedIdentity_eq_ok.mp agreed
      obtain ⟨instrument, found, -⟩ := bind_eq_ok.mp returned
      exact unfounded instrument found

end

theorem checkProposal_eq_ok {proposal : StrategyExecutionProposal} {checked : Unit} :
    checkProposal proposal = .ok checked ↔ orEmpty proposal.side ≠ "" := by
  rw [checkProposal, if_neg (not_le.mpr proposal.quantity_pos), if_neg proposal.assetType_ne,
    ite_error_eq_ok]
  simp

theorem requireNonEmpty_eq_ok {value fieldName text : String} :
    requireNonEmpty value fieldName = .ok text ↔ strip value ≠ "" ∧ strip value = text := by
  rw [requireNonEmpty, ite_error_eq_ok, Except.ok.injEq]

theorem sideText_ne (side : Side) : sideText side ≠ "" := by
  cases side <;> decide

/-- The canonical signal of what both conversions have read. -/
def canonicalOf (signal : Signal) (runtime : RuntimeSignalContext F)
    (proposal : StrategyExecutionProposal) (assetType : CanonicalAssetType) (side : Side)
    (instrument : SignalInstrument F) (instrumentId : String) : CanonicalStrategySignal F where
  signalId := strip runtime.signalId
  trackId := strip runtime.trackId
  assetType := assetType
  side := side
  qty := proposal.proposedQuantity
  price := runtime.price
  optionType := instrument.optionType
  strike := instrument.strike
  tagId := orEmpty proposal.tagId
  reason := signal.reason
  timestamp := runtime.timestamp
  symbol := instrument.symbol
  expiry := instrument.expiry
  instrumentId := instrumentId

/-- The conversions of the orchestrator and of the adapter do the same exactly on signals that
cannot be converted up to their side, on futures with no two different identities, and on options
whose identity, the runtime's or else the signal's, does not describe them. -/
theorem conversions_agree_iff (signal : Signal) (runtime : RuntimeSignalContext F)
    (instrumentIdentity : Option OptionInstrumentIdentity) :
    Agree (Decision.signalToCanonical signal runtime instrumentIdentity)
        (CanonicalSignalAdapter.signalToCanonical signal runtime instrumentIdentity) ↔
      ∀ proposal, Convertible signal runtime proposal →
        (proposal.assetType = "FUTURES" →
          ¬IdentityMismatch signal.instrumentIdentity instrumentIdentity) ∧
        (proposal.assetType = "OPTION" →
          ∀ identity ∈ instrumentIdentity.or signal.instrumentIdentity,
            ¬Describes identity proposal) := by
  constructor
  · intro agree proposal convertible
    obtain ⟨side, sided⟩ := convertible.side
    have sided : orEmpty proposal.side = sideText side := by rw [sided, orEmpty]
    have agree := agree_bind.mp agree _ (requireNonEmpty_eq_ok.mpr ⟨convertible.signalId, rfl⟩)
    have agree := agree_bind.mp agree _ (requireNonEmpty_eq_ok.mpr ⟨convertible.trackId, rfl⟩)
    rw [convertible.proposed] at agree
    have agree := agree_bind.mp agree () (checkProposal_eq_ok.mpr (sided ▸ sideText_ne side))
    have agree (assetType : CanonicalAssetType) (typed : proposal.assetType = assetType.value) :=
      agree_bind.mp (agree_bind.mp agree assetType (canonicalAssetType_eq_ok.mpr typed)) side
        (canonicalOrderSide_eq_ok.mpr sided)
    refine ⟨fun futures => ?_, fun option => ?_⟩
    · exact (futures_agree_iff (canonicalOf signal runtime proposal .futures side)).mp
        (agree .futures futures)
    · exact (option_agree_iff (canonicalOf signal runtime proposal .option side)
        fun _ _ _ => congrArg CanonicalStrategySignal.instrumentId).mp (agree .option option)
  · intro holds
    refine agree_bind.mpr fun signalId identified => agree_bind.mpr fun trackId tracked => ?_
    obtain ⟨signalId_ne, rfl⟩ := requireNonEmpty_eq_ok.mp identified
    obtain ⟨trackId_ne, rfl⟩ := requireNonEmpty_eq_ok.mp tracked
    cases proposed : signal.executionProposal with
    | none => rfl
    | some proposal =>
      refine agree_bind.mpr fun _ checked => agree_bind.mpr fun assetType typed =>
        agree_bind.mpr fun side sided => ?_
      have typed := canonicalAssetType_eq_ok.mp typed
      have sided := canonicalOrderSide_eq_ok.mp sided
      have given : proposal.side = some (sideText side) := by
        cases given : proposal.side with
        | none =>
          rw [given] at sided
          exact absurd sided.symm (sideText_ne side)
        | some text => rw [← sided, given, orEmpty]
      obtain ⟨futures, option⟩ := holds proposal ⟨signalId_ne, trackId_ne, proposed, side, given⟩
      cases assetType with
      | futures =>
        exact (futures_agree_iff (canonicalOf signal runtime proposal .futures side)).mpr
          (futures typed)
      | option =>
        exact (option_agree_iff (canonicalOf signal runtime proposal .option side)
          fun _ _ _ => congrArg CanonicalStrategySignal.instrumentId).mpr (option typed)

/-- The signal of `FENCE_BUILD` names its instrument. -/
theorem instrument_id_lost :
    let runtime : RuntimeSignalContext WholeFloat :=
      ⟨"SIG-77-Track1-1", "Track1", ⟨2⟩, "10:00:00"⟩
    let fenceBuild := optionEvaluation.result
    let instrumentIds (converted : Except Raised (CanonicalStrategySignal WholeFloat)) :=
      converted.map (·.instrumentId)
    instrumentIds (Decision.signalToCanonical fenceBuild runtime none) = .ok "" ∧
      instrumentIds (CanonicalSignalAdapter.signalToCanonical fenceBuild runtime none) =
        .ok "KRX-OPT-350-C-2026-10" ∧
      ¬Agree (Decision.signalToCanonical fenceBuild runtime none)
        (CanonicalSignalAdapter.signalToCanonical fenceBuild runtime none) := by
  refine ⟨by decide +kernel, by decide +kernel, ?_⟩
  unfold Agree
  decide +kernel

/-! ## Converted signals as commands -/

section
variable {signal : Signal} {runtime : RuntimeSignalContext F} {nonPositive : IsNonPositive F}
  {instrumentIdentity : Option OptionInstrumentIdentity} {canonical : CanonicalStrategySignal F}

omit [PythonFloat F] in
theorem create_eq_ok {context : RuntimeExecutionContext} {command : CanonicalOrderCommand F} :
    create nonPositive canonical context = .ok command ↔ Commandable nonPositive canonical ∧
      ∃ clientOrderId, context.clientOrderId canonical.trackId = .ok clientOrderId ∧
        commandOf canonical clientOrderId = command := by
  simp only [create, ite_error_eq_ok, bind_eq_ok, not_le, Except.ok.injEq, Bool.not_eq_true]
  constructor
  · rintro ⟨qty, price, trackId, instrumentId, clientOrderId, identified, checked, contract, same⟩
    exact ⟨⟨qty, price, trackId, instrumentId, contract⟩, clientOrderId, identified, same⟩
  · rintro ⟨⟨qty, price, trackId, instrumentId, contract⟩, clientOrderId, identified, same⟩
    exact ⟨qty, price, trackId, instrumentId, clientOrderId, identified, (), contract, same⟩

/-- No signal that the orchestrator converts becomes a command here. -/
theorem orchestrator_signal_refused {context : RuntimeExecutionContext}
    {command : CanonicalOrderCommand F}
    (returned : Decision.signalToCanonical signal runtime instrumentIdentity = .ok canonical) :
    create nonPositive canonical context ≠ .ok command := by
  intro created
  obtain ⟨-, -, proposal, instrument, -, -, -, -, same⟩ := signalToCanonical_spec returned
  exact (create_eq_ok.mp created).1.instrumentId (by rw [same])

/-- An option that the adapter converts does, when its price and strike are positive. -/
theorem adapter_option_accepted (context : RuntimeExecutionContext)
    (returned : CanonicalSignalAdapter.signalToCanonical signal runtime instrumentIdentity =
      .ok canonical)
    (option : canonical.assetType = .option) (priced : nonPositive canonical.price = false)
    (struck : nonPositive canonical.strike = false) :
    ∃ command, create nonPositive canonical context = .ok command := by
  obtain ⟨signalId, -, returned⟩ := bind_eq_ok.mp returned
  obtain ⟨trackId, tracked, returned⟩ := bind_eq_ok.mp returned
  obtain ⟨trackId_ne, rfl⟩ := requireNonEmpty_eq_ok.mp tracked
  split at returned
  next => cases returned
  next proposal proposed =>
    obtain ⟨_, -, returned⟩ := bind_eq_ok.mp returned
    obtain ⟨assetType, -, returned⟩ := bind_eq_ok.mp returned
    obtain ⟨side, -, returned⟩ := bind_eq_ok.mp returned
    obtain ⟨given, -, returned⟩ := bind_eq_ok.mp returned
    obtain ⟨instrument, found, returned⟩ := bind_eq_ok.mp returned
    cases returned
    cases option
    obtain ⟨identity, rfl, described⟩ := signalInstrument_isOk_iff.mp ⟨instrument, found⟩
    obtain ⟨_, ⟨⟩, taken⟩ := signalInstrument_option found
    obtain ⟨-, optionType, -, -, typed⟩ := taken.optionType
    obtain ⟨clientOrderId, identified⟩ :
        ∃ id, context.clientOrderId (strip runtime.trackId) = .ok id := by
      simp [RuntimeExecutionContext.clientOrderId, RuntimeExecutionContext.identifier, strip_strip,
        trackId_ne]
    refine ⟨_, create_eq_ok.mpr ⟨⟨proposal.quantity_pos, priced, trackId_ne,
      described.instrumentId, ?_⟩, clientOrderId, identified, rfl⟩⟩
    simp [checkContract, taken.symbol, taken.expiry, described.symbol, described.expiry, typed,
      struck]

end

end OptionProject.Decision
