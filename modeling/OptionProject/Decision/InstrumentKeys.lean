import OptionProject.Decision.Arbiter
import OptionProject.Decision.Commands

/-!
# Two keys of an instrument

The arbiter keys a signal by asset type, strike and option type; the risk gate keys an option by
its symbol, expiry, option type and strike. The second key is finer than the first.

## Main results

* `instrumentKey_eq_iff`, `optionRiskKey_eq_iff` — what each key tells apart.
* `riskKey_refines_instrumentKey` — the two keys compared, and what a clash is about.
-/
namespace OptionProject.Decision
open Library Contracts DecisionArbiter CanonicalRiskCommandAdapter

variable {F : Type} [PythonFloat F] {first second : CanonicalStrategySignal F}
  {context context' : DecisionCommandContext} {command command' : CanonicalOrderCommand F}

/-! ## The key of the arbiter -/

theorem optionTypeText_injective : Function.Injective optionTypeText := by
  intro optionType optionType'
  rcases optionType with _ | _ | _ <;> rcases optionType' with _ | _ | _ <;>
    simp [optionTypeText, CanonicalOptionType.value]

theorem optionTypeText_free (optionType : Option CanonicalOptionType) :
    '_' ∉ (optionTypeText optionType).toList := by
  rcases optionType with _ | _ | _ <;> decide

/-- The arbiter tells instruments apart by asset type, printed strike and option type only. -/
theorem instrumentKey_eq_iff :
    instrumentKey first = instrumentKey second ↔
      first.assetType = second.assetType ∧
        PythonFloat.text first.strike = PythonFloat.text second.strike ∧
        first.optionType = second.optionType := by
  unfold instrumentKey
  rw [lastSeparator_inj '_' rfl (optionTypeText_free _) (optionTypeText_free _),
    firstSeparator_inj '_' rfl (CanonicalAssetType.value_free _).1
      (CanonicalAssetType.value_free _).1,
    CanonicalAssetType.value_injective.eq_iff, optionTypeText_injective.eq_iff, and_assoc]

/-! ## The key of the risk gate -/

/-- The key of an option as the risk gate writes it. -/
def optionRiskKey (signal : CanonicalStrategySignal F) (optionType : CanonicalOptionType) :
    String :=
  CanonicalAssetType.option.value ++ ":" ++ (signal.symbol ++ ":" ++ signal.expiry) ++ ":" ++
    optionType.value ++ ":" ++ PythonFloat.text signal.strike

/-- The command of an option with a strike has a key. -/
theorem getInstrumentKey_of_built (option : first.assetType = .option)
    (built : approvedSignalToCommand first context = .ok command)
    (strike : PythonFloat.isZero first.strike = false) :
    ∃ optionType, first.optionType = some optionType ∧
      (fromCommand command).getInstrumentKey = .ok (optionRiskKey first optionType) := by
  obtain ⟨transportable, -, rfl⟩ := approvedSignalToCommand_eq_ok.mp built
  obtain ⟨optionType, typed⟩ := Option.ne_none_iff_exists'.mp (transportable.optionType option)
  have symbol : first.symbol ≠ "" := by
    intro blank
    exact transportable.symbol option (by rw [blank]; rfl)
  have expiry : first.expiry ≠ "" := by
    intro blank
    exact transportable.expiry option (by rw [blank]; rfl)
  refine ⟨optionType, typed, ?_⟩
  simp [getInstrumentKey, fromCommand, commandOf, option, typed, symbol, expiry, strike,
    optionRiskKey, String.append_assoc]

/-- When the command of a signal has a key. -/
theorem getInstrumentKey_returns_iff (built : approvedSignalToCommand first context = .ok command) :
    (∃ key, (fromCommand command).getInstrumentKey = .ok key) ↔
      first.assetType = .option ∧ PythonFloat.isZero first.strike = false ∨
        first.assetType = .futures ∧ first.symbol ≠ "" := by
  cases typed : first.assetType with
  | option =>
    constructor
    · rintro ⟨key, found⟩
      obtain ⟨-, -, rfl⟩ := approvedSignalToCommand_eq_ok.mp built
      refine .inl ⟨rfl, Bool.eq_false_iff.mpr fun zero => ?_⟩
      cases optionType : first.optionType <;>
        simp [getInstrumentKey, fromCommand, commandOf, typed, optionType, zero] at found
    · rintro (⟨-, strike⟩ | ⟨futures, -⟩)
      · obtain ⟨optionType, -, key⟩ := getInstrumentKey_of_built typed built strike
        exact ⟨_, key⟩
      · cases futures
  | futures =>
    obtain ⟨-, -, rfl⟩ := approvedSignalToCommand_eq_ok.mp built
    by_cases symbol : first.symbol = "" <;>
      simp [getInstrumentKey, fromCommand, commandOf, typed, symbol]

/-- The risk gate tells options apart by symbol and expiry too. -/
theorem optionRiskKey_eq_iff {optionType optionType' : CanonicalOptionType} :
    optionRiskKey first optionType = optionRiskKey second optionType' ↔
      first.symbol ++ ":" ++ first.expiry = second.symbol ++ ":" ++ second.expiry ∧
        optionType = optionType' ∧
        PythonFloat.text first.strike = PythonFloat.text second.strike := by
  unfold optionRiskKey
  rw [lastSeparator_inj ':' rfl (PythonFloat.colon_free _) (PythonFloat.colon_free _),
    lastSeparator_inj ':' rfl (CanonicalOptionType.value_free _)
      (CanonicalOptionType.value_free _),
    firstSeparator_inj ':' rfl (CanonicalAssetType.value_free _).2
      (CanonicalAssetType.value_free _).2,
    CanonicalOptionType.value_injective.eq_iff, and_assoc]
  simp

/-! ## The keys compared -/

/-- What two signals share when one is rejected because of the other. -/
structure Clash (kept rejected : CanonicalStrategySignal F) : Prop where
  assetType : rejected.assetType = kept.assetType
  strike : PythonFloat.text rejected.strike = PythonFloat.text kept.strike
  optionType : rejected.optionType = kept.optionType
  side : rejected.side ≠ kept.side

theorem clash_of_rejected {signals : List (CanonicalStrategySignal F)}
    {entry : CanonicalStrategySignal F × String}
    (rejected : entry ∈ (arbitrate signals).rejectedSignals) :
    ∃ kept ∈ (arbitrate signals).approvedSignals,
      Clash kept entry.1 ∧ entry.2 = rejectionReason kept := by
  rw [rejectedSignals_eq] at rejected
  obtain ⟨signal, drop, rfl⟩ := List.mem_map.mp rejected
  obtain ⟨given, side, -⟩ := of_mem_dropped drop
  obtain ⟨assetType, strike, optionType⟩ :=
    instrumentKey_eq_iff.mp (instrumentKey_holder given).symm
  exact ⟨holder signals signal, holder_approved given, ⟨assetType, strike, optionType, side⟩, rfl⟩

/-- Options of one risk key have one arbiter key, and options of one arbiter key have one risk
key exactly when they agree on symbol and expiry; a clash is about signals of one arbiter key. -/
theorem riskKey_refines_instrumentKey (option : first.assetType = .option)
    (option' : second.assetType = .option)
    (built : approvedSignalToCommand first context = .ok command)
    (built' : approvedSignalToCommand second context' = .ok command')
    (strike : PythonFloat.isZero first.strike = false)
    (strike' : PythonFloat.isZero second.strike = false) :
    (instrumentKey first = instrumentKey second ↔
      first.optionType = second.optionType ∧
        PythonFloat.text first.strike = PythonFloat.text second.strike) ∧
    (∃ key key', (fromCommand command).getInstrumentKey = .ok key ∧
      (fromCommand command').getInstrumentKey = .ok key' ∧
      (key = key' ↔ instrumentKey first = instrumentKey second ∧
        first.symbol ++ ":" ++ first.expiry = second.symbol ++ ":" ++ second.expiry)) ∧
    ∀ signals : List (CanonicalStrategySignal F), ∀ entry ∈ (arbitrate signals).rejectedSignals,
      ∃ kept ∈ (arbitrate signals).approvedSignals,
        Clash kept entry.1 ∧ entry.2 = rejectionReason kept := by
  have arbiter : instrumentKey first = instrumentKey second ↔
      first.optionType = second.optionType ∧
        PythonFloat.text first.strike = PythonFloat.text second.strike := by
    rw [instrumentKey_eq_iff, option, option']
    simp [and_comm]
  obtain ⟨optionType, typed, key⟩ := getInstrumentKey_of_built option built strike
  obtain ⟨optionType', typed', key'⟩ := getInstrumentKey_of_built option' built' strike'
  refine ⟨arbiter, ⟨_, _, key, key', ?_⟩, fun _ _ => clash_of_rejected⟩
  rw [optionRiskKey_eq_iff, arbiter, typed, typed', Option.some.injEq, and_comm]

/-- One leg of a calendar spread. -/
def calendarLeg (signalId trackId expiry : String) (side : Side) :
    CanonicalStrategySignal WholeFloat where
  signalId := signalId
  trackId := trackId
  assetType := .option
  side := side
  qty := 1
  price := ⟨2⟩
  optionType := some .call
  strike := ⟨350⟩
  symbol := "KRXOPT"
  expiry := expiry

def nearLeg : CanonicalStrategySignal WholeFloat :=
  calendarLeg "SIG-1-Track1-1" "Track1" "2026-10-08" .buy

def farLeg : CanonicalStrategySignal WholeFloat :=
  calendarLeg "SIG-1-Track2-2" "Track2" "2026-11-12" .sell

/-- The legs of a calendar spread are two contracts of one arbiter key. -/
theorem riskKey_refines_instrumentKey_calendar :
    instrumentKey nearLeg = instrumentKey farLeg ∧
      ∃ key key', (fromCommand (commandOf nearLeg "ORD-1")).getInstrumentKey = .ok key ∧
        (fromCommand (commandOf farLeg "ORD-2")).getInstrumentKey = .ok key' ∧ key ≠ key' := by
  have built : approvedSignalToCommand nearLeg ⟨"ORD-1"⟩ = .ok (commandOf nearLeg "ORD-1") := by
    decide
  have built' : approvedSignalToCommand farLeg ⟨"ORD-2"⟩ = .ok (commandOf farLeg "ORD-2") := by
    decide
  have compared := riskKey_refines_instrumentKey rfl rfl built built' (by decide) (by decide)
  obtain ⟨arbiter, ⟨key, key', found, found', same⟩, -⟩ := compared
  have one : instrumentKey nearLeg = instrumentKey farLeg := arbiter.mpr ⟨rfl, rfl⟩
  refine ⟨one, key, key', found, found', fun equal => ?_⟩
  exact absurd (same.mp equal).2 (by decide)

/-- One leg of a calendar spread is rejected because of the other, although the risk gate knows
them as two instruments. -/
theorem calendar_leg_rejected :
    instrumentKey nearLeg = instrumentKey farLeg ∧
      approvedSignalToCommand nearLeg ⟨"ORD-1"⟩ = .ok (commandOf nearLeg "ORD-1") ∧
      approvedSignalToCommand farLeg ⟨"ORD-2"⟩ = .ok (commandOf farLeg "ORD-2") ∧
      (fromCommand (commandOf nearLeg "ORD-1")).getInstrumentKey =
        .ok "OPTION:KRXOPT:2026-10-08:CALL:350.0" ∧
      (fromCommand (commandOf farLeg "ORD-2")).getInstrumentKey =
        .ok "OPTION:KRXOPT:2026-11-12:CALL:350.0" ∧
      (arbitrate [nearLeg, farLeg]).rejectedSignals =
        [(farLeg, "CLASH_NETTING_REJECTED: Subordinate to Track1 (BUY)")] := by
  decide +kernel

end OptionProject.Decision
