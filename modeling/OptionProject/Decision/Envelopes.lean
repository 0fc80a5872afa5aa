import OptionProject.Decision.Arbiter
import OptionProject.Library.Related

/-!
# Signals in their envelopes

`core/decision/decision_arbiter_envelope_adapter.py`: the arbiter gets the signals without their
envelopes, and the envelopes of the approved ones are found again under the signal ids.

## Main definitions

* `indexStrategySignalEnvelopes`, `reconnectApprovedSignalEnvelopes` — the way back to the
  envelopes.
* `RoundTrip` — the approved signals are back in their envelopes.

## Main results

* `RoundTrip.each` — the envelopes that are found on the way back are the original ones.
* `roundTrip_iff` — when they are returned.
-/
namespace OptionProject.Decision
open Library Contracts

variable {F P : Type} [PythonFloat F]

/-- A signal with the provenance that travels beside it. -/
structure StrategySignalEnvelope (F P : Type) where
  signal : CanonicalStrategySignal F
  provenance : P

namespace StrategySignalEnvelope

omit [PythonFloat F] in
def signalId (envelope : StrategySignalEnvelope F P) : String := envelope.signal.signalId

end StrategySignalEnvelope

/-! ## The way to the arbiter -/

omit [PythonFloat F] in
def unwrapStrategySignalEnvelopes (envelopes : List (StrategySignalEnvelope F P)) :
    List (CanonicalStrategySignal F) := envelopes.map (·.signal)

abbrev EnvelopeIndex (F P : Type) := Dict String (StrategySignalEnvelope F P)

omit [PythonFloat F] in
/-- The loop over the envelopes. -/
def indexInto (indexed : EnvelopeIndex F P) :
    List (StrategySignalEnvelope F P) → Except Raised (EnvelopeIndex F P)
  | [] => .ok indexed
  | envelope :: rest =>
    if indexed.contains envelope.signalId then
      .error ⟨.valueError, "DUPLICATE_SIGNAL_ID: " ++ envelope.signalId⟩
    else indexInto (indexed.set envelope.signalId envelope) rest

omit [PythonFloat F] in
def indexStrategySignalEnvelopes (envelopes : List (StrategySignalEnvelope F P)) :
    Except Raised (EnvelopeIndex F P) := indexInto .empty envelopes

/-! ## The way back -/

section
variable [DecidableEq F]

omit [PythonFloat F] in
/-- The envelope of an approved signal. Signals that the arbiter returns are those it was given, and
their ids are different, so `is` is equality here. -/
def envelopeOf (envelopeIndex : EnvelopeIndex F P) (signal : CanonicalStrategySignal F) :
    Except Raised (StrategySignalEnvelope F P) :=
  match envelopeIndex.get? signal.signalId with
  | none => .error ⟨.valueError, "SIGNAL_ID_NOT_FOUND: " ++ signal.signalId⟩
  | some envelope =>
    if envelope.signal ≠ signal then
      .error ⟨.valueError, "SIGNAL_OBJECT_MISMATCH: " ++ signal.signalId⟩
    else .ok envelope

omit [PythonFloat F] in
/-- The loop over the approved signals. What it finds is not appended to the result. -/
def reconnectInto (envelopeIndex : EnvelopeIndex F P) (result : List (StrategySignalEnvelope F P)) :
    List (CanonicalStrategySignal F) → Except Raised (List (StrategySignalEnvelope F P))
  | [] => .ok result
  | signal :: rest => do
    let _envelope ← envelopeOf envelopeIndex signal
    reconnectInto envelopeIndex result rest

omit [PythonFloat F] in
def reconnectApprovedSignalEnvelopes (approvedSignals : List (CanonicalStrategySignal F))
    (envelopeIndex : EnvelopeIndex F P) : Except Raised (List (StrategySignalEnvelope F P)) :=
  reconnectInto envelopeIndex [] approvedSignals

end

/-! ## The round trip -/

omit [PythonFloat F] in
/-- The result has the original envelope of each signal, in the order of the signals. -/
structure RoundTrip (envelopes : List (StrategySignalEnvelope F P))
    (approvedSignals : List (CanonicalStrategySignal F))
    (result : List (StrategySignalEnvelope F P)) : Prop where
  inOrder : unwrapStrategySignalEnvelopes result = approvedSignals
  original : result ⊆ envelopes

variable {envelopes : List (StrategySignalEnvelope F P)} {envelopeIndex : EnvelopeIndex F P}

/-- The approved signals of the envelopes. -/
def approvedOf (envelopes : List (StrategySignalEnvelope F P)) : List (CanonicalStrategySignal F) :=
  (DecisionArbiter.arbitrate (unwrapStrategySignalEnvelopes envelopes)).approvedSignals

omit [PythonFloat F] in
/-- Envelopes under ids that are new are all taken into the index. -/
theorem indexInto_eq_ok {indexed : EnvelopeIndex F P}
    (fresh : indexed.Fresh (·.signalId) envelopes) :
    indexInto indexed envelopes = .ok (indexed.setEach (·.signalId) envelopes) := by
  induction envelopes generalizing indexed with
  | nil => rfl
  | cons envelope rest ih =>
    have new : indexed.get? envelope.signalId = none := fresh.new envelope List.mem_cons_self
    rw [indexInto, Dict.contains, new, Option.isSome_none, if_neg Bool.false_ne_true,
      Dict.setEach_cons]
    exact ih (fresh.set envelope)

omit [PythonFloat F] in
/-- Every envelope is found under its id. -/
theorem exists_index (distinct : (envelopes.map (·.signalId)).Nodup) :
    ∃ envelopeIndex, indexStrategySignalEnvelopes envelopes = .ok envelopeIndex ∧
      ∀ envelope ∈ envelopes, envelopeIndex.get? envelope.signalId = some envelope :=
  ⟨_, indexInto_eq_ok ⟨distinct, fun _ _ => rfl⟩, fun _ => Dict.get?_setEach _ distinct⟩

/-- The envelopes of the approved signals. -/
theorem exists_roundTrip (envelopes : List (StrategySignalEnvelope F P)) :
    ∃ found, RoundTrip envelopes (approvedOf envelopes) found := by
  have wrapped : List.Forall₂ (fun envelope signal => envelope.signal = signal) envelopes
      (unwrapStrategySignalEnvelopes envelopes) :=
    List.forall₂_map_right_iff.mpr (List.forall₂_same.mpr fun _ _ => rfl)
  have part : (approvedOf envelopes).Subperm (unwrapStrategySignalEnvelopes envelopes) :=
    DecisionArbiter.approvedSignals_subperm
  obtain ⟨found, subperm, each⟩ := Related.exists_part wrapped part
  refine ⟨found, ?_, subperm.subset⟩
  exact List.forall₂_eq_eq_eq ▸ List.forall₂_map_left_iff.mpr each

theorem approvedOf_eq_nil : approvedOf envelopes = [] ↔ envelopes = [] := by
  constructor
  · intro none_approved
    cases envelopes with
    | nil => rfl
    | cons envelope rest =>
      have given : envelope.signal ∈ unwrapStrategySignalEnvelopes (envelope :: rest) :=
        List.mem_cons_self
      have approved := DecisionArbiter.holder_approved given
      rw [approvedOf] at none_approved
      rw [none_approved] at approved
      exact absurd approved List.not_mem_nil
  · rintro rfl
    rfl

section
variable [DecidableEq F]

omit [PythonFloat F] in
/-- On the way back the original envelopes of the signals are found. -/
theorem RoundTrip.each {approvedSignals : List (CanonicalStrategySignal F)}
    {found : List (StrategySignalEnvelope F P)} (trip : RoundTrip envelopes approvedSignals found)
    (present : ∀ envelope ∈ envelopes, envelopeIndex.get? envelope.signalId = some envelope) :
    List.Forall₂ (fun signal envelope => envelopeOf envelopeIndex signal = .ok envelope)
      approvedSignals found := by
  rw [← trip.inOrder]
  refine List.forall₂_map_left_iff.mpr (List.forall₂_same.mpr fun envelope member => ?_)
  have present : envelopeIndex.get? envelope.signal.signalId = some envelope :=
    present envelope (trip.original member)
  simp [envelopeOf, present]

omit [PythonFloat F] in
/-- The result is the one that the loop started with. -/
theorem reconnectInto_eq {signals : List (CanonicalStrategySignal F)}
    {found result : List (StrategySignalEnvelope F P)}
    (each : List.Forall₂ (fun signal envelope => envelopeOf envelopeIndex signal = .ok envelope)
      signals found) :
    reconnectInto envelopeIndex result signals = .ok result := by
  induction each with
  | nil => rfl
  | cons first _ ih => exact bind_eq_ok.mpr ⟨_, first, ih⟩

/-- For envelopes with different ids the way back never raises, and returns the envelopes of the
approved signals only when there are no envelopes. -/
theorem roundTrip_iff (envelopes : List (StrategySignalEnvelope F P))
    (distinct : (envelopes.map (·.signalId)).Nodup) :
    ∃ envelopeIndex result, indexStrategySignalEnvelopes envelopes = .ok envelopeIndex ∧
      reconnectApprovedSignalEnvelopes (approvedOf envelopes) envelopeIndex = .ok result ∧
      (RoundTrip envelopes (approvedOf envelopes) result ↔ envelopes = []) := by
  obtain ⟨envelopeIndex, indexed, present⟩ := exists_index distinct
  obtain ⟨found, trip⟩ := exists_roundTrip envelopes
  refine ⟨envelopeIndex, [], indexed, reconnectInto_eq (trip.each present), ?_⟩
  rw [← approvedOf_eq_nil]
  constructor
  · intro trip
    exact trip.inOrder.symm
  · intro none_approved
    exact ⟨none_approved.symm, List.nil_subset _⟩

end

/-- A signal on one option, with its reason as the provenance. -/
def enveloped (signalId trackId : String) (side : Side) (qty : ℤ) (reason : String) :
    StrategySignalEnvelope WholeFloat String where
  signal :=
    { signalId, trackId, side, qty
      assetType := .option
      price := ⟨1⟩
      optionType := some .call
      strike := ⟨350⟩ }
  provenance := reason

/-- A buyer and a seller of lower priority. -/
def opposed : List (StrategySignalEnvelope WholeFloat String) :=
  [enveloped "winner" "Track1" .buy 5 "OPEN", enveloped "loser" "Track2" .sell 1 "CLOSE"]

theorem roundTrip_opposed :
    ∃ envelopeIndex result, indexStrategySignalEnvelopes opposed = .ok envelopeIndex ∧
      reconnectApprovedSignalEnvelopes (approvedOf opposed) envelopeIndex = .ok result ∧
      (RoundTrip opposed (approvedOf opposed) result ↔ opposed = []) :=
  roundTrip_iff opposed (by decide +kernel)

theorem winner_not_returned :
    let winner := enveloped "winner" "Track1" .buy 5 "OPEN"
    ∃ envelopeIndex, indexStrategySignalEnvelopes opposed = .ok envelopeIndex ∧
      approvedOf opposed = [winner.signal] ∧
      reconnectApprovedSignalEnvelopes (approvedOf opposed) envelopeIndex = .ok [] ∧
      RoundTrip opposed (approvedOf opposed) [winner] ∧
      ¬RoundTrip opposed (approvedOf opposed) [] := by
  intro winner
  have approved : approvedOf opposed = [winner.signal] := by decide +kernel
  rw [approved]
  refine ⟨_, rfl, rfl, rfl, ⟨rfl, ?_⟩, fun trip => nomatch trip.inOrder⟩
  exact List.cons_subset_cons _ (List.nil_subset _)

end OptionProject.Decision
