import Mathlib.Data.Prod.Lex
import Mathlib.Data.String.Basic
import OptionProject.Contracts.Canonical
import OptionProject.Library.FirstClaim

/-!
# The decision arbiter

`core/decision/decision_arbiter.py`: the signals are sorted by priority, quantity and id; the
first signal of an instrument claims it, and later signals on the other side are rejected.

## Main definitions

* `DecisionArbiter.instrumentKey` — what the arbiter takes as one instrument.
* `DecisionArbiter.arbitrate` — the sort, and the scan with the table of claims.

## Main results

* `DecisionArbiter.arbitrate_divides` — what is approved, what is rejected, and why.
* `DecisionArbiter.arbitrate_perm` — the order the signals come in does not matter.
* `DecisionArbiter.arbitrate_insert` — a signal decides nothing about those that go before it.
-/
namespace OptionProject.Decision
open Library Contracts

structure ArbitrationResult (F : Type) where
  approvedSignals : List (CanonicalStrategySignal F)
  rejectedSignals : List (CanonicalStrategySignal F × String)
  nettedClashes : List String

namespace DecisionArbiter

/-- Lower numbers go first. -/
def strategyPriorityMap : Dict String ℤ :=
  .ofList [("HEDGE_DELTA", 1), ("HEDGE_TAIL", 1), ("Track1", 2), ("Track6", 3), ("Track9", 3),
    ("Track3", 4), ("Track4", 4), ("Track7", 5), ("Track8", 5), ("Track2", 6), ("Track5", 6)]

def getPriority (trackId : String) : ℤ := (strategyPriorityMap.get? trackId).getD 99

variable {F : Type} [PythonFloat F]

def optionTypeText : Option CanonicalOptionType → String
  | none => "NONE"
  | some optionType => optionType.value

def instrumentKey (signal : CanonicalStrategySignal F) : String :=
  signal.assetType.value ++ "_" ++ PythonFloat.text signal.strike ++ "_" ++
    optionTypeText signal.optionType

omit [PythonFloat F] in
/-- The key of the sort, compared as a tuple. -/
def sortKey (signal : CanonicalStrategySignal F) : ℤ ×ₗ ℤ ×ₗ String :=
  toLex (getPriority signal.trackId, toLex (-signal.qty, signal.signalId))

def rejectionReason (existing : CanonicalStrategySignal F) : String :=
  "CLASH_NETTING_REJECTED: Subordinate to " ++ existing.trackId ++
    " (" ++ sideText existing.side ++ ")"

def clashText (existing signal : CanonicalStrategySignal F) : String :=
  "Clash on " ++ instrumentKey signal ++ ": Kept " ++ existing.trackId ++
    "(" ++ sideText existing.side ++ "), Rejected " ++ signal.trackId ++
    "(" ++ sideText signal.side ++ ")"

/-- The table of claims and what the scan has decided so far. -/
structure Scan (F : Type) where
  instrumentClaims : Dict String (CanonicalStrategySignal F)
  result : ArbitrationResult F

def scanSignal (scan : Scan F) (signal : CanonicalStrategySignal F) : Scan F :=
  match scan.instrumentClaims.get? (instrumentKey signal) with
  | none =>
    { instrumentClaims := scan.instrumentClaims.set (instrumentKey signal) signal
      result := { scan.result with
        approvedSignals := scan.result.approvedSignals ++ [signal] } }
  | some existing =>
    if existing.side ≠ signal.side then
      { scan with result := { scan.result with
        rejectedSignals := scan.result.rejectedSignals ++ [(signal, rejectionReason existing)]
        nettedClashes := scan.result.nettedClashes ++ [clashText existing signal] } }
    else
      -- the signal is kept as it is, quantities are not added up
      { scan with result := { scan.result with
        approvedSignals := scan.result.approvedSignals ++ [signal] } }

def sortSignals (signals : List (CanonicalStrategySignal F)) : List (CanonicalStrategySignal F) :=
  FirstClaim.sortedBy sortKey signals

def arbitrate (signals : List (CanonicalStrategySignal F)) : ArbitrationResult F :=
  if signals.isEmpty then ⟨[], [], []⟩
  else ((sortSignals signals).foldl scanSignal ⟨.empty, ⟨[], [], []⟩⟩).result

variable {signals : List (CanonicalStrategySignal F)} {signal existing : CanonicalStrategySignal F}

/-! ## The scan as claims -/

abbrev InstrumentClaims (F : Type) := FirstClaim.Claims String (CanonicalStrategySignal F)

/-- The state of the scan that has handled the given claims. -/
def Scan.ofClaims (claims : InstrumentClaims F) : Scan F where
  instrumentClaims := claims.holders
  result :=
    { approvedSignals := claims.kept
      rejectedSignals := claims.dropped.map fun (signal, existing) =>
        (signal, rejectionReason existing)
      nettedClashes := claims.dropped.map fun (signal, existing) => clashText existing signal }

theorem scanSignal_ofClaims (claims : InstrumentClaims F) (signal : CanonicalStrategySignal F) :
    scanSignal (.ofClaims claims) signal =
      .ofClaims (FirstClaim.claim instrumentKey (·.side) claims signal) := by
  unfold scanSignal FirstClaim.claim
  cases found : claims.holders.get? (instrumentKey signal) with
  | none => simp [Scan.ofClaims, found]
  | some existing =>
    by_cases same : existing.side = signal.side <;> simp [Scan.ofClaims, found, same]

/-- The signal that holds the instrument of the given one. -/
def holder (signals : List (CanonicalStrategySignal F)) (signal : CanonicalStrategySignal F) :
    CanonicalStrategySignal F :=
  FirstClaim.holder instrumentKey (sortSignals signals) signal

def isKept (signals : List (CanonicalStrategySignal F)) (signal : CanonicalStrategySignal F) :
    Bool :=
  FirstClaim.agrees instrumentKey (·.side) (sortSignals signals) signal

def dropped (signals : List (CanonicalStrategySignal F)) : List (CanonicalStrategySignal F) :=
  (sortSignals signals).filter fun signal => !isKept signals signal

/-- What the arbiter returns, without the loop. -/
theorem arbitrate_eq (signals : List (CanonicalStrategySignal F)) :
    arbitrate signals =
      { approvedSignals := (sortSignals signals).filter (isKept signals)
        rejectedSignals := (dropped signals).map fun signal =>
          (signal, rejectionReason (holder signals signal))
        nettedClashes := (dropped signals).map fun signal =>
          clashText (holder signals signal) signal } := by
  unfold arbitrate
  split
  next none_given =>
    rw [List.isEmpty_iff.mp none_given]
    rfl
  next =>
    have start : (⟨.empty, ⟨[], [], []⟩⟩ : Scan F) = .ofClaims ⟨.empty, [], []⟩ := rfl
    rw [start, List.foldl_hom Scan.ofClaims scanSignal_ofClaims]
    change (Scan.ofClaims (FirstClaim.scan instrumentKey (·.side) (sortSignals signals))).result = _
    rw [Scan.ofClaims, FirstClaim.kept_scan, FirstClaim.dropped_scan, List.map_map, List.map_map]
    rfl

theorem rejectedSignals_eq (signals : List (CanonicalStrategySignal F)) :
    (arbitrate signals).rejectedSignals = (dropped signals).map fun signal =>
      (signal, rejectionReason (holder signals signal)) := by rw [arbitrate_eq]

theorem nettedClashes_eq (signals : List (CanonicalStrategySignal F)) :
    (arbitrate signals).nettedClashes = (dropped signals).map fun signal =>
      clashText (holder signals signal) signal := by rw [arbitrate_eq]

theorem approvedSignals_sublist :
    (arbitrate signals).approvedSignals.Sublist (sortSignals signals) := by
  rw [arbitrate_eq]
  exact List.filter_sublist

/-- Every signal given is approved or rejected, once. -/
theorem approved_append_rejected_perm :
    ((arbitrate signals).approvedSignals ++
      (arbitrate signals).rejectedSignals.map Prod.fst).Perm signals := by
  rw [arbitrate_eq]
  simp only [List.map_map, Function.comp_def, List.map_id']
  exact (List.filter_append_perm (isKept signals) _).trans (FirstClaim.sortedBy_perm sortKey _)

theorem approvedSignals_subperm : (arbitrate signals).approvedSignals.Subperm signals :=
  (List.sublist_append_left _ _).subperm.trans approved_append_rejected_perm.subperm

/-! ## What is approved and what is rejected -/

/-- The key-least signal of an instrument, the first one given among those of one key. -/
def keyLeast (signals : List (CanonicalStrategySignal F)) (key : String) :
    Option (CanonicalStrategySignal F) :=
  FirstClaim.leastBy sortKey (signals.filter fun signal => instrumentKey signal = key)

omit [PythonFloat F] in
def InOrder (signals : List (CanonicalStrategySignal F)) : Prop :=
  signals.Pairwise fun earlier later => sortKey earlier ≤ sortKey later

omit [PythonFloat F] in
theorem inOrder_sortSignals : InOrder (sortSignals signals) :=
  FirstClaim.pairwise_sortedBy sortKey _

omit [PythonFloat F] in
@[simp] theorem mem_sortSignals : signal ∈ sortSignals signals ↔ signal ∈ signals :=
  FirstClaim.mem_sortedBy sortKey

/-- The holder of an instrument is the key-least signal on it. -/
theorem keyLeast_eq_holder (given : signal ∈ signals) :
    keyLeast signals (instrumentKey signal) = some (holder signals signal) := by
  rw [keyLeast, ← FirstClaim.find?_sortedBy]
  exact FirstClaim.find?_of_mem instrumentKey (mem_sortSignals.mpr given)

theorem instrumentKey_holder (given : signal ∈ signals) :
    instrumentKey (holder signals signal) = instrumentKey signal :=
  FirstClaim.key_holder instrumentKey (mem_sortSignals.mpr given)

/-- The holder of an instrument is approved. -/
theorem holder_approved (given : signal ∈ signals) :
    holder signals signal ∈ (arbitrate signals).approvedSignals := by
  have member := mem_sortSignals.mpr given
  have same : holder signals (holder signals signal) = holder signals signal := by
    rw [holder, FirstClaim.holder, instrumentKey_holder given,
      FirstClaim.find?_of_mem instrumentKey member, Option.getD_some, ← holder]
  have side : isKept signals (holder signals signal) = true :=
    decide_eq_true (congrArg (·.side) same)
  rw [arbitrate_eq]
  exact List.mem_filter.mpr ⟨FirstClaim.holder_mem member, side⟩

/-- How an arbitration divides the signals it is given. -/
structure Divides (signals : List (CanonicalStrategySignal F)) (result : ArbitrationResult F) :
    Prop where
  partition : (result.approvedSignals ++ result.rejectedSignals.map Prod.fst).Perm signals
  approved_inOrder : InOrder result.approvedSignals
  rejected_inOrder : InOrder (result.rejectedSignals.map Prod.fst)
  oneSide : ∀ signal ∈ result.approvedSignals, ∀ other ∈ result.approvedSignals,
    instrumentKey signal = instrumentKey other → signal.side = other.side
  approved_side : ∀ signal ∈ result.approvedSignals,
    ∃ least, keyLeast signals (instrumentKey signal) = some least ∧ signal.side = least.side
  rejected_side : ∀ entry ∈ result.rejectedSignals,
    ∃ least, keyLeast signals (instrumentKey entry.1) = some least ∧
      entry.1.side ≠ least.side ∧ [least, entry.1].Sublist (sortSignals signals)
  clashes : List.Forall₂ (fun entry clash =>
      ∃ least, keyLeast signals (instrumentKey entry.1) = some least ∧
        entry.2 = rejectionReason least ∧ clash = clashText least entry.1)
    result.rejectedSignals result.nettedClashes

/-- A signal that was dropped met an earlier holder on the other side. -/
theorem of_mem_dropped (drop : signal ∈ dropped signals) :
    signal ∈ signals ∧ signal.side ≠ (holder signals signal).side ∧
      [holder signals signal, signal].Sublist (sortSignals signals) := by
  obtain ⟨member, disagrees⟩ := List.mem_filter.mp drop
  have side : (holder signals signal).side ≠ signal.side := by
    simpa [isKept, FirstClaim.agrees, holder] using disagrees
  refine ⟨mem_sortSignals.mp member, side.symm, FirstClaim.sublist_holder member ?_⟩
  exact fun same => side (congrArg (·.side) same)

theorem approved_side (approved : signal ∈ (arbitrate signals).approvedSignals) :
    keyLeast signals (instrumentKey signal) = some (holder signals signal) ∧
      signal.side = (holder signals signal).side := by
  rw [arbitrate_eq] at approved
  obtain ⟨member, kept⟩ := List.mem_filter.mp approved
  exact ⟨keyLeast_eq_holder (mem_sortSignals.mp member), (of_decide_eq_true kept).symm⟩

/-- For every list of signals the arbiter approves the side of the key-least signal of each
instrument and rejects the other side. -/
theorem arbitrate_divides (signals : List (CanonicalStrategySignal F)) :
    Divides signals (arbitrate signals) := by
  constructor
  case partition => exact approved_append_rejected_perm
  case approved_inOrder => exact inOrder_sortSignals.sublist approvedSignals_sublist
  case rejected_inOrder =>
    rw [rejectedSignals_eq, List.map_map]
    have inOrder : InOrder (dropped signals) := inOrder_sortSignals.sublist List.filter_sublist
    simpa [Function.comp_def] using inOrder
  case oneSide =>
    intro signal approved other approved' sameKey
    have least := (approved_side approved).1
    rw [sameKey, (approved_side approved').1] at least
    rw [(approved_side approved).2, (approved_side approved').2, Option.some.inj least]
  case approved_side =>
    intro signal approved
    exact ⟨_, approved_side approved⟩
  case rejected_side =>
    rw [rejectedSignals_eq]
    intro entry member
    obtain ⟨signal, drop, rfl⟩ := List.mem_map.mp member
    obtain ⟨given, side, precedes⟩ := of_mem_dropped drop
    exact ⟨_, keyLeast_eq_holder given, side, precedes⟩
  case clashes =>
    rw [rejectedSignals_eq, nettedClashes_eq, List.forall₂_map_left_iff, List.forall₂_map_right_iff,
      List.forall₂_same]
    intro signal drop
    exact ⟨_, keyLeast_eq_holder (of_mem_dropped drop).1, rfl, rfl⟩

/-! ## Two arbitrations -/

omit [PythonFloat F] in
/-- Signals with distinct ids are sorted in one way. -/
theorem sortSignals_perm {reordered : List (CanonicalStrategySignal F)}
    (distinct : (signals.map (·.signalId)).Nodup) (permuted : reordered.Perm signals) :
    sortSignals reordered = sortSignals signals := by
  refine FirstClaim.sortedBy_eq_of_perm permuted fun signal given other given' sameKey => ?_
  have sameId : signal.signalId = other.signalId :=
    congrArg (fun key => (ofLex (ofLex key).2).2) sameKey
  exact List.inj_on_of_nodup_map distinct given given' sameId

/-- For every list of signals with distinct ids and every order of them the arbiter returns the
same. -/
theorem arbitrate_perm {reordered : List (CanonicalStrategySignal F)}
    (distinct : (signals.map (·.signalId)).Nodup) (permuted : reordered.Perm signals) :
    arbitrate reordered = arbitrate signals := by
  have sorted := sortSignals_perm distinct permuted
  have kept : isKept reordered = isKept signals := funext fun _ => by rw [isKept, isKept, sorted]
  have held : holder reordered = holder signals := funext fun _ => by rw [holder, holder, sorted]
  rw [arbitrate_eq, arbitrate_eq, dropped, dropped, sorted, kept, held]

/-- A signal for one futures contract. -/
def futuresSignal (signalId trackId : String) (side : Side) :
    CanonicalStrategySignal WholeFloat where
  signalId := signalId
  trackId := trackId
  assetType := .futures
  side := side
  qty := 1
  price := ⟨350⟩
  optionType := none
  strike := ⟨0⟩

/-- The hedge comes last, and is first in the sort. -/
theorem arbitrate_perm_hedge :
    arbitrate [futuresSignal "S2" "Track3" .sell, futuresSignal "S3" "Track6" .buy,
        futuresSignal "S1" "HEDGE_DELTA" .buy] =
      arbitrate [futuresSignal "S1" "HEDGE_DELTA" .buy, futuresSignal "S2" "Track3" .sell,
        futuresSignal "S3" "Track6" .buy] :=
  arbitrate_perm (by decide) (by decide)

theorem mem_approvedSignals :
    signal ∈ (arbitrate signals).approvedSignals ↔
      signal ∈ signals ∧ (holder signals signal).side = signal.side := by
  rw [arbitrate_eq, List.mem_filter, mem_sortSignals, isKept, FirstClaim.agrees, decide_eq_true_iff,
    holder]

theorem mem_rejectedSignals {reason : String} :
    (signal, reason) ∈ (arbitrate signals).rejectedSignals ↔
      signal ∈ signals ∧ (holder signals signal).side ≠ signal.side ∧
        reason = rejectionReason (holder signals signal) := by
  rw [rejectedSignals_eq, List.mem_map]
  simp only [dropped, List.mem_filter, mem_sortSignals, isKept, FirstClaim.agrees,
    Bool.not_eq_true', decide_eq_false_iff_not, Prod.mk.injEq]
  constructor
  · rintro ⟨given, ⟨member, side⟩, rfl, rfl⟩
    exact ⟨member, side, rfl⟩
  · rintro ⟨member, side, rfl⟩
    exact ⟨signal, ⟨member, side⟩, rfl, rfl⟩

/-- A signal that comes later in the sort changes no holder. -/
theorem holder_insert {front rest : List (CanonicalStrategySignal F)}
    {extra : CanonicalStrategySignal F} (given : signal ∈ front ++ rest)
    (stronger : sortKey signal < sortKey extra) :
    holder (front ++ extra :: rest) signal = holder (front ++ rest) signal := by
  have given' : signal ∈ front ++ extra :: rest :=
    ((List.sublist_cons_self extra rest).append_left front).mem given
  apply Option.some.inj
  rw [← keyLeast_eq_holder given, ← keyLeast_eq_holder given', keyLeast, keyLeast,
    List.filter_append, List.filter_append, List.filter_cons]
  split
  next =>
    refine FirstClaim.leastBy_insert ?_ stronger
    rw [← List.filter_append]
    exact List.mem_filter.mpr ⟨given, by simp⟩
  next => rfl

/-- For every list of signals and every extra signal that comes after one of them in the sort:
wherever the extra one is put in, the other's fate is the same. -/
theorem arbitrate_insert {front rest : List (CanonicalStrategySignal F)}
    {extra : CanonicalStrategySignal F} (given : signal ∈ front ++ rest)
    (stronger : sortKey signal < sortKey extra) :
    (signal ∈ (arbitrate (front ++ extra :: rest)).approvedSignals ↔
        signal ∈ (arbitrate (front ++ rest)).approvedSignals) ∧
      ∀ reason, (signal, reason) ∈ (arbitrate (front ++ extra :: rest)).rejectedSignals ↔
        (signal, reason) ∈ (arbitrate (front ++ rest)).rejectedSignals := by
  have given' : signal ∈ front ++ extra :: rest :=
    ((List.sublist_cons_self extra rest).append_left front).mem given
  simp only [mem_approvedSignals, mem_rejectedSignals, given, given',
    holder_insert given stronger, true_and, implies_true, and_self]

/-- A clashing signal in front of the hedge. -/
theorem arbitrate_insert_hedge :
    (futuresSignal "S1" "HEDGE_DELTA" .buy ∈ (arbitrate [futuresSignal "S2" "Track3" .sell,
        futuresSignal "S1" "HEDGE_DELTA" .buy]).approvedSignals ↔
      futuresSignal "S1" "HEDGE_DELTA" .buy ∈
        (arbitrate [futuresSignal "S1" "HEDGE_DELTA" .buy]).approvedSignals) ∧
    ∀ reason, (futuresSignal "S1" "HEDGE_DELTA" .buy, reason) ∈
        (arbitrate [futuresSignal "S2" "Track3" .sell,
          futuresSignal "S1" "HEDGE_DELTA" .buy]).rejectedSignals ↔
      (futuresSignal "S1" "HEDGE_DELTA" .buy, reason) ∈
        (arbitrate [futuresSignal "S1" "HEDGE_DELTA" .buy]).rejectedSignals :=
  @arbitrate_insert _ _ _ [] _ _ (List.mem_singleton.mpr rfl) (by decide +kernel)

end DecisionArbiter
end OptionProject.Decision
