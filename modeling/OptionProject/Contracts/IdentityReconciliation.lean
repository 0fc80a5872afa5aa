import OptionProject.Contracts.Types
import OptionProject.Library.Dict

/-!
# KRX and KIS identities

`contracts/krx_kis_identity_reconciliation.py`. The KIS records are indexed by their standard code,
and every KRX record looks its code up. Both loops refuse contradicting records.

## Main definitions

* `reconcileKrxToKis` — the two loops.
* `Indexed` — what the index of KIS records has for a code.

## Main results

* `reconcile_cases` — records are refused, or looked up in an index of the KIS records.
* `reconcile_spec` — when they are refused, what is returned otherwise, and that the order of the
  KIS records does not matter.
-/
namespace OptionProject.Contracts
open Library

namespace IdentityReconciliation

inductive ProductKind
  | futures
  | option
  deriving DecidableEq, Repr

def reconciliationError (text : String) : PythonException := ⟨"IdentityReconciliationError", text⟩

/-- A record of the exchange, as its constructor lets it through. -/
structure KrxInstrumentRecord where
  isuCd : String
  isuNm : String
  productKind : ProductKind
  isuCd_nonblank : strip isuCd ≠ ""
  isuNm_nonblank : strip isuNm ≠ ""
  deriving DecidableEq

def KrxInstrumentRecord.create (isuCd isuNm : String) (productKind : ProductKind) :
    Except PythonException KrxInstrumentRecord :=
  if code : strip isuCd = "" then .error (reconciliationError "KRX_ISU_CD_REQUIRED")
  else if name : strip isuNm = "" then .error (reconciliationError "KRX_ISU_NM_REQUIRED")
  else .ok ⟨isuCd, isuNm, productKind, code, name⟩

/-- A record of the broker, as its constructor lets it through. -/
structure KisMasterIdentityRecord where
  shrnIscd : String
  stndIscd : Option String
  shrnIscd_nonblank : strip shrnIscd ≠ ""
  deriving DecidableEq

def KisMasterIdentityRecord.create (shrnIscd : String) (stndIscd : Option String) :
    Except PythonException KisMasterIdentityRecord :=
  if code : strip shrnIscd = "" then .error (reconciliationError "KIS_SHRN_ISCD_REQUIRED")
  else .ok ⟨shrnIscd, stndIscd, code⟩

structure ReconciledInstrumentIdentity where
  productKind : ProductKind
  krxIsuCd : String
  kisShrnIscd : String
  kisStndIscd : String
  matchedBy : String := "KIS_STND_ISCD_EXACT"
  deriving DecidableEq

abbrev Index := Dict String KisMasterIdentityRecord

/-- The body of the loop over the KIS records. -/
def register (byStandard : Index) (record : KisMasterIdentityRecord) :
    Except PythonException Index :=
  let code := orEmpty record.stndIscd
  if code = "" then .ok byStandard
  else
    let key := strip code
    match byStandard.get? key with
    | some previous =>
      if previous.shrnIscd ≠ record.shrnIscd then
        .error (reconciliationError ("AMBIGUOUS_KIS_STANDARD_CODE:" ++ key))
      else .ok (byStandard.set key record)
    | none => .ok (byStandard.set key record)

/-- The identity of a KRX record and a KIS record that match. -/
def identityOf (record : KrxInstrumentRecord) (kis : KisMasterIdentityRecord) :
    ReconciledInstrumentIdentity where
  productKind := record.productKind
  krxIsuCd := strip record.isuCd
  kisShrnIscd := strip kis.shrnIscd
  kisStndIscd := strip record.isuCd

/-- The identities so far, and the codes seen. -/
structure Progress where
  reconciled : List ReconciledInstrumentIdentity
  seenKrx : List String

/-- The body of the loop over the KRX records. -/
def advance (byStandard : Index) (now : Progress) (record : KrxInstrumentRecord) :
    Except PythonException Progress :=
  let key := strip record.isuCd
  if key ∈ now.seenKrx then .error (reconciliationError ("DUPLICATE_KRX_ISU_CD:" ++ key))
  else
    let seenKrx := now.seenKrx ++ [key]
    match byStandard.get? key with
    | none => .ok { now with seenKrx }
    | some kis => .ok ⟨now.reconciled ++ [identityOf record kis], seenKrx⟩

def reconcileKrxToKis (krxRecords : List KrxInstrumentRecord)
    (kisRecords : List KisMasterIdentityRecord) :
    Except PythonException (List ReconciledInstrumentIdentity) := do
  let byStandard ← kisRecords.foldlM register .empty
  let last ← krxRecords.foldlM (advance byStandard) ⟨[], []⟩
  return last.reconciled

section Loop

variable {ε σ α : Type} {f : σ → α → Except ε σ} {now next : σ} {a : α} {raised : ε}

theorem foldlM_of_ok (rest : List α) (returned : f now a = .ok next) :
    (a :: rest).foldlM f now = rest.foldlM f next := by
  rw [List.foldlM_cons, returned]
  rfl

theorem foldlM_of_error (rest : List α) (raises : f now a = .error raised) :
    (a :: rest).foldlM f now = .error raised := by
  rw [List.foldlM_cons, raises]
  rfl

end Loop

/-! ## The index -/

/-- The stripped standard code of a record that has one. -/
def KisMasterIdentityRecord.standardCode? (record : KisMasterIdentityRecord) : Option String :=
  if orEmpty record.stndIscd = "" then none else some (strip (orEmpty record.stndIscd))

/-- Two of the records have a standard code in common and different short codes. -/
def Ambiguous (records : List KisMasterIdentityRecord) : Prop :=
  ∃ a ∈ records, ∃ b ∈ records, ∃ code, a.standardCode? = some code ∧
    b.standardCode? = some code ∧ a.shrnIscd ≠ b.shrnIscd

/-- Every entry is a record of its code, and every record has the short code of its entry. -/
structure Indexed (records : List KisMasterIdentityRecord) (byStandard : Index) : Prop where
  sound : ∀ code record, byStandard.get? code = some record →
    record ∈ records ∧ record.standardCode? = some code
  complete : ∀ record ∈ records, ∀ code, record.standardCode? = some code →
    ∃ kept, byStandard.get? code = some kept ∧ kept.shrnIscd = record.shrnIscd

variable {kis kis' records seen : List KisMasterIdentityRecord} {record : KisMasterIdentityRecord}
  {byStandard byStandard' next : Index} {krx : List KrxInstrumentRecord}
  {result : List ReconciledInstrumentIdentity}

theorem Indexed.not_ambiguous (indexed : Indexed records byStandard) : ¬Ambiguous records := by
  rintro ⟨a, inside, b, inside', code, named, named', apart⟩
  obtain ⟨kept, found, same⟩ := indexed.complete a inside code named
  obtain ⟨kept', found', same'⟩ := indexed.complete b inside' code named'
  grind

/-- A record is skipped, kept under its code, or refused for the short code of an earlier one. -/
theorem register_cases (byStandard : Index) (record : KisMasterIdentityRecord) :
    (record.standardCode? = none ∧ register byStandard record = .ok byStandard) ∨
    (∃ code, record.standardCode? = some code ∧
      (∀ previous, byStandard.get? code = some previous → previous.shrnIscd = record.shrnIscd) ∧
      register byStandard record = .ok (byStandard.set code record)) ∨
    (∃ code previous raised, record.standardCode? = some code ∧
      byStandard.get? code = some previous ∧ previous.shrnIscd ≠ record.shrnIscd ∧
      register byStandard record = .error raised) := by
  unfold KisMasterIdentityRecord.standardCode? register
  by_cases coded : orEmpty record.stndIscd = ""
  · exact .inl (by simp [coded])
  · cases found : byStandard.get? (strip (orEmpty record.stndIscd)) with
    | none => exact .inr (.inl (by simp [coded, found]))
    | some previous =>
      by_cases same : previous.shrnIscd = record.shrnIscd
      · exact .inr (.inl (by simp [coded, found, same]))
      · exact .inr (.inr (by simp [coded, found, same]))

/-- One record keeps the index, or it is refused and contradicts an earlier one. -/
theorem register_spec (indexed : Indexed seen byStandard) (record : KisMasterIdentityRecord) :
    (∃ next, register byStandard record = .ok next ∧ Indexed (seen ++ [record]) next) ∨
      ((∃ raised, register byStandard record = .error raised) ∧ Ambiguous (seen ++ [record])) := by
  rcases register_cases byStandard record with ⟨uncoded, skipped⟩ | ⟨code, named, agree, kept⟩ |
    ⟨code, previous, raised, named, found, apart, refused⟩
  · refine .inl ⟨byStandard, skipped, fun code kept found => ?_, fun other inside code named => ?_⟩
    · have sound := indexed.sound code kept found
      exact ⟨List.mem_append_left _ sound.1, sound.2⟩
    · have complete := indexed.complete other
      grind
  · refine .inl ⟨_, kept, fun other entry found => ?_, fun other inside code' named' => ?_⟩
    · have sound := indexed.sound other entry
      rw [Dict.get?_set] at found
      grind
    · have complete := indexed.complete other
      rw [Dict.get?_set]
      grind
  · have sound := indexed.sound code previous found
    exact .inr ⟨⟨raised, refused⟩, previous, List.mem_append_left _ sound.1, record, by simp, code,
      sound.2, named, apart⟩

/-- All records are indexed, or there are two that contradict each other. -/
theorem foldlM_register_spec (indexed : Indexed seen byStandard) :
    (∃ next, records.foldlM register byStandard = .ok next ∧ Indexed (seen ++ records) next) ∨
      ((∃ raised, records.foldlM register byStandard = .error raised) ∧
        Ambiguous (seen ++ records)) := by
  induction records generalizing seen byStandard with
  | nil => exact .inl ⟨byStandard, rfl, by simpa using indexed⟩
  | cons record rest ih =>
    rcases register_spec indexed record with ⟨next, kept, indexed⟩ | ⟨⟨raised, refused⟩, ambiguous⟩
    · rw [foldlM_of_ok rest kept]
      simpa using ih indexed
    · refine .inr ⟨⟨raised, foldlM_of_error rest refused⟩, ?_⟩
      obtain ⟨a, inside, b, inside', contradicting⟩ := ambiguous
      have grows : seen ++ [record] ⊆ seen ++ record :: rest := by simp
      exact ⟨a, grows inside, b, grows inside', contradicting⟩

theorem indexed_empty : Indexed [] .empty := by
  constructor <;> simp

/-! ## The identities -/

/-- The identity of a record whose code is in the index. -/
def entry (byStandard : Index) (record : KrxInstrumentRecord) :
    Option ReconciledInstrumentIdentity :=
  (byStandard.get? (strip record.isuCd)).map (identityOf record)

/-- The codes of KRX records, as they are compared. -/
def codes (krx : List KrxInstrumentRecord) : List String := krx.map fun record => strip record.isuCd

theorem advance_eq (now : Progress) (record : KrxInstrumentRecord) :
    advance byStandard now record =
      if strip record.isuCd ∈ now.seenKrx then
        .error (reconciliationError ("DUPLICATE_KRX_ISU_CD:" ++ strip record.isuCd))
      else .ok ⟨now.reconciled ++ (entry byStandard record).toList,
        now.seenKrx ++ [strip record.isuCd]⟩ := by
  unfold advance entry
  cases found : byStandard.get? (strip record.isuCd) <;> simp [found]

/-- The records are looked up one after another, unless a code is there twice. -/
theorem foldlM_advance_spec {now : Progress} (distinct : now.seenKrx.Nodup) :
    ((now.seenKrx ++ codes krx).Nodup ∧ krx.foldlM (advance byStandard) now =
      .ok ⟨now.reconciled ++ krx.filterMap (entry byStandard), now.seenKrx ++ codes krx⟩) ∨
    (¬(now.seenKrx ++ codes krx).Nodup ∧
      ∃ raised, krx.foldlM (advance byStandard) now = .error raised) := by
  induction krx generalizing now with
  | nil => exact .inl (by simpa [codes] using ⟨distinct, rfl⟩)
  | cons record rest ih =>
    have looked := @advance_eq byStandard now record
    by_cases twice : strip record.isuCd ∈ now.seenKrx
    · rw [if_pos twice] at looked
      refine .inr ⟨fun nodup => ?_, _, foldlM_of_error rest looked⟩
      exact (List.nodup_append.mp nodup).2.2 _ twice _ List.mem_cons_self rfl
    · rw [if_neg twice] at looked
      rw [foldlM_of_ok rest looked]
      have new : (now.seenKrx ++ [strip record.isuCd]).Nodup := by
        rw [← List.concat_eq_append]
        exact distinct.concat twice
      have later := @ih ⟨now.reconciled ++ (entry byStandard record).toList, _⟩ new
      have entries : (record :: rest).filterMap (entry byStandard) =
          (entry byStandard record).toList ++ rest.filterMap (entry byStandard) := by
        cases found : entry byStandard record <;> simp [found]
      have appended : now.seenKrx ++ codes (record :: rest) =
          now.seenKrx ++ [strip record.isuCd] ++ codes rest := by
        simp [codes]
      rwa [entries, appended, ← List.append_assoc]

/-- The result has the entries of an index of the KIS records, in the order of the KRX records. -/
theorem reconcile_cases (krx : List KrxInstrumentRecord) (kis : List KisMasterIdentityRecord) :
    (¬Ambiguous kis ∧ (codes krx).Nodup ∧ ∃ byStandard, Indexed kis byStandard ∧
      reconcileKrxToKis krx kis = .ok (krx.filterMap (entry byStandard))) ∨
    ((Ambiguous kis ∨ ¬(codes krx).Nodup) ∧
      ∃ raised, reconcileKrxToKis krx kis = .error raised) := by
  unfold reconcileKrxToKis
  rcases @foldlM_register_spec kis [] .empty indexed_empty with
    ⟨byStandard, made, indexed⟩ | ⟨⟨raised, refused⟩, ambiguous⟩
  · rw [made]
    rcases @foldlM_advance_spec byStandard krx ⟨[], []⟩ .nil with
      ⟨distinct, looked⟩ | ⟨twice, raised, refused⟩
    · refine .inl ⟨indexed.not_ambiguous, distinct, byStandard, indexed, ?_⟩
      exact bind_eq_ok.mpr ⟨byStandard, rfl, bind_eq_ok.mpr ⟨_, looked, rfl⟩⟩
    · refine .inr ⟨.inr twice, raised, ?_⟩
      change (krx.foldlM (advance byStandard) ⟨[], []⟩ >>= _) = _
      rw [refused]
      rfl
  · refine .inr ⟨.inl ambiguous, raised, ?_⟩
    rw [refused]
    rfl

/-- Some KIS record has the code of the KRX record as its standard code. -/
def Matched (kis : List KisMasterIdentityRecord) (record : KrxInstrumentRecord) : Prop :=
  ∃ other ∈ kis, other.standardCode? = some (strip record.isuCd)

instance : DecidablePred (Matched kis) := fun _ => List.decidableBEx _ _

/-- The identity of a KRX record, whichever of the KIS records with its code is taken. -/
def Carries (kis : List KisMasterIdentityRecord) (record : KrxInstrumentRecord)
    (identity : ReconciledInstrumentIdentity) : Prop :=
  ∀ other ∈ kis, other.standardCode? = some (strip record.isuCd) →
    identity = identityOf record other

theorem identityOf_congr {record : KrxInstrumentRecord} {a b : KisMasterIdentityRecord}
    (same : a.shrnIscd = b.shrnIscd) : identityOf record a = identityOf record b := by
  rw [identityOf, identityOf, same]

/-- In the index there is an entry for exactly the records that match. -/
theorem entry_cases (indexed : Indexed kis byStandard) (record : KrxInstrumentRecord) :
    (¬Matched kis record ∧ entry byStandard record = none) ∨
    (Matched kis record ∧ ∃ identity, entry byStandard record = some identity ∧
      Carries kis record identity) := by
  cases found : byStandard.get? (strip record.isuCd) with
  | none =>
    refine .inl ⟨?_, by rw [entry, found]; rfl⟩
    rintro ⟨other, inside, coded⟩
    have complete := indexed.complete other inside _ coded
    grind
  | some kept =>
    obtain ⟨inside, coded⟩ := indexed.sound _ _ found
    refine .inr ⟨⟨kept, inside, coded⟩, identityOf record kept, by rw [entry, found]; rfl, ?_⟩
    intro other inside' coded'
    have complete := indexed.complete other inside' _ coded'
    exact identityOf_congr (by grind)

theorem entries_carry (indexed : Indexed kis byStandard) (krx : List KrxInstrumentRecord) :
    List.Forall₂ (Carries kis) (krx.filter (Matched kis)) (krx.filterMap (entry byStandard)) := by
  induction krx with
  | nil => exact .nil
  | cons record rest ih =>
    rcases entry_cases indexed record with ⟨apart, none_there⟩ | ⟨same, identity, there, carries⟩
    · simpa [apart, none_there] using ih
    · simpa [same, there] using ⟨carries, ih⟩

/-- Indices of the same records have the same entries. -/
theorem entry_eq (indexed : Indexed kis byStandard) (indexed' : Indexed kis byStandard') :
    entry byStandard = entry byStandard' := by
  funext record
  rcases entry_cases indexed record with ⟨apart, none_there⟩ | ⟨same, identity, there, carries⟩
  · rcases entry_cases indexed' record with ⟨-, none_there'⟩ | ⟨same, -⟩
    · rw [none_there, none_there']
    · exact absurd same apart
  · rcases entry_cases indexed' record with ⟨apart, -⟩ | ⟨-, identity', there', carries'⟩
    · exact absurd same apart
    · obtain ⟨other, inside, coded⟩ := same
      rw [there, there', carries other inside coded, carries' other inside coded]

theorem Indexed.of_perm (perm : kis.Perm kis') (indexed : Indexed kis byStandard) :
    Indexed kis' byStandard := by
  constructor
  · intro code record found
    rw [← perm.mem_iff]
    exact indexed.sound code record found
  · intro record inside
    exact indexed.complete record (perm.mem_iff.mpr inside)

theorem ambiguous_perm (perm : kis.Perm kis') : Ambiguous kis ↔ Ambiguous kis' := by
  simp only [Ambiguous, perm.mem_iff]

/-- In another order the KIS records are refused likewise, or give the same. -/
theorem toOption_perm (perm : kis.Perm kis') :
    (reconcileKrxToKis krx kis').toOption = (reconcileKrxToKis krx kis).toOption := by
  have ambiguous := ambiguous_perm perm
  rcases reconcile_cases krx kis with
    ⟨clear, distinct, byStandard, indexed, returned⟩ | ⟨refused, raised, raises⟩
  · rcases reconcile_cases krx kis' with
      ⟨-, -, byStandard', indexed', returned'⟩ | ⟨refused', -⟩
    · rw [returned, returned', entry_eq (indexed.of_perm perm) indexed']
    · tauto
  · rcases reconcile_cases krx kis' with ⟨clear', distinct', -⟩ | ⟨-, raised', raises'⟩
    · tauto
    · rw [raises, raises']
      rfl

/-- Records are refused exactly when they contradict each other. Otherwise there is one identity for
each KRX record that some KIS record matches, in their order and with the stripped short code, and
the order of the KIS records does not matter. -/
theorem reconcile_spec (krx : List KrxInstrumentRecord) (kis : List KisMasterIdentityRecord) :
    ((∃ raised, reconcileKrxToKis krx kis = .error raised) ↔
      Ambiguous kis ∨ ¬(codes krx).Nodup) ∧
    (∀ result, reconcileKrxToKis krx kis = .ok result →
      List.Forall₂ (Carries kis) (krx.filter (Matched kis)) result) ∧
    ∀ kis', kis.Perm kis' →
      (reconcileKrxToKis krx kis').toOption = (reconcileKrxToKis krx kis).toOption := by
  refine ⟨?_, ?_, fun kis' perm => toOption_perm perm⟩
  · rcases reconcile_cases krx kis with
      ⟨clear, distinct, byStandard, -, returned⟩ | ⟨refused, raises⟩
    · refine iff_of_false ?_ (by tauto)
      rintro ⟨raised, raises⟩
      cases returned.symm.trans raises
    · exact iff_of_true raises refused
  · rintro result returned
    rcases reconcile_cases krx kis with
      ⟨-, -, byStandard, indexed, returned'⟩ | ⟨-, raised, raises⟩
    · cases returned.symm.trans returned'
      exact entries_carry indexed krx
    · cases returned.symm.trans raises

theorem padded_nonblank : strip " A01 " ≠ "" := by decide

/-- A KIS record whose short code has blanks around it. -/
def padded : KisMasterIdentityRecord := ⟨" A01 ", some "KR4101", padded_nonblank⟩

theorem listed_nonblank : strip "KR4101" ≠ "" := by decide

def listed : KrxInstrumentRecord := ⟨"KR4101", "KR4101", .futures, listed_nonblank, listed_nonblank⟩

/-- The identity has the short code without the blanks, which no record has. -/
theorem padded_stripped : ∃ identity, reconcileKrxToKis [listed] [padded] = .ok [identity] ∧
    identity.kisShrnIscd = "A01" ∧ padded.shrnIscd ≠ identity.kisShrnIscd :=
  ⟨identityOf listed padded, rfl, rfl, by decide⟩

end IdentityReconciliation
end OptionProject.Contracts
