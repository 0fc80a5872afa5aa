import OptionProject.Contracts.Types
import OptionProject.Library.Registered

/-!
# The master file of the futures contracts

`contracts/futures_contract_master.py`: the lines of the file are read into identities, one for each
short code, and the contract of the current month is selected among those of a target.

## Main definitions

* `parseKisFuturesContracts` — the identities of a file.
* `KisCurrentFuturesContractSource.currentContract` — the contract that is selected.

## Main results

* `parseKisFuturesContracts_eq_ok` — what a file that is accepted gives.
* `currentContract_eq_ok_iff` — when a contract is the current one of a file.
-/
namespace OptionProject.Contracts.FuturesMaster
open Library Library.Registered

/-- `KIS_FUTURES_INFO_TYPES` -/
def futuresInfoTypes : List String := ["1", "3", "7", "9", "B"]

def currentMonthCode : String := "1"

/-- A `FuturesContractMasterError`, by its text. -/
abbrev FuturesContractMasterError := String

structure KisFuturesContractIdentity where
  shrnIscd : String
  stndIscd : Option String
  infoType : String
  mmscClsCode : String
  unasShrnIscd : Option String
  unasKorName : Option String
  korName : Option String := none
  deriving DecidableEq

/-! ## The file -/

/-- `text or None` -/
def orNone (text : String) : Option String := if text = "" then none else some text

/-- The identity that a line is read as; the other lines are skipped. -/
def identityOf? (line : String) : Option KisFuturesContractIdentity :=
  match (splitOn '|' line).map strip with
  | infoType :: shrnIscd :: stndIscd :: korName :: _ :: _ :: mmscClsCode :: unasShrnIscd ::
      unasKorName :: _ =>
    if infoType ∉ futuresInfoTypes ∨ shrnIscd = "" then none
    else some
      { shrnIscd
        stndIscd := orNone stndIscd
        infoType
        mmscClsCode
        unasShrnIscd := orNone unasShrnIscd
        unasKorName := orNone unasKorName
        korName := orNone korName }
  | _ => none

/-- What the lines of a file are read as, one after another. -/
def identities (rawContent : String) : List KisFuturesContractIdentity :=
  (splitLines rawContent).filterMap identityOf?

def conflictingIdentity (identity : KisFuturesContractIdentity) : FuturesContractMasterError :=
  "CONFLICTING_FUTURES_IDENTITY:" ++ identity.shrnIscd

def parseKisFuturesContracts (rawContent : String) :
    Except FuturesContractMasterError (List KisFuturesContractIdentity) := do
  let seen ← registerAll KisFuturesContractIdentity.shrnIscd conflictingIdentity
    (identities rawContent)
  return seen.values

/-! ## The current contract -/

/-- The selectors of a target; one that is `none` selects nothing away. -/
structure Target where
  underlyingShortCode : Option String := none
  underlyingName : Option String := none

/-- The contract is of the current month and of the target. -/
def Target.selects (target : Target) (r : KisFuturesContractIdentity) : Bool :=
  r.mmscClsCode = currentMonthCode &&
    (target.underlyingShortCode.isNone || r.unasShrnIscd = target.underlyingShortCode) &&
    (target.underlyingName.isNone || r.unasKorName = target.underlyingName)

def selectCurrentFuturesContract (records : List KisFuturesContractIdentity) (target : Target) :
    Except FuturesContractMasterError KisFuturesContractIdentity :=
  match records.filter target.selects with
  | [candidate] => .ok candidate
  | candidates => .error ("CURRENT_FUTURES_NOT_UNIQUE:" ++ toString candidates.length)

structure KisCurrentFuturesContractSource where
  records : List KisFuturesContractIdentity
  target : Target

def KisCurrentFuturesContractSource.currentContract (self : KisCurrentFuturesContractSource) :
    Except FuturesContractMasterError KisFuturesContractIdentity :=
  selectCurrentFuturesContract self.records self.target

/-- The current contract of a file. -/
def currentContract (rawContent : String) (target : Target) :
    Except FuturesContractMasterError KisFuturesContractIdentity := do
  let records ← parseKisFuturesContracts rawContent
  (KisCurrentFuturesContractSource.mk records target).currentContract

variable {rawContent : String} {target : Target} {records : List KisFuturesContractIdentity}
  {c : KisFuturesContractIdentity}

/-- A file is accepted when lines of one short code agree, and gives each identity once. -/
theorem parseKisFuturesContracts_eq_ok
    (parsed : parseKisFuturesContracts rawContent = .ok records) :
    Consistent KisFuturesContractIdentity.shrnIscd (identities rawContent) ∧
      records.Nodup ∧ ∀ r, r ∈ records ↔ r ∈ identities rawContent := by
  obtain ⟨seen, registered, rest⟩ := bind_eq_ok.mp parsed
  obtain rfl : seen.values = records := Except.ok.inj rest
  have holds := registerAll_eq_ok registered
  refine ⟨holds.consistent, ?_, fun r => holds.mem_values⟩
  have codes : (seen.values.map (·.shrnIscd)).Nodup := by
    rw [holds.map_values]
    exact seen.nodupKeys
  exact codes.of_map

theorem exists_parseKisFuturesContracts
    (consistent : Consistent KisFuturesContractIdentity.shrnIscd (identities rawContent)) :
    ∃ records, parseKisFuturesContracts rawContent = .ok records := by
  obtain ⟨seen, registered⟩ :
      ∃ seen, registerAll KisFuturesContractIdentity.shrnIscd conflictingIdentity
        (identities rawContent) = .ok seen := exists_registerAll consistent
  exact ⟨seen.values, by rw [parseKisFuturesContracts, registered]; rfl⟩

/-- A file that is refused has lines that disagree on the contract of the code in the error. -/
theorem parseKisFuturesContracts_eq_error {e : FuturesContractMasterError}
    (refused : parseKisFuturesContracts rawContent = .error e) :
    ∃ a ∈ identities rawContent, ∃ b ∈ identities rawContent,
      a.shrnIscd = b.shrnIscd ∧ a ≠ b ∧ e = conflictingIdentity b := by
  unfold parseKisFuturesContracts at refused
  cases registered : registerAll KisFuturesContractIdentity.shrnIscd conflictingIdentity
      (identities rawContent) with
  | error e' =>
    rw [registered] at refused
    cases refused
    exact registerAll_eq_error registered
  | ok seen =>
    rw [registered] at refused
    cases refused

theorem selectCurrentFuturesContract_eq_ok_iff (nodup : records.Nodup) :
    selectCurrentFuturesContract records target = .ok c ↔
      c ∈ records ∧ target.selects c = true ∧
        ∀ r ∈ records, target.selects r = true → r = c := by
  have only := @eq_singleton_iff _ (records.filter target.selects) c (nodup.filter target.selects)
  simp only [List.mem_filter, and_assoc, and_imp] at only
  rw [← only]
  unfold selectCurrentFuturesContract
  split
  next candidate one => rw [one, Except.ok.injEq, List.cons.injEq, and_iff_left rfl]
  next candidates several =>
    refine iff_of_false (fun returned => nomatch returned) ?_
    exact several c

/-- A contract is the current one of a file exactly when lines of one short code agree, a line of
the file is it, and it is the only one that the target selects. -/
theorem currentContract_eq_ok_iff (rawContent : String) (target : Target)
    (c : KisFuturesContractIdentity) :
    currentContract rawContent target = .ok c ↔
      Consistent KisFuturesContractIdentity.shrnIscd (identities rawContent) ∧
        c ∈ identities rawContent ∧ target.selects c = true ∧
        ∀ r ∈ identities rawContent, target.selects r = true → r = c := by
  unfold currentContract
  constructor
  · intro returned
    obtain ⟨records, parsed, selected⟩ := bind_eq_ok.mp returned
    obtain ⟨consistent, nodup, members⟩ := parseKisFuturesContracts_eq_ok parsed
    have selected := (selectCurrentFuturesContract_eq_ok_iff nodup).mp selected
    simp only [members] at selected
    exact ⟨consistent, selected⟩
  · rintro ⟨consistent, selected⟩
    obtain ⟨records, parsed⟩ := exists_parseKisFuturesContracts consistent
    obtain ⟨-, nodup, members⟩ := parseKisFuturesContracts_eq_ok parsed
    simp only [← members] at selected
    exact bind_eq_ok.mpr
      ⟨records, parsed, (selectCurrentFuturesContract_eq_ok_iff nodup).mpr selected⟩

/-- The order of the lines is of no consequence, and neither is a line that comes twice. -/
theorem currentContract_eq_ok_of_same_lines {other : String}
    (same : ∀ line, line ∈ splitLines rawContent ↔ line ∈ splitLines other) :
    currentContract rawContent target = .ok c ↔ currentContract other target = .ok c := by
  have members (r : KisFuturesContractIdentity) :
      r ∈ identities rawContent ↔ r ∈ identities other := by
    simp only [identities, List.mem_filterMap, same]
  simp only [currentContract_eq_ok_iff, Consistent, members]

/-- The options and the star futures are left out by the target. -/
example :
    (currentContract ("101|\n1|101S12|STD-NEAR|KOSPI FUT|0|0|1|U200|KOSPI200\n" ++
        "1|101S13|STD-NEXT|KOSPI FUT|0|0|2|U200|KOSPI200\n" ++
        "5|201ABC|OPT|CALL|0|350|1|U200|KOSPI200\n3|301S12|STAR FUT|STAR FUT|0|0|1|USTAR|STAR")
      { underlyingShortCode := some "U200" }).map (·.shrnIscd) = .ok "101S12" := by
  decide +kernel

end OptionProject.Contracts.FuturesMaster
