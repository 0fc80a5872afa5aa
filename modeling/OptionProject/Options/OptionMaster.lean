import OptionProject.Options.MasterFile

/-!
# The option contract masters

The loader and the two masters of `core/option/option_master.py`. A master keeps an expiry under
every code and an identity under every short code. The in-memory and the production master differ
in what a load does with an exception.

## Main definitions

* `KisOptionMasterLoader.loadResultFromZipBytes`, `KisOptionMasterLoader.loadResultFromUrl` — the
  ways to a parsed file.
* `OptionContractMaster.registerContractIdentity`, `OptionContractMaster.applyParseResult` — the
  two writers of both registries.
* `Load`, `MasterCall` — the calls on a master.
-/
namespace OptionProject.Options
open Library Contracts

/-! ## The loader -/

/-- What `zipfile` and the decoding make of the bytes. -/
inductive ZipBytes
  | empty
  | broken (e : PythonException)
  | archive (entries : List (String × Except PythonException String))

/-- The raw text of a master file, with the calendar it is read with. -/
structure MasterFile where
  rawText : String
  calendar : TradingCalendar
  rounds : ℕ

def requireCalendar (calendar : Option TradingCalendar) : Except Halt TradingCalendar :=
  match calendar with
  | none => raise "KisMasterParseError" ("TradingCalendar injection is required; no production " ++
      "calendar source is owned by OptionContractMaster.")
  | some calendar => .ok calendar

namespace KisOptionMasterLoader

def isMasterName (name : String) : Bool :=
  includes name "fo_idx_code_mts" ∨ includes name "fo_idx_code" ∨ includes name "optcode"

def failedToExtract (text : String) : Except Halt String :=
  raise "KisMasterParseError" ("Failed to extract zip archive: " ++ text)

def extractRawTextFromZipBytes : ZipBytes → Except Halt String
  | .empty => raise "KisMasterParseError" "Empty zip bytes provided for KIS master loading."
  | .broken e => failedToExtract e.text
  | .archive entries =>
    let names := entries.map Prod.fst
    match ((names.find? isMasterName).or names.head?).filter (· ≠ "") with
    | none => raise "KisMasterParseError" "No valid master file found in zip archive."
    | some target =>
      -- of entries with one name the archive reads the last
      match entries.reverse.find? fun entry => entry.1 = target with
      | some (_, .ok text) => .ok text
      | some (_, .error e) => failedToExtract e.text
      | none => failedToExtract ""

def parseRawContent (file : MasterFile) : Except Halt KisOptionMasterParseResult := do
  let result ← parseKisFoIdxMstResult file.calendar file.rounds file.rawText
  if result.legacyContracts.entries = [] then
    raise "KisMasterParseError" "Master file parsed 0 contracts."
  else return result

def loadResultFromZipBytes (zip : ZipBytes) (calendar : TradingCalendar) (rounds : ℕ) :
    Except Halt KisOptionMasterParseResult := do
  let rawText ← extractRawTextFromZipBytes zip
  parseRawContent ⟨rawText, calendar, rounds⟩

/-- The `except` clauses around the download. -/
def asDownload {α : Type} (url : String) : Except Halt α → Except Halt α
  | .error (.raised e) =>
    if e.typeName = "KisMasterParseError" then .error (.raised e)
    else raise "KisMasterDownloadError"
      ("Failed to download KIS master from " ++ url ++ ": " ++ e.text)
  | outcome => outcome

def loadResultFromUrl (url : String) (calendar : Option TradingCalendar) (rounds : ℕ)
    (download : Except PythonException ZipBytes) : Except Halt KisOptionMasterParseResult := do
  let calendar ← requireCalendar calendar
  asDownload url (match download with
    | .error e => .error (.raised e)
    | .ok zip => loadResultFromZipBytes zip calendar rounds)

end KisOptionMasterLoader

/-! ## The masters -/

structure OptionContractMaster where
  contracts : Dict String String
  contractIdentities : Dict String KisOptionContractIdentity := .empty
  lastError : Option String := none

namespace OptionContractMaster

variable (self : OptionContractMaster)

def getExpiry (symbol : String) : Option String :=
  if symbol = "" then none else self.contracts.get? (strip symbol)

def getContractIdentity (shrnIscd : String) : Option KisOptionContractIdentity :=
  if shrnIscd = "" then none else self.contractIdentities.get? (strip shrnIscd)

def registerContract (symbol expiry : String) : OptionContractMaster :=
  if symbol ≠ "" ∧ expiry ≠ "" then
    { self with contracts := self.contracts.set (strip symbol) (strip expiry) }
  else self

def registerContractIdentity (identity : KisOptionContractIdentity) :
    Except Halt Unit × OptionContractMaster :=
  let key := strip identity.shrnIscd
  if key = "" then
    (raise "KisMasterParseError" "KIS identity requires non-empty shrn_iscd.", self)
  else if (self.contractIdentities.get? key).any (· ≠ identity) then
    (raise "KisMasterParseError"
      ("Conflicting registered KIS identity for shrn_iscd '" ++ key ++ "'."), self)
  else
    let next := { self with contractIdentities := self.contractIdentities.set key identity }
    let next := next.registerContract key identity.expiry
    (.ok (), identity.stndIscd.elim next fun code =>
      if code = "" then next else next.registerContract code identity.expiry)

/-- The loop over the identities; it stops where one of them is refused. -/
def registerAll (self : OptionContractMaster) :
    List KisOptionContractIdentity → Except Halt Unit × OptionContractMaster
  | [] => (.ok (), self)
  | identity :: rest =>
    match self.registerContractIdentity identity with
    | (.error halt, next) => (.error halt, next)
    | (.ok (), next) => registerAll next rest

def applyParseResult (result : KisOptionMasterParseResult) :
    Except Halt Unit × OptionContractMaster :=
  { self with contracts := self.contracts.update result.legacyContracts }.registerAll
    result.identities.values

/-- The body that all loads share. -/
def install (loaded : Except Halt KisOptionMasterParseResult) :
    Except Halt ℕ × OptionContractMaster :=
  match loaded with
  | .error halt => (.error halt, self)
  | .ok result =>
    match self.applyParseResult result with
    | (.error halt, next) => (.error halt, next)
    | (.ok (), next) => (.ok result.legacyContracts.entries.length, { next with lastError := none })

end OptionContractMaster

/-- An exception is noted and raised again. -/
def noting : Except Halt ℕ × OptionContractMaster → Except Halt ℕ × OptionContractMaster
  | (.error (.raised e), next) => (.error (.raised e), { next with lastError := some e.text })
  | outcome => outcome

/-- An exception is noted, and the call returns 0. -/
def swallowing : Except Halt ℕ × OptionContractMaster → Except Halt ℕ × OptionContractMaster
  | (.error (.raised e), next) => (.ok 0, { next with lastError := some e.text })
  | outcome => outcome

/-! ## Calls -/

/-- The loads. The in-memory master has the first two, the production master all but the second;
its own calendar comes with each call. -/
inductive Load
  | fromKisSource (url : String) (calendar : Option TradingCalendar) (rounds : ℕ)
      (download : Except PythonException ZipBytes)
  | inMemoryFromRawMstContent (file : MasterFile)
  | productionFromRawMstContent (file : MasterFile)
  | fromZipBytes (zip : ZipBytes) (calendar : TradingCalendar) (rounds : ℕ)

namespace Load
open KisOptionMasterLoader

/-- The parsed file to install. -/
def loaded : Load → Except Halt KisOptionMasterParseResult
  | fromKisSource url calendar rounds download => loadResultFromUrl url calendar rounds download
  | inMemoryFromRawMstContent file => parseRawContent file
  | productionFromRawMstContent file => parseRawContent file
  | fromZipBytes zip calendar rounds => loadResultFromZipBytes zip calendar rounds

def perform (self : OptionContractMaster) (load : Load) : Except Halt ℕ × OptionContractMaster :=
  match load with
  | fromKisSource .. => swallowing (self.install load.loaded)
  | inMemoryFromRawMstContent _ => self.install load.loaded
  | productionFromRawMstContent _ => noting (self.install load.loaded)
  | fromZipBytes .. => noting (self.install load.loaded)

end Load

inductive MasterCall
  | registerContractIdentity (identity : KisOptionContractIdentity)
  | load (source : Load)

/-- A call that returns normally leaves a master. -/
def MasterCall.step (self : OptionContractMaster) :
    MasterCall → Option OptionContractMaster
  | .registerContractIdentity identity =>
    match self.registerContractIdentity identity with
    | (.ok _, next) => some next
    | (.error _, _) => none
  | .load source =>
    match source.perform self with
    | (.ok _, next) => some next
    | (.error _, _) => none

end OptionProject.Options
