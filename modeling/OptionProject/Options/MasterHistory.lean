import OptionProject.Library.WriteLog
import OptionProject.Options.FailedLoads

/-!
# Histories of a master

A master is used by registrations and loads in any order, and a use that raises is not the last
one. Its answers are those of two logs: the identity of a code is the first contract that was
brought under it, the expiry of a code is the last one that was written.

## Main definitions

* `MasterUse` — a call on a master, and `MasterUse.after`, what it leaves, also where it raises.
* `MasterLog`, `MasterLog.add` — what a use brings and writes.

## Main results

* `OptionContractMaster.answers_of_history` — the answers after any history.
-/
namespace OptionProject.Options
open Library Contracts

/-! ## Uses -/

inductive MasterUse
  | registerContract (symbol expiry : String)
  | registerContractIdentity (identity : KisOptionContractIdentity)
  | load (source : Load)

/-- The master after the use, unless the use is still running. -/
def MasterUse.after (self : OptionContractMaster) : MasterUse → Option OptionContractMaster
  | registerContract symbol expiry => some (self.registerContract symbol expiry)
  | registerContractIdentity identity => some (self.registerContractIdentity identity).2
  | load source =>
    match source.perform self with
    | (.error .running, _) => none
    | (_, next) => some next

/-! ## Logs -/

namespace KisOptionContractIdentity

def claim (identity : KisOptionContractIdentity) : String × KisOptionContractIdentity :=
  (strip identity.shrnIscd, identity)

/-- The expiries that the registration of the contract writes. -/
def writes (identity : KisOptionContractIdentity) : List (String × String) :=
  if identity.expiry = "" then []
  else identity.codes.map fun code => (strip code, strip identity.expiry)

end KisOptionContractIdentity

/-- The contracts that were brought and the expiries that were written, in their order. -/
structure MasterLog where
  claims : List (String × KisOptionContractIdentity) := []
  writes : List (String × String) := []

namespace MasterLog

/-- Another contract was brought under the short code before. -/
def refuses (log : MasterLog) (identity : KisOptionContractIdentity) : Bool :=
  (WriteLog.first log.claims (strip identity.shrnIscd)).any (· ≠ identity)

def write (log : MasterLog) (writes : List (String × String)) : MasterLog :=
  { log with writes := log.writes ++ writes }

def bring (log : MasterLog) (identities : List KisOptionContractIdentity) : MasterLog where
  claims := log.claims ++ identities.map KisOptionContractIdentity.claim
  writes := log.writes ++ identities.flatMap KisOptionContractIdentity.writes

/-- A file writes all its expiries, and brings its contracts up to the first that is refused. -/
def add (log : MasterLog) : MasterUse → MasterLog
  | .registerContract symbol expiry =>
    if symbol ≠ "" ∧ expiry ≠ "" then log.write [(strip symbol, strip expiry)] else log
  | .registerContractIdentity identity =>
    if strip identity.shrnIscd = "" ∨ log.refuses identity then log else log.bring [identity]
  | .load source =>
    match source.loaded with
    | .error _ => log
    | .ok result => (log.write result.legacyContracts.entries).bring
        (result.identities.values.takeWhile fun identity => !log.refuses identity)

def ofHistory (uses : List MasterUse) : MasterLog := uses.foldl add {}

theorem claims_prefix_add (log : MasterLog) (use : MasterUse) :
    log.claims <+: (log.add use).claims := by
  cases use with
  | registerContract symbol expiry =>
    simp only [add]
    split <;> exact List.prefix_rfl
  | registerContractIdentity identity =>
    simp only [add]
    split
    next => exact List.prefix_rfl
    next => exact List.prefix_append _ _
  | load source =>
    simp only [add]
    split
    next => exact List.prefix_rfl
    next => exact List.prefix_append _ _

theorem claims_prefix_foldl (uses : List MasterUse) (log : MasterLog) :
    log.claims <+: (uses.foldl add log).claims := by
  induction uses generalizing log with
  | nil => exact List.prefix_rfl
  | cons use rest ih => exact (claims_prefix_add log use).trans (ih (log.add use))

end MasterLog

/-! ## What a log says about a master -/

/-- The master was filled with the contracts and expiries of the log. -/
structure MasterLog.Records (log : MasterLog) (contracts : Dict String String)
    (master : OptionContractMaster) : Prop where
  identity : ∀ key, master.contractIdentities.get? key = WriteLog.first log.claims key
  expiry : ∀ key, master.contracts.get? key =
    (WriteLog.last log.writes key).or (contracts.get? key)
  named : ∀ claim ∈ log.claims, claim.1 ≠ ""

namespace OptionContractMaster

variable {self next : OptionContractMaster} {identity : KisOptionContractIdentity}
  {log : MasterLog} {contracts : Dict String String} {calendar : TradingCalendar} {rounds : ℕ}
  {result : KisOptionMasterParseResult} {lines : List String}

theorem registerContractIdentity_snd (self : OptionContractMaster)
    (identity : KisOptionContractIdentity) :
    (self.registerContractIdentity identity).2 =
      if strip identity.shrnIscd = "" ∨ self.refuses identity then self
      else
        { self with
          contracts := identity.writes.foldl (fun d write => d.set write.1 write.2) self.contracts
          contractIdentities :=
            self.contractIdentities.set (strip identity.shrnIscd) identity } := by
  unfold registerContractIdentity refuses
  dsimp only
  by_cases blank : strip identity.shrnIscd = ""
  · simp [blank]
  · by_cases refused : (self.contractIdentities.get? (strip identity.shrnIscd)).any (· ≠ identity)
    · rw [if_neg blank, if_pos refused, if_pos (.inr refused)]
    · rw [if_neg blank, if_neg refused, if_neg (not_or.mpr ⟨blank, refused⟩)]
      by_cases expires : identity.expiry = ""
      · cases standard : identity.stndIscd with
        | none => simp [registerContract, KisOptionContractIdentity.writes, expires]
        | some code => simp [registerContract, KisOptionContractIdentity.writes, expires]
      · cases standard : identity.stndIscd with
        | none =>
          simp [registerContract, KisOptionContractIdentity.writes, expires, standard, blank,
            KisOptionContractIdentity.codes]
        | some code =>
          by_cases empty : code = "" <;>
            simp [registerContract, KisOptionContractIdentity.writes, expires, standard, blank,
              KisOptionContractIdentity.codes, empty]

theorem refuses_iff_of_records (records : log.Records contracts self)
    (identity : KisOptionContractIdentity) : log.refuses identity = self.refuses identity := by
  rw [MasterLog.refuses, refuses, records.identity]

/-- Contracts that are not refused, with one contract at most for each short code, are brought
under their short codes. -/
theorem records_bring {identities : List KisOptionContractIdentity}
    (records : log.Records contracts self)
    (free : ∀ identity ∈ identities, self.refuses identity = false)
    (named : ∀ identity ∈ identities, strip identity.shrnIscd ≠ "")
    (alone : ∀ i ∈ identities, ∀ j ∈ identities, strip i.shrnIscd = strip j.shrnIscd → i = j)
    (claimed : next.contractIdentities =
      (identities.map KisOptionContractIdentity.claim).foldl (fun d claim => d.set claim.1 claim.2)
        self.contractIdentities)
    (written : next.contracts =
      (identities.flatMap KisOptionContractIdentity.writes).foldl
        (fun d write => d.set write.1 write.2) self.contracts) :
    (log.bring identities).Records contracts next where
  identity key := by
    have agree : ∀ write ∈ identities.map KisOptionContractIdentity.claim,
        ∀ other ∈ identities.map KisOptionContractIdentity.claim,
          write.1 = other.1 → write = other := by
      intro write member other member' same
      obtain ⟨i, inside, rfl⟩ := List.mem_map.mp member
      obtain ⟨j, inside', rfl⟩ := List.mem_map.mp member'
      rw [alone i inside j inside' same]
    have unchanged : ∀ write ∈ identities.map KisOptionContractIdentity.claim,
        ∀ value, self.contractIdentities.get? write.1 = some value → value = write.2 := by
      intro write member value there
      obtain ⟨i, inside, rfl⟩ := List.mem_map.mp member
      have kept := free i inside
      rw [KisOptionContractIdentity.claim] at there
      rw [refuses, there] at kept
      simpa [KisOptionContractIdentity.claim] using kept
    rw [claimed, WriteLog.get?_foldl_set, WriteLog.last_or_eq unchanged,
      WriteLog.last_eq_first agree, records.identity, MasterLog.bring, WriteLog.first_append]
  expiry key := by
    rw [written, WriteLog.get?_foldl_set, records.expiry, MasterLog.bring, WriteLog.last_append,
      Option.or_assoc]
  named claim member := by
    rcases List.mem_append.mp member with old | brought
    · exact records.named claim old
    · obtain ⟨identity, inside, rfl⟩ := List.mem_map.mp brought
      exact named identity inside

/-- The contracts of a parsed file are brought up to the first that is refused. -/
theorem records_applyParseResult (records : log.Records contracts self)
    (parsed : ParsedFrom (Lists calendar rounds lines) result) :
    ((log.write result.legacyContracts.entries).bring
        (result.identities.values.takeWhile fun identity => !log.refuses identity)).Records
      contracts (self.applyParseResult result).2 := by
  have same : (result.identities.values.takeWhile fun identity => !log.refuses identity) =
      result.taken self := by
    simp only [KisOptionMasterParseResult.taken, refuses_iff_of_records records]
  have known {i : KisOptionContractIdentity} (member : i ∈ result.taken self) : i.Parsed :=
    parsed_of_mem parsed (mem_values_of_taken member)
  have short {i : KisOptionContractIdentity} (member : i ∈ result.taken self) :
      strip i.shrnIscd = i.shrnIscd := (known member).stripped _ List.mem_cons_self
  have written : (log.write result.legacyContracts.entries).Records contracts
      { self with contracts := self.contracts.update result.legacyContracts } :=
    { identity := records.identity
      expiry := fun key => by
        rw [Dict.update, WriteLog.get?_foldl_set, records.expiry, MasterLog.write,
          WriteLog.last_append, Option.or_assoc]
      named := records.named }
  rw [same, (applyParseResult_parsed parsed).1]
  refine records_bring written ?free ?named ?alone ?claimed ?written
  case free =>
    intro i member
    have free : self.refuses i = false := by simpa using List.mem_takeWhile_imp member
    exact free
  case named =>
    intro i member
    rw [short member]
    exact (known member).named
  case alone =>
    intro i member j member' coincide
    rw [short member, short member'] at coincide
    exact same_of_short parsed (mem_values_of_taken member) (mem_values_of_taken member') coincide
  case claimed =>
    rw [(foldl_record _).2, List.foldl_map]
    refine List.foldl_ext _ _ _ fun d i member => ?_
    rw [KisOptionContractIdentity.claim, short member]
    rfl
  case written =>
    rw [(foldl_record _).1, List.foldl_flatMap]
    refine List.foldl_ext _ _ _ fun d i member => ?_
    have plain := known member
    rw [KisOptionContractIdentity.writes, if_neg plain.dated.ne_empty, plain.dated.trimmed,
      List.foldl_map, Dict.setAll]
    refine List.foldl_ext _ _ _ fun d code inside => ?_
    rw [plain.stripped code inside]

theorem records_registerContractIdentity (records : log.Records contracts self)
    (identity : KisOptionContractIdentity) :
    (log.add (.registerContractIdentity identity)).Records contracts
      (self.registerContractIdentity identity).2 := by
  rw [registerContractIdentity_snd]
  simp only [MasterLog.add, refuses_iff_of_records records]
  split
  next => exact records
  next free =>
    obtain ⟨named, free⟩ := not_or.mp free
    refine records_bring records ?_ ?_ ?_ rfl ?_
    · simpa using free
    · simpa using named
    · simp
    · simp

theorem records_registerContract (records : log.Records contracts self) (symbol expiry : String) :
    (log.add (.registerContract symbol expiry)).Records contracts
      (self.registerContract symbol expiry) := by
  simp only [MasterLog.add, registerContract]
  split
  next =>
    exact
      { identity := records.identity
        expiry := fun key => by
          have written := WriteLog.get?_foldl_set [(strip symbol, strip expiry)] self.contracts key
          rw [MasterLog.write, WriteLog.last_append, Option.or_assoc, ← records.expiry]
          exact written
        named := records.named }
  next => exact records

/-- Noting an error touches neither registry. -/
theorem perform_registries (self : OptionContractMaster) (source : Load) :
    (source.perform self).2.contracts = (self.install source.loaded).2.contracts ∧
      (source.perform self).2.contractIdentities =
        (self.install source.loaded).2.contractIdentities := by
  have noted (outcome : Except Halt ℕ × OptionContractMaster) :
      (noting outcome).2.contracts = outcome.2.contracts ∧
        (noting outcome).2.contractIdentities = outcome.2.contractIdentities := by
    unfold noting
    split <;> exact ⟨rfl, rfl⟩
  have swallowed (outcome : Except Halt ℕ × OptionContractMaster) :
      (swallowing outcome).2.contracts = outcome.2.contracts ∧
        (swallowing outcome).2.contractIdentities = outcome.2.contractIdentities := by
    unfold swallowing
    split <;> exact ⟨rfl, rfl⟩
  cases source with
  | fromKisSource => exact swallowed _
  | inMemoryFromRawMstContent => exact ⟨rfl, rfl⟩
  | productionFromRawMstContent => exact noted _
  | fromZipBytes => exact noted _

theorem MasterLog.Records.congr {next : OptionContractMaster} (records : log.Records contracts self)
    (expiries : next.contracts = self.contracts)
    (identities : next.contractIdentities = self.contractIdentities) :
    log.Records contracts next where
  identity := identities ▸ records.identity
  expiry := expiries ▸ records.expiry
  named := records.named

theorem records_load (records : log.Records contracts self) (source : Load) :
    (log.add (.load source)).Records contracts (source.perform self).2 := by
  obtain ⟨expiries, identities⟩ := perform_registries self source
  have installed : (log.add (.load source)).Records contracts
      (self.install source.loaded).2 := by
    simp only [MasterLog.add, install]
    cases loaded : source.loaded with
    | error halt => exact records
    | ok result =>
      obtain ⟨file, -, parsed⟩ := Load.file_of_loaded loaded
      have applied := records_applyParseResult records (parsedFrom_of_returned parsed)
      dsimp only
      split
      next refused => rw [refused] at applied; exact applied
      next returned =>
        rw [returned] at applied
        exact ⟨applied.identity, applied.expiry, applied.named⟩
  exact MasterLog.Records.congr installed expiries identities

/-- One use adds to the log what it leaves in the master. -/
theorem records_after {use : MasterUse} (records : log.Records contracts self)
    (moved : use.after self = some next) : (log.add use).Records contracts next := by
  cases use with
  | registerContract symbol expiry =>
    obtain rfl := Option.some.inj moved
    exact records_registerContract records symbol expiry
  | registerContractIdentity identity =>
    obtain rfl := Option.some.inj moved
    exact records_registerContractIdentity records identity
  | load source =>
    have loaded := records_load records source
    simp only [MasterUse.after] at moved
    split at moved
    next => cases moved
    next outcome _ performed =>
      obtain rfl := Option.some.inj moved
      rw [performed] at loaded
      exact loaded

theorem records_of_history {uses : List MasterUse}
    (ran : Machine.run MasterUse.after ⟨contracts, .empty, none⟩ uses = some self) :
    (MasterLog.ofHistory uses).Records contracts self := by
  induction uses using List.reverseRecOn generalizing self with
  | nil =>
    obtain rfl := Option.some.inj ran
    exact ⟨fun _ => rfl, fun _ => rfl, nofun⟩
  | append_singleton uses use ih =>
    obtain ⟨before, earlier, moved⟩ := Machine.run_concat.mp ran
    rw [MasterLog.ofHistory, List.foldl_concat]
    exact records_after (ih earlier) moved

theorem getContractIdentity_of_records (records : log.Records contracts self) (code : String) :
    self.getContractIdentity code = WriteLog.first log.claims (strip code) := by
  unfold getContractIdentity
  split
  next empty =>
    subst empty
    cases found : WriteLog.first log.claims (strip "") with
    | none => rfl
    | some identity => exact absurd rfl (records.named _ (WriteLog.mem_of_first found))
  next => exact records.identity _

/-- After any history of registrations and loads, also of such that raised, the identity of a code
is the first contract that was brought under it, and it stays for all later uses; the expiry of a
code is the last that was written under it, else the one the master was made with. -/
theorem answers_of_history (contracts : Dict String String) (uses : List MasterUse)
    (self : OptionContractMaster)
    (ran : Machine.run MasterUse.after ⟨contracts, .empty, none⟩ uses = some self) :
    (∀ code, self.getContractIdentity code =
      WriteLog.first (MasterLog.ofHistory uses).claims (strip code)) ∧
    (∀ code, code ≠ "" → self.getExpiry code =
      (WriteLog.last (MasterLog.ofHistory uses).writes (strip code)).or
        (contracts.get? (strip code))) ∧
    ∀ before code identity,
      Machine.Visits MasterUse.after ⟨contracts, .empty, none⟩ uses before →
      before.getContractIdentity code = some identity →
      self.getContractIdentity code = some identity := by
  have records := records_of_history ran
  refine ⟨getContractIdentity_of_records records, fun code named => ?_, ?_⟩
  · rw [getExpiry, if_neg named, records.expiry]
  · rintro before code identity ⟨earlier, ⟨later, rfl⟩, there⟩ answered
    rw [getContractIdentity_of_records (records_of_history there)] at answered
    rw [getContractIdentity_of_records records]
    refine WriteLog.first_of_prefix ?_ answered
    rw [MasterLog.ofHistory, MasterLog.ofHistory, List.foldl_append]
    exact MasterLog.claims_prefix_foldl later _

/-- A load that raises after a registration: the contract stays and its expiry is another. -/
theorem answers_of_history_near :
    ∃ self, Machine.run MasterUse.after ⟨.empty, .empty, none⟩
        [.registerContractIdentity nearContract, .load (.inMemoryFromRawMstContent laterFile)] =
          some self ∧
      self.getContractIdentity "201ABC" = some nearContract ∧
      self.getExpiry "201ABC" = some "2026-10-08" := by
  have ran : ∃ self, Machine.run MasterUse.after ⟨.empty, .empty, none⟩
      [.registerContractIdentity nearContract, .load (.inMemoryFromRawMstContent laterFile)] =
        some self ∧ True := exists_of_any (by decide +kernel)
  obtain ⟨self, ran, -⟩ := ran
  obtain ⟨identity, expiry, -⟩ := answers_of_history .empty _ self ran
  refine ⟨self, ran, ?_, ?_⟩
  · rw [identity]
    decide +kernel
  · rw [expiry _ (by decide)]
    decide +kernel

end OptionContractMaster

end OptionProject.Options
