import OptionProject.Library.Machine
import OptionProject.Options.OptionMaster

/-!
# The two registries of a master

A master looks an expiry up by code and an identity by short code. The conflict check compares
identities of one short code only, and the expiries of a file are installed before it. So the two
registries agree as long as contracts that share a code have one expiry.

## Main definitions

* `OptionContractMaster.Agrees`, `KisOptionMasterParseResult.Agrees` — every code of an identity
  leads to its expiry.
* `KisOptionContractIdentity.SharesCode` — two contracts have a code in common.
* `MasterCall.Safe` — the contracts a call brings agree with one another and with the registered.

## Main results

* `parsed_agrees_iff` — for a file.
* `OptionContractMaster.registered_agrees_iff` — for one registration.
* `registries_agree` — for files, and for runs of calls.
-/
namespace OptionProject.Options
open Library Contracts

namespace KisOptionContractIdentity

def SharesCode (identity other : KisOptionContractIdentity) : Prop :=
  ∃ code ∈ identity.codes, ∃ code' ∈ other.codes, strip code = strip code'

end KisOptionContractIdentity

/-! ## Files -/

def KisOptionMasterParseResult.Agrees (result : KisOptionMasterParseResult) : Prop :=
  ∀ identity ∈ result.identities.values, ∀ code ∈ identity.codes,
    result.legacyContracts.get? code = some identity.expiry

instance (result : KisOptionMasterParseResult) : Decidable result.Agrees :=
  inferInstanceAs (Decidable (∀ _ ∈ _, _))

/-- Contracts of the file that share a code have one expiry, wherever their lines stand. -/
def LinesAgree (calendar : TradingCalendar) (rounds : ℕ) (rawContent : String) : Prop :=
  ∀ identity other, Lists calendar rounds (splitLines rawContent) identity →
    Lists calendar rounds (splitLines rawContent) other → identity.SharesCode other →
      identity.expiry = other.expiry

variable {calendar : TradingCalendar} {rounds : ℕ} {rawContent : String}
  {result : KisOptionMasterParseResult} {identity : KisOptionContractIdentity}

theorem strip_code_of_lists {lines : List String} (listed : Lists calendar rounds lines identity)
    {code : String} (member : code ∈ identity.codes) : strip code = code := by
  obtain ⟨line, _, parsedLine⟩ := listed
  exact (wellFormed_of_parsed parsedLine).2 code member

theorem parsed_agrees_iff
    (returned : parseKisFoIdxMstResult calendar rounds rawContent = .ok result) :
    result.Agrees ↔ LinesAgree calendar rounds rawContent := by
  have parsed := parsedFrom_of_returned returned
  constructor
  · rintro agrees i j listed listed' ⟨code, member, code', member', same⟩
    rw [strip_code_of_lists listed member, strip_code_of_lists listed' member'] at same
    subst same
    have known := Dict.mem_values.mpr ⟨_, parsed.identity_of_listed i listed⟩
    have known' := Dict.mem_values.mpr ⟨_, parsed.identity_of_listed j listed'⟩
    exact Option.some.inj ((agrees i known code member).symm.trans (agrees j known' code member'))
  · intro agree i member code inside
    obtain ⟨key, found⟩ := Dict.mem_values.mp member
    have listed := parsed.listed_of_identity key i found
    obtain ⟨expiry, stored⟩ := parsed.expiry_of_listed i listed code inside
    obtain ⟨j, listed', inside', rfl⟩ := parsed.listed_of_expiry code expiry stored
    rw [stored, agree j i listed' listed ⟨code, inside', code, inside, rfl⟩]

/-! ## One registration -/

namespace OptionContractMaster

def Agrees (self : OptionContractMaster) : Prop :=
  ∀ identity ∈ self.contractIdentities.values, ∀ code ∈ identity.codes,
    self.getExpiry code = some identity.expiry

instance (self : OptionContractMaster) : Decidable self.Agrees :=
  inferInstanceAs (Decidable (∀ _ ∈ _, _))

/-- What a registration that returns has done. -/
structure RegisteredAs (before next : OptionContractMaster)
    (identity : KisOptionContractIdentity) : Prop where
  named : ∀ code ∈ identity.codes, code ≠ ""
  alone : ∀ other, before.contractIdentities.get? (strip identity.shrnIscd) = some other →
    other = identity
  identities : next.contractIdentities =
    before.contractIdentities.set (strip identity.shrnIscd) identity
  contracts : next.contracts =
    before.contracts.setAll (identity.codes.map strip) (strip identity.expiry)

variable {self next : OptionContractMaster}

theorem registerContractIdentity_cases (self : OptionContractMaster)
    (expires : identity.expiry ≠ "") :
    (∃ halt, self.registerContractIdentity identity = (.error halt, self)) ∨
      ∃ next, self.registerContractIdentity identity = (.ok (), next) ∧
        RegisteredAs self next identity := by
  unfold registerContractIdentity
  dsimp only
  split
  next => exact .inl ⟨_, rfl⟩
  next short =>
    split
    next => exact .inl ⟨_, rfl⟩
    next agreed =>
      have shortName : identity.shrnIscd ≠ "" := fun empty => short (by rw [empty]; rfl)
      refine .inr ⟨_, rfl, ?_, ?_, ?_, ?_⟩
      · intro code member
        rcases List.mem_cons.mp member with rfl | standard
        · exact shortName
        · simpa using (List.mem_filter.mp standard).2
      · intro other found
        rw [found] at agreed
        simpa using agreed
      all_goals
        cases standard : identity.stndIscd with
        | none =>
          simp [registerContract, short, expires, KisOptionContractIdentity.codes, standard,
            Dict.setAll]
        | some code =>
          by_cases empty : code = "" <;>
            simp [registerContract, short, expires, KisOptionContractIdentity.codes, standard,
              Dict.setAll, empty]

theorem ne_empty_of_getExpiry {code expiry : String} (found : self.getExpiry code = some expiry) :
    code ≠ "" := by
  rintro rfl
  cases found

theorem RegisteredAs.getExpiry (registered : RegisteredAs self next identity) {code : String}
    (named : code ≠ "") :
    next.getExpiry code = if strip code ∈ identity.codes.map strip then some (strip identity.expiry)
      else self.getExpiry code := by
  simp only [OptionContractMaster.getExpiry, named, if_false, registered.contracts,
    Dict.get?_setAll]

theorem RegisteredAs.mem_identities (registered : RegisteredAs self next identity)
    {other : KisOptionContractIdentity} :
    other ∈ next.contractIdentities.values ↔
      other = identity ∨ other ∈ self.contractIdentities.values := by
  simp only [Dict.mem_values, registered.identities, Dict.get?_set]
  constructor
  · rintro ⟨key, found⟩
    split at found
    next => exact .inl (Option.some.inj found).symm
    next => exact .inr ⟨key, found⟩
  · rintro (rfl | ⟨key, found⟩)
    · exact ⟨_, if_pos rfl⟩
    · refine ⟨key, ?_⟩
      split
      next same => rw [registered.alone other (same ▸ found)]
      next => exact found

/-- After a registration the registries agree exactly when the expiry has no blanks around it and
is the one of every registered contract that shares a code. -/
theorem registered_agrees_iff (agrees : self.Agrees)
    (registered : RegisteredAs self next identity) :
    next.Agrees ↔ strip identity.expiry = identity.expiry ∧
      ∀ other ∈ self.contractIdentities.values, identity.SharesCode other →
        identity.expiry = other.expiry := by
  have written {code code' : String} (member : code ∈ identity.codes)
      (same : strip code = strip code') :
      strip code' ∈ identity.codes.map strip := same ▸ List.mem_map_of_mem member
  constructor
  · intro agree
    have own := agree identity (registered.mem_identities.mpr (.inl rfl)) _ List.mem_cons_self
    rw [registered.getExpiry (registered.named _ List.mem_cons_self),
      if_pos (written List.mem_cons_self rfl)] at own
    have trimmed := Option.some.inj own
    refine ⟨trimmed, ?_⟩
    rintro other member ⟨code, inside, code', inside', same⟩
    have others := agree other (registered.mem_identities.mpr (.inr member)) code' inside'
    rw [registered.getExpiry (ne_empty_of_getExpiry others), if_pos (written inside same),
      trimmed] at others
    exact Option.some.inj others
  · rintro ⟨trimmed, shared⟩ other member code inside
    rcases registered.mem_identities.mp member with rfl | old
    · rw [registered.getExpiry (registered.named code inside), if_pos (written inside rfl), trimmed]
    · have before := agrees other old code inside
      rw [registered.getExpiry (ne_empty_of_getExpiry before)]
      split
      next shares =>
        obtain ⟨code', inside', same⟩ := List.mem_map.mp shares
        rw [trimmed, shared other old ⟨code', inside', code, inside, same⟩]
      next => exact before

/-! ## Loads -/

/-- Contracts that are brought agree with one another and with the registered. -/
structure Compatible (master : OptionContractMaster)
    (offered : KisOptionContractIdentity → Prop) : Prop where
  trimmed : ∀ identity, offered identity → strip identity.expiry = identity.expiry
  shared : ∀ identity other, offered identity →
    offered other ∨ other ∈ master.contractIdentities.values →
      identity.SharesCode other → identity.expiry = other.expiry

variable {offered : KisOptionContractIdentity → Prop}

theorem registerAll_agrees (identities : List KisOptionContractIdentity) (agrees : self.Agrees)
    (compatible : self.Compatible offered) (among : ∀ identity ∈ identities, offered identity)
    (expires : ∀ identity, offered identity → identity.expiry ≠ "") :
    (self.registerAll identities).2.Agrees := by
  induction identities generalizing self with
  | nil => exact agrees
  | cons identity rest ih =>
    have brought := among identity List.mem_cons_self
    rcases registerContractIdentity_cases self (expires identity brought) with
      ⟨halt, refused⟩ | ⟨next, returned, registered⟩
    · simpa only [registerAll, refused] using agrees
    · simp only [registerAll, returned]
      refine ih ?_ ⟨compatible.trimmed, ?_⟩ fun i member => among i (List.mem_cons_of_mem _ member)
      · exact (registered_agrees_iff agrees registered).mpr ⟨compatible.trimmed identity brought,
          fun other member => compatible.shared identity other brought (.inr member)⟩
      · rintro i other offered_i (offered_other | member) shares
        · exact compatible.shared i other offered_i (.inl offered_other) shares
        · rcases registered.mem_identities.mp member with rfl | old
          · exact compatible.shared i other offered_i (.inl brought) shares
          · exact compatible.shared i other offered_i (.inr old) shares

/-- The expiries of a file may be installed ahead of its identities. -/
theorem updated_agrees {lines : List String}
    (parsed : ParsedFrom (Lists calendar rounds lines) result) (agrees : self.Agrees)
    (compatible : self.Compatible (Lists calendar rounds lines)) :
    ({ self with contracts := self.contracts.update result.legacyContracts } :
      OptionContractMaster).Agrees := by
  intro other member code inside
  have before := agrees other member code inside
  have named := ne_empty_of_getExpiry before
  rw [getExpiry, if_neg named] at before ⊢
  rw [Dict.get?_update]
  cases found : result.legacyContracts.get? (strip code) with
  | none => simpa using before
  | some expiry =>
    obtain ⟨identity, listed, inside', rfl⟩ := parsed.listed_of_expiry _ expiry found
    rw [Option.some_or, compatible.shared identity other listed (.inr member)
      ⟨_, inside', code, inside, strip_strip code⟩]

theorem expiry_ne_empty_of_lists {lines : List String}
    (listed : Lists calendar rounds lines identity) : identity.expiry ≠ "" := by
  obtain ⟨line, _, parsedLine⟩ := listed
  exact (wellFormed_of_parsed parsedLine).1.ne_empty

theorem applyParseResult_agrees {lines : List String}
    (parsed : ParsedFrom (Lists calendar rounds lines) result) (agrees : self.Agrees)
    (compatible : self.Compatible (Lists calendar rounds lines)) :
    (self.applyParseResult result).2.Agrees := by
  refine registerAll_agrees _ (updated_agrees parsed agrees compatible)
    ⟨compatible.trimmed, compatible.shared⟩ (fun identity member => ?_)
    fun identity => expiry_ne_empty_of_lists
  obtain ⟨key, found⟩ := Dict.mem_values.mp member
  exact parsed.listed_of_identity key identity found

end OptionContractMaster

open KisOptionMasterLoader

/-- The file in the bytes, if there is one. -/
def extracted (zip : ZipBytes) (calendar : TradingCalendar) (rounds : ℕ) : Option MasterFile :=
  (extractRawTextFromZipBytes zip).toOption.map fun rawText => ⟨rawText, calendar, rounds⟩

/-- The file a load reads. -/
def Load.file? : Load → Option MasterFile
  | fromKisSource _ (some calendar) rounds (.ok zip) => extracted zip calendar rounds
  | fromKisSource .. => none
  | inMemoryFromRawMstContent file => some file
  | productionFromRawMstContent file => some file
  | fromZipBytes zip calendar rounds => extracted zip calendar rounds

/-- The contracts of the lines of a file, when the file parses. -/
def MasterFile.Offers (file : MasterFile) (identity : KisOptionContractIdentity) : Prop :=
  (∃ result, parseKisFoIdxMstResult file.calendar file.rounds file.rawText = .ok result) ∧
    Lists file.calendar file.rounds (splitLines file.rawText) identity

/-- The contracts a call brings. -/
def MasterCall.Offers : MasterCall → KisOptionContractIdentity → Prop
  | registerContractIdentity identity, offered => offered = identity
  | load source, offered => ∃ file, source.file? = some file ∧ file.Offers offered

/-- Codes and expiry of a contract that is registered directly are not blank. -/
def MasterCall.WellFormed : MasterCall → Prop
  | registerContractIdentity identity =>
    (∀ code ∈ identity.codes, strip code ≠ "") ∧ strip identity.expiry ≠ ""
  | load _ => True

instance (call : MasterCall) : Decidable call.WellFormed :=
  match call with
  | .registerContractIdentity _ => inferInstanceAs (Decidable (_ ∧ _))
  | .load _ => .isTrue trivial

def MasterCall.Safe (self : OptionContractMaster) (call : MasterCall) : Prop :=
  self.Compatible call.Offers

theorem parsed_of_parseRawContent {file : MasterFile}
    (returned : parseRawContent file = .ok result) :
    parseKisFoIdxMstResult file.calendar file.rounds file.rawText = .ok result := by
  obtain ⟨found, parsed, returned⟩ := bind_eq_ok.mp returned
  split at returned
  next => cases returned
  next => exact Except.ok.inj returned ▸ parsed

theorem extracted_of_loaded {zip : ZipBytes}
    (returned : loadResultFromZipBytes zip calendar rounds = .ok result) :
    ∃ file, extracted zip calendar rounds = some file ∧
      parseKisFoIdxMstResult file.calendar file.rounds file.rawText = .ok result := by
  obtain ⟨rawText, found, returned⟩ := bind_eq_ok.mp returned
  exact ⟨⟨rawText, calendar, rounds⟩, by rw [extracted, found]; rfl,
    parsed_of_parseRawContent returned⟩

theorem asDownload_eq_ok {α : Type} {url : String} {loaded : Except Halt α} {a : α} :
    asDownload url loaded = .ok a ↔ loaded = .ok a := by
  unfold asDownload
  split
  next e => by_cases known : e.typeName = "KisMasterParseError" <;> simp [known, raise]
  next => rfl

theorem Load.file_of_loaded {source : Load} (returned : source.loaded = .ok result) :
    ∃ file, source.file? = some file ∧
      parseKisFoIdxMstResult file.calendar file.rounds file.rawText = .ok result := by
  cases source with
  | inMemoryFromRawMstContent file => exact ⟨file, rfl, parsed_of_parseRawContent returned⟩
  | productionFromRawMstContent file => exact ⟨file, rfl, parsed_of_parseRawContent returned⟩
  | fromZipBytes zip calendar rounds => exact extracted_of_loaded returned
  | fromKisSource url calendar? rounds download =>
    obtain ⟨calendar, required, returned⟩ := bind_eq_ok.mp returned
    cases calendar? with
    | none => cases required
    | some known =>
      obtain rfl := Except.ok.inj required
      have downloaded := asDownload_eq_ok.mp returned
      cases download with
      | error e => cases downloaded
      | ok zip => exact extracted_of_loaded downloaded

namespace OptionContractMaster

variable {self next : OptionContractMaster}

theorem install_agrees {source : Load} (agrees : self.Agrees)
    (compatible : self.Compatible (MasterCall.load source).Offers) :
    (self.install source.loaded).2.Agrees := by
  unfold install
  split
  next => exact agrees
  next result loaded =>
    obtain ⟨file, there, parsed⟩ := Load.file_of_loaded loaded
    have offered {identity : KisOptionContractIdentity}
        (listed : Lists file.calendar file.rounds (splitLines file.rawText) identity) :
        (MasterCall.load source).Offers identity := ⟨file, there, ⟨result, parsed⟩, listed⟩
    have applied := applyParseResult_agrees (parsedFrom_of_returned parsed) agrees
      { trimmed := fun identity listed => compatible.trimmed identity (offered listed)
        shared := fun identity other listed others =>
          compatible.shared identity other (offered listed) (others.imp_left offered) }
    split
    next halt next refused => simpa only [refused] using applied
    next next returned =>
      rw [returned] at applied
      exact applied

theorem noting_agrees {outcome : Except Halt ℕ × OptionContractMaster}
    (agrees : outcome.2.Agrees) : (noting outcome).2.Agrees := by
  unfold noting
  split <;> exact agrees

theorem swallowing_agrees {outcome : Except Halt ℕ × OptionContractMaster}
    (agrees : outcome.2.Agrees) : (swallowing outcome).2.Agrees := by
  unfold swallowing
  split <;> exact agrees

theorem step_agrees {call : MasterCall} (agrees : self.Agrees) (wellFormed : call.WellFormed)
    (safe : call.Safe self) (moved : MasterCall.step self call = some next) : next.Agrees := by
  unfold MasterCall.step at moved
  cases call with
  | registerContractIdentity identity =>
    have expires : identity.expiry ≠ "" := fun empty => wellFormed.2 (by rw [empty]; rfl)
    rcases registerContractIdentity_cases self expires with
      ⟨halt, refused⟩ | ⟨next, returned, registered⟩
    · simp [refused] at moved
    · simp only [returned, Option.some.injEq] at moved
      subst moved
      exact (registered_agrees_iff agrees registered).mpr ⟨safe.trimmed identity rfl,
        fun other member => safe.shared identity other rfl (.inr member)⟩
  | load source =>
    have installed := install_agrees agrees safe
    have performed : (source.perform self).2.Agrees := by
      cases source with
      | fromKisSource => exact swallowing_agrees installed
      | inMemoryFromRawMstContent => exact installed
      | productionFromRawMstContent => exact noting_agrees installed
      | fromZipBytes => exact noting_agrees installed
    dsimp only at moved
    split at moved
    next returned =>
      obtain rfl := Option.some.inj moved
      simpa only [returned] using performed
    next => cases moved

end OptionContractMaster

/-! ## The two registries -/

/-- A file agrees with itself exactly when its lines do; a master agrees with itself in every state
of a run as long as each call brings contracts that agree with the registered. -/
theorem registries_agree (calendar : TradingCalendar) (rounds : ℕ) (rawContent : String)
    (contracts : Dict String String) (calls : List MasterCall) :
    (∀ result, parseKisFoIdxMstResult calendar rounds rawContent = .ok result →
      (result.Agrees ↔ LinesAgree calendar rounds rawContent)) ∧
    ((∀ call ∈ calls, call.WellFormed) →
      (∀ self call, Machine.Takes MasterCall.step ⟨contracts, .empty, none⟩ calls self call →
        call.Safe self) →
      ∀ self, Machine.Visits MasterCall.step ⟨contracts, .empty, none⟩ calls self →
        self.Agrees) := by
  refine ⟨fun _ => parsed_agrees_iff, fun wellFormed safe => ?_⟩
  refine @Machine.visits_invariant _ _ MasterCall.step _ _ OptionContractMaster.Agrees
    (fun self call => call.WellFormed ∧ call.Safe self) ?_ ?_ ?_
  · intro identity member
    cases member
  · exact fun self call next agrees allowed =>
      OptionContractMaster.step_agrees agrees allowed.1 allowed.2
  · exact fun self call taken =>
      ⟨wellFormed call (Machine.mem_of_takes taken), safe self call taken⟩

theorem exists_of_any {α : Type} {found : Option α} {p : α → Prop} [DecidablePred p]
    (holds : found.any (fun a => p a) = true) : ∃ a, found = some a ∧ p a := by
  cases found with
  | none => cases holds
  | some a => exact ⟨a, rfl, of_decide_eq_true holds⟩

def nearContract : KisOptionContractIdentity where
  shrnIscd := "201ABC"
  stndIscd := some "KR7001"
  expiry := "2026-09-10"
  optionType := some "CALL"
  strike := none

/-- A call and a put of one month. -/
def septemberFile : String :=
  "5|201ABC|KR7001|KOSPI 202609 C 345|A|345.0\n6|301ABC|KR7002|KOSPI 202609 P 340|A|340"

/-- Another strike of the near month, under the standard code of the near contract. -/
def sisterLine : String := "5|203ABC|KR7001|KOSPI 202609 C 350"

def sisterContract : KisOptionContractIdentity where
  shrnIscd := "203ABC"
  stndIscd := some "KR7001"
  expiry := "2026-09-10"
  optionType := some "CALL"
  strike := none
  infoType := some "5"

def sisterLoad : Load := .inMemoryFromRawMstContent ⟨sisterLine, .weekdays, 1⟩

theorem eq_sisterContract_of_offers {identity : KisOptionContractIdentity}
    (offers : (MasterCall.load sisterLoad).Offers identity) : identity = sisterContract := by
  obtain ⟨_, ⟨⟩, -, line, member, parsed⟩ := offers
  have one : splitLines sisterLine = [sisterLine] := by decide +kernel
  rw [one, List.mem_singleton] at member
  have read : (parseLine .weekdays 1 sisterLine).toOption = some (some sisterContract) := by
    decide +kernel
  rw [member] at parsed
  rw [parsed] at read
  exact Option.some.inj (Option.some.inj read)

/-- A file, and a registration that a load under the same standard code follows. -/
theorem registries_agree_september :
    LinesAgree .weekdays 1 septemberFile ∧
      ∃ self, Machine.run MasterCall.step ⟨.empty, .empty, none⟩
        [.registerContractIdentity nearContract, .load sisterLoad] = some self ∧
        self.contractIdentities.values.length = 2 ∧ self.Agrees := by
  constructor
  · have parsed : ∃ result, (parseKisFoIdxMstResult .weekdays 1 septemberFile).toOption =
        some result ∧ result.Agrees := exists_of_any (by decide +kernel)
    obtain ⟨result, returned, agrees⟩ := parsed
    generalize same : parseKisFoIdxMstResult .weekdays 1 septemberFile = outcome at returned
    cases outcome with
    | error halt => cases returned
    | ok found =>
      obtain rfl := Option.some.inj returned
      exact ((registries_agree .weekdays 1 septemberFile .empty []).1 found same).mp agrees
  · have ran : ∃ self, Machine.run MasterCall.step ⟨.empty, .empty, none⟩
        [.registerContractIdentity nearContract, .load sisterLoad] = some self ∧
          self.contractIdentities.values.length = 2 := exists_of_any (by decide +kernel)
    obtain ⟨self, ran, two⟩ := ran
    refine ⟨self, ran, two, (registries_agree .weekdays 1 septemberFile .empty _).2
      (by decide +kernel) ?_ self ⟨_, List.prefix_rfl, ran⟩⟩
    intro before call taken
    rcases Machine.takes_cons.mp taken with ⟨rfl, rfl⟩ | ⟨next, moved, later⟩
    · refine ⟨?_, ?_⟩
      · rintro _ rfl
        decide +kernel
      · rintro _ other rfl (rfl | member) _
        · rfl
        · cases member
    · have known : next.contractIdentities.values = [nearContract] := by
        have only : (MasterCall.step ⟨.empty, .empty, none⟩
            (.registerContractIdentity nearContract)).map (·.contractIdentities.values) =
              some [nearContract] := by decide +kernel
        rw [moved] at only
        exact Option.some.inj only
      rcases Machine.takes_cons.mp later with ⟨rfl, rfl⟩ | ⟨_, _, later⟩
      · refine ⟨?_, ?_⟩
        · intro identity offers
          rw [eq_sisterContract_of_offers offers]
          decide +kernel
        · rintro identity other offers (offers' | member) _
          · rw [eq_sisterContract_of_offers offers, eq_sisterContract_of_offers offers']
          · rw [known, List.mem_singleton] at member
            rw [eq_sisterContract_of_offers offers, member]
            rfl
      · exact absurd later Machine.takes_nil

/-! ## Codes that coincide -/

def farContract : KisOptionContractIdentity where
  shrnIscd := "202ABC"
  stndIscd := some "KR7001"
  expiry := "2026-10-08"
  optionType := some "CALL"
  strike := none

/-- Two months under one standard code. -/
def sharedFile : String :=
  "5|201ABC|KR7001|KOSPI 202609 C 345\n5|202ABC|KR7001|KOSPI 202610 C 345"

/-- Another month under the short code of the near contract. -/
def laterSource : Load :=
  .fromKisSource "https" (some .weekdays) 1
    (.ok (.archive [("fo_idx_code_mts.mst", .ok "5|201ABC|KR7009|KOSPI 202610 C 345")]))

def sharedCalls : List MasterCall :=
  [.registerContractIdentity nearContract, .registerContractIdentity farContract]

def swallowedCalls : List MasterCall :=
  [.registerContractIdentity nearContract, .load laterSource]

/-- A file, two registrations, and a load that returns although its identities were refused. -/
theorem registries_disagree :
    (∃ result, (parseKisFoIdxMstResult .weekdays 1 sharedFile).toOption = some result ∧
      ¬result.Agrees) ∧
    (∀ call ∈ sharedCalls ++ swallowedCalls, call.WellFormed) ∧
    (∃ self, Machine.run MasterCall.step ⟨.empty, .empty, none⟩ sharedCalls = some self ∧
      ¬self.Agrees) ∧
    ∃ self, Machine.run MasterCall.step ⟨.empty, .empty, none⟩ swallowedCalls = some self ∧
      ¬self.Agrees :=
  ⟨exists_of_any (by decide +kernel), by decide +kernel, exists_of_any (by decide +kernel),
    exists_of_any (by decide +kernel)⟩

end OptionProject.Options
