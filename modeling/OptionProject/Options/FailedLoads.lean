import OptionProject.Options.Registries

/-!
# Loads that fail

A load of raw text installs the expiries of the file and then registers the contracts one by one.
The registration that is refused ends the load and takes nothing back: the expiries of the whole
file and the contracts before the refused one stay.

## Main definitions

* `OptionContractMaster.AnswersAs` — two masters answer every question alike.
* `Load.Atomic` — a load that raises leaves every answer as it was.
* `OptionContractMaster.Knows` — a refused file brings nothing the master did not answer before.

## Main results

* `rawLoads_atomic_iff` — exactly those files are refused without a trace.
-/
namespace OptionProject.Options
open Library Contracts KisOptionMasterLoader

namespace OptionContractMaster

structure AnswersAs (before next : OptionContractMaster) : Prop where
  expiry : ∀ symbol, next.getExpiry symbol = before.getExpiry symbol
  identity : ∀ shrnIscd, next.getContractIdentity shrnIscd = before.getContractIdentity shrnIscd

/-- Another contract is registered under the short code. -/
def refuses (self : OptionContractMaster) (identity : KisOptionContractIdentity) : Bool :=
  (self.contractIdentities.get? (strip identity.shrnIscd)).any (· ≠ identity)

end OptionContractMaster

def Load.Atomic (source : Load) (self : OptionContractMaster) : Prop :=
  ∀ e next, source.perform self = (.error (.raised e), next) → self.AnswersAs next

/-! ## What a refused file leaves behind -/

namespace KisOptionMasterParseResult

variable (result : KisOptionMasterParseResult) (self : OptionContractMaster)

/-- The contracts before the first that is refused. -/
def taken : List KisOptionContractIdentity :=
  result.identities.values.takeWhile fun identity => !self.refuses identity

/-- The expiry under a code: of the last contract that was taken, else of the last line. -/
def brings (code : String) : Option String :=
  (((result.taken self).filter fun identity => code ∈ identity.codes).getLast?.map
    KisOptionContractIdentity.expiry).or (result.legacyContracts.get? code)

end KisOptionMasterParseResult

/-- The master has all of it already. -/
structure OptionContractMaster.Knows (master : OptionContractMaster)
    (result : KisOptionMasterParseResult) : Prop where
  identities : ∀ identity ∈ result.taken master,
    master.contractIdentities.get? identity.shrnIscd = some identity
  expiries : ∀ code expiry, result.brings master code = some expiry →
    master.contracts.get? code = some expiry

/-! ## Registering what was parsed -/

/-- Codes and expiry of a contract as the parser writes them. -/
structure KisOptionContractIdentity.Parsed (identity : KisOptionContractIdentity) : Prop where
  named : identity.shrnIscd ≠ ""
  stripped : ∀ code ∈ identity.codes, strip code = code
  dated : IsExpiry identity.expiry

variable {calendar : TradingCalendar} {rounds : ℕ} {identity : KisOptionContractIdentity}
  {self next : OptionContractMaster} {result : KisOptionMasterParseResult}

theorem parsed_of_lists {lines : List String} (listed : Lists calendar rounds lines identity) :
    identity.Parsed := by
  obtain ⟨line, _, parsedLine⟩ := listed
  obtain ⟨dated, stripped⟩ := wellFormed_of_parsed parsedLine
  exact ⟨(parseLine_cases parsedLine).1, stripped, dated⟩

namespace OptionContractMaster

/-- A registration that is not refused. -/
def record (self : OptionContractMaster) (identity : KisOptionContractIdentity) :
    OptionContractMaster :=
  { self with
    contracts := self.contracts.setAll identity.codes identity.expiry
    contractIdentities := self.contractIdentities.set identity.shrnIscd identity }

theorem registerContractIdentity_parsed (parsed : identity.Parsed) :
    self.registerContractIdentity identity =
      if self.refuses identity then
        (raise "KisMasterParseError"
          ("Conflicting registered KIS identity for shrn_iscd '" ++ identity.shrnIscd ++ "'."),
          self)
      else (.ok (), self.record identity) := by
  have short := parsed.stripped _ List.mem_cons_self
  have trimmed := parsed.dated.trimmed
  have expires := parsed.dated.ne_empty
  unfold registerContractIdentity refuses
  dsimp only
  rw [short, if_neg parsed.named]
  split
  next => rfl
  next =>
    have standard := parsed.stripped
    cases code? : identity.stndIscd with
    | none =>
      simp [registerContract, record, parsed.named, expires, trimmed, short, Dict.setAll,
        KisOptionContractIdentity.codes, code?]
    | some code =>
      by_cases empty : code = ""
      · simp [registerContract, record, parsed.named, expires, trimmed, short, Dict.setAll,
          KisOptionContractIdentity.codes, code?, empty]
      · have stripped := parsed.stripped code (by
          simp [KisOptionContractIdentity.codes, code?, empty])
        simp [registerContract, record, parsed.named, expires, trimmed, short, Dict.setAll,
          KisOptionContractIdentity.codes, code?, empty, stripped]

/-- Only a contract of the same short code changes what is refused, and it is the same contract. -/
theorem refuses_record {other : KisOptionContractIdentity} (parsed : identity.Parsed)
    (parsed' : other.Parsed) (free : self.refuses identity = false)
    (same : identity.shrnIscd = other.shrnIscd → identity = other) :
    (self.record identity).refuses other = self.refuses other := by
  simp only [refuses, record, parsed'.stripped _ List.mem_cons_self, Dict.get?_set]
  split
  next coincide =>
    obtain rfl := same coincide.symm
    rw [refuses, parsed.stripped _ List.mem_cons_self] at free
    simpa using free
  next => rfl

/-- Which contracts are refused is settled before the first of them is registered. -/
theorem registerAll_parsed {refused : KisOptionContractIdentity → Bool}
    (identities : List KisOptionContractIdentity)
    (parsed : ∀ identity ∈ identities, identity.Parsed)
    (same : ∀ i ∈ identities, ∀ j ∈ identities, i.shrnIscd = j.shrnIscd → i = j)
    (refuses : ∀ identity ∈ identities, self.refuses identity = refused identity) :
    (self.registerAll identities).2 =
      (identities.takeWhile fun identity => !refused identity).foldl record self ∧
    ((∃ e, (self.registerAll identities).1 = .error (.raised e)) ↔
      ∃ identity ∈ identities, refused identity) := by
  induction identities generalizing self with
  | nil => simp [registerAll]
  | cons identity rest ih =>
    rw [registerAll, registerContractIdentity_parsed (parsed identity List.mem_cons_self),
      refuses identity List.mem_cons_self]
    cases first : refused identity with
    | true => simp [first, raise]
    | false =>
      have later := @ih (self.record identity)
        (fun i member => parsed i (List.mem_cons_of_mem _ member))
        (fun i member j member' =>
          same i (List.mem_cons_of_mem _ member) j (List.mem_cons_of_mem _ member'))
        fun i member => by
          rw [refuses_record (parsed identity List.mem_cons_self)
            (parsed i (List.mem_cons_of_mem _ member))
            ((refuses identity List.mem_cons_self).trans first)
            (same identity List.mem_cons_self i (List.mem_cons_of_mem _ member))]
          exact refuses i (List.mem_cons_of_mem _ member)
      simpa [first] using later

theorem foldl_record (identities : List KisOptionContractIdentity) :
    (identities.foldl record self).contracts =
        identities.foldl (fun d i => d.setAll i.codes i.expiry) self.contracts ∧
      (identities.foldl record self).contractIdentities =
        identities.foldl (fun d i => d.setAll [i.shrnIscd] i) self.contractIdentities := by
  induction identities generalizing self with
  | nil => exact ⟨rfl, rfl⟩
  | cons identity rest ih => exact ih

/-! ## The answers after a file -/

variable {lines : List String}

theorem same_of_short (parsed : ParsedFrom (Lists calendar rounds lines) result)
    {i j : KisOptionContractIdentity} (member : i ∈ result.identities.values)
    (member' : j ∈ result.identities.values) (same : i.shrnIscd = j.shrnIscd) : i = j := by
  obtain ⟨key, found⟩ := Dict.mem_values.mp member
  obtain ⟨key', found'⟩ := Dict.mem_values.mp member'
  have known := parsed.identity_of_listed i (parsed.listed_of_identity key i found)
  rw [same, parsed.identity_of_listed j (parsed.listed_of_identity key' j found')] at known
  exact (Option.some.inj known).symm

theorem parsed_of_mem (parsed : ParsedFrom (Lists calendar rounds lines) result)
    (member : identity ∈ result.identities.values) : identity.Parsed := by
  obtain ⟨key, found⟩ := Dict.mem_values.mp member
  exact parsed_of_lists (parsed.listed_of_identity key identity found)

theorem applyParseResult_parsed (parsed : ParsedFrom (Lists calendar rounds lines) result) :
    (self.applyParseResult result).2 = (result.taken self).foldl record
        { self with contracts := self.contracts.update result.legacyContracts } ∧
      ((∃ e, (self.applyParseResult result).1 = .error (.raised e)) ↔
        ∃ identity ∈ result.identities.values, self.refuses identity) := by
  unfold applyParseResult KisOptionMasterParseResult.taken
  exact registerAll_parsed result.identities.values (fun _ => parsed_of_mem parsed)
    (fun _ member _ => same_of_short parsed member) fun _ _ => rfl

theorem get?_contracts (parsed : ParsedFrom (Lists calendar rounds lines) result) (code : String) :
    (self.applyParseResult result).2.contracts.get? code =
      (result.brings self code).or (self.contracts.get? code) := by
  rw [(applyParseResult_parsed parsed).1, (foldl_record _).1, Dict.get?_foldl_setAll,
    Dict.get?_update, KisOptionMasterParseResult.brings, Option.or_assoc]

theorem get?_contractIdentities (parsed : ParsedFrom (Lists calendar rounds lines) result)
    (key : String) :
    (self.applyParseResult result).2.contractIdentities.get? key =
      ((result.taken self).filter fun i => key ∈ [i.shrnIscd]).getLast?.or
        (self.contractIdentities.get? key) := by
  rw [(applyParseResult_parsed parsed).1, (foldl_record _).2, Dict.get?_foldl_setAll,
    Option.map_id']

theorem mem_values_of_taken (member : identity ∈ result.taken self) :
    identity ∈ result.identities.values :=
  (List.takeWhile_prefix _).subset member

/-- A code with a new expiry is one that the answers can be asked for. -/
theorem askable_of_brings (parsed : ParsedFrom (Lists calendar rounds lines) result)
    {code expiry : String} (brought : result.brings self code = some expiry) :
    code ≠ "" ∧ strip code = code := by
  have ofContract {i : KisOptionContractIdentity} (known : i.Parsed) (member : code ∈ i.codes) :
      code ≠ "" ∧ strip code = code := by
    refine ⟨?_, known.stripped code member⟩
    rcases List.mem_cons.mp member with rfl | standard
    · exact known.named
    · simpa using (List.mem_filter.mp standard).2
  rcases Option.or_eq_some_iff.mp brought with last | ⟨_, legacy⟩
  · obtain ⟨i, last, _⟩ := Option.map_eq_some_iff.mp last
    obtain ⟨taken, member⟩ := List.mem_filter.mp (List.mem_of_getLast? last)
    exact ofContract (parsed_of_mem parsed (mem_values_of_taken taken)) (of_decide_eq_true member)
  · obtain ⟨i, listed, member, _⟩ := parsed.listed_of_expiry code expiry legacy
    exact ofContract (parsed_of_lists listed) member

theorem answersAs_iff (parsed : ParsedFrom (Lists calendar rounds lines) result) :
    self.AnswersAs (self.applyParseResult result).2 ↔ self.Knows result := by
  constructor
  · intro same
    constructor
    case identities =>
      intro identity member
      have inside := mem_values_of_taken member
      have known := parsed_of_mem parsed inside
      have asked := same.identity identity.shrnIscd
      simp only [getContractIdentity, known.named, if_false,
        known.stripped _ List.mem_cons_self, get?_contractIdentities parsed] at asked
      have kept : identity ∈ (result.taken self).filter
          fun i => identity.shrnIscd ∈ [i.shrnIscd] :=
        List.mem_filter.mpr ⟨member, decide_eq_true (List.mem_singleton_self _)⟩
      cases last : ((result.taken self).filter
          fun i => identity.shrnIscd ∈ [i.shrnIscd]).getLast? with
      | none =>
        rw [List.getLast?_eq_none_iff.mp last] at kept
        cases kept
      | some i =>
        obtain ⟨taken, short⟩ := List.mem_filter.mp (List.mem_of_getLast? last)
        obtain rfl := same_of_short parsed (mem_values_of_taken taken) inside
          (List.mem_singleton.mp (of_decide_eq_true short)).symm
        rw [last] at asked
        exact asked.symm
    case expiries =>
      intro code expiry brought
      obtain ⟨named, stripped⟩ := askable_of_brings parsed brought
      have asked := same.expiry code
      simp only [getExpiry, named, if_false, stripped, get?_contracts parsed, brought,
        Option.some_or] at asked
      exact asked.symm
  · intro knows
    constructor
    case expiry =>
      intro symbol
      unfold getExpiry
      split
      next => rfl
      next =>
        rw [get?_contracts parsed]
        cases brought : result.brings self (strip symbol) with
        | none => rfl
        | some expiry => exact (knows.expiries _ _ brought).symm
    case identity =>
      intro shrnIscd
      unfold getContractIdentity
      split
      next => rfl
      next =>
        rw [get?_contractIdentities parsed]
        cases last :
            ((result.taken self).filter fun i => strip shrnIscd ∈ [i.shrnIscd]).getLast? with
        | none => rfl
        | some identity =>
          obtain ⟨taken, short⟩ := List.mem_filter.mp (List.mem_of_getLast? last)
          rw [List.mem_singleton.mp (of_decide_eq_true short)]
          exact (knows.identities identity taken).symm

theorem install_atomic_iff (self : OptionContractMaster) (file : MasterFile) :
    (∀ e next, self.install (parseRawContent file) = (.error (.raised e), next) →
      self.AnswersAs next) ↔
    ∀ result, parseRawContent file = .ok result →
      (∃ identity ∈ result.identities.values, self.refuses identity) → self.Knows result := by
  unfold install
  cases outcome : parseRawContent file with
  | error halt =>
    refine iff_of_true ?_ nofun
    rintro e next ⟨⟩
    exact ⟨fun _ => rfl, fun _ => rfl⟩
  | ok result =>
    have parsed := parsedFrom_of_returned (parsed_of_parseRawContent outcome)
    simp only [Except.ok.injEq, forall_eq', ← (applyParseResult_parsed parsed).2,
      ← answersAs_iff parsed]
    cases applied : self.applyParseResult result with | mk returned next
    cases returned with
    | ok =>
      refine iff_of_true ?_ nofun
      rintro e next ⟨⟩
    | error halt =>
      constructor
      · rintro leaves ⟨e, ⟨⟩⟩
        exact leaves e next rfl
      · rintro leaves e next ⟨⟩
        exact leaves ⟨e, rfl⟩

end OptionContractMaster

/-! ## Loads of raw text -/

theorem noting_eq_raised {outcome : Except Halt ℕ × OptionContractMaster} {e : PythonException} :
    noting outcome = (.error (.raised e), next) ↔
      ∃ before, outcome = (.error (.raised e), before) ∧
        next = { before with lastError := some e.text } := by
  unfold noting
  split
  next e' before =>
    constructor
    · rintro ⟨⟩
      exact ⟨before, rfl, rfl⟩
    · rintro ⟨_, ⟨⟩, rfl⟩
      rfl
  next other =>
    constructor
    · rintro rfl
      exact absurd rfl (other e next)
    · rintro ⟨before, rfl, _⟩
      exact absurd rfl (other e before)

/-- A load of raw text that raises leaves every answer as it was exactly for the files of which no
contract is refused, or whose expiries and contracts before the refused one the master has. -/
theorem rawLoads_atomic_iff (self : OptionContractMaster) (file : MasterFile) :
    ((Load.inMemoryFromRawMstContent file).Atomic self ↔
      ∀ result, parseRawContent file = .ok result →
        (∃ identity ∈ result.identities.values, self.refuses identity) → self.Knows result) ∧
    ((Load.productionFromRawMstContent file).Atomic self ↔
      ∀ result, parseRawContent file = .ok result →
        (∃ identity ∈ result.identities.values, self.refuses identity) → self.Knows result) := by
  rw [← OptionContractMaster.install_atomic_iff]
  refine ⟨Iff.rfl, ?_⟩
  constructor
  · intro atomic e next raised
    have noted := atomic e _ (noting_eq_raised.mpr ⟨next, raised, rfl⟩)
    exact ⟨noted.expiry, noted.identity⟩
  · intro atomic e next raised
    obtain ⟨before, installed, rfl⟩ := noting_eq_raised.mp raised
    obtain ⟨expiry, identity⟩ := atomic e before installed
    exact ⟨expiry, identity⟩

/-- A master that has the near contract. -/
def nearMaster : OptionContractMaster :=
  (OptionContractMaster.registerContractIdentity ⟨.empty, .empty, none⟩ nearContract).2

/-- Another month under the short code of the near contract. -/
def laterFile : MasterFile := ⟨"5|201ABC|KR7009|KOSPI 202610 C 345", .weekdays, 1⟩

theorem exists_raised {outcome : Except Halt ℕ × OptionContractMaster}
    {p : OptionContractMaster → Bool}
    (holds : (match outcome with
      | (.error (.raised _), next) => p next
      | _ => false) = true) : ∃ e next, outcome = (.error (.raised e), next) ∧ p next := by
  split at holds
  next e next => exact ⟨e, next, rfl, holds⟩
  next => cases holds

/-- The refused contract moves the expiry of the registered one. -/
theorem rawLoads_leave_traces :
    nearMaster.getExpiry "201ABC" = some "2026-09-10" ∧
    (∃ e next, (Load.inMemoryFromRawMstContent laterFile).perform nearMaster =
        (.error (.raised e), next) ∧
      next.getExpiry "201ABC" = some "2026-10-08") ∧
    ¬(Load.inMemoryFromRawMstContent laterFile).Atomic nearMaster ∧
    ¬(Load.productionFromRawMstContent laterFile).Atomic nearMaster := by
  have before : nearMaster.getExpiry "201ABC" = some "2026-09-10" := by decide +kernel
  have found : ∃ e next, (Load.inMemoryFromRawMstContent laterFile).perform nearMaster =
      (.error (.raised e), next) ∧ decide (next.getExpiry "201ABC" = some "2026-10-08") :=
    exists_raised (by decide +kernel)
  obtain ⟨e, next, raised, moved⟩ := found
  replace moved := of_decide_eq_true moved
  refine ⟨before, ⟨e, next, raised, moved⟩, fun atomic => ?_, fun atomic => ?_⟩
  · have same := (atomic e next raised).expiry "201ABC"
    rw [before, moved] at same
    exact absurd same (by decide)
  · have noted := (atomic e _ (noting_eq_raised.mpr ⟨next, raised, rfl⟩)).expiry "201ABC"
    have same : next.getExpiry "201ABC" = some "2026-09-10" := noted.trans before
    rw [moved] at same
    exact absurd same (by decide)

end OptionProject.Options
