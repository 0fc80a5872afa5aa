import OptionProject.Library.Registered
import OptionProject.Options.ExpiryDates
import OptionProject.Options.MasterFile

/-!
# What a master file lists

With the production calendar the expiry of a contract is the latest trading day that is not after
the date the contract is named after. A master file then lists exactly the contracts of those option
lines that name a date.

## Main definitions

* `nominalDate?` — the date named by a symbol and a name.
* `OptionLine`, `contractOf?` — the contract of an option line.

## Main results

* `calculateExpiry_eq` — the expiry of a contract.
* `files_read` — when a file is accepted, and what its dictionaries hold.
-/
namespace OptionProject.Options
open Library Library.Registered Contracts Infrastructure
open Infrastructure.ProductionTradingCalendar (IsTradingDay ofHolidays)

/-! ## Dates that are named -/

/-- The earlier of the `week`-th Thursday and the last day of the month. -/
def weeklyDate? (year month week : ℕ) : Option Date :=
  if week = 0 then none
  else (Date.of year month
    ((thursdays year month)[week - 1]?.getD (daysInMonth year month) : ℕ)).toOption

/-- The second Thursday. -/
def monthlyDate? (year month : ℕ) : Option Date :=
  (thursdays year month)[1]?.bind fun (day : ℕ) => (Date.of year month day).toOption

/-- The week named by the name counts first, then that named by the symbol, then the month. -/
def nominalDate? (symbol name : String) : Option Date :=
  (((searchFirst weeklyPattern name).or (searchFirst weeklyPattern symbol)).bind
      fun (year, month, week) => weeklyDate? (2000 + year) month week).or
    ((searchFirst monthPattern name).bind fun (year, month) => monthlyDate? year month)

example : nominalDate? "201ABC" "KOSPI 202609 C 345" = some ⟨2026, 9, 10, by decide⟩ := by
  decide +kernel
example : nominalDate? "2AF2602W5" "KOSPI 202609 C 345" = some ⟨2026, 2, 28, by decide⟩ := by
  decide +kernel
example : nominalDate? "201ABC" "2613W1 202609 C" = some ⟨2026, 9, 10, by decide⟩ := by
  decide +kernel

/-- The latest trading day up to a date, for the dates that a contract can be named after. -/
def Latest (holidays : Set Date) (expiryOf : Date → Date) : Prop :=
  ∀ nominal, 2000 ≤ nominal.year →
    IsGreatest {d | d ≤ nominal ∧ IsTradingDay holidays d} (expiryOf nominal)

section Calendar

variable {holidays : Set Date} [DecidablePred (· ∈ holidays)] {expiryOf : Date → Date}
  {rounds year month week : ℕ}

omit [DecidablePred (· ∈ holidays)] in
theorem exists_latest (before : ∃ d : Date, d.year < 2000 ∧ IsTradingDay holidays d) :
    ∃ expiryOf, Latest holidays expiryOf := by
  classical
  obtain ⟨d, early, trades⟩ := before
  have found (nominal : Date) (since : 2000 ≤ nominal.year) :
      ∃ expiry, IsGreatest {d | d ≤ nominal ∧ IsTradingDay holidays d} expiry := by
    have le : d ≤ nominal := (Date.lt_iff.mpr (.inl (early.trans_le since))).le
    obtain ⟨expiry, greatest, -⟩ := lastTradingDay_isGreatest ⟨d, le, trades⟩
    exact ⟨expiry, greatest⟩
  choose! expiryOf greatest using found
  exact ⟨expiryOf, greatest⟩

omit [DecidablePred (· ∈ holidays)] in
theorem FindsLatest.attempt {calculate : ℕ → Except Halt String} {nominal : Date}
    (finds : FindsLatest calculate holidays nominal) (latest : Latest holidays expiryOf)
    (since : 2000 ≤ nominal.year) (enough : 2 ≤ rounds) :
    attempt? (calculate rounds) = .ok (some (expiryOf nominal).isoText) := by
  have own := latest nominal since
  obtain ⟨expiry, greatest, ends⟩ := finds ⟨_, own.1⟩
  rw [ends rounds enough, greatest.unique own]
  rfl

theorem dateOf_eq_raise {day : ℤ} (invalid : ¬IsDate year month day.toNat) :
    ∃ e, dateOf year month day = .error (.raised e) ∧
      (Date.of year month day).toOption = none := by
  unfold dateOf Date.of
  simp only [Int.toNat_natCast]
  split_ifs <;> exact ⟨_, rfl, rfl⟩

theorem thursdays_eq_nil (invalid : ¬IsDate year month 1) : thursdays year month = [] := by
  rw [thursdays, List.filter_eq_nil_iff]
  intro day member
  have inside := List.mem_range'_1.mp member
  have none_such : ¬IsDate year month day := by
    unfold IsDate at invalid ⊢
    have := daysInMonth_pos year month
    omega
  obtain ⟨e, -, nothing⟩ := @dateOf_eq_raise _ _ day (by simpa using none_such)
  simp [nothing]

/-- There is no week before the first. -/
theorem weekly_zero (calendar : TradingCalendar) (rounds : ℕ) (valid : IsDate year month 1) :
    ∃ e, calculateKrxWeeklyOptionExpiry calendar rounds year month 0 = .error (.raised e) := by
  obtain ⟨first, same, -, first_le, -⟩ := thursdays_eq valid
  have invalid : ¬IsDate year month
      (min (firstThursday ⟨year, month, 1, valid⟩ + (0 - 1) * 7)
        (daysInMonth year month)).toNat := by
    unfold IsDate
    omega
  obtain ⟨e, raised, -⟩ := dateOf_eq_raise invalid
  refine ⟨e, ?_⟩
  simp only [calculateKrxWeeklyOptionExpiry, firstDay_eq_ok valid, maxDays_eq valid, bind,
    Except.bind, raised]

/-- A month that does not exist has no rule to be found with. -/
theorem rules_raise (calendar : TradingCalendar) (rounds : ℕ) (invalid : ¬IsDate year month 1)
    (week : ℤ) :
    (∃ e, calculateKrxWeeklyOptionExpiry calendar rounds year month week = .error (.raised e)) ∧
      ∃ e, calculateKrxMonthlyOptionExpiry calendar rounds year month = .error (.raised e) := by
  obtain ⟨e, raised, -⟩ := @dateOf_eq_raise _ _ 1 invalid
  simp only [calculateKrxWeeklyOptionExpiry, calculateKrxMonthlyOptionExpiry, raised, bind,
    Except.bind]
  exact ⟨⟨e, rfl⟩, e, rfl⟩

/-- The weekly rule finds the latest trading day up to the date that is named. -/
theorem attempt_weekly (latest : Latest holidays expiryOf) (enough : 2 ≤ rounds)
    (since : 2000 ≤ year) :
    attempt? (calculateKrxWeeklyOptionExpiry (ofHolidays holidays).toTradingCalendar rounds year
      month week) =
      .ok ((weeklyDate? year month week).map fun nominal => (expiryOf nominal).isoText) := by
  rcases em (IsDate year month 1) with valid | invalid
  · by_cases counts : week = 0
    · subst counts
      obtain ⟨e, raised⟩ := weekly_zero (ofHolidays holidays).toTradingCalendar rounds valid
      rw [weeklyDate?, if_pos rfl, Nat.cast_zero, raised]
      rfl
    · have day := thursdays_getD valid (Nat.pos_of_ne_zero counts)
      have inside : IsDate year month
          ((thursdays year month)[week - 1]?.getD (daysInMonth year month)) := by
        obtain ⟨first, same, first_pos, -⟩ := thursdays_eq valid
        have long := daysInMonth_pos year month
        refine isDate_day valid ?_ ?_ <;> omega
      have finds : FindsLatest (calculateKrxWeeklyOptionExpiry
          (ofHolidays holidays).toTradingCalendar · year month week) holidays
          ⟨year, month, _, inside⟩ := findsLatest_of_searches fun rounds =>
        weekly_searches _ rounds valid week rfl rfl day
      rw [finds.attempt latest since enough, weeklyDate?, if_neg counts, Date.of_eq_ok inside]
      rfl
  · obtain ⟨⟨e, raised⟩, -⟩ :=
      rules_raise (ofHolidays holidays).toTradingCalendar rounds invalid week
    rw [weeklyDate?, thursdays_eq_nil invalid, raised]
    split_ifs
    · rfl
    · obtain ⟨_, -, nothing⟩ := @dateOf_eq_raise year month (daysInMonth year month) (by
        unfold IsDate at invalid ⊢
        have := daysInMonth_pos year month
        omega)
      simp [nothing, attempt?]

theorem attempt_monthly (latest : Latest holidays expiryOf) (enough : 2 ≤ rounds)
    (since : 2000 ≤ year) :
    attempt? (calculateKrxMonthlyOptionExpiry (ofHolidays holidays).toTradingCalendar rounds year
      month) =
      .ok ((monthlyDate? year month).map fun nominal => (expiryOf nominal).isoText) := by
  rcases em (IsDate year month 1) with valid | invalid
  · obtain ⟨day, second, offset, inside⟩ := thursdays_second valid
    have finds : FindsLatest (calculateKrxMonthlyOptionExpiry
        (ofHolidays holidays).toTradingCalendar · year month) holidays
        ⟨year, month, day, inside⟩ := findsLatest_of_searches fun rounds =>
      monthly_searches _ rounds valid rfl rfl offset
    rw [finds.attempt latest since enough, monthlyDate?, second, Option.bind_some,
      Date.of_eq_ok inside]
    rfl
  · obtain ⟨-, e, raised⟩ :=
      rules_raise (ofHolidays holidays).toTradingCalendar rounds invalid 0
    rw [monthlyDate?, thursdays_eq_nil invalid, raised]
    rfl

theorem since_of_monthPattern {name : String}
    (found : searchFirst monthPattern name = some (year, month)) : 2000 ≤ year := by
  obtain ⟨cs, -, matched⟩ := List.exists_of_findSome?_eq_some found
  unfold monthPattern at matched
  split at matched
  next =>
    simp only [Option.bind_eq_bind, Option.bind_eq_some_iff, Option.pure_def, Option.some.injEq,
      Prod.mk.injEq, Prod.exists] at matched
    obtain ⟨_, _, _, _, _, _, rfl, _⟩ := matched
    exact Nat.le_add_right _ _
  next => cases matched

theorem calculateExpiry_eq (latest : Latest holidays expiryOf) (enough : 2 ≤ rounds)
    (symbol name : String) :
    calculateExpiry (ofHolidays holidays).toTradingCalendar rounds symbol name =
      .ok ((nominalDate? symbol name).map fun nominal => (expiryOf nominal).isoText) := by
  have weekly : weeklyExpiry (ofHolidays holidays).toTradingCalendar rounds symbol name =
      .ok ((((searchFirst weeklyPattern name).or (searchFirst weeklyPattern symbol)).bind
        fun (year, month, week) => weeklyDate? (2000 + year) month week).map
          fun nominal => (expiryOf nominal).isoText) := by
    unfold weeklyExpiry
    split
    next absent => rw [absent]; rfl
    next year month week found =>
      rw [found, Option.bind_some]
      exact_mod_cast attempt_weekly latest enough (Nat.le_add_right 2000 year)
  have monthly : monthlyExpiry (ofHolidays holidays).toTradingCalendar rounds name =
      .ok (((searchFirst monthPattern name).bind fun (year, month) => monthlyDate? year month).map
        fun nominal => (expiryOf nominal).isoText) := by
    unfold monthlyExpiry
    split
    next absent => rw [absent]; rfl
    next year month found =>
      have since : 2000 ≤ year := since_of_monthPattern found
      rw [found, Option.bind_some]
      split
      next => exact attempt_monthly latest enough since
      next outside =>
        have invalid : ¬IsDate year month 1 := by
          unfold IsDate
          omega
        have nothing : monthlyDate? year month = none := by
          rw [monthlyDate?, thursdays_eq_nil invalid]
          rfl
        simp only [nothing, Option.map_none]
  rw [calculateExpiry, weekly, nominalDate?]
  cases ((searchFirst weeklyPattern name).or (searchFirst weeklyPattern symbol)).bind
      fun (year, month, week) => weeklyDate? (2000 + year) month week with
  | none => exact monthly
  | some nominal => rfl

end Calendar

/-! ## Option lines -/

/-- The parts of a line that is an option record with a short code. -/
structure OptionLine where
  prodType : String
  symbol : String
  standardCode : String
  name : String
  rest : List String
  deriving DecidableEq

def optionLine? (line : String) : Option OptionLine :=
  if '|' ∉ line.toList then none
  else
    match (splitOn '|' line).map strip with
    | prodType :: symbol :: standardCode :: name :: rest =>
      if isOptionRecord prodType symbol name ∧ symbol ≠ "" then
        some ⟨prodType, symbol, standardCode, name, rest⟩
      else none
    | _ => none

namespace OptionLine

variable (self : OptionLine)

def nominal? : Option Date := nominalDate? self.symbol self.name

/-- The number in the field of the strike. -/
def number? : Option Strike := self.rest[1]?.bind fun rawAcpr => readDecimal (strip rawAcpr)

/-- A strike that cannot be compared with zero. -/
def isNaN : Bool :=
  match self.number? with
  | some (.nan _) => true
  | _ => false

/-- A number above zero. -/
def strike? : Option Strike :=
  match self.number? with
  | some (.finite value) => if 0 < value then some (.finite value) else none
  | some (.infinity false) => some (.infinity false)
  | _ => none

def contract (expiry : Date) : KisOptionContractIdentity where
  shrnIscd := self.symbol
  stndIscd := if self.standardCode = "" then none else some self.standardCode
  expiry := expiry.isoText
  optionType := kisInfoTypeToOptionType self.prodType
  strike := self.strike?
  infoType := if self.prodType = "" then none else some self.prodType

end OptionLine

/-- The contract of an option line that names a date. -/
def contractOf? (expiryOf : Date → Date) (line : String) : Option KisOptionContractIdentity := do
  let fields ← optionLine? line
  let nominal ← fields.nominal?
  return fields.contract (expiryOf nominal)

/-- An option line that names a date, with a strike that is not a number. -/
def hasNaN (line : String) : Bool :=
  (optionLine? line).any fun fields => fields.nominal?.isSome && fields.isNaN

section Lines

variable {holidays : Set Date} [DecidablePred (· ∈ holidays)] {expiryOf : Date → Date}
  {rounds : ℕ}

theorem parseStrike_eq (self : OptionLine) :
    self.rest[1]?.elim (.ok none) parseStrike =
      if self.isNaN then raise "InvalidOperation" "[<class 'decimal.InvalidOperation'>]"
      else .ok self.strike? := by
  unfold OptionLine.isNaN OptionLine.strike? OptionLine.number?
  cases self.rest[1]? with
  | none => rfl
  | some rawAcpr =>
    simp only [Option.elim_some, Option.bind_some, parseStrike]
    cases readDecimal (strip rawAcpr) with
    | none => rfl
    | some number =>
      cases number with
      | finite value => rfl
      | infinity negative => cases negative <;> rfl
      | nan object => rfl

/-- What a line lists is the contract that it names. -/
theorem parseLine_eq (latest : Latest holidays expiryOf) (enough : 2 ≤ rounds) (line : String) :
    parseLine (ofHolidays holidays).toTradingCalendar rounds line =
      if hasNaN line then raise "InvalidOperation" "[<class 'decimal.InvalidOperation'>]"
      else .ok (contractOf? expiryOf line) := by
  rw [hasNaN, contractOf?]
  by_cases bar : '|' ∉ line.toList
  · have skipped : optionLine? line = none := if_pos bar
    rw [parseLine, if_pos bar, skipped]
    rfl
  · have read : optionLine? line = _ := if_neg bar
    rw [parseLine, if_neg bar]
    generalize (splitOn '|' line).map strip = parts at read ⊢
    rcases parts with _ | ⟨prodType, _ | ⟨symbol, _ | ⟨standardCode, _ | ⟨name, rest⟩⟩⟩⟩
    iterate 4
      rw [read]
      rfl
    dsimp only at read ⊢
    by_cases record : isOptionRecord prodType symbol name = true
    · rw [if_pos record, calculateExpiry_eq latest enough]
      by_cases short : symbol = ""
      · rw [if_neg (not_and_of_not_right _ (not_not.mpr short))] at read
        rw [read]
        cases nominalDate? symbol name with
        | none => rfl
        | some nominal => exact if_pos (.inl short)
      · rw [if_pos ⟨record, short⟩] at read
        have strike := parseStrike_eq ⟨prodType, symbol, standardCode, name, rest⟩
        rw [read]
        cases named : nominalDate? symbol name with
        | none => simp [OptionLine.nominal?, named, bind, Except.bind, pure, Except.pure]
        | some nominal =>
          have dated := (expiryOf nominal).isoText_ne_empty
          simp only [Option.map_some, bind, Except.bind, short, dated, or_self, if_false, strike]
          cases notNumber : OptionLine.isNaN ⟨prodType, symbol, standardCode, name, rest⟩ with
          | true => simp [OptionLine.nominal?, named, notNumber, raise]
          | false =>
            simp [OptionLine.nominal?, named, notNumber, OptionLine.contract, pure, Except.pure]
    · rw [if_neg (not_and_of_not_left _ record)] at read
      rw [if_neg record, read]
      rfl

end Lines

/-! ## Files -/

/-- Another line gives another contract under the short code. -/
def conflictingIdentity (identity : KisOptionContractIdentity) : Halt :=
  .raised ⟨"KisMasterParseError",
    "Conflicting KIS identity for shrn_iscd '" ++ identity.shrnIscd ++ "'."⟩

section Files

variable {holidays : Set Date} [DecidablePred (· ∈ holidays)] {expiryOf : Date → Date}
  {rounds : ℕ} {lines : List String} {line : String}

theorem add_eq (result : KisOptionMasterParseResult) (identity : KisOptionContractIdentity) :
    result.add identity =
      (register KisOptionContractIdentity.shrnIscd conflictingIdentity result.identities
        identity).map fun identities =>
          ⟨result.legacyContracts.setAll identity.codes identity.expiry, identities⟩ := by
  unfold KisOptionMasterParseResult.add register
  cases result.identities.get? identity.shrnIscd with
  | none => rfl
  | some existing =>
    by_cases same : existing = identity
    · simp [same, Except.map]
    · simp [same, Except.map, raise, conflictingIdentity]

/-- The identities are registered, and the expiries are written beside them. -/
theorem foldlM_add (items : List KisOptionContractIdentity) (result : KisOptionMasterParseResult) :
    items.foldlM KisOptionMasterParseResult.add result =
      (items.foldlM (register KisOptionContractIdentity.shrnIscd conflictingIdentity)
        result.identities).map fun identities =>
          ⟨items.foldl (fun d i => d.setAll i.codes i.expiry) result.legacyContracts,
            identities⟩ := by
  induction items generalizing result with
  | nil => rfl
  | cons identity rest ih =>
    rw [List.foldlM_cons, List.foldlM_cons, add_eq]
    cases register KisOptionContractIdentity.shrnIscd conflictingIdentity result.identities
        identity with
    | error halt => rfl
    | ok identities => exact ih _

theorem foldlM_addLine (latest : Latest holidays expiryOf) (enough : 2 ≤ rounds)
    (numbers : ∀ line ∈ lines, hasNaN line = false) (result : KisOptionMasterParseResult) :
    lines.foldlM (·.addLine (ofHolidays holidays).toTradingCalendar rounds ·) result =
      (lines.filterMap (contractOf? expiryOf)).foldlM KisOptionMasterParseResult.add result := by
  induction lines generalizing result with
  | nil => rfl
  | cons line rest ih =>
    obtain ⟨number, numbers⟩ := List.forall_mem_cons.mp numbers
    rw [List.foldlM_cons, KisOptionMasterParseResult.addLine, parseLine_eq latest enough, number,
      if_neg Bool.false_ne_true]
    cases given : contractOf? expiryOf line with
    | none =>
      rw [List.filterMap_cons_none given]
      exact ih numbers result
    | some identity =>
      rw [List.filterMap_cons_some given, List.foldlM_cons]
      exact bind_congr fun next => ih numbers next

theorem foldlM_addLine_ne_ok (latest : Latest holidays expiryOf) (enough : 2 ≤ rounds)
    (member : line ∈ lines) (notNumber : hasNaN line = true)
    (result next : KisOptionMasterParseResult) :
    lines.foldlM (·.addLine (ofHolidays holidays).toTradingCalendar rounds ·) result ≠
      .ok next := by
  induction lines generalizing result with
  | nil => cases member
  | cons first rest ih =>
    rw [List.foldlM_cons]
    intro returned
    obtain ⟨after, added, returned⟩ := bind_eq_ok.mp returned
    rcases List.mem_cons.mp member with rfl | later
    · rw [KisOptionMasterParseResult.addLine, parseLine_eq latest enough, if_pos notNumber] at added
      cases added
    · exact ih later after returned

/-- The lines of a blank text have no bar. -/
theorem optionLine?_of_blank {rawContent : String} (blank : strip rawContent = "")
    (member : line ∈ splitLines rawContent) : optionLine? line = none := by
  refine if_pos fun bar => ?_
  have space := isSpace_of_strip_eq_empty blank (mem_of_mem_splitLines member bar)
  exact absurd space (by decide)

theorem parse_eq (latest : Latest holidays expiryOf) (enough : 2 ≤ rounds) (rawContent : String) :
    parseKisFoIdxMstResult (ofHolidays holidays).toTradingCalendar rounds rawContent =
      (splitLines rawContent).foldlM (·.addLine (ofHolidays holidays).toTradingCalendar rounds ·)
        ⟨.empty, .empty⟩ := by
  unfold parseKisFoIdxMstResult
  split
  next blank =>
    have none_of {line : String} (member : line ∈ splitLines rawContent) :
        optionLine? line = none := optionLine?_of_blank blank member
    rw [foldlM_addLine latest enough fun line member => by rw [hasNaN, none_of member]; rfl,
      List.filterMap_eq_nil_iff.mpr fun line member => by rw [contractOf?, none_of member]; rfl]
    rfl
  next => rfl

end Files

/-- With the production calendar, on which some trading day lies before the year 2000, a master file
is accepted exactly when its option lines that name a date have numbers or nothing for a strike and
give one contract for each short code. The contracts of a file are those of these lines, each with
the latest trading day up to the date it is named after for its expiry; the expiry of a code is that
of the last line that has it. -/
theorem files_read (holidays : Set Date) [DecidablePred (· ∈ holidays)]
    (before : ∃ d : Date, d.year < 2000 ∧ IsTradingDay holidays d) (rounds : ℕ)
    (enough : 2 ≤ rounds) :
    ∃ expiryOf : Date → Date,
      (∀ nominal, 2000 ≤ nominal.year →
        IsGreatest {d | d ≤ nominal ∧ IsTradingDay holidays d} (expiryOf nominal)) ∧
      ∀ rawContent,
        let given := (splitLines rawContent).filterMap (contractOf? expiryOf)
        let parsed :=
          parseKisFoIdxMstResult (ofHolidays holidays).toTradingCalendar rounds rawContent
        ((∃ result, parsed = .ok result) ↔ (∀ line ∈ splitLines rawContent, hasNaN line = false) ∧
          Consistent KisOptionContractIdentity.shrnIscd given) ∧
        ∀ result, parsed = .ok result →
          (∀ code identity, result.identities.get? code = some identity ↔
            identity ∈ given ∧ identity.shrnIscd = code) ∧
          ∀ code, result.legacyContracts.get? code =
            (given.filter fun identity => code ∈ identity.codes).getLast?.map
              KisOptionContractIdentity.expiry := by
  obtain ⟨expiryOf, latest⟩ := exists_latest before
  refine ⟨expiryOf, latest, fun rawContent => ?_⟩
  dsimp only
  rw [parse_eq latest enough]
  by_cases numbers : ∀ line ∈ splitLines rawContent, hasNaN line = false
  · rw [foldlM_addLine latest enough numbers, foldlM_add]
    generalize (splitLines rawContent).filterMap (contractOf? expiryOf) = given
    cases registered : given.foldlM
        (register KisOptionContractIdentity.shrnIscd conflictingIdentity) .empty with
    | error halt =>
      refine ⟨iff_of_false (fun ⟨result, returned⟩ => nomatch returned) ?_, nofun⟩
      rintro ⟨-, consistent⟩
      obtain ⟨identities, accepted⟩ :=
        @exists_registerAll _ _ _ _ _ _ conflictingIdentity _ consistent
      exact nomatch registered.symm.trans accepted
    | ok identities =>
      have holds := registerAll_eq_ok registered
      refine ⟨iff_of_true ⟨_, rfl⟩ ⟨numbers, holds.consistent⟩, fun result returned => ?_⟩
      obtain rfl := Except.ok.inj returned
      refine ⟨holds, fun code => ?_⟩
      rw [Dict.get?_foldl_setAll, Dict.get?_empty, Option.or_none]
  · push Not at numbers
    obtain ⟨line, member, notNumber⟩ := numbers
    have refused := foldlM_addLine_ne_ok latest enough member (by simpa using notNumber)
      ⟨.empty, .empty⟩
    refine ⟨iff_of_false (fun ⟨result, returned⟩ => refused result returned) ?_,
      fun result returned => absurd returned (refused result)⟩
    exact fun accepted => notNumber (accepted.1 line member)

/-- The second Thursday of September is a holiday, and the contract expires the day before. The
standard code that it shares with the contract of October has the expiry of that. -/
theorem files_read_september :
    let calendar := (ofHolidays {d | d = ⟨2026, 9, 10, by decide⟩}).toTradingCalendar
    ∃ result, parseKisFoIdxMstResult calendar 2
        "5|201ABC|KR7001|KOSPI 202609 C 345|A|345.0\n5|202ABC|KR7001|KOSPI 202610 C 345" =
          .ok result ∧
      (∃ identity, result.identities.get? "201ABC" = some identity ∧
        identity.expiry = "2026-09-09") ∧
      result.legacyContracts.get? "KR7001" = some "2026-10-08" := by
  let tenth : Date := ⟨2026, 9, 10, by decide⟩
  let ninth : Date := ⟨2026, 9, 9, by decide⟩
  let eighth : Date := ⟨2026, 10, 8, by decide⟩
  let first := "5|201ABC|KR7001|KOSPI 202609 C 345|A|345.0"
  let second := "5|202ABC|KR7001|KOSPI 202610 C 345"
  obtain ⟨expiryOf, latest, read⟩ := files_read {d | d = tenth}
    ⟨⟨1999, 12, 31, by decide⟩, by decide, by decide +kernel⟩ 2 le_rfl
  obtain ⟨accepted, holds⟩ := read (first ++ "\n" ++ second)
  have ninthOf : expiryOf tenth = ninth := by
    have before : tenth.dayBefore = .ok ninth := rfl
    have trades : IsTradingDay {d | d = tenth} ninth := by decide +kernel
    refine (latest tenth (by decide)).unique ⟨⟨by decide +kernel, trades⟩, fun d found => ?_⟩
    exact (Date.lt_iff_le_dayBefore before).mp (lt_of_le_of_ne found.1 found.2.2)
  have eighthOf : expiryOf eighth = eighth :=
    (latest eighth (by decide)).unique ⟨⟨le_rfl, by decide +kernel⟩, fun d found => found.1⟩
  let fields : OptionLine := ⟨"5", "201ABC", "KR7001", "KOSPI 202609 C 345", ["A", "345.0"]⟩
  let later : OptionLine := ⟨"5", "202ABC", "KR7001", "KOSPI 202610 C 345", []⟩
  have given : contractOf? expiryOf first = some (fields.contract ninth) := by
    have parts : optionLine? first = some fields := by decide +kernel
    have named : fields.nominal? = some tenth := by decide +kernel
    simp [contractOf?, parts, named, ninthOf]
  have given' : contractOf? expiryOf second = some (later.contract eighth) := by
    have parts : optionLine? second = some later := by decide +kernel
    have named : later.nominal? = some eighth := by decide +kernel
    simp [contractOf?, parts, named, eighthOf]
  have two : splitLines (first ++ "\n" ++ second) = [first, second] := by decide +kernel
  have numbers : ∀ line ∈ [first, second], hasNaN line = false := by decide +kernel
  rw [two, List.filterMap_cons_some given, List.filterMap_cons_some given',
    List.filterMap_nil] at accepted holds
  have consistent : Consistent KisOptionContractIdentity.shrnIscd
      [fields.contract ninth, later.contract eighth] := by
    unfold Consistent
    decide +kernel
  obtain ⟨result, returned⟩ := accepted.mpr ⟨numbers, consistent⟩
  obtain ⟨identities, expiries⟩ := holds result returned
  refine ⟨result, returned, ⟨fields.contract ninth, ?_, by decide +kernel⟩, ?_⟩
  · exact (identities _ _).mpr ⟨List.mem_cons_self, rfl⟩
  · rw [expiries]
    decide +kernel

end OptionProject.Options
