import Mathlib.Data.Finset.Max
import OptionProject.Contracts.Types
import OptionProject.Library.Calendar
import OptionProject.Library.Json

/-!
# The KIS holiday provider

`infrastructure/kis/holiday_provider.py`. The line with the URL of the page request and the line
that adds a parsed date to the set are comments in the source, and the model has neither. What
lies outside of it, the environment, the token headers and the responses, is given with each call.

## Main results

* `KISHolidayProvider.loadFromKisApi_eq` — a load writes the authentication and the error only.
* `KISHolidayProvider.isHoliday_complete_or_refused` — after any loads a strict provider refuses
  a date or answers with the calendar.
* `KISHolidayProvider.isHoliday_of_response` — a response handed over directly opens its year with
  no holiday in it.
-/
namespace OptionProject.Infrastructure
open Library Contracts

structure KISAuthManager where
  appKey : String
  appSecret : String

def KISAuthManager.hasCredentials (auth : KISAuthManager) : Bool :=
  auth.appKey ≠ "" ∧ auth.appSecret ≠ ""

/-! ## Requests -/

structure Request where
  url : String
  headers : List (String × String)
  method : String

/-- `urllib.request.Request(url, headers=headers, method=method)`, whose URL is required. -/
def Request.new (url : Option String) (headers : List (String × String)) (method : String) :
    Except PythonException Request :=
  match url with
  | none =>
    .error ⟨"TypeError", "Request.__init__() missing 1 required positional argument: 'url'"⟩
  | some url => .ok ⟨url, headers, method⟩

/-- What the outside has for one page: the headers, and the response once it is asked for. -/
structure PageRequest where
  headers : Except PythonException (List (String × String))
  response : Except PythonException Json

/-- The body of the page loop up to the decoded response. -/
def requestPage (page : PageRequest) : Except PythonException Json := do
  let headers ← page.headers
  let _request ← Request.new none headers "GET"
  page.response

theorem requestPage_raises (page : PageRequest) : ∃ e, requestPage page = .error e := by
  unfold requestPage
  cases page.headers with
  | error e => exact ⟨e, rfl⟩
  | ok headers => exact ⟨_, rfl⟩

/-! ## Responses -/

def asMapping? : Json → Option (List (String × Json))
  | .object fields => some fields
  | _ => none

section Provider

variable [UnicodeTable]

/-- No branch of the source adds a date. -/
def parseKisHolidayOutput (output : List (List (String × Json))) : Finset Date :=
  output.foldl (fun holidays item =>
    if Json.holds item "opnd_yn" "N" then
      let raw := strip (Json.textOr item "bass_dt" "")
      if raw.length = 8 ∧ isDigit raw then holidays else holidays
    else holidays) ∅

theorem parseKisHolidayOutput_eq (output : List (List (String × Json))) :
    parseKisHolidayOutput output = ∅ := by
  simp only [parseKisHolidayOutput, ite_self]
  induction output with
  | nil => rfl
  | cons item rest ih => exact ih

/-- `min((d.year for d in parsed), default=None)`. -/
def minYear (parsed : Finset Date) : Option ℤ :=
  let years := parsed.image fun d => (d.year : ℤ)
  if some_year : years.Nonempty then some (years.min' some_year) else none

/-- Whether the loop asks for another page after a page it could load. -/
def hasNextPage (year : ℤ) (data : List (String × Json)) : Except PythonException Bool :=
  if strip (Json.textOr data "ctx_area_nk" "") = "" ∧ strip (Json.textOr data "ctx_area_fk" "") = ""
  then .ok false
  else
    match Json.get? data "output" with
    | some (.array items) =>
      match items.getLast? with
      | none => .ok true
      | some (.object last) =>
        .ok !(toString (year + 1)).toList.isPrefixOf (Json.textOr last "bass_dt" "").toList
      | some other =>
        .error ⟨"AttributeError", quoted other.typeName ++ " object has no attribute 'get'"⟩
    | _ => .ok true

/-! ## The provider -/

structure KISHolidayProvider where
  holidays : Finset Date
  authManager : Option KISAuthManager
  targetYear : ℤ
  strictMode : Bool
  lastError : Option String
  loadedYears : Finset ℤ

/-- One call of `load_from_kis_api` and what the outside has for it. -/
structure KisApiCall where
  targetYear : Option ℤ
  fromEnv : Except PythonException KISAuthManager
  pages : ℕ → PageRequest

namespace KISHolidayProvider

/-- The attributes the constructor's body sets. Its parameters lack `self`, and a call of it raises
before it sets them. -/
def init (holidays : Finset Date) (authManager : Option KISAuthManager) (targetYear : ℤ)
    (strictMode : Bool) : KISHolidayProvider where
  holidays := holidays
  authManager := authManager
  targetYear := targetYear
  strictMode := strictMode
  lastError := none
  loadedYears := holidays.image fun d => (d.year : ℤ)

variable (self : KISHolidayProvider)

def holidayUnavailable : PythonException := ⟨"KISHolidayUnavailableError", ""⟩

def isHoliday (targetDate : Date) : Except PythonException Bool :=
  if self.strictMode ∧ (targetDate.year : ℤ) ∉ self.loadedYears then .error holidayUnavailable
  else .ok (targetDate ∈ self.holidays)

def refuse (typeName message : String) : Except PythonException ℕ × KISHolidayProvider :=
  (.error ⟨typeName, message⟩, { self with lastError := some message })

def loadFromResponseData (responseData : Json) (year : Option ℤ) :
    Except PythonException ℕ × KISHolidayProvider :=
  match responseData with
  | .object data =>
    if Json.holds data "rt_cd" "0" then
      match (Json.get? data "output").getD (.array []) with
      | .array items =>
        let parsed := parseKisHolidayOutput (items.filterMap asMapping?)
        let resolvedYear := (year.filter (· ≠ 0)).or (minYear parsed)
        (.ok parsed.card,
          { self with
            holidays := self.holidays ∪ parsed
            loadedYears := resolvedYear.elim self.loadedYears (insert · self.loadedYears)
            lastError := none })
      | _ => self.refuse "KISHolidayParseError" "Invalid output field: expected list"
    else
      self.refuse "KISHolidayError" (strip ("KIS API error (rt_cd=" ++
        Json.textOr data "rt_cd" "None" ++ ", msg_cd=" ++ Json.textOr data "msg_cd" "" ++ "): " ++
        Json.textOr data "msg1" ""))
  | _ => self.refuse "KISHolidayParseError" "Invalid response format: expected mapping"

/-- The page loop with `left` rounds to go. -/
def loadPages (self : KISHolidayProvider) (year : ℤ) (pages : ℕ → PageRequest) :
    ℕ → ℕ → ℕ → Except PythonException ℕ × KISHolidayProvider
  | 0, _, totalLoaded => (.ok totalLoaded, self)
  | left + 1, index, totalLoaded =>
    match requestPage (pages index) with
    | .error e => (.error e, self)
    | .ok data =>
      match self.loadFromResponseData data (some year) with
      | (.error e, next) => (.error e, next)
      | (.ok loaded, next) =>
        match hasNextPage year ((asMapping? data).getD []) with
        | .error e => (.error e, next)
        | .ok false => (.ok (totalLoaded + loaded), next)
        | .ok true => loadPages next year pages left (index + 1) (totalLoaded + loaded)

def fail (message : String) : ℕ × KISHolidayProvider := (0, { self with lastError := some message })

def loadFromKisApi (call : KisApiCall) : ℕ × KISHolidayProvider :=
  let year := (call.targetYear.filter (· ≠ 0)).getD self.targetYear
  match self.authManager.elim call.fromEnv .ok with
  | .error e => self.fail e.text
  | .ok auth =>
    let next := { self with authManager := some auth }
    if auth.hasCredentials then
      match next.loadPages year call.pages 15 0 0 with
      | (.error e, last) => last.fail e.text
      | (.ok totalLoaded, last) =>
        (totalLoaded, { last with loadedYears := insert year last.loadedYears, lastError := none })
    else next.fail "KIS credentials (AppKey/Secret) are missing."

/-- Several loads, one after another. -/
def loads (calls : List KisApiCall) : KISHolidayProvider :=
  calls.foldl (fun provider call => (provider.loadFromKisApi call).2) self

/-! ## What a load leaves alone -/

theorem loadPages_raises (year : ℤ) (pages : ℕ → PageRequest) (left index totalLoaded : ℕ) :
    ∃ e, self.loadPages year pages (left + 1) index totalLoaded = (.error e, self) := by
  obtain ⟨e, raised⟩ := requestPage_raises (pages index)
  exact ⟨e, by rw [loadPages, raised]⟩

theorem loadFromKisApi_eq (call : KisApiCall) :
    ∃ auth error, self.loadFromKisApi call =
      (0, { self with authManager := auth, lastError := some error }) := by
  unfold loadFromKisApi
  cases self.authManager.elim call.fromEnv .ok with
  | error e => exact ⟨self.authManager, e.text, rfl⟩
  | ok auth =>
    cases credentials : auth.hasCredentials with
    | false => exact ⟨some auth, "KIS credentials (AppKey/Secret) are missing.", by
        simp only [credentials, Bool.false_eq_true, if_false, fail]⟩
    | true =>
      obtain ⟨e, raised⟩ := loadPages_raises { self with authManager := some auth }
        ((call.targetYear.filter (· ≠ 0)).getD self.targetYear) call.pages 14 0 0
      refine ⟨some auth, e.text, ?_⟩
      simp only [credentials, if_true]
      rw [raised]
      rfl

theorem loads_eq (calls : List KisApiCall) :
    ∃ auth error, self.loads calls = { self with authManager := auth, lastError := error } := by
  induction calls using List.reverseRecOn with
  | nil => exact ⟨self.authManager, self.lastError, rfl⟩
  | append_singleton calls call ih =>
    obtain ⟨auth, error, before⟩ := ih
    obtain ⟨auth', error', last⟩ := loadFromKisApi_eq (self.loads calls) call
    refine ⟨auth', some error', ?_⟩
    rw [loads, List.foldl_append, List.foldl_cons, List.foldl_nil, ← loads, last, before]

/-! ## Complete or refused -/

variable {self} {d : Date}

omit [UnicodeTable] in
theorem isHoliday_of_loaded (loaded : (d.year : ℤ) ∈ self.loadedYears) :
    self.isHoliday d = .ok (d ∈ self.holidays) := by
  rw [isHoliday, if_neg]
  exact fun missing => missing.2 loaded

omit [UnicodeTable] in
theorem isHoliday_of_not_loaded (strict : self.strictMode = true)
    (missing : (d.year : ℤ) ∉ self.loadedYears) :
    self.isHoliday d = .error holidayUnavailable := by
  rw [isHoliday, if_pos ⟨strict, missing⟩]

/-- A row of the KIS calendar marks the date as closed. -/
def marksClosed (calendar : List (List (String × Json))) (d : Date) : Bool :=
  calendar.any fun row => Json.holds row "opnd_yn" "N" ∧ strip (Json.textOr row "bass_dt" "") =
    zeroPadded 4 d.year ++ zeroPadded 2 d.month ++ zeroPadded 2 d.day

/-- Holidays given to the constructor, if any, are taken to be those the calendar has. -/
theorem isHoliday_complete_or_refused (calendar : List (List (String × Json)))
    (holidays : Finset Date) (authManager : Option KISAuthManager) (targetYear : ℤ)
    (given : ∀ d, ∀ holiday ∈ holidays, holiday.year = d.year →
      (d ∈ holidays ↔ marksClosed calendar d = true))
    (calls : List KisApiCall) (d : Date) :
    ((init holidays authManager targetYear true).loads calls).isHoliday d =
        .error holidayUnavailable ∨
      ((init holidays authManager targetYear true).loads calls).isHoliday d =
        .ok (marksClosed calendar d) := by
  obtain ⟨auth, error, after⟩ := loads_eq (init holidays authManager targetYear true) calls
  rw [after]
  by_cases loaded : (d.year : ℤ) ∈ (init holidays authManager targetYear true).loadedYears
  · obtain ⟨holiday, member, same⟩ := Finset.mem_image.mp loaded
    have exact := given d holiday member (Int.ofNat_inj.mp same)
    refine .inr ((isHoliday_of_loaded loaded).trans (congrArg Except.ok ?_))
    cases marked : marksClosed calendar d <;> simp [init, exact, marked]
  · exact .inl (isHoliday_of_not_loaded rfl loaded)

def newYear : Date := ⟨2026, 1, 1, by decide⟩

def newYearRow : List (String × Json) := [("bass_dt", .string "20260101"), ("opnd_yn", .string "N")]

def newYearCall : KisApiCall where
  targetYear := some 2026
  fromEnv := .error ⟨"OSError", ""⟩
  pages _ := {
    headers := .ok []
    response := .ok (.object [("rt_cd", .string "0"), ("output", .array [.object newYearRow])]) }

theorem mem_newYear_iff (d : Date) (same : newYear.year = d.year) :
    d ∈ ({newYear} : Finset Date) ↔ marksClosed [newYearRow] d = true := by
  have only : ∀ month < 13, ∀ day < 32, "20260101" =
      zeroPadded 4 2026 ++ zeroPadded 2 month ++ zeroPadded 2 day → month = 1 ∧ day = 1 := by
    decide +kernel
  have marked : marksClosed [newYearRow] d = true ↔ "20260101" =
      zeroPadded 4 d.year ++ zeroPadded 2 d.month ++ zeroPadded 2 d.day := by
    have closed : Json.holds newYearRow "opnd_yn" "N" = true := by decide +kernel
    have text : Json.textOr newYearRow "bass_dt" "" = "20260101" := rfl
    have date : strip (Json.textOr newYearRow "bass_dt" "") = "20260101" := by
      rw [text]
      decide +kernel
    simp [marksClosed, closed, date]
  rw [marked, Finset.mem_singleton, ← same]
  constructor
  · rintro rfl
    decide +kernel
  · intro text
    have valid := d.valid
    unfold IsDate at valid
    have days : daysInMonth d.year d.month ≤ 31 := by
      unfold daysInMonth
      split_ifs <;> omega
    obtain ⟨month, day⟩ := only d.month (by omega) d.day (by omega) text
    exact Date.ext same.symm month day

omit [UnicodeTable] in
/-- The provider is given New Year's Day, and answers for its year with the calendar. -/
theorem isHoliday_complete_or_refused_newYear :
    letI : UnicodeTable := ⟨fun _ => true⟩
    let provider := (init {newYear} (some ⟨"key", "secret"⟩) 2026 true).loads
      [newYearCall, newYearCall]
    provider.isHoliday newYear = .ok true ∧
      (provider.isHoliday newYear = .error holidayUnavailable ∨
        provider.isHoliday newYear = .ok (marksClosed [newYearRow] newYear)) := by
  let table : UnicodeTable := ⟨fun _ => true⟩
  refine ⟨by decide +kernel, ?_⟩
  refine isHoliday_complete_or_refused [newYearRow] {newYear} (some ⟨"key", "secret"⟩) 2026 ?_
    [newYearCall, newYearCall] newYear
  intro d holiday member same
  rw [Finset.mem_singleton.mp member] at same
  exact mem_newYear_iff d same

/-- A response handed over directly opens its year and adds no date. -/
theorem isHoliday_of_response (fresh : self.holidays = ∅) {data : List (String × Json)}
    {items : List Json} (accepted : Json.holds data "rt_cd" "0" = true)
    (output : Json.get? data "output" = some (.array items)) (opened : d.year ≠ 0) :
    (self.loadFromResponseData (.object data) (some d.year)).2.isHoliday d = .ok false := by
  have year : ((some (d.year : ℤ)).filter (· ≠ 0)) = some (d.year : ℤ) := by simp [opened]
  simp only [loadFromResponseData, accepted, if_true, output, Option.getD_some,
    parseKisHolidayOutput_eq, year, Option.some_or, Option.elim_some]
  rw [isHoliday_of_loaded (Finset.mem_insert_self _ _)]
  simp [fresh]

end KISHolidayProvider
end Provider
end OptionProject.Infrastructure
