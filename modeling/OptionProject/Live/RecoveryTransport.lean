import OptionProject.Library.Dict
import OptionProject.Library.Json
import OptionProject.Library.Text
import OptionProject.Contracts.Types

/-!
# Pages of a recovery inquiry

`environments/live/execution/kis_futures_execution_recovery_transport.py` asks for the pages of an
inquiry until one is not marked as continued, and gives the cursor of each to the next request.
What the server sends for a request is a parameter, which may depend on the requests before.

## Main definitions

* `KISFuturesExecutionRecoveryTransport.inquire` — the loop over the pages.
* `Follows` — pages that belong together, up to the first that is not continued.

## Main results

* `KISFuturesExecutionRecoveryTransport.inquire_eq_ok_iff` — when an inquiry returns, and what.
-/
namespace OptionProject.Live
open Library Contracts

namespace RecoveryPages

/-- `KISExecutionRecoveryInvalid` as an exception of any class. -/
def inquiryInvalid (text : String) : PythonException := ⟨"KISExecutionRecoveryInvalid", text⟩

def recoveryTransportError (text : String) : PythonException :=
  ⟨"KISExecutionRecoveryTransportError", text⟩

/-! ## The query -/

/-- A query as its constructor lets it through. -/
structure KISExecutionRecoveryQuery where
  cano : String
  accountProductCode : String
  startOrderDate : String
  endOrderDate : String
  virtual : Bool
  ctxAreaFk200 : String
  ctxAreaNk200 : String
  cano_nonblank : strip cano ≠ ""
  accountProductCode_nonblank : strip accountProductCode ≠ ""
  startOrderDate_nonblank : strip startOrderDate ≠ ""
  endOrderDate_nonblank : strip endOrderDate ≠ ""

namespace KISExecutionRecoveryQuery

def create (cano accountProductCode startOrderDate endOrderDate : String) (virtual : Bool)
    (ctxAreaFk200 ctxAreaNk200 : String) : Except PythonException KISExecutionRecoveryQuery :=
  if cano_nonblank : strip cano = "" then .error (inquiryInvalid "CANO_REQUIRED")
  else if product_nonblank : strip accountProductCode = "" then
    .error (inquiryInvalid "ACNT_PRDT_CD_REQUIRED")
  else if start_nonblank : strip startOrderDate = "" then
    .error (inquiryInvalid "STRT_ORD_DT_REQUIRED")
  else if end_nonblank : strip endOrderDate = "" then
    .error (inquiryInvalid "END_ORD_DT_REQUIRED")
  else .ok ⟨cano, accountProductCode, startOrderDate, endOrderDate, virtual, ctxAreaFk200,
    ctxAreaNk200, cano_nonblank, product_nonblank, start_nonblank, end_nonblank⟩

variable (self : KISExecutionRecoveryQuery)

def trId : String := if self.virtual then "VTTO5201R" else "TTTO5201R"

def params : List (String × String) :=
  [("CANO", self.cano), ("ACNT_PRDT_CD", self.accountProductCode),
    ("STRT_ORD_DT", self.startOrderDate), ("END_ORD_DT", self.endOrderDate),
    ("SLL_BUY_DVSN_CD", "00"), ("CCLD_NCCS_DVSN", "01"), ("SORT_SQN", "DS"), ("PDNO", ""),
    ("STRT_ODNO", ""), ("MKET_ID_CD", ""), ("CTX_AREA_FK200", self.ctxAreaFk200),
    ("CTX_AREA_NK200", self.ctxAreaNk200)]

end KISExecutionRecoveryQuery

/-! ## The server -/

/-- What a request is made of. The header `tr_cont` is left out when its text is empty. -/
structure InquiryRequest where
  path : String
  params : List (String × String)
  trId : String
  trCont : Option String

/-- What comes back: an HTTP error, a failure of the connection, a body that is no JSON, another
exception, or a JSON value with the header `tr_cont`. -/
inductive InquiryReply
  | httpError (code : ℤ) (body : String)
  | failed (text : String)
  | invalid (text : String)
  | raised (exception : PythonException)
  | answered (data : Json) (trCont : String)

/-- The server, asked for the first, the second and each further time. -/
abbrev Server := ℕ → InquiryRequest → InquiryReply

def inquiryPath : String := "/uapi/domestic-futureoption/v1/trading/inquire-ccnl"

def inquiryRequest (query : KISExecutionRecoveryQuery) (trCont : String) : InquiryRequest where
  path := inquiryPath
  params := query.params
  trId := query.trId
  trCont := if trCont = "" then none else some trCont

/-! ## The transport -/

section Transport

variable [UnicodeTable]

/-- `_request`, up to the reply. -/
def response (reply : InquiryReply) : Except PythonException (List (String × Json) × String) :=
  match reply with
  | .httpError code body => .error (recoveryTransportError
      ("KIS execution recovery HTTP " ++ toString code ++ ": " ++ body))
  | .failed text => .error (recoveryTransportError
      ("KIS execution recovery transport failed: " ++ text))
  | .invalid text => .error (recoveryTransportError
      ("KIS execution recovery response is not valid JSON: " ++ text))
  | .raised exception => .error exception
  | .answered (.object data) trCont =>
    if strip (Json.textOr data "rt_cd" "") ≠ "0" then .error (recoveryTransportError
      ("KIS execution recovery rejected: " ++ Json.textOr data "msg_cd" "None" ++ " " ++
        Json.textOr data "msg1" "None"))
    else .ok (data, (strip trCont).toUpper)
  | .answered _ _ => .error (recoveryTransportError
      "KIS execution recovery response must be object")

/-- The rows of a page, `None` and a missing `output1` being no rows. -/
def pageRows (data : List (String × Json)) : Except PythonException (List Json) :=
  match Json.get? data "output1" with
  | none => .ok []
  | some .null => .ok []
  | some (.array rows) => .ok rows
  | some _ => .error (recoveryTransportError "KIS output1 must be an array")

/-- `str(data.get(key, "") or "")`. -/
def cursorText (data : List (String × Json)) (key : String) : String :=
  match Json.get? data key with
  | none => ""
  | some value => if value.truthy then value.text else ""

/-- The query for the page after one with this data. -/
def nextQuery (query : KISExecutionRecoveryQuery) (data : List (String × Json)) :
    KISExecutionRecoveryQuery :=
  { query with
    ctxAreaFk200 := cursorText data "ctx_area_fk200"
    ctxAreaNk200 := cursorText data "ctx_area_nk200" }

variable (server : Server)

/-- The iterations that are left of the loop, after so many requests. -/
def inquirePages (asked : ℕ) (query : KISExecutionRecoveryQuery) (continuation : String)
    (allRows : List Json) : ℕ → Except PythonException (List (String × Json))
  | 0 => .error (recoveryTransportError "KIS execution recovery pagination limit exceeded")
  | remaining + 1 => do
    let (data, continuation) ← response (server asked (inquiryRequest query continuation))
    let rows ← pageRows data
    if continuation ≠ "M" then return assign "output1" (.array (allRows ++ rows)) data
    else
      inquirePages (asked + 1) (nextQuery query data) continuation (allRows ++ rows) remaining

structure KISFuturesExecutionRecoveryTransport where
  maxPages : ℤ := 100

def KISFuturesExecutionRecoveryTransport.inquire (self : KISFuturesExecutionRecoveryTransport)
    (query : KISExecutionRecoveryQuery) : Except PythonException (List (String × Json)) :=
  if self.maxPages ≤ 0 then .error (inquiryInvalid "MAX_PAGES_INVALID")
  else inquirePages server 0 query "" [] self.maxPages.toNat

/-! ## Pages -/

/-- A well-formed page: what it holds, its rows and its mark. -/
structure Page where
  data : List (String × Json)
  rows : List Json
  continuation : String

/-- The page that a reply brings: an object that is not rejected, whose rows, if it has any, are an
array. -/
def Brings (reply : InquiryReply) (page : Page) : Prop :=
  ∃ trCont, reply = .answered (.object page.data) trCont ∧
    page.continuation = (strip trCont).toUpper ∧
    strip (Json.textOr page.data "rt_cd" "") = "0" ∧
    (Json.get? page.data "output1" = some (.array page.rows) ∨ page.rows = [] ∧
      (Json.get? page.data "output1" = none ∨ Json.get? page.data "output1" = some .null))

/-- The pages are what the server sends one after another, each for the cursor of the page before,
up to the first that is not marked as continued. -/
def Follows (asked : ℕ) (query : KISExecutionRecoveryQuery) (continuation : String) :
    List Page → Prop
  | [] => False
  | [last] => Brings (server asked (inquiryRequest query continuation)) last ∧
      last.continuation ≠ "M"
  | page :: rest => Brings (server asked (inquiryRequest query continuation)) page ∧
      page.continuation = "M" ∧ Follows (asked + 1) (nextQuery query page.data) "M" rest

variable {server} {reply : InquiryReply} {page : Page}

omit [UnicodeTable] in
theorem pageRows_eq_ok {data : List (String × Json)} {rows : List Json} :
    pageRows data = .ok rows ↔ Json.get? data "output1" = some (.array rows) ∨ rows = [] ∧
      (Json.get? data "output1" = none ∨ Json.get? data "output1" = some .null) := by
  unfold pageRows
  rcases Json.get? data "output1" with _ | value
  · simp [eq_comm]
  · cases value <;> simp [eq_comm]

/-- The page of a reply is what the transport makes of it. -/
theorem brings_iff : Brings reply page ↔
    response reply = .ok (page.data, page.continuation) ∧ pageRows page.data = .ok page.rows := by
  rw [pageRows_eq_ok]
  constructor
  · rintro ⟨trCont, rfl, marked, accepted, rows⟩
    refine ⟨?_, rows⟩
    simp [response, accepted, marked]
  · rintro ⟨answered, rows⟩
    unfold response at answered
    split at answered
    case h_5 data trCont =>
      rw [ite_error_eq_ok, not_not, Except.ok.injEq, Prod.mk.injEq] at answered
      obtain ⟨accepted, rfl, marked⟩ := answered
      exact ⟨trCont, rfl, marked.symm, accepted, rows⟩
    all_goals cases answered

theorem brings_unique {other : Page} (brings : Brings reply page) (brings' : Brings reply other) :
    page = other := by
  obtain ⟨answered, rows⟩ := brings_iff.mp brings
  obtain ⟨answered', rows'⟩ := brings_iff.mp brings'
  cases page
  cases other
  grind

variable {asked : ℕ} {query : KISExecutionRecoveryQuery} {continuation : String}
  {pages others rest : List Page}

theorem follows_cons : Follows server asked query continuation (page :: rest) ↔
    Brings (server asked (inquiryRequest query continuation)) page ∧
      (rest = [] ∧ page.continuation ≠ "M" ∨ page.continuation = "M" ∧
        Follows server (asked + 1) (nextQuery query page.data) "M" rest) := by
  cases rest with
  | nil => simp [Follows]
  | cons second rest => simp [Follows]

/-- There is one list of pages at most. -/
theorem follows_unique (follows : Follows server asked query continuation pages)
    (follows' : Follows server asked query continuation others) : pages = others := by
  induction pages generalizing asked query continuation others with
  | nil => cases follows
  | cons page rest ih =>
    cases others with
    | nil => cases follows'
    | cons other rest' =>
      obtain ⟨brings, more⟩ := follows_cons.mp follows
      obtain ⟨brings', more'⟩ := follows_cons.mp follows'
      obtain rfl := brings_unique brings brings'
      grind

/-- The last data with all rows in it. -/
def merged (allRows : List Json) (pages : List Page) : List (String × Json) :=
  assign "output1" (.array (allRows ++ pages.flatMap (·.rows)))
    ((pages.getLast?.map (·.data)).getD [])

omit [UnicodeTable] in
theorem merged_cons {allRows : List Json} (nonempty : rest ≠ []) :
    merged allRows (page :: rest) = merged (allRows ++ page.rows) rest := by
  obtain ⟨second, others, rfl⟩ := List.exists_cons_of_ne_nil nonempty
  simp [merged]

omit [UnicodeTable] in
@[simp] theorem get?_merged (allRows : List Json) (pages : List Page) :
    Json.get? (merged allRows pages) "output1" =
      some (.array (allRows ++ pages.flatMap (·.rows))) := by
  rw [merged, Json.get?, Dict.find?_assign, if_pos rfl]

/-- The loop returns when the pages end within the iterations that are left. -/
theorem inquirePages_eq_ok_iff {remaining : ℕ} {allRows : List Json}
    {result : List (String × Json)} :
    inquirePages server asked query continuation allRows remaining = .ok result ↔
      ∃ pages, Follows server asked query continuation pages ∧ pages.length ≤ remaining ∧
        result = merged allRows pages := by
  induction remaining generalizing asked query continuation allRows with
  | zero =>
    refine iff_of_false (by simp [inquirePages]) ?_
    rintro ⟨pages, follows, within, -⟩
    rw [List.length_eq_zero_iff.mp (Nat.le_zero.mp within)] at follows
    exact follows
  | succ remaining ih =>
    rw [inquirePages]
    simp only [bind_eq_ok, Prod.exists]
    constructor
    · rintro ⟨data, marked, answered, rows, read, returned⟩
      have brings : Brings (server asked (inquiryRequest query continuation))
          ⟨data, rows, marked⟩ :=
        brings_iff.mpr ⟨answered, read⟩
      split at returned
      next last =>
        cases returned
        refine ⟨[⟨data, rows, marked⟩], ⟨brings, last⟩, by simp, ?_⟩
        simp [merged]
      next more =>
        rw [not_not.mp more] at returned brings
        obtain ⟨pages, follows, within, made⟩ := ih.mp returned
        have nonempty : pages ≠ [] := by
          rintro rfl
          exact follows
        refine ⟨⟨data, rows, "M"⟩ :: pages, follows_cons.mpr ⟨brings, .inr ⟨rfl, follows⟩⟩, ?_, ?_⟩
        · simpa using within
        · rw [made, merged_cons nonempty]
    · rintro ⟨pages, follows, within, made⟩
      cases pages with
      | nil => cases follows
      | cons page rest =>
        obtain ⟨brings, more⟩ := follows_cons.mp follows
        obtain ⟨answered, read⟩ := brings_iff.mp brings
        refine ⟨_, _, answered, _, read, ?_⟩
        rcases more with ⟨rfl, last⟩ | ⟨marked, follows⟩
        · rw [if_pos last, made]
          simp [merged, pure, Except.pure]
        · have nonempty : rest ≠ [] := by
            rintro rfl
            exact follows
          rw [if_neg (not_not.mpr marked), marked]
          rw [merged_cons nonempty] at made
          exact ih.mpr ⟨rest, follows, by simpa using within, made⟩

/-- An inquiry returns exactly when the pages end, well formed, within the greatest number of pages.
It returns the data of the last page with the rows of all of them. -/
theorem KISFuturesExecutionRecoveryTransport.inquire_eq_ok_iff
    {self : KISFuturesExecutionRecoveryTransport} {result : List (String × Json)} :
    self.inquire server query = .ok result ↔
      ∃ pages, Follows server 0 query "" pages ∧ pages.length ≤ self.maxPages ∧
        result = merged [] pages ∧
        Json.get? result "output1" = some (.array (pages.flatMap (·.rows))) := by
  rw [inquire, ite_error_eq_ok, inquirePages_eq_ok_iff, ← exists_and_left]
  refine exists_congr fun pages => ?_
  have nonempty : Follows server 0 query "" pages → 0 < pages.length := by
    rintro follows
    cases pages with
    | nil => cases follows
    | cons page rest => simp
  constructor
  · rintro ⟨positive, follows, within, rfl⟩
    exact ⟨follows, by omega, rfl, get?_merged [] pages⟩
  · rintro ⟨follows, within, rfl, -⟩
    have := nonempty follows
    exact ⟨by omega, follows, by omega, rfl⟩

end Transport
end RecoveryPages
end OptionProject.Live
