import OptionProject.Contracts.Types
import OptionProject.Library.Calendar
import OptionProject.Library.Dict
import OptionProject.Library.Fields
import OptionProject.Library.Json

/-!
# Access tokens

`infrastructure/kis/auth.py`: a manager keeps the token it was issued last and writes it into a
cache file, and a manager made later starts with the token of that file. Time is in seconds since
the epoch. What the outside has for a call, the response, the clock and whether the file can be
written, is given with the call.

## Main definitions

* `KISAuthToken.fromResponse`, `CacheFile.load` — tokens of responses and of the file.
* `KISAuthManager.issueToken`, `KISAuthManager.getAuthHeaders` — one call.

## Main results

* `CacheFile.load_asdict` — a token that was saved is loaded for as long as it is valid.
* `CacheFile.load_later` — the file opens no token that was not valid before.
* `KISAuthManager.getAuthHeaders_cases` — what a call can do.
-/
namespace OptionProject.Infrastructure.Auth
open Library Contracts

/-- The text of a float, and the float that a text is. -/
class FloatText where
  repr : ℚ → String
  value : String → Option ℚ
  value_repr : ∀ q, value (repr q) = some q

/-- Whole seconds as they are written, other times by sign, numerator and denominator. -/
def timeText (q : ℚ) : String :=
  let fraction := Nat.repr q.num.natAbs ++ ("/" ++ Nat.repr q.den)
  if q.num < 0 then "-" ++ ("/" ++ fraction)
  else if q.den = 1 then Nat.repr q.num.natAbs ++ ".0"
  else fraction

def digitsValue (digits : List Char) : ℕ := Nat.ofDigitChars 10 digits 0

def timeValue (text : String) : Option ℚ :=
  match splitOn '/' text with
  | [whole] => some (digitsValue whole.toList.dropLast.dropLast)
  | [num, den] => some (digitsValue num.toList / digitsValue den.toList)
  | [_, num, den] => some (-(digitsValue num.toList / digitsValue den.toList))
  | _ => none

theorem digitsValue_repr (n : ℕ) : digitsValue (Nat.repr n).toList = n := by
  simp [digitsValue, Nat.toList_repr]

theorem timeValue_timeText (q : ℚ) : timeValue (timeText q) = some q := by
  have free (n : ℕ) : '/' ∉ (Nat.repr n).toList := fun member =>
    absurd (isNumeral_toDigits (Nat.toList_repr ▸ member)) (by simp [IsNumeral])
  have fraction : splitOn '/' (Nat.repr q.num.natAbs ++ ("/" ++ Nat.repr q.den)) =
      [Nat.repr q.num.natAbs, Nat.repr q.den] := by
    rw [splitOn_append rfl (free _), splitOn_of_free (free _)]
  have quotient : q = q.num / q.den := (Rat.num_div_den q).symm
  unfold timeValue timeText
  split_ifs with negative whole
  · have abs : (q.num : ℚ) = -(q.num.natAbs : ℚ) := by
      rw [← Int.cast_natCast, Int.ofNat_natAbs_of_nonpos (by omega)]
      simp
    rw [splitOn_append rfl (by decide), fraction]
    simp only [digitsValue_repr]
    rw [← neg_div, ← abs, ← quotient]
  · have free' : '/' ∉ (Nat.repr q.num.natAbs ++ ".0").toList := by simpa using free q.num.natAbs
    rw [splitOn_of_free free']
    have abs : (q.num.natAbs : ℚ) = q.num := by
      rw [← Int.cast_natCast, Int.natAbs_of_nonneg (by omega)]
    have dropped : (Nat.repr q.num.natAbs ++ ".0").toList.dropLast.dropLast =
        (Nat.repr q.num.natAbs).toList := by
      rw [String.toList_append]
      simp
    simp only [dropped, digitsValue_repr, abs]
    rw [quotient, whole]
    simp
  · have abs : (q.num.natAbs : ℚ) = q.num := by
      rw [← Int.cast_natCast, Int.natAbs_of_nonneg (by omega)]
    rw [fraction]
    simp only [digitsValue_repr, abs]
    rw [← quotient]

abbrev timeTexts : FloatText := ⟨timeText, timeValue, timeValue_timeText⟩

/-! ## Tokens -/

structure KISAuthToken where
  accessToken : String
  tokenType : Json
  expiresIn : Json
  tokenExpiredAt : ℚ
  expiredAtStr : Json
  issuedAt : Json

/-- `bool(self.access_token.strip()) and not self.access_token.startswith("MOCK_")` -/
def isUsableText (accessToken : String) : Bool :=
  strip accessToken ≠ "" && !"MOCK_".toList.isPrefixOf accessToken.toList

/-- `is_valid` at the time `now`. -/
def KISAuthToken.isValid (self : KISAuthToken) (now : ℚ) : Bool :=
  isUsableText self.accessToken && decide (now < self.tokenExpiredAt - 60)

/-! ### The expiry of a response -/

/-- A field of one or two digits. -/
def clockField? (low high : ℕ) (digits : List Char) : Option ℕ :=
  if digits.all Char.isDigit ∧ (digits.length = 1 ∨ digits.length = 2) then do
    let n ← parseNat digits
    if low ≤ n ∧ n ≤ high then some n else none
  else none

/-- The day is one or two digits, or a blank and one digit; blanks follow it. -/
def dayAndClock? (cs : List Char) : Option (ℕ × List Char) :=
  let padded := match cs with
    | ' ' :: later => later
    | _ => cs
  let digits := padded.takeWhile fun c => !isSpace c
  let later := padded.dropWhile fun c => !isSpace c
  if later = [] ∨ padded.length < cs.length ∧ digits.length ≠ 1 then none
  else do
    let day ← clockField? 1 31 digits
    some (day, later.dropWhile isSpace)

def epochOrdinal : ℕ := 719163

/-- `datetime.strptime(text, "%Y-%m-%d %H:%M:%S").replace(tzinfo=kst).timestamp()` -/
def expiry? (text : String) : Option ℚ :=
  match splitOn '-' text with
  | [year, month, rest] => do
    let y ← if year.length = 4 ∧ year.toList.all Char.isDigit then parseNat year.toList else none
    let m ← clockField? 1 12 month.toList
    let (d, clock) ← dayAndClock? rest.toList
    let date ← (Date.of y m d).toOption
    match splitOn ':' (String.ofList clock) with
    | [hour, minute, second] => do
      let h ← clockField? 0 23 hour.toList
      let n ← clockField? 0 59 minute.toList
      let s ← clockField? 0 59 second.toList
      some ((((date.ordinal : ℤ) - epochOrdinal) * 86400 + h * 3600 + n * 60 + s - 32400 : ℤ) : ℚ)
    | _ => none
  | _ => none

/-- `value or default` for what a lookup gives. -/
def orJson (value : Option Json) (default : Json) : Json := (value.filter Json.truthy).getD default

section Tokens

variable [UnicodeTable] [FloatText]

/-- `int(value)` -/
def int : Json → Except PythonException ℤ
  | .integer n => .ok n
  | .bool value => .ok (if value then 1 else 0)
  | .float text =>
    match FloatText.value text with
    | some q => .ok (q.num.tdiv q.den)
    | none =>
      if text = "nan" then .error ⟨"ValueError", "cannot convert float NaN to integer"⟩
      else .error ⟨"OverflowError", "cannot convert float infinity to integer"⟩
  | .string text =>
    match parseInt text with
    | some n => .ok n
    | none =>
      .error ⟨"ValueError", "invalid literal for int() with base 10: " ++ quoted text⟩
  | value =>
    .error ⟨"TypeError",
      "int() argument must be a string, a bytes-like object or a real number, not " ++
        quoted value.typeName⟩

/-- The conversion of an `int` that is added to a float. From the midpoint between the greatest
float and 2 ^ 1024 on it is rounded to the latter, which is no float. -/
def float (n : ℤ) : Except PythonException ℚ :=
  if 2 ^ 1024 - 2 ^ 970 ≤ n.natAbs then
    .error ⟨"OverflowError", "int too large to convert to float"⟩
  else .ok n

/-- `KISAuthToken.from_response(data)` at the time `now`. -/
def KISAuthToken.fromResponse (data : List (String × Json)) (now : ℚ) :
    Except PythonException KISAuthToken := do
  let expiresIn ← int ((Json.get? data "expires_in").getD (.integer 86400))
  let lifetime ← float expiresIn
  let expiredAtStr := (Json.get? data "access_token_token_expired").filter Json.truthy
  let stated := expiredAtStr.bind fun value => expiry? (strip value.text)
  .ok
    { accessToken := Json.textOr data "access_token" ""
      tokenType := .string (Json.textOr data "token_type" "Bearer")
      expiresIn := .integer expiresIn
      tokenExpiredAt := stated.getD (now + lifetime)
      expiredAtStr := expiredAtStr.elim .null fun value => .string value.text
      issuedAt := .float (FloatText.repr now) }

/-! ## The cache file -/

/-- A file that is there but cannot be read or decoded is `unreadable`. -/
inductive CacheFile
  | absent
  | unreadable
  | holds (data : Json)

/-- `asdict(token)` -/
def KISAuthToken.asdict (token : KISAuthToken) : List (String × Json) :=
  [("access_token", .string token.accessToken), ("token_type", token.tokenType),
    ("expires_in", token.expiresIn),
    ("token_expired_at", .float (FloatText.repr token.tokenExpiredAt)),
    ("expired_at_str", token.expiredAtStr), ("issued_at", token.issuedAt)]

/-- The value that a number is compared as. -/
def number? : Json → Option ℚ
  | .integer n => some n
  | .bool value => some (if value then 1 else 0)
  | .float text => FloatText.value text
  | _ => none

def tokenFields : List String :=
  ["access_token", "token_type", "expires_in", "token_expired_at", "expired_at_str", "issued_at"]

/-- `KISAuthToken(**json.load(source))` for a validity check; `none` where a `TypeError` or
`ValueError` is logged. A mistyped access token raises past the handlers. -/
def CacheFile.token? (file : CacheFile) (now : ℚ) :
    Except PythonException (Option KISAuthToken) :=
  match file with
  | .holds (.object fields) =>
    if fields.any fun field => !tokenFields.contains field.1 then .ok none
    else
      match Json.get? fields "access_token" with
      | none => .ok none
      | some (.string accessToken) =>
        .ok ((number? ((Json.get? fields "token_expired_at").getD (.integer 0))).map
          fun tokenExpiredAt =>
            { accessToken
              tokenType := (Json.get? fields "token_type").getD (.string "Bearer")
              expiresIn := (Json.get? fields "expires_in").getD (.integer 86400)
              tokenExpiredAt
              expiredAtStr := (Json.get? fields "expired_at_str").getD .null
              issuedAt := (Json.get? fields "issued_at").getD (.float (FloatText.repr now)) })
      | some value =>
        .error ⟨"AttributeError", quoted value.typeName ++ " object has no attribute 'strip'"⟩
  | _ => .ok none

/-- What `_load_token_from_cache` makes the current token. -/
def CacheFile.load (file : CacheFile) (now : ℚ) :
    Except PythonException (Option KISAuthToken) :=
  (file.token? now).map fun token => token.filter (·.isValid now)

/-- A token without the time at which it was made, which nothing reads. -/
def KISAuthToken.kept (token : KISAuthToken) : KISAuthToken := { token with issuedAt := .null }

omit [UnicodeTable] [FloatText] in
@[simp] theorem KISAuthToken.isValid_kept (token : KISAuthToken) (now : ℚ) :
    token.kept.isValid now = token.isValid now := rfl

omit [UnicodeTable] [FloatText] in
theorem KISAuthToken.isValid_of_le {token : KISAuthToken} {now later : ℚ} (le : now ≤ later)
    (valid : token.isValid later = true) : token.isValid now = true := by
  simp only [isValid, Bool.and_eq_true, decide_eq_true_eq] at valid ⊢
  exact ⟨valid.1, le.trans_lt valid.2⟩

omit [UnicodeTable] [FloatText] in
/-- What is valid later is valid before. -/
theorem filter_isValid {now later : ℚ} (le : now ≤ later) (token : Option KISAuthToken) :
    (token.filter (·.isValid now)).filter (·.isValid later) =
      token.filter (·.isValid later) := by
  rw [Option.filter_filter]
  congr
  funext token
  have before := @KISAuthToken.isValid_of_le token now later le
  grind

namespace CacheFile

theorem load_asdict (token : KISAuthToken) (now : ℚ) :
    (CacheFile.holds (.object token.asdict)).load now =
      .ok ((some token).filter (·.isValid now)) := by
  obtain ⟨accessToken, tokenType, expiresIn, tokenExpiredAt, expiredAtStr, issuedAt⟩ := token
  simp [load, token?, KISAuthToken.asdict, Json.get?, number?, FloatText.value_repr, tokenFields,
    Except.map]

/-- The file is read the same way at any time. -/
theorem token?_kept (file : CacheFile) (now later : ℚ) :
    (file.token? later).map (·.map KISAuthToken.kept) =
      (file.token? now).map (·.map KISAuthToken.kept) := by
  unfold token?
  split
  next fields =>
    split
    · rfl
    · split
      · rfl
      · simp [Except.map, KISAuthToken.kept, Function.comp_def]
      · rfl
  · rfl

theorem load_kept (file : CacheFile) (now : ℚ) :
    (file.load now).map (·.map KISAuthToken.kept) =
      ((file.token? now).map (·.map KISAuthToken.kept)).map fun token =>
        token.filter (·.isValid now) := by
  unfold load
  cases file.token? now with
  | error e => rfl
  | ok token => simp [Except.map, Option.filter_map, Function.comp_def]

/-- A later load of the file finds the token of an earlier one for as long as it is valid. -/
theorem load_later {file : CacheFile} {now later : ℚ} {found : Option KISAuthToken}
    (le : now ≤ later) (loaded : file.load now = .ok found) :
    (file.load later).map (·.map KISAuthToken.kept) =
      .ok ((found.filter (·.isValid later)).map KISAuthToken.kept) := by
  obtain ⟨token, read, rfl⟩ : ∃ token, file.token? now = .ok token ∧
      token.filter (·.isValid now) = found := by
    unfold load at loaded
    cases read : file.token? now with
    | error e => rw [read] at loaded; cases loaded
    | ok token => rw [read] at loaded; exact ⟨token, rfl, Except.ok.inj loaded⟩
  rw [load_kept, token?_kept file now later, read, filter_isValid le]
  simp [Except.map, Option.filter_map, Function.comp_def]

end CacheFile
end Tokens

/-! ## Failures and requests -/

structure KISAuthError where
  message : String
  errorCode : Option Json := none
  responseData : List (String × Json) := []

inductive Failure
  | auth (error : KISAuthError)
  | other (error : PythonException)

structure TokenRequest where
  url : String
  data : List (String × String)
  headers : List (String × String)
  method : String

/-- What comes back of a token request. The body of an HTTP error is given as text and, where it is
one, as a JSON value. -/
inductive TokenAnswer
  | body (data : Json)
  | httpError (code : ℤ) (reason body : String) (errorData : Option Json)
  | urlError (reason : String)
  | unreadable (error : String)
  | raised (error : PythonException)

/-- What becomes of a write of the cache file. -/
inductive Saving
  | written
  | refused
  | torn

/-! ## The manager -/

structure KISAuthManager where
  appKey : String
  appSecret : String
  baseUrl : String
  isVts : Bool
  cacheFilePath : Option String
  currentToken : Option KISAuthToken

/-- The arguments of the constructor. -/
structure Settings where
  appKey : String
  appSecret : String
  baseUrl : String
  isVts : Bool := true
  cacheFilePath : Option String := none

def Settings.manager (settings : Settings) (currentToken : Option KISAuthToken) :
    KISAuthManager where
  appKey := strip settings.appKey
  appSecret := strip settings.appSecret
  baseUrl := String.ofList (settings.baseUrl.toList.rdropWhile (· = '/'))
  isVts := settings.isVts
  cacheFilePath := settings.cacheFilePath
  currentToken := currentToken

def stripQuote (quote : Char) (s : String) : String :=
  String.ofList ((s.toList.rdropWhile (· = quote)).dropWhile (· = quote))

/-- `_load_env_file_fallback`, on the lines of a file that can be read. -/
def loadEnvFileFallback (lines : List String) : Dict String String :=
  lines.foldl (fun values rawLine =>
    let line := strip rawLine
    if line = "" ∨ line.toList.head? = some '#' then values
    else
      match splitOn '=' line with
      | key :: first :: rest =>
        let value := join '=' (first :: rest)
        values.set (strip key) (stripQuote '"' (stripQuote '\'' (strip value)))
      | _ => values) .empty

def vtsBaseUrl : String := "https://openapivts.koreainvestment.com:29443"
def realBaseUrl : String := "https://openapi.koreainvestment.com:9443"
def tokenPath : String := "/oauth2/tokenP"

/-- One call of a method that needs the token, and what the outside has for it. -/
structure TokenCall where
  forceRefresh : Bool := false
  trId : String := ""
  asked : ℚ
  answered : ℚ
  answer : TokenAnswer
  saving : Saving

namespace KISAuthManager

section Manager

variable [UnicodeTable] [FloatText]

/-- The constructor, with `_load_token_from_cache`. -/
def init (settings : Settings) (file : CacheFile) (now : ℚ) :
    Except PythonException KISAuthManager := do
  let currentToken ← if orEmpty settings.cacheFilePath = "" then .ok none else file.load now
  .ok (settings.manager currentToken)

def orText (a b : String) : String := if a = "" then b else a

/-- What `KISAuthManager.from_env` calls the constructor with; `getenv` is the environment, a name
that is not set being blank. -/
def fromEnv (isVts : Bool) (getenv : String → String) (envLines : List String)
    (baseUrl : Option String) (cacheFilePath : Option String) : Settings :=
  let fallback := loadEnvFileFallback envLines
  let value (name : String) : String := orText (getenv name) (fallback.getD name "")
  { appKey := orText
      (orText (value (if isVts then "KIS_VTS_APP_KEY" else "KIS_REAL_APP_KEY"))
        (value "KIS_APP_KEY"))
      (value "REAL_BROKER_APP_KEY")
    appSecret := orText
      (orText (value (if isVts then "KIS_VTS_APP_SECRET" else "KIS_REAL_APP_SECRET"))
        (value "KIS_APP_SECRET"))
      (value "REAL_BROKER_APP_SECRET")
    baseUrl := orText (orText (orEmpty baseUrl) (value "KIS_BASE_URL"))
      (if isVts then vtsBaseUrl else realBaseUrl)
    isVts
    cacheFilePath := some (cacheFilePath.getD
      ("data/.kis_token_cache_" ++ (if isVts then "vts" else "real") ++ ".json")) }

def hasCredentials (self : KISAuthManager) : Bool := self.appKey ≠ "" ∧ self.appSecret ≠ ""

/-- `self._current_token and self._current_token.is_valid()` -/
def validToken (self : KISAuthManager) (now : ℚ) : Option KISAuthToken :=
  self.currentToken.filter (·.isValid now)

/-- `_save_token_to_cache` -/
def saveTokenToCache (self : KISAuthManager) (token : KISAuthToken) (saving : Saving)
    (file : CacheFile) : CacheFile :=
  if orEmpty self.cacheFilePath = "" then file
  else
    match saving with
    | .written => .holds (.object token.asdict)
    | .refused => file
    | .torn => .unreadable

def tokenRequest (self : KISAuthManager) : TokenRequest where
  url := self.baseUrl ++ tokenPath
  data := [("grant_type", "client_credentials"), ("appkey", self.appKey),
    ("appsecret", self.appSecret)]
  headers := [("Content-Type", "application/json; charset=UTF-8")]
  method := "POST"

def noAttribute (value : Json) : Failure :=
  .other ⟨"AttributeError", quoted value.typeName ++ " object has no attribute 'get'"⟩

/-- What an HTTP error raises, where the current token does not stand in for a new one. -/
def httpFailure (code : ℤ) (reason body : String) (errorData : List (String × Json)) : Failure :=
  .auth
    { message := "HTTP Error " ++ toString code ++ " (" ++ reason ++ "): " ++ body
      errorCode := some (orJson (Json.get? errorData "error_code") (.string (toString code)))
      responseData := errorData }

def missingToken (data : List (String × Json)) : Failure :=
  let errorCode := orJson (Json.get? data "error_code")
    (orJson (Json.get? data "msg_cd") (.string "UNKNOWN_ERR"))
  let description := orJson (Json.get? data "error_description")
    (orJson (Json.get? data "msg1") (.string (Json.text (.object data))))
  .auth
    { message := "Token missing in response: [" ++ errorCode.text ++ "] " ++ description.text
      errorCode := some errorCode
      responseData := data }

/-- What a request comes to: a token that was issued, the current token in its place, or a
failure. -/
def received (self : KISAuthManager) (call : TokenCall) :
    Except Failure (KISAuthToken ⊕ KISAuthToken) :=
  match call.answer with
  | .body (.object data) =>
    if ((Json.get? data "access_token").map Json.truthy).getD false then
      match KISAuthToken.fromResponse data call.answered with
      | .error e => .error (.other e)
      | .ok token => .ok (.inl token)
    else .error (missingToken data)
  | .body value => .error (noAttribute value)
  | .httpError code reason body errorData =>
    match errorData.getD (.object []) with
    | .object fields =>
      match if Json.holds fields "error_code" "EGW00133" then self.validToken call.answered
        else none with
      | some token => .ok (.inr token)
      | none => .error (httpFailure code reason body fields)
    | value => .error (noAttribute value)
  | .urlError reason => .error (.auth { message := "Network connection failed: " ++ reason })
  | .unreadable error =>
    .error (.auth { message := "Unexpected token issuance failure: " ++ error })
  | .raised error => .error (.other error)

/-- What a call returns or raises, the requests it sends and the tokens issued to it. -/
structure Reply (α : Type) where
  result : Except Failure α
  requests : List TokenRequest := []
  issued : List KISAuthToken := []

def issueToken (self : KISAuthManager) (file : CacheFile) (call : TokenCall) :
    Reply KISAuthToken × KISAuthManager × CacheFile :=
  if !self.hasCredentials then
    ({ result := .error (.auth { message := "KIS AppKey or AppSecret is missing." }) }, self, file)
  else
    match self.received call with
    | .error e => ({ result := .error e, requests := [self.tokenRequest] }, self, file)
    | .ok (.inr token) => ({ result := .ok token, requests := [self.tokenRequest] }, self, file)
    | .ok (.inl token) =>
      ({ result := .ok token, requests := [self.tokenRequest], issued := [token] },
        { self with currentToken := some token }, self.saveTokenToCache token call.saving file)

/-- `get_access_token`, with the token whose text it returns. -/
def getAccessToken (self : KISAuthManager) (file : CacheFile) (call : TokenCall) :
    Reply KISAuthToken × KISAuthManager × CacheFile :=
  let obtain (after : KISAuthManager) : Except Failure KISAuthToken :=
    match after.currentToken with
    | none => .error (.auth { message := "Failed to obtain a valid access token." })
    | some token => .ok token
  if call.forceRefresh || (self.validToken call.asked).isNone then
    match self.issueToken file call with
    | (reply, after, file) =>
      ({ reply with result := reply.result.bind fun _ => obtain after }, after, file)
  else ({ result := obtain self }, self, file)

/-- `get_auth_headers`; the type and the text of the token are those of the current one. -/
def getAuthHeaders (self : KISAuthManager) (file : CacheFile) (call : TokenCall) :
    Reply (List (String × String)) × KISAuthManager × CacheFile :=
  match self.getAccessToken file call with
  | (reply, after, file) =>
    ({ reply with
        result := reply.result.map fun token =>
          [("Content-Type", "application/json; charset=UTF-8"),
            ("authorization", token.tokenType.text ++ " " ++ token.accessToken),
            ("appkey", self.appKey), ("appsecret", self.appSecret)] ++
          (if call.trId = "" then [] else [("tr_id", call.trId)]) }, after, file)

/-! ### What a call can do -/

variable {self : KISAuthManager} {file : CacheFile} {call : TokenCall}

theorem received_standIn {token : KISAuthToken} (standIn : self.received call = .ok (.inr token)) :
    self.validToken call.answered = some token := by
  unfold received at standIn
  grind

/-- Without a request the valid token is used; otherwise the manager and the file are as before,
or both have the token that was issued. -/
theorem getAccessToken_cases (self : KISAuthManager) (file : CacheFile) (call : TokenCall) :
    (∃ token, call.forceRefresh = false ∧ self.validToken call.asked = some token ∧
      self.getAccessToken file call = ({ result := .ok token }, self, file)) ∨
    ((call.forceRefresh = true ∨ self.validToken call.asked = none) ∧
      ((∃ reply, reply.issued = [] ∧ self.getAccessToken file call = (reply, self, file)) ∨
        ∃ token, self.getAccessToken file call =
          ({ result := .ok token, requests := [self.tokenRequest], issued := [token] },
            { self with currentToken := some token },
            self.saveTokenToCache token call.saving file))) := by
  by_cases asks : call.forceRefresh || (self.validToken call.asked).isNone
  · refine .inr ⟨by simpa using asks, ?_⟩
    simp only [getAccessToken, asks, if_true, issueToken]
    split
    · exact .inl ⟨_, rfl, rfl⟩
    · split
      · exact .inl ⟨_, rfl, rfl⟩
      · exact .inl ⟨_, rfl, rfl⟩
      · exact .inr ⟨_, rfl⟩
  · obtain ⟨unforced, token, valid⟩ : call.forceRefresh = false ∧
        ∃ token, self.validToken call.asked = some token := by
      simpa [Option.isNone_iff_eq_none, Option.ne_none_iff_exists'] using asks
    refine .inl ⟨token, unforced, valid, ?_⟩
    have current : self.currentToken = some token := (Option.filter_eq_some_iff.mp valid).1
    simp [getAccessToken, unforced, valid, current]

/-- The token a call at the time `now` would use. -/
def usable (self : KISAuthManager) (now : ℚ) : Option KISAuthToken :=
  (self.validToken now).map KISAuthToken.kept

variable {settings : Settings} {current current' : Option KISAuthToken}

theorem received_alike (answered : (settings.manager current).usable call.answered =
      (settings.manager current').usable call.answered) :
    ((settings.manager current).received call).map (Sum.map id KISAuthToken.kept) =
      ((settings.manager current').received call).map (Sum.map id KISAuthToken.kept) := by
  unfold received
  split <;> try rfl
  next code reason body errorData answer =>
    split <;> try rfl
    next fields object =>
      by_cases limited : Json.holds fields "error_code" "EGW00133" = true
      · simp only [limited, if_true]
        unfold usable at answered
        cases there : (settings.manager current).validToken call.answered <;>
          cases there' : (settings.manager current').validToken call.answered <;>
          simp_all [Except.map]
      · simp [limited]

omit [UnicodeTable] [FloatText] in
theorem isNone_usable (self : KISAuthManager) (now : ℚ) :
    (self.usable now).isNone = (self.validToken now).isNone := by
  simp [usable]

omit [UnicodeTable] [FloatText] in
theorem currentToken_of_validToken {token : KISAuthToken} {now : ℚ}
    (valid : self.validToken now = some token) : self.currentToken = some token :=
  (Option.filter_eq_some_iff.mp valid).1

/-- Managers that would use the same token at both times of a call reply the same and write the
same file. -/
theorem getAccessToken_alike
    (asked : (settings.manager current).usable call.asked =
      (settings.manager current').usable call.asked)
    (answered : (settings.manager current).usable call.answered =
      (settings.manager current').usable call.answered) :
    let after := (settings.manager current).getAccessToken file call
    let after' := (settings.manager current').getAccessToken file call
    after.1.result.map KISAuthToken.kept = after'.1.result.map KISAuthToken.kept ∧
      after.1.requests = after'.1.requests ∧ after.1.issued = after'.1.issued ∧
      after.2.2 = after'.2.2 := by
  have asks : ((settings.manager current).validToken call.asked).isNone =
      ((settings.manager current').validToken call.asked).isNone := by
    rw [← isNone_usable, ← isNone_usable, asked]
  have same := received_alike answered
  by_cases request :
      (call.forceRefresh || ((settings.manager current').validToken call.asked).isNone) = true
  · have creds : (settings.manager current).hasCredentials =
      (settings.manager current').hasCredentials := rfl
    simp only [getAccessToken, asks, request, if_true, issueToken, creds]
    split
    · exact ⟨rfl, rfl, rfl, rfl⟩
    · cases got : (settings.manager current).received call with
      | error e =>
        cases got' : (settings.manager current').received call with
        | error e' => simp_all [Except.map, Except.bind, tokenRequest, Settings.manager]
        | ok token' => simp [got, got', Except.map] at same
      | ok token =>
        cases got' : (settings.manager current').received call with
        | error e' => simp [got, got', Except.map] at same
        | ok token' =>
          cases token <;> cases token' <;> simp [got, got', Except.map] at same
          · subst same
            exact ⟨rfl, rfl, rfl, rfl⟩
          next token token' =>
            have there : current = some token := currentToken_of_validToken (received_standIn got)
            have there' : current' = some token' :=
              currentToken_of_validToken (received_standIn got')
            simp [there, there', same, Except.map, Except.bind, tokenRequest, Settings.manager]
  · simp only [Bool.or_eq_true, not_or, Bool.not_eq_true, Option.isNone_eq_false_iff,
      Option.isSome_iff_exists] at request
    obtain ⟨unforced, token', valid'⟩ := request
    rw [valid'] at asks
    obtain ⟨token, valid⟩ := Option.isSome_iff_exists.mp (Option.isNone_eq_false_iff.mp asks)
    have there := currentToken_of_validToken valid
    have there' := currentToken_of_validToken valid'
    simp only [usable, valid, valid', Option.map_some, Option.some.injEq] at asked
    simp [getAccessToken, unforced, valid, valid', there, there', asked, Except.map]

theorem getAuthHeaders_alike
    (asked : (settings.manager current).usable call.asked =
      (settings.manager current').usable call.asked)
    (answered : (settings.manager current).usable call.answered =
      (settings.manager current').usable call.answered) :
    ((settings.manager current).getAuthHeaders file call).1 =
        ((settings.manager current').getAuthHeaders file call).1 ∧
      ((settings.manager current).getAuthHeaders file call).2.2 =
        ((settings.manager current').getAuthHeaders file call).2.2 := by
  obtain ⟨result, requests, issued, file⟩ :=
    @getAccessToken_alike _ _ file call _ _ _ asked answered
  refine ⟨?_, file⟩
  unfold getAuthHeaders
  simp only [Reply.mk.injEq, requests, issued, and_true]
  -- the headers are those of the tokens without the times at which they were made
  have read (r : Except Failure KISAuthToken) (fields : KISAuthToken → List (String × String))
      (same : ∀ token, fields token = fields token.kept) :
      r.map fields = (r.map KISAuthToken.kept).map fields := by
    cases r with
    | error e => rfl
    | ok token => exact congrArg Except.ok (same token)
  rw [read _ _ fun _ => rfl, result]
  exact (read _ _ fun _ => rfl).symm

/-- What a call does to the manager and the file, and when it requests a token. -/
theorem getAuthHeaders_cases (self : KISAuthManager) (file : CacheFile) (call : TokenCall) :
    ∃ reply, (reply.requests = [] ∧ reply.issued = [] ∨ call.forceRefresh = true ∨
        self.validToken call.asked = none) ∧
      (reply.issued = [] ∧ self.getAuthHeaders file call = (reply, self, file) ∨
        ∃ token, reply.issued = [token] ∧ self.getAuthHeaders file call =
          (reply, { self with currentToken := some token },
            self.saveTokenToCache token call.saving file)) := by
  unfold getAuthHeaders
  obtain ⟨token, -, -, eq⟩ | ⟨asks, ⟨reply, none, eq⟩ | ⟨token, eq⟩⟩ :=
    getAccessToken_cases self file call
  · rw [eq]
    exact ⟨_, .inl ⟨rfl, rfl⟩, .inl ⟨rfl, rfl⟩⟩
  · rw [eq]
    exact ⟨_, .inr asks, .inl ⟨none, rfl⟩⟩
  · rw [eq]
    exact ⟨_, .inr asks, .inr ⟨token, rfl, rfl⟩⟩

end Manager
end KISAuthManager
end OptionProject.Infrastructure.Auth
