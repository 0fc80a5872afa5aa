import Mathlib.Data.List.Induction
import OptionProject.Library.Dict
import OptionProject.Options.Expiry

/-!
# The KIS master file

The parser of `core/option/option_master.py` for the raw text of the master file. Its two
dictionaries are written line by line; the identities are checked for conflicts under the short
code.

## Main definitions

* `KisOptionContractIdentity` — one contract.
* `parseLine` — what one line of the file lists.
* `parseKisFoIdxMstResult` — the expiries and the identities of a whole file.

## Main results

* `ParsedFrom` and `parsedFrom_of_returned` — what the two dictionaries of a file hold.
-/
namespace OptionProject.Options
open Library Contracts

/-! ## Contracts -/

/-- A strike is compared by value; a `NaN` equals itself only. -/
inductive Strike
  | finite (value : ℚ)
  | infinity (negative : Bool)
  | nan (object : ℕ)
  deriving DecidableEq

structure KisOptionContractIdentity where
  shrnIscd : String
  stndIscd : Option String
  expiry : String
  optionType : Option String
  strike : Option Strike
  infoType : Option String := none
  deriving DecidableEq

/-- The short code, and the standard code if it is there. -/
def KisOptionContractIdentity.codes (identity : KisOptionContractIdentity) : List String :=
  identity.shrnIscd :: identity.stndIscd.toList.filter (· ≠ "")

structure KisOptionMasterParseResult where
  legacyContracts : Dict String String
  identities : Dict String KisOptionContractIdentity

/-! ## One line -/

def kisInfoTypeToOptionType (infoType : String) : Option String :=
  if infoType ∈ ["5", "D", "L"] then some "CALL"
  else if infoType ∈ ["6", "E", "M"] then some "PUT"
  else none

def optionInfoTypes : List String := ["5", "6", "D", "E", "L", "M", "N", "O", "P", "Q", "R", "S"]

def isOptionRecord (prodType symbol name : String) : Bool :=
  prodType ∈ optionInfoTypes ∨ symbol.toList.head? ∈ [some '2', some '3', some 'B', some 'C'] ∨
    includes name " C " ∨ includes name " P " ∨ includes name "Call" ∨ includes name "Put"

/-- `(\d\x7b2\x7d)(\d\x7b2\x7d)W(\d)`: year, month and week. -/
def weeklyPattern (cs : List Char) : Option (ℕ × ℕ × ℕ) := do
  let (year, cs) ← fixedDigits? 2 cs
  let (month, cs) ← fixedDigits? 2 cs
  match cs with
  | 'W' :: cs =>
    let (week, _) ← fixedDigits? 1 cs
    return (ofDigits year, ofDigits month, ofDigits week)
  | _ => none

/-- `20\d\x7b4\x7d`: year and month. -/
def monthPattern : List Char → Option (ℕ × ℕ)
  | '2' :: '0' :: cs => do
    let (year, cs) ← fixedDigits? 2 cs
    let (month, _) ← fixedDigits? 2 cs
    return (2000 + ofDigits year, ofDigits month)
  | _ => none

section Parser

variable (calendar : TradingCalendar) (rounds : ℕ)

def weeklyExpiry (symbol name : String) : Except Halt (Option String) :=
  match (searchFirst weeklyPattern name).or (searchFirst weeklyPattern symbol) with
  | none => .ok none
  | some (year, month, week) =>
    attempt? (calculateKrxWeeklyOptionExpiry calendar rounds (2000 + year) month week)

def monthlyExpiry (name : String) : Except Halt (Option String) :=
  match searchFirst monthPattern name with
  | none => .ok none
  | some (year, month) =>
    if 1 ≤ month ∧ month ≤ 12 then
      attempt? (calculateKrxMonthlyOptionExpiry calendar rounds year month)
    else .ok none

def calculateExpiry (symbol name : String) : Except Halt (Option String) := do
  match ← weeklyExpiry calendar rounds symbol name with
  | some expiry => return some expiry
  | none => monthlyExpiry calendar rounds name

/-- `Infinity`, `inf`, `NaN` and `sNaN` with digits behind it, in any case. -/
def parseSpecial? (cs : List Char) : Option Strike :=
  let (negative, cs) := match cs with
    | '+' :: cs => (false, cs)
    | '-' :: cs => (true, cs)
    | cs => (false, cs)
  let word := cs.map Char.toLower
  let payload := if word.head? = some 's' then word.tail else word
  if word = "inf".toList ∨ word = "infinity".toList then some (.infinity negative)
  else if payload.take 3 = "nan".toList ∧ (payload.drop 3).all fun c => (digitValue? c).isSome then
    some (.nan 0)
  else none

/-- The number is in the range in which `Decimal` keeps a text exactly. -/
def isExact (d : Decimal) : Bool :=
  d.exponent + (Nat.toDigits 10 d.coefficient).length - 1 ≤ 999999999999999999 ∧
    -1999999999999999997 ≤ d.exponent

/-- `Decimal(raw)`, or nothing where it raises. -/
def readDecimal (raw : String) : Option Strike :=
  match parseDecimal raw with
  | some d => if isExact d then some (.finite d.value) else none
  | none => parseSpecial? ((stripList raw.toList).filter (· ≠ '_'))

def parseStrike (rawAcpr : String) : Except Halt (Option Strike) :=
  match readDecimal (strip rawAcpr) with
  | none => .ok none
  | some (.finite value) => .ok (if 0 < value then some (.finite value) else none)
  | some (.infinity negative) => .ok (if negative then none else some (.infinity false))
  | some (.nan _) => raise "InvalidOperation" "[<class 'decimal.InvalidOperation'>]"

/-- What one line lists: nothing when it is passed over. -/
def parseLine (line : String) : Except Halt (Option KisOptionContractIdentity) :=
  if '|' ∉ line.toList then .ok none
  else
    match (splitOn '|' line).map strip with
    | prodType :: symbol :: standardCode :: name :: rest =>
      if isOptionRecord prodType symbol name then do
        match ← calculateExpiry calendar rounds symbol name with
        | none => return none
        | some expiry =>
          if symbol = "" ∨ expiry = "" then return none
          else
            let strike ← rest[1]?.elim (.ok none) parseStrike
            return some
              { shrnIscd := symbol
                stndIscd := if standardCode = "" then none else some standardCode
                expiry
                optionType := kisInfoTypeToOptionType prodType
                strike
                infoType := if prodType = "" then none else some prodType }
      else .ok none
    | _ => .ok none

/-! ## The whole file -/

/-- What the loop does with the contract of a line. -/
def KisOptionMasterParseResult.add (result : KisOptionMasterParseResult)
    (identity : KisOptionContractIdentity) : Except Halt KisOptionMasterParseResult :=
  let legacy := result.legacyContracts.setAll identity.codes identity.expiry
  if (result.identities.get? identity.shrnIscd).any (· ≠ identity) then
    raise "KisMasterParseError"
      ("Conflicting KIS identity for shrn_iscd '" ++ identity.shrnIscd ++ "'.")
  else .ok ⟨legacy, result.identities.set identity.shrnIscd identity⟩

def KisOptionMasterParseResult.addLine (result : KisOptionMasterParseResult) (line : String) :
    Except Halt KisOptionMasterParseResult := do
  match ← parseLine calendar rounds line with
  | none => return result
  | some identity => result.add identity

def parseKisFoIdxMstResult (rawContent : String) : Except Halt KisOptionMasterParseResult :=
  if strip rawContent = "" then .ok ⟨.empty, .empty⟩
  else (splitLines rawContent).foldlM (·.addLine calendar rounds ·) ⟨.empty, .empty⟩

/-! ## What a file holds -/

/-- One of the lines lists the contract. -/
def Lists (lines : List String) (identity : KisOptionContractIdentity) : Prop :=
  ∃ line ∈ lines, parseLine calendar rounds line = .ok (some identity)

/-- The dictionaries hold the listed contracts and nothing else. Of contracts that share a code one
has its expiry under it. -/
structure ParsedFrom (listed : KisOptionContractIdentity → Prop)
    (result : KisOptionMasterParseResult) : Prop where
  identity_of_listed : ∀ identity, listed identity →
    result.identities.get? identity.shrnIscd = some identity
  listed_of_identity : ∀ key identity, result.identities.get? key = some identity →
    listed identity
  expiry_of_listed : ∀ identity, listed identity → ∀ code ∈ identity.codes,
    ∃ expiry, result.legacyContracts.get? code = some expiry
  listed_of_expiry : ∀ code expiry, result.legacyContracts.get? code = some expiry →
    ∃ identity, listed identity ∧ code ∈ identity.codes ∧ identity.expiry = expiry

variable {calendar rounds} {listed : KisOptionContractIdentity → Prop}
  {result next : KisOptionMasterParseResult} {identity : KisOptionContractIdentity}

theorem ParsedFrom.add (parsed : ParsedFrom listed result)
    (added : result.add identity = .ok next) :
    ParsedFrom (fun i => listed i ∨ i = identity) next := by
  obtain ⟨agreed, same⟩ := ite_error_eq_ok.mp added
  obtain rfl := Except.ok.inj same
  have expiries (code : String) := result.legacyContracts.get?_setAll identity.codes
    identity.expiry code
  constructor
  case identity_of_listed =>
    rintro i (old | rfl)
    · have found := parsed.identity_of_listed i old
      rw [Dict.get?_set]
      split
      next same =>
        rw [← same, found] at agreed
        simp only [Option.any_some, decide_eq_true_eq, not_not] at agreed
        rw [agreed]
      next => exact found
    · exact Dict.get?_set_self ..
  case listed_of_identity =>
    exact Dict.forall_get?_set (fun k i found => .inl (parsed.listed_of_identity k i found))
      (.inr rfl)
  case expiry_of_listed =>
    rintro i old code member
    rw [expiries]
    split
    next => exact ⟨_, rfl⟩
    next apart =>
      rcases old with old | rfl
      exacts [parsed.expiry_of_listed i old code member, absurd member apart]
  case listed_of_expiry =>
    intro code expiry found
    rw [expiries] at found
    split at found
    next member => exact ⟨identity, .inr rfl, member, Option.some.inj found⟩
    next =>
      obtain ⟨i, old, member, same⟩ := parsed.listed_of_expiry code expiry found
      exact ⟨i, .inl old, member, same⟩

theorem ParsedFrom.congr {listed' : KisOptionContractIdentity → Prop}
    (parsed : ParsedFrom listed result) (same : ∀ i, listed i ↔ listed' i) :
    ParsedFrom listed' result := by
  obtain rfl : listed = listed' := funext fun i => propext (same i)
  exact parsed

theorem parsedFrom_foldlM {lines : List String}
    (returned : lines.foldlM (·.addLine calendar rounds ·)
      (⟨.empty, .empty⟩ : KisOptionMasterParseResult) = .ok result) :
    ParsedFrom (Lists calendar rounds lines) result := by
  induction lines using List.reverseRecOn generalizing result with
  | nil =>
    obtain rfl := Except.ok.inj returned
    exact
      { identity_of_listed := by rintro i ⟨line, member, _⟩; cases member
        listed_of_identity := by simp
        expiry_of_listed := by rintro i ⟨line, member, _⟩; cases member
        listed_of_expiry := by simp }
  | append_singleton lines line ih =>
    rw [List.foldlM_append] at returned
    obtain ⟨before, first, returned⟩ := bind_eq_ok.mp returned
    obtain ⟨after, last, same⟩ := bind_eq_ok.mp returned
    obtain rfl := Except.ok.inj same
    obtain ⟨found, parsedLine, last⟩ := bind_eq_ok.mp last
    cases found with
    | none =>
      obtain rfl := Except.ok.inj last
      refine (ih first).congr fun i => ?_
      simp [Lists, or_and_right, exists_or, parsedLine]
    | some identity =>
      refine ((ih first).add last).congr fun i => ?_
      simp [Lists, or_and_right, exists_or, parsedLine, eq_comm]

/-- A blank text lists nothing. -/
theorem not_lists_of_blank {rawContent : String} (blank : strip rawContent = "")
    (identity : KisOptionContractIdentity) :
    ¬Lists calendar rounds (splitLines rawContent) identity := by
  rintro ⟨line, member, parsedLine⟩
  have bar_free : '|' ∉ line.toList := by
    intro bar
    have space := isSpace_of_strip_eq_empty blank (mem_of_mem_splitLines member bar)
    exact absurd space (by decide)
  rw [parseLine, if_pos bar_free] at parsedLine
  cases parsedLine

theorem parsedFrom_of_returned {rawContent : String}
    (returned : parseKisFoIdxMstResult calendar rounds rawContent = .ok result) :
    ParsedFrom (Lists calendar rounds (splitLines rawContent)) result := by
  unfold parseKisFoIdxMstResult at returned
  split at returned
  next blank =>
    obtain rfl := Except.ok.inj returned
    exact
      { identity_of_listed := fun i listed => absurd listed (not_lists_of_blank blank i)
        listed_of_identity := by simp
        expiry_of_listed := fun i listed => absurd listed (not_lists_of_blank blank i)
        listed_of_expiry := by simp }
  next => exact parsedFrom_foldlM returned

theorem isExpiry_of_calculated {symbol name expiry : String}
    (returned : calculateExpiry calendar rounds symbol name = .ok (some expiry)) :
    IsExpiry expiry := by
  have caught {x : Except Halt String} (attempted : attempt? x = .ok (some expiry)) :
      x = .ok expiry := by
    unfold attempt? at attempted
    split at attempted <;> simp_all
  have ofMonthly (monthly : monthlyExpiry calendar rounds name = .ok (some expiry)) :
      IsExpiry expiry := by
    unfold monthlyExpiry at monthly
    split at monthly
    next => simp at monthly
    next =>
      split at monthly
      next => exact isExpiry_of_monthly (caught monthly)
      next => simp at monthly
  obtain ⟨weekly, first, returned⟩ := bind_eq_ok.mp returned
  cases weekly with
  | none => exact ofMonthly returned
  | some found =>
    obtain rfl := Option.some.inj (Except.ok.inj returned)
    unfold weeklyExpiry at first
    split at first
    next => simp at first
    next => exact isExpiry_of_weekly (caught first)

/-- What a line that lists a contract looks like. -/
theorem parseLine_cases {line : String}
    (parsedLine : parseLine calendar rounds line = .ok (some identity)) :
    identity.shrnIscd ≠ "" ∧ ∃ prodType standardCode name rest,
      (splitOn '|' line).map strip = prodType :: identity.shrnIscd :: standardCode :: name :: rest ∧
      calculateExpiry calendar rounds identity.shrnIscd name = .ok (some identity.expiry) ∧
      identity.stndIscd = if standardCode = "" then none else some standardCode := by
  unfold parseLine at parsedLine
  split at parsedLine
  next => simp at parsedLine
  split at parsedLine
  next prodType symbol standardCode name rest parts =>
    split at parsedLine
    next =>
      obtain ⟨calculated?, calculated, parsedLine⟩ := bind_eq_ok.mp parsedLine
      cases calculated? with
      | none => cases parsedLine
      | some expiry =>
        obtain ⟨_, parsedLine⟩ | ⟨filled, parsedLine⟩ := ite_eq_iff.mp parsedLine
        · cases parsedLine
        · obtain ⟨strike, _, same⟩ := bind_eq_ok.mp parsedLine
          obtain rfl := Option.some.inj (Except.ok.inj same)
          exact ⟨(filled <| .inl ·), prodType, standardCode, name, rest, parts, calculated, rfl⟩
    next => simp at parsedLine
  next => simp at parsedLine

/-- The contract a line lists has the text of a date for its expiry, and codes that are stripped. -/
theorem wellFormed_of_parsed {line : String}
    (parsedLine : parseLine calendar rounds line = .ok (some identity)) :
    IsExpiry identity.expiry ∧ ∀ code ∈ identity.codes, strip code = code := by
  obtain ⟨_, prodType, standardCode, name, rest, parts, calculated, standard⟩ :=
    parseLine_cases parsedLine
  have stripped {part : String}
      (member : part ∈ prodType :: identity.shrnIscd :: standardCode :: name :: rest) :
      strip part = part := by
    rw [← parts] at member
    obtain ⟨raw, _, rfl⟩ := List.mem_map.mp member
    exact strip_strip raw
  refine ⟨isExpiry_of_calculated calculated, fun code member => ?_⟩
  rcases List.mem_cons.mp member with rfl | member
  · exact stripped (by simp)
  · have inside := (List.mem_filter.mp member).1
    rw [standard, Option.mem_toList] at inside
    split at inside
    next => cases inside
    next =>
      obtain rfl := Option.some.inj inside
      exact stripped (by simp)

end Parser
end OptionProject.Options
