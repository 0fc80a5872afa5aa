import Mathlib.Data.List.DropRight
import Mathlib.Data.List.Infix
import Mathlib.Data.Rat.Defs
import Mathlib.Algebra.Order.Ring.Rat

/-!
# Text as Python reads it

Stripping, decimal digits, integer literals and decimal literals with the behaviour
of `str.strip`, `str.isdigit`, `int(text)` and `decimal.Decimal(text)`, and the text
that `str` gives back for a decimal.

## Main definitions

* `strip` — both ends without Unicode whitespace.
* `parseInt` — `int(text)`.
* `quoted` — `repr(text)`.
* `splitLines`, `splitOn`, `searchFirst` — lines, parts and the first match of a pattern.
* `Decimal`, `parseDecimal`, `Decimal.value`, `Decimal.text` — `Decimal(text)` for the
  texts of finite numbers, its exact value, and its `str`.
-/
namespace OptionProject.Library

/-! ## Whitespace -/

/-- The characters `str.isspace` accepts. -/
def isSpace (c : Char) : Bool :=
  c.toNat ∈ [0x9, 0xa, 0xb, 0xc, 0xd, 0x1c, 0x1d, 0x1e, 0x1f, 0x20, 0x85, 0xa0, 0x1680,
    0x2000, 0x2001, 0x2002, 0x2003, 0x2004, 0x2005, 0x2006, 0x2007, 0x2008, 0x2009, 0x200a,
    0x2028, 0x2029, 0x202f, 0x205f, 0x3000]

def stripList (cs : List Char) : List Char := (cs.rdropWhile isSpace).dropWhile isSpace

def strip (s : String) : String := String.ofList (stripList s.toList)

theorem stripList_idem (cs : List Char) : stripList (stripList cs) = stripList cs := by
  unfold stripList
  set kept := (cs.rdropWhile isSpace).dropWhile isSpace with hkept
  have last : kept.rdropWhile isSpace = kept := by
    rw [List.rdropWhile_eq_self_iff]
    intro nonempty
    have whole : cs.rdropWhile isSpace ≠ [] := by
      intro none_left
      simp [hkept, none_left] at nonempty
    have suffix : kept <:+ cs.rdropWhile isSpace := List.dropWhile_suffix _
    obtain ⟨front, split⟩ := suffix
    have same : kept.getLast nonempty = (cs.rdropWhile isSpace).getLast whole := by
      simp [← split, List.getLast_append_of_ne_nil _ nonempty]
    rw [same]
    exact List.rdropWhile_last_not isSpace cs whole
  rw [last, hkept, List.dropWhile_idempotent]

@[simp] theorem strip_strip (s : String) : strip (strip s) = strip s := by
  simp [strip, stripList_idem]

/-- Stripping keeps a text that neither starts nor ends with whitespace. -/
theorem strip_eq_self {s : String} (front : ∀ c ∈ s.toList.head?, isSpace c = false)
    (back : ∀ c ∈ s.toList.getLast?, isSpace c = false) : strip s = s := by
  have right : s.toList.rdropWhile isSpace = s.toList := by
    rw [List.rdropWhile_eq_self_iff]
    intro nonempty
    simp [back _ (List.getLast?_eq_some_getLast nonempty)]
  have left : s.toList.dropWhile isSpace = s.toList := by
    cases chars : s.toList with
    | nil => rfl
    | cons c rest =>
      rw [chars] at front
      simp [front c rfl]
  rw [strip, stripList, right, left, String.ofList_toList]

/-! ## Digits -/

/-- The code points of the zeros of the decimal digit ranges (category `Nd`). -/
def decimalZeros : List ℕ :=
  [0x30, 0x660, 0x6f0, 0x7c0, 0x966, 0x9e6, 0xa66, 0xae6, 0xb66, 0xbe6, 0xc66, 0xce6, 0xd66,
    0xde6, 0xe50, 0xed0, 0xf20, 0x1040, 0x1090, 0x17e0, 0x1810, 0x1946, 0x19d0, 0x1a80, 0x1a90,
    0x1b50, 0x1bb0, 0x1c40, 0x1c50, 0xa620, 0xa8d0, 0xa900, 0xa9d0, 0xa9f0, 0xaa50, 0xabf0,
    0xff10, 0x104a0, 0x10d30, 0x11066, 0x110f0, 0x11136, 0x111d0, 0x112f0, 0x11450, 0x114d0,
    0x11650, 0x116c0, 0x11730, 0x118e0, 0x11950, 0x11c50, 0x11d50, 0x11da0, 0x16a60, 0x16ac0,
    0x16b50, 0x1d7ce, 0x1d7d8, 0x1d7e2, 0x1d7ec, 0x1d7f6, 0x1e140, 0x1e2f0, 0x1e950, 0x1fbf0]

def digitValue? (c : Char) : Option ℕ :=
  (decimalZeros.find? fun start => start ≤ c.toNat ∧ c.toNat < start + 10).map (c.toNat - ·)

/-- The digits outside `Nd` that `str.isdigit` also accepts, as inclusive ranges. -/
def otherDigitRanges : List (ℕ × ℕ) :=
  [(0xb2, 0xb3), (0xb9, 0xb9), (0x1369, 0x1371), (0x19da, 0x19da), (0x2070, 0x2070),
    (0x2074, 0x2079), (0x2080, 0x2089), (0x2460, 0x2468), (0x2474, 0x247c), (0x2488, 0x2490),
    (0x24ea, 0x24ea), (0x24f5, 0x24fd), (0x24ff, 0x24ff), (0x2776, 0x277e), (0x2780, 0x2788),
    (0x278a, 0x2792), (0x10a40, 0x10a43), (0x10e60, 0x10e68), (0x11052, 0x1105a),
    (0x1f100, 0x1f10a)]

def isDigit (s : String) : Bool :=
  !s.toList.isEmpty && s.toList.all fun c => (digitValue? c).isSome ||
    otherDigitRanges.any fun range => range.1 ≤ c.toNat && c.toNat ≤ range.2

def ofDigits (digits : List ℕ) : ℕ := digits.foldl (fun n digit => 10 * n + digit) 0

/-! ## Integer literals -/

/-- Decimal digits with single underscores between them. -/
def literalDigits? : List Char → Option (List ℕ)
  | [] => none
  | [c] => (digitValue? c).map ([·])
  | c :: '_' :: rest => do return (← digitValue? c) :: (← literalDigits? rest)
  | c :: rest => do return (← digitValue? c) :: (← literalDigits? rest)

/-- The largest number of digits that `int` converts. -/
def maxStrDigits : ℕ := 4300

def parseNat (cs : List Char) : Option ℕ :=
  (literalDigits? cs).bind fun digits =>
    if digits.length ≤ maxStrDigits then some (ofDigits digits) else none

def parseInt (s : String) : Option ℤ :=
  match stripList s.toList with
  | '+' :: cs => (parseNat cs).map Int.ofNat
  | '-' :: cs => (parseNat cs).map fun n => -Int.ofNat n
  | cs => (parseNat cs).map Int.ofNat

example : parseInt " +1_200 " = some 1200 := by decide
example : parseInt "1__0" = none := by decide

/-! ## Decimal literals -/

/-- A finite `decimal.Decimal`: sign, coefficient and exponent as its text fixes them. -/
structure Decimal where
  negative : Bool
  coefficient : ℕ
  exponent : ℤ
  deriving DecidableEq, Repr

/-- The exact value of a decimal. -/
def Decimal.value (d : Decimal) : ℚ :=
  let scaled : ℚ := match d.exponent with
    | .ofNat k => d.coefficient * 10 ^ k
    | .negSucc k => d.coefficient / 10 ^ (k + 1)
  if d.negative then -scaled else scaled

/-- The longest run of decimal digits in front, and what follows it. -/
def takeDigits : List Char → List ℕ × List Char
  | [] => ([], [])
  | c :: rest =>
    match digitValue? c with
    | some digit => (digit :: (takeDigits rest).1, (takeDigits rest).2)
    | none => ([], c :: rest)

def wholeDigits? (cs : List Char) : Option ℕ :=
  match takeDigits cs with
  | ([], _) => none
  | (digits, []) => some (ofDigits digits)
  | _ => none

def parseExponent : List Char → Option ℤ
  | [] => some 0
  | mark :: cs =>
    if mark = 'e' ∨ mark = 'E' then
      match cs with
      | '+' :: digits => (wholeDigits? digits).map Int.ofNat
      | '-' :: digits => (wholeDigits? digits).map fun n => -Int.ofNat n
      | digits => (wholeDigits? digits).map Int.ofNat
    else none

def parseUnsigned (negative : Bool) (cs : List Char) : Option Decimal :=
  let (whole, rest) := takeDigits cs
  let (fraction, rest) := match rest with
    | '.' :: after => takeDigits after
    | _ => ([], rest)
  if whole.isEmpty && fraction.isEmpty then none
  else (parseExponent rest).map fun e =>
    ⟨negative, ofDigits (whole ++ fraction), e - fraction.length⟩

/-- `Decimal(text)` on the texts of finite numbers; `Infinity` and `NaN` have no exact
value and are read as no number here. -/
def parseDecimal (s : String) : Option Decimal :=
  match (stripList s.toList).filter (· ≠ '_') with
  | '+' :: cs => parseUnsigned false cs
  | '-' :: cs => parseUnsigned true cs
  | cs => parseUnsigned false cs

/-- The characters before the exponent mark: the coefficient with its point placed. -/
def Decimal.plain (digits : List Char) (dotPlace : ℤ) : List Char :=
  if dotPlace ≤ 0 then '0' :: '.' :: (List.replicate (-dotPlace).toNat '0' ++ digits)
  else if (digits.length : ℤ) ≤ dotPlace then
    digits ++ List.replicate (dotPlace - digits.length).toNat '0'
  else digits.take dotPlace.toNat ++ '.' :: digits.drop dotPlace.toNat

def Decimal.scientific (shift : ℤ) : List Char :=
  if shift = 0 then []
  else 'E' :: (if 0 < shift then '+' else '-') :: Nat.toDigits 10 shift.natAbs

/-- `str(decimal)`. -/
def Decimal.text (d : Decimal) : String :=
  let digits := Nat.toDigits 10 d.coefficient
  let leftDigits : ℤ := d.exponent + digits.length
  let dotPlace : ℤ := if d.exponent ≤ 0 ∧ -6 < leftDigits then leftDigits else 1
  String.ofList ((if d.negative then ['-'] else []) ++ Decimal.plain digits dotPlace ++
    Decimal.scientific (leftDigits - dotPlace))

example : (parseDecimal " 350.250").map Decimal.text = some "350.250" := by decide
example : (parseDecimal "1e-9").map Decimal.text = some "1E-9" := by decide
example : (parseDecimal "350.25").map Decimal.value = some (1401 / 4) := by decide +kernel

/-! ## Quoted texts -/

/-- What the Unicode tables say of the characters beyond ASCII. -/
class UnicodeTable where
  isPrintable : Char → Bool

/-- Digits with zeros in front, up to a width. -/
def zeroFilled (width : ℕ) (digits : List Char) : List Char :=
  List.replicate (width - digits.length) '0' ++ digits

def hexText (width n : ℕ) : List Char := zeroFilled width (Nat.toDigits 16 n)

/-- One character of a quoted text. -/
def quotedChar [UnicodeTable] (quote c : Char) : List Char :=
  if c = quote ∨ c = '\\' then ['\\', c]
  else if c = '\t' then ['\\', 't']
  else if c = '\n' then ['\\', 'n']
  else if c = '\r' then ['\\', 'r']
  else if c.toNat < 0x20 ∨ c.toNat = 0x7f then ['\\', 'x'] ++ hexText 2 c.toNat
  else if c.toNat < 0x7f ∨ UnicodeTable.isPrintable c then [c]
  else if c.toNat ≤ 0xff then ['\\', 'x'] ++ hexText 2 c.toNat
  else if c.toNat ≤ 0xffff then ['\\', 'u'] ++ hexText 4 c.toNat
  else ['\\', 'U'] ++ hexText 8 c.toNat

/-- `repr(text)`. -/
def quoted [UnicodeTable] (s : String) : String :=
  let cs := s.toList
  let quote := if '\'' ∈ cs ∧ '"' ∉ cs then '"' else '\''
  String.ofList (quote :: cs.flatMap (quotedChar quote) ++ [quote])

/-! ## Lines and patterns -/

/-- The characters `str.splitlines` ends a line at. -/
def isLineBreak (c : Char) : Bool :=
  c.toNat ∈ [0xa, 0xb, 0xc, 0xd, 0x1c, 0x1d, 0x1e, 0x85, 0x2028, 0x2029]

/-- The lines from inside a line on, whose characters so far are given in reverse. -/
def splitLinesFrom (line : List Char) : List Char → List (List Char)
  | [] => if line = [] then [] else [line.reverse]
  | '\r' :: '\n' :: rest => line.reverse :: splitLinesFrom [] rest
  | c :: rest =>
    if isLineBreak c then line.reverse :: splitLinesFrom [] rest
    else splitLinesFrom (c :: line) rest

/-- `text.splitlines()`. -/
def splitLines (s : String) : List String := (splitLinesFrom [] s.toList).map String.ofList

theorem mem_of_mem_splitLinesFrom {line cs found : List Char} {c : Char}
    (member : found ∈ splitLinesFrom line cs) (inside : c ∈ found) : c ∈ line ∨ c ∈ cs := by
  fun_induction splitLinesFrom line cs with
  | case1 => cases member
  | case2 line nonempty =>
    rw [List.mem_singleton.mp member] at inside
    exact .inl (List.mem_reverse.mp inside)
  | case3 line rest ih =>
    rcases List.mem_cons.mp member with rfl | later
    · exact .inl (List.mem_reverse.mp inside)
    · have there := (ih later).resolve_left (by simp)
      exact .inr (List.mem_cons_of_mem _ (List.mem_cons_of_mem _ there))
  | case4 line first rest apart broken ih =>
    rcases List.mem_cons.mp member with rfl | later
    · exact .inl (List.mem_reverse.mp inside)
    · exact .inr (List.mem_cons_of_mem _ ((ih later).resolve_left (by simp)))
  | case5 line first rest apart whole ih =>
    rcases ih member with before | after
    · rcases List.mem_cons.mp before with rfl | before
      exacts [.inr List.mem_cons_self, .inl before]
    · exact .inr (List.mem_cons_of_mem _ after)

/-- The lines have only characters of the text. -/
theorem mem_of_mem_splitLines {s line : String} {c : Char} (member : line ∈ splitLines s)
    (inside : c ∈ line.toList) : c ∈ s.toList := by
  obtain ⟨found, there, rfl⟩ := List.mem_map.mp member
  rw [String.toList_ofList] at inside
  exact (mem_of_mem_splitLinesFrom there inside).resolve_left List.not_mem_nil

theorem isSpace_of_strip_eq_empty {s : String} (blank : strip s = "") {c : Char}
    (mem : c ∈ s.toList) : isSpace c = true := by
  have none_left : stripList s.toList = [] := by simpa [strip] using blank
  rw [stripList, List.dropWhile_eq_nil_iff] at none_left
  have all_dropped : s.toList.rdropWhile isSpace = [] := by
    by_contra nonempty
    exact List.rdropWhile_last_not isSpace _ nonempty
      (none_left _ (List.getLast_mem nonempty))
  exact List.rdropWhile_eq_nil_iff.mp all_dropped c mem

/-- `text.split(separator)`. -/
def splitOn (separator : Char) (s : String) : List String :=
  (s.toList.splitOn separator).map String.ofList

/-- `part in text`. -/
def includes (s part : String) : Bool := part.toList <:+: s.toList

/-- So many decimal digits in front, and what follows them. -/
def fixedDigits? : ℕ → List Char → Option (List ℕ × List Char)
  | 0, cs => some ([], cs)
  | _ + 1, [] => none
  | n + 1, c :: cs => do
    let digit ← digitValue? c
    let (digits, rest) ← fixedDigits? n cs
    return (digit :: digits, rest)

/-- The first match of a pattern, given as a match at the front of a text. -/
def searchFirst {α : Type} (pattern : List Char → Option α) (s : String) : Option α :=
  s.toList.tails.findSome? pattern

example : splitLines "a\r\nb\n\nc\n" = ["a", "b", "", "c"] := by decide +kernel

/-! ## Formatted numbers -/

def roundHalfEven (q : ℚ) : ℤ :=
  let down := q.floor
  if q - down < 1 / 2 then down
  else if 1 / 2 < q - down then down + 1
  else if down % 2 = 0 then down
  else down + 1

/-- Commas between groups of three, from the last digit of a reversed numeral on. -/
def groupReversed : List Char → List Char
  | a :: b :: c :: d :: rest => a :: b :: c :: ',' :: groupReversed (d :: rest)
  | digits => digits

def signText (q : ℚ) : String := if q < 0 then "-" else ""

/-- The `,.0f` format. -/
def amountText (q : ℚ) : String :=
  let digits := Nat.toDigits 10 (roundHalfEven |q|).toNat
  signText q ++ String.ofList (groupReversed digits.reverse).reverse

/-- The `04d` format and its like, of a natural number. -/
def zeroPadded (width n : ℕ) : String := String.ofList (zeroFilled width (Nat.toDigits 10 n))

/-- The `.2f` format. -/
def hundredthsText (q : ℚ) : String :=
  let hundredths := (roundHalfEven (|q| * 100)).toNat
  let places := String.ofList (Nat.toDigits 10 (100 + hundredths % 100)).tail
  signText q ++ toString (hundredths / 100) ++ "." ++ places

/-- The `.2%` format. -/
def percentText (q : ℚ) : String :=
  let hundredths := (roundHalfEven (|q| * 10000)).toNat
  let places := String.ofList (Nat.toDigits 10 (100 + hundredths % 100)).tail
  signText q ++ toString (hundredths / 100) ++ "." ++ places ++ "%"

example : amountText 12345678.5 = "12,345,678" := by decide +kernel
example : percentText (-0.85125) = "-85.12%" := by decide +kernel

/-- The number can be read back. -/
theorem zeroPadded_injective (width : ℕ) : Function.Injective (zeroPadded width) := by
  intro m n same
  have digits := congrArg (fun s => Nat.ofDigitChars 10 s.toList 0) same
  simpa [zeroPadded, zeroFilled, Nat.ofDigitChars_append, Nat.ofDigitChars_replicate_zero]
    using digits

theorem isDigit_zeroPadded {width n : ℕ} {c : Char} (mem : c ∈ (zeroPadded width n).toList) :
    c.isDigit = true := by
  rw [zeroPadded, String.toList_ofList, zeroFilled] at mem
  rcases List.mem_append.mp mem with zero | digit
  · rw [List.eq_of_mem_replicate zero]
    decide
  · exact Nat.isDigit_of_mem_toDigits (by omega) (by omega) digit

/-- The characters a number is written with. -/
def IsNumeral (c : Char) : Prop := c.isDigit = true ∨ c ∈ ['-', '+', '.', 'E']

theorem isNumeral_toDigits {n : ℕ} {c : Char} (mem : c ∈ Nat.toDigits 10 n) : IsNumeral c :=
  .inl (Nat.isDigit_of_mem_toDigits (by omega) (by omega) mem)

theorem isNumeral_plain {digits : List Char} (numeral : ∀ c ∈ digits, IsNumeral c)
    (dotPlace : ℤ) : ∀ c ∈ Decimal.plain digits dotPlace, IsNumeral c := by
  have isZero : IsNumeral '0' := .inl (by decide)
  have isDot : IsNumeral '.' := .inr (by decide)
  intro c mem
  unfold Decimal.plain at mem
  split_ifs at mem
  · simp only [List.mem_cons, List.mem_append, List.mem_replicate] at mem
    rcases mem with rfl | rfl | ⟨_, rfl⟩ | mem
    exacts [isZero, isDot, isZero, numeral c mem]
  · simp only [List.mem_append, List.mem_replicate] at mem
    rcases mem with mem | ⟨_, rfl⟩
    exacts [numeral c mem, isZero]
  · simp only [List.mem_append, List.mem_cons] at mem
    rcases mem with mem | rfl | mem
    exacts [numeral c (List.mem_of_mem_take mem), isDot, numeral c (List.mem_of_mem_drop mem)]

theorem isNumeral_scientific (shift : ℤ) : ∀ c ∈ Decimal.scientific shift, IsNumeral c := by
  intro c mem
  unfold Decimal.scientific at mem
  split_ifs at mem
  · simp at mem
  all_goals
    simp only [List.mem_cons] at mem
    rcases mem with rfl | rfl | mem
    exacts [.inr (by decide), .inr (by decide), isNumeral_toDigits mem]

theorem Decimal.isNumeral_text (d : Decimal) : ∀ c ∈ d.text.toList, IsNumeral c := by
  intro c mem
  simp only [Decimal.text, String.toList_ofList, List.mem_append] at mem
  rcases mem with (sign | mem) | mem
  · split at sign
    next => exact List.mem_singleton.mp sign ▸ .inr (by decide)
    next => simp at sign
  · exact isNumeral_plain (fun _ => isNumeral_toDigits) _ c mem
  · exact isNumeral_scientific _ c mem

theorem isNumeral_intText (n : ℤ) : ∀ c ∈ (toString n).toList, IsNumeral c := by
  intro c mem
  cases n with
  | ofNat n =>
    change c ∈ (Nat.repr n).toList at mem
    exact isNumeral_toDigits (Nat.toList_repr ▸ mem)
  | negSucc n =>
    change c ∈ ("-" ++ Nat.repr (n + 1)).toList at mem
    rw [String.toList_append, Nat.toList_repr] at mem
    rcases List.mem_append.mp mem with sign | digit
    · exact List.mem_singleton.mp sign ▸ .inr (by decide)
    · exact isNumeral_toDigits digit

/-- Only a negative number has a sign. -/
theorem dash_free_intText {n : ℤ} (nonneg : 0 ≤ n) : '-' ∉ (toString n).toList := by
  obtain ⟨n, rfl⟩ := Int.eq_ofNat_of_zero_le nonneg
  intro dash
  change '-' ∈ (Nat.repr n).toList at dash
  rw [Nat.toList_repr] at dash
  exact absurd (Nat.isDigit_of_mem_toDigits (by omega) (by omega) dash) (by decide)

theorem isSpace_of_isNumeral {c : Char} (numeral : IsNumeral c) : isSpace c = false := by
  unfold isSpace
  rcases numeral with digit | sign
  · have bounds : 48 ≤ c.toNat ∧ c.toNat ≤ 57 := Char.isDigit_iff_toNat.mp digit
    simp
    omega
  · simp only [List.mem_cons, List.not_mem_nil, or_false] at sign
    rcases sign with rfl | rfl | rfl | rfl <;> rfl

theorem natText_injective {m n : ℕ} (same : Nat.repr m = Nat.repr n) : m = n := by
  have digits := congrArg (fun s => Nat.ofDigitChars 10 s.toList 0) same
  simpa [Nat.toList_repr] using digits

/-- An integer can be read back from its text. -/
theorem intText_injective {m n : ℤ} (same : toString m = toString n) : m = n := by
  have noSign (k : ℕ) (s : String) : Nat.repr k ≠ "-" ++ s := by
    intro eq
    have sign : '-' ∈ Nat.toDigits 10 k := by
      rw [← Nat.toList_repr, eq, String.toList_append]
      exact List.mem_cons_self
    exact absurd (Nat.isDigit_of_mem_toDigits (by omega) (by omega) sign) (by decide)
  cases m with
  | ofNat m =>
    cases n with
    | ofNat n => exact congrArg Int.ofNat (natText_injective same)
    | negSucc n => exact absurd same (noSign m (Nat.repr (n + 1)))
  | negSucc m =>
    cases n with
    | ofNat n => exact absurd same.symm (noSign n (Nat.repr (m + 1)))
    | negSucc n =>
      have unsigned : Nat.repr (m + 1) = Nat.repr (n + 1) := by
        have chars := congrArg String.toList same
        change ("-" ++ Nat.repr (m + 1)).toList = ("-" ++ Nat.repr (n + 1)).toList at chars
        rw [String.toList_append, String.toList_append] at chars
        exact String.toList_inj.mp (List.append_cancel_left chars)
      have value := natText_injective unsigned
      congr 1
      omega

/-- Two texts joined at a separator are equal when their parts are, or when a part has moved over
the separator. -/
theorem append_separator_eq_iff {sep : Char} {front front' back back' : List Char} :
    front ++ sep :: back = front' ++ sep :: back' ↔ front = front' ∧ back = back' ∨
      ∃ part, front' = front ++ sep :: part ∧ back = part ++ sep :: back' ∨
        front = front' ++ sep :: part ∧ back' = part ++ sep :: back := by
  constructor
  · intro same
    rcases List.append_eq_append_iff.mp same with ⟨more, rfl, eq⟩ | ⟨more, rfl, eq⟩
    · cases more with
      | nil => exact .inl (by simpa using eq)
      | cons c part =>
        obtain ⟨rfl, inside⟩ := List.cons.inj eq
        exact .inr ⟨part, .inl ⟨rfl, inside⟩⟩
    · cases more with
      | nil => exact .inl (by simpa [eq_comm] using eq)
      | cons c part =>
        obtain ⟨rfl, inside⟩ := List.cons.inj eq
        exact .inr ⟨part, .inr ⟨rfl, inside⟩⟩
  · rintro (⟨rfl, rfl⟩ | ⟨part, ⟨rfl, rfl⟩ | ⟨rfl, rfl⟩⟩)
    · rfl
    · simp
    · simp

theorem separator_eq_iff (sep : Char) {mark front front' back back' : String}
    (single : mark.toList = [sep]) :
    front ++ mark ++ back = front' ++ mark ++ back' ↔ front = front' ∧ back = back' ∨
      ∃ part, front' = front ++ mark ++ part ∧ back = part ++ mark ++ back' ∨
        front = front' ++ mark ++ part ∧ back' = part ++ mark ++ back := by
  have joined : front ++ mark ++ back = front' ++ mark ++ back' ↔
      front.toList ++ sep :: back.toList = front'.toList ++ sep :: back'.toList := by
    rw [← String.toList_inj]
    simp [single]
  rw [joined, append_separator_eq_iff, String.toList_inj, String.toList_inj]
  refine or_congr Iff.rfl ⟨?_, ?_⟩
  · rintro ⟨part, moved⟩
    refine ⟨String.ofList part, ?_⟩
    simpa [← String.toList_inj, single] using moved
  · rintro ⟨part, moved⟩
    refine ⟨part.toList, ?_⟩
    simpa [← String.toList_inj, single] using moved

/-- A text is split in one way at the last of its separators. -/
theorem append_separator_inj {sep : Char} {front front' back back' : List Char}
    (free : sep ∉ back) (free' : sep ∉ back')
    (same : front ++ sep :: back = front' ++ sep :: back') : front = front' ∧ back = back' := by
  rcases append_separator_eq_iff.mp same with same | ⟨part, ⟨-, rfl⟩ | ⟨-, rfl⟩⟩
  · exact same
  · simp at free
  · simp at free'

theorem lastSeparator_inj (sep : Char) {mark front front' back back' : String}
    (single : mark.toList = [sep]) (free : sep ∉ back.toList) (free' : sep ∉ back'.toList) :
    front ++ mark ++ back = front' ++ mark ++ back' ↔ front = front' ∧ back = back' := by
  rw [separator_eq_iff sep single, or_iff_left]
  rintro ⟨part, ⟨-, rfl⟩ | ⟨-, rfl⟩⟩
  · simp [single] at free
  · simp [single] at free'

/-- A text is split in one way at the first of its separators. -/
theorem firstSeparator_inj (sep : Char) {mark front front' back back' : String}
    (single : mark.toList = [sep]) (free : sep ∉ front.toList) (free' : sep ∉ front'.toList) :
    front ++ mark ++ back = front' ++ mark ++ back' ↔ front = front' ∧ back = back' := by
  rw [separator_eq_iff sep single, or_iff_left]
  rintro ⟨part, ⟨rfl, -⟩ | ⟨rfl, -⟩⟩
  · simp [single] at free'
  · simp [single] at free

end OptionProject.Library
