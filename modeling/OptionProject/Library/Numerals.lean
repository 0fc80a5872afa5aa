import Mathlib.Algebra.Order.Floor.Ring
import Mathlib.Data.Rat.Floor
import Mathlib.Tactic.Linarith
import OptionProject.Library.Rounding
import OptionProject.Library.Text

/-!
# Numbers read back from their texts

The text that is written for an integer is read as this integer. The text with two places that is
written for a rational number is read as the multiple of a hundredth nearest to it.

## Main results

* `parseInt_intText` — integers, up to the number of digits that `int` converts.
* `value_hundredthsText` — the decimal of a text with two places.
-/
namespace OptionProject.Library

/-! ## Digits -/

/-- The values of ASCII digits. -/
def digitValues (cs : List Char) : List ℕ := cs.map fun c => c.toNat - '0'.toNat

theorem digitValue?_of_isDigit {c : Char} (digit : c.isDigit = true) :
    digitValue? c = some (c.toNat - '0'.toNat) := by
  have bounds : 48 ≤ c.toNat ∧ c.toNat ≤ 57 := Char.isDigit_iff_toNat.mp digit
  have first : decide ('0'.toNat ≤ c.toNat ∧ c.toNat < '0'.toNat + 10) = true := by
    rw [decide_eq_true_eq]
    exact ⟨bounds.1, Nat.lt_succ_of_le bounds.2⟩
  have zeros : decimalZeros = '0'.toNat :: decimalZeros.tail := rfl
  rw [digitValue?, zeros, List.find?_cons, first]
  rfl

theorem length_digitValues (cs : List Char) : (digitValues cs).length = cs.length :=
  List.length_map _

theorem digitValues_append (cs ds : List Char) :
    digitValues (cs ++ ds) = digitValues cs ++ digitValues ds := List.map_append

theorem ofDigits_digitValues (cs : List Char) :
    ofDigits (digitValues cs) = Nat.ofDigitChars 10 cs 0 := by
  rw [ofDigits, digitValues, List.foldl_map, Nat.ofDigitChars_eq_foldl]

theorem literalDigits?_of_isDigit {cs : List Char} (nonempty : cs ≠ [])
    (digits : ∀ c ∈ cs, c.isDigit = true) : literalDigits? cs = some (digitValues cs) := by
  fun_induction literalDigits? cs with
  | case1 => exact absurd rfl nonempty
  | case2 c => simp [digitValues, digitValue?_of_isDigit (digits c List.mem_cons_self)]
  | case3 c rest ih => exact absurd (digits '_' (by simp)) (by decide)
  | case4 c rest alone joined ih =>
    have more := ih alone fun c mem => digits c (List.mem_cons_of_mem _ mem)
    simp [digitValues, digitValue?_of_isDigit (digits c List.mem_cons_self), more]

theorem isDigit_toDigits (n : ℕ) : ∀ c ∈ Nat.toDigits 10 n, c.isDigit = true :=
  fun _ mem => Nat.isDigit_of_mem_toDigits (by omega) (by omega) mem

theorem parseNat_toDigits (n : ℕ) : parseNat (Nat.toDigits 10 n) =
    if (Nat.toDigits 10 n).length ≤ maxStrDigits then some n else none := by
  rw [parseNat, literalDigits?_of_isDigit Nat.toDigits_ne_nil (isDigit_toDigits n)]
  simp [ofDigits_digitValues, length_digitValues]

theorem stripList_of_numeral {cs : List Char} (numeral : ∀ c ∈ cs, IsNumeral c) :
    stripList cs = cs := by
  have kept := @strip_eq_self (String.ofList cs) ?_ ?_
  · simpa [strip, String.ofList_inj] using kept
  · intro c front
    rw [String.toList_ofList] at front
    exact isSpace_of_isNumeral (numeral c (List.mem_of_mem_head? front))
  · intro c back
    rw [String.toList_ofList] at back
    exact isSpace_of_isNumeral (numeral c (List.mem_of_mem_getLast? back))

theorem toList_intText_of_nonneg {n : ℤ} (nonneg : 0 ≤ n) :
    (toString n).toList = Nat.toDigits 10 n.toNat := by
  obtain ⟨n, rfl⟩ := Int.eq_ofNat_of_zero_le nonneg
  exact Nat.toList_repr

/-- The text of a number is read as the number, if it is not too long. -/
theorem parseInt_intText {n : ℤ} (nonneg : 0 ≤ n) : parseInt (toString n) =
    if (toString n).length ≤ maxStrDigits then some n else none := by
  have chars := toList_intText_of_nonneg nonneg
  have read := parseNat_toDigits n.toNat
  rw [← String.length_toList, chars]
  rw [parseInt, stripList_of_numeral (isNumeral_intText n), chars]
  have unsigned (sign : Char) (rest : List Char) (apart : sign.isDigit = false) :
      Nat.toDigits 10 n.toNat ≠ sign :: rest := by
    intro same
    have digit := isDigit_toDigits n.toNat sign (by simp [same])
    rw [apart] at digit
    cases digit
  split
  next cs eq => exact absurd eq (unsigned '+' cs (by decide))
  next cs eq => exact absurd eq (unsigned '-' cs (by decide))
  next =>
    rw [read]
    split_ifs <;> simp [nonneg]

/-! ## Decimals with two places -/

theorem takeDigits_append {cs rest : List Char} (digits : ∀ c ∈ cs, c.isDigit = true)
    (stops : ∀ c ∈ rest.head?, digitValue? c = none) :
    takeDigits (cs ++ rest) = (digitValues cs, rest) := by
  induction cs with
  | nil =>
    cases rest with
    | nil => rfl
    | cons c rest => simp [takeDigits, digitValues, stops c rfl]
  | cons c cs ih =>
    have more := ih fun c mem => digits c (List.mem_cons_of_mem _ mem)
    simp [takeDigits, digitValue?_of_isDigit (digits c List.mem_cons_self), more, digitValues]

/-- The two places that are written for so many hundredths. -/
theorem places_eq {n : ℕ} (small : n < 100) :
    (Nat.toDigits 10 (100 + n)).tail = [Nat.digitChar (n / 10), Nat.digitChar (n % 10)] := by
  have tens : (100 + n) / 10 = 10 + n / 10 := by omega
  have ones : (100 + n) % 10 = n % 10 := by omega
  have one : (10 + n / 10) / 10 = 1 := by omega
  have ten : (10 + n / 10) % 10 = n / 10 := by omega
  rw [Nat.toDigits_of_base_le (by omega) (by omega), tens, ones,
    Nat.toDigits_of_base_le (by omega) (by omega), one, ten, Nat.toDigits_of_lt_base (by omega)]
  rfl

theorem toList_hundredthsText {q : ℚ} (nonneg : 0 ≤ q) :
    let hundredths := (roundHalfEven (q * 100)).toNat
    (hundredthsText q).toList = Nat.toDigits 10 (hundredths / 100) ++
      '.' :: [Nat.digitChar (hundredths % 100 / 10), Nat.digitChar (hundredths % 100 % 10)] := by
  intro hundredths
  have places := places_eq (Nat.mod_lt hundredths (by omega : 0 < 100))
  simp only [hundredthsText, abs_of_nonneg nonneg, signText, not_lt.mpr nonneg, if_false]
  change (_ ++ String.ofList (Nat.toDigits 10 (100 + hundredths % 100)).tail).toList = _
  rw [places]
  simp [Nat.toString_eq_repr, hundredths]

theorem digitValue?_dot : digitValue? '.' = none := by decide

/-- Digits with a point between them. -/
theorem parseUnsigned_point (negative : Bool) {whole places : List Char} (nonempty : whole ≠ [])
    (digits : ∀ c ∈ whole, c.isDigit = true) (digits' : ∀ c ∈ places, c.isDigit = true) :
    parseUnsigned negative (whole ++ '.' :: places) =
      some ⟨negative, ofDigits (digitValues (whole ++ places)), -places.length⟩ := by
  have stops : ∀ c ∈ ('.' :: places).head?, digitValue? c = none := by
    simp [digitValue?_dot]
  have back := @takeDigits_append places [] digits' (by simp)
  rw [List.append_nil] at back
  have some_digits : digitValues whole ≠ [] := by
    rwa [digitValues, Ne, List.map_eq_nil_iff]
  simp [parseUnsigned, takeDigits_append digits stops, back, parseExponent, some_digits,
    digitValues_append, length_digitValues]

/-- The two places are kept as the coefficient of a decimal. -/
theorem parseDecimal_hundredthsText {q : ℚ} (nonneg : 0 ≤ q) :
    parseDecimal (hundredthsText q) = some ⟨false, (roundHalfEven (q * 100)).toNat, -2⟩ := by
  have chars := toList_hundredthsText nonneg
  set n := (roundHalfEven (q * 100)).toNat
  set whole := Nat.toDigits 10 (n / 100) with written
  set places := [Nat.digitChar (n % 100 / 10), Nat.digitChar (n % 100 % 10)] with placed
  have wholeDigits : ∀ c ∈ whole, c.isDigit = true := isDigit_toDigits (n / 100)
  have placeDigits : ∀ c ∈ places, c.isDigit = true := by
    intro c mem
    simp only [placed, List.mem_cons, List.not_mem_nil, or_false] at mem
    rcases mem with rfl | rfl <;> simp [Nat.isDigit_digitChar] <;> omega
  have numeral : ∀ c ∈ whole ++ '.' :: places, IsNumeral c := by
    intro c mem
    rcases List.mem_append.mp mem with digit | rest
    · exact .inl (wholeDigits c digit)
    · rcases List.mem_cons.mp rest with rfl | digit
      · exact .inr (by decide)
      · exact .inl (placeDigits c digit)
  have value : ofDigits (digitValues (whole ++ places)) = n := by
    rw [ofDigits_digitValues, Nat.ofDigitChars_append, written,
      Nat.ofDigitChars_ten_toDigits, placed, Nat.ofDigitChars_cons_digitChar_of_lt_ten (by omega),
      Nat.ofDigitChars_cons_digitChar_of_lt_ten (by omega), Nat.ofDigitChars_nil]
    omega
  have plain : (stripList (hundredthsText q).toList).filter (· ≠ '_') = whole ++ '.' :: places := by
    rw [chars, stripList_of_numeral numeral, List.filter_eq_self]
    intro c mem
    rw [decide_eq_true_eq]
    rintro rfl
    exact absurd (numeral '_' mem) (by unfold IsNumeral; decide)
  have unsigned (sign : Char) (rest : List Char) (apart : sign.isDigit = false) :
      whole ++ '.' :: places ≠ sign :: rest := by
    rw [Ne, List.append_eq_cons_iff]
    rintro (⟨none_left, -⟩ | ⟨later, same, -⟩)
    · exact Nat.toDigits_ne_nil none_left
    · exact Bool.false_ne_true (apart.symm.trans (wholeDigits sign (by simp [same])))
  have read : parseUnsigned false (whole ++ '.' :: places) = some ⟨false, n, -2⟩ := by
    rw [parseUnsigned_point false Nat.toDigits_ne_nil wholeDigits placeDigits, value]
    rfl
  rw [parseDecimal, plain]
  split
  next cs eq => exact absurd eq (unsigned '+' cs (by decide))
  next cs eq => exact absurd eq (unsigned '-' cs (by decide))
  next => exact read

/-- What is read back is the nearest multiple of a hundredth. -/
theorem value_hundredthsText {q : ℚ} (nonneg : 0 ≤ q) :
    (parseDecimal (hundredthsText q)).map Decimal.value =
      some ((roundHalfEven (q * 100) : ℚ) / 100) := by
  have rounded := roundHalfEven_nonneg (mul_nonneg nonneg (by norm_num : (0 : ℚ) ≤ 100))
  obtain ⟨n, same⟩ := Int.eq_ofNat_of_zero_le rounded
  rw [parseDecimal_hundredthsText nonneg, same, Option.map_some]
  change some ((n : ℚ) / 10 ^ (1 + 1)) = some ((n : ℚ) / 100)
  norm_num

end OptionProject.Library
