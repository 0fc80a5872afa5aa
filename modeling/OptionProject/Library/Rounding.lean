import Mathlib.Data.Int.ConditionallyCompleteOrder
import Mathlib.Data.Int.Log
import Mathlib.Data.Rat.Floor
import Mathlib.Tactic.Linarith
import OptionProject.Library.Text

/-!
# Rounding

Numbers are rounded half-even, to an integer or, as `decimal.Decimal` rounds a quotient, to the
significant digits of a context. The range of the exponents is left out.

## Main definitions

* `significantDigits` — a number, rounded to so many digits.
* `DecimalContext.divide` — division in a context, which may also be exact.

## Main results

* `roundHalfEven_eq_self_iff` — the numbers that rounding keeps.
* `roundHalfEven_mono`, `significantDigits_mono`, `divide_mono` — rounding keeps the order.
-/
namespace OptionProject.Library

/-! ## Integers -/

theorem floor_eq (q : ℚ) : q.floor = ⌊q⌋ := rfl

/-- Rounding goes to one of the two integers around a number. -/
theorem roundHalfEven_cases (q : ℚ) :
    roundHalfEven q = ⌊q⌋ ∧ q - ⌊q⌋ ≤ 1 / 2 ∨ roundHalfEven q = ⌊q⌋ + 1 ∧ 1 / 2 ≤ q - ⌊q⌋ := by
  simp only [roundHalfEven, floor_eq]
  grind

@[simp] theorem roundHalfEven_intCast (n : ℤ) : roundHalfEven n = n := by
  rcases roundHalfEven_cases n with ⟨rounded, -⟩ | ⟨-, far⟩
  · rw [rounded, Int.floor_intCast]
  · rw [Int.floor_intCast] at far
    linarith

/-- Exactly the integers stay as they are. -/
theorem roundHalfEven_eq_self_iff {q : ℚ} : (roundHalfEven q : ℚ) = q ↔ ∃ n : ℤ, q = n := by
  constructor
  · intro same
    exact ⟨roundHalfEven q, same.symm⟩
  · rintro ⟨n, rfl⟩
    rw [roundHalfEven_intCast]

theorem roundHalfEven_nonneg {q : ℚ} (nonneg : 0 ≤ q) : 0 ≤ roundHalfEven q := by
  have floor := Int.floor_nonneg.mpr nonneg
  rcases roundHalfEven_cases q with ⟨rounded, -⟩ | ⟨rounded, -⟩ <;> omega

/-- A half goes down to zero, which is even. -/
theorem roundHalfEven_eq_zero_iff {q : ℚ} (nonneg : 0 ≤ q) : roundHalfEven q = 0 ↔ q ≤ 1 / 2 := by
  have floor : 0 ≤ ⌊q⌋ := Int.floor_nonneg.mpr nonneg
  have below := Int.floor_le q
  constructor
  · intro zero
    rcases roundHalfEven_cases q with ⟨rounded, near⟩ | ⟨rounded, -⟩
    · rw [← rounded, zero] at near
      simpa using near
    · omega
  · intro small
    have down : ⌊q⌋ = 0 := by
      rw [Int.floor_eq_zero_iff]
      exact ⟨nonneg, by linarith⟩
    simp only [roundHalfEven, floor_eq, down]
    grind

theorem roundHalfEven_mono : Monotone roundHalfEven := by
  intro small large le
  rcases (Int.floor_le_floor le).lt_or_eq with below | same
  · rcases roundHalfEven_cases small with ⟨down, -⟩ | ⟨up, -⟩ <;>
      rcases roundHalfEven_cases large with ⟨down', -⟩ | ⟨up', -⟩ <;> omega
  · -- between two integers the larger fraction is rounded up before the smaller one is not
    change small.floor = large.floor at same
    unfold roundHalfEven
    dsimp only
    rw [same]
    split_ifs <;> first | omega | linarith

/-! ## Significant digits -/

/-- The value of the last of so many digits of a positive number. -/
def lastPlace (digits : ℕ) (q : ℚ) : ℚ := 10 ^ (Int.log 10 q + 1 - digits)

/-- A number that is not negative, rounded to so many digits. -/
def roundedDigits (digits : ℕ) (q : ℚ) : ℚ :=
  roundHalfEven (q / lastPlace digits q) * lastPlace digits q

/-- A number, rounded half-even to so many digits. -/
def significantDigits (digits : ℕ) (q : ℚ) : ℚ :=
  if q < 0 then -roundedDigits digits (-q) else roundedDigits digits q

variable {digits : ℕ} {q small large : ℚ}

theorem lastPlace_pos (digits : ℕ) (q : ℚ) : 0 < lastPlace digits q := zpow_pos (by norm_num) _

theorem roundedDigits_nonneg (nonneg : 0 ≤ q) : 0 ≤ roundedDigits digits q := by
  have place := lastPlace_pos digits q
  have rounded : (0 : ℚ) ≤ roundHalfEven (q / lastPlace digits q) := by
    exact_mod_cast roundHalfEven_nonneg (div_nonneg nonneg place.le)
  exact mul_nonneg rounded place.le

/-- The first digit keeps its place, or a power of ten takes the next one. -/
theorem roundedDigits_bounds (some_digits : 0 < digits) (positive : 0 < q) :
    (10 : ℚ) ^ Int.log 10 q ≤ roundedDigits digits q ∧
      roundedDigits digits q ≤ 10 ^ (Int.log 10 q + 1) := by
  have ten : (10 : ℚ) ≠ 0 := by norm_num
  have place := lastPlace_pos digits q
  have shifted (k : ℕ) : (10 : ℚ) ^ (Int.log 10 q + 1 - digits + k) =
      ((10 ^ k : ℤ) : ℚ) * lastPlace digits q := by
    rw [zpow_add₀ ten, lastPlace, zpow_natCast, mul_comm]
    push_cast
    rfl
  have first : (10 : ℚ) ^ Int.log 10 q = ((10 ^ (digits - 1) : ℤ) : ℚ) * lastPlace digits q := by
    rw [← shifted]
    congr 1
    omega
  have next : (10 : ℚ) ^ (Int.log 10 q + 1) = ((10 ^ digits : ℤ) : ℚ) * lastPlace digits q := by
    rw [← shifted]
    congr 1
    omega
  have lower := Int.zpow_log_le_self (b := 10) (by norm_num) positive
  have upper := Int.lt_zpow_succ_log_self (b := 10) (by norm_num) q
  rw [Nat.cast_ofNat] at lower upper
  rw [first, ← le_div_iff₀ place] at lower
  rw [next, ← div_lt_iff₀ place] at upper
  rw [first, next, roundedDigits]
  constructor
  · refine mul_le_mul_of_nonneg_right ?_ place.le
    have kept := roundHalfEven_mono lower
    rw [roundHalfEven_intCast] at kept
    exact_mod_cast kept
  · refine mul_le_mul_of_nonneg_right ?_ place.le
    have kept := roundHalfEven_mono upper.le
    rw [roundHalfEven_intCast] at kept
    exact_mod_cast kept

theorem roundedDigits_mono (some_digits : 0 < digits) (nonneg : 0 ≤ small) (le : small ≤ large) :
    roundedDigits digits small ≤ roundedDigits digits large := by
  rcases nonneg.eq_or_lt with rfl | positive
  · have zero : roundedDigits digits 0 = 0 := by
      have rounded := roundHalfEven_intCast 0
      rw [Int.cast_zero] at rounded
      rw [roundedDigits, zero_div, rounded, Int.cast_zero, zero_mul]
    rw [zero]
    exact roundedDigits_nonneg le
  · rcases (Int.log_mono_right (b := 10) positive le).lt_or_eq with below | same
    · have next : (10 : ℚ) ^ (Int.log 10 small + 1) ≤ 10 ^ Int.log 10 large :=
        zpow_le_zpow_right₀ (by norm_num) below
      exact (roundedDigits_bounds some_digits positive).2.trans
        (next.trans (roundedDigits_bounds some_digits (positive.trans_le le)).1)
    · have place : lastPlace digits small = lastPlace digits large := by
        rw [lastPlace, same, lastPlace]
      rw [roundedDigits, roundedDigits, place]
      refine mul_le_mul_of_nonneg_right ?_ (lastPlace_pos digits large).le
      exact_mod_cast roundHalfEven_mono (div_le_div_of_nonneg_right le (lastPlace_pos _ _).le)

theorem significantDigits_mono (some_digits : 0 < digits) :
    Monotone (significantDigits digits) := by
  intro small large le
  unfold significantDigits
  split_ifs with negative negative'
  · exact neg_le_neg (roundedDigits_mono some_digits (neg_nonneg.mpr negative'.le)
      (neg_le_neg le))
  · exact (neg_nonpos.mpr (roundedDigits_nonneg (neg_nonneg.mpr negative.le))).trans
      (roundedDigits_nonneg (not_lt.mp negative'))
  · exact absurd (le.trans_lt ‹large < 0›) negative
  · exact roundedDigits_mono some_digits (not_lt.mp negative) le

/-! ## Contexts -/

/-- What a quotient is rounded to. -/
inductive DecimalContext
  | exact
  | digits (precision : ℕ) (positive : 0 < precision := by decide)

/-- The context that computations start with. -/
def DecimalContext.standard : DecimalContext := .digits 28

/-- `a / b` in the context. -/
def DecimalContext.divide (context : DecimalContext) (a b : ℚ) : ℚ :=
  match context with
  | .exact => a / b
  | .digits precision _ => significantDigits precision (a / b)

@[simp] theorem DecimalContext.divide_exact (a b : ℚ) :
    DecimalContext.exact.divide a b = a / b := rfl

theorem DecimalContext.divide_mono (context : DecimalContext) {b : ℚ} (positive : 0 < b)
    (le : small ≤ large) : context.divide small b ≤ context.divide large b := by
  have quotients : small / b ≤ large / b := div_le_div_of_nonneg_right le positive.le
  cases context with
  | exact => exact quotients
  | digits precision some_digits => exact significantDigits_mono some_digits quotients

example : DecimalContext.standard.divide 10 6 = 1666666666666666666666666667 / 10 ^ 27 := by
  decide +kernel

end OptionProject.Library
