import Mathlib.Data.Nat.Count
import Mathlib.Data.Prod.Lex
import Mathlib.Order.Monotone.Basic
import OptionProject.Library.Text

/-!
# Calendar dates

The dates of the proleptic Gregorian calendar in the years 1 to 9999, as `datetime.date` has
them: a date that can be built exists in the calendar.

## Main definitions

* `Date`, `Date.of` — dates, and `date(year, month, day)`.
* `Date.weekday` — Monday is 0.
* `Date.dayBefore`, `Date.dayAfter` — one day earlier, one day later.
* `Date.isoText` — the `%Y-%m-%d` text.
* `Date.daysThrough` — how many dates up to a date have a property.

## Main results

* `Date.ordinal_strictMono` — the order of the dates is the order of their ordinals.
* `Date.ordinal_of_dayBefore`, `Date.ordinal_of_dayAfter` — the neighbours of a date.
-/
namespace OptionProject.Library

def isLeap (year : ℕ) : Bool := year % 4 = 0 ∧ (year % 100 ≠ 0 ∨ year % 400 = 0)

def daysInMonth (year month : ℕ) : ℕ :=
  if month = 2 then if isLeap year then 29 else 28
  else if month ∈ [4, 6, 9, 11] then 30 else 31

theorem daysInMonth_ge (year month : ℕ) : 28 ≤ daysInMonth year month := by
  unfold daysInMonth
  split_ifs <;> omega

theorem daysInMonth_pos (year month : ℕ) : 1 ≤ daysInMonth year month :=
  le_trans (by decide) (daysInMonth_ge year month)

/-- The date exists in the calendar. -/
def IsDate (year month day : ℕ) : Prop :=
  1 ≤ year ∧ year ≤ 9999 ∧ 1 ≤ month ∧ month ≤ 12 ∧ 1 ≤ day ∧ day ≤ daysInMonth year month

instance (year month day : ℕ) : Decidable (IsDate year month day) :=
  inferInstanceAs (Decidable (_ ∧ _))

theorem isDate_newYear {year : ℕ} (inside : year < 9999) : IsDate (year + 1) 1 1 :=
  ⟨Nat.le_add_left 1 year, inside, le_rfl, by decide, le_rfl, daysInMonth_pos (year + 1) 1⟩

structure Date where
  year : ℕ
  month : ℕ
  day : ℕ
  valid : IsDate year month day

namespace Date

theorem ext {d d' : Date} (year : d.year = d'.year) (month : d.month = d'.month)
    (day : d.day = d'.day) : d = d' := by
  cases d
  cases d'
  cases year
  cases month
  cases day
  rfl

instance : DecidableEq Date := fun d d' =>
  decidable_of_iff (d.year = d'.year ∧ d.month = d'.month ∧ d.day = d'.day)
    ⟨fun ⟨year, month, day⟩ => ext year month day, by rintro rfl; exact ⟨rfl, rfl, rfl⟩⟩

/-- `date(year, month, day)`, with the message of its `ValueError`. -/
def of (year month day : ℤ) : Except String Date :=
  if year < 1 ∨ 9999 < year then .error ("year " ++ toString year ++ " is out of range")
  else if month < 1 ∨ 12 < month then .error "month must be in 1..12"
  else if valid : IsDate year.toNat month.toNat day.toNat then .ok ⟨_, _, _, valid⟩
  else .error "day is out of range for month"

theorem of_eq_ok {year month day : ℕ} (valid : IsDate year month day) :
    of year month day = .ok ⟨year, month, day, valid⟩ := by
  have bounds := valid
  unfold IsDate at bounds
  unfold of
  rw [if_neg (by omega), if_neg (by omega)]
  exact dif_pos valid

variable (d : Date)

/-- Days from the first day of the year 1, which is day 1. -/
def ordinal : ℕ :=
  let past := d.year - 1
  365 * past + past / 4 - past / 100 + past / 400 +
    (List.range' 1 (d.month - 1)).foldl (fun days month => days + daysInMonth d.year month) 0 +
    d.day

def weekday : ℕ := (d.ordinal + 6) % 7

/-- The first date has no day before it. -/
def dayBefore : Except String Date :=
  if earlier : 1 < d.day then
    .ok ⟨d.year, d.month, d.day - 1, by have := d.valid; unfold IsDate at *; omega⟩
  else if month : 1 < d.month then
    .ok ⟨d.year, d.month - 1, daysInMonth d.year (d.month - 1), by
      have := d.valid
      have := daysInMonth_pos d.year (d.month - 1)
      unfold IsDate at *
      omega⟩
  else if year : 1 < d.year then
    .ok ⟨d.year - 1, 12, 31, by have := d.valid; unfold IsDate at *; simp [daysInMonth]; omega⟩
  else .error "date value out of range"

/-- The last date has no day after it. -/
def dayAfter : Except String Date :=
  if later : d.day < daysInMonth d.year d.month then
    .ok ⟨d.year, d.month, d.day + 1, by have := d.valid; unfold IsDate at *; omega⟩
  else if month : d.month < 12 then
    .ok ⟨d.year, d.month + 1, 1, by
      have := d.valid
      have := daysInMonth_pos d.year (d.month + 1)
      unfold IsDate at *
      omega⟩
  else if year : d.year < 9999 then .ok ⟨d.year + 1, 1, 1, isDate_newYear year⟩
  else .error "date value out of range"

def isoText : String :=
  zeroPadded 4 d.year ++ "-" ++ zeroPadded 2 d.month ++ "-" ++ zeroPadded 2 d.day

example : (of 2026 9 10).map weekday = .ok 3 := by decide +kernel
example : ((of 2024 3 1).bind dayBefore).map isoText = .ok "2024-02-29" := by decide +kernel

theorem isNumeral_isoText : ∀ c ∈ d.isoText.toList, IsNumeral c := by
  intro c mem
  simp only [isoText, String.toList_append, List.mem_append] at mem
  rcases mem with (((year | dash) | month) | dash) | day
  · exact .inl (isDigit_zeroPadded year)
  · exact List.mem_singleton.mp dash ▸ .inr (by decide)
  · exact .inl (isDigit_zeroPadded month)
  · exact List.mem_singleton.mp dash ▸ .inr (by decide)
  · exact .inl (isDigit_zeroPadded day)

@[simp] theorem strip_isoText : strip d.isoText = d.isoText :=
  strip_eq_self
    (fun c first => isSpace_of_isNumeral (d.isNumeral_isoText c (List.mem_of_mem_head? first)))
    fun c last => isSpace_of_isNumeral (d.isNumeral_isoText c (List.mem_of_mem_getLast? last))

theorem isoText_ne_empty : d.isoText ≠ "" := by
  intro empty
  have chars := congrArg String.toList empty
  simp [isoText] at chars

/-! ### The order of the dates -/

/-- Dates are compared by year, then by month, then by day. -/
def key (d : Date) : ℕ ×ₗ ℕ ×ₗ ℕ := toLex (d.year, toLex (d.month, d.day))

theorem key_injective : Function.Injective key := by
  intro d d' same
  simp only [key, toLex_inj, Prod.mk.injEq] at same
  exact ext same.1 same.2.1 same.2.2

instance : LinearOrder Date where
  le d d' := d.key ≤ d'.key
  lt d d' := d.key < d'.key
  le_refl d := le_refl d.key
  le_trans d d' d'' := le_trans (a := d.key)
  lt_iff_le_not_ge d d' := lt_iff_le_not_ge (a := d.key)
  le_antisymm d d' le ge := key_injective (le_antisymm le ge)
  le_total d d' := le_total d.key d'.key
  toDecidableLE d d' := inferInstanceAs (Decidable (d.key ≤ d'.key))
  toDecidableLT d d' := inferInstanceAs (Decidable (d.key < d'.key))
  toDecidableEq := inferInstance

theorem lt_iff {d d' : Date} : d < d' ↔ d.year < d'.year ∨
    d.year = d'.year ∧ (d.month < d'.month ∨ d.month = d'.month ∧ d.day < d'.day) := by
  change d.key < d'.key ↔ _
  simp [key, Prod.Lex.toLex_lt_toLex]

/-- The days of the years before. -/
def daysBeforeYear (year : ℕ) : ℕ :=
  let past := year - 1
  365 * past + past / 4 - past / 100 + past / 400

/-- The days of the year before the month. -/
def daysBeforeMonth (year month : ℕ) : ℕ :=
  (List.range' 1 (month - 1)).foldl (fun days month => days + daysInMonth year month) 0

theorem ordinal_eq : d.ordinal = daysBeforeYear d.year + daysBeforeMonth d.year d.month + d.day :=
  rfl

theorem daysBeforeMonth_succ (year : ℕ) {month : ℕ} (first : 1 ≤ month) :
    daysBeforeMonth year (month + 1) = daysBeforeMonth year month + daysInMonth year month := by
  obtain ⟨before, rfl⟩ := Nat.exists_eq_add_of_le' first
  simp only [daysBeforeMonth, Nat.add_sub_cancel, List.range'_concat, List.foldl_append,
    List.foldl_cons, List.foldl_nil]
  rw [Nat.one_mul, Nat.add_comm 1 before]

theorem daysBeforeMonth_mono (year : ℕ) {month later : ℕ} (first : 1 ≤ month)
    (le : month ≤ later) : daysBeforeMonth year month ≤ daysBeforeMonth year later := by
  induction later, le using Nat.le_induction with
  | base => exact le_rfl
  | succ later le ih => rw [daysBeforeMonth_succ year (first.trans le)]; omega

theorem daysBeforeYear_succ {year : ℕ} (first : 1 ≤ year) :
    daysBeforeYear (year + 1) = daysBeforeYear year + daysBeforeMonth year 13 := by
  have months : daysBeforeMonth year 13 = if isLeap year then 366 else 365 := by
    simp only [daysBeforeMonth, daysInMonth]
    generalize isLeap year = leap
    cases leap <;> decide
  rw [months]
  obtain ⟨past, rfl⟩ := Nat.exists_eq_add_of_le' first
  have centuries : (past + 1) % 100 = 0 → (past + 1) % 4 = 0 := by omega
  have fourth : (past + 1) % 400 = 0 → (past + 1) % 100 = 0 := by omega
  have fewer : past / 100 ≤ past / 4 := Nat.div_le_div_left (by decide) (by decide)
  simp only [daysBeforeYear, isLeap, Nat.add_sub_cancel, decide_eq_true_eq, Nat.succ_div,
    Nat.dvd_iff_mod_eq_zero]
  -- the quotients are atoms, so that every case is linear
  generalize past / 4 = leaps at *
  generalize past / 100 = skipped at *
  split_ifs <;> omega

theorem daysBeforeYear_mono {year later : ℕ} (first : 1 ≤ year) (le : year ≤ later) :
    daysBeforeYear year ≤ daysBeforeYear later := by
  induction later, le using Nat.le_induction with
  | base => exact le_rfl
  | succ later le ih => rw [daysBeforeYear_succ (first.trans le)]; omega

/-- A later date has a larger ordinal. -/
theorem ordinal_strictMono : StrictMono ordinal := by
  intro d d' lt
  have valid := d.valid
  have valid' := d'.valid
  unfold IsDate at valid valid'
  simp only [ordinal_eq]
  have month_end := daysBeforeMonth_succ d.year valid.2.2.1
  rcases lt_iff.mp lt with year | ⟨year, month | ⟨month, day⟩⟩
  · have months : daysBeforeMonth d.year (d.month + 1) ≤ daysBeforeMonth d.year 13 :=
      daysBeforeMonth_mono d.year (Nat.le_add_left 1 _) (Nat.succ_le_succ valid.2.2.2.1)
    have years : daysBeforeYear (d.year + 1) ≤ daysBeforeYear d'.year :=
      daysBeforeYear_mono (Nat.le_add_left 1 _) year
    rw [daysBeforeYear_succ valid.1] at years
    omega
  · have months : daysBeforeMonth d.year (d.month + 1) ≤ daysBeforeMonth d.year d'.month :=
      daysBeforeMonth_mono d.year (Nat.le_add_left 1 _) month
    rw [← year]
    omega
  · rw [← year, ← month]
    omega

variable {d} {d' : Date}

theorem ordinal_of_dayBefore (before : d.dayBefore = .ok d') : d'.ordinal + 1 = d.ordinal := by
  have valid := d.valid
  unfold IsDate at valid
  unfold dayBefore at before
  simp only [ordinal_eq]
  split at before
  next day =>
    cases before
    dsimp only
    omega
  next day =>
    split at before
    next month =>
      cases before
      have months := daysBeforeMonth_succ d.year (Nat.le_sub_one_of_lt month)
      rw [Nat.sub_add_cancel month.le] at months
      dsimp only
      omega
    next month =>
      split at before
      next year =>
        cases before
        have years := daysBeforeYear_succ (Nat.le_sub_one_of_lt year)
        rw [Nat.sub_add_cancel year.le] at years
        have first : d.month = 1 := by omega
        have december : daysBeforeMonth (d.year - 1) 13 = daysBeforeMonth (d.year - 1) 12 + 31 :=
          daysBeforeMonth_succ _ (by decide)
        have january : daysBeforeMonth d.year 1 = 0 := rfl
        rw [first]
        dsimp only
        omega
      next => cases before

theorem ordinal_of_dayAfter (after : d.dayAfter = .ok d') : d'.ordinal = d.ordinal + 1 := by
  have valid := d.valid
  unfold IsDate at valid
  unfold dayAfter at after
  simp only [ordinal_eq]
  split at after
  next day =>
    cases after
    rfl
  next day =>
    split at after
    next month =>
      cases after
      have months := daysBeforeMonth_succ d.year valid.2.2.1
      dsimp only
      omega
    next month =>
      split at after
      next year =>
        cases after
        have years := daysBeforeYear_succ valid.1
        have last : d.month = 12 := by omega
        have december : daysBeforeMonth d.year 13 =
            daysBeforeMonth d.year 12 + daysInMonth d.year 12 :=
          daysBeforeMonth_succ _ (by decide)
        have january : daysBeforeMonth (d.year + 1) 1 = 0 := rfl
        rw [last] at day valid ⊢
        dsimp only
        omega
      next => cases after

/-- A date with a date before it has a day before it. -/
theorem exists_dayBefore (lt : d' < d) : ∃ before, d.dayBefore = .ok before := by
  have valid := d'.valid
  unfold IsDate at valid
  unfold dayBefore
  split
  · exact ⟨_, rfl⟩
  split
  · exact ⟨_, rfl⟩
  split
  · exact ⟨_, rfl⟩
  · rcases lt_iff.mp lt with year | ⟨year, month | ⟨month, day⟩⟩ <;> omega

/-- A date with a date after it has a day after it. -/
theorem exists_dayAfter (lt : d < d') : ∃ after, d.dayAfter = .ok after := by
  have valid := d.valid
  have valid' := d'.valid
  unfold IsDate at valid valid'
  unfold dayAfter
  split
  · exact ⟨_, rfl⟩
  split
  · exact ⟨_, rfl⟩
  split
  · exact ⟨_, rfl⟩
  next day month _ =>
    rcases lt_iff.mp lt with year | ⟨year, later | ⟨same, later⟩⟩
    · omega
    · omega
    · rw [← year, ← same] at valid'
      omega

theorem lt_iff_le_dayBefore {before : Date} (found : d.dayBefore = .ok before) :
    d' < d ↔ d' ≤ before := by
  have ordinals := ordinal_of_dayBefore found
  rw [← ordinal_strictMono.lt_iff_lt, ← ordinal_strictMono.le_iff_le]
  omega

theorem lt_iff_dayAfter_le {after : Date} (found : d.dayAfter = .ok after) :
    d < d' ↔ after ≤ d' := by
  have ordinals := ordinal_of_dayAfter found
  rw [← ordinal_strictMono.lt_iff_lt, ← ordinal_strictMono.le_iff_le]
  omega

theorem lt_of_dayBefore (found : d.dayBefore = .ok d') : d' < d :=
  (lt_iff_le_dayBefore found).mpr le_rfl

instance : WellFoundedLT Date := ordinal_strictMono.wellFoundedLT

/-! ### Counting days -/

open Classical in
/-- How many dates up to `d` have the property. -/
noncomputable def daysThrough (p : Date → Prop) (d : Date) : ℕ :=
  Nat.count (fun n => ∃ e : Date, e.ordinal = n ∧ p e) (d.ordinal + 1)

theorem daysThrough_succ (p : Date → Prop) [Decidable (p d')]
    (next : d'.ordinal = d.ordinal + 1) :
    daysThrough p d' = daysThrough p d + if p d' then 1 else 0 := by
  have counted : (∃ e : Date, e.ordinal = d.ordinal + 1 ∧ p e) ↔ p d' := by
    constructor
    · rintro ⟨e, same, holds⟩
      exact ordinal_strictMono.injective (same.trans next.symm) ▸ holds
    · exact fun holds => ⟨d', next, holds⟩
  unfold daysThrough
  rw [next, Nat.count_succ]
  simp only [counted]

end Date
end OptionProject.Library
