import OptionProject.Options.Expiry

/-!
# The production trading calendar

`infrastructure/kis/trading_calendar.py`. A trading day is a weekday that the holiday provider does
not call a holiday. Its two loops go over the days of the calendar, so they end at its first date
or at the date they count to.

## Main definitions

* `ProductionTradingCalendar` — the calendar, by its provider.
* `ProductionTradingCalendar.prevTradingDay`, `ProductionTradingCalendar.tradingDaysBetween` — the
  loops.

## Main results

* `ProductionTradingCalendar.prevTradingDay_isGreatest` — what the search finds.
* `ProductionTradingCalendar.tradingDaysBetween_eq` — what the loop counts.
* `ProductionTradingCalendar.tradingDaysBetween_additive` — counts of adjacent intervals add up.
-/
namespace OptionProject.Infrastructure
open Library Contracts Options

/-- The protocol of a provider; an answer may raise. -/
structure HolidayProvider where
  isHoliday : Date → Except PythonException Bool

structure ProductionTradingCalendar where
  holidayProvider : HolidayProvider

namespace ProductionTradingCalendar

/-- The provider is not asked about a weekend. -/
def isTradingDay (self : ProductionTradingCalendar) (value : Date) : Except Halt Bool :=
  if value.weekday < 5 then
    match self.holidayProvider.isHoliday value with
    | .ok holiday => .ok !holiday
    | .error e => .error (.raised e)
  else .ok false

/-- The loop of `prev_trading_day`, from the first day it looks at. -/
def searchBack (self : ProductionTradingCalendar) (current : Date) : Except Halt Date := do
  if ← self.isTradingDay current then return current
  else
    match _earlier : current.dayBefore with
    | .ok before => self.searchBack before
    | .error text => raise "OverflowError" text
termination_by current.ordinal
decreasing_by
  have := Date.ordinal_of_dayBefore _earlier
  omega

def prevTradingDay (self : ProductionTradingCalendar) (value : Date) : Except Halt Date :=
  match value.dayBefore with
  | .ok current => self.searchBack current
  | .error text => raise "OverflowError" text

/-- The loop of `trading_days_between`. -/
def countTo (self : ProductionTradingCalendar) (current stop : Date) (count : ℤ) :
    Except Halt ℤ :=
  if current < stop then
    match _later : current.dayAfter with
    | .ok next => do
      if ← self.isTradingDay next then self.countTo next stop (count + 1)
      else self.countTo next stop count
    | .error text => raise "OverflowError" text
  else return count
termination_by stop.ordinal - current.ordinal
decreasing_by all_goals
  have := Date.ordinal_of_dayAfter _later
  have : current.ordinal < stop.ordinal := Date.ordinal_strictMono ‹_›
  omega

def tradingDaysBetween (self : ProductionTradingCalendar) (start stop : Date) : Except Halt ℤ :=
  if start = stop then return 0
  else do
    let sign : ℤ := if start < stop then 1 else -1
    let (current, stop) := if 0 < sign then (start, stop) else (stop, start)
    let count ← self.countTo current stop 0
    return sign * count

/-- The calendar as the expiry rules are given it. -/
def toTradingCalendar (self : ProductionTradingCalendar) : TradingCalendar where
  isTradingDay := self.isTradingDay
  prevTradingDay := self.prevTradingDay

/-! ## Calendars with a set of holidays -/

/-- The provider that knows a set of holidays. -/
def ofHolidays (holidays : Set Date) [DecidablePred (· ∈ holidays)] :
    ProductionTradingCalendar where
  holidayProvider := ⟨fun d => .ok (d ∈ holidays)⟩

def IsTradingDay (holidays : Set Date) (d : Date) : Prop := d.weekday < 5 ∧ d ∉ holidays

section Holidays

variable {holidays : Set Date} [DecidablePred (· ∈ holidays)] {current stop d p : Date}

instance : DecidablePred (IsTradingDay holidays) :=
  fun d => inferInstanceAs (Decidable (d.weekday < 5 ∧ d ∉ holidays))

@[simp] theorem isTradingDay_ofHolidays (d : Date) :
    (ofHolidays holidays).isTradingDay d = .ok (IsTradingDay holidays d) := by
  unfold isTradingDay IsTradingDay ofHolidays
  split
  next weekday => simp [weekday]
  next weekend => simp [weekend]

theorem searchBack_eq (current : Date) :
    (ofHolidays holidays).searchBack current =
      if IsTradingDay holidays current then .ok current
      else match current.dayBefore with
        | .ok before => (ofHolidays holidays).searchBack before
        | .error text => raise "OverflowError" text := by
  rw [searchBack, isTradingDay_ofHolidays]
  by_cases trading : IsTradingDay holidays current
  · simp [trading, bind, Except.bind, pure, Except.pure]
  · simp only [trading, decide_false, bind, Except.bind, Bool.false_eq_true, if_false]
    split
    next earlier => rw [earlier]
    next earlier => rw [earlier]

/-- The search ends in the last trading day that is not after the first day it looks at. -/
theorem searchBack_isGreatest (some_day : ∃ e ≤ current, IsTradingDay holidays e) :
    ∃ p, (ofHolidays holidays).searchBack current = .ok p ∧
      IsGreatest {e | e ≤ current ∧ IsTradingDay holidays e} p := by
  induction current using WellFoundedLT.induction with
  | _ current ih =>
    rw [searchBack_eq]
    by_cases trading : IsTradingDay holidays current
    · exact ⟨current, if_pos trading, ⟨le_rfl, trading⟩, fun e found => found.1⟩
    · obtain ⟨e, le, found⟩ := some_day
      have lt : e < current := lt_of_le_of_ne le fun same => trading (same ▸ found)
      obtain ⟨before, earlier⟩ := Date.exists_dayBefore lt
      obtain ⟨p, ended, greatest⟩ := ih before (Date.lt_of_dayBefore earlier)
        ⟨e, (Date.lt_iff_le_dayBefore earlier).mp lt, found⟩
      have same : {e | e ≤ current ∧ IsTradingDay holidays e} =
          {e | e ≤ before ∧ IsTradingDay holidays e} := by
        ext e
        refine and_congr_left fun found => ?_
        rw [← Date.lt_iff_le_dayBefore earlier]
        exact ⟨fun le => lt_of_le_of_ne le fun same => trading (same ▸ found), le_of_lt⟩
      refine ⟨p, ?_, same ▸ greatest⟩
      rw [if_neg trading, earlier]
      exact ended

/-- The last trading day before a date. -/
theorem prevTradingDay_isGreatest (some_day : ∃ e < d, IsTradingDay holidays e) :
    ∃ p, (ofHolidays holidays).prevTradingDay d = .ok p ∧
      IsGreatest {e | e < d ∧ IsTradingDay holidays e} p := by
  obtain ⟨e, lt, found⟩ := some_day
  obtain ⟨before, earlier⟩ := Date.exists_dayBefore lt
  simp only [prevTradingDay, earlier, Date.lt_iff_le_dayBefore earlier]
  exact searchBack_isGreatest ⟨e, (Date.lt_iff_le_dayBefore earlier).mp lt, found⟩

/-! ## Counts -/

theorem countTo_eq (current stop : Date) (count : ℤ) :
    (ofHolidays holidays).countTo current stop count =
      if current < stop then
        match current.dayAfter with
        | .ok next =>
          (ofHolidays holidays).countTo next stop
            (count + if IsTradingDay holidays next then 1 else 0)
        | .error text => raise "OverflowError" text
      else .ok count := by
  rw [countTo]
  by_cases before : current < stop
  · simp only [before, if_true]
    split
    next next later =>
      rw [later, isTradingDay_ofHolidays]
      by_cases trading : IsTradingDay holidays next <;>
        simp [trading, bind, Except.bind]
    next later => rw [later]
  · simp only [before, if_false]
    rfl

/-- The loop counts the trading days after the first date and up to the last. -/
theorem countTo_eq_ok (le : current ≤ stop) (count : ℤ) :
    (ofHolidays holidays).countTo current stop count =
      .ok (count + (Date.daysThrough (IsTradingDay holidays) stop -
        Date.daysThrough (IsTradingDay holidays) current)) := by
  induction left : stop.ordinal - current.ordinal generalizing current count with
  | zero =>
    have same : current = stop := by
      refine le.antisymm (Date.ordinal_strictMono.le_iff_le.mp ?_)
      omega
    rw [countTo_eq, same, if_neg (lt_irrefl stop), sub_self, add_zero]
  | succ left ih =>
    have lt : current < stop := Date.ordinal_strictMono.lt_iff_lt.mp (by omega)
    obtain ⟨next, later⟩ := Date.exists_dayAfter lt
    have ordinals := Date.ordinal_of_dayAfter later
    rw [countTo_eq, if_pos lt, later]
    dsimp only
    rw [ih ((Date.lt_iff_dayAfter_le later).mp lt) _ (by omega),
      Date.daysThrough_succ (IsTradingDay holidays) ordinals]
    congr 1
    push_cast
    ring

theorem tradingDaysBetween_eq (start stop : Date) :
    (ofHolidays holidays).tradingDaysBetween start stop =
      .ok ((Date.daysThrough (IsTradingDay holidays) stop : ℤ) -
        Date.daysThrough (IsTradingDay holidays) start) := by
  unfold tradingDaysBetween
  rcases lt_trichotomy start stop with lt | same | gt
  · rw [if_neg lt.ne]
    simp only [lt, if_true, zero_lt_one, countTo_eq_ok lt.le, bind, Except.bind, pure, Except.pure]
    rw [zero_add, one_mul]
  · rw [if_pos same, same, sub_self]
    rfl
  · rw [if_neg gt.ne']
    have backwards : ¬(0 : ℤ) < -1 := by decide
    simp only [gt.not_gt, if_false, backwards, countTo_eq_ok gt.le, bind, Except.bind, pure,
      Except.pure]
    rw [zero_add, neg_one_mul, neg_sub]

/-- No trading day lies behind what the search finds. -/
theorem daysThrough_searchBack (found : (ofHolidays holidays).searchBack current = .ok p) :
    Date.daysThrough (IsTradingDay holidays) p =
      Date.daysThrough (IsTradingDay holidays) current := by
  induction current using WellFoundedLT.induction with
  | _ current ih =>
    rw [searchBack_eq] at found
    split at found
    next trading => rw [Except.ok.inj found]
    next idle =>
      split at found
      next before earlier =>
        rw [ih before (Date.lt_of_dayBefore earlier) found,
          Date.daysThrough_succ _ (Date.ordinal_of_dayBefore earlier).symm, if_neg idle, add_zero]
      next => cases found

/-- The counts of adjacent intervals add up in every order of the three dates, an interval turned
round counts negatively, and from the trading day before a date there is the date itself to count
if it is a trading day. -/
theorem tradingDaysBetween_additive (holidays : Set Date) [DecidablePred (· ∈ holidays)] :
    let calendar := ofHolidays holidays
    (∀ a b c, ∃ ab bc, calendar.tradingDaysBetween a b = .ok ab ∧
      calendar.tradingDaysBetween b c = .ok bc ∧
      calendar.tradingDaysBetween a c = .ok (ab + bc) ∧
      calendar.tradingDaysBetween b a = .ok (-ab)) ∧
    ∀ d, (∃ e < d, IsTradingDay holidays e) →
      ∃ p, calendar.prevTradingDay d = .ok p ∧
        calendar.tradingDaysBetween p d = .ok (if IsTradingDay holidays d then 1 else 0) := by
  refine ⟨fun a b c => ?_, fun d some_day => ?_⟩
  · refine ⟨_, _, tradingDaysBetween_eq a b, tradingDaysBetween_eq b c, ?_, ?_⟩
    · rw [tradingDaysBetween_eq]
      congr 1
      ring
    · rw [tradingDaysBetween_eq, neg_sub]
  · obtain ⟨p, found, -⟩ := prevTradingDay_isGreatest some_day
    refine ⟨p, found, ?_⟩
    unfold prevTradingDay at found
    split at found
    next before earlier =>
      have step := Date.daysThrough_succ (IsTradingDay holidays)
        (Date.ordinal_of_dayBefore earlier).symm
      rw [tradingDaysBetween_eq, daysThrough_searchBack found, step]
      congr 1
      push_cast
      ring
    next => cases found

omit [DecidablePred (· ∈ holidays)] in
/-- The second of March is a holiday, and a Friday was the last trading day before the third. -/
theorem tradingDaysBetween_additive_march :
    let third : Date := ⟨2026, 3, 3, by decide⟩
    let calendar := ofHolidays {d | d = ⟨2026, 3, 2, by decide⟩}
    ∃ p, calendar.prevTradingDay third = .ok p ∧
      calendar.tradingDaysBetween p third = .ok 1 := by
  intro third calendar
  have counted := (tradingDaysBetween_additive {d | d = ⟨2026, 3, 2, by decide⟩}).2 third
    ⟨⟨2026, 2, 27, by decide⟩, by decide +kernel, by decide +kernel⟩
  rwa [if_pos (by decide +kernel)] at counted

end Holidays
end ProductionTradingCalendar
end OptionProject.Infrastructure
