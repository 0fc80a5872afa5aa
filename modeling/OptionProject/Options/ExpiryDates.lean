import OptionProject.Infrastructure.TradingCalendar

/-!
# What the expiry rules find

With the production calendar a rule ends in the latest trading day that is not after its nominal
date: the second Thursday of the month, or the `n`-th Thursday and at most the last day of the
month. The search stops in its second round, since the calendar looks for the previous trading day
itself.

## Main definitions

* `thursdays` — the Thursdays of a month, counted off on the calendar.
* `FindsLatest` — a calculation ends in the latest trading day.

## Main results

* `expiries_latest` — the two rules.
-/
namespace OptionProject.Options
open Library Contracts Infrastructure
open Infrastructure.ProductionTradingCalendar (IsTradingDay ofHolidays)

/-! ## Thursdays -/

/-- The days of a month that are Thursdays. -/
def thursdays (year month : ℕ) : List ℕ :=
  (List.range' 1 (daysInMonth year month)).filter fun (day : ℕ) =>
    (Date.of year month day).toOption.map Date.weekday = some 3

example : thursdays 2026 9 = [3, 10, 17, 24] := by decide +kernel

theorem filter_range'_mod (first length : ℕ) (first_pos : 1 ≤ first) (first_le : first ≤ 7) :
    (List.range' 1 length).filter (fun day => day % 7 = first % 7) =
      (List.range ((length + 7 - first) / 7)).map fun week => first + 7 * week := by
  induction length with
  | zero =>
    have none_yet : (0 + 7 - first) / 7 = 0 := by omega
    rw [none_yet]
    rfl
  | succ length ih =>
    rw [List.range'_concat, one_mul, List.filter_append, ih]
    by_cases next : (1 + length) % 7 = first % 7
    · have weeks : (length + 1 + 7 - first) / 7 = (length + 7 - first) / 7 + 1 := by omega
      rw [weeks, List.range_succ, List.map_append]
      simp only [next, List.filter_cons, List.filter_nil, decide_true, if_true, List.map_cons,
        List.map_nil]
      congr 2
      omega
    · have weeks : (length + 1 + 7 - first) / 7 = (length + 7 - first) / 7 := by omega
      rw [weeks]
      simp [next]

variable {year month : ℕ}

theorem isDate_day (valid : IsDate year month 1) {day : ℕ} (first : 1 ≤ day)
    (last : day ≤ daysInMonth year month) : IsDate year month day :=
  ⟨valid.1, valid.2.1, valid.2.2.1, valid.2.2.2.1, first, last⟩

/-- The weekdays of a month go on from that of its first day. -/
theorem weekday_day (valid : IsDate year month 1) {day : ℕ} (inside : IsDate year month day) :
    Date.weekday ⟨year, month, day, inside⟩ =
      (Date.weekday ⟨year, month, 1, valid⟩ + (day - 1)) % 7 := by
  have first := inside.2.2.2.2.1
  simp only [Date.weekday, Date.ordinal_eq]
  omega

/-- The first Thursday falls into the first week, and the others follow week by week. -/
theorem thursdays_eq (valid : IsDate year month 1) :
    ∃ first : ℕ, (first : ℤ) = firstThursday ⟨year, month, 1, valid⟩ ∧ 1 ≤ first ∧ first ≤ 7 ∧
      thursdays year month = (List.range ((daysInMonth year month + 7 - first) / 7)).map
        fun week => first + 7 * week := by
  have weekday_lt : Date.weekday ⟨year, month, 1, valid⟩ < 7 := Nat.mod_lt _ (by decide)
  generalize named : Date.weekday ⟨year, month, 1, valid⟩ = weekday at weekday_lt
  refine ⟨(firstThursday ⟨year, month, 1, valid⟩).toNat, ?_⟩
  have nonneg : 0 ≤ firstThursday ⟨year, month, 1, valid⟩ := by
    rw [firstThursday, named]
    omega
  rw [Int.toNat_of_nonneg nonneg, firstThursday, named]
  refine ⟨rfl, by omega, by omega, ?_⟩
  rw [← filter_range'_mod _ _ (by omega) (by omega)]
  refine List.filter_congr fun day member => ?_
  obtain ⟨first, last⟩ := List.mem_range'_1.mp member
  have inside := isDate_day valid first (by omega)
  rw [Date.of_eq_ok inside]
  have same : Date.weekday ⟨year, month, day, inside⟩ = 3 ↔
      day % 7 = (1 + (3 - (weekday : ℤ)) % 7).toNat % 7 := by
    rw [weekday_day valid inside, named]
    omega
  simp only [Except.toOption, Option.map_some, Option.some.injEq, same]

/-- The earlier of the `n`-th Thursday and the last day of the month. -/
theorem thursdays_getD (valid : IsDate year month 1) {n : ℕ} (counts : 1 ≤ n) :
    (((thursdays year month)[n - 1]?.getD (daysInMonth year month) : ℕ) : ℤ) =
      min (firstThursday ⟨year, month, 1, valid⟩ + (n - 1) * 7) (daysInMonth year month) := by
  obtain ⟨first, same, first_pos, first_le, all⟩ := thursdays_eq valid
  rw [all, ← same, List.getElem?_map]
  by_cases inside : n - 1 < (daysInMonth year month + 7 - first) / 7
  · rw [List.getElem?_range inside, Option.map_some, Option.getD_some]
    omega
  · rw [List.getElem?_eq_none (by simpa using inside), Option.map_none, Option.getD_none]
    omega

/-- Every month has a second Thursday. -/
theorem thursdays_second (valid : IsDate year month 1) :
    ∃ day : ℕ, (thursdays year month)[1]? = some day ∧
      (day : ℤ) = firstThursday ⟨year, month, 1, valid⟩ + 7 ∧ IsDate year month day := by
  obtain ⟨first, same, first_pos, first_le, all⟩ := thursdays_eq valid
  have long := daysInMonth_ge year month
  refine ⟨first + 7, ?_, by rw [← same]; rfl, isDate_day valid (by omega) (by omega)⟩
  rw [all, List.getElem?_map, List.getElem?_range (by omega)]
  rfl

/-! ## The search -/

variable {holidays : Set Date} [DecidablePred (· ∈ holidays)]

/-- Two rounds are enough for the production calendar. -/
theorem lastTradingDay_isGreatest {target : Date}
    (some_day : ∃ d ≤ target, IsTradingDay holidays d) :
    ∃ expiry, IsGreatest {d | d ≤ target ∧ IsTradingDay holidays d} expiry ∧
      ∀ rounds, 2 ≤ rounds →
        (ofHolidays holidays).toTradingCalendar.lastTradingDay rounds target = .ok expiry := by
  by_cases trading : IsTradingDay holidays target
  · refine ⟨target, ⟨⟨le_rfl, trading⟩, fun d found => found.1⟩, fun rounds enough => ?_⟩
    obtain ⟨more, rfl⟩ := Nat.exists_eq_add_of_le' enough
    simp [TradingCalendar.lastTradingDay, ProductionTradingCalendar.toTradingCalendar, trading,
      bind, Except.bind, pure, Except.pure]
  · have before (d : Date) (found : IsTradingDay holidays d) : d ≤ target ↔ d < target :=
      ⟨fun le => lt_of_le_of_ne le fun same => trading (same ▸ found), le_of_lt⟩
    obtain ⟨d, le, found⟩ := some_day
    obtain ⟨expiry, previous, greatest⟩ :=
      ProductionTradingCalendar.prevTradingDay_isGreatest ⟨d, (before d found).mp le, found⟩
    have same : {d | d ≤ target ∧ IsTradingDay holidays d} =
        {d | d < target ∧ IsTradingDay holidays d} := by
      ext d
      exact and_congr_left (before d)
    refine ⟨expiry, same ▸ greatest, fun rounds enough => ?_⟩
    obtain ⟨more, rfl⟩ := Nat.exists_eq_add_of_le' enough
    have there := greatest.1.2
    simp [TradingCalendar.lastTradingDay, ProductionTradingCalendar.toTradingCalendar, trading,
      there, previous, bind, Except.bind, pure, Except.pure]

/-! ## The rules -/

/-- If some trading day is not after the nominal date, the calculation ends, and in the latest. -/
def FindsLatest (calculate : ℕ → Except Halt String) (holidays : Set Date) (nominal : Date) :
    Prop :=
  (∃ d ≤ nominal, IsTradingDay holidays d) →
    ∃ expiry, IsGreatest {d | d ≤ nominal ∧ IsTradingDay holidays d} expiry ∧
      ∀ rounds, 2 ≤ rounds → calculate rounds = .ok expiry.isoText

theorem findsLatest_of_searches {calculate : ℕ → Except Halt String} {nominal : Date}
    (searches : ∀ rounds, calculate rounds = do
      return (← (ofHolidays holidays).toTradingCalendar.lastTradingDay rounds nominal).isoText) :
    FindsLatest calculate holidays nominal := by
  intro some_day
  obtain ⟨expiry, greatest, ends⟩ := lastTradingDay_isGreatest some_day
  refine ⟨expiry, greatest, fun rounds enough => ?_⟩
  rw [searches, ends rounds enough]
  rfl

theorem dateOf_eq_ok {day : ℕ} (valid : IsDate year month day) :
    dateOf year month day = .ok ⟨year, month, day, valid⟩ := by
  rw [dateOf, Date.of_eq_ok valid]

theorem firstDay_eq_ok (valid : IsDate year month 1) :
    dateOf year month 1 = .ok ⟨year, month, 1, valid⟩ := by
  exact_mod_cast dateOf_eq_ok valid

theorem maxDays_eq (valid : IsDate year month 1) :
    maxDays year month = .ok (daysInMonth year month) := by
  unfold maxDays
  split
  next before =>
    have next : IsDate year (month + 1) 1 := by
      unfold IsDate at valid ⊢
      have := daysInMonth_pos year (month + 1)
      omega
    have found := firstDay_eq_ok next
    push_cast at found
    have first := valid.2.2.1
    rw [found]
    have inside : 1 < month + 1 := Nat.lt_add_of_pos_left first
    simp [Date.dayBefore, inside, bind, Except.bind, pure, Except.pure]
  next last =>
    have december : month = 12 := by
      unfold IsDate at valid
      omega
    rw [december]
    rfl

theorem monthly_searches (calendar : TradingCalendar) (rounds : ℕ) (valid : IsDate year month 1)
    {nominal : Date} (inYear : nominal.year = year) (inMonth : nominal.month = month)
    (day : (nominal.day : ℤ) = firstThursday ⟨year, month, 1, valid⟩ + 7) :
    calculateKrxMonthlyOptionExpiry calendar rounds year month = do
      return (← calendar.lastTradingDay rounds nominal).isoText := by
  subst inYear inMonth
  simp only [calculateKrxMonthlyOptionExpiry, firstDay_eq_ok valid, ← day,
    dateOf_eq_ok nominal.valid, bind, Except.bind]

theorem weekly_searches (calendar : TradingCalendar) (rounds : ℕ) (valid : IsDate year month 1)
    (n : ℕ) {nominal : Date} (inYear : nominal.year = year) (inMonth : nominal.month = month)
    (day : (nominal.day : ℤ) =
      min (firstThursday ⟨year, month, 1, valid⟩ + (n - 1) * 7) (daysInMonth year month)) :
    calculateKrxWeeklyOptionExpiry calendar rounds year month n = do
      return (← calendar.lastTradingDay rounds nominal).isoText := by
  subst inYear inMonth
  simp only [calculateKrxWeeklyOptionExpiry, firstDay_eq_ok valid, maxDays_eq valid, ← day,
    dateOf_eq_ok nominal.valid, bind, Except.bind]

/-- The monthly rule finds the latest trading day not after the second Thursday of the month, the
weekly rule the latest one not after the earlier of the `n`-th Thursday and the last day. -/
theorem expiries_latest (holidays : Set Date) [DecidablePred (· ∈ holidays)] (year month : ℕ)
    (valid : IsDate year month 1) :
    let calendar := (ofHolidays holidays).toTradingCalendar
    (∃ nominal : Date, nominal.year = year ∧ nominal.month = month ∧
      (thursdays year month)[1]? = some nominal.day ∧
      FindsLatest (calculateKrxMonthlyOptionExpiry calendar · year month) holidays nominal) ∧
    ∀ n : ℕ, 1 ≤ n → ∃ nominal : Date, nominal.year = year ∧ nominal.month = month ∧
      nominal.day = (thursdays year month)[n - 1]?.getD (daysInMonth year month) ∧
      FindsLatest (calculateKrxWeeklyOptionExpiry calendar · year month n) holidays nominal := by
  intro calendar
  constructor
  · obtain ⟨day, second, offset, inside⟩ := thursdays_second valid
    exact ⟨⟨year, month, day, inside⟩, rfl, rfl, second, findsLatest_of_searches fun rounds =>
      monthly_searches calendar rounds valid rfl rfl offset⟩
  · intro n counts
    have day := thursdays_getD valid counts
    have inside : IsDate year month
        ((thursdays year month)[n - 1]?.getD (daysInMonth year month)) := by
      obtain ⟨first, same, first_pos, -⟩ := thursdays_eq valid
      have long := daysInMonth_pos year month
      refine isDate_day valid ?_ ?_ <;> omega
    exact ⟨⟨year, month, _, inside⟩, rfl, rfl, rfl, findsLatest_of_searches fun rounds =>
      weekly_searches calendar rounds valid n rfl rfl day⟩

omit [DecidablePred (· ∈ holidays)] in
/-- The second Thursday of September is a holiday, and the day before it is the expiry. -/
theorem expiries_latest_september :
    let calendar := (ofHolidays {d | d = ⟨2026, 9, 10, by decide⟩}).toTradingCalendar
    calculateKrxMonthlyOptionExpiry calendar 2 2026 9 = .ok "2026-09-09" := by
  let tenth : Date := ⟨2026, 9, 10, by decide⟩
  let ninth : Date := ⟨2026, 9, 9, by decide⟩
  obtain ⟨⟨nominal, inYear, inMonth, second, finds⟩, -⟩ :=
    expiries_latest {d | d = tenth} 2026 9 (by decide)
  have listed : (thursdays 2026 9)[1]? = some 10 := by decide +kernel
  obtain rfl : nominal = tenth :=
    Date.ext inYear inMonth (Option.some.inj (second.symm.trans listed))
  have trades : IsTradingDay {d | d = tenth} ninth := by decide +kernel
  have before : tenth.dayBefore = .ok ninth := rfl
  obtain ⟨expiry, greatest, ends⟩ := finds ⟨ninth, by decide +kernel, trades⟩
  obtain rfl : expiry = ninth := by
    refine greatest.unique ⟨⟨by decide +kernel, trades⟩, fun d found => ?_⟩
    exact (Date.lt_iff_le_dayBefore before).mp (lt_of_le_of_ne found.1 found.2.2)
  have text : ninth.isoText = "2026-09-09" := by decide +kernel
  have found := ends 2 le_rfl
  rw [text] at found
  exact found

end OptionProject.Options
