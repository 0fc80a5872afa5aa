import OptionProject.Contracts.Types
import OptionProject.Library.Calendar

/-!
# Expiry dates

The expiry rules of `core/option/option_master.py`. The trading calendar is injected, and a date
it never calls a trading day keeps the search for one going: a search has a number of rounds.

## Main definitions

* `Halt` — what a call that does not return did.
* `TradingCalendar` — the calendar as the rules use it.
* `calculateKrxMonthlyOptionExpiry`, `calculateKrxWeeklyOptionExpiry` — the two rules.
-/
namespace OptionProject.Options
open Library Contracts

/-- A call raised, or it was still running after the rounds it was given. -/
inductive Halt
  | raised (e : PythonException)
  | running

def raise {α : Type} (typeName text : String) : Except Halt α := .error (.raised ⟨typeName, text⟩)

/-- `except Exception`, with nothing in place of a result. -/
def attempt? {α : Type} : Except Halt α → Except Halt (Option α)
  | .ok a => .ok (some a)
  | .error (.raised _) => .ok none
  | .error .running => .error .running

structure TradingCalendar where
  isTradingDay : Date → Except Halt Bool
  prevTradingDay : Date → Except Halt Date

/-- The calendar that knows the weekend only. -/
def TradingCalendar.weekdays : TradingCalendar where
  isTradingDay d := .ok (d.weekday < 5)
  prevTradingDay d := match d.dayBefore with
    | .ok before => .ok before
    | .error text => raise "OverflowError" text

/-- `while not calendar.is_trading_day(d): d = calendar.prev_trading_day(d)`, for so many rounds. -/
def TradingCalendar.lastTradingDay (calendar : TradingCalendar) : ℕ → Date → Except Halt Date
  | 0, _ => .error .running
  | rounds + 1, targetDate => do
    if ← calendar.isTradingDay targetDate then return targetDate
    else calendar.lastTradingDay rounds (← calendar.prevTradingDay targetDate)

def dateOf (year month day : ℤ) : Except Halt Date :=
  match Date.of year month day with
  | .ok d => .ok d
  | .error text => raise "ValueError" text

/-- The day of the month of its first Thursday. -/
def firstThursday (firstDay : Date) : ℤ := 1 + (3 - (firstDay.weekday : ℤ)) % 7

section Rules

variable (calendar : TradingCalendar) (rounds : ℕ)

def calculateKrxMonthlyOptionExpiry (year month : ℤ) : Except Halt String := do
  let firstDay ← dateOf year month 1
  let targetDate ← dateOf year month (firstThursday firstDay + 7)
  return (← calendar.lastTradingDay rounds targetDate).isoText

/-- The number of days of the month. -/
def maxDays (year month : ℤ) : Except Halt ℤ :=
  if month < 12 then do
    let nextMonth ← dateOf year (month + 1) 1
    match nextMonth.dayBefore with
    | .ok last => return last.day
    | .error text => raise "OverflowError" text
  else return 31

def calculateKrxWeeklyOptionExpiry (year month weekNum : ℤ) : Except Halt String := do
  let firstDay ← dateOf year month 1
  let targetDay := firstThursday firstDay + (weekNum - 1) * 7
  let targetDate ← dateOf year month (min targetDay (← maxDays year month))
  return (← calendar.lastTradingDay rounds targetDate).isoText

variable {calendar rounds} {expiry : String}

/-- An expiry is the text of a date. -/
def IsExpiry (expiry : String) : Prop := ∃ d : Date, expiry = d.isoText

theorem IsExpiry.trimmed (valid : IsExpiry expiry) : strip expiry = expiry := by
  obtain ⟨d, rfl⟩ := valid
  exact d.strip_isoText

theorem IsExpiry.ne_empty (valid : IsExpiry expiry) : expiry ≠ "" := by
  obtain ⟨d, rfl⟩ := valid
  exact d.isoText_ne_empty

theorem isExpiry_of_monthly {year month : ℤ}
    (returned : calculateKrxMonthlyOptionExpiry calendar rounds year month = .ok expiry) :
    IsExpiry expiry := by
  obtain ⟨firstDay, _, returned⟩ := bind_eq_ok.mp returned
  obtain ⟨targetDate, _, returned⟩ := bind_eq_ok.mp returned
  obtain ⟨d, _, same⟩ := bind_eq_ok.mp returned
  exact ⟨d, (Except.ok.inj same).symm⟩

theorem isExpiry_of_weekly {year month weekNum : ℤ}
    (returned : calculateKrxWeeklyOptionExpiry calendar rounds year month weekNum = .ok expiry) :
    IsExpiry expiry := by
  obtain ⟨firstDay, _, returned⟩ := bind_eq_ok.mp returned
  obtain ⟨days, _, returned⟩ := bind_eq_ok.mp returned
  obtain ⟨targetDate, _, returned⟩ := bind_eq_ok.mp returned
  obtain ⟨d, _, same⟩ := bind_eq_ok.mp returned
  exact ⟨d, (Except.ok.inj same).symm⟩

end Rules

example : (calculateKrxMonthlyOptionExpiry .weekdays 1 2026 9).toOption = some "2026-09-10" := by
  decide +kernel
example : (calculateKrxWeeklyOptionExpiry .weekdays 2 2026 2 5).toOption = some "2026-02-27" := by
  decide +kernel

end OptionProject.Options
