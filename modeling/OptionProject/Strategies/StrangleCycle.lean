import OptionProject.Library.Machine
import OptionProject.Strategies.Track8

/-!
# Strangles are closed before the next one

Every evaluation of Track 8 leaves the state active exactly when the last strangle that it has
announced is not closed, unless it finds an active strangle of another date: the roll-over drops
that one without a signal.

## Main definitions

* `alternation` — the order of the entry and closing signals.
* `Track8MacroRegimeMonthlyStrangle.Forgets` — the evaluations that break it.

## Main results

* `Track8MacroRegimeMonthlyStrangle.alternates_iff` — the runs along which it is kept.
-/
namespace OptionProject.Strategies
open Library

/-- The monitor of the signals; its state says whether a strangle is open. -/
def alternation (isOpen : Bool) (signal : Track8Signal) : Option Bool :=
  match signal.direction with
  | .buyLimitTranche => if isOpen then none else some true
  | .takeProfitHybridTrailingStop | .flatStrangle => if isOpen then some false else none
  | _ => some isOpen

namespace Track8MacroRegimeMonthlyStrangle

variable {self : Track8MacroRegimeMonthlyStrangle} {data : Track8MarketInput}

/-- A strangle is active that was entered on another date. -/
def Forgets (self : Track8MacroRegimeMonthlyStrangle) (data : Track8MarketInput) : Prop :=
  self.state.isActive = true ∧ self.state.entryDate ≠ some data.dateStr

/-- The date of the entry is kept exactly while the strangle is active. -/
def Dated (strategy : Track8MacroRegimeMonthlyStrangle) : Prop :=
  strategy.state.entryDate.isSome = strategy.state.isActive

/-- Signals that lead from one state to another: the monitor accepts them, and the date of the
entry goes with the strangle. -/
structure Leads (before : Bool) (result : List Track8Signal × Track8MacroRegimeMonthlyStrangle) :
    Prop where
  signals : Machine.run alternation before result.1 = some result.2.state.isActive
  dated : result.2.Dated

theorem Leads.append {before : Bool}
    {first second : List Track8Signal × Track8MacroRegimeMonthlyStrangle}
    (leads : Leads before first) (leads' : Leads first.2.state.isActive second) :
    Leads before (first.1 ++ second.1, second.2) := by
  refine ⟨?_, leads'.dated⟩
  rw [Machine.run_append, leads.signals]
  exact leads'.signals

/-! ## Evaluators -/

theorem rollOver_of_forgets (dated : self.Dated) (forgets : self.Forgets data) :
    self.rollOver data = self.reset := by
  unfold rollOver
  rw [if_pos ⟨dated.trans forgets.1, forgets.2⟩]

theorem rollOver_of_not_forgets (dated : self.Dated) (keeps : ¬self.Forgets data) :
    self.rollOver data = self := by
  unfold rollOver
  rw [if_neg]
  rintro ⟨entered, other⟩
  exact keeps ⟨dated.symm.trans entered, other⟩

theorem enter_leads (dated : self.Dated) (data : Track8MarketInput) :
    Leads self.state.isActive (self.enter data) := by
  unfold enter
  split
  · exact ⟨rfl, dated⟩
  next idle =>
    rw [Bool.not_eq_true] at idle
    split
    · exact ⟨rfl, dated⟩
    generalize (if data.currentRegime = "HIGH_VOL" then (2 : ℚ) else 1.5) = skewRatio
    dsimp only
    split
    · exact ⟨rfl, dated⟩
    · rw [idle]
      exact ⟨rfl, rfl⟩

theorem evaluateTakeProfit_leads (dated : self.Dated) (data : Track8MarketInput) :
    Leads self.state.isActive (self.evaluateTakeProfit data) := by
  unfold evaluateTakeProfit
  split
  · exact ⟨rfl, dated⟩
  next active =>
    simp only [Bool.not_eq_true', Bool.not_eq_false] at active
    dsimp only
    split
    · exact ⟨rfl, dated⟩
    split
    · rw [active]
      exact ⟨rfl, rfl⟩
    split
    · exact ⟨rfl, dated⟩
    · exact ⟨rfl, dated⟩

theorem evaluateProfitRebuild_leads (dated : self.Dated) (data : Track8MarketInput) :
    Leads self.state.isActive (self.evaluateProfitRebuild data) := by
  unfold evaluateProfitRebuild
  split
  · exact ⟨rfl, dated⟩
  next active =>
    simp only [Bool.not_eq_true', Bool.not_eq_false] at active
    split
    · exact ⟨rfl, dated⟩
    dsimp only
    split
    · exact ⟨rfl, dated⟩
    · rw [active]
      exact ⟨rfl, dated.trans active⟩

theorem evaluateExpiryCutoff_leads (dated : self.Dated) (data : Track8MarketInput) :
    Leads self.state.isActive (self.evaluateExpiryCutoff data) := by
  unfold evaluateExpiryCutoff
  split
  · exact ⟨rfl, dated⟩
  next active =>
    simp only [Bool.not_eq_true', Bool.not_eq_false] at active
    split
    · exact ⟨rfl, dated⟩
    split
    · exact ⟨rfl, dated⟩
    split
    · exact ⟨rfl, dated⟩
    split
    · exact ⟨rfl, dated⟩
    · rw [active]
      exact ⟨rfl, rfl⟩

theorem evaluateMacroRegimeProtection_leads (dated : self.Dated) (data : Track8MarketInput) :
    Leads self.state.isActive (evaluateMacroRegimeProtection data, self) := by
  unfold evaluateMacroRegimeProtection
  split <;> exact ⟨rfl, dated⟩

theorem evaluateInput_leads (dated : (self.rollOver data).Dated) :
    Leads (self.rollOver data).state.isActive (self.evaluateInput data) := by
  have entry := enter_leads dated data
  have protection := evaluateMacroRegimeProtection_leads entry.dated data
  have takeProfit := evaluateTakeProfit_leads entry.dated data
  have rebuild := evaluateProfitRebuild_leads takeProfit.dated data
  have cutoff := evaluateExpiryCutoff_leads rebuild.dated data
  exact (((entry.append protection).append takeProfit).append rebuild).append cutoff

theorem dated_rollOver (dated : self.Dated) : (self.rollOver data).Dated := by
  unfold rollOver
  split
  · rfl
  · exact dated

/-! ## Runs -/

/-- The strategy with the signals returned so far. -/
def step (now : Track8MacroRegimeMonthlyStrangle × List Track8Signal) (data : Track8MarketInput) :
    Option (Track8MacroRegimeMonthlyStrangle × List Track8Signal) :=
  let result := now.1.evaluateInput data
  some (result.2, now.2 ++ result.1)

/-- The entry and closing signals so far alternate, starting with an entry, and the state is
active exactly after an entry. -/
def Alternates (now : Track8MacroRegimeMonthlyStrangle × List Track8Signal) : Prop :=
  Machine.run alternation false now.2 = some now.1.state.isActive

theorem alternation_injective (a b : Bool) (signal : Track8Signal) (c : Bool)
    (one : alternation a signal = some c) (other : alternation b signal = some c) : a = b := by
  obtain ⟨direction, confidence, reason⟩ := signal
  cases direction <;> cases a <;> cases b <;> simp_all [alternation]

theorem evaluateInput_alternates (dated : self.Dated) :
    Machine.run alternation self.state.isActive (self.evaluateInput data).1 =
      some (self.evaluateInput data).2.state.isActive ↔ ¬self.Forgets data := by
  have leads : Leads (self.rollOver data).state.isActive (self.evaluateInput data) :=
    evaluateInput_leads (dated_rollOver dated)
  rw [Machine.leads_iff alternation alternation_injective leads.signals]
  by_cases forgets : self.Forgets data
  · rw [rollOver_of_forgets dated forgets, forgets.1]
    exact iff_of_false Bool.false_ne_true (not_not_intro forgets)
  · rw [rollOver_of_not_forgets dated forgets]
    exact iff_of_true rfl forgets

/-- A run has entry and closing signals by turns, and never drops an active strangle without a
closing signal, exactly when no evaluation of it finds an active strangle of another date. -/
theorem alternates_iff (initial : Track8MacroRegimeMonthlyStrangle)
    (inputs : List Track8MarketInput) :
    (∀ now, Machine.Visits step (initial.reset, []) inputs now → Alternates now) ↔
      ∀ now data, Machine.Takes step (initial.reset, []) inputs now data →
        ¬now.1.Forgets data := by
  have dated : initial.reset.Dated := rfl
  exact Machine.follows_iff evaluateInput alternation (fun self => self.state.isActive) dated
    (fun self data dated => (evaluateInput_leads (dated_rollOver dated)).dated)
    fun self data dated => evaluateInput_alternates dated

/-- Twenty days before the expiry, in a normal regime. -/
def monthly (budget : ℚ) (dateStr : String) : Track8MarketInput where
  dte := 20
  budget := budget
  currentPrice := 350
  currentRegime := "NORMAL"
  dateStr := dateStr

/-- On the next date a strangle is entered over the one that is held, or it is just dropped. -/
theorem strangle_forgotten_overnight :
    let run (budget : ℚ) :=
      Machine.run step ({}, []) [monthly 1000000 "2026-09-04", monthly budget "2026-09-07"]
    let directions (budget : ℚ) := (run budget).map fun now => now.2.map (·.direction)
    directions 1000000 = some [.buyLimitTranche, .buyLimitTranche] ∧
      (run 1000000).bind (fun now => Machine.run alternation false now.2) = none ∧
      directions 0 = some [.buyLimitTranche] ∧
      (run 0).map (fun now => now.1.state.isActive) = some false := by
  decide +kernel

end Track8MacroRegimeMonthlyStrangle
end OptionProject.Strategies
