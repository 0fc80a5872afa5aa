import Mathlib.Tactic.NormNum
import OptionProject.Library.Machine
import OptionProject.Strategies.Track8

/-!
# The trailing stop of Track 8

The stop is armed by the first value that is high enough, but a later value is compared with it only
if it is high enough again. So an armed stop fires on a value below it exactly when the value still
is a multiple of the premium.

## Main definitions

* `Track8Call` — the calls on the strategy.
* `Track8MacroRegimeMonthlyStrangle.Watched` — an armed stop belongs to an active strangle.
* `Track8MacroRegimeMonthlyStrangle.StopFires` — the strangle is closed by the stop.

## Main results

* `Track8MacroRegimeMonthlyStrangle.armed_stop_fires_iff` — in every state that calls lead to.
-/
namespace OptionProject.Strategies
open Library

inductive Track8Call
  | evaluateEntry (data : Track8MarketInput)
  | evaluateTakeProfit (data : Track8MarketInput)
  | evaluateProfitRebuild (data : Track8MarketInput)
  | evaluateExpiryCutoff (data : Track8MarketInput)
  | evaluateInput (data : Track8MarketInput)
  | reset

namespace Track8MacroRegimeMonthlyStrangle

def call (self : Track8MacroRegimeMonthlyStrangle) : Track8Call → Track8MacroRegimeMonthlyStrangle
  | .evaluateEntry data => (self.evaluateEntry data).2
  | .evaluateTakeProfit data => (self.evaluateTakeProfit data).2
  | .evaluateProfitRebuild data => (self.evaluateProfitRebuild data).2
  | .evaluateExpiryCutoff data => (self.evaluateExpiryCutoff data).2
  | .evaluateInput data => (self.evaluateInput data).2
  | .reset => self.reset

/-- An armed stop belongs to an active strangle. -/
structure Watched (strategy : Track8MacroRegimeMonthlyStrangle) : Prop where
  active : strategy.state.trailingStopActive = true → strategy.state.isActive = true
  high : 0 ≤ strategy.state.highWatermarkIntrinsic

variable {self : Track8MacroRegimeMonthlyStrangle} {data : Track8MarketInput}

/-! ## Values -/

theorem trailingRatio_le_one (high premiumSpent : ℚ) : trailingRatio high premiumSpent ≤ 1 := by
  unfold trailingRatio
  dsimp only
  split
  · norm_num
  split <;> norm_num

/-! ## Calls -/

theorem watched_reset (self : Track8MacroRegimeMonthlyStrangle) : self.reset.Watched :=
  ⟨nofun, le_rfl⟩

theorem Watched.evaluateEntry (watched : self.Watched) : (self.evaluateEntry data).2.Watched := by
  have rolled : (self.rollOver data).Watched := by
    unfold rollOver
    split
    exacts [watched_reset self, watched]
  unfold Track8MacroRegimeMonthlyStrangle.evaluateEntry enter
  split
  · exact rolled
  split
  · exact rolled
  generalize (if data.currentRegime = "HIGH_VOL" then (2 : ℚ) else 1.5) = skewRatio
  dsimp only
  split
  · exact rolled
  · exact ⟨fun _ => rfl, rolled.high⟩

theorem Watched.evaluateTakeProfit (watched : self.Watched) :
    (self.evaluateTakeProfit data).2.Watched := by
  unfold Track8MacroRegimeMonthlyStrangle.evaluateTakeProfit
  split
  · exact watched
  next active =>
    simp only [Bool.not_eq_true', Bool.not_eq_false] at active
    dsimp only
    split
    · exact watched
    split
    · exact watched_reset self
    split <;> exact ⟨fun _ => active, le_max_of_le_left watched.high⟩

theorem Watched.evaluateProfitRebuild (watched : self.Watched) :
    (self.evaluateProfitRebuild data).2.Watched := by
  unfold Track8MacroRegimeMonthlyStrangle.evaluateProfitRebuild
  split
  · exact watched
  split
  · exact watched
  dsimp only
  split
  · exact watched
  · exact ⟨nofun, le_rfl⟩

theorem Watched.evaluateExpiryCutoff (watched : self.Watched) :
    (self.evaluateExpiryCutoff data).2.Watched := by
  unfold Track8MacroRegimeMonthlyStrangle.evaluateExpiryCutoff
  split
  · exact watched
  split
  · exact watched
  split
  · exact watched
  split
  · exact ⟨watched.active, watched.high⟩
  split
  · exact ⟨watched.active, watched.high⟩
  · exact watched_reset self

theorem Watched.call (watched : self.Watched) (call : Track8Call) : (self.call call).Watched := by
  cases call with
  | evaluateEntry data => exact watched.evaluateEntry
  | evaluateTakeProfit data => exact watched.evaluateTakeProfit
  | evaluateProfitRebuild data => exact watched.evaluateProfitRebuild
  | evaluateExpiryCutoff data => exact watched.evaluateExpiryCutoff
  | evaluateInput data =>
    exact watched.evaluateEntry.evaluateTakeProfit.evaluateProfitRebuild.evaluateExpiryCutoff
  | reset => exact watched_reset self

/-! ## The armed stop -/

/-- The value is not above the stop under the highest value. -/
def Fallen (self : Track8MacroRegimeMonthlyStrangle) (data : Track8MarketInput) : Prop :=
  intrinsicValue self.state data.currentPrice ≤ self.state.highWatermarkIntrinsic *
    trailingRatio self.state.highWatermarkIntrinsic self.state.premiumSpent

/-- The call closes the strangle and says so. -/
def StopFires (self : Track8MacroRegimeMonthlyStrangle) (data : Track8MarketInput) : Prop :=
  (self.evaluateTakeProfit data).1.map (·.direction) = [.takeProfitHybridTrailingStop] ∧
    (self.evaluateTakeProfit data).2.state.isActive = false

instance (self : Track8MacroRegimeMonthlyStrangle) (data : Track8MarketInput) :
    Decidable (self.Fallen data) :=
  inferInstanceAs (Decidable (_ ≤ _))

instance (self : Track8MacroRegimeMonthlyStrangle) (data : Track8MarketInput) :
    Decidable (self.StopFires data) :=
  inferInstanceAs (Decidable (_ ∧ _))

/-- What an armed stop does with a value that is not above it. -/
theorem evaluateTakeProfit_of_fallen (watched : self.Watched)
    (armed : self.state.trailingStopActive = true) (fallen : self.Fallen data) :
    let intrinsic := intrinsicValue self.state data.currentPrice
    let high := self.state.highWatermarkIntrinsic
    self.evaluateTakeProfit data =
      if intrinsic < self.state.premiumSpent * minMultiplier data then ([], self)
      else ([⟨.takeProfitHybridTrailingStop, 1,
        .realized intrinsic high (trailingRatio high self.state.premiumSpent)⟩], self.reset) := by
  intro intrinsic high
  replace fallen : intrinsic ≤ high * trailingRatio high self.state.premiumSpent := fallen
  have below : intrinsic ≤ high :=
    fallen.trans (mul_le_of_le_one_right watched.high (trailingRatio_le_one ..))
  unfold evaluateTakeProfit
  rw [if_neg (by simp [watched.active armed])]
  dsimp only
  rw [max_eq_left below, if_pos fallen]

theorem stopFires_iff (watched : self.Watched) (armed : self.state.trailingStopActive = true)
    (fallen : self.Fallen data) :
    self.StopFires data ↔ self.state.premiumSpent * minMultiplier data ≤
      intrinsicValue self.state data.currentPrice := by
  rw [StopFires, evaluateTakeProfit_of_fallen watched armed fallen]
  split
  next low => exact iff_of_false (by simp) (not_le.mpr low)
  next enough => exact iff_of_true ⟨rfl, rfl⟩ (not_lt.mp enough)

/-- In every state that calls lead to, an armed stop fires on a value that is not above it exactly
when the value is at least the least multiple of the premium. -/
theorem armed_stop_fires_iff (initial : Track8MacroRegimeMonthlyStrangle)
    (calls : List Track8Call) :
    ∀ now, Machine.Visits (fun now request => some (call now request)) initial.reset calls now →
      ∀ data, now.state.trailingStopActive = true → now.Fallen data →
        (now.StopFires data ↔ now.state.premiumSpent * minMultiplier data ≤
          intrinsicValue now.state data.currentPrice) := by
  intro now visited data armed fallen
  have watched : now.Watched := by
    refine Machine.visits_kept (watched_reset initial) ?_ visited
    rintro before request _ watched ⟨⟩
    exact watched.call request
  exact stopFires_iff watched armed fallen

/-- Twenty days before the expiry; the strangle is bought at 350. -/
def quoted (currentPrice : ℚ) : Track8MarketInput where
  dte := 20
  budget := 1000000
  currentPrice := currentPrice
  currentRegime := "NORMAL"
  dateStr := "2026-09-04"

/-- A strangle whose stop has been armed at 400. -/
def armedAt400 : Track8MacroRegimeMonthlyStrangle :=
  call (call ({} : Track8MacroRegimeMonthlyStrangle).reset (.evaluateInput (quoted 350)))
    (.evaluateTakeProfit (quoted 400))

theorem armed_stop_fires_at_380 : armedAt400.StopFires (quoted 380) ↔
    armedAt400.state.premiumSpent * minMultiplier (quoted 380) ≤
      intrinsicValue armedAt400.state (quoted 380).currentPrice :=
  armed_stop_fires_iff {} [.evaluateInput (quoted 350), .evaluateTakeProfit (quoted 400)] armedAt400
    ⟨_, List.prefix_rfl, rfl⟩ (quoted 380) (by decide +kernel) (by decide +kernel)

/-- From 400 the price falls to 366, and the armed stop is passed over. -/
theorem armed_stop_skipped_at_366 :
    armedAt400.state.trailingStopActive = true ∧ armedAt400.Fallen (quoted 366) ∧
      ¬armedAt400.StopFires (quoted 366) ∧
      armedAt400.evaluateTakeProfit (quoted 366) = ([], armedAt400) := by
  decide +kernel

end Track8MacroRegimeMonthlyStrangle
end OptionProject.Strategies
