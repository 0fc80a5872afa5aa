import Mathlib.Tactic.Linarith
import Mathlib.Tactic.Positivity
import OptionProject.Library.Machine
import OptionProject.Strategies.Track5

/-!
# The cycle of a gap position

A position is entered between its target and its stop, gives off at most two liquidity signals one
after the other, and is closed within 30 evaluations that carry a price.

## Main definitions

* `Track5State.Sound` — what holds of the state while a position is open, and while none is.
* `cycle` — the order of the evaluations.

## Main results

* `Track5GapDivergence.cycle_of_run` — the state and the order along every run.
-/
namespace OptionProject.Strategies
open Library

/-- The prices of an open position lie in the order of its direction, the stop a point or more
behind the entry. -/
def Track5State.Placed (state : Track5State) : GapDirection → Prop
  | .short => state.targetPrice < state.entryPrice ∧ state.entryPrice < state.stopLossPrice ∧
      1 ≤ state.stopLossPrice - state.entryPrice
  | .long => state.stopLossPrice < state.entryPrice ∧ state.entryPrice < state.targetPrice ∧
      1 ≤ state.entryPrice - state.stopLossPrice

/-- An open position. -/
structure Track5State.Open (state : Track5State) : Prop where
  active : state.isActive = true
  placed : ∃ direction, state.direction = some direction ∧ state.Placed direction
  openTicks : state.openTicks < 30
  peakPnl : 0 ≤ state.peakPnl
  liquidityStage : state.liquidityStage ≤ 2

def Track5State.Sound (state : Track5State) : Prop := state = {} ∨ state.Open

/-- An evaluation as seen from outside: whether it carried a price, and its signals. -/
structure Observation where
  priced : Bool
  signals : List Track5Signal

/-- How far a cycle has got: the evaluations with a price since the entry, and the last stage. -/
structure Progress where
  ticks : ℕ
  stage : ℕ
  deriving DecidableEq

/-- An evaluation with a price while a position is open, within 30 of them: nothing, the next
liquidity signal, or the close. -/
def cycleTick (progress : Progress) : List Track5Signal → Option (Option Progress)
  | [] => some (some ⟨progress.ticks + 1, progress.stage⟩)
  | [⟨.close, _, _⟩] => some none
  | [⟨.liquidity, _, .liquidityStage1 ..⟩] =>
    if progress.stage = 0 then some (some ⟨progress.ticks + 1, 1⟩) else none
  | [⟨.liquidity, _, .liquidityStage2 ..⟩] =>
    if progress.stage = 1 then some (some ⟨progress.ticks + 1, 2⟩) else none
  | _ => none

/-- The monitor of the evaluations. Without a position there is nothing or an entry. -/
def cycle : Option Progress → Observation → Option (Option Progress)
  | none, ⟨_, []⟩ => some none
  | none, ⟨_, [⟨.entry _, _, _⟩]⟩ => some (some ⟨0, 0⟩)
  | none, _ => none
  | some progress, ⟨false, []⟩ => some (some progress)
  | some _, ⟨false, _⟩ => none
  | some progress, ⟨true, signals⟩ =>
    if progress.ticks < 30 then cycleTick progress signals else none

/-- How far the strategy itself has counted. -/
def Track5State.progress (state : Track5State) : Option Progress :=
  if state.isActive then some ⟨state.openTicks, state.liquidityStage⟩ else none

namespace Track5GapDivergence

variable {self : Track5GapDivergence}

/-! ## Entry -/

theorem effectiveZThreshold_pos (positive : 0 < self.zThreshold) (regime : String) :
    0 < self.effectiveZThreshold regime := by
  unfold effectiveZThreshold
  split
  · norm_num
  split
  · norm_num
  · exact positive

/-- A gap evaluation without a position does nothing or opens a sound one. -/
theorem evaluateGap_cases (positive : 0 < self.zThreshold) (data : Track5MarketInput) :
    self.evaluateGap data = ([], self) ∨
    ∃ direction confidence reason state, state.Open ∧ state.progress = some ⟨0, 0⟩ ∧
      self.evaluateGap data =
        ([⟨.entry direction, confidence, reason⟩], { self with state := state }) := by
  unfold evaluateGap
  split
  · exact .inl rfl
  split
  · exact .inl rfl
  extract_lets gap dailyStd zScore stopDistance direction stop
  split
  · exact .inl rfl
  split
  · exact .inl rfl
  next within =>
  refine .inr ⟨direction, _, _, _, ⟨rfl, ⟨direction, rfl, ?_⟩, Nat.succ_pos 29, le_rfl,
    Nat.zero_le 2⟩, rfl, rfl⟩
  have deviation : 0 < max 0.1 dailyStd := lt_max_of_lt_left (by norm_num)
  have distance : 1 ≤ stopDistance := le_max_left _ _
  have away : zScore ≠ 0 := by
    intro zero
    rw [zero, abs_zero] at within
    exact within (.inl (effectiveZThreshold_pos positive data.regime))
  by_cases up : 0 < zScore
  · have short : direction = .short := if_pos up
    have above : stop = data.openPrice + stopDistance := by simp only [stop, short]
    have rises : 0 < data.openPrice - data.previousClose :=
      (div_pos_iff_of_pos_right deviation).mp up
    clear_value stop direction
    subst short above
    refine ⟨?_, ?_, ?_⟩ <;> simp only <;> linarith
  · have long : direction = .long := if_neg up
    have below : stop = data.openPrice - stopDistance := by simp only [stop, long]
    have falls : data.openPrice - data.previousClose < 0 := by
      by_contra rises
      have back := div_nonneg (not_lt.mp rises) deviation.le
      exact away (le_antisymm (not_lt.mp up) back)
    clear_value stop direction
    subst long below
    refine ⟨?_, ?_, ?_⟩ <;> simp only <;> linarith

/-! ## An open position -/

/-- A tick before the last keeps a position open. -/
theorem open_tick {state : Track5State} (opened : state.Open) (early : state.openTicks + 1 < 30)
    (pnl : ℚ) (trailingActive : Bool) {liquidityStage : ℕ} (stage : liquidityStage ≤ 2) :
    Track5State.Open { state with
      openTicks := state.openTicks + 1
      peakPnl := max state.peakPnl pnl
      trailingActive := trailingActive
      liquidityStage := liquidityStage } where
  active := opened.active
  placed := opened.placed
  openTicks := early
  peakPnl := opened.peakPnl.trans (le_max_left _ _)
  liquidityStage := stage

/-- A tick of an open position closes it, or leaves it open with one tick more and the liquidity
stage as its signals say. -/
theorem evaluateMeanReversion_cases (opened : self.state.Open) (currentPrice : ℚ) :
    (∃ reason, self.evaluateMeanReversion currentPrice = ([⟨.close, 1, reason⟩], self.reset)) ∨
    ∃ signals state, state.Open ∧ self.evaluateMeanReversion currentPrice =
        (signals, { self with state := state }) ∧
      cycleTick ⟨self.state.openTicks, self.state.liquidityStage⟩ signals =
        some state.progress := by
  obtain ⟨direction, side, -⟩ := opened.placed
  unfold evaluateMeanReversion
  rw [opened.active, side]
  simp only
  split
  · exact .inl ⟨_, rfl⟩
  split
  · exact .inl ⟨_, rfl⟩
  split
  · exact .inl ⟨_, rfl⟩
  next early =>
  have ticks : self.state.openTicks + 1 < 30 := not_le.mp early
  split
  · exact .inl ⟨_, rfl⟩
  split
  next first =>
    refine .inr ⟨_, _, open_tick opened ticks _ _ (Nat.le_succ 1), rfl, ?_⟩
    simp [cycleTick, Track5State.progress, opened.active, first.2]
  split
  next second =>
    refine .inr ⟨_, _, open_tick opened ticks _ _ le_rfl, rfl, ?_⟩
    simp [cycleTick, Track5State.progress, opened.active, second.2]
  · refine .inr ⟨_, _, open_tick opened ticks _ _ opened.liquidityStage, rfl, ?_⟩
    simp [cycleTick, Track5State.progress, opened.active]

/-! ## Runs -/

/-- One evaluation keeps the state sound and is next in the cycle. -/
theorem next_evaluateInput (positive : 0 < self.zThreshold) (sound : self.state.Sound)
    (data : Track5MarketInput) :
    (self.evaluateInput data).2.zThreshold = self.zThreshold ∧
      (self.evaluateInput data).2.state.Sound ∧
      cycle self.state.progress ⟨data.currentPrice.isSome, (self.evaluateInput data).1⟩ =
        some (self.evaluateInput data).2.state.progress := by
  rcases sound with flat | opened
  · have entering : self.evaluateInput data = self.evaluateGap data := by
      unfold evaluateInput
      cases data.currentPrice with
      | none => rfl
      | some price => simp [flat]
    rw [entering, flat]
    rcases evaluateGap_cases positive data with
      kept | ⟨direction, confidence, reason, state, opened, progress, entered⟩
    · rw [kept]
      exact ⟨rfl, .inl flat, flat.symm ▸ rfl⟩
    · rw [entered]
      exact ⟨rfl, .inr opened, progress.symm ▸ rfl⟩
  · have counted : self.state.progress =
        some ⟨self.state.openTicks, self.state.liquidityStage⟩ := if_pos opened.active
    cases price : data.currentPrice with
    | none =>
      have waits : self.evaluateInput data = ([], self) := by
        unfold evaluateInput
        rw [price]
        exact if_pos opened.active
      rw [waits, counted]
      exact ⟨rfl, .inr opened, rfl⟩
    | some price' =>
      have ticks : self.evaluateInput data = self.evaluateMeanReversion price' := by
        unfold evaluateInput
        rw [price]
        exact if_pos opened.active
      have early : self.state.openTicks < 30 := opened.openTicks
      rw [ticks, counted]
      rcases evaluateMeanReversion_cases opened price' with
        ⟨reason, closed⟩ | ⟨signals, state, opened', held, counts⟩
      · rw [closed]
        exact ⟨rfl, .inl rfl, if_pos early⟩
      · rw [held]
        exact ⟨rfl, .inr opened', (if_pos early).trans counts⟩

/-- The strategy with the evaluations so far. -/
def step (now : Track5GapDivergence × List Observation) (data : Track5MarketInput) :
    Option (Track5GapDivergence × List Observation) :=
  let (signals, next) := now.1.evaluateInput data
  some (next, now.2 ++ [⟨data.currentPrice.isSome, signals⟩])

/-- Along every run from the initial state, the state is the initial one or an open position
between its target and its stop, and the evaluations follow the cycle. -/
theorem cycle_of_run {zThreshold : ℚ} (positive : 0 < zThreshold)
    (inputs : List Track5MarketInput) :
    ∀ now, Machine.Visits step ({ zThreshold }, []) inputs now →
      now.1.state.Sound ∧ Machine.run cycle none now.2 = some now.1.state.progress := by
  have kept : ∀ now, Machine.Visits step ({ zThreshold }, []) inputs now →
      now.1.zThreshold = zThreshold ∧ now.1.state.Sound ∧
        Machine.run cycle none now.2 = some now.1.state.progress := by
    intro now visited
    refine @Machine.visits_kept _ _ _ _ now _ (fun now => now.1.zThreshold = zThreshold ∧
      now.1.state.Sound ∧ Machine.run cycle none now.2 = some now.1.state.progress)
      ⟨rfl, .inl rfl, rfl⟩ ?_ visited
    rintro ⟨self, observations⟩ data _ ⟨same, sound, followed⟩ ⟨⟩
    obtain ⟨same', sound', next⟩ := next_evaluateInput (same.symm ▸ positive) sound data
    exact ⟨same'.trans same, sound', Machine.run_concat.mpr ⟨_, followed, next⟩⟩
  exact fun now visited => (kept now visited).2

/-- The default threshold; a gap from 350 to 355 is sold, and the price comes back. -/
theorem cycle_of_run_default :
    let inputs : List Track5MarketInput := [⟨355, 350, 1, "NORMAL", none⟩,
      ⟨355, 350, 1, "NORMAL", some 353⟩, ⟨355, 350, 1, "NORMAL", some 350⟩]
    ∀ now, Machine.Visits step ({}, []) inputs now →
      now.1.state.Sound ∧ Machine.run cycle none now.2 = some now.1.state.progress :=
  cycle_of_run (by norm_num : (0 : ℚ) < 1.5) _

end Track5GapDivergence
end OptionProject.Strategies
