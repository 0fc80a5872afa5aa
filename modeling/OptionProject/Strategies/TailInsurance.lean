import Mathlib.Tactic.Linarith
import Mathlib.Tactic.NormNum
import OptionProject.Library.Machine
import OptionProject.Strategies.Track6

/-!
# The closing signals of Track 6

The cutoffs close with a signal. The trailing stop writes its state first and then fails to build
its signal, so it drops the position, or arms the stop, in a call that raises. Entries are held back
between 15:15 and 15:20 only, and not after the fallback of 15:15 itself.

## Main definitions

* `Track6Call` — the calls on the strategy.
* `Track6DailyTailInsurance.Watched` — an armed stop has a positive high.
* `Track6DailyTailInsurance.LosesSignal` — the evaluations that write and raise.
* `Track6DailyTailInsurance.emitted` — the signals of a run.

## Main results

* `Track6DailyTailInsurance.closes_with_signal_iff` — in every state that calls lead to.
* `Track6DailyTailInsurance.no_entry_after_fallback_iff` — along every run.
-/
namespace OptionProject.Strategies
open Library Contracts

/-- The calls on the strategy; `initialize` is `reset`. -/
inductive Track6Call
  | reset
  | evaluateBuy (data : Track6MarketInput)
  | evaluateTakeProfit (currentPrice activeVol : ℚ) (timeStr : String)
  | evaluateExpiryCutoff (timeStr : String)
  | evaluateInput (data : Track6MarketInput)
  | evaluate (contextStrategyId : String) (payload : Option Track6MarketInput)

namespace Track6DailyTailInsurance

def call (self : Track6DailyTailInsurance) : Track6Call → Track6DailyTailInsurance
  | .reset => self.reset
  | .evaluateBuy data => (self.evaluateBuy data).2
  | .evaluateTakeProfit currentPrice activeVol timeStr =>
    (self.evaluateTakeProfit currentPrice activeVol timeStr).2
  | .evaluateExpiryCutoff timeStr => (self.evaluateExpiryCutoff timeStr).2
  | .evaluateInput data => (self.evaluateInput data).2
  | .evaluate contextStrategyId payload => (self.evaluate contextStrategyId payload).2

/-- The high is not negative, and positive once the stop is armed. -/
structure Watched (strategy : Track6DailyTailInsurance) : Prop where
  high : 0 ≤ strategy.state.highWatermarkIntrinsic
  armed : strategy.state.trailingStopActive = true → 0 < strategy.state.highWatermarkIntrinsic

variable {self later : Track6DailyTailInsurance} {data : Track6MarketInput}
  {currentPrice activeVol : ℚ} {timeStr : String}

/-! ## Values -/

theorem spent_pos (self : Track6DailyTailInsurance) : 0 < self.spent := by
  unfold spent
  split
  next paid => exact paid
  next => norm_num [multiplier]

theorem minimumMultiplier_pos (activeVol : ℚ) : 0 < minimumMultiplier activeVol := by
  unfold minimumMultiplier
  split <;> norm_num

/-- The highest value while the stop is watched. -/
def currentHigh (self : Track6DailyTailInsurance) (currentPrice : ℚ) : ℚ :=
  max self.state.highWatermarkIntrinsic (self.totalIntrinsic currentPrice)

theorem currentHigh_pos (watched : self.Watched)
    (trailing : self.trailingActive currentPrice activeVol = true) :
    0 < self.currentHigh currentPrice := by
  rw [trailingActive, Bool.or_eq_true, decide_eq_true_eq] at trailing
  rcases trailing with armed | enough
  · exact lt_max_of_lt_left (watched.armed armed)
  · have positive := mul_pos self.spent_pos (minimumMultiplier_pos activeVol)
    exact lt_max_of_lt_right (positive.trans_le enough)

/-! ## The trailing stop -/

/-- The value is not above the stop. -/
def Stopped (self : Track6DailyTailInsurance) (currentPrice : ℚ) : Prop :=
  self.totalIntrinsic currentPrice ≤
    self.currentHigh currentPrice * trailingRatio (self.currentHigh currentPrice) self.spent

/-- There is no high yet, or the value is one percent above it. -/
def RaisesHigh (self : Track6DailyTailInsurance) (currentPrice : ℚ) : Prop :=
  self.state.highWatermarkIntrinsic = 0 ∨
    self.state.highWatermarkIntrinsic * 1.01 ≤ self.currentHigh currentPrice

instance (self : Track6DailyTailInsurance) (currentPrice : ℚ) :
    Decidable (self.Stopped currentPrice) :=
  inferInstanceAs (Decidable (_ ≤ _))

instance (self : Track6DailyTailInsurance) (currentPrice : ℚ) :
    Decidable (self.RaisesHigh currentPrice) :=
  inferInstanceAs (Decidable (_ ∨ _))

/-- The state after the high has been raised. -/
def highRaised (self : Track6DailyTailInsurance) (currentPrice : ℚ) :
    Track6DailyTailInsurance :=
  { self with
    state := { self.state with
      trailingStopActive := true
      highWatermarkIntrinsic := self.currentHigh currentPrice } }

/-- The state with the stop armed under the high it has. -/
def armed (self : Track6DailyTailInsurance) : Track6DailyTailInsurance :=
  { self with state := { self.state with trailingStopActive := true } }

/-- What the trailing stop does: it is passed over, or it writes and raises, or it is armed. -/
theorem evaluateTakeProfit_eq (watched : self.Watched) (active : self.state.isActive = true)
    (open_ : ¬"15:12:00" ≤ timeStr) :
    self.evaluateTakeProfit currentPrice activeVol timeStr =
      if self.trailingActive currentPrice activeVol = false then (.ok [], self)
      else if self.Stopped currentPrice then (.error missingReason, self.reset)
      else if self.RaisesHigh currentPrice then (.error missingReason, self.highRaised currentPrice)
      else (.ok [], self.armed) := by
  unfold evaluateTakeProfit
  rw [active, if_neg (by decide), if_neg open_]
  cases trailing : self.trailingActive currentPrice activeVol with
  | false => rfl
  | true =>
    have positive := currentHigh_pos watched trailing
    rw [currentHigh] at positive
    simp only [Bool.not_true, Bool.false_eq_true, if_false, positive, true_and,
      Bool.true_eq_false]
    rfl

theorem evaluateTakeProfit_late (late : "15:12:00" ≤ timeStr) :
    self.evaluateTakeProfit currentPrice activeVol timeStr = (.ok [], self) := by
  unfold evaluateTakeProfit
  split
  · rfl
  · rfl

theorem evaluateTakeProfit_idle (idle : self.state.isActive = false) :
    self.evaluateTakeProfit currentPrice activeVol timeStr = (.ok [], self) := by
  unfold evaluateTakeProfit
  rw [idle]
  rfl

/-! ## Calls -/

theorem watched_reset (self : Track6DailyTailInsurance) : self.reset.Watched :=
  ⟨le_rfl, nofun⟩

theorem Watched.evaluateBuy (watched : self.Watched) : (self.evaluateBuy data).2.Watched := by
  unfold Track6DailyTailInsurance.evaluateBuy
  split
  · exact watched
  split
  · exact watched
  split
  · exact watched
  split
  · exact watched
  · exact ⟨le_rfl, nofun⟩

theorem Watched.evaluateTakeProfit (watched : self.Watched) :
    (self.evaluateTakeProfit currentPrice activeVol timeStr).2.Watched := by
  cases active : self.state.isActive with
  | false =>
    rw [evaluateTakeProfit_idle active]
    exact watched
  | true =>
    by_cases late : "15:12:00" ≤ timeStr
    · rw [evaluateTakeProfit_late late]
      exact watched
    rw [evaluateTakeProfit_eq watched active late]
    split
    · exact watched
    next trailing =>
    have positive := currentHigh_pos watched (by simpa using trailing)
    split
    · exact watched_reset self
    split
    · exact ⟨positive.le, fun _ => positive⟩
    next steady =>
      refine ⟨watched.high, fun _ => ?_⟩
      exact watched.high.lt_of_ne fun zero => steady (.inl zero.symm)

theorem Watched.evaluateExpiryCutoff (watched : self.Watched) :
    (self.evaluateExpiryCutoff timeStr).2.Watched := by
  unfold Track6DailyTailInsurance.evaluateExpiryCutoff
  split
  · exact watched
  split
  · exact watched
  split
  · exact watched_reset self
  · exact watched

theorem Watched.evaluateInput (watched : self.Watched) : (self.evaluateInput data).2.Watched := by
  unfold Track6DailyTailInsurance.evaluateInput
  split
  · dsimp only
    split
    · exact watched.evaluateExpiryCutoff.evaluateTakeProfit
    · exact watched.evaluateExpiryCutoff
  · exact watched.evaluateBuy

theorem Watched.call (watched : self.Watched) (call : Track6Call) : (self.call call).Watched := by
  cases call with
  | reset => exact watched_reset self
  | evaluateBuy data => exact watched.evaluateBuy
  | evaluateTakeProfit currentPrice activeVol timeStr => exact watched.evaluateTakeProfit
  | evaluateExpiryCutoff timeStr => exact watched.evaluateExpiryCutoff
  | evaluateInput data => exact watched.evaluateInput
  | evaluate contextStrategyId payload =>
    cases payload with
    | none => exact watched
    | some data =>
      unfold Track6DailyTailInsurance.call Track6DailyTailInsurance.evaluate
      dsimp only
      split
      exacts [watched, watched.evaluateInput]

/-! ## One evaluation -/

theorem evaluateInput_idle (idle : self.state.isActive = false) :
    self.evaluateInput data = (.ok (self.evaluateBuy data).1, (self.evaluateBuy data).2) := by
  unfold evaluateInput
  rw [idle]
  rfl

/-- An active position is closed by the cutoffs, or else watched by the trailing stop. -/
theorem evaluateInput_active (active : self.state.isActive = true) :
    self.evaluateInput data =
      if "15:15:00" ≤ data.timeStr then
        (.ok [⟨.closeFallback, 1, .text "DAILY_INSURANCE_15:15_FALLBACK"⟩], self.reset)
      else if "15:00:00" ≤ data.timeStr then
        (.ok [⟨.closeLimit, 1, .text "DAILY_INSURANCE_15:00_CUTOFF"⟩], self)
      else self.evaluateTakeProfit data.currentPrice data.activeVol data.timeStr := by
  unfold evaluateInput evaluateExpiryCutoff
  rw [active, if_pos rfl, if_neg (by decide)]
  by_cases fallback : "15:15:00" ≤ data.timeStr
  · rw [if_neg fun window => String.not_le.mpr window.2 fallback, if_pos fallback, if_pos fallback]
    rfl
  · rw [if_neg fallback, if_neg fallback]
    by_cases cutoff : "15:00:00" ≤ data.timeStr
    · rw [if_pos ⟨cutoff, String.not_le.mp fallback⟩, if_pos cutoff]
      rfl
    · rw [if_neg fun window => cutoff window.1, if_neg cutoff]
      rfl

/-- Before the cutoffs, a stop that is active has fired or its high is raised. -/
structure LosesSignal (strategy : Track6DailyTailInsurance) (data : Track6MarketInput) :
    Prop where
  active : strategy.state.isActive = true
  early : data.timeStr < "15:00:00"
  trailing : strategy.trailingActive data.currentPrice data.activeVol = true
  writes : strategy.Stopped data.currentPrice ∨ strategy.RaisesHigh data.currentPrice

def closes (signal : Track6Signal) : Prop :=
  signal.direction = .close ∨ signal.direction = .closeFallback

/-- A position that is closed has been closed by a signal, and a call that raises has written
nothing. -/
structure KeepsSignal (strategy : Track6DailyTailInsurance) (data : Track6MarketInput) :
    Prop where
  closed : strategy.state.isActive = true →
    (strategy.evaluateInput data).2.state.isActive = false →
      ∃ signals, (strategy.evaluateInput data).1 = .ok signals ∧ ∃ signal ∈ signals, closes signal
  unchanged : (strategy.evaluateInput data).raised = true →
    (strategy.evaluateInput data).2 = strategy

theorem keepsSignal_of_ok {signals : List Track6Signal} {next : Track6DailyTailInsurance}
    (returns : self.evaluateInput data = (.ok signals, next))
    (closed : self.state.isActive = true → next.state.isActive = false →
      ∃ signal ∈ signals, closes signal) : self.KeepsSignal data where
  closed active inactive := by
    rw [returns] at inactive ⊢
    exact ⟨signals, rfl, closed active inactive⟩
  unchanged raises := by
    rw [returns] at raises
    cases raises

theorem not_keepsSignal_of_error {e : Raised} {next : Track6DailyTailInsurance}
    (raises : self.evaluateInput data = (.error e, next)) (changed : next ≠ self) :
    ¬self.KeepsSignal data := by
  intro keeps
  have unchanged := keeps.unchanged
  rw [raises] at unchanged
  exact changed (unchanged rfl)

theorem reset_ne (active : self.state.isActive = true) : self.reset ≠ self := by
  intro same
  rw [← same] at active
  cases active

/-- The high is positive once the stop is armed, so to arm the stop or to raise the high is a
change. -/
theorem highRaised_ne (watched : self.Watched) (raises : self.RaisesHigh currentPrice) :
    self.highRaised currentPrice ≠ self := by
  intro same
  have armed : self.state.trailingStopActive = true := by
    rw [← same]
    rfl
  have high : self.currentHigh currentPrice = self.state.highWatermarkIntrinsic :=
    congrArg (·.state.highWatermarkIntrinsic) same
  have positive := watched.armed armed
  rcases raises with zero | more
  · exact positive.ne' zero
  · rw [high] at more
    linarith

theorem keepsSignal_iff (watched : self.Watched) (data : Track6MarketInput) :
    self.KeepsSignal data ↔ ¬self.LosesSignal data := by
  cases active : self.state.isActive with
  | false =>
    refine iff_of_true ?_ fun loses => nomatch loses.active.symm.trans active
    exact keepsSignal_of_ok (evaluateInput_idle active) fun held => nomatch held.symm.trans active
  | true =>
    have evaluated : self.evaluateInput data = _ := evaluateInput_active active
    by_cases fallback : "15:15:00" ≤ data.timeStr
    · rw [if_pos fallback] at evaluated
      refine iff_of_true (keepsSignal_of_ok evaluated fun _ _ => ?_) fun loses => ?_
      · exact ⟨_, List.mem_singleton_self _, .inr rfl⟩
      · exact String.not_le.mpr loses.early (String.le_trans (by decide) fallback)
    by_cases cutoff : "15:00:00" ≤ data.timeStr
    · rw [if_neg fallback, if_pos cutoff] at evaluated
      refine iff_of_true (keepsSignal_of_ok evaluated fun _ inactive => ?_) fun loses => ?_
      · cases active.symm.trans inactive
      · exact String.not_le.mpr loses.early cutoff
    have open_ : ¬"15:12:00" ≤ data.timeStr :=
      fun late => cutoff (String.le_trans (by decide) late)
    rw [if_neg fallback, if_neg cutoff, evaluateTakeProfit_eq watched active open_] at evaluated
    cases trailing : self.trailingActive data.currentPrice data.activeVol with
    | false =>
      rw [if_pos trailing] at evaluated
      refine iff_of_true (keepsSignal_of_ok evaluated fun _ inactive => ?_) fun loses => ?_
      · cases active.symm.trans inactive
      · cases loses.trailing.symm.trans trailing
    | true =>
      rw [if_neg (by simp [trailing])] at evaluated
      have early := String.not_le.mp cutoff
      by_cases stopped : self.Stopped data.currentPrice
      · rw [if_pos stopped] at evaluated
        refine iff_of_false (not_keepsSignal_of_error evaluated (reset_ne active)) ?_
        exact not_not_intro ⟨active, early, trailing, .inl stopped⟩
      rw [if_neg stopped] at evaluated
      by_cases raises : self.RaisesHigh data.currentPrice
      · rw [if_pos raises] at evaluated
        refine iff_of_false (not_keepsSignal_of_error evaluated (highRaised_ne watched raises)) ?_
        exact not_not_intro ⟨active, early, trailing, .inr raises⟩
      · rw [if_neg raises] at evaluated
        refine iff_of_true (keepsSignal_of_ok evaluated fun _ inactive => ?_) fun loses => ?_
        · cases active.symm.trans inactive
        · exact loses.writes.elim stopped raises

/-- In every state that calls lead to, an evaluation closes the position with a signal, and leaves
the state as it was if it raises, exactly when it does not come upon a stop that fires or a high
that is raised before the cutoffs. -/
theorem closes_with_signal_iff (initial : Track6DailyTailInsurance) (calls : List Track6Call) :
    ∀ now, Machine.Visits (fun now request => some (call now request)) initial.reset calls now →
      ∀ data, now.KeepsSignal data ↔ ¬now.LosesSignal data := by
  intro now visited data
  have watched : now.Watched := by
    refine Machine.visits_kept (watched_reset initial) ?_ visited
    rintro before request _ watched ⟨⟩
    exact watched.call request
  exact keepsSignal_iff watched data

/-- The volatility has risen to one and a half times its base. -/
def spiked (currentPrice : ℚ) (timeStr : String) : Track6MarketInput where
  strategyId := strategyId
  currentPrice := currentPrice
  activeVol := 1.5
  baseVol := 1
  budget := 250000
  dateStr := "2026-09-04"
  timeStr := timeStr

/-- A strangle that was bought at 350. -/
def boughtAt350 : Track6DailyTailInsurance :=
  call (reset {}) (.evaluateInput (spiked 350 "09:00:00"))

theorem keepsSignal_boughtAt350 : boughtAt350.KeepsSignal (spiked 351 "10:00:00") ↔
    ¬boughtAt350.LosesSignal (spiked 351 "10:00:00") :=
  closes_with_signal_iff {} [.evaluateInput (spiked 350 "09:00:00")] boughtAt350
    ⟨_, List.prefix_rfl, rfl⟩ (spiked 351 "10:00:00")

/-- At 400 the stop is armed by a call that raises, and at 380 it drops the strangle in another. -/
theorem insurance_dropped_at_380 :
    let armedAt400 := call boughtAt350 (.evaluateInput (spiked 400 "10:00:00"))
    boughtAt350.evaluateInput (spiked 400 "10:00:00") = (.error missingReason, armedAt400) ∧
      armedAt400.state.trailingStopActive = true ∧ armedAt400.state.isActive = true ∧
      armedAt400.evaluateInput (spiked 380 "10:01:00") = (.error missingReason, reset {}) ∧
      ¬armedAt400.KeepsSignal (spiked 380 "10:01:00") := by
  intro armedAt400
  have dropped : armedAt400.evaluateInput (spiked 380 "10:01:00") =
      (.error missingReason, reset {}) := by decide +kernel
  refine ⟨by decide +kernel, by decide +kernel, by decide +kernel, dropped, ?_⟩
  exact not_keepsSignal_of_error dropped (by decide +kernel)

/-! ## Entries after the fallback -/

/-- The signals of an evaluation; one that raises has none. -/
def signals (outcome : Outcome Track6DailyTailInsurance (List Track6Signal)) : List Track6Signal :=
  match outcome.1 with
  | .ok signals => signals
  | .error _ => []

/-- What the evaluations of a run emit. -/
def emitted (self : Track6DailyTailInsurance) : List Track6MarketInput → List Track6Signal
  | [] => []
  | data :: later => signals (self.evaluateInput data) ++ (self.evaluateInput data).2.emitted later

/-- The state after a run. -/
def after (self : Track6DailyTailInsurance) (inputs : List Track6MarketInput) :
    Track6DailyTailInsurance :=
  inputs.foldl (fun now data => (now.evaluateInput data).2) self

/-- A position is active at the second cutoff. -/
def FallsBack (self : Track6DailyTailInsurance) (data : Track6MarketInput) : Prop :=
  self.state.isActive = true ∧ "15:15:00" ≤ data.timeStr

/-- After the entries have been held back, an input that would be bought. -/
structure EntersLate (strategy : Track6DailyTailInsurance) (data : Track6MarketInput) : Prop where
  late : "15:20" ≤ data.timeStr
  budget : strategy.estimatedCost ≤ data.budget
  base : 0 < data.baseVol
  spike : data.baseVol * strategy.volTriggerMultiplier ≤ data.activeVol

/-- No entry follows a fallback. -/
def NotChurned (earlier later : Track6Signal) : Prop :=
  earlier.direction = .closeFallback → later.direction ≠ .buyInsurance

theorem signals_evaluateTakeProfit :
    signals (self.evaluateTakeProfit currentPrice activeVol timeStr) = [] := by
  unfold evaluateTakeProfit
  split
  · rfl
  split
  · rfl
  split
  · rfl
  dsimp only
  split
  · rfl
  split <;> rfl

/-- Only the state of the strategy changes. -/
def OnlyState (before after : Track6DailyTailInsurance) : Prop :=
  ∃ state, after = { before with state := state }

theorem evaluateBuy_onlyState (self : Track6DailyTailInsurance) (data : Track6MarketInput) :
    self.OnlyState (self.evaluateBuy data).2 := by
  unfold evaluateBuy
  split
  · exact ⟨_, rfl⟩
  split
  · exact ⟨_, rfl⟩
  split
  · exact ⟨_, rfl⟩
  split <;> exact ⟨_, rfl⟩

theorem evaluateTakeProfit_onlyState (self : Track6DailyTailInsurance)
    (currentPrice activeVol : ℚ) (timeStr : String) :
    self.OnlyState (self.evaluateTakeProfit currentPrice activeVol timeStr).2 := by
  unfold evaluateTakeProfit
  split
  · exact ⟨_, rfl⟩
  split
  · exact ⟨_, rfl⟩
  split
  · exact ⟨_, rfl⟩
  dsimp only
  split
  · exact ⟨_, rfl⟩
  split <;> exact ⟨_, rfl⟩

theorem evaluateInput_onlyState (self : Track6DailyTailInsurance) (data : Track6MarketInput) :
    self.OnlyState (self.evaluateInput data).2 := by
  cases active : self.state.isActive with
  | false =>
    rw [evaluateInput_idle active]
    exact self.evaluateBuy_onlyState data
  | true =>
    rw [evaluateInput_active active]
    split
    · exact ⟨_, rfl⟩
    split
    · exact ⟨_, rfl⟩
    · exact self.evaluateTakeProfit_onlyState _ _ _

theorem evaluateInput_of_fallsBack (fallsBack : self.FallsBack data) :
    self.evaluateInput data =
      (.ok [⟨.closeFallback, 1, .text "DAILY_INSURANCE_15:15_FALLBACK"⟩], self.reset) := by
  rw [evaluateInput_active fallsBack.1, if_pos fallsBack.2]

theorem evaluateBuy_of_entersLate (idle : self.state.isActive = false)
    (enters : self.EntersLate data) :
    ∃ signal ∈ (self.evaluateBuy data).1, signal.direction = .buyInsurance := by
  unfold evaluateBuy
  rw [idle, if_neg (by decide), if_neg fun window => String.not_le.mpr window.2 enters.late,
    if_neg enters.budget.not_gt,
    if_neg (not_or.mpr ⟨enters.base.not_ge, enters.spike.not_gt⟩)]
  exact ⟨_, List.mem_singleton_self _, rfl⟩

theorem evaluateBuy_of_not_entersLate (late : "15:15:00" ≤ data.timeStr)
    (none : ¬self.EntersLate data) :
    (∀ signal ∈ (self.evaluateBuy data).1, signal.direction ≠ .buyInsurance) ∧
      (self.evaluateBuy data).2 = self := by
  unfold evaluateBuy
  split
  · exact ⟨nofun, rfl⟩
  split
  · exact ⟨by simp, rfl⟩
  split
  · exact ⟨nofun, rfl⟩
  split
  · exact ⟨nofun, rfl⟩
  next free afford spike =>
    refine absurd ⟨?_, not_lt.mp afford, ?_, ?_⟩ none
    · have held := String.le_trans (show "15:15" ≤ "15:15:00" by decide) late
      exact String.not_lt.mp fun early => free ⟨held, early⟩
    · exact not_le.mp (not_or.mp spike).1
    · exact not_lt.mp (not_or.mp spike).2

/-- The fallback of 15:15 is the only one. -/
theorem fallsBack_of_signal {signal : Track6Signal}
    (member : signal ∈ signals (self.evaluateInput data))
    (fallback : signal.direction = .closeFallback) : self.FallsBack data := by
  cases active : self.state.isActive with
  | false =>
    rw [evaluateInput_idle active, signals] at member
    unfold evaluateBuy at member
    grind
  | true =>
    rw [evaluateInput_active active] at member
    split at member
    next late => exact ⟨active, late⟩
    split at member
    · obtain rfl := List.mem_singleton.mp member
      cases fallback
    · rw [signals_evaluateTakeProfit] at member
      cases member

theorem signals_notChurned (self : Track6DailyTailInsurance) (data : Track6MarketInput) :
    (signals (self.evaluateInput data)).Pairwise NotChurned := by
  by_cases fallsBack : self.FallsBack data
  · rw [evaluateInput_of_fallsBack fallsBack]
    exact List.pairwise_singleton _ _
  · refine List.pairwise_of_forall_mem_list fun earlier member later _ fallback => ?_
    exact absurd (fallsBack_of_signal member fallback) fallsBack

theorem idle_reset : self.reset.state.isActive = false := rfl

/-- Late in a day without a position, a run buys exactly when one of its inputs would be bought. -/
theorem buys_iff (idle : self.state.isActive = false) {inputs : List Track6MarketInput}
    (late : ∀ data ∈ inputs, "15:15:00" ≤ data.timeStr) :
    (∃ signal ∈ self.emitted inputs, signal.direction = .buyInsurance) ↔
      ∃ data ∈ inputs, self.EntersLate data := by
  induction inputs with
  | nil => simp [emitted]
  | cons data later ih =>
    rw [emitted, evaluateInput_idle idle, signals]
    by_cases enters : self.EntersLate data
    · refine iff_of_true ?_ ⟨data, List.mem_cons_self, enters⟩
      obtain ⟨signal, member, bought⟩ := evaluateBuy_of_entersLate idle enters
      exact ⟨signal, List.mem_append_left _ member, bought⟩
    · obtain ⟨silent, unchanged⟩ := evaluateBuy_of_not_entersLate (late data List.mem_cons_self)
        enters
      have rest := ih fun next member => late next (List.mem_cons_of_mem _ member)
      dsimp only
      rw [unchanged]
      grind

theorem forall_split_cons {α : Type*} {first : α} {rest : List α} {P : List α → α → List α → Prop} :
    (∀ before here later, first :: rest = before ++ here :: later → P before here later) ↔
      P [] first rest ∧ ∀ before here later, rest = before ++ here :: later →
        P (first :: before) here later := by
  constructor
  · intro all
    refine ⟨all [] first rest rfl, fun before here later whole => ?_⟩
    exact all (first :: before) here later (congrArg (first :: ·) whole)
  · rintro ⟨now, next⟩ (_ | ⟨other, before⟩) here later whole
    · cases whole
      exact now
    · cases whole
      exact next before here later rfl

theorem entersLate_congr (only : self.OnlyState later) (next : Track6MarketInput) :
    later.EntersLate next ↔ self.EntersLate next := by
  obtain ⟨state, rfl⟩ := only
  exact ⟨fun ⟨late, budget, base, spike⟩ => ⟨late, budget, base, spike⟩,
    fun ⟨late, budget, base, spike⟩ => ⟨late, budget, base, spike⟩⟩

/-- What one evaluation emits stands before the rest of the run. -/
theorem signals_before_rest {rest : List Track6MarketInput}
    (ordered : ∀ next ∈ rest, data.timeStr ≤ next.timeStr) :
    (∀ earlier ∈ signals (self.evaluateInput data),
      ∀ later ∈ (self.evaluateInput data).2.emitted rest, NotChurned earlier later) ↔
      (self.FallsBack data → ∀ next ∈ rest, ¬self.EntersLate next) := by
  constructor
  · intro apart fallsBack next member enters
    have late : ∀ next ∈ rest, "15:15:00" ≤ next.timeStr := fun next member =>
      String.le_trans fallsBack.2 (ordered next member)
    rw [evaluateInput_of_fallsBack fallsBack] at apart
    obtain ⟨signal, emitted, bought⟩ := (buys_iff idle_reset late).mpr
      ⟨next, member, (entersLate_congr ⟨_, rfl⟩ next).mpr enters⟩
    exact apart _ (List.mem_singleton_self _) signal emitted rfl bought
  · intro none earlier member later emitted fallback bought
    have fallsBack := fallsBack_of_signal member fallback
    have late : ∀ next ∈ rest, "15:15:00" ≤ next.timeStr := fun next member =>
      String.le_trans fallsBack.2 (ordered next member)
    rw [evaluateInput_of_fallsBack fallsBack] at emitted
    obtain ⟨next, inside, enters⟩ := (buys_iff idle_reset late).mp
      ⟨later, emitted, bought⟩
    exact none fallsBack next inside ((entersLate_congr ⟨_, rfl⟩ next).mp enters)

/-- Along every run in which the time does not go back, no entry follows a fallback exactly when
no input from 15:20 on would be bought after an evaluation that has found a position active at
15:15:00 or later. No date is read. -/
theorem no_entry_after_fallback_iff (initial : Track6DailyTailInsurance)
    (inputs : List Track6MarketInput) (ordered : (inputs.map (·.timeStr)).Pairwise (· ≤ ·)) :
    (initial.emitted inputs).Pairwise NotChurned ↔
      ∀ before data later, inputs = before ++ data :: later →
        (initial.after before).FallsBack data → ∀ next ∈ later, ¬initial.EntersLate next := by
  induction inputs generalizing initial with
  | nil => simp [emitted]
  | cons data rest ih =>
    rw [List.map_cons, List.pairwise_cons, List.forall_mem_map] at ordered
    have same := entersLate_congr (initial.evaluateInput_onlyState data)
    rw [forall_split_cons, emitted, List.pairwise_append, ih _ ordered.2,
      signals_before_rest ordered.1, and_iff_right (initial.signals_notChurned data), and_comm]
    simp only [same]
    rfl

/-- Bought in the morning, closed by the fallback of 15:15, and bought again at 15:20. -/
def churned : List Track6MarketInput :=
  [spiked 350 "09:00:00", spiked 350 "15:15:00", spiked 350 "15:20:00"]

theorem no_entry_after_fallback_churned :
    (emitted {} churned).Pairwise NotChurned ↔
      ∀ before data later, churned = before ++ data :: later →
        (after {} before).FallsBack data → ∀ next ∈ later, ¬EntersLate {} next :=
  no_entry_after_fallback_iff {} churned (by decide)

theorem bought_after_fallback :
    (emitted {} churned).map (·.direction) = [.buyInsurance, .closeFallback, .buyInsurance] ∧
      (∀ data ∈ churned, data.dateStr = "2026-09-04") ∧
      (churned.map (·.timeStr)).Pairwise (· ≤ ·) ∧
      ¬(emitted {} churned).Pairwise NotChurned := by
  have directions : (emitted {} churned).map (·.direction) =
      [.buyInsurance, .closeFallback, .buyInsurance] := by decide +kernel
  refine ⟨directions, by decide, by decide, fun apart => ?_⟩
  have mapped : ((emitted {} churned).map (·.direction)).Pairwise fun earlier later =>
      earlier = .closeFallback → later ≠ .buyInsurance :=
    List.pairwise_map.mpr apart
  rw [directions] at mapped
  revert mapped
  decide

end Track6DailyTailInsurance
end OptionProject.Strategies
