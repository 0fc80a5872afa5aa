import OptionProject.Contracts.Types
import OptionProject.Library.Machine
import OptionProject.Library.Numerals

/-!
# The virtual clock

`environments/virtual/clock.py` over the simulated clock of `market/clock_controller.py`. A sleep
moves the simulated time in ticks, by a whole number of milliseconds, and the monotonic reading by
the seconds asked for.

## Main definitions

* `VMSClockProvider.sleepPolicy` — a sleep.
* `VMSClockProvider.InStep` — both readings have moved alike.

## Main results

* `VMSClockProvider.inStep_iff` — the sleeps under which they do, in all states of a run.
-/
namespace OptionProject.Virtual
open Library Contracts

/-- The simulated time in microseconds, with the ticks it was moved by. -/
structure VMSClockController where
  currentTime : ℤ
  ticks : List ℕ := []

def VMSClockController.advanceTick (self : VMSClockController) (milliseconds : ℕ) :
    VMSClockController where
  currentTime := self.currentTime + 1000 * milliseconds
  ticks := self.ticks ++ [milliseconds]

/-- The loop of a sleep: ticks until nothing remains. -/
def advance (tick : ℕ) (positive : 0 < tick) (source : VMSClockController) (remaining : ℕ) :
    VMSClockController :=
  if 0 < remaining then
    let step := min tick remaining
    advance tick positive (source.advanceTick step) (remaining - step)
  else source
termination_by remaining

/-- A clock as its constructor lets it through. -/
structure VMSClockProvider where
  source : VMSClockController
  tickMilliseconds : ℕ
  elapsedSeconds : ℚ
  tick_positive : 0 < tickMilliseconds

namespace VMSClockProvider

def create (source : VMSClockController) (tickMilliseconds : ℤ) :
    Except Raised VMSClockProvider :=
  if invalid : tickMilliseconds ≤ 0 then
    .error ⟨.valueError, "VMS_CLOCK_TICK_MILLISECONDS_REQUIRED"⟩
  else .ok ⟨source, tickMilliseconds.toNat, 0, by omega⟩

variable (self : VMSClockProvider)

def now : ℤ := self.source.currentTime

def monotonic : ℚ := self.elapsedSeconds

def sleepPolicy (seconds : ℚ) : Outcome VMSClockProvider Unit :=
  if seconds < 0 then (.error ⟨.valueError, "seconds must be non-negative"⟩, self)
  else
    let milliseconds := roundHalfEven (seconds * 1000)
    if milliseconds = 0 then (.ok (), self)
    else
      let source := advance self.tickMilliseconds self.tick_positive self.source milliseconds.toNat
      (.ok (), { self with source, elapsedSeconds := self.elapsedSeconds + seconds })

end VMSClockProvider

/-! ## The loop -/

/-- The loop moves the time by all that remained, in ticks of one millisecond at least and of the
greatest tick at most. -/
theorem advance_spec (positive : 0 < tick) (source : VMSClockController) (remaining : ℕ) :
    (advance tick positive source remaining).currentTime = source.currentTime + 1000 * remaining ∧
      ∃ steps : List ℕ, (advance tick positive source remaining).ticks = source.ticks ++ steps ∧
        ∀ step ∈ steps, 1 ≤ step ∧ step ≤ tick := by
  fun_induction advance tick positive source remaining with
  | case1 source remaining more step ih =>
    obtain ⟨time, steps, moved, bounds⟩ := ih
    have whole : step ≤ remaining := Nat.min_le_right tick remaining
    constructor
    · rw [time, VMSClockController.advanceTick]
      push_cast [whole]
      omega
    · refine ⟨step :: steps, ?_, ?_⟩
      · rw [moved, VMSClockController.advanceTick, List.append_assoc]
        rfl
      · intro other mem
        rcases List.mem_cons.mp mem with rfl | later
        · omega
        · exact bounds other later
  | case2 source remaining done =>
    obtain rfl : remaining = 0 := by omega
    exact ⟨by simp, [], by simp⟩

/-! ## Runs -/

namespace VMSClockProvider

variable {start now : VMSClockProvider} {seconds : ℚ} {durations : List ℚ}

def step (now : VMSClockProvider) (seconds : ℚ) : Option VMSClockProvider :=
  some (now.sleepPolicy seconds).2

/-- The two readings have moved by the same time since the start. -/
def InStep (start now : VMSClockProvider) : Prop :=
  now.monotonic - start.monotonic = (now.now - start.now : ℤ) / 1000000

/-- All ticks since the start were of a millisecond at least and of the greatest tick at most. -/
def Ticked (start now : VMSClockProvider) : Prop :=
  now.tickMilliseconds = start.tickMilliseconds ∧
    ∃ steps : List ℕ, now.source.ticks = start.source.ticks ++ steps ∧
      ∀ step ∈ steps, 1 ≤ step ∧ step ≤ start.tickMilliseconds

/-- The sleep is a whole number of milliseconds, or so short that nothing is done. A negative one is
refused. -/
def Whole (seconds : ℚ) : Prop :=
  seconds * 1000 ≤ 1 / 2 ∨ ∃ milliseconds : ℤ, seconds * 1000 = milliseconds

/-- A sleep changes nothing, or moves the time by the nearest number of milliseconds. -/
theorem sleepPolicy_cases (now : VMSClockProvider) (seconds : ℚ) :
    (seconds * 1000 ≤ 1 / 2 ∧ (now.sleepPolicy seconds).2 = now) ∨
    (1 / 2 < seconds * 1000 ∧ ∃ source, (now.sleepPolicy seconds).2 =
        { now with source, elapsedSeconds := now.elapsedSeconds + seconds } ∧
      source.currentTime = now.source.currentTime + 1000 * roundHalfEven (seconds * 1000) ∧
      ∃ steps : List ℕ, source.ticks = now.source.ticks ++ steps ∧
        ∀ step ∈ steps, 1 ≤ step ∧ step ≤ now.tickMilliseconds) := by
  unfold sleepPolicy
  by_cases negative : seconds < 0
  · exact .inl ⟨by linarith, by rw [if_pos negative]⟩
  · have nonneg : 0 ≤ seconds * 1000 := by linarith
    have zero := roundHalfEven_eq_zero_iff nonneg
    have rounded := roundHalfEven_nonneg nonneg
    rw [if_neg negative]
    by_cases short : seconds * 1000 ≤ 1 / 2
    · exact .inl ⟨short, by simp [zero.mpr short]⟩
    · have moved : roundHalfEven (seconds * 1000) ≠ 0 := mt zero.mp short
      obtain ⟨time, ticks⟩ := advance_spec now.tick_positive now.source
        (roundHalfEven (seconds * 1000)).toNat
      refine .inr ⟨not_le.mp short, _, by simp only [moved, if_false], ?_, ticks⟩
      rw [time]
      omega

theorem ticked_step (ticked : Ticked start now) : Ticked start (now.sleepPolicy seconds).2 := by
  rcases sleepPolicy_cases now seconds with ⟨-, same⟩ | ⟨-, source, moved, -, steps, ticks, bounds⟩
  · rwa [same]
  · obtain ⟨tick, before, made, bounded⟩ := ticked
    rw [moved]
    refine ⟨tick, before ++ steps, by simp [ticks, made], ?_⟩
    grind

/-- A sleep keeps the readings in step exactly when it is whole. -/
theorem inStep_step_iff (inStep : InStep start now) :
    InStep start (now.sleepPolicy seconds).2 ↔ Whole seconds := by
  rcases sleepPolicy_cases now seconds with ⟨short, same⟩ | ⟨long, source, moved, time, -⟩
  · rw [same]
    exact iff_of_true inStep (.inl short)
  · have whole : Whole seconds ↔ (roundHalfEven (seconds * 1000) : ℚ) = seconds * 1000 := by
      rw [roundHalfEven_eq_self_iff, Whole, or_iff_right (not_le.mpr long)]
    rw [whole, moved]
    simp only [InStep, monotonic, VMSClockProvider.now] at inStep ⊢
    rw [time]
    push_cast at inStep ⊢
    constructor <;> intro same <;> linarith

/-- The readings move alike in every state of a run exactly when all of its sleeps are whole. In any
run the ticks are within their bounds. -/
theorem inStep_iff (start : VMSClockProvider) (durations : List ℚ) :
    (∀ now, Machine.Visits step start durations now → InStep start now ∧ Ticked start now) ↔
      ∀ seconds ∈ durations, Whole seconds := by
  have possible (now : VMSClockProvider) (seconds : ℚ) : ∃ next, step now seconds = some next :=
    ⟨_, rfl⟩
  have ticked_start : Ticked start start := ⟨rfl, [], by simp⟩
  have ticked : ∀ now seconds next, Ticked start now → step now seconds = some next →
      Ticked start next := by
    rintro now seconds _ ticked ⟨⟩
    exact ticked_step ticked
  have exact_iff := @Machine.forall_visits_iff_of_total _ _ step start durations (Ticked start)
    (InStep start) (fun _ seconds => ¬Whole seconds) possible ticked_start (by simp [InStep]) ticked
    ?_ ?_
  · constructor
    · intro both seconds mem
      obtain ⟨now, takes⟩ := Machine.exists_takes (s := start) possible mem
      exact not_not.mp (exact_iff.mp (fun now visited => (both now visited).1) now seconds takes)
    · intro whole now visited
      refine ⟨exact_iff.mpr (fun now seconds takes => ?_) now visited,
        Machine.visits_kept ticked_start ticked visited⟩
      exact not_not.mpr (whole seconds (Machine.mem_of_takes takes))
  · rintro now seconds _ - inStep whole ⟨⟩
    exact (inStep_step_iff inStep).mpr (not_not.mp whole)
  · rintro now seconds _ - inStep part ⟨⟩ after
    exact part ((inStep_step_iff inStep).mp after)

/-- A clock at noon with ticks of half a second. -/
def noon : VMSClockProvider where
  source := ⟨43200000000, []⟩
  tickMilliseconds := 500
  elapsedSeconds := 0
  tick_positive := Nat.succ_pos 499

/-- A sleep of six tenths of a millisecond moves the time by a whole one. -/
theorem noon_drifts : ∃ now, Machine.Visits step noon [0.0006] now ∧
    now.monotonic = 0.0006 ∧ now.now - noon.now = 1000 ∧ ¬InStep noon now := by
  have rounded : roundHalfEven (0.0006 * 1000) = 1 := by decide +kernel
  rcases sleepPolicy_cases noon 0.0006 with ⟨short, -⟩ | ⟨-, source, moved, time, -⟩
  · norm_num at short
  · have later : (noon.sleepPolicy 0.0006).2.now - noon.now = 1000 := by
      rw [moved, VMSClockProvider.now, VMSClockProvider.now, time, rounded]
      omega
    have slept : (noon.sleepPolicy 0.0006).2.monotonic = 0.0006 := by
      rw [moved, monotonic]
      norm_num [noon]
    refine ⟨_, ⟨[0.0006], List.prefix_rfl, rfl⟩, slept, later, fun inStep => ?_⟩
    rw [InStep, slept, later] at inStep
    norm_num [monotonic, noon] at inStep

end VMSClockProvider
end OptionProject.Virtual
