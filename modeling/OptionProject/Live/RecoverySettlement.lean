import OptionProject.Live.RecoveryAdapter
import OptionProject.Position.LivePositionAggregate

/-!
# Recovered and realtime settlement

The fills of an order that were missed are settled one by one when they come in realtime, and by
one report for all of them when they are recovered. The report carries their quantity at their
mean price.

## Main definitions

* `IsSnapshotOf`, `Knows` — the exact row of an order, and the context that knows a part of it.
* `settleReport` — the recovered report on an aggregate.
* `Crosses` — fills that carry a position through zero.

## Main results

* `toExecutionReport_missed` — the report is one trade for all missed fills.
* `recovered_eq_realtime` — both ways settle to the same position.
-/
namespace OptionProject.Live
open Library Contracts Position KISFuturesExecutionRecoveryAdapter

variable {row : Row} {context : KISExecutionRecoveryContext} {known missed : List (Trade ℚ)}

/-- The row has the exact cumulative quantity and average price of the fills of an order. -/
structure IsSnapshotOf (row : Row) (fills : List (Trade ℚ)) : Prop where
  orderId : field row "odno" ≠ ""
  quantity : parseInt (field row "tot_ccld_qty") = some (totalSize fills)
  average : ∃ average, parseDecimal (field row "avg_idx") = some average ∧
    totalSize fills * average.value = totalWorth fills
  timestamp : ∃ time, timestampOrNone row = .ok time

/-- The context has the exact quantity and average price of the fills known so far. -/
structure Knows (context : KISExecutionRecoveryContext) (known : List (Trade ℚ)) : Prop where
  quantity : context.priorFilledQuantity = totalSize known
  average : known ≠ [] → ∃ average, context.priorAveragePrice = some average ∧
    totalSize known * average = totalWorth known

/-- The price of the new quantity is the mean price of the missed fills. -/
theorem deltaExecutionPrice_missed (knows : Knows context known) (some_missed : missed ≠ [])
    {average : ℚ} (exact_average :
      totalSize (known ++ missed) * average = totalWorth (known ++ missed)) :
    ∃ price, deltaExecutionPrice (totalSize (known ++ missed)) average
        context.priorFilledQuantity context.priorAveragePrice = .ok price ∧
      totalSize missed * price = totalWorth missed ∧ 0 < price := by
  have size := totalSize_pos some_missed
  have worth := totalWorth_pos some_missed
  have positive : (0 : ℚ) < totalSize missed := Int.cast_pos.mpr size
  unfold deltaExecutionPrice
  rw [knows.quantity]
  rcases eq_or_ne known [] with rfl | some_known
  · have mean : totalSize missed * average = totalWorth missed := exact_average
    exact ⟨average, rfl, mean, (mul_pos_iff_of_pos_left positive).mp (mean ▸ worth)⟩
  · obtain ⟨prior, priorAverage, prior_worth⟩ := knows.average some_known
    have delta : totalSize (known ++ missed) - totalSize known = totalSize missed := by
      rw [totalSize_append]
      ring
    have left : average * totalSize (known ++ missed) - prior * totalSize known =
        totalWorth missed := by
      rw [mul_comm, exact_average, mul_comm prior, prior_worth, totalWorth_append]
      ring
    have price : 0 < totalWorth missed / totalSize missed := div_pos worth positive
    rw [if_neg (totalSize_pos some_known).ne', priorAverage]
    dsimp only
    rw [delta, left, if_neg (not_le.mpr size), if_neg (not_le.mpr price)]
    exact ⟨_, rfl, mul_div_cancel₀ _ positive.ne', price⟩

/-- The exact row of known and missed fills is reported as one trade for the missed ones. -/
theorem toExecutionReport_missed (snapshot : IsSnapshotOf row (known ++ missed))
    (knows : Knows context known) (within : totalSize (known ++ missed) ≤ context.orderQuantity)
    (some_missed : missed ≠ []) :
    ∃ report price, toExecutionReport row context = .ok (some report) ∧
      report.filledQuantity = totalSize missed ∧ report.executionPrice = some price ∧
      totalSize missed * price = totalWorth missed ∧ 0 < price := by
  obtain ⟨orderId, quantity, ⟨average, parsed, exact_average⟩, time, timestamp⟩ := snapshot
  obtain ⟨price, delta, mean, positive⟩ :=
    deltaExecutionPrice_missed knows some_missed exact_average
  have size := totalSize_pos some_missed
  have known_size := totalSize_nonneg known
  have total := totalSize_append known missed
  have order : required row "odno" = .ok (field row "odno") := if_neg orderId
  have cumulative : nonNegativeInt row "tot_ccld_qty" = .ok (totalSize (known ++ missed)) := by
    rw [nonNegativeInt, quantity]
    exact if_neg (by omega)
  have priced : positiveDecimal row "avg_idx" = .ok average := by
    have worth := totalWorth_pos (List.append_ne_nil_of_right_ne_nil known some_missed)
    have total_pos : (0 : ℚ) < totalSize (known ++ missed) := Int.cast_pos.mpr (by omega)
    rw [positiveDecimal, parsed]
    exact if_neg (not_le.mpr ((mul_pos_iff_of_pos_left total_pos).mp (exact_average ▸ worth)))
  have quantities := knows.quantity
  unfold toExecutionReport
  simp only [order, cumulative, priced, delta, timestamp, bind, Except.bind]
  rw [if_neg (by omega), if_neg (by omega), if_neg (by omega)]
  exact ⟨_, price, rfl, by dsimp only; omega, rfl, mean, positive⟩

theorem toExecutionReport_known (snapshot : IsSnapshotOf row known) (knows : Knows context known)
    (within : totalSize known ≤ context.orderQuantity) :
    toExecutionReport row context = .ok none := by
  have order : required row "odno" = .ok (field row "odno") := if_neg snapshot.orderId
  have cumulative : nonNegativeInt row "tot_ccld_qty" = .ok (totalSize known) := by
    rw [nonNegativeInt, snapshot.quantity]
    exact if_neg (not_lt.mpr (totalSize_nonneg known))
  have quantities := knows.quantity
  unfold toExecutionReport
  simp only [order, cumulative, bind, Except.bind]
  rw [if_neg (by omega), if_neg (by omega), if_pos (by omega)]

/-! ## Settling both ways -/

/-- The recovered report as one fill of the order, if there is one. A report without a price is
refused like one with no positive price. -/
def settleReport (self : LivePositionAggregate) (side : Side) :
    Option ExecutionReport → Except Raised LivePositionAggregate
  | none => .ok self
  | some report =>
    self.applyFill (sideText side) report.filledQuantity (report.executionPrice.getD 0)

/-- The fills close the position and open one on their own side. -/
def Crosses (self : LivePositionAggregate) (side : Side) (fills : List (Trade ℚ)) : Prop :=
  ∃ held, self.side = some held ∧ side ≠ held ∧ self.qty < totalSize fills

theorem fits_of_not_crosses {instrumentId : String} {h : Holding ℚ} {t : Trade ℚ}
    {fills : List (Trade ℚ)} (size : t.size = totalSize fills)
    (within : ¬Crosses (.ofHolding instrumentId h) t.side fills) : h.Fits t := by
  cases h with
  | none => trivial
  | some lot =>
    by_contra exceeds
    obtain ⟨against, larger⟩ := not_or.mp exceeds
    exact within ⟨lot.side, rfl, against, size ▸ not_le.mp larger⟩

/-- Two aggregates of equal signed quantities have one side and one quantity. -/
theorem side_qty_of_net {instrumentId : String} {h h' : Holding ℚ} (net : h.net = h'.net) :
    (LivePositionAggregate.ofHolding instrumentId h).side =
        (LivePositionAggregate.ofHolding instrumentId h').side ∧
      (LivePositionAggregate.ofHolding instrumentId h).qty =
        (LivePositionAggregate.ofHolding instrumentId h').qty := by
  have same := Holding.eq_of_net net
  cases h with
  | none =>
    cases h' with
    | none => exact ⟨rfl, rfl⟩
    | some lot' => cases same
  | some lot =>
    cases h' with
    | none => cases same
    | some lot' =>
      obtain ⟨side, size⟩ := Prod.mk.inj (Option.some.inj same)
      exact ⟨congrArg some side, size⟩

/-- From every position that fills have led to, the missed fills of an order settle to the same
side and quantity one by one and as the recovered report, and to the same average price unless
they carry the position through zero. -/
theorem recovered_eq_realtime {raw : String} {fresh before : LivePositionAggregate}
    {earlier : List (Trade ℚ)} (created : LivePositionAggregate.create raw = .ok fresh)
    (reached : fresh.applyFills earlier = .ok before) {side : Side}
    (sides : ∀ fill ∈ missed, fill.side = side) (snapshot : IsSnapshotOf row (known ++ missed))
    (knows : Knows context known)
    (within : totalSize (known ++ missed) ≤ context.orderQuantity) :
    ∃ report realtime recovered, toExecutionReport row context = .ok report ∧
      before.applyFills missed = .ok realtime ∧
      settleReport before side report = .ok recovered ∧
      recovered.side = realtime.side ∧ recovered.qty = realtime.qty ∧
      (¬Crosses before side missed → recovered.avgPrice = realtime.avgPrice) := by
  obtain ⟨h, rfl⟩ := LivePositionAggregate.exists_ofHolding created reached
  have realtime := LivePositionAggregate.applyFills_ofHolding (strip raw) h missed
  rcases eq_or_ne missed [] with rfl | some_missed
  · rw [List.append_nil] at snapshot within
    exact ⟨none, _, _, toExecutionReport_known snapshot knows within, realtime, rfl, rfl, rfl,
      fun _ => rfl⟩
  · obtain ⟨report, price, built, quantity, priced, mean, positive⟩ :=
      toExecutionReport_missed snapshot knows within some_missed
    let t : Trade ℚ := ⟨side, totalSize missed, price, totalSize_pos some_missed, positive⟩
    have merges : t.Merges missed := ⟨sides, rfl, mean⟩
    have recovered : settleReport (.ofHolding (strip raw) h) side (some report) =
        .ok (.ofHolding (strip raw) (h.fill t)) := by
      rw [settleReport, quantity, priced, Option.getD_some]
      exact LivePositionAggregate.applyFill_ofHolding (strip raw) h t
    obtain ⟨sameSide, sameQty⟩ := side_qty_of_net (Holding.net_after_eq merges).symm
    refine ⟨some report, _, _, built, realtime, recovered, sameSide, sameQty, fun stays => ?_⟩
    rw [Holding.after_eq_fill merges (fits_of_not_crosses rfl stays)]

def bought (size : ℤ) (price : ℚ) (size_pos : 0 < size := by decide)
    (price_pos : 0 < price := by decide +kernel) : Trade ℚ :=
  ⟨.buy, size, price, size_pos, price_pos⟩

/-- Two are known at 101; one and two more at 102 are recovered at the average 101.6. -/
theorem recovered_eq_realtime_bought :
    let row : Row := .ofList [("odno", "B1"), ("tot_ccld_qty", "5"), ("avg_idx", "101.6")]
    let context : KISExecutionRecoveryContext :=
      ⟨"C1", 5, 2, some 101, by decide, by decide, by decide⟩
    let before : LivePositionAggregate := ⟨"I1", some .buy, 2, some 101⟩
    let missed := [bought 1 102, bought 2 102]
    ∃ report realtime recovered, toExecutionReport row context = .ok report ∧
      before.applyFills missed = .ok realtime ∧
      settleReport before .buy report = .ok recovered ∧
      recovered.side = realtime.side ∧ recovered.qty = realtime.qty ∧
      (¬Crosses before .buy missed → recovered.avgPrice = realtime.avgPrice) := by
  intro row context before missed
  have snapshot : IsSnapshotOf row ([bought 2 101] ++ missed) :=
    ⟨by decide +kernel, by decide +kernel, ⟨⟨false, 1016, -1⟩, by decide +kernel⟩,
      none, by decide +kernel⟩
  have knows : Knows context [bought 2 101] :=
    ⟨by decide +kernel, fun _ => ⟨101, rfl, by decide +kernel⟩⟩
  exact @recovered_eq_realtime row context [bought 2 101] missed "I1" { instrumentId := "I1" }
    before [bought 2 101] (by decide +kernel) (by decide +kernel) .buy (by decide +kernel) snapshot
    knows (by decide +kernel)

end OptionProject.Live
