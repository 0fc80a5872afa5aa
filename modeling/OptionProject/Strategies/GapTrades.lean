import Mathlib.Order.Bounds.Basic
import OptionProject.Strategies.GapCycle

/-!
# The trades of Track 5

The strategy keeps counters of an open position: its ticks, the peak of its profit, whether the
trailing lock is armed, the stage of the liquidity signals. Here a trade is kept as it is seen from
outside, by the evaluation that entered it and the prices since, and what has to be signalled is
said of these prices alone.

## Main definitions

* `GapTrade` — an open trade with its prices.
* `GapTrade.Locks`, `GapTrade.Ripens`, `GapTrade.Doubles` — what the prices say about the lock and
  the two liquidity signals.
* `GapTrade.evaluate` — one evaluation, by the prices.

## Main results

* `GapTrade.peak_isGreatest` — the peak that a lock shows.
* `GapTrade.signals_of_prices` — the signals of every run are those of the trades.
-/
namespace OptionProject.Strategies

/-- A trade: the evaluation that entered it, and the prices of the evaluations since. -/
structure GapTrade where
  data : Track5MarketInput
  prices : List ℚ
  deriving DecidableEq

namespace GapTrade
open Track5GapDivergence

/-! ## What the entry fixes -/

section Entry

variable (data : Track5MarketInput) (price : ℚ)

def dailyStd : ℚ := dailyStdPoints data.previousClose data.activeVol

def zScore : ℚ := (data.openPrice - data.previousClose) / max 0.1 (dailyStd data)

/-- A gap up is sold. -/
def direction : GapDirection := if 0 < zScore data then .short else .long

def stop : ℚ :=
  match direction data with
  | .short => data.openPrice + max 1 (dailyStd data * 0.8)
  | .long => data.openPrice - max 1 (dailyStd data * 0.8)

/-- The gap is wide enough to be traded, and not too wide. -/
def Enters (strategy : Track5GapDivergence) : Prop :=
  0 < data.previousClose ∧ 0 < data.activeVol ∧
    strategy.effectiveZThreshold data.regime ≤ |zScore data| ∧ |zScore data| < 4

instance (strategy : Track5GapDivergence) : Decidable (Enters data strategy) :=
  inferInstanceAs (Decidable (_ ∧ _))

def entry : Track5Signal :=
  ⟨.entry (direction data), min 1 (|zScore data| / 4),
    .gapZScore (zScore data) data.openPrice data.previousClose (stop data)⟩

def profit : ℚ :=
  match direction data with
  | .short => data.openPrice - price
  | .long => price - data.openPrice

/-- The price is back at the previous close. -/
def Reaches : Prop :=
  match direction data with
  | .short => price ≤ data.previousClose
  | .long => data.previousClose ≤ price

def StopsOut : Prop :=
  match direction data with
  | .short => stop data ≤ price
  | .long => price ≤ stop data

def threshold : ℚ := max 0.3 (dailyStd data * 0.3)

def reversal : ℚ :=
  max 0.1 (dailyStd data * 0.1) * reversalScale (profit data price / max 0.1 (dailyStd data))

def Ripe : Prop := threshold data * 0.75 ≤ profit data price

/-- Twice what is ripe. -/
def Doubled : Prop := threshold data * 1.5 ≤ profit data price

instance : Decidable (Reaches data price) := by
  unfold Reaches
  split <;> infer_instance

instance : Decidable (StopsOut data price) := by
  unfold StopsOut
  split <;> infer_instance

instance : DecidablePred (Ripe data) := fun _ => inferInstanceAs (Decidable (_ ≤ _))

instance : DecidablePred (Doubled data) := fun _ => inferInstanceAs (Decidable (_ ≤ _))

theorem threshold_pos : 0 < threshold data := lt_max_of_lt_left (by norm_num)

theorem reversal_pos : 0 < reversal data price := by
  refine mul_pos (lt_max_of_lt_left (by norm_num)) ?_
  unfold reversalScale
  split
  · norm_num
  split <;> norm_num

end Entry

/-! ## What the prices say -/

section Prices

variable (trade : GapTrade) (price : ℚ)

/-- One price later. -/
def add : GapTrade := { trade with prices := trade.prices ++ [price] }

/-- The greatest profit so far, and at least 0. -/
def peak : ℚ := (trade.prices.map (profit trade.data)).foldr max 0

/-- An earlier profit came to the threshold, and the present one lies a reversal under it. -/
def Locks : Prop :=
  ∃ earlier ∈ trade.prices, threshold trade.data ≤ profit trade.data earlier ∧
    reversal trade.data price ≤ profit trade.data earlier - profit trade.data price

/-- The prices from the first ripe one on. -/
def ripePrices : List ℚ := trade.prices.dropWhile fun price => ¬Ripe trade.data price

/-- The price is the first ripe one. -/
def Ripens : Prop := Ripe trade.data price ∧ trade.ripePrices = []

/-- The price is the first doubled one after the first ripe one. -/
def Doubles : Prop :=
  Doubled trade.data price ∧ trade.ripePrices ≠ [] ∧
    ∀ between ∈ trade.ripePrices.tail, ¬Doubled trade.data between

instance : Decidable (trade.Locks price) :=
  inferInstanceAs (Decidable (∃ earlier ∈ trade.prices, _))

instance : Decidable (trade.Ripens price) := inferInstanceAs (Decidable (_ ∧ _))

instance : Decidable (trade.Doubles price) := inferInstanceAs (Decidable (_ ∧ _))

end Prices

/-! ## Evaluations -/

/-- The signals of an open trade at a price, and what is left of it. -/
def atPrice (trade : GapTrade) (price : ℚ) : List Track5Signal × Option GapTrade :=
  let pnl := profit trade.data price
  if Reaches trade.data price then
    ([⟨.close, 1, .meanReversionTarget trade.data.previousClose pnl⟩], none)
  else if StopsOut trade.data price then
    ([⟨.close, 1, .dynamicStop (stop trade.data) pnl⟩], none)
  else if 29 ≤ trade.prices.length then ([⟨.close, 1, .timeout15M pnl⟩], none)
  else if trade.Locks price then
    ([⟨.close, 1, .trailingLock trade.peak (reversal trade.data price) pnl⟩], none)
  else if trade.Ripens price then
    ([⟨.liquidity, 0.7, .liquidityStage1 price pnl⟩], some (trade.add price))
  else if trade.Doubles price then
    ([⟨.liquidity, 0.8, .liquidityStage2 price pnl⟩], some (trade.add price))
  else ([], some (trade.add price))

/-- One evaluation of a strategy, by the trade that is open. -/
def evaluate (strategy : Track5GapDivergence) (data : Track5MarketInput) :
    Option GapTrade → List Track5Signal × Option GapTrade
  | none => if Enters data strategy then ([entry data], some ⟨data, []⟩) else ([], none)
  | some trade =>
    match data.currentPrice with
    | none => ([], some trade)
    | some price => trade.atPrice price

/-- The signals of evaluations one after another. -/
def signals (strategy : Track5GapDivergence) :
    Option GapTrade → List Track5MarketInput → List (List Track5Signal)
  | _, [] => []
  | trade, data :: rest =>
    let (given, next) := evaluate strategy data trade
    given :: signals strategy next rest

/-! ## The peak -/

section Peak

variable {trade : GapTrade} {price : ℚ}

theorem peak_isGreatest (trade : GapTrade) :
    IsGreatest (insert 0 {pnl | ∃ price ∈ trade.prices, profit trade.data price = pnl})
      trade.peak := by
  unfold peak
  induction trade.prices with
  | nil => exact ⟨.inl rfl, by rintro pnl (rfl | ⟨price, member, -⟩) <;> simp_all⟩
  | cons first rest ih =>
    rw [List.map_cons, List.foldr_cons]
    obtain ⟨attained, above⟩ := ih
    constructor
    · rcases max_choice (profit trade.data first)
        ((rest.map (profit trade.data)).foldr max 0) with same | same
      · rw [same]
        exact .inr ⟨first, List.mem_cons_self, rfl⟩
      · rw [same]
        rcases attained with zero | ⟨price, member, eq⟩
        · exact .inl zero
        · exact .inr ⟨price, List.mem_cons_of_mem first member, eq⟩
    · rintro pnl (rfl | ⟨price, member, rfl⟩)
      · exact le_max_of_le_right (above (.inl rfl))
      · rcases List.mem_cons.mp member with rfl | member
        · exact le_max_left _ _
        · exact le_max_of_le_right (above (.inr ⟨price, member, rfl⟩))

theorem peak_add (trade : GapTrade) (price : ℚ) :
    (trade.add price).peak = max trade.peak (profit trade.data price) := by
  simp only [peak, add, List.map_append, List.foldr_append, List.map_cons, List.map_nil,
    List.foldr_cons, List.foldr_nil]
  induction trade.prices.map (profit trade.data) with
  | nil => exact max_comm _ _
  | cons first rest ih => rw [List.foldr_cons, List.foldr_cons, ih, max_assoc]

/-- The lock compares the present profit with the peak, once the peak came to the threshold. -/
theorem locks_iff : trade.Locks price ↔ threshold trade.data ≤ trade.peak ∧
    reversal trade.data price ≤ trade.peak - profit trade.data price := by
  obtain ⟨attained, above⟩ := trade.peak_isGreatest
  constructor
  · rintro ⟨earlier, member, armed, back⟩
    have below := above (.inr ⟨earlier, member, rfl⟩)
    exact ⟨armed.trans below, back.trans (sub_le_sub_right below _)⟩
  · rintro ⟨armed, back⟩
    have positive := (threshold_pos trade.data).trans_le armed
    rcases attained with zero | ⟨earlier, member, same⟩
    · exact absurd zero positive.ne'
    · exact ⟨earlier, member, same ▸ armed, same ▸ back⟩

end Peak

/-! ## The counters of the strategy -/

/-- Which liquidity signals have been given. -/
def stage (trade : GapTrade) : ℕ :=
  match trade.ripePrices with
  | [] => 0
  | _ :: later => if ∃ price ∈ later, Doubled trade.data price then 2 else 1

/-- What the strategy keeps of a trade. -/
def state : Option GapTrade → Track5State
  | none => {}
  | some trade =>
    { isActive := true
      direction := some (direction trade.data)
      entryPrice := trade.data.openPrice
      targetPrice := trade.data.previousClose
      stopLossPrice := stop trade.data
      openTicks := trade.prices.length
      peakPnl := trade.peak
      trailingActive := threshold trade.data ≤ trade.peak
      liquidityStage := trade.stage
      dailyStdPts := dailyStd trade.data }

/-- The strategy while a trade is open, or none. -/
def holding (strategy : Track5GapDivergence) (trade : Option GapTrade) : Track5GapDivergence :=
  { strategy with state := state trade }

theorem ripePrices_add (trade : GapTrade) (price : ℚ) :
    (trade.add price).ripePrices =
      if trade.ripePrices = [] then if Ripe trade.data price then [price] else []
      else trade.ripePrices ++ [price] := by
  have longer : (trade.add price).ripePrices =
      (trade.prices ++ [price]).dropWhile fun price => ¬Ripe trade.data price := rfl
  rw [longer, List.dropWhile_append]
  by_cases ripe : Ripe trade.data price <;> simp [ripePrices, ripe]

theorem stage_add (trade : GapTrade) (price : ℚ) :
    (trade.add price).stage =
      if trade.Ripens price then 1 else if trade.Doubles price then 2 else trade.stage := by
  have longer : (trade.add price).stage =
      match (trade.add price).ripePrices with
      | [] => 0
      | _ :: later => if ∃ price ∈ later, Doubled trade.data price then 2 else 1 := rfl
  rw [longer, ripePrices_add]
  rcases before : trade.ripePrices with _ | ⟨first, rest⟩
  · by_cases ripe : Ripe trade.data price <;> simp [stage, Ripens, Doubles, before, ripe]
  · have riped : trade.ripePrices ≠ [] := by simp [before]
    have not_first : ¬trade.Ripens price := fun ripens => riped ripens.2
    have doubles : trade.Doubles price ↔ Doubled trade.data price ∧
        ∀ between ∈ rest, ¬Doubled trade.data between := by simp [Doubles, before]
    have more : (∃ p ∈ rest ++ [price], Doubled trade.data p) ↔
        (∃ p ∈ rest, Doubled trade.data p) ∨ Doubled trade.data price := by
      simp [or_and_right, exists_or]
    simp only [stage, before, not_first, doubles, reduceCtorEq, if_false, List.cons_append, more]
    by_cases rich : Doubled trade.data price <;>
      by_cases earlier : ∃ p ∈ rest, Doubled trade.data p <;> grind

/-! ## Evaluations agree -/

section Agree

variable {data : Track5MarketInput} {trade : GapTrade} {price : ℚ}

theorem dailyStd_pos (close : 0 < data.previousClose) :
    0 < dailyStd data ↔ 0 < data.activeVol := by
  have scaled : 0 < data.previousClose * (0.15 / 15.874507866) := by positivity
  exact mul_pos_iff_of_pos_left scaled

theorem counters_lock : ((decide (threshold trade.data ≤ trade.peak) ||
      decide (threshold trade.data ≤ profit trade.data price)) = true ∧
      reversal trade.data price ≤ max trade.peak (profit trade.data price) -
        profit trade.data price) ↔ trade.Locks price := by
  have positive := reversal_pos trade.data price
  rw [locks_iff, Bool.or_eq_true, decide_eq_true_iff, decide_eq_true_iff]
  constructor
  · rintro ⟨armed, back⟩
    have higher : profit trade.data price < trade.peak := by
      by_contra lower
      rw [max_eq_right (not_lt.mp lower), sub_self] at back
      exact absurd back positive.not_ge
    rw [max_eq_left higher.le] at back
    exact ⟨armed.elim id fun now => now.trans higher.le, back⟩
  · rintro ⟨armed, back⟩
    have higher : profit trade.data price < trade.peak := by linarith
    exact ⟨.inl armed, by rwa [max_eq_left higher.le]⟩

theorem lt_peak_of_locks (locks : trade.Locks price) : profit trade.data price < trade.peak := by
  have positive := reversal_pos trade.data price
  have back := (locks_iff.mp locks).2
  linarith

theorem counters_ripen : (threshold trade.data * 0.75 ≤ profit trade.data price ∧
    trade.stage = 0) ↔ trade.Ripens price := by
  refine and_congr_right fun _ => ?_
  unfold stage
  split
  next none_ripe => exact iff_of_true rfl none_ripe
  next first later ripes =>
    refine iff_of_false (fun zero => ?_) (by simp [ripes])
    split at zero <;> cases zero

theorem counters_double : (threshold trade.data * 1.5 ≤ profit trade.data price ∧
    trade.stage = 1) ↔ trade.Doubles price := by
  refine and_congr_right fun _ => ?_
  unfold stage
  split
  next none_ripe => exact iff_of_false nofun fun ripes => ripes.1 none_ripe
  next first later ripes => simp [ripes]

/-- The counters after one price more. -/
theorem holding_add (strategy : Track5GapDivergence) (trade : GapTrade) (price : ℚ) :
    holding strategy (some (trade.add price)) = { strategy with
      state := { state (some trade) with
        openTicks := trade.prices.length + 1
        peakPnl := max trade.peak (profit trade.data price)
        trailingActive := decide (threshold trade.data ≤ trade.peak) ||
          decide (threshold trade.data ≤ profit trade.data price)
        liquidityStage := (trade.add price).stage } } := by
  have armed : decide (threshold trade.data ≤ (trade.add price).peak) =
      (decide (threshold trade.data ≤ trade.peak) ||
        decide (threshold trade.data ≤ profit trade.data price)) := by
    rw [peak_add, ← Bool.decide_or, decide_eq_decide]
    exact le_max_iff
  have ticks : (trade.add price).prices.length = trade.prices.length + 1 := List.length_append
  rw [← armed, ← peak_add, ← ticks]
  rfl

/-- Without a trade an evaluation looks at the gap. -/
theorem evaluateGap_none (strategy : Track5GapDivergence) (data : Track5MarketInput) :
    (holding strategy none).evaluateGap data =
      ((evaluate strategy data none).1, holding strategy (evaluate strategy data none).2) := by
  unfold evaluate
  by_cases enters : Enters data strategy
  · obtain ⟨close, vol, wide, narrow⟩ := enters
    have sound : ¬(data.previousClose ≤ 0 ∨ data.activeVol < 0) := by
      rintro (le | lt) <;> linarith
    have within : ¬(|zScore data| < strategy.effectiveZThreshold data.regime ∨
        4 ≤ |zScore data|) := by
      rintro (lt | le) <;> linarith
    rw [if_pos ⟨close, vol, wide, narrow⟩]
    refine (if_neg sound).trans ((if_neg ((dailyStd_pos close).mpr vol).not_ge).trans
      ((if_neg within).trans ?_))
    have unarmed : decide (threshold data ≤ peak ⟨data, []⟩) = false :=
      decide_eq_false (threshold_pos data).not_ge
    simp only [holding, state, unarmed]
    rfl
  · rw [if_neg enters]
    by_cases unsound : data.previousClose ≤ 0 ∨ data.activeVol < 0
    · exact if_pos unsound
    refine (if_neg unsound).trans ?_
    by_cases flat : dailyStd data ≤ 0
    · exact if_pos flat
    refine (if_neg flat).trans (if_pos ?_)
    push Not at unsound flat
    have vol := (dailyStd_pos unsound.1).mp flat
    by_contra within
    push Not at within
    exact enters ⟨unsound.1, vol, within⟩

/-- With a trade it looks at the price. -/
theorem evaluateMeanReversion_some (strategy : Track5GapDivergence) (trade : GapTrade)
    (price : ℚ) :
    (holding strategy (some trade)).evaluateMeanReversion price =
      ((trade.atPrice price).1, holding strategy (trade.atPrice price).2) := by
  unfold atPrice
  by_cases reach : Reaches trade.data price
  · rw [if_pos reach]
    exact if_pos reach
  by_cases stops : StopsOut trade.data price
  · rw [if_neg reach, if_pos stops]
    exact (if_neg reach).trans (if_pos stops)
  by_cases late : 29 ≤ trade.prices.length
  · rw [if_neg reach, if_neg stops, if_pos late]
    exact (if_neg reach).trans ((if_neg stops).trans (if_pos (Nat.succ_le_succ late)))
  have early : ¬30 ≤ trade.prices.length + 1 := mt Nat.le_of_succ_le_succ late
  rw [if_neg reach, if_neg stops, if_neg late]
  refine (if_neg reach).trans ((if_neg stops).trans ((if_neg early).trans ?_))
  by_cases locks : trade.Locks price
  · rw [if_pos locks, ← max_eq_left (lt_peak_of_locks locks).le]
    exact if_pos (counters_lock.mpr locks)
  rw [if_neg locks]
  refine (if_neg (mt counters_lock.mp locks)).trans ?_
  by_cases ripens : trade.Ripens price
  · rw [if_pos ripens, holding_add, stage_add, if_pos ripens]
    exact if_pos (counters_ripen.mpr ripens)
  rw [if_neg ripens]
  refine (if_neg (mt counters_ripen.mp ripens)).trans ?_
  by_cases doubles : trade.Doubles price
  · rw [if_pos doubles, holding_add, stage_add, if_neg ripens, if_pos doubles]
    exact if_pos (counters_double.mpr doubles)
  · rw [if_neg doubles, holding_add, stage_add, if_neg ripens, if_neg doubles]
    exact if_neg (mt counters_double.mp doubles)

end Agree

/-- What an evaluation signals and keeps is told by the trade. -/
theorem evaluateInput_holding (strategy : Track5GapDivergence) (trade : Option GapTrade)
    (data : Track5MarketInput) :
    (holding strategy trade).evaluateInput data =
      ((evaluate strategy data trade).1, holding strategy (evaluate strategy data trade).2) := by
  cases trade with
  | none =>
    rw [← evaluateGap_none]
    unfold evaluateInput
    cases data.currentPrice <;> rfl
  | some trade =>
    unfold evaluateInput evaluate
    cases data.currentPrice with
    | none => rfl
    | some price => exact evaluateMeanReversion_some strategy trade price

/-! ## Runs -/

end GapTrade

namespace Track5GapDivergence

/-- The signals of evaluations one after another. -/
def signals (self : Track5GapDivergence) : List Track5MarketInput → List (List Track5Signal)
  | [] => []
  | data :: rest =>
    let (given, next) := self.evaluateInput data
    given :: next.signals rest

theorem signals_holding (strategy : Track5GapDivergence) (trade : Option GapTrade)
    (inputs : List Track5MarketInput) :
    (GapTrade.holding strategy trade).signals inputs = GapTrade.signals strategy trade inputs := by
  induction inputs generalizing trade with
  | nil => rfl
  | cons data rest ih =>
    rw [signals, GapTrade.evaluateInput_holding]
    exact congrArg _ (ih _)

/-- Whatever the strategy is given to evaluate, its signals are those that the prices of its trades
ask for. -/
theorem signals_of_prices (strategy : Track5GapDivergence) (inputs : List Track5MarketInput) :
    strategy.reset.signals inputs = GapTrade.signals strategy none inputs :=
  signals_holding strategy none inputs

end Track5GapDivergence
end OptionProject.Strategies
