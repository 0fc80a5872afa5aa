import Mathlib.Algebra.Order.Ring.Rat
import Mathlib.Data.Rat.Defs

/-!
# Track 5, gap divergence

`core/strategy/track5_gap_divergence.py` in exact arithmetic. A gap at the open is sold or bought
back towards the previous close; the position is left at its target, its stop, after 30 ticks, or
when the profit falls back from its peak.

## Main definitions

* `Track5GapDivergence.evaluateGap` — the entry.
* `Track5GapDivergence.evaluateMeanReversion` — one tick of an open position.
* `Track5GapDivergence.evaluateInput` — one evaluation.
-/
namespace OptionProject.Strategies

structure Track5MarketInput where
  openPrice : ℚ
  previousClose : ℚ
  activeVol : ℚ
  regime : String := "NORMAL"
  currentPrice : Option ℚ := none
  deriving DecidableEq

inductive GapDirection
  | short
  | long
  deriving DecidableEq, Repr

structure Track5State where
  isActive : Bool := false
  direction : Option GapDirection := none
  entryPrice : ℚ := 0
  targetPrice : ℚ := 0
  stopLossPrice : ℚ := 0
  openTicks : ℕ := 0
  peakPnl : ℚ := 0
  trailingActive : Bool := false
  liquidityStage : ℕ := 0
  dailyStdPts : ℚ := 1.5
  deriving DecidableEq

/-- The numbers that the reason text of a signal shows, under its heading. -/
inductive Track5Reason
  | gapZScore (zScore entry target stop : ℚ)
  | meanReversionTarget (target pnl : ℚ)
  | dynamicStop (stop pnl : ℚ)
  | timeout15M (pnl : ℚ)
  | trailingLock (peak reversal pnl : ℚ)
  | liquidityStage1 (price pnl : ℚ)
  | liquidityStage2 (price pnl : ℚ)
  deriving DecidableEq

inductive Track5Direction
  | entry (direction : GapDirection)
  | close
  | liquidity
  deriving DecidableEq, Repr

def Track5Direction.value : Track5Direction → String
  | .entry .short => "SHORT"
  | .entry .long => "LONG"
  | .close => "CLOSE"
  | .liquidity => "LIQUIDITY"

structure Track5Signal where
  direction : Track5Direction
  confidence : ℚ
  reason : Track5Reason
  deriving DecidableEq

structure Track5GapDivergence where
  zThreshold : ℚ := 1.5
  state : Track5State := {}
  deriving DecidableEq

namespace Track5GapDivergence

def reset (self : Track5GapDivergence) : Track5GapDivergence := { self with state := {} }

def dailyStdPoints (previousClose activeVol : ℚ) : ℚ :=
  previousClose * (0.15 / 15.874507866) * activeVol

def effectiveZThreshold (self : Track5GapDivergence) (regime : String) : ℚ :=
  if regime ∈ ["HIGH_VOL", "NOISE_CHOPPY", "CIRCUIT_BREAKER"] then 1.8
  else if regime ∈ ["NORMAL", "NEUTRAL"] then 1.1
  else self.zThreshold

def evaluateGap (self : Track5GapDivergence) (data : Track5MarketInput) :
    List Track5Signal × Track5GapDivergence :=
  if self.state.isActive then ([], self)
  else if data.previousClose ≤ 0 ∨ data.activeVol < 0 then ([], self)
  else
    let gap := data.openPrice - data.previousClose
    let dailyStd := dailyStdPoints data.previousClose data.activeVol
    if dailyStd ≤ 0 then ([], self)
    else
      let zScore := gap / max 0.1 dailyStd
      if |zScore| < self.effectiveZThreshold data.regime ∨ 4 ≤ |zScore| then ([], self)
      else
        let stopDistance := max 1 (dailyStd * 0.8)
        let direction := if 0 < zScore then GapDirection.short else .long
        let stop :=
          match direction with
          | .short => data.openPrice + stopDistance
          | .long => data.openPrice - stopDistance
        ([⟨.entry direction, min 1 (|zScore| / 4),
            .gapZScore zScore data.openPrice data.previousClose stop⟩],
          { self with
            state :=
              { isActive := true
                direction := some direction
                entryPrice := data.openPrice
                targetPrice := data.previousClose
                stopLossPrice := stop
                openTicks := 0
                peakPnl := 0
                trailingActive := false
                liquidityStage := 0
                dailyStdPts := dailyStd } })

def profit (state : Track5State) (direction : GapDirection) (currentPrice : ℚ) : ℚ :=
  match direction with
  | .short => state.entryPrice - currentPrice
  | .long => currentPrice - state.entryPrice

/-- The price has come to the target. -/
def reaches (state : Track5State) (direction : GapDirection) (currentPrice : ℚ) : Prop :=
  match direction with
  | .short => currentPrice ≤ state.targetPrice
  | .long => state.targetPrice ≤ currentPrice

/-- The price has come to the stop. -/
def stopsOut (state : Track5State) (direction : GapDirection) (currentPrice : ℚ) : Prop :=
  match direction with
  | .short => state.stopLossPrice ≤ currentPrice
  | .long => currentPrice ≤ state.stopLossPrice

instance (state : Track5State) (direction : GapDirection) (currentPrice : ℚ) :
    Decidable (reaches state direction currentPrice) :=
  match direction with
  | .short => inferInstanceAs (Decidable (currentPrice ≤ state.targetPrice))
  | .long => inferInstanceAs (Decidable (state.targetPrice ≤ currentPrice))

instance (state : Track5State) (direction : GapDirection) (currentPrice : ℚ) :
    Decidable (stopsOut state direction currentPrice) :=
  match direction with
  | .short => inferInstanceAs (Decidable (state.stopLossPrice ≤ currentPrice))
  | .long => inferInstanceAs (Decidable (currentPrice ≤ state.stopLossPrice))

/-- The larger the profit, the tighter the lock. -/
def reversalScale (pnlRatio : ℚ) : ℚ :=
  if 1 ≤ pnlRatio then 0.67 else if 0.3 ≤ pnlRatio then 0.80 else 1

def evaluateMeanReversion (self : Track5GapDivergence) (currentPrice : ℚ) :
    List Track5Signal × Track5GapDivergence :=
  match self.state.isActive, self.state.direction with
  | true, some direction =>
    let pnl := profit self.state direction currentPrice
    let state : Track5State := { self.state with
      openTicks := self.state.openTicks + 1
      peakPnl := max self.state.peakPnl pnl }
    let trailThreshold : ℚ := max 0.3 (state.dailyStdPts * 0.3)
    let trailReversal : ℚ := max 0.1 (state.dailyStdPts * 0.1)
    if reaches state direction currentPrice then
      ([⟨.close, 1, .meanReversionTarget state.targetPrice pnl⟩], self.reset)
    else if stopsOut state direction currentPrice then
      ([⟨.close, 1, .dynamicStop state.stopLossPrice pnl⟩], self.reset)
    else if 30 ≤ state.openTicks then ([⟨.close, 1, .timeout15M pnl⟩], self.reset)
    else
      let trailingActive := state.trailingActive || trailThreshold ≤ pnl
      let pnlRatio := pnl / max 0.1 state.dailyStdPts
      let effectiveReversal := trailReversal * reversalScale pnlRatio
      let state : Track5State := { state with trailingActive }
      if trailingActive ∧ effectiveReversal ≤ state.peakPnl - pnl then
        ([⟨.close, 1, .trailingLock state.peakPnl effectiveReversal pnl⟩], self.reset)
      else if trailThreshold * 0.75 ≤ pnl ∧ state.liquidityStage = 0 then
        ([⟨.liquidity, 0.7, .liquidityStage1 currentPrice pnl⟩],
          { self with state := { state with liquidityStage := 1 } })
      else if trailThreshold * 1.5 ≤ pnl ∧ state.liquidityStage = 1 then
        ([⟨.liquidity, 0.8, .liquidityStage2 currentPrice pnl⟩],
          { self with state := { state with liquidityStage := 2 } })
      else ([], { self with state })
  | _, _ => ([], self)

def evaluateInput (self : Track5GapDivergence) (data : Track5MarketInput) :
    List Track5Signal × Track5GapDivergence :=
  match data.currentPrice with
  | none => self.evaluateGap data
  | some currentPrice =>
    if self.state.isActive then self.evaluateMeanReversion currentPrice else self.evaluateGap data

end Track5GapDivergence
end OptionProject.Strategies
