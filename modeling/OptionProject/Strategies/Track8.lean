import OptionProject.Risk.Engine

/-!
# Track 8, macro regime monthly strangle

`core/strategy/track8_macro_regime_monthly_strangle.py` in exact arithmetic. A strangle is bought at
least 15 days before its expiry, may be rebuilt around the price once it has its profit, and is
closed by a trailing stop on its intrinsic value or by the cutoff of its last four days. One
evaluation calls the five evaluators on one state.

## Main definitions

* `Track8MacroRegimeMonthlyStrangle.evaluateEntry` — the entry, and the reset on another date.
* `Track8MacroRegimeMonthlyStrangle.evaluateTakeProfit` — the trailing stop.
* `Track8MacroRegimeMonthlyStrangle.evaluateInput` — one evaluation.
-/
namespace OptionProject.Strategies
open Library
open Risk.RiskEngine (truncate)

structure Track8MarketInput where
  dte : ℚ
  budget : ℚ
  currentPrice : ℚ
  currentRegime : String
  dateStr : String
  currentPnl : ℚ := 0
  totalFees : ℚ := 0
  timeStr : String := "09:00:00"
  activeVol : ℚ := 1
  marginRatio : ℚ := 0
  riskGuardActive : Bool := false
  deriving DecidableEq

structure Track8State where
  isActive : Bool := false
  premiumSpent : ℚ := 0
  callStrike : ℚ := 0
  putStrike : ℚ := 0
  qtyCall : ℤ := 0
  qtyPut : ℤ := 0
  entryDate : Option String := none
  highWatermarkIntrinsic : ℚ := 0
  trailingStopActive : Bool := false
  hysteresisHoldCounter : ℤ := 0
  deriving DecidableEq

inductive Track8Direction
  | buyLimitTranche
  | takeProfitHybridTrailingStop
  | updateTrailing
  | macroHedgeScaleUp
  | dynamicProfitTake
  | dynamicRebuildFence
  | cancelPendingTranches
  | holdLongAttack
  | holdHysteresis
  | flatStrangle
  deriving DecidableEq, Repr

def Track8Direction.value : Track8Direction → String
  | .buyLimitTranche => "BUY_LIMIT_TRANCHE"
  | .takeProfitHybridTrailingStop => "TAKE_PROFIT_HYBRID_TRAILING_STOP"
  | .updateTrailing => "UPDATE_TRAILING"
  | .macroHedgeScaleUp => "MACRO_HEDGE_SCALE_UP"
  | .dynamicProfitTake => "DYNAMIC_PROFIT_TAKE"
  | .dynamicRebuildFence => "DYNAMIC_REBUILD_FENCE"
  | .cancelPendingTranches => "CANCEL_PENDING_TRANCHES"
  | .holdLongAttack => "HOLD_LONG_ATTACK"
  | .holdHysteresis => "HOLD_HYSTERESIS"
  | .flatStrangle => "FLAT_STRANGLE"

/-- A reason: its fixed text, or the numbers that it shows. -/
inductive Track8Reason
  | text (reason : String)
  | tranche (dte callStrike putStrike : ℚ) (qtyCall qtyPut : ℤ)
  | realized (intrinsic high ratio : ℚ)
  | trailing (high stop : ℚ)
  | rebuilt (oldCall oldPut netPnl : ℚ)
  | fence (callStrike putStrike : ℚ) (qty : ℤ)
  | flat (dte : ℚ) (qtyCall qtyPut : ℤ) (spent : ℚ)
  deriving DecidableEq

structure Track8Signal where
  direction : Track8Direction
  confidence : ℚ
  reason : Track8Reason
  deriving DecidableEq

structure Track8MacroRegimeMonthlyStrangle where
  profitTarget : ℚ := 300000
  state : Track8State := {}
  deriving DecidableEq

namespace Track8MacroRegimeMonthlyStrangle

def minBudget : ℚ := 200000
def dteEntry : ℚ := 15
def strikeOffset : ℚ := 15
def multiplier : ℚ := 250000

def reset (self : Track8MacroRegimeMonthlyStrangle) : Track8MacroRegimeMonthlyStrangle :=
  { self with state := {} }

def atmStrike (price : ℚ) : ℚ := roundHalfEven (price / 2.5) * 2.5

/-! ## Entry -/

/-- Another date than that of the entry: the state is dropped. -/
def rollOver (self : Track8MacroRegimeMonthlyStrangle) (data : Track8MarketInput) :
    Track8MacroRegimeMonthlyStrangle :=
  if self.state.entryDate.isSome ∧ self.state.entryDate ≠ some data.dateStr then self.reset
  else self

def enter (self : Track8MacroRegimeMonthlyStrangle) (data : Track8MarketInput) :
    List Track8Signal × Track8MacroRegimeMonthlyStrangle :=
  if self.state.isActive then ([], self)
  else if data.dte < dteEntry ∨ data.budget < minBudget then ([], self)
  else
    let skewRatio : ℚ := if data.currentRegime = "HIGH_VOL" then 2 else 1.5
    let atm := atmStrike data.currentPrice
    let callStrike := atm + strikeOffset
    let putStrike := atm - strikeOffset
    let unitCost := (1.20 + skewRatio * 1.50) * multiplier
    let baseQty : ℤ := max 1 (truncate (data.budget / max 1 unitCost))
    let qtyCall := baseQty
    let qtyPut := truncate (baseQty * skewRatio)
    let estimatedCost := (qtyCall * 1.20 + qtyPut * 1.50) * multiplier
    if data.budget < estimatedCost then ([], self)
    else
      ([⟨.buyLimitTranche, 1, .tranche data.dte callStrike putStrike qtyCall qtyPut⟩],
        { self with
          state := { self.state with
            isActive := true
            premiumSpent := estimatedCost
            callStrike
            putStrike
            qtyCall
            qtyPut
            entryDate := some data.dateStr } })

def evaluateEntry (self : Track8MacroRegimeMonthlyStrangle) (data : Track8MarketInput) :
    List Track8Signal × Track8MacroRegimeMonthlyStrangle :=
  (self.rollOver data).enter data

/-! ## The trailing stop -/

def intrinsicValue (state : Track8State) (currentPrice : ℚ) : ℚ :=
  let qty := max (max state.qtyCall state.qtyPut) 1
  let putIntrinsic := max 0 (state.putStrike - currentPrice) * multiplier * qty
  let callIntrinsic := max 0 (currentPrice - state.callStrike) * multiplier * qty
  putIntrinsic + callIntrinsic

/-- The multiple of the premium from which the value is watched. -/
def minMultiplier (data : Track8MarketInput) : ℚ := if data.activeVol < 1.3 then 1.8 else 2.5

/-- The part of the highest value that the stop keeps. -/
def trailingRatio (high premiumSpent : ℚ) : ℚ :=
  let pnlRatio := high / max 1 premiumSpent
  if 2 ≤ pnlRatio then 0.90 else if 1.3 ≤ pnlRatio then 0.88 else 0.85

def evaluateTakeProfit (self : Track8MacroRegimeMonthlyStrangle) (data : Track8MarketInput) :
    List Track8Signal × Track8MacroRegimeMonthlyStrangle :=
  if !self.state.isActive then ([], self)
  else
    let intrinsic := intrinsicValue self.state data.currentPrice
    if intrinsic < self.state.premiumSpent * minMultiplier data then ([], self)
    else
      let prevHigh := self.state.highWatermarkIntrinsic
      let high := max prevHigh intrinsic
      let ratio := trailingRatio high self.state.premiumSpent
      let stop := high * ratio
      if intrinsic ≤ stop then
        ([⟨.takeProfitHybridTrailingStop, 1, .realized intrinsic high ratio⟩], self.reset)
      else
        let state : Track8State := { self.state with
          trailingStopActive := true
          highWatermarkIntrinsic := high }
        if prevHigh = 0 ∨ prevHigh * 1.01 ≤ high then
          ([⟨.updateTrailing, 0.9, .trailing high stop⟩], { self with state })
        else ([], { self with state })

/-! ## Regime and rebuild -/

def evaluateMacroRegimeProtection (data : Track8MarketInput) : List Track8Signal :=
  if data.currentRegime ∈ ["HIGH_VOL", "CIRCUIT_BREAKER", "CRASH"] then
    [⟨.macroHedgeScaleUp, 1,
      .text ("REGIME:" ++ data.currentRegime ++ ";HEDGE_MULTIPLIER:1.5")⟩]
  else []

def evaluateProfitRebuild (self : Track8MacroRegimeMonthlyStrangle) (data : Track8MarketInput) :
    List Track8Signal × Track8MacroRegimeMonthlyStrangle :=
  if !self.state.isActive then ([], self)
  else if data.riskGuardActive ∨ 0.85 < data.marginRatio then ([], self)
  else
    let netPnl := data.currentPnl - data.totalFees
    if netPnl < self.profitTarget then ([], self)
    else
      let atm := atmStrike data.currentPrice
      let newCall := atm + strikeOffset
      let newPut := atm - strikeOffset
      let qty := max (max self.state.qtyCall self.state.qtyPut) 1
      ([⟨.dynamicProfitTake, 1, .rebuilt self.state.callStrike self.state.putStrike netPnl⟩,
          ⟨.dynamicRebuildFence, 1, .fence newCall newPut qty⟩],
        { self with
          state := { self.state with
            isActive := true
            callStrike := newCall
            putStrike := newPut
            highWatermarkIntrinsic := 0
            trailingStopActive := false } })

/-! ## The last days -/

/-- The price is within three percent of the strike. -/
def near (strike currentPrice : ℚ) : Bool :=
  0 < strike && |currentPrice - strike| / max 1 strike ≤ 0.03

def evaluateExpiryCutoff (self : Track8MacroRegimeMonthlyStrangle) (data : Track8MarketInput) :
    List Track8Signal × Track8MacroRegimeMonthlyStrangle :=
  if !self.state.isActive then ([], self)
  else if "15:15" ≤ data.timeStr ∧ data.timeStr < "15:20" then
    ([⟨.cancelPendingTranches, 1, .text "15:15_CANCEL_PENDING_TRANCHES"⟩], self)
  else if 4 < data.dte then ([], self)
  else if near self.state.callStrike data.currentPrice ∨
      near self.state.putStrike data.currentPrice ∨ 1.5 ≤ data.activeVol then
    ([⟨.holdLongAttack, 0.9, .text "D4_D0_MONEYNESS_OR_IV_EXPANSION"⟩],
      { self with
        state := { self.state with
          hysteresisHoldCounter := self.state.hysteresisHoldCounter + 1 } })
  else if 0 < self.state.hysteresisHoldCounter then
    ([⟨.holdHysteresis, 0.8, .text "TIME_WEIGHTED_HYSTERESIS"⟩],
      { self with
        state := { self.state with
          hysteresisHoldCounter := self.state.hysteresisHoldCounter - 1 } })
  else
    ([⟨.flatStrangle, 1,
        .flat data.dte self.state.qtyCall self.state.qtyPut self.state.premiumSpent⟩], self.reset)

def evaluateInput (self : Track8MacroRegimeMonthlyStrangle) (data : Track8MarketInput) :
    List Track8Signal × Track8MacroRegimeMonthlyStrangle :=
  let (entry, self) := self.evaluateEntry data
  let protection := evaluateMacroRegimeProtection data
  let (takeProfit, self) := self.evaluateTakeProfit data
  let (rebuild, self) := self.evaluateProfitRebuild data
  let (cutoff, self) := self.evaluateExpiryCutoff data
  (entry ++ protection ++ takeProfit ++ rebuild ++ cutoff, self)

end Track8MacroRegimeMonthlyStrangle
end OptionProject.Strategies
