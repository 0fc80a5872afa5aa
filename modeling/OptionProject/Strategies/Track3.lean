import OptionProject.Contracts.Types

/-!
# Track 3, statistical arbitrage

`core/strategy/track3_statistical_arbitrage.py`. The floats are a type with the operations the code
uses and no laws, so that rounding, infinities and NaN are included; operations of the standard
library that can raise do so here.

## Main definitions

* `FloatArithmetic` — the operations on floats.
* `Track3StatisticalArbitrage.evaluateInput` — one evaluation: roll-over, entry or exit.
* `Track3StatisticalArbitrage.exitRule` — the rules that close a position after 15:15 is ruled out.
-/
namespace OptionProject.Strategies
open Library Contracts

/-! ## Floats -/

class FloatArithmetic (F : Type) extends Add F, Sub F, Mul F, Div F, Neg F where
  lit : ℚ → F
  /-- An integer too large for a float raises. -/
  ofInt : ℤ → Except Raised F
  abs : F → F
  lt : F → F → Bool
  le : F → F → Bool
  /-- `==` on floats. -/
  same : F → F → Bool
  isFinite : F → Bool
  mean : List F → Except Raised F
  pstdev : List F → Except Raised F
  /-- `repr(number)`. -/
  text : F → String

export FloatArithmetic (lit)

section Floats

variable {F : Type} [FloatArithmetic F]

/-- `max(a, b)` keeps the first unless the second is larger. -/
def larger (a b : F) : F := if FloatArithmetic.lt a b then b else a

/-- `a >= b`. -/
def atLeast (a b : F) : Bool := FloatArithmetic.le b a

end Floats

/-! ## Inputs -/

/-- An option leg, with the conversions of its values, which may raise. -/
structure OptionLeg (F : Type) where
  strike : Except Raised F
  price : Except Raised F
  qty : Except Raised ℤ
  side : String := "BUY"
  type : String := "CALL"
  currentMarketPrice : Option (Except Raised F) := none

structure Track3MarketInput (F : Type) where
  spreadHistory : List F
  activeVol : F
  baseVol : F
  priceChangeRate : F
  bidAskSpread : F
  gapPct : F
  isGap : Bool := false
  timeStr : String := "09:00:00"
  marketStable : Bool := false
  spreadNormalizing : Bool := false
  allowSizeUp : Bool := false
  currentPnl : F
  totalFees : F
  premiumSpent : F
  currentPrice : F
  optionsLegs : List (OptionLeg F) := []
  regime : Option String := none
  dateStr : String := ""

inductive MarketRegime
  | normal
  | highVolatility
  | extremeMove
  | gap
  deriving DecidableEq, Repr

def MarketRegime.value : MarketRegime → String
  | .normal => "NORMAL"
  | .highVolatility => "HIGH_VOLATILITY"
  | .extremeMove => "EXTREME_MOVE"
  | .gap => "GAP"

/-! ## Signals -/

inductive SpreadPosition
  | short
  | long
  deriving DecidableEq, Repr

def SpreadPosition.value : SpreadPosition → String
  | .short => "SHORT_SPREAD"
  | .long => "LONG_SPREAD"

inductive StatArbAction
  | execute
  | close
  deriving DecidableEq, Repr

def StatArbAction.value : StatArbAction → String
  | .execute => "EXECUTE_STAT_ARB"
  | .close => "CLOSE_STAT_ARB"

/-- A signal, with the payload that its reason text shows. -/
structure StatArbSignal (F : Type) where
  strategyId : String
  direction : String
  label : String
  action : StatArbAction
  groupId : Option String
  qty : ℤ
  expectedNetPnl : Option F := none
  deriving DecidableEq

/-- The reason text, with the payload as a dictionary is printed. -/
def StatArbSignal.reason {F : Type} [FloatArithmetic F] [UnicodeTable] (signal : StatArbSignal F) :
    String :=
  let groupId := [("group_id", signal.groupId.elim "None" quoted)]
  let qty := [("qty", toString signal.qty)]
  let net := (signal.expectedNetPnl.map fun net =>
    ("expected_net_pnl", FloatArithmetic.text net)).toList
  let details :=
    match signal.action with
    | .execute => groupId ++ qty ++ net
    | .close => groupId ++ net ++ qty
  let payload :=
    ("action", quoted signal.action.value) :: ("position", quoted signal.direction) :: details
  signal.label ++ " | \x7b" ++
    ", ".intercalate (payload.map fun entry => quoted entry.1 ++ ": " ++ entry.2) ++ "\x7d"

structure Track3Result (F : Type) where
  status : String
  regime : String
  zScore : F
  signals : List (StatArbSignal F) := []
  deriving DecidableEq

structure GroupLeg where
  groupId : Option String
  legType : String
  qty : ℤ
  deriving DecidableEq, Repr

/-! ## The strategy -/

structure Track3StatisticalArbitrage (F : Type) where
  strategyId : String := "Strategy_3_StatArb"
  zEntryThreshold : F
  zExitThreshold : F
  zStopLossThreshold : F
  maxHoldingTicks : ℤ := 300
  minRequiredProfit : F
  baseRoundTripCost : F
  activePosition : Option SpreadPosition := none
  activeGroupId : Option String := none
  groupSequence : ℕ := 0
  cooldownTicks : ℤ := 0
  holdingTicks : ℤ := 0
  lastExitZScore : Option F := none
  groupIntegrity : Bool := true
  positionGroupLegs : List GroupLeg := []
  arbHighPnl : F
  currentDate : String := ""

namespace Track3StatisticalArbitrage

variable {F : Type} [FloatArithmetic F]

def reset (self : Track3StatisticalArbitrage F) : Track3StatisticalArbitrage F :=
  { self with
    activePosition := none
    activeGroupId := none
    groupSequence := 0
    cooldownTicks := 0
    holdingTicks := 0
    lastExitZScore := none
    groupIntegrity := true
    positionGroupLegs := []
    arbHighPnl := lit 0
    currentDate := "" }

/-- The score of the last spread, and whether there is one. -/
def calculateZScore (spreadSeries : List F) : Except Raised (F × Bool) :=
  match spreadSeries.getLast? with
  | none => .ok (lit 0, false)
  | some last =>
    if spreadSeries.length < 10 then .ok (lit 0, false)
    else if !spreadSeries.all FloatArithmetic.isFinite then .ok (lit 0, false)
    else do
      let std ← FloatArithmetic.pstdev spreadSeries
      if FloatArithmetic.same std (lit 0) then .ok (lit 0, true)
      else
        let mean ← FloatArithmetic.mean spreadSeries
        .ok ((last - mean) / std, true)

def volRatio (data : Track3MarketInput F) : F := data.activeVol / larger (lit 0.1) data.baseVol

def detectMarketRegime (data : Track3MarketInput F) : MarketRegime :=
  if data.regime ∈ [some "HIGH_VOL", some "HIGH_VOLATILITY"] then .highVolatility
  else if data.regime ∈ [some "EXTREME_MOVE", some "CIRCUIT_BREAKER", some "CRASH"] then
    .extremeMove
  else if data.regime ∈ [some "GAP", some "GAP_OPEN"] then .gap
  else if data.isGap ∨
      data.timeStr < "09:05:00" ∧ atLeast (FloatArithmetic.abs data.gapPct) (lit 0.008) then .gap
  else if atLeast (FloatArithmetic.abs data.priceChangeRate) (lit 0.02) ∨
      atLeast (volRatio data) (lit 2.5) then .extremeMove
  else if atLeast (volRatio data) (lit 1.4) ∨ FloatArithmetic.lt (lit 0.3) data.bidAskSpread then
    .highVolatility
  else .normal

def estimateRoundTripCost (self : Track3StatisticalArbitrage F) (regime : MarketRegime) (qty : ℚ)
    (data : Track3MarketInput F) : F :=
  let spreadCost := data.bidAskSpread * lit 250000
  let slippageTicks : F :=
    match regime with
    | .normal => lit 1
    | .highVolatility => lit 2
    | _ => lit 3
  let slippage := slippageTicks * lit 0.05 * lit 250000 * lit qty
  lit 3000 * lit 2 * lit qty + slippage + spreadCost * lit qty + self.baseRoundTripCost

def calculateExpectedGrossProfit (zScore : F) (spreadHistory : List F) (qty : ℚ) :
    Except Raised F :=
  if spreadHistory.length < 10 then .ok (lit 0)
  else do
    let std ← FloatArithmetic.pstdev spreadHistory
    .ok (FloatArithmetic.abs zScore * std * lit 0.8 * lit 250000 * lit qty)

/-- The profit of one option leg; a leg without a strike counts nothing. -/
def legCarry (data : Track3MarketInput F) (leg : OptionLeg F) : Except Raised (Option F) := do
  let strike ← leg.strike
  let entry ← leg.price
  let qty ← leg.qty
  if FloatArithmetic.le strike (lit 0) then .ok none
  else
    let intrinsic :=
      if leg.type = "CALL" then larger (lit 0) (data.currentPrice - strike)
      else larger (lit 0) (strike - data.currentPrice)
    let market ← leg.currentMarketPrice.getD (.ok intrinsic)
    let qty ← FloatArithmetic.ofInt qty
    if leg.side = "BUY" then .ok (some ((market - entry) * qty * lit 250000))
    else .ok (some ((entry - market) * qty * lit 250000))

def calculateOptionsCarryAndTheta (data : Track3MarketInput F) : Except Raised F :=
  data.optionsLegs.foldlM (fun total leg => do
    let carry ← legCarry data leg
    .ok (carry.elim total (total + ·))) (lit 0)

/-- What a regime asks of an entry: threshold, minimum profit and quantity. -/
structure EntryTerms (F : Type) where
  threshold : F
  minProfit : F
  qty : ℤ

def entryTerms (self : Track3StatisticalArbitrage F) (data : Track3MarketInput F)
    (regime : MarketRegime) (zScore : F) : EntryTerms F :=
  match regime with
  | .highVolatility =>
    ⟨larger (lit 2.2) (self.zEntryThreshold * volRatio data * lit 1.2),
      self.minRequiredProfit * lit 1.5, 1⟩
  | .extremeMove => ⟨lit 999, self.minRequiredProfit * lit 3, 0⟩
  | .gap =>
    ⟨larger (lit 2) (self.zEntryThreshold * lit 1.1), self.minRequiredProfit * lit 1.3, 1⟩
  | .normal =>
    ⟨larger (lit 1.5) (self.zEntryThreshold * volRatio data), self.minRequiredProfit,
      if atLeast (FloatArithmetic.abs zScore) (lit 2.5) ∧ data.allowSizeUp then 2 else 1⟩

/-- A new date forgets the position and the waiting times. -/
def rollOver (self : Track3StatisticalArbitrage F) (data : Track3MarketInput F) :
    Track3StatisticalArbitrage F :=
  if data.dateStr ≠ "" ∧ data.dateStr ≠ self.currentDate then
    { self with
      currentDate := data.dateStr
      cooldownTicks := 0
      holdingTicks := 0
      activePosition := none
      activeGroupId := none
      lastExitZScore := none
      positionGroupLegs := []
      groupIntegrity := true }
  else self

/-! ### Entry -/

def groupIdText (data : Track3MarketInput F) (groupSequence : ℕ) : String :=
  "ARB-GROUP-" ++ (if data.dateStr = "" then "UNKNOWN" else data.dateStr) ++ "-TRACK3-" ++
    zeroPadded 4 groupSequence

def openGroup (self : Track3StatisticalArbitrage F) (data : Track3MarketInput F)
    (position : SpreadPosition) (qty : ℤ) (net : F) :
    StatArbSignal F × Track3StatisticalArbitrage F :=
  let groupSequence := self.groupSequence + 1
  let groupId := groupIdText data groupSequence
  let legType :=
    match position with
    | .short => "FUTURES_SHORT"
    | .long => "FUTURES_LONG"
  ({ strategyId := self.strategyId
     direction := position.value
     label := "Z-score entry and expected net profit satisfied"
     action := .execute
     groupId := some groupId
     qty
     expectedNetPnl := some net },
    { self with
      groupSequence
      activeGroupId := some groupId
      activePosition := some position
      holdingTicks := 0
      arbHighPnl := lit 0
      groupIntegrity := true
      positionGroupLegs := [⟨some groupId, legType, qty⟩, ⟨some groupId, "HEDGE_LEG", qty⟩] })

def enter (self : Track3StatisticalArbitrage F) (data : Track3MarketInput F)
    (regime : MarketRegime) (zScore : F) :
    Outcome (Track3StatisticalArbitrage F) (Track3Result F) :=
  let terms := self.entryTerms data regime zScore
  if "15:00:00" ≤ data.timeStr ∨ regime = .extremeMove ∨ 0 < self.cooldownTicks then
    (.ok ⟨"ENTRY_BLOCK", regime.value, zScore, []⟩, self)
  else if regime = .gap ∧ !(data.marketStable && data.spreadNormalizing) then
    (.ok ⟨"GAP_UNSTABLE_HOLD", regime.value, zScore, []⟩, self)
  else if self.lastExitZScore.any fun last =>
      FloatArithmetic.lt (FloatArithmetic.abs (zScore - last)) (lit 0.8) then
    (.ok ⟨"OLD_DISLOCATION_BLOCK", regime.value, zScore, []⟩, self)
  else
    match calculateExpectedGrossProfit zScore data.spreadHistory terms.qty with
    | .error e => (.error e, self)
    | .ok gross =>
      let net := gross - self.estimateRoundTripCost regime terms.qty data
      if FloatArithmetic.lt net terms.minProfit then
        (.ok ⟨"PROFITABILITY_BLOCK", regime.value, zScore, []⟩, self)
      else if atLeast zScore terms.threshold then
        let (signal, opened) := self.openGroup data .short terms.qty net
        (.ok ⟨"ENTER", regime.value, zScore, [signal]⟩, opened)
      else if FloatArithmetic.le zScore (-terms.threshold) then
        let (signal, opened) := self.openGroup data .long terms.qty net
        (.ok ⟨"ENTER", regime.value, zScore, [signal]⟩, opened)
      else (.ok ⟨"HOLD", regime.value, zScore, []⟩, self)

/-! ### Exit -/

/-- How a position is closed. -/
structure Exit (F : Type) where
  status : String
  label : String
  cooldown : ℤ
  expectedNetPnl : Option F := none

def actionType : SpreadPosition → String
  | .short => "CLOSE_SHORT_SPREAD"
  | .long => "CLOSE_LONG_SPREAD"

/-- The signal that closes the active group. Its quantity is 1. -/
def closeSignal (self : Track3StatisticalArbitrage F) (position : SpreadPosition)
    (exit : Exit F) : StatArbSignal F where
  strategyId := self.strategyId
  direction := actionType position
  label := exit.label
  action := .close
  groupId := self.activeGroupId
  qty := 1
  expectedNetPnl := exit.expectedNetPnl

def close (self : Track3StatisticalArbitrage F) (position : SpreadPosition) (zScore : F)
    (exit : Exit F) : Track3Result F × Track3StatisticalArbitrage F :=
  (⟨exit.status, "", zScore, [self.closeSignal position exit]⟩,
    { self with
      lastExitZScore := some zScore
      activePosition := none
      activeGroupId := none
      positionGroupLegs := []
      cooldownTicks := exit.cooldown
      holdingTicks := 0 })

/-- `15:15` flattens whatever is held. -/
def flattens (data : Track3MarketInput F) : Prop := "15:15:00" ≤ data.timeStr

instance (data : Track3MarketInput F) : Decidable (flattens data) :=
  inferInstanceAs (Decidable ("15:15:00" ≤ data.timeStr))

/-- The profit fell from its high below the trailing share of it. -/
def trails (self : Track3StatisticalArbitrage F) (data : Track3MarketInput F)
    (effectivePnl : F) : Bool :=
  let ratio := self.arbHighPnl / larger (lit 1) data.premiumSpent
  let trailing : F :=
    if atLeast ratio (lit 2) then lit 0.9 else if atLeast ratio (lit 1.3) then lit 0.88
    else lit 0.85
  FloatArithmetic.lt (lit 30000) self.arbHighPnl &&
    FloatArithmetic.le effectivePnl (self.arbHighPnl * trailing)

def stops (self : Track3StatisticalArbitrage F) (position : SpreadPosition) (zScore : F) : Bool :=
  match position with
  | .short => atLeast zScore self.zStopLossThreshold
  | .long => FloatArithmetic.le zScore (-self.zStopLossThreshold)

def converged (self : Track3StatisticalArbitrage F) (position : SpreadPosition) (zScore : F) :
    Bool :=
  match position with
  | .short => FloatArithmetic.le zScore self.zExitThreshold
  | .long => atLeast zScore (-self.zExitThreshold)

/-- The rule that closes the position, if one does. -/
def exitRule (self : Track3StatisticalArbitrage F) (data : Track3MarketInput F)
    (regime : MarketRegime) (position : SpreadPosition) (zScore effectivePnl : F) :
    Option (Exit F) :=
  if self.trails data effectivePnl then
    some ⟨"TRAILING_PROFIT_LOCK", "high-watermark trailing profit lock", 20, none⟩
  else if self.stops position zScore then
    some ⟨"STOP_LOSS", "extreme Z-score stop loss", 40, none⟩
  else if self.maxHoldingTicks ≤ self.holdingTicks then
    some ⟨"TIMEOUT_EXIT", "maximum holding time reached", 20, none⟩
  else
    let netExit := effectivePnl - data.totalFees - self.estimateRoundTripCost regime 1 data
    let profitable := atLeast netExit (-lit 5000) ||
      regime = .highVolatility && FloatArithmetic.lt (lit 10000) effectivePnl ||
      regime = .gap && self.converged position zScore &&
        FloatArithmetic.lt (lit 5000) effectivePnl
    if self.converged position zScore && profitable && self.groupIntegrity then
      some ⟨"CLOSED", "convergence + profitability + integrity", 20, some netExit⟩
    else none

def count (self : Track3StatisticalArbitrage F) : Track3StatisticalArbitrage F :=
  { self with holdingTicks := self.holdingTicks + 1 }

/-- The profit is compared with the highest seen. -/
def watch (self : Track3StatisticalArbitrage F) (effectivePnl : F) :
    Track3StatisticalArbitrage F :=
  { self with arbHighPnl := larger self.arbHighPnl effectivePnl }

def hold (self : Track3StatisticalArbitrage F) (data : Track3MarketInput F)
    (regime : MarketRegime) (position : SpreadPosition) (zScore effectivePnl : F) :
    Track3Result F × Track3StatisticalArbitrage F :=
  if flattens data then
    self.count.close position zScore
      ⟨"MARKET_CLOSE_FLATTEN", "15:15 atomic position-group close", 20, none⟩
  else
    let watched := self.count.watch effectivePnl
    match watched.exitRule data regime position zScore effectivePnl with
    | some exit => watched.close position zScore exit
    | none => (⟨"HOLD", regime.value, zScore, []⟩, watched)

/-! ### One evaluation -/

def cool (self : Track3StatisticalArbitrage F) : Track3StatisticalArbitrage F :=
  if 0 < self.cooldownTicks then { self with cooldownTicks := self.cooldownTicks - 1 } else self

def evaluateInput (self : Track3StatisticalArbitrage F) (data : Track3MarketInput F) :
    Outcome (Track3StatisticalArbitrage F) (Track3Result F) :=
  let rolled := self.rollOver data
  match calculateZScore data.spreadHistory with
  | .error e => (.error e, rolled)
  | .ok (zScore, valid) =>
    let regime := detectMarketRegime data
    let cooled := rolled.cool
    if !valid then (.ok ⟨"HOLD", regime.value, zScore, []⟩, cooled)
    else
      match calculateOptionsCarryAndTheta data with
      | .error e => (.error e, cooled)
      | .ok carry =>
        match cooled.activePosition with
        | none => cooled.enter data regime zScore
        | some position =>
          let (result, next) := cooled.hold data regime position zScore (data.currentPnl + carry)
          (.ok result, next)

end Track3StatisticalArbitrage
end OptionProject.Strategies
