import OptionProject.Risk.Engine

/-!
# Track 6, daily tail insurance

`core/strategy/track6_daily_tail_insurance.py` in exact arithmetic. A strangle is bought when the
volatility rises far enough over its base, is trailed by its intrinsic value until 15:12, and is
closed by the cutoffs from 15:00 on. Two of its signals are built without their reason, which
raises.

## Main definitions

* `Track6DailyTailInsurance.evaluateBuy` — the entry.
* `Track6DailyTailInsurance.evaluateTakeProfit` — the trailing stop.
* `Track6DailyTailInsurance.evaluateInput` — one evaluation.
-/
namespace OptionProject.Strategies
open Library Contracts

structure Track6MarketInput where
  strategyId : String
  currentPrice : ℚ
  activeVol : ℚ
  baseVol : ℚ
  budget : ℚ
  dateStr : String
  timeStr : String := "09:00:00"
  deriving DecidableEq

structure Track6State where
  isActive : Bool := false
  boughtDate : Option String := none
  longPutStrike : ℚ := 0
  longCallStrike : ℚ := 0
  premiumSpent : ℚ := 0
  highWatermarkIntrinsic : ℚ := 0
  trailingStopActive : Bool := false
  deriving DecidableEq

inductive Track6Direction
  | cancel
  | buyInsurance
  | close
  | updateTrailing
  | closeLimit
  | closeFallback
  deriving DecidableEq, Repr

def Track6Direction.value : Track6Direction → String
  | .cancel => "CANCEL"
  | .buyInsurance => "BUY_INSURANCE"
  | .close => "CLOSE"
  | .updateTrailing => "UPDATE_TRAILING"
  | .closeLimit => "CLOSE_LIMIT"
  | .closeFallback => "CLOSE_FALLBACK"

/-- A reason: its fixed text, or the numbers that it shows. -/
inductive Track6Reason
  | text (reason : String)
  | volSpike (activeVol threshold : ℚ)
  deriving DecidableEq

structure Track6Signal where
  direction : Track6Direction
  confidence : ℚ
  reason : Track6Reason
  deriving DecidableEq

def missingReason : Raised :=
  ⟨.typeError, "Signal.__init__() missing 1 required positional argument: 'reason'"⟩

/-- `Signal(strategy_id, direction, confidence)`: the line of the reason is commented out. -/
def Track6Signal.withoutReason (_direction : Track6Direction) (_confidence : ℚ) :
    Except Raised Track6Signal :=
  .error missingReason

structure Track6DailyTailInsurance where
  volTriggerMultiplier : ℚ := 1.3
  strikeOffset : ℚ := 12.5
  insuranceQty : ℤ := 1
  state : Track6State := {}
  deriving DecidableEq

namespace Track6DailyTailInsurance

def strategyId : String := "track6_daily_tail_insurance"
def multiplier : ℚ := 250000

def reset (self : Track6DailyTailInsurance) : Track6DailyTailInsurance := { self with state := {} }

def atmStrike (price : ℚ) : ℚ := roundHalfEven (price / 2.5) * 2.5

/-! ## Entry -/

def estimatedCost (self : Track6DailyTailInsurance) : ℚ := multiplier * self.insuranceQty

def evaluateBuy (self : Track6DailyTailInsurance) (data : Track6MarketInput) :
    List Track6Signal × Track6DailyTailInsurance :=
  if self.state.isActive then ([], self)
  else if "15:15" ≤ data.timeStr ∧ data.timeStr < "15:20" then
    ([⟨.cancel, 1, .text "CANCEL_PENDING_TRANCHES_15:15"⟩], self)
  else if data.budget < self.estimatedCost then ([], self)
  else if data.baseVol ≤ 0 ∨ data.activeVol < data.baseVol * self.volTriggerMultiplier then
    ([], self)
  else
    let atm := atmStrike data.currentPrice
    ([⟨.buyInsurance, 1, .volSpike data.activeVol (data.baseVol * self.volTriggerMultiplier)⟩],
      { self with
        state := { self.state with
          isActive := true
          boughtDate := some data.dateStr
          longPutStrike := atm - self.strikeOffset
          longCallStrike := atm + self.strikeOffset
          premiumSpent := self.estimatedCost
          highWatermarkIntrinsic := 0
          trailingStopActive := false } })

/-! ## The trailing stop -/

def totalIntrinsic (self : Track6DailyTailInsurance) (currentPrice : ℚ) : ℚ :=
  let putIntrinsic := max 0 (self.state.longPutStrike - currentPrice) * multiplier *
    self.insuranceQty
  let callIntrinsic := max 0 (currentPrice - self.state.longCallStrike) * multiplier *
    self.insuranceQty
  putIntrinsic + callIntrinsic

def spent (self : Track6DailyTailInsurance) : ℚ :=
  if 0 < self.state.premiumSpent then self.state.premiumSpent else multiplier

def minimumMultiplier (activeVol : ℚ) : ℚ := if activeVol < 1.3 then 1.5 else 2.0

def trailingActive (self : Track6DailyTailInsurance) (currentPrice activeVol : ℚ) : Bool :=
  self.state.trailingStopActive ||
    self.spent * minimumMultiplier activeVol ≤ self.totalIntrinsic currentPrice

/-- The part of the highest value that the stop keeps. -/
def trailingRatio (high spent : ℚ) : ℚ :=
  let pnlRatio := high / max 1 spent
  if 2 ≤ pnlRatio then 0.90 else if 1.3 ≤ pnlRatio then 0.88 else 0.85

/-- The state is written before the signal is built. -/
def evaluateTakeProfit (self : Track6DailyTailInsurance) (currentPrice activeVol : ℚ)
    (timeStr : String) : Outcome Track6DailyTailInsurance (List Track6Signal) :=
  if !self.state.isActive then (.ok [], self)
  else if "15:12:00" ≤ timeStr then (.ok [], self)
  else if !self.trailingActive currentPrice activeVol then (.ok [], self)
  else
    let intrinsic := self.totalIntrinsic currentPrice
    let previousHigh := self.state.highWatermarkIntrinsic
    let currentHigh := max previousHigh intrinsic
    let stopTrigger := currentHigh * trailingRatio currentHigh self.spent
    if 0 < currentHigh ∧ intrinsic ≤ stopTrigger then
      (return [← Track6Signal.withoutReason .close 1], self.reset)
    else if previousHigh = 0 ∨ previousHigh * 1.01 ≤ currentHigh then
      (return [← Track6Signal.withoutReason .updateTrailing 0.9],
        { self with
          state := { self.state with
            trailingStopActive := true
            highWatermarkIntrinsic := currentHigh } })
    else (.ok [], { self with state := { self.state with trailingStopActive := true } })

/-! ## The cutoffs -/

def evaluateExpiryCutoff (self : Track6DailyTailInsurance) (timeStr : String) :
    List Track6Signal × Track6DailyTailInsurance :=
  if !self.state.isActive then ([], self)
  else if "15:00:00" ≤ timeStr ∧ timeStr < "15:15:00" then
    ([⟨.closeLimit, 1, .text "DAILY_INSURANCE_15:00_CUTOFF"⟩], self)
  else if "15:15:00" ≤ timeStr then
    ([⟨.closeFallback, 1, .text "DAILY_INSURANCE_15:15_FALLBACK"⟩], self.reset)
  else ([], self)

def evaluateInput (self : Track6DailyTailInsurance) (data : Track6MarketInput) :
    Outcome Track6DailyTailInsurance (List Track6Signal) :=
  if self.state.isActive then
    let (cutoff, self) := self.evaluateExpiryCutoff data.timeStr
    if cutoff.isEmpty then
      self.evaluateTakeProfit data.currentPrice data.activeVol data.timeStr
    else (.ok cutoff, self)
  else
    let (signals, self) := self.evaluateBuy data
    (.ok signals, self)

/-- The payload is `none` where it is not an input of this strategy. -/
def evaluate (self : Track6DailyTailInsurance) (contextStrategyId : String)
    (payload : Option Track6MarketInput) : Outcome Track6DailyTailInsurance (List Track6Signal) :=
  match payload with
  | none => (.ok [], self)
  | some data =>
    if contextStrategyId ≠ strategyId ∨ data.strategyId ≠ strategyId then (.ok [], self)
    else self.evaluateInput data

end Track6DailyTailInsurance
end OptionProject.Strategies
