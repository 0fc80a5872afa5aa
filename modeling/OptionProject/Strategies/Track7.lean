import Mathlib.Algebra.Order.Ring.Rat
import OptionProject.Library.Text

/-!
# Track 7, volatility skew and weekly insurance

`core/strategy/track7_volatility_skew_weekly_insurance.py` in exact arithmetic. One insurance a week
and one skew arbitrage are held side by side in one state. In `evaluate_input` the lines that call
the insurance purchase, the skew arbitrage and the take profit are comments, and of the evaluators
only the expiry cutoff is called by it.

## Main definitions

* `Track7VolatilitySkewWeeklyInsurance.evaluateInsuranceBuy` — the purchase, and the reset on
  another date.
* `Track7VolatilitySkewWeeklyInsurance.evaluateSkewArbitrage` — the entry and the ways to close it.
* `Track7VolatilitySkewWeeklyInsurance.evaluate` — what the orchestrator calls.
-/
namespace OptionProject.Strategies
open Library

structure Track7MarketInput where
  strategyId : String
  currentPrice : ℚ
  budget : ℚ
  dateStr : String
  isNewWeekStart : Bool
  activeVol : ℚ
  callIv : Option ℚ := none
  putIv : Option ℚ := none
  skewLimitTimeout : Bool := false
  ma1m : Option ℚ := none
  ma3m : Option ℚ := none
  ma5m : Option ℚ := none
  ma10m : Option ℚ := none
  support : Option ℚ := none
  resistance : Option ℚ := none
  timeStr : String := "09:00:00"
  isExpiryDay : Bool := false
  isWeekEnd : Bool := false
  deriving DecidableEq

structure Track7State where
  insuranceActive : Bool := false
  boughtDate : Option String := none
  putStrike : ℚ := 0
  callStrike : ℚ := 0
  premiumSpent : ℚ := 0
  highWatermarkIntrinsic : ℚ := 0
  trailingActive : Bool := false
  skewActive : Bool := false
  skewLimitPending : Bool := false
  deriving DecidableEq

inductive Track7Direction
  | cancel
  | buyLimitWeeklyInsurance
  | enterSkewArbLimit
  | enterSkewArbFallbackMarket
  | closeSkewArbStopLoss
  | closeSkewArbLimit
  | preemptiveLimitTakeProfit
  | closeWeeklyInsurancePreemptiveD4
  | closeWeeklyInsuranceLimit
  | closeWeeklyInsuranceFallbackMarket
  deriving DecidableEq, Repr

def Track7Direction.value : Track7Direction → String
  | .cancel => "CANCEL"
  | .buyLimitWeeklyInsurance => "BUY_LIMIT_WEEKLY_INSURANCE"
  | .enterSkewArbLimit => "ENTER_SKEW_ARB_LIMIT"
  | .enterSkewArbFallbackMarket => "ENTER_SKEW_ARB_FALLBACK_MARKET"
  | .closeSkewArbStopLoss => "CLOSE_SKEW_ARB_STOP_LOSS"
  | .closeSkewArbLimit => "CLOSE_SKEW_ARB_LIMIT"
  | .preemptiveLimitTakeProfit => "PREEMPTIVE_LIMIT_TAKE_PROFIT"
  | .closeWeeklyInsurancePreemptiveD4 => "CLOSE_WEEKLY_INSURANCE_PREEMPTIVE_D4"
  | .closeWeeklyInsuranceLimit => "CLOSE_WEEKLY_INSURANCE_LIMIT"
  | .closeWeeklyInsuranceFallbackMarket => "CLOSE_WEEKLY_INSURANCE_FALLBACK_MARKET"

/-- A reason: its fixed text, or the values that it shows. -/
inductive Track7Reason
  | text (reason : String)
  | insurance (putStrike callStrike : ℚ) (qty : ℤ) (cost : ℚ)
  | entered (direction : String) (skew : ℚ)
  | skew (skew : ℚ)
  | average (crossed : Bool) (support resistance : Option ℚ) (price : ℚ)
  deriving DecidableEq

structure Track7Signal where
  direction : Track7Direction
  confidence : ℚ
  reason : Track7Reason
  deriving DecidableEq

structure Track7VolatilitySkewWeeklyInsurance where
  strikeOffset : ℚ := 15
  insuranceQty : ℤ := 1
  expiryMode : String := "D-0 CUTOFF"
  state : Track7State := {}
  deriving DecidableEq

namespace Track7VolatilitySkewWeeklyInsurance

def strategyId : String := "track7_volatility_skew_weekly_insurance"
def multiplier : ℚ := 250000
def skewEntry : ℚ := 3
def skewStop : ℚ := 8
def skewExit : ℚ := 0.5

def reset (self : Track7VolatilitySkewWeeklyInsurance) : Track7VolatilitySkewWeeklyInsurance :=
  { self with state := {} }

def atmStrike (price : ℚ) : ℚ := roundHalfEven (price / 2.5) * 2.5

def insuranceCost (self : Track7VolatilitySkewWeeklyInsurance) (activeVol : ℚ) : ℚ :=
  let volScale : ℚ := if activeVol < 1 then 0.5 else 1
  1.4 * multiplier * self.insuranceQty * volScale

/-! ## Insurance -/

/-- Another date than that of the purchase: the whole state is dropped. -/
def rollOver (self : Track7VolatilitySkewWeeklyInsurance) (data : Track7MarketInput) :
    Track7VolatilitySkewWeeklyInsurance :=
  if some data.dateStr ≠ self.state.boughtDate ∧ self.state.boughtDate.isSome then self.reset
  else self

def buy (self : Track7VolatilitySkewWeeklyInsurance) (data : Track7MarketInput) :
    List Track7Signal × Track7VolatilitySkewWeeklyInsurance :=
  if self.state.insuranceActive then ([], self)
  else if "15:15" ≤ data.timeStr ∧ data.timeStr < "15:20" then
    ([⟨.cancel, 1, .text "CANCEL_PENDING_TRANCHES_15:15"⟩], self)
  else if !data.isNewWeekStart then ([], self)
  else
    let cost := self.insuranceCost data.activeVol
    if data.budget < cost then ([], self)
    else
      let atm := atmStrike data.currentPrice
      let putStrike := atm - self.strikeOffset
      let callStrike := atm + self.strikeOffset
      ([⟨.buyLimitWeeklyInsurance, 1, .insurance putStrike callStrike self.insuranceQty cost⟩],
        { self with
          state := { self.state with
            insuranceActive := true
            boughtDate := some data.dateStr
            putStrike
            callStrike
            premiumSpent := cost } })

def evaluateInsuranceBuy (self : Track7VolatilitySkewWeeklyInsurance) (data : Track7MarketInput) :
    List Track7Signal × Track7VolatilitySkewWeeklyInsurance :=
  (self.rollOver data).buy data

def evaluateExpiryCutoff (self : Track7VolatilitySkewWeeklyInsurance) (data : Track7MarketInput) :
    List Track7Signal × Track7VolatilitySkewWeeklyInsurance :=
  if !self.state.insuranceActive then ([], self)
  else if self.expiryMode = "D-4" ∧ self.state.boughtDate = some data.dateStr ∧
      "15:00:00" ≤ data.timeStr then
    ([⟨.closeWeeklyInsurancePreemptiveD4, 1, .text "D4_PREEMPTIVE_CUTOFF"⟩], self.reset)
  else if !(data.isExpiryDay || data.isWeekEnd) then ([], self)
  else if "15:00:00" ≤ data.timeStr ∧ data.timeStr < "15:15:00" then
    ([⟨.closeWeeklyInsuranceLimit, 1, .text "15:00_LIMIT_CUTOFF"⟩], self)
  else if "15:15:00" ≤ data.timeStr then
    ([⟨.closeWeeklyInsuranceFallbackMarket, 1, .text "15:15_FALLBACK_MARKET"⟩], self.reset)
  else ([], self)

/-! ## Skew arbitrage -/

def evaluateSkewArbitrage (self : Track7VolatilitySkewWeeklyInsurance) (data : Track7MarketInput) :
    List Track7Signal × Track7VolatilitySkewWeeklyInsurance :=
  match data.callIv, data.putIv with
  | some callIv, some putIv =>
    let skew := putIv - callIv
    if !self.state.skewActive then
      if |skew| < skewEntry then ([], self)
      else
        let direction := if 0 < skew then "LONG_PUT_SHORT_CALL" else "LONG_CALL_SHORT_PUT"
        ([⟨.enterSkewArbLimit, 1, .entered direction skew⟩],
          { self with state := { self.state with skewActive := true, skewLimitPending := true } })
    else if self.state.skewLimitPending ∧ data.skewLimitTimeout then
      ([⟨.enterSkewArbFallbackMarket, 1, .skew skew⟩],
        { self with state := { self.state with skewLimitPending := false } })
    else if skewStop < |skew| then
      ([⟨.closeSkewArbStopLoss, 1, .skew skew⟩],
        { self with state := { self.state with skewActive := false, skewLimitPending := false } })
    else if |skew| ≤ skewExit then
      ([⟨.closeSkewArbLimit, 1, .skew skew⟩],
        { self with state := { self.state with skewActive := false, skewLimitPending := false } })
    else ([], self)
  | _, _ => ([], self)

/-! ## Take profit -/

def evaluatePreemptiveTakeProfit (data : Track7MarketInput) : List Track7Signal :=
  match data.ma1m, data.ma3m, data.ma5m, data.ma10m with
  | some ma1m, some ma3m, some ma5m, some ma10m =>
    let bullishCross := decide (ma3m < ma1m ∧ ma5m < ma3m ∧ ma10m < ma5m)
    let bearishCross := decide (ma1m < ma3m ∧ ma3m < ma5m ∧ ma5m < ma10m)
    let nearResistance := data.resistance.any fun resistance => resistance ≤ data.currentPrice
    let nearSupport := data.support.any fun support => data.currentPrice ≤ support
    if bullishCross || bearishCross || nearResistance || nearSupport then
      [⟨.preemptiveLimitTakeProfit, 0.8,
        .average (bullishCross || bearishCross) data.support data.resistance data.currentPrice⟩]
    else []
  | _, _, _, _ => []

/-! ## An evaluation -/

/-- Behind a cutoff without signals no evaluator is called. -/
def evaluateInput (self : Track7VolatilitySkewWeeklyInsurance) (data : Track7MarketInput) :
    List Track7Signal × Track7VolatilitySkewWeeklyInsurance :=
  if self.state.insuranceActive then self.evaluateExpiryCutoff data else ([], self)

/-- `evaluate`, by the id and the payload of its context; a payload of another type is `none`. -/
def evaluate (self : Track7VolatilitySkewWeeklyInsurance) (contextId : Option String)
    (payload : Option Track7MarketInput) :
    List Track7Signal × Track7VolatilitySkewWeeklyInsurance :=
  match payload with
  | none => ([], self)
  | some data =>
    if contextId ≠ some strategyId then ([], self)
    else if data.strategyId ≠ strategyId then ([], self)
    else self.evaluateInput data

end Track7VolatilitySkewWeeklyInsurance
end OptionProject.Strategies
