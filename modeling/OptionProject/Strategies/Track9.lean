import OptionProject.Risk.Engine

/-!
# Track 9, event and overnight insurance

`core/strategy/track9_event_overnight_insurance.py` in exact arithmetic. Every evaluation compares
the insurance with its target, takes an early profit after the open, hedges again from 09:30 on,
buys and closes a strangle around events, and rebuilds its fence on a profit. What was done today is
forgotten on another date.

## Main definitions

* `Track9EventOvernightInsurance.syncDate` — the reset on another date.
* `Track9EventOvernightInsurance.evaluateEventVolatility` — the strangle around an event.
* `Track9EventOvernightInsurance.evaluateInput` — one evaluation.
-/
namespace OptionProject.Strategies
open Library
open Risk.RiskEngine (truncate)

structure Track9MarketInput where
  currentPrice : ℚ
  activeSellQty : ℤ
  currentInsuranceQty : ℤ
  dateStr : String
  timeStr : String := "09:00:00"
  isEventUpcoming : Bool := false
  ivSpike : ℚ := 0
  ivCrush : ℚ := 0
  currentPnl : ℚ := 0
  totalFees : ℚ := 0
  premiumSpent : ℚ := 250000
  targetInsuranceQty : Option ℤ := none
  marketStable : Bool := true
  targetQty : ℤ := 0
  existingQty : ℤ := 0
  marginRatio : ℚ := 0
  riskGuardActive : Bool := false
  eventBudget : ℚ := 0
  estimatedEventCost : ℚ := 0
  deriving DecidableEq

inductive Track9Stage
  | overnightHedge
  | earlyProfitTaken
  | marketStabilizationMonitoring
  | rehedgeActive
  | eventActive
  | eventTrailingStop
  | eventClosed
  deriving DecidableEq, Repr

def Track9Stage.value : Track9Stage → String
  | .overnightHedge => "OVERNIGHT_HEDGE"
  | .earlyProfitTaken => "EARLY_PROFIT_TAKEN"
  | .marketStabilizationMonitoring => "MARKET_STABILIZATION_MONITORING"
  | .rehedgeActive => "REHEDGE_ACTIVE"
  | .eventActive => "EVENT_ACTIVE"
  | .eventTrailingStop => "EVENT_TRAILING_STOP"
  | .eventClosed => "EVENT_CLOSED"

structure Track9State where
  eventActive : Bool := false
  earlyProfitTakeExecutedToday : Bool := false
  reentryExecutedToday : Bool := false
  state : Track9Stage := .overnightHedge
  eventHighPnl : ℚ := 0
  activeDate : Option String := none
  deriving DecidableEq

inductive Track9Direction
  | holdInsurance
  | addInsurance
  | reduceInsurance
  | earlyProfitTake
  | rehedgeEntry
  | eventBudgetBlocked
  | enterEventStrangle
  | closeEventStrangle
  | dynamicProfitTake
  | dynamicRebuildFence
  deriving DecidableEq, Repr

def Track9Direction.value : Track9Direction → String
  | .holdInsurance => "HOLD_INSURANCE"
  | .addInsurance => "ADD_INSURANCE"
  | .reduceInsurance => "REDUCE_INSURANCE"
  | .earlyProfitTake => "EARLY_PROFIT_TAKE"
  | .rehedgeEntry => "REHEDGE_ENTRY"
  | .eventBudgetBlocked => "EVENT_BUDGET_BLOCKED"
  | .enterEventStrangle => "ENTER_EVENT_STRANGLE"
  | .closeEventStrangle => "CLOSE_EVENT_STRANGLE"
  | .dynamicProfitTake => "DYNAMIC_PROFIT_TAKE"
  | .dynamicRebuildFence => "DYNAMIC_REBUILD_FENCE"

/-- The numbers that a reason shows, under its heading. -/
inductive Track9Reason
  | target (target : ℤ)
  | add (target diff : ℤ) (put call : ℚ)
  | reduce (target diff : ℤ)
  | early (qty : ℤ) (ratio : ℚ)
  | rehedge (qty : ℤ) (put call : ℚ)
  | blocked (budget cost : ℚ)
  | event (upcoming : Bool) (ivSpike : ℚ)
  | trailingStop (high ratio : ℚ)
  | volCrush (ivCrush : ℚ)
  | profit (netPnl : ℚ) (qty : ℤ) (time : String)
  | fence (call put : ℚ) (qty : ℤ)
  deriving DecidableEq

structure Track9Signal where
  direction : Track9Direction
  confidence : ℚ
  reason : Track9Reason
  deriving DecidableEq

structure Track9EventOvernightInsurance where
  strikeOffset : ℚ := 15
  earlyProfitTakeRatio : ℚ := 0.90
  profitTarget : ℚ := 400000
  state : Track9State := {}
  deriving DecidableEq

namespace Track9EventOvernightInsurance

def eventIvSpike : ℚ := 4
def volCrush : ℚ := -3

def reset (self : Track9EventOvernightInsurance) : Track9EventOvernightInsurance :=
  { self with state := {} }

/-- Another date than the last: the state is dropped. -/
def syncDate (self : Track9EventOvernightInsurance) (dateStr : String) :
    Track9EventOvernightInsurance :=
  let self :=
    if self.state.activeDate.isSome ∧ self.state.activeDate ≠ some dateStr then self.reset
    else self
  if self.state.activeDate = none then
    { self with state := { self.state with activeDate := some dateStr } }
  else self

def atmStrike (price : ℚ) : ℚ := roundHalfEven (price / 2.5) * 2.5

/-! ## Insurance -/

def targetOvernightInsuranceQty (activeSellQty : ℤ) : ℤ := max 1 (truncate (activeSellQty * 0.5))

def evaluateOvernightInsurance (self : Track9EventOvernightInsurance) (data : Track9MarketInput) :
    List Track9Signal × Track9EventOvernightInsurance :=
  let self := self.syncDate data.dateStr
  let target := data.targetInsuranceQty.getD (targetOvernightInsuranceQty data.activeSellQty)
  let diff := target - data.currentInsuranceQty
  if diff = 0 then ([⟨.holdInsurance, 1, .target target⟩], self)
  else if 0 < diff then
    let atm := atmStrike data.currentPrice
    ([⟨.addInsurance, 1, .add target diff (atm - self.strikeOffset) (atm + self.strikeOffset)⟩],
      self)
  else ([⟨.reduceInsurance, 1, .reduce target |diff|⟩], self)

def evaluateEarlyProfitTake (self : Track9EventOvernightInsurance) (data : Track9MarketInput) :
    List Track9Signal × Track9EventOvernightInsurance :=
  if self.state.earlyProfitTakeExecutedToday then ([], self)
  else if ("09:00:00" ≤ data.timeStr ∧ data.timeStr ≤ "09:05:00") ∧
      0 < data.currentInsuranceQty then
    let qty := max 1 (truncate (data.currentInsuranceQty * self.earlyProfitTakeRatio))
    ([⟨.earlyProfitTake, 1, .early qty self.earlyProfitTakeRatio⟩],
      { self with
        state := { self.state with
          earlyProfitTakeExecutedToday := true
          state := .earlyProfitTaken } })
  else if "09:05:00" < data.timeStr then
    ([], { self with state := { self.state with state := .marketStabilizationMonitoring } })
  else ([], self)

def evaluateReentry (self : Track9EventOvernightInsurance) (data : Track9MarketInput) :
    List Track9Signal × Track9EventOvernightInsurance :=
  if data.timeStr < "09:30:00" ∨ self.state.reentryExecutedToday then ([], self)
  else if data.marketStable ∧ data.existingQty < data.targetQty then
    let qty := data.targetQty - data.existingQty
    let atm := atmStrike data.currentPrice
    ([⟨.rehedgeEntry, 1, .rehedge qty (atm - self.strikeOffset) (atm + self.strikeOffset)⟩],
      { self with
        state := { self.state with
          reentryExecutedToday := true
          state := .rehedgeActive } })
  else ([], self)

/-! ## Events -/

def enterEvent (self : Track9EventOvernightInsurance) (data : Track9MarketInput) (netPnl : ℚ) :
    List Track9Signal × Track9EventOvernightInsurance :=
  if !(data.isEventUpcoming || eventIvSpike ≤ data.ivSpike) then ([], self)
  else if 0 < data.eventBudget ∧ data.eventBudget < data.estimatedEventCost then
    ([⟨.eventBudgetBlocked, 1, .blocked data.eventBudget data.estimatedEventCost⟩], self)
  else
    ([⟨.enterEventStrangle, 1, .event data.isEventUpcoming data.ivSpike⟩],
      { self with
        state := { self.state with
          eventActive := true
          eventHighPnl := max 0 netPnl
          state := .eventActive } })

/-- The part of the highest profit that the stop keeps. -/
def eventTrailingRatio (high premiumSpent : ℚ) : ℚ :=
  let pnlRatio := high / max 1 premiumSpent
  if 2 ≤ pnlRatio then 0.90 else if 1.3 ≤ pnlRatio then 0.88 else 0.85

def holdEvent (self : Track9EventOvernightInsurance) (data : Track9MarketInput) (netPnl : ℚ) :
    List Track9Signal × Track9EventOvernightInsurance :=
  let high := max self.state.eventHighPnl netPnl
  let trailingRatio := eventTrailingRatio high data.premiumSpent
  if 50000 < high ∧ netPnl ≤ high * trailingRatio then
    ([⟨.closeEventStrangle, 1, .trailingStop high trailingRatio⟩],
      { self with
        state := { self.state with
          eventActive := false
          state := .eventTrailingStop } })
  else if data.ivCrush ≤ volCrush then
    ([⟨.closeEventStrangle, 1, .volCrush data.ivCrush⟩],
      { self with
        state := { self.state with
          eventActive := false
          state := .eventClosed } })
  else
    ([], { self with state := { self.state with eventActive := true, eventHighPnl := high } })

def evaluateEventVolatility (self : Track9EventOvernightInsurance) (data : Track9MarketInput) :
    List Track9Signal × Track9EventOvernightInsurance :=
  let self := self.syncDate data.dateStr
  let netPnl := data.currentPnl - data.totalFees
  if !self.state.eventActive then self.enterEvent data netPnl else self.holdEvent data netPnl

/-! ## Rebuild -/

def evaluateDynamicProfitRebuild (self : Track9EventOvernightInsurance)
    (data : Track9MarketInput) : List Track9Signal × Track9EventOvernightInsurance :=
  if data.riskGuardActive ∨ 0.85 < data.marginRatio then ([], self)
  else
    let netPnl := data.currentPnl - data.totalFees
    if netPnl < self.profitTarget then ([], self)
    else
      let call := atmStrike data.currentPrice + self.strikeOffset
      let put := atmStrike data.currentPrice - self.strikeOffset
      let qty := max (max data.currentInsuranceQty data.targetQty) 1
      ([⟨.dynamicProfitTake, 1, .profit netPnl qty data.timeStr⟩,
          ⟨.dynamicRebuildFence, 1, .fence call put qty⟩],
        { self with
          state := { self.state with
            reentryExecutedToday := true
            state := .rehedgeActive } })

def evaluateInput (self : Track9EventOvernightInsurance) (data : Track9MarketInput) :
    List Track9Signal × Track9EventOvernightInsurance :=
  let (insurance, self) := self.evaluateOvernightInsurance data
  let (early, self) := self.evaluateEarlyProfitTake data
  let (reentry, self) := self.evaluateReentry data
  let (event, self) := self.evaluateEventVolatility data
  let (rebuild, self) := self.evaluateDynamicProfitRebuild data
  (insurance ++ early ++ reentry ++ event ++ rebuild, self)

end Track9EventOvernightInsurance
end OptionProject.Strategies
