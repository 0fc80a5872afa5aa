import OptionProject.Library.Dict
import OptionProject.Contracts.Canonical

/-!
# The virtual securities firm

`environments/virtual/market/reference_vms_market.py`: the position manager, the engines for
profit, margin and executions, the paper account they make up, its snapshots, and the runtime
that takes ticks, orders and settlements. Prices and amounts are exact rationals.

## Main definitions

* `PositionManager.updatePosition` — what one execution does to the positions.
* `PaperTradingAccount` — balance, profits, margins and positions.
* `StateRecoveryEngine.createSnapshot`, `StateRecoveryEngine.restoreFromSnapshot`.
* `VirtualSecuritiesFirmRuntime.perform` — one request to the runtime.
-/
namespace OptionProject.Virtual
open Library Contracts

/-! ## Positions -/

structure HeldPosition where
  qty : ℤ
  avgPrice : ℚ
  side : String
  deriving DecidableEq, Repr

structure PositionManager where
  positions : Dict String HeldPosition := .empty
  deriving DecidableEq

/-- A fill against the position closes at most what is held; the profit it books is returned. -/
def PositionManager.updatePosition (self : PositionManager) (symbol side : String) (qty : ℤ)
    (price : ℚ) : Outcome PositionManager ℚ :=
  let p := (self.positions.get? symbol).getD ⟨0, 0, side⟩
  if p.qty = 0 ∨ p.side = side then
    let total := p.qty + qty
    if total = 0 then (.error ⟨.zeroDivisionError, "float division by zero"⟩, self)
    else
      let avgPrice := (p.avgPrice * p.qty + price * qty) / total
      (.ok 0, ⟨self.positions.set symbol ⟨total, avgPrice, side⟩⟩)
  else
    let close := min p.qty qty
    let pnl := (price - p.avgPrice) * close * 250000 * (if p.side = "BUY" then 1 else -1)
    let left := p.qty - close
    if left ≠ 0 then (.ok pnl, ⟨self.positions.set symbol { p with qty := left }⟩)
    else (.ok pnl, ⟨self.positions.erase symbol⟩)

/-! ## Engines -/

structure PnLEngine where
  realizedPnl : ℚ := 0
  unrealizedPnl : ℚ := 0
  deriving DecidableEq

/-- The open profit of one position at a price, for one unit of the multiplier. -/
def PnLEngine.openProfit (current : ℚ) (position : HeldPosition) : Except Raised ℚ :=
  if position.side = "BUY" then .ok ((current - position.avgPrice) * position.qty)
  else if position.side = "SELL" then .ok ((position.avgPrice - current) * position.qty)
  else .error ⟨.valueError, "PNL_POSITION_SIDE_INVALID"⟩

/-- The sum over the positions, stopping at the first side that is none. -/
def PnLEngine.sumUnrealized (current : ℚ) : List HeldPosition → Except Raised ℚ
  | [] => .ok 0
  | position :: rest => do
    let profit ← openProfit current position
    let total ← sumUnrealized current rest
    .ok (profit * 250000 + total)

def PnLEngine.calculateUnrealized (self : PnLEngine) (positions : Dict String HeldPosition)
    (currentPrice : ℚ) : Outcome PnLEngine ℚ :=
  match sumUnrealized currentPrice positions.values with
  | .error e => (.error e, self)
  | .ok total => (.ok total, { self with unrealizedPnl := total })

def PnLEngine.addRealized (self : PnLEngine) (amount : ℚ) : PnLEngine :=
  { self with realizedPnl := self.realizedPnl + amount }

structure MarginEngine where
  initialCapital : ℚ
  deriving DecidableEq

namespace MarginEngine

def calculateOrderMargin (command : CanonicalOrderCommand ℚ) : ℚ :=
  command.price * command.qty * 250000

def calculateUsedMargin (positions : Dict String HeldPosition) : ℚ :=
  (positions.values.map fun position => position.avgPrice * (position.qty : ℚ) * 250000).sum

def calculateFreeMargin (totalEquity usedMargin : ℚ) : ℚ := max 0 (totalEquity - usedMargin)

end MarginEngine

inductive LedgerRow
  | execution (execId : String)
  | settlement (settlementType : String) (realizedPnl unrealizedPnl balanceAfter : ℚ)
  deriving DecidableEq

/-! ## The account -/

structure CanonicalExecutionReport where
  execId : String
  clientOrderId : String
  trackId : String
  assetType : CanonicalAssetType
  side : Side
  executedQty : ℤ
  executedPrice : ℚ
  fee : ℚ
  slippage : ℚ
  timestamp : String
  symbol : String := "KOSPI200"
  deriving DecidableEq

structure CanonicalAccountSummary where
  accountId : String
  totalBalance : ℚ
  realizedPnl : ℚ
  unrealizedPnl : ℚ
  usedMargin : ℚ
  freeMargin : ℚ
  timestamp : String := ""
  positions : Dict String HeldPosition := .empty
  deriving DecidableEq

structure PaperTradingAccount where
  balance : ℚ
  realizedPnl : ℚ
  unrealizedPnl : ℚ
  positionMgr : PositionManager
  pnlEngine : PnLEngine
  marginEngine : MarginEngine
  transactions : List LedgerRow
  freeMargin : ℚ
  usedMargin : ℚ
  deriving DecidableEq

namespace PaperTradingAccount

def create (initialCapital : ℚ) : PaperTradingAccount where
  balance := initialCapital
  realizedPnl := 0
  unrealizedPnl := 0
  positionMgr := {}
  pnlEngine := {}
  marginEngine := ⟨initialCapital⟩
  transactions := []
  freeMargin := initialCapital
  usedMargin := 0

abbrev positions (self : PaperTradingAccount) : Dict String HeldPosition :=
  self.positionMgr.positions

/-- `balance + realized_pnl + unrealized_pnl`. -/
def equity (self : PaperTradingAccount) : ℚ :=
  self.balance + self.realizedPnl + self.unrealizedPnl

/-- The summary at the time that the clock shows. -/
def getCanonicalSummary (self : PaperTradingAccount) (now : String) : CanonicalAccountSummary where
  accountId := "ACC-VSSF-001"
  totalBalance := self.equity
  realizedPnl := self.realizedPnl
  unrealizedPnl := self.unrealizedPnl
  usedMargin := self.usedMargin
  freeMargin := self.freeMargin
  timestamp := now
  positions := self.positions

def updateTickPrice (self : PaperTradingAccount) (price : ℚ) : Outcome PaperTradingAccount Unit :=
  match self.pnlEngine.calculateUnrealized self.positions price with
  | (.error e, pnlEngine) => (.error e, { self with pnlEngine })
  | (.ok unrealizedPnl, pnlEngine) =>
    let usedMargin := MarginEngine.calculateUsedMargin self.positions
    let marked := { self with pnlEngine, unrealizedPnl, usedMargin }
    (.ok (), { marked with
      freeMargin := MarginEngine.calculateFreeMargin marked.equity usedMargin })

def applyExecution (self : PaperTradingAccount) (rep : CanonicalExecutionReport) :
    Outcome PaperTradingAccount Unit :=
  match self.positionMgr.updatePosition rep.symbol (sideText rep.side) rep.executedQty
      rep.executedPrice with
  | (.error e, positionMgr) => (.error e, { self with positionMgr })
  | (.ok pnl, positionMgr) =>
    let pnlEngine := self.pnlEngine.addRealized pnl
    (.ok (), { self with
      positionMgr
      pnlEngine
      realizedPnl := pnlEngine.realizedPnl
      balance := self.balance - rep.fee
      transactions := self.transactions ++ [.execution rep.execId] })

end PaperTradingAccount

/-! ## Orders and executions -/

structure OrderBook where
  bid : ℚ := 0
  ask : ℚ := 0
  deriving DecidableEq

def OrderBook.matchOrder (self : OrderBook) (command : CanonicalOrderCommand ℚ) : ℚ :=
  if sideText command.side = "BUY" then self.ask else self.bid

structure ExecutionEngine where
  reports : List CanonicalExecutionReport := []
  seq : ℕ := 0
  deriving DecidableEq

def ExecutionEngine.executeOrder (self : ExecutionEngine) (command : CanonicalOrderCommand ℚ)
    (price : ℚ) (qty : ℤ) (now : String) : CanonicalExecutionReport × ExecutionEngine :=
  let seq := self.seq + 1
  let rep : CanonicalExecutionReport :=
    { execId := "EXEC-" ++ zeroPadded 6 seq
      clientOrderId := command.clientOrderId
      trackId := command.trackId
      assetType := command.assetType
      side := command.side
      executedQty := qty
      executedPrice := price
      fee := 0
      slippage := 0
      timestamp := now
      symbol := command.symbol }
  (rep, ⟨self.reports ++ [rep], seq⟩)

/-! ## Snapshots -/

structure RuntimeMetrics where
  marketTicks : ℕ := 0
  orderCommands : ℕ := 0
  executionsIssued : ℕ := 0
  settlementRuns : ℕ := 0
  deriving DecidableEq

structure AccountSnapshot where
  sequenceId : ℤ
  balance : ℚ
  positions : Dict String HeldPosition
  metrics : Dict String ℤ
  deriving DecidableEq

namespace StateRecoveryEngine

def createSnapshot (account : PaperTradingAccount) (sequenceId : ℤ)
    (metrics : Option (Dict String ℤ)) : AccountSnapshot :=
  ⟨sequenceId, account.balance, account.positions, metrics.getD .empty⟩

/-- The account gets back its balance and its positions, the target its metrics. -/
def restoreFromSnapshot (account : PaperTradingAccount) (snapshot : AccountSnapshot)
    (targetMetrics : Option (Dict String ℤ)) : PaperTradingAccount × Option (Dict String ℤ) :=
  ({ account with
      balance := snapshot.balance
      positionMgr := ⟨Dict.empty.update snapshot.positions⟩ },
    targetMetrics.map (·.update snapshot.metrics))

end StateRecoveryEngine

/-! ## The runtime -/

/-- The prices of a tick that the runtime reads. -/
structure CanonicalMarketTick where
  underlyingPrice : ℚ
  bidPrice : ℚ := 0
  askPrice : ℚ := 0
  deriving DecidableEq

structure VirtualSecuritiesFirmRuntime where
  account : PaperTradingAccount
  executionEngine : ExecutionEngine := {}
  orderBook : OrderBook := {}
  metrics : RuntimeMetrics := {}
  deriving DecidableEq

namespace VirtualSecuritiesFirmRuntime

def create (initialCapital : ℚ) : VirtualSecuritiesFirmRuntime where
  account := .create initialCapital

def processMarketData (self : VirtualSecuritiesFirmRuntime) (tick : CanonicalMarketTick) :
    Outcome VirtualSecuritiesFirmRuntime Unit :=
  let metrics := { self.metrics with marketTicks := self.metrics.marketTicks + 1 }
  let (result, account) := self.account.updateTickPrice tick.underlyingPrice
  (result, { self with metrics, account, orderBook := ⟨tick.bidPrice, tick.askPrice⟩ })

def processOrder (self : VirtualSecuritiesFirmRuntime) (command : CanonicalOrderCommand ℚ)
    (now : String) :
    Outcome VirtualSecuritiesFirmRuntime (Option CanonicalExecutionReport) :=
  let counted := { self with
    metrics := { self.metrics with orderCommands := self.metrics.orderCommands + 1 } }
  if self.account.freeMargin < MarginEngine.calculateOrderMargin command then (.ok none, counted)
  else
    let price := self.orderBook.matchOrder command
    if price ≤ 0 then (.ok none, counted)
    else
      let (rep, executionEngine) :=
        self.executionEngine.executeOrder command price command.qty now
      let executed := { counted with executionEngine }
      match self.account.applyExecution rep with
      | (.error e, account) => (.error e, { executed with account })
      | (.ok _, account) =>
        match account.updateTickPrice price with
        | (.error e, account) => (.error e, { executed with account })
        | (.ok _, account) =>
          (.ok (some rep), { executed with
            account
            metrics := { executed.metrics with
              executionsIssued := executed.metrics.executionsIssued + 1 } })

/-- `final_settlement_price or 350.0`. -/
def settlementPrice : Option ℚ → ℚ
  | none => 350
  | some price => if price = 0 then 350 else price

def runSettlement (self : VirtualSecuritiesFirmRuntime) (finalSettlementPrice : Option ℚ) :
    Outcome VirtualSecuritiesFirmRuntime LedgerRow :=
  let metrics := { self.metrics with settlementRuns := self.metrics.settlementRuns + 1 }
  match self.account.updateTickPrice (settlementPrice finalSettlementPrice) with
  | (.error e, account) => (.error e, { self with metrics, account })
  | (.ok _, account) =>
    let row := LedgerRow.settlement "EOD" account.realizedPnl account.unrealizedPnl account.balance
    (.ok row, { self with
      metrics
      account := { account with transactions := account.transactions ++ [row] } })

/-- What can be asked of the runtime. -/
inductive Request
  | marketData (tick : CanonicalMarketTick)
  | order (command : CanonicalOrderCommand ℚ) (now : String)
  | settlement (finalSettlementPrice : Option ℚ)
  deriving DecidableEq

/-- One request, with the execution it led to. -/
def perform (self : VirtualSecuritiesFirmRuntime) :
    Request → Outcome VirtualSecuritiesFirmRuntime (Option CanonicalExecutionReport)
  | .marketData tick =>
    let (result, next) := self.processMarketData tick
    (result.map fun _ => none, next)
  | .order command now => self.processOrder command now
  | .settlement finalSettlementPrice =>
    let (result, next) := self.runSettlement finalSettlementPrice
    (result.map fun _ => none, next)

end VirtualSecuritiesFirmRuntime
end OptionProject.Virtual
