import OptionProject.Virtual.MarginGate

/-!
# The audit trail of the virtual firm

The execution engine keeps every report it issues. A report whose booking raises stays in this list
and changes nothing else. So the account can be rebuilt at any time: its positions, its profits and
the executions in its ledger by booking the reports again, its margins from the last price it was
marked at.

## Main definitions

* `Booking.ofReports` — the reports, booked one after another.
* `Valuation.of` — profits and margins of a booking at a price.
* `Audited` — a firm with the price its account was last marked at.

## Main results

* `Audited.rebuilt` — the account after any requests.
-/
namespace OptionProject.Virtual
open Library Contracts

/-! ## Identifiers -/

/-- The identifiers of the first executions. -/
def execIds (issued : ℕ) : List String :=
  (List.range issued).map fun before => "EXEC-" ++ zeroPadded 6 (before + 1)

theorem nodup_execIds (issued : ℕ) : (execIds issued).Nodup := by
  refine List.nodup_range.map fun n m same => ?_
  have digits := String.append_right_inj _ |>.mp same
  have number := zeroPadded_injective 6 digits
  omega

/-! ## Reports booked again -/

structure Booking where
  positionMgr : PositionManager := {}
  realizedPnl : ℚ := 0
  booked : List CanonicalExecutionReport := []

namespace Booking

/-- A report whose booking raises is passed over. -/
def enter (self : Booking) (rep : CanonicalExecutionReport) : Booking :=
  match self.positionMgr.updatePosition rep.symbol (sideText rep.side) rep.executedQty
      rep.executedPrice with
  | (.error _, _) => self
  | (.ok pnl, positionMgr) =>
    ⟨positionMgr, self.realizedPnl + pnl, self.booked ++ [rep]⟩

def ofReports (reports : List CanonicalExecutionReport) : Booking := reports.foldl enter {}

theorem ofReports_concat (reports : List CanonicalExecutionReport)
    (rep : CanonicalExecutionReport) :
    ofReports (reports ++ [rep]) = (ofReports reports).enter rep :=
  List.foldl_concat ..

end Booking

/-! ## Profits and margins -/

/-- The open profit of the positions at a price. -/
def openProfits (positions : Dict String HeldPosition) (price : ℚ) : ℚ :=
  (positions.values.map fun position =>
    (if position.side = "BUY" then price - position.avgPrice else position.avgPrice - price) *
      position.qty * 250000).sum

structure Valuation where
  unrealizedPnl : ℚ
  usedMargin : ℚ
  freeMargin : ℚ

/-- An account that was never marked has its capital free. -/
def Valuation.of (capital : ℚ) (booking : Booking) : Option ℚ → Valuation
  | none => ⟨0, 0, capital⟩
  | some price =>
    let unrealizedPnl := openProfits booking.positionMgr.positions price
    let usedMargin := MarginEngine.calculateUsedMargin booking.positionMgr.positions
    { unrealizedPnl, usedMargin
      freeMargin := MarginEngine.calculateFreeMargin
        (capital + booking.realizedPnl + unrealizedPnl) usedMargin }

variable {account : PaperTradingAccount} {price capital : ℚ}

theorem sumUnrealized_eq_sum {held : List HeldPosition}
    (sides : ∀ position ∈ held, ∃ side : Side, position.side = sideText side) :
    PnLEngine.sumUnrealized price held = .ok (held.map fun position =>
      (if position.side = "BUY" then price - position.avgPrice else position.avgPrice - price) *
        position.qty * 250000).sum := by
  induction held with
  | nil => rfl
  | cons position rest ih =>
    obtain ⟨⟨side, sided⟩, others⟩ := List.forall_mem_cons.mp sides
    cases side with
    | buy => simp [PnLEngine.sumUnrealized, PnLEngine.openProfit, sided, sideText, ih others, bind,
        Except.bind]
    | sell => simp [PnLEngine.sumUnrealized, PnLEngine.openProfit, sided, sideText, ih others, bind,
        Except.bind]

theorem updateTickPrice_eq (sided : Sided account.positions) (price : ℚ) :
    account.updateTickPrice price =
      (.ok (),
        { account with
          pnlEngine := { account.pnlEngine with
            unrealizedPnl := openProfits account.positions price }
          unrealizedPnl := openProfits account.positions price
          usedMargin := MarginEngine.calculateUsedMargin account.positions
          freeMargin := MarginEngine.calculateFreeMargin
            (account.balance + account.realizedPnl + openProfits account.positions price)
            (MarginEngine.calculateUsedMargin account.positions) }) := by
  have summed : PnLEngine.sumUnrealized price account.positions.values =
      .ok (openProfits account.positions price) := by
    refine sumUnrealized_eq_sum fun position member => ?_
    obtain ⟨symbol, found⟩ := Dict.mem_values.mp member
    exact sided symbol position found
  unfold PaperTradingAccount.updateTickPrice PnLEngine.calculateUnrealized
  rw [summed]
  rfl

/-! ## The account and its trail -/

/-- The identifier of an execution in the ledger. -/
def LedgerRow.execId? : LedgerRow → Option String
  | execution execId => some execId
  | settlement .. => none

/-- The account has what the booking has. -/
structure Entered (capital : ℚ) (booking : Booking) (account : PaperTradingAccount) : Prop where
  positions : account.positionMgr = booking.positionMgr
  balance : account.balance = capital
  realized : account.realizedPnl = booking.realizedPnl
  engine : account.pnlEngine.realizedPnl = booking.realizedPnl
  ledger : account.transactions.filterMap LedgerRow.execId? = booking.booked.map (·.execId)

/-- The account is the one that the booking and the last mark make. -/
structure Rebuilt (capital : ℚ) (booking : Booking) (mark : Option ℚ)
    (account : PaperTradingAccount) : Prop extends Entered capital booking account where
  valued : (⟨account.unrealizedPnl, account.usedMargin, account.freeMargin⟩ : Valuation) =
    Valuation.of capital booking mark

variable {booking : Booking} {mark : Option ℚ} {rep : CanonicalExecutionReport}

theorem rebuilt_create (capital : ℚ) : Rebuilt capital {} none (.create capital) :=
  ⟨⟨rfl, rfl, rfl, rfl, rfl⟩, rfl⟩

/-- Marking the account values what was entered. -/
theorem Entered.marked (entered : Entered capital booking account)
    (sided : Sided account.positions) (price : ℚ) :
    ∃ after, account.updateTickPrice price = (.ok (), after) ∧
      Rebuilt capital booking (some price) after ∧ after.transactions = account.transactions := by
  refine ⟨_, updateTickPrice_eq sided price, ⟨⟨entered.positions, entered.balance,
    entered.realized, entered.engine, entered.ledger⟩, ?_⟩, rfl⟩
  simp only [Valuation.of, PaperTradingAccount.positions, entered.positions, entered.balance,
    entered.realized]

/-- A booking that raises changes no position. -/
theorem PositionManager.updatePosition_error {self next : PositionManager} {symbol side : String}
    {qty : ℤ} {e : Raised} (raised : self.updatePosition symbol side qty price = (.error e, next)) :
    next = self := by
  unfold updatePosition at raised
  dsimp only at raised
  split at raised
  · split at raised
    · exact (Prod.mk.inj raised).2.symm
    · cases raised
  · split at raised <;> cases raised

/-- A report is booked in both, or in neither. -/
theorem Entered.applied (entered : Entered capital booking account) (free : rep.fee = 0) :
    (∃ e, account.applyExecution rep = (.error e, account) ∧ booking.enter rep = booking) ∨
      ∃ after, account.applyExecution rep = (.ok (), after) ∧
        Entered capital (booking.enter rep) after ∧
        (booking.enter rep).booked = booking.booked ++ [rep] ∧
        after.transactions = account.transactions ++ [.execution rep.execId] := by
  unfold PaperTradingAccount.applyExecution Booking.enter
  rw [← entered.positions]
  cases updated : account.positionMgr.updatePosition rep.symbol (sideText rep.side)
      rep.executedQty rep.executedPrice with
  | mk result positionMgr =>
    cases result with
    | error e =>
      rw [PositionManager.updatePosition_error updated]
      exact .inl ⟨e, rfl, rfl⟩
    | ok pnl =>
      refine .inr ⟨_, rfl, ⟨rfl, ?_, ?_, ?_, ?_⟩, rfl, rfl⟩
      · simp only [free, sub_zero, entered.balance]
      · simp only [PnLEngine.addRealized, entered.engine]
      · simp only [PnLEngine.addRealized, entered.engine]
      · simp [entered.ledger, LedgerRow.execId?]

/-! ## Runs -/

namespace VirtualSecuritiesFirmRuntime

/-- The price that a request marks the account at. -/
def markOf : Request → Except Raised (Option CanonicalExecutionReport) → Option ℚ
  | .marketData tick, _ => some tick.underlyingPrice
  | .settlement finalSettlementPrice, _ => some (settlementPrice finalSettlementPrice)
  | .order _ _, .ok (some rep) => some rep.executedPrice
  | .order _ _, _ => none

def Request.isTick : Request → Bool
  | marketData _ => true
  | _ => false

def Request.isOrder : Request → Bool
  | order .. => true
  | _ => false

def Request.isSettlement : Request → Bool
  | settlement _ => true
  | _ => false

end VirtualSecuritiesFirmRuntime

open VirtualSecuritiesFirmRuntime

/-- A firm with the price its account was last marked at. -/
structure Audited where
  firm : VirtualSecuritiesFirmRuntime
  mark : Option ℚ := none

namespace Audited

/-- A request, which may raise. -/
def after (now : Audited) (request : Request) : Audited :=
  let (result, firm) := now.firm.perform request
  ⟨firm, (markOf request result).or now.mark⟩

abbrev reports (now : Audited) : List CanonicalExecutionReport := now.firm.executionEngine.reports

/-- The report is of the order. -/
structure Executes (command : CanonicalOrderCommand ℚ) (rep : CanonicalExecutionReport) :
    Prop where
  clientOrderId : rep.clientOrderId = command.clientOrderId
  trackId : rep.trackId = command.trackId
  symbol : rep.symbol = command.symbol
  side : rep.side = command.side
  quantity : rep.executedQty = command.qty

/-- What was issued, booked and counted after the requests. -/
structure Kept (capital : ℚ) (requests : List Request) (now : Audited) : Prop where
  sided : Sided now.firm.account.positions
  account : Rebuilt capital (.ofReports now.reports) now.mark now.firm.account
  seq : now.firm.executionEngine.seq = now.reports.length
  issued : now.reports.map (·.execId) = execIds now.reports.length
  ticks : now.firm.metrics.marketTicks = requests.countP Request.isTick
  orders : now.firm.metrics.orderCommands = requests.countP Request.isOrder
  settlements : now.firm.metrics.settlementRuns = requests.countP Request.isSettlement
  executions : now.firm.metrics.executionsIssued = (Booking.ofReports now.reports).booked.length
  rows : now.firm.account.transactions.length =
    now.firm.metrics.executionsIssued + now.firm.metrics.settlementRuns
  ordered : ∀ rep ∈ now.reports, ∃ command time, .order command time ∈ requests ∧
    Executes command rep

variable {requests : List Request} {now : Audited}

theorem kept_create (capital : ℚ) : Kept capital [] ⟨.create capital, none⟩ where
  sided := sided_empty
  account := rebuilt_create capital
  seq := rfl
  issued := rfl
  ticks := rfl
  orders := rfl
  settlements := rfl
  executions := rfl
  rows := rfl
  ordered := nofun

theorem ordered_append {reports : List CanonicalExecutionReport}
    (ordered : ∀ rep ∈ reports, ∃ command time, .order command time ∈ requests ∧
      Executes command rep) (request : Request) :
    ∀ rep ∈ reports, ∃ command time, .order command time ∈ requests ++ [request] ∧
      Executes command rep := by
  intro rep member
  obtain ⟨command, time, asked, executes⟩ := ordered rep member
  exact ⟨command, time, List.mem_append_left _ asked, executes⟩

theorem kept_marketData (kept : Kept capital requests now) (tick : CanonicalMarketTick) :
    Kept capital (requests ++ [.marketData tick]) (now.after (.marketData tick)) := by
  obtain ⟨account, marks, rebuilt, rows⟩ :=
    kept.account.marked kept.sided tick.underlyingPrice
  have sided := sided_perform kept.sided (.marketData tick)
  simp only [after, perform, processMarketData, marks, markOf, Option.some_or] at sided ⊢
  constructor
  case sided => exact sided
  case account => exact rebuilt
  case seq => exact kept.seq
  case issued => exact kept.issued
  case ticks => simp [kept.ticks, Request.isTick]
  case orders => simp [kept.orders, Request.isOrder]
  case settlements => simp [kept.settlements, Request.isSettlement]
  case executions => exact kept.executions
  case rows => simp only [rows, kept.rows]
  case ordered => exact ordered_append kept.ordered _

theorem kept_settlement (kept : Kept capital requests now) (price : Option ℚ) :
    Kept capital (requests ++ [.settlement price]) (now.after (.settlement price)) := by
  obtain ⟨account, marks, rebuilt, rows⟩ :=
    kept.account.marked kept.sided (settlementPrice price)
  have sided := sided_perform kept.sided (.settlement price)
  simp only [after, perform, runSettlement, marks, markOf, Option.some_or] at sided ⊢
  constructor
  case sided => exact sided
  case account =>
    refine ⟨⟨rebuilt.positions, rebuilt.balance, rebuilt.realized, rebuilt.engine, ?_⟩,
      rebuilt.valued⟩
    simp [List.filterMap_append, LedgerRow.execId?, rebuilt.ledger]
  case seq => exact kept.seq
  case issued => exact kept.issued
  case ticks => simp [kept.ticks, Request.isTick]
  case orders => simp [kept.orders, Request.isOrder]
  case settlements => simp [kept.settlements, Request.isSettlement]
  case executions => exact kept.executions
  case rows =>
    simp only [List.length_append, List.length_singleton, rows, kept.rows]
    omega
  case ordered => exact ordered_append kept.ordered _

theorem kept_refused (kept : Kept capital requests now) {command : CanonicalOrderCommand ℚ}
    (time : String) (refused : ¬now.firm.Accepts command) :
    Kept capital (requests ++ [.order command time]) (now.after (.order command time)) := by
  have counted := processOrder_refused time refused
  simp only [after, perform, counted, markOf, Option.none_or]
  exact
    { kept with
      ticks := by simp [kept.ticks, Request.isTick]
      orders := by simp [kept.orders, Request.isOrder]
      settlements := by simp [kept.settlements, Request.isSettlement]
      ordered := ordered_append kept.ordered _ }

/-- A report is added to the trail under the next number. -/
theorem issued_concat (kept : Kept capital requests now) {command : CanonicalOrderCommand ℚ}
    {price : ℚ} {time : String} {engine : ExecutionEngine}
    (issued : now.firm.executionEngine.executeOrder command price command.qty time =
      (rep, engine)) :
    engine.seq = engine.reports.length ∧ engine.reports = now.reports ++ [rep] ∧
      engine.reports.map (·.execId) = execIds engine.reports.length ∧ rep.fee = 0 ∧
      ∀ issued ∈ engine.reports, ∃ command' time',
        .order command' time' ∈ requests ++ [.order command time] ∧ Executes command' issued := by
  cases issued
  refine ⟨?_, rfl, ?_, rfl, ?_⟩
  · simp [kept.seq]
  · simp [kept.issued, kept.seq, execIds, List.range_succ]
  · intro issued member
    rcases List.mem_append.mp member with old | own
    · exact ordered_append kept.ordered _ issued old
    · obtain rfl := List.mem_singleton.mp own
      exact ⟨command, time, by simp, rfl, rfl, rfl, rfl, rfl⟩

theorem kept_accepted (kept : Kept capital requests now) {command : CanonicalOrderCommand ℚ}
    (time : String) (accepts : now.firm.Accepts command) :
    Kept capital (requests ++ [.order command time]) (now.after (.order command time)) := by
  obtain ⟨rep, engine, issues⟩ : ∃ rep engine,
      now.firm.executionEngine.executeOrder command (now.firm.orderBook.matchOrder command)
        command.qty time = (rep, engine) := ⟨_, _, rfl⟩
  obtain ⟨seq, reports, issued, free, ordered⟩ := issued_concat kept issues
  obtain ⟨-, -, price, -, -⟩ := executeOrder_spec time issues
  have sided := sided_perform kept.sided (.order command time)
  rcases kept.account.applied free with
    ⟨e, raised, unbooked⟩ | ⟨applied, applies, entered, booked, rows⟩
  · simp only [after, perform, processOrder, not_lt.mpr accepts.1, not_le.mpr accepts.2, if_false,
      issues, raised, markOf, Option.none_or] at sided ⊢
    have same : Booking.ofReports engine.reports = Booking.ofReports now.reports := by
      rw [reports, Booking.ofReports_concat, unbooked]
    constructor
    case sided => exact sided
    case account => exact same ▸ kept.account
    case seq => exact seq
    case issued => exact issued
    case ticks => simp [kept.ticks, Request.isTick]
    case orders => simp [kept.orders, Request.isOrder]
    case settlements => simp [kept.settlements, Request.isSettlement]
    case executions => exact same ▸ kept.executions
    case rows => exact kept.rows
    case ordered => exact ordered
  · have standing : Sided applied.positions := by
      have moved := @applyExecution_positions now.firm.account rep
      rw [applies] at moved
      exact moved ▸ PositionManager.sided_updatePosition kept.sided _ _ _ _
    obtain ⟨account, marks, rebuilt, kept_rows⟩ :=
      entered.marked standing (now.firm.orderBook.matchOrder command)
    simp only [after, perform, processOrder, not_lt.mpr accepts.1, not_le.mpr accepts.2, if_false,
      issues, applies, marks, markOf, Option.some_or, price] at sided ⊢
    have next : Booking.ofReports engine.reports = (Booking.ofReports now.reports).enter rep := by
      rw [reports, Booking.ofReports_concat]
    constructor
    case sided => exact sided
    case account => exact next ▸ rebuilt
    case seq => exact seq
    case issued => exact issued
    case ticks => simp [kept.ticks, Request.isTick]
    case orders => simp [kept.orders, Request.isOrder]
    case settlements => simp [kept.settlements, Request.isSettlement]
    case executions =>
      simp only [next, booked, List.length_append, List.length_singleton, kept.executions]
    case rows =>
      simp only [kept_rows, rows, List.length_append, List.length_singleton, kept.rows]
      omega
    case ordered => exact ordered

theorem kept_after (kept : Kept capital requests now) (request : Request) :
    Kept capital (requests ++ [request]) (now.after request) := by
  cases request with
  | marketData tick => exact kept_marketData kept tick
  | settlement price => exact kept_settlement kept price
  | order command time =>
    by_cases accepts : now.firm.Accepts command
    · exact kept_accepted kept time accepts
    · exact kept_refused kept time accepts

theorem kept_foldl (capital : ℚ) (requests : List Request) :
    Kept capital requests (requests.foldl after ⟨.create capital, none⟩) := by
  induction requests using List.reverseRecOn with
  | nil => exact kept_create capital
  | append_singleton requests request ih =>
    rw [List.foldl_concat]
    exact kept_after ih request

end Audited

/-! ## Executions of positive quantities -/

/-- An execution of a positive quantity is always booked, and leaves positive quantities. -/
theorem PositionManager.updatePosition_positive {self : PositionManager}
    (held : ∀ symbol position, self.positions.get? symbol = some position → 0 < position.qty)
    (symbol side : String) {qty : ℤ} (positive : 0 < qty) (price : ℚ) :
    ∃ pnl next, self.updatePosition symbol side qty price = (.ok pnl, next) ∧
      ∀ symbol position, next.positions.get? symbol = some position → 0 < position.qty := by
  have entry : 0 ≤ ((self.positions.get? symbol).getD ⟨0, 0, side⟩).qty := by
    cases found : self.positions.get? symbol with
    | none => exact le_rfl
    | some position => exact (held symbol position found).le
  unfold updatePosition
  generalize (self.positions.get? symbol).getD ⟨0, 0, side⟩ = p at entry
  by_cases adds : p.qty = 0 ∨ p.side = side
  · have filled : p.qty + qty ≠ 0 := by omega
    simp only [adds, filled, if_true, if_false]
    refine ⟨_, _, rfl, Dict.forall_get?_set held ?_⟩
    dsimp only
    omega
  · by_cases left : p.qty - min p.qty qty = 0
    · simp only [adds, left, if_false, ne_eq, not_true]
      refine ⟨_, _, rfl, fun other position found => ?_⟩
      rw [Dict.get?_erase] at found
      split at found
      · cases found
      · exact held other position found
    · simp only [adds, left, if_false, ne_eq, not_false_eq_true, if_true]
      refine ⟨_, _, rfl, Dict.forall_get?_set held ?_⟩
      dsimp only
      omega

theorem Booking.booked_ofReports {reports : List CanonicalExecutionReport}
    (positive : ∀ rep ∈ reports, 0 < rep.executedQty) : (ofReports reports).booked = reports := by
  suffices both : (ofReports reports).booked = reports ∧ ∀ symbol position,
      (ofReports reports).positionMgr.positions.get? symbol = some position → 0 < position.qty from
    both.1
  induction reports using List.reverseRecOn with
  | nil => exact ⟨rfl, nofun⟩
  | append_singleton reports rep ih =>
    obtain ⟨booked, held⟩ := ih fun rep member => positive rep (List.mem_append_left _ member)
    obtain ⟨pnl, next, updated, held⟩ := PositionManager.updatePosition_positive held rep.symbol
      (sideText rep.side) (positive rep (by simp)) rep.executedPrice
    rw [ofReports_concat, enter, updated]
    exact ⟨by rw [booked], held⟩

/-- After any requests to a firm, also such that raised, every report is of an order that was asked
for, under an identifier of its own; booking the reports again gives the positions, the profits and
the executions of the ledger, in their order; the margins are those at the last mark; and the
metrics count the requests and the booked executions. With positive quantities every report is
booked. -/
theorem Audited.rebuilt (capital : ℚ) (requests : List Request) :
    let now := requests.foldl Audited.after ⟨.create capital, none⟩
    let booking := Booking.ofReports now.reports
    now.reports.map (·.execId) = execIds now.reports.length ∧
    (now.reports.map (·.execId)).Nodup ∧
    (∀ rep ∈ now.reports, ∃ command time, .order command time ∈ requests ∧
      Executes command rep) ∧
    Rebuilt capital booking now.mark now.firm.account ∧
    now.firm.account.transactions.length =
      booking.booked.length + requests.countP Request.isSettlement ∧
    now.firm.metrics =
      { marketTicks := requests.countP Request.isTick
        orderCommands := requests.countP Request.isOrder
        executionsIssued := booking.booked.length
        settlementRuns := requests.countP Request.isSettlement } ∧
    ((∀ command time, .order command time ∈ requests → 0 < command.qty) →
      booking.booked = now.reports) := by
  intro now booking
  have kept : Kept capital requests now := Audited.kept_foldl capital requests
  refine ⟨kept.issued, kept.issued ▸ nodup_execIds _, kept.ordered, kept.account, ?_, ?_, ?_⟩
  · rw [kept.rows, kept.executions, kept.settlements]
  · rw [← kept.ticks, ← kept.orders, ← kept.settlements, ← kept.executions]
  · intro positive
    refine Booking.booked_ofReports fun rep member => ?_
    obtain ⟨command, time, asked, executes⟩ := kept.ordered rep member
    exact executes.quantity ▸ positive command time asked

end OptionProject.Virtual
