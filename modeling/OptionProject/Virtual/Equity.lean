import OptionProject.Library.Machine
import OptionProject.Virtual.Books

/-!
# The equity of the virtual account

Along a run of requests the account keeps the fees and the booked profits of all executions, and
marks what is open at one price. Its equity is what all executions earn at that price, as long as
no execution is larger than the position it closes.

## Main definitions

* `netQuantity`, `costBasis` — the open positions, summed.
* `Marked` — a runtime with the price its account was last marked at.
* `Exceeds` — an order that is executed and leaves something over.

## Main results

* `sound_step` — what one request keeps.
* `equity_conserved` — the equity along every run.
-/
namespace OptionProject.Virtual
open Library Contracts

/-! ## Sums over the positions -/

def HeldPosition.signedQty (position : HeldPosition) : ℤ :=
  if position.side = "BUY" then position.qty else -position.qty

theorem HeldPosition.signedQty_ofLot (lot : Lot ℚ) :
    (ofLot lot).signedQty = Holding.net (some lot) := by
  obtain ⟨side, size, cost, -, -⟩ := lot
  cases side <;> simp [signedQty, ofLot, sideText, Side.sign]

def netQuantity (positions : Dict String HeldPosition) : ℤ :=
  positions.total HeldPosition.signedQty

def costBasis (positions : Dict String HeldPosition) : ℚ :=
  positions.total fun position => position.signedQty * position.avgPrice

/-- Every entry stands for a holding. -/
def Stands (positions : Dict String HeldPosition) : Prop :=
  ∀ symbol, ∃ h : Holding ℚ, positions.get? symbol = h.map .ofLot

namespace PositionManager

variable {positions : Dict String HeldPosition} {symbol : String} {h : Holding ℚ}

theorem stands_write (stands : Stands positions) (h : Holding ℚ) :
    Stands (write positions symbol h) := by
  intro other
  by_cases same : other = symbol
  · exact ⟨h, same ▸ get?_write h⟩
  · obtain ⟨held, found⟩ := stands other
    refine ⟨held, ?_⟩
    cases h with
    | none => rw [write, Dict.get?_erase_of_ne _ same, found]
    | some lot => rw [write, Dict.get?_set_of_ne _ _ same, found]

/-- A quantity of holdings, summed over the positions, changes by the holding replaced. -/
theorem total_write {M : Type} [AddCommGroup M] {f : HeldPosition → M} {g : Holding ℚ → M}
    (flat : g none = 0) (lots : ∀ lot, f (.ofLot lot) = g (some lot))
    (held : positions.get? symbol = h.map .ofLot) (h' : Holding ℚ) :
    (write positions symbol h').total f = positions.total f - g h + g h' := by
  have old : (positions.get? symbol).elim 0 f = g h := by
    rw [held]
    cases h with
    | none => exact flat.symm
    | some lot => exact lots lot
  cases h' with
  | none => rw [write, Dict.total_erase, old, flat, add_zero]
  | some lot =>
    rw [write, Dict.total_set, old, lots]
    abel

theorem netQuantity_write (held : positions.get? symbol = h.map .ofLot) (t : Trade ℚ) :
    netQuantity (write positions symbol (h.fill t)) = netQuantity positions + t.signed := by
  rw [netQuantity, total_write Holding.net_none HeldPosition.signedQty_ofLot held,
    Holding.net_fill, netQuantity]
  ring

theorem costBasis_write (held : positions.get? symbol = h.map .ofLot) (t : Trade ℚ) :
    costBasis (write positions symbol (h.fill t)) =
      costBasis positions + t.signed * t.price + h.booked t := by
  have lots (lot : Lot ℚ) : ((HeldPosition.ofLot lot).signedQty : ℚ) *
      (HeldPosition.ofLot lot).avgPrice = Holding.basis (some lot) := by
    rw [HeldPosition.signedQty_ofLot]
    rfl
  rw [costBasis, total_write Holding.basis_none lots held, Holding.basis_fill, costBasis]
  ring

end PositionManager

/-! ## Marking the account -/

variable {positions : Dict String HeldPosition}

theorem openProfit_ofLot (price : ℚ) (lot : Lot ℚ) :
    PnLEngine.openProfit price (.ofLot lot) =
      .ok ((HeldPosition.ofLot lot).signedQty * (price - lot.cost)) := by
  obtain ⟨side, size, cost, -, -⟩ := lot
  cases side
  · simp [PnLEngine.openProfit, HeldPosition.ofLot, HeldPosition.signedQty, sideText, mul_comm]
  · simp [PnLEngine.openProfit, HeldPosition.ofLot, HeldPosition.signedQty, sideText]
    ring

theorem sumUnrealized_eq (price : ℚ) {held : List HeldPosition}
    (lots : ∀ position ∈ held, ∃ lot, position = .ofLot lot) :
    PnLEngine.sumUnrealized price held =
      .ok (250000 * (((held.map (·.signedQty)).sum : ℤ) * price -
        (held.map fun position => (position.signedQty : ℚ) * position.avgPrice).sum)) := by
  induction held with
  | nil => simp [PnLEngine.sumUnrealized]
  | cons position rest ih =>
    obtain ⟨⟨lot, rfl⟩, others⟩ := List.forall_mem_cons.mp lots
    simp only [PnLEngine.sumUnrealized, openProfit_ofLot, ih others, bind, Except.bind,
      List.map_cons, List.sum_cons]
    congr 1
    simp only [HeldPosition.ofLot]
    push_cast
    ring

/-- The account with its open positions marked at a price. -/
structure MarkedAt (account marked : PaperTradingAccount) (price : ℚ) : Prop where
  positions : marked.positions = account.positions
  balance : marked.balance = account.balance
  realized : marked.realizedPnl = account.realizedPnl
  engine : marked.pnlEngine.realizedPnl = account.pnlEngine.realizedPnl
  unrealized : marked.unrealizedPnl =
    250000 * (netQuantity account.positions * price - costBasis account.positions)

/-- Marking never raises on positions that stand for holdings. -/
theorem updateTickPrice_stands {account : PaperTradingAccount}
    (stands : Stands account.positions) (price : ℚ) :
    ∃ marked, account.updateTickPrice price = (.ok (), marked) ∧ MarkedAt account marked price := by
  have lots : ∀ position ∈ account.positions.values, ∃ lot, position = .ofLot lot := by
    intro position member
    obtain ⟨symbol, found⟩ := Dict.mem_values.mp member
    obtain ⟨h, held⟩ := stands symbol
    obtain ⟨lot, -, same⟩ := Option.map_eq_some_iff.mp (held.symm.trans found)
    exact ⟨lot, same.symm⟩
  have summed := sumUnrealized_eq price lots
  have net : (account.positions.values.map (·.signedQty)).sum = netQuantity account.positions := by
    simp [netQuantity, Dict.total, Dict.values, Function.comp_def]
  have basis : (account.positions.values.map fun position =>
      (position.signedQty : ℚ) * position.avgPrice).sum = costBasis account.positions := by
    simp [costBasis, Dict.total, Dict.values, Function.comp_def]
  rw [net, basis] at summed
  unfold PaperTradingAccount.updateTickPrice PnLEngine.calculateUnrealized
  rw [summed]
  exact ⟨_, rfl, ⟨rfl, rfl, rfl, rfl, rfl⟩⟩

/-! ## Executions -/

def CanonicalExecutionReport.signedQuantity (rep : CanonicalExecutionReport) : ℤ :=
  rep.side.sign * rep.executedQty

def totalFees (reports : List CanonicalExecutionReport) : ℚ := (reports.map (·.fee)).sum

/-- What the executions earn at a price, for one unit of the multiplier. -/
def earned (reports : List CanonicalExecutionReport) (mark : ℚ) : ℚ :=
  (reports.map fun rep => (rep.signedQuantity : ℚ) * (mark - rep.executedPrice)).sum

/-- The account with an execution absorbed by the holding of its symbol. -/
structure Applied (account applied : PaperTradingAccount) (rep : CanonicalExecutionReport)
    (h : Holding ℚ) (t : Trade ℚ) : Prop where
  positions : applied.positions = PositionManager.write account.positions rep.symbol (h.absorb t)
  balance : applied.balance = account.balance - rep.fee
  realized : applied.realizedPnl = account.pnlEngine.realizedPnl + 250000 * h.booked t
  engine : applied.pnlEngine.realizedPnl = applied.realizedPnl

theorem applyExecution_ofHolding {account : PaperTradingAccount} {rep : CanonicalExecutionReport}
    {h : Holding ℚ} {t : Trade ℚ} (held : account.positions.get? rep.symbol = h.map .ofLot)
    (side : rep.side = t.side) (qty : rep.executedQty = t.size)
    (price : rep.executedPrice = t.price) :
    ∃ applied, account.applyExecution rep = (.ok (), applied) ∧
      Applied account applied rep h t := by
  have updated := PositionManager.updatePosition_ofHolding held t
  rw [← side, ← qty, ← price] at updated
  unfold PaperTradingAccount.applyExecution
  rw [updated]
  exact ⟨_, rfl, ⟨rfl, rfl, rfl, rfl⟩⟩

namespace VirtualSecuritiesFirmRuntime

variable {self : VirtualSecuritiesFirmRuntime} {command : CanonicalOrderCommand ℚ} (now : String)

/-- The order is covered by the free margin and there is a price for it. -/
def Accepts (self : VirtualSecuritiesFirmRuntime) (command : CanonicalOrderCommand ℚ) : Prop :=
  MarginEngine.calculateOrderMargin command ≤ self.account.freeMargin ∧
    0 < self.orderBook.matchOrder command

/-- The request is an order that is executed against a smaller position. -/
def Exceeds (self : VirtualSecuritiesFirmRuntime) : Request → Prop
  | .order command _ => self.Accepts command ∧
      ∃ position ∈ self.account.positions.get? command.symbol,
        position.side ≠ sideText command.side ∧ position.qty < command.qty
  | _ => False

theorem processOrder_refused (refused : ¬self.Accepts command) :
    self.processOrder command now = (.ok none, { self with
      metrics := { self.metrics with orderCommands := self.metrics.orderCommands + 1 } }) := by
  unfold processOrder
  by_cases short : self.account.freeMargin < MarginEngine.calculateOrderMargin command
  · simp only [short, if_true]
  · have unpriced : self.orderBook.matchOrder command ≤ 0 :=
      not_lt.mp fun priced => refused ⟨not_lt.mp short, priced⟩
    simp only [short, if_false, unpriced, if_true]

theorem processOrder_accepted (accepts : self.Accepts command) {rep : CanonicalExecutionReport}
    {executionEngine : ExecutionEngine} {applied marked : PaperTradingAccount}
    (issued : self.executionEngine.executeOrder command (self.orderBook.matchOrder command)
      command.qty now = (rep, executionEngine))
    (applies : self.account.applyExecution rep = (.ok (), applied))
    (marks : applied.updateTickPrice (self.orderBook.matchOrder command) = (.ok (), marked)) :
    ∃ metrics, self.processOrder command now =
      (.ok (some rep), { self with executionEngine, account := marked, metrics }) := by
  unfold processOrder
  simp only [not_lt.mpr accepts.1, if_false, not_le.mpr accepts.2, issued, applies, marks]
  exact ⟨_, rfl⟩

theorem executeOrder_spec {engine after : ExecutionEngine} {rep : CanonicalExecutionReport}
    {price : ℚ} {qty : ℤ} (issued : engine.executeOrder command price qty now = (rep, after)) :
    rep.side = command.side ∧ rep.executedQty = qty ∧ rep.executedPrice = price ∧
      rep.symbol = command.symbol ∧ after.reports = engine.reports ++ [rep] := by
  cases issued
  exact ⟨rfl, rfl, rfl, rfl, rfl⟩

/-- An accepted order is executed: one report, absorbed by the position of its symbol, and the
account marked at its price. -/
theorem processOrder_executed (accepts : self.Accepts command) (positive : 0 < command.qty)
    (stands : Stands self.account.positions) {h : Holding ℚ}
    (held : self.account.positions.get? command.symbol = h.map .ofLot) :
    let t : Trade ℚ :=
      ⟨command.side, command.qty, self.orderBook.matchOrder command, positive, accepts.2⟩
    ∃ rep next applied, self.processOrder command now = (.ok (some rep), next) ∧
      rep.signedQuantity = t.signed ∧ rep.executedPrice = t.price ∧ rep.symbol = command.symbol ∧
      next.executionEngine.reports = self.executionEngine.reports ++ [rep] ∧
      Applied self.account applied rep h t ∧ MarkedAt applied next.account t.price := by
  intro t
  obtain ⟨rep, executionEngine, issued⟩ : ∃ rep executionEngine,
      self.executionEngine.executeOrder command (self.orderBook.matchOrder command) command.qty
        now = (rep, executionEngine) := ⟨_, _, rfl⟩
  obtain ⟨side, qty, price, symbol, reports⟩ := executeOrder_spec now issued
  obtain ⟨applied, applies, absorbed⟩ := @applyExecution_ofHolding self.account rep h t
    (symbol ▸ held) side qty price
  have standing : Stands applied.positions := by
    rw [absorbed.positions]
    exact PositionManager.stands_write stands _
  obtain ⟨marked, marks, markedAt⟩ :=
    updateTickPrice_stands standing (self.orderBook.matchOrder command)
  obtain ⟨metrics, returned⟩ := processOrder_accepted now accepts issued applies marks
  have signed : rep.signedQuantity = t.signed := by
    rw [CanonicalExecutionReport.signedQuantity, side, qty]
    rfl
  exact ⟨rep, _, applied, returned, signed, price, symbol, reports, absorbed, markedAt⟩

theorem processMarketData_stands (stands : Stands self.account.positions)
    (tick : CanonicalMarketTick) :
    ∃ next, self.processMarketData tick = (.ok (), next) ∧
      next.executionEngine.reports = self.executionEngine.reports ∧
      MarkedAt self.account next.account tick.underlyingPrice := by
  obtain ⟨marked, marks, markedAt⟩ := updateTickPrice_stands stands tick.underlyingPrice
  unfold processMarketData
  rw [marks]
  exact ⟨_, rfl, rfl, markedAt⟩

theorem runSettlement_stands (stands : Stands self.account.positions) (price : Option ℚ) :
    ∃ row next, self.runSettlement price = (.ok row, next) ∧
      next.executionEngine.reports = self.executionEngine.reports ∧
      MarkedAt self.account next.account (settlementPrice price) := by
  obtain ⟨marked, marks, markedAt⟩ := updateTickPrice_stands stands (settlementPrice price)
  unfold runSettlement
  rw [marks]
  exact ⟨_, _, rfl, rfl, ⟨markedAt.positions, markedAt.balance, markedAt.realized,
    markedAt.engine, markedAt.unrealized⟩⟩

/-! ## Runs -/

/-- A runtime with the price its account was last marked at. -/
structure Marked where
  runtime : VirtualSecuritiesFirmRuntime
  mark : ℚ

/-- The price the account is marked at after a request, given the execution it led to. -/
def lastMark (mark : ℚ) : Request → Option CanonicalExecutionReport → ℚ
  | .marketData tick, _ => tick.underlyingPrice
  | .order _ _, none => mark
  | .order _ _, some rep => rep.executedPrice
  | .settlement finalSettlementPrice, _ => settlementPrice finalSettlementPrice

namespace Marked

abbrev account (now : Marked) : PaperTradingAccount := now.runtime.account

abbrev reports (now : Marked) : List CanonicalExecutionReport :=
  now.runtime.executionEngine.reports

/-- A request that returns. -/
def step (now : Marked) (request : Request) : Option Marked :=
  match now.runtime.perform request with
  | (.error _, _) => none
  | (.ok rep, runtime) => some ⟨runtime, lastMark now.mark request rep⟩

def started (initialCapital mark : ℚ) : Marked := ⟨.create initialCapital, mark⟩

/-- Every component of the account has kept its part of the history. -/
structure Sound (initialCapital : ℚ) (now : Marked) : Prop where
  stands : Stands now.account.positions
  engine : now.account.pnlEngine.realizedPnl = now.account.realizedPnl
  balance : now.account.balance = initialCapital - totalFees now.reports
  net : netQuantity now.account.positions = (now.reports.map (·.signedQuantity)).sum
  realized : now.account.realizedPnl = 250000 * (costBasis now.account.positions -
    (now.reports.map fun rep => (rep.signedQuantity : ℚ) * rep.executedPrice).sum)
  unrealized : now.account.unrealizedPnl =
    250000 * (netQuantity now.account.positions * now.mark - costBasis now.account.positions)

variable {initialCapital mark : ℚ} {before after : Marked} {request : Request}

theorem sound_of_started : Sound initialCapital (started initialCapital mark) where
  stands symbol := ⟨none, rfl⟩
  engine := rfl
  balance := (sub_zero initialCapital).symm
  net := rfl
  realized := by
    change (0 : ℚ) = 250000 * (0 - 0)
    ring
  unrealized := by
    change (0 : ℚ) = 250000 * ((0 : ℤ) * mark - 0)
    simp

theorem Sound.equity_eq (sound : Sound initialCapital before) :
    before.account.equity =
      initialCapital - totalFees before.reports + 250000 * earned before.reports before.mark := by
  rw [PaperTradingAccount.equity, earned, Holding.sum_marked, sound.balance, sound.realized,
    sound.unrealized, sound.net]
  ring

/-- Marking keeps everything but the open profit. -/
theorem Sound.marked (sound : Sound initialCapital before)
    (reports : after.reports = before.reports)
    (marks : MarkedAt before.account after.account after.mark) : Sound initialCapital after := by
  obtain ⟨positions, balance, realized, engine, unrealized⟩ := marks
  constructor
  · exact positions ▸ sound.stands
  · rw [engine, sound.engine, realized]
  · rw [balance, sound.balance, reports]
  · rw [positions, sound.net, reports]
  · rw [realized, sound.realized, positions, reports]
  · rw [unrealized, positions]

/-- An execution that fits adds itself to the sums. -/
theorem Sound.executed (sound : Sound initialCapital before) {rep : CanonicalExecutionReport}
    {applied : PaperTradingAccount} {h : Holding ℚ} {t : Trade ℚ}
    (held : before.account.positions.get? rep.symbol = h.map .ofLot) (fits : h.Fits t)
    (signed : rep.signedQuantity = t.signed) (price : rep.executedPrice = t.price)
    (reports : after.reports = before.reports ++ [rep])
    (absorbed : Applied before.account applied rep h t)
    (marks : MarkedAt applied after.account after.mark) : Sound initialCapital after := by
  obtain ⟨positions, balance, realized, engine, unrealized⟩ := marks
  have stored : applied.positions =
      PositionManager.write before.account.positions rep.symbol (h.fill t) := by
    rw [absorbed.positions, Holding.absorb_of_fits fits]
  have net := PositionManager.netQuantity_write held t
  have basis := PositionManager.costBasis_write held t
  rw [← stored] at net basis
  constructor
  · rw [positions, stored]
    exact PositionManager.stands_write sound.stands _
  · rw [engine, absorbed.engine, realized]
  · rw [balance, absorbed.balance, sound.balance, reports]
    simp only [totalFees, List.map_append, List.map_cons, List.map_nil, List.sum_append,
      List.sum_cons, List.sum_nil]
    ring
  · rw [positions, net, sound.net, reports]
    simp [signed]
  · rw [realized, absorbed.realized, sound.engine, sound.realized, positions, basis, reports]
    simp only [List.map_append, List.map_cons, List.map_nil, List.sum_append, List.sum_cons,
      List.sum_nil, signed, price]
    ring
  · rw [unrealized, positions]

/-- A request of a positive quantity that leaves nothing over returns and keeps the history. -/
theorem sound_step (sound : Sound initialCapital before)
    (positive : ∀ command now, request = .order command now → 0 < command.qty)
    (within : ¬before.runtime.Exceeds request) :
    ∃ after, before.step request = some after ∧ Sound initialCapital after := by
  cases request with
  | marketData tick =>
    obtain ⟨next, returned, reports, marks⟩ := processMarketData_stands sound.stands tick
    refine ⟨⟨next, tick.underlyingPrice⟩, ?_, sound.marked reports marks⟩
    simp [step, perform, returned, Except.map, lastMark]
  | settlement price =>
    obtain ⟨row, next, returned, reports, marks⟩ := runSettlement_stands sound.stands price
    refine ⟨⟨next, settlementPrice price⟩, ?_, sound.marked reports marks⟩
    simp [step, perform, returned, Except.map, lastMark]
  | order command now =>
    by_cases accepts : before.runtime.Accepts command
    · obtain ⟨h, held⟩ := sound.stands command.symbol
      obtain ⟨rep, next, applied, returned, signed, price, symbol, reports, absorbed, marks⟩ :=
        processOrder_executed now accepts (positive command now rfl) sound.stands held
      have fits : h.Fits ⟨command.side, command.qty, before.runtime.orderBook.matchOrder command,
          positive command now rfl, accepts.2⟩ := by
        cases h with
        | none => trivial
        | some lot =>
          refine or_iff_not_imp_left.mpr fun against => not_lt.mp fun larger => ?_
          exact within ⟨accepts, _, held, mt sideText_inj.mp (Ne.symm against), larger⟩
      refine ⟨⟨next, rep.executedPrice⟩, by simp [step, perform, returned, lastMark], ?_⟩
      exact sound.executed (symbol ▸ held) fits signed price reports absorbed (price ▸ marks)
    · have refused := processOrder_refused now accepts
      refine ⟨_, by simp only [step, perform, refused]; rfl, ?_⟩
      exact ⟨sound.stands, sound.engine, sound.balance, sound.net, sound.realized, sound.unrealized⟩

/-- Along every run of ticks, settlements and orders of positive quantities, none of them
executed against a smaller position, every request returns, and after each the equity is the
capital less the fees and what all executions earn at the last mark. -/
theorem equity_conserved (initialCapital mark : ℚ) {requests : List Request}
    (positive : ∀ command now, .order command now ∈ requests → 0 < command.qty)
    (within : ∀ before request,
      Machine.Takes step (started initialCapital mark) requests before request →
        ¬before.runtime.Exceeds request) :
    (∃ last, Machine.run step (started initialCapital mark) requests = some last) ∧
    ∀ now, Machine.Visits step (started initialCapital mark) requests now →
      now.account.equity =
        initialCapital - totalFees now.reports + 250000 * earned now.reports now.mark := by
  let safe (before : Marked) (request : Request) : Prop :=
    (∀ command now, request = .order command now → 0 < command.qty) ∧
      ¬before.runtime.Exceeds request
  have taken : ∀ before request,
      Machine.Takes step (started initialCapital mark) requests before request →
        safe before request := by
    intro before request takes
    refine ⟨fun command now same => ?_, within before request takes⟩
    exact positive command now (same ▸ Machine.mem_of_takes takes)
  constructor
  · exact Machine.exists_run sound_of_started
      (fun _ _ sound safe => sound_step sound safe.1 safe.2) taken
  · intro now visited
    refine Sound.equity_eq (Machine.visits_invariant sound_of_started ?_ taken now visited)
    intro before request after sound safe stepped
    obtain ⟨after', stepped', kept⟩ := sound_step sound safe.1 safe.2
    exact Option.some.inj (stepped'.symm.trans stepped) ▸ kept

def levelTick (price : ℚ) : Request := .marketData ⟨price, price, price⟩

/-- An order for futures of one symbol. -/
def futuresOrder (side : Side) (qty : ℤ) : Request :=
  .order ⟨"O", "T", .futures, side, qty, 100, none, 0, "KOSPI200", "", ""⟩ "2026-01-02T09:00:00"

/-- Two are bought at 100 and marked at 101. -/
theorem equity_conserved_bought :
    let requests := [levelTick 100, futuresOrder .buy 2, levelTick 101]
    (∃ last, Machine.run step (started 1000000000 0) requests = some last) ∧
    ∀ now, Machine.Visits step (started 1000000000 0) requests now →
      now.account.equity =
        1000000000 - totalFees now.reports + 250000 * earned now.reports now.mark := by
  refine equity_conserved 1000000000 0 ?_ ?_
  · intro command now member
    simp only [levelTick, futuresOrder, List.mem_cons, reduceCtorEq, Request.order.injEq,
      List.not_mem_nil, false_or, or_false] at member
    obtain ⟨rfl, -⟩ := member
    decide
  · intro before request takes exceeds
    rcases Machine.takes_cons.mp takes with ⟨-, rfl⟩ | ⟨_, ⟨⟩, takes⟩
    · exact exceeds
    rcases Machine.takes_cons.mp takes with ⟨rfl, rfl⟩ | ⟨_, -, takes⟩
    · obtain ⟨-, position, ⟨⟩, -⟩ := exceeds
    rcases Machine.takes_cons.mp takes with ⟨-, rfl⟩ | ⟨_, -, takes⟩
    · exact exceeds
    · exact Machine.takes_nil takes

/-- One is bought and two are sold at 100; then the price moves to 101. -/
theorem equity_not_conserved :
    let requests := [levelTick 100, futuresOrder .buy 1, futuresOrder .sell 2, levelTick 101]
    (Machine.run step (started 1000000000 0) requests).map (fun now =>
      (now.account.equity,
        1000000000 - totalFees now.reports + 250000 * earned now.reports now.mark)) =
      some (1000000000, 999750000) := by
  decide +kernel

end Marked
end VirtualSecuritiesFirmRuntime
end OptionProject.Virtual
