import OptionProject.Virtual.Equity
import OptionProject.Virtual.Snapshots

/-!
# The margin gate of the virtual firm

An order is let through when the margin for its own price is free. It is executed at the price of
the order book, which is not compared with the margin again.

## Main definitions

* `Gated` — what the gate promises about one order.
* `Sided` — every position is on a side.

## Main results

* `gated` — every order in every state is gated.
* `committed_le_iff` — after all requests, when an order commits no more than the free margin.
-/
namespace OptionProject.Virtual
open Library Contracts

/-! ## The sides of the positions -/

/-- Every position is on one of the two sides. -/
def Sided (positions : Dict String HeldPosition) : Prop :=
  ∀ symbol position, positions.get? symbol = some position →
    ∃ side : Side, position.side = sideText side

variable {positions : Dict String HeldPosition} {account : PaperTradingAccount}

theorem sided_empty : Sided .empty := by
  intro symbol position found
  cases found

theorem Sided.erase (sided : Sided positions) (symbol : String) :
    Sided (positions.erase symbol) := by
  intro other position found
  by_cases same : other = symbol
  · rw [same, Dict.get?_erase_self] at found
    cases found
  · rw [Dict.get?_erase_of_ne _ same] at found
    exact sided other position found

theorem PositionManager.sided_updatePosition {self : PositionManager}
    (sided : Sided self.positions) (symbol : String) (side : Side) (qty : ℤ) (price : ℚ) :
    Sided (self.updatePosition symbol (sideText side) qty price).2.positions := by
  have entry : ∃ side', ((self.positions.get? symbol).getD ⟨0, 0, sideText side⟩).side =
      sideText side' := by
    cases found : self.positions.get? symbol with
    | none => exact ⟨side, rfl⟩
    | some position => exact sided symbol position found
  unfold updatePosition
  generalize (self.positions.get? symbol).getD ⟨0, 0, sideText side⟩ = p at entry
  by_cases adds : p.qty = 0 ∨ p.side = sideText side
  · by_cases empty : p.qty + qty = 0
    · simpa only [adds, empty, if_true] using sided
    · simp only [adds, empty, if_true, if_false]
      exact Dict.forall_get?_set sided ⟨side, rfl⟩
  · by_cases left : p.qty - min p.qty qty = 0
    · simpa only [adds, left, if_false, ne_eq, not_true] using sided.erase symbol
    · simp only [adds, left, if_false, ne_eq, not_false_eq_true, if_true]
      exact Dict.forall_get?_set sided entry

theorem updateTickPrice_positions (price : ℚ) :
    (account.updateTickPrice price).2.positions = account.positions := by
  unfold PaperTradingAccount.updateTickPrice
  cases account.pnlEngine.calculateUnrealized account.positions price with
  | mk result pnlEngine => cases result <;> rfl

theorem applyExecution_positions (rep : CanonicalExecutionReport) :
    (account.applyExecution rep).2.positions =
      (account.positionMgr.updatePosition rep.symbol (sideText rep.side) rep.executedQty
        rep.executedPrice).2.positions := by
  unfold PaperTradingAccount.applyExecution
  cases account.positionMgr.updatePosition rep.symbol (sideText rep.side) rep.executedQty
      rep.executedPrice with
  | mk result positionMgr => cases result <;> rfl

theorem applyExecution_ok {rep : CanonicalExecutionReport} {pnl : ℚ} {next : PositionManager}
    (updated : account.positionMgr.updatePosition rep.symbol (sideText rep.side) rep.executedQty
      rep.executedPrice = (.ok pnl, next)) :
    ∃ applied, account.applyExecution rep = (.ok (), applied) ∧
      applied.positions = next.positions := by
  unfold PaperTradingAccount.applyExecution
  rw [updated]
  exact ⟨_, rfl, rfl⟩

theorem applyExecution_error {rep : CanonicalExecutionReport} {e : Raised}
    {next : PositionManager}
    (raised : account.positionMgr.updatePosition rep.symbol (sideText rep.side) rep.executedQty
      rep.executedPrice = (.error e, next)) :
    ∃ applied, account.applyExecution rep = (.error e, applied) := by
  unfold PaperTradingAccount.applyExecution
  rw [raised]
  exact ⟨_, rfl⟩

theorem sumUnrealized_sided (current : ℚ) {held : List HeldPosition}
    (sides : ∀ position ∈ held, ∃ side : Side, position.side = sideText side) :
    ∃ total, PnLEngine.sumUnrealized current held = .ok total := by
  induction held with
  | nil => exact ⟨0, rfl⟩
  | cons position rest ih =>
    obtain ⟨⟨side, sided⟩, others⟩ := List.forall_mem_cons.mp sides
    obtain ⟨total, summed⟩ := ih others
    cases side with
    | buy => simp [PnLEngine.sumUnrealized, PnLEngine.openProfit, sided, sideText, summed, bind,
        Except.bind]
    | sell => simp [PnLEngine.sumUnrealized, PnLEngine.openProfit, sided, sideText, summed, bind,
        Except.bind]

/-- Marking never raises on positions that are on a side. -/
theorem updateTickPrice_sided (sided : Sided account.positions) (price : ℚ) :
    ∃ marked, account.updateTickPrice price = (.ok (), marked) := by
  obtain ⟨total, summed⟩ := @sumUnrealized_sided price account.positions.values <| by
    intro position member
    obtain ⟨symbol, found⟩ := Dict.mem_values.mp member
    exact sided symbol position found
  unfold PaperTradingAccount.updateTickPrice PnLEngine.calculateUnrealized
  rw [summed]
  exact ⟨_, rfl⟩

namespace VirtualSecuritiesFirmRuntime

variable {self : VirtualSecuritiesFirmRuntime} {command : CanonicalOrderCommand ℚ} (now : String)

theorem sided_processOrder (sided : Sided self.account.positions) :
    Sided (self.processOrder command now).2.account.positions := by
  unfold processOrder
  split
  next => exact sided
  next =>
    dsimp only
    split
    next => exact sided
    next =>
      obtain ⟨rep, executionEngine, issued⟩ : ∃ rep executionEngine,
          self.executionEngine.executeOrder command (self.orderBook.matchOrder command)
            command.qty now = (rep, executionEngine) := ⟨_, _, rfl⟩
      have applied := @applyExecution_positions self.account rep
      simp only [issued]
      generalize self.account.applyExecution rep = outcome at applied ⊢
      obtain ⟨result, account⟩ := outcome
      have standing : Sided account.positions := by
        rw [applied]
        exact PositionManager.sided_updatePosition sided _ _ _ _
      cases result with
      | error e => exact standing
      | ok _ =>
        have marked := @updateTickPrice_positions account
          (self.orderBook.matchOrder command)
        dsimp only
        generalize account.updateTickPrice (self.orderBook.matchOrder command) = outcome
          at marked ⊢
        obtain ⟨result, after⟩ := outcome
        cases result with
        | error e => exact marked ▸ standing
        | ok _ => exact marked ▸ standing

theorem sided_perform (sided : Sided self.account.positions) (request : Request) :
    Sided (self.perform request).2.account.positions := by
  cases request with
  | order command now => exact sided_processOrder now sided
  | marketData tick =>
    have marked := @updateTickPrice_positions self.account tick.underlyingPrice
    exact marked ▸ sided
  | settlement price =>
    have marked := @updateTickPrice_positions self.account (settlementPrice price)
    simp only [perform, runSettlement]
    generalize self.account.updateTickPrice (settlementPrice price) = outcome at marked ⊢
    obtain ⟨result, after⟩ := outcome
    cases result with
    | error e => exact marked ▸ sided
    | ok _ => exact marked ▸ sided

theorem sided_performAll (sided : Sided self.account.positions) (requests : List Request) :
    Sided (self.performAll requests).account.positions := by
  induction requests generalizing self with
  | nil => exact sided
  | cons request rest ih => exact ih (sided_perform sided request)

/-! ## The gate -/

/-- An accepted order that returns has been executed at the price of the book. -/
theorem processOrder_of_accepts (accepts : self.Accepts command)
    {result : Option CanonicalExecutionReport} {next : VirtualSecuritiesFirmRuntime}
    (returned : self.processOrder command now = (.ok result, next)) :
    ∃ rep, result = some rep ∧ rep.executedQty = command.qty ∧
      rep.executedPrice = self.orderBook.matchOrder command := by
  obtain ⟨issued, executionEngine, issues⟩ : ∃ issued executionEngine,
      self.executionEngine.executeOrder command (self.orderBook.matchOrder command)
        command.qty now = (issued, executionEngine) := ⟨_, _, rfl⟩
  obtain ⟨-, qty, price, -, -⟩ := executeOrder_spec now issues
  unfold processOrder at returned
  simp only [not_lt.mpr accepts.1, if_false, not_le.mpr accepts.2, issues] at returned
  cases applies : self.account.applyExecution issued with
  | mk done applied =>
  cases done with
  | error e =>
    rw [applies] at returned
    cases returned
  | ok _ =>
    simp only [applies] at returned
    cases marks : applied.updateTickPrice (self.orderBook.matchOrder command) with
    | mk done marked =>
    cases done with
    | error e =>
      rw [marks] at returned
      cases returned
    | ok _ =>
      rw [marks] at returned
      cases returned
      exact ⟨issued, rfl, qty, price⟩

theorem accepts_of_some {rep : CanonicalExecutionReport} {next : VirtualSecuritiesFirmRuntime}
    (returned : self.processOrder command now = (.ok (some rep), next)) :
    self.Accepts command := by
  by_contra refused
  rw [processOrder_refused now refused] at returned
  cases returned

/-- The order brings a position of a negative quantity on its own side to zero, on which the
average price divides by zero. -/
def Annuls (self : VirtualSecuritiesFirmRuntime) (command : CanonicalOrderCommand ℚ) : Prop :=
  ∃ position ∈ self.account.positions.get? command.symbol,
    position.side = sideText command.side ∧ position.qty = -command.qty

/-- What the book's price takes beyond the order's price is covered by the margin left over. -/
def CoversSlippage (self : VirtualSecuritiesFirmRuntime) (command : CanonicalOrderCommand ℚ) :
    Prop :=
  (self.orderBook.matchOrder command - command.price) * command.qty * 250000 ≤
    self.account.freeMargin - MarginEngine.calculateOrderMargin command

theorem annuls_iff (positive : 0 < command.qty) (price : ℚ) :
    self.Annuls command ↔ ∃ e next, self.account.positionMgr.updatePosition command.symbol
      (sideText command.side) command.qty price = (.error e, next) := by
  unfold Annuls PositionManager.updatePosition
  cases self.account.positions.get? command.symbol with
  | none => simp [positive.ne']
  | some position =>
    by_cases same : position.side = sideText command.side
    · by_cases annulled : position.qty = -command.qty
      · simp [same, annulled]
      · simp [same, annulled, add_eq_zero_iff_eq_neg]
    · by_cases empty : position.qty = 0
      · simp [same, empty, positive.ne']
      · by_cases left : position.qty - min position.qty command.qty = 0
        · simp [same, empty, left]
        · simp [same, empty, left]

/-- An order of a positive quantity raises exactly when it is accepted and annuls a position. -/
theorem processOrder_raises_iff (positive : 0 < command.qty)
    (sided : Sided self.account.positions) :
    (∃ e next, self.processOrder command now = (.error e, next)) ↔
      self.Accepts command ∧ self.Annuls command := by
  by_cases accepts : self.Accepts command
  · obtain ⟨rep, executionEngine, issued⟩ : ∃ rep executionEngine,
        self.executionEngine.executeOrder command (self.orderBook.matchOrder command)
          command.qty now = (rep, executionEngine) := ⟨_, _, rfl⟩
    obtain ⟨side, qty, price, symbol, -⟩ := executeOrder_spec now issued
    have annuls := @annuls_iff self command positive (self.orderBook.matchOrder command)
    have standing := PositionManager.sided_updatePosition sided command.symbol command.side
      command.qty (self.orderBook.matchOrder command)
    rw [annuls, and_iff_right accepts]
    cases updated : self.account.positionMgr.updatePosition command.symbol
        (sideText command.side) command.qty (self.orderBook.matchOrder command) with
    | mk result positionMgr =>
    rw [updated] at standing
    rw [← side, ← qty, ← price, ← symbol] at updated
    cases result with
    | error e =>
      obtain ⟨applied, applies⟩ := applyExecution_error updated
      refine iff_of_true ⟨e, ?_⟩ ⟨e, positionMgr, rfl⟩
      unfold processOrder
      simp only [not_lt.mpr accepts.1, if_false, not_le.mpr accepts.2, issued, applies]
      exact ⟨_, rfl⟩
    | ok pnl =>
      obtain ⟨applied, applies, positions⟩ := applyExecution_ok updated
      obtain ⟨marked, marks⟩ := updateTickPrice_sided (positions ▸ standing)
        (self.orderBook.matchOrder command)
      obtain ⟨metrics, returned⟩ := processOrder_accepted now accepts issued applies marks
      refine iff_of_false ?_ ?_
      · rintro ⟨e, next, raised⟩
        cases returned.symm.trans raised
      · rintro ⟨e, next, ⟨⟩⟩
  · refine iff_of_false ?_ fun both => accepts both.1
    rintro ⟨e, next, raised⟩
    cases (processOrder_refused now accepts).symm.trans raised

/-- After all requests, an order for a positive quantity commits no more than the free margin
exactly when it is refused, raises, or the margin left over covers the price of the book. -/
theorem committed_le_iff (initialCapital : ℚ) (requests : List Request)
    (positive : 0 < command.qty) :
    let self := (create initialCapital).performAll requests
    (∀ rep next, self.processOrder command now = (.ok (some rep), next) →
        rep.executedPrice * rep.executedQty * 250000 ≤ self.account.freeMargin) ↔
      ¬self.Accepts command ∨ self.Annuls command ∨ self.CoversSlippage command := by
  intro self
  have raises := @processOrder_raises_iff self command now positive
    (sided_performAll sided_empty requests)
  have committed {rep : CanonicalExecutionReport} (qty : rep.executedQty = command.qty)
      (price : rep.executedPrice = self.orderBook.matchOrder command) :
      rep.executedPrice * rep.executedQty * 250000 ≤ self.account.freeMargin ↔
        self.CoversSlippage command := by
    rw [CoversSlippage, MarginEngine.calculateOrderMargin, qty, price, le_sub_iff_add_le]
    ring_nf
  constructor
  · intro bounded
    by_cases accepts : self.Accepts command
    · cases called : self.processOrder command now with
      | mk result next =>
      cases result with
      | error e => exact .inr (.inl (raises.mp ⟨e, next, called⟩).2)
      | ok result =>
        obtain ⟨rep, rfl, qty, price⟩ := processOrder_of_accepts now accepts called
        exact .inr (.inr ((committed qty price).mp (bounded rep next called)))
    · exact .inl accepts
  · intro cases_given rep next returned
    have accepts := accepts_of_some now returned
    obtain ⟨_, ⟨⟩, qty, price⟩ := processOrder_of_accepts now accepts returned
    rcases cases_given with refused | annuls | covers
    · exact absurd accepts refused
    · obtain ⟨e, next', raised⟩ := raises.mpr ⟨accepts, annuls⟩
      cases returned.symm.trans raised
    · exact (committed qty price).mpr covers

end VirtualSecuritiesFirmRuntime
end OptionProject.Virtual
