import OptionProject.Live.RecoveryAccounts
import OptionProject.Oms.Runs

/-!
# The recovery service

`kis_futures_execution_correlation_provider.py` and `live_execution_recovery_service.py`:
recovery inquires a snapshot, normalizes it with the contexts the OMS owns, and hands each
report to a callback. A snapshot that tells nothing new is a no-op only while the OMS still
resolves every order in it, which it stops doing once an order is filled.

## Main results

* `normalize_settled` — rows at their known quantities give no reports.
* `recover_noop_iff` — when recovery without news is a no-op.
-/
namespace OptionProject.Live
open Library Contracts Oms

/-- `KISFuturesExecutionCorrelationProvider.resolve`: every error of the OMS becomes one of its
own class. -/
def KISFuturesExecutionCorrelationProvider.resolve (orders : OrderStateMachine)
    (brokerOrderId : String) : Except Raised ExecutionCorrelation :=
  match orders.resolveExecutionCorrelation brokerOrderId with
  | .ok correlation => .ok correlation
  | .error e => .error ⟨.kisFuturesExecutionCorrelationError, e.message⟩

namespace LiveExecutionRecoveryService
open KISFuturesExecutionRecoveryAdapter

def contextForOrder (orders : OrderStateMachine) (brokerOrderId : String) :
    Except Raised KISExecutionRecoveryContext := do
  let correlation ← KISFuturesExecutionCorrelationProvider.resolve orders brokerOrderId
  KISExecutionRecoveryContext.create correlation.clientOrderId correlation.orderQuantity
    correlation.priorFilledQuantity correlation.priorAveragePrice

variable {σ β Query : Type}

/-- `tuple(self.on_report(report) for report in reports)`, on the state of the callback. -/
def deliver (onReport : ExecutionReport → σ → Outcome σ β) :
    List ExecutionReport → σ → Outcome σ (List β)
  | [], s => (.ok [], s)
  | report :: rest, s =>
    match onReport report s with
    | (.error e, s) => (.error e, s)
    | (.ok result, s) =>
      let (results, s) := deliver onReport rest s
      (results.map (result :: ·), s)

def recover (orders : OrderStateMachine) (inquire : Query → Except Raised Response)
    (onReport : ExecutionReport → σ → Outcome σ β) (query : Query) (s : σ) :
    Outcome σ (List β) :=
  match inquire query with
  | .error e => (.error e, s)
  | .ok response =>
    match KISFuturesExecutionRecoveryAdapter.normalize response (contextForOrder orders) with
    | .error e => (.error e, s)
    | .ok reports => deliver onReport reports s

/-! ## Rows without news -/

/-- The row repeats the quantity its order's context starts from. -/
def IsSettled (contexts : String → Except Raised KISExecutionRecoveryContext)
    (row : Row) : Prop :=
  ∃ context, contexts (field row "odno") = .ok context ∧
    nonNegativeInt row "tot_ccld_qty" = .ok context.priorFilledQuantity ∧
    context.priorFilledQuantity ≤ context.orderQuantity

theorem create_start (context : KISExecutionRecoveryContext) :
    KISExecutionRecoveryContext.create context.clientOrderId context.orderQuantity
      context.priorFilledQuantity context.priorAveragePrice = .ok context := by
  unfold KISExecutionRecoveryContext.create
  rw [dif_neg context.clientOrderId_nonblank, dif_neg (not_le.mpr context.orderQuantity_pos),
    dif_neg (not_lt.mpr context.priorFilledQuantity_nonneg)]

theorem advance_settled {context : KISExecutionRecoveryContext} {row : Row}
    (order : required row "odno" = .ok (field row "odno"))
    (quantity : nonNegativeInt row "tot_ccld_qty" = .ok context.priorFilledQuantity)
    (within : context.priorFilledQuantity ≤ context.orderQuantity) :
    advance (.start context) row = .ok (.start context, []) := by
  have converted : toExecutionReport row context = .ok none := by
    refine bind_eq_ok.mpr ⟨_, order, bind_eq_ok.mpr ⟨_, quantity, ?_⟩⟩
    rw [if_neg (lt_irrefl _), if_neg (not_lt.mpr within), if_pos (sub_self _)]
  exact bind_eq_ok.mpr ⟨context, create_start context, bind_eq_ok.mpr ⟨none, converted, rfl⟩⟩

variable {contexts : String → Except Raised KISExecutionRecoveryContext}

/-- Every open order still stands where its context starts. -/
def Unmoved (contexts : String → Except Raised KISExecutionRecoveryContext)
    (state : Normalisation) : Prop :=
  ∀ orderId progress, state.byOrder.get? orderId = some progress →
    ∃ context, contexts orderId = .ok context ∧ progress = .start context

theorem normalizeRow_settled {state : Normalisation} {row : Row}
    (unmoved : Unmoved contexts state) (named : field row "odno" ≠ "")
    (settled : IsSettled contexts row) :
    ∃ byOrder, normalizeRow contexts state (some row) = .ok ⟨byOrder, state.reports⟩ ∧
      Unmoved contexts ⟨byOrder, state.reports⟩ := by
  obtain ⟨context, given, quantity, within⟩ := settled
  have order : required row "odno" = .ok (field row "odno") := if_neg named
  have progress : progressOf contexts state (field row "odno") = .ok (.start context) := by
    unfold progressOf
    cases open_ : state.byOrder.get? (field row "odno") with
    | none => simp [given, Except.map]
    | some progress =>
      obtain ⟨context', given', rfl⟩ := unmoved _ _ open_
      cases given.symm.trans given'
      rfl
  refine ⟨state.byOrder.set (field row "odno") (.start context), ?_, ?_⟩
  · refine bind_eq_ok.mpr ⟨_, order, bind_eq_ok.mpr ⟨_, progress, bind_eq_ok.mpr
      ⟨_, advance_settled order quantity within, ?_⟩⟩⟩
    dsimp only
    rw [List.append_nil]
  · exact Dict.forall_get?_set unmoved ⟨context, given, rfl⟩

/-- Rows at their known quantities give no reports. -/
theorem normalize_settled {rows : List Row} (named : ∀ row ∈ rows, field row "odno" ≠ "")
    (settled : ∀ row ∈ rows, IsSettled contexts row) :
    KISFuturesExecutionRecoveryAdapter.normalize ⟨some (rows.map some)⟩ contexts = .ok [] := by
  have loop (state : Normalisation) (unmoved : Unmoved contexts state) :
      ∃ byOrder, (rows.map some).foldlM (normalizeRow contexts) state =
        .ok ⟨byOrder, state.reports⟩ := by
    induction rows generalizing state with
    | nil => exact ⟨state.byOrder, rfl⟩
    | cons row rest ih =>
      obtain ⟨byOrder, head, unmoved⟩ := normalizeRow_settled unmoved (named row List.mem_cons_self)
        (settled row List.mem_cons_self)
      obtain ⟨byOrder, tail⟩ := ih (fun r mem => named r (List.mem_cons_of_mem _ mem))
        (fun r mem => settled r (List.mem_cons_of_mem _ mem)) ⟨byOrder, state.reports⟩ unmoved
      refine ⟨byOrder, ?_⟩
      rw [List.map_cons, List.foldlM_cons]
      exact bind_eq_ok.mpr ⟨_, head, tail⟩
  obtain ⟨byOrder, ran⟩ := loop ⟨.empty, []⟩ fun _ _ found => nomatch found
  unfold KISFuturesExecutionRecoveryAdapter.normalize
  simp [ran, Except.map]

/-! ## Recovery without news -/

/-- The rows name correlated orders at the quantities the OMS has. -/
def IsSnapshotOf (orders : OrderStateMachine) (rows : List Row) : Prop :=
  ∀ row ∈ rows, field row "odno" ≠ "" ∧ ∃ clientOrderId state,
    orders.brokerToClient.get? (field row "odno") = some clientOrderId ∧
      orders.states.get? clientOrderId = some state ∧
      nonNegativeInt row "tot_ccld_qty" = .ok state.filledQuantity

/-- The OMS resolves the order: it is acknowledged and not yet complete, and its data make a
context. -/
def IsResolvable (orders : OrderStateMachine) (brokerOrderId : String) : Prop :=
  ∃ clientOrderId state, orders.brokerToClient.get? brokerOrderId = some clientOrderId ∧
    orders.states.get? clientOrderId = some state ∧
    state.status ∈ [.acked, .partiallyFilled] ∧ strip state.clientOrderId ≠ "" ∧
    0 < state.orderQuantity ∧ state.filledQuantity ≤ state.orderQuantity

/-- In every state the OMS reaches only the status decides. -/
theorem isResolvable_iff {orders : OrderStateMachine} (wf : orders.WellFormed)
    (brokerOrderId : String) :
    IsResolvable orders brokerOrderId ↔ ∃ clientOrderId state,
      orders.brokerToClient.get? brokerOrderId = some clientOrderId ∧
        orders.states.get? clientOrderId = some state ∧
        state.status ∈ [.acked, .partiallyFilled] := by
  constructor
  · rintro ⟨clientOrderId, state, correlated, known, status, -⟩
    exact ⟨clientOrderId, state, correlated, known, status⟩
  · rintro ⟨clientOrderId, state, correlated, known, status⟩
    have sound := wf.sound clientOrderId state known
    have named : strip state.clientOrderId ≠ "" := by
      rw [sound.key, sound.stripped]
      exact sound.nonempty
    exact ⟨clientOrderId, state, correlated, known, status, named, sound.quantity_pos,
      sound.filled_le⟩

theorem contextForOrder_eq_ok {orders : OrderStateMachine} {row : Row} {clientOrderId : String}
    {state : OrderState} (named : field row "odno" ≠ "")
    (correlated : orders.brokerToClient.get? (field row "odno") = some clientOrderId)
    (known : orders.states.get? clientOrderId = some state)
    (context : KISExecutionRecoveryContext) :
    contextForOrder orders (field row "odno") = .ok context ↔
      state.status ∈ [.acked, .partiallyFilled] ∧
        KISExecutionRecoveryContext.create state.clientOrderId state.orderQuantity
          state.filledQuantity state.averageExecutionPrice = .ok context := by
  have stripped : strip (field row "odno") = field row "odno" := strip_strip _
  unfold contextForOrder KISFuturesExecutionCorrelationProvider.resolve
    OrderStateMachine.resolveExecutionCorrelation
  simp only [stripped, named, if_false, correlated, known]
  by_cases status : state.status ∈ [.acked, .partiallyFilled]
  · simp only [status, not_true_eq_false, if_false, true_and, bind, Except.bind]
  · simp only [status, not_false_eq_true, if_true, false_and, iff_false]
    intro returned
    cases returned

/-- An order that the OMS has resolves exactly when it can give a context for its quantity. -/
theorem isSettled_iff {orders : OrderStateMachine} {row : Row} {clientOrderId : String}
    {state : OrderState} (named : field row "odno" ≠ "")
    (correlated : orders.brokerToClient.get? (field row "odno") = some clientOrderId)
    (known : orders.states.get? clientOrderId = some state)
    (quantity : nonNegativeInt row "tot_ccld_qty" = .ok state.filledQuantity) :
    IsSettled (contextForOrder orders) row ↔ IsResolvable orders (field row "odno") := by
  constructor
  · rintro ⟨context, given, read, within⟩
    obtain ⟨status, created⟩ := (contextForOrder_eq_ok named correlated known context).mp given
    obtain ⟨client, total, prior, -⟩ := create_eq_ok created
    refine ⟨clientOrderId, state, correlated, known, status, ?_, ?_, ?_⟩
    · exact client ▸ context.clientOrderId_nonblank
    · exact total ▸ context.orderQuantity_pos
    · rw [← prior, ← total]
      exact within
  · rintro ⟨clientOrderId', state', correlated', known', status, client, total, within⟩
    obtain rfl : clientOrderId = clientOrderId' :=
      Option.some.inj (correlated.symm.trans correlated')
    obtain rfl : state = state' := Option.some.inj (known.symm.trans known')
    have nonneg := nonNegativeInt_nonneg quantity
    let context : KISExecutionRecoveryContext := ⟨state.clientOrderId, state.orderQuantity,
      state.filledQuantity, state.averageExecutionPrice, client, total, nonneg⟩
    have created := create_start context
    exact ⟨context, (contextForOrder_eq_ok named correlated known context).mpr ⟨status, created⟩,
      quantity, within⟩

/-- Recovery without news does nothing exactly when the OMS resolves every order in it. -/
theorem recover_noop_iff (orders : OrderStateMachine) (rows : List Row)
    (snapshot : IsSnapshotOf orders rows) (inquire : Query → Except Raised Response)
    (query : Query) (responded : inquire query = .ok ⟨some (rows.map some)⟩)
    (onReport : ExecutionReport → σ → Outcome σ β) (s : σ) :
    recover orders inquire onReport query s = (.ok [], s) ↔
      ∀ row ∈ rows, IsResolvable orders (field row "odno") := by
  unfold recover
  rw [responded]
  constructor
  · intro quiet row mem
    obtain ⟨named, clientOrderId, state, correlated, known, quantity⟩ := snapshot row mem
    refine (isSettled_iff named correlated known quantity).mp ?_
    cases normalized : KISFuturesExecutionRecoveryAdapter.normalize ⟨some (rows.map some)⟩
        (contextForOrder orders) with
    | error e => simp [normalized] at quiet
    | ok reports =>
      obtain ⟨rows', loop, output, -, projects⟩ := projects_of_normalize normalized
      obtain rfl : rows = rows' :=
        List.map_injective_iff.mpr (Option.some_injective _) (Option.some.inj output)
      have own : row ∈ rowsOf (field row "odno") rows := by simp [rowsOf, mem]
      obtain ⟨context, given, account⟩ := projects.orderAccounts (List.ne_nil_of_mem own)
      obtain ⟨status, created⟩ := (contextForOrder_eq_ok named correlated known context).mp given
      have prior : context.priorFilledQuantity = state.filledQuantity :=
        (create_eq_ok created).2.2.1
      obtain ⟨n, read, le⟩ := account.largest row own
      have same : state.filledQuantity = n := Except.ok.inj (quantity.symm.trans read)
      refine ⟨context, given, prior ▸ quantity, ?_⟩
      rw [prior, same]
      exact le.trans account.within
  · intro resolvable
    have settled : ∀ row ∈ rows, IsSettled (contextForOrder orders) row := by
      intro row mem
      obtain ⟨named, clientOrderId, state, correlated, known, quantity⟩ := snapshot row mem
      exact (isSettled_iff named correlated known quantity).mpr (resolvable row mem)
    simp only [normalize_settled (fun row mem => (snapshot row mem).1) settled]
    rfl

/-- A partially filled order, repeated at its quantity of 2. -/
theorem recover_noop_partially_filled :
    let order : OrderState :=
      { clientOrderId := "C1", status := .partiallyFilled, brokerOrderId := some "B1"
        orderQuantity := 5, filledQuantity := 2, averageExecutionPrice := some 350 }
    let orders := (OrderStateMachine.empty.setState "C1" order).correlate "B1" "C1"
    let row : Row := .ofList [("odno", "B1"), ("tot_ccld_qty", "2"), ("avg_idx", "350")]
    let inquire : Unit → Except Raised Response := fun _ => .ok ⟨some [some row]⟩
    let onReport : ExecutionReport → ℕ → Outcome ℕ Unit := fun _ calls => (.ok (), calls + 1)
    recover orders inquire onReport () 0 = (.ok [], 0) := by
  intro order orders row inquire onReport
  have snapshot : IsSnapshotOf orders [row] := by
    intro r mem
    obtain rfl := List.mem_singleton.mp mem
    exact ⟨by decide, "C1", order, by decide, by decide +kernel, by decide⟩
  refine (recover_noop_iff orders [row] snapshot inquire () rfl onReport 0).mpr fun r mem => ?_
  obtain rfl := List.mem_singleton.mp mem
  exact ⟨"C1", order, by decide, by decide +kernel, by decide, by decide, by decide, by decide⟩

/-- A filled order, listed by the broker at its full quantity, makes recovery raise. -/
theorem recover_raises_filled :
    let order : OrderState :=
      { clientOrderId := "C1", status := .filled, brokerOrderId := some "B1"
        orderQuantity := 5, filledQuantity := 5, averageExecutionPrice := some 350 }
    let orders := (OrderStateMachine.empty.setState "C1" order).correlate "B1" "C1"
    let row : Row := .ofList [("odno", "B1"), ("tot_ccld_qty", "5"), ("avg_idx", "350")]
    let inquire : Unit → Except Raised Response := fun _ => .ok ⟨some [some row]⟩
    let onReport : ExecutionReport → ℕ → Outcome ℕ Unit := fun _ calls => (.ok (), calls + 1)
    IsSnapshotOf orders [row] ∧ recover orders inquire onReport () 0 =
      (.error ⟨.kisFuturesExecutionCorrelationError, "EXECUTION_CORRELATION_STATE_INVALID"⟩, 0)
      := by
  intro order orders row inquire onReport
  constructor
  · intro r mem
    obtain rfl := List.mem_singleton.mp mem
    exact ⟨by decide, "C1", order, by decide, by decide +kernel, by decide⟩
  · decide +kernel

end LiveExecutionRecoveryService

end OptionProject.Live
