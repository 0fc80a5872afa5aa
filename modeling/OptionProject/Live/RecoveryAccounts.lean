import Mathlib.Data.List.Forall2
import Mathlib.Tactic.FieldSimp
import OptionProject.Live.RecoveryAdapter

/-!
# Accounts of a recovery snapshot

Rows of many orders are interleaved, but each order advances by its own rows alone. The loop
of `normalize` is projected on each order, the accounts of one order follow by induction on
its rows, and the ids of all reports are distinct because they can be read back.

## Main results

* `snapshotIdentity_injective` — an id fixes the order and the cumulative quantity.
* `OrderRun.accounts` — the accounts of one order.
* `projects_of_foldlM` — the loop, seen from each order.
* `normalize_accounts` — the accounts of every order of a response.
-/
namespace OptionProject.Live
open Library Contracts

/-! ## Identities -/

theorem separator_notMem {s : List Char} (numeral : ∀ c ∈ s, IsNumeral c) : '|' ∉ s := by
  intro mem
  have absurdity := numeral '|' mem
  simp [IsNumeral] at absurdity

theorem snapshotIdentity_toList (orderId : String) (cumulative : ℤ) (average : Decimal) :
    (snapshotIdentity orderId cumulative average).toList =
      (("REST-CCNL-SNAPSHOT|" ++ orderId).toList ++ '|' :: (toString cumulative).toList) ++
        '|' :: average.text.toList := by
  have bar : "|".toList = ['|'] := rfl
  unfold snapshotIdentity
  rw [String.toList_append, String.toList_append, String.toList_append, String.toList_append, bar]
  simp only [List.append_assoc, List.cons_append, List.nil_append]

/-- The id of a snapshot can be read back, although the order id is free text. -/
theorem snapshotIdentity_injective {orderId orderId' : String} {cumulative cumulative' : ℤ}
    {average average' : Decimal}
    (same : snapshotIdentity orderId cumulative average =
      snapshotIdentity orderId' cumulative' average') :
    orderId = orderId' ∧ cumulative = cumulative' := by
  have chars := congrArg String.toList same
  rw [snapshotIdentity_toList, snapshotIdentity_toList] at chars
  obtain ⟨front, -⟩ := append_separator_inj (separator_notMem average.isNumeral_text)
    (separator_notMem average'.isNumeral_text) chars
  obtain ⟨order, quantity⟩ := append_separator_inj
    (separator_notMem (isNumeral_intText cumulative))
    (separator_notMem (isNumeral_intText cumulative')) front
  rw [String.toList_append, String.toList_append] at order
  exact ⟨String.toList_inj.mp (List.append_cancel_left order),
    intText_injective (String.toList_inj.mp quantity)⟩

/-! ## One row -/

theorem nonNegativeInt_nonneg {row : Row} {key : String} {n : ℤ}
    (read : nonNegativeInt row key = .ok n) : 0 ≤ n := by
  unfold nonNegativeInt at read
  split at read
  · cases read
  · split_ifs at read with negative
    rw [← Except.ok.inj read]
    omega

/-- The price of the new quantity makes up the difference of the two notionals. -/
theorem deltaExecutionPrice_spec {cumulative prior : ℤ} {cumulativeAverage price : ℚ}
    {priorAverage : Option ℚ}
    (returned : deltaExecutionPrice cumulative cumulativeAverage prior priorAverage = .ok price) :
    (cumulative - prior : ℤ) * price =
      cumulativeAverage * cumulative - priorAverage.getD 0 * prior := by
  unfold deltaExecutionPrice at returned
  by_cases first : prior = 0
  · rw [if_pos first] at returned
    cases returned
    simp [first, mul_comm]
  · rw [if_neg first] at returned
    cases priorAverage with
    | none => cases returned
    | some priorAverage =>
      dsimp only at returned
      split_ifs at returned with empty nonpositive
      have delta : ((cumulative - prior : ℤ) : ℚ) ≠ 0 := by
        exact_mod_cast (not_le.mp empty).ne'
      rw [← Except.ok.inj returned, Option.getD_some]
      exact mul_div_cancel₀ _ delta

namespace KISFuturesExecutionRecoveryAdapter

/-- What the rows of an order are worth so far. -/
def OrderProgress.notional (progress : OrderProgress) : ℚ :=
  progress.average.getD 0 * progress.cumulative

/-- A report of what a row adds to an order. -/
structure IsNewFill (progress : OrderProgress) (row : Row) (orderId : String) (cumulative : ℤ)
    (average : Decimal) (report : ExecutionReport) : Prop where
  order : required row "odno" = .ok orderId
  quantity : nonNegativeInt row "tot_ccld_qty" = .ok cumulative
  price : positiveDecimal row "avg_idx" = .ok average
  clientOrderId : report.clientOrderId = progress.context.clientOrderId
  brokerOrderId : report.brokerOrderId = some orderId
  executionId : report.executionId = some (snapshotIdentity orderId cumulative average)
  filledQuantity : report.filledQuantity = cumulative - progress.cumulative
  remainingQuantity :
    report.remainingQuantity = progress.context.orderQuantity - cumulative
  status : report.status = if report.remainingQuantity = 0 then "FILLED" else "PARTIALLY_FILLED"
  notional : report.filledQuantity * report.executionPrice.getD 0 =
    average.value * cumulative - progress.notional

/-- A row leaves its order where it is, or advances it by one report. -/
inductive Advances (progress : OrderProgress) (row : Row) :
    OrderProgress → List ExecutionReport → Prop
  | stays (quantity : nonNegativeInt row "tot_ccld_qty" = .ok progress.cumulative)
      (within : progress.cumulative ≤ progress.context.orderQuantity) :
      Advances progress row progress []
  | grows (orderId : String) (cumulative : ℤ) (average : Decimal) (report : ExecutionReport)
      (larger : progress.cumulative < cumulative)
      (within : cumulative ≤ progress.context.orderQuantity)
      (fill : IsNewFill progress row orderId cumulative average report) :
      Advances progress row ⟨progress.context, cumulative, some average.value⟩ [report]

theorem create_eq_ok {clientOrderId : String} {orderQuantity prior : ℤ} {average : Option ℚ}
    {context : KISExecutionRecoveryContext}
    (created : KISExecutionRecoveryContext.create clientOrderId orderQuantity prior average =
      .ok context) :
    context.clientOrderId = clientOrderId ∧ context.orderQuantity = orderQuantity ∧
      context.priorFilledQuantity = prior ∧ context.priorAveragePrice = average := by
  unfold KISExecutionRecoveryContext.create at created
  split_ifs at created
  cases created
  exact ⟨rfl, rfl, rfl, rfl⟩

/-- A converted row reports nothing at the known quantity, and a new fill above it. -/
theorem toExecutionReport_spec {row : Row} {context : KISExecutionRecoveryContext}
    {result : Option ExecutionReport} (returned : toExecutionReport row context = .ok result) :
    ∃ cumulative, nonNegativeInt row "tot_ccld_qty" = .ok cumulative ∧
      cumulative ≤ context.orderQuantity ∧
      (cumulative = context.priorFilledQuantity ∧ result = none ∨
        context.priorFilledQuantity < cumulative ∧ ∃ orderId average report,
          result = some report ∧
            IsNewFill (.start context) row orderId cumulative average report) := by
  obtain ⟨orderId, order, returned⟩ := bind_eq_ok.mp returned
  obtain ⟨cumulative, quantity, returned⟩ := bind_eq_ok.mp returned
  obtain ⟨regressed, returned⟩ := ite_error_eq_ok.mp returned
  obtain ⟨exceeded, returned⟩ := ite_error_eq_ok.mp returned
  refine ⟨cumulative, quantity, not_lt.mp exceeded, ?_⟩
  by_cases same : cumulative - context.priorFilledQuantity = 0
  · rw [if_pos same] at returned
    cases returned
    exact .inl ⟨by omega, rfl⟩
  · rw [if_neg same] at returned
    obtain ⟨average, price, returned⟩ := bind_eq_ok.mp returned
    obtain ⟨deltaPrice, delta, returned⟩ := bind_eq_ok.mp returned
    obtain ⟨timestamp, -, returned⟩ := bind_eq_ok.mp returned
    cases returned
    refine .inr ⟨by omega, orderId, average, _, rfl,
      ⟨order, quantity, price, rfl, rfl, rfl, rfl, rfl, ?_, deltaExecutionPrice_spec delta⟩⟩
    by_cases complete : cumulative = context.orderQuantity
    · simp [complete]
    · have left : context.orderQuantity - cumulative ≠ 0 := by omega
      simp [complete, left]

theorem advance_advances {progress next : OrderProgress} {row : Row}
    {reports : List ExecutionReport} (returned : advance progress row = .ok (next, reports)) :
    Advances progress row next reports := by
  obtain ⟨context, created, returned⟩ := bind_eq_ok.mp returned
  obtain ⟨client, total, prior, average⟩ := create_eq_ok created
  obtain ⟨result, converted, returned⟩ := bind_eq_ok.mp returned
  obtain ⟨cumulative, quantity, within, new⟩ := toExecutionReport_spec converted
  rw [total] at within
  rcases new with ⟨same, rfl⟩ | ⟨larger, orderId, newAverage, report, rfl, fill⟩
  · cases returned
    rw [same, prior] at quantity within
    exact .stays quantity within
  · obtain ⟨again, repeated, returned⟩ := bind_eq_ok.mp returned
    cases fill.price.symm.trans repeated
    cases returned
    have worth : OrderProgress.notional (.start context) = progress.notional := by
      simp [OrderProgress.notional, OrderProgress.start, average, prior]
    have filled := fill.filledQuantity
    change report.filledQuantity = cumulative - context.priorFilledQuantity at filled
    rw [prior] at larger filled
    have sum : progress.cumulative + report.filledQuantity = cumulative := by omega
    rw [sum]
    exact .grows orderId cumulative newAverage report larger within
      { fill with
        clientOrderId := fill.clientOrderId.trans client
        filledQuantity := filled
        remainingQuantity := total ▸ fill.remainingQuantity
        notional := worth ▸ fill.notional }

/-! ## The rows of one order -/

/-- The rows of one order in turn, and the reports they gave. -/
inductive OrderRun (first : OrderProgress) :
    List Row → OrderProgress → List ExecutionReport → Prop
  | start : OrderRun first [] first []
  | row {rows : List Row} {progress next : OrderProgress} {reports new : List ExecutionReport}
      (row : Row) (run : OrderRun first rows progress reports)
      (step : Advances progress row next new) :
      OrderRun first (rows ++ [row]) next (reports ++ new)

/-- Each report leaves what the running quantity leaves of the order, and `FILLED` says that
nothing is left. -/
def RunsDown (orderQuantity : ℤ) : ℤ → List ExecutionReport → Prop
  | _, [] => True
  | filled, report :: rest =>
    report.remainingQuantity = orderQuantity - (filled + report.filledQuantity) ∧
      (report.status = "FILLED" ↔ report.remainingQuantity = 0) ∧
      RunsDown orderQuantity (filled + report.filledQuantity) rest

theorem runsDown_append {orderQuantity filled : ℤ} {reports later : List ExecutionReport} :
    RunsDown orderQuantity filled (reports ++ later) ↔
      RunsDown orderQuantity filled reports ∧
        RunsDown orderQuantity (filled + totalFilled reports) later := by
  induction reports generalizing filled with
  | nil => simp [RunsDown]
  | cons report rest ih =>
    simp only [List.cons_append, RunsDown, ih, totalFilled, List.map_cons, List.sum_cons,
      add_assoc, and_assoc]

/-- The report was made from the row. -/
structure IsReportOf (context : KISExecutionRecoveryContext) (row : Row)
    (report : ExecutionReport) : Prop where
  order : ∃ orderId cumulative average, required row "odno" = .ok orderId ∧
    nonNegativeInt row "tot_ccld_qty" = .ok cumulative ∧
    positiveDecimal row "avg_idx" = .ok average ∧ report.brokerOrderId = some orderId ∧
    report.executionId = some (snapshotIdentity orderId cumulative average) ∧
    report.remainingQuantity = context.orderQuantity - cumulative
  clientOrderId : report.clientOrderId = context.clientOrderId

/-- What the reports of an order amount to after its rows, with the accumulators. -/
structure RunAccounts (first : OrderProgress) (rows : List Row) (progress : OrderProgress)
    (reports : List ExecutionReport) : Prop where
  context : progress.context = first.context
  filled : first.cumulative + totalFilled reports = progress.cumulative
  notional : first.notional + totalNotional reports = progress.notional
  positive : ∀ report ∈ reports, 0 < report.filledQuantity
  largest : ∀ row ∈ rows, ∃ cumulative, nonNegativeInt row "tot_ccld_qty" = .ok cumulative ∧
    cumulative ≤ progress.cumulative
  last : ∀ row ∈ rows.getLast?, nonNegativeInt row "tot_ccld_qty" = .ok progress.cumulative ∧
    progress.cumulative ≤ first.context.orderQuantity
  runsDown : RunsDown first.context.orderQuantity first.cumulative reports
  advanced : ∃ advancing : List Row, advancing.Sublist rows ∧
    List.Forall₂ (IsReportOf first.context) advancing reports ∧
    ∀ row ∈ advancing.getLast?, ∃ cumulative average,
      nonNegativeInt row "tot_ccld_qty" = .ok cumulative ∧
        positiveDecimal row "avg_idx" = .ok average ∧
        progress.notional = average.value * cumulative

theorem RunAccounts.stays {first progress : OrderProgress} {rows : List Row}
    {reports : List ExecutionReport} (accounts : RunAccounts first rows progress reports)
    {row : Row} (quantity : nonNegativeInt row "tot_ccld_qty" = .ok progress.cumulative)
    (within : progress.cumulative ≤ progress.context.orderQuantity) :
    RunAccounts first (rows ++ [row]) progress reports := by
  obtain ⟨advancing, sublist, made, worth⟩ := accounts.advanced
  refine { accounts with largest := ?_, last := ?_, advanced := ?_ }
  · intro r mem
    rcases List.mem_append.mp mem with old | new
    · exact accounts.largest r old
    · exact List.mem_singleton.mp new ▸ ⟨_, quantity, le_rfl⟩
  · intro r mem
    obtain rfl : row = r := by simpa using mem
    exact ⟨quantity, accounts.context ▸ within⟩
  · exact ⟨advancing, sublist.trans (List.sublist_append_left _ _), made, worth⟩

theorem RunAccounts.grows {first progress : OrderProgress} {rows : List Row}
    {reports : List ExecutionReport} (accounts : RunAccounts first rows progress reports)
    {row : Row} {orderId : String} {cumulative : ℤ} {average : Decimal}
    {report : ExecutionReport} (larger : progress.cumulative < cumulative)
    (within : cumulative ≤ progress.context.orderQuantity)
    (fill : IsNewFill progress row orderId cumulative average report) :
    RunAccounts first (rows ++ [row]) ⟨progress.context, cumulative, some average.value⟩
      (reports ++ [report]) := by
  have filled := accounts.filled
  have quantity := fill.filledQuantity
  have left := fill.remainingQuantity
  have worth : OrderProgress.notional ⟨progress.context, cumulative, some average.value⟩ =
      average.value * cumulative := rfl
  obtain ⟨advancing, sublist, made, -⟩ := accounts.advanced
  refine ⟨accounts.context, ?_, ?_, ?_, ?_, ?_, ?_, ?_⟩
  · rw [totalFilled_append, totalFilled_singleton]
    change _ = cumulative
    omega
  · rw [totalNotional_append, totalNotional_singleton, fill.notional, worth, ← accounts.notional]
    ring
  · intro r mem
    rcases List.mem_append.mp mem with old | new
    · exact accounts.positive r old
    · rw [List.mem_singleton.mp new]
      omega
  · intro r mem
    rcases List.mem_append.mp mem with old | new
    · obtain ⟨n, read, le⟩ := accounts.largest r old
      exact ⟨n, read, le.trans larger.le⟩
    · exact List.mem_singleton.mp new ▸ ⟨_, fill.quantity, le_rfl⟩
  · intro r mem
    obtain rfl : row = r := by simpa using mem
    exact ⟨fill.quantity, accounts.context ▸ within⟩
  · refine runsDown_append.mpr ⟨accounts.runsDown, ?_, ?_, trivial⟩
    · rw [accounts.context] at left
      omega
    · rw [fill.status]
      split <;> simp_all
  · refine ⟨advancing ++ [row], sublist.append (List.Sublist.refl _),
      List.rel_append made (.cons ⟨⟨orderId, cumulative, average, fill.order, fill.quantity,
        fill.price, fill.brokerOrderId, fill.executionId, accounts.context ▸ left⟩,
        accounts.context ▸ fill.clientOrderId⟩ .nil), ?_⟩
    intro r mem
    obtain rfl : row = r := by simpa using mem
    exact ⟨cumulative, average, fill.quantity, fill.price, worth⟩

/-- The accounts of one order, by induction on its rows. -/
theorem OrderRun.accounts {first progress : OrderProgress} {rows : List Row}
    {reports : List ExecutionReport} (run : OrderRun first rows progress reports) :
    RunAccounts first rows progress reports := by
  induction run with
  | start =>
    exact ⟨rfl, by simp, by simp, by simp, by simp, by simp, trivial,
      ⟨[], List.Sublist.refl _, .nil, by simp⟩⟩
  | row row _ step ih =>
    cases step with
    | stays quantity within =>
      rw [List.append_nil]
      exact ih.stays quantity within
    | grows orderId cumulative average report larger within fill =>
      exact ih.grows larger within fill

/-! ## The loop, seen from each order -/

/-- The rows that name an order. -/
def rowsOf (orderId : String) (rows : List Row) : List Row :=
  rows.filter fun row => field row "odno" = orderId

/-- The reports of an order. -/
def reportsOf (orderId : String) (reports : List ExecutionReport) : List ExecutionReport :=
  reports.filter fun report => report.brokerOrderId = some orderId

variable {contextForOrder : String → Except Raised KISExecutionRecoveryContext}

/-- What the loop state says about each order, and about all ids together. -/
structure Projects (contextForOrder : String → Except Raised KISExecutionRecoveryContext)
    (rows : List Row) (state : Normalisation) : Prop where
  opened : ∀ orderId progress, state.byOrder.get? orderId = some progress →
    rowsOf orderId rows ≠ [] ∧ ∃ context, contextForOrder orderId = .ok context ∧
      OrderRun (.start context) (rowsOf orderId rows) progress (reportsOf orderId state.reports)
  unopened : ∀ orderId, state.byOrder.get? orderId = none →
    rowsOf orderId rows = [] ∧ reportsOf orderId state.reports = []
  identified : ∀ report ∈ state.reports, ∃ orderId cumulative average progress,
    report.executionId = some (snapshotIdentity orderId cumulative average) ∧
      state.byOrder.get? orderId = some progress ∧ cumulative ≤ progress.cumulative
  distinct : (state.reports.map (·.executionId)).Nodup

theorem field_of_required {row : Row} {key value : String}
    (read : required row key = .ok value) : field row key = value := by
  unfold required at read
  split_ifs at read
  exact Except.ok.inj read

theorem Advances.le {progress next : OrderProgress} {row : Row} {new : List ExecutionReport}
    (step : Advances progress row next new) : progress.cumulative ≤ next.cumulative := by
  cases step with
  | stays => exact le_rfl
  | grows _ _ _ _ larger => exact larger.le

theorem Advances.reportsOf_self {progress next : OrderProgress} {row : Row}
    {new : List ExecutionReport} (step : Advances progress row next new) :
    reportsOf (field row "odno") new = new := by
  cases step with
  | stays => rfl
  | grows orderId cumulative average report larger within fill =>
    simp [reportsOf, fill.brokerOrderId, field_of_required fill.order]

theorem Advances.reportsOf_other {progress next : OrderProgress} {row : Row}
    {new : List ExecutionReport} (step : Advances progress row next new) {orderId : String}
    (other : orderId ≠ field row "odno") : reportsOf orderId new = [] := by
  cases step with
  | stays => rfl
  | grows orderId' cumulative average report larger within fill =>
    simp [reportsOf, fill.brokerOrderId, ← field_of_required fill.order, Ne.symm other]

theorem normalizeRow_spec {state next : Normalisation} {row : Row}
    (returned : normalizeRow contextForOrder state (some row) = .ok next) :
    ∃ progress progress' new, progressOf contextForOrder state (field row "odno") = .ok progress ∧
      Advances progress row progress' new ∧
      next = ⟨state.byOrder.set (field row "odno") progress', state.reports ++ new⟩ := by
  obtain ⟨orderId, order, returned⟩ := bind_eq_ok.mp returned
  obtain ⟨progress, opened, returned⟩ := bind_eq_ok.mp returned
  obtain ⟨⟨progress', new⟩, advanced, returned⟩ := bind_eq_ok.mp returned
  rw [field_of_required order]
  exact ⟨progress, progress', new, opened, advance_advances advanced, (Except.ok.inj returned).symm⟩

/-- The run of the order a row names, before the row. -/
theorem Projects.run {rows : List Row} {state : Normalisation}
    (projects : Projects contextForOrder rows state) {orderId : String}
    {progress : OrderProgress}
    (found : progressOf contextForOrder state orderId = .ok progress) :
    ∃ context, contextForOrder orderId = .ok context ∧
      OrderRun (.start context) (rowsOf orderId rows) progress
        (reportsOf orderId state.reports) := by
  unfold progressOf at found
  cases open_ : state.byOrder.get? orderId with
  | some held =>
    rw [open_] at found
    cases found
    exact (projects.opened orderId progress open_).2
  | none =>
    rw [open_] at found
    cases given : contextForOrder orderId with
    | error e =>
      rw [given] at found
      cases found
    | ok context =>
      rw [given] at found
      cases found
      obtain ⟨no_rows, no_reports⟩ := projects.unopened orderId open_
      rw [no_rows, no_reports]
      exact ⟨context, rfl, .start⟩

/-- A new report's id differs from all ids before it. -/
theorem Projects.fresh {rows : List Row} {state : Normalisation}
    (projects : Projects contextForOrder rows state) {orderId : String}
    {progress : OrderProgress} {cumulative : ℤ} (average : Decimal)
    (found : progressOf contextForOrder state orderId = .ok progress)
    (larger : progress.cumulative < cumulative) :
    some (snapshotIdentity orderId cumulative average) ∉
      state.reports.map (·.executionId) := by
  intro mem
  obtain ⟨report, old, same⟩ := List.mem_map.mp mem
  obtain ⟨orderId', cumulative', average', held, named, open_, le⟩ :=
    projects.identified report old
  obtain ⟨rfl, rfl⟩ := snapshotIdentity_injective (Option.some.inj (same.symm.trans named))
  rw [progressOf, open_] at found
  cases found
  omega

theorem Projects.row {rows : List Row} {state next : Normalisation}
    (projects : Projects contextForOrder rows state) {row : Row}
    (returned : normalizeRow contextForOrder state (some row) = .ok next) :
    Projects contextForOrder (rows ++ [row]) next := by
  obtain ⟨progress, progress', new, found, step, rfl⟩ := normalizeRow_spec returned
  set named := field row "odno" with hnamed
  have own : rowsOf named (rows ++ [row]) = rowsOf named rows ++ [row] := by
    simp [rowsOf, ← hnamed]
  have others (o : String) (other : o ≠ named) : rowsOf o (rows ++ [row]) = rowsOf o rows := by
    simp [rowsOf, ← hnamed, Ne.symm other]
  have kept (o : String) (other : o ≠ named) :
      reportsOf o (state.reports ++ new) = reportsOf o state.reports := by
    have none_new := step.reportsOf_other other
    unfold reportsOf at none_new ⊢
    rw [List.filter_append, none_new, List.append_nil]
  have added : reportsOf named (state.reports ++ new) = reportsOf named state.reports ++ new := by
    have all_new := step.reportsOf_self
    unfold reportsOf at all_new ⊢
    rw [List.filter_append, all_new]
  refine ⟨fun o held open_ => ?_, fun o closed => ?_, fun report mem => ?_, ?_⟩
  · by_cases same : o = named
    · subst same
      obtain ⟨context, given, run⟩ := projects.run found
      obtain rfl : progress' = held := by simpa using open_
      rw [own, added]
      exact ⟨by simp, context, given, .row row run step⟩
    · rw [others o same, kept o same]
      exact projects.opened o held (by rwa [Dict.get?_set_of_ne _ _ same] at open_)
  · have same : o ≠ named := by
      rintro rfl
      simp at closed
    rw [others o same, kept o same]
    exact projects.unopened o (by rwa [Dict.get?_set_of_ne _ _ same] at closed)
  · rcases List.mem_append.mp mem with old | fresh
    · obtain ⟨o, cumulative, average, held, id, open_, le⟩ := projects.identified report old
      by_cases same : o = named
      · subst same
        rw [progressOf, open_] at found
        cases found
        exact ⟨named, cumulative, average, progress', id, Dict.get?_set_self _ _ _,
          le.trans step.le⟩
      · exact ⟨o, cumulative, average, held, id,
          (Dict.get?_set_of_ne _ _ same).trans open_, le⟩
    · cases step with
      | stays => cases fresh
      | grows orderId cumulative average made larger within fill =>
        rw [List.mem_singleton.mp fresh, hnamed, field_of_required fill.order]
        exact ⟨orderId, cumulative, average, _, fill.executionId, Dict.get?_set_self _ _ _,
          le_rfl⟩
  · cases step with
    | stays => simpa using projects.distinct
    | grows orderId cumulative average made larger within fill =>
      rw [hnamed, field_of_required fill.order] at found
      have unused := projects.fresh average found larger
      rw [List.map_append, List.map_singleton, fill.executionId]
      exact List.nodup_append.mpr ⟨projects.distinct, List.nodup_singleton _,
        fun id old id' new same => unused (by simp_all)⟩

theorem projects_nil : Projects contextForOrder [] ⟨.empty, []⟩ where
  opened := fun _ _ found => nomatch found
  unopened := fun _ _ => ⟨rfl, rfl⟩
  identified := fun _ mem => nomatch mem
  distinct := List.nodup_nil

/-- The whole loop: every element is a row, and each order has run through its own rows. -/
theorem projects_of_foldlM {elements : List (Option Row)} {state next : Normalisation}
    {rows : List Row} (projects : Projects contextForOrder rows state)
    (returned : elements.foldlM (normalizeRow contextForOrder) state = .ok next) :
    ∃ later, elements = later.map some ∧ Projects contextForOrder (rows ++ later) next := by
  induction elements generalizing state rows with
  | nil =>
    cases returned
    exact ⟨[], rfl, by simpa using projects⟩
  | cons element rest ih =>
    rw [List.foldlM_cons] at returned
    obtain ⟨middle, head, tail⟩ := bind_eq_ok.mp returned
    cases element with
    | none => cases head
    | some row =>
      obtain ⟨later, rfl, run⟩ := ih (projects.row head) tail
      exact ⟨row :: later, rfl, by simpa using run⟩

/-! ## The accounts of a response -/

/-- What the reports of an order amount to, against its context and its rows. -/
structure OrderAccounts (context : KISExecutionRecoveryContext) (rows : List Row)
    (reports : List ExecutionReport) : Prop where
  positive : ∀ report ∈ reports, 0 < report.filledQuantity
  last : ∃ row, rows.getLast? = some row ∧ nonNegativeInt row "tot_ccld_qty" =
    .ok (context.priorFilledQuantity + totalFilled reports)
  largest : ∀ row ∈ rows, ∃ cumulative, nonNegativeInt row "tot_ccld_qty" = .ok cumulative ∧
    cumulative ≤ context.priorFilledQuantity + totalFilled reports
  within : context.priorFilledQuantity + totalFilled reports ≤ context.orderQuantity
  runsDown : RunsDown context.orderQuantity context.priorFilledQuantity reports
  advanced : ∃ advancing : List Row, advancing.Sublist rows ∧
    List.Forall₂ (IsReportOf context) advancing reports ∧
    ∀ row ∈ advancing.getLast?, ∃ cumulative average,
      nonNegativeInt row "tot_ccld_qty" = .ok cumulative ∧
        positiveDecimal row "avg_idx" = .ok average ∧
        context.priorAveragePrice.getD 0 * context.priorFilledQuantity + totalNotional reports =
          average.value * cumulative

theorem OrderRun.orderAccounts {context : KISExecutionRecoveryContext}
    {progress : OrderProgress} {rows : List Row} {reports : List ExecutionReport}
    (run : OrderRun (.start context) rows progress reports) (nonempty : rows ≠ []) :
    OrderAccounts context rows reports := by
  have accounts := run.accounts
  have filled : context.priorFilledQuantity + totalFilled reports = progress.cumulative :=
    accounts.filled
  have notional : context.priorAveragePrice.getD 0 * context.priorFilledQuantity +
      totalNotional reports = progress.notional := accounts.notional
  have last := accounts.last _ (List.getLast?_eq_some_getLast nonempty)
  refine ⟨accounts.positive, ?_, ?_, ?_, accounts.runsDown, ?_⟩
  · exact ⟨_, List.getLast?_eq_some_getLast nonempty, filled ▸ last.1⟩
  · exact filled ▸ accounts.largest
  · exact filled ▸ last.2
  · exact notional ▸ accounts.advanced

/-- When `normalize` returns, its reports are those of a loop state for the rows. -/
theorem projects_of_normalize {response : Response} {reports : List ExecutionReport}
    (returned : normalize response contextForOrder = .ok reports) :
    ∃ rows state, response.output1 = some (rows.map some) ∧ state.reports = reports ∧
      Projects contextForOrder rows state := by
  unfold normalize at returned
  cases output : response.output1 with
  | none =>
    rw [output] at returned
    cases returned
  | some elements =>
    rw [output] at returned
    cases ran : elements.foldlM (normalizeRow contextForOrder) ⟨.empty, []⟩ with
    | error e => simp [ran, Except.map] at returned
    | ok state =>
      obtain rfl : state.reports = reports := by simpa [ran, Except.map] using returned
      obtain ⟨rows, rfl, projects⟩ := projects_of_foldlM projects_nil ran
      exact ⟨rows, state, rfl, rfl, projects⟩

theorem Projects.orderAccounts {rows : List Row} {state : Normalisation}
    (projects : Projects contextForOrder rows state) {orderId : String}
    (named : rowsOf orderId rows ≠ []) : ∃ context, contextForOrder orderId = .ok context ∧
      OrderAccounts context (rowsOf orderId rows) (reportsOf orderId state.reports) := by
  cases open_ : state.byOrder.get? orderId with
  | none => exact absurd (projects.unopened orderId open_).1 named
  | some progress =>
    obtain ⟨-, context, given, run⟩ := projects.opened orderId progress open_
    exact ⟨context, given, run.orderAccounts named⟩

/-- Whatever the rows, when `normalize` returns, every order is accounted for by the reports
that name it, and no two reports share an id. -/
theorem normalize_accounts (response : Response)
    (contextForOrder : String → Except Raised KISExecutionRecoveryContext)
    (reports : List ExecutionReport) (returned : normalize response contextForOrder = .ok reports) :
    ∃ rows, response.output1 = some (rows.map some) ∧
      (∀ orderId, rowsOf orderId rows ≠ [] → ∃ context, contextForOrder orderId = .ok context ∧
        OrderAccounts context (rowsOf orderId rows) (reportsOf orderId reports)) ∧
      (∀ orderId, rowsOf orderId rows = [] → reportsOf orderId reports = []) ∧
      (reports.map (·.executionId)).Nodup := by
  obtain ⟨rows, state, output, rfl, projects⟩ := projects_of_normalize returned
  refine ⟨rows, output, fun orderId named => projects.orderAccounts named, ?_, projects.distinct⟩
  intro orderId unnamed
  cases open_ : state.byOrder.get? orderId with
  | none => exact (projects.unopened orderId open_).2
  | some progress => exact absurd unnamed (projects.opened orderId progress open_).1

/-- Two orders interleaved, with a repeated row. -/
theorem normalize_accounts_interleaved :
    let row (orderId quantity average : String) : Option Row :=
      some (.ofList [("odno", orderId), ("tot_ccld_qty", quantity), ("avg_idx", average)])
    let response : Response := ⟨some [row "B1" "2" "100", row "B2" "1" "50.5", row "B1" "2" "100",
      row "B1" "5" "101.2"]⟩
    let contexts := fun orderId => KISExecutionRecoveryContext.create ("C" ++ orderId) 5 0 none
    ∃ reports, normalize response contexts = .ok reports ∧
      reports.map (·.filledQuantity) = [2, 1, 3] ∧
      ∃ rows, response.output1 = some (rows.map some) ∧
        (∀ orderId, rowsOf orderId rows ≠ [] → ∃ context, contexts orderId = .ok context ∧
          OrderAccounts context (rowsOf orderId rows) (reportsOf orderId reports)) ∧
        (∀ orderId, rowsOf orderId rows = [] → reportsOf orderId reports = []) ∧
        (reports.map (·.executionId)).Nodup := by
  intro row response contexts
  have quantities : (normalize response contexts).toOption.map (·.map (·.filledQuantity)) =
      some [2, 1, 3] := by decide +kernel
  cases returned : normalize response contexts with
  | error e =>
    rw [returned] at quantities
    cases quantities
  | ok reports =>
    rw [returned] at quantities
    exact ⟨reports, rfl, Option.some.inj quantities,
      normalize_accounts response contexts reports returned⟩

end KISFuturesExecutionRecoveryAdapter

end OptionProject.Live
