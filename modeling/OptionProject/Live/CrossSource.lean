import OptionProject.Library.Tally
import OptionProject.Live.NoticeAdapter
import OptionProject.Live.RecoveryAccounts

/-!
# One order across both execution sources

The broker fills an order; realtime notices of single fills and REST snapshots of the
cumulative quantity are processed in any order, each with the sum of what was emitted so far
as its prior quantity. What is emitted is a tally fed by single items and by readings. The
two sources share no identity, so a notice that arrives after a REST report that already
contained its fill is counted again.

## Main results

* `process_effect` — what one event can do.
* `Effect.bounded` — without such a notice, each effect is a step of a bounded tally.
* `emitted_le_quantity` — the order quantity is never exceeded.
* `emitted_le_filled` — nor, without such a notice, what the broker filled.
-/
namespace OptionProject.Live
open Library Contracts

/-- The broker's fills, the notices that were processed, how many fills the last REST report
contained, and all reports emitted. -/
structure CrossSource where
  fills : List ℤ
  noticed : Finset ℕ
  snapshotted : ℕ
  reports : List ExecutionReport

inductive SourceEvent
  | fill (quantity : ℤ)
  | notice (index : ℕ) (receiver : KISFuturesExecutionNoticeAdapter.Receiver)
      (notice : KISFuturesExecutionNotice) (context : KISFuturesExecutionContext)
  | snapshot (queried : ℕ) (row : Row) (context : KISExecutionRecoveryContext)

namespace CrossSource

def empty : CrossSource := ⟨[], ∅, 0, []⟩

variable (sha256 : String → String)

def process (self : CrossSource) : SourceEvent → CrossSource
  | .fill quantity => { self with fills := self.fills ++ [quantity] }
  | .notice index receiver notice context =>
    let noticed := insert index self.noticed
    match KISFuturesExecutionNoticeAdapter.call sha256 receiver notice context with
    | .error _ => { self with noticed }
    | .ok report => { self with noticed, reports := self.reports ++ [report] }
  | .snapshot queried row context =>
    match KISFuturesExecutionRecoveryAdapter.toExecutionReport row context with
    | .ok (some report) =>
      { self with snapshotted := queried, reports := self.reports ++ [report] }
    | _ => self

/-- The quantities of all reports emitted so far. -/
def emitted (self : CrossSource) : ℤ := totalFilled self.reports

/-- A fill stays within the order; a notice is processed once and tells its fill's quantity; a
snapshot row tells the cumulative quantity at its query time; both are given what was emitted
so far. -/
def Possible (quantity : ℤ) (self : CrossSource) : SourceEvent → Prop
  | .fill filled => 0 < filled ∧ self.fills.sum + filled ≤ quantity
  | .notice index _ notice context =>
    index < self.fills.length ∧ index ∉ self.noticed ∧
      notice.filledQuantity = .ok (self.fills.getD index 0) ∧
      context.orderQuantity = quantity ∧ context.priorFilledQuantity = self.emitted
  | .snapshot queried row context =>
    queried ≤ self.fills.length ∧
      nonNegativeInt row "tot_ccld_qty" = .ok (self.fills.take queried).sum ∧
      context.orderQuantity = quantity ∧ context.priorFilledQuantity = self.emitted

/-- A notice is of a fill that the last REST report did not contain. -/
def InOrder (self : CrossSource) : SourceEvent → Prop
  | .notice index .. => self.snapshotted ≤ index
  | _ => True

instance (self : CrossSource) : (event : SourceEvent) → Decidable (self.InOrder event)
  | .notice index .. => inferInstanceAs (Decidable (self.snapshotted ≤ index))
  | .fill _ | .snapshot .. => .isTrue trivial

def after (self : CrossSource) (events : List SourceEvent) : CrossSource :=
  events.foldl (process sha256) self

/-- Every event of a run has a property in the state it meets. -/
def Throughout (P : CrossSource → SourceEvent → Prop) : CrossSource → List SourceEvent → Prop
  | _, [] => True
  | self, event :: rest => P self event ∧ Throughout P (self.process sha256 event) rest

/-! ## What one event does -/

/-- The effects of a possible event: a fill, a notice refused or counted, a row that reports
up to its cumulative quantity, or nothing. -/
inductive Effect (quantity : ℤ) (self : CrossSource) (event : SourceEvent) : CrossSource → Prop
  | filled (filled : ℤ) (positive : 0 < filled) :
      Effect quantity self event { self with fills := self.fills ++ [filled] }
  | refused (index : ℕ) (inside : index < self.fills.length) :
      Effect quantity self event { self with noticed := insert index self.noticed }
  | counted (index : ℕ) (report : ExecutionReport) (inside : index < self.fills.length)
      (fresh : index ∉ self.noticed) (order : self.InOrder event → self.snapshotted ≤ index)
      (own : report.filledQuantity = self.fills.getD index 0)
      (within : self.emitted + report.filledQuantity ≤ quantity) :
      Effect quantity self event
        { self with noticed := insert index self.noticed, reports := self.reports ++ [report] }
  | read (queried : ℕ) (report : ExecutionReport) (inside : queried ≤ self.fills.length)
      (total : self.emitted + report.filledQuantity = (self.fills.take queried).sum)
      (within : self.emitted + report.filledQuantity ≤ quantity) :
      Effect quantity self event
        { self with snapshotted := queried, reports := self.reports ++ [report] }
  | unchanged : Effect quantity self event self

theorem process_effect {quantity : ℤ} {self : CrossSource} {event : SourceEvent}
    (possible : self.Possible quantity event) :
    Effect quantity self event (self.process sha256 event) := by
  cases event with
  | fill filled => exact .filled filled possible.1
  | notice index receiver notice context =>
    obtain ⟨inside, fresh, own, total, prior⟩ := possible
    cases called : KISFuturesExecutionNoticeAdapter.call sha256 receiver notice context with
    | error e =>
      simp only [process, called]
      exact .refused index inside
    | ok report =>
      obtain ⟨read, within⟩ := KISFuturesExecutionNoticeAdapter.call_spec called
      rw [own] at read
      rw [total, prior] at within
      simp only [process, called]
      exact .counted index report inside fresh id (Except.ok.inj read).symm within
  | snapshot queried row context =>
    obtain ⟨inside, cumulative, total, prior⟩ := possible
    cases converted : KISFuturesExecutionRecoveryAdapter.toExecutionReport row context with
    | error e =>
      simp only [process, converted]
      exact .unchanged
    | ok result =>
      obtain ⟨n, quantity_read, within, new⟩ :=
        KISFuturesExecutionRecoveryAdapter.toExecutionReport_spec converted
      cases cumulative.symm.trans quantity_read
      rcases new with ⟨-, rfl⟩ | ⟨-, orderId, average, report, rfl, fill⟩
      · simp only [process, converted]
        exact .unchanged
      · have delta : report.filledQuantity = _ - context.priorFilledQuantity := fill.filledQuantity
        have sum : self.emitted + report.filledQuantity = (self.fills.take queried).sum := by omega
        simp only [process, converted]
        exact .read queried report inside sum (by omega)

/-! ## The order quantity -/

theorem emitted_append (self : CrossSource) (report : ExecutionReport) :
    totalFilled (self.reports ++ [report]) = self.emitted + report.filledQuantity := by
  rw [totalFilled_append, totalFilled_singleton, emitted]

theorem Effect.emitted_le {quantity : ℤ} {self next : CrossSource} {event : SourceEvent}
    (effect : Effect quantity self event next) (le : self.emitted ≤ quantity) :
    next.emitted ≤ quantity := by
  cases effect with
  | filled | refused | unchanged => exact le
  | counted index report _ _ _ _ within => exact (emitted_append self report).trans_le within
  | read queried report _ _ within => exact (emitted_append self report).trans_le within

theorem emitted_le_quantity {quantity : ℤ} {self : CrossSource} {events : List SourceEvent}
    (possible : Throughout sha256 (Possible quantity) self events)
    (le : self.emitted ≤ quantity) : (self.after sha256 events).emitted ≤ quantity := by
  induction events generalizing self with
  | nil => exact le
  | cons event rest ih => exact ih possible.2 ((process_effect sha256 possible.1).emitted_le le)

/-! ## The filled quantity -/

/-- The run as a tally of fills. -/
def tally (self : CrossSource) : Tally ℤ :=
  ⟨self.fills, self.noticed, self.snapshotted, self.emitted⟩

/-- In order, every effect is a step of the tally. -/
theorem Effect.bounded {quantity : ℤ} {self next : CrossSource} {event : SourceEvent}
    (effect : Effect quantity self event next) (order : self.InOrder event)
    (bounded : self.tally.Bounded) : next.tally.Bounded := by
  cases effect with
  | unchanged => exact bounded
  | filled filled positive => exact bounded.item positive.le
  | refused index inside => exact bounded.skip inside
  | counted index report inside fresh unread own within =>
    have step := bounded.single inside fresh (unread order)
    rw [tally, emitted, emitted_append, own]
    exact step
  | read queried report inside total within =>
    have step := bounded.read inside
    rw [tally, emitted, emitted_append, total]
    exact step

theorem bounded_after {quantity : ℤ} {self : CrossSource} {events : List SourceEvent}
    (possible : Throughout sha256 (Possible quantity) self events)
    (order : Throughout sha256 InOrder self events) (bounded : self.tally.Bounded) :
    (self.after sha256 events).tally.Bounded := by
  induction events generalizing self with
  | nil => exact bounded
  | cons event rest ih =>
    exact ih possible.2 order.2 ((process_effect sha256 possible.1).bounded order.1 bounded)

/-- In every interleaving the reports stay within the order, and within what the broker filled
as long as no notice follows a REST report that already contained its fill. -/
theorem emitted_le_filled (quantity : ℤ) (positive : 0 < quantity) (events : List SourceEvent)
    (possible : Throughout sha256 (Possible quantity) empty events) :
    (empty.after sha256 events).emitted ≤ quantity ∧
      (Throughout sha256 InOrder empty events →
        (empty.after sha256 events).emitted ≤ (empty.after sha256 events).fills.sum) :=
  ⟨emitted_le_quantity sha256 possible positive.le, fun order =>
    (bounded_after sha256 possible order Tally.bounded_empty).count_le⟩

/-- A fill reported by REST, and the next one by its notice. -/
theorem emitted_le_filled_handover :
    let row : Row :=
      .ofList [("odno", "B1"), ("tot_ccld_qty", "5"), ("avg_idx", "101.6")]
    let notice : KISFuturesExecutionNotice := ⟨.ofList [("oder_no", "B1"), ("cntg_qty", "3"),
      ("cntg_unpr", "101.8"), ("cntg_yn", "Y")], "frame"⟩
    let events : List SourceEvent := [.fill 5,
      .snapshot 1 row ⟨"C1", 10, 0, none, by decide, by decide, by decide⟩,
      .fill 3, .notice 1 .ofClass notice ⟨"C1", 10, 5, none, none⟩]
    Throughout id (Possible 10) empty events ∧ Throughout id InOrder empty events ∧
      (empty.after id events).emitted ≤ (empty.after id events).fills.sum := by
  intro row notice events
  have possible : Throughout id (Possible 10) empty events :=
    ⟨⟨by decide, by decide⟩, ⟨by decide, by decide, rfl, rfl⟩, ⟨by decide, by decide +kernel⟩,
      ⟨by decide +kernel, by decide +kernel, by decide +kernel, rfl, by decide +kernel⟩, trivial⟩
  have order : Throughout id InOrder empty events :=
    ⟨trivial, trivial, trivial, by decide +kernel, trivial⟩
  exact ⟨possible, order, (emitted_le_filled id 10 (by decide) events possible).2 order⟩

/-- One fill of 5, reported by REST and then by its late notice, counts 10. -/
theorem late_notice_counts_twice :
    let row : Row :=
      .ofList [("odno", "B1"), ("tot_ccld_qty", "5"), ("avg_idx", "101.6")]
    let notice : KISFuturesExecutionNotice := ⟨.ofList [("oder_no", "B1"), ("cntg_qty", "5"),
      ("cntg_unpr", "101.6"), ("cntg_yn", "Y")], "frame"⟩
    let events : List SourceEvent := [.fill 5,
      .snapshot 1 row ⟨"C1", 10, 0, none, by decide, by decide, by decide⟩,
      .notice 0 .ofClass notice ⟨"C1", 10, 5, none, none⟩]
    Throughout id (Possible 10) empty events ∧ (empty.after id events).fills.sum = 5 ∧
      (empty.after id events).emitted = 10 := by
  intro row notice events
  exact ⟨⟨⟨by decide, by decide⟩, ⟨by decide, by decide, rfl, rfl⟩,
    ⟨by decide +kernel, by decide +kernel, by decide +kernel, rfl, by decide +kernel⟩, trivial⟩,
    by decide +kernel, by decide +kernel⟩

end CrossSource

end OptionProject.Live
