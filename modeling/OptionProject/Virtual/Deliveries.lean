import OptionProject.Library.Delivery
import OptionProject.Virtual.Settlement

/-!
# Executions delivered to the virtual position

`virtual_execution_position_bridge.py` over many submissions: the broker is anything that answers
a command with a report or raises, so it may answer with an execution again, for the same command
or for another one. The float arithmetic is any.

## Main definitions

* `Submission` — a command, and what the broker answers.
* `VirtualExecutionPositionBridge.after` — the bridge after a list of submissions.
* `Submission.gain` — what its report adds to the signed position.

## Main results

* `VirtualExecutionPositionBridge.exactly_once` — the position after any submissions.
-/
namespace OptionProject.Virtual
open Library Contracts

structure Submission where
  command : BrokerOrderCommand
  answer : Except Raised ExecutionReport

namespace Submission

/-- The id that the deduplicator knows the answer by. -/
def executionId? (submission : Submission) : Option String :=
  match submission.answer with
  | .error _ => none
  | .ok report =>
    (ExecutionEventIdentityAdapter.identify report).toOption.map (·.executionId)

/-- The fill adapter of an instrument takes the report for the command. -/
structure Fits (command : BrokerOrderCommand) (instrumentId : String) (report : ExecutionReport) :
    Prop where
  order : command.clientOrderId = report.clientOrderId
  instrument : command.instrumentId = instrumentId
  side : command.side ∈ ["BUY", "SELL"]
  quantity : 0 < report.filledQuantity
  priced : report.executionPrice ≠ none

instance (command : BrokerOrderCommand) (instrumentId : String) (report : ExecutionReport) :
    Decidable (Fits command instrumentId report) :=
  decidable_of_iff (command.clientOrderId = report.clientOrderId ∧
      command.instrumentId = instrumentId ∧ command.side ∈ ["BUY", "SELL"] ∧
      0 < report.filledQuantity ∧ report.executionPrice ≠ none)
    ⟨fun ⟨a, b, c, d, e⟩ => ⟨a, b, c, d, e⟩, fun ⟨a, b, c, d, e⟩ => ⟨a, b, c, d, e⟩⟩

def sign (side : String) : ℤ := if side = "BUY" then 1 else -1

/-- What the answer is worth to the position of an instrument, if it is its first delivery. -/
def gain (instrumentId : String) (submission : Submission) : ℤ :=
  match submission.answer with
  | .error _ => 0
  | .ok report =>
    if Fits submission.command instrumentId report then
      sign submission.command.side * report.filledQuantity
    else 0

end Submission

variable {F : Type} (float : FloatArithmetic F)

/-! ## The signed position -/

namespace VirtualPositionAggregate

/-- The signed quantity. -/
def net (self : VirtualPositionAggregate F) : ℤ :=
  match self.side with
  | none => 0
  | some side => Submission.sign side * self.qty

/-- Flat, or a quantity on a side. -/
structure Kept (instrumentId : String) (position : VirtualPositionAggregate F) : Prop where
  named : position.instrumentId = instrumentId
  nonneg : 0 ≤ position.qty
  flat : position.qty = 0 ↔ position.side = none
  side : ∀ side, position.side = some side → side ∈ ["BUY", "SELL"]

variable {float} {instrumentId : String} {position : VirtualPositionAggregate F}

theorem Kept.fresh : Kept instrumentId ({ instrumentId } : VirtualPositionAggregate F) where
  named := rfl
  nonneg := le_rfl
  flat := iff_of_true rfl rfl
  side := nofun

/-- A position of a quantity on a side. -/
theorem Kept.holding (kept : position.Kept instrumentId) {side : String} {qty : ℤ}
    {avgPrice : Option F} (valid : side ∈ ["BUY", "SELL"]) (positive : 0 < qty) :
    Kept instrumentId { position with side := some side, qty := qty, avgPrice := avgPrice } where
  named := kept.named
  nonneg := positive.le
  flat := iff_of_false positive.ne' nofun
  side _ same := Option.some.inj same ▸ valid

/-- A fill on the held side adds its quantity in every branch, also where the averaging raises. -/
theorem applyFill_same {side : String} (held : position.side = some side)
    (nonzero : position.qty ≠ 0) {quantity : ℤ} (valid : side ∈ ["BUY", "SELL"])
    (positive : 0 < quantity) (price : Option F) :
    ∃ avgPrice, (position.applyFill float side quantity price).2 =
      { position with
        side := some side
        qty := position.qty + quantity
        avgPrice := avgPrice } := by
  have named : side ≠ "" := by rintro rfl; revert valid; decide
  unfold applyFill
  rw [if_neg named, if_neg (not_not.mpr valid), if_neg positive.not_ge, if_neg nonzero, if_pos held]
  obtain ⟨instrumentId, _, qty, avgPrice⟩ := position
  subst held
  cases price with
  | none => exact ⟨_, rfl⟩
  | some price =>
    cases avgPrice with
    | none => exact ⟨_, rfl⟩
    | some avgPrice =>
      dsimp only
      split <;> exact ⟨_, rfl⟩

/-- A fill that is taken adds its signed quantity. -/
theorem applyFill_kept (kept : position.Kept instrumentId) {side : String} {quantity : ℤ}
    (valid : side ∈ ["BUY", "SELL"]) (positive : 0 < quantity) (price : Option F) :
    (position.applyFill float side quantity price).2.Kept instrumentId ∧
      (position.applyFill float side quantity price).2.net =
        position.net + Submission.sign side * quantity := by
  have named : side ≠ "" := by rintro rfl; revert valid; decide
  by_cases flat : position.qty = 0
  · have opened : position.applyFill float side quantity price =
        (.ok (), { position with side := some side, qty := quantity, avgPrice := price }) := by
      unfold applyFill
      rw [if_neg named, if_neg (not_not.mpr valid), if_neg positive.not_ge, if_pos flat]
    rw [opened]
    refine ⟨kept.holding valid positive, ?_⟩
    simp [net, kept.flat.mp flat]
  obtain ⟨held, side_held⟩ := Option.ne_none_iff_exists'.mp (mt kept.flat.mpr flat)
  have qty_pos : 0 < position.qty := lt_of_le_of_ne kept.nonneg (Ne.symm flat)
  by_cases same : held = side
  · subst same
    obtain ⟨avgPrice, grown⟩ :=
      @applyFill_same _ float position held side_held flat _ valid positive price
    rw [grown]
    refine ⟨kept.holding valid (add_pos qty_pos positive), ?_⟩
    simp only [net, side_held]
    ring
  -- on the other side the smaller quantity is taken off the larger
  · have other : position.side ≠ some side := by simpa [side_held] using same
    have apart : Submission.sign held = -Submission.sign side := by
      have held_valid := kept.side held side_held
      unfold Submission.sign
      grind
    unfold applyFill
    rw [if_neg named, if_neg (not_not.mpr valid), if_neg positive.not_ge, if_neg flat, if_neg other]
    by_cases smaller : quantity < position.qty
    · rw [if_pos smaller]
      refine ⟨⟨kept.named, (sub_pos.mpr smaller).le, ?_, kept.side⟩, ?_⟩
      · exact iff_of_false (sub_pos.mpr smaller).ne' (by simp [side_held])
      · simp only [net, side_held, apart]
        ring
    rw [if_neg smaller]
    by_cases equal : quantity = position.qty
    · rw [if_pos equal]
      refine ⟨⟨kept.named, le_rfl, iff_of_true rfl rfl, nofun⟩, ?_⟩
      simp [net, side_held, apart, equal]
    · rw [if_neg equal]
      have larger : 0 < quantity - position.qty := by omega
      refine ⟨kept.holding valid larger, ?_⟩
      simp only [net, side_held, apart]
      ring

end VirtualPositionAggregate

theorem VirtualPositionFillAdapter.apply_kept {instrumentId : String}
    {position : VirtualPositionAggregate F} (kept : position.Kept instrumentId)
    (command : BrokerOrderCommand) (report : ExecutionReport) :
    (VirtualPositionFillAdapter.apply float command report position).2.Kept instrumentId ∧
      (VirtualPositionFillAdapter.apply float command report position).2.net = position.net +
        if Submission.Fits command instrumentId report then
          Submission.sign command.side * report.filledQuantity
        else 0 := by
  by_cases fits : Submission.Fits command instrumentId report
  · obtain ⟨price, priced⟩ := Option.ne_none_iff_exists'.mp fits.priced
    rw [if_pos fits]
    unfold VirtualPositionFillAdapter.apply
    rw [if_neg (not_not.mpr fits.order),
      if_neg (not_not.mpr (fits.instrument.trans kept.named.symm)),
      if_neg (not_not.mpr fits.side), if_neg fits.quantity.not_ge, priced]
    exact VirtualPositionAggregate.applyFill_kept kept fits.side fits.quantity _
  · have refused :
        (VirtualPositionFillAdapter.apply float command report position).2 = position := by
      unfold VirtualPositionFillAdapter.apply
      repeat' split
      all_goals try rfl
      next order instrument side quantity _ price priced =>
        refine absurd ⟨not_not.mp order, ?_, not_not.mp side, not_le.mp quantity, ?_⟩ fits
        · exact (not_not.mp instrument).trans kept.named
        · simp [priced]
    rw [refused, if_neg fits, add_zero]
    exact ⟨kept, rfl⟩

/-! ## The bridge -/

/-- What a submission does to the position once its execution is new. -/
def Submission.act (submission : Submission) (position : VirtualPositionAggregate F) :
    Except Raised Unit × VirtualPositionAggregate F :=
  match submission.answer with
  | .error e => (.error e, position)
  | .ok report => VirtualPositionFillAdapter.apply float submission.command report position

theorem Submission.act_kept {instrumentId : String} (submission : Submission)
    (position : VirtualPositionAggregate F) (kept : position.Kept instrumentId) :
    (submission.act float position).2.Kept instrumentId ∧
      (submission.act float position).2.net = position.net + submission.gain instrumentId := by
  unfold act gain
  cases submission.answer with
  | error e => exact ⟨kept, (add_zero _).symm⟩
  | ok report => exact VirtualPositionFillAdapter.apply_kept float kept submission.command report

namespace VirtualExecutionPositionBridge

/-- The bridge of an instrument before any submission. -/
def fresh (instrumentId : String) : VirtualExecutionPositionBridge F :=
  ⟨⟨∅⟩, { instrumentId }⟩

/-- The bridge after submissions one after another. -/
def after (self : VirtualExecutionPositionBridge F) (submissions : List Submission) :
    VirtualExecutionPositionBridge F :=
  submissions.foldl
    (fun now submission => (now.submit float (fun _ => submission.answer) submission.command).2)
    self

def ofStores (stores : Finset String × VirtualPositionAggregate F) :
    VirtualExecutionPositionBridge F := ⟨⟨stores.1⟩, stores.2⟩

/-- A submission is a delivery through the gate of the execution ids. -/
theorem submit_deliver (stores : Finset String × VirtualPositionAggregate F)
    (submission : Submission) :
    ((ofStores stores).submit float (fun _ => submission.answer) submission.command).2 =
      ofStores (deliver Submission.executionId? (Submission.act float) stores submission) := by
  obtain ⟨command, answer⟩ := submission
  cases answer with
  | error e => rfl
  | ok report =>
    by_cases identified : orEmpty report.executionId ≠ "" ∧ report.clientOrderId ≠ ""
    · have named : Submission.executionId? ⟨command, .ok report⟩ =
          some (orEmpty report.executionId) := by
        simp [Submission.executionId?, ExecutionEventIdentityAdapter.identify, identified,
          Except.toOption]
      simp only [submit, settle_eq_consume float _ command identified.1 identified.2, deliver,
        named]
      rfl
    · obtain ⟨e, failed⟩ := settle_unidentified float (ofStores stores) command identified
      have unnamed : Submission.executionId? ⟨command, .ok report⟩ = none := by
        unfold Submission.executionId? ExecutionEventIdentityAdapter.identify
        grind [Except.toOption]
      simp only [submit, failed, deliver_none unnamed]

theorem after_eq_deliverAll (stores : Finset String × VirtualPositionAggregate F)
    (submissions : List Submission) :
    (ofStores stores).after float submissions =
      ofStores (deliverAll Submission.executionId? (Submission.act float) stores submissions) := by
  induction submissions generalizing stores with
  | nil => rfl
  | cons submission rest ih =>
    rw [after, List.foldl_cons, submit_deliver]
    exact ih _

/-- Whatever the broker answers, an execution that comes again, however late and with whatever
command, changes nothing; and the signed position is the sum over the execution ids of what the
first report of each is worth. -/
theorem exactly_once (instrumentId : String) (submissions : List Submission) :
    let now := (fresh instrumentId : VirtualExecutionPositionBridge F).after float submissions
    (∀ front again rest executionId, submissions = front ++ again :: rest →
      again.executionId? = some executionId →
      (∃ earlier ∈ front, earlier.executionId? = some executionId) →
      now = (fresh instrumentId).after float (front ++ rest)) ∧
    now.deduplicator.seenExecutionIds = keysOf Submission.executionId? submissions ∧
    now.position.net = ∑ executionId ∈ keysOf Submission.executionId? submissions,
      (firstOf Submission.executionId? submissions executionId).elim 0
        (Submission.gain instrumentId) := by
  have delivered (given : List Submission) :
      (fresh instrumentId : VirtualExecutionPositionBridge F).after float given = ofStores
        (deliverAll Submission.executionId? (Submission.act float) (∅, { instrumentId }) given) :=
    after_eq_deliverAll float (∅, { instrumentId }) given
  refine ⟨?_, ?_, ?_⟩
  · rintro front again rest executionId rfl named earlier
    rw [delivered, delivered, deliverAll_redelivered named earlier]
  · rw [delivered]
    exact (seen_deliverAll submissions).trans (Finset.empty_union _)
  · obtain ⟨-, summed⟩ := @measure_deliverAll _ _ _ _ _ _ Submission.executionId?
      (Submission.act float) _ _ (VirtualPositionAggregate.Kept instrumentId)
      VirtualPositionAggregate.net (Submission.gain instrumentId) { instrumentId } .fresh
      (Submission.act_kept float) submissions
    rw [delivered]
    exact summed.trans (zero_add _)

end VirtualExecutionPositionBridge
end OptionProject.Virtual
