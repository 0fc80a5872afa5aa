import Mathlib.Data.List.Pairwise
import Mathlib.Data.Prod.Lex
import OptionProject.Library.FirstClaim
import OptionProject.Library.Machine

/-!
# The replay stream

`environments/high_speed/replay.py`. The events are ordered by their time and then by their sequence
number. Any number of iterators share one cursor, which a seek sets to the first event, in this
order, from a sequence number on.

## Main definitions

* `ReplayStream.next` — what an iterator does when it is asked.
* `ReplayStream.iterate` — an iteration to the end.
* `ReplayStream.seek` — a seek.

## Main results

* `Replaying.inOrder_of_visits` — between two seeks the events come once and in order.
* `Replaying.replay_iff` — the events and sequence numbers for which a seek is exact, too.
-/
namespace OptionProject.HighSpeed
open Library

variable {τ π : Type}

structure ReplayEvent (τ π : Type) where
  sequence : ℤ
  observedAt : τ
  payload : π
  deriving DecidableEq

/-- The key of the sort. -/
def ReplayEvent.key (event : ReplayEvent τ π) : Lex (τ × ℤ) :=
  toLex (event.observedAt, event.sequence)

structure ReplayStream (τ π : Type) where
  events : List (ReplayEvent τ π)
  index : ℕ := 0
  paused : Bool := false

namespace ReplayStream

def create [LinearOrder τ] (events : List (ReplayEvent τ π)) : ReplayStream τ π where
  events := FirstClaim.sortedBy ReplayEvent.key events

variable (self : ReplayStream τ π)

/-- An iterator that is asked for its next event, and gives none when it has finished. -/
def next : Option (ReplayEvent τ π) × ReplayStream τ π :=
  if inside : self.index < self.events.length then
    if self.paused then (none, self)
    else (some self.events[self.index], { self with index := self.index + 1 })
  else (none, self)

/-- All that an iterator gives until it has finished. -/
def iterate (self : ReplayStream τ π) : List (ReplayEvent τ π) × ReplayStream τ π :=
  if inside : self.index < self.events.length then
    if self.paused then ([], self)
    else
      let rest := iterate { self with index := self.index + 1 }
      (self.events[self.index] :: rest.1, rest.2)
  else ([], self)
termination_by self.events.length - self.index

def pause : ReplayStream τ π := { self with paused := true }

def resume : ReplayStream τ π := { self with paused := false }

def seek (sequence : ℤ) : ReplayStream τ π :=
  { self with index := self.events.findIdx fun event => sequence ≤ event.sequence }

variable {self}

/-- An iteration that is not paused gives all events from the cursor on. -/
theorem iterate_eq (unpaused : self.paused = false) :
    self.iterate.1 = self.events.drop self.index := by
  fun_induction iterate self with
  | case1 self inside paused => cases unpaused.symm.trans paused
  | case2 self inside going rest ih =>
    rw [List.drop_eq_getElem_cons inside, ← ih unpaused]
  | case3 self outside => rw [List.drop_eq_nil_of_le (not_lt.mp outside)]

/-- A seek goes behind the last of the events in front that do not reach the number. -/
theorem seek_iterate (self : ReplayStream τ π) (sequence : ℤ) :
    (self.seek sequence).resume.iterate.1 =
      self.events.drop (self.events.findIdx fun event => sequence ≤ event.sequence) :=
  iterate_eq rfl

end ReplayStream

/-! ## Where a search in a list is exact -/

section Search

variable {α : Type*} {p : α → Bool} {xs : List α}

/-- What follows the first element of a kind is all of that kind exactly when in the list only
elements of the kind follow one of it. -/
theorem drop_findIdx_eq_filter_iff :
    xs.drop (xs.findIdx p) = xs.filter p ↔ xs.Pairwise fun x y => p x = true → p y = true := by
  induction xs with
  | nil => simp
  | cons x xs ih =>
    cases holds : p x with
    | true =>
      have all : x :: xs = x :: xs.filter p ↔ ∀ y ∈ xs, p y = true := by
        rw [List.cons.injEq, and_iff_right rfl, eq_comm, List.filter_eq_self]
      rw [List.findIdx_cons, holds, cond_true, List.drop_zero, List.filter_cons_of_pos holds, all,
        List.pairwise_cons]
      constructor
      · intro every
        refine ⟨fun y mem _ => every y mem, ?_⟩
        exact List.pairwise_of_forall_mem_list fun _ _ y mem _ => every y mem
      · rintro ⟨every, -⟩ y mem
        exact every y mem holds
    | false => simpa [List.findIdx_cons, holds] using ih

end Search

/-! ## Runs -/

/-- A stream with its iterators, the live ones being true, and what they gave since the last
seek. -/
structure Replaying (τ π : Type) where
  stream : ReplayStream τ π
  iterators : List Bool := []
  yielded : List (ReplayEvent τ π) := []

namespace Replaying

inductive Move
  | iter
  | next (iterator : ℕ)
  | pause
  | resume
  | seek (sequence : ℤ)

/-- An iterator that has finished stays finished. -/
def step (now : Replaying τ π) : Move → Option (Replaying τ π)
  | .iter => some { now with iterators := now.iterators ++ [true] }
  | .next iterator =>
    match now.iterators[iterator]? with
    | none => none
    | some false => some now
    | some true =>
      match now.stream.next with
      | (some event, stream) => some { now with stream, yielded := now.yielded ++ [event] }
      | (none, stream) => some { now with stream, iterators := now.iterators.set iterator false }
  | .pause => some { now with stream := now.stream.pause }
  | .resume => some { now with stream := now.stream.resume }
  | .seek sequence => some { now with stream := now.stream.seek sequence, yielded := [] }

variable {start now later : Replaying τ π} {move : Move} {moves : List Move}

/-- What was given since the last seek is what is in front of the cursor, without a gap. -/
def Follows (now : Replaying τ π) : Prop :=
  now.yielded <:+ now.stream.events.take now.stream.index

/-- An iterator gives the event at the cursor, or it changes nothing but itself. -/
theorem step_next_cases {iterator : ℕ} (moved : now.step (.next iterator) = some later) :
    (later.stream = now.stream ∧ later.yielded = now.yielded) ∨
      ∃ inside : now.stream.index < now.stream.events.length,
        later.stream = { now.stream with index := now.stream.index + 1 } ∧
          later.yielded = now.yielded ++ [now.stream.events[now.stream.index]] := by
  unfold step ReplayStream.next at moved
  grind

theorem events_step (moved : now.step move = some later) :
    later.stream.events = now.stream.events := by
  cases move with
  | next iterator =>
    rcases step_next_cases moved with ⟨same, -⟩ | ⟨inside, advanced, -⟩
    · rw [same]
    · rw [advanced]
  | iter => cases moved; rfl
  | pause => cases moved; rfl
  | resume => cases moved; rfl
  | seek sequence => cases moved; rfl

theorem follows_step (follows : now.Follows) (moved : now.step move = some later) :
    later.Follows := by
  cases move with
  | next iterator =>
    rcases step_next_cases moved with ⟨same, yielded⟩ | ⟨inside, advanced, yielded⟩
    · rwa [Follows, same, yielded]
    · obtain ⟨front, split⟩ := follows
      refine ⟨front, ?_⟩
      rw [yielded, ← List.append_assoc, split, advanced]
      exact List.take_concat_get' _ _ inside
  | iter => cases moved; exact follows
  | pause => cases moved; exact follows
  | resume => cases moved; exact follows
  | seek sequence => cases moved; exact List.nil_suffix

variable [LinearOrder τ]

/-- The events since the last seek are events of the stream, each once, in order. -/
structure InOrder (now : Replaying τ π) : Prop where
  once : now.yielded.Sublist now.stream.events
  sorted : now.yielded.Pairwise fun x y => x.key ≤ y.key

/-- After a seek an iteration to the end gives exactly the events from the number on. -/
def Exact (now : Replaying τ π) (sequence : ℤ) : Prop :=
  (now.stream.seek sequence).resume.iterate.1 =
    now.stream.events.filter fun event => sequence ≤ event.sequence

/-- An event below the number is later than one that reaches it. -/
def Straggles (events : List (ReplayEvent τ π)) (sequence : ℤ) : Prop :=
  ∃ x ∈ events, ∃ y ∈ events, x.sequence < sequence ∧ sequence ≤ y.sequence ∧
    y.observedAt < x.observedAt

theorem key_le_iff {x y : ReplayEvent τ π} : x.key ≤ y.key ↔
    x.observedAt < y.observedAt ∨ x.observedAt = y.observedAt ∧ x.sequence ≤ y.sequence :=
  Prod.Lex.toLex_le_toLex

/-- In the order of the stream an event below the number follows one that reaches it exactly when it
is later. -/
theorem pairwise_reaches_iff {sequence : ℤ} {events : List (ReplayEvent τ π)}
    (sorted : events.Pairwise fun x y => x.key ≤ y.key) :
    (events.Pairwise fun x y => decide (sequence ≤ x.sequence) = true →
      decide (sequence ≤ y.sequence) = true) ↔ ¬Straggles events sequence := by
  simp only [decide_eq_true_eq]
  constructor
  · rintro reaches ⟨x, inside, y, inside', below, from_on, later⟩
    let Apart (a b : ReplayEvent τ π) : Prop :=
      a.key ≤ b.key ∧ (sequence ≤ a.sequence → sequence ≤ b.sequence)
    have apart : events.Pairwise fun a b => Apart a b ∨ Apart b a :=
      (List.pairwise_and_iff.mpr ⟨sorted, reaches⟩).imp .inl
    have : Std.Symm fun a b => Apart a b ∨ Apart b a := ⟨fun _ _ => Or.symm⟩
    have different : x ≠ y := by
      rintro rfl
      omega
    rcases apart.forall inside inside' different with ⟨before, -⟩ | ⟨-, upward⟩
    · rcases key_le_iff.mp before with earlier | ⟨same, -⟩
      · exact earlier.not_gt later
      · exact later.ne' same
    · have := upward from_on
      omega
  · intro whole
    refine sorted.imp_of_mem fun {x y} inside inside' before from_on => ?_
    by_contra below
    refine whole ⟨y, inside', x, inside, by omega, from_on, ?_⟩
    rcases key_le_iff.mp before with earlier | ⟨-, le⟩
    · exact earlier
    · omega

/-- A seek is exact unless an event below the number is later than one that reaches it. -/
theorem exact_iff_not_straggles {sequence : ℤ}
    (sorted : now.stream.events.Pairwise fun x y => x.key ≤ y.key) :
    now.Exact sequence ↔ ¬Straggles now.stream.events sequence := by
  rw [Exact, ReplayStream.seek_iterate, drop_findIdx_eq_filter_iff, pairwise_reaches_iff sorted]

/-- A stream that nobody reads yet. -/
def opened (events : List (ReplayEvent τ π)) : Replaying τ π := { stream := .create events }

theorem events_of_visits {events : List (ReplayEvent τ π)}
    (visited : Machine.Visits step (opened events) moves now) :
    now.stream.events = FirstClaim.sortedBy ReplayEvent.key events := by
  refine Machine.visits_kept (P := fun now : Replaying τ π =>
    now.stream.events = FirstClaim.sortedBy ReplayEvent.key events) rfl ?_ visited
  intro now move later same moved
  rw [events_step moved, same]

theorem inOrder_of_visits {events : List (ReplayEvent τ π)}
    (visited : Machine.Visits step (opened events) moves now) : now.InOrder := by
  have none_given : (opened events).Follows := List.nil_suffix
  have follows : now.Follows := Machine.visits_kept none_given
    (fun _ _ _ follows moved => follows_step follows moved) visited
  have once : now.yielded.Sublist now.stream.events :=
    follows.sublist.trans (List.take_sublist _ _)
  have sorted := FirstClaim.pairwise_sortedBy ReplayEvent.key events
  rw [← events_of_visits visited] at sorted
  exact ⟨once, sorted.sublist once⟩

theorem straggles_sortedBy {events : List (ReplayEvent τ π)} {sequence : ℤ} :
    Straggles (FirstClaim.sortedBy ReplayEvent.key events) sequence ↔
      Straggles events sequence := by
  simp [Straggles]

/-- In every run the events come once and in order, and a seek to the number is exact in all of its
states exactly when no event below the number is later than one that reaches it. -/
theorem replay_iff (events : List (ReplayEvent τ π)) (sequence : ℤ) (moves : List Move) :
    (∀ now, Machine.Visits step (opened events) moves now →
      now.InOrder ∧ now.Exact sequence) ↔ ¬Straggles events sequence := by
  have exact_there {now : Replaying τ π} (visited : Machine.Visits step (opened events) moves now) :
      now.Exact sequence ↔ ¬Straggles events sequence := by
    have same := events_of_visits visited
    rw [exact_iff_not_straggles, same, straggles_sortedBy]
    rw [same]
    exact FirstClaim.pairwise_sortedBy ReplayEvent.key events
  constructor
  · intro always
    have start : Machine.Visits step (opened events) moves (opened events) :=
      ⟨[], List.nil_prefix, rfl⟩
    exact (exact_there start).mp (always _ start).2
  · intro whole now visited
    exact ⟨inOrder_of_visits visited, (exact_there visited).mpr whole⟩

/-- The first event has the greater number. -/
def numberedBack : List (ReplayEvent ℕ Unit) := [⟨2, 1, ()⟩, ⟨1, 2, ()⟩]

/-- The event 1 comes after a seek to 2. -/
theorem numberedBack_inexact :
    ((opened numberedBack).stream.seek 2).resume.iterate.1 = [⟨2, 1, ()⟩, ⟨1, 2, ()⟩] ∧
      ¬(opened numberedBack).Exact 2 := by
  rw [Exact, ReplayStream.seek_iterate]
  constructor <;> decide +kernel

end Replaying
end OptionProject.HighSpeed
