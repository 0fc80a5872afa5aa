import Mathlib.Algebra.Order.Group.Int
import OptionProject.Lifecycle.Interleavings

/-!
# The drain barrier

Receives that run beside one start and one stop. The counter and the event of the coordinator
agree with the receives in flight in every interleaving. A stop that finds the coordinator
started closes it to further receives, and stops the controller when none is in flight; a stop
that finds nothing to stop closes nothing, and one whose wait is interrupted stops the
controller at once.

## Main definitions

* `Interleaving.inFlight` — the receives that were admitted and have not ended.
* `Interleaving.Launched`, `Interleaving.StopEntered` — a start has succeeded, a stop has entered.

## Main results

* `receives_drained` — the barrier, the admission of receives, and what a stop waits for.
-/
namespace OptionProject.Lifecycle
open Library

section Segments

variable {R : Type} {self : LiveRuntimeLifecycleCoordinator R} {answers : Answers}
  {entry : Entry} {turn : Turn R}

/-- A segment leaves the receives alone, admits one, or ends one. -/
theorem Segment.receives_cases (segment : Segment self answers entry turn) :
    (entry.point.isReceiving = false ∧ turn.point.isReceiving = false ∧
      turn.coordinator.activeReceives = self.activeReceives ∧
      turn.coordinator.receivesDrained = self.receivesDrained) ∨
    (entry = .begin .receiveExecutionOnce ∧ turn.point.isReceiving = true ∧
      self.started = true ∧ self.stopping = false ∧
      turn.coordinator.activeReceives = self.activeReceives + 1 ∧
      turn.coordinator.receivesDrained = false) ∨
    (entry.point.isReceiving = true ∧ turn.point.isReceiving = false ∧
      turn.coordinator.activeReceives = self.activeReceives - 1 ∧
      turn.coordinator.receivesDrained =
        (self.activeReceives - 1 = 0 || self.receivesDrained)) := by
  cases segment with
  | refused => exact .inl ⟨rfl, rfl, rfl, rfl⟩
  | entered => exact .inl ⟨rfl, rfl, rfl, rfl⟩
  | startInterrupted => exact .inl ⟨rfl, rfl, rfl, rfl⟩
  | launched => exact .inl ⟨rfl, rfl, rfl, rfl⟩
  | startFailed => exact .inl ⟨rfl, rfl, rfl, rfl⟩
  | startupInterrupted _ starting =>
    exact .inl ⟨Point.isReceiving_of_isStarting starting, rfl, rfl, rfl⟩
  | cleanupCancelled => exact .inl ⟨rfl, rfl, rfl, rfl⟩
  | unstarted _ _ reason => exact .inl ⟨reason.isReceiving, rfl, rfl, rfl⟩
  | unstartedFailed _ _ reason => exact .inl ⟨reason.isReceiving, rfl, rfl, rfl⟩
  | receiving _ started admits => exact .inr (.inl ⟨rfl, rfl, started, admits, rfl, rfl⟩)
  | received => exact .inr (.inr ⟨rfl, rfl, rfl, rfl⟩)
  | stopping => exact .inl ⟨rfl, rfl, rfl, rfl⟩
  | stopMoved before after =>
    exact .inl ⟨Point.isReceiving_of_isStopping before, Point.isReceiving_of_isStopping after,
      rfl, rfl⟩
  | stopFailed _ _ before => exact .inl ⟨Point.isReceiving_of_isStopping before, rfl, rfl, rfl⟩
  | stopped _ _ before => exact .inl ⟨Point.isReceiving_of_isStopping before, rfl, rfl, rfl⟩
  | stopBroken _ _ before => exact .inl ⟨Point.isReceiving_of_isStopping before, rfl, rfl, rfl⟩
  | stopInterrupted _ before =>
    exact .inl ⟨Point.isReceiving_of_isStopping before, rfl, rfl, rfl⟩

/-- What a segment does to the started flag. -/
theorem Segment.flow (segment : Segment self answers entry turn) :
    (turn.coordinator.started = self.started ∧ turn.coordinator.stopping = self.stopping ∧
      (turn.point.isStopping = true → entry.point.isStopping = true) ∧
      (entry = .begin .stop → turn.point.isDone = true)) ∨
    ((∃ policy, entry = .resume (.startingExecution policy) .returned) ∧
      turn.point = .done .returned ∧ turn.coordinator.started = true) ∨
    (entry = .begin .stop ∧ turn.point = .closingExecution ∧ self.started = true ∧
      turn.coordinator.stopping = true) ∨
    (self.StopsUnstarted entry ∧ turn.point.isDone = true ∧
      (turn.coordinator.started = true → self.started = true)) ∨
    (entry.point.isStopping = true ∧ turn.point.isDone = true ∧
      turn.coordinator.started = false) := by
  cases segment with
  | refused => exact .inl ⟨rfl, rfl, nofun, fun _ => rfl⟩
  | entered => exact .inl ⟨rfl, rfl, nofun, nofun⟩
  | startInterrupted => exact .inl ⟨rfl, rfl, nofun, fun _ => rfl⟩
  | launched policy => exact .inr (.inl ⟨⟨policy, rfl⟩, rfl, rfl⟩)
  | startFailed => exact .inl ⟨rfl, rfl, nofun, nofun⟩
  | startupInterrupted => exact .inl ⟨rfl, rfl, nofun, nofun⟩
  | cleanupCancelled => exact .inr (.inr (.inr (.inl ⟨trivial, rfl, nofun⟩)))
  | unstarted _ _ reason => exact .inr (.inr (.inr (.inl ⟨reason, rfl, id⟩)))
  | unstartedFailed _ _ reason => exact .inr (.inr (.inr (.inl ⟨reason, rfl, nofun⟩)))
  | receiving => exact .inl ⟨rfl, rfl, nofun, nofun⟩
  | received => exact .inl ⟨rfl, rfl, nofun, nofun⟩
  | stopping started => exact .inr (.inr (.inl ⟨rfl, rfl, started, rfl⟩))
  | stopMoved before => exact .inl ⟨rfl, rfl, fun _ => before, nofun⟩
  | stopFailed _ _ before => exact .inr (.inr (.inr (.inr ⟨before, rfl, rfl⟩)))
  | stopped _ _ before => exact .inr (.inr (.inr (.inr ⟨before, rfl, rfl⟩)))
  | stopBroken _ _ before => exact .inr (.inr (.inr (.inr ⟨before, rfl, rfl⟩)))
  | stopInterrupted _ before => exact .inr (.inr (.inr (.inr ⟨before, rfl, rfl⟩)))

/-- A stop that has entered stops the controller, and ends normally, with the receives drained,
unless its wait was interrupted. -/
theorem Segment.drained {point : Point} {outcome : CallOutcome}
    (segment : Segment self answers (.resume point outcome) turn)
    (stopping : point.isStopping = true)
    (ends : stopsController turn.events = true ∨ turn.point = .done .returned) :
    self.receivesDrained = true ∨ outcome = .interrupted ∨
      answers.cancelReceives = .finished .interrupted := by
  cases segment with
  | launched => cases stopping
  | startFailed => cases stopping
  | startupInterrupted _ starting =>
    cases (Point.isStarting_of_isStopping stopping).symm.trans starting
  | cleanupCancelled => cases stopping
  | unstarted _ _ reason =>
    cases point with
    | closingStartup => cases stopping
    | _ => exact reason.elim
  | unstartedFailed _ _ reason =>
    cases point with
    | closingStartup => cases stopping
    | _ => exact reason.elim
  | received => cases stopping
  | stopMoved _ after silent =>
    rcases ends with stops | rfl
    · cases silent.stops.symm.trans stops
    · cases after
  | stopFailed _ _ _ silent =>
    rcases ends with stops | ended
    · cases silent.stops.symm.trans stops
    · cases ended
  | stopped _ _ _ drained => exact drained
  | stopBroken _ _ _ drained => exact drained
  | stopInterrupted _ _ drained => exact drained

/-- A stop that ends at once, and not by an error of its own, found nothing to stop. -/
theorem Segment.idle (segment : Segment self answers (.begin .stop) turn)
    (ends : stopsController turn.events = true ∨ turn.point = .done .returned) :
    self.started = false := by
  cases segment with
  | refused =>
    rcases ends with stops | ended
    · cases stops
    · cases ended
  | unstarted _ _ reason => exact reason.1
  | unstartedFailed _ _ reason => exact reason.1
  | stopping _ silent =>
    rcases ends with stops | ended
    · cases silent.stops.symm.trans stops
    · cases ended

/-- The points of a call. -/
def Call.owns : Call → Point → Bool
  | .start _, point => point.isStarting || point.isDone
  | .receiveExecutionOnce, point => point.isReceiving || point.isDone
  | .stop, point => point.isStopping || point.isDone

theorem Call.owns_done (call : Call) (result : CallResult) :
    call.owns (.done result) = true := by
  cases call <;> rfl

theorem Call.eq_stop_of_owns {call : Call} {point : Point} (owns : call.owns point = true)
    (stopping : point.isStopping = true) : call = .stop := by
  cases call <;> cases point <;>
    simp_all [Call.owns, Point.isStarting, Point.isStopping, Point.isReceiving, Point.isDone]

theorem Call.isStart_of_owns {call : Call} {point : Point} (owns : call.owns point = true)
    (starting : point.isStarting = true) : call.isStart = true := by
  cases call <;> cases point <;>
    simp_all [Call.owns, Call.isStart, Point.isStarting, Point.isStopping, Point.isReceiving,
      Point.isDone]

theorem Call.isStopping_of_owns {point : Point} (owns : Call.stop.owns point = true)
    (ongoing : point.isDone = false) : point.isStopping = true := by
  simpa [Call.owns, ongoing] using owns

/-- A call goes from its own points to its own points. -/
theorem Segment.owns {call : Call} (segment : Segment self answers entry turn)
    (began : ∀ begun, entry = .begin begun → begun = call)
    (owns : call.owns entry.point = true) : call.owns turn.point = true := by
  cases segment with
  | entered => exact began _ rfl ▸ rfl
  | startFailed =>
    cases call with
    | start => rfl
    | _ => cases owns
  | receiving => exact began _ rfl ▸ rfl
  | stopping => exact began _ rfl ▸ rfl
  | stopMoved before after =>
    obtain rfl := Call.eq_stop_of_owns owns before
    simp [Call.owns, after]
  | _ => exact Call.owns_done call _

end Segments

/-- The call a step begins. -/
def Step.call? : Step → Option Call
  | .begin call _ => some call
  | .resume _ _ _ => none

namespace Interleaving

variable {R : Type} {self next : Interleaving R} {step : Step}

/-- The receives that were admitted and have not ended. -/
def inFlight (self : Interleaving R) : ℕ := self.tasks.countP (·.point.isReceiving)

/-- The counter and the event agree with the receives in flight. -/
structure Counted (now : Interleaving R) : Prop where
  active : now.coordinator.activeReceives = now.inFlight
  drained : now.coordinator.receivesDrained = true ↔ now.inFlight = 0

theorem counted_create (callback : Option R) : (create callback).Counted :=
  ⟨rfl, by simp [create, inFlight]⟩

/-- What a segment does to the receives, the counter and the event follow. -/
theorem Counted.segment {answers : Answers} {entry : Entry} {turn : Turn R}
    (counted : self.Counted) (segment : Segment self.coordinator answers entry turn)
    (left : next.coordinator = turn.coordinator)
    (flight : next.inFlight + (if entry.point.isReceiving = true then 1 else 0) =
      self.inFlight + if turn.point.isReceiving = true then 1 else 0) : next.Counted := by
  obtain ⟨active, drained⟩ := counted
  rcases segment.receives_cases with
    ⟨before, after, active', drained'⟩ | ⟨rfl, after, -, -, active', drained'⟩ |
      ⟨before, after, active', drained'⟩
  · rw [before, after] at flight
    have same : next.inFlight = self.inFlight := by simpa using flight
    exact ⟨by rw [left, active', active, same], by rw [left, drained', drained, same]⟩
  · have more : next.inFlight = self.inFlight + 1 := by
      rw [after] at flight
      exact flight
    refine ⟨?_, ?_⟩
    · rw [left, active', active, more]
      rfl
    · rw [left, drained', more]
      simp
  · have less : next.inFlight + 1 = self.inFlight := by simpa [before, after] using flight
    have active'' : self.coordinator.activeReceives - 1 = next.inFlight := by omega
    refine ⟨by rw [left, active', active''], ?_⟩
    have waiting : self.coordinator.receivesDrained ≠ true := by
      rw [Ne, drained]
      omega
    rw [left, drained', active'', Bool.or_eq_true, decide_eq_true_iff, or_iff_left waiting]
    exact Int.natCast_eq_zero

theorem Counted.perform (counted : self.Counted) (performed : self.perform step = some next) :
    next.Counted := by
  cases step with
  | begin call answers =>
    obtain ⟨task, turn, -, -, at', -, -, segment, rfl⟩ := perform_begin performed
    refine counted.segment segment rfl ?_
    show (self.tasks ++ [task]).countP (·.point.isReceiving) = _
    rw [List.countP_append, List.countP_singleton, at']
    rfl
  | resume index outcome answers =>
    obtain ⟨task, turn, known, -, segment, rfl⟩ := perform_resume performed
    refine counted.segment segment rfl ?_
    exact Machine.countP_set_add (fun task : Task => task.point.isReceiving) known

/-! ## Stages -/

/-- A start has succeeded. -/
def Launched (self : Interleaving R) : Prop :=
  ∃ task ∈ self.tasks, task.call.isStart = true ∧ task.point = .done .returned

/-- A stop has begun that found the coordinator started, and could read its timeouts. -/
def StopEntered (self : Interleaving R) : Prop :=
  ∃ task ∈ self.tasks, task.call = .stop ∧ task.entered = true

/-- How far one start and one stop have come. -/
inductive Stage
  | unlaunched
  | admitting
  | closing
  | closed

/-- What holds in a stage: the flags, and where the calls can stand. -/
def At (self : Interleaving R) : Stage → Prop
  | .unlaunched =>
    self.coordinator.started = false ∧ ¬self.StopEntered ∧
      ∀ task ∈ self.tasks, task.point.isReceiving = false ∧ task.point.isStopping = false
  | .admitting =>
    self.coordinator.started = true ∧ self.Launched ∧ ¬self.StopEntered ∧
      ∀ task ∈ self.tasks, task.point.isStarting = false ∧ task.point.isStopping = false
  | .closing =>
    self.coordinator.stopping = true ∧ self.Launched ∧ self.StopEntered ∧
      ∀ task ∈ self.tasks, task.point.isStarting = false
  | .closed =>
    self.coordinator.started = false ∧ self.Launched ∧ self.StopEntered ∧
      ∀ task ∈ self.tasks, task.point.isStarting = false ∧ task.point.isStopping = false

/-- Every call stands at one of its own points, and one that never entered has ended. -/
structure Placed (now : Interleaving R) : Prop where
  owns : ∀ task ∈ now.tasks, task.call.owns task.point = true
  entered : ∀ task ∈ now.tasks, task.entered = false → task.point.isDone = true

/-- What a step does, for a call that is begun as for one that is resumed. -/
structure Performed (now next : Interleaving R) (step : Step) (answers : Answers) (entry : Entry)
    (task : Task) (turn : Turn R) : Prop where
  taken : now.turnOf step = some (task, turn)
  segment : Segment now.coordinator answers entry turn
  left : next.coordinator = turn.coordinator
  tasks : ∀ other ∈ next.tasks, other ∈ now.tasks ∨ other = { task with point := turn.point }
  moved : { task with point := turn.point } ∈ next.tasks
  origin :
    (∃ call begun, step = .begin call begun ∧ entry = .begin call ∧ task.call = call ∧
      (task.entered = true ↔ turn.point.isDone = false) ∧ next.tasks = now.tasks ++ [task]) ∨
    ∃ index outcome, step = .resume index outcome answers ∧ now.tasks[index]? = some task ∧
      entry = .resume task.point outcome ∧ ∀ other ∈ now.tasks, other ≠ task → other ∈ next.tasks

theorem perform_cases (performed : self.perform step = some next) :
    ∃ answers entry task turn, Performed self next step answers entry task turn := by
  cases step with
  | begin call answers =>
    obtain ⟨task, turn, taken, called, at', -, entered, segment, rfl⟩ := perform_begin performed
    have same : { task with point := turn.point } = task := by rw [← at']
    refine ⟨_, _, task, turn, taken, segment, rfl, ?_, ?_, .inl ⟨call, answers, rfl, rfl, called,
      ?_, rfl⟩⟩
    · intro other member
      rw [same]
      exact (List.mem_append.mp member).imp_right List.mem_singleton.mp
    · rw [same]
      exact List.mem_append_right _ (List.mem_singleton_self task)
    · rw [entered]
      cases turn.point <;> simp [Point.isDone]
  | resume index outcome answers =>
    obtain ⟨task, turn, known, taken, segment, rfl⟩ := perform_resume performed
    have inside : index < self.tasks.length := (List.getElem?_eq_some_iff.mp known).1
    refine ⟨_, _, task, turn, taken, segment, rfl, ?_, ?_, .inr ⟨index, outcome, rfl, known, rfl,
      ?_⟩⟩
    · exact fun other member => List.mem_or_eq_of_mem_set member
    · exact List.mem_of_getElem? (List.getElem?_set_self inside)
    · exact fun other member apart => Machine.mem_set_of_ne member known apart

theorem placed_create (callback : Option R) : (create callback).Placed := by
  refine ⟨?_, ?_⟩
  · intro task member
    cases member
  · intro task member
    cases member

section Performed

variable {answers : Answers} {entry : Entry} {task : Task} {turn : Turn R}

theorem Placed.performed (placed : self.Placed)
    (performed : Performed self next step answers entry task turn) : next.Placed := by
  refine ⟨?_, ?_⟩
  · intro other member
    rcases performed.tasks other member with old | rfl
    · exact placed.owns other old
    · show task.call.owns turn.point = true
      rcases performed.origin with ⟨call, _, -, rfl, called, -⟩ | ⟨index, outcome, -, known, rfl, -⟩
      · refine performed.segment.owns ?_ (Call.owns_done _ .returned)
        intro begun same
        exact (Entry.begin.inj same).symm.trans called.symm
      · refine performed.segment.owns ?_ (placed.owns task (List.mem_of_getElem? known))
        intro begun same
        cases same
  · intro other member
    rcases performed.tasks other member with old | rfl
    · exact placed.entered other old
    · show task.entered = false → turn.point.isDone = true
      intro left
      rcases performed.origin with ⟨call, _, -, rfl, -, entered, -⟩ |
        ⟨index, outcome, -, known, rfl, -⟩
      · by_contra ongoing
        rw [Bool.not_eq_true, ← entered, left] at ongoing
        cases ongoing
      · cases performed.segment.ongoing.symm.trans
          (placed.entered task (List.mem_of_getElem? known) left)

/-- A start that has succeeded, and a stop that has entered, stay so. -/
theorem Launched.performed (launched : self.Launched)
    (performed : Performed self next step answers entry task turn) : next.Launched := by
  obtain ⟨other, member, starts, done⟩ := launched
  rcases performed.origin with ⟨call, _, -, -, -, -, tasks⟩ | ⟨index, outcome, -, -, rfl, stay⟩
  · exact ⟨other, tasks ▸ List.mem_append_left _ member, starts, done⟩
  · refine ⟨other, stay other member ?_, starts, done⟩
    rintro rfl
    have ongoing : other.point.isDone = false := performed.segment.ongoing
    rw [done] at ongoing
    cases ongoing

theorem StopEntered.performed (stop : self.StopEntered)
    (performed : Performed self next step answers entry task turn) : next.StopEntered := by
  obtain ⟨other, member, called, entered⟩ := stop
  rcases performed.origin with ⟨call, _, -, -, -, -, tasks⟩ | ⟨index, outcome, -, -, -, stay⟩
  · exact ⟨other, tasks ▸ List.mem_append_left _ member, called, entered⟩
  · by_cases same : other = task
    · subst same
      exact ⟨_, performed.moved, called, entered⟩
    · exact ⟨other, stay other member same, called, entered⟩

/-- Only a stop that goes on after its first segment has entered. -/
theorem not_stopEntered (performed : Performed self next step answers entry task turn)
    (noStop : ¬self.StopEntered) (ends : entry = .begin .stop → turn.point.isDone = true) :
    ¬next.StopEntered := by
  rintro ⟨other, member, called, entered⟩
  rcases performed.tasks other member with old | rfl
  · exact noStop ⟨other, old, called, entered⟩
  · rcases performed.origin with ⟨call, _, -, rfl, called', entered', -⟩ | ⟨_, _, -, known, -⟩
    · have done := ends (by rw [← called', show task.call = .stop from called])
      cases done.symm.trans (entered'.mp entered)
    · exact noStop ⟨task, List.mem_of_getElem? known, called, entered⟩

/-- A step starts from no point of a kind at which no call stands. -/
theorem Performed.quiet (performed : Performed self next step answers entry task turn)
    {p : Point → Bool} (done : p (.done .returned) = false)
    (quiet : ∀ task ∈ self.tasks, p task.point = false) : p entry.point = false := by
  rcases performed.origin with ⟨call, _, -, rfl, -⟩ | ⟨_, _, -, known, rfl, -⟩
  · exact done
  · exact quiet task (List.mem_of_getElem? known)

/-- The points of the calls, after a step that leaves its own call at the turn's point. -/
theorem Performed.points (performed : Performed self next step answers entry task turn)
    {p : Point → Prop} (old : ∀ task ∈ self.tasks, p task.point) (new : p turn.point) :
    ∀ task ∈ next.tasks, p task.point := by
  intro other member
  rcases performed.tasks other member with known | rfl
  · exact old other known
  · exact new

theorem Performed.not_starting (performed : Performed self next step answers entry task turn)
    (refused : self.coordinator.restartAdmitted = false)
    (quiet : ∀ task ∈ self.tasks, task.point.isStarting = false) :
    turn.point.isStarting = false := by
  by_contra starting
  rw [Bool.not_eq_false] at starting
  obtain ⟨-, ⟨-, -, admitted, -⟩ | ⟨policy, outcome, rfl, -⟩⟩ :=
    performed.segment.starting_cases starting
  · cases refused.symm.trans admitted
  · cases performed.quiet rfl quiet

/-- A call of a kind of which there is at most one is begun when there is none. -/
theorem Performed.fresh (performed : Performed self next step answers entry task turn)
    {p : Call → Bool} {call : Call} (one : next.tasks.countP (fun task => p task.call) ≤ 1)
    (began : entry = .begin call) (kind : p call = true) :
    ∀ other ∈ self.tasks, p other.call = false := by
  rcases performed.origin with ⟨call', _, -, began', called, -, tasks⟩ | ⟨_, _, -, -, resumed, -⟩
  · have same : task.call = call := called.trans (Entry.begin.inj (began'.symm.trans began))
    rw [tasks, List.countP_append, List.countP_singleton, same, if_pos kind] at one
    have none : self.tasks.countP (fun task => p task.call) = 0 := by omega
    intro other member
    simpa using List.countP_eq_zero.mp none other member
  · cases began.symm.trans resumed

theorem unlaunched_performed (stage : self.At .unlaunched) (placed : self.Placed)
    (one : next.tasks.countP (·.call.isStart) ≤ 1)
    (performed : Performed self next step answers entry task turn) :
    next.At .unlaunched ∨ next.At .admitting := by
  obtain ⟨stopped, noStop, quiet⟩ := stage
  have receiving : turn.point.isReceiving = false := by
    rcases performed.segment.receives_cases with ⟨-, other, -⟩ | ⟨-, -, started, -⟩ | ⟨-, other, -⟩
    · exact other
    · cases stopped.symm.trans started
    · exact other
  have stopping := performed.quiet rfl fun task member => (quiet task member).2
  rcases performed.segment.flow with ⟨same, -, moves, ends⟩ | ⟨⟨policy, rfl⟩, done, started⟩ |
    ⟨-, -, started, -⟩ | ⟨-, done, started⟩ | ⟨before, -⟩
  · refine .inl ⟨by rw [performed.left, same, stopped], not_stopEntered performed noStop ends, ?_⟩
    refine performed.points (p := fun point => point.isReceiving = false ∧ point.isStopping = false)
      quiet ⟨receiving, ?_⟩
    rw [Bool.eq_false_iff]
    intro after
    cases stopping.symm.trans (moves after)
  · have starts : task.call.isStart = true := by
      rcases performed.origin with ⟨_, _, -, began, -⟩ | ⟨_, _, -, known, resumed, -⟩
      · cases began
      · refine Call.isStart_of_owns (placed.owns task (List.mem_of_getElem? known)) ?_
        rw [← (Entry.resume.inj resumed).1]
        rfl
    refine .inr ⟨by rw [performed.left, started], ⟨_, performed.moved, starts, done⟩,
      not_stopEntered performed noStop nofun, ?_⟩
    intro other member
    rcases performed.tasks other member with known | rfl
    · refine ⟨?_, (quiet other known).2⟩
      by_contra starting
      rw [Bool.not_eq_false] at starting
      have starts' := Call.isStart_of_owns (placed.owns other known) starting
      have same := Machine.eq_of_countP_le_one one member performed.moved starts' starts
      rw [same] at starting
      rw [show ({ task with point := turn.point } : Task).point = _ from done] at starting
      cases starting
    · rw [show ({ task with point := turn.point } : Task).point = _ from done]
      exact ⟨rfl, rfl⟩
  · cases stopped.symm.trans started
  · have unstarted : turn.coordinator.started = false :=
      Bool.eq_false_iff.mpr fun after => nomatch stopped.symm.trans (started after)
    refine .inl ⟨by rw [performed.left, unstarted],
      not_stopEntered performed noStop fun _ => done, ?_⟩
    exact performed.points (p := fun point => point.isReceiving = false ∧ point.isStopping = false)
      quiet ⟨receiving, Point.isStopping_of_isDone done⟩
  · cases stopping.symm.trans before

theorem admitting_performed (stage : self.At .admitting)
    (performed : Performed self next step answers entry task turn) :
    next.At .admitting ∨ next.At .closing := by
  obtain ⟨running, launched, noStop, quiet⟩ := stage
  have launched' := launched.performed performed
  have starting := performed.quiet rfl fun task member => (quiet task member).1
  have stopping := performed.quiet rfl fun task member => (quiet task member).2
  have refused : self.coordinator.restartAdmitted = false := by
    simp [LiveRuntimeLifecycleCoordinator.restartAdmitted, running]
  have notStarting := performed.not_starting refused fun task member => (quiet task member).1
  rcases performed.segment.flow with ⟨same, -, moves, ends⟩ | ⟨⟨policy, rfl⟩, -⟩ |
    ⟨rfl, closing, -, stops⟩ | ⟨reason, -⟩ | ⟨before, -⟩
  · refine .inl ⟨by rw [performed.left, same, running], launched',
      not_stopEntered performed noStop ends, ?_⟩
    refine performed.points (p := fun point => point.isStarting = false ∧ point.isStopping = false)
      quiet ⟨notStarting, ?_⟩
    exact Bool.eq_false_iff.mpr (mt moves (by simp [stopping]))
  · cases starting
  · refine .inr ⟨by rw [performed.left, stops], launched', ⟨_, performed.moved, ?_⟩, ?_⟩
    · rcases performed.origin with
        ⟨call, _, -, began, called, entered, -⟩ | ⟨_, _, -, -, resumed, -⟩
      · refine ⟨called.trans (Entry.begin.inj began).symm, entered.mpr ?_⟩
        rw [closing]
        rfl
      · cases resumed
    · exact performed.points (p := fun point => point.isStarting = false)
        (fun task member => (quiet task member).1) notStarting
  · rcases reason.cases with ⟨-, stopped, -⟩ | admitted | ⟨cause, outcome, rfl⟩
    · cases stopped.symm.trans running
    · cases refused.symm.trans admitted
    · cases starting
  · cases stopping.symm.trans before

theorem closing_performed (stage : self.At .closing) (placed : self.Placed)
    (oneStop : next.tasks.countP (·.call = .stop) ≤ 1)
    (performed : Performed self next step answers entry task turn) :
    next.At .closing ∨ next.At .closed := by
  obtain ⟨stopping, launched, entered, quiet⟩ := stage
  have launched' := launched.performed performed
  have entered' := entered.performed performed
  have starting := performed.quiet rfl quiet
  have refused : self.coordinator.restartAdmitted = false := by
    simp [LiveRuntimeLifecycleCoordinator.restartAdmitted, stopping]
  have notStarting := performed.points (p := fun point => point.isStarting = false)
    quiet (performed.not_starting refused quiet)
  have noStop : entry ≠ .begin .stop := by
    intro began
    obtain ⟨other, member, called, -⟩ := entered
    have fresh := performed.fresh (p := (· = .stop)) oneStop began rfl other member
    simp [called] at fresh
  rcases performed.segment.flow with ⟨-, same, -⟩ | ⟨⟨policy, rfl⟩, -⟩ | ⟨began, -⟩ |
    ⟨reason, -⟩ | ⟨before, done, stopped⟩
  · exact .inl ⟨by rw [performed.left, same, stopping], launched', entered', notStarting⟩
  · cases starting
  · exact absurd began noStop
  · rcases reason.cases with ⟨began, -⟩ | admitted | ⟨cause, outcome, rfl⟩
    · exact absurd began noStop
    · cases refused.symm.trans admitted
    · cases starting
  · refine .inr ⟨by rw [performed.left, stopped], launched', entered', ?_⟩
    have stop : task.call = .stop := by
      rcases performed.origin with ⟨_, _, -, rfl, -⟩ | ⟨_, _, -, known, rfl, -⟩
      · cases before
      · exact Call.eq_stop_of_owns (placed.owns task (List.mem_of_getElem? known)) before
    intro other member
    refine ⟨notStarting other member, ?_⟩
    rcases performed.tasks other member with known | rfl
    · by_contra stopping'
      rw [Bool.not_eq_false] at stopping'
      have stop' := Call.eq_stop_of_owns (placed.owns other known) stopping'
      -- the stop that has ended is the only one
      have same := Machine.eq_of_countP_le_one oneStop member performed.moved
        (decide_eq_true stop') (decide_eq_true stop)
      rw [same] at stopping'
      cases (Point.isStopping_of_isDone done).symm.trans stopping'
    · exact Point.isStopping_of_isDone done

theorem closed_performed (stage : self.At .closed)
    (oneStart : next.tasks.countP (·.call.isStart) ≤ 1)
    (performed : Performed self next step answers entry task turn) : next.At .closed := by
  obtain ⟨stopped, launched, entered, quiet⟩ := stage
  have starting := performed.quiet rfl fun task member => (quiet task member).1
  have stopping := performed.quiet rfl fun task member => (quiet task member).2
  have notStarting : turn.point.isStarting = false := by
    by_contra after
    rw [Bool.not_eq_false] at after
    obtain ⟨-, ⟨⟨policy, began⟩, -⟩ | ⟨policy, outcome, rfl, -⟩⟩ :=
      performed.segment.starting_cases after
    · obtain ⟨other, member, starts, -⟩ := launched
      cases (performed.fresh oneStart began rfl other member).symm.trans starts
    · cases starting
  have unstarted : turn.coordinator.started = false ∧ turn.point.isStopping = false := by
    rcases performed.segment.flow with ⟨same, -, moves, -⟩ | ⟨⟨policy, rfl⟩, -⟩ |
      ⟨-, -, started, -⟩ | ⟨-, done, started⟩ | ⟨before, -⟩
    · refine ⟨same.trans stopped, ?_⟩
      exact Bool.eq_false_iff.mpr (mt moves (by simp [stopping]))
    · cases starting
    · cases stopped.symm.trans started
    · refine ⟨?_, Point.isStopping_of_isDone done⟩
      exact Bool.eq_false_iff.mpr (mt started (by simp [stopped]))
    · cases stopping.symm.trans before
  exact ⟨by rw [performed.left, unstarted.1], launched.performed performed,
    entered.performed performed,
    performed.points (p := fun point => point.isStarting = false ∧ point.isStopping = false)
      quiet ⟨notStarting, unstarted.2⟩⟩

end Performed

/-! ## Runs -/

/-- The calls that have been begun are those of the steps. -/
theorem calls_of_run {callback : Option R} {steps : List Step} {now : Interleaving R}
    (ran : Machine.run perform (create callback) steps = some now) :
    now.tasks.map (·.call) = steps.filterMap Step.call? := by
  induction steps using List.reverseRecOn generalizing now with
  | nil =>
    cases ran
    rfl
  | append_singleton steps step ih =>
    obtain ⟨before, ran, performed⟩ := Machine.run_concat.mp ran
    rw [List.filterMap_append, ← ih ran]
    cases step with
    | begin call answers =>
      obtain ⟨task, turn, -, called, -, -, -, -, rfl⟩ := perform_begin performed
      simp [Step.call?, called]
    | resume index outcome answers =>
      obtain ⟨task, turn, known, -, -, rfl⟩ := perform_resume performed
      obtain ⟨inside, rfl⟩ := List.getElem?_eq_some_iff.mp known
      have same := @List.set_getElem_self _ (before.tasks.map (·.call)) index
        (by simpa using inside)
      rw [List.getElem_map] at same
      show _ = before.tasks.map (·.call) ++ []
      rw [List.append_nil, List.map_set]
      exact same

/-- A stop has its wait ended by what is no `Exception` and no cancellation. -/
def InterruptsStop (self : Interleaving R) : Step → Prop
  | .begin _ _ => False
  | .resume index outcome answers => ∃ task, self.tasks[index]? = some task ∧ task.call = .stop ∧
      (outcome = .interrupted ∨ answers.cancelReceives = .finished .interrupted)

theorem countP_of_run {callback : Option R} {steps before : List Step} {now : Interleaving R}
    {p : Call → Bool} (le : before <+: steps)
    (ran : Machine.run perform (create callback) before = some now)
    (one : (steps.filterMap Step.call?).countP p ≤ 1) :
    now.tasks.countP (fun task => p task.call) ≤ 1 := by
  have same : (now.tasks.map (·.call)).countP p = now.tasks.countP (fun task => p task.call) :=
    List.countP_map
  rw [← same, calls_of_run ran]
  exact ((le.filterMap _).sublist.countP_le).trans one

/-- In every state of a run with one start and one stop, the calls are in one of the stages. -/
theorem staged_of_visits {callback : Option R} {steps : List Step}
    (oneStart : (steps.filterMap Step.call?).countP Call.isStart ≤ 1)
    (oneStop : (steps.filterMap Step.call?).countP (· = .stop) ≤ 1) {now : Interleaving R}
    (visited : Machine.Visits perform (create callback) steps now) :
    now.Counted ∧ now.Placed ∧ ∃ stage, now.At stage := by
  have initial : (create callback).At .unlaunched := by
    refine ⟨rfl, ?_, ?_⟩
    · rintro ⟨task, member, -⟩
      cases member
    · intro task member
      cases member
  refine Machine.visits_invariant
    (P := fun now => now.Counted ∧ now.Placed ∧ ∃ stage, now.At stage)
    ⟨counted_create callback, placed_create callback, .unlaunched, initial⟩ ?_
    (fun _ _ taken => taken) now visited
  · rintro now step next ⟨counted, placed, stage, at'⟩ ⟨before, le, ran⟩ performed
    have ran' := Machine.run_concat.mpr ⟨now, ran, performed⟩
    have start := countP_of_run le ran' oneStart
    have stop := countP_of_run le ran' oneStop
    obtain ⟨answers, entry, task, turn, did⟩ := perform_cases performed
    refine ⟨counted.perform performed, placed.performed did, ?_⟩
    cases stage with
    | unlaunched => exact (unlaunched_performed at' placed start did).elim (⟨_, ·⟩) (⟨_, ·⟩)
    | admitting => exact (admitting_performed at' did).elim (⟨_, ·⟩) (⟨_, ·⟩)
    | closing => exact (closing_performed at' placed stop did).elim (⟨_, ·⟩) (⟨_, ·⟩)
    | closed => exact ⟨_, closed_performed at' start did⟩

/-- A receive is admitted when a start has succeeded, and no stop has entered. -/
theorem At.admits {stage : Stage} (at' : self.At stage) {answers : Answers} {turn : Turn R}
    (segment : Segment self.coordinator answers (.begin .receiveExecutionOnce) turn)
    (admitted : turn.point.isReceiving = true) : self.Launched ∧ ¬self.StopEntered := by
  rcases segment.receives_cases with ⟨-, other, -⟩ | ⟨-, -, started, admits, -⟩ | ⟨no, -⟩
  · cases other.symm.trans admitted
  · cases stage with
    | unlaunched => cases at'.1.symm.trans started
    | admitting => exact ⟨at'.2.1, at'.2.2.1⟩
    | closing => cases at'.1.symm.trans admits
    | closed => cases at'.1.symm.trans started
  · cases no

/-- A stop that finds nothing to stop finds no receive in flight. -/
theorem At.idle {stage : Stage} (at' : self.At stage) {answers : Answers} {turn : Turn R}
    (segment : Segment self.coordinator answers (.begin .stop) turn)
    (ends : stopsController turn.events = true ∨ turn.point = .done .returned)
    (first : ∀ other ∈ self.tasks, other.call ≠ .stop) : self.inFlight = 0 := by
  have stopped := segment.idle ends
  cases stage with
  | unlaunched =>
    refine List.countP_eq_zero.mpr fun task member => ?_
    rw [(at'.2.2 task member).1]
    exact Bool.false_ne_true
  | admitting => cases stopped.symm.trans at'.1
  | closing =>
    obtain ⟨other, member, called, -⟩ := at'.2.2.1
    exact absurd called (first other member)
  | closed =>
    obtain ⟨other, member, called, -⟩ := at'.2.2.1
    exact absurd called (first other member)

/-- With one start and one stop, and any number of receives beside them: the counter and the
event agree with the receives in flight; a receive is admitted when the start has succeeded and
no stop has entered; and a stop whose waits are not interrupted stops the controller, and ends
normally, when no receive is in flight. -/
theorem receives_drained (callback : Option R) (steps : List Step)
    (oneStart : (steps.filterMap Step.call?).countP Call.isStart ≤ 1)
    (oneStop : (steps.filterMap Step.call?).countP (· = .stop) ≤ 1)
    (uninterrupted : ∀ now step, Machine.Takes perform (create callback) steps now step →
      ¬now.InterruptsStop step) :
    (∀ now, Machine.Visits perform (create callback) steps now →
      now.coordinator.activeReceives = now.inFlight ∧
        (now.coordinator.receivesDrained = true ↔ now.inFlight = 0)) ∧
    ∀ now step task turn, Machine.Takes perform (create callback) steps now step →
      now.turnOf step = some (task, turn) →
        ((∃ answers, step = .begin .receiveExecutionOnce answers) →
          turn.point.isReceiving = true → now.Launched ∧ ¬now.StopEntered) ∧
        (task.call = .stop →
          stopsController turn.events = true ∨ turn.point = .done .returned →
          now.inFlight = 0) := by
  refine ⟨fun now visited => ?_, ?_⟩
  · obtain ⟨counted, -⟩ := staged_of_visits oneStart oneStop visited
    exact ⟨counted.active, counted.drained⟩
  · rintro now step task turn ⟨before, le, ran⟩ taken
    obtain ⟨counted, placed, stage, at'⟩ := staged_of_visits oneStart oneStop
      ⟨before, (List.prefix_append _ _).trans le, ran⟩
    obtain ⟨next, performed⟩ : ∃ next, now.perform step = some next := by
      simp [perform, taken]
    have stops := countP_of_run le (Machine.run_concat.mpr ⟨now, ran, performed⟩) oneStop
    obtain ⟨answers, entry, task', turn', did⟩ := perform_cases performed
    obtain ⟨rfl, rfl⟩ := Prod.mk.inj (Option.some.inj (taken.symm.trans did.taken))
    refine ⟨?_, fun called ends => ?_⟩
    · rintro ⟨answers', rfl⟩ admitted
      obtain ⟨call, begun, began, rfl, -⟩ | ⟨_, _, began, -⟩ := did.origin
      · cases began
        exact at'.admits did.segment admitted
      · cases began
    · obtain ⟨call, begun, rfl, rfl, same, -⟩ | ⟨index, outcome, rfl, known, rfl, -⟩ := did.origin
      · obtain rfl : call = .stop := same.symm.trans called
        refine at'.idle did.segment ends fun other member => ?_
        simpa using did.fresh (p := (· = .stop)) stops rfl rfl other member
      · have owns := placed.owns task (List.mem_of_getElem? known)
        have stopping : task.point.isStopping = true :=
          Call.isStopping_of_owns (called ▸ owns) did.segment.ongoing
        rcases did.segment.drained stopping ends with drained | interrupted
        · exact counted.drained.mp drained
        · exact absurd ⟨task, known, called, interrupted⟩
            (uninterrupted now _ ⟨before, le, ran⟩)

/-- A stop closes a started coordinator while a receive is in flight, and waits for it. -/
theorem receives_drained_one :
    let steps : List Step :=
      [.begin (.start none) {}, .resume 0 .returned {}, .begin .receiveExecutionOnce {},
        .begin .stop {}, .resume 2 .returned {}, .begin .receiveExecutionOnce {},
        .resume 1 .raised {}, .resume 2 .returned {}]
    ∀ now, Machine.Visits perform (create (some 7)) steps now →
      now.coordinator.activeReceives = now.inFlight ∧
        (now.coordinator.receivesDrained = true ↔ now.inFlight = 0) := by
  intro steps
  refine (receives_drained (some 7) steps (by decide) (by decide) ?_).1
  intro now step taken
  have member := Machine.mem_of_takes taken
  simp only [steps, List.mem_cons, List.not_mem_nil, or_false] at member
  rcases member with rfl | rfl | rfl | rfl | rfl | rfl | rfl | rfl
  · exact id
  · rintro ⟨task, -, -, wait | hook⟩ <;> contradiction
  · exact id
  · exact id
  · rintro ⟨task, -, -, wait | hook⟩ <;> contradiction
  · exact id
  · rintro ⟨task, -, -, wait | hook⟩ <;> contradiction
  · rintro ⟨task, -, -, wait | hook⟩ <;> contradiction

/-- A stop that finds nothing to stop ends before a start, which then admits a receive; and a
stop whose wait is interrupted stops the controller under a receive in flight. -/
theorem receive_after_stop_and_stop_before_drain :
    (∃ now, Machine.run perform (create (some 7))
        [.begin .stop {}, .begin (.start none) {}, .resume 1 .returned {},
          .begin .receiveExecutionOnce {}] = some now ∧
      now.tasks.map (fun task => (task.call, task.point)) =
        [(.stop, .done .returned), (.start none, .done .returned),
          (.receiveExecutionOnce, .receiving none)]) ∧
    ∃ now, Machine.run perform (create (some 7))
        [.begin (.start none) {}, .resume 0 .returned {}, .begin .receiveExecutionOnce {},
          .begin .stop {}, .resume 2 .interrupted {}] = some now ∧
      now.controllerRunning = false ∧ now.callbackRuns = 1 ∧ now.inFlight = 1 :=
  ⟨⟨_, rfl, rfl⟩, _, rfl, rfl, rfl, rfl⟩

end Interleaving
end OptionProject.Lifecycle
