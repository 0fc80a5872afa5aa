import OptionProject.Virtual.Clock

/-!
# The virtual market simulator

`environments/virtual/market/simulator_runtime.py` over `replay_engine.py`, `state_manager.py` and
the clock. Ticks come from a loaded replay or from the scenario, by single steps or from streams
that are generated while they are read. The scenario engine, the prices and the random numbers
behind them are floats and stay a parameter, and so does the text of a time. The strike of a tick is
computed last: where that raises, as of an infinite price, the tick is lost after it was numbered.
(The files import one another from a package `reference_vms_market`, which is a module in the
repository; they are taken together as they are meant.)

## Main definitions

* `VirtualMarketSimulatorRuntime.step`, `next` — one tick, by a step or from a stream.
* `Session.perform` — the calls of a session, with everything that is given out.
* `Book.enter` — a book kept of what is given out.

## Main results

* `booked` — the book of every session can be kept, and shows the state of the simulator.
-/
namespace OptionProject.Virtual
open Library Contracts

structure ReferenceCanonicalMarketTick (F : Type) where
  timestamp : String
  underlyingPrice : F
  strikePrice : F
  optionType : String := "CALL"
  bidPrice : F
  askPrice : F
  lastPrice : F
  volume : ℤ
  seqId : ℤ
  expiry : String := ""
  symbol : String := ""
  deriving DecidableEq

/-! ## The replay -/

structure HistoricalReplayEngine (F : Type) where
  ticks : List (ReferenceCanonicalMarketTick F) := []
  cursor : ℕ := 0

namespace HistoricalReplayEngine

variable {F : Type} (self : HistoricalReplayEngine F)

def active : Bool := !self.ticks.isEmpty

def exhausted : Bool := decide (self.ticks.length ≤ self.cursor)

def load (_ : HistoricalReplayEngine F) (ticks : List (ReferenceCanonicalMarketTick F)) :
    HistoricalReplayEngine F := { ticks, cursor := 0 }

def clear (_ : HistoricalReplayEngine F) : HistoricalReplayEngine F := { ticks := [], cursor := 0 }

def reset : HistoricalReplayEngine F := { self with cursor := 0 }

def nextTick : Option (ReferenceCanonicalMarketTick F) × HistoricalReplayEngine F :=
  match self.ticks[self.cursor]? with
  | none => (none, self)
  | some tick => (some tick, { self with cursor := self.cursor + 1 })

end HistoricalReplayEngine

/-! ## The simulator -/

/-- The numbers of a tick from the scenario. -/
structure Quote (F : Type) where
  price : F
  bid : F
  ask : F

/-- The scenario engine with the last price, as `M`: what it quotes for a tick index, what naming
a scenario does, the strike that is nearest to a price, and what `strftime` makes of a time. -/
structure Pricing (M F : Type) where
  quote : M → ℤ → ℤ → Except PythonException (Quote F) × M
  strike : F → Except PythonException F
  setScenario : M → String → Except PythonException Unit × M
  timeText : ℤ → String

/-- `_SPEED_TO_REPLAY` -/
def speedToReplay : List (String × ℤ) := [("SLOW", 1), ("NORMAL", 300), ("FAST", 1000)]

structure VirtualMarketSimulatorRuntime (M F : Type) where
  market : M
  clock : VMSClockController
  replay : HistoricalReplayEngine F := {}
  sequenceId : ℤ := 0
  volume : ℤ := 10
  running : Bool := true
  tickSpeed : String := "NORMAL"
  replaySpeed : ℤ := 1
  scenarioStepIndex : ℤ := 0

/-- A generator that `generate_tick_stream` returned: what its range holds, and where it stands. -/
structure TickStream where
  total : ℤ
  ticksPerDay : ℤ
  tickIndex : ℤ := 0
  finished : Bool := false

namespace VirtualMarketSimulatorRuntime

variable {M F : Type} (pricing : Pricing M F) (self : VirtualMarketSimulatorRuntime M F)

def setScenario (scenario : String) :
    Except PythonException Unit × VirtualMarketSimulatorRuntime M F :=
  match pricing.setScenario self.market scenario with
  | (answer, market) => (answer, { self with market })

def loadReplay (ticks : List (ReferenceCanonicalMarketTick F)) :
    VirtualMarketSimulatorRuntime M F := { self with replay := (self.replay.load ticks).reset }

def clearReplay : VirtualMarketSimulatorRuntime M F := { self with replay := self.replay.clear }

def setRunning (running : Bool) : VirtualMarketSimulatorRuntime M F := { self with running }

def setTickSpeed (speed : String) :
    Except PythonException Unit × VirtualMarketSimulatorRuntime M F :=
  match (speedToReplay.find? fun entry => entry.1 = speed) with
  | none => (.error ⟨"ValueError", "unsupported tick speed: " ++ speed⟩, self)
  | some (_, replaySpeed) => (.ok (), { self with tickSpeed := speed, replaySpeed })

/-- `_next_market_tick`: a quote that raises leaves the sequence and the clock alone, a strike that
raises does not. -/
def nextMarketTick (tickIndex ticksPerDay : ℤ) :
    Except PythonException (ReferenceCanonicalMarketTick F) × VirtualMarketSimulatorRuntime M F :=
  match pricing.quote self.market tickIndex ticksPerDay with
  | (.error e, market) => (.error e, { self with market })
  | (.ok quote, market) =>
    let seqId := self.sequenceId + 1
    let timestamp := pricing.timeText self.clock.currentTime
    let after := { self with market, sequenceId := seqId, clock := self.clock.advanceTick 500 }
    match pricing.strike quote.price with
    | .error e => (.error e, after)
    | .ok strikePrice =>
      (.ok { timestamp, underlyingPrice := quote.price, strikePrice, bidPrice := quote.bid,
             askPrice := quote.ask, lastPrice := quote.price, volume := self.volume, seqId },
        after)

/-- A step gives a tick of the replay, even when the simulator is not running; only without a
replay it asks the scenario. -/
def step : Except PythonException (ReferenceCanonicalMarketTick F) ×
    VirtualMarketSimulatorRuntime M F :=
  if self.replay.active then
    match self.replay.nextTick with
    | (none, replay) => (.error ⟨"StopIteration", "replay exhausted"⟩, { self with replay })
    | (some tick, replay) => (.ok tick, { self with replay })
  else
    match self.nextMarketTick pricing self.scenarioStepIndex 500 with
    | (.error e, after) => (.error e, after)
    | (.ok tick, after) =>
      (.ok tick, { after with scenarioStepIndex := self.scenarioStepIndex + 1 })

def generateTickStream (totalDays ticksPerDay : ℤ) : TickStream :=
  { total := totalDays * ticksPerDay, ticksPerDay }

/-- `next` on a stream; nothing means that it ends, and then it stays ended. -/
def next (stream : TickStream) :
    Except PythonException (Option (ReferenceCanonicalMarketTick F)) ×
      VirtualMarketSimulatorRuntime M F × TickStream :=
  let ended := { stream with finished := true }
  let onward := { stream with tickIndex := stream.tickIndex + 1 }
  if stream.finished ∨ stream.total ≤ stream.tickIndex ∨ !self.running then (.ok none, self, ended)
  else if self.replay.active then
    match self.replay.nextTick with
    | (none, replay) => (.ok none, { self with replay }, ended)
    | (some tick, replay) => (.ok (some tick), { self with replay }, onward)
  else
    match self.nextMarketTick pricing stream.tickIndex stream.ticksPerDay with
    | (.error e, after) => (.error e, after, ended)
    | (.ok tick, after) => (.ok (some tick), after, onward)

end VirtualMarketSimulatorRuntime

/-! ## Sessions -/

/-- What a session gives out, and what else it is told that bears on it. A tick has the stream it
was read from, if not a single step gave it, and one of the scenario the index it was asked by. A
lost tick was numbered and not given out. -/
inductive Entry (F : Type)
  | loaded (ticks : List (ReferenceCanonicalMarketTick F))
  | opened
  | advanced (milliseconds : ℕ)
  | replayed (stream : Option ℕ) (tick : ReferenceCanonicalMarketTick F)
  | quoted (stream : Option ℕ) (index : ℤ) (tick : ReferenceCanonicalMarketTick F)
  | lost
  deriving DecidableEq

/-- The simulator, the streams that were made, and what was given out. -/
structure Session (M F : Type) where
  runtime : VirtualMarketSimulatorRuntime M F
  streams : List TickStream := []
  entries : List (Entry F) := []

/-- The calls, and the ticks by which others advance the shared clock. -/
inductive SimulatorCall (F : Type)
  | setScenario (scenario : String)
  | loadReplay (ticks : List (ReferenceCanonicalMarketTick F))
  | clearReplay
  | setRunning (running : Bool)
  | setTickSpeed (speed : String)
  | advanceTick (milliseconds : ℕ)
  | step
  | generateTickStream (totalDays ticksPerDay : ℤ)
  | next (stream : ℕ)

namespace Session

variable {M F : Type} (pricing : Pricing M F)

/-- The entry of a tick, by where it comes from. -/
def entryOf (now : Session M F) (stream : Option ℕ) (index : ℤ)
    (tick : ReferenceCanonicalMarketTick F) : Entry F :=
  if now.runtime.replay.active then .replayed stream tick else .quoted stream index tick

/-- A call that gives out nothing has lost a tick if it has used a number. -/
def lostTicks (now : Session M F) (runtime : VirtualMarketSimulatorRuntime M F) : List (Entry F) :=
  if runtime.sequenceId = now.runtime.sequenceId then [] else [.lost]

def perform (now : Session M F) : SimulatorCall F → Session M F
  | .setScenario scenario => { now with runtime := (now.runtime.setScenario pricing scenario).2 }
  | .loadReplay ticks =>
    { now with runtime := now.runtime.loadReplay ticks, entries := now.entries ++ [.loaded ticks] }
  | .clearReplay =>
    { now with runtime := now.runtime.clearReplay, entries := now.entries ++ [.loaded []] }
  | .setRunning running => { now with runtime := now.runtime.setRunning running }
  | .setTickSpeed speed => { now with runtime := (now.runtime.setTickSpeed speed).2 }
  | .advanceTick milliseconds =>
    { now with
      runtime := { now.runtime with clock := now.runtime.clock.advanceTick milliseconds }
      entries := now.entries ++ [.advanced milliseconds] }
  | .step =>
    match now.runtime.step pricing with
    | (.error _, runtime) =>
      { now with runtime, entries := now.entries ++ now.lostTicks runtime }
    | (.ok tick, runtime) =>
      { now with
        runtime
        entries := now.entries ++ [now.entryOf none now.runtime.scenarioStepIndex tick] }
  | .generateTickStream totalDays ticksPerDay =>
    { now with
      streams := now.streams ++
        [VirtualMarketSimulatorRuntime.generateTickStream totalDays ticksPerDay]
      entries := now.entries ++ [.opened] }
  | .next i =>
    match now.streams[i]? with
    | none => now
    | some stream =>
      match now.runtime.next pricing stream with
      | (.ok (some tick), runtime, after) =>
        { runtime, streams := now.streams.set i after
          entries := now.entries ++ [now.entryOf (some i) stream.tickIndex tick] }
      | (_, runtime, after) =>
        { runtime, streams := now.streams.set i after
          entries := now.entries ++ now.lostTicks runtime }

def after (now : Session M F) (calls : List (SimulatorCall F)) : Session M F :=
  calls.foldl (perform pricing) now

end Session

/-! ## The book -/

/-- What is to be told from what is given out: the loaded ticks and how many of them were given,
the number of ticks of the scenario, the time, and how many ticks the steps and the streams gave.
A lost tick takes a number and its time, and nothing else. -/
structure Book (F : Type) where
  loaded : List (ReferenceCanonicalMarketTick F)
  given : ℕ
  sequence : ℤ
  time : ℤ
  steps : ℤ
  streams : List ℤ

namespace Book

variable {F : Type}

/-- One more tick by a step or from a stream. -/
def count (book : Book F) : Option ℕ → Book F
  | none => { book with steps := book.steps + 1 }
  | some i => { book with streams := book.streams.modify i (· + 1) }

/-- A step of the scenario goes on from the last one, and a stream from its last tick. -/
def indexOf (book : Book F) : Option ℕ → Option ℤ
  | none => some book.steps
  | some i => book.streams[i]?

variable (timeText : ℤ → String)

/-- An entry that is not as it has to be cannot be entered: a replay gives its ticks in their
order, each once, and as long as one is loaded nothing else is given; the ticks of the scenario are
numbered and dated one after another. -/
def enter [DecidableEq F] (book : Book F) : Entry F → Option (Book F)
  | .loaded ticks => some { book with loaded := ticks, given := 0 }
  | .opened => some { book with streams := book.streams ++ [0] }
  | .advanced milliseconds => some { book with time := book.time + 1000 * milliseconds }
  | .replayed stream tick =>
    if book.loaded[book.given]? = some tick then
      let next := { book with given := book.given + 1 }
      some (if stream.isSome then next.count stream else next)
    else none
  | .quoted stream index tick =>
    if book.loaded = [] ∧ tick.seqId = book.sequence + 1 ∧ tick.timestamp = timeText book.time ∧
        book.indexOf stream = some index then
      some
        ({ book with sequence := book.sequence + 1, time := book.time + 500000 }.count stream)
    else none
  | .lost =>
    if book.loaded = [] then
      some { book with sequence := book.sequence + 1, time := book.time + 500000 }
    else none

end Book

namespace Session

variable {M F : Type} {pricing : Pricing M F} {now : Session M F}

/-- The book as the session shows it. -/
def book (now : Session M F) : Book F where
  loaded := now.runtime.replay.ticks
  given := now.runtime.replay.cursor
  sequence := now.runtime.sequenceId
  time := now.runtime.clock.currentTime
  steps := now.runtime.scenarioStepIndex
  streams := now.streams.map (·.tickIndex)

section Calls

variable {runtime after : VirtualMarketSimulatorRuntime M F} {index ticksPerDay : ℤ}
  {tick : ReferenceCanonicalMarketTick F}

/-- The simulator after it has numbered and dated a tick. -/
def numbered (runtime : VirtualMarketSimulatorRuntime M F) (market : M) :
    VirtualMarketSimulatorRuntime M F :=
  { runtime with
    market, sequenceId := runtime.sequenceId + 1, clock := runtime.clock.advanceTick 500 }

theorem lostTicks_same (market : M) :
    now.lostTicks { now.runtime with market } = [] := if_pos rfl

theorem lostTicks_numbered (market : M) :
    now.lostTicks (numbered now.runtime market) = [.lost] := by
  simp [lostTicks, numbered]

/-- A quote that raises changes the market only; one that returns is numbered and dated, also when
it has no strike. -/
theorem nextMarketTick_cases (runtime : VirtualMarketSimulatorRuntime M F)
    (index ticksPerDay : ℤ) :
    (∃ e market, runtime.nextMarketTick pricing index ticksPerDay =
      (.error e, { runtime with market })) ∨
    (∃ e market, runtime.nextMarketTick pricing index ticksPerDay =
      (.error e, numbered runtime market)) ∨
    ∃ tick market, runtime.nextMarketTick pricing index ticksPerDay =
        (.ok tick, numbered runtime market) ∧
      tick.seqId = runtime.sequenceId + 1 ∧
      tick.timestamp = pricing.timeText runtime.clock.currentTime := by
  unfold VirtualMarketSimulatorRuntime.nextMarketTick
  split
  · exact .inl ⟨_, _, rfl⟩
  · dsimp only
    split
    · exact .inr (.inl ⟨_, _, rfl⟩)
    · exact .inr (.inr ⟨_, _, rfl, rfl, rfl⟩)

theorem ticks_eq_nil_of_not_active {replay : HistoricalReplayEngine F}
    (inactive : replay.active = false) : replay.ticks = [] := by
  simpa [HistoricalReplayEngine.active] using inactive

theorem nextTick_cases (replay : HistoricalReplayEngine F) :
    replay.nextTick = (none, replay) ∨ ∃ tick, replay.ticks[replay.cursor]? = some tick ∧
      replay.nextTick = (some tick, { replay with cursor := replay.cursor + 1 }) := by
  unfold HistoricalReplayEngine.nextTick
  split
  · exact .inl rfl
  next tick there => exact .inr ⟨tick, there, rfl⟩

/-- Reading from a stream that stands somewhere: it ends, raises or loses a tick, or gives one. -/
theorem next_cases (runtime : VirtualMarketSimulatorRuntime M F) (stream : TickStream) :
    (∃ answer market after, runtime.next pricing stream = (answer, { runtime with market }, after) ∧
      (∀ tick, answer ≠ .ok (some tick)) ∧ after.tickIndex = stream.tickIndex) ∨
    (∃ e market after, runtime.next pricing stream = (.error e, numbered runtime market, after) ∧
      runtime.replay.active = false ∧ after.tickIndex = stream.tickIndex) ∨
    (∃ tick after, runtime.next pricing stream =
        (.ok (some tick), { runtime with
          replay := { runtime.replay with cursor := runtime.replay.cursor + 1 } }, after) ∧
      runtime.replay.active = true ∧ runtime.replay.ticks[runtime.replay.cursor]? = some tick ∧
      after.tickIndex = stream.tickIndex + 1) ∨
    ∃ tick market after, runtime.next pricing stream =
        (.ok (some tick), numbered runtime market, after) ∧
      runtime.replay.active = false ∧ tick.seqId = runtime.sequenceId + 1 ∧
      tick.timestamp = pricing.timeText runtime.clock.currentTime ∧
      after.tickIndex = stream.tickIndex + 1 := by
  unfold VirtualMarketSimulatorRuntime.next
  dsimp only
  split_ifs with ended active
  · exact .inl ⟨_, _, _, rfl, by simp, rfl⟩
  · rcases nextTick_cases runtime.replay with none_left | ⟨tick, there, given⟩
    · rw [none_left]
      exact .inl ⟨_, _, _, rfl, by simp, rfl⟩
    · rw [given]
      exact .inr (.inr (.inl ⟨tick, _, rfl, active, there, rfl⟩))
  · have inactive : runtime.replay.active = false := by simpa using active
    rcases @nextMarketTick_cases _ _ pricing runtime stream.tickIndex stream.ticksPerDay with
      ⟨e, market, raised⟩ | ⟨e, market, raised⟩ | ⟨tick, market, given, named, dated⟩
    · rw [raised]
      exact .inl ⟨_, _, _, rfl, by simp, rfl⟩
    · rw [raised]
      exact .inr (.inl ⟨e, market, _, rfl, inactive, rfl⟩)
    · rw [given]
      exact .inr (.inr (.inr ⟨tick, market, _, rfl, inactive, named, dated, rfl⟩))

end Calls

theorem map_set_of_eq {α β : Type} {f : α → β} {items : List α} {i : ℕ} {a b : α}
    (there : items[i]? = some a) (same : f b = f a) : (items.map f).set i (f b) = items.map f := by
  refine List.ext_getElem? fun j => ?_
  grind

theorem modify_map_of_eq {α β : Type} {f : α → β} {g : β → β} {items : List α} {i : ℕ} {a b : α}
    (there : items[i]? = some a) (moved : f b = g (f a)) :
    (items.map f).modify i g = (items.map f).set i (f b) := by
  refine List.ext_getElem? fun j => ?_
  grind

variable [DecidableEq F]

/-- The entries of a call can be entered, and lead to what the session shows after it. -/
def Books (pricing : Pricing M F) (now next : Session M F) : Prop :=
  ∃ new, next.entries = now.entries ++ new ∧
    Machine.run (Book.enter pricing.timeText) now.book new = some next.book

theorem Books.silent {next : Session M F} (entries : next.entries = now.entries)
    (same : next.book = now.book) : Books pricing now next :=
  ⟨[], by simp [entries], by simp [same]⟩

theorem Books.one {next : Session M F} {entry : Entry F}
    (entries : next.entries = now.entries ++ [entry])
    (entered : now.book.enter pricing.timeText entry = some next.book) : Books pricing now next :=
  ⟨[entry], entries, by simp [Machine.run, entered]⟩

/-- A tick that is lost while no replay is loaded can be entered. -/
theorem Books.lost {next : Session M F} {market : M}
    (inactive : now.runtime.replay.active = false)
    (runtime : next.runtime = numbered now.runtime market)
    (streams : next.streams.map (·.tickIndex) = now.streams.map (·.tickIndex))
    (entries : next.entries = now.entries ++ now.lostTicks next.runtime) :
    Books pricing now next := by
  rw [runtime, lostTicks_numbered] at entries
  refine .one entries ?_
  simp [Book.enter, book, runtime, streams, numbered, ticks_eq_nil_of_not_active inactive,
    VMSClockController.advanceTick]

theorem books_step (now : Session M F) : Books pricing now (now.perform pricing .step) := by
  simp only [perform, VirtualMarketSimulatorRuntime.step]
  cases active : now.runtime.replay.active with
  | true =>
    rw [if_pos rfl]
    rcases nextTick_cases now.runtime.replay with none_left | ⟨tick, there, given⟩
    · rw [none_left]
      exact .silent (by simp [lostTicks]) rfl
    · rw [given]
      refine .one rfl ?_
      simp [Book.enter, entryOf, active, book, there]
  | false =>
    rw [if_neg (by simp)]
    have empty := ticks_eq_nil_of_not_active active
    rcases @nextMarketTick_cases _ _ pricing now.runtime now.runtime.scenarioStepIndex 500 with
      ⟨e, market, raised⟩ | ⟨e, market, raised⟩ | ⟨tick, market, given, named, dated⟩
    · rw [raised]
      exact .silent (by simp [lostTicks_same]) rfl
    · rw [raised]
      exact .lost active rfl rfl rfl
    · rw [given]
      refine .one rfl ?_
      simp [Book.enter, entryOf, active, book, empty, named, dated, numbered, Book.indexOf,
        Book.count, VMSClockController.advanceTick]

theorem books_next (now : Session M F) (i : ℕ) :
    Books pricing now (now.perform pricing (.next i)) := by
  simp only [perform]
  cases there : now.streams[i]? with
  | none => exact .silent rfl rfl
  | some stream =>
    dsimp only
    rcases @next_cases M F pricing now.runtime stream with
      ⟨answer, market, after, read, nothing, stays⟩ | ⟨e, market, after, read, active, stays⟩ |
        ⟨tick, after, read, active, given, onward⟩ |
        ⟨tick, market, after, read, active, named, dated, onward⟩
    · rw [read]
      have same := @map_set_of_eq _ _ (·.tickIndex) _ _ _ _ there stays
      cases answer with
      | error e => exact .silent (by simp [lostTicks_same]) (by simp [book, same])
      | ok given =>
        cases given with
        | none => exact .silent (by simp [lostTicks_same]) (by simp [book, same])
        | some tick => exact absurd rfl (nothing tick)
    · rw [read]
      have same := @map_set_of_eq _ _ (·.tickIndex) _ _ _ _ there stays
      exact .lost active rfl (by simp [same]) rfl
    · rw [read]
      have moved := @modify_map_of_eq _ _ (·.tickIndex) (· + 1) _ _ _ _ there onward
      refine .one rfl ?_
      simp [Book.enter, entryOf, active, book, given, Book.count, moved]
    · rw [read]
      have moved := @modify_map_of_eq _ _ (·.tickIndex) (· + 1) _ _ _ _ there onward
      have empty := ticks_eq_nil_of_not_active active
      refine .one rfl ?_
      simp [Book.enter, entryOf, active, book, empty, named, dated, numbered, Book.indexOf,
        Book.count, VMSClockController.advanceTick, there, moved]

/-- Every call keeps the book. -/
theorem books_perform (now : Session M F) (call : SimulatorCall F) :
    Books pricing now (now.perform pricing call) := by
  cases call with
  | setScenario scenario => exact .silent rfl rfl
  | loadReplay ticks => exact .one rfl rfl
  | clearReplay => exact .one rfl rfl
  | setRunning running => exact .silent rfl rfl
  | setTickSpeed speed =>
    refine .silent rfl ?_
    simp only [perform, VirtualMarketSimulatorRuntime.setTickSpeed]
    split <;> rfl
  | advanceTick milliseconds => exact .one rfl rfl
  | step => exact books_step now
  | generateTickStream totalDays ticksPerDay =>
    refine .one rfl ?_
    simp [Book.enter, book, perform, VirtualMarketSimulatorRuntime.generateTickStream]
  | next i => exact books_next now i

theorem books_after (now : Session M F) (calls : List (SimulatorCall F)) :
    Books pricing now (now.after pricing calls) := by
  induction calls generalizing now with
  | nil => exact .silent rfl rfl
  | cons call later ih =>
    obtain ⟨new, entries, entered⟩ : Books pricing now _ := books_perform now call
    obtain ⟨rest, entries', entered'⟩ := ih (now.perform pricing call)
    refine ⟨new ++ rest, ?_, ?_⟩
    · rw [← List.append_assoc, ← entries]
      exact entries'
    · rw [Machine.run_append, entered]
      exact entered'

/-- Whatever is called, in any order, and whatever the scenario quotes or raises: what a simulator
gives out can be entered in a book, one entry after another, and the book shows where it stands. -/
theorem booked (pricing : Pricing M F) (runtime : VirtualMarketSimulatorRuntime M F)
    (calls : List (SimulatorCall F)) :
    let start : Session M F := { runtime }
    let now := start.after pricing calls
    Machine.run (Book.enter pricing.timeText) start.book now.entries = some now.book := by
  intro start now
  obtain ⟨new, entries, entered⟩ : Books pricing start now := books_after start calls
  have all : now.entries = new := entries
  rw [all]
  exact entered

/-- A tick without a strike is lost with its number and its 500 milliseconds. -/
example :
    let pricing : Pricing Unit ℚ := ⟨fun _ _ _ => (.ok ⟨350, 350, 350⟩, ()),
      fun _ => .error ⟨"OverflowError", "cannot convert float infinity to integer"⟩,
      fun _ _ => (.ok (), ()), fun time => toString time⟩
    let start : Session Unit ℚ := { runtime := { market := (), clock := ⟨0, []⟩ } }
    let now := start.after pricing [.step]
    now.entries = [.lost] ∧ now.book.sequence = 1 ∧ now.book.time = 500000 ∧
      now.book.steps = 0 := by decide +kernel

/-- A replay of one tick between two steps of the scenario. -/
example :
    let pricing : Pricing Unit ℚ := ⟨fun _ _ _ => (.ok ⟨350, 350, 350⟩, ()), .ok,
      fun _ _ => (.ok (), ()), fun time => toString time⟩
    let tick : ReferenceCanonicalMarketTick ℚ := ⟨"T", 1, 1, "PUT", 1, 1, 1, 1, 77, "", ""⟩
    let start : Session Unit ℚ := { runtime := { market := (), clock := ⟨0, []⟩ } }
    let now := start.after pricing
      [.step, .loadReplay [tick], .setRunning false, .step, .step, .clearReplay, .step]
    now.entries.length = 5 ∧ now.book.sequence = 2 ∧ now.book.time = 1000000 := by decide +kernel

end Session
end OptionProject.Virtual
