import OptionProject.Live.MarketFrames

/-!
# The live market state

`environments/live/market/kis_futures_market_data.py` behind the consumer of
`infrastructure/kis/futures_market_consumer.py`: trades are published as the market state, and
every subscriber is told the new state. What the resolvers answer for a frame is an input, and so
is the subscriber that raises, if one does; a subscriber does not call the provider back.

## Main definitions

* `KISFuturesMarketDataProvider.publish`, `receiveOnce` — one observation, and one frame.
* `Shows` — a market state after the ticks that were published.
* `heard` — the ticks behind each state that a subscriber is to be told.

## Main results

* `shows_after` — after every run of frames and subscriptions the provider shows the last tick of
  every instrument, and every subscriber was told what the provider showed then.
-/
namespace OptionProject.Live
open Library Contracts
open Options (Strike)

structure CanonicalMarketTick where
  instrumentId : String
  observedAt : DateTime
  price : Strike
  volume : Option Strike
  sourceSequence : Option ℤ := none
  deriving DecidableEq

structure MarketState where
  asOf : DateTime
  ticks : Dict String CanonicalMarketTick
  quality : Dict String DataQuality

def projectionError (text : String) : PythonException := ⟨"KISFuturesMarketProjectionError", text⟩

/-- What the resolvers answer for an observation (the empty text and a value that is no date are
`none`), and the subscriber that raises. -/
structure PublishAnswers where
  instrumentId : Except PythonException (Option String)
  observedAt : Except PythonException (Option DateTime)
  refusedBy : Option (ℕ × PythonException) := none

/-- Each subscriber is the list of the states that it was told. -/
structure KISFuturesMarketDataProvider where
  hasInstrumentIdResolver : Bool
  hasObservedAtResolver : Bool
  ticks : Dict String CanonicalMarketTick := .empty
  quality : Dict String DataQuality := .empty
  subscribers : List (List MarketState) := []
  asOf : Option DateTime := none

namespace KISFuturesMarketDataProvider

/-- The tick of an observation. -/
def project (self : KISFuturesMarketDataProvider) (observation : KisIndexFuturesMarketObservation)
    (answers : PublishAnswers) : Except PythonException CanonicalMarketTick := do
  if !self.hasInstrumentIdResolver then
    .error (projectionError "FUTURES_INSTRUMENT_ID_RESOLVER_REQUIRED")
  else if !self.hasObservedAtResolver then
    .error (projectionError "FUTURES_OBSERVED_AT_RESOLVER_REQUIRED")
  else
    match ← answers.instrumentId with
    | none => .error (projectionError "FUTURES_INSTRUMENT_ID_REQUIRED")
    | some instrumentId =>
      match ← answers.observedAt with
      | none => .error (projectionError "FUTURES_OBSERVED_AT_REQUIRED")
      | some observedAt =>
        match observation.price with
        | none => .error (projectionError "FUTURES_LAST_PRICE_REQUIRED")
        | some price => .ok { instrumentId, observedAt, price, volume := observation.volume }

def qualityOf (tick : CanonicalMarketTick) : DataQuality :=
  { isFresh := true, isComplete := tick.volume.isSome, sourceAvailable := true, reason := none }

def snapshot (self : KISFuturesMarketDataProvider) : Except PythonException MarketState :=
  match self.asOf with
  | none => .error (projectionError "FUTURES_MARKET_STATE_UNAVAILABLE")
  | some asOf => .ok { asOf, ticks := self.ticks, quality := self.quality }

/-- The tick is stored under its instrument. -/
def store (self : KISFuturesMarketDataProvider) (tick : CanonicalMarketTick) :
    KISFuturesMarketDataProvider :=
  { self with
    ticks := self.ticks.set tick.instrumentId tick
    quality := self.quality.set tick.instrumentId (qualityOf tick)
    asOf := some tick.observedAt }

/-- The subscriber is called: none in front of it raises. -/
def reaches (answers : PublishAnswers) (index : ℕ) : Bool :=
  match answers.refusedBy with
  | none => true
  | some (refusing, _) => decide (index ≤ refusing)

/-- The state is told to one subscriber after another. -/
def tell (self : KISFuturesMarketDataProvider) (state : MarketState) (answers : PublishAnswers) :
    KISFuturesMarketDataProvider :=
  { self with
    subscribers := self.subscribers.mapIdx fun index told =>
      if reaches answers index then told ++ [state] else told }

def publish (self : KISFuturesMarketDataProvider) (observation : KisIndexFuturesMarketObservation)
    (answers : PublishAnswers) :
    Except PythonException CanonicalMarketTick × KISFuturesMarketDataProvider :=
  match self.project observation answers with
  | .error e => (.error e, self)
  | .ok tick =>
    let stored := self.store tick
    match stored.snapshot with
    | .error e => (.error e, stored)
    | .ok state =>
      let told := stored.tell state answers
      match answers.refusedBy with
      | none => (.ok tick, told)
      | some (refusing, e) =>
        if refusing < self.subscribers.length then (.error e, told) else (.ok tick, told)

def subscribe (self : KISFuturesMarketDataProvider) : KISFuturesMarketDataProvider :=
  { self with subscribers := self.subscribers ++ [[]] }

/-- `KISIndexFuturesMarketConsumer.receive_once` with `publish` as its callback. -/
def receiveOnce (self : KISFuturesMarketDataProvider) (frame : String) (answers : PublishAnswers) :
    Except PythonException KisIndexFuturesMarketObservation × KISFuturesMarketDataProvider :=
  match KISIndexFuturesMarketWebSocketAdapter.adapt frame with
  | .error e => (.error e, self)
  | .ok observation =>
    match self.publish observation answers with
    | (.error e, after) => (.error e, after)
    | (.ok _, after) => (.ok observation, after)

/-! ## Runs -/

inductive MarketEvent
  | receive (frame : String) (answers : PublishAnswers)
  | subscribe

def perform (self : KISFuturesMarketDataProvider) : MarketEvent → KISFuturesMarketDataProvider
  | .receive frame answers => (self.receiveOnce frame answers).2
  | .subscribe => self.subscribe

def after (self : KISFuturesMarketDataProvider) (events : List MarketEvent) :
    KISFuturesMarketDataProvider := events.foldl perform self

/-- The tick that an event publishes, if it does. -/
def tick? (self : KISFuturesMarketDataProvider) : MarketEvent → Option CanonicalMarketTick
  | .receive frame answers =>
    match KISIndexFuturesMarketWebSocketAdapter.adapt frame with
    | .error _ => none
    | .ok observation => (self.project observation answers).toOption
  | .subscribe => none

/-- The last of the ticks of an instrument. -/
def lastOf (instrumentId : String) (published : List CanonicalMarketTick) :
    Option CanonicalMarketTick := (published.filter (·.instrumentId = instrumentId)).getLast?

/-- The market after the ticks: the last of each instrument, as of the last of all. -/
structure Shows (published : List CanonicalMarketTick) (asOf : Option DateTime)
    (ticks : Dict String CanonicalMarketTick) (quality : Dict String DataQuality) : Prop where
  asOf : asOf = published.getLast?.map (·.observedAt)
  ticks : ∀ instrumentId, ticks.get? instrumentId = lastOf instrumentId published
  quality : ∀ instrumentId,
    quality.get? instrumentId = (lastOf instrumentId published).map qualityOf

/-- The state is the market after the ticks. -/
def ShownBy (published : List CanonicalMarketTick) (state : MarketState) : Prop :=
  Shows published (some state.asOf) state.ticks state.quality

/-- The ticks behind each state that the subscriber of an index is told, where so many have
subscribed and these ticks were published before. -/
def heard (self : KISFuturesMarketDataProvider) (index : ℕ) :
    ℕ → List CanonicalMarketTick → List MarketEvent → List (List CanonicalMarketTick)
  | _, _, [] => []
  | subscribed, published, .subscribe :: later =>
    self.heard index (subscribed + 1) published later
  | subscribed, published, .receive frame answers :: later =>
    match self.tick? (.receive frame answers) with
    | none => self.heard index subscribed published later
    | some tick =>
      let published := published ++ [tick]
      let rest := self.heard index subscribed published later
      if index < subscribed ∧ reaches answers index then published :: rest else rest

variable {self now : KISFuturesMarketDataProvider} {published : List CanonicalMarketTick}
  {tick : CanonicalMarketTick} {frame : String} {answers : PublishAnswers}

theorem lastOf_concat (instrumentId : String) :
    lastOf instrumentId (published ++ [tick]) =
      if tick.instrumentId = instrumentId then some tick else lastOf instrumentId published := by
  unfold lastOf
  by_cases same : tick.instrumentId = instrumentId <;> simp [List.filter_append, same]

/-- Storing a tick shows it. -/
theorem Shows.store (shows : Shows published self.asOf self.ticks self.quality)
    (tick : CanonicalMarketTick) :
    Shows (published ++ [tick]) (self.store tick).asOf (self.store tick).ticks
      (self.store tick).quality := by
  refine ⟨?_, fun instrumentId => ?_, fun instrumentId => ?_⟩
  · simp [KISFuturesMarketDataProvider.store]
  · rw [lastOf_concat, KISFuturesMarketDataProvider.store, Dict.get?_set, shows.ticks]
    grind
  · rw [lastOf_concat, KISFuturesMarketDataProvider.store, Dict.get?_set, shows.quality]
    grind

/-- A frame publishes nothing and changes nothing, or publishes its tick and tells it. -/
theorem receiveOnce_spec (self : KISFuturesMarketDataProvider) (frame : String)
    (answers : PublishAnswers) :
    (self.tick? (.receive frame answers) = none ∧ (self.receiveOnce frame answers).2 = self) ∨
    ∃ tick state, self.tick? (.receive frame answers) = some tick ∧
      (self.store tick).snapshot = .ok state ∧
      (self.receiveOnce frame answers).2 = (self.store tick).tell state answers := by
  unfold receiveOnce
  cases adapted : KISIndexFuturesMarketWebSocketAdapter.adapt frame with
  | error e => exact .inl ⟨by simp only [tick?, adapted], rfl⟩
  | ok observation =>
    dsimp only
    unfold publish
    cases projected : self.project observation answers with
    | error e => exact .inl ⟨by simp [tick?, adapted, projected, Except.toOption], rfl⟩
    | ok tick =>
      refine .inr ⟨tick, _, by simp [tick?, adapted, projected, Except.toOption], rfl, ?_⟩
      simp only [snapshot, KISFuturesMarketDataProvider.store]
      cases answers.refusedBy with
      | none => rfl
      | some refusal =>
        dsimp only
        split_ifs <;> rfl

/-- The resolvers decide with the event alone what is published. -/
theorem tick?_congr {other : KISFuturesMarketDataProvider}
    (instruments : other.hasInstrumentIdResolver = self.hasInstrumentIdResolver)
    (times : other.hasObservedAtResolver = self.hasObservedAtResolver) (event : MarketEvent) :
    other.tick? event = self.tick? event := by
  cases event with
  | subscribe => rfl
  | receive frame answers => simp only [tick?, project, instruments, times]

/-- What holds of a provider before some of its events, with so many subscribers and these ticks
published: the market is shown, and the resolvers are those it was made with. -/
structure Stands (made : KISFuturesMarketDataProvider) (subscribed : ℕ)
    (published : List CanonicalMarketTick) (now : KISFuturesMarketDataProvider) : Prop where
  instruments : now.hasInstrumentIdResolver = made.hasInstrumentIdResolver
  times : now.hasObservedAtResolver = made.hasObservedAtResolver
  shows : Shows published now.asOf now.ticks now.quality
  subscribed : now.subscribers.length = subscribed

/-- What the subscriber of an index was told, if it has subscribed. -/
def toldTo (self : KISFuturesMarketDataProvider) (index : ℕ) : List MarketState :=
  self.subscribers[index]?.getD []

theorem toldTo_subscribe (index : ℕ) : now.subscribe.toldTo index = now.toldTo index := by
  simp only [toldTo, subscribe, List.getElem?_append]
  by_cases old : index < now.subscribers.length
  · rw [if_pos old]
  · rw [if_neg old, List.getElem?_eq_none (not_lt.mp old)]
    cases index - now.subscribers.length <;> rfl

theorem toldTo_tell (state : MarketState) (index : ℕ) :
    (now.tell state answers).toldTo index =
      if index < now.subscribers.length ∧ reaches answers index then now.toldTo index ++ [state]
      else now.toldTo index := by
  simp only [toldTo, tell, List.getElem?_mapIdx]
  by_cases old : index < now.subscribers.length
  · simp only [List.getElem?_eq_getElem old, Option.map_some, Option.getD_some, old, true_and]
  · simp [old]

theorem Stands.subscribe {subscribed : ℕ} (stands : Stands self subscribed published now) :
    Stands self (subscribed + 1) published now.subscribe := by
  refine ⟨stands.instruments, stands.times, stands.shows, ?_⟩
  simp [KISFuturesMarketDataProvider.subscribe, stands.subscribed]

theorem Stands.publish {subscribed : ℕ} (stands : Stands self subscribed published now)
    (tick : CanonicalMarketTick) (state : MarketState) (answers : PublishAnswers) :
    Stands self subscribed (published ++ [tick]) ((now.store tick).tell state answers) := by
  refine ⟨stands.instruments, stands.times, stands.shows.store tick, ?_⟩
  simp [tell, KISFuturesMarketDataProvider.store, stands.subscribed]

/-- What is told shows the ticks up to the one that is published. -/
theorem Stands.shownBy {subscribed : ℕ} (stands : Stands self subscribed published now)
    {tick : CanonicalMarketTick} {state : MarketState}
    (taken : (now.store tick).snapshot = .ok state) : ShownBy (published ++ [tick]) state := by
  cases taken
  exact stands.shows.store tick

/-- From where a provider stands, it goes on to show the ticks it publishes, and each subscriber is
told the states in which it shows those that it hears of. -/
theorem Stands.after {subscribed : ℕ} (stands : Stands self subscribed published now)
    (events : List MarketEvent) :
    (∃ subscribed', Stands self subscribed' (published ++ events.filterMap self.tick?)
      (now.after events)) ∧
    ∀ index, ∃ told, (now.after events).toldTo index = now.toldTo index ++ told ∧
      List.Forall₂ ShownBy (self.heard index subscribed published events) told := by
  induction events generalizing subscribed published now with
  | nil =>
    rw [List.filterMap_nil, List.append_nil]
    exact ⟨⟨subscribed, stands⟩, fun index => ⟨[], (List.append_nil _).symm, .nil⟩⟩
  | cons event later ih =>
    cases event with
    | subscribe =>
      obtain ⟨shown, told⟩ := ih stands.subscribe
      refine ⟨shown, fun index => ?_⟩
      rw [← @toldTo_subscribe now]
      exact told index
    | receive frame answers =>
      have same := tick?_congr stands.instruments stands.times (.receive frame answers)
      rcases receiveOnce_spec now frame answers with
        ⟨silent, unchanged⟩ | ⟨tick, state, published', taken, told'⟩
      · rw [same] at silent
        have next : now.perform (.receive frame answers) = now := unchanged
        simp only [List.filterMap_cons, silent, heard, KISFuturesMarketDataProvider.after,
          List.foldl_cons, next]
        exact ih stands
      · rw [same] at published'
        have next : now.perform (.receive frame answers) = (now.store tick).tell state answers :=
          told'
        obtain ⟨shown, told⟩ := ih (stands.publish tick state answers)
        rw [List.append_assoc] at shown
        simp only [List.filterMap_cons, published', heard, KISFuturesMarketDataProvider.after,
          List.foldl_cons, next]
        refine ⟨shown, fun index => ?_⟩
        obtain ⟨told, appended, follows⟩ := told index
        rw [toldTo_tell] at appended
        have length : (now.store tick).subscribers.length = subscribed := stands.subscribed
        rw [length] at appended
        by_cases hears : index < subscribed ∧ reaches answers index
        · rw [if_pos hears, List.append_assoc] at appended
          rw [if_pos hears]
          exact ⟨state :: told, appended, .cons (stands.shownBy taken) follows⟩
        · rw [if_neg hears] at appended ⊢
          exact ⟨told, appended, follows⟩

/-- After any frames and subscriptions, whatever the resolvers answer and whichever subscribers
raise, the provider shows the last tick of each instrument as of the last of all, and each
subscriber was told, one after another, the markets after the ticks that it heard of. -/
theorem shows_after (hasInstrumentIdResolver hasObservedAtResolver : Bool)
    (events : List MarketEvent) :
    let start : KISFuturesMarketDataProvider := { hasInstrumentIdResolver, hasObservedAtResolver }
    let now := start.after events
    Shows (events.filterMap start.tick?) now.asOf now.ticks now.quality ∧
      ∀ index told, now.subscribers[index]? = some told →
        List.Forall₂ ShownBy (start.heard index 0 [] events) told := by
  intro start now
  have begins : Stands start 0 [] start := ⟨rfl, rfl, ⟨rfl, fun _ => rfl, fun _ => rfl⟩, rfl⟩
  obtain ⟨⟨subscribed, stands⟩, heard⟩ := begins.after events
  refine ⟨stands.shows, fun index told subscribed => ?_⟩
  obtain ⟨told', appended, follows⟩ := heard index
  rw [toldTo, subscribed] at appended
  obtain rfl : told = told' := appended
  exact follows

/-- The trade of 350.10, of which only the named fields are sent. -/
def tradeFrame : String :=
  KISIndexFuturesMarketWebSocketAdapter.frameOf "0" "H0IFCNT0"
    (["101S12", "093000", "", "", "", "350.10", "", "", "", "", "1234"] ++ List.replicate 24 "" ++
      ["350.20", "350.00"])

example :
    let start : KISFuturesMarketDataProvider :=
      { hasInstrumentIdResolver := true, hasObservedAtResolver := true }
    let answers : PublishAnswers :=
      { instrumentId := .ok (some "FUT-AUTH-1"), observedAt := .ok (some ⟨2026, 9, 6, 9, 30, 0⟩) }
    ((start.after [.subscribe, .receive tradeFrame answers]).ticks.get? "FUT-AUTH-1").map
      (·.price) = some (.finite (3501 / 10)) := by decide +kernel

end KISFuturesMarketDataProvider
end OptionProject.Live
