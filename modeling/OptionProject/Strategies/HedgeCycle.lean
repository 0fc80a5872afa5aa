import OptionProject.Strategies.InsuranceDays
import OptionProject.Strategies.SpreadGroups
import OptionProject.Strategies.Track1

/-!
# The hedges of Track 1

Hedges are entered and unwound by turns, and on every date no more than are allowed, as long as no
evaluation strands a hedge: by failing to size it after it has been written, or by clearing the
fence under it. The counter is that of one date, so the dates have to come in blocks.

## Main definitions

* `hedgeOrder` — the monitor of the signals.
* `Track1TailDefense.Strands` — the evaluations that break it.
* `Track1TailDefense.Follows` — a part of an evaluation leads from hedge to hedge.

## Main results

* `Track1TailDefense.hedge_lifecycle` — the order, the count and the unwinding along every run.
-/
namespace OptionProject.Strategies
open Library Contracts

variable {F : Type}

/-! ## The monitor -/

/-- The state of the monitor is the side of the hedge that is open. -/
def hedgeOrder (opened : Option Side) (signal : Track1Signal F) : Option (Option Side) :=
  match signal.reason with
  | .fenceClear .. => some opened
  | .futuresHedgeTrigger .. =>
    match opened, signal.direction with
    | none, some side => some (some side)
    | _, _ => none
  | .futuresUnwind =>
    match opened with
    | none => none
    | some side =>
      if signal.direction = some (Track1TailDefense.unwindSide side) then some none else none

def isTrigger (signal : Track1Signal F) : Bool :=
  match signal.reason with
  | .futuresHedgeTrigger .. => true
  | _ => false

namespace Track1TailDefense

variable [StrikeArithmetic F] {self now : Track1TailDefense F} {context : Track1Context F}
  {input : Option (Track1Input F)} {fence : Fence F} {current : F}

/-- What a call emits; one that raises emits nothing. -/
def signals (result : Result F (List (Track1Signal F))) : List (Track1Signal F) :=
  match result.1 with
  | .ok signals => signals
  | .error _ => []

/-- The side of the hedge that is active. -/
def openSide (self : Track1TailDefense F) : Option Side := self.state.activeHedge.map (·.side)

/-! ## Evaluations that strand a hedge -/

/-- The state in which the fence is watched. -/
def prepared (self : Track1TailDefense F) (context : Track1Context F) : Track1TailDefense F :=
  (self.ensureInitialized.syncDate context.input).setDistance context.input

/-- A hedge is to be entered, but it is not known how large. -/
structure SizingRaises (strategy : Track1TailDefense F) (context : Track1Context F) : Prop where
  seeks : ∃ fence current,
    (strategy.prepared context).state.activeFence = some fence ∧ price context = .ok current ∧
      (strategy.prepared context).seeksHedge context fence current = true
  raises : ∃ e, hedgeQty context = .error e
  opened : (strategy.prepared context).state.marketOpened = true
  early : cutOff context.input = false

/-- The fence of an active hedge is cleared, or a hedge is written that is never placed. -/
def Strands (self : Track1TailDefense F) (context : Track1Context F) : Prop :=
  context.strategyId = strategyId ∧
    (self.state.activeHedge.isSome = true ∧ cutOff context.input = true ∨ self.SizingRaises context)

/-! ## Parts of an evaluation -/

/-- An active hedge belongs to a market that has been opened and a fence. -/
def Fenced (strategy : Track1TailDefense F) : Prop :=
  strategy.state.activeHedge.isSome = true → strategy.initialized = true ∧
    strategy.state.marketOpened = true ∧ strategy.state.activeFence.isSome = true

/-- What a part of an evaluation does. -/
structure Follows (before : Track1TailDefense F) (result : Result F (List (Track1Signal F))) :
    Prop where
  order : Machine.run hedgeOrder before.openSide (signals result) = some result.2.openSide
  count : result.2.state.futuresHedgeCount =
    before.state.futuresHedgeCount + (signals result).countP isTrigger
  within : 0 < (signals result).countP isTrigger →
    result.2.state.futuresHedgeCount ≤ before.maxHedgeAllowed
  allowed : result.2.maxHedgeAllowed = before.maxHedgeAllowed
  fenced : before.Fenced → result.2.Fenced

omit [StrikeArithmetic F] in
/-- Without a signal the hedge and the count stay. -/
theorem follows_unsignalled {result : Result F (List (Track1Signal F))}
    (silent : signals result = []) (side : result.2.openSide = self.openSide)
    (count : result.2.state.futuresHedgeCount = self.state.futuresHedgeCount)
    (allowed : result.2.maxHedgeAllowed = self.maxHedgeAllowed)
    (fenced : self.Fenced → result.2.Fenced) : Follows self result where
  order := by rw [silent, side, Machine.run_nil]
  count := by simp [silent, count]
  within some_trigger := by simp [silent] at some_trigger
  allowed := allowed
  fenced := fenced

omit [StrikeArithmetic F] in
theorem Follows.append {trigger unwound : List (Track1Signal F)} {last : Track1TailDefense F}
    (follows : Follows self (.ok trigger, now)) (follows' : Follows now (.ok unwound, last)) :
    Follows self (.ok (trigger ++ unwound), last) where
  order := by
    rw [signals, Machine.run_append]
    rw [show Machine.run hedgeOrder self.openSide trigger = some now.openSide from follows.order]
    exact follows'.order
  count := by
    have first := follows.count
    have second := follows'.count
    simp only [signals, List.countP_append, Nat.cast_add] at first second ⊢
    omega
  within some_trigger := by
    have first := follows.within
    have second := follows'.count
    have within := follows'.within
    have allowed := follows.allowed
    simp only [signals, List.countP_append] at first second within some_trigger
    rcases Nat.eq_zero_or_pos (unwound.countP isTrigger) with none | pos
    · have held := first (by omega)
      simp only at held ⊢
      omega
    · exact (within pos).trans_eq allowed
  allowed := follows'.allowed.trans follows.allowed
  fenced := follows'.fenced ∘ follows.fenced

theorem clearFence_follows (idle : self.state.activeHedge = none) :
    Follows self self.clearFence := by
  have bare (strategy : Track1TailDefense F) (none : strategy.state.activeHedge = none) :
      strategy.Fenced := fun active => by simp [none] at active
  unfold clearFence
  split
  · exact follows_unsignalled rfl rfl rfl rfl id
  split
  · exact follows_unsignalled rfl rfl rfl rfl id
  · exact ⟨rfl, by simp [signals, isTrigger], by simp [signals, isTrigger], rfl,
      fun _ => bare _ idle⟩

theorem buildFenceSignal_raises (fenceType : FenceType) (strike : F) (tag : ℕ) :
    ∃ e, buildFenceSignal fenceType strike tag = .error e := by
  unfold buildFenceSignal
  cases checked : checkStrike strike with
  | error e => exact ⟨e, rfl⟩
  | ok => exact ⟨_, rfl⟩

theorem openMarket_follows (closed : self.state.marketOpened = false) (current : F) :
    Follows self (self.openMarket current) := by
  have bare (fenced : self.Fenced) : self.state.activeHedge.isSome = false :=
    Bool.eq_false_iff.mpr fun active => nomatch (fenced active).2.1.symm.trans closed
  unfold openMarket
  dsimp only
  split
  · exact follows_unsignalled rfl rfl rfl rfl fun fenced active =>
      nomatch (bare fenced).symm.trans active
  next callOuter putOuter putInner _ =>
    obtain ⟨e, raises⟩ := buildFenceSignal_raises .call callOuter 0
    rw [raises]
    exact follows_unsignalled rfl rfl rfl rfl fun fenced active =>
      nomatch (bare fenced).symm.trans active

/-! ### Watching the fence -/

theorem hedge_of_held (held : self.state.activeHedge.isSome = true) :
    self.hedge context fence current = (.ok [], self) := by
  unfold hedge seeksHedge
  rw [Option.isNone_eq_false_iff.mpr held]
  simp

theorem hedge_follows (fenced : self.state.activeFence = some fence)
    (opened : self.state.marketOpened = true) (ready : self.initialized = true)
    (sized : self.seeksHedge context fence current = true → ∃ qty, hedgeQty context = .ok qty) :
    Follows self (self.hedge context fence current) := by
  unfold hedge
  split
  · exact follows_unsignalled rfl rfl rfl rfl id
  next seeks =>
  rw [Bool.not_eq_true', Bool.not_eq_false] at seeks
  obtain ⟨qty, known⟩ := sized seeks
  simp only [seeksHedge, Bool.and_eq_true, Option.isNone_iff_eq_none, decide_eq_true_eq] at seeks
  obtain ⟨⟨⟨-, idle⟩, -⟩, room⟩ := seeks
  have side : self.openSide = none := by rw [openSide, idle, Option.map_none]
  rw [known]
  dsimp only
  split
  · exact follows_unsignalled rfl (by rw [side]; rfl) rfl rfl fun _ active => nomatch active
  · refine ⟨by rw [side]; rfl, rfl, fun _ => room, rfl, fun _ _ => ?_⟩
    exact ⟨ready, opened, by rw [fenced]; rfl⟩

theorem unwind_follows (self : Track1TailDefense F) (current : F) :
    Follows self (.ok (self.unwind current).1, (self.unwind current).2) := by
  unfold unwind
  split
  · exact follows_unsignalled rfl rfl rfl rfl id
  next hedge active =>
  have side : self.openSide = some hedge.side := by rw [openSide, active, Option.map_some]
  split
  · refine ⟨?_, by simp [signals, isTrigger], by simp [signals, isTrigger], rfl,
      fun _ active => nomatch active⟩
    rw [side]
    simp [signals, hedgeOrder, Machine.run, openSide]
  · exact follows_unsignalled rfl rfl rfl rfl id

theorem watch_follows (opened : self.state.marketOpened = true) (ready : self.initialized = true)
    (sized : ∀ fence, self.state.activeFence = some fence →
      self.seeksHedge context fence current = true → ∃ qty, hedgeQty context = .ok qty) :
    Follows self (self.watch context current) := by
  unfold watch
  split
  · exact follows_unsignalled rfl rfl rfl rfl id
  next fence fenced =>
  have follows := hedge_follows fenced opened ready (sized fence fenced)
  split
  next e held raised => exact raised ▸ follows
  next trigger held placed =>
    rw [placed] at follows
    exact follows.append (held.unwind_follows current)

/-! ## Date and start -/

/-- The date of the count and the start of the strategy stay. -/
def SameDay (before after : Track1TailDefense F) : Prop :=
  after.state.hedgeCountDate = before.state.hedgeCountDate ∧
    after.initialized = before.initialized

omit [StrikeArithmetic F] in
theorem SameDay.trans {after : Track1TailDefense F} (first : self.SameDay now)
    (second : now.SameDay after) : self.SameDay after :=
  ⟨second.1.trans first.1, second.2.trans first.2⟩

theorem clearFence_sameDay (self : Track1TailDefense F) : self.SameDay self.clearFence.2 := by
  unfold clearFence
  split
  · exact ⟨rfl, rfl⟩
  split <;> exact ⟨rfl, rfl⟩

theorem openMarket_sameDay (self : Track1TailDefense F) (current : F) :
    self.SameDay (self.openMarket current).2 := by
  unfold openMarket
  dsimp only
  split <;> exact ⟨rfl, rfl⟩

theorem hedge_sameDay (self : Track1TailDefense F) (context : Track1Context F) (fence : Fence F)
    (current : F) : self.SameDay (self.hedge context fence current).2 := by
  unfold hedge
  split
  · exact ⟨rfl, rfl⟩
  dsimp only
  split
  · exact ⟨rfl, rfl⟩
  split <;> exact ⟨rfl, rfl⟩

theorem unwind_sameDay (self : Track1TailDefense F) (current : F) :
    self.SameDay (self.unwind current).2 := by
  unfold unwind
  split
  · exact ⟨rfl, rfl⟩
  split <;> exact ⟨rfl, rfl⟩

theorem watch_sameDay (self : Track1TailDefense F) (context : Track1Context F) (current : F) :
    self.SameDay (self.watch context current).2 := by
  unfold watch
  split
  · exact ⟨rfl, rfl⟩
  next fence _ =>
  have same := self.hedge_sameDay context fence current
  split
  next e held raised => rwa [raised] at same
  next trigger held placed =>
    rw [placed] at same
    exact same.trans (held.unwind_sameDay current)

theorem setDistance_sameDay (self : Track1TailDefense F) (input : Option (Track1Input F)) :
    self.SameDay (self.setDistance input) := by
  unfold setDistance
  split <;> exact ⟨rfl, rfl⟩

/-- A strategy that has not been started is in its initial state. -/
def Fresh (strategy : Track1TailDefense F) : Prop :=
  strategy.initialized = false → strategy.state = initialState

theorem ensureInitialized_of_fresh (fresh : self.Fresh) :
    self.ensureInitialized = { self with initialized := true } := by
  obtain ⟨allowed, state, initialized⟩ := self
  cases initialized with
  | true => rfl
  | false =>
    obtain rfl : state = initialState := fresh rfl
    rfl

/-- The state whose count is that of the date of the input. -/
def dated (self : Track1TailDefense F) (context : Track1Context F) : Track1TailDefense F :=
  self.ensureInitialized.syncDate context.input

theorem dated_of_current (fresh : self.Fresh)
    (current : ∀ date ∈ context.input.bind (·.currentDate), self.state.hedgeCountDate = some date) :
    self.dated context = { self with initialized := true } := by
  rw [dated, ensureInitialized_of_fresh fresh, syncDate]
  split
  · rfl
  next date here => rw [if_neg (not_not_intro (current date here))]

theorem dated_of_new (fresh : self.Fresh) {date : Date}
    (here : context.input.bind (·.currentDate) = some date)
    (other : self.state.hedgeCountDate ≠ some date) :
    self.dated context =
      { self with
        initialized := true
        state := { self.state with
          futuresHedgeCount := 0
          hedgeCountDate := some date } } := by
  rw [dated, ensureInitialized_of_fresh fresh, syncDate, here]
  exact if_pos other

/-- The date of the input, or else the date before. -/
theorem dated_date (fresh : self.Fresh) (context : Track1Context F) :
    (self.dated context).state.hedgeCountDate =
      (context.input.bind (·.currentDate)).or self.state.hedgeCountDate := by
  cases here : context.input.bind (·.currentDate) with
  | none => rw [dated_of_current fresh (by simp [here]), Option.none_or]
  | some date =>
    rw [Option.some_or]
    by_cases same : self.state.hedgeCountDate = some date
    · rw [dated_of_current fresh (by simp [here, same])]
      exact same
    · rw [dated_of_new fresh here same]

/-- The date leaves the hedge, the fence and the market alone. -/
theorem dated_kept (fresh : self.Fresh) (context : Track1Context F) :
    (self.dated context).initialized = true ∧
      (self.dated context).maxHedgeAllowed = self.maxHedgeAllowed ∧
      (self.dated context).state.activeHedge = self.state.activeHedge ∧
      (self.dated context).state.activeFence = self.state.activeFence ∧
      (self.dated context).state.marketOpened = self.state.marketOpened := by
  by_cases current : ∀ date ∈ context.input.bind (·.currentDate),
      self.state.hedgeCountDate = some date
  · rw [dated_of_current fresh current]
    exact ⟨rfl, rfl, rfl, rfl, rfl⟩
  · push Not at current
    obtain ⟨date, here, other⟩ := current
    rw [dated_of_new fresh here other]
    exact ⟨rfl, rfl, rfl, rfl, rfl⟩

theorem setDistance_kept (self : Track1TailDefense F) (input : Option (Track1Input F)) :
    ∃ distance, self.setDistance input =
      { self with state := { self.state with fenceDistance := distance } } := by
  unfold setDistance
  split <;> exact ⟨_, rfl⟩

/-! ## One evaluation -/

theorem evaluate_of_other (other : context.strategyId ≠ strategyId) :
    self.evaluate context = (.error ⟨"ValueError", "strategy context mismatch"⟩, self) := by
  rw [evaluate, if_pos other]

theorem evaluate_of_unpriced (own : context.strategyId = strategyId) {e : PythonException}
    (unpriced : price context = .error e) :
    self.evaluate context = (.error e, self.ensureInitialized) := by
  rw [evaluate, if_neg (not_not_intro own), unpriced]

theorem evaluate_of_priced (own : context.strategyId = strategyId)
    (priced : price context = .ok current) :
    self.evaluate context =
      if cutOff context.input then (self.dated context).clearFence
      else if (self.prepared context).state.marketOpened = false then
        (self.prepared context).openMarket current
      else (self.prepared context).watch context current := by
  rw [evaluate, if_neg (not_not_intro own), priced]
  simp only [Bool.not_eq_true', dated, prepared]
  rfl

/-- The date that an evaluation reads. -/
def dateRead (context : Track1Context F) : Option Date :=
  if context.strategyId ≠ strategyId then none
  else
    match price context with
    | .error _ => none
    | .ok _ => context.input.bind (·.currentDate)

theorem evaluate_sameDay (self : Track1TailDefense F) (own : context.strategyId = strategyId)
    (priced : price context = .ok current) :
    (self.dated context).SameDay (self.evaluate context).2 := by
  rw [evaluate_of_priced own priced]
  have distance := (self.dated context).setDistance_sameDay context.input
  split
  · exact clearFence_sameDay _
  split
  · exact distance.trans (openMarket_sameDay _ current)
  · exact distance.trans (watch_sameDay _ context current)

theorem evaluate_day (fresh : self.Fresh) (context : Track1Context F) :
    (self.evaluate context).2.state.hedgeCountDate =
      (dateRead context).or self.state.hedgeCountDate ∧ (self.evaluate context).2.Fresh := by
  by_cases own : context.strategyId = strategyId
  case neg =>
    rw [evaluate_of_other own, dateRead, if_pos own]
    exact ⟨rfl, fresh⟩
  cases priced : price context with
  | error e =>
    rw [evaluate_of_unpriced own priced, dateRead, if_neg (not_not_intro own), priced,
      ensureInitialized_of_fresh fresh]
    exact ⟨rfl, nofun⟩
  | ok current =>
    rw [dateRead, if_neg (not_not_intro own), priced]
    dsimp only
    rw [← dated_date fresh context]
    have started := (dated_kept fresh context).1
    have same := self.evaluate_sameDay own priced
    refine ⟨same.1, fun idle => ?_⟩
    rw [same.2, started] at idle
    cases idle

/-- After the date has been read, an evaluation that strands no hedge keeps them in order. -/
theorem evaluate_follows (own : context.strategyId = strategyId)
    (priced : price context = .ok current) (fresh : self.Fresh) (safe : ¬self.Strands context) :
    Follows (self.dated context) (self.evaluate context) := by
  have kept := dated_kept fresh context
  rw [evaluate_of_priced own priced]
  split
  next cut =>
    refine clearFence_follows (kept.2.2.1.trans ?_)
    exact Option.not_isSome_iff_eq_none.mp fun active => safe ⟨own, .inl ⟨active, cut⟩⟩
  next early =>
    have prepares : self.prepared context = (self.dated context).setDistance context.input := rfl
    obtain ⟨distance, same⟩ := (self.dated context).setDistance_kept context.input
    have from_dated (result : Result F (List (Track1Signal F)))
        (follows : Follows (self.prepared context) result) :
        Follows (self.dated context) result := by
      rw [prepares, same] at follows
      exact ⟨follows.order, follows.count, follows.within, follows.allowed, follows.fenced⟩
    split
    next closed => exact from_dated _ (openMarket_follows closed current)
    next opened =>
      rw [Bool.not_eq_false] at opened
      refine from_dated _ (watch_follows opened ?_ fun fence there seeks => ?_)
      · rw [prepares, same]
        exact kept.1
      · cases sized : hedgeQty context with
        | ok qty => exact ⟨qty, rfl⟩
        | error e =>
          exact (safe ⟨own, .inr ⟨⟨fence, current, there, priced, seeks⟩, ⟨e, sized⟩, opened,
            Bool.eq_false_iff.mpr early⟩⟩).elim

/-- The signal that unwinds a hedge. -/
def unwindSignal (hedge : Hedge F) : Track1Signal F where
  direction := some (unwindSide hedge.side)
  confidence := 1
  reason := .futuresUnwind

theorem watch_of_reverted (there : self.state.activeFence = some fence) {hedge : Hedge F}
    (active : self.state.activeHedge = some hedge) (back : reverted hedge current = true) :
    self.watch context current =
      (.ok [unwindSignal hedge],
        { self with state := { self.state with activeHedge := none } }) := by
  unfold watch
  rw [there]
  dsimp only
  rw [hedge_of_held (by rw [active]; rfl)]
  unfold unwind
  simp [active, back, unwindSignal]

/-- A price that has come back unwinds the hedge. -/
theorem evaluate_unwinds (fenced : self.Fenced) {hedge : Hedge F}
    (active : self.state.activeHedge = some hedge) (own : context.strategyId = strategyId)
    (safe : ¬self.Strands context) (priced : price context = .ok current)
    (back : reverted hedge current = true) :
    (self.evaluate context).1 = .ok [unwindSignal hedge] := by
  have held : self.state.activeHedge.isSome = true := by rw [active]; rfl
  obtain ⟨started, opened, fenced⟩ := fenced held
  have fresh : self.Fresh := fun idle => nomatch started.symm.trans idle
  obtain ⟨-, -, hedges, fences, markets⟩ := dated_kept fresh context
  obtain ⟨distance, same⟩ := (self.dated context).setDistance_kept context.input
  obtain ⟨fence, there⟩ := Option.isSome_iff_exists.mp fenced
  have facts : (self.prepared context).state.marketOpened = true ∧
      (self.prepared context).state.activeFence = some fence ∧
      (self.prepared context).state.activeHedge = some hedge := by
    rw [show self.prepared context = _ from same]
    exact ⟨markets.trans opened, fences.trans there, hedges.trans active⟩
  rw [evaluate_of_priced own priced, if_neg fun cut => safe ⟨own, .inl ⟨held, cut⟩⟩,
    if_neg (by simp [facts.1]), watch_of_reverted facts.2.1 facts.2.2 back]

/-! ## Runs -/

/-- One evaluation, with the date of the count beside each of its signals. -/
def traced (self : Track1TailDefense F) (context : Track1Context F) :
    List (Option Date × Track1Signal F) × Track1TailDefense F :=
  let result := self.evaluate context
  ((signals result).map fun signal => (result.2.state.hedgeCountDate, signal), result.2)

abbrev HedgeTrace (F : Type) := List (Option Date × Track1Signal F)

/-- How many hedges have been entered on a date. -/
def triggersOn (date : Option Date) (trace : HedgeTrace F) : ℕ :=
  trace.countP fun entry => entry.1 = date && isTrigger entry.2

omit [StrikeArithmetic F] in
theorem triggersOn_append (date day : Option Date) (trace : HedgeTrace F)
    (signals : List (Track1Signal F)) :
    triggersOn date (trace ++ signals.map fun signal => (day, signal)) =
      triggersOn date trace + if day = date then signals.countP isTrigger else 0 := by
  unfold triggersOn
  rw [List.countP_append, List.countP_map]
  by_cases same : day = date <;> simp [same, Function.comp_def]

/-- The signals are in order, and the count is that of its date. -/
structure Kept (allowed : ℤ) (now : Track1TailDefense F × HedgeTrace F) : Prop where
  order : Machine.run hedgeOrder none (now.2.map Prod.snd) = some now.1.openSide
  count : now.1.state.futuresHedgeCount = triggersOn now.1.state.hedgeCountDate now.2
  within : ∀ date, triggersOn date now.2 ≤ allowed.toNat
  allowed : now.1.maxHedgeAllowed = allowed
  fenced : now.1.Fenced
  fresh : now.1.Fresh

theorem kept_initial (initial : Track1TailDefense F) :
    Kept initial.maxHedgeAllowed (initial.reset, []) where
  order := rfl
  count := rfl
  within _ := Nat.zero_le _
  allowed := rfl
  fenced active := nomatch active
  fresh _ := rfl

/-- The count starts anew on a date without hedges. -/
theorem Kept.dated {allowed : ℤ} {trace : HedgeTrace F} (kept : Kept allowed (self, trace))
    (safe : ∀ date ∈ context.input.bind (·.currentDate),
      self.state.hedgeCountDate = some date ∨ triggersOn (some date) trace = 0) :
    Kept allowed (self.dated context, trace) := by
  obtain ⟨started, bound, hedge, fence, market⟩ := dated_kept kept.fresh context
  constructor
  case order => rw [kept.order, openSide, openSide, hedge]
  case count =>
    by_cases current : ∀ date ∈ context.input.bind (·.currentDate),
        self.state.hedgeCountDate = some date
    · rw [dated_of_current kept.fresh current]
      exact kept.count
    · push Not at current
      obtain ⟨date, here, other⟩ := current
      rw [dated_of_new kept.fresh here other]
      exact (congrArg Nat.cast ((safe date here).resolve_left other)).symm
  case within => exact kept.within
  case allowed => exact bound.trans kept.allowed
  case fenced =>
    intro active
    rw [hedge] at active
    obtain ⟨-, opened, fenced⟩ := kept.fenced active
    exact ⟨started, market.trans opened, fence ▸ fenced⟩
  case fresh => exact fun idle => nomatch started.symm.trans idle

/-- An evaluation that does not come to its price emits nothing and changes no more than the
start. -/
theorem Kept.unpriced {allowed : ℤ} {trace : HedgeTrace F} (kept : Kept allowed (self, trace)) :
    Kept allowed (self.ensureInitialized, trace) := by
  rw [ensureInitialized_of_fresh kept.fresh]
  exact ⟨kept.order, kept.count, kept.within, kept.allowed,
    fun active => ⟨rfl, (kept.fenced active).2⟩, nofun⟩

theorem Kept.follows {allowed : ℤ} {trace : HedgeTrace F}
    {result : Result F (List (Track1Signal F))} (kept : Kept allowed (self, trace))
    (follows : Follows self result) (same : self.SameDay result.2) (fresh : result.2.Fresh) :
    Kept allowed (result.2,
      trace ++ (signals result).map fun signal => (result.2.state.hedgeCountDate, signal)) := by
  have count := follows.count
  have counted := kept.count
  have total := triggersOn_append self.state.hedgeCountDate self.state.hedgeCountDate trace
    (signals result)
  rw [if_pos rfl] at total
  rw [same.1]
  constructor
  case order =>
    rw [List.map_append, List.map_map, Machine.run_append, kept.order]
    exact (congrArg _ (List.map_id _)).trans follows.order
  case count =>
    simp only at count counted ⊢
    rw [same.1, total, Nat.cast_add, ← counted, count]
  case within =>
    intro date
    rw [triggersOn_append]
    split
    next here =>
      subst here
      rcases Nat.eq_zero_or_pos ((signals result).countP isTrigger) with none | some_trigger
      · rw [none]
        exact kept.within _
      · have within := follows.within some_trigger
        rw [kept.allowed] at within
        simp only at counted
        omega
    next => exact kept.within date
  case allowed => exact follows.allowed.trans kept.allowed
  case fenced => exact follows.fenced kept.fenced
  case fresh => exact fresh

theorem Kept.traced {allowed : ℤ} {trace : HedgeTrace F} (kept : Kept allowed (self, trace))
    (safe : ¬self.Strands context) (dates : ∀ date ∈ dateRead context,
      self.state.hedgeCountDate = some date ∨ triggersOn (some date) trace = 0) :
    Kept allowed ((self.traced context).2, trace ++ (self.traced context).1) := by
  unfold Track1TailDefense.traced
  by_cases own : context.strategyId = strategyId
  case neg =>
    rw [evaluate_of_other own]
    simpa [signals] using kept
  cases priced : price context with
  | error e =>
    rw [evaluate_of_unpriced own priced]
    simpa [signals] using kept.unpriced
  | ok current =>
    have dated : Kept allowed (self.dated context, trace) := kept.dated fun date here =>
      dates date (by rw [dateRead, if_neg (not_not_intro own), priced]; exact here)
    exact dated.follows (evaluate_follows own priced kept.fresh safe)
      (self.evaluate_sameDay own priced) (evaluate_day kept.fresh context).2

/-- The run keeps dates that it has read, and the last one. -/
theorem trace_of_run (initial : Track1TailDefense F) {before : List (Track1Context F)}
    {now : Track1TailDefense F × HedgeTrace F}
    (ran : Machine.run (Machine.emitting traced) (initial.reset, []) before = some now) :
    (∀ entry ∈ now.2, ∀ date ∈ entry.1, date ∈ before.filterMap dateRead) ∧
      now.1.state.hedgeCountDate = (before.filterMap dateRead).getLast? ∧ now.1.Fresh := by
  induction before using List.reverseRecOn generalizing now with
  | nil =>
    rw [Machine.run_nil, Option.some_inj] at ran
    subst ran
    exact ⟨fun entry member => absurd member List.not_mem_nil, rfl, fun _ => rfl⟩
  | append_singleton before context ih =>
    obtain ⟨earlier, there, last⟩ := Machine.run_concat.mp ran
    rw [Machine.emitting_eq_some] at last
    subst last
    obtain ⟨recorded, counts, fresh⟩ := ih there
    obtain ⟨day, fresh'⟩ := evaluate_day fresh context
    have reads : (earlier.1.evaluate context).2.state.hedgeCountDate =
        ((before ++ [context]).filterMap dateRead).getLast? := by
      rw [day, counts, List.filterMap_append, List.getLast?_append]
      cases read : dateRead context <;> simp [read]
    refine ⟨fun entry member date here => ?_, reads, fresh'⟩
    rcases List.mem_append.mp member with old | new
    · rw [List.filterMap_append]
      exact List.mem_append_left _ (recorded entry old date here)
    · obtain ⟨signal, _, rfl⟩ := List.mem_map.mp new
      exact List.mem_of_getLast? (reads.symm.trans here)

/-- Where dates come in blocks, a date that is not the last one has not been there before. -/
theorem hedge_current_or_new {inputs : List (Track1Context F)}
    (blocks : InBlocks (inputs.filterMap dateRead)) (initial : Track1TailDefense F)
    {now : Track1TailDefense F × HedgeTrace F}
    (takes : Machine.Takes (Machine.emitting traced) (initial.reset, []) inputs now context) :
    ∀ date ∈ dateRead context,
      now.1.state.hedgeCountDate = some date ∨ triggersOn (some date) now.2 = 0 := by
  intro date here
  obtain ⟨before, ⟨after, whole⟩, ran⟩ := takes
  obtain ⟨recorded, counts, -⟩ := trace_of_run initial ran
  refine or_iff_not_imp_right.mpr fun triggers => ?_
  obtain ⟨entry, inside, counted⟩ := List.countP_pos_iff.mp (Nat.pos_of_ne_zero triggers)
  simp only [Bool.and_eq_true, decide_eq_true_eq] at counted
  have there : date ∈ before.filterMap dateRead := recorded entry inside date counted.1
  rw [← whole, List.append_assoc, List.filterMap_append, List.singleton_append,
    List.filterMap_cons_some here] at blocks
  rw [counts]
  exact blocks.getLast?_of_mem there

/-- Along every run whose dates come in blocks and in which no hedge is stranded, the hedges are
entered and unwound by turns, each unwound on the other side, no date has more of them than are
allowed, and wherever the run is, an evaluation that strands no hedge unwinds the active one once
the price has come back. -/
theorem hedge_lifecycle (initial : Track1TailDefense F) (inputs : List (Track1Context F))
    (blocks : InBlocks (inputs.filterMap dateRead))
    (safe : ∀ now context, Machine.Takes (Machine.emitting traced) (initial.reset, []) inputs now
      context → ¬now.1.Strands context) :
    ∀ now, Machine.Visits (Machine.emitting traced) (initial.reset, []) inputs now →
      Machine.run hedgeOrder none (now.2.map Prod.snd) = some now.1.openSide ∧
      (∀ date, triggersOn date now.2 ≤ initial.maxHedgeAllowed.toNat) ∧
      ∀ context current hedge, now.1.state.activeHedge = some hedge →
        context.strategyId = strategyId → ¬now.1.Strands context → price context = .ok current →
        reverted hedge current = true →
          (now.1.evaluate context).1 = .ok [unwindSignal hedge] := by
  intro now visited
  have kept : Kept initial.maxHedgeAllowed now := by
    refine @Machine.visits_invariant _ _ (Machine.emitting Track1TailDefense.traced) _ _
      (Kept initial.maxHedgeAllowed)
      (fun now context => ¬now.1.Strands context ∧ ∀ date ∈ dateRead context,
        now.1.state.hedgeCountDate = some date ∨ triggersOn (some date) now.2 = 0)
      (kept_initial initial) ?_ ?_ now visited
    · rintro ⟨self, trace⟩ context next kept ⟨safe, dates⟩ moved
      rw [Machine.emitting_eq_some] at moved
      exact moved ▸ kept.traced safe dates
    · exact fun now context takes =>
        ⟨safe now context takes, hedge_current_or_new blocks initial takes⟩
  exact ⟨kept.order, kept.within, fun context current hedge active own safe priced back =>
    evaluate_unwinds kept.fenced active own safe priced back⟩

/-! ## Sample runs -/

/-- Exact numbers in the place of floats. -/
@[reducible] def exactStrikes : StrikeArithmetic ℚ where
  toFloatArithmetic := Track3StatisticalArbitrage.exactArithmetic
  rounded q := .ok (roundHalfEven q)
  nonPositive q := .ok (q ≤ 0)

/-- A price so many days before the expiry, with the momentum for a hedge of two contracts. -/
def nearing (current daysToExpiry : ℚ) (size : ℚ → Except PythonException ℤ) :
    Track1Context ℚ where
  strategyId := strategyId
  ticks := [.ok current]
  input := some {
    momentumConfirmed := true
    daysToExpiry := some daysToExpiry
    currentDate := some ⟨2026, 9, 4, by decide⟩
    shortOptionNetDelta := some 0.21 }
  deltaToMiniFuturesQty := size

/-- The module is found, and sizes a hedge. -/
def found (netDelta : ℚ) : Except PythonException ℤ := deltaToMiniFuturesQty netDelta 5

/-- The module is not there. -/
def missing (_netDelta : ℚ) : Except PythonException ℤ :=
  .error ⟨"ModuleNotFoundError", "No module named 'core.risk.delta_hedge_quantity'"⟩

/-- A hedge is entered at 343 and unwound at 345. -/
def hedged : List (Track1Context ℚ) :=
  [nearing 350 9 found, nearing 343 9 found, nearing 345 9 found]

/-- A strategy as it is built. -/
def built : Track1TailDefense ℚ :=
  letI := exactStrikes
  { state := initialState }

omit [StrikeArithmetic F] in
theorem hedge_lifecycle_hedged :
    letI := exactStrikes
    ∃ now, Machine.run (Machine.emitting traced) (built.reset, []) hedged = some now ∧
      now.2.map (·.2.direction) = [some .sell, some .buy] ∧
      Machine.run hedgeOrder none (now.2.map Prod.snd) = some now.1.openSide ∧
      ∀ date, triggersOn date now.2 ≤ 20 := by
  let := exactStrikes
  have sized (context : Track1Context ℚ) (member : context ∈ hedged) :
      cutOff context.input = false ∧ hedgeQty context = .ok 2 := by
    simp only [hedged, List.mem_cons, List.not_mem_nil, or_false] at member
    rcases member with rfl | rfl | rfl <;> decide +kernel
  obtain ⟨order, within, -⟩ := hedge_lifecycle built hedged (by decide +kernel)
    (fun now context takes strands => by
      obtain ⟨early, known⟩ := sized context (Machine.mem_of_takes takes)
      rcases strands.2 with ⟨-, cut⟩ | raises
      · cases early.symm.trans cut
      · obtain ⟨e, raised⟩ := raises.raises
        cases known.symm.trans raised)
    _ ⟨hedged, List.prefix_rfl, rfl⟩
  exact ⟨_, rfl, by decide +kernel, order, within⟩

omit [StrikeArithmetic F] in
/-- Without the module a hedge is unwound that has not been entered. Four days before the expiry
the fence of a hedge is cleared, and the hedge is not unwound any more. -/
theorem hedge_stranded :
    letI := exactStrikes
    let run := Machine.run (Machine.emitting traced) (built.reset, [])
    let unplaced := run [nearing 350 9 missing, nearing 343 9 missing, nearing 345 9 missing]
    let cleared := run [nearing 350 9 found, nearing 343 9 found, nearing 343 4 found]
    unplaced.map (fun now => now.2.map (·.2.reason)) = some [.futuresUnwind] ∧
      unplaced.bind (fun now => Machine.run hedgeOrder none (now.2.map Prod.snd)) = none ∧
      cleared.map (fun now => now.1.state.activeHedge) = some (some ⟨.sell, 343⟩) ∧
      reverted (⟨.sell, 343⟩ : Hedge ℚ) 345 = true ∧
      cleared.map (fun now => (now.1.evaluate (nearing 345 9 found)).1) = some (.ok []) := by
  decide +kernel

end Track1TailDefense
end OptionProject.Strategies
