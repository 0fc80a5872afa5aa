import Mathlib.Data.Rat.Floor
import Mathlib.Tactic.Linarith
import OptionProject.Library.Machine
import OptionProject.Strategies.Track9

/-!
# The days of Track 9

On every date the early profit is taken once and the hedge is entered once, and not after a rebuild.
The strangle of an event is entered and closed by turns as long as no date change finds it active:
the synchronisation drops it without a signal.

## Main definitions

* `dayOrder`, `eventOrder` — the monitors of the signals.
* `Track9EventOvernightInsurance.Follows` — an evaluation leads both from flags to flags.
* `InBlocks` — equal values stand beside one another.
* `Track9EventOvernightInsurance.Forgets` — the evaluations that drop a strangle.

## Main results

* `Track9EventOvernightInsurance.once_a_day` — the signals of every date.
* `Track9EventOvernightInsurance.event_alternates_iff` — the runs that close every strangle.
-/
namespace OptionProject.Strategies
open Library
open Risk.RiskEngine (truncate)

/-! ## Monitors -/

/-- What has been done on a date. -/
structure DayFlags where
  early : Bool
  rehedged : Bool
  deriving DecidableEq

def dayOrder (done : DayFlags) (signal : Track9Signal) : Option DayFlags :=
  match signal.direction with
  | .earlyProfitTake => if done.early then none else some { done with early := true }
  | .rehedgeEntry => if done.rehedged then none else some { done with rehedged := true }
  | .dynamicRebuildFence => some { done with rehedged := true }
  | _ => some done

/-- The state of this monitor says whether a strangle is open. -/
def eventOrder (isOpen : Bool) (signal : Track9Signal) : Option Bool :=
  match signal.direction with
  | .enterEventStrangle => if isOpen then none else some true
  | .closeEventStrangle => if isOpen then some false else none
  | _ => some isOpen

theorem eventOrder_injective (a b : Bool) (signal : Track9Signal) (c : Bool)
    (one : eventOrder a signal = some c) (other : eventOrder b signal = some c) : a = b := by
  obtain ⟨direction, confidence, reason⟩ := signal
  cases direction <;> cases a <;> cases b <;> simp_all [eventOrder]

variable {done next : DayFlags} {signal : Track9Signal}

/-- Equal values stand beside one another. -/
def InBlocks {α : Type*} (values : List α) : Prop :=
  ∀ i j k : Fin values.length, i ≤ j → j ≤ k → values.get i = values.get k →
    values.get j = values.get i

instance {α : Type*} [DecidableEq α] (values : List α) : Decidable (InBlocks values) :=
  inferInstanceAs (Decidable (∀ _ _ _ : Fin values.length, _))

/-- A value that has been there before is the last one. -/
theorem InBlocks.getLast?_of_mem {α : Type*} {before after : List α} {a : α}
    (blocks : InBlocks (before ++ a :: after)) (member : a ∈ before) :
    before.getLast? = some a := by
  obtain ⟨i, inside, rfl⟩ := List.mem_iff_getElem.mp member
  have whole : before.length < (before ++ before[i] :: after).length := by simp
  have same := blocks ⟨i, by omega⟩ ⟨before.length - 1, by omega⟩ ⟨before.length, whole⟩
    (Fin.mk_le_mk.mpr (by omega)) (Fin.mk_le_mk.mpr (by omega))
  have last : before.length - 1 < before.length := by omega
  simp only [List.get_eq_getElem, List.getElem_append_left inside, List.getElem_append_left last,
    List.getElem_append_right le_rfl, Nat.sub_self, List.getElem_cons_zero, forall_const] at same
  rw [List.getLast?_eq_getElem?, List.getElem?_eq_getElem last, same]

/-! ## Evaluators -/

/-- An early profit takes one contract at least, and no more than there are. -/
def TakesWithin (data : Track9MarketInput) (signal : Track9Signal) : Prop :=
  signal.direction = .earlyProfitTake → ∃ qty ratio, signal.reason = .early qty ratio ∧
    1 ≤ qty ∧ qty ≤ data.currentInsuranceQty

namespace Track9EventOvernightInsurance

def flags (self : Track9EventOvernightInsurance) : DayFlags :=
  ⟨self.state.earlyProfitTakeExecutedToday, self.state.reentryExecutedToday⟩

/-- The ratio is a part of the whole. -/
def RatioFits (self : Track9EventOvernightInsurance) : Prop :=
  0 ≤ self.earlyProfitTakeRatio ∧ self.earlyProfitTakeRatio ≤ 1

/-- What an evaluator of one date does. -/
structure Follows (data : Track9MarketInput) (before : Track9EventOvernightInsurance)
    (result : List Track9Signal × Track9EventOvernightInsurance) : Prop where
  day : Machine.run dayOrder before.flags result.1 = some result.2.flags
  event : Machine.run eventOrder before.state.eventActive result.1 =
    some result.2.state.eventActive
  date : result.2.state.activeDate = before.state.activeDate
  ratio : result.2.earlyProfitTakeRatio = before.earlyProfitTakeRatio
  within : before.RatioFits → ∀ signal ∈ result.1, TakesWithin data signal

variable {self : Track9EventOvernightInsurance} {data : Track9MarketInput}

theorem Follows.append {first second : List Track9Signal × Track9EventOvernightInsurance}
    (follows : Follows data self first) (follows' : Follows data first.2 second) :
    Follows data self (first.1 ++ second.1, second.2) where
  day := by
    rw [Machine.run_append, follows.day]
    exact follows'.day
  event := by
    rw [Machine.run_append, follows.event]
    exact follows'.event
  date := follows'.date.trans follows.date
  ratio := follows'.ratio.trans follows.ratio
  within fits signal member := by
    rcases List.mem_append.mp member with early | late
    · exact follows.within fits signal early
    · exact follows'.within (by rwa [RatioFits, follows.ratio]) signal late

/-- Without a signal the flags, the date and the ratio stay. -/
theorem follows_unsignalled {next : Track9EventOvernightInsurance} (day : next.flags = self.flags)
    (event : next.state.eventActive = self.state.eventActive)
    (date : next.state.activeDate = self.state.activeDate)
    (ratio : next.earlyProfitTakeRatio = self.earlyProfitTakeRatio) :
    Follows data self ([], next) where
  day := by rw [day, Machine.run_nil]
  event := by rw [event, Machine.run_nil]
  date := date
  ratio := ratio
  within _ _ member := absurd member List.not_mem_nil

theorem follows_silent (self : Track9EventOvernightInsurance) (data : Track9MarketInput) :
    Follows data self ([], self) :=
  follows_unsignalled rfl rfl rfl rfl

theorem evaluateOvernightInsurance_follows (self : Track9EventOvernightInsurance)
    (data : Track9MarketInput) :
    Follows data (self.syncDate data.dateStr) (self.evaluateOvernightInsurance data) := by
  unfold evaluateOvernightInsurance
  dsimp only
  split
  · exact ⟨rfl, rfl, rfl, rfl, by simp [TakesWithin]⟩
  split
  · exact ⟨rfl, rfl, rfl, rfl, by simp [TakesWithin]⟩
  · exact ⟨rfl, rfl, rfl, rfl, by simp [TakesWithin]⟩

theorem truncate_le {qty : ℤ} {ratio : ℚ} (some_qty : 0 < qty) (nonneg : 0 ≤ ratio)
    (le_one : ratio ≤ 1) : max 1 (truncate (qty * ratio)) ≤ qty := by
  have held : (0 : ℚ) ≤ qty := by exact_mod_cast some_qty.le
  refine max_le some_qty ?_
  rw [truncate, if_pos (mul_nonneg held nonneg)]
  have part : (⌊(qty : ℚ) * ratio⌋ : ℚ) ≤ qty :=
    (Int.floor_le _).trans (mul_le_of_le_one_right held le_one)
  exact_mod_cast part

theorem evaluateEarlyProfitTake_follows (self : Track9EventOvernightInsurance)
    (data : Track9MarketInput) : Follows data self (self.evaluateEarlyProfitTake data) := by
  unfold evaluateEarlyProfitTake
  split
  · exact follows_silent self data
  next free =>
  rw [Bool.not_eq_true] at free
  split
  next due =>
    refine ⟨?_, rfl, rfl, rfl, fun fits signal member => ?_⟩
    · rw [flags, free]
      rfl
    · obtain rfl := List.mem_singleton.mp member
      exact fun _ => ⟨_, _, rfl, le_max_left .., truncate_le due.2 fits.1 fits.2⟩
  split
  · exact follows_unsignalled rfl rfl rfl rfl
  · exact follows_silent self data

theorem evaluateReentry_follows (self : Track9EventOvernightInsurance) (data : Track9MarketInput) :
    Follows data self (self.evaluateReentry data) := by
  unfold evaluateReentry
  split
  · exact follows_silent self data
  next free =>
  have down : self.state.reentryExecutedToday = false := by simpa using (not_or.mp free).2
  split
  · refine ⟨?_, rfl, rfl, rfl, by simp [TakesWithin]⟩
    rw [flags, down]
    rfl
  · exact follows_silent self data

theorem enterEvent_follows (idle : self.state.eventActive = false) (data : Track9MarketInput)
    (netPnl : ℚ) : Follows data self (self.enterEvent data netPnl) := by
  unfold enterEvent
  split
  · exact follows_silent self data
  split
  · exact ⟨rfl, rfl, rfl, rfl, by simp [TakesWithin]⟩
  · refine ⟨rfl, ?_, rfl, rfl, by simp [TakesWithin]⟩
    rw [idle]
    rfl

theorem holdEvent_follows (active : self.state.eventActive = true) (data : Track9MarketInput)
    (netPnl : ℚ) : Follows data self (self.holdEvent data netPnl) := by
  unfold holdEvent
  dsimp only
  split
  · refine ⟨rfl, ?_, rfl, rfl, by simp [TakesWithin]⟩
    rw [active]
    rfl
  split
  · refine ⟨rfl, ?_, rfl, rfl, by simp [TakesWithin]⟩
    rw [active]
    rfl
  · exact follows_unsignalled rfl active.symm rfl rfl

theorem evaluateDynamicProfitRebuild_follows (self : Track9EventOvernightInsurance)
    (data : Track9MarketInput) : Follows data self (self.evaluateDynamicProfitRebuild data) := by
  unfold evaluateDynamicProfitRebuild
  split
  · exact follows_silent self data
  dsimp only
  split
  · exact follows_silent self data
  · exact ⟨rfl, rfl, rfl, rfl, by simp [TakesWithin]⟩

/-! ## One evaluation -/

theorem activeDate_syncDate (self : Track9EventOvernightInsurance) (dateStr : String) :
    (self.syncDate dateStr).state.activeDate = some dateStr := by
  unfold syncDate
  cases date : self.state.activeDate with
  | none => simp [date]
  | some active => by_cases same : active = dateStr <;> simp [date, same, reset]

theorem syncDate_of_current {dateStr : String} (current : self.state.activeDate = some dateStr) :
    self.syncDate dateStr = self := by
  simp [syncDate, current]

/-- A state without a date is the initial one. -/
def Fresh (strategy : Track9EventOvernightInsurance) : Prop :=
  strategy.state.activeDate = none → strategy.state = {}

theorem syncDate_of_new (fresh : self.Fresh) {dateStr : String}
    (other : self.state.activeDate ≠ some dateStr) :
    self.syncDate dateStr = { self with state := { activeDate := some dateStr } } := by
  unfold syncDate
  cases date : self.state.activeDate with
  | none => simp [fresh date]
  | some active =>
    rw [date] at other
    simp [other, reset]

theorem evaluateEventVolatility_follows (current : self.state.activeDate = some data.dateStr) :
    Follows data self (self.evaluateEventVolatility data) := by
  unfold evaluateEventVolatility
  rw [syncDate_of_current current]
  dsimp only
  split
  next idle => exact enterEvent_follows (by simpa using idle) data _
  next active => exact holdEvent_follows (by simpa using active) data _

/-- After the synchronisation all evaluators are on one date. -/
theorem evaluateInput_follows (self : Track9EventOvernightInsurance) (data : Track9MarketInput) :
    Follows data (self.syncDate data.dateStr) (self.evaluateInput data) := by
  have insurance := self.evaluateOvernightInsurance_follows data
  have early := insurance.append (evaluateEarlyProfitTake_follows _ data)
  have reentry := early.append (evaluateReentry_follows _ data)
  have current := reentry.date.trans (self.activeDate_syncDate data.dateStr)
  have event := reentry.append (evaluateEventVolatility_follows current)
  exact event.append (evaluateDynamicProfitRebuild_follows _ data)

theorem activeDate_evaluateInput (self : Track9EventOvernightInsurance)
    (data : Track9MarketInput) :
    (self.evaluateInput data).2.state.activeDate = some data.dateStr :=
  (self.evaluateInput_follows data).date.trans (self.activeDate_syncDate data.dateStr)

theorem fresh_evaluateInput (self : Track9EventOvernightInsurance) (data : Track9MarketInput) :
    (self.evaluateInput data).2.Fresh := fun undated => by
  cases undated.symm.trans (self.activeDate_evaluateInput data)

/-! ## Runs -/

/-- One evaluation, with the input beside each of its signals. -/
def traced (self : Track9EventOvernightInsurance) (data : Track9MarketInput) :
    List (Track9MarketInput × Track9Signal) × Track9EventOvernightInsurance :=
  ((self.evaluateInput data).1.map fun signal => (data, signal), (self.evaluateInput data).2)

@[simp] theorem traced_fst (self : Track9EventOvernightInsurance) (data : Track9MarketInput) :
    (self.traced data).1 = (self.evaluateInput data).1.map fun signal => (data, signal) := rfl

@[simp] theorem traced_snd (self : Track9EventOvernightInsurance) (data : Track9MarketInput) :
    (self.traced data).2 = (self.evaluateInput data).2 := rfl

abbrev Trace := List (Track9MarketInput × Track9Signal)

/-- The signals of one date. -/
def signalsOn (date : String) (trace : Trace) : List Track9Signal :=
  (trace.filter fun entry => entry.1.dateStr = date).map Prod.snd

theorem signalsOn_append (date : String) (trace : Trace) (data : Track9MarketInput)
    (signals : List Track9Signal) :
    signalsOn date (trace ++ signals.map fun signal => (data, signal)) =
      signalsOn date trace ++ if data.dateStr = date then signals else [] := by
  unfold signalsOn
  rw [List.filter_append, List.map_append, List.filter_map]
  by_cases same : data.dateStr = date <;> simp [same, Function.comp_def]

/-! ## Dates in blocks -/

/-- The run keeps the inputs it has had, and the last date. -/
theorem trace_of_run (initial : Track9EventOvernightInsurance) {before : List Track9MarketInput}
    {now : Track9EventOvernightInsurance × Trace}
    (ran : Machine.run (Machine.emitting traced) (initial.reset, []) before = some now) :
    (∀ entry ∈ now.2, entry.1 ∈ before) ∧
      now.1.state.activeDate = before.getLast?.map (·.dateStr) := by
  induction before using List.reverseRecOn generalizing now with
  | nil =>
    rw [Machine.run_nil, Option.some_inj] at ran
    subst ran
    exact ⟨fun entry member => absurd member List.not_mem_nil, by simp [reset]⟩
  | append_singleton before data ih =>
    obtain ⟨earlier, there, last⟩ := Machine.run_concat.mp ran
    rw [Machine.emitting_eq_some, traced_fst, traced_snd] at last
    subst last
    refine ⟨fun entry member => ?_, ?_⟩
    · rcases List.mem_append.mp member with old | new
      · exact List.mem_append_left _ ((ih there).1 entry old)
      · obtain ⟨signal, _, rfl⟩ := List.mem_map.mp new
        exact List.mem_append_right _ List.mem_cons_self
    · rw [List.getLast?_concat]
      exact earlier.1.activeDate_evaluateInput data

/-- The signals of every date are in order, and those of the last date lead to the flags. -/
structure Kept (ratio : ℚ) (now : Track9EventOvernightInsurance × Trace) : Prop where
  days : ∀ date, ∃ done, Machine.run dayOrder ⟨false, false⟩ (signalsOn date now.2) = some done ∧
    (now.1.state.activeDate = some date → done = now.1.flags)
  within : ∀ entry ∈ now.2, TakesWithin entry.1 entry.2
  ratio : now.1.earlyProfitTakeRatio = ratio
  fresh : now.1.Fresh

theorem ratio_syncDate (self : Track9EventOvernightInsurance) (dateStr : String) :
    (self.syncDate dateStr).earlyProfitTakeRatio = self.earlyProfitTakeRatio := by
  unfold syncDate
  dsimp only
  split <;> split <;> rfl

theorem kept_initial (initial : Track9EventOvernightInsurance) :
    Kept initial.earlyProfitTakeRatio (initial.reset, []) where
  days date := by
    refine ⟨⟨false, false⟩, by simp [signalsOn], fun active => ?_⟩
    simp [reset] at active
  within entry member := absurd member List.not_mem_nil
  ratio := by simp [reset]
  fresh _ := by simp [reset]

theorem Kept.traced {ratio : ℚ} {trace : Trace} (kept : Kept ratio (self, trace))
    (fits : 0 ≤ ratio ∧ ratio ≤ 1)
    (safe : self.state.activeDate = some data.dateStr ∨ signalsOn data.dateStr trace = []) :
    Kept ratio ((self.evaluateInput data).2,
      trace ++ (self.evaluateInput data).1.map fun signal => (data, signal)) := by
  have follows := self.evaluateInput_follows data
  have synced := self.ratio_syncDate data.dateStr
  constructor
  case days =>
    intro date
    obtain ⟨done, ran, last⟩ := kept.days date
    rw [signalsOn_append, Machine.run_append, ran]
    split
    next here =>
      subst here
      refine ⟨_, ?_, fun _ => rfl⟩
      have starts : done = (self.syncDate data.dateStr).flags := by
        by_cases current : self.state.activeDate = some data.dateStr
        · rw [syncDate_of_current current, last current]
        · rw [safe.resolve_left current] at ran
          rw [syncDate_of_new kept.fresh current]
          exact (Option.some.inj ran).symm
      rw [starts]
      exact follows.day
    next other =>
      refine ⟨done, rfl, fun active => absurd ?_ other⟩
      exact Option.some.inj ((self.activeDate_evaluateInput data).symm.trans active)
  case within =>
    intro entry member
    rcases List.mem_append.mp member with old | new
    · exact kept.within entry old
    · obtain ⟨signal, inside, rfl⟩ := List.mem_map.mp new
      exact follows.within (by rwa [RatioFits, synced, kept.ratio]) signal inside
  case ratio => exact follows.ratio.trans (synced.trans kept.ratio)
  case fresh => exact self.fresh_evaluateInput data

/-- One contract of insurance; the volatility has risen by `ivSpike`. -/
def insured (ivSpike : ℚ) (dateStr timeStr : String) : Track9MarketInput where
  currentPrice := 350
  activeSellQty := 2
  currentInsuranceQty := 1
  dateStr := dateStr
  timeStr := timeStr
  ivSpike := ivSpike

/-- A strangle is active that was entered on another date. -/
def Forgets (self : Track9EventOvernightInsurance) (data : Track9MarketInput) : Prop :=
  self.state.eventActive = true ∧ self.state.activeDate ≠ some data.dateStr

theorem eventActive_syncDate (fresh : self.Fresh) :
    (self.syncDate data.dateStr).state.eventActive = self.state.eventActive ↔
      ¬self.Forgets data := by
  by_cases current : self.state.activeDate = some data.dateStr
  · rw [syncDate_of_current current]
    exact iff_of_true rfl fun forgets => forgets.2 current
  · rw [syncDate_of_new fresh current]
    cases active : self.state.eventActive <;> simp [Forgets, active, current]

/-- The entry and closing signals of a run alternate, starting with an entry, and a strangle never
stops being active without a closing signal, exactly when no evaluation finds an active strangle of
another date. -/
theorem event_alternates_iff (initial : Track9EventOvernightInsurance)
    (inputs : List Track9MarketInput) :
    (∀ now, Machine.Visits (Machine.emitting traced) (initial.reset, []) inputs now →
      Machine.run eventOrder false (now.2.map Prod.snd) = some now.1.state.eventActive) ↔
    ∀ now data, Machine.Takes (Machine.emitting traced) (initial.reset, []) inputs now data →
      ¬now.1.Forgets data := by
  simp only [Machine.run_map]
  have fresh : initial.reset.Fresh := fun _ => rfl
  refine Machine.follows_iff traced (fun isOpen entry => eventOrder isOpen entry.2)
    (fun self => self.state.eventActive) fresh (fun self data _ => fresh_evaluateInput self data)
    fun self data fresh => ?_
  have follows := (self.evaluateInput_follows data).event
  rw [← eventActive_syncDate fresh, traced, ← Machine.run_map Prod.snd, List.map_map]
  rw [show Prod.snd ∘ (fun signal : Track9Signal => (data, signal)) = id from rfl, List.map_id]
  exact Machine.leads_iff eventOrder eventOrder_injective follows

/-- On the next date a strangle is entered over the one that is held, or it is just dropped. -/
theorem event_strangle_forgotten_overnight :
    let run (ivSpike : ℚ) := Machine.run (Machine.emitting evaluateInput) ({}, [])
      [insured 4 "2026-09-04" "15:30:00", insured ivSpike "2026-09-07" "08:50:00"]
    let directions (ivSpike : ℚ) := (run ivSpike).map fun now => now.2.map (·.direction)
    directions 4 = some [.holdInsurance, .enterEventStrangle, .holdInsurance,
        .enterEventStrangle] ∧
      (run 4).bind (fun now => Machine.run eventOrder false now.2) = none ∧
      directions 0 = some [.holdInsurance, .enterEventStrangle, .holdInsurance] ∧
      (run 0).map (fun now => now.1.state.eventActive) = some false := by
  decide +kernel

end Track9EventOvernightInsurance
end OptionProject.Strategies
