import OptionProject.Library.Machine
import OptionProject.Strategies.Track7

/-!
# Insurance and skew arbitrage are closed before they are opened again

The evaluators of Track 7, called in any order, keep the signals of both positions in their order:
an insurance is bought and closed by turns, and a skew arbitrage is entered, may be forced to the
market once, and is closed. What breaks the order is a reset that drops an open position without a
signal, be it the roll-over of another date or the reset behind a close of the insurance.

## Main definitions

* `holdings` — the order of the signals, on what is held.
* `Track7Call.Forgets` — the calls that break it.

## Main results

* `Track7VolatilitySkewWeeklyInsurance.positions_follow_iff` — the runs along which it is kept.
* `Track7VolatilitySkewWeeklyInsurance.evaluate_silent` — on its own `evaluate` opens nothing.
-/
namespace OptionProject.Strategies
open Library

inductive SkewStage
  | flat
  | limit
  | market
  deriving DecidableEq

/-- What the signals so far leave open. -/
structure Track7Holdings where
  insured : Bool
  skew : SkewStage
  deriving DecidableEq

/-- The monitor of the signals. -/
def holdings (held : Track7Holdings) (signal : Track7Signal) : Option Track7Holdings :=
  match signal.direction with
  | .buyLimitWeeklyInsurance => if held.insured then none else some { held with insured := true }
  | .closeWeeklyInsurancePreemptiveD4 | .closeWeeklyInsuranceFallbackMarket =>
    if held.insured then some { held with insured := false } else none
  | .closeWeeklyInsuranceLimit => if held.insured then some held else none
  | .enterSkewArbLimit => if held.skew = .flat then some { held with skew := .limit } else none
  | .enterSkewArbFallbackMarket =>
    if held.skew = .limit then some { held with skew := .market } else none
  | .closeSkewArbStopLoss | .closeSkewArbLimit =>
    if held.skew = .flat then none else some { held with skew := .flat }
  | .cancel | .preemptiveLimitTakeProfit => some held

/-- A call of one of the methods. -/
inductive Track7Call
  | insuranceBuy (data : Track7MarketInput)
  | skewArbitrage (data : Track7MarketInput)
  | preemptiveTakeProfit (data : Track7MarketInput)
  | expiryCutoff (data : Track7MarketInput)
  | evaluate (contextId : Option String) (payload : Option Track7MarketInput)
  | reset

namespace Track7VolatilitySkewWeeklyInsurance

variable {self : Track7VolatilitySkewWeeklyInsurance} {data : Track7MarketInput}

def perform (self : Track7VolatilitySkewWeeklyInsurance) :
    Track7Call → List Track7Signal × Track7VolatilitySkewWeeklyInsurance
  | .insuranceBuy data => self.evaluateInsuranceBuy data
  | .skewArbitrage data => self.evaluateSkewArbitrage data
  | .preemptiveTakeProfit data => (evaluatePreemptiveTakeProfit data, self)
  | .expiryCutoff data => self.evaluateExpiryCutoff data
  | .evaluate contextId payload => self.evaluate contextId payload
  | .reset => ([], self.reset)

/-- What the state says is held. -/
def held (self : Track7VolatilitySkewWeeklyInsurance) : Track7Holdings where
  insured := self.state.insuranceActive
  skew := if self.state.skewActive then if self.state.skewLimitPending then .limit else .market
    else .flat

/-- The date goes with the insurance, and only an open arbitrage has a pending limit order. -/
structure Coherent (strategy : Track7VolatilitySkewWeeklyInsurance) : Prop where
  dated : strategy.state.boughtDate.isSome = strategy.state.insuranceActive
  pending : strategy.state.skewLimitPending = true → strategy.state.skewActive = true

theorem coherent_reset : self.reset.Coherent := ⟨rfl, by simp [reset]⟩

/-- The insurance was bought on another date: it is dropped, and the arbitrage with it. -/
def Stale (self : Track7VolatilitySkewWeeklyInsurance) (data : Track7MarketInput) : Prop :=
  self.state.insuranceActive = true ∧ self.state.boughtDate ≠ some data.dateStr

/-- The cutoff closes the insurance and resets the state. -/
def Closes (self : Track7VolatilitySkewWeeklyInsurance) (data : Track7MarketInput) : Prop :=
  self.state.insuranceActive = true ∧
    (self.expiryMode = "D-4" ∧ self.state.boughtDate = some data.dateStr ∧
        "15:00:00" ≤ data.timeStr ∨
      (data.isExpiryDay = true ∨ data.isWeekEnd = true) ∧ "15:15:00" ≤ data.timeStr)

/-- What a call does with a market input: a cutoff directly or through `evaluate`. -/
def cutoffInput? : Track7Call → Option Track7MarketInput
  | .expiryCutoff data => some data
  | .evaluate contextId payload =>
    payload.filter fun data => contextId = some strategyId ∧ data.strategyId = strategyId
  | _ => none

/-- The call drops a position without a signal. -/
def Forgets (self : Track7VolatilitySkewWeeklyInsurance) : Track7Call → Prop
  | .insuranceBuy data => self.Stale data
  | .reset => self.state.insuranceActive = true ∨ self.state.skewActive = true
  | call => self.state.skewActive = true ∧ ∃ data, cutoffInput? call = some data ∧ self.Closes data

/-! ## Calls -/

/-- The signals lead from what was held to what the state says is held. -/
def Leads (self : Track7VolatilitySkewWeeklyInsurance)
    (result : List Track7Signal × Track7VolatilitySkewWeeklyInsurance) : Prop :=
  Machine.run holdings self.held result.1 = some result.2.held

@[simp] theorem held_reset : self.reset.held = ⟨false, .flat⟩ := rfl

@[simp] theorem insured_held : self.held.insured = self.state.insuranceActive := rfl

@[simp] theorem skew_held_eq_flat : self.held.skew = .flat ↔ self.state.skewActive = false := by
  unfold held
  grind

theorem held_eq_nothing_iff {insured : Bool} :
    self.held = ⟨insured, .flat⟩ ↔
      self.state.insuranceActive = insured ∧ self.state.skewActive = false := by
  rw [← insured_held, ← skew_held_eq_flat]
  constructor
  · intro same
    rw [same]
    exact ⟨rfl, rfl⟩
  · rintro ⟨rfl, flat⟩
    rw [← flat]

theorem leads_nil : self.Leads ([], self) := rfl

/-- A close of the insurance with the reset behind it drops the arbitrage, if one is open. -/
theorem leads_close_iff {signal : Track7Signal} (insured : self.state.insuranceActive = true)
    (close : signal.direction = .closeWeeklyInsurancePreemptiveD4 ∨
      signal.direction = .closeWeeklyInsuranceFallbackMarket) :
    self.Leads ([signal], self.reset) ↔ self.state.skewActive = false := by
  have accepted : holdings self.held signal = some { self.held with insured := false } := by
    rcases close with close | close <;> simp [holdings, close, insured]
  simp [Leads, Machine.run, accepted]

theorem evaluateExpiryCutoff_leads_iff :
    self.Leads (self.evaluateExpiryCutoff data) ↔
      ¬(self.state.skewActive = true ∧ self.Closes data) := by
  unfold evaluateExpiryCutoff Closes
  split
  next idle => simp_all [leads_nil]
  next active =>
    simp only [Bool.not_eq_true', Bool.not_eq_false] at active
    split
    next preemptive =>
      rw [leads_close_iff active (.inl rfl)]
      simp [active, preemptive]
    next ordinary =>
      split
      next later =>
        refine iff_of_true leads_nil ?_
        rintro ⟨-, -, closes | ⟨expiring, -⟩⟩
        · exact ordinary closes
        · simp_all
      next expiring =>
        replace expiring : data.isExpiryDay = true ∨ data.isWeekEnd = true := by
          grind
        split
        next window =>
          refine iff_of_true (by simp [Leads, Machine.run, holdings, active]) ?_
          rintro ⟨-, -, closes | ⟨-, late⟩⟩
          · exact ordinary closes
          · exact String.not_lt.mpr late window.2
        next outside =>
          split
          next late =>
            rw [leads_close_iff active (.inr rfl)]
            simp [active, expiring, late]
          next early =>
            refine iff_of_true leads_nil ?_
            rintro ⟨-, -, closes | ⟨-, late⟩⟩
            · exact ordinary closes
            · exact early late

theorem buy_leads (self : Track7VolatilitySkewWeeklyInsurance) (data : Track7MarketInput) :
    self.Leads (self.buy data) := by
  unfold buy
  split
  · exact leads_nil
  next idle =>
    rw [Bool.not_eq_true] at idle
    split
    · simp [Leads, Machine.run, holdings]
    split
    · exact leads_nil
    dsimp only
    split
    · exact leads_nil
    · simp [Leads, Machine.run, holdings, idle]
      rfl

/-- Behind a reset that dropped an insurance no signal of a purchase fits. -/
theorem not_leads_buy_reset (insured : self.state.insuranceActive = true) :
    ¬self.Leads (self.reset.buy data) := by
  have idle : self.reset.state.insuranceActive = false := rfl
  have dropped : self.held ≠ self.reset.held := by
    rw [held_reset, Ne, held_eq_nothing_iff]
    simp [insured]
  unfold buy Leads
  rw [idle]
  simp only [Bool.false_eq_true, if_false]
  split
  · simpa [Machine.run, holdings] using dropped
  split
  · simpa [Machine.run] using dropped
  split
  · simpa [Machine.run] using dropped
  · simp [Machine.run, holdings, insured]

/-- The signals of a purchase lead on from what the roll-over leaves. -/
theorem evaluateInsuranceBuy_leads_iff (coherent : self.Coherent) :
    self.Leads (self.evaluateInsuranceBuy data) ↔ ¬self.Stale data := by
  by_cases stale : self.Stale data
  · have dropped : self.rollOver data = self.reset :=
      if_pos ⟨Ne.symm stale.2, coherent.dated.trans stale.1⟩
    rw [evaluateInsuranceBuy, dropped]
    exact iff_of_false (not_leads_buy_reset stale.1) (not_not_intro stale)
  · have kept : self.rollOver data = self := by
      refine if_neg ?_
      rintro ⟨other, bought⟩
      exact stale ⟨coherent.dated.symm.trans bought, Ne.symm other⟩
    rw [evaluateInsuranceBuy, kept]
    exact iff_of_true (buy_leads self data) stale

theorem evaluateSkewArbitrage_leads (self : Track7VolatilitySkewWeeklyInsurance)
    (data : Track7MarketInput) :
    self.Leads (self.evaluateSkewArbitrage data) := by
  unfold evaluateSkewArbitrage
  split
  next callIv putIv _ _ =>
    dsimp only
    split
    next flat =>
      split
      · exact leads_nil
      · simp_all [Leads, Machine.run, holdings, held]
    next open_ =>
      simp only [Bool.not_eq_true', Bool.not_eq_false] at open_
      split
      · simp_all [Leads, Machine.run, holdings, held]
      · split
        · simp_all [Leads, Machine.run, holdings, held]
          grind
        · split
          · simp_all [Leads, Machine.run, holdings, held]
            grind
          · exact leads_nil
  · exact leads_nil

theorem evaluatePreemptiveTakeProfit_leads (self : Track7VolatilitySkewWeeklyInsurance)
    (data : Track7MarketInput) : self.Leads (evaluatePreemptiveTakeProfit data, self) := by
  unfold evaluatePreemptiveTakeProfit
  split
  · dsimp only
    split
    · simp [Leads, Machine.run, holdings]
    · exact leads_nil
  · exact leads_nil

/-- An evaluation is a cutoff or nothing. -/
theorem evaluate_eq (self : Track7VolatilitySkewWeeklyInsurance) (contextId : Option String)
    (payload : Option Track7MarketInput) :
    self.evaluate contextId payload =
      match cutoffInput? (.evaluate contextId payload) with
      | none => ([], self)
      | some data => self.evaluateExpiryCutoff data := by
  cases payload with
  | none => rfl
  | some data =>
    by_cases own : contextId = some strategyId ∧ data.strategyId = strategyId
    · have called : self.evaluate contextId (some data) = self.evaluateInput data := by
        simp [evaluate, own]
      have input : cutoffInput? (.evaluate contextId (some data)) = some data := by
        simp [cutoffInput?, own]
      rw [called, input, evaluateInput]
      split
      · rfl
      next idle => simp [evaluateExpiryCutoff, idle]
    · have input : cutoffInput? (.evaluate contextId (some data)) = none := by
        simpa [cutoffInput?] using own
      rw [input]
      unfold evaluate
      grind

theorem coherent_rollOver (coherent : self.Coherent) (data : Track7MarketInput) :
    (self.rollOver data).Coherent := by
  unfold rollOver
  split
  · exact coherent_reset
  · exact coherent

theorem coherent_buy (coherent : self.Coherent) (data : Track7MarketInput) :
    (self.buy data).2.Coherent := by
  unfold buy
  split_ifs <;> try exact coherent
  dsimp only
  split
  · exact coherent
  · exact ⟨rfl, coherent.pending⟩

theorem coherent_cutoff (coherent : self.Coherent) (data : Track7MarketInput) :
    (self.evaluateExpiryCutoff data).2.Coherent := by
  unfold evaluateExpiryCutoff
  split_ifs <;> first | exact coherent | exact coherent_reset

theorem coherent_skew (coherent : self.Coherent) (data : Track7MarketInput) :
    (self.evaluateSkewArbitrage data).2.Coherent := by
  unfold evaluateSkewArbitrage
  split
  · dsimp only
    split_ifs <;> first | exact coherent | exact ⟨coherent.dated, by simp⟩
  · exact coherent

theorem coherent_perform (coherent : self.Coherent) (call : Track7Call) :
    (self.perform call).2.Coherent := by
  cases call with
  | insuranceBuy data => exact coherent_buy (coherent_rollOver coherent data) data
  | skewArbitrage data => exact coherent_skew coherent data
  | preemptiveTakeProfit data => exact coherent
  | expiryCutoff data => exact coherent_cutoff coherent data
  | evaluate contextId payload =>
    rw [perform, evaluate_eq]
    split
    · exact coherent
    · exact coherent_cutoff coherent _
  | reset => exact coherent_reset

theorem perform_leads_iff (coherent : self.Coherent) (call : Track7Call) :
    self.Leads (self.perform call) ↔ ¬self.Forgets call := by
  cases call with
  | insuranceBuy data => exact evaluateInsuranceBuy_leads_iff coherent
  | skewArbitrage data =>
    exact iff_of_true (evaluateSkewArbitrage_leads self data) (by simp [Forgets, cutoffInput?])
  | preemptiveTakeProfit data =>
    exact iff_of_true (evaluatePreemptiveTakeProfit_leads self data)
      (by simp [Forgets, cutoffInput?])
  | expiryCutoff data =>
    rw [perform, evaluateExpiryCutoff_leads_iff]
    simp [Forgets, cutoffInput?]
  | evaluate contextId payload =>
    rw [perform, evaluate_eq]
    split
    next none => exact iff_of_true leads_nil (by simp [Forgets, none])
    next data some =>
      rw [evaluateExpiryCutoff_leads_iff]
      simp [Forgets, some]
  | reset =>
    simp only [perform, Leads, Machine.run_nil, Option.some.injEq, Forgets, held_reset,
      held_eq_nothing_iff]
    grind

/-! ## Runs -/

/-- Along a run of calls in any order the signals open and close both positions by turns, and the
state shows what they leave open, exactly when no call of it drops an open position. -/
theorem positions_follow_iff (initial : Track7VolatilitySkewWeeklyInsurance)
    (calls : List Track7Call) :
    (∀ now, Machine.Visits (Machine.emitting perform) (initial.reset, []) calls now →
      Machine.run holdings ⟨false, .flat⟩ now.2 = some now.1.held) ↔
    ∀ now call, Machine.Takes (Machine.emitting perform) (initial.reset, []) calls now call →
      ¬now.1.Forgets call :=
  Machine.follows_iff perform holdings held (coherent_reset : initial.reset.Coherent)
    (fun _ call coherent => coherent_perform coherent call)
    fun _ call coherent => perform_leads_iff coherent call

/-- A Monday on which insurance is bought and an arbitrage entered, at the given time. -/
def expiryMonday (timeStr : String) : Track7MarketInput where
  strategyId := strategyId
  currentPrice := 350
  budget := 1000000
  dateStr := "2026-09-07"
  isNewWeekStart := true
  activeVol := 1
  callIv := some 12
  putIv := some 16
  timeStr := timeStr
  isExpiryDay := true

/-- The cutoff drops the arbitrage. -/
example :
    (Machine.run (Machine.emitting perform) ({}, [])
      [.insuranceBuy (expiryMonday "09:00:00"), .skewArbitrage (expiryMonday "09:00:00"),
        .expiryCutoff (expiryMonday "15:20:00")]).map
      (fun now => (now.2.map (·.direction), now.1.held)) =
    some ([.buyLimitWeeklyInsurance, .enterSkewArbLimit, .closeWeeklyInsuranceFallbackMarket],
      ⟨false, .flat⟩) := by
  decide +kernel

/-- A run of `evaluate` alone never signals. -/
theorem evaluate_silent (initial : Track7VolatilitySkewWeeklyInsurance)
    {inputs : List (Option String × Option Track7MarketInput)}
    {now : Track7VolatilitySkewWeeklyInsurance × List Track7Signal}
    (visited : Machine.Visits (Machine.emitting fun self (input : _ × _) =>
      self.evaluate input.1 input.2) (initial.reset, []) inputs now) :
    now = (initial.reset, []) := by
  refine Machine.visits_kept (P := fun now => now = (initial.reset, [])) rfl ?_ visited
  rintro _ input _ rfl moved
  have silent : initial.reset.evaluate input.1 input.2 = ([], initial.reset) := by
    rw [evaluate_eq]
    split <;> rfl
  rw [Machine.emitting_eq_some, silent] at moved
  exact moved.symm

end Track7VolatilitySkewWeeklyInsurance
end OptionProject.Strategies
