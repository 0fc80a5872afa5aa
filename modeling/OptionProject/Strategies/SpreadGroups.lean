import OptionProject.Library.Machine
import OptionProject.Strategies.Track3

/-!
# Spread groups are closed as they were opened

The signals of a run of Track 3 open and close spread groups by turns, and each group is closed
with the quantity it was opened with, as long as no new date comes while a group is held and no
group of another quantity than 1 is closed.

## Main definitions

* `pairing` — the order of the signals.
* `Track3StatisticalArbitrage.Forgets`, `Track3StatisticalArbitrage.Miscloses` — the evaluations
  that break it.

## Main results

* `Track3StatisticalArbitrage.paired_of_safe` — the order along every run.
-/
namespace OptionProject.Strategies
open Library Contracts

variable {F : Type}

/-- A group, by its id and its quantity. -/
abbrev Group := Option String × ℤ

/-- The monitor of the signals; its state is the group that is open. -/
def pairing (opened : Option Group) (signal : StatArbSignal F) : Option (Option Group) :=
  match opened, signal.action with
  | none, .execute => some (some (signal.groupId, signal.qty))
  | some group, .close => if (signal.groupId, signal.qty) = group then some none else none
  | _, _ => none

namespace Track3StatisticalArbitrage

variable [FloatArithmetic F] {self : Track3StatisticalArbitrage F} {data : Track3MarketInput F}

/-- The group that is held, as its legs record it. -/
def heldGroup (self : Track3StatisticalArbitrage F) : Option Group :=
  self.activePosition.map fun _ =>
    (self.activeGroupId, (self.positionGroupLegs.head?.map (·.qty)).getD 0)

/-- A new date comes while a group is held. -/
def Forgets (self : Track3StatisticalArbitrage F) (data : Track3MarketInput F) : Prop :=
  data.dateStr ≠ "" ∧ data.dateStr ≠ self.currentDate ∧ self.activePosition ≠ none

/-- The rules close the position that is held. -/
def Closes (self : Track3StatisticalArbitrage F) (data : Track3MarketInput F) : Prop :=
  ∃ position zScore carry, self.activePosition = some position ∧
    calculateZScore data.spreadHistory = .ok (zScore, true) ∧
    calculateOptionsCarryAndTheta data = .ok carry ∧
    (flattens data ∨
      (self.count.watch (data.currentPnl + carry)).exitRule data (detectMarketRegime data) position
        zScore (data.currentPnl + carry) ≠ none)

/-- A group that is not of quantity 1 is closed. -/
def Miscloses (self : Track3StatisticalArbitrage F) (data : Track3MarketInput F) : Prop :=
  self.Closes data ∧ ∃ group ∈ self.heldGroup, group.2 ≠ 1

/-! ## Evaluations -/

theorem cooldown_of_exitRule {regime : MarketRegime} {position : SpreadPosition}
    {zScore effectivePnl : F} {exit : Exit F}
    (found : self.exitRule data regime position zScore effectivePnl = some exit) :
    0 ≤ exit.cooldown := by
  unfold exitRule at found
  split at found
  · cases found
    simp
  split at found
  · cases found
    simp
  split at found
  · cases found
    simp
  simp only at found
  split at found
  · cases found
    simp
  · cases found

theorem enter_cases (self : Track3StatisticalArbitrage F) (data : Track3MarketInput F)
    (regime : MarketRegime) (zScore : F) :
    (∃ e, self.enter data regime zScore = (.error e, self)) ∨
    (∃ status, self.enter data regime zScore = (.ok ⟨status, regime.value, zScore, []⟩, self)) ∨
    ¬"15:00:00" ≤ data.timeStr ∧ ∃ position qty net, 0 < qty ∧ self.enter data regime zScore =
      (.ok ⟨"ENTER", regime.value, zScore, [(self.openGroup data position qty net).1]⟩,
        (self.openGroup data position qty net).2) := by
  unfold enter
  simp only
  split
  · exact .inr (.inl ⟨_, rfl⟩)
  next free =>
  obtain ⟨early, free⟩ := not_or.mp free
  have some_qty : 0 < (self.entryTerms data regime zScore).qty := by
    unfold entryTerms
    cases regime with
    | extremeMove => exact absurd (.inl rfl) free
    | highVolatility => exact Int.one_pos
    | gap => exact Int.one_pos
    | normal =>
      simp only
      split <;> decide
  split
  · exact .inr (.inl ⟨_, rfl⟩)
  split
  · exact .inr (.inl ⟨_, rfl⟩)
  split
  next e _ => exact .inl ⟨e, rfl⟩
  next gross _ =>
    split
    · exact .inr (.inl ⟨_, rfl⟩)
    split
    · exact .inr (.inr ⟨early, .short, _, _, some_qty, rfl⟩)
    split
    · exact .inr (.inr ⟨early, .long, _, _, some_qty, rfl⟩)
    · exact .inr (.inl ⟨_, rfl⟩)

/-- A position is closed as it was before or after the profit was compared, or it is kept. -/
theorem hold_cases (self : Track3StatisticalArbitrage F) (data : Track3MarketInput F)
    (regime : MarketRegime) (position : SpreadPosition) (zScore effectivePnl : F) :
    let watched := self.count.watch effectivePnl
    (∃ held exit, (held = self.count ∨ held = watched) ∧ 0 ≤ exit.cooldown ∧
      (flattens data ∨ watched.exitRule data regime position zScore effectivePnl ≠ none) ∧
      self.hold data regime position zScore effectivePnl = held.close position zScore exit) ∨
    ¬flattens data ∧ watched.exitRule data regime position zScore effectivePnl = none ∧
      self.hold data regime position zScore effectivePnl =
        (⟨"HOLD", regime.value, zScore, []⟩, watched) := by
  intro watched
  unfold hold
  simp only
  split
  next flat => exact .inl ⟨self.count, _, .inl rfl, by simp, .inl flat, rfl⟩
  next late =>
    split
    next exit found =>
      refine .inl ⟨watched, exit, .inr rfl, cooldown_of_exitRule found, .inr fun kept => ?_, rfl⟩
      cases found.symm.trans kept
    next kept => exact .inr ⟨late, kept, rfl⟩

omit [FloatArithmetic F] in
/-- A new date that forgets nothing comes while no position is held. -/
theorem rollOver_cases (keeps : ¬self.Forgets data) :
    self.rollOver data = self ∨
      self.activePosition = none ∧ (self.rollOver data).activePosition = none := by
  unfold rollOver
  split
  next date =>
    refine .inr ⟨?_, rfl⟩
    by_contra held
    exact keeps ⟨date.1, date.2, held⟩
  next => exact .inl rfl

omit [FloatArithmetic F] in
theorem heldGroup_cool (self : Track3StatisticalArbitrage F) :
    self.cool.heldGroup = self.heldGroup ∧ self.cool.activePosition = self.activePosition ∧
      self.cool.activeGroupId = self.activeGroupId := by
  unfold cool
  split <;> exact ⟨rfl, rfl, rfl⟩

theorem exitRule_cool (self : Track3StatisticalArbitrage F) (data : Track3MarketInput F)
    (regime : MarketRegime) (position : SpreadPosition) (zScore effectivePnl : F) :
    (self.cool.count.watch effectivePnl).exitRule data regime position zScore effectivePnl =
      (self.count.watch effectivePnl).exitRule data regime position zScore effectivePnl := by
  unfold cool
  split <;> rfl

/-- What an evaluation emits; one that raises emits nothing. -/
def emitted : Except Raised (Track3Result F) → List (StatArbSignal F)
  | .ok result => result.signals
  | .error _ => []

/-- There are a score of the spreads and a carry of the legs. -/
structure Scored (data : Track3MarketInput F) (zScore carry : F) : Prop where
  scored : calculateZScore data.spreadHistory = .ok (zScore, true)
  carried : calculateOptionsCarryAndTheta data = .ok carry

/-- An evaluation ends without a signal, or comes to the entry or the exit rules. -/
theorem evaluateInput_cases (self : Track3StatisticalArbitrage F) (data : Track3MarketInput F) :
    let rolled := self.rollOver data
    ((∀ zScore carry, ¬Scored data zScore carry) ∧ emitted (self.evaluateInput data).1 = [] ∧
      ((self.evaluateInput data).2 = rolled ∨ (self.evaluateInput data).2 = rolled.cool)) ∨
    ∃ zScore carry, Scored data zScore carry ∧ self.evaluateInput data =
      match rolled.cool.activePosition with
      | none => rolled.cool.enter data (detectMarketRegime data) zScore
      | some position =>
        let (result, next) := rolled.cool.hold data (detectMarketRegime data) position zScore
          (data.currentPnl + carry)
        (.ok result, next) := by
  intro rolled
  unfold evaluateInput
  cases scored : calculateZScore data.spreadHistory with
  | error e =>
    refine .inl ⟨fun zScore carry score => ?_, rfl, .inl rfl⟩
    cases scored.symm.trans score.scored
  | ok score =>
    obtain ⟨zScore, valid⟩ := score
    cases valid with
    | false =>
      refine .inl ⟨fun zScore carry score => ?_, rfl, .inr rfl⟩
      cases scored.symm.trans score.scored
    | true =>
      cases carried : calculateOptionsCarryAndTheta data with
      | error e =>
        refine .inl ⟨fun zScore carry score => ?_, rfl, .inr rfl⟩
        cases carried.symm.trans score.carried
      | ok carry => exact .inr ⟨zScore, carry, ⟨scored, carried⟩, rfl⟩

omit [FloatArithmetic F] in
theorem heldGroup_eq_none : self.heldGroup = none ↔ self.activePosition = none :=
  Option.map_eq_none_iff

/-- A group that is closed without being misclosed is of quantity 1. -/
theorem exact_of_closes {side : SpreadPosition} {zScore carry : F}
    (held : self.activePosition = some side) (score : Scored data zScore carry)
    (closes : flattens data ∨
      (self.count.watch (data.currentPnl + carry)).exitRule data (detectMarketRegime data) side
        zScore (data.currentPnl + carry) ≠ none)
    (exact : ¬self.Miscloses data) : self.heldGroup = some (self.activeGroupId, 1) := by
  have group : self.heldGroup =
      some (self.activeGroupId, (self.positionGroupLegs.head?.map (·.qty)).getD 0) := by
    rw [heldGroup, held, Option.map_some]
  have one : (self.positionGroupLegs.head?.map (·.qty)).getD 0 = 1 := by
    by_contra other
    exact exact ⟨⟨side, zScore, carry, held, score.scored, score.carried, closes⟩, _, group, other⟩
  rw [group, one]

/-- The signals of one evaluation lead from the group held before to the group held after. -/
theorem paired_evaluateInput (keeps : ¬self.Forgets data) (exact : ¬self.Miscloses data) :
    Machine.run pairing self.heldGroup (emitted (self.evaluateInput data).1) =
      some (self.evaluateInput data).2.heldGroup := by
  have rolls := rollOver_cases keeps
  have rolled : (self.rollOver data).heldGroup = self.heldGroup := by
    rcases rolls with same | ⟨flat, flat'⟩
    · rw [same]
    · rw [heldGroup_eq_none.mpr flat, heldGroup_eq_none.mpr flat']
  obtain ⟨cooled, position, active⟩ := heldGroup_cool (self.rollOver data)
  rw [rolled] at cooled
  rcases self.evaluateInput_cases data with
    ⟨-, silent, next | next⟩ | ⟨zScore, carry, score, evaluated⟩
  · rw [silent, next, rolled, Machine.run_nil]
  · rw [silent, next, cooled, Machine.run_nil]
  rw [evaluated]
  cases held : (self.rollOver data).cool.activePosition with
  | none =>
    have flat : self.heldGroup = none := cooled ▸ heldGroup_eq_none.mpr held
    rcases enter_cases (self.rollOver data).cool data (detectMarketRegime data) zScore with
      ⟨e, returned⟩ | ⟨status, returned⟩ | ⟨-, side, qty, net, -, returned⟩
    · simp only [returned, emitted, Machine.run_nil, cooled]
    · simp only [returned, emitted, Machine.run_nil, cooled]
    · simp only [returned, emitted, flat]
      rfl
  | some side =>
    have same : self.rollOver data = self := by
      refine rolls.resolve_right fun flat => ?_
      cases held.symm.trans (position.trans flat.2)
    rw [same] at held position active cooled ⊢
    rcases hold_cases self.cool data (detectMarketRegime data) side zScore
      (data.currentPnl + carry) with ⟨before, exit, either, -, closes, returned⟩ | ⟨-, -, returned⟩
    · rw [exitRule_cool] at closes
      have one := exact_of_closes (position.symm.trans held) score closes exact
      have closing : before.activeGroupId = self.activeGroupId := by
        rcases either with rfl | rfl <;> exact active
      simp only [returned, emitted, one]
      simp [Machine.run, pairing, close, closeSignal, heldGroup, closing]
    · simp only [returned, emitted, Machine.run_nil]
      exact congrArg some cooled.symm

/-! ## Runs -/

/-- The strategy with the signals emitted so far. An evaluation that raises emits none and leaves
the strategy as it got. -/
def step (now : Track3StatisticalArbitrage F × List (StatArbSignal F))
    (data : Track3MarketInput F) :
    Option (Track3StatisticalArbitrage F × List (StatArbSignal F)) :=
  let (result, next) := now.1.evaluateInput data
  some (next, now.2 ++ emitted result)

/-- Along every run from the initial state in which no date change forgets a group and no group of
another quantity than 1 is closed, the signals open and close groups by turns, each group closed
with its id and its quantity. -/
theorem paired_of_safe (initial : Track3StatisticalArbitrage F)
    {inputs : List (Track3MarketInput F)}
    (safe : ∀ now data, Machine.Takes step (initial.reset, []) inputs now data →
      ¬now.1.Forgets data ∧ ¬now.1.Miscloses data) :
    ∀ now, Machine.Visits step (initial.reset, []) inputs now →
      Machine.run pairing none now.2 = some now.1.heldGroup := by
  refine Machine.visits_invariant rfl ?_ safe
  rintro ⟨self, signals⟩ data _ paired ⟨keeps, exact⟩ ⟨⟩
  rw [Machine.run_append, paired]
  exact paired_evaluateInput keeps exact

/-! ## Runs on exact numbers -/

/-- The root of a square. -/
def rootOfSquare (q : ℚ) : ℚ := q.num.natAbs.sqrt / q.den.sqrt

/-- Exact numbers in the place of floats, with deviations that are rational. -/
@[reducible] def exactArithmetic : FloatArithmetic ℚ where
  lit q := q
  ofInt n := .ok n
  abs q := |q|
  lt a b := a < b
  le a b := a ≤ b
  same a b := a = b
  isFinite _ := true
  mean values := .ok (values.sum / values.length)
  pstdev values :=
    let mean := values.sum / values.length
    .ok (rootOfSquare ((values.map fun value => (value - mean) ^ 2).sum / values.length))
  text q := toString q

/-- The default thresholds. -/
def exactTrack3 : Track3StatisticalArbitrage ℚ where
  zEntryThreshold := 2
  zExitThreshold := 0.2
  zStopLossThreshold := 3.5
  minRequiredProfit := 15000
  baseRoundTripCost := 10000
  arbHighPnl := 0

/-- The last of ten spreads is three deviations above their mean. -/
def wideSpread (timeStr dateStr : String) (allowSizeUp : Bool) : Track3MarketInput ℚ where
  spreadHistory := [0, 0, 0, 0, 0, 0, 0, 0, 0, 10]
  activeVol := 1
  baseVol := 1
  priceChangeRate := 0
  bidAskSpread := 0
  gapPct := 0
  timeStr := timeStr
  allowSizeUp := allowSizeUp
  currentPnl := 0
  totalFees := 0
  premiumSpent := 0
  currentPrice := 0
  dateStr := dateStr

omit [FloatArithmetic F] in
/-- A group of quantity 1 is opened in the morning and flattened at 15:15. -/
theorem paired_of_safe_flattened :
    letI := exactArithmetic
    let inputs :=
      [wideSpread "09:30:00" "2026-01-02" false, wideSpread "15:15:00" "2026-01-02" false]
    ∀ now, Machine.Visits step (exactTrack3.reset, []) inputs now →
      Machine.run pairing none now.2 = some now.1.heldGroup := by
  let := exactArithmetic
  refine paired_of_safe exactTrack3 fun now data takes => ?_
  rcases Machine.takes_cons.mp takes with ⟨rfl, rfl⟩ | ⟨_, ⟨⟩, takes⟩
  · refine ⟨fun forgets => forgets.2.2 rfl, ?_⟩
    rintro ⟨-, group, ⟨⟩, -⟩
  rcases Machine.takes_cons.mp takes with ⟨rfl, rfl⟩ | ⟨_, -, takes⟩
  · refine ⟨fun forgets => forgets.2.1 (by decide +kernel), ?_⟩
    rintro ⟨-, group, there, other⟩
    have held : (exactTrack3.reset.evaluateInput
        (wideSpread "09:30:00" "2026-01-02" false)).2.heldGroup =
        some (some "ARB-GROUP-2026-01-02-TRACK3-0001", 1) := by decide +kernel
    exact other (congrArg Prod.snd (Option.some.inj (there.symm.trans held)))
  · exact (Machine.takes_nil takes).elim

omit [FloatArithmetic F] in
/-- A group of quantity 2 is closed with quantity 1; a group is forgotten on the next date. -/
theorem not_paired :
    letI := exactArithmetic
    let sizedUp :=
      [wideSpread "09:30:00" "2026-01-02" true, wideSpread "15:15:00" "2026-01-02" true]
    let overnight :=
      [wideSpread "09:30:00" "2026-01-02" false, wideSpread "09:30:00" "2026-01-05" false]
    let signals inputs := (Machine.run step (exactTrack3.reset, []) inputs).map Prod.snd
    let sizes (emitted : List (StatArbSignal ℚ)) := emitted.map fun signal =>
      (signal.action, signal.qty)
    (signals sizedUp).map sizes = some [(.execute, 2), (.close, 1)] ∧
    (signals sizedUp).bind (Machine.run pairing none) = none ∧
    (signals overnight).map sizes = some [(.execute, 1), (.execute, 1)] ∧
    (signals overnight).bind (Machine.run pairing none) = none := by
  decide +kernel

end Track3StatisticalArbitrage
end OptionProject.Strategies
