import OptionProject.Library.Text
import OptionProject.Strategies.SpreadGroups

/-!
# The state of Track 3

The fields about the position of Track 3 are written together by every exit of an evaluation, and a
group id is never given twice. At the end of the day a position is closed, unless the new date has
dropped it or the evaluation ends before it comes to the rules.

## Main definitions

* `Track3StatisticalArbitrage.InStep` — the fields agree on the position.
* `entryIds` — the ids of the groups that were opened.
* `Track3StatisticalArbitrage.FlatAfter` — an evaluation leaves no position behind.

## Main results

* `Track3StatisticalArbitrage.inStep_of_run` — the fields and the ids along every run.
* `Track3StatisticalArbitrage.flatAfter_run_iff` — the runs that are flat from 15:15 on.
-/
namespace OptionProject.Strategies
open Library Contracts

variable {F : Type}

/-! ## Group ids -/

theorem dash_free_zeroPadded (width n : ℕ) : '-' ∉ (zeroPadded width n).toList :=
  fun dash => absurd (isDigit_zeroPadded dash) (by decide)

/-- The number of a group can be read back from its id, whatever text the date is. -/
theorem groupIdText_injective {data data' : Track3MarketInput F} {m n : ℕ}
    (same : Track3StatisticalArbitrage.groupIdText data m =
      Track3StatisticalArbitrage.groupIdText data' n) : m = n := by
  unfold Track3StatisticalArbitrage.groupIdText at same
  generalize (if data.dateStr = "" then "UNKNOWN" else data.dateStr) = date at same
  generalize (if data'.dateStr = "" then "UNKNOWN" else data'.dateStr) = date' at same
  rw [show "-TRACK3-" = "-TRACK3" ++ "-" from rfl, ← String.append_assoc,
    ← String.append_assoc] at same
  exact zeroPadded_injective 4 ((lastSeparator_inj '-' rfl (dash_free_zeroPadded 4 m)
    (dash_free_zeroPadded 4 n)).mp same).2

/-- The ids of the groups that are opened. -/
def entryIds (signals : List (StatArbSignal F)) : List (Option String) :=
  (signals.filter fun signal => signal.action = .execute).map (·.groupId)

@[simp] theorem entryIds_append (signals later : List (StatArbSignal F)) :
    entryIds (signals ++ later) = entryIds signals ++ entryIds later := by
  simp [entryIds]

namespace Track3StatisticalArbitrage

/-! ## The fields of the position -/

/-- Two legs of one quantity, under the id of the active group. -/
def Held (self : Track3StatisticalArbitrage F) : Prop :=
  ∃ groupId qty first second, self.activeGroupId = some groupId ∧ 0 < qty ∧
    self.positionGroupLegs = [⟨some groupId, first, qty⟩, ⟨some groupId, second, qty⟩] ∧
    self.holdingTicks < self.maxHoldingTicks

structure InStep (strategy : Track3StatisticalArbitrage F) : Prop where
  group_iff : strategy.activePosition = none ↔ strategy.activeGroupId = none
  legs_iff : strategy.activePosition = none ↔ strategy.positionGroupLegs = []
  flat : strategy.activePosition = none → strategy.holdingTicks = 0
  held : strategy.activePosition ≠ none → strategy.Held
  cooldown : 0 ≤ strategy.cooldownTicks

variable {self next : Track3StatisticalArbitrage F} {data : Track3MarketInput F}

/-- Nothing is held. -/
theorem inStep_of_flat (position : self.activePosition = none) (group : self.activeGroupId = none)
    (legs : self.positionGroupLegs = []) (ticks : self.holdingTicks = 0)
    (cooldown : 0 ≤ self.cooldownTicks) : self.InStep where
  group_iff := iff_of_true position group
  legs_iff := iff_of_true position legs
  flat _ := ticks
  held held := absurd position held
  cooldown := cooldown

theorem inStep_of_held (held : self.Held) (position : self.activePosition ≠ none)
    (cooldown : 0 ≤ self.cooldownTicks) : self.InStep := by
  have whole := held
  obtain ⟨groupId, qty, first, second, group, -, legs, -⟩ := held
  exact ⟨iff_of_false position (by simp [group]), iff_of_false position (by simp [legs]),
    fun flat => absurd flat position, fun _ => whole, cooldown⟩

theorem InStep.rollOver (inStep : self.InStep) : (self.rollOver data).InStep := by
  unfold Track3StatisticalArbitrage.rollOver
  split
  · exact inStep_of_flat rfl rfl rfl rfl le_rfl
  · exact inStep

theorem InStep.cool (inStep : self.InStep) : self.cool.InStep := by
  unfold Track3StatisticalArbitrage.cool
  split
  next waits => exact ⟨inStep.group_iff, inStep.legs_iff, inStep.flat, inStep.held, by simp; omega⟩
  next => exact inStep

/-- What neither a new date nor the cooling changes. -/
structure Keeps (before after : Track3StatisticalArbitrage F) : Prop where
  limit : after.maxHoldingTicks = before.maxHoldingTicks
  sequence : after.groupSequence = before.groupSequence

theorem keeps_rollOver (self : Track3StatisticalArbitrage F) (data : Track3MarketInput F) :
    Keeps self (self.rollOver data) := by
  unfold Track3StatisticalArbitrage.rollOver
  split
  · exact ⟨rfl, rfl⟩
  · exact ⟨rfl, rfl⟩

theorem keeps_cool (self : Track3StatisticalArbitrage F) : Keeps self self.cool := by
  unfold Track3StatisticalArbitrage.cool
  split
  · exact ⟨rfl, rfl⟩
  · exact ⟨rfl, rfl⟩

theorem keeps_close (self : Track3StatisticalArbitrage F) (position : SpreadPosition) (zScore : F)
    (exit : Exit F) : Keeps self (self.close position zScore exit).2 :=
  ⟨rfl, rfl⟩

theorem Keeps.trans {later : Track3StatisticalArbitrage F} (keeps : Keeps self next)
    (keeps' : Keeps next later) : Keeps self later :=
  ⟨keeps'.limit.trans keeps.limit, keeps'.sequence.trans keeps.sequence⟩

variable [FloatArithmetic F]

theorem keeps_watched (self : Track3StatisticalArbitrage F) (effectivePnl : F) :
    Keeps self (self.count.watch effectivePnl) :=
  ⟨rfl, rfl⟩

theorem InStep.openGroup (inStep : self.InStep) (ticks : 1 ≤ self.maxHoldingTicks)
    (position : SpreadPosition) {qty : ℤ} (some_qty : 0 < qty) (net : F) :
    (self.openGroup data position qty net).2.InStep :=
  inStep_of_held ⟨_, qty, _, _, rfl, some_qty, rfl, ticks⟩ nofun inStep.cooldown

omit [FloatArithmetic F] in
theorem inStep_close (position : SpreadPosition) (zScore : F) {exit : Exit F}
    (cooldown : 0 ≤ exit.cooldown) : (self.close position zScore exit).2.InStep :=
  inStep_of_flat rfl rfl rfl rfl cooldown

/-- Where no rule closes the position, its time is not over. -/
theorem ticks_of_kept {regime : MarketRegime} {position : SpreadPosition} {zScore effectivePnl : F}
    (kept : self.exitRule data regime position zScore effectivePnl = none) :
    self.holdingTicks < self.maxHoldingTicks := by
  unfold exitRule at kept
  split at kept
  · cases kept
  split at kept
  · cases kept
  split at kept
  · cases kept
  next later => exact not_le.mp later

theorem InStep.watch (inStep : self.InStep) (held : self.activePosition ≠ none) {effectivePnl : F}
    (ticks : (self.count.watch effectivePnl).holdingTicks <
      (self.count.watch effectivePnl).maxHoldingTicks) :
    (self.count.watch effectivePnl).InStep := by
  obtain ⟨groupId, qty, first, second, group, some_qty, legs, -⟩ := inStep.held held
  exact inStep_of_held ⟨groupId, qty, first, second, group, some_qty, legs, ticks⟩ held
    inStep.cooldown

theorem InStep.evaluateInput (inStep : self.InStep) (ticks : 1 ≤ self.maxHoldingTicks) :
    (self.evaluateInput data).2.InStep ∧
      (self.evaluateInput data).2.maxHoldingTicks = self.maxHoldingTicks := by
  have rolled : (self.rollOver data).InStep := inStep.rollOver
  have cooled := rolled.cool
  have synced := self.keeps_rollOver data
  have kept := synced.trans (self.rollOver data).keeps_cool
  rcases self.evaluateInput_cases data with ⟨-, -, same | same⟩ | ⟨zScore, carry, -, evaluated⟩
  · exact same ▸ ⟨rolled, synced.limit⟩
  · exact same ▸ ⟨cooled, kept.limit⟩
  rw [evaluated]
  cases held : (self.rollOver data).cool.activePosition with
  | none =>
    rcases enter_cases (self.rollOver data).cool data (detectMarketRegime data) zScore with
      ⟨e, returned⟩ | ⟨status, returned⟩ | ⟨-, side, qty, net, some_qty, returned⟩
    · exact returned ▸ ⟨cooled, kept.limit⟩
    · exact returned ▸ ⟨cooled, kept.limit⟩
    · exact returned ▸ ⟨cooled.openGroup (kept.limit ▸ ticks) side some_qty net, kept.limit⟩
  | some side =>
    rcases hold_cases (self.rollOver data).cool data (detectMarketRegime data) side zScore
      (data.currentPnl + carry) with
      ⟨before, exit, either, cooldown, -, returned⟩ | ⟨-, goesOn, returned⟩
    · simp only [returned]
      refine ⟨inStep_close side zScore cooldown, ?_⟩
      rw [(before.keeps_close side zScore exit).limit]
      rcases either with rfl | rfl <;> exact kept.limit
    · simp only [returned]
      have watched := kept.trans (keeps_watched _ (data.currentPnl + carry))
      exact ⟨cooled.watch (by simp [held]) (ticks_of_kept goesOn), watched.limit⟩

/-! ## The ids along a run -/

/-- Every id given so far has a number up to the last. -/
structure Numbered (now : Track3StatisticalArbitrage F × List (StatArbSignal F)) : Prop where
  nodup : (entryIds now.2).Nodup
  given : ∀ id ∈ entryIds now.2, ∃ (data : Track3MarketInput F) (n : ℕ),
    n ≤ now.1.groupSequence ∧ id = some (groupIdText data n)

/-- An evaluation gives no id, or the next one. -/
theorem entryIds_evaluateInput (self : Track3StatisticalArbitrage F) (data : Track3MarketInput F) :
    entryIds (emitted (self.evaluateInput data).1) = [] ∧
      (self.evaluateInput data).2.groupSequence = self.groupSequence ∨
    entryIds (emitted (self.evaluateInput data).1) =
        [some (groupIdText data (self.groupSequence + 1))] ∧
      (self.evaluateInput data).2.groupSequence = self.groupSequence + 1 := by
  have synced := self.keeps_rollOver data
  have kept := synced.trans (self.rollOver data).keeps_cool
  rcases self.evaluateInput_cases data with
    ⟨-, silent, same | same⟩ | ⟨zScore, carry, -, evaluated⟩
  · exact .inl (by rw [silent, same]; exact ⟨rfl, synced.sequence⟩)
  · exact .inl (by rw [silent, same]; exact ⟨rfl, kept.sequence⟩)
  rw [evaluated, ← kept.sequence]
  cases (self.rollOver data).cool.activePosition with
  | none =>
    rcases enter_cases (self.rollOver data).cool data (detectMarketRegime data) zScore with
      ⟨e, returned⟩ | ⟨status, returned⟩ | ⟨-, side, qty, net, -, returned⟩
    · exact .inl (returned ▸ ⟨rfl, rfl⟩)
    · exact .inl (returned ▸ ⟨rfl, rfl⟩)
    · exact .inr (returned ▸ ⟨rfl, rfl⟩)
  | some side =>
    refine .inl ?_
    rcases hold_cases (self.rollOver data).cool data (detectMarketRegime data) side zScore
      (data.currentPnl + carry) with ⟨before, exit, either, -, -, returned⟩ | ⟨-, -, returned⟩
    · simp only [returned]
      refine ⟨rfl, ?_⟩
      rw [(before.keeps_close side zScore exit).sequence]
      rcases either with rfl | rfl <;> rfl
    · simp only [returned]
      exact ⟨rfl, (keeps_watched _ (data.currentPnl + carry)).sequence⟩

theorem Numbered.evaluateInput {signals : List (StatArbSignal F)}
    (numbered : Numbered (self, signals)) (data : Track3MarketInput F) :
    Numbered ((self.evaluateInput data).2, signals ++ emitted (self.evaluateInput data).1) := by
  rcases self.entryIds_evaluateInput data with ⟨ids, sequence⟩ | ⟨ids, sequence⟩
  · refine ⟨by simpa [ids] using numbered.nodup, fun id member => ?_⟩
    simpa only [sequence] using numbered.given id (by simpa [ids] using member)
  · constructor
    · rw [entryIds_append, ids]
      refine List.nodup_append.mpr ⟨numbered.nodup, by simp, ?_⟩
      rintro id member _ fresh rfl
      obtain ⟨earlier, n, le, text⟩ := numbered.given id member
      rw [List.mem_singleton.mp fresh] at text
      have same := groupIdText_injective (Option.some.inj text)
      exact absurd le (same ▸ Nat.not_succ_le_self _)
    · intro id member
      rw [sequence]
      simp only [entryIds_append, ids, List.mem_append, List.mem_singleton] at member
      rcases member with old | fresh
      · obtain ⟨earlier, n, le, text⟩ := numbered.given id old
        exact ⟨earlier, n, Nat.le_succ_of_le le, text⟩
      · exact ⟨data, _, le_rfl, fresh⟩

/-- Along every run from the initial state the fields about the position agree, and no two groups
have one id. -/
theorem inStep_of_run (initial : Track3StatisticalArbitrage F) (ticks : 1 ≤ initial.maxHoldingTicks)
    (inputs : List (Track3MarketInput F)) :
    ∀ now, Machine.Visits step (initial.reset, []) inputs now →
      now.1.InStep ∧ (entryIds now.2).Nodup := by
  intro now visited
  have kept : (now.1.InStep ∧ 1 ≤ now.1.maxHoldingTicks) ∧ Numbered now := by
    refine @Machine.visits_kept _ _ step _ now _
      (fun now => (now.1.InStep ∧ 1 ≤ now.1.maxHoldingTicks) ∧ Numbered now) ?_ ?_ visited
    · exact ⟨⟨inStep_of_flat rfl rfl rfl rfl le_rfl, ticks⟩, List.nodup_nil, nofun⟩
    · rintro ⟨self, signals⟩ data _ ⟨⟨inStep, ticks⟩, numbered⟩ ⟨⟩
      have advanced : (self.evaluateInput data).2.InStep ∧
        (self.evaluateInput data).2.maxHoldingTicks = self.maxHoldingTicks :=
          inStep.evaluateInput ticks
      obtain ⟨inStep, limit⟩ := advanced
      exact ⟨⟨inStep, limit ▸ ticks⟩, numbered.evaluateInput data⟩
  exact ⟨kept.1.1, kept.2.nodup⟩

omit [FloatArithmetic F] in
/-- Two groups, one a day. -/
theorem inStep_of_run_two_days :
    letI := exactArithmetic
    let inputs :=
      [wideSpread "09:30:00" "2026-01-02" false, wideSpread "09:30:00" "2026-01-05" false]
    ∀ now, Machine.Visits step (exactTrack3.reset, []) inputs now →
      now.1.InStep ∧ (entryIds now.2).Nodup := by
  let := exactArithmetic
  exact inStep_of_run exactTrack3 (by decide) _

/-! ## The end of the day -/

/-- No position is left, and one that was there has been closed. -/
def FlatAfter (self : Track3StatisticalArbitrage F) (data : Track3MarketInput F) : Prop :=
  (self.evaluateInput data).2.activePosition = none ∧
    (self.activePosition ≠ none →
      ∃ signal ∈ emitted (self.evaluateInput data).1, signal.action = .close)

instance (self : Track3StatisticalArbitrage F) (data : Track3MarketInput F) :
    Decidable (self.FlatAfter data) :=
  inferInstanceAs (Decidable (_ ∧ (_ → ∃ _ ∈ _, _)))

omit [FloatArithmetic F] in
/-- A new date drops the position without a signal. -/
theorem activePosition_of_forgets (forgets : self.Forgets data) :
    (self.rollOver data).activePosition = none := by
  rw [Track3StatisticalArbitrage.rollOver, if_pos ⟨forgets.1, forgets.2.1⟩]

omit [FloatArithmetic F] in
theorem flat_rollOver (flat : self.activePosition = none) (data : Track3MarketInput F) :
    (self.rollOver data).activePosition = none := by
  unfold Track3StatisticalArbitrage.rollOver
  split
  · rfl
  · exact flat

/-- From 15:15 on there is no entry. -/
theorem enter_late (self : Track3StatisticalArbitrage F) (late : flattens data)
    (regime : MarketRegime) (zScore : F) :
    emitted (self.enter data regime zScore).1 = [] ∧ (self.enter data regime zScore).2 = self := by
  have closing : "15:00:00" ≤ "15:15:00" := by decide
  rcases self.enter_cases data regime zScore with
    ⟨e, returned⟩ | ⟨status, returned⟩ | ⟨early, -⟩
  · exact returned ▸ ⟨rfl, rfl⟩
  · exact returned ▸ ⟨rfl, rfl⟩
  · exact absurd (String.le_trans closing late) early

/-- An evaluation without a signal leaves no position exactly when there was none. -/
theorem flatAfter_of_silent (silent : emitted (self.evaluateInput data).1 = [])
    (next : (self.evaluateInput data).2.activePosition = (self.rollOver data).activePosition) :
    self.FlatAfter data ↔ self.activePosition = none := by
  constructor
  · rintro ⟨-, closed⟩
    by_contra held
    obtain ⟨signal, member, -⟩ := closed held
    rw [silent] at member
    cases member
  · intro flat
    exact ⟨next.trans (flat_rollOver flat data), fun held => absurd flat held⟩

theorem flatAfter_iff (late : flattens data) :
    self.FlatAfter data ↔ self.activePosition = none ∨
      ¬self.Forgets data ∧ ∃ zScore carry, Scored data zScore carry := by
  have active := (heldGroup_cool (self.rollOver data)).2.1
  rcases self.evaluateInput_cases data with
    ⟨unscored, silent, next⟩ | ⟨zScore, carry, score, evaluated⟩
  · have same : (self.evaluateInput data).2.activePosition =
        (self.rollOver data).activePosition := by
      rcases next with next | next
      exacts [next ▸ rfl, next ▸ active]
    rw [flatAfter_of_silent silent same, or_iff_left]
    exact fun ⟨_, zScore, carry, score⟩ => unscored zScore carry score
  · cases held : (self.rollOver data).cool.activePosition with
    | none =>
      have rolled : (self.rollOver data).activePosition = none := active.symm.trans held
      rw [held] at evaluated
      obtain ⟨silent, next⟩ := enter_late (self.rollOver data).cool late (detectMarketRegime data)
        zScore
      rw [flatAfter_of_silent (by rw [evaluated, silent]) (by rw [evaluated, next, active]),
        iff_self_or]
      rintro ⟨keeps, -⟩
      rcases rollOver_cases keeps with same | ⟨flat, -⟩
      exacts [same ▸ rolled, flat]
    | some side =>
      have flattened : (self.rollOver data).cool.hold data (detectMarketRegime data) side zScore
          (data.currentPnl + carry) = (self.rollOver data).cool.count.close side zScore
            ⟨"MARKET_CLOSE_FLATTEN", "15:15 atomic position-group close", 20, none⟩ := if_pos late
      have keeps : ¬self.Forgets data := fun forgets => by
        cases held.symm.trans (active.trans (activePosition_of_forgets forgets))
      refine iff_of_true ?_ (.inr ⟨keeps, zScore, carry, score⟩)
      simp only [held, flattened] at evaluated
      rw [FlatAfter, evaluated]
      exact ⟨rfl, fun _ => ⟨_, List.mem_singleton_self _, rfl⟩⟩

/-- A run is flat after every evaluation from 15:15 on exactly when each of them that finds a
position finds one of its own date, and a score of the spreads and a carry of the legs. -/
theorem flatAfter_run_iff (initial : Track3StatisticalArbitrage F)
    (inputs : List (Track3MarketInput F)) :
    (∀ now data, Machine.Takes step (initial.reset, []) inputs now data → flattens data →
      now.1.FlatAfter data) ↔
    ∀ now data, Machine.Takes step (initial.reset, []) inputs now data → flattens data →
      now.1.activePosition = none ∨
        ¬now.1.Forgets data ∧ ∃ zScore carry, Scored data zScore carry :=
  forall_congr' fun _ => forall_congr' fun _ => imp_congr_right fun _ =>
    forall_congr' fun late => flatAfter_iff late

omit [FloatArithmetic F] in
/-- A position with nine spreads at 15:15, and one that meets a new date then. -/
theorem not_flatAfter :
    letI := exactArithmetic
    let opened :=
      (exactTrack3.reset.evaluateInput (wideSpread "09:30:00" "2026-01-02" false)).2
    let short := { wideSpread "15:15:00" "2026-01-02" false with spreadHistory := [0, 0, 0] }
    let overnight := wideSpread "15:15:00" "2026-01-05" false
    (opened.evaluateInput short).2.activePosition = some .short ∧
    emitted (opened.evaluateInput short).1 = [] ∧ ¬opened.FlatAfter short ∧
    opened.activePosition = some .short ∧ emitted (opened.evaluateInput overnight).1 = [] ∧
    ¬opened.FlatAfter overnight := by
  decide +kernel

end Track3StatisticalArbitrage
end OptionProject.Strategies
