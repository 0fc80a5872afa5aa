import OptionProject.Strategies.CallOrder
import OptionProject.Strategies.Isolation

/-!
# Selections that are refused

A run raises at the first key of its selection that is not managed. The strategies before that key
have been called by then, and the signals they gave are lost.

## Main definitions

* `StrategyOrchestrator.recorded` — the orchestrator with strategies that write their calls down.
* `StrategyOrchestrator.Idle` — a run passes over the key without calling its strategy.

## Main results

* `StrategyOrchestrator.refused_iff` — exactly the refused runs without an effect.
-/
namespace OptionProject.Strategies
open Library Isolation

variable {δ σ ς : Type}

/-- No call has been made so far. -/
def StrategyObject.recorded (object : StrategyObject δ σ ς) :
    StrategyObject δ (σ × List Call) ς :=
  ⟨object.strategy.recorded, object.state, []⟩

namespace StrategyOrchestrator

def recorded (self : StrategyOrchestrator δ σ ς) : StrategyOrchestrator δ (σ × List Call) ς where
  registry := ⟨self.registry.strategies.filterMap fun _ object => some object.recorded⟩
  strategyKeys := self.strategyKeys
  enabled := self.enabled
  initialized := self.initialized

/-- The key is disabled, without a context, or not prepared for it. -/
def Idle [UnicodeTable] (self : StrategyOrchestrator δ σ ς)
    (contexts : Dict String (StrategyContext δ)) (key : StrategyKey) : Prop :=
  self.runs key → ∀ context, contexts.get? key.1 = some context →
    ∀ object, self.registry.prepare key context ≠ .ok object

/-! ## Calls along a run -/

variable {now : StrategyOrchestrator δ (σ × List Call) ς} {key : StrategyKey}

/-- All strategies write down their calls. -/
def Recorded (now : StrategyOrchestrator δ (σ × List Call) ς) : Prop :=
  ∀ key object, now.registry.strategies.get? key = some object →
    ∃ strategy : Strategy δ σ ς, object.strategy = strategy.recorded

/-- Some strategy has been called. -/
def Called (now : StrategyOrchestrator δ (σ × List Call) ς) : Prop :=
  ∃ key object, now.registry.strategies.get? key = some object ∧ object.state.2 ≠ []

variable [UnicodeTable] (contexts : Dict String (StrategyContext δ))

theorem Recorded.attempt (recorded : Recorded now) (key : StrategyKey) :
    Recorded (now.attempt contexts key).2 := by
  intro k object found
  have same := strategy_attempt now contexts k key
  rw [found, Option.map_some] at same
  obtain ⟨before, found', same⟩ := Option.map_eq_some_iff.mp same.symm
  obtain ⟨strategy, recorded⟩ := recorded k before found'
  exact ⟨strategy, same ▸ recorded⟩

/-- Calls that were made stay written down. -/
theorem Called.attempt (recorded : Recorded now) (called : Called now) (key : StrategyKey) :
    Called (now.attempt contexts key).2 := by
  rcases now.attempt_cases contexts key with ⟨failed, kept⟩ | ⟨context, object, -, found, taken⟩
  · rwa [kept]
  · obtain ⟨k, other, found', calls⟩ := called
    rw [taken]
    by_cases same : k = key
    · obtain ⟨strategy, recorded⟩ := recorded key object found
      obtain ⟨call, later, after⟩ := lifecycle_calls context recorded key (key ∈ now.initialized)
      exact ⟨key, _, Dict.get?_set_self .., by simp [after]⟩
    · exact ⟨k, other, (Dict.get?_set_of_ne _ _ same).trans found', calls⟩

theorem attempt_of_idle (enabled : now.runs key) (idle : now.Idle contexts key) :
    ∃ failed, now.attempt contexts key = (.error failed, now) := by
  rw [attempt_eq]
  cases there : contexts.get? key.1 with
  | none => exact ⟨_, rfl⟩
  | some context =>
    cases prepared : now.registry.prepare key context with
    | error exc => exact ⟨failure key "prepare" exc, by simp only [prepared]⟩
    | ok object => exact absurd prepared (idle enabled context there object)

theorem called_of_not_idle (recorded : Recorded now) (busy : ¬now.Idle contexts key) :
    Called (now.attempt contexts key).2 := by
  simp only [Idle, not_forall, not_not] at busy
  obtain ⟨enabled, context, there, object, prepared⟩ := busy
  obtain ⟨strategy, recorded⟩ := recorded key object (get?_of_prepare prepared)
  obtain ⟨call, later, after⟩ := lifecycle_calls context recorded key (key ∈ now.initialized)
  rw [attempt_eq, there]
  simp only [prepared]
  exact ⟨key, _, Dict.get?_set_self .., by simp [after]⟩

/-! ## Refused runs -/

/-- The state in which the loop comes to a key behind managed ones. -/
def reached (now : StrategyOrchestrator δ (σ × List Call) ς)
    (contexts : Dict String (StrategyContext δ)) (before : List StrategyKey) :
    StrategyOrchestrator δ (σ × List Call) ς :=
  (visits (fun now key => now.attempt contexts key) now (before.filter now.runs)).2

theorem runKeys_refused {before after : List StrategyKey}
    (managed : ∀ k ∈ before, now.enabled.contains k) (refused : ¬now.enabled.contains key) :
    now.runKeys contexts [] [] (before ++ key :: after) =
      (.error (keyError ("strategy not managed: " ++ keyText key)),
        now.reached contexts before) := by
  have kept : (now.reached contexts before).enabled = now.enabled := by
    unfold reached
    exact visits_keeps (P := fun s : StrategyOrchestrator δ (σ × List Call) ς =>
      s.enabled = now.enabled) (fun s k same => (enabled_attempt s contexts k).trans same) rfl _
  have absent : now.enabled.get? key = none := by simpa [Dict.contains] using refused
  rw [runKeys_append now contexts [] [] managed]
  change (now.reached contexts before).runKeys contexts _ _ (key :: after) = _
  simp only [runKeys, kept, absent]

theorem reached_of_idle {before : List StrategyKey}
    (idle : ∀ k ∈ before, now.Idle contexts k) : now.reached contexts before = now := by
  unfold reached
  induction before with
  | nil => rfl
  | cons k rest ih =>
    obtain ⟨here, others⟩ := List.forall_mem_cons.mp idle
    by_cases enabled : now.runs k
    · obtain ⟨failed, kept⟩ := attempt_of_idle contexts enabled here
      rw [List.filter_cons_of_pos enabled, visits]
      simpa only [kept] using ih others
    · rw [List.filter_cons_of_neg enabled]
      exact ih others

/-- The first strategy that is called stays called. -/
theorem called_of_busy (recorded : Recorded now) {before : List StrategyKey}
    (busy : ∃ k ∈ before, ¬now.Idle contexts k) : Called (now.reached contexts before) := by
  unfold reached
  induction before with
  | nil => simp at busy
  | cons k rest ih =>
    by_cases idle : now.Idle contexts k
    · replace busy : ∃ k ∈ rest, ¬now.Idle contexts k := by simpa [idle] using busy
      by_cases enabled : now.runs k
      · obtain ⟨failed, kept⟩ := attempt_of_idle contexts enabled idle
        rw [List.filter_cons_of_pos enabled, visits]
        simpa only [kept] using ih busy
      · rw [List.filter_cons_of_neg enabled]
        exact ih busy
    · have enabled : now.runs k := by
        by_contra off
        exact idle fun on => absurd on off
      rw [List.filter_cons_of_pos enabled, visits]
      exact (visits_keeps (P := fun now => Recorded now ∧ Called now)
        (fun _ k both => ⟨both.1.attempt contexts k, both.2.attempt contexts both.1 k⟩)
        ⟨recorded.attempt contexts k, called_of_not_idle contexts recorded idle⟩ _).2

omit [UnicodeTable] in
theorem recorded_recorded (self : StrategyOrchestrator δ σ ς) : Recorded self.recorded := by
  intro key object found
  simp only [recorded, Dict.get?_filterMap] at found
  obtain ⟨before, _, same⟩ := Option.bind_eq_some_iff.mp found
  exact ⟨before.strategy, by rw [← Option.some.inj same]; rfl⟩

omit [UnicodeTable] in
theorem not_called_recorded (self : StrategyOrchestrator δ σ ς) : ¬Called self.recorded := by
  rintro ⟨key, object, found, calls⟩
  simp only [recorded, Dict.get?_filterMap] at found
  obtain ⟨before, _, same⟩ := Option.bind_eq_some_iff.mp found
  exact calls (by rw [← Option.some.inj same]; rfl)

theorem prepare_recorded (self : StrategyOrchestrator δ σ ς) (key : StrategyKey)
    (context : StrategyContext δ) :
    self.recorded.registry.prepare key context =
      (self.registry.prepare key context).map StrategyObject.recorded := by
  unfold StrategyRegistry.prepare
  split
  · rfl
  cases StrategyRegistry.validateContext context with
  | error exc => rfl
  | ok _ =>
    change self.recorded.registry.get key = (self.registry.get key).map StrategyObject.recorded
    simp only [StrategyRegistry.get, recorded, Dict.get?_filterMap]
    cases self.registry.strategies.get? key <;> rfl

theorem idle_recorded (self : StrategyOrchestrator δ σ ς) (key : StrategyKey) :
    self.recorded.Idle contexts key ↔ self.Idle contexts key := by
  refine imp_congr Iff.rfl (forall_congr' fun context => imp_congr Iff.rfl ?_)
  rw [prepare_recorded]
  cases self.registry.prepare key context with
  | error exc => exact iff_of_true nofun nofun
  | ok object =>
    exact iff_of_false (fun never => never object.recorded rfl) fun never => never object rfl

/-- A selection with a key that is not managed is refused; the run has no effect exactly when every
key before the first such key is passed over. -/
theorem refused_iff (self : StrategyOrchestrator δ σ ς) (selected : Option (List StrategyKey))
    (unmanaged : ∃ key ∈ self.selectedKeys selected, ¬self.enabled.contains key) :
    ∃ key ∈ self.selectedKeys selected, ¬self.enabled.contains key ∧ ∃ next,
      self.recorded.run contexts selected =
        (.error (keyError ("strategy not managed: " ++ keyText key)), next) ∧
      ((¬Called next ∧ next.initialized = self.initialized) ↔
        ∀ k ∈ (self.selectedKeys selected).takeWhile self.enabled.contains,
          self.Idle contexts k) := by
  obtain ⟨key, first⟩ := Option.isSome_iff_exists.mp
    (List.find?_isSome (p := fun key => !self.enabled.contains key).mpr (by simpa using unmanaged))
  obtain ⟨refused, before, after, split, managed⟩ := List.find?_eq_some_iff_append.mp first
  simp only [Bool.not_eq_true', Bool.not_not] at refused managed
  have prior : (self.selectedKeys selected).takeWhile self.enabled.contains = before := by
    rw [split, List.takeWhile_append_of_pos managed, List.takeWhile_cons_of_neg (by simp [refused]),
      List.append_nil]
  have missing : ¬self.enabled.contains key := by simp [refused]
  refine ⟨key, List.mem_of_find?_eq_some first, missing, self.recorded.reached contexts before,
    ?_, ?_⟩
  · change self.recorded.runKeys contexts [] [] (self.selectedKeys selected) = _
    rw [split]
    exact runKeys_refused contexts managed missing
  rw [prior]
  constructor
  · rintro ⟨silent, -⟩ k member
    by_contra busy
    exact silent (called_of_busy contexts (recorded_recorded self)
      ⟨k, member, (idle_recorded contexts self k).not.mpr busy⟩)
  · intro idle
    rw [reached_of_idle contexts fun k member =>
      (idle_recorded contexts self k).mpr (idle k member)]
    exact ⟨not_called_recorded self, rfl⟩

omit [UnicodeTable] in
/-- The managed strategy has no context. -/
theorem refused_iff_without_context :
    letI : UnicodeTable := ⟨fun _ => true⟩
    let self : StrategyOrchestrator Unit Unit String := create {} [("track1", "1.0")]
    let selected := some [("track1", "1.0"), ("track2", "1.0")]
    ∃ key ∈ self.selectedKeys selected, ¬self.enabled.contains key ∧ ∃ next,
      self.recorded.run .empty selected =
        (.error (keyError ("strategy not managed: " ++ keyText key)), next) ∧
      ((¬Called next ∧ next.initialized = self.initialized) ↔
        ∀ k ∈ (self.selectedKeys selected).takeWhile self.enabled.contains,
          self.Idle .empty k) := by
  intro self selected
  exact @refused_iff _ _ _ ⟨fun _ => true⟩ .empty self selected
    ⟨("track2", "1.0"), by decide +kernel, by decide +kernel⟩

omit [UnicodeTable] in
/-- The managed strategy runs before the run is refused. -/
theorem refused_after_calls :
    letI : UnicodeTable := ⟨fun _ => true⟩
    let registry : StrategyRegistry Unit Unit String :=
      ⟨.ofList [(("track1", "1.0"), ⟨.plain "track1" "", ()⟩)]⟩
    let contexts := .ofList [("track1", ⟨(), "track1", none⟩)]
    let self := create registry [("track1", "1.0")]
    let (result, next) := self.recorded.run contexts (some [("track1", "1.0"), ("track2", "1.0")])
    result = .error (keyError ("strategy not managed: " ++ keyText ("track2", "1.0"))) ∧
    self.initialized = ∅ ∧ next.initialized = {("track1", "1.0")} ∧
    (next.registry.strategies.get? ("track1", "1.0")).map (fun object => object.state.2) =
      some [.onInitialize true, .onMarketState, .evaluate] := by
  decide +kernel

end StrategyOrchestrator
end OptionProject.Strategies
