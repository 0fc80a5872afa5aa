import Mathlib.Data.Finset.Insert
import OptionProject.Contracts.Types
import OptionProject.Library.Dict

/-!
# Strategies and their orchestrator

`core/strategy/registry.py` and the class of `core/strategy/orchestrator.py`. A strategy is given
by its methods on a state of its own; a method returns or raises, and leaves a state either way.

## Main definitions

* `Strategy`, `StrategyRegistry` — strategies under their ids and versions.
* `StrategyOrchestrator.run` — the lifecycle of all selected strategies on their contexts.
* `StrategyOrchestrator.reset` — all strategies reset, then the set of initialized keys cleared.
-/
namespace OptionProject.Strategies
open Library Contracts

abbrev StrategyKey := String × String

/-! ## Contexts -/

/-- The payload as far as the registry reads it; the rest is for the strategies. -/
structure StrategyInput (δ : Type) where
  payloadStrategyId : Option String
  values : δ

structure StrategyContext (δ : Type) where
  marketState : δ
  strategyId : String
  input : Option (StrategyInput δ) := none

/-! ## Strategies -/

structure Strategy (δ σ ς : Type) where
  strategyId : String
  version : String
  onInitialize : StrategyContext δ → σ → Except PythonException Unit × σ
  onMarketState : StrategyContext δ → σ → Except PythonException Unit × σ
  evaluate : StrategyContext δ → σ → Except PythonException (List ς) × σ
  reset : σ → Except PythonException Unit × σ

/-- A strategy with the state it is in. -/
structure StrategyObject (δ σ ς : Type) where
  strategy : Strategy δ σ ς
  state : σ

variable {δ σ ς : Type}

namespace StrategyObject

variable (self : StrategyObject δ σ ς)

def key : StrategyKey := (self.strategy.strategyId, self.strategy.version)

def onInitialize (context : StrategyContext δ) :
    Except PythonException Unit × StrategyObject δ σ ς :=
  let (result, state) := self.strategy.onInitialize context self.state
  (result, { self with state })

def onMarketState (context : StrategyContext δ) :
    Except PythonException Unit × StrategyObject δ σ ς :=
  let (result, state) := self.strategy.onMarketState context self.state
  (result, { self with state })

def evaluate (context : StrategyContext δ) :
    Except PythonException (List ς) × StrategyObject δ σ ς :=
  let (result, state) := self.strategy.evaluate context self.state
  (result, { self with state })

def reset : Except PythonException Unit × StrategyObject δ σ ς :=
  let (result, state) := self.strategy.reset self.state
  (result, { self with state })

end StrategyObject

/-- A strategy without a state that yields one signal, and raises at the stage given. -/
def Strategy.plain (strategyId failStage : String) : Strategy Unit Unit String :=
  let stage (name : String) : Except PythonException Unit :=
    if name = failStage then .error ⟨"RuntimeError", name⟩ else .ok ()
  { strategyId
    version := "1.0"
    onInitialize := fun _ state => (stage "initialize", state)
    onMarketState := fun _ state => (stage "on_market_state", state)
    evaluate := fun _ state => ((stage "evaluate").map fun _ => [strategyId], state)
    reset := fun state => (stage "reset", state) }

/-! ## The registry -/

structure StrategyRegistry (δ σ ς : Type) where
  strategies : Dict StrategyKey (StrategyObject δ σ ς) := .empty

/-- The text of a key in a message. -/
def keyText [UnicodeTable] (key : StrategyKey) : String :=
  "(" ++ quoted key.1 ++ ", " ++ quoted key.2 ++ ")"

/-- The `str` of a `KeyError` is the `repr` of its message. -/
def keyError [UnicodeTable] (message : String) : PythonException := ⟨"KeyError", quoted message⟩

namespace StrategyRegistry

variable (self : StrategyRegistry δ σ ς)

def register [UnicodeTable] (object : StrategyObject δ σ ς) :
    Except PythonException (StrategyRegistry δ σ ς) :=
  if self.strategies.contains object.key then
    .error ⟨"ValueError", "duplicate strategy: " ++ keyText object.key⟩
  else .ok ⟨self.strategies.set object.key object⟩

def get [UnicodeTable] (key : StrategyKey) : Except PythonException (StrategyObject δ σ ς) :=
  match self.strategies.get? key with
  | none => .error (keyError ("strategy not registered: " ++ keyText key))
  | some object => .ok object

def validateContext [UnicodeTable] (context : StrategyContext δ) : Except PythonException Unit :=
  match context.input with
  | none => .ok ()
  | some input =>
    match input.payloadStrategyId with
    | none => .ok ()
    | some payloadStrategyId =>
      if payloadStrategyId ≠ context.strategyId then
        .error ⟨"ValueError", "strategy input payload mismatch: context=" ++
          quoted context.strategyId ++ ", payload=" ++ quoted payloadStrategyId⟩
      else .ok ()

def prepare [UnicodeTable] (key : StrategyKey) (context : StrategyContext δ) :
    Except PythonException (StrategyObject δ σ ς) :=
  if context.strategyId ≠ key.1 then
    .error ⟨"ValueError", "strategy context mismatch: context=" ++ quoted context.strategyId ++
      ", requested=" ++ quoted key.1⟩
  else do
    validateContext context
    self.get key

end StrategyRegistry

/-! ## The orchestrator -/

structure StrategyRunFailure where
  strategyId : String
  version : String
  stage : String
  errorType : String
  message : String
  deriving DecidableEq, Repr

structure StrategyRunResult (ς : Type) where
  signals : List ς
  failures : List StrategyRunFailure
  deriving DecidableEq

structure StrategyOrchestrator (δ σ ς : Type) where
  registry : StrategyRegistry δ σ ς
  strategyKeys : List StrategyKey
  enabled : Dict StrategyKey Bool
  initialized : Finset StrategyKey

def failure (key : StrategyKey) (stage : String) (exc : PythonException) : StrategyRunFailure :=
  ⟨key.1, key.2, stage, exc.typeName, exc.text⟩

namespace StrategyOrchestrator

def create (registry : StrategyRegistry δ σ ς) (strategyKeys : List StrategyKey) :
    StrategyOrchestrator δ σ ς where
  registry := registry
  strategyKeys := strategyKeys
  enabled := .ofList (strategyKeys.map (·, true))
  initialized := ∅

variable (self : StrategyOrchestrator δ σ ς)

/-- The registry shows the state a strategy has got to. -/
def store (key : StrategyKey) (object : StrategyObject δ σ ς) : StrategyOrchestrator δ σ ς :=
  { self with registry := ⟨self.registry.strategies.set key object⟩ }

def setEnabled [UnicodeTable] (key : StrategyKey) (enabled : Bool) :
    Except PythonException Unit × StrategyOrchestrator δ σ ς :=
  if self.enabled.contains key then
    (.ok (), { self with enabled := self.enabled.set key enabled })
  else (.error (keyError ("strategy not managed: " ++ keyText key)), self)

/-- The loop of `reset`; it stops at the first lookup or reset that raises. -/
def resetKeys [UnicodeTable] (self : StrategyOrchestrator δ σ ς) :
    List StrategyKey → Except PythonException Unit × StrategyOrchestrator δ σ ς
  | [] => (.ok (), self)
  | key :: rest =>
    match self.registry.get key with
    | .error exc => (.error exc, self)
    | .ok object =>
      match object.reset with
      | (.error exc, object) => (.error exc, self.store key object)
      | (.ok _, object) => (self.store key object).resetKeys rest

def reset [UnicodeTable] : Except PythonException Unit × StrategyOrchestrator δ σ ς :=
  match self.resetKeys self.strategyKeys with
  | (.error exc, next) => (.error exc, next)
  | (.ok _, next) => (.ok (), { next with initialized := ∅ })

/-- The key counts as initialized from here on. -/
def mark (key : StrategyKey) : StrategyOrchestrator δ σ ς :=
  { self with initialized := insert key self.initialized }

/-- A strategy is initialized once; one that raises stays out of the set. -/
def ensureInitialized (key : StrategyKey) (object : StrategyObject δ σ ς)
    (context : StrategyContext δ) :
    Except PythonException (StrategyObject δ σ ς) × StrategyOrchestrator δ σ ς :=
  if key ∈ self.initialized then (.ok object, self)
  else
    match object.onInitialize context with
    | (.error exc, object) => (.error exc, self.store key object)
    | (.ok _, object) =>
      (.ok object, (self.store key object).mark key)

/-- One strategy of a run, from its context to its signals. -/
def attempt [UnicodeTable] (contexts : Dict String (StrategyContext δ)) (key : StrategyKey) :
    Except StrategyRunFailure (List ς) × StrategyOrchestrator δ σ ς :=
  match contexts.get? key.1 with
  | none =>
    (.error (failure key "context" ⟨"KeyError", "strategy context not supplied"⟩), self)
  | some context =>
    match self.registry.prepare key context with
    | .error exc => (.error (failure key "prepare" exc), self)
    | .ok object =>
      match self.ensureInitialized key object context with
      | (.error exc, next) => (.error (failure key "initialize" exc), next)
      | (.ok object, next) =>
        match object.onMarketState context with
        | (.error exc, object) =>
          (.error (failure key "on_market_state" exc), next.store key object)
        | (.ok _, object) =>
          match object.evaluate context with
          | (.error exc, object) => (.error (failure key "evaluate" exc), next.store key object)
          | (.ok produced, object) => (.ok produced, next.store key object)

/-- The loop of `run`, with the signals and failures so far. -/
def runKeys [UnicodeTable] (self : StrategyOrchestrator δ σ ς)
    (contexts : Dict String (StrategyContext δ)) (signals : List ς)
    (failures : List StrategyRunFailure) :
    List StrategyKey →
      Except PythonException (StrategyRunResult ς) × StrategyOrchestrator δ σ ς
  | [] => (.ok ⟨signals, failures⟩, self)
  | key :: rest =>
    match self.enabled.get? key with
    | none => (.error (keyError ("strategy not managed: " ++ keyText key)), self)
    | some false => self.runKeys contexts signals failures rest
    | some true =>
      match self.attempt contexts key with
      | (.error failed, next) => next.runKeys contexts signals (failures ++ [failed]) rest
      | (.ok produced, next) => next.runKeys contexts (signals ++ produced) failures rest

def run [UnicodeTable] (contexts : Dict String (StrategyContext δ))
    (selected : Option (List StrategyKey)) :
    Except PythonException (StrategyRunResult ς) × StrategyOrchestrator δ σ ς :=
  self.runKeys contexts [] [] (selected.getD self.strategyKeys)

end StrategyOrchestrator

/-! ## One attempt -/

/-- What one strategy yields: its signals, or one failure. -/
abbrev Part (ς : Type) := Except StrategyRunFailure (List ς)

/-- The calls made on a strategy that is prepared. With what it yields go the state it is left in,
and whether it counts as initialized from here on. -/
def StrategyObject.lifecycle (self : StrategyObject δ σ ς) (key : StrategyKey) (done : Bool)
    (context : StrategyContext δ) : Part ς × StrategyObject δ σ ς × Bool :=
  match (if done then (.ok (), self) else self.onInitialize context) with
  | (.error exc, object) => (.error (failure key "initialize" exc), object, false)
  | (.ok _, object) =>
    match object.onMarketState context with
    | (.error exc, object) => (.error (failure key "on_market_state" exc), object, true)
    | (.ok _, object) =>
      match object.evaluate context with
      | (.error exc, object) => (.error (failure key "evaluate" exc), object, true)
      | (.ok produced, object) => (.ok produced, object, true)

namespace StrategyOrchestrator

variable (self : StrategyOrchestrator δ σ ς)

/-- The orchestrator after the calls on one strategy. -/
def settle (key : StrategyKey) (object : StrategyObject δ σ ς) (done : Bool) :
    StrategyOrchestrator δ σ ς :=
  { self.store key object with
    initialized := if done then insert key self.initialized else self.initialized }

/-- An attempt is the lifecycle of a strategy that is there and fits its context. -/
theorem attempt_eq [UnicodeTable] (contexts : Dict String (StrategyContext δ))
    (key : StrategyKey) :
    self.attempt contexts key =
      match contexts.get? key.1 with
      | none =>
        (.error (failure key "context" ⟨"KeyError", "strategy context not supplied"⟩), self)
      | some context =>
        match self.registry.prepare key context with
        | .error exc => (.error (failure key "prepare" exc), self)
        | .ok object =>
          let (part, object, done) := object.lifecycle key (key ∈ self.initialized) context
          (part, self.settle key object done) := by
  unfold attempt
  cases contexts.get? key.1 with
  | none => rfl
  | some context =>
    simp only
    cases self.registry.prepare key context with
    | error exc => rfl
    | ok object =>
      by_cases done : key ∈ self.initialized
      · have marked : insert key self.initialized = self.initialized :=
          Finset.insert_eq_of_mem done
        simp only [ensureInitialized, StrategyObject.lifecycle, done, decide_true, if_true]
        rcases object.onMarketState context with ⟨exc | _, object⟩
        · simp [settle, store, marked]
        simp only
        rcases object.evaluate context with ⟨exc | produced, object⟩ <;>
          simp [settle, store, marked]
      · simp only [ensureInitialized, StrategyObject.lifecycle, done, decide_false, if_false,
          Bool.false_eq_true]
        rcases object.onInitialize context with ⟨exc | _, object⟩
        · simp [settle, store]
        simp only
        rcases object.onMarketState context with ⟨exc | _, object⟩
        · simp [settle, store, mark, Dict.set_set]
        simp only
        rcases object.evaluate context with ⟨exc | produced, object⟩ <;>
          simp [settle, store, mark, Dict.set_set]

theorem get?_of_prepare [UnicodeTable] {registry : StrategyRegistry δ σ ς} {key : StrategyKey}
    {context : StrategyContext δ} {object : StrategyObject δ σ ς}
    (prepared : registry.prepare key context = .ok object) :
    registry.strategies.get? key = some object := by
  unfold StrategyRegistry.prepare at prepared
  split at prepared
  · cases prepared
  cases valid : StrategyRegistry.validateContext context with
  | error exc =>
    rw [valid] at prepared
    cases prepared
  | ok _ =>
    rw [valid] at prepared
    change registry.get key = .ok object at prepared
    unfold StrategyRegistry.get at prepared
    split at prepared
    · cases prepared
    next found =>
      cases prepared
      exact found

/-- An attempt fails and changes nothing, or it is the lifecycle of the registered strategy. -/
theorem attempt_cases [UnicodeTable] (contexts : Dict String (StrategyContext δ))
    (key : StrategyKey) :
    (∃ failed, self.attempt contexts key = (.error failed, self)) ∨
    ∃ context object, contexts.get? key.1 = some context ∧
      self.registry.strategies.get? key = some object ∧
      let called := object.lifecycle key (key ∈ self.initialized) context
      self.attempt contexts key = (called.1, self.settle key called.2.1 called.2.2) := by
  rw [attempt_eq]
  cases contexts.get? key.1 with
  | none => exact .inl ⟨_, rfl⟩
  | some context =>
    cases prepared : self.registry.prepare key context with
    | error exc => exact .inl ⟨failure key "prepare" exc, by simp only [prepared]⟩
    | ok object =>
      exact .inr ⟨context, object, rfl, get?_of_prepare prepared, by simp only [prepared]⟩

end StrategyOrchestrator
end OptionProject.Strategies
