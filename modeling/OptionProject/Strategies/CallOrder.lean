import OptionProject.Library.Machine
import OptionProject.Strategies.Orchestrator

/-!
# The order of the calls on a strategy

Every strategy keeps the list of the calls it got. The orchestrator initializes a strategy before
it shows it the market, and once between two resets, as long as no reset stops after it has reset
an initialized strategy.

## Main definitions

* `Strategy.recorded` — a strategy that writes its calls down.
* `callOrder` — the calls that may come next.
* `StrategyOrchestrator.Interrupted` — a reset would stop behind an initialized strategy.

## Main results

* `StrategyOrchestrator.ordered_of_not_interrupted` — the order along every run.
* `StrategyOrchestrator.disordered_of_interrupted` — the order is lost otherwise.
-/
namespace OptionProject.Strategies
open Library Contracts

/-! ## Calls -/

inductive Call
  | onInitialize (returned : Bool)
  | onMarketState
  | evaluate
  | reset
  deriving DecidableEq, Repr

/-- The monitor of the calls on one strategy; its state says whether the strategy has been
initialized since its last reset. -/
def callOrder (ready : Bool) : Call → Option Bool
  | .onInitialize returned => if ready then none else some returned
  | .onMarketState | .evaluate => if ready then some true else none
  | .reset => some false

/-- The calls are in order, and leave the strategy initialized or not. -/
def Ordered (calls : List Call) (ready : Bool) : Prop :=
  Machine.run callOrder false calls = some ready

variable {δ σ ς : Type}

theorem Ordered.concat {calls : List Call} {ready next : Bool} {call : Call}
    (ordered : Ordered calls ready) (permitted : callOrder ready call = some next) :
    Ordered (calls ++ [call]) next :=
  Machine.run_concat.mpr ⟨ready, ordered, permitted⟩

def returned {α : Type} : Except PythonException α → Bool
  | .ok _ => true
  | .error _ => false

/-- The strategy with a list of its calls beside its state. -/
def Strategy.recorded (self : Strategy δ σ ς) : Strategy δ (σ × List Call) ς :=
  { strategyId := self.strategyId
    version := self.version
    onInitialize := fun context (state, calls) =>
      let (result, state) := self.onInitialize context state
      (result, state, calls ++ [.onInitialize (returned result)])
    onMarketState := fun context (state, calls) =>
      let (result, state) := self.onMarketState context state
      (result, state, calls ++ [.onMarketState])
    evaluate := fun context (state, calls) =>
      let (result, state) := self.evaluate context state
      (result, state, calls ++ [.evaluate])
    reset := fun (state, calls) =>
      let (result, state) := self.reset state
      (result, state, calls ++ [.reset]) }

/-- The object writes its calls down, and they are in order. -/
structure Behaves (object : StrategyObject δ (σ × List Call) ς) (ready : Bool) : Prop where
  recorded : ∃ strategy : Strategy δ σ ς, object.strategy = strategy.recorded
  ordered : Ordered object.state.2 ready

section Calls

variable {object : StrategyObject δ (σ × List Call) ς} {ready : Bool}
  (context : StrategyContext δ)

theorem Behaves.onInitialize (behaves : Behaves object false) :
    Behaves (object.onInitialize context).2 (returned (object.onInitialize context).1) := by
  obtain ⟨⟨strategy, recorded⟩, ordered⟩ := behaves
  refine ⟨⟨strategy, recorded⟩, ?_⟩
  simp only [StrategyObject.onInitialize, recorded, Strategy.recorded]
  exact ordered.concat rfl

theorem Behaves.onMarketState (behaves : Behaves object true) :
    Behaves (object.onMarketState context).2 true := by
  obtain ⟨⟨strategy, recorded⟩, ordered⟩ := behaves
  refine ⟨⟨strategy, recorded⟩, ?_⟩
  simp only [StrategyObject.onMarketState, recorded, Strategy.recorded]
  exact ordered.concat rfl

theorem Behaves.evaluate (behaves : Behaves object true) :
    Behaves (object.evaluate context).2 true := by
  obtain ⟨⟨strategy, recorded⟩, ordered⟩ := behaves
  refine ⟨⟨strategy, recorded⟩, ?_⟩
  simp only [StrategyObject.evaluate, recorded, Strategy.recorded]
  exact ordered.concat rfl

theorem Behaves.reset (behaves : Behaves object ready) : Behaves object.reset.2 false := by
  obtain ⟨⟨strategy, recorded⟩, ordered⟩ := behaves
  refine ⟨⟨strategy, recorded⟩, ?_⟩
  simp only [StrategyObject.reset, recorded, Strategy.recorded]
  exact ordered.concat rfl

/-- The lifecycle keeps the order, and a strategy that was initialized stays so. -/
theorem Behaves.lifecycle (behaves : Behaves object ready) (key : StrategyKey) :
    Behaves (object.lifecycle key ready context).2.1 (object.lifecycle key ready context).2.2 ∧
      (ready → (object.lifecycle key ready context).2.2) := by
  have first : ∀ begun, begun = (if ready then (.ok (), object) else object.onInitialize context) →
      Behaves begun.2 (returned begun.1) ∧ (ready → returned begun.1) := by
    rintro _ rfl
    cases ready with
    | true => exact ⟨behaves, fun _ => rfl⟩
    | false => exact ⟨behaves.onInitialize context, fun absurd => by cases absurd⟩
  unfold StrategyObject.lifecycle
  generalize (if ready then (.ok (), object) else object.onInitialize context) = begun at first ⊢
  obtain ⟨kept, done⟩ := first begun rfl
  obtain ⟨exc | _, begun⟩ := begun
  · exact ⟨kept, done⟩
  have marketed := Behaves.onMarketState context kept
  simp only
  generalize begun.onMarketState context = called at marketed ⊢
  obtain ⟨exc | _, called⟩ := called
  · exact ⟨marketed, fun _ => rfl⟩
  have evaluated := Behaves.evaluate context marketed
  simp only
  generalize called.evaluate context = last at evaluated ⊢
  obtain ⟨exc | produced, last⟩ := last <;> exact ⟨evaluated, fun _ => rfl⟩

/-- A strategy that counts as initialized is shown the market first. -/
theorem lifecycle_initialized {strategy : Strategy δ σ ς}
    (recorded : object.strategy = strategy.recorded) (key : StrategyKey) :
    ∃ later, (object.lifecycle key true context).2.1.state.2 =
      object.state.2 ++ .onMarketState :: later := by
  have marketed : (object.onMarketState context).2.strategy = strategy.recorded ∧
      (object.onMarketState context).2.state.2 = object.state.2 ++ [.onMarketState] := by
    refine ⟨recorded, ?_⟩
    simp only [StrategyObject.onMarketState, recorded, Strategy.recorded]
  simp only [StrategyObject.lifecycle, if_true]
  generalize object.onMarketState context = called at marketed ⊢
  obtain ⟨same, calls⟩ := marketed
  obtain ⟨exc | _, called⟩ := called
  · exact ⟨[], calls⟩
  have evaluated : (called.evaluate context).2.state.2 = called.state.2 ++ [.evaluate] := by
    simp only at same
    simp only [StrategyObject.evaluate, same, Strategy.recorded]
  simp only at calls ⊢
  rw [calls, List.append_assoc] at evaluated
  generalize called.evaluate context = last at evaluated ⊢
  obtain ⟨exc | produced, last⟩ := last <;> exact ⟨[.evaluate], evaluated⟩

theorem Behaves.lifecycle_stale (behaves : Behaves object false) (key : StrategyKey) (next : Bool) :
    ¬Ordered (object.lifecycle key true context).2.1.state.2 next := by
  obtain ⟨⟨strategy, recorded⟩, ordered⟩ := behaves
  obtain ⟨later, calls⟩ := lifecycle_initialized context recorded key
  intro after
  rw [calls, Ordered, Machine.run_append, ordered] at after
  cases after

/-- The lifecycle makes at least one call. -/
theorem lifecycle_calls {strategy : Strategy δ σ ς} (recorded : object.strategy = strategy.recorded)
    (key : StrategyKey) (done : Bool) :
    ∃ call later, (object.lifecycle key done context).2.1.state.2 =
      object.state.2 ++ call :: later := by
  cases done with
  | true => exact ⟨_, lifecycle_initialized context recorded key⟩
  | false =>
    have initialized : (object.onInitialize context).2.strategy = strategy.recorded ∧
        (object.onInitialize context).2.state.2 =
          object.state.2 ++ [.onInitialize (returned (object.onInitialize context).1)] := by
      refine ⟨recorded, ?_⟩
      simp only [StrategyObject.onInitialize, recorded, Strategy.recorded]
    cases called : object.onInitialize context with | mk result begun
    obtain ⟨same, calls⟩ := called ▸ initialized
    cases result with
    | error exc =>
      refine ⟨.onInitialize false, [], ?_⟩
      simp only [StrategyObject.lifecycle, called]
      exact calls
    | ok _ =>
      obtain ⟨later, after⟩ := lifecycle_initialized context same key
      have goesOn : object.lifecycle key false context = begun.lifecycle key true context := by
        simp only [StrategyObject.lifecycle, called]
        rfl
      refine ⟨.onInitialize true, .onMarketState :: later, ?_⟩
      rw [goesOn, after, calls, List.append_assoc]
      rfl

end Calls

/-! ## Calls by the orchestrator -/

namespace StrategyOrchestrator

/-- All strategies behave. Those that count as initialized are so, but for those that a reset has
touched since. -/
structure Sound (touched : List StrategyKey) (now : StrategyOrchestrator δ (σ × List Call) ς) :
    Prop where
  behaves : ∀ key object, now.registry.strategies.get? key = some object →
    Behaves object (decide (key ∈ now.initialized ∧ key ∉ touched))
  registered : ∀ key ∈ now.initialized,
    key ∈ now.strategyKeys ∧ now.registry.strategies.contains key
  managed : ∀ key, now.enabled.contains key → key ∈ now.strategyKeys

variable {self : StrategyOrchestrator δ (σ × List Call) ς} {touched : List StrategyKey}
  {key : StrategyKey} {object : StrategyObject δ (σ × List Call) ς}

theorem Sound.settle (sound : Sound [] self) (known : key ∈ self.strategyKeys) {done : Bool}
    (behaves : Behaves object done) (kept : key ∈ self.initialized → done) :
    Sound [] (self.settle key object done) := by
  have member (k : StrategyKey) :
      k ∈ (self.settle key object done).initialized ↔ k ∈ self.initialized ∨ k = key ∧ done := by
    cases done <;> simp [StrategyOrchestrator.settle, or_comm]
  constructor
  · intro k other found
    change (self.registry.strategies.set key object).get? k = some other at found
    rw [Dict.get?_set] at found
    split at found
    next same =>
      cases found
      have flag : decide (k ∈ (self.settle key object done).initialized ∧ k ∉ []) = done := by
        simp only [member, same, List.not_mem_nil, not_false_eq_true, and_true, true_and]
        cases done <;> grind
      rwa [flag]
    next apart => simpa [member, apart] using sound.behaves k other found
  · intro k initialized
    rcases (member k).mp initialized with before | ⟨rfl, -⟩
    · obtain ⟨known, there⟩ := sound.registered k before
      exact ⟨known, Dict.contains_set.mpr (.inr there)⟩
    · exact ⟨known, Dict.contains_set.mpr (.inl rfl)⟩
  · exact sound.managed

theorem Sound.attempt [UnicodeTable] (sound : Sound [] self) (known : key ∈ self.strategyKeys)
    (contexts : Dict String (StrategyContext δ)) : Sound [] (self.attempt contexts key).2 := by
  rcases self.attempt_cases contexts key with ⟨failed, kept⟩ | ⟨context, object, -, found, taken⟩
  · rwa [kept]
  · have behaves := sound.behaves key object found
    simp only [List.not_mem_nil, not_false_eq_true, and_true] at behaves
    obtain ⟨after, kept⟩ := behaves.lifecycle context key
    rw [taken]
    exact sound.settle known after fun initialized => kept (decide_eq_true initialized)

theorem Sound.runKeys [UnicodeTable] (sound : Sound [] self)
    (contexts : Dict String (StrategyContext δ)) (signals : List ς)
    (failures : List StrategyRunFailure) (keys : List StrategyKey) :
    Sound [] (self.runKeys contexts signals failures keys).2 := by
  induction keys generalizing self signals failures with
  | nil => exact sound
  | cons key rest ih =>
    unfold StrategyOrchestrator.runKeys
    cases found : self.enabled.get? key with
    | none => exact sound
    | some flag =>
      cases flag with
      | false => exact ih sound signals failures
      | true =>
        have known := sound.managed key (by rw [Dict.contains, found]; rfl)
        have attempted := sound.attempt known contexts
        simp only
        generalize self.attempt contexts key = outcome at attempted ⊢
        obtain ⟨failed | produced, next⟩ := outcome
        · exact ih attempted _ _
        · exact ih attempted _ _

/-! ## Resets -/

/-- A strategy that has been reset is touched. -/
theorem Sound.store (sound : Sound touched self) (behaves : Behaves object false)
    (key : StrategyKey) : Sound (touched ++ [key]) (self.store key object) := by
  constructor
  · intro k other found
    change (self.registry.strategies.set key object).get? k = some other at found
    rw [Dict.get?_set] at found
    split at found
    next same =>
      cases found
      simpa [same] using behaves
    next apart => simpa [StrategyOrchestrator.store, apart] using sound.behaves k other found
  · intro k initialized
    obtain ⟨known, there⟩ := sound.registered k initialized
    exact ⟨known, Dict.contains_set.mpr (.inr there)⟩
  · exact sound.managed

/-- A reset would raise behind an initialized strategy. -/
def Interrupted [UnicodeTable] (self : StrategyOrchestrator δ (σ × List Call) ς) : Prop :=
  ∃ before key after exc, self.strategyKeys = before ++ key :: after ∧
    (self.resetKeys before).1 = .ok () ∧ (self.resetKeys (before ++ [key])).1 = .error exc ∧
    ∃ other ∈ before ++ [key], other ∈ self.initialized

theorem Sound.missing (sound : Sound touched self)
    (absent : self.registry.strategies.get? key = none) : Sound (touched ++ [key]) self := by
  refine ⟨fun k other found => ?_, sound.registered, sound.managed⟩
  have apart : k ≠ key := by
    rintro rfl
    cases absent.symm.trans found
  simpa [apart] using sound.behaves k other found

variable [UnicodeTable]

theorem frame_resetKeys (keys : List StrategyKey) :
    (self.resetKeys keys).2.initialized = self.initialized ∧
      (self.resetKeys keys).2.strategyKeys = self.strategyKeys ∧
      (self.resetKeys keys).2.enabled = self.enabled := by
  induction keys generalizing self with
  | nil => exact ⟨rfl, rfl, rfl⟩
  | cons key rest ih =>
    unfold resetKeys
    cases self.registry.get key with
    | error exc => exact ⟨rfl, rfl, rfl⟩
    | ok object =>
      simp only
      rcases object.reset with ⟨exc | _, object⟩
      · exact ⟨rfl, rfl, rfl⟩
      · exact ih

/-- Keys after the one whose reset raises do not count. -/
theorem resetKeys_append_of_error {keys : List StrategyKey} {exc : PythonException}
    (raised : (self.resetKeys keys).1 = .error exc) (later : List StrategyKey) :
    self.resetKeys (keys ++ later) = self.resetKeys keys := by
  induction keys generalizing self with
  | nil => cases raised
  | cons key rest ih =>
    rw [List.cons_append]
    unfold StrategyOrchestrator.resetKeys at raised ⊢
    cases found : self.registry.get key with
    | error exc => rfl
    | ok object =>
      simp only [found] at raised ⊢
      rcases called : object.reset with ⟨exc | _, object⟩
      · rfl
      · simp only [called] at raised ⊢
        exact ih raised

/-- There is one key at which a loop of resets stops. -/
theorem stop_unique {before before' after after' : List StrategyKey} {key key' : StrategyKey}
    {exc exc' : PythonException} (split : before ++ key :: after = before' ++ key' :: after')
    (early : (self.resetKeys before).1 = .ok ())
    (stops : (self.resetKeys (before ++ [key])).1 = .error exc)
    (early' : (self.resetKeys before').1 = .ok ())
    (stops' : (self.resetKeys (before' ++ [key'])).1 = .error exc') :
    before ++ [key] = before' ++ [key'] := by
  -- a stop inside the earlier keys contradicts that their resets return
  have beyond {front front' back back' : List StrategyKey} {k k' : StrategyKey}
      {raised : PythonException} (split : front ++ k :: back = front' ++ k' :: back')
      (stops : (self.resetKeys (front ++ [k])).1 = .error raised)
      (early : (self.resetKeys front').1 = .ok ()) : front'.length ≤ front.length := by
    by_contra shorter
    have le : front ++ [k] <+: front' := by
      have whole : front ++ [k] <+: front' ++ k' :: back' := split ▸ ⟨back, by simp⟩
      refine List.prefix_of_prefix_length_le whole (List.prefix_append _ _) ?_
      simp only [List.length_append, List.length_singleton]
      omega
    obtain ⟨later, rfl⟩ := le
    rw [resetKeys_append_of_error stops, stops] at early
    cases early
  have same := Nat.le_antisymm (beyond split.symm stops' early) (beyond split stops early')
  obtain ⟨rfl, rest⟩ := List.append_inj split same
  rw [(List.cons.inj rest).1]

theorem resetKeys_of_error {object : StrategyObject δ (σ × List Call) ς} {exc : PythonException}
    (found : self.registry.strategies.get? key = some object)
    (raised : object.reset.1 = .error exc) (later : List StrategyKey) :
    self.resetKeys (key :: later) = (.error exc, self.store key object.reset.2) := by
  simp only [StrategyOrchestrator.resetKeys, StrategyRegistry.get, found]
  generalize object.reset = called at raised ⊢
  obtain ⟨_, next⟩ := called
  cases raised
  rfl

theorem resetKeys_of_ok {object : StrategyObject δ (σ × List Call) ς}
    (found : self.registry.strategies.get? key = some object)
    (ended : object.reset.1 = .ok ()) (later : List StrategyKey) :
    self.resetKeys (key :: later) = (self.store key object.reset.2).resetKeys later := by
  simp only [StrategyOrchestrator.resetKeys, StrategyRegistry.get, found]
  generalize object.reset = called at ended ⊢
  obtain ⟨_, next⟩ := called
  cases ended
  rfl

/-- The resets touch all keys, or stop at the key whose reset raises. -/
theorem Sound.resetKeys (sound : Sound touched self) (keys : List StrategyKey) :
    (self.resetKeys keys).1 = .ok () ∧ Sound (touched ++ keys) (self.resetKeys keys).2 ∨
    ∃ before key after exc, keys = before ++ key :: after ∧
      (self.resetKeys before).1 = .ok () ∧ (self.resetKeys (before ++ [key])).1 = .error exc ∧
      (self.resetKeys keys).1 = .error exc ∧
      Sound (touched ++ (before ++ [key])) (self.resetKeys keys).2 := by
  induction keys generalizing self touched with
  | nil => exact .inl ⟨rfl, by rwa [List.append_nil]⟩
  | cons key rest ih =>
    cases found : self.registry.strategies.get? key with
    | none =>
      obtain ⟨exc, lookup⟩ : ∃ exc, ∀ later,
          self.resetKeys (key :: later) = (.error exc, self) := by
        refine ⟨keyError ("strategy not registered: " ++ keyText key), fun later => ?_⟩
        simp only [StrategyOrchestrator.resetKeys, StrategyRegistry.get, found]
      refine .inr ⟨[], key, rest, exc, rfl, rfl, ?_, ?_, ?_⟩
      · exact congrArg Prod.fst (lookup [])
      · exact congrArg Prod.fst (lookup rest)
      · rw [lookup]
        exact sound.missing found
    | some object =>
      have stored := sound.store (sound.behaves key object found).reset key
      cases result : object.reset.1 with
      | error exc =>
        have step := resetKeys_of_error found result
        refine .inr ⟨[], key, rest, exc, rfl, rfl, ?_, ?_, ?_⟩
        · exact congrArg Prod.fst (step [])
        · exact congrArg Prod.fst (step rest)
        · rwa [step]
      | ok _ =>
        have step := resetKeys_of_ok found result
        rcases ih stored with
          ⟨ended, after⟩ | ⟨before, k, after, exc, rfl, early, stops, raised, left⟩
        · refine .inl ⟨by rw [step, ended], ?_⟩
          rw [step]
          simpa using after
        · refine .inr ⟨key :: before, k, after, exc, rfl, ?_, ?_, ?_, ?_⟩
          · rw [step, early]
          · rw [List.cons_append, step, stops]
          · rw [step, raised]
          · rw [step]
            simpa using left

/-- A reset that is not interrupted leaves every strategy as it counts. -/
theorem Sound.reset (sound : Sound [] self) (whole : ¬self.Interrupted) :
    Sound [] self.reset.2 := by
  obtain ⟨initialized, strategyKeys, -⟩ := @frame_resetKeys _ _ _ self _ self.strategyKeys
  unfold StrategyOrchestrator.reset
  rcases sound.resetKeys self.strategyKeys with
    ⟨ended, after⟩ | ⟨before, key, later, exc, split, early, stops, raised, left⟩
  · generalize self.resetKeys self.strategyKeys = called at ended after strategyKeys ⊢
    obtain ⟨result, next⟩ := called
    cases ended
    refine ⟨fun k object found => ?_, fun k absurd => ?_, after.managed⟩
    · have behaves := after.behaves k object found
      have untouched : ¬(k ∈ next.initialized ∧ k ∉ [] ++ self.strategyKeys) := fun both =>
        both.2 (strategyKeys ▸ (after.registered k both.1).1)
      rw [decide_eq_false untouched] at behaves
      simpa using behaves
    · simp at absurd
  · have apart : ∀ k ∈ self.initialized, k ∉ before ++ [key] := fun k done member =>
      whole ⟨before, key, later, exc, split, early, stops, k, member, done⟩
    generalize self.resetKeys self.strategyKeys = called at raised left initialized ⊢
    obtain ⟨result, next⟩ := called
    cases raised
    refine ⟨fun k object found => ?_, left.registered, left.managed⟩
    have behaves := left.behaves k object found
    simp only at initialized
    rw [initialized] at behaves ⊢
    have same : (k ∈ self.initialized ∧ k ∉ [] ++ (before ++ [key])) ↔
        (k ∈ self.initialized ∧ k ∉ []) := by
      have := apart k
      grind
    rwa [decide_eq_decide.mpr same] at behaves

/-! ## Runs -/

/-- What can be asked of the orchestrator and of its registry. -/
inductive Request (δ σ ς : Type)
  | register (strategy : Strategy δ σ ς) (state : σ)
  | setEnabled (key : StrategyKey) (enabled : Bool)
  | run (contexts : Dict String (StrategyContext δ)) (selected : Option (List StrategyKey))
  | reset

/-- A request may raise; the orchestrator stays as the request leaves it. -/
def perform (self : StrategyOrchestrator δ (σ × List Call) ς) :
    Request δ σ ς → StrategyOrchestrator δ (σ × List Call) ς
  | .register strategy state =>
    match self.registry.register ⟨strategy.recorded, state, []⟩ with
    | .error _ => self
    | .ok registry => { self with registry }
  | .setEnabled key enabled => (self.setEnabled key enabled).2
  | .run contexts selected => (self.run contexts selected).2
  | .reset => self.reset.2

def step (self : StrategyOrchestrator δ (σ × List Call) ς) (request : Request δ σ ς) :
    Option (StrategyOrchestrator δ (σ × List Call) ς) :=
  some (self.perform request)

omit [UnicodeTable] in
theorem sound_create (strategyKeys : List StrategyKey) :
    Sound [] (create {} strategyKeys : StrategyOrchestrator δ (σ × List Call) ς) where
  behaves key object found := by cases found
  registered key member := by simp [create] at member
  managed key managed := by
    obtain ⟨flag, found⟩ := Option.isSome_iff_exists.mp managed
    obtain ⟨k, member, same⟩ := List.mem_map.mp (Dict.mem_of_get?_ofList found)
    exact (Prod.mk.inj same).1 ▸ member

omit [UnicodeTable] in
/-- A strategy that is new has not been called. -/
theorem Sound.register (sound : Sound [] self) (behaves : Behaves object false)
    (fresh : ¬self.registry.strategies.contains object.key) :
    Sound [] { self with registry := ⟨self.registry.strategies.set object.key object⟩ } := by
  constructor
  · intro k other found
    rw [Dict.get?_set] at found
    split at found
    next same =>
      cases found
      have uninitialized : k ∉ self.initialized := fun member =>
        fresh (same ▸ (sound.registered k member).2)
      simpa [uninitialized] using behaves
    next => exact sound.behaves k other found
  · intro k initialized
    obtain ⟨known, there⟩ := sound.registered k initialized
    exact ⟨known, Dict.contains_set.mpr (.inr there)⟩
  · exact sound.managed

theorem Sound.perform (sound : Sound [] self) (request : Request δ σ ς)
    (whole : request = .reset → ¬self.Interrupted) : Sound [] (self.perform request) := by
  cases request with
  | register strategy state =>
    unfold StrategyOrchestrator.perform
    simp only [StrategyRegistry.register]
    split
    next => exact sound
    next registry added =>
      split at added
      · cases added
      next fresh =>
        cases added
        exact sound.register ⟨⟨strategy, rfl⟩, rfl⟩ fresh
  | setEnabled key enabled =>
    change Sound [] (self.setEnabled key enabled).2
    unfold StrategyOrchestrator.setEnabled
    split
    next known =>
      refine ⟨sound.behaves, sound.registered, fun k managed => ?_⟩
      rcases Dict.contains_set.mp managed with rfl | before
      · exact sound.managed k known
      · exact sound.managed k before
    next => exact sound
  | run contexts selected => exact sound.runKeys contexts [] [] _
  | reset => exact sound.reset (whole rfl)

/-- Along every run of requests in which no reset raises behind an initialized strategy, the
calls on every strategy are in order. -/
theorem ordered_of_not_interrupted (strategyKeys : List StrategyKey)
    {requests : List (Request δ σ ς)}
    (whole : ∀ before, Machine.Takes step (create {} strategyKeys) requests before .reset →
      ¬before.Interrupted) :
    ∀ now, Machine.Visits step (create {} strategyKeys) requests now →
      ∀ key object, now.registry.strategies.get? key = some object →
        ∃ ready, Ordered object.state.2 ready := by
  intro now visited key object found
  have sound : Sound [] now := by
    refine @Machine.visits_invariant _ _ _ _ _ _
      (fun before request => request = .reset → ¬before.Interrupted) (sound_create strategyKeys)
      ?_ ?_ now visited
    · rintro before request after sound whole ⟨⟩
      exact sound.perform request whole
    · rintro before request takes rfl
      exact whole before takes
  exact ⟨_, (sound.behaves key object found).ordered⟩

omit [UnicodeTable] in
/-- One strategy, run before and after a reset that returns. -/
theorem ordered_of_not_interrupted_reset :
    letI : UnicodeTable := ⟨fun _ => true⟩
    let contexts := .ofList [("track1", ⟨(), "track1", none⟩)]
    let requests : List (Request Unit Unit String) :=
      [.register (.plain "track1" "") (), .run contexts none, .reset, .run contexts none]
    ∀ now, Machine.Visits step (create {} [("track1", "1.0")]) requests now →
      ∀ key object, now.registry.strategies.get? key = some object →
        ∃ ready, Ordered object.state.2 ready := by
  intro contexts requests
  refine @ordered_of_not_interrupted _ _ _ ⟨fun _ => true⟩ _ _ ?_
  rintro before takes ⟨front, key, back, exc, split, -, stops, -⟩
  rcases Machine.takes_cons.mp takes with ⟨-, ⟨⟩⟩ | ⟨_, ⟨⟩, takes⟩
  rcases Machine.takes_cons.mp takes with ⟨-, ⟨⟩⟩ | ⟨_, ⟨⟩, takes⟩
  rcases Machine.takes_cons.mp takes with ⟨rfl, -⟩ | ⟨_, ⟨⟩, takes⟩
  · have only : front = [] ∧ key = ("track1", "1.0") := by
      rcases front with _ | ⟨first, front⟩
      · exact ⟨rfl, (List.cons.inj split).1.symm⟩
      · exact absurd (List.cons.inj split).2 (by simp)
    obtain ⟨rfl, rfl⟩ := only
    cases stops.symm.trans (rfl : _ = Except.ok ())
  · simpa using Machine.mem_of_takes takes

omit [UnicodeTable] in
/-- The reset of the second strategy raises after that of the first has returned. -/
theorem disordered_second_reset_raises :
    letI : UnicodeTable := ⟨fun _ => true⟩
    let contexts := .ofList [("track1", ⟨(), "track1", none⟩), ("track2", ⟨(), "track2", none⟩)]
    let requests : List (Request Unit Unit String) :=
      [.register (.plain "track1" "") (), .register (.plain "track2" "reset") (),
        .run contexts none, .reset, .run contexts none]
    let calls := [.onInitialize true, .onMarketState, .evaluate, .reset, .onMarketState, .evaluate]
    ((Machine.run step (create {} [("track1", "1.0"), ("track2", "1.0")]) requests).bind fun now =>
      (now.registry.strategies.get? ("track1", "1.0")).map fun object => object.state.2) =
        some calls ∧
    Machine.run callOrder false calls = none := by
  decide +kernel

/-- After an interrupted reset a strategy counts as initialized and is not, and the next time it
is attempted its calls are out of order. -/
theorem disordered_of_interrupted (sound : Sound [] self) (interrupted : self.Interrupted) :
    ∃ key object, self.reset.2.registry.strategies.get? key = some object ∧
      key ∈ self.reset.2.initialized ∧
      ∀ context ready, ¬Ordered (object.lifecycle key true context).2.1.state.2 ready := by
  obtain ⟨before, key, after, exc, split, early, stops, other, touched, done⟩ := interrupted
  obtain ⟨initialized, -, -⟩ := @frame_resetKeys _ _ _ self _ self.strategyKeys
  have raised : (self.resetKeys self.strategyKeys).1 = .error exc := by
    rw [split, List.append_cons, resetKeys_append_of_error stops, stops]
  have left : Sound (before ++ [key]) (self.resetKeys self.strategyKeys).2 := by
    rcases sound.resetKeys self.strategyKeys with
      ⟨ended, -⟩ | ⟨before', key', after', exc', split', early', stops', -, left⟩
    · cases raised.symm.trans ended
    · rwa [stop_unique (split.symm.trans split') early stops early' stops']
  have reset : self.reset.2 = (self.resetKeys self.strategyKeys).2 := by
    unfold StrategyOrchestrator.reset
    generalize self.resetKeys self.strategyKeys = called at raised ⊢
    obtain ⟨result, next⟩ := called
    cases raised
    rfl
  rw [← initialized] at done
  obtain ⟨object, found⟩ := Option.isSome_iff_exists.mp (left.registered other done).2
  have behaves := left.behaves other object found
  rw [decide_eq_false (not_and_not_right.mpr fun _ => touched)] at behaves
  rw [reset]
  exact ⟨other, object, found, done, fun context ready =>
    behaves.lifecycle_stale context other ready⟩

end StrategyOrchestrator
end OptionProject.Strategies
