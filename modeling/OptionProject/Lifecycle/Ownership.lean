import OptionProject.Library.Dict
import OptionProject.Library.Machine
import OptionProject.Lifecycle.Effects

/-!
# Transport ownership

The registry of `application/composition/live_runtime_production_factory.py` and the
coordinators that are created over its claims, called one after another. A coordinator gives
its claim up when it stops cleanly or fails to start, and may be started again after that,
without a claim; exactly these starts break the exclusive ownership of a transport.

## Main results

* `Lawful.perform` — callbacks and claims agree in every run.
* `exclusive_iff` — the runs in which every transport has at most one started coordinator,
  and every started coordinator holds its claim.
-/
namespace OptionProject.Lifecycle
open Library Contracts

/-! ## The registry -/

/-- The function that a claim returns: it releases the transport while it holds the token. -/
structure Release where
  key : ℕ
  token : ℕ
  deriving DecidableEq, Repr

/-- The owners of transports by their identities; every claim makes a new token. -/
structure LiveExecutionTransportOwnershipRegistry where
  owners : Dict ℕ ℕ := .empty
  nextToken : ℕ := 0

namespace LiveExecutionTransportOwnershipRegistry

def claim (self : LiveExecutionTransportOwnershipRegistry) (transport : ℕ) :
    Outcome LiveExecutionTransportOwnershipRegistry Release :=
  if self.owners.contains transport then
    (.error ⟨.runtimeError, "LIVE_EXECUTION_TRANSPORT_ALREADY_OWNED"⟩, self)
  else
    (.ok ⟨transport, self.nextToken⟩,
      ⟨self.owners.set transport self.nextToken, self.nextToken + 1⟩)

def release (self : LiveExecutionTransportOwnershipRegistry) (callback : Release) :
    LiveExecutionTransportOwnershipRegistry :=
  if self.owners.get? callback.key = some callback.token then
    { self with owners := self.owners.erase callback.key }
  else self

/-- The transport is claimed with the token of the callback. -/
def Holds (self : LiveExecutionTransportOwnershipRegistry) (callback : Release) : Prop :=
  self.owners.get? callback.key = some callback.token

end LiveExecutionTransportOwnershipRegistry

/-! ## Coordinators over claims -/

/-- A coordinator and the claim made when it was created. -/
structure Owned where
  claim : Release
  coordinator : LiveRuntimeLifecycleCoordinator Release

def Owned.create (callback : Release) : Owned :=
  ⟨callback, { releaseExecutionTransportOwnership := some callback }⟩

/-- The registry, the coordinators in the order of their creation, and the call that is going
on: calls do not overlap. -/
structure LiveRuntimes where
  registry : LiveExecutionTransportOwnershipRegistry := {}
  coordinators : List Owned := []
  inCall : Option (ℕ × Point) := none

/-- The creation of a coordinator over a transport, the first segment of a call of the
coordinator at an index, or the next segment of the call that is going on. -/
inductive Move
  | create (transport : ℕ)
  | call (index : ℕ) (call : Call) (answers : Answers)
  | resume (outcome : CallOutcome) (answers : Answers)

/-- The callback of the registry does not raise. -/
def Answers.ofRegistry (answers : Answers) : Answers :=
  { answers with releaseOwnership := .returned }

namespace LiveRuntimes

def create (self : LiveRuntimes) (transport : ℕ) : LiveRuntimes :=
  match self.registry.claim transport with
  | (.error _, registry) => { self with registry }
  | (.ok callback, registry) =>
    { self with registry, coordinators := self.coordinators ++ [.create callback] }

/-- The segment of a call of a coordinator is done. -/
def apply (self : LiveRuntimes) (index : ℕ) (owned : Owned) (turn : Turn Release) :
    LiveRuntimes where
  registry := (released turn.events).foldl (·.release ·) self.registry
  coordinators := self.coordinators.set index { owned with coordinator := turn.coordinator }
  inCall :=
    match turn.point with
    | .done _ => none
    | point => some (index, point)

def perform (self : LiveRuntimes) : Move → Option LiveRuntimes
  | .create transport =>
    if self.inCall.isNone then some (self.create transport) else none
  | .call index call answers =>
    if self.inCall.isNone then do
      let owned ← self.coordinators[index]?
      some (self.apply index owned (owned.coordinator.begin call answers.ofRegistry))
    else none
  | .resume outcome answers => do
    let (index, point) ← self.inCall
    let owned ← self.coordinators[index]?
    let turn ← owned.coordinator.resume point outcome answers.ofRegistry
    some (self.apply index owned turn)

/-- Of the coordinators over one transport at most one is started, and a started one holds
its claim. -/
structure Exclusive (runtimes : LiveRuntimes) : Prop where
  unique : ∀ (i j : ℕ) first second, runtimes.coordinators[i]? = some first →
    runtimes.coordinators[j]? = some second → first.claim.key = second.claim.key →
    first.coordinator.started = true → second.coordinator.started = true → i = j
  holds : ∀ (i : ℕ) owned, runtimes.coordinators[i]? = some owned →
    owned.coordinator.started = true → runtimes.registry.Holds owned.claim

/-- Tokens tell coordinators apart, and a coordinator has its callback exactly as long as the
registry holds its claim. -/
structure Lawful (runtimes : LiveRuntimes) : Prop where
  fresh : ∀ (i : ℕ) owned, runtimes.coordinators[i]? = some owned →
    owned.claim.token < runtimes.registry.nextToken
  distinct : ∀ (i j : ℕ) first second, runtimes.coordinators[i]? = some first →
    runtimes.coordinators[j]? = some second → first.claim.token = second.claim.token → i = j
  callback : ∀ (i : ℕ) owned, runtimes.coordinators[i]? = some owned →
    owned.coordinator.releaseExecutionTransportOwnership = none ∧
        ¬runtimes.registry.Holds owned.claim ∨
      owned.coordinator.releaseExecutionTransportOwnership = some owned.claim ∧
        runtimes.registry.Holds owned.claim
  starting : ∀ index point owned, runtimes.inCall = some (index, point) →
    runtimes.coordinators[index]? = some owned → point.isStarting = true →
    owned.coordinator.started = false

/-- The move completes a start of a coordinator that has already given its claim up. -/
def RestartsUnclaimed (self : LiveRuntimes) : Move → Prop
  | .resume outcome _ => ∃ index point owned, self.inCall = some (index, point) ∧
      self.coordinators[index]? = some owned ∧ point.launches outcome = true ∧
      owned.coordinator.releaseExecutionTransportOwnership = none
  | _ => False

end LiveRuntimes

/-! ## Callbacks and claims agree -/

namespace LiveExecutionTransportOwnershipRegistry

variable {self registry : LiveExecutionTransportOwnershipRegistry} {callback other : Release}

@[simp] theorem nextToken_release : (self.release callback).nextToken = self.nextToken := by
  unfold release
  split <;> rfl

theorem holds_release :
    (self.release callback).Holds other ↔ self.Holds other ∧ other ≠ callback := by
  obtain ⟨key, token⟩ := other
  unfold release Holds
  split
  next held =>
    by_cases same : key = callback.key
    · subst same
      simp only [Dict.get?_erase_self, held, reduceCtorEq, Option.some.injEq, false_iff]
      rintro ⟨rfl, different⟩
      exact different rfl
    · simp only [Dict.get?_erase_of_ne _ same, iff_self_and]
      rintro - rfl
      exact same rfl
  next unheld =>
    simp only [iff_self_and]
    rintro held rfl
    exact unheld held

/-- A claim of a free transport holds, with a new token, and takes nothing from the others. -/
theorem claim_spec {transport : ℕ} (claimed : self.claim transport = (.ok callback, registry)) :
    callback.key = transport ∧ callback.token = self.nextToken ∧
      registry.nextToken = self.nextToken + 1 ∧ registry.Holds callback ∧
      ∀ other, other.token < self.nextToken → (registry.Holds other ↔ self.Holds other) := by
  unfold claim at claimed
  split at claimed
  next => cases claimed
  next free =>
    cases claimed
    have none : self.owners.get? transport = none := by simpa [Dict.contains] using free
    refine ⟨rfl, rfl, rfl, Dict.get?_set_self _ _ _, ?_⟩
    intro other old
    unfold Holds
    by_cases same : other.key = transport
    · rw [same, none, Dict.get?_set_self, Option.some.injEq]
      simp only [reduceCtorEq, iff_false]
      omega
    · rw [Dict.get?_set_of_ne _ _ same]

end LiveExecutionTransportOwnershipRegistry

namespace LiveRuntimes

variable {self next : LiveRuntimes} {index : ℕ} {owned : Owned} {turn : Turn Release}
  {launches : Bool}

theorem getElem?_apply {i : ℕ} {found : Owned}
    (there : (self.apply index owned turn).coordinators[i]? = some found) :
    i = index ∧ found = { owned with coordinator := turn.coordinator } ∨
      i ≠ index ∧ self.coordinators[i]? = some found :=
  Machine.getElem?_set_cases there

/-- A segment leaves the claims as they are. -/
theorem claim_of_apply {i : ℕ} {found : Owned}
    (there : (self.apply index owned turn).coordinators[i]? = some found)
    (known : self.coordinators[index]? = some owned) :
    ∃ old, self.coordinators[i]? = some old ∧ old.claim = found.claim := by
  rcases getElem?_apply there with ⟨rfl, rfl⟩ | ⟨-, old⟩
  · exact ⟨owned, known, rfl⟩
  · exact ⟨found, old, rfl⟩

/-- After a segment of a start that has not ended the coordinator is not started. -/
theorem starting_of_apply {i : ℕ} {point : Point} {found : Owned}
    (inCall : (self.apply index owned turn).inCall = some (i, point))
    (there : (self.apply index owned turn).coordinators[i]? = some found)
    (known : self.coordinators[index]? = some owned)
    (effect : Effect owned.coordinator launches turn) (starting : point.isStarting = true) :
    found.coordinator.started = false := by
  have here : i = index ∧ turn.point = point := by
    simp only [apply] at inCall
    split at inCall
    · cases inCall
    · cases inCall
      exact ⟨rfl, rfl⟩
  rcases getElem?_apply there with ⟨rfl, rfl⟩ | ⟨other, -⟩
  · exact effect.starting (here.2 ▸ starting)
  · exact absurd here.1 other

/-- A callback that is run is the coordinator's own claim, and the registry drops it. -/
theorem Lawful.own_callback (lawful : self.Lawful) {callback : Release}
    (known : self.coordinators[index]? = some owned)
    (held : owned.coordinator.releaseExecutionTransportOwnership = some callback) :
    callback = owned.claim := by
  rcases lawful.callback index owned known with ⟨gone, -⟩ | ⟨there, -⟩
  · cases gone.symm.trans held
  · exact Option.some.inj (held.symm.trans there)

theorem Effect.registry (self : LiveRuntimes) (index : ℕ)
    (effect : Effect owned.coordinator launches turn) :
    (self.apply index owned turn).registry = self.registry ∧
        turn.coordinator.releaseExecutionTransportOwnership =
          owned.coordinator.releaseExecutionTransportOwnership ∨
      ∃ callback, owned.coordinator.releaseExecutionTransportOwnership = some callback ∧
        turn.coordinator.releaseExecutionTransportOwnership = none ∧
        (self.apply index owned turn).registry = self.registry.release callback := by
  rcases effect.callback with ⟨kept, silent⟩ | ⟨callback, held, dropped, ran, -⟩
  · exact .inl ⟨by simp [apply, silent], kept⟩
  · exact .inr ⟨callback, held, dropped, by simp [apply, ran]⟩

theorem Lawful.apply (lawful : self.Lawful) (known : self.coordinators[index]? = some owned)
    (effect : Effect owned.coordinator launches turn) : (self.apply index owned turn).Lawful := by
  have registry := Effect.registry self index effect
  refine ⟨?_, ?_, ?_, ?_⟩
  · intro i found there
    obtain ⟨old, known', claim⟩ := claim_of_apply there known
    have fresh := lawful.fresh i old known'
    rw [← claim]
    rcases registry with ⟨same, -⟩ | ⟨callback, -, -, dropped⟩
    · rwa [same]
    · rwa [dropped, LiveExecutionTransportOwnershipRegistry.nextToken_release]
  · intro i j first second atI atJ same
    obtain ⟨first', oldI, claimI⟩ := claim_of_apply atI known
    obtain ⟨second', oldJ, claimJ⟩ := claim_of_apply atJ known
    exact lawful.distinct i j first' second' oldI oldJ (by rw [claimI, claimJ, same])
  · intro i found there
    rcases registry with ⟨same, kept⟩ | ⟨callback, held, gone, dropped⟩
    · rw [same]
      rcases getElem?_apply there with ⟨rfl, rfl⟩ | ⟨-, old⟩
      · rw [kept]
        exact lawful.callback i owned known
      · exact lawful.callback i found old
    · have own := lawful.own_callback known held
      rw [dropped, LiveExecutionTransportOwnershipRegistry.holds_release]
      rcases getElem?_apply there with ⟨rfl, rfl⟩ | ⟨other, old⟩
      · exact .inl ⟨gone, fun still => still.2 own.symm⟩
      · have different : found.claim ≠ callback := by
          intro same
          exact other (lawful.distinct i index found owned old known (by rw [same, own]))
        rcases lawful.callback i found old with ⟨gone', unheld⟩ | ⟨there', holds⟩
        · exact .inl ⟨gone', fun still => unheld still.1⟩
        · exact .inr ⟨there', holds, different⟩
  · intro i point found inCall there starting
    exact starting_of_apply inCall there known effect starting

/-- A creation fails and changes nothing, or adds a coordinator over a new claim. -/
theorem create_cases (self : LiveRuntimes) (transport : ℕ) :
    self.create transport = self ∨
      ∃ callback registry, self.registry.claim transport = (.ok callback, registry) ∧
        self.create transport =
          { self with registry, coordinators := self.coordinators ++ [.create callback] } := by
  unfold LiveRuntimes.create
  split
  next e registry refused =>
    unfold LiveExecutionTransportOwnershipRegistry.claim at refused
    split at refused
    · exact .inl (by rw [← (Prod.mk.inj refused).2])
    · cases (Prod.mk.inj refused).1
  next callback registry claimed => exact .inr ⟨callback, registry, claimed, rfl⟩

theorem Lawful.create (lawful : self.Lawful) (idle : self.inCall = none) (transport : ℕ) :
    (self.create transport).Lawful := by
  rcases create_cases self transport with same | ⟨callback, registry, claimed, created⟩
  · rwa [same]
  rw [created]
  obtain ⟨-, token, nextToken, holds, others⟩ :=
    LiveExecutionTransportOwnershipRegistry.claim_spec claimed
  refine ⟨?_, ?_, ?_, ?_⟩
  · intro i found there
    show _ < registry.nextToken
    rw [nextToken]
    rcases Machine.getElem?_concat there with old | ⟨-, rfl⟩
    · have := lawful.fresh i found old
      omega
    · show callback.token < _
      omega
  · intro i j first second atI atJ same
    rcases Machine.getElem?_concat atI with oldI | ⟨endI, rfl⟩ <;>
      rcases Machine.getElem?_concat atJ with oldJ | ⟨endJ, rfl⟩
    · exact lawful.distinct i j first second oldI oldJ same
    · have := lawful.fresh i first oldI
      simp only [Owned.create] at same
      omega
    · have := lawful.fresh j second oldJ
      simp only [Owned.create] at same
      omega
    · omega
  · intro i found there
    show _ ∧ ¬registry.Holds _ ∨ _ ∧ registry.Holds _
    rcases Machine.getElem?_concat there with old | ⟨-, rfl⟩
    · rw [others _ (lawful.fresh i found old)]
      exact lawful.callback i found old
    · exact .inr ⟨rfl, holds⟩
  · intro index point owned inCall
    cases idle.symm.trans inCall

theorem Lawful.perform (lawful : self.Lawful) {move : Move}
    (performed : self.perform move = some next) : next.Lawful := by
  cases move with
  | create transport =>
    simp only [LiveRuntimes.perform, Option.ite_none_right_eq_some, Option.some.injEq] at performed
    obtain ⟨idle, rfl⟩ := performed
    exact lawful.create (Option.isNone_iff_eq_none.mp idle) transport
  | call index call answers =>
    simp only [LiveRuntimes.perform, Option.ite_none_right_eq_some, Option.bind_eq_bind,
      Option.bind_eq_some_iff, Option.some.injEq] at performed
    obtain ⟨idle, owned, known, rfl⟩ := performed
    exact lawful.apply known (LiveRuntimeLifecycleCoordinator.begin_effect call _)
  | resume outcome answers =>
    simp only [LiveRuntimes.perform, Option.bind_eq_bind, Option.bind_eq_some_iff,
      Option.some.injEq] at performed
    obtain ⟨⟨index, point⟩, inCall, owned, known, turn, resumed, rfl⟩ := performed
    exact lawful.apply known (LiveRuntimeLifecycleCoordinator.resume_effect
      (lawful.starting index point owned inCall known) resumed)

/-! ## Exclusive ownership -/

/-- In a lawful state ownership is exclusive when every started coordinator has its callback. -/
theorem exclusive_iff_callback (lawful : self.Lawful) :
    self.Exclusive ↔ ∀ (i : ℕ) owned, self.coordinators[i]? = some owned →
      owned.coordinator.started = true →
      owned.coordinator.releaseExecutionTransportOwnership ≠ none := by
  constructor
  · intro exclusive i owned known started gone
    rcases lawful.callback i owned known with ⟨-, unheld⟩ | ⟨there, -⟩
    · exact unheld (exclusive.holds i owned known started)
    · cases gone.symm.trans there
  · intro callbacks
    have holds : ∀ (i : ℕ) owned, self.coordinators[i]? = some owned →
        owned.coordinator.started = true → self.registry.Holds owned.claim := by
      intro i owned known started
      rcases lawful.callback i owned known with ⟨gone, -⟩ | ⟨-, holds⟩
      · exact absurd gone (callbacks i owned known started)
      · exact holds
    refine ⟨?_, holds⟩
    intro i j first second atI atJ same startedI startedJ
    have holdsI := holds i first atI startedI
    have holdsJ := holds j second atJ startedJ
    unfold LiveExecutionTransportOwnershipRegistry.Holds at holdsI holdsJ
    rw [same, holdsJ] at holdsI
    exact lawful.distinct i j first second atI atJ (Option.some.inj holdsI).symm

theorem lawful_start : ({} : LiveRuntimes).Lawful := by
  refine ⟨?_, ?_, ?_, ?_⟩
  · intro i owned there
    cases there
  · intro i j first second atI
    cases atI
  · intro i owned there
    cases there
  · intro index point owned inCall
    cases inCall

/-- A segment that does not complete an unclaimed restart keeps the ownership exclusive. -/
theorem callbacks_of_apply (known : self.coordinators[index]? = some owned)
    (effect : Effect owned.coordinator launches turn)
    (claimed : launches = true →
      owned.coordinator.releaseExecutionTransportOwnership ≠ none)
    (callbacks : ∀ (i : ℕ) owned, self.coordinators[i]? = some owned →
      owned.coordinator.started = true →
      owned.coordinator.releaseExecutionTransportOwnership ≠ none) :
    ∀ (i : ℕ) found, (self.apply index owned turn).coordinators[i]? = some found →
      found.coordinator.started = true →
      found.coordinator.releaseExecutionTransportOwnership ≠ none := by
  intro i found there started
  rcases getElem?_apply there with ⟨rfl, rfl⟩ | ⟨-, old⟩
  · rcases effect.callback with ⟨kept, -⟩ | ⟨-, -, -, -, stopped⟩
    · show turn.coordinator.releaseExecutionTransportOwnership ≠ none
      rw [kept]
      rcases effect.started started with launched | before
      · exact claimed launched
      · exact callbacks i owned known before
    · cases stopped.symm.trans started
  · exact callbacks i found old started

theorem Exclusive.perform (lawful : self.Lawful) (exclusive : self.Exclusive) {move : Move}
    (claimed : ¬self.RestartsUnclaimed move) (performed : self.perform move = some next) :
    next.Exclusive := by
  rw [exclusive_iff_callback (lawful.perform performed)]
  have callbacks := (exclusive_iff_callback lawful).mp exclusive
  cases move with
  | create transport =>
    simp only [LiveRuntimes.perform, Option.ite_none_right_eq_some, Option.some.injEq] at performed
    obtain ⟨-, rfl⟩ := performed
    rcases create_cases self transport with same | ⟨callback, registry, -, created⟩
    · rwa [same]
    · rw [created]
      intro i found there started
      rcases Machine.getElem?_concat there with old | ⟨-, rfl⟩
      · exact callbacks i found old started
      · cases started
  | call index call answers =>
    simp only [LiveRuntimes.perform, Option.ite_none_right_eq_some, Option.bind_eq_bind,
      Option.bind_eq_some_iff, Option.some.injEq] at performed
    obtain ⟨-, owned, known, rfl⟩ := performed
    exact callbacks_of_apply known (LiveRuntimeLifecycleCoordinator.begin_effect call _) nofun
      callbacks
  | resume outcome answers =>
    simp only [LiveRuntimes.perform, Option.bind_eq_bind, Option.bind_eq_some_iff,
      Option.some.injEq] at performed
    obtain ⟨⟨index, point⟩, inCall, owned, known, turn, resumed, rfl⟩ := performed
    refine callbacks_of_apply known (LiveRuntimeLifecycleCoordinator.resume_effect
      (lawful.starting index point owned inCall known) resumed) ?_ callbacks
    intro launches gone
    exact claimed ⟨index, point, owned, inCall, known, launches, gone⟩

/-- An unclaimed restart leaves a started coordinator without its claim. -/
theorem not_exclusive_of_restart (lawful : self.Lawful) {move : Move}
    (restarts : self.RestartsUnclaimed move) (performed : self.perform move = some next) :
    ¬next.Exclusive := by
  rw [exclusive_iff_callback (lawful.perform performed)]
  cases move with
  | create transport => exact restarts.elim
  | call index call answers => exact restarts.elim
  | resume outcome answers =>
    obtain ⟨index, point, owned, inCall, known, launches, gone⟩ := restarts
    simp only [LiveRuntimes.perform, inCall, known, Option.bind_eq_bind, Option.bind_some,
      Option.bind_eq_some_iff, Option.some.injEq] at performed
    obtain ⟨turn, resumed, rfl⟩ := performed
    have effect := LiveRuntimeLifecycleCoordinator.resume_effect
      (lawful.starting index point owned inCall known) resumed
    have inside : index < self.coordinators.length := (List.getElem?_eq_some_iff.mp known).1
    intro callbacks
    have there : (self.apply index owned turn).coordinators[index]? =
        some { owned with coordinator := turn.coordinator } := by
      simp [LiveRuntimes.apply, inside]
    have still := callbacks index _ there (effect.launched launches)
    rcases effect.callback with ⟨kept, -⟩ | ⟨callback, held, -⟩
    · exact still (kept.trans gone)
    · cases gone.symm.trans held

/-- In a run of creations and calls the ownership of every transport stays exclusive exactly
when no start is completed on a coordinator that has given its claim up. -/
theorem exclusive_iff (moves : List Move) (last : LiveRuntimes)
    (ran : Machine.run LiveRuntimes.perform {} moves = some last) :
    (∀ runtimes, Machine.Visits LiveRuntimes.perform {} moves runtimes → runtimes.Exclusive) ↔
      ∀ runtimes move, Machine.Takes LiveRuntimes.perform {} moves runtimes move →
        ¬runtimes.RestartsUnclaimed move := by
  have start : ({} : LiveRuntimes).Exclusive := by
    rw [exclusive_iff_callback lawful_start]
    intro i owned there
    cases there
  exact Machine.forall_visits_iff lawful_start start
    (fun _ _ _ lawful performed => lawful.perform performed)
    (fun _ _ _ lawful exclusive claimed performed => exclusive.perform lawful claimed performed)
    (fun _ _ _ lawful _ restarts performed => not_exclusive_of_restart lawful restarts performed)
    ran

/-- A coordinator is started and stopped, and a second one started over the same transport. -/
theorem exclusive_iff_started :
    let moves : List Move :=
      [.create 7, .call 0 (.start none) {}, .resume .returned {},
        .call 0 .stop {}, .resume .returned {}, .resume .returned {},
        .create 7, .call 1 (.start none) {}, .resume .returned {}]
    ∃ runtimes, Machine.run LiveRuntimes.perform {} moves = some runtimes ∧
      runtimes.coordinators.map (fun owned => (owned.claim.key, owned.coordinator.started)) =
        [(7, false), (7, true)] ∧
      ((∀ runtimes, Machine.Visits LiveRuntimes.perform {} moves runtimes →
          runtimes.Exclusive) ↔
        ∀ runtimes move, Machine.Takes LiveRuntimes.perform {} moves runtimes move →
          ¬runtimes.RestartsUnclaimed move) :=
  ⟨_, rfl, rfl, exclusive_iff _ _ rfl⟩

/-- The first coordinator is started and stopped, a second one is created and started over the
same transport, and the first one is started again. -/
theorem restarted_beside_owner :
    let moves : List Move :=
      [.create 7, .call 0 (.start none) {}, .resume .returned {},
        .call 0 .stop {}, .resume .returned {}, .resume .returned {},
        .create 7, .call 1 (.start none) {}, .resume .returned {},
        .call 0 (.start none) {}, .resume .returned {}]
    ∃ runtimes, Machine.run LiveRuntimes.perform {} moves = some runtimes ∧
      runtimes.coordinators.map (fun owned => (owned.claim.key, owned.coordinator.started)) =
        [(7, true), (7, true)] ∧
      ¬runtimes.Exclusive := by
  refine ⟨_, rfl, rfl, ?_⟩
  intro exclusive
  exact absurd (exclusive.unique 0 1 _ _ rfl rfl rfl rfl rfl) (by decide)

end LiveRuntimes
end OptionProject.Lifecycle
