import OptionProject.Oms.PairPlans
import OptionProject.Strategies.StrangleCycle

/-!
# Execution plans of the monthly strangle

`Track8MacroRegimeMonthlyStrangle.build_execution_plan` reads the strangle that the state holds, and
the signals announce it: strikes and quantities with the entry, new strikes with a rebuild. The
quantities of a rebuild are those of the entry, although its signal shows the greater of the two.
The builder of pairs is imported from a module that is not there; here it is that of
`core/oms/contracts.py`.

## Main definitions

* `Track8MacroRegimeMonthlyStrangle.buildExecutionPlan` — the plan of the strangle that is held.
* `announce` — the monitor of the numbers that the signals show.

## Main results

* `Track8MacroRegimeMonthlyStrangle.plans_follow_iff` — the runs whose plans are those announced.
-/
namespace OptionProject.Strategies
open Library Oms Contracts
open Risk.RiskEngine (truncate)

/-- The strangle that the signals have announced. -/
structure Announced where
  callStrike : ℚ
  putStrike : ℚ
  qtyCall : ℤ
  qtyPut : ℤ
  deriving DecidableEq

/-- The monitor of the numbers: a strangle is announced with its entry, a rebuild shows its old and
its new strikes and the greater quantity, and a close at the cutoff its quantities. -/
def announce (isOpen : Option Announced) (signal : Track8Signal) : Option (Option Announced) :=
  match signal.direction, signal.reason, isOpen with
  | .buyLimitTranche, .tranche _ callStrike putStrike qtyCall qtyPut, none =>
    some (some { callStrike, putStrike, qtyCall, qtyPut })
  | .dynamicProfitTake, .rebuilt oldCall oldPut _, some strangle =>
    if oldCall = strangle.callStrike ∧ oldPut = strangle.putStrike then some isOpen else none
  | .dynamicRebuildFence, .fence callStrike putStrike qty, some strangle =>
    if qty = max (max strangle.qtyCall strangle.qtyPut) 1 then
      some (some { strangle with callStrike, putStrike })
    else none
  | .flatStrangle, .flat _ qtyCall qtyPut _, some strangle =>
    if qtyCall = strangle.qtyCall ∧ qtyPut = strangle.qtyPut then some none else none
  | .takeProfitHybridTrailingStop, _, some _ => some none
  | .updateTrailing, _, some _ | .cancelPendingTranches, _, some _ | .holdLongAttack, _, some _
  | .holdHysteresis, _, some _ => some isOpen
  | .macroHedgeScaleUp, _, _ => some isOpen
  | _, _, _ => none

/-- The numbers apart, the signals come in their order. -/
theorem alternation_of_announce (before : Option Announced) (signal : Track8Signal)
    (after : Option Announced) (accepted : announce before signal = some after) :
    alternation before.isSome signal = some after.isSome := by
  unfold announce at accepted
  split at accepted <;> simp_all [alternation] <;> grind

def Announced.legs (strangle : Announced) : List ExecutionLeg :=
  [{ legId := "put", side := "BUY", quantity := strangle.qtyPut, optionType := some "PUT",
     strike := some strangle.putStrike },
    { legId := "call", side := "BUY", quantity := strangle.qtyCall, optionType := some "CALL",
      strike := some strangle.callStrike }]

namespace Track8MacroRegimeMonthlyStrangle

def strategyId : String := "track8_macro_regime_monthly_strangle"

def buildExecutionPlan (self : Track8MacroRegimeMonthlyStrangle) (groupId : String) :
    Option (Except PythonException MultiLegExecutionPlan) :=
  if !self.state.isActive ∨ self.state.callStrike ≤ 0 ∨ self.state.putStrike ≤ 0 then none
  else some (buildPairPlan groupId strategyId "MONTHLY_STRANGLE_ENTRY" self.state.putStrike
    self.state.callStrike self.state.qtyPut self.state.qtyCall "BUY")

variable {self : Track8MacroRegimeMonthlyStrangle} {data : Track8MarketInput}

/-- What the state holds, as it is announced. -/
def held (self : Track8MacroRegimeMonthlyStrangle) : Option Announced :=
  if self.state.isActive then
    some ⟨self.state.callStrike, self.state.putStrike, self.state.qtyCall, self.state.qtyPut⟩
  else none

@[simp] theorem isSome_held : self.held.isSome = self.state.isActive := by
  unfold held
  split <;> simp_all

/-- A strangle that is held has contracts on both sides. -/
def Sized (strategy : Track8MacroRegimeMonthlyStrangle) : Prop :=
  strategy.state.isActive = true → 0 < strategy.state.qtyCall ∧ 0 < strategy.state.qtyPut

/-- The signals lead from what was announced to what the state holds, in positive quantities. -/
structure Announces (before : Option Announced)
    (result : List Track8Signal × Track8MacroRegimeMonthlyStrangle) : Prop where
  signals : Machine.run announce before result.1 = some result.2.held
  sized : result.2.Sized

theorem Announces.append {before : Option Announced}
    {first second : List Track8Signal × Track8MacroRegimeMonthlyStrangle}
    (announces : Announces before first) (later : Announces first.2.held second) :
    Announces before (first.1 ++ second.1, second.2) := by
  refine ⟨?_, later.sized⟩
  rw [Machine.run_append, announces.signals]
  exact later.signals

/-! ## Evaluators -/

theorem truncate_pos {q : ℚ} (one_le : 1 ≤ q) : 0 < truncate q := by
  unfold truncate
  rw [if_pos (by linarith)]
  exact Int.floor_pos.mpr one_le

theorem held_of_idle (idle : self.state.isActive = false) : self.held = none := by
  simp [held, idle]

theorem held_of_active (active : self.state.isActive = true) : self.held =
    some ⟨self.state.callStrike, self.state.putStrike, self.state.qtyCall, self.state.qtyPut⟩ :=
  if_pos active

theorem enter_announces (sized : self.Sized) (data : Track8MarketInput) :
    Announces self.held (self.enter data) := by
  unfold enter
  split
  · exact ⟨rfl, sized⟩
  next idle =>
    rw [Bool.not_eq_true] at idle
    split
    · exact ⟨rfl, sized⟩
    dsimp only
    have skewRatio_ge : (1 : ℚ) ≤ if data.currentRegime = "HIGH_VOL" then (2 : ℚ) else 1.5 := by
      split <;> norm_num
    generalize (if data.currentRegime = "HIGH_VOL" then (2 : ℚ) else 1.5) = skewRatio at *
    have baseQty_ge : 1 ≤ max 1 (truncate (data.budget / max 1 ((1.20 + skewRatio * 1.50) *
      multiplier))) := le_max_left _ _
    generalize max 1 (truncate (data.budget / max 1 ((1.20 + skewRatio * 1.50) * multiplier))) =
      baseQty at *
    split
    · exact ⟨rfl, sized⟩
    · rw [held_of_idle idle]
      refine ⟨rfl, fun _ => ⟨baseQty_ge, truncate_pos ?_⟩⟩
      have baseQty_ge' : (1 : ℚ) ≤ baseQty := by exact_mod_cast baseQty_ge
      exact one_le_mul_of_one_le_of_one_le baseQty_ge' skewRatio_ge

theorem evaluateTakeProfit_announces (sized : self.Sized) (data : Track8MarketInput) :
    Announces self.held (self.evaluateTakeProfit data) := by
  unfold evaluateTakeProfit
  split
  · exact ⟨rfl, sized⟩
  next active =>
    simp only [Bool.not_eq_true', Bool.not_eq_false] at active
    dsimp only
    rw [held_of_active active]
    split
    · exact ⟨(held_of_active active).symm ▸ rfl, sized⟩
    split
    · exact ⟨rfl, nofun⟩
    split <;> exact ⟨congrArg some (if_pos active).symm, sized⟩

theorem evaluateProfitRebuild_announces (sized : self.Sized) (data : Track8MarketInput) :
    Announces self.held (self.evaluateProfitRebuild data) := by
  unfold evaluateProfitRebuild
  split
  · exact ⟨rfl, sized⟩
  next active =>
    simp only [Bool.not_eq_true', Bool.not_eq_false] at active
    split
    · exact ⟨rfl, sized⟩
    dsimp only
    split
    · exact ⟨rfl, sized⟩
    · rw [held_of_active active]
      refine ⟨?_, fun _ => sized active⟩
      simp [Machine.run, announce, held]

theorem evaluateExpiryCutoff_announces (sized : self.Sized) (data : Track8MarketInput) :
    Announces self.held (self.evaluateExpiryCutoff data) := by
  unfold evaluateExpiryCutoff
  split
  · exact ⟨rfl, sized⟩
  next active =>
    simp only [Bool.not_eq_true', Bool.not_eq_false] at active
    have held := held_of_active active
    split
    · refine ⟨?_, sized⟩
      rw [held]
      rfl
    split
    · exact ⟨rfl, sized⟩
    split
    · refine ⟨?_, sized⟩
      rw [held]
      exact congrArg some (if_pos active).symm
    split
    · refine ⟨?_, sized⟩
      rw [held]
      exact congrArg some (if_pos active).symm
    · refine ⟨?_, nofun⟩
      rw [held]
      simp [Machine.run, announce, held_of_idle, reset]

theorem evaluateMacroRegimeProtection_announces (sized : self.Sized) (data : Track8MarketInput) :
    Announces self.held (evaluateMacroRegimeProtection data, self) := by
  unfold evaluateMacroRegimeProtection
  split <;> exact ⟨by simp [Machine.run, announce], sized⟩

theorem sized_rollOver (sized : self.Sized) (data : Track8MarketInput) :
    (self.rollOver data).Sized := by
  unfold rollOver
  split
  · exact nofun
  · exact sized

theorem evaluateInput_announces (sized : self.Sized) (data : Track8MarketInput) :
    Announces (self.rollOver data).held (self.evaluateInput data) := by
  have entry := enter_announces (sized_rollOver sized data) data
  have protection := evaluateMacroRegimeProtection_announces entry.sized data
  have takeProfit := evaluateTakeProfit_announces entry.sized data
  have rebuild := evaluateProfitRebuild_announces takeProfit.sized data
  have cutoff := evaluateExpiryCutoff_announces rebuild.sized data
  exact (((entry.append protection).append takeProfit).append rebuild).append cutoff

/-! ## Runs -/

/-- What every evaluation keeps. -/
structure Kept (strategy : Track8MacroRegimeMonthlyStrangle) : Prop where
  dated : strategy.Dated
  sized : strategy.Sized

theorem Kept.evaluateInput (kept : self.Kept) (data : Track8MarketInput) :
    (self.evaluateInput data).2.Kept where
  dated := (evaluateInput_leads (dated_rollOver kept.dated)).dated
  sized := (evaluateInput_announces kept.sized data).sized

/-- The announced strangle is the one that the state holds exactly when none is forgotten. -/
theorem evaluateInput_announces_iff (kept : self.Kept) :
    Machine.run announce self.held (self.evaluateInput data).1 =
      some (self.evaluateInput data).2.held ↔ ¬self.Forgets data := by
  constructor
  · intro announced
    have alternates := Machine.run_of_simulates Option.isSome alternation_of_announce announced
    rw [isSome_held, isSome_held] at alternates
    exact (evaluateInput_alternates kept.dated).mp alternates
  · intro keeps
    have announces : Announces (self.rollOver data).held (self.evaluateInput data) :=
      evaluateInput_announces kept.sized data
    rw [rollOver_of_not_forgets kept.dated keeps] at announces
    exact announces.signals

/-- The plan of an announced strangle. -/
structure PlannedAs (strangle : Announced) (groupId : String) (plan : MultiLegExecutionPlan) :
    Prop where
  groupId : plan.groupId = groupId
  strategyId : plan.strategyId = strategyId
  purpose : plan.purpose = some "MONTHLY_STRANGLE_ENTRY"
  legs : plan.legs = strangle.legs

/-- The strategy has a plan exactly for an announced strangle with positive strikes, with the
announced strikes and quantities, and no group makes its builder raise. -/
structure Plans (isOpen : Option Announced) (strategy : Track8MacroRegimeMonthlyStrangle) :
    Prop where
  held : strategy.state.isActive = isOpen.isSome
  none_iff : ∀ groupId, strategy.buildExecutionPlan groupId = none ↔
    ∀ strangle ∈ isOpen, strangle.callStrike ≤ 0 ∨ strangle.putStrike ≤ 0
  planned : ∀ groupId built, groupId ≠ "" → strategy.buildExecutionPlan groupId = some built →
    ∃ plan, built = .ok plan ∧ ∃ strangle ∈ isOpen, PlannedAs strangle groupId plan

theorem plans_held (sized : self.Sized) : Plans self.held self := by
  by_cases active : self.state.isActive = true
  · rw [held_of_active active]
    refine ⟨active, fun groupId => ?_, fun groupId built groupId_ne made => ?_⟩
    · simp [buildExecutionPlan, active, or_iff_not_imp_left]
    · unfold buildExecutionPlan at made
      split at made
      · cases made
      obtain ⟨qtyCall_pos, qtyPut_pos⟩ := sized active
      unfold buildPairPlan at made
      rw [MultiLegExecutionPlan.create_eq_ok groupId_ne (List.cons_ne_nil _ _) (by simp)
        (by simp [qtyCall_pos, qtyPut_pos])] at made
      cases made
      exact ⟨_, rfl, _, rfl, rfl, rfl, rfl, rfl⟩
  · rw [Bool.not_eq_true] at active
    rw [held_of_idle active]
    refine ⟨active, fun groupId => ?_, fun groupId built groupId_ne made => ?_⟩
    · simp [buildExecutionPlan, active]
    · simp [buildExecutionPlan, active] at made

/-- All along a run, every number in the signals agrees with those before it, and the plan of the
strategy is that of the strangle announced last, exactly when no evaluation of the run finds an
active strangle of another date. -/
theorem plans_follow_iff (initial : Track8MacroRegimeMonthlyStrangle)
    (inputs : List Track8MarketInput) :
    (∀ now, Machine.Visits step (initial.reset, []) inputs now →
      ∃ isOpen, Machine.run announce none now.2 = some isOpen ∧ Plans isOpen now.1) ↔
      ∀ now data, Machine.Takes step (initial.reset, []) inputs now data →
        ¬now.1.Forgets data := by
  have start : initial.reset.Kept := ⟨rfl, nofun⟩
  have follows : (∀ now, Machine.Visits step (initial.reset, []) inputs now →
      Machine.run announce none now.2 = some now.1.held) ↔
      ∀ now data, Machine.Takes step (initial.reset, []) inputs now data →
        ¬now.1.Forgets data :=
    Machine.follows_iff evaluateInput announce held start
      (fun _ data kept => kept.evaluateInput data) fun _ _ kept => evaluateInput_announces_iff kept
  constructor
  · intro planned
    refine (alternates_iff initial inputs).mp fun now visited => ?_
    obtain ⟨isOpen, announced, plans⟩ := planned now visited
    rw [Alternates, plans.held]
    exact Machine.run_of_simulates Option.isSome alternation_of_announce announced
  · intro keeps now visited
    have kept : now.1.Kept := by
      refine @Machine.visits_kept _ _ step _ _ _ (fun now => now.1.Kept) start ?_ visited
      rintro now data _ kept ⟨⟩
      exact kept.evaluateInput data
    exact ⟨now.1.held, follows.mpr keeps now visited, plans_held kept.sized⟩

end Track8MacroRegimeMonthlyStrangle
end OptionProject.Strategies
