import OptionProject.Risk.MarginLimit

/-!
# Evaluating an order again

Two evaluations of one order in different sizes. With a calculator that is monotone, a smaller order
is approved like a larger one, unless it leaves too much of a position on the other side; with a
linear one and exact quotients, a reduced order is allowed as it is.

## Main definitions

* `Passes` — what the gates ask of an order that is not reduced.

## Main results

* `smaller_order_approved` — an order smaller than an allowed one.
* `reduction_is_fixpoint` — an order that has been reduced.
-/
namespace OptionProject.Risk.RiskEngine
open Library Contracts RiskOrderCommand

variable {C : Type} [RiskOrderCommand C] {engine : RiskEngine} {config : RiskConfig}
  {marginEngine : MarginCalculator C} {seed : TokenSeed} {command limited : C}
  {account : RiskAccountInput} {positions : Option RiskPositionInput}
  {sensorSnapshot : Option RiskSensorSnapshot} {allowReduction : Bool} {approval : Approval C}
  {result : RiskEvaluationResult C} {instrumentKey : String} {margin : ℚ}

/-! ## An order that is not reduced -/

/-- What the gates ask of an order that is to be allowed as it is. -/
structure Passes (engine : RiskEngine) (marginEngine : MarginCalculator C) (command : C)
    (account : RiskAccountInput) (positions : Option RiskPositionInput)
    (sensorSnapshot : Option RiskSensorSnapshot) (margin : ℚ) : Prop where
  screen : engine.screen command account = .ok ()
  position : ∃ instrumentKey, getInstrumentKey command = .ok instrumentKey ∧
    (expectedFrom instrumentKey (currentPosition instrumentKey positions) (side command)
      (qty command)).qty ≤ engine.config.maxPositionPerInstrument
  priced : marginEngine command = .ok margin
  free : margin ≤ account.freeMargin
  ratio : estimatedRatio engine.context account margin ≤ engine.config.maxMarginUtilizationRatio
  diet : ∀ snapshot ∈ sensorSnapshot, snapshot.isMarginDietRequired = true →
    tagId command = "RISK_HEDGE"

theorem Passes.evaluateOrder
    (passes : Passes engine marginEngine command account positions sensorSnapshot margin)
    (seed : TokenSeed) (allowReduction : Bool) :
    engine.evaluateOrder marginEngine seed command account positions sensorSnapshot
      allowReduction =
        .ok (approvedResult seed command
          ⟨command, margin, estimatedRatio engine.context account margin⟩) := by
  obtain ⟨instrumentKey, key, within⟩ := passes.position
  have position : limitPosition engine.config command positions allowReduction = .ok command := by
    unfold limitPosition
    rw [calculateExpectedPosition_eq key, attempt]
    exact if_neg (not_lt.mpr within)
  have priced : limitMargin engine.context marginEngine command account allowReduction =
      .ok ⟨command, margin, estimatedRatio engine.context account margin⟩ := by
    unfold limitMargin
    rw [passes.priced, attempt]
    exact if_neg (not_lt.mpr passes.free)
  have judged : Judged engine marginEngine command account positions sensorSnapshot
      allowReduction command ⟨command, margin, estimatedRatio engine.context account margin⟩ :=
    ⟨passes.screen, position, priced, passes.ratio, passes.diet⟩
  rw [RiskEngine.evaluateOrder, judged.judge]

theorem approvedResult_allow {required ratio : ℚ} :
    (approvedResult seed command ⟨command, required, ratio⟩).decision = .allow := by
  rw [approvedResult, if_neg (lt_irrefl _)]

/-- The order whose quantity alone is another, and no larger, passes the first gates too. -/
theorem screen_replaceQty (passed : engine.screen command account = .ok ()) {m : ℤ}
    (positive : 0 < m) (le : m ≤ qty command) :
    engine.screen (replaceQty command m) account = .ok () := by
  obtain ⟨off, -, small, loss⟩ := screen_spec passed
  unfold screen
  rw [qty_replaceQty, off]
  rw [if_neg (by decide), if_neg (not_le.mpr positive), if_neg (not_lt.mpr (le.trans small)),
    if_neg (not_le.mpr loss)]

/-- The margin of an order does not rise when it shrinks. -/
def MarginMonotone (marginEngine : MarginCalculator C) (command : C) : Prop :=
  ∀ m n large, 0 < m → m ≤ n → marginEngine (replaceQty command n) = .ok large →
    ∃ small, marginEngine (replaceQty command m) = .ok small ∧ small ≤ large

/-- A position on the other side that `m` lots do not bring down to the limit. -/
def LeavesTooMuch (config : RiskConfig) (command : C) (positions : Option RiskPositionInput)
    (m : ℤ) : Prop :=
  ∃ instrumentKey, getInstrumentKey command = .ok instrumentKey ∧
    ∃ p ∈ currentPosition instrumentKey positions, p.side ≠ "" ∧ p.side ≠ side command ∧
      config.maxPositionPerInstrument + m < p.qty

theorem expectedFrom_le_iff {current : Option RiskPosition} {side : String} {m n limit : ℤ}
    (positive : 0 < m) (smaller : m < n) (limited : 0 < limit)
    (within : (expectedFrom instrumentKey current side n).qty ≤ limit) :
    (expectedFrom instrumentKey current side m).qty ≤ limit ↔
      ¬∃ p ∈ current, p.side ≠ "" ∧ p.side ≠ side ∧ limit + m < p.qty := by
  cases current with
  | none =>
    have small : n ≤ limit := within
    simp [expectedFrom]
    omega
  | some p =>
    simp only [expectedFrom] at within ⊢
    simp only [Option.mem_some_iff, exists_eq_left']
    split_ifs at within ⊢ <;> grind

theorem estimatedRatio_mono {context : DecimalContext} {small large : ℚ} (le : small ≤ large) :
    estimatedRatio context account small ≤ estimatedRatio context account large := by
  unfold estimatedRatio
  split
  next balance => exact context.divide_mono balance (add_le_add_right le _)
  next => exact le_rfl

theorem Passes.smaller (passes : Passes engine marginEngine command account positions
      sensorSnapshot margin) (monotone : MarginMonotone marginEngine command) {m : ℤ}
    (positive : 0 < m) (smaller : m < qty command)
    (within : ¬LeavesTooMuch engine.config command positions m) :
    ∃ margin', Passes engine marginEngine (replaceQty command m) account positions sensorSnapshot
      margin' := by
  obtain ⟨instrumentKey, key, left⟩ := passes.position
  have whole : marginEngine (replaceQty command (qty command)) = .ok margin := by
    rw [replaceQty_qty]
    exact passes.priced
  obtain ⟨margin', priced, le⟩ := monotone m (qty command) margin positive smaller.le whole
  refine ⟨margin', screen_replaceQty passes.screen positive smaller.le, ⟨instrumentKey, ?_, ?_⟩,
    priced, le.trans passes.free, (estimatedRatio_mono le).trans passes.ratio, ?_⟩
  · rw [getInstrumentKey_replaceQty]
    exact key
  · rw [side_replaceQty, qty_replaceQty, expectedFrom_le_iff positive smaller
      engine.config.maxPositionPerInstrument_pos left]
    exact fun much => within ⟨instrumentKey, key, much⟩
  · rw [tagId_replaceQty]
    exact passes.diet

/-- Every lot costs the same. -/
def MarginLinear (marginEngine : MarginCalculator C) (command : C) : Prop :=
  ∃ unit : ℚ, 0 ≤ unit ∧ ∀ n : ℤ, marginEngine (replaceQty command n) = .ok (unit * n)

/-- The quantities of a map are not negative and within the limit. -/
def PositionsWithin (config : RiskConfig) (positions : Option RiskPositionInput) : Prop :=
  ∀ input ∈ positions, ∀ entry ∈ input.positions.entries,
    0 ≤ entry.2.qty ∧ entry.2.qty ≤ config.maxPositionPerInstrument

theorem MarginLinear.unitMarginFalls (linear : MarginLinear marginEngine command) :
    UnitMarginFalls config marginEngine command := by
  obtain ⟨unit, -, linear⟩ := linear
  intro m k small large _ _ _ priced priced' _
  obtain rfl : unit * m = small := Except.ok.inj ((linear m).symm.trans priced)
  obtain rfl : unit * k = large := Except.ok.inj ((linear k).symm.trans priced')
  exact (mul_right_comm unit (m : ℚ) k).le

/-- No part of what the position gate lets through leaves too much. -/
theorem expectedFrom_part {current : Option RiskPosition} {side : String} {m n limited limit : ℤ}
    (held : ∀ p ∈ current, 0 ≤ p.qty ∧ p.qty ≤ limit) (positive : 0 < m) (part : m ≤ limited)
    (gate : (expectedFrom instrumentKey current side n).qty ≤ limit ∧ limited = n ∨
      limit < (expectedFrom instrumentKey current side n).qty ∧ limited < n ∧
        limited = limit - (current.map (·.qty)).getD 0) :
    (expectedFrom instrumentKey current side m).qty ≤ limit := by
  cases current with
  | none =>
    simp only [expectedFrom, Option.map_none, Option.getD_none] at gate ⊢
    omega
  | some p =>
    obtain ⟨nonneg, le⟩ := held p rfl
    simp only [expectedFrom, Option.map_some, Option.getD_some] at gate ⊢
    split_ifs at gate ⊢ <;> simp only at gate ⊢ <;> omega

theorem Judged.passes (judged : Judged engine marginEngine command account positions
      sensorSnapshot allowReduction limited approval)
    (exact : engine.context = .exact) (within : PositionsWithin engine.config positions)
    (linear : MarginLinear marginEngine command) :
    Passes engine marginEngine approval.effective account positions sensorSnapshot
      approval.requiredMargin := by
  obtain ⟨positive, le⟩ := judged.qty_bounds
  obtain ⟨n, effective⟩ := judged.exists_replaceQty
  obtain ⟨expected, computed, position⟩ := limitPosition_spec judged.position
  obtain ⟨ratio, paid, -⟩ := limitMargin_spec judged.margin
  obtain ⟨key, left⟩ := calculateExpectedPosition_spec computed
  have size : qty approval.effective = n := by rw [effective, qty_replaceQty]
  refine ⟨?_, ⟨expected.instrumentKey, ?_, ?_⟩, paid,
    judged.free exact linear.unitMarginFalls, ratio ▸ judged.ratio, judged.diet⟩
  · rw [size] at positive le
    rw [effective]
    exact screen_replaceQty judged.screen positive le
  · rw [effective, getInstrumentKey_replaceQty]
    exact key
  · have held : ∀ p ∈ currentPosition expected.instrumentKey positions,
        0 ≤ p.qty ∧ p.qty ≤ engine.config.maxPositionPerInstrument := by
      intro p current
      obtain ⟨input, there, entry, member, rfl⟩ := mem_of_currentPosition current
      exact within input there entry member
    have gate : expected.qty ≤ engine.config.maxPositionPerInstrument ∧
          qty limited = qty command ∨
        engine.config.maxPositionPerInstrument < expected.qty ∧ qty limited < qty command ∧
          qty limited = remainingCapacity engine.config positions expected.instrumentKey := by
      rcases position with ⟨within, rfl⟩ | ⟨above, -, smaller, rfl⟩
      · exact .inl ⟨within, rfl⟩
      · rw [qty_replaceQty]
        exact .inr ⟨above, smaller, rfl⟩
    have sided : side approval.effective = side command := by rw [effective, side_replaceQty]
    rw [sided]
    rw [left, expectedFrom_instrumentKey] at gate
    exact expectedFrom_part held positive judged.isCut_limited.qty_le gate

/-- In exact arithmetic an order that has been reduced is allowed as it is when it is evaluated
again. -/
theorem reduction_is_fixpoint (engine : RiskEngine) (marginEngine : MarginCalculator C)
    (seed seed' : TokenSeed) (command : C) (account : RiskAccountInput)
    (positions : Option RiskPositionInput) (sensorSnapshot : Option RiskSensorSnapshot)
    (allowReduction allowReduction' : Bool) (result : RiskEvaluationResult C)
    (exact : engine.context = .exact) (within : PositionsWithin engine.config positions)
    (linear : MarginLinear marginEngine command)
    (evaluated : engine.evaluateOrder marginEngine seed command account positions sensorSnapshot
      allowReduction = .ok result)
    (reduced : result.decision = .reduce) :
    ∃ effective again, result.reducedCommand = some effective ∧
      engine.evaluateOrder marginEngine seed' effective account positions sensorSnapshot
        allowReduction' = .ok again ∧
      again.decision = .allow ∧ again.approvedQty = result.approvedQty ∧
      again.requiredMargin = result.requiredMargin ∧
      again.estimatedMarginRatio = result.estimatedMarginRatio := by
  rcases evaluateOrder_cases evaluated with ⟨limited, approval, judged, rfl⟩ | ⟨denial, rfl⟩
  case inr => cases reduced
  have smaller : qty approval.effective < qty command := by
    by_contra whole
    rw [approvedResult, if_neg whole] at reduced
    cases reduced
  refine ⟨approval.effective, _, if_pos smaller,
    (judged.passes exact within linear).evaluateOrder seed' allowReduction', approvedResult_allow,
    rfl, rfl, ?_⟩
  exact (limitMargin_spec judged.margin).1.symm

/-! ## Sample orders -/

theorem marginLinear_marginPerLot (command : Command) :
    MarginLinear (marginPerLot 100) command :=
  ⟨100, by norm_num, fun _ => rfl⟩

/-- A balance with free margin for 20 lots. -/
def balanced : RiskAccountInput := ⟨10000, 0, 0, 2000⟩

def orderOf (side : String) (n : ℤ) : Command := { qty := n, side := side, instrumentKey := "K" }

omit [RiskOrderCommand C] in
theorem exists_of_decision {evaluated : Except Raised (RiskEvaluationResult C)}
    {decision : Decision} (decided : evaluated.map (·.decision) = .ok decision) :
    ∃ result, evaluated = .ok result ∧ result.decision = decision := by
  cases evaluated with
  | error e => cases decided
  | ok result => exact ⟨result, rfl, Except.ok.inj decided⟩

/-- An order of 30 lots on 95 is reduced, and the reduced order is allowed. -/
theorem reduction_is_fixpoint_purchase :
    ∃ effective again, evaluateOrder (exactEngine .standard) (marginPerLot 100) ⟨"second", 0⟩
        effective balanced (onePosition "K" "BUY" 95) none true = .ok again ∧
      again.decision = .allow := by
  have decided : (evaluateOrder (exactEngine .standard) (marginPerLot 100) ⟨"first", 0⟩
      (orderOf "BUY" 30) balanced (onePosition "K" "BUY" 95) none true).map (·.decision) =
        .ok .reduce := by decide +kernel
  obtain ⟨result, evaluated, reduced⟩ := exists_of_decision decided
  have within : PositionsWithin .standard (onePosition "K" "BUY" 95) := by
    rintro _ ⟨⟩ entry member
    obtain rfl := List.mem_singleton.mp member
    decide
  obtain ⟨effective, again, -, evaluated', allowed, -⟩ :=
    reduction_is_fixpoint (exactEngine .standard) (marginPerLot 100) ⟨"first", 0⟩ ⟨"second", 0⟩
      (orderOf "BUY" 30) balanced (onePosition "K" "BUY" 95) none true true result rfl within
      (marginLinear_marginPerLot _) evaluated reduced
  exact ⟨effective, again, evaluated', allowed⟩

/-- With a negative quantity on the other side, an order of 30 lots is reduced to 15, and 15 lots
are denied. -/
theorem reduction_denied_again :
    let narrow : RiskConfig :=
      { RiskConfig.standard with
        maxPositionPerInstrument := 10
        maxPositionPerInstrument_pos := by decide }
    let evaluate (n : ℤ) := (evaluateOrder (exactEngine narrow) (marginPerLot 100)
      ⟨"uuid", 0⟩ (orderOf "SELL" n) balanced (onePosition "K" "BUY" (-5)) none true).map
        fun result => (result.decision, result.approvedQty, result.rejectionReason)
    MarginLinear (marginPerLot 100) (orderOf "SELL" 30) ∧
      evaluate 30 = .ok (.reduce, 15, none) ∧
      evaluate 15 = .ok (.deny, 0, some "EXCEEDED_INSTRUMENT_LIMIT: 20 > 10") := by
  exact ⟨marginLinear_marginPerLot _, by decide +kernel, by decide +kernel⟩

end OptionProject.Risk.RiskEngine
