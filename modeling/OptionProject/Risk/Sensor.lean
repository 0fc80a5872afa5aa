import OptionProject.Risk.Reevaluation

/-!
# The risk sensor

`core/risk/risk_sensor.py`. A scan looks at the volatilities first: where one of them is missing, or
a float that is NaN, it ends with a snapshot of defaults, so that neither the margin ratio nor the
stale flags it was given are looked at. The snapshot of the engine's margin diet is one of those
defaults.

## Main definitions

* `RiskSensor.scanRisk` — the scan.
* `RiskSensor.FailsClosed` — the diet blocks all but hedges, and the stale flags are reported.

## Main results

* `RiskSensor.failsClosed_iff` — the inputs for which it does.
-/
namespace OptionProject.Risk
open Library Contracts

/-! ## Numbers -/

namespace DecimalValue

/-- What an operation on NaN, or one without a value, raises. -/
def invalidOperation : PythonException :=
  ⟨"InvalidOperation", "[<class 'decimal.InvalidOperation'>]"⟩

/-- The comparison of a value with a finite number; NaN has none. -/
def compareWith (value : DecimalValue) (limit : ℚ) : Except PythonException Ordering :=
  match value with
  | .finite q => .ok (compare q limit)
  | .infinite negative => .ok (if negative then .lt else .gt)
  | .nan => .error invalidOperation

/-- `value > limit`. -/
def above (value : DecimalValue) (limit : ℚ) : Except PythonException Bool := do
  return (← value.compareWith limit) == .gt

/-- `value >= limit`. -/
def atLeast (value : DecimalValue) (limit : ℚ) : Except PythonException Bool := do
  return (← value.compareWith limit) != .lt

/-- The quotient by a number above zero. -/
def divide : DecimalValue → DecimalValue → Except PythonException DecimalValue
  | .nan, _ => .ok .nan
  | _, .nan => .ok .nan
  | .finite a, .finite b => .ok (.finite (a / b))
  | .finite _, .infinite _ => .ok (.finite 0)
  | .infinite negative, .finite _ => .ok (.infinite negative)
  | .infinite _, .infinite _ => .error invalidOperation

/-- A format of numbers, where infinities are words. -/
def formatted (format : ℚ → String) (unit : String) : DecimalValue → String
  | .finite q => format q
  | .infinite negative => (if negative then "-Infinity" else "Infinity") ++ unit
  | .nan => "NaN" ++ unit

end DecimalValue

/-- A volatility: nothing, a float that is NaN, or a number, taken as a `Decimal`. -/
inductive Volatility
  | missing
  | nanFloat
  | decimal (value : DecimalValue)
  deriving DecidableEq

structure SensorInput where
  activeVol : Volatility
  baseVol : Volatility
  currentRegime : String := "NORMAL"
  accountMarginRatio : DecimalValue := .finite 0
  isAccountStale : Bool := false
  isPositionStale : Bool := false

/-! ## The scan -/

structure RiskSensor where
  config : RiskConfig

namespace RiskSensor

def boolText (b : Bool) : String := if b then "True" else "False"

/-- The first of what is the case. -/
def scanReason (input : SensorInput) (volRatio : DecimalValue)
    (isMarginDiet isVolSpike isCrisis : Bool) : String :=
  if isMarginDiet then
    "MARGIN_DIET_TRIGGERED (Ratio=" ++ input.accountMarginRatio.formatted percentText "%" ++ ")"
  else if isVolSpike then
    "VOLATILITY_SPIKE_DETECTED (Ratio=" ++ volRatio.formatted hundredthsText "" ++ ")"
  else if isCrisis then "CRISIS_REGIME_ACTIVE (" ++ input.currentRegime ++ ")"
  else if input.isAccountStale || input.isPositionStale then
    "STALE_STATE_DETECTED (AccountStale=" ++ boolText input.isAccountStale ++ ", PosStale=" ++
      boolText input.isPositionStale ++ ")"
  else "NORMAL"

/-- Without a base above zero the ratio is 1. -/
def volRatio (activeVol baseVol : DecimalValue) : Except PythonException DecimalValue := do
  if ← baseVol.above 0 then activeVol.divide baseVol else return .finite 1

/-- The scan of numbers. -/
def scanNumbers (self : RiskSensor) (input : SensorInput) (activeVol baseVol : DecimalValue) :
    Except PythonException RiskSensorSnapshot := do
  let volRatio ← volRatio activeVol baseVol
  let isVolSpike ← volRatio.atLeast self.config.volSpikeThresholdMultiplier
  let isCrisis := decide (input.currentRegime ∈ ["CRISIS", "HIGH_VOLATILITY", "EXTREME_MOVE"])
  let isMarginDiet ← input.accountMarginRatio.above self.config.maxMarginUtilizationRatio
  return {
    isVolSpike := isVolSpike
    isCrisisRegime := isCrisis
    isMarginDietRequired := isMarginDiet
    isAccountStale := input.isAccountStale
    isPositionStale := input.isPositionStale
    activeVolRatio := volRatio
    reason := scanReason input volRatio isMarginDiet isVolSpike isCrisis }

/-- All other data are defaults. -/
def invalidInput : RiskSensorSnapshot where
  reason := "INVALID_OR_NAN_SENSOR_INPUT"

def scanRisk (self : RiskSensor) (input : SensorInput) :
    Except PythonException RiskSensorSnapshot :=
  match input.activeVol, input.baseVol with
  | .decimal activeVol, .decimal baseVol => self.scanNumbers input activeVol baseVol
  | _, _ => .ok invalidInput

/-! ## Failing closed -/

open RiskOrderCommand RiskEngine

variable {self : RiskSensor} {input : SensorInput} {snapshot : RiskSensorSnapshot}

/-- The account uses more margin than the sensor's configuration allows. -/
def OverLimit (self : RiskSensor) (input : SensorInput) : Prop :=
  input.accountMarginRatio.above self.config.maxMarginUtilizationRatio = .ok true

instance (self : RiskSensor) (input : SensorInput) : Decidable (self.OverLimit input) :=
  inferInstanceAs (Decidable (_ = _))

/-- Under the snapshot every engine denies every order that is no hedge. -/
def BlocksEntries (snapshot : RiskSensorSnapshot) : Prop :=
  ∀ (C : Type) [RiskOrderCommand C] (engine : RiskEngine) (marginEngine : MarginCalculator C)
    (seed : TokenSeed) (command : C) (account : RiskAccountInput)
    (positions : Option RiskPositionInput) (allowReduction : Bool)
    (result : RiskEvaluationResult C), tagId command ≠ "RISK_HEDGE" →
      engine.evaluateOrder marginEngine seed command account positions (some snapshot)
        allowReduction = .ok result → result.decision = .deny

/-- Over the limit a snapshot blocks entries, and every snapshot has the flags of its input. -/
structure FailsClosed (sensor : RiskSensor) (input : SensorInput) : Prop where
  diet : ∀ snapshot, sensor.scanRisk input = .ok snapshot → sensor.OverLimit input →
    BlocksEntries snapshot
  stale : ∀ snapshot, sensor.scanRisk input = .ok snapshot →
    snapshot.isAccountStale = input.isAccountStale ∧
      snapshot.isPositionStale = input.isPositionStale

/-- The volatilities are numbers. -/
def Measured (input : SensorInput) : Prop :=
  ∃ activeVol baseVol, input.activeVol = .decimal activeVol ∧ input.baseVol = .decimal baseVol

theorem scanNumbers_spec {activeVol baseVol : DecimalValue}
    (scanned : self.scanNumbers input activeVol baseVol = .ok snapshot) :
    input.accountMarginRatio.above self.config.maxMarginUtilizationRatio =
        .ok snapshot.isMarginDietRequired ∧
      snapshot.isAccountStale = input.isAccountStale ∧
      snapshot.isPositionStale = input.isPositionStale := by
  obtain ⟨volRatio, -, scanned⟩ := bind_eq_ok.mp scanned
  obtain ⟨isVolSpike, -, scanned⟩ := bind_eq_ok.mp scanned
  obtain ⟨isMarginDiet, compared, scanned⟩ := bind_eq_ok.mp scanned
  cases scanned
  exact ⟨compared, rfl, rfl⟩

theorem scanRisk_of_not_measured (self : RiskSensor) (unmeasured : ¬Measured input) :
    self.scanRisk input = .ok invalidInput := by
  unfold scanRisk
  split
  next activeVol baseVol active base => exact absurd ⟨activeVol, baseVol, active, base⟩ unmeasured
  next => rfl

/-- The engine reads the diet off the snapshot. -/
theorem blocksEntries_of_diet (diet : snapshot.isMarginDietRequired = true) :
    BlocksEntries snapshot := by
  intro C _ engine marginEngine seed command account positions allowReduction result entry
    evaluated
  rcases evaluateOrder_cases evaluated with ⟨limited, approval, judged, rfl⟩ | ⟨denial, rfl⟩
  · have hedge := judged.diet snapshot rfl diet
    rw [judged.isCut.tagId] at hedge
    exact absurd hedge entry
  · rfl

/-- Under the defaults a purchase is allowed. -/
theorem not_blocksEntries_invalidInput : ¬BlocksEntries invalidInput := by
  intro blocks
  have decided : (evaluateOrder { config := .standard } (marginPerLot 100) ⟨"uuid", 0⟩
      (orderOf "BUY" 1) balanced none (some invalidInput) false).map (·.decision) =
        .ok .allow := by
    decide +kernel
  obtain ⟨result, evaluated, allowed⟩ := exists_of_decision decided
  have denied := blocks Command { config := .standard } (marginPerLot 100) ⟨"uuid", 0⟩
    (orderOf "BUY" 1) balanced none false result (by decide) evaluated
  cases allowed.symm.trans denied

/-- A scan fails closed exactly when both volatilities are numbers, or there is nothing to report:
the margin ratio is not over the limit and neither flag is set. -/
theorem failsClosed_iff (self : RiskSensor) (input : SensorInput) :
    self.FailsClosed input ↔ Measured input ∨
      ¬self.OverLimit input ∧ input.isAccountStale = false ∧ input.isPositionStale = false := by
  by_cases measured : Measured input
  · refine iff_of_true ?_ (.inl measured)
    obtain ⟨activeVol, baseVol, active, base⟩ := measured
    have scans : self.scanRisk input = self.scanNumbers input activeVol baseVol := by
      rw [scanRisk, active, base]
    refine ⟨fun snapshot scanned exceeded => ?_, fun snapshot scanned => ?_⟩
    · rw [scans] at scanned
      have compared := (scanNumbers_spec scanned).1
      exact blocksEntries_of_diet (Except.ok.inj (compared.symm.trans exceeded))
    · rw [scans] at scanned
      exact (scanNumbers_spec scanned).2
  · have scanned := self.scanRisk_of_not_measured measured
    constructor
    · intro closed
      obtain ⟨account, position⟩ := closed.stale _ scanned
      refine .inr ⟨fun exceeded => ?_, account.symm, position.symm⟩
      exact not_blocksEntries_invalidInput (closed.diet _ scanned exceeded)
    · rintro (known | ⟨within, account, position⟩)
      · exact absurd known measured
      · refine ⟨fun snapshot _ exceeded => absurd exceeded within, fun snapshot scanned' => ?_⟩
        obtain rfl := Except.ok.inj (scanned.symm.trans scanned')
        exact ⟨account.symm, position.symm⟩

/-- Nine tenths of the balance are used, the account is stale, and a volatility is missing. -/
def unmeasured : SensorInput where
  activeVol := .missing
  baseVol := .decimal (.finite 1)
  accountMarginRatio := .finite 0.90
  isAccountStale := true

theorem diet_switched_off :
    OverLimit ⟨.standard⟩ unmeasured ∧ scanRisk ⟨.standard⟩ unmeasured = .ok invalidInput ∧
      invalidInput.isMarginDietRequired = false ∧ invalidInput.isAccountStale = false ∧
      (scanRisk ⟨.standard⟩ { unmeasured with activeVol := .decimal (.finite 1) }).map
        (·.reason) = .ok "MARGIN_DIET_TRIGGERED (Ratio=90.00%)" ∧
      ¬FailsClosed ⟨.standard⟩ unmeasured := by
  have exceeded : OverLimit ⟨.standard⟩ unmeasured := by decide +kernel
  refine ⟨exceeded, rfl, rfl, rfl, by decide +kernel, fun closed => ?_⟩
  exact not_blocksEntries_invalidInput (closed.diet _ rfl exceeded)

end RiskSensor
end OptionProject.Risk
