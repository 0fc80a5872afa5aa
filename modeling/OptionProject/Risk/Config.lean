import Mathlib.Tactic.NormNum
import OptionProject.Contracts.Types

/-!
# The risk configuration

`core/risk/risk_config.py`: raw values are normalised and validated once, so that every
configuration in use is valid. Thresholds are exact rationals, and so are the two timeouts,
which the source keeps as floats.
-/
namespace OptionProject.Risk
open Library Contracts

/-- A raw configuration value, up to what `Decimal(str(value))` makes of it: an integer,
another finite number, a number that is not finite, or nothing it can read. -/
inductive ConfigValue
  | none
  | bool (value : Bool)
  | int (value : ℤ)
  | number (value : ℚ)
  | nonFinite
  | unreadable
  deriving DecidableEq

/-- The arguments of the constructor with their defaults. -/
structure RawRiskConfig where
  maxOrderQty : ConfigValue := .int 50
  maxDailyLossKrw : ConfigValue := .number 10000000
  maxMarginUtilizationRatio : ConfigValue := .number (85 / 100)
  maxPositionPerInstrument : ConfigValue := .int 100
  volSpikeThresholdMultiplier : ConfigValue := .number (130 / 100)
  marginDietActive : ConfigValue := .bool false
  accountStaleTimeoutSec : ConfigValue := .number 30
  positionStaleTimeoutSec : ConfigValue := .number 30

structure RiskConfig where
  maxOrderQty : ℤ
  maxDailyLossKrw : ℚ
  maxMarginUtilizationRatio : ℚ
  maxPositionPerInstrument : ℤ
  volSpikeThresholdMultiplier : ℚ
  marginDietActive : Bool
  accountStaleTimeoutSec : ℚ
  positionStaleTimeoutSec : ℚ
  maxOrderQty_pos : 0 < maxOrderQty
  maxPositionPerInstrument_pos : 0 < maxPositionPerInstrument
  maxDailyLossKrw_pos : 0 < maxDailyLossKrw
  maxMarginUtilizationRatio_range :
    0 < maxMarginUtilizationRatio ∧ maxMarginUtilizationRatio ≤ 1
  volSpikeThresholdMultiplier_pos : 0 < volSpikeThresholdMultiplier
  accountStaleTimeoutSec_nonneg : 0 ≤ accountStaleTimeoutSec
  positionStaleTimeoutSec_nonneg : 0 ≤ positionStaleTimeoutSec
  deriving DecidableEq

def configError (message : String) : Raised := ⟨.valueError, message⟩

namespace ConfigValue

/-- `RiskConfig._decimal`. -/
def decimal : ConfigValue → Except Raised ℚ
  | none | bool _ => .error (configError "RISK_CONFIG_DECIMAL_VALUE_REQUIRED")
  | unreadable => .error (configError "RISK_CONFIG_DECIMAL_VALUE_INVALID")
  | nonFinite => .error (configError "RISK_CONFIG_DECIMAL_VALUE_FINITE_REQUIRED")
  | int value => .ok value
  | number value => .ok value

/-- `RiskConfig._positive_int`. -/
def positiveInt (field : String) : ConfigValue → Except Raised {n : ℤ // 0 < n}
  | int value =>
    if positive : 0 < value then .ok ⟨value, positive⟩
    else .error (configError (field ++ "_POSITIVE_INT_REQUIRED"))
  | _ => .error (configError (field ++ "_POSITIVE_INT_REQUIRED"))

/-- `RiskConfig._nonnegative_timeout`. -/
def nonnegativeTimeout (field : String) : ConfigValue → Except Raised {q : ℚ // 0 ≤ q}
  | int value => ofNumber value
  | number value => ofNumber value
  | _ => .error (configError (field ++ "_NONNEGATIVE_FINITE_REQUIRED"))
where
  ofNumber (value : ℚ) : Except Raised {q : ℚ // 0 ≤ q} :=
    if nonneg : 0 ≤ value then .ok ⟨value, nonneg⟩
    else .error (configError (field ++ "_NONNEGATIVE_FINITE_REQUIRED"))

end ConfigValue

/-- `RiskConfig.__post_init__`. -/
def RiskConfig.create (raw : RawRiskConfig) : Except Raised RiskConfig := do
  let maxOrderQty ← raw.maxOrderQty.positiveInt "MAX_ORDER_QTY"
  let maxPositionPerInstrument ←
    raw.maxPositionPerInstrument.positiveInt "MAX_POSITION_PER_INSTRUMENT"
  let dailyLoss ← raw.maxDailyLossKrw.decimal
  let marginRatio ← raw.maxMarginUtilizationRatio.decimal
  let volMultiplier ← raw.volSpikeThresholdMultiplier.decimal
  if loss : dailyLoss ≤ 0 then .error (configError "MAX_DAILY_LOSS_KRW_POSITIVE_REQUIRED")
  else if range : ¬(0 < marginRatio ∧ marginRatio ≤ 1) then
    .error (configError "MAX_MARGIN_UTILIZATION_RATIO_RANGE_REQUIRED")
  else if vol : volMultiplier ≤ 0 then
    .error (configError "VOL_SPIKE_THRESHOLD_MULTIPLIER_POSITIVE_REQUIRED")
  else
    match raw.marginDietActive with
    | .bool marginDietActive => do
      let account ← raw.accountStaleTimeoutSec.nonnegativeTimeout "ACCOUNT_STALE_TIMEOUT_SEC"
      let position ← raw.positionStaleTimeoutSec.nonnegativeTimeout "POSITION_STALE_TIMEOUT_SEC"
      .ok
        { maxOrderQty := maxOrderQty.1
          maxDailyLossKrw := dailyLoss
          maxMarginUtilizationRatio := marginRatio
          maxPositionPerInstrument := maxPositionPerInstrument.1
          volSpikeThresholdMultiplier := volMultiplier
          marginDietActive
          accountStaleTimeoutSec := account.1
          positionStaleTimeoutSec := position.1
          maxOrderQty_pos := maxOrderQty.2
          maxPositionPerInstrument_pos := maxPositionPerInstrument.2
          maxDailyLossKrw_pos := not_le.mp loss
          maxMarginUtilizationRatio_range := not_not.mp range
          volSpikeThresholdMultiplier_pos := not_le.mp vol
          accountStaleTimeoutSec_nonneg := account.2
          positionStaleTimeoutSec_nonneg := position.2 }
    | _ => .error (configError "MARGIN_DIET_ACTIVE_BOOL_REQUIRED")

/-- `RiskConfig()`. -/
def RiskConfig.standard : RiskConfig where
  maxOrderQty := 50
  maxDailyLossKrw := 10000000
  maxMarginUtilizationRatio := 85 / 100
  maxPositionPerInstrument := 100
  volSpikeThresholdMultiplier := 130 / 100
  marginDietActive := false
  accountStaleTimeoutSec := 30
  positionStaleTimeoutSec := 30
  maxOrderQty_pos := by decide
  maxPositionPerInstrument_pos := by decide
  maxDailyLossKrw_pos := by norm_num
  maxMarginUtilizationRatio_range := by norm_num
  volSpikeThresholdMultiplier_pos := by norm_num
  accountStaleTimeoutSec_nonneg := by norm_num
  positionStaleTimeoutSec_nonneg := by norm_num

/-- The defaults pass their own checks. -/
theorem RiskConfig.create_defaults : RiskConfig.create {} = .ok RiskConfig.standard := by
  decide +kernel

end OptionProject.Risk
