import OptionProject.Contracts.Types

/-!
# Canonical contracts

`shared/contracts/canonical.py`: the signals and commands that pass from the strategies to the
risk gate. Strikes and prices are floats, kept abstract: what the code does with them is a
parameter.
-/
namespace OptionProject.Contracts
open Library

/-! ## Floats -/

/-- What the code uses of Python's floats. -/
class PythonFloat (F : Type) where
  /-- `float(decimal)`. -/
  ofDecimal : ℚ → F
  /-- `str(number)`. -/
  text : F → String
  /-- `0.0`. -/
  zero : F
  /-- `not number`. -/
  isZero : F → Bool
  colon_free : ∀ number, ':' ∉ (text number).toList
  isZero_of_text : ∀ number other, text number = text other → isZero number = isZero other

/-- The floats of whole numbers. -/
structure WholeFloat where
  value : ℤ
  deriving DecidableEq, Repr

instance : PythonFloat WholeFloat where
  ofDecimal q := ⟨roundHalfEven q⟩
  text number := toString number.value ++ ".0"
  zero := ⟨0⟩
  isZero number := number.value = 0
  colon_free number := by
    rw [String.toList_append]
    intro colon
    rcases List.mem_append.mp colon with digit | rest
    · exact absurd (isNumeral_intText _ _ digit) (by simp [IsNumeral])
    · simp at rest
  isZero_of_text number other same := by
    rw [intText_injective (String.append_left_inj ".0" |>.mp same)]

/-! ## Enumerations -/

/-- The member of an enumeration with the given value. -/
def memberOf {α : Type} (enumeration : String) (members : List (String × α)) (text : String) :
    Except Raised α :=
  match members.lookup text with
  | some member => .ok member
  | none =>
    .error ⟨.valueError, "'" ++ text ++ "' is not a valid " ++ enumeration⟩

inductive CanonicalAssetType
  | futures
  | option
  deriving DecidableEq, Repr

def CanonicalAssetType.value : CanonicalAssetType → String
  | .futures => "FUTURES"
  | .option => "OPTION"

def canonicalAssetType (text : String) : Except Raised CanonicalAssetType :=
  memberOf "CanonicalAssetType" [("FUTURES", .futures), ("OPTION", .option)] text

inductive CanonicalOptionType
  | call
  | put
  deriving DecidableEq, Repr

def CanonicalOptionType.value : CanonicalOptionType → String
  | .call => "CALL"
  | .put => "PUT"

def canonicalOptionType (text : String) : Except Raised CanonicalOptionType :=
  memberOf "CanonicalOptionType" [("CALL", .call), ("PUT", .put)] text

/-- `CanonicalOrderSide`, whose values are the texts of the sides. -/
def canonicalOrderSide (text : String) : Except Raised Side :=
  memberOf "CanonicalOrderSide" [("BUY", .buy), ("SELL", .sell)] text

theorem memberOf_eq_ok {α : Type} {enumeration text : String} {members : List (String × α)}
    {member : α} :
    memberOf enumeration members text = .ok member ↔ members.lookup text = some member := by
  unfold memberOf
  cases members.lookup text <;> simp

/-- A value is read as the member it belongs to. -/
theorem canonicalAssetType_eq_ok {text : String} {assetType : CanonicalAssetType} :
    canonicalAssetType text = .ok assetType ↔ text = assetType.value := by
  rw [canonicalAssetType, memberOf_eq_ok]
  cases assetType <;> grind [CanonicalAssetType.value]

theorem canonicalOptionType_eq_ok {text : String} {optionType : CanonicalOptionType} :
    canonicalOptionType text = .ok optionType ↔ text = optionType.value := by
  rw [canonicalOptionType, memberOf_eq_ok]
  cases optionType <;> grind [CanonicalOptionType.value]

theorem canonicalOrderSide_eq_ok {text : String} {side : Side} :
    canonicalOrderSide text = .ok side ↔ text = sideText side := by
  rw [canonicalOrderSide, memberOf_eq_ok]
  cases side <;> grind [sideText]

theorem CanonicalAssetType.value_injective : Function.Injective CanonicalAssetType.value := by
  intro assetType assetType'
  cases assetType <;> cases assetType' <;> simp [CanonicalAssetType.value]

theorem CanonicalAssetType.value_free (assetType : CanonicalAssetType) :
    '_' ∉ assetType.value.toList ∧ ':' ∉ assetType.value.toList := by
  cases assetType <;> decide

theorem CanonicalOptionType.value_injective : Function.Injective CanonicalOptionType.value := by
  intro optionType optionType'
  cases optionType <;> cases optionType' <;> simp [CanonicalOptionType.value]

theorem CanonicalOptionType.value_free (optionType : CanonicalOptionType) :
    ':' ∉ optionType.value.toList := by
  cases optionType <;> decide

/-! ## Records -/

structure CanonicalStrategySignal (F : Type) where
  signalId : String
  trackId : String
  assetType : CanonicalAssetType
  side : Side
  qty : ℤ
  price : F
  optionType : Option CanonicalOptionType
  strike : F
  tagId : String := ""
  reason : String := ""
  timestamp : String := ""
  symbol : String := ""
  expiry : String := ""
  instrumentId : String := ""
  deriving DecidableEq

structure CanonicalOrderCommand (F : Type) where
  clientOrderId : String
  trackId : String
  assetType : CanonicalAssetType
  side : Side
  qty : ℤ
  price : F
  optionType : Option CanonicalOptionType
  strike : F
  symbol : String := "KOSPI200"
  expiry : String := ""
  tagId : String := ""
  deriving DecidableEq

end OptionProject.Contracts
