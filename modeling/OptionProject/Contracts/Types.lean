import OptionProject.Library.AverageCost
import OptionProject.Library.Text

/-!
# Standard contracts

The environment-neutral records of `contracts/types.py`, the ways a call can fail, and the
truth tests Python makes on optional texts. Prices are exact rationals; identifiers and the
sides and statuses a caller passes in are texts, checked where the source checks them.
-/
namespace OptionProject.Contracts
open Library

/-! ## Exceptions -/

/-- The exception classes raised by the modelled code. -/
inductive ErrorClass
  | valueError
  | typeError
  | keyError
  | runtimeError
  | orderStateTransitionError
  | kisExecutionRecoveryInvalid
  | kisFuturesExecutionAdapterInvalid
  | kisFuturesExecutionCorrelationError
  | riskApprovedBrokerCommandError
  | futuresBrokerCommandMappingError
  | orderAckBoundaryError
  | orderRouterError
  | zeroDivisionError
  | multiLegRiskError
  | multiLegSubmissionError
  deriving DecidableEq, Repr

/-- A raised exception: its class and its message. -/
structure Raised where
  errorClass : ErrorClass
  message : String
  deriving DecidableEq, Repr

/-- A raised exception of any class: the name of the class, and its `str`. -/
structure PythonException where
  typeName : String
  text : String
  deriving DecidableEq, Repr

/-- A method call on an object with state `σ`: what it returns or raises, and the state it
leaves. A raising call may have written before it raised. -/
abbrev Outcome (σ α : Type) := Except Raised α × σ

/-- The call raised. -/
def Outcome.raised {σ α : Type} (outcome : Outcome σ α) : Bool :=
  match outcome.1 with
  | .ok _ => false
  | .error _ => true

theorem bind_eq_ok {ε α β : Type} {x : Except ε α} {f : α → Except ε β} {b : β} :
    x >>= f = .ok b ↔ ∃ a, x = .ok a ∧ f a = .ok b := by
  cases x with
  | error e =>
    constructor
    · intro returned
      cases returned
    · rintro ⟨a, returned, _⟩
      cases returned
  | ok a =>
    refine ⟨fun returned => ⟨a, rfl, returned⟩, ?_⟩
    rintro ⟨a', same, returned⟩
    cases same
    exact returned

theorem ite_error_eq_ok {ε α : Type} {p : Prop} [Decidable p] {e : ε} {x : Except ε α} {a : α} :
    (if p then .error e else x) = .ok a ↔ ¬p ∧ x = .ok a := by
  by_cases refused : p <;> simp [refused]

theorem mapM_eq_ok {ε α β : Type} {f : α → Except ε β} {xs : List α} {ys : List β} :
    xs.mapM f = .ok ys ↔ List.Forall₂ (fun x y => f x = .ok y) xs ys := by
  induction xs generalizing ys with
  | nil => cases ys <;> simp [pure, Except.pure]
  | cons x xs ih =>
    simp only [List.mapM_cons, bind_eq_ok, List.forall₂_cons_left_iff, ih]
    constructor
    · rintro ⟨y, first, later, rest, same⟩
      exact ⟨y, later, first, rest, (Except.ok.inj same).symm⟩
    · rintro ⟨y, later, first, rest, rfl⟩
      exact ⟨y, first, later, rest, rfl⟩

/-! ## Texts -/

/-- `str(value or "")`. -/
def orEmpty : Option String → String
  | none => ""
  | some s => s

theorem eq_some_orEmpty {text : Option String} (given : orEmpty text ≠ "") :
    text = some (orEmpty text) := by
  cases text with
  | none => exact absurd rfl given
  | some s => rfl

def sideOf? (text : String) : Option Side :=
  if text = "BUY" then some .buy else if text = "SELL" then some .sell else none

@[simp] theorem sideOf?_buy : sideOf? "BUY" = some .buy := rfl
@[simp] theorem sideOf?_sell : sideOf? "SELL" = some .sell := rfl

/-- The text a side is passed as. -/
def sideText : Side → String
  | .buy => "BUY"
  | .sell => "SELL"

@[simp] theorem sideOf?_sideText (side : Side) : sideOf? (sideText side) = some side := by
  cases side <;> rfl

theorem sideText_injective : Function.Injective sideText := by
  intro side side'
  cases side <;> cases side' <;> decide

/-! ## Records -/

/-- A calendar date with a time of day. -/
structure DateTime where
  year : ℕ
  month : ℕ
  day : ℕ
  hour : ℕ
  minute : ℕ
  second : ℕ
  deriving DecidableEq, Repr

structure DataQuality where
  isFresh : Bool
  isComplete : Bool
  sourceAvailable : Bool
  reason : Option String
  deriving DecidableEq, Repr

structure OptionInstrumentIdentity where
  instrumentId : String
  symbol : String
  expiry : Option String := none
  optionType : Option String := none
  strike : Option ℚ := none
  deriving DecidableEq

structure OrderIntent where
  clientOrderId : String
  instrumentId : String
  side : String
  quantity : ℤ
  intentType : String
  strategyId : Option String := none
  riskContext : Option String := none
  instrumentIdentity : Option OptionInstrumentIdentity := none
  assetType : Option String := none
  requestedPrice : Option ℚ := none
  orderType : Option String := none
  orderPurpose : Option String := none
  trackId : Option String := none
  tagId : Option String := none
  groupId : Option String := none
  legId : Option String := none
  deriving DecidableEq

structure BrokerOrderCommand where
  clientOrderId : String
  instrumentId : String
  side : String
  quantity : ℤ
  orderType : String
  brokerSymbol : Option String := none
  sessionId : Option String := none
  instrumentIdentity : Option OptionInstrumentIdentity := none
  assetType : Option String := none
  requestedPrice : Option ℚ := none
  strategyId : Option String := none
  orderPurpose : Option String := none
  trackId : Option String := none
  tagId : Option String := none
  groupId : Option String := none
  legId : Option String := none
  deriving DecidableEq

/-- The answer of a transport to a submitted order. -/
structure BrokerOrderResponse where
  clientOrderId : String
  accepted : Bool
  brokerOrderId : Option String := none
  brokerCode : Option String := none
  message : Option String := none
  deriving DecidableEq, Repr

structure OrderAckEvent where
  clientOrderId : String
  accepted : Bool
  brokerOrderId : Option String := none
  brokerCode : Option String := none
  message : Option String := none
  deriving DecidableEq, Repr

structure ExecutionReport where
  clientOrderId : String
  brokerOrderId : Option String
  executionId : Option String
  status : String
  filledQuantity : ℤ
  remainingQuantity : ℤ
  executionPrice : Option ℚ
  executionTimestamp : Option DateTime
  sourceFreshness : Option DataQuality := none
  rejectedReason : Option String := none
  groupId : Option String := none
  legId : Option String := none
  deriving DecidableEq

/-- The filled quantities of a list of reports together. -/
def totalFilled (reports : List ExecutionReport) : ℤ := (reports.map (·.filledQuantity)).sum

/-- What a list of reports is worth: filled quantity times price, no price counting nothing. -/
def totalNotional (reports : List ExecutionReport) : ℚ :=
  (reports.map fun report => (report.filledQuantity : ℚ) * report.executionPrice.getD 0).sum

@[simp] theorem totalFilled_nil : totalFilled [] = 0 := rfl
@[simp] theorem totalNotional_nil : totalNotional [] = 0 := rfl

@[simp] theorem totalFilled_singleton (report : ExecutionReport) :
    totalFilled [report] = report.filledQuantity := by simp [totalFilled]

@[simp] theorem totalNotional_singleton (report : ExecutionReport) :
    totalNotional [report] = report.filledQuantity * report.executionPrice.getD 0 := by
  simp [totalNotional]

@[simp] theorem totalFilled_append (reports later : List ExecutionReport) :
    totalFilled (reports ++ later) = totalFilled reports + totalFilled later := by
  simp [totalFilled]

@[simp] theorem totalNotional_append (reports later : List ExecutionReport) :
    totalNotional (reports ++ later) = totalNotional reports + totalNotional later := by
  simp [totalNotional]

end OptionProject.Contracts
