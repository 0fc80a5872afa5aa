import Mathlib.Data.Rat.Floor
import OptionProject.Library.Calendar
import OptionProject.Strategies.Track3

/-!
# Track 1, tail defense

`core/strategy/track1_tail_defense.py`. The first evaluation builds a fence around the price; when
the price comes near the fence a futures hedge is entered, and it is unwound when the price has come
back by 1.5. The fence is cleared four days before the expiry. The floats are a type without laws;
an evaluation takes the function that sizes a hedge as it finds it, since the function is imported
when it is needed.

## Main definitions

* `StrikeArithmetic` — what the strikes need of the floats.
* `Track1TailDefense.hedge` — the entry of a hedge.
* `Track1TailDefense.unwind` — its end.
* `Track1TailDefense.evaluate` — one evaluation, which may raise after it has written.
-/
namespace OptionProject.Strategies
open Library Contracts

class StrikeArithmetic (F : Type) extends FloatArithmetic F where
  /-- `float(round(number))`; infinities and NaN raise. -/
  rounded : F → Except PythonException F
  /-- `Decimal(str(number)) <= 0`; NaN raises. -/
  nonPositive : F → Except PythonException Bool

/-! ## Inputs -/

structure Track1Input (F : Type) where
  momentumConfirmed : Bool := false
  daysToExpiry : Option F := none
  /-- The date of the current time. -/
  currentDate : Option Date := none
  activeVol : Option F := none
  baseVol : Option F := none
  shortOptionNetDelta : Option ℚ := none

/-- The context of an evaluation. -/
structure Track1Context (F : Type) where
  strategyId : String
  /-- The prices of the ticks, each with its conversion to a float. -/
  ticks : List (Except PythonException F)
  input : Option (Track1Input F) := none
  /-- `delta_to_mini_futures_qty` after its import, either of which may raise. -/
  deltaToMiniFuturesQty : ℚ → Except PythonException ℤ

/-! ## Signals -/

inductive FenceType
  | put
  | call
  deriving DecidableEq, Repr

def FenceType.value : FenceType → String
  | .put => "PUT"
  | .call => "CALL"

/-- `none` is the direction `FLAT`. -/
abbrev Track1Direction := Option Side

def Track1Direction.value : Track1Direction → String
  | none => "FLAT"
  | some side => sideText side

/-- The numbers that a reason shows, under its heading. -/
inductive Track1Reason (F : Type)
  | fenceClear (fenceType : FenceType) (strike : F) (tag : ℕ)
  | futuresHedgeTrigger (count : ℤ) (price : F) (qty : ℤ)
  | futuresUnwind
  deriving DecidableEq

structure Track1Proposal (F : Type) where
  proposedQuantity : ℤ
  assetType : String
  side : Option Side
  tagId : String
  optionType : Option FenceType
  strike : Option F
  deriving DecidableEq

structure Track1Signal (F : Type) where
  direction : Track1Direction
  confidence : ℚ
  reason : Track1Reason F
  executionProposal : Option (Track1Proposal F) := none
  deriving DecidableEq

/-! ## The strategy -/

/-- The type and the strike of a fence, which are set and cleared together. -/
structure Fence (F : Type) where
  fenceType : FenceType
  strike : F
  deriving DecidableEq

/-- The side and the price of a hedge, which are set and cleared together. -/
structure Hedge (F : Type) where
  side : Side
  entryPrice : F
  deriving DecidableEq

structure Track1State (F : Type) where
  basePrice : Option F := none
  fenceDistance : F
  activeFence : Option (Fence F) := none
  activeFenceTag : ℕ := 0
  futuresHedgeCount : ℤ := 0
  hedgeCountDate : Option Date := none
  activeHedge : Option (Hedge F) := none
  marketOpened : Bool := false
  deriving DecidableEq

structure Track1TailDefense (F : Type) where
  maxHedgeAllowed : ℤ := 20
  state : Track1State F
  initialized : Bool := false
  deriving DecidableEq

namespace Track1TailDefense

variable {F : Type} [StrikeArithmetic F]

/-- What a call returns or raises, and the state it leaves. -/
abbrev Result (F : Type) (α : Type) := Except PythonException α × Track1TailDefense F

def strategyId : String := "TRACK1_TAIL_DEFENSE"

def initialState : Track1State F where
  fenceDistance := lit 7.5

def reset (self : Track1TailDefense F) : Track1TailDefense F :=
  { self with
    state := initialState
    initialized := false }

/-- The first tick. -/
def price (context : Track1Context F) : Except PythonException F :=
  match context.ticks with
  | [] => .error ⟨"StopIteration", ""⟩
  | tick :: _ => tick

def roundStrike (price : F) : Except PythonException F := do
  let steps ← StrikeArithmetic.rounded (price / lit 2.5)
  return steps * lit 2.5

/-- The check of a proposal on its strike. -/
def checkStrike (strike : F) : Except PythonException Unit := do
  if ← StrikeArithmetic.nonPositive strike then .error ⟨"ValueError", "STRIKE_MUST_BE_POSITIVE"⟩

/-- The line of the reason is commented out, so the signal is never built. -/
def buildFenceSignal (_fenceType : FenceType) (strike : F) (_tag : ℕ) :
    Except PythonException (Track1Signal F) := do
  checkStrike strike
  .error ⟨"TypeError", "Signal.__init__() missing 1 required positional argument: 'reason'"⟩

def ensureInitialized (self : Track1TailDefense F) : Track1TailDefense F :=
  if self.initialized then self else { self.reset with initialized := true }

/-! ### Date and expiry -/

/-- On another date the hedges are counted anew. -/
def syncDate (self : Track1TailDefense F) (input : Option (Track1Input F)) :
    Track1TailDefense F :=
  match input.bind (·.currentDate) with
  | none => self
  | some currentDate =>
    if self.state.hedgeCountDate ≠ some currentDate then
      { self with
        state := { self.state with
          futuresHedgeCount := 0
          hedgeCountDate := some currentDate } }
    else self

/-- The expiry is four days away or nearer. -/
def cutOff (input : Option (Track1Input F)) : Bool :=
  match input.bind (·.daysToExpiry) with
  | none => false
  | some days => FloatArithmetic.le days (lit 4)

def clearFence (self : Track1TailDefense F) : Result F (List (Track1Signal F)) :=
  match self.state.activeFence with
  | none => (.ok [], self)
  | some fence =>
    match checkStrike fence.strike with
    | .error e => (.error e, self)
    | .ok () =>
      (.ok [{
          direction := none
          confidence := 1
          reason := .fenceClear fence.fenceType fence.strike self.state.activeFenceTag
          executionProposal := some {
            proposedQuantity := 1
            assetType := "OPTION"
            side := none
            tagId := toString self.state.activeFenceTag
            optionType := some fence.fenceType
            strike := some fence.strike } }],
        { self with state := { self.state with activeFence := none } })

def setDistance (self : Track1TailDefense F) (input : Option (Track1Input F)) :
    Track1TailDefense F :=
  match input.bind (·.activeVol), input.bind (·.baseVol) with
  | some activeVol, some baseVol =>
    let fenceDistance :=
      if FloatArithmetic.lt (baseVol * lit 1.15) activeVol then lit 12.5 else lit 7.5
    { self with state := { self.state with fenceDistance } }
  | _, _ => self

/-! ### The fence -/

/-- The fence is written before its signals are built. -/
def openMarket (self : Track1TailDefense F) (price : F) : Result F (List (Track1Signal F)) :=
  let opened := { self with
    state := { self.state with
      basePrice := some price
      marketOpened := true } }
  let strikes := do
    let callOuter ← roundStrike (price + lit 12.5)
    let putOuter ← roundStrike (price - lit 12.5)
    let putInner ← roundStrike (price - lit 7.5)
    return (callOuter, putOuter, putInner)
  match strikes with
  | .error e => (.error e, opened)
  | .ok (callOuter, putOuter, putInner) =>
    let signals := do
      let callFence ← buildFenceSignal .call callOuter 0
      let putFence ← buildFenceSignal .put putOuter 0
      let innerFence ← buildFenceSignal .put putInner 1
      return [callFence, putFence, innerFence]
    (signals,
      { opened with
        state := { opened.state with
          activeFence := some ⟨.put, putInner⟩
          activeFenceTag := 1 } })

/-- The price is within a tenth of the distance from the fence. -/
def approaching (self : Track1TailDefense F) (fence : Fence F) (price : F) : Bool :=
  let base :=
    match self.state.basePrice with
    | none => price
    | some base => if FloatArithmetic.same base (lit 0) then price else base
  let warning := self.state.fenceDistance * lit 0.9
  match fence.fenceType with
  | .put => FloatArithmetic.le price (base - warning)
  | .call => atLeast price (base + warning)

/-! ### The hedge -/

def hedgeSide (fence : Fence F) : Side :=
  match fence.fenceType with
  | .put => .sell
  | .call => .buy

/-- `core/delta_hedge_quantity.py`, which is not where the strategy imports it from. -/
def deltaToMiniFuturesQty (netDelta contractMultiplier : ℚ) : Except PythonException ℤ :=
  if contractMultiplier ≤ 0 then .error ⟨"ValueError", "CONTRACT_MULTIPLIER_MUST_BE_POSITIVE"⟩
  else .ok ⌈|netDelta| * contractMultiplier⌉

/-- Without a delta the quantity is zero. -/
def hedgeQty (context : Track1Context F) : Except PythonException ℤ :=
  match context.input.bind (·.shortOptionNetDelta) with
  | none => .ok 0
  | some netDelta => context.deltaToMiniFuturesQty netDelta

/-- There is no hedge yet, and one is to be entered. -/
def seeksHedge (self : Track1TailDefense F) (context : Track1Context F) (fence : Fence F)
    (price : F) : Bool :=
  self.approaching fence price && self.state.activeHedge.isNone &&
    context.input.any (·.momentumConfirmed) && self.state.futuresHedgeCount < self.maxHedgeAllowed

/-- The hedge is written before its quantity is known. -/
def hedge (self : Track1TailDefense F) (context : Track1Context F) (fence : Fence F) (price : F) :
    Result F (List (Track1Signal F)) :=
  if !self.seeksHedge context fence price then (.ok [], self)
  else
    let side := hedgeSide fence
    match hedgeQty context with
    | .error e =>
      (.error e, { self with state := { self.state with activeHedge := some ⟨side, price⟩ } })
    | .ok qty =>
      if qty ≤ 0 then (.ok [], { self with state := { self.state with activeHedge := none } })
      else
        let count := self.state.futuresHedgeCount + 1
        (.ok [{
            direction := some side
            confidence := 1
            reason := .futuresHedgeTrigger count price qty
            executionProposal := some {
              proposedQuantity := qty
              assetType := "FUTURES"
              side := some side
              tagId := "FUTURES_HEDGE"
              optionType := none
              strike := none } }],
          { self with
            state := { self.state with
              activeHedge := some ⟨side, price⟩
              futuresHedgeCount := count } })

/-- The price has come back by 1.5 against the hedge. -/
def reverted (hedge : Hedge F) (price : F) : Bool :=
  match hedge.side with
  | .sell => atLeast (price - hedge.entryPrice) (lit 1.5)
  | .buy => atLeast (hedge.entryPrice - price) (lit 1.5)

def unwindSide : Side → Side
  | .sell => .buy
  | .buy => .sell

def unwind (self : Track1TailDefense F) (price : F) :
    List (Track1Signal F) × Track1TailDefense F :=
  match self.state.activeHedge with
  | none => ([], self)
  | some hedge =>
    if reverted hedge price then
      ([{ direction := some (unwindSide hedge.side), confidence := 1, reason := .futuresUnwind }],
        { self with state := { self.state with activeHedge := none } })
    else ([], self)

/-- The fence is watched, and the hedge with it. -/
def watch (self : Track1TailDefense F) (context : Track1Context F) (price : F) :
    Result F (List (Track1Signal F)) :=
  match self.state.activeFence with
  | none => (.ok [], self)
  | some fence =>
    match self.hedge context fence price with
    | (.error e, self) => (.error e, self)
    | (.ok trigger, self) =>
      let (unwound, self) := self.unwind price
      (.ok (trigger ++ unwound), self)

def evaluate (self : Track1TailDefense F) (context : Track1Context F) :
    Result F (List (Track1Signal F)) :=
  if context.strategyId ≠ strategyId then
    (.error ⟨"ValueError", "strategy context mismatch"⟩, self)
  else
    let self := self.ensureInitialized
    match price context with
    | .error e => (.error e, self)
    | .ok price =>
      let self := self.syncDate context.input
      if cutOff context.input then self.clearFence
      else
        let self := self.setDistance context.input
        if !self.state.marketOpened then self.openMarket price else self.watch context price

end Track1TailDefense
end OptionProject.Strategies
