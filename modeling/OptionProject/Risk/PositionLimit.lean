import OptionProject.Risk.Approvals

/-!
# The position limit

What an approved order leaves of the command's own instrument, and exactly which orders get
past the limit: one of the opposite side that is reduced for margin may close less of the
position than the limit needs, and the position of another instrument stands in for a missing
one.

## Main results

* `qty_expectedFrom` — what is expected of a valid position.
* `limitMargin_afforded` — the quantity that the margin gate leaves.
* `position_le_limit_iff` — the approvals that keep the instrument within its limit.
-/
namespace OptionProject.Risk
open Library Contracts

/-! ## Positions with their sides -/

def IsSide (side : String) : Prop := side = "BUY" ∨ side = "SELL"

instance (side : String) : Decidable (IsSide side) := inferInstanceAs (Decidable (_ ∨ _))

structure RiskPosition.IsValid (position : RiskPosition) : Prop where
  side : IsSide position.side
  qty : 0 ≤ position.qty

/-- A map of valid positions, under any keys. -/
def RiskPositionInput.IsValid (input : RiskPositionInput) : Prop :=
  ∀ entry ∈ input.positions.entries, entry.2.IsValid

/-- A map with one entry. -/
def onePosition (instrumentKey side : String) (n : ℤ) : Option RiskPositionInput :=
  some ⟨⟨[(instrumentKey, ⟨side, n⟩)], List.nodup_singleton instrumentKey⟩⟩

/-- Long quantities count up, short ones down. -/
def signedQty (side : String) (n : ℤ) : ℤ := if side = "BUY" then n else -n

/-- The signed position that filling `n` lots of an order leaves. -/
def filledQty (position : Option RiskPosition) (side : String) (n : ℤ) : ℤ :=
  (position.map fun p => signedQty p.side p.qty).getD 0 + signedQty side n

/-- The absolute quantity expected of an order on a position. -/
def expectedQty (position : Option RiskPosition) (side : String) (n : ℤ) : ℤ :=
  match position with
  | none => n
  | some p => if p.side = side then p.qty + n else |p.qty - n|

/-- What is expected of a position is what the fill leaves of it. -/
theorem abs_filledQty {position : Option RiskPosition} {side : String} {n : ℤ}
    (valid : ∀ p ∈ position, p.IsValid) (sided : IsSide side) (positive : 0 < n) :
    |filledQty position side n| = expectedQty position side n := by
  cases position with
  | none =>
    have size : |signedQty side n| = n := by
      unfold signedQty
      split
      · exact abs_of_pos positive
      · rw [abs_neg, abs_of_pos positive]
    simpa [filledQty, expectedQty] using size
  | some p =>
    obtain ⟨pSide, nonneg⟩ := valid p rfl
    have total : 0 ≤ p.qty + n := by omega
    simp only [filledQty, signedQty, expectedQty, Option.map_some, Option.getD_some]
    rcases pSide with buy | sell <;> rcases sided with rfl | rfl
    · simp [buy, abs_of_nonneg total]
    · simp [buy, sub_eq_add_neg]
    · rw [sell, if_neg (by decide), if_pos rfl, if_neg (by decide), neg_add_eq_sub, abs_sub_comm]
    · simp only [sell, if_true, if_neg (show ¬"SELL" = "BUY" by decide)]
      rw [← neg_add, abs_neg, abs_of_nonneg total]

namespace RiskEngine
open RiskOrderCommand

variable {C : Type} [RiskOrderCommand C] {engine : RiskEngine} {config : RiskConfig}
  {context : DecimalContext}
  {marginEngine : MarginCalculator C} {seed : TokenSeed} {command limited : C}
  {account : RiskAccountInput} {positions : Option RiskPositionInput}
  {sensorSnapshot : Option RiskSensorSnapshot} {allowReduction : Bool} {approval : Approval C}
  {result : RiskEvaluationResult C}

/-- The entry under the command's own key. -/
def ownPosition (command : C) (positions : Option RiskPositionInput) : Option RiskPosition :=
  match getInstrumentKey command with
  | .error _ => none
  | .ok instrumentKey => positions.bind (·.positions.get? instrumentKey)

/-- The only entry of a map without the command's own key. -/
def borrowedPosition (command : C) (positions : Option RiskPositionInput) :
    Option RiskPosition :=
  match ownPosition command positions, positions.map (·.positions.entries) with
  | none, some [(_, only)] => some only
  | _, _ => none

theorem currentPosition_eq {instrumentKey : String}
    (key : getInstrumentKey command = .ok instrumentKey) :
    currentPosition instrumentKey positions =
      (ownPosition command positions).or (borrowedPosition command positions) := by
  cases positions with
  | none => simp [currentPosition, borrowedPosition, ownPosition, key]
  | some input =>
    cases own : input.positions.get? instrumentKey with
    | some position => simp [currentPosition, ownPosition, key, own]
    | none =>
      simp only [currentPosition, borrowedPosition, ownPosition, key, own, Option.bind_some,
        Option.map_some, Option.none_or]
      rcases input.positions.entries with _ | ⟨⟨_, only⟩, _ | _⟩ <;> rfl

/-- The position that is found stands in the map. -/
theorem mem_of_currentPosition {instrumentKey : String} {p : RiskPosition}
    (current : currentPosition instrumentKey positions = some p) :
    ∃ input ∈ positions, ∃ entry ∈ input.positions.entries, entry.2 = p := by
  cases positions with
  | none => cases current
  | some input =>
    unfold currentPosition at current
    dsimp only at current
    split at current
    next found =>
      cases current
      exact ⟨input, rfl, _, Dict.mem_of_get? found, rfl⟩
    next =>
      split at current
      next entries =>
        cases current
        exact ⟨input, rfl, (_, p), entries ▸ List.mem_singleton_self _, rfl⟩
      next => cases current

theorem currentPosition_isValid (valid : ∀ input ∈ positions, input.IsValid)
    (instrumentKey : String) : ∀ p ∈ currentPosition instrumentKey positions, p.IsValid := by
  intro p current
  obtain ⟨input, there, entry, member, rfl⟩ := mem_of_currentPosition current
  exact valid input there entry member

/-- On a valid position the quantity expected is an absolute one. -/
theorem qty_expectedFrom {position : Option RiskPosition} {instrumentKey side : String} {n : ℤ}
    (positive : 0 < n) (valid : ∀ p ∈ position, p.IsValid) :
    (expectedFrom instrumentKey position side n).qty = expectedQty position side n := by
  cases position with
  | none => rfl
  | some p =>
    obtain ⟨pSide, nonneg⟩ := valid p rfl
    have named : p.side ≠ "" := by rcases pSide with h | h <;> simp [h]
    simp only [expectedFrom, expectedQty, named, or_false]
    by_cases flat : p.qty = 0
    · simp [flat, abs_of_pos positive]
    · rw [if_neg flat]
      by_cases same : p.side = side
      · rw [if_pos same, if_pos same]
      · rw [if_neg same, if_neg same]
        rcases lt_trichotomy n p.qty with smaller | equal | larger
        · rw [if_pos smaller, abs_of_pos (by omega)]
        · rw [if_neg equal.not_lt, if_pos equal, equal, sub_self, abs_zero]
        · rw [if_neg larger.not_gt, if_neg larger.ne', abs_of_neg (by omega), neg_sub]

/-! ## The affordable quantity -/

theorem maxAffordableQty_eq {freeMargin requiredMargin : ℚ} {n : ℤ}
    (positive : 0 < maxAffordableQty context freeMargin requiredMargin n) :
    0 < n ∧ 0 < context.divide requiredMargin n ∧
      maxAffordableQty context freeMargin requiredMargin n =
        ⌊context.divide freeMargin (context.divide requiredMargin n)⌋ := by
  unfold maxAffordableQty truncate at positive ⊢
  dsimp only at positive ⊢
  by_cases lots : 0 < n
  · rw [if_pos lots] at positive ⊢
    by_cases unit : 0 < context.divide requiredMargin n
    · rw [if_pos unit] at positive ⊢
      by_cases whole : 0 ≤ context.divide freeMargin (context.divide requiredMargin n)
      · exact ⟨lots, unit, if_pos whole⟩
      · rw [if_neg whole] at positive
        have : ⌈context.divide freeMargin (context.divide requiredMargin n)⌉ ≤ 0 :=
          Int.ceil_le.mpr (by
            rw [Int.cast_zero]
            exact (not_le.mp whole).le)
        omega
    · rw [if_neg unit] at positive
      exact absurd positive (lt_irrefl _)
  · rw [if_neg lots, if_neg (lt_irrefl _)] at positive
    exact absurd positive (lt_irrefl _)

/-- The quantity that free margin pays for, at the average margin when not for all. -/
def affordedQty (context : DecimalContext) (freeMargin requiredMargin : ℚ) (n : ℤ) : ℤ :=
  if requiredMargin ≤ freeMargin then n
  else ⌊context.divide freeMargin (context.divide requiredMargin n)⌋

theorem affordedQty_lt {freeMargin requiredMargin : ℚ} {n m : ℤ} :
    affordedQty context freeMargin requiredMargin n < m ↔
      requiredMargin ≤ freeMargin ∧ n < m ∨
        freeMargin < requiredMargin ∧
          context.divide freeMargin (context.divide requiredMargin n) < m := by
  unfold affordedQty
  split
  next enough => simp [enough, not_lt.mpr enough]
  next short => simp [Int.floor_lt, short, not_le.mp short]

theorem lt_affordedQty {freeMargin requiredMargin : ℚ} {n m : ℤ} :
    m < affordedQty context freeMargin requiredMargin n ↔
      requiredMargin ≤ freeMargin ∧ m < n ∨
        freeMargin < requiredMargin ∧
          m + 1 ≤ context.divide freeMargin (context.divide requiredMargin n) := by
  unfold affordedQty
  split
  next enough => simp [enough, not_lt.mpr enough]
  next short =>
    rw [← Int.add_one_le_iff, Int.le_floor]
    push_cast
    simp [short, not_le.mp short]

/-- An order that passes the margin gate has the afforded quantity. -/
theorem limitMargin_afforded (positive : 0 < qty command)
    (passed : limitMargin context marginEngine command account allowReduction = .ok approval) :
    ∃ requiredMargin, marginEngine command = .ok requiredMargin ∧
      approval.effective =
        replaceQty command
          (affordedQty context account.freeMargin requiredMargin (qty command)) ∧
      (account.freeMargin < requiredMargin → 0 < context.divide requiredMargin (qty command)) ∧
      0 < affordedQty context account.freeMargin requiredMargin (qty command) ∧
      affordedQty context account.freeMargin requiredMargin (qty command) ≤ qty command := by
  obtain ⟨-, -, requiredMargin, computed, margin⟩ := limitMargin_spec passed
  refine ⟨requiredMargin, computed, ?_⟩
  rcases margin with ⟨enough, same⟩ | ⟨short, room, smaller, reduced⟩
  · rw [affordedQty, if_pos enough, replaceQty_qty]
    exact ⟨same, fun short => absurd enough (not_le.mpr short), positive, le_rfl⟩
  · obtain ⟨-, unit, floor⟩ := maxAffordableQty_eq room
    rw [affordedQty, if_neg (not_le.mpr short), ← floor]
    exact ⟨reduced, fun _ => unit, room, smaller.le⟩

/-! ## The position limit -/

/-- The orders that get past the limit. On a position of the other side, the free margin does
not pay for the lots that bring the position down to the limit, while the whole order would.
Without a position of its own, an order beyond the limit is taken for one that closes the
position of another instrument, and the free margin pays for more than the limit. Lots are paid
at the average margin, in the quotients of the context. -/
def EscapesLimit (context : DecimalContext) (config : RiskConfig)
    (marginEngine : MarginCalculator C) (command : C) (account : RiskAccountInput)
    (positions : Option RiskPositionInput) : Prop :=
  ∃ requiredMargin, marginEngine command = .ok requiredMargin ∧
    let averageMargin := context.divide requiredMargin (qty command)
    match ownPosition command positions with
    | some own =>
      own.side ≠ side command ∧
      |own.qty - qty command| ≤ config.maxPositionPerInstrument ∧
      account.freeMargin < requiredMargin ∧
      context.divide account.freeMargin averageMargin <
        (own.qty - config.maxPositionPerInstrument : ℤ)
    | none =>
      ∃ other ∈ borrowedPosition command positions,
        other.side ≠ side command ∧
        |other.qty - qty command| ≤ config.maxPositionPerInstrument ∧
        config.maxPositionPerInstrument < qty command ∧
        (requiredMargin ≤ account.freeMargin ∨
          config.maxPositionPerInstrument + 1 ≤
            context.divide account.freeMargin averageMargin)

/-- Closing less than the whole order keeps the limit unless too few lots are afforded. -/
theorem opposite_afforded_le_iff {requiredMargin : ℚ} {held limit n : ℤ}
    (within : |held - qty command| ≤ limit)
    (afforded : n = affordedQty context account.freeMargin requiredMargin (qty command))
    (le : n ≤ qty command) :
    |held - n| ≤ limit ↔ ¬(account.freeMargin < requiredMargin ∧
      context.divide account.freeMargin (context.divide requiredMargin (qty command)) <
        (held - limit : ℤ)) := by
  have short : n < held - limit ↔ _ := afforded ▸ affordedQty_lt
  obtain ⟨lower, upper⟩ := abs_le.mp within
  rw [abs_le]
  constructor
  · intro kept escaped
    have := short.mpr (.inr escaped)
    omega
  · intro safe
    by_contra past
    rcases short.mp (by omega) with ⟨-, less⟩ | escaped
    · omega
    · exact safe escaped

/-- More than a limit is afforded when the order is beyond it and the free margin pays. -/
theorem limit_lt_afforded_iff {requiredMargin : ℚ} {limit n : ℤ}
    (afforded : n = affordedQty context account.freeMargin requiredMargin (qty command))
    (le : n ≤ qty command) :
    limit < n ↔ limit < qty command ∧ (requiredMargin ≤ account.freeMargin ∨
      limit + 1 ≤
        context.divide account.freeMargin (context.divide requiredMargin (qty command))) := by
  have past : limit < n ↔ _ := afforded ▸ lt_affordedQty
  constructor
  · intro more
    refine ⟨by omega, ?_⟩
    rcases past.mp more with ⟨enough, -⟩ | ⟨-, pays⟩
    · exact .inl enough
    · exact .inr pays
  · rintro ⟨above, pays⟩
    by_cases enough : requiredMargin ≤ account.freeMargin
    · exact past.mpr (.inl ⟨enough, above⟩)
    · exact past.mpr (.inr ⟨not_le.mp enough, pays.resolve_left enough⟩)

/-- An order within the expected limit keeps it unless it escapes. -/
theorem expectedQty_afforded_le_iff {requiredMargin : ℚ} {n : ℤ}
    (valid : ∀ p ∈ (ownPosition command positions).or (borrowedPosition command positions),
      p.IsValid)
    (within : expectedQty ((ownPosition command positions).or (borrowedPosition command positions))
      (side command) (qty command) ≤ config.maxPositionPerInstrument)
    (computed : marginEngine command = .ok requiredMargin)
    (afforded : n = affordedQty context account.freeMargin requiredMargin (qty command))
    (le : n ≤ qty command) :
    expectedQty (ownPosition command positions) (side command) n ≤
        config.maxPositionPerInstrument ↔
      ¬EscapesLimit context config marginEngine command account positions := by
  have only : ∀ m, marginEngine command = .ok m ↔ m = requiredMargin := by
    intro m
    rw [computed, Except.ok.injEq, eq_comm]
  simp only [EscapesLimit, only, exists_eq_left]
  cases own : ownPosition command positions with
  | some p =>
    simp only [own, Option.some_or, expectedQty] at within ⊢
    by_cases same : p.side = side command
    · simp only [same, if_true] at within ⊢
      simp only [ne_eq, not_true_eq_false, false_and, not_false_eq_true, iff_true]
      omega
    · simp only [same, if_false] at within ⊢
      simp only [ne_eq, same, not_false_eq_true, within, true_and]
      exact opposite_afforded_le_iff within afforded le
  | none =>
    simp only [own, Option.none_or] at valid within ⊢
    cases borrowed : borrowedPosition command positions with
    | none =>
      simp only [borrowed, expectedQty] at within ⊢
      simp only [Option.not_mem_none, false_and, exists_false, not_false_eq_true, iff_true]
      omega
    | some p =>
      simp only [borrowed, expectedQty] at valid within ⊢
      simp only [Option.mem_some_iff, exists_eq_left']
      by_cases same : p.side = side command
      · have nonneg := (valid p rfl).qty
        simp only [same, if_true] at within
        simp only [same, ne_eq, not_true_eq_false, false_and, not_false_eq_true, iff_true]
        omega
      · simp only [same, if_false] at within
        simp only [ne_eq, same, not_false_eq_true, within, true_and]
        rw [← not_lt, limit_lt_afforded_iff afforded le]

/-- An order cut to the remaining capacity keeps the limit. -/
theorem expectedQty_capacity_le {n capacity : ℤ}
    (valid : ∀ p ∈ (ownPosition command positions).or (borrowedPosition command positions),
      p.IsValid)
    (above : config.maxPositionPerInstrument <
      expectedQty ((ownPosition command positions).or (borrowedPosition command positions))
        (side command) (qty command))
    (room : capacity = config.maxPositionPerInstrument -
      (((ownPosition command positions).or (borrowedPosition command positions)).map
        (·.qty)).getD 0)
    (positive : 0 < n) (le : n ≤ capacity) :
    expectedQty (ownPosition command positions) (side command) n ≤
        config.maxPositionPerInstrument ∧
      ¬EscapesLimit context config marginEngine command account positions := by
  unfold EscapesLimit
  cases own : ownPosition command positions with
  | some p =>
    simp only [own, Option.some_or, Option.map_some, Option.getD_some] at valid above room ⊢
    have nonneg := (valid p rfl).qty
    by_cases same : p.side = side command
    · simp only [expectedQty, same, if_true] at above ⊢
      refine ⟨by omega, ?_⟩
      rintro ⟨_, _, opposite, _⟩
      exact opposite rfl
    · simp only [expectedQty, same, if_false] at above ⊢
      refine ⟨abs_le.mpr (by omega), ?_⟩
      rintro ⟨_, _, _, within, _⟩
      exact absurd within (not_le.mpr above)
  | none =>
    simp only [own, Option.none_or] at valid above room ⊢
    cases borrowed : borrowedPosition command positions with
    | none =>
      simp only [borrowed, expectedQty, Option.map_none, Option.getD_none] at above room ⊢
      refine ⟨by omega, ?_⟩
      rintro ⟨_, _, _, none, _⟩
      cases none
    | some p =>
      simp only [borrowed, expectedQty, Option.map_some, Option.getD_some] at valid above room ⊢
      have nonneg := (valid p rfl).qty
      refine ⟨by omega, ?_⟩
      rintro ⟨_, _, other, same, opposite, within, _⟩
      cases same
      rw [if_neg opposite] at above
      exact absurd within (not_le.mpr above)

/-- The quantity an evaluation approves. -/
def approvedQty? (evaluated : Except Raised (RiskEvaluationResult C)) : Option ℤ :=
  match evaluated with
  | .ok result => if result.isApproved then some result.approvedQty else none
  | .error _ => none

omit [RiskOrderCommand C] in
theorem approvedQty?_eq_some {evaluated : Except Raised (RiskEvaluationResult C)} {n : ℤ} :
    approvedQty? evaluated = some n ↔
      ∃ result, evaluated = .ok result ∧ result.isApproved = true ∧ result.approvedQty = n := by
  cases evaluated <;> simp [approvedQty?]

theorem judged_of_approved {n : ℤ}
    (approved : approvedQty? (engine.evaluateOrder marginEngine seed command account positions
      sensorSnapshot allowReduction) = some n) :
    ∃ limited approval, Judged engine marginEngine command account positions sensorSnapshot
      allowReduction limited approval ∧ qty approval.effective = n := by
  obtain ⟨result, evaluated, isApproved, rfl⟩ := approvedQty?_eq_some.mp approved
  rcases evaluateOrder_cases evaluated with ⟨limited, approval, judged, rfl⟩ | ⟨denial, rfl⟩
  · exact ⟨limited, approval, judged, rfl⟩
  · cases isApproved

theorem Judged.approvedQty? (judged : Judged engine marginEngine command account positions
      sensorSnapshot allowReduction limited approval) (seed : TokenSeed) :
    approvedQty? (engine.evaluateOrder marginEngine seed command account positions
      sensorSnapshot allowReduction) = some (qty approval.effective) := by
  rw [evaluateOrder, judged.judge]
  rfl

/-- An approved quantity keeps the command's own instrument within its limit exactly when the
order does not escape it. -/
theorem position_le_limit_iff (engine : RiskEngine) (marginEngine : MarginCalculator C)
    (seed : TokenSeed) (command : C) (account : RiskAccountInput)
    (positions : Option RiskPositionInput) (sensorSnapshot : Option RiskSensorSnapshot)
    (allowReduction : Bool) (n : ℤ) (valid : ∀ input ∈ positions, input.IsValid)
    (sided : IsSide (side command))
    (approved : approvedQty? (engine.evaluateOrder marginEngine seed command account positions
      sensorSnapshot allowReduction) = some n) :
    |filledQty (ownPosition command positions) (side command) n| ≤
        engine.config.maxPositionPerInstrument ↔
      ¬EscapesLimit engine.context engine.config marginEngine command account positions := by
  obtain ⟨limited, approval, judged, rfl⟩ := judged_of_approved approved
  obtain ⟨-, positive, -, -⟩ := screen_spec judged.screen
  obtain ⟨expected, computed, position⟩ := limitPosition_spec judged.position
  obtain ⟨key, expectedEq⟩ := calculateExpectedPosition_spec computed
  have validCurrent := currentPosition_isValid valid expected.instrumentKey
  have expectedEq := (congrArg (·.qty) expectedEq).trans (qty_expectedFrom positive validCurrent)
  rw [remainingCapacity, currentPosition_eq key] at position
  rw [currentPosition_eq key] at expectedEq validCurrent
  have validOwn : ∀ p ∈ ownPosition command positions, p.IsValid := by
    intro p own
    exact validCurrent p (by rw [Option.mem_def.mp own]; rfl)
  rcases position with ⟨within, rfl⟩ | ⟨above, room, smaller, rfl⟩
  · obtain ⟨requiredMargin, margin, effective, -, some_left, le⟩ :=
      limitMargin_afforded positive judged.margin
    rw [effective, qty_replaceQty, abs_filledQty validOwn sided some_left]
    exact expectedQty_afforded_le_iff validCurrent (expectedEq ▸ within) margin rfl le
  · obtain ⟨requiredMargin, -, effective, -, some_left, le⟩ :=
      limitMargin_afforded (by rw [qty_replaceQty]; exact room) judged.margin
    rw [qty_replaceQty] at effective some_left le
    rw [effective, qty_replaceQty, abs_filledQty validOwn sided some_left]
    obtain ⟨kept, safe⟩ :=
      expectedQty_capacity_le validCurrent (expectedEq ▸ above) rfl some_left le
    exact iff_of_true kept safe

def marginPerLot (unit : ℚ) : MarginCalculator Command := fun command => .ok (unit * command.qty)

/-- A sale that closes a long position down to its limit. -/
theorem position_le_limit_iff_closing :
    |filledQty (ownPosition (C := Command) { qty := 50, side := "SELL", instrumentKey := "K" }
        (onePosition "K" "BUY" 150)) "SELL" 50| ≤ 100 ↔
      ¬EscapesLimit .standard .standard (marginPerLot 100)
        { qty := 50, side := "SELL", instrumentKey := "K" } ⟨10000, 0, 0, 5000⟩
        (onePosition "K" "BUY" 150) :=
  position_le_limit_iff { config := .standard } (marginPerLot 100) ⟨"uuid", 0⟩
    { qty := 50, side := "SELL", instrumentKey := "K" } ⟨10000, 0, 0, 5000⟩
    (onePosition "K" "BUY" 150) none false 50
    (by
      rintro input ⟨⟩ entry mem
      cases List.mem_singleton.mp mem
      exact ⟨by decide, by decide⟩)
    (by decide) (by decide +kernel)

/-- The same sale reduced for margin leaves 130 of at most 100; and a sale of 50 that closes
another instrument's position leaves its own 50 short of at most 10. -/
theorem approvals_beyond_limit :
    let sale : Command := { qty := 50, side := "SELL", instrumentKey := "K" }
    let narrow : RiskConfig :=
      { RiskConfig.standard with
        maxPositionPerInstrument := 10
        maxPositionPerInstrument_pos := by decide }
    (approvedQty? (evaluateOrder { config := .standard } (marginPerLot 100) ⟨"uuid", 0⟩ sale
        ⟨10000, 0, 0, 2000⟩ (onePosition "K" "BUY" 150) none true) = some 20 ∧
      RiskConfig.standard.maxPositionPerInstrument <
        |filledQty (ownPosition sale (onePosition "K" "BUY" 150)) "SELL" 20|) ∧
    (approvedQty? (evaluateOrder { config := narrow } (marginPerLot 100) ⟨"uuid", 0⟩ sale
        ⟨10000, 0, 0, 5000⟩ (onePosition "L" "BUY" 50) none false) = some 50 ∧
      narrow.maxPositionPerInstrument <
        |filledQty (ownPosition sale (onePosition "L" "BUY" 50)) "SELL" 50|) := by
  decide +kernel

end RiskEngine
end OptionProject.Risk
