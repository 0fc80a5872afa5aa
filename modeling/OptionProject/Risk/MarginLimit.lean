import OptionProject.Risk.PositionLimit

/-!
# The margin limits

What an approved quantity costs: its margin against the free margin, and the utilisation
against the configured share of the balance. An order reduced for margin is priced again but
not compared with the free margin again, and without a positive balance the estimated ratio
is 1, which a configured limit of 1 lets through. So it depends on the calculator and on the
configuration whether the accounts cover what is approved. Quotients are exact here.

## Main definitions

* `MarginCovered` — the account covers the margin of a quantity.
* `UnitMarginFalls` — the margin per lot does not rise when an order shrinks.

## Main results

* `Judged.free` — what the free margin pays for with such a calculator.
* `margin_covered_iff` — the calculators and configurations whose approvals are covered.
-/
namespace OptionProject.Risk.RiskEngine
open Library Contracts RiskOrderCommand

variable {C : Type} [RiskOrderCommand C] {engine : RiskEngine} {config : RiskConfig}
  {marginEngine : MarginCalculator C} {seed : TokenSeed} {command limited : C}
  {account : RiskAccountInput} {positions : Option RiskPositionInput}
  {sensorSnapshot : Option RiskSensorSnapshot} {allowReduction : Bool} {approval : Approval C}
  {instrumentKey : String}

/-- The account covers the margin of `n` lots. -/
def MarginCovered (config : RiskConfig) (marginEngine : MarginCalculator C) (command : C)
    (account : RiskAccountInput) (n : ℤ) : Prop :=
  ∃ margin, marginEngine (replaceQty command n) = .ok margin ∧ margin ≤ account.freeMargin ∧
    account.usedMargin + margin ≤ config.maxMarginUtilizationRatio * account.totalBalance

/-- The margin per lot does not rise when an order within the order limit shrinks. -/
def UnitMarginFalls (config : RiskConfig) (marginEngine : MarginCalculator C)
    (command : C) : Prop :=
  ∀ m n small large, 0 < m → m < n → n ≤ config.maxOrderQty →
    marginEngine (replaceQty command m) = .ok small →
    marginEngine (replaceQty command n) = .ok large → 0 < large → small * n ≤ large * m

/-- The calculator has a margin for some quantity within the order limit. -/
def Priced (config : RiskConfig) (marginEngine : MarginCalculator C) (command : C) : Prop :=
  ∃ n margin, 0 < n ∧ n ≤ config.maxOrderQty ∧ marginEngine (replaceQty command n) = .ok margin

/-! ## What is enough -/

theorem estimatedRatio_le_iff {margin ratio : ℚ} (balance : 0 < account.totalBalance) :
    estimatedRatio .exact account margin ≤ ratio ↔
      account.usedMargin + margin ≤ ratio * account.totalBalance := by
  rw [estimatedRatio, if_pos balance, DecimalContext.divide_exact, div_le_iff₀ balance]

/-- Without a positive balance an order passes the ratio gate only at a limit of 1. -/
theorem one_le_maxMarginUtilizationRatio {context : DecimalContext} {margin : ℚ}
    (balance : account.totalBalance ≤ 0)
    (passed : estimatedRatio context account margin ≤ config.maxMarginUtilizationRatio) :
    1 ≤ config.maxMarginUtilizationRatio := by
  rwa [estimatedRatio, if_neg (not_lt.mpr balance)] at passed

/-- The quantity that the position gate leaves is within the order limit. -/
theorem Judged.limited_bounds (judged : Judged engine marginEngine command account positions
    sensorSnapshot allowReduction limited approval) :
    0 < qty limited ∧ qty limited ≤ engine.config.maxOrderQty := by
  obtain ⟨-, positive, small, -⟩ := screen_spec judged.screen
  exact ⟨judged.isCut_command.qty_pos positive, judged.isCut_command.qty_le.trans small⟩

/-- With such a calculator the free margin pays for every approval. -/
theorem Judged.free (judged : Judged engine marginEngine command account positions
      sensorSnapshot allowReduction limited approval) (exact : engine.context = .exact)
    (falls : UnitMarginFalls engine.config marginEngine command) :
    approval.requiredMargin ≤ account.freeMargin := by
  obtain ⟨n_pos, n_le⟩ := judged.limited_bounds
  obtain ⟨n, rfl⟩ := judged.isCut_command.exists_replaceQty
  obtain ⟨-, paid, required, priced, margin⟩ := limitMargin_spec judged.margin
  rw [qty_replaceQty] at n_pos n_le margin
  rcases margin with ⟨enough, same⟩ | ⟨-, room, smaller, reduced⟩
  · rw [same, priced] at paid
    exact Except.ok.inj paid ▸ enough
  · obtain ⟨-, unit, floor⟩ := maxAffordableQty_eq room
    rw [exact, DecimalContext.divide_exact] at unit
    have lots : (0 : ℚ) < n := by exact_mod_cast n_pos
    have required_pos : 0 < required := (div_pos_iff_of_pos_right lots).mp unit
    rw [reduced, replaceQty_replaceQty] at paid
    have cheaper := falls _ n _ required room smaller n_le paid priced required_pos
    -- what is affordable at the average margin costs no more than the free margin
    have affordable : required * (maxAffordableQty engine.context account.freeMargin required n) ≤
        account.freeMargin * n := by
      rw [floor, exact, DecimalContext.divide_exact, DecimalContext.divide_exact, mul_comm,
        ← le_div_iff₀ required_pos, ← div_div_eq_mul_div]
      exact Int.floor_le _
    exact le_of_mul_le_mul_right (cheaper.trans affordable) lots

/-! ## What is needed -/

/-- An engine that divides exactly. -/
def exactEngine (config : RiskConfig) : RiskEngine := { config, context := .exact }

/-- A position of the other side, as large as the order. -/
def closedBy (instrumentKey : String) (command : C) : Option RiskPositionInput :=
  onePosition instrumentKey (if side command = "BUY" then "SELL" else "BUY") (qty command)

theorem limitPosition_closedBy (key : getInstrumentKey command = .ok instrumentKey)
    (positive : 0 < qty command) :
    limitPosition config command (closedBy instrumentKey command) allowReduction =
      .ok command := by
  have current : currentPosition instrumentKey (closedBy instrumentKey command) =
      some ⟨if side command = "BUY" then "SELL" else "BUY", qty command⟩ := by
    simp [currentPosition, closedBy, onePosition, Dict.get?]
  have opposite : (if side command = "BUY" then "SELL" else "BUY") ≠ side command := by
    split
    next buy => simp [buy]
    next other => exact fun same => other same.symm
  have named : (if side command = "BUY" then "SELL" else "BUY") ≠ "" := by split <;> decide
  have computed : calculateExpectedPosition command (closedBy instrumentKey command) =
      .ok ⟨instrumentKey, "FLAT", 0⟩ := by
    unfold calculateExpectedPosition
    rw [key]
    simp only [bind, Except.bind]
    rw [current]
    simp [positive.ne', opposite, named]
  unfold limitPosition
  rw [computed, attempt]
  exact if_neg (not_lt.mpr config.maxPositionPerInstrument_pos.le)

theorem screen_of_start (positive : 0 < qty command) (le : qty command ≤ config.maxOrderQty)
    (unharmed : account.realizedPnl = 0) :
    screen (exactEngine config) command account = .ok () := by
  have loss := config.maxDailyLossKrw_pos
  simp [screen, exactEngine, unharmed, not_le.mpr positive, not_lt.mpr le, not_le.mpr loss]

/-- On a part of the margin of an order, that part of its lots is affordable. -/
theorem maxAffordableQty_part {m n : ℤ} {large : ℚ} (positive : 0 < large) (m_pos : 0 < m)
    (n_pos : 0 < n) : maxAffordableQty .exact (large * m / n) large n = m := by
  have lots : (0 : ℚ) < n := by exact_mod_cast n_pos
  have quotient : large * m / n / (large / n) = m := by field_simp
  have whole : (0 : ℚ) ≤ m := by exact_mod_cast m_pos.le
  simp only [maxAffordableQty, truncate, DecimalContext.divide_exact, n_pos, if_true,
    div_pos positive lots, quotient, whole, Int.floor_intCast]

/-- An account with free margin for `m` of the `n` lots, at their average margin. -/
def partialAccount (config : RiskConfig) (m n : ℤ) (small large : ℚ) : RiskAccountInput :=
  ⟨|small| / config.maxMarginUtilizationRatio + 1, 0, 0, large * m / n⟩

/-- The order for `n` lots is approved with `m` of them. -/
theorem judged_part {m n : ℤ} {small large : ℚ}
    (key : getInstrumentKey command = .ok instrumentKey) (m_pos : 0 < m) (m_lt : m < n)
    (n_le : n ≤ config.maxOrderQty) (priced : marginEngine (replaceQty command m) = .ok small)
    (priced' : marginEngine (replaceQty command n) = .ok large) (positive : 0 < large) :
    let whole := replaceQty command n
    let account := partialAccount config m n small large
    Judged (exactEngine config) marginEngine whole account (closedBy instrumentKey whole)
      none true whole ⟨replaceQty command m, small, estimatedRatio .exact account small⟩ := by
  intro whole account
  have n_pos := m_pos.trans m_lt
  have ratio_pos := config.maxMarginUtilizationRatio_range.1
  have balance : 0 < account.totalBalance :=
    add_pos_of_nonneg_of_pos (div_nonneg (abs_nonneg small) ratio_pos.le) one_pos
  have size : qty whole = n := qty_replaceQty command n
  refine ⟨screen_of_start (size ▸ n_pos) (size ▸ n_le) rfl,
    limitPosition_closedBy ((getInstrumentKey_replaceQty command n).trans key) (size ▸ n_pos),
    ?_, ?_, fun _ none => nomatch none⟩
  · have lots : (0 : ℚ) < n := by exact_mod_cast n_pos
    have short : account.freeMargin < large := by
      change large * m / n < large
      rw [div_lt_iff₀ lots]
      exact mul_lt_mul_of_pos_left (by exact_mod_cast m_lt) positive
    have affordable : maxAffordableQty .exact account.freeMargin large n = m :=
      maxAffordableQty_part positive m_pos n_pos
    change limitMargin .exact marginEngine whole account true = _
    unfold limitMargin
    rw [priced', attempt]
    simp only [bind, Except.bind]
    rw [if_pos short, size, affordable, if_pos ⟨trivial, m_pos, m_lt⟩, replaceQty_replaceQty,
      priced, attempt]
  · rw [estimatedRatio_le_iff balance]
    change 0 + small ≤ config.maxMarginUtilizationRatio *
      (|small| / config.maxMarginUtilizationRatio + 1)
    rw [zero_add, mul_add, mul_div_cancel₀ _ ratio_pos.ne', mul_one]
    exact (le_abs_self small).trans (le_add_of_nonneg_right ratio_pos.le)

/-- An account without a balance, on which more than that is in use. -/
def emptyAccount (margin : ℚ) : RiskAccountInput := ⟨0, 0, 1 + |margin|, margin⟩

/-- On an empty balance an order is approved as it is when all of it may be used. -/
theorem judged_empty {n : ℤ} {margin : ℚ} (key : getInstrumentKey command = .ok instrumentKey)
    (n_pos : 0 < n) (n_le : n ≤ config.maxOrderQty)
    (priced : marginEngine (replaceQty command n) = .ok margin)
    (full : 1 ≤ config.maxMarginUtilizationRatio) :
    let whole := replaceQty command n
    let account := emptyAccount margin
    Judged (exactEngine config) marginEngine whole account (closedBy instrumentKey whole)
      none true whole ⟨whole, margin, estimatedRatio .exact account margin⟩ := by
  intro whole account
  have size : qty whole = n := qty_replaceQty command n
  refine ⟨screen_of_start (size ▸ n_pos) (size ▸ n_le) rfl,
    limitPosition_closedBy ((getInstrumentKey_replaceQty command n).trans key) (size ▸ n_pos),
    ?_, ?_, fun _ none => nomatch none⟩
  · unfold limitMargin
    rw [priced, attempt]
    exact if_neg (lt_irrefl margin)
  · change estimatedRatio .exact account margin ≤ config.maxMarginUtilizationRatio
    rwa [estimatedRatio, if_neg (show ¬0 < account.totalBalance from lt_irrefl 0)]

/-! ## Calculators and configurations -/

/-- On accounts of this kind everything that is approved of the command, at any quantity, is
covered. -/
def Covers (config : RiskConfig) (marginEngine : MarginCalculator C) (command : C)
    (kind : RiskAccountInput → Prop) : Prop :=
  ∀ (engine : RiskEngine) (seed : TokenSeed) (account : RiskAccountInput)
    (positions : Option RiskPositionInput) (sensorSnapshot : Option RiskSensorSnapshot)
    (allowReduction : Bool) (quantity n : ℤ), engine.config = config →
    engine.context = .exact → kind account →
    approvedQty? (engine.evaluateOrder marginEngine seed (replaceQty command quantity) account
      positions sensorSnapshot allowReduction) = some n →
    MarginCovered config marginEngine command account n

/-- What is approved has the margin that is reported. -/
theorem Judged.priced (judged : Judged engine marginEngine command account positions
    sensorSnapshot allowReduction limited approval) :
    marginEngine (replaceQty command (qty approval.effective)) = .ok approval.requiredMargin := by
  obtain ⟨n, effective⟩ := judged.exists_replaceQty
  have paid := (limitMargin_spec judged.margin).2.1
  rw [effective, qty_replaceQty, ← effective]
  exact paid

theorem Judged.key (judged : Judged engine marginEngine command account positions sensorSnapshot
    allowReduction limited approval) :
    ∃ instrumentKey, getInstrumentKey command = .ok instrumentKey := by
  obtain ⟨expected, computed, -⟩ := limitPosition_spec judged.position
  obtain ⟨instrumentKey, key, -⟩ := bind_eq_ok.mp computed
  exact ⟨instrumentKey, key⟩

/-- On a positive balance the account covers every approved quantity of a command that has an
instrument key exactly when the margin per lot does not rise as orders shrink. -/
theorem covers_positive_iff (config : RiskConfig) (marginEngine : MarginCalculator C)
    (command : C) :
    Covers config marginEngine command (fun account => 0 < account.totalBalance) ↔
      ((∃ instrumentKey, getInstrumentKey command = .ok instrumentKey) →
        UnitMarginFalls config marginEngine command) := by
  constructor
  · rintro covers ⟨instrumentKey, key⟩ m n small large m_pos m_lt n_le priced priced' positive
    by_contra rises
    have judged := judged_part key m_pos m_lt n_le priced priced' positive
    have balance : 0 < (partialAccount config m n small large).totalBalance :=
      add_pos_of_nonneg_of_pos
        (div_nonneg (abs_nonneg small) config.maxMarginUtilizationRatio_range.1.le) one_pos
    obtain ⟨margin, again, free, -⟩ := covers _ ⟨"", 0⟩ _ _ _ _ n _ rfl rfl balance
      (judged.approvedQty? ⟨"", 0⟩)
    rw [qty_replaceQty, priced] at again
    cases again
    have lots : (0 : ℚ) < n := by exact_mod_cast m_pos.trans m_lt
    exact rises ((le_div_iff₀ lots).mp free)
  · intro falls engine seed account positions sensorSnapshot allowReduction quantity n rfl exact
      balance approved
    obtain ⟨limited, approval, judged, rfl⟩ := judged_of_approved approved
    have falls' : UnitMarginFalls engine.config marginEngine (replaceQty command quantity) := by
      have := falls (getInstrumentKey_replaceQty command quantity ▸ judged.key)
      simpa only [UnitMarginFalls, replaceQty_replaceQty] using this
    refine ⟨approval.requiredMargin, ?_, judged.free exact falls', ?_⟩
    · rw [← replaceQty_replaceQty command quantity]
      exact judged.priced
    · rw [← estimatedRatio_le_iff balance, ← exact, ← (limitMargin_spec judged.margin).1]
      exact judged.ratio

/-- Without a positive balance nothing is approved unless all of the balance may be used, and
then too much is. -/
theorem covers_empty_iff (config : RiskConfig) (marginEngine : MarginCalculator C)
    (command : C) :
    Covers config marginEngine command (fun account => account.totalBalance ≤ 0) ↔
      ((∃ instrumentKey, getInstrumentKey command = .ok instrumentKey) →
        Priced config marginEngine command → config.maxMarginUtilizationRatio < 1) := by
  constructor
  · rintro covers ⟨instrumentKey, key⟩ ⟨n, margin, n_pos, n_le, priced⟩
    by_contra full
    have judged := judged_empty key n_pos n_le priced (not_lt.mp full)
    obtain ⟨margin', again, -, utilised⟩ := covers _ ⟨"", 0⟩ _ _ _ _ n _ rfl rfl le_rfl
      (judged.approvedQty? ⟨"", 0⟩)
    rw [qty_replaceQty, priced] at again
    cases again
    have used : 1 + |margin| + margin ≤ config.maxMarginUtilizationRatio * 0 := utilised
    have := neg_abs_le margin
    linarith
  · intro less engine seed account positions sensorSnapshot allowReduction quantity n rfl exact
      balance approved
    obtain ⟨limited, approval, judged, rfl⟩ := judged_of_approved approved
    have full := one_le_maxMarginUtilizationRatio balance
      ((limitMargin_spec judged.margin).1 ▸ judged.ratio)
    have priced : Priced engine.config marginEngine command := by
      obtain ⟨limited_pos, limited_le⟩ := judged.limited_bounds
      refine ⟨qty approval.effective, approval.requiredMargin, judged.qty_bounds.1,
        judged.isCut_limited.qty_le.trans limited_le, ?_⟩
      rw [← replaceQty_replaceQty command quantity]
      exact judged.priced
    exact absurd (less (getInstrumentKey_replaceQty command quantity ▸ judged.key) priced)
      (not_lt.mpr full)

/-- The calculators and configurations under which the accounts cover all that is approved of a
command: on positive balances those whose margin per lot does not rise when orders shrink, on
other balances those that do not let all of a balance be used. -/
theorem margin_covered_iff (config : RiskConfig) (marginEngine : MarginCalculator C)
    (command : C) :
    (Covers config marginEngine command (fun account => 0 < account.totalBalance) ↔
      ((∃ instrumentKey, getInstrumentKey command = .ok instrumentKey) →
        UnitMarginFalls config marginEngine command)) ∧
    (Covers config marginEngine command (fun account => account.totalBalance ≤ 0) ↔
      ((∃ instrumentKey, getInstrumentKey command = .ok instrumentKey) →
        Priced config marginEngine command → config.maxMarginUtilizationRatio < 1)) :=
  ⟨covers_positive_iff config marginEngine command, covers_empty_iff config marginEngine command⟩

/-- Ten lots at a fixed fee of 20 and 8 a lot cost 100 of a free margin of 55; the five that
are approved cost 60. With a limit of 1, a lot is approved on an empty balance. -/
theorem approvals_not_covered :
    let withFee : MarginCalculator Command := fun command => .ok (20 + 8 * |command.qty|)
    let ten : Command := { qty := 10, side := "BUY", instrumentKey := "K" }
    let one : Command := { qty := 1, side := "BUY", instrumentKey := "K" }
    let full : RiskConfig :=
      { RiskConfig.standard with
        maxMarginUtilizationRatio := 1
        maxMarginUtilizationRatio_range := by decide +kernel }
    (approvedQty? (evaluateOrder (exactEngine .standard) withFee ⟨"uuid", 0⟩ ten
        ⟨1000, 0, 0, 55⟩ none none true) = some 5 ∧
      ¬MarginCovered .standard withFee ten ⟨1000, 0, 0, 55⟩ 5) ∧
    (approvedQty? (evaluateOrder (exactEngine full) withFee ⟨"uuid", 0⟩ one
        ⟨0, 0, 0, 100⟩ none none false) = some 1 ∧
      ¬MarginCovered full withFee one ⟨0, 0, 0, 100⟩ 1) := by
  intro withFee ten one full
  refine ⟨⟨by decide +kernel, ?_⟩, ⟨by decide +kernel, ?_⟩⟩
  · rintro ⟨margin, priced, free, -⟩
    cases priced
    exact absurd free (by decide +kernel)
  · rintro ⟨margin, priced, -, utilised⟩
    cases priced
    exact absurd utilised (by decide +kernel)

end OptionProject.Risk.RiskEngine
