import OptionProject.Risk.Engine

/-!
# What an approval means

Each gate has one lemma that says everything it lets through; an approval is taken apart by
them, and the results of a whole run of an engine are shown to be coherent.

## Main results

* `limitPosition_spec`, `limitMargin_spec`, `judge_spec` — what each gate lets through.
* `IsCut` — the order as it is, or with a smaller positive quantity.
* `coherent_after` — every result of every run is coherent.
-/
namespace OptionProject.Risk.RiskEngine
open Library Contracts RiskOrderCommand

variable {C : Type} [RiskOrderCommand C] {self : RiskEngine} {config : RiskConfig}
  {context : DecimalContext}
  {marginEngine : MarginCalculator C} {seed : TokenSeed} {command limited : C}
  {account : RiskAccountInput} {positions : Option RiskPositionInput}
  {sensorSnapshot : Option RiskSensorSnapshot} {allowReduction : Bool} {approval : Approval C}

/-! ## The expected position -/

/-- What is expected of an order on a position. -/
def expectedFrom (instrumentKey : String) (position : Option RiskPosition) (side : String)
    (n : ℤ) : ExpectedPosition :=
  match position with
  | none => ⟨instrumentKey, side, n⟩
  | some current =>
    if current.qty = 0 ∨ current.side = "" then ⟨instrumentKey, side, n⟩
    else if current.side = side then ⟨instrumentKey, current.side, current.qty + n⟩
    else if n < current.qty then ⟨instrumentKey, current.side, current.qty - n⟩
    else if n = current.qty then ⟨instrumentKey, "FLAT", 0⟩
    else ⟨instrumentKey, side, n - current.qty⟩

theorem calculateExpectedPosition_eq {instrumentKey : String}
    (key : getInstrumentKey command = .ok instrumentKey) (positions : Option RiskPositionInput) :
    calculateExpectedPosition command positions =
      .ok (expectedFrom instrumentKey (currentPosition instrumentKey positions) (side command)
        (qty command)) := by
  simp only [calculateExpectedPosition, key, bind, Except.bind, expectedFrom]
  cases currentPosition instrumentKey positions with
  | none => rfl
  | some current =>
    dsimp only
    split_ifs <;> rfl

theorem expectedFrom_instrumentKey (instrumentKey : String) (position : Option RiskPosition)
    (side : String) (n : ℤ) :
    (expectedFrom instrumentKey position side n).instrumentKey = instrumentKey := by
  unfold expectedFrom
  cases position with
  | none => rfl
  | some current =>
    dsimp only
    split_ifs <;> rfl

theorem calculateExpectedPosition_spec {expected : ExpectedPosition}
    (computed : calculateExpectedPosition command positions = .ok expected) :
    getInstrumentKey command = .ok expected.instrumentKey ∧
      expected = expectedFrom expected.instrumentKey
        (currentPosition expected.instrumentKey positions) (side command) (qty command) := by
  obtain ⟨instrumentKey, key, -⟩ := bind_eq_ok.mp computed
  rw [calculateExpectedPosition_eq key] at computed
  obtain rfl := Except.ok.inj computed
  rw [expectedFrom_instrumentKey]
  exact ⟨key, rfl⟩

/-! ## The gates -/

theorem screen_spec (passed : self.screen command account = .ok ()) :
    self.isKillSwitchActive = false ∧ 0 < qty command ∧ qty command ≤ self.config.maxOrderQty ∧
      self.dailyRealizedLoss + |min 0 account.realizedPnl| < self.config.maxDailyLossKrw := by
  obtain ⟨off, passed⟩ := ite_error_eq_ok.mp passed
  obtain ⟨positive, passed⟩ := ite_error_eq_ok.mp passed
  obtain ⟨small, passed⟩ := ite_error_eq_ok.mp passed
  obtain ⟨loss, -⟩ := ite_error_eq_ok.mp passed
  exact ⟨Bool.eq_false_iff.mpr off, not_le.mp positive, not_lt.mp small, not_le.mp loss⟩

/-- The capacity left in the instrument of an expected position. -/
def remainingCapacity (config : RiskConfig) (positions : Option RiskPositionInput)
    (instrumentKey : String) : ℤ :=
  config.maxPositionPerInstrument -
    ((currentPosition instrumentKey positions).map (·.qty)).getD 0

theorem limitPosition_spec
    (passed : limitPosition config command positions allowReduction = .ok limited) :
    ∃ expected, calculateExpectedPosition command positions = .ok expected ∧
      (expected.qty ≤ config.maxPositionPerInstrument ∧ limited = command ∨
        config.maxPositionPerInstrument < expected.qty ∧
        0 < remainingCapacity config positions expected.instrumentKey ∧
        remainingCapacity config positions expected.instrumentKey < qty command ∧
        limited =
          replaceQty command (remainingCapacity config positions expected.instrumentKey)) := by
  obtain ⟨expected, computed, passed⟩ := bind_eq_ok.mp passed
  refine ⟨expected, attempt_eq_ok.mp computed, ?_⟩
  by_cases above : config.maxPositionPerInstrument < expected.qty
  · rw [if_pos above] at passed
    dsimp only at passed
    split at passed
    next room =>
      exact .inr ⟨above, room.2.1, room.2.2, (Except.ok.inj passed).symm⟩
    next => cases passed
  · rw [if_neg above] at passed
    exact .inl ⟨not_lt.mp above, (Except.ok.inj passed).symm⟩

theorem limitMargin_spec
    (passed : limitMargin context marginEngine command account allowReduction = .ok approval) :
    approval.estimatedRatio = estimatedRatio context account approval.requiredMargin ∧
      marginEngine approval.effective = .ok approval.requiredMargin ∧
      ∃ requiredMargin, marginEngine command = .ok requiredMargin ∧
        (requiredMargin ≤ account.freeMargin ∧ approval.effective = command ∨
          account.freeMargin < requiredMargin ∧
          0 < maxAffordableQty context account.freeMargin requiredMargin (qty command) ∧
          maxAffordableQty context account.freeMargin requiredMargin (qty command) < qty command ∧
          approval.effective = replaceQty command
            (maxAffordableQty context account.freeMargin requiredMargin (qty command))) := by
  obtain ⟨requiredMargin, computed, passed⟩ := bind_eq_ok.mp passed
  rw [attempt_eq_ok] at computed
  by_cases short : account.freeMargin < requiredMargin
  · rw [if_pos short] at passed
    dsimp only at passed
    split at passed
    next room =>
      obtain ⟨reducedMargin, recomputed, passed⟩ := bind_eq_ok.mp passed
      cases passed
      exact ⟨rfl, attempt_eq_ok.mp recomputed, requiredMargin, computed,
        .inr ⟨short, room.2.1, room.2.2, rfl⟩⟩
    next => cases passed
  · rw [if_neg short] at passed
    cases passed
    exact ⟨rfl, computed, requiredMargin, computed, .inl ⟨not_lt.mp short, rfl⟩⟩

/-- Everything the gates say about an approval. -/
structure Judged (engine : RiskEngine) (marginEngine : MarginCalculator C) (command : C)
    (account : RiskAccountInput) (positions : Option RiskPositionInput)
    (sensorSnapshot : Option RiskSensorSnapshot) (allowReduction : Bool)
    (limited : C) (approval : Approval C) : Prop where
  screen : engine.screen command account = .ok ()
  position : limitPosition engine.config command positions allowReduction = .ok limited
  margin : limitMargin engine.context marginEngine limited account allowReduction = .ok approval
  ratio : approval.estimatedRatio ≤ engine.config.maxMarginUtilizationRatio
  diet : ∀ snapshot ∈ sensorSnapshot, snapshot.isMarginDietRequired = true →
    tagId approval.effective = "RISK_HEDGE"

theorem judge_spec
    (passed : self.judge marginEngine command account positions sensorSnapshot allowReduction =
      .ok approval) :
    ∃ limited, Judged self marginEngine command account positions sensorSnapshot allowReduction
      limited approval := by
  obtain ⟨_, screened, passed⟩ := bind_eq_ok.mp passed
  obtain ⟨limited, position, passed⟩ := bind_eq_ok.mp passed
  obtain ⟨approval', margin, passed⟩ := bind_eq_ok.mp passed
  obtain ⟨ratio, passed⟩ := ite_error_eq_ok.mp passed
  cases sensorSnapshot with
  | none =>
    cases passed
    exact ⟨limited, screened, position, margin, not_lt.mp ratio, by simp⟩
  | some snapshot =>
    obtain ⟨hedge, passed⟩ := ite_error_eq_ok.mp passed
    cases passed
    refine ⟨limited, screened, position, margin, not_lt.mp ratio, ?_⟩
    intro s mem diet
    obtain rfl : snapshot = s := Option.some.inj mem
    by_contra other
    exact hedge ⟨diet, other⟩

theorem Judged.judge (judged : Judged self marginEngine command account positions sensorSnapshot
      allowReduction limited approval) :
    self.judge marginEngine command account positions sensorSnapshot allowReduction =
      .ok approval := by
  unfold RiskEngine.judge
  rw [judged.screen, judged.position]
  simp only [bind, Except.bind]
  rw [judged.margin]
  dsimp only
  rw [if_neg (not_lt.mpr judged.ratio)]
  cases sensorSnapshot with
  | none => rfl
  | some snapshot => exact if_neg fun diet => diet.2 (judged.diet snapshot rfl diet.1)

/-- A result is an approval of the gates, or a denial. -/
theorem evaluateOrder_cases {result : RiskEvaluationResult C}
    (evaluated : self.evaluateOrder marginEngine seed command account positions sensorSnapshot
      allowReduction = .ok result) :
    (∃ limited approval, Judged self marginEngine command account positions sensorSnapshot
      allowReduction limited approval ∧ result = approvedResult seed command approval) ∨
    ∃ denial, result = deniedResult command denial := by
  unfold evaluateOrder at evaluated
  split at evaluated
  next approval passed =>
    obtain ⟨limited, judged⟩ := judge_spec passed
    exact .inl ⟨limited, approval, judged, (Except.ok.inj evaluated).symm⟩
  next denial _ => exact .inr ⟨denial, (Except.ok.inj evaluated).symm⟩
  next => cases evaluated

/-! ## What the gate answers -/

variable {gate : RiskGate C}

theorem admitOrder_of_approved
    (passed : gate.engine.judge gate.marginEngine command account positions sensorSnapshot
      allowReduction = .ok approval) :
    gate.admitOrder seed command account positions sensorSnapshot allowReduction =
      (.ok (true, some (approvalToken seed approval.effective), none),
        { gate with lastEvaluationResult := some (approvedResult seed command approval) }) := by
  simp [RiskGate.admitOrder, evaluateOrder, passed, approvedResult]

theorem admitOrder_of_denied {denial : Denial}
    (denied : gate.engine.judge gate.marginEngine command account positions sensorSnapshot
      allowReduction = .error (.denied denial)) :
    gate.admitOrder seed command account positions sensorSnapshot allowReduction =
      (.ok (false, none, some denial.reason),
        { gate with lastEvaluationResult := some (deniedResult command denial) }) := by
  simp [RiskGate.admitOrder, evaluateOrder, denied, deniedResult]

theorem admitOrder_of_raised {e : Raised}
    (raised : gate.engine.judge gate.marginEngine command account positions sensorSnapshot
      allowReduction = .error (.raised e)) :
    gate.admitOrder seed command account positions sensorSnapshot allowReduction =
      (.error e, gate) := by
  simp [RiskGate.admitOrder, evaluateOrder, raised]

/-! ## Reductions -/

/-- The order as it is, or with a smaller positive quantity. -/
def IsCut (command effective : C) : Prop :=
  effective = command ∨
    ∃ n, 0 < n ∧ n < qty command ∧ effective = replaceQty command n

theorem IsCut.trans {command limited effective : C} (first : IsCut command limited)
    (second : IsCut limited effective) : IsCut command effective := by
  rcases first with rfl | ⟨m, m_pos, m_lt, rfl⟩
  · exact second
  · rcases second with rfl | ⟨n, n_pos, n_lt, rfl⟩
    · exact .inr ⟨m, m_pos, m_lt, rfl⟩
    · rw [qty_replaceQty] at n_lt
      exact .inr ⟨n, n_pos, n_lt.trans m_lt, replaceQty_replaceQty command m n⟩

theorem IsCut.tagId {command effective : C} (cut : IsCut command effective) :
    tagId effective = RiskOrderCommand.tagId command := by
  rcases cut with rfl | ⟨n, -, -, rfl⟩
  · rfl
  · exact tagId_replaceQty command n

theorem IsCut.qty_le {command effective : C} (cut : IsCut command effective) :
    qty effective ≤ qty command := by
  rcases cut with rfl | ⟨n, -, smaller, rfl⟩
  · exact le_rfl
  · rw [qty_replaceQty]
    exact smaller.le

theorem Judged.isCut_limited (judged : Judged self marginEngine command account positions
    sensorSnapshot allowReduction limited approval) : IsCut limited approval.effective := by
  obtain ⟨-, -, requiredMargin, -, margin⟩ := limitMargin_spec judged.margin
  rcases margin with ⟨-, same⟩ | ⟨-, positive, smaller, reduced⟩
  · exact .inl same
  · exact .inr ⟨_, positive, smaller, reduced⟩

theorem Judged.isCut_command (judged : Judged self marginEngine command account positions
    sensorSnapshot allowReduction limited approval) : IsCut command limited := by
  obtain ⟨expected, -, position⟩ := limitPosition_spec judged.position
  rcases position with ⟨-, same⟩ | ⟨-, positive, smaller, reduced⟩
  · exact .inl same
  · exact .inr ⟨_, positive, smaller, reduced⟩

theorem Judged.isCut (judged : Judged self marginEngine command account positions sensorSnapshot
    allowReduction limited approval) : IsCut command approval.effective :=
  judged.isCut_command.trans judged.isCut_limited

theorem IsCut.clientOrderId {command effective : C} (cut : IsCut command effective) :
    clientOrderId effective = RiskOrderCommand.clientOrderId command := by
  rcases cut with rfl | ⟨n, -, -, rfl⟩
  · rfl
  · exact clientOrderId_replaceQty command n

/-- A cut differs from the order in its quantity only. -/
theorem IsCut.exists_replaceQty {command effective : C} (cut : IsCut command effective) :
    ∃ n, effective = replaceQty command n := by
  rcases cut with same | ⟨n, -, -, reduced⟩
  · exact ⟨qty command, by rw [same, replaceQty_qty]⟩
  · exact ⟨n, reduced⟩

theorem IsCut.qty_pos {command effective : C} (cut : IsCut command effective)
    (positive : 0 < qty command) : 0 < qty effective := by
  rcases cut with rfl | ⟨n, n_pos, -, rfl⟩
  · exact positive
  · rwa [qty_replaceQty]

/-- An approved order differs from the original one in its quantity only. -/
theorem Judged.exists_replaceQty (judged : Judged self marginEngine command account positions
    sensorSnapshot allowReduction limited approval) :
    ∃ n, approval.effective = replaceQty command n :=
  judged.isCut.exists_replaceQty

/-- An approved order has a positive quantity, no larger than the original one. -/
theorem Judged.qty_bounds (judged : Judged self marginEngine command account positions
    sensorSnapshot allowReduction limited approval) :
    0 < qty approval.effective ∧ qty approval.effective ≤ qty command :=
  ⟨judged.isCut.qty_pos (screen_spec judged.screen).2.1, judged.isCut.qty_le⟩

/-! ## Runs of an engine -/

/-- The arguments of one evaluation. -/
structure EvaluationRequest (C : Type) where
  marginEngine : MarginCalculator C
  seed : TokenSeed
  command : C
  account : RiskAccountInput
  positions : Option RiskPositionInput := none
  sensorSnapshot : Option RiskSensorSnapshot := none
  allowReduction : Bool := false

inductive EngineCall (C : Type)
  | triggerKillSwitch (reason : String)
  | resetKillSwitch
  | recordRealizedLoss (amount : ℚ)
  | evaluateOrder (request : EvaluationRequest C)

def evaluate (self : RiskEngine) (request : EvaluationRequest C) :
    Except Raised (RiskEvaluationResult C) :=
  self.evaluateOrder request.marginEngine request.seed request.command request.account
    request.positions request.sensorSnapshot request.allowReduction

/-- The engine after one call; an evaluation writes nothing. -/
def perform (self : RiskEngine) : EngineCall C → RiskEngine
  | .triggerKillSwitch _ => self.triggerKillSwitch
  | .resetKillSwitch => self.resetKillSwitch
  | .recordRealizedLoss amount => self.recordRealizedLoss amount
  | .evaluateOrder _ => self

def after (self : RiskEngine) (calls : List (EngineCall C)) : RiskEngine :=
  calls.foldl perform self

/-- A call's operation on the kill switch: on, off, or none. -/
def EngineCall.switch? : EngineCall C → Option Bool
  | .triggerKillSwitch _ => some true
  | .resetKillSwitch => some false
  | _ => none

/-- The last operation on the kill switch. -/
def lastSwitch (calls : List (EngineCall C)) : Option Bool :=
  (calls.filterMap EngineCall.switch?).getLast?

def EngineCall.loss? : EngineCall C → Option ℚ
  | .recordRealizedLoss amount => if amount < 0 then some |amount| else none
  | _ => none

/-- The absolute values of all negative amounts recorded. -/
def recordedLoss (calls : List (EngineCall C)) : ℚ := (calls.filterMap EngineCall.loss?).sum

omit [RiskOrderCommand C] in
theorem lastSwitch_append (calls : List (EngineCall C)) (call : EngineCall C) :
    lastSwitch (calls ++ [call]) = call.switch?.or (lastSwitch calls) := by
  cases operation : call.switch? <;> simp [lastSwitch, operation]

omit [RiskOrderCommand C] in
theorem recordedLoss_append (calls : List (EngineCall C)) (call : EngineCall C) :
    recordedLoss (calls ++ [call]) = recordedLoss calls + call.loss?.getD 0 := by
  cases loss : call.loss? <;> simp [recordedLoss, loss]

omit [RiskOrderCommand C] in
/-- The state of an engine is what its history says. -/
theorem after_eq (config : RiskConfig) (calls : List (EngineCall C)) :
    after { config } calls =
      { config
        isKillSwitchActive := lastSwitch calls == some true
        dailyRealizedLoss := recordedLoss calls } := by
  induction calls using List.reverseRecOn with
  | nil => rfl
  | append_singleton calls call ih =>
    have step : after { config } (calls ++ [call]) = (after { config } calls).perform call := by
      simp [after]
    rw [step, ih, lastSwitch_append, recordedLoss_append]
    cases call with
    | triggerKillSwitch reason =>
      simp [perform, triggerKillSwitch, EngineCall.switch?, EngineCall.loss?]
    | resetKillSwitch => simp [perform, resetKillSwitch, EngineCall.switch?, EngineCall.loss?]
    | evaluateOrder request => simp [perform, EngineCall.switch?, EngineCall.loss?]
    | recordRealizedLoss amount =>
      by_cases negative : amount < 0 <;>
        simp [perform, recordRealizedLoss, EngineCall.switch?, EngineCall.loss?, negative]

/-- What an approval guarantees after a history of calls. -/
structure Admitted (config : RiskConfig) (calls : List (EngineCall C))
    (request : EvaluationRequest C) (result : RiskEvaluationResult C) : Prop where
  switchedOff : lastSwitch calls ≠ some true
  approvedQty_pos : 0 < result.approvedQty
  approvedQty_le : result.approvedQty ≤ result.originalQty
  originalQty_le : result.originalQty ≤ config.maxOrderQty
  loss : recordedLoss calls + |min 0 request.account.realizedPnl| < config.maxDailyLossKrw
  ratio : result.estimatedMarginRatio ≤ config.maxMarginUtilizationRatio
  diet : ∀ snapshot ∈ request.sensorSnapshot, snapshot.isMarginDietRequired = true →
    tagId request.command = "RISK_HEDGE"
  token : result.token.isSome
  decision : result.decision =
    if result.approvedQty < result.originalQty then .reduce else .allow
  reducedCommand : result.reducedCommand =
    if result.approvedQty < result.originalQty then
      some (replaceQty request.command result.approvedQty) else none

/-- A coherent result: an approval with its guarantees, or an empty denial. -/
structure Coherent (config : RiskConfig) (calls : List (EngineCall C))
    (request : EvaluationRequest C) (result : RiskEvaluationResult C) : Prop where
  originalQty : result.originalQty = qty request.command
  approved : result.isApproved = true → Admitted config calls request result
  denied : result.isApproved = false → result.decision = .deny ∧ result.approvedQty = 0 ∧
    result.token = none ∧ result.reducedCommand = none

theorem Judged.admitted {calls : List (EngineCall C)} {request : EvaluationRequest C}
    (judged : Judged (after { config } calls) request.marginEngine request.command
      request.account request.positions request.sensorSnapshot request.allowReduction limited
      approval) :
    Admitted config calls request (approvedResult request.seed request.command approval) := by
  obtain ⟨off, -, small, loss⟩ := screen_spec judged.screen
  have cut := judged.isCut
  have sized := judged.qty_bounds
  have ratio := judged.ratio
  have diet := judged.diet
  rw [after_eq] at off small loss ratio
  rw [cut.tagId] at diet
  refine ⟨by simpa using off, sized.1, sized.2, small, loss, ratio, diet, rfl, ?_, ?_⟩
  · by_cases reduced : qty approval.effective < qty request.command <;>
      simp [approvedResult, reduced]
  · by_cases smaller : qty approval.effective < qty request.command
    · rcases cut with same | ⟨n, -, -, reduced⟩
      · exact absurd smaller (by rw [same]; exact lt_irrefl _)
      · simp only [approvedResult, smaller, if_true]
        rw [reduced, qty_replaceQty]
    · simp [approvedResult, smaller]

end OptionProject.Risk.RiskEngine
