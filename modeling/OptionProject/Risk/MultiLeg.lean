import Mathlib.Data.List.Dedup
import OptionProject.Risk.Engine

/-!
# Admission of multi-leg orders

`core/risk/multi_leg_risk.py`: the legs of a plan go through the risk gate one by one, and are
collected under their client order ids; the first leg that is not admitted ends the call. What the
command factory answers, and the random ids of the tokens, are inputs for each leg. The gate is
kept with the commands that were submitted to it.

## Main definitions

* `admitMultiLegIntents` — the admission of a list of intents.
* `Admission` — what the loop does, as a relation.

## Main results

* `admitLegs_admission` — the loop does it.
* `admitMultiLegIntents_spec` — an approval is one-to-one with the intents, and nothing is
  submitted after a leg that is denied.
-/
namespace OptionProject.Risk
open Library Contracts RiskOrderCommand

/-- The approvals of the legs, by their client order ids. -/
structure MultiLegRiskApproval (C : Type) where
  groupId : String
  approvedQuantities : Dict String ℤ := .empty
  tokens : Dict String RiskApprovalToken := .empty
  reducedCommands : Dict String C := .empty

/-- The arguments of a call beside the intents and the gate. The factory may answer each of its
calls differently, and every evaluation has a random id and a time of its own. -/
structure AdmissionCall (C : Type) where
  account : RiskAccountInput
  positions : Option RiskPositionInput := none
  sensorSnapshot : Option RiskSensorSnapshot := none
  allowReduction : Bool := false
  commandFactory : ℕ → OrderIntent → Except Raised C
  seed : ℕ → RiskEngine.TokenSeed

/-- The gate, and the commands that were submitted to it. -/
structure SubmittedGate (C : Type) where
  gate : RiskGate C
  submitted : List C := []

def multiLegRiskError (message : String) : Raised := ⟨.multiLegRiskError, message⟩

/-- `reason or "ORDER_DENIED_BY_RISK"`. -/
def denialMessage (reason : Option String) : String :=
  if orEmpty reason = "" then "ORDER_DENIED_BY_RISK" else orEmpty reason

section Admission

variable {C : Type} [RiskOrderCommand C]

/-- The answer of the gate to a leg is checked and collected. Tokens are compared by their texts,
which differ when the tokens do. -/
def MultiLegRiskApproval.collect (self : MultiLegRiskApproval C) (intent : OrderIntent)
    (answer : Bool × Option RiskApprovalToken × Option String)
    (lastEvaluationResult : Option (RiskEvaluationResult C)) :
    Except Raised (MultiLegRiskApproval C) :=
  match answer, lastEvaluationResult with
  | (true, some token, _), some result =>
    if result.approvedQty ≤ 0 then .error (multiLegRiskError "APPROVED_QUANTITY_REQUIRED")
    else if result.token ≠ some token then
      .error (multiLegRiskError "RISK_TOKEN_PROVENANCE_MISMATCH")
    else
      let approved := { self with
        approvedQuantities := self.approvedQuantities.set intent.clientOrderId result.approvedQty
        tokens := self.tokens.set intent.clientOrderId token }
      if result.decision = .reduce then
        match result.reducedCommand with
        | some reduced =>
          if qty reduced ≠ result.approvedQty then
            .error (multiLegRiskError "REDUCED_QUANTITY_PROVENANCE_MISMATCH")
          else
            .ok { approved with
              reducedCommands := self.reducedCommands.set intent.clientOrderId reduced }
        | none => .error (multiLegRiskError "REDUCED_QUANTITY_PROVENANCE_MISMATCH")
      else .ok approved
  | (_, _, reason), _ => .error (multiLegRiskError (denialMessage reason))

/-- One round of the loop, for the leg at index `n`. -/
def admitLeg (call : AdmissionCall C) (n : ℕ) (intent : OrderIntent)
    (approval : MultiLegRiskApproval C) (desk : SubmittedGate C) :
    Outcome (SubmittedGate C) (MultiLegRiskApproval C) :=
  if intent.clientOrderId = "" then (.error (multiLegRiskError "CLIENT_ORDER_ID_REQUIRED"), desk)
  else
    match call.commandFactory n intent with
    | .error e => (.error e, desk)
    | .ok command =>
      if clientOrderId command ≠ intent.clientOrderId then
        (.error (multiLegRiskError "CLIENT_ORDER_ID_PROVENANCE_MISMATCH"), desk)
      else
        let (answered, gate) := desk.gate.admitOrder (call.seed n) command call.account
          call.positions call.sensorSnapshot call.allowReduction
        (do
          let answer ← answered
          approval.collect intent answer gate.lastEvaluationResult,
          ⟨gate, desk.submitted ++ [command]⟩)

def admitLegs (call : AdmissionCall C) (n : ℕ) (intents : List OrderIntent)
    (approval : MultiLegRiskApproval C) (desk : SubmittedGate C) :
    Outcome (SubmittedGate C) (MultiLegRiskApproval C) :=
  match intents with
  | [] => (.ok approval, desk)
  | intent :: later =>
    match admitLeg call n intent approval desk with
    | (.error e, desk) => (.error e, desk)
    | (.ok approval, desk) => admitLegs call (n + 1) later approval desk

def admitMultiLegIntents (call : AdmissionCall C) (intents : List OrderIntent)
    (gate : RiskGate C) : Outcome (SubmittedGate C) (MultiLegRiskApproval C) :=
  if intents = [] then (.error (multiLegRiskError "MULTI_LEG_INTENTS_REQUIRED"), ⟨gate, []⟩)
  else
    match (intents.map (·.groupId)).dedup with
    | [some groupId] =>
      match admitLegs call 0 intents { groupId } ⟨gate, []⟩ with
      | (.error e, desk) => (.error e, desk)
      | (.ok approval, desk) =>
        if approval.tokens.entries.length ≠ intents.length then
          (.error (multiLegRiskError "ALL_LEG_RISK_TOKENS_REQUIRED"), desk)
        else (.ok approval, desk)
    | _ => (.error (multiLegRiskError "SINGLE_GROUP_ID_REQUIRED"), ⟨gate, []⟩)

/-! ## What the loop does -/

/-- What the gate makes of a command that is submitted for the leg at index `n`. -/
def AdmissionCall.evaluate (call : AdmissionCall C) (gate : RiskGate C) (n : ℕ) (command : C) :
    Except Raised (RiskEvaluationResult C) :=
  gate.engine.evaluateOrder gate.marginEngine (call.seed n) command call.account call.positions
    call.sensorSnapshot call.allowReduction

/-- A leg with its command, its evaluation and its token. -/
structure AdmittedLeg (C : Type) where
  intent : OrderIntent
  command : C
  result : RiskEvaluationResult C
  token : RiskApprovalToken

variable (factory : ℕ → OrderIntent → Except Raised C)
  (evaluate : ℕ → C → Except Raised (RiskEvaluationResult C))

/-- The leg at index `n` is admitted. -/
structure AdmittedLeg.Admitted (n : ℕ) (leg : AdmittedLeg C) : Prop where
  identified : leg.intent.clientOrderId ≠ ""
  made : factory n leg.intent = .ok leg.command
  own : clientOrderId leg.command = leg.intent.clientOrderId
  evaluated : evaluate n leg.command = .ok leg.result
  approved : leg.result.isApproved = true
  issued : leg.result.token = some leg.token
  positive : 0 < leg.result.approvedQty
  reduced : leg.result.decision = .reduce →
    ∃ reduced, leg.result.reducedCommand = some reduced ∧ qty reduced = leg.result.approvedQty

/-- The reduced command of a leg that was decided REDUCE. -/
def AdmittedLeg.reducedCommand? (leg : AdmittedLeg C) : Option C :=
  if leg.result.decision = .reduce then leg.result.reducedCommand else none

def MultiLegRiskApproval.add (self : MultiLegRiskApproval C) (leg : AdmittedLeg C) :
    MultiLegRiskApproval C :=
  { self with
    approvedQuantities :=
      self.approvedQuantities.set leg.intent.clientOrderId leg.result.approvedQty
    tokens := self.tokens.set leg.intent.clientOrderId leg.token
    reducedCommands := leg.reducedCommand?.elim self.reducedCommands
      (self.reducedCommands.set leg.intent.clientOrderId ·) }

/-- A command that was submitted ends the call with the exception of its evaluation, or with the
reason if it was denied. -/
def Refuses (n : ℕ) (command : C) (e : Raised) : Prop :=
  (∀ e', evaluate n command = .error e' → e = e') ∧
    ∀ result, evaluate n command = .ok result → result.isApproved = false →
      e = multiLegRiskError (denialMessage result.rejectionReason)

/-- From an approval, the legs from index `n` on lead to the commands that are submitted and to
what the call returns or raises. -/
inductive Admission : ℕ → List OrderIntent → MultiLegRiskApproval C → List C →
    Except Raised (MultiLegRiskApproval C) → Prop
  | finished (n approval) : Admission n [] approval [] (.ok approval)
  | unsubmitted (n intent later approval e) : Admission n (intent :: later) approval [] (.error e)
  | refused {n intent command e} (later approval) (made : factory n intent = .ok command)
      (own : clientOrderId command = intent.clientOrderId)
      (refuses : Refuses evaluate n command e) :
      Admission n (intent :: later) approval [command] (.error e)
  | admitted {n leg later approval commands outcome} (admits : leg.Admitted factory evaluate n)
      (rest : Admission (n + 1) later (approval.add leg) commands outcome) :
      Admission n (leg.intent :: later) approval (leg.command :: commands) outcome

variable {factory evaluate}

theorem collect_cases {approval : MultiLegRiskApproval C} {intent : OrderIntent} {n : ℕ}
    {command : C} {result : RiskEvaluationResult C} (identified : intent.clientOrderId ≠ "")
    (made : factory n intent = .ok command) (own : clientOrderId command = intent.clientOrderId)
    (evaluated : evaluate n command = .ok result) {token : RiskApprovalToken}
    (approved : result.isApproved = true) (issued : result.token = some token) :
    (∃ e, approval.collect intent (true, some token, none) (some result) = .error e) ∨
      AdmittedLeg.Admitted factory evaluate n ⟨intent, command, result, token⟩ ∧
        approval.collect intent (true, some token, none) (some result) =
          .ok (approval.add ⟨intent, command, result, token⟩) := by
  unfold MultiLegRiskApproval.collect
  dsimp only
  split
  · exact .inl ⟨_, rfl⟩
  next positive =>
    split
    · exact .inl ⟨_, rfl⟩
    split
    next reduces =>
      cases there : result.reducedCommand with
      | none => exact .inl ⟨_, rfl⟩
      | some reduced =>
        dsimp only
        split
        · exact .inl ⟨_, rfl⟩
        next same =>
          refine .inr ⟨⟨identified, made, own, evaluated, approved, issued,
            lt_of_not_ge positive, fun _ => ⟨reduced, there, not_not.mp same⟩⟩, ?_⟩
          simp [MultiLegRiskApproval.add, AdmittedLeg.reducedCommand?, reduces, there]
    next keeps =>
      refine .inr ⟨⟨identified, made, own, evaluated, approved, issued,
        lt_of_not_ge positive, fun reduces => absurd reduces keeps⟩, ?_⟩
      simp [MultiLegRiskApproval.add, AdmittedLeg.reducedCommand?, keeps]

/-- What the gate answers to a command. -/
theorem admitOrder_cases (call : AdmissionCall C) (gate : RiskGate C) (n : ℕ) (command : C) :
    (∃ e, call.evaluate gate n command = .error e ∧
      gate.admitOrder (call.seed n) command call.account call.positions call.sensorSnapshot
        call.allowReduction = (.error e, gate)) ∨
    ∃ result answer, call.evaluate gate n command = .ok result ∧
      gate.admitOrder (call.seed n) command call.account call.positions call.sensorSnapshot
        call.allowReduction = (.ok answer, { gate with lastEvaluationResult := some result }) ∧
      (answer = (false, none, result.rejectionReason) ∨
        ∃ token, result.isApproved = true ∧ result.token = some token ∧
          answer = (true, some token, none)) := by
  unfold RiskGate.admitOrder AdmissionCall.evaluate
  cases gate.engine.evaluateOrder gate.marginEngine (call.seed n) command call.account
    call.positions call.sensorSnapshot call.allowReduction with
  | error e => exact .inl ⟨e, rfl, rfl⟩
  | ok result =>
    refine .inr ⟨result, ?_⟩
    dsimp only
    split
    next passed =>
      obtain ⟨token, issued⟩ := Option.isSome_iff_exists.mp passed.2
      exact ⟨_, rfl, rfl, .inr ⟨token, passed.1, issued, by rw [issued]⟩⟩
    next => exact ⟨_, rfl, rfl, .inl rfl⟩

theorem admitLeg_cases (call : AdmissionCall C) (n : ℕ) (intent : OrderIntent)
    (approval : MultiLegRiskApproval C) (desk : SubmittedGate C) :
    (∃ e, admitLeg call n intent approval desk = (.error e, desk)) ∨
    (∃ e command gate, call.commandFactory n intent = .ok command ∧
      clientOrderId command = intent.clientOrderId ∧
      Refuses (call.evaluate desk.gate) n command e ∧
      admitLeg call n intent approval desk = (.error e, ⟨gate, desk.submitted ++ [command]⟩)) ∨
    ∃ leg : AdmittedLeg C, leg.intent = intent ∧
      leg.Admitted call.commandFactory (call.evaluate desk.gate) n ∧
      admitLeg call n intent approval desk = (.ok (approval.add leg),
        ⟨{ desk.gate with lastEvaluationResult := some leg.result },
          desk.submitted ++ [leg.command]⟩) := by
  unfold admitLeg
  split
  · exact .inl ⟨_, rfl⟩
  next identified =>
    cases made : call.commandFactory n intent with
    | error e => exact .inl ⟨e, rfl⟩
    | ok command =>
      dsimp only
      split
      · exact .inl ⟨_, rfl⟩
      next own =>
        rw [not_not] at own
        rcases admitOrder_cases call desk.gate n command with
          ⟨e, evaluated, answered⟩ | ⟨result, answer, evaluated, answered, kind⟩
        · rw [answered]
          refine .inr (.inl ⟨e, command, desk.gate, rfl, own, ⟨?_, ?_⟩, rfl⟩)
          · exact fun e' raised => Except.error.inj (evaluated.symm.trans raised)
          · intro result returned
            cases evaluated.symm.trans returned
        rw [answered]
        have refused (e : Raised)
            (denied : result.isApproved = false →
              e = multiLegRiskError (denialMessage result.rejectionReason)) :
            Refuses (call.evaluate desk.gate) n command e := by
          refine ⟨fun e' raised => ?_, fun other returned => ?_⟩
          · cases evaluated.symm.trans raised
          · cases evaluated.symm.trans returned
            exact denied
        rcases kind with rfl | ⟨token, approved, issued, rfl⟩
        · exact .inr (.inl ⟨_, command, _, rfl, own, refused _ fun _ => rfl, rfl⟩)
        rcases collect_cases identified made own evaluated approved issued with
          ⟨e, failed⟩ | ⟨admitted, collected⟩
        · refine .inr (.inl ⟨e, command, _, rfl, own, refused e ?_, Prod.ext failed rfl⟩)
          intro denied
          cases denied.symm.trans approved
        · exact .inr (.inr ⟨_, rfl, admitted, Prod.ext collected rfl⟩)

theorem admitLegs_admission (call : AdmissionCall C) (n : ℕ) (intents : List OrderIntent)
    (approval : MultiLegRiskApproval C) (desk : SubmittedGate C) :
    ∃ commands, (admitLegs call n intents approval desk).2.submitted = desk.submitted ++ commands ∧
      Admission call.commandFactory (call.evaluate desk.gate) n intents approval commands
        (admitLegs call n intents approval desk).1 := by
  induction intents generalizing n approval desk with
  | nil => exact ⟨[], (List.append_nil _).symm, .finished n approval⟩
  | cons intent later ih =>
    unfold admitLegs
    rcases admitLeg_cases call n intent approval desk with
      ⟨e, ended⟩ | ⟨e, command, gate, made, own, refuses, ended⟩ | ⟨leg, rfl, admits, collected⟩
    · rw [ended]
      exact ⟨[], (List.append_nil _).symm, .unsubmitted n intent later approval e⟩
    · rw [ended]
      exact ⟨[command], rfl, .refused later approval made own refuses⟩
    · rw [collected]
      obtain ⟨commands, submitted, admission⟩ := ih (n + 1) (approval.add leg)
        ⟨{ desk.gate with lastEvaluationResult := some leg.result },
          desk.submitted ++ [leg.command]⟩
      exact ⟨leg.command :: commands, by simpa using submitted, .admitted admits admission⟩

/-! ## What the relation says -/

variable {n : ℕ} {intents : List OrderIntent} {approval after : MultiLegRiskApproval C}
  {commands : List C} {outcome : Except Raised (MultiLegRiskApproval C)}

/-- A call that returns has admitted every leg. -/
theorem Admission.legs
    (admission : Admission factory evaluate n intents approval commands (.ok after)) :
    ∃ legs : List (AdmittedLeg C), intents = legs.map (·.intent) ∧
      commands = legs.map (·.command) ∧ after = legs.foldl .add approval ∧
      ∀ (i : ℕ) leg, legs[i]? = some leg → leg.Admitted factory evaluate (n + i) := by
  generalize returned : Except.ok after = outcome at admission
  induction admission with
  | finished n approval =>
    cases returned
    exact ⟨[], rfl, rfl, rfl, by simp⟩
  | unsubmitted => cases returned
  | refused => cases returned
  | @admitted n leg later approval commands outcome admits rest ih =>
    obtain ⟨legs, rfl, rfl, rfl, admitted⟩ := ih returned
    refine ⟨leg :: legs, rfl, rfl, rfl, ?_⟩
    rintro (_ | i) other there
    · cases there
      exact admits
    · have := admitted i other there
      rwa [Nat.add_right_comm] at this

/-- A submitted command is that of its leg. If it is not approved, the call ends with it. -/
theorem Admission.submitted
    (admission : Admission factory evaluate n intents approval commands outcome) :
    ∀ (i : ℕ) command, commands[i]? = some command →
      (∃ intent, intents[i]? = some intent ∧ factory (n + i) intent = .ok command ∧
        clientOrderId command = intent.clientOrderId) ∧
      ((∃ result, evaluate (n + i) command = .ok result ∧ result.isApproved = true) ∨
        commands.length = i + 1 ∧
          ∃ e, outcome = .error e ∧ Refuses evaluate (n + i) command e) := by
  induction admission with
  | finished => simp
  | unsubmitted => simp
  | refused later approval made own refuses =>
    rintro (_ | i) command there
    · cases there
      exact ⟨⟨_, rfl, made, own⟩, .inr ⟨rfl, _, rfl, refuses⟩⟩
    · cases there
  | @admitted n leg later approval commands outcome admits rest ih =>
    rintro (_ | i) command there
    · cases there
      exact ⟨⟨_, rfl, admits.made, admits.own⟩, .inl ⟨_, admits.evaluated, admits.approved⟩⟩
    · obtain ⟨made, ends⟩ := ih i command there
      rw [Nat.add_right_comm] at made ends
      refine ⟨made, ends.imp_right fun last => ⟨?_, last.2⟩⟩
      rw [List.length_cons, last.1]

/-! ## The collected approvals -/

omit [RiskOrderCommand C] in
/-- The entries that the legs leave in the three dictionaries. -/
theorem foldl_add (legs : List (AdmittedLeg C)) (approval : MultiLegRiskApproval C) :
    legs.foldl .add approval =
      { groupId := approval.groupId
        approvedQuantities :=
          (legs.map fun leg => (leg.intent.clientOrderId, leg.result.approvedQty)).foldl
            (fun d entry => d.set entry.1 entry.2) approval.approvedQuantities
        tokens :=
          (legs.map fun leg => (leg.intent.clientOrderId, leg.token)).foldl
            (fun d entry => d.set entry.1 entry.2) approval.tokens
        reducedCommands :=
          (legs.filterMap fun leg =>
            leg.reducedCommand?.map (leg.intent.clientOrderId, ·)).foldl
              (fun d entry => d.set entry.1 entry.2) approval.reducedCommands } := by
  induction legs generalizing approval with
  | nil => rfl
  | cons leg legs ih =>
    rw [List.foldl_cons, ih]
    cases reduced : leg.reducedCommand? <;> simp [MultiLegRiskApproval.add, reduced]

/-- The approval has a quantity and a token for every intent, and for no other id. -/
structure OneToOne (call : AdmissionCall C) (gate : RiskGate C) (intents : List OrderIntent)
    (approval : MultiLegRiskApproval C) (submitted : List C) : Prop where
  nonempty : intents ≠ []
  group : ∀ intent ∈ intents, intent.groupId = some approval.groupId
  identified : "" ∉ intents.map (·.clientOrderId)
  distinct : (intents.map (·.clientOrderId)).Nodup
  quantities : approval.approvedQuantities.keys = intents.map (·.clientOrderId)
  tokens : approval.tokens.keys = intents.map (·.clientOrderId)
  reduced : approval.reducedCommands.keys ⊆ intents.map (·.clientOrderId)
  legs : ∀ (i : ℕ) intent, intents[i]? = some intent →
    ∃ leg : AdmittedLeg C, leg.intent = intent ∧ submitted[i]? = some leg.command ∧
      leg.Admitted call.commandFactory (call.evaluate gate) i ∧
      approval.approvedQuantities.get? intent.clientOrderId = some leg.result.approvedQty ∧
      approval.tokens.get? intent.clientOrderId = some leg.token ∧
      approval.reducedCommands.get? intent.clientOrderId = leg.reducedCommand?

/-- The commands are submitted in the order of the intents, and one that is denied or whose
evaluation raises ends the call. -/
structure StopsAtDenial (call : AdmissionCall C) (gate : RiskGate C) (intents : List OrderIntent)
    (submitted : List C) (outcome : Except Raised (MultiLegRiskApproval C)) : Prop where
  ordered : ∀ (i : ℕ) command, submitted[i]? = some command →
    ∃ intent, intents[i]? = some intent ∧ call.commandFactory i intent = .ok command ∧
      clientOrderId command = intent.clientOrderId
  denied : ∀ (i : ℕ) command result, submitted[i]? = some command →
    call.evaluate gate i command = .ok result → result.isApproved = false →
      submitted.length = i + 1 ∧
        outcome = .error (multiLegRiskError (denialMessage result.rejectionReason))
  raised : ∀ (i : ℕ) command e, submitted[i]? = some command →
    call.evaluate gate i command = .error e →
      submitted.length = i + 1 ∧ outcome = .error e

/-- A call that has admitted every leg may still raise. -/
theorem StopsAtDenial.of_ok {call : AdmissionCall C} {gate : RiskGate C}
    (stops : StopsAtDenial call gate intents commands (.ok approval)) (e : Raised) :
    StopsAtDenial call gate intents commands (.error e) := by
  refine ⟨stops.ordered, ?_, ?_⟩
  · intro i command result there evaluated denied
    cases (stops.denied i command result there evaluated denied).2
  · intro i command e there raised
    cases (stops.raised i command e there raised).2

theorem Admission.stopsAtDenial {call : AdmissionCall C} {gate : RiskGate C}
    (admission : Admission call.commandFactory (call.evaluate gate) 0 intents approval commands
      outcome) : StopsAtDenial call gate intents commands outcome := by
  refine ⟨?_, ?_, ?_⟩
  · intro i command there
    obtain ⟨made, -⟩ := admission.submitted i command there
    rwa [Nat.zero_add] at made
  · intro i command result there evaluated denied
    obtain ⟨-, ends⟩ := admission.submitted i command there
    rw [Nat.zero_add] at ends
    rcases ends with ⟨other, approved, passed⟩ | ⟨last, e, rfl, refuses⟩
    · cases approved.symm.trans evaluated
      cases passed.symm.trans denied
    · exact ⟨last, congrArg _ (refuses.2 result evaluated denied)⟩
  · intro i command e there raised
    obtain ⟨-, ends⟩ := admission.submitted i command there
    rw [Nat.zero_add] at ends
    rcases ends with ⟨other, approved, passed⟩ | ⟨last, e', rfl, refuses⟩
    · cases approved.symm.trans raised
    · exact ⟨last, congrArg _ (refuses.1 e raised)⟩

theorem Admission.oneToOne {call : AdmissionCall C} {gate : RiskGate C} {groupId : String}
    (admission : Admission call.commandFactory (call.evaluate gate) 0 intents { groupId } commands
      (.ok after)) (nonempty : intents ≠ [])
    (group : ∀ intent ∈ intents, intent.groupId = some groupId)
    (all : after.tokens.entries.length = intents.length) :
    OneToOne call gate intents after commands := by
  obtain ⟨legs, rfl, rfl, rfl, admitted⟩ := admission.legs
  simp only [Nat.zero_add] at admitted
  have collected : legs.foldl MultiLegRiskApproval.add { groupId } =
      ⟨groupId, .ofList (legs.map fun leg => (leg.intent.clientOrderId, leg.result.approvedQty)),
        .ofList (legs.map fun leg => (leg.intent.clientOrderId, leg.token)),
        .ofList (legs.filterMap fun leg =>
          leg.reducedCommand?.map (leg.intent.clientOrderId, ·))⟩ := foldl_add legs { groupId }
  rw [collected] at all ⊢
  have distinct : (legs.map (·.intent.clientOrderId)).Nodup := by
    have := Dict.nodup_of_length_ofList (all.trans (by simp))
    rwa [List.map_map] at this
  have entries {β : Type} (value : AdmittedLeg C → β) :
      (Dict.ofList (legs.map fun leg => (leg.intent.clientOrderId, value leg))).entries =
        legs.map fun leg => (leg.intent.clientOrderId, value leg) := by
    refine Dict.entries_ofList ?_
    rwa [List.map_map]
  have ids : (legs.map (·.intent)).map (·.clientOrderId) =
      legs.map (·.intent.clientOrderId) := List.map_map
  refine ⟨nonempty, group, ?_, ids ▸ distinct, ?_, ?_, ?_, ?_⟩
  · rw [ids]
    intro unnamed
    obtain ⟨leg, member, empty⟩ := List.mem_map.mp unnamed
    obtain ⟨i, there⟩ := List.mem_iff_getElem?.mp member
    exact (admitted i leg there).identified empty
  · rw [Dict.keys, entries, ids, List.map_map]
    rfl
  · rw [Dict.keys, entries, ids, List.map_map]
    rfl
  · rw [ids, Dict.keys, Dict.entries_ofList
      (distinct.sublist (Dict.map_fst_assigned_sublist _ _ legs))]
    exact (Dict.map_fst_assigned_sublist _ _ legs).subset
  · intro i intent there
    rw [List.getElem?_map, Option.map_eq_some_iff] at there
    obtain ⟨leg, there, rfl⟩ := there
    have member := List.mem_of_getElem? there
    refine ⟨leg, rfl, by rw [List.getElem?_map, there, Option.map_some], admitted i leg there,
      Dict.get?_of_mem ?_, Dict.get?_of_mem ?_, Dict.get?_ofList_assigned _ _ distinct member⟩
    · rw [entries]
      exact List.mem_map_of_mem member
    · rw [entries]
      exact List.mem_map_of_mem member

/-- If the admission returns, its approval is one-to-one with the intents; if it raises, there is
none. Either way nothing is submitted to the gate after the first leg that is denied. -/
theorem admitMultiLegIntents_spec (call : AdmissionCall C) (intents : List OrderIntent)
    (gate : RiskGate C) :
    (∀ approval, (admitMultiLegIntents call intents gate).1 = .ok approval →
      OneToOne call gate intents approval (admitMultiLegIntents call intents gate).2.submitted) ∧
    StopsAtDenial call gate intents (admitMultiLegIntents call intents gate).2.submitted
      (admitMultiLegIntents call intents gate).1 := by
  have silent (e : Raised) : StopsAtDenial call gate intents [] (.error e) := by
    refine ⟨?_, ?_, ?_⟩ <;> simp
  unfold admitMultiLegIntents
  split
  · exact ⟨nofun, silent _⟩
  next nonempty =>
    split
    next groupId groups =>
      have group (intent : OrderIntent) (member : intent ∈ intents) :
          intent.groupId = some groupId := by
        have inside : intent.groupId ∈ (intents.map (·.groupId)).dedup :=
          List.mem_dedup.mpr (List.mem_map_of_mem member)
        rw [groups] at inside
        exact List.mem_singleton.mp inside
      obtain ⟨commands, submitted, admission⟩ :=
        admitLegs_admission call 0 intents { groupId } ⟨gate, []⟩
      rw [List.nil_append] at submitted
      cases ended : admitLegs call 0 intents { groupId } ⟨gate, []⟩ with
      | mk outcome desk =>
        rw [ended] at submitted admission
        rw [← submitted] at admission
        have stops := admission.stopsAtDenial
        cases outcome with
        | error e => exact ⟨nofun, stops⟩
        | ok approval =>
          dsimp only
          split
          · exact ⟨nofun, stops.of_ok _⟩
          next all =>
            refine ⟨?_, stops⟩
            rintro _ ⟨⟩
            exact admission.oneToOne nonempty group (not_not.mp all)
    next => exact ⟨nofun, silent _⟩

/-- Of three legs the second is too large: the third is not submitted. -/
example :
    let intent (clientOrderId : String) (quantity : ℤ) : OrderIntent :=
      { clientOrderId, instrumentId := "I", side := "BUY", quantity, intentType := "ENTRY",
        groupId := some "G-2" }
    let call : AdmissionCall Command :=
      { account := ⟨100000, 0, 0, 100000⟩
        commandFactory := fun _ intent =>
          .ok { clientOrderId := intent.clientOrderId, qty := intent.quantity, side := intent.side,
                instrumentKey := intent.clientOrderId }
        seed := fun _ => ⟨"uuid", 0⟩ }
    let gate : RiskGate Command :=
      { engine := { config := .standard }, marginEngine := fun command => .ok (10 * command.qty) }
    let (outcome, desk) :=
      admitMultiLegIntents call [intent "O1" 1, intent "O2" 999, intent "O3" 1] gate
    outcome.toOption.isNone ∧ desk.submitted.map (·.clientOrderId) = ["O1", "O2"] := by
  decide +kernel

end Admission
end OptionProject.Risk
