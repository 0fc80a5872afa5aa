import OptionProject.Live.Submission

/-!
# One physical submission for an order

How often the transport is called for a client order id in a run of routing calls. The registry
that refuses duplicates is asked about the id of the identity that comes with a call, which
nothing compares with the id of the command.

## Main definitions

* `LiveRouting.NamedAlike` — the calls of one order carry identities of one id.

## Main results

* `LiveRouting.sentOnce_of_namedAlike` — then no order is sent twice.
* `LiveRouting.resent_under_any_other` — any two ids for one order let it be sent twice.
-/
namespace OptionProject.Live
open Library Contracts Oms

/-! ## What a call sends -/

namespace LiveBrokerAdapter

variable {broker : LiveBrokerAdapter} {command sent : BrokerOrderCommand}
  {identity : OrderIdentity} {accountAgeSeconds : ℚ} {answers : BrokerAnswers}

/-- All checks of the adapter pass, and this is the command for the transport. -/
structure Passes (broker : LiveBrokerAdapter) (command : BrokerOrderCommand)
    (identity : OrderIdentity) (accountAgeSeconds : ℚ) (answers : BrokerAnswers)
    (sent : BrokerOrderCommand) : Prop where
  connected : broker.connected = true
  unreserved : broker.idempotency.identities.get? identity.clientOrderId = none
  allowed : (broker.gate.evaluate command.quantity accountAgeSeconds).allowed = true
  mapped : broker.brokerCommand command answers.currentSymbol = .ok sent

theorem submit_of_passes (passes : Passes broker command identity accountAgeSeconds answers sent) :
    broker.submit command identity accountAgeSeconds answers =
      (answers.response,
        { broker with
          idempotency := (broker.idempotency.reserve identity).2
          submitted := broker.submitted ++ [sent] }) := by
  simp [submit, IdempotencyRegistry.reserve, passes.connected, passes.unreserved, passes.allowed,
    passes.mapped]

/-- There is no broker command for a futures command. -/
def Unmappable (broker : LiveBrokerAdapter) (command : BrokerOrderCommand)
    (currentSymbol : Except Raised String) : Prop :=
  command.assetType = some "FUTURES" ∧ (broker.hasFuturesCommandAdapter = false ∨
    ∃ raised, toBrokerCommand currentSymbol command = .error raised)

/-- A free id is reserved, and a check after that refuses the command. -/
structure RefusedLate (broker : LiveBrokerAdapter) (command : BrokerOrderCommand)
    (identity : OrderIdentity) (accountAgeSeconds : ℚ) (answers : BrokerAnswers) : Prop where
  connected : broker.connected = true
  unreserved : broker.idempotency.identities.get? identity.clientOrderId = none
  refused : (broker.gate.evaluate command.quantity accountAgeSeconds).allowed = false ∨
    broker.Unmappable command answers.currentSymbol

/-- The call stops at the connection or at an id that is reserved already. -/
def RefusedEarly (broker : LiveBrokerAdapter) (identity : OrderIdentity) : Prop :=
  broker.connected = false ∨
    ∃ fingerprint, broker.idempotency.identities.get? identity.clientOrderId = some fingerprint

theorem unmappable_iff {currentSymbol : Except Raised String} :
    broker.Unmappable command currentSymbol ↔
      ∃ raised, broker.brokerCommand command currentSymbol = .error raised := by
  unfold Unmappable brokerCommand
  by_cases futures : command.assetType = some "FUTURES"
  · cases broker.hasFuturesCommandAdapter <;> simp [futures]
  · simp [futures]

/-- A call passes, or it stops before the reservation or behind it. -/
theorem submit_cases (broker : LiveBrokerAdapter) (command : BrokerOrderCommand)
    (identity : OrderIdentity) (accountAgeSeconds : ℚ) (answers : BrokerAnswers) :
    (∃ sent, Passes broker command identity accountAgeSeconds answers sent) ∨
    (broker.RefusedEarly identity ∧ ∃ raised,
      broker.submit command identity accountAgeSeconds answers = (.error raised, broker)) ∨
    (RefusedLate broker command identity accountAgeSeconds answers ∧ ∃ raised,
      broker.submit command identity accountAgeSeconds answers = (.error raised,
        { broker with idempotency := (broker.idempotency.reserve identity).2 })) := by
  unfold submit
  cases connected : broker.connected with
  | false => exact .inr (.inl ⟨.inl connected, _, rfl⟩)
  | true =>
    unfold IdempotencyRegistry.reserve
    cases unreserved : broker.idempotency.identities.get? identity.clientOrderId with
    | some fingerprint => exact .inr (.inl ⟨.inr ⟨fingerprint, unreserved⟩, _, rfl⟩)
    | none =>
      cases allowed : (broker.gate.evaluate command.quantity accountAgeSeconds).allowed with
      | false =>
        let reason := (broker.gate.evaluate command.quantity accountAgeSeconds).reason
        exact .inr (.inr ⟨⟨connected, unreserved, .inl allowed⟩, runtimeError reason,
          by simp [allowed, reason]⟩)
      | true =>
        cases mapped : broker.brokerCommand command answers.currentSymbol with
        | error raised =>
          have unmappable := unmappable_iff.mpr ⟨raised, mapped⟩
          exact .inr (.inr ⟨⟨connected, unreserved, .inr unmappable⟩, raised, by simp [allowed]⟩)
        | ok sent => exact .inl ⟨sent, connected, unreserved, allowed, mapped⟩

/-- A call that is stopped sends nothing. -/
theorem submitted_of_not_passes
    (stopped : ∀ sent, ¬Passes broker command identity accountAgeSeconds answers sent) :
    (broker.submit command identity accountAgeSeconds answers).2.submitted =
      broker.submitted := by
  rcases submit_cases broker command identity accountAgeSeconds answers with
    ⟨sent, passes⟩ | ⟨-, raised, refused⟩ | ⟨-, raised, refused⟩
  · exact absurd passes (stopped sent)
  · rw [refused]
  · rw [refused]

theorem clientOrderId_toBrokerCommand {currentSymbol : Except Raised String}
    (mapped : toBrokerCommand currentSymbol command = .ok sent) :
    sent.clientOrderId = command.clientOrderId := by
  simp only [toBrokerCommand, ite_error_eq_ok, bind_eq_ok, Except.ok.injEq] at mapped
  obtain ⟨-, -, -, -, -, symbol, -, -, rfl⟩ := mapped
  rfl

/-- The mapping keeps the order id. -/
theorem clientOrderId_brokerCommand {currentSymbol : Except Raised String}
    (mapped : broker.brokerCommand command currentSymbol = .ok sent) :
    sent.clientOrderId = command.clientOrderId := by
  unfold brokerCommand at mapped
  split at mapped
  next =>
    split at mapped
    next => exact clientOrderId_toBrokerCommand mapped
    next => cases mapped
  next =>
    cases mapped
    rfl

theorem get?_reserve {registry : IdempotencyRegistry}
    (free : registry.identities.get? identity.clientOrderId = none) :
    (registry.reserve identity).2.identities.get? identity.clientOrderId =
      some (identity.strategyId ++ ":" ++ identity.intentFingerprint) := by
  simp [IdempotencyRegistry.reserve, free]

theorem reserved_reserve {registry : IdempotencyRegistry} {clientOrderId fingerprint : String}
    (reserved : registry.identities.get? clientOrderId = some fingerprint) :
    (registry.reserve identity).2.identities.get? clientOrderId = some fingerprint := by
  unfold IdempotencyRegistry.reserve
  cases free : registry.identities.get? identity.clientOrderId with
  | some _ => exact reserved
  | none =>
    have other : clientOrderId ≠ identity.clientOrderId := by
      rintro rfl
      cases free.symm.trans reserved
    rwa [← Dict.get?_set_of_ne _ (identity.strategyId ++ ":" ++ identity.intentFingerprint)
      other] at reserved

/-- What is reserved stays reserved. -/
theorem reserved_submit {clientOrderId fingerprint : String}
    (reserved : broker.idempotency.identities.get? clientOrderId = some fingerprint) :
    (broker.submit command identity accountAgeSeconds answers).2.idempotency.identities.get?
      clientOrderId = some fingerprint := by
  rcases submit_cases broker command identity accountAgeSeconds answers with
    ⟨sent, passes⟩ | ⟨-, raised, refused⟩ | ⟨-, raised, refused⟩
  · rw [submit_of_passes passes]
    exact reserved_reserve reserved
  · rwa [refused]
  · rw [refused]
    exact reserved_reserve reserved

end LiveBrokerAdapter

namespace LiveRouting

variable {now : LiveRouting} {call : RouteCall} {command sent : BrokerOrderCommand}

/-- The OMS takes the command, as a new intent or as one it knows. -/
def Registers (oms : OrderStateMachine) (command : BrokerOrderCommand) : Prop :=
  (intend oms command).1 = .ok () ∧
    ∃ state, ((intend oms command).2.registerBrokerOrderCommand command).1 = .ok state

/-- The call reaches the transport with the given command. -/
structure Sends (now : LiveRouting) (call : RouteCall) (command sent : BrokerOrderCommand) :
    Prop where
  given : call.command = some command
  approved : call.token.isSome = true
  registers : Registers now.oms command
  passes : LiveBrokerAdapter.Passes now.broker command call.identity call.accountAgeSeconds
    call.answers sent

@[simp] theorem broker_acknowledge (answer : Except Raised (Option BrokerOrderResponse)) :
    (now.acknowledge command answer).2.broker = now.broker := by
  unfold acknowledge
  split
  next => rfl
  next => rfl
  next response =>
    split
    next => rfl
    next =>
      split
      next => rfl
      next event _ => split <;> rfl

/-- A call asks the adapter once, or not at all. -/
theorem broker_registerAndRoute (now : LiveRouting) (call : RouteCall) :
    (∃ command, call.command = some command ∧ call.token.isSome = true ∧
      Registers now.oms command ∧
      (now.registerAndRoute call).2.broker =
        (now.broker.submit command call.identity call.accountAgeSeconds call.answers).2) ∨
    (∀ command, call.command = some command → call.token.isSome = true →
      ¬Registers now.oms command) ∧ (now.registerAndRoute call).2.broker = now.broker := by
  unfold registerAndRoute
  cases given : call.command with
  | none => exact .inr ⟨by simp, rfl⟩
  | some command =>
    cases token : call.token with
    | none => exact .inr ⟨by simp, rfl⟩
    | some token =>
      dsimp only
      cases intended : intend now.oms command with
      | mk answer oms =>
        cases answer with
        | error e => exact .inr ⟨by simp [Registers, intended], rfl⟩
        | ok _ =>
          cases registered : oms.registerBrokerOrderCommand command with
          | mk state oms' =>
            cases state with
            | error e => exact .inr ⟨by simp [Registers, intended, registered],
                by simp [submit, registered]⟩
            | ok state => exact .inl ⟨command, rfl, rfl, by simp [Registers, intended, registered],
                by simp [submit, registered]⟩

/-- The ids of the orders that the transport was called with. -/
def sentIds (now : LiveRouting) : List String := now.broker.submitted.map (·.clientOrderId)

theorem sentIds_of_sends (sends : Sends now call command sent) :
    (now.registerAndRoute call).2.sentIds = now.sentIds ++ [command.clientOrderId] ∧
      (now.registerAndRoute call).2.broker.idempotency =
        (now.broker.idempotency.reserve call.identity).2 := by
  rcases broker_registerAndRoute now call with
    ⟨command', given, -, -, asked⟩ | ⟨stopped, -⟩
  · obtain rfl : command' = command := Option.some.inj (given.symm.trans sends.given)
    rw [sentIds, asked, LiveBrokerAdapter.submit_of_passes sends.passes]
    simp [sentIds, LiveBrokerAdapter.clientOrderId_brokerCommand sends.passes.mapped]
  · exact absurd sends.registers (stopped command sends.given sends.approved)

theorem sentIds_of_not_sends (silent : ∀ command sent, ¬Sends now call command sent) :
    (now.registerAndRoute call).2.sentIds = now.sentIds := by
  rcases broker_registerAndRoute now call with
    ⟨command, given, approved, registers, asked⟩ | ⟨-, same⟩
  · rw [sentIds, asked, LiveBrokerAdapter.submitted_of_not_passes]
    · rfl
    · exact fun sent passes => silent command sent ⟨given, approved, registers, passes⟩
  · rw [sentIds, same, sentIds]

/-! ## Runs -/

/-- What happens to a live routing: calls of the router, and the operators' calls between. -/
inductive Move
  | route (call : RouteCall)
  | connect (authenticated : Bool)
  | approve (approval : LiveApproval)
  | revoke

def perform (now : LiveRouting) : Move → LiveRouting
  | .route call => (now.registerAndRoute call).2
  | .connect authenticated => { now with broker := now.broker.connect authenticated }
  | .approve approval =>
    { now with broker := { now.broker with gate := (now.broker.gate.approve approval).2 } }
  | .revoke => { now with broker := { now.broker with gate := now.broker.gate.revoke } }

def step (now : LiveRouting) (move : Move) : Option LiveRouting := some (now.perform move)

/-- The transport was called at most once for each order id. -/
def SentOnce (now : LiveRouting) : Prop := ∀ clientOrderId, now.sentIds.count clientOrderId ≤ 1

theorem sentOnce_iff_nodup : now.SentOnce ↔ now.sentIds.Nodup := List.nodup_iff_count_le_one.symm

/-- Which ids a move sends. -/
theorem sentIds_perform (now : LiveRouting) (move : Move) :
    (∃ call command sent, move = .route call ∧ Sends now call command sent ∧
      (now.perform move).sentIds = now.sentIds ++ [command.clientOrderId]) ∨
    (now.perform move).sentIds = now.sentIds := by
  cases move with
  | route call =>
    by_cases sends : ∃ command sent, Sends now call command sent
    · obtain ⟨command, sent, sends⟩ := sends
      exact .inl ⟨call, command, sent, rfl, sends, (sentIds_of_sends sends).1⟩
    · refine .inr (sentIds_of_not_sends fun command sent sends' => ?_)
      exact sends ⟨command, sent, sends'⟩
  | connect authenticated => exact .inr rfl
  | approve approval =>
    refine .inr ?_
    simp only [perform, sentIds]
  | revoke => exact .inr rfl

theorem stays_reserved {clientOrderId fingerprint : String} (move : Move)
    (found : now.broker.idempotency.identities.get? clientOrderId = some fingerprint) :
    (now.perform move).broker.idempotency.identities.get? clientOrderId = some fingerprint := by
  cases move with
  | route call =>
    rcases broker_registerAndRoute now call with ⟨command, -, -, -, asked⟩ | ⟨-, same⟩
    · rw [perform, asked]
      exact LiveBrokerAdapter.reserved_submit found
    · rwa [perform, same]
  | connect authenticated => exact found
  | approve approval => exact found
  | revoke => exact found

/-! ## Orders named alike -/

/-- Calls that route one order carry identities of one id. -/
def NamedAlike (moves : List Move) : Prop :=
  ∀ call call' command command', .route call ∈ moves → .route call' ∈ moves →
    call.command = some command → call'.command = some command' →
    command.clientOrderId = command'.clientOrderId →
    call.identity.clientOrderId = call'.identity.clientOrderId

/-- Every order sent so far was sent by a call whose identity is reserved. -/
def Reserved (moves : List Move) (now : LiveRouting) : Prop :=
  ∀ clientOrderId ∈ now.sentIds, ∃ call command fingerprint, .route call ∈ moves ∧
    call.command = some command ∧ command.clientOrderId = clientOrderId ∧
    now.broker.idempotency.identities.get? call.identity.clientOrderId = some fingerprint

variable {moves : List Move} {move : Move}

theorem reserved_perform (mem : move ∈ moves) (reserved : Reserved moves now) :
    Reserved moves (now.perform move) := by
  intro clientOrderId sentAfter
  have kept (old : clientOrderId ∈ now.sentIds) : ∃ call command fingerprint,
      .route call ∈ moves ∧ call.command = some command ∧
      command.clientOrderId = clientOrderId ∧ (now.perform move).broker.idempotency.identities.get?
        call.identity.clientOrderId = some fingerprint := by
    obtain ⟨call, command, fingerprint, made, given, named, found⟩ := reserved clientOrderId old
    exact ⟨call, command, fingerprint, made, given, named, stays_reserved move found⟩
  rcases sentIds_perform now move with ⟨call, command, sent, rfl, sends, ids⟩ | ids
  · rw [ids] at sentAfter
    rcases List.mem_append.mp sentAfter with old | new
    · exact kept old
    · have found := LiveBrokerAdapter.get?_reserve sends.passes.unreserved
      rw [← (sentIds_of_sends sends).2] at found
      exact ⟨call, command, _, mem, sends.given, (List.mem_singleton.mp new).symm, found⟩
  · exact kept (ids ▸ sentAfter)

/-- An order that was sent before is refused, for its identity is reserved. -/
theorem sentOnce_perform (alike : NamedAlike moves) (mem : move ∈ moves)
    (reserved : Reserved moves now) (once : now.SentOnce) : (now.perform move).SentOnce := by
  rcases sentIds_perform now move with ⟨call, command, sent, rfl, sends, ids⟩ | ids
  · have new : command.clientOrderId ∉ now.sentIds := by
      intro old
      obtain ⟨call', command', fingerprint, made, given, named, found⟩ := reserved _ old
      rw [alike call' call command' command made mem given sends.given named,
        sends.passes.unreserved] at found
      cases found
    rw [sentOnce_iff_nodup] at once ⊢
    rw [ids, ← List.concat_eq_append]
    exact once.concat new
  · rwa [SentOnce, ids]

/-- In every run whose calls name their orders alike, no order is ever sent twice. -/
theorem sentOnce_of_namedAlike (start : LiveRouting) (unsent : start.broker.submitted = [])
    (moves : List Move) (alike : NamedAlike moves) :
    ∀ now, Machine.Visits step start moves now → now.SentOnce := by
  have invariant : ∀ now, Machine.Visits step start moves now →
      now.SentOnce ∧ Reserved moves now := by
    refine @Machine.visits_invariant _ _ step start moves
      (fun now => now.SentOnce ∧ Reserved moves now) (fun _ move => move ∈ moves) ?_ ?_ ?_
    · simp [SentOnce, Reserved, sentIds, unsent]
    · rintro now move next ⟨once, reserved⟩ mem ⟨⟩
      exact ⟨sentOnce_perform alike mem reserved once, reserved_perform mem reserved⟩
    · exact fun now move taken => Machine.mem_of_takes taken
  exact fun now visited => (invariant now visited).1

/-- A connected adapter with an approval and limits. -/
def armed : LiveRouting where
  oms := .empty
  broker :=
    { gate :=
        { policy :=
            { killSwitch := false, maxOrderQuantity := 10, maxDailyLoss := 1000,
              maxPositionQuantity := 10 }
          approval := some ⟨"operator", "2026-09-06T09:00:00", "session"⟩ }
      idempotency := ⟨.empty⟩
      connected := true }

/-- A futures order of 2 under an identity of the given id, accepted by the broker. -/
def futuresCall (identityId : String) : RouteCall where
  command := some
    { clientOrderId := "ORD-1", instrumentId := "F-202612", side := "BUY", quantity := 2,
      orderType := "LIMIT", assetType := some "FUTURES" }
  token := some ⟨"uuid", 0, "SIG-RISK-APPROVED-Track1-ORD-1"⟩
  identity := ⟨identityId, "Track1", "fp-1"⟩
  accountAgeSeconds := 1
  answers :=
    { currentSymbol := .ok "101W12"
      response := .ok (some
        { clientOrderId := "ORD-1", accepted := true, brokerOrderId := some "B1" }) }

/-- A retry under the same identity is refused. -/
theorem sentOnce_retry :
    ∃ now, Machine.run step armed
        [.route (futuresCall "ORD-1"), .route (futuresCall "ORD-1")] = some now ∧
      now.sentIds = ["ORD-1"] ∧ now.SentOnce := by
  have alike : NamedAlike [.route (futuresCall "ORD-1"), .route (futuresCall "ORD-1")] := by
    intro call call' command command' made made' _ _ _
    simp only [List.mem_cons, Move.route.injEq, List.not_mem_nil, or_false, or_self] at made made'
    rw [made, made']
  refine ⟨_, rfl, by decide +kernel, ?_⟩
  exact sentOnce_of_namedAlike armed rfl _ alike _ ⟨_, List.prefix_rfl, rfl⟩

/-- The call that raised after it was sent is made again under another identity. -/
theorem resent_under_other_identity :
    let moves := [.route (futuresCall "ORD-1"), .route (futuresCall "ORD-1-RETRY")]
    ∃ now, Machine.Visits step armed moves now ∧ now.sentIds = ["ORD-1", "ORD-1"] ∧
      ¬now.SentOnce := by
  refine ⟨_, ⟨_, List.prefix_rfl, rfl⟩, by decide +kernel, fun once => ?_⟩
  exact absurd (once "ORD-1") (by decide +kernel)

/-- Whatever the two identities of an order are, it is sent under both. -/
theorem resent_under_any_other {a b : String} (other : a ≠ b) :
    ((armed.perform (.route (futuresCall a))).perform (.route (futuresCall b))).sentIds =
      ["ORD-1", "ORD-1"] := by
  have first : Sends armed (futuresCall a) _ _ :=
    ⟨rfl, rfl, ⟨rfl, _, rfl⟩, ⟨rfl, rfl, rfl, rfl⟩⟩
  have free : (armed.perform (.route (futuresCall a))).broker.idempotency.identities.get? b =
      none := by
    rw [perform, (sentIds_of_sends first).2]
    exact Dict.get?_set_of_ne .empty _ other.symm
  have second : Sends (armed.perform (.route (futuresCall a))) (futuresCall b) _ _ :=
    ⟨rfl, rfl, ⟨rfl, _, rfl⟩, ⟨rfl, free, rfl, rfl⟩⟩
  exact (sentIds_of_sends second).1.trans (congrArg (· ++ ["ORD-1"]) (sentIds_of_sends first).1)

end LiveRouting
end OptionProject.Live
