import OptionProject.Infrastructure.AuthTokens
import OptionProject.Library.Machine

/-!
# Histories of access tokens

A program asks for headers and is restarted, over one cache file, in any order. A restart makes the
manager anew from the settings and the file.

## Main definitions

* `Program.step` — a call or a restart.
* `Timed` — the clock does not go back along a history.

## Main results

* `restarts_unseen` — a program that is restarted anywhere answers and requests as one that never
  is.
* `requests_apart` — a token that is valid keeps the program from requesting another.
-/
namespace OptionProject.Infrastructure.Auth
open Library Library.Machine Contracts

structure Program where
  settings : Settings
  manager : KISAuthManager
  file : CacheFile

/-- A call and the reply to it. -/
structure Exchange where
  call : TokenCall
  reply : KISAuthManager.Reply (List (String × String))

inductive Move
  | call (call : TokenCall)
  | restart (now : ℚ)

def Move.isCall : Move → Bool
  | .call _ => true
  | .restart _ => false

section Histories

variable [UnicodeTable] [FloatText]

namespace Program

def start (settings : Settings) (file : CacheFile) (now : ℚ) : Except PythonException Program := do
  let manager ← KISAuthManager.init settings file now
  .ok { settings, manager, file }

def step (now : Program × List Exchange) : Move → Option (Program × List Exchange)
  | .call call =>
    match now.1.manager.getAuthHeaders now.1.file call with
    | (reply, manager, file) => some ({ now.1 with manager, file }, now.2 ++ [⟨call, reply⟩])
  | .restart time => (start now.1.settings now.1.file time).toOption.map fun next => (next, now.2)

end Program

/-- The clock readings of the moves, from the time `now` on. -/
def Timed (now : ℚ) : List Move → Prop
  | [] => True
  | .call call :: later => now ≤ call.asked ∧ call.asked ≤ call.answered ∧ Timed call.answered later
  | .restart time :: later => now ≤ time ∧ Timed time later

/-- Each token that is issued is written to the file. -/
def Saves (moves : List Move) : Prop := ∀ call, .call call ∈ moves → call.saving = .written

/-- Programs of the same settings and file that would use the same token from the time `now` on,
and it is the token that the file would give. -/
structure Alike (now : ℚ) (p p' : Program) : Prop where
  settings : p'.settings = p.settings
  cached : orEmpty p.settings.cacheFilePath ≠ ""
  manager : p.manager = p.settings.manager p.manager.currentToken
  manager' : p'.manager = p.settings.manager p'.manager.currentToken
  file : p'.file = p.file
  usable : ∀ later, now ≤ later → p.manager.usable later = p'.manager.usable later
  saved : ∀ later, now ≤ later →
    (p.file.load later).map (·.map KISAuthToken.kept) = .ok (p.manager.usable later)

theorem Alike.refl_of {now : ℚ} {p p' : Program} (alike : Alike now p p') : Alike now p p where
  settings := rfl
  cached := alike.cached
  manager := alike.manager
  manager' := alike.manager
  file := rfl
  usable _ _ := rfl
  saved := alike.saved

/-- A start finds the file readable, and uses the token of the file from then on. -/
theorem alike_start {settings : Settings} {file : CacheFile} {now : ℚ} {p : Program}
    (cached : orEmpty settings.cacheFilePath ≠ "")
    (started : Program.start settings file now = .ok p) : Alike now p p := by
  obtain ⟨manager, made, rest⟩ := bind_eq_ok.mp started
  cases rest
  simp only [KISAuthManager.init, if_neg cached] at made
  obtain ⟨currentToken, loaded, rest⟩ := bind_eq_ok.mp made
  cases rest
  refine ⟨rfl, cached, rfl, rfl, rfl, fun _ _ => rfl, fun later le => ?_⟩
  exact CacheFile.load_later le loaded

theorem alike_restart {now time : ℚ} {p p' : Program} (alike : Alike now p p') (le : now ≤ time) :
    ∃ next, Program.start p.settings p.file time = .ok next ∧ Alike time next p' := by
  have saved := alike.saved time le
  cases loaded : p.file.load time with
  | error e => rw [loaded] at saved; cases saved
  | ok found =>
    have started : Program.start p.settings p.file time =
        .ok ⟨p.settings, p.settings.manager found, p.file⟩ := by
      simp [Program.start, KISAuthManager.init, if_neg alike.cached, loaded, bind, Except.bind]
    refine ⟨_, started, ?_⟩
    have next := alike_start alike.cached started
    have same (later : ℚ) (le' : time ≤ later) :
        (p.settings.manager found).usable later = p.manager.usable later :=
      Except.ok.inj ((next.saved later le').symm.trans (alike.saved later (le.trans le')))
    exact
      { settings := alike.settings
        cached := alike.cached
        manager := rfl
        manager' := alike.manager'
        file := alike.file
        usable later le' := (same later le').trans (alike.usable later (le.trans le'))
        saved := next.saved }

theorem Alike.of_le {now later : ℚ} {p p' : Program} (alike : Alike now p p') (le : now ≤ later) :
    Alike later p p' :=
  { alike with
    usable := fun time le' => alike.usable time (le.trans le')
    saved := fun time le' => alike.saved time (le.trans le') }

/-- A token that was issued and saved is used alike. -/
theorem alike_issued {settings : Settings} (current : Option KISAuthToken) (token : KISAuthToken)
    (now : ℚ) (cached : orEmpty settings.cacheFilePath ≠ "") (file : CacheFile) :
    Alike now
      ⟨settings, settings.manager (some token),
        (settings.manager current).saveTokenToCache token .written file⟩
      ⟨settings, settings.manager (some token),
        (settings.manager current).saveTokenToCache token .written file⟩ := by
  refine ⟨rfl, cached, rfl, rfl, rfl, fun _ _ => rfl, fun later _ => ?_⟩
  have saved : (settings.manager current).saveTokenToCache token .written file =
      .holds (.object token.asdict) := if_neg cached
  rw [saved, CacheFile.load_asdict]
  rfl

/-- Both reply the same to a call, and are alike after it. -/
theorem alike_call {now : ℚ} {p p' : Program} {call : TokenCall} (alike : Alike now p p')
    (asked : now ≤ call.asked) (answered : call.asked ≤ call.answered)
    (written : call.saving = .written) :
    ∃ reply next next', Alike call.answered next next' ∧
      (∀ earlier, Program.step (p, earlier) (.call call) =
        some (next, earlier ++ [⟨call, reply⟩])) ∧
      ∀ earlier, Program.step (p', earlier) (.call call) =
        some (next', earlier ++ [⟨call, reply⟩]) := by
  obtain ⟨settings, manager, file⟩ := p
  obtain ⟨settings', manager', file'⟩ := p'
  have later := alike.of_le (asked.trans answered)
  obtain ⟨rfl, cached, made, made', rfl, usable, -⟩ := alike
  obtain ⟨current, rfl⟩ : ∃ current, manager = settings'.manager current := ⟨_, made⟩
  obtain ⟨current', rfl⟩ : ∃ current, manager' = settings'.manager current := ⟨_, made'⟩
  obtain ⟨same, -⟩ := @KISAuthManager.getAuthHeaders_alike _ _ file' call settings' current current'
    (usable _ asked) (usable _ (asked.trans answered))
  obtain ⟨reply, -, effect⟩ := (settings'.manager current).getAuthHeaders_cases file' call
  obtain ⟨reply', -, effect'⟩ := (settings'.manager current').getAuthHeaders_cases file' call
  rcases effect with ⟨issued, eq⟩ | ⟨token, issued, eq⟩ <;>
    rcases effect' with ⟨issued', eq'⟩ | ⟨token', issued', eq'⟩ <;>
    (rw [eq, eq'] at same; obtain rfl : reply = reply' := same)
  · exact ⟨reply, _, _, later, by simp [Program.step, eq], by simp [Program.step, eq']⟩
  · rw [issued] at issued'
    cases issued'
  · rw [issued'] at issued
    cases issued
  · obtain rfl : token = token' := by simpa [issued] using issued'
    rw [written] at eq eq'
    refine ⟨reply, _, _, alike_issued current token _ cached file', fun earlier => ?_,
      fun earlier => ?_⟩
    · rw [Program.step, eq]
      rfl
    · rw [Program.step, eq']
      rfl

/-- Alike programs, of which only one is restarted, reply the same to all calls. -/
theorem run_alike {now : ℚ} {p p' : Program} {moves : List Move} (earlier : List Exchange)
    (alike : Alike now p p') (timed : Timed now moves) (saves : Saves moves) :
    ∃ after plain, run Program.step (p, earlier) moves = some after ∧
      run Program.step (p', earlier) (moves.filter Move.isCall) = some plain ∧
      after.2 = plain.2 ∧ after.1.file = plain.1.file := by
  induction moves generalizing now p p' earlier with
  | nil => exact ⟨_, _, rfl, rfl, rfl, alike.file.symm⟩
  | cons move moves ih =>
    have rest : Saves moves := fun call member => saves call (.tail _ member)
    cases move with
    | call call =>
      obtain ⟨asked, answered, timed⟩ := timed
      obtain ⟨reply, next, next', alike, moved, moved'⟩ :=
        alike_call alike asked answered (saves call (.head _))
      obtain ⟨after, plain, ran, ran', same⟩ := ih (earlier ++ [⟨call, reply⟩]) alike timed rest
      exact ⟨after, plain, run_cons.mpr ⟨_, moved earlier, ran⟩,
        run_cons.mpr ⟨_, moved' earlier, ran'⟩, same⟩
    | restart time =>
      obtain ⟨le, timed⟩ := timed
      obtain ⟨next, started, alike⟩ := alike_restart alike le
      obtain ⟨after, plain, ran, ran', same⟩ := ih earlier alike timed rest
      refine ⟨after, plain, run_cons.mpr ⟨(next, earlier), ?_, ran⟩, ran', same⟩
      simp [Program.step, started, Except.toOption]

/-- A program that is restarted any number of times is not told from one that never is: every call
gets the same reply and sends the same requests, and the file holds the same. -/
theorem restarts_unseen {settings : Settings} {file : CacheFile} {now : ℚ} {p : Program}
    {moves : List Move} (cached : orEmpty settings.cacheFilePath ≠ "")
    (started : Program.start settings file now = .ok p) (timed : Timed now moves)
    (saves : Saves moves) :
    ∃ after plain, run Program.step (p, []) moves = some after ∧
      run Program.step (p, []) (moves.filter Move.isCall) = some plain ∧
      after.2 = plain.2 ∧ after.1.file = plain.1.file :=
  run_alike [] (alike_start cached started) timed saves

end Histories

def daySettings : Settings :=
  { appKey := "key", appSecret := "secret", baseUrl := vtsBaseUrl, cacheFilePath := some "cache" }

/-- A token of one day, a restart, and a call that finds it in the file. -/
def dayOfCalls : List Move :=
  [.call
      { asked := 1
        answered := 2
        answer := .body
          (.object [("access_token", .string "issued"), ("expires_in", .integer 86400)])
        saving := .written },
    .restart 3600,
    .call
      { asked := 3601
        answered := 3602
        answer := .urlError "unreachable"
        saving := .written }]

theorem restarts_unseen_day :
    letI : UnicodeTable := ⟨fun _ => true⟩
    letI : FloatText := timeTexts
    ∃ after plain,
      run Program.step (⟨daySettings, daySettings.manager none, .absent⟩, []) dayOfCalls =
        some after ∧
      run Program.step (⟨daySettings, daySettings.manager none, .absent⟩, [])
        (dayOfCalls.filter Move.isCall) = some plain ∧
      after.2 = plain.2 ∧ after.1.file = plain.1.file :=
  let : UnicodeTable := ⟨fun _ => true⟩
  let : FloatText := timeTexts
  @restarts_unseen _ _ daySettings .absent 0 _ dayOfCalls (by decide) rfl
    (by norm_num [Timed, dayOfCalls]) (by simp [Saves, dayOfCalls])

/-! ## Requests -/

section Requests

variable [UnicodeTable] [FloatText]

/-- The later call sends no request while the token of the earlier one is valid. -/
def Apart (earlier later : Exchange) : Prop :=
  ∀ token ∈ earlier.reply.issued, later.reply.requests ≠ [] →
    token.isValid later.call.asked = false

/-- From the time `now` on, a valid token that was issued before keeps calls from requesting. -/
structure Spared (now : ℚ) (p : Program) (exchanges : List Exchange) : Prop where
  alike : Alike now p p
  apart : exchanges.Pairwise Apart
  covered : ∀ exchange ∈ exchanges, ∀ token ∈ exchange.reply.issued, ∀ later, now ≤ later →
    token.isValid later = true → (p.manager.usable later).isSome

theorem Spared.call {now : ℚ} {p next : Program} {exchanges after : List Exchange}
    {call : TokenCall} (spared : Spared now p exchanges) (asked : now ≤ call.asked)
    (answered : call.asked ≤ call.answered) (written : call.saving = .written)
    (unforced : call.forceRefresh = false)
    (moved : Program.step (p, exchanges) (.call call) = some (next, after)) :
    Spared call.answered next after := by
  obtain ⟨settings, manager, file⟩ := p
  obtain ⟨alike, apart, covered⟩ := spared
  obtain ⟨_, next', _, alike', there, there'⟩ := alike_call alike asked answered written
  obtain ⟨rfl, -⟩ := Prod.mk.inj (Option.some.inj ((there exchanges).symm.trans moved))
  obtain ⟨reply, asks, effect⟩ := manager.getAuthHeaders_cases file call
  -- a request is sent where no token is valid, so none that was issued before is
  have lapsed (requests : reply.requests ≠ [] ∨ reply.issued ≠ []) (exchange : Exchange)
      (member : exchange ∈ exchanges) (token : KISAuthToken)
      (issued : token ∈ exchange.reply.issued) : token.isValid call.asked = false := by
    have none : manager.validToken call.asked = none := by grind
    have some := covered exchange member token issued call.asked asked
    rw [← Option.not_isNone, KISAuthManager.isNone_usable] at some
    simpa [none] using some
  have apart' : List.Pairwise Apart (exchanges ++ [⟨call, reply⟩]) := by
    refine List.pairwise_append.mpr ⟨apart, List.pairwise_singleton _ _, ?_⟩
    intro exchange member last is token issued requests
    obtain rfl := List.mem_singleton.mp is
    exact lapsed (.inl requests) exchange member token issued
  have later := asked.trans answered
  rcases effect with ⟨issued, eq⟩ | ⟨token, issued, eq⟩ <;>
    (simp only [Program.step, eq, Option.some.injEq, Prod.mk.injEq] at moved
     obtain ⟨rfl, rfl⟩ := moved)
  · refine ⟨alike'.refl_of, apart', fun exchange member token there time le => ?_⟩
    rcases List.mem_append.mp member with before | last
    · exact covered exchange before token there time (later.trans le)
    · obtain rfl := List.mem_singleton.mp last
      simp [issued] at there
  · refine ⟨alike'.refl_of, apart', fun exchange member token' there time le valid => ?_⟩
    rcases List.mem_append.mp member with before | last
    · have := lapsed (.inr (by simp [issued])) exchange before token' there
      have := KISAuthToken.isValid_of_le (answered.trans le) valid
      simp_all
    · obtain rfl := List.mem_singleton.mp last
      obtain rfl : token' = token := by simpa [issued] using there
      simp [KISAuthManager.usable, KISAuthManager.validToken, Option.filter, valid]

theorem Spared.restart {now time : ℚ} {p next : Program} {exchanges after : List Exchange}
    (spared : Spared now p exchanges) (le : now ≤ time)
    (moved : Program.step (p, exchanges) (.restart time) = some (next, after)) :
    Spared time next after := by
  obtain ⟨alike, apart, covered⟩ := spared
  obtain ⟨next', started, alike'⟩ := alike_restart alike le
  simp only [Program.step, started, Except.toOption, Option.map_some, Option.some.injEq,
    Prod.mk.injEq] at moved
  obtain ⟨rfl, rfl⟩ := moved
  refine ⟨alike'.refl_of, apart, fun exchange member token issued later le' valid => ?_⟩
  rw [alike'.usable later le']
  exact covered exchange member token issued later (le.trans le') valid

theorem Spared.run {now : ℚ} {p : Program} {moves : List Move} {exchanges : List Exchange}
    {after : Program × List Exchange} (spared : Spared now p exchanges) (timed : Timed now moves)
    (saves : Saves moves) (unforced : ∀ call, .call call ∈ moves → call.forceRefresh = false)
    (ran : run Program.step (p, exchanges) moves = some after) : after.2.Pairwise Apart := by
  induction moves generalizing now p exchanges with
  | nil =>
    cases ran
    exact spared.apart
  | cons move moves ih =>
    obtain ⟨⟨next, exchanges'⟩, moved, rest⟩ := run_cons.mp ran
    have saves' : Saves moves := fun call member => saves call (.tail _ member)
    have unforced' := fun call member => unforced call (.tail _ member)
    cases move with
    | call call =>
      obtain ⟨asked, answered, timed⟩ := timed
      have spared' : Spared call.answered next exchanges' :=
        spared.call asked answered (saves call (.head _)) (unforced call (.head _)) moved
      exact ih spared' timed saves' unforced' rest
    | restart time =>
      obtain ⟨le, timed⟩ := timed
      have spared' : Spared time next exchanges' := spared.restart le moved
      exact ih spared' timed saves' unforced' rest

/-- A history without forced refreshes, restarted anywhere, is possible, and no call of it requests
a token while one that the program was issued before is valid. -/
theorem requests_apart {settings : Settings} {file : CacheFile} {now : ℚ} {p : Program}
    {moves : List Move} (cached : orEmpty settings.cacheFilePath ≠ "")
    (started : Program.start settings file now = .ok p) (timed : Timed now moves)
    (saves : Saves moves) (unforced : ∀ call, .call call ∈ moves → call.forceRefresh = false) :
    ∃ after, run Program.step (p, []) moves = some after ∧ after.2.Pairwise Apart := by
  obtain ⟨after, -, ran, -⟩ := restarts_unseen cached started timed saves
  refine ⟨after, ran, ?_⟩
  exact Spared.run ⟨alike_start cached started, .nil, by simp⟩ timed saves unforced ran

end Requests

theorem requests_apart_day :
    letI : UnicodeTable := ⟨fun _ => true⟩
    letI : FloatText := timeTexts
    ∃ after, run Program.step (⟨daySettings, daySettings.manager none, .absent⟩, []) dayOfCalls =
      some after ∧ after.2.Pairwise Apart :=
  let : UnicodeTable := ⟨fun _ => true⟩
  let : FloatText := timeTexts
  @requests_apart _ _ daySettings .absent 0 _ dayOfCalls (by decide) rfl
    (by norm_num [Timed, dayOfCalls]) (by simp [Saves, dayOfCalls])
    (by simp +contextual [dayOfCalls])

end OptionProject.Infrastructure.Auth
