/-
This file proves that a request that returns an error leaves the users and the sessions as they were.
-/

import AuthService.Proof.CacheTransparency
import AuthService.Proof.ExactAnswers

namespace AuthService
open Interleaving System

section
variable {service : Service} {db : Database} {choice : Choice} {world next : World (postgres db)}

/-- A call on the users that reports an error has no effect. -/
theorem UserTable.exec_spares {command : UserCommand} {reply : command.Reply} {table after : UserTable} {now : Time}
    (executed : UserTable.exec command choice now table = some (reply, after))
    (spares : Spares ⟨.users command, reply⟩) : after = table := by
  cases command with
  | create email passwordHash =>
      cases reply with
      | ok user => exact spares.elim
      | error error =>
          simp only [UserTable.exec, UserTable.create] at executed
          split at executed
          · cases executed
            rfl
          · split at executed
            · cases executed
              rfl
            · split at executed <;> cases executed
  | updatePasswordHash userID passwordHash =>
      cases reply with
      | ok _ => exact spares.elim
      | error error =>
          simp only [UserTable.exec, UserTable.updatePasswordHash] at executed
          split at executed
          · cases executed
            rfl
          · split at executed
            · cases executed
            · cases executed
              rfl
  | getByEmail email =>
      cases executed
      rfl
  | getByID id =>
      cases executed
      rfl

/-- A call on the sessions that reports an error has no effect. -/
theorem SessionTable.exec_spares {command : SessionCommand} {reply : command.Reply} {users : UserTable}
    {table after : SessionTable} {now : Time}
    (executed : table.exec db command choice users now = some (reply, after))
    (spares : Spares ⟨.sessions command, reply⟩) : after = table := by
  cases command with
  | create session =>
      cases reply with
      | ok created => exact spares.elim
      | error error =>
          simp only [SessionTable.exec] at executed
          split at executed
          · cases executed
            rfl
          · exact SessionTable.create_error executed
  | getByTokenHash tokenHash =>
      cases executed
      rfl
  | deleteByID sessionID userID =>
      cases reply with
      | ok tokenHash => exact spares.elim
      | error error =>
          simp only [SessionTable.exec, Option.some.injEq] at executed
          split at executed
          · cases executed
            rfl
          · exact SessionTable.deleteByID_error executed
  | deleteByTokenHash tokenHash =>
      cases reply with
      | ok _ => exact spares.elim
      | error error =>
          simp only [SessionTable.exec, Option.some.injEq] at executed
          split at executed
          · cases executed
            rfl
          · cases executed
  | rotateToken oldHash session =>
      cases reply with
      | ok created => exact spares.elim
      | error error => exact SessionTable.rotateToken_error executed
  | deleteAllByUserID userID =>
      obtain ⟨_, rfl, _⟩ | ⟨_, _, same⟩ := SessionTable.deleteReturning_cases executed
      · exact spares.elim
      · exact same
  | deleteAllByUserIDExcept userID keepTokenHash =>
      obtain ⟨_, rfl, _⟩ | ⟨_, _, same⟩ := SessionTable.deleteReturning_cases executed
      · exact spares.elim
      · exact same
  | listByUserID userID =>
      cases executed
      rfl

/-- A sparing exchange leaves the users and the sessions as they were. -/
theorem exec_spares {command : Command} {reply : command.Reply}
    (executed : exec service command choice world = some (reply, next)) (spares : Spares ⟨command, reply⟩) :
    next.users = world.users ∧ next.sessions = world.sessions := by
  have changes := exec_changes executed
  cases command with
  | users command =>
      obtain ⟨users, performed, rfl⟩ := exec_users executed
      exact ⟨UserTable.exec_spares performed spares, rfl⟩
  | sessions command =>
      obtain ⟨sessions, performed, rfl⟩ := exec_sessions executed
      exact ⟨rfl, SessionTable.exec_spares performed spares⟩
  | _ => exact ⟨changes.keeps_users nofun, changes.keeps_sessions nofun⟩

/-- A delete by token hash removes the row or fails. -/
theorem exec_deleteByTokenHash {tokenHash : String} {reply : Except StoreError Unit}
    (executed : exec service (.sessions (.deleteByTokenHash tokenHash)) choice world = some (reply, next)) :
    next.users = world.users ∧
      (next.sessions = world.sessions ∨ next.sessions = world.sessions.deleteByTokenHash tokenHash) := by
  obtain ⟨sessions, performed, rfl⟩ := exec_sessions executed
  simp only [postgres, SessionTable.exec, Option.some.injEq] at performed
  split at performed
  · cases performed
    exact ⟨rfl, .inl rfl⟩
  · cases performed
    exact ⟨rfl, .inr rfl⟩

/-- A removed row cannot be removed again. -/
theorem SessionTable.deleteByTokenHash_again {table base : SessionTable} {tokenHash : String}
    (removed : table.rows = (base.deleteByTokenHash tokenHash).rows) :
    (table.deleteByTokenHash tokenHash).rows = (base.deleteByTokenHash tokenHash).rows := by
  change table.rows.filter _ = base.rows.filter _
  rw [removed]
  simp only [SessionTable.deleteByTokenHash, SessionTable.deleteWhere, List.filter_filter, Bool.and_self]

/-- The exchange is the removal of this session. -/
def Removes (tokenHash : Option String) (exchange : Exchange Ports) : Prop :=
  ∃ removed, tokenHash = some removed ∧ exchange.command = .sessions (.deleteByTokenHash removed)

variable {requests : List Request} {allowed : ServiceConfig (postgres db) → ServiceLabel → Prop}
variable {config : ServiceConfig (postgres db)}

/-- A run of sparing exchanges leaves the users and the sessions as they were, up to the session that it may
remove. -/
theorem reaches_spared (expired : Option String)
    (reached : (system service (postgres db)).Reaches allowed
      ((system service (postgres db)).begin world requests) config)
    (spared : ∀ event ∈ config.history, Spares event.exchange ∨ Removes expired event.exchange) :
    config.world.users = world.users ∧
      (config.world.sessions = world.sessions ∨ ∃ tokenHash, expired = some tokenHash ∧
        config.world.sessions.rows = (world.sessions.deleteByTokenHash tokenHash).rows) := by
  revert spared
  apply reached.invariant
  · exact fun _ => ⟨rfl, .inl rfl⟩
  · intro config label next _ kept _ moved spared
    obtain ⟨_, _, rfl⟩ | ⟨task, choice, request, command, rest, reply, after, _, _, executed, rfl⟩ |
      ⟨tick, after, _, drifted, rfl⟩ := service_cases moved
    · exact kept spared
    · obtain ⟨users, sessions⟩ := kept fun event member => spared event (List.mem_cons_of_mem _ member)
      rcases spared _ List.mem_cons_self with spares | ⟨tokenHash, removes, call⟩
      · obtain ⟨users', sessions'⟩ := exec_spares executed spares
        rw [users', sessions']
        exact ⟨users, sessions⟩
      · obtain rfl : command = .sessions (.deleteByTokenHash tokenHash) := call
        obtain ⟨users', same | gone⟩ := exec_deleteByTokenHash executed
        · rw [users', same]
          exact ⟨users, sessions⟩
        · rw [users', gone]
          refine ⟨users, .inr ⟨tokenHash, removes, ?_⟩⟩
          rcases sessions with same | ⟨other, removes', rows⟩
          · rw [same]
          · obtain rfl := Option.some.inj (removes.symm.trans removes')
            exact SessionTable.deleteByTokenHash_again rows
    · obtain ⟨cache, now, rfl⟩ := drift_frame drifted
      exact kept spared

/-- A request that has created no session writes nothing to the cache. -/
theorem uncached_of_sparing (disciplined : Disciplined (Permits service) (Finishes service) config)
    (sparing : ∀ event ∈ config.history, Spares event.exchange) {event : Event Ports}
    (member : event ∈ config.history) (tokenHash : String) (session : CachedSession) (ttl : Duration) :
    event.exchange.command ≠ .cache (.set tokenHash session ttl) := by
  intro call
  obtain ⟨later, past, same, request, _, permitted⟩ := disciplined.permitted.mem member
  rw [call] at permitted
  have impossible {command : SessionCommand} {reply : command.Reply}
      (wrote : select Command.writes (transcript event.task past) = [⟨.sessions command, reply⟩])
      (harmful : ¬ Spares ⟨.sessions command, reply⟩) : False :=
    harmful (sparing _ (mem_of_past same (mem_of_select wrote)))
  cases permitted with
  | free harmless => cases harmless
  | cacheLogin grant created => exact impossible created nofun
  | cacheRefresh grant rotated => exact impossible rotated nofun

/-- A run that writes nothing to the cache has only the entries that were there. -/
theorem reaches_uncached
    (reached : (system service (postgres db)).Reaches allowed
      ((system service (postgres db)).begin world requests) config)
    (uncached : ∀ event ∈ config.history, ∀ tokenHash session ttl,
      event.exchange.command ≠ .cache (.set tokenHash session ttl))
    {tokenHash : String} {entry : Expiring CachedSession} (present : config.world.cache tokenHash = some entry) :
    world.cache tokenHash = some entry := by
  revert uncached present
  apply reached.invariant
  · exact fun _ present => present
  · intro config label next _ kept _ moved uncached present
    obtain ⟨_, _, rfl⟩ | ⟨task, choice, request, command, rest, reply, after, _, _, executed, rfl⟩ |
      ⟨tick, after, _, drifted, rfl⟩ := service_cases moved
    · exact kept uncached present
    · have earlier := kept fun event member => uncached event (List.mem_cons_of_mem _ member)
      rcases exec_cache_entry executed present with before | ⟨ttl, call⟩
      · exact earlier before
      · exact absurd call (uncached _ List.mem_cons_self tokenHash entry.value ttl)
    · exact kept uncached (drift_entry drifted present)

end

/-- The copies of a session that the cache and the table of a world offer for a token hash. -/
def Offered {db : Database} (world : World (postgres db)) (tokenHash : String) (copy : CachedSession) : Prop :=
  (∃ entry, world.cache tokenHash = some entry ∧ entry.value = copy) ∨
    ∃ session, world.sessions.getByTokenHash world.users tokenHash = .ok session ∧ session.cached = copy

/-- The world accepts the refresh token of a request: its session is there, it is not expired, and the table
takes its successor. -/
structure Acceptable {db : Database} (service : Service) (world : World (postgres db)) (ctx : Context)
    (req : RefreshTokenRequest) (choice : Choice) (checked built : Time) : Prop where
  present : ∃ session, world.sessions.getByTokenHash world.users (service.hash req.refreshToken) = .ok session
  alive : ∀ copy, Offered world (service.hash req.refreshToken) copy → ¬ copy.expiresAt < checked
  accepted : ∀ copy, Offered world (service.hash req.refreshToken) copy →
    world.sessions.accepts world.users (refreshSession service ctx req copy choice.token built) = true

/-- The request read a copy of the session that was expired at its clock. -/
def FoundExpired (past : Past) (tokenHash : String) : Prop :=
  ∃ cached now, Looked past tokenHash cached ∧ [now] <:+ clocks past ∧ cached.expiresAt < now

section
variable {service : Service} {db : Database} {choice : Choice} {world later : World (postgres db)}
variable {ctx : Context} {req : RefreshTokenRequest} {checked built : Time} {times : List Time}

/-- A live copy of a session that is there is rotated. -/
theorem judged_accepted {copy : CachedSession} (unused : choice.id ∉ world.sessions.rows.map Session.id)
    (present : service.hash req.refreshToken ∈ world.sessions.rows.map Session.tokenHash)
    (alive : ¬ copy.expiresAt < checked)
    (accepted : world.sessions.accepts world.users (refreshSession service ctx req copy choice.token built) = true) :
    (judged service choice ctx req checked built world copy).refusal = none := by
  rw [judged, if_neg alive]
  obtain ⟨reply, table, rotated⟩ := world.sessions.rotateToken_total unused
  rw [rotated]
  rcases SessionTable.rotateToken_accepted accepted rotated with ⟨created, rfl, _⟩ | ⟨_, absent⟩
  · rfl
  · exact absurd ((SessionTable.mem_rowSet_live _ _).mpr present) absent

/-- A token that a world accepts is refreshed in every later world with the same users and sessions whose cache has
only entries of the first one. -/
theorem Acceptable.refreshed (acceptable : Acceptable service world ctx req choice checked built)
    (users : later.users = world.users) (sessions : later.sessions = world.sessions)
    (cache : ∀ tokenHash entry, later.cache tokenHash = some entry → world.cache tokenHash = some entry)
    (works : choice.fails = false) (whole : choice.statement = none)
    (fresh : service.hash choice.token ∉ later.issued)
    (unused : choice.id ∉ later.sessions.rows.map Session.id) :
    ∃ outcome, refreshOutcome service choice ctx req (checked :: built :: times) later = some outcome ∧
      outcome.refusal = none := by
  obtain ⟨session, read⟩ := acceptable.present
  have present : service.hash req.refreshToken ∈ later.sessions.rows.map Session.tokenHash := by
    obtain ⟨same, member, _⟩ := SessionTable.getByTokenHash_ok read
    rw [sessions]
    exact (SessionTable.mem_rowSet_live _ _).mp ⟨session.row, member, same⟩
  have judges (copy : CachedSession) (offered : Offered world (service.hash req.refreshToken) copy) :
      (judged service choice ctx req checked built later copy).refusal = none := by
    refine judged_accepted unused present (acceptable.alive copy offered) ?_
    rw [users, sessions]
    exact acceptable.accepted copy offered
  cases hit : lookup later.cache later.now (service.hash req.refreshToken) with
  | some copy =>
      obtain ⟨entry, stored, rfl⟩ := lookup_eq_some hit
      exact ⟨_, outcome_cached works whole fresh unused hit, judges _ (.inl ⟨entry, cache _ _ stored, rfl⟩)⟩
  | none =>
      refine ⟨_, outcome_missed works whole fresh unused hit, ?_⟩
      rw [unassisted, users, sessions, read]
      exact judges _ (.inr ⟨session, read, rfl⟩)

end

/-- A request that runs alone and returns an error leaves the users and the sessions as they were, whatever
calls and statements fail. The only exception is the removal of an expired session by `RefreshToken`. After every
other error of `RefreshToken` a token that was acceptable is still accepted. -/
theorem failed_request_changes_nothing (service : Service) (db : Database) (world : World (postgres db))
    (request : Request) :
    let auth := system service (postgres db)
    ∀ config status, auth.Reaches NoStart (auth.begin world [request]) config →
      config.Answered 0 (.error status) →
      config.world.users = world.users ∧
      (config.world.sessions = world.sessions ∨
        ∃ ctx req, request = .refreshToken ctx req ∧ status = expiredRefreshToken ∧
          FoundExpired (transcript 0 config.history) (service.hash req.refreshToken) ∧
          config.world.sessions.rows =
            (world.sessions.deleteByTokenHash (service.hash req.refreshToken)).rows) ∧
      ∀ ctx req, request = .refreshToken ctx req → status ≠ expiredRefreshToken →
        ∀ ctx' deviceID choice checked built times,
          Acceptable service world ctx' ⟨req.refreshToken, deviceID⟩ choice checked built →
          choice.fails = false → choice.statement = none → service.hash choice.token ∉ config.world.issued →
          choice.id ∉ world.sessions.rows.map Session.id →
          ∃ outcome, refreshOutcome service choice ctx' ⟨req.refreshToken, deviceID⟩
              (checked :: built :: times) config.world = some outcome ∧ outcome.refusal = none := by
  intro auth config status reached answered
  have disciplined : Disciplined (Permits service) (Finishes service) config := reaches_disciplined reached
  have finished := disciplined.answered 0 request _ (reached.request 0 request rfl) answered
  cases finished with
  | failed sparing =>
      have spared (event : Event Ports) (member : event ∈ config.history) : Spares event.exchange :=
        sparing _ (alone_transcript reached member)
      obtain ⟨users, sessions⟩ := reaches_spared none reached fun event member => .inl (spared event member)
      have kept : config.world.sessions = world.sessions := by
        rcases sessions with same | ⟨_, impossible, _⟩
        · exact same
        · cases impossible
      refine ⟨users, .inl kept, ?_⟩
      intro ctx req _ _ ctx' deviceID choice checked built times acceptable works whole fresh unused
      refine acceptable.refreshed users kept ?_ works whole fresh (by rw [kept]; exact unused)
      intro tokenHash entry present
      exact reaches_uncached reached (fun event member => uncached_of_sparing disciplined spared member) present
  | @expired ctx req past cached now looked read late sparing =>
      have spared (event : Event Ports) (member : event ∈ config.history) : Spares event.exchange ∨
          Removes (some (service.hash req.refreshToken)) event.exchange :=
        (sparing _ (alone_transcript reached member)).imp_right fun call => ⟨_, rfl, call⟩
      obtain ⟨users, sessions⟩ := reaches_spared _ reached spared
      refine ⟨users, ?_, fun _ _ _ apart => absurd rfl apart⟩
      rcases sessions with same | ⟨_, removes, rows⟩
      · exact .inl same
      · obtain rfl := Option.some.inj removes
        exact .inr ⟨ctx, req, rfl, rfl, ⟨cached, now, looked, read, late⟩, rows⟩

/-- A world with one user and one session of this user. -/
def storedWorld : World (postgres exactDatabase) :=
  { World.empty (postgres exactDatabase) 0 with
    users := ⟨[⟨"user", "a@b.co", "passw0rd", 0, 0⟩], by decide, by decide⟩
    sessions := ⟨[⟨"first", "user", "", "#token", "phone", "", "", 100, 0, 0⟩], by decide, by decide⟩
    issued := ["#token"] }

/-- The stored session is the only copy that this world offers. -/
theorem storedWorld_acceptable :
    Acceptable sample storedWorld bareContext ⟨"token", ""⟩ { id := "third", token := "retry" } 10 10 := by
  have offered (copy : CachedSession) (offers : Offered storedWorld "#token" copy) :
      copy = ⟨"first", "user", "a@b.co", "phone", 100⟩ := by
    rcases offers with ⟨entry, present, _⟩ | ⟨session, read, rfl⟩
    · cases present
    · have known : storedWorld.sessions.getByTokenHash storedWorld.users "#token" =
          .ok ⟨"first", "user", "a@b.co", "#token", "phone", "", "", 100, 0, 0⟩ := by decide
      rw [known] at read
      cases read
      rfl
  refine ⟨⟨⟨"first", "user", "a@b.co", "#token", "phone", "", "", 100, 0, 0⟩, by decide⟩, ?_, ?_⟩
  · intro copy offers
    rw [offered copy offers]
    decide
  · intro copy offers
    rw [offered copy offers]
    decide

/-- In this run the insertion of the new session fails, and a second refresh with the old token succeeds. -/
theorem failed_rotation_keeps_token :
    ∃ config, sampleSystem.Reaches NoStart
        (sampleSystem.begin storedWorld [.refreshToken bareContext ⟨"token", ""⟩]) config ∧
      config.Answered 0 (.error internalError) ∧ config.world.users = storedWorld.users ∧
      ∃ outcome, refreshOutcome sample { id := "third", token := "retry" } bareContext ⟨"token", ""⟩ [10, 10]
        config.world = some outcome ∧ outcome.refusal = none := by
  let request : Request := .refreshToken bareContext ⟨"token", ""⟩
  obtain ⟨config, reached, checked⟩ :
      ∃ config, sampleSystem.Reaches (fun config label => noStart config label = true)
          (sampleSystem.begin storedWorld [request]) config ∧
        decide (config.answer? 0 = some (.error internalError) ∧ config.world.issued = ["#next", "#token"]) =
          true :=
    exists_of_run (advances 0 7 { id := "second", token := "next", statement := some .insert }) _
      (by decide +kernel)
  obtain ⟨refused, issued⟩ := of_decide_eq_true checked
  have alone := reached.of_noStart
  have answered := Config.answered_of_answer? refused
  obtain ⟨users, _, accepts⟩ := failed_request_changes_nothing sample exactDatabase storedWorld request config
    internalError alone answered
  exact ⟨config, alone, answered, users, accepts bareContext ⟨"token", ""⟩ rfl (by decide) bareContext "" _ 10 10 []
    storedWorld_acceptable rfl rfl (by rw [issued]; decide) (by decide)⟩

end AuthService
