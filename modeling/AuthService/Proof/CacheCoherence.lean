/-
This file proves when the session cache agrees with the session rows once no request is running.
-/

import AuthService.Proof.Installed
import AuthService.Proof.SessionFrames
import AuthService.Proof.CachedSessions
import AuthService.Proof.ResetToken

namespace AuthService
open Interleaving Program System

/-- The copy has the identifier, the owner, the device and the expiry of the row with the token hash. -/
structure Mirrors (row : Row) (tokenHash : String) (cached : CachedSession) : Prop where
  tokenHash : row.tokenHash = tokenHash
  sessionID : row.id = cached.sessionID
  userID : row.userID = cached.userID
  deviceID : row.deviceID = cached.deviceID
  expiresAt : row.expiresAt = cached.expiresAt

/-- No call on the cache is lost, and a request caches a session only while the store has its row with the
same expiry. -/
def timely {store : SessionStore} (config : ServiceConfig store) : ServiceLabel → Bool
  | .advance task choice =>
      !choice.lost && match config.tasks[task]? with
        | some ⟨_, .call (.cache (.set tokenHash cached _)) _⟩ =>
            (store.rows config.world.sessions).any fun session =>
              session.tokenHash = tokenHash && session.expiresAt = cached.expiresAt
        | _ => true
  | _ => true

/-- No request is running. -/
def Idle {store : SessionStore} (config : ServiceConfig store) : Prop :=
  ∀ task < config.tasks.length, (config.answer? task).isSome

instance {store : SessionStore} (config : ServiceConfig store) : Decidable (Idle config) := Nat.decidableBallLT _ _

/-- Some request has removed the row of the token hash and will drop its cache entry. -/
def Pending (history : List (Event Ports)) (tokenHash : String) : Prop :=
  ∃ task, Owes (transcript task history) tokenHash

theorem Pending.cons {history : List (Event Ports)} {tokenHash : String} (pending : Pending history tokenHash)
    (event : Event Ports) (other : event.exchange.command ≠ .cache (.delete tokenHash)) :
    Pending (event :: history) tokenHash := by
  obtain ⟨task, owes⟩ := pending
  refine ⟨task, ?_⟩
  by_cases same : event.task = task
  · subst same
    rw [show transcript event.task (event :: history) = event.exchange :: transcript event.task history from
      transcript_cons_self event.task event.exchange history]
    exact ⟨other, .inr owes⟩
  · rwa [transcript_cons_other _ _ _ same]

theorem pending_of_removed {history : List (Event Ports)} {task : Nat} {exchange : Exchange Ports} {tokenHash : String}
    (gone : tokenHash ∈ removed exchange) (other : exchange.command ≠ .cache (.delete tokenHash)) :
    Pending (⟨task, exchange⟩ :: history) tokenHash := by
  refine ⟨task, ?_⟩
  rw [transcript_cons_self]
  exact ⟨other, .inl gone⟩

/-- Every cache entry is a copy of a row, or the request that removed the row is about to drop it. -/
def Accounted {store : SessionStore} (config : ServiceConfig store) : Prop :=
  ∀ tokenHash entry, config.world.cache tokenHash = some entry →
    (∃ row ∈ rowsOf config, Mirrors row tokenHash entry.value) ∨ Pending config.history tokenHash

section
variable {service : Service} {backend : Backend} {now : Time} {requests : List Request}
variable {allowed : ServiceConfig backend.store → ServiceLabel → Prop} {config : ServiceConfig backend.store}
variable {task : Nat} {request : Request}

/-- What a request caches agrees with the row that it has installed, up to the expiry. -/
theorem mirrors_of_set
    (reached : (system service backend.store).Reaches allowed
      ((system service backend.store).begin (World.empty backend.store now) requests) config)
    {tokenHash : String} {cached : CachedSession} {ttl : Duration}
    {rest : (CacheCommand.set tokenHash cached ttl).Reply → Program Ports Answer}
    (selected : config.tasks[task]? = some ⟨request, .call (.cache (.set tokenHash cached ttl)) rest⟩) {row : Row}
    (present : row ∈ rowsOf config) (hash : row.tokenHash = tokenHash) (expiry : row.expiresAt = cached.expiresAt) :
    Mirrors row tokenHash cached := by
  obtain ⟨event, member, session, created, installed, hash', owner, device, identity⟩ :=
    installed_of_set (reaches_disciplined reached) selected
  obtain ⟨filled, rfl⟩ := row_of_installation (World.empty_sound now) reached member installed present
    (hash.trans hash'.symm)
  exact ⟨hash, identity, filled.userID.trans owner, filled.deviceID.trans device, expiry⟩

/-- A call on the session store leaves every row that a cache entry copies, or removes it and owes the cache. -/
theorem accounted_sessions
    (reached : (system service backend.store).Reaches allowed
      ((system service backend.store).begin (World.empty backend.store now) requests) config)
    (accounted : Accounted config) {command : SessionCommand} {rest : command.Reply → Program Ports Answer}
    (selected : config.tasks[task]? = some ⟨request, .call (.sessions command) rest⟩) {choice : Choice}
    {reply : command.Reply} {sessions : backend.store.State}
    (performed : backend.store.exec command choice config.world.users config.world.now config.world.sessions =
      some (reply, sessions)) (tasks : List (Task Ports Request Answer)) :
    Accounted (⟨{ config.world with sessions }, tasks, ⟨task, .sessions command, reply⟩ :: config.history⟩ :
      ServiceConfig backend.store) := by
  have sound : (World.empty backend.store now).Sound := World.empty_sound now
  have ledger := reaches_ledger sound reached
  have effect := (ledger.effect sound (reaches_disciplined reached) selected performed).2
  intro tokenHash entry present
  rcases accounted tokenHash entry present with ⟨row, member, mirrors⟩ | pending
  · by_cases stays : row ∈ backend.store.rowSet sessions
    · exact .inl ⟨row, stays, mirrors⟩
    · have gone := Backend.exec_removed ledger.inv performed effect member stays
      rw [mirrors.tokenHash] at gone
      exact .inr (pending_of_removed gone (by simp))
  · exact .inr (pending.cons _ (by simp))

/-- A deletion that is not lost leaves no entry. -/
theorem deleted_entry {tokenHash : String} {choice : Choice} (permitted : timely config (.advance task choice) = true)
    {reply : (CacheCommand.delete tokenHash).Reply} {world : World backend.store}
    (executed : exec service (.cache (.delete tokenHash)) choice config.world = some (reply, world)) :
    world.cache tokenHash = none := by
  have kept : choice.lost = false := by
    simpa using (Bool.and_eq_true_iff.mp permitted).1
  obtain rfl : (execCache (.delete tokenHash) choice config.world).2 = world :=
    congrArg Prod.snd (exec_cache executed)
  simp only [execCache, kept, Bool.false_eq_true, if_false, Function.update_self]

/-- A session is cached only while its row exists. -/
theorem live_of_timely {tokenHash : String} {cached : CachedSession} {ttl : Duration} {choice : Choice}
    {rest : (CacheCommand.set tokenHash cached ttl).Reply → Program Ports Answer}
    (permitted : timely config (.advance task choice) = true)
    (selected : config.tasks[task]? = some ⟨request, .call (.cache (.set tokenHash cached ttl)) rest⟩) :
    ∃ session ∈ backend.store.rows config.world.sessions,
      session.tokenHash = tokenHash ∧ session.expiresAt = cached.expiresAt := by
  have checked := (Bool.and_eq_true_iff.mp permitted).2
  simp only [selected] at checked
  obtain ⟨session, member, same⟩ := List.any_eq_true.mp checked
  exact ⟨session, member, by simpa using same⟩

/-- A call on the cache keeps the entries accounted for when it is timely. -/
theorem accounted_cache
    (reached : (system service backend.store).Reaches allowed
      ((system service backend.store).begin (World.empty backend.store now) requests) config)
    (accounted : Accounted config) {command : CacheCommand} {rest : command.Reply → Program Ports Answer}
    (selected : config.tasks[task]? = some ⟨request, .call (.cache command) rest⟩) {choice : Choice}
    (permitted : timely config (.advance task choice) = true) {reply : command.Reply} {world : World backend.store}
    (executed : exec service (.cache command) choice config.world = some (reply, world))
    (tasks : List (Task Ports Request Answer)) :
    Accounted (⟨world, tasks, ⟨task, .cache command, reply⟩ :: config.history⟩ : ServiceConfig backend.store) := by
  intro tokenHash entry present
  have kept := (exec_changes executed).keeps_sessions (by simp)
  have rows : backend.store.rowSet world.sessions = rowsOf config := congrArg backend.store.rowSet kept
  rcases exec_cache_entry executed present with before | ⟨ttl, same⟩
  · have other : command ≠ .delete tokenHash := by
      rintro rfl
      rw [deleted_entry permitted executed] at present
      cases present
    rcases accounted tokenHash entry before with ⟨row, member, mirrors⟩ | pending
    · refine .inl ⟨row, ?_, mirrors⟩
      rw [rowsOf, rows]
      exact member
    · exact .inr (pending.cons _ (by simpa using other))
  · cases same
    obtain ⟨session, inside, hash, expiry⟩ := live_of_timely permitted selected
    refine .inl ⟨session.row, ?_, mirrors_of_set reached selected ⟨session, inside, rfl⟩ hash expiry⟩
    rw [rowsOf, rows]
    exact ⟨session, inside, rfl⟩

/-- In such a run every cache entry is accounted for. -/
theorem reaches_accounted
    (reached : (system service backend.store).Reaches (fun config label => timely config label = true)
      ((system service backend.store).begin (World.empty backend.store now) requests) config) :
    Accounted config := by
  apply reached.invariant
  · intro tokenHash entry present
    cases present
  · intro config label next reached accounted permitted moved
    obtain ⟨_, _, rfl⟩ | ⟨task, choice, request, command, rest, reply, world, rfl, selected, executed, rfl⟩ |
      ⟨tick, world, _, drifted, rfl⟩ := service_cases moved
    · exact accounted
    · by_cases session : ∃ call, command = .sessions call
      · obtain ⟨call, rfl⟩ := session
        obtain ⟨sessions, performed, rfl⟩ := exec_sessions executed
        exact accounted_sessions reached accounted selected performed _
      by_cases cached : ∃ call, command = .cache call
      · obtain ⟨call, rfl⟩ := cached
        exact accounted_cache reached accounted selected permitted executed _
      have rows := (exec_changes executed).keeps_sessions fun other same => session ⟨other, same⟩
      have cache := (exec_changes executed).keeps_cache fun other same => cached ⟨other, same⟩
      intro tokenHash entry present
      rcases accounted tokenHash entry (cache ▸ present) with ⟨row, member, mirrors⟩ | pending
      · refine .inl ⟨row, ?_, mirrors⟩
        rw [rowsOf, show backend.store.rowSet world.sessions = rowsOf config from congrArg _ rows]
        exact member
      · exact .inr (pending.cons _ fun same => cached ⟨_, same⟩)
    · intro tokenHash entry present
      rcases accounted tokenHash entry (drift_entry drifted present) with ⟨row, member, mirrors⟩ | pending
      · obtain ⟨cache, now, rfl⟩ := drift_frame drifted
        exact .inl ⟨row, member, mirrors⟩
      · exact .inr pending

/-- When no request is running, nothing is owed to the cache. -/
theorem not_pending
    (reached : (system service backend.store).Reaches allowed
      ((system service backend.store).begin (World.empty backend.store now) requests) config)
    (idle : Idle config) (tokenHash : String) : ¬ Pending config.history tokenHash := by
  rintro ⟨task, owes⟩
  have tidy := reached.disciplined (tidy_handle service)
  obtain ⟨exchange, member⟩ : ∃ exchange, exchange ∈ transcript task config.history := by
    cases past : transcript task config.history with
    | nil =>
        rw [past] at owes
        exact owes.elim
    | cons exchange earlier => exact ⟨exchange, List.mem_cons_self⟩
  have inside := tidy.task_lt ((mem_transcript _ _ _).mp member)
  obtain ⟨answer, known⟩ := Option.isSome_iff_exists.mp (idle task inside)
  obtain ⟨entry, selected⟩ : ∃ entry, config.tasks[task]? = some entry := ⟨_, List.getElem?_eq_getElem inside⟩
  have started : config.request task = some entry.request := by
    rw [Config.request, selected, Option.map_some]
  exact tidy.answered task _ answer started (Config.answered_of_answer? known) tokenHash owes

end

/-- In every run from empty stores in which no call on the cache is lost and every session is cached while its
row exists with the same expiry, with any interleaving and any other failures: when no request is running, every
cache entry that can be read is a copy of a session row. -/
theorem cache_coherent (service : Service) (backend : Backend) (now : Time) :
    let auth := system service backend.store
    let initial := auth.begin (World.empty backend.store now) []
    ∀ config, auth.Reaches (fun config label => timely config label = true) initial config → Idle config →
      ∀ tokenHash cached, lookup config.world.cache config.world.now tokenHash = some cached →
        ∃ session ∈ backend.store.rows config.world.sessions, session.tokenHash = tokenHash ∧
          session.id = cached.sessionID ∧ session.userID = cached.userID ∧
          session.deviceID = cached.deviceID ∧ session.expiresAt = cached.expiresAt := by
  intro auth initial config reached idle tokenHash cached found
  obtain ⟨entry, present, rfl⟩ := lookup_eq_some found
  rcases reaches_accounted reached tokenHash entry present with ⟨_, ⟨session, member, rfl⟩, mirrors⟩ | pending
  · exact ⟨session, member, mirrors.tokenHash, mirrors.sessionID, mirrors.userID, mirrors.deviceID,
      mirrors.expiresAt⟩
  · exact absurd pending (not_pending reached idle tokenHash)

/-- The requests of a user who registers, logs in and logs out everywhere. -/
def loginAndLogoutAll : List Request :=
  [.register bareContext ⟨"a@b.co", "passw0rd"⟩, .login bareContext ⟨"a@b.co", "passw0rd", "phone"⟩,
    .logoutAll userContext]

/-- In this run of reliable calls, `LogoutAll` deletes the session that `Login` has created and drops its
cache entry before `Login` writes it. -/
theorem cache_entry_outlives_session :
    ∃ config, sampleSystem.Reaches (fun config label => reliable config label = true) (sampleStart []) config ∧
      Idle config ∧ config.world.sessions.rows = [] ∧
      ∃ cached, lookup config.world.cache config.world.now "#token" = some cached := by
  let labels := advances 0 4 { id := "user" } ++ advances 1 5 { id := "session", token := "token" } ++
    advances 2 5 {} ++ advances 1 4 {}
  obtain ⟨config, reached, checked⟩ :
      ∃ config, sampleSystem.Reaches (fun config label => reliable config label = true)
          (sampleStart loginAndLogoutAll) config ∧
        decide (Idle config ∧ config.world.sessions.rows = [] ∧
          (lookup config.world.cache config.world.now "#token").isSome) = true :=
    exists_of_run labels _ (by decide +kernel)
  obtain ⟨idle, empty, found⟩ := of_decide_eq_true checked
  have started : sampleSystem.Reaches (fun config label => reliable config label = true) (sampleStart [])
      (sampleStart loginAndLogoutAll) := reaches_started _ _ fun _ _ => rfl
  exact ⟨config, started.trans reached, idle, empty, Option.isSome_iff_exists.mp found⟩

/-- In this run one of two sessions is ended, and the entry of the other one is a copy of its row. -/
theorem cache_entry_has_session :
    ∃ config, sampleSystem.Reaches (fun config label => timely config label = true) (sampleStart []) config ∧
      Idle config ∧ config.world.cache "#first" = none ∧
      ∃ cached, lookup config.world.cache config.world.now "#second" = some cached ∧
        ∃ session ∈ config.world.sessions.rows, session.tokenHash = "#second" ∧ session.id = cached.sessionID := by
  let requests : List Request :=
    [.register bareContext ⟨"a@b.co", "passw0rd"⟩, .login bareContext ⟨"a@b.co", "passw0rd", "phone"⟩,
      .login bareContext ⟨"a@b.co", "passw0rd", "laptop"⟩, .logout bareContext "first"]
  let labels := advances 0 4 { id := "user" } ++ advances 1 9 { id := "one", token := "first" } ++
    advances 2 5 { id := "two", token := "second" } ++ advances 3 5 {} ++ advances 2 4 {}
  obtain ⟨config, reached, checked⟩ :
      ∃ config, sampleSystem.Reaches (fun config label => timely config label = true)
          (sampleStart requests) config ∧
        decide (Idle config ∧ (config.world.cache "#first").isNone ∧
          (lookup config.world.cache config.world.now "#second").isSome) = true :=
    exists_of_run labels _ (by decide +kernel)
  obtain ⟨idle, dropped, found⟩ := of_decide_eq_true checked
  obtain ⟨cached, known⟩ := Option.isSome_iff_exists.mp found
  have started : sampleSystem.Reaches (fun config label => timely config label = true) (sampleStart [])
      (sampleStart requests) := reaches_started _ _ fun _ _ => rfl
  have whole := started.trans reached
  obtain ⟨session, member, hash, identity, _⟩ :=
    cache_coherent sample (.postgres exactDatabase) 0 config whole idle "#second" cached known
  exact ⟨config, whole, idle, Option.isNone_iff_eq_none.mp dropped, cached, known, session, member, hash, identity⟩

end AuthService
