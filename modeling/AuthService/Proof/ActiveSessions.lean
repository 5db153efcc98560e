/-
This file proves when a list of sessions shows exactly the sessions whose refresh tokens are accepted.
-/

import AuthService.Proof.Ownership
import AuthService.Proof.ResetRevocation
import AuthService.Proof.SequentialRefresh
import AuthService.Proof.SingleUse

namespace AuthService
open Interleaving Program System

/-- The expiry that a refresh reads for a row: that of the cached copy while there is one, and the stored one
otherwise. -/
def Row.expiryRead (cache : String → Option (Expiring CachedSession)) (time : Time) (row : Row) : Time :=
  ((lookup cache time row.tokenHash).map CachedSession.expiresAt).getD row.expiresAt

/-- A session with the token hash and with the owner and the device of the copy was installed. -/
def CopiedFrom (history : List (Event Ports)) (tokenHash : String) (cached : CachedSession) : Prop :=
  ∃ event ∈ history, ∃ session created, installationBy event = some (session, created) ∧
    session.tokenHash = tokenHash ∧ session.userID = cached.userID ∧ session.deviceID = cached.deviceID

/-- The rows, the cached copies and the users fit together. -/
structure World.Coherent {backend : Backend} (service : Service) (world : World backend.store) : Prop where
  sound : world.Sound
  hashed : ∀ row ∈ backend.store.rowSet world.sessions, ∃ plain, service.hash plain = row.tokenHash
  taken : ∀ row ∈ backend.store.rowSet world.sessions,
    backend.references world.users row.userID = true ∧ backend.storable row.deviceID = true
  copies : ∀ row ∈ backend.store.rowSet world.sessions, ∀ entry, world.cache row.tokenHash = some entry →
    entry.value.userID = row.userID ∧ entry.value.deviceID = row.deviceID

/-- A known user stays known. -/
theorem Backend.references_exec {backend : Backend} {service : Service} {world next : World backend.store}
    {command : Command} {reply : command.Reply} {choice : Choice}
    (executed : exec service command choice world = some (reply, next)) {userID : String}
    (known : backend.references world.users userID = true) : backend.references next.users userID = true := by
  cases backend with
  | memory => rfl
  | postgres db =>
      obtain ⟨user, inside, rfl⟩ := List.mem_map.mp (List.contains_iff_mem.mp known)
      obtain ⟨later, stays, same, _⟩ := exec_user executed inside
      exact List.contains_iff_mem.mpr (List.mem_map.mpr ⟨later, stays, same⟩)

namespace SessionTable
variable {db : Database} {users : UserTable} {now : Time} {table next : SessionTable}

theorem create_accepts {id : String} {session created : Session}
    (inserted : table.create db users now id session = some (.ok created, next)) :
    table.accepts users session = true := by
  unfold create at inserted
  split at inserted
  · assumption
  · cases inserted

/-- A session that was installed was accepted. -/
theorem exec_accepts {command : SessionCommand} {choice : Choice} {reply : command.Reply}
    (executed : table.exec db command choice users now = some (reply, next)) {session created : Session}
    (installed : command.installation reply = some (session, created)) :
    ∃ table : SessionTable, table.accepts users session = true := by
  cases command with
  | create given =>
      cases reply with
      | error error => cases installed
      | ok result =>
          cases installed
          simp only [exec] at executed
          split at executed
          · cases executed
          · exact ⟨table, create_accepts executed⟩
  | rotateToken oldHash given =>
      cases reply with
      | error error => cases installed
      | ok result =>
          cases installed
          exact ⟨_, create_accepts (rotateToken_inserted executed).2⟩
  | _ => cases installed

end SessionTable

/-- The backend takes what it installs. -/
theorem Backend.exec_takes {backend : Backend} {command : SessionCommand} {choice : Choice} {users : UserTable}
    {now : Time} {state next : backend.store.State} {reply : command.Reply}
    (executed : backend.store.exec command choice users now state = some (reply, next)) {session created : Session}
    (installed : command.installation reply = some (session, created)) : backend.takes users session = true := by
  cases backend with
  | memory => rfl
  | postgres db =>
      obtain ⟨table, accepted⟩ := SessionTable.exec_accepts executed installed
      simp only [SessionTable.accepts, Bool.and_eq_true] at accepted
      simp only [takes, references, storable, Bool.and_eq_true]
      exact ⟨⟨⟨accepted.1.1.1.1, accepted.1.1.2⟩, accepted.1.2⟩, accepted.2⟩

section Reachable
variable {service : Service} {backend : Backend} {now : Time} {requests : List Request}
variable {allowed : ServiceConfig backend.store → ServiceLabel → Prop} {config : ServiceConfig backend.store}

/-- Every row has an owner and a device that the backend takes. -/
theorem reaches_taken
    (reached : (system service backend.store).Reaches allowed
      ((system service backend.store).begin (World.empty backend.store now) requests) config) :
    ∀ row ∈ rowsOf config,
      backend.references config.world.users row.userID = true ∧ backend.storable row.deviceID = true := by
  apply reached.invariant
  · rintro row ⟨session, member, _⟩
    have none : backend.store.rows backend.store.empty = [] := SessionStore.Lawful.empty_rows
    change session ∈ backend.store.rows backend.store.empty at member
    rw [none] at member
    cases member
  · intro config label next reached taken _ moved
    obtain ⟨_, _, rfl⟩ | ⟨task, choice, request, command, rest, reply, world, _, selected, executed, rfl⟩ |
      ⟨tick, world, _, drifted, rfl⟩ := service_cases moved
    · exact taken
    · intro row member
      have known (before : row ∈ rowsOf config) :
          backend.references world.users row.userID = true ∧ backend.storable row.deviceID = true :=
        (taken row before).imp_left (Backend.references_exec executed)
      by_cases call : ∃ call, command = .sessions call
      · obtain ⟨call, rfl⟩ := call
        obtain ⟨sessions, performed, rfl⟩ := exec_sessions executed
        have effect := ((reaches_ledger (World.empty_sound now) reached).effect (World.empty_sound now)
          (reaches_disciplined reached) selected performed).2
        rcases effect.origin member with before | ⟨session, created, installed, filled, rfl⟩
        · exact known before
        · have accepted := Backend.exec_takes performed installed
          simp only [Backend.takes, Bool.and_eq_true] at accepted
          rw [← filled.userID, ← filled.deviceID] at accepted
          exact accepted.1.1
      · have kept := (exec_changes executed).keeps_sessions fun other same => call ⟨other, same⟩
        refine known ?_
        rw [rowsOf, ← kept]
        exact member
    · obtain ⟨cache, now, rfl⟩ := drift_frame drifted
      exact taken

/-- Every cached copy has the owner and the device of a session that was installed under its token hash. -/
theorem reaches_copied
    (reached : (system service backend.store).Reaches allowed
      ((system service backend.store).begin (World.empty backend.store now) requests) config) :
    ∀ tokenHash entry, config.world.cache tokenHash = some entry →
      CopiedFrom config.history tokenHash entry.value := by
  apply reached.invariant
  · exact fun tokenHash entry present => nomatch present
  · intro config label next reached copied _ moved tokenHash entry present
    have kept {cached : CachedSession} (copy : CopiedFrom config.history tokenHash cached) :
        CopiedFrom next.history tokenHash cached := by
      obtain ⟨event, member, found⟩ := copy
      exact ⟨event, (step_suffix label moved).subset member, found⟩
    obtain ⟨_, _, rfl⟩ | ⟨task, choice, request, command, rest, reply, world, _, selected, executed, rfl⟩ |
      ⟨tick, world, _, drifted, rfl⟩ := service_cases moved
    · exact copied tokenHash entry present
    · rcases exec_cache_entry executed present with before | ⟨ttl, rfl⟩
      · exact kept (copied tokenHash entry before)
      · obtain ⟨event, member, session, created, installed, hash, owner, device, _⟩ :=
          installed_of_set (reaches_disciplined reached) selected
        exact kept ⟨event, member, session, created, installed, hash, owner, device⟩
    · exact copied tokenHash entry (drift_entry drifted present)

/-- Every reachable state is coherent. -/
theorem reaches_coherent
    (reached : (system service backend.store).Reaches allowed
      ((system service backend.store).begin (World.empty backend.store now) requests) config) :
    config.world.Coherent service where
  sound := reaches_sound (World.empty_sound now) reached
  taken := reaches_taken reached
  hashed := by
    intro row present
    obtain ⟨event, member, session, created, installed, hash, _⟩ := issuedTo_of_row reached present
    have observed : installedBy event = some session.tokenHash := by
      rw [installedBy_eq, installed, Option.map_some]
    obtain ⟨plain, _, drawn⟩ := drawn_of_installed (reaches_disciplined reached) member observed
    exact ⟨plain, drawn.trans hash⟩
  copies := by
    intro row present entry cached
    obtain ⟨event, member, session, created, installed, hash, owner, device⟩ :=
      reaches_copied reached row.tokenHash entry cached
    obtain ⟨filled, rfl⟩ := row_of_installation (World.empty_sound now) reached member installed present hash.symm
    exact ⟨owner.symm.trans filled.userID.symm, device.symm.trans filled.deviceID.symm⟩

end Reachable

namespace Renewal

/-- The refresh token is accepted when the renewal presents it. -/
def Accepts {store : SessionStore} (renewal : Renewal) (service : Service) (world : World store) (plain : String) :
    Prop :=
  ∃ response past after,
    (system service store).alone (renewal.turn plain) world = some (⟨.ok response, past⟩, after)

/-- The values that the renewal draws are new, and the store takes the texts of its client. -/
structure Servable {backend : Backend} (renewal : Renewal) (service : Service) (world : World backend.store) :
    Prop where
  fresh : service.hash renewal.token ∉ world.issued
  unused : ∀ row ∈ backend.store.rowSet world.sessions, row.id ≠ renewal.id
  device : backend.storable renewal.deviceID = true
  agent : backend.storable (extractClientInfo renewal.ctx).userAgent = true
  address : backend.storable (extractClientInfo renewal.ctx).ipAddress = true

section
variable {service : Service} {backend : Backend} {world : World backend.store} {renewal : Renewal} {plain : String}

/-- A row is found with the expiry that its copy or its record has. -/
theorem finds_row (coherent : world.Coherent service) (choice : Choice) (works : choice.fails = false) {row : Row}
    (present : row ∈ backend.store.rowSet world.sessions) :
    ∃ cached sessions seen, (lookupSession row.tokenHash).run.eval
        ((systemWith .redis service backend.store).recorded choice) (world, []) =
          some (.ok cached, { world with sessions }, seen) ∧
      cached.expiresAt = row.expiryRead world.cache world.now ∧ cached.userID = row.userID ∧
      cached.deviceID = row.deviceID ∧ SessionStore.Lawful.Inv sessions ∧
      backend.store.rowSet sessions = backend.store.rowSet world.sessions := by
  cases found : lookup world.cache world.now row.tokenHash with
  | some cached =>
      obtain ⟨entry, stored, rfl⟩ := lookup_eq_some found
      obtain ⟨owner, device⟩ := coherent.copies row present entry stored
      refine ⟨entry.value, world.sessions, _, eval_lookup_cached works found [], ?_, owner, device,
        coherent.sound.inv, rfl⟩
      rw [Row.expiryRead, found]
      rfl
  | none =>
      obtain ⟨session, sessions, read, same, inv, rows⟩ := Backend.exec_found coherent.sound.inv works present
        (coherent.taken row present).1
      refine ⟨session.cached, sessions, _, (eval_lookup_stored world works found read []).trans rfl, ?_,
        congrArg Row.userID same, congrArg Row.deviceID same, inv, rows⟩
      rw [Row.expiryRead, found]
      exact congrArg Row.expiresAt same

/-- The store takes the session that a renewal puts in place of a row. -/
theorem Servable.taken (servable : renewal.Servable service world) (coherent : world.Coherent service) {row : Row}
    (present : row ∈ backend.store.rowSet world.sessions) {cached : CachedSession}
    (owner : cached.userID = row.userID) (device : cached.deviceID = row.deviceID) (plain : String) (now : Time) :
    backend.takes world.users
      (refreshSession service renewal.ctx (renewal.request plain) cached renewal.token now) = true := by
  obtain ⟨known, kept⟩ := coherent.taken row present
  have chosen : backend.storable (if renewal.deviceID = "" then cached.deviceID else renewal.deviceID) = true := by
    split
    · rw [device]
      exact kept
    · exact servable.device
  simp only [Backend.takes, refreshSession, owner, known, chosen, servable.agent, servable.address, Bool.and_self]

theorem ready_coherent (coherent : world.Coherent service) : (renewal.ready world).Coherent service :=
  ⟨⟨coherent.sound.inv, coherent.sound.issued⟩, coherent.hashed, coherent.taken, coherent.copies⟩

/-- A renewal with the token of a row is accepted unless the expiry that it reads is over. -/
theorem refresh_row (coherent : world.Coherent service) (servable : renewal.Servable service world) {row : Row}
    (present : row ∈ backend.store.rowSet world.sessions) (hash : row.tokenHash = service.hash plain) :
    ∃ answer after later, (refreshToken service renewal.ctx (renewal.request plain)).run.eval
        ((systemWith .redis service backend.store).recorded renewal.choice) (renewal.ready world, []) =
          some (answer, after, later) ∧
      ((∃ response, answer = .ok response) ↔ ¬ row.expiryRead world.cache renewal.time < renewal.time) := by
  have ready : (renewal.ready world).Coherent service := ready_coherent coherent
  obtain ⟨cached, sessions, seen, finds, expiry, owner, device, inv, rows⟩ :=
    finds_row ready renewal.choice rfl present
  have fresh : ¬ Live (backend.store.rowSet sessions) (service.hash renewal.token) := by
    rw [rows]
    exact fun live => servable.fresh (coherent.sound.issued _ live)
  have live : Live (backend.store.rowSet sessions) row.tokenHash := ⟨row, rows ▸ present, rfl⟩
  have unused : ∀ other ∈ backend.store.rowSet sessions, other.id ≠ renewal.choice.id := by
    rw [rows]
    exact servable.unused
  obtain ⟨created, next, rotated⟩ : ∃ created next, backend.store.exec (.rotateToken row.tokenHash
      (refreshSession service renewal.ctx (renewal.request plain) cached renewal.token renewal.time)) renewal.choice
      world.users renewal.time sessions = some (.ok created, next) :=
    Backend.exec_rotate inv rfl live fresh unused (servable.taken coherent present owner device plain renewal.time)
  rw [hash] at finds rotated
  obtain ⟨answer, after, later, ran, accepted⟩ :=
    refresh_found renewal.ctx (renewal.request plain) rfl finds servable.fresh rotated
  refine ⟨answer, after, later, ran, accepted.trans ?_⟩
  rw [expiry]
  exact ⟨fun both => both.1, fun alive => ⟨alive, created, rfl⟩⟩

/-- A renewal with a token that has no row is refused. -/
theorem refresh_absent (coherent : world.Coherent service) (servable : renewal.Servable service world)
    (absent : ¬ Live (backend.store.rowSet world.sessions) (service.hash plain)) :
    ∃ status after later, (refreshToken service renewal.ctx (renewal.request plain)).run.eval
        ((systemWith .redis service backend.store).recorded renewal.choice) (renewal.ready world, []) =
          some (.error status, after, later) := by
  cases found : lookup world.cache renewal.time (service.hash plain) with
  | some cached =>
      have finds : (lookupSession (service.hash plain)).run.eval
          ((systemWith .redis service backend.store).recorded renewal.choice) (renewal.ready world, []) =
            some (.ok cached, renewal.ready world, _) := eval_lookup_cached rfl found []
      have rotated : backend.store.exec (.rotateToken (service.hash plain)
          (refreshSession service renewal.ctx (renewal.request plain) cached renewal.token renewal.time))
          renewal.choice world.users renewal.time world.sessions = some (.error .sessionNotFound, world.sessions) :=
        Backend.exec_rotate_unknown coherent.sound.inv rfl absent _
      obtain ⟨answer, after, later, ran, accepted⟩ :=
        refresh_found renewal.ctx (renewal.request plain) rfl finds servable.fresh rotated
      cases answer with
      | ok response =>
          obtain ⟨_, _, created⟩ := accepted.mp ⟨response, rfl⟩
          cases created
      | error status => exact ⟨status, after, later, ran⟩
  | none =>
      have read : backend.store.exec (.getByTokenHash (service.hash plain)) renewal.choice world.users renewal.time
          world.sessions = some (.error .sessionNotFound, world.sessions) :=
        Backend.exec_unknown coherent.sound.inv rfl absent
      have missed : (lookupSession (service.hash plain)).run.eval
          ((systemWith .redis service backend.store).recorded renewal.choice) (renewal.ready world, []) =
            some (.error invalidRefreshToken, _, _) :=
        (eval_lookup_stored (renewal.ready world) rfl found read []).trans rfl
      exact ⟨invalidRefreshToken, _, _, eval_error missed⟩

/-- In a coherent state the accepted tokens are those of the rows whose expiry is not over. -/
theorem accepts_iff (coherent : world.Coherent service) (servable : renewal.Servable service world) :
    renewal.Accepts service world plain ↔ ∃ row ∈ backend.store.rowSet world.sessions,
      row.tokenHash = service.hash plain ∧ ¬ row.expiryRead world.cache renewal.time < renewal.time := by
  by_cases live : Live (backend.store.rowSet world.sessions) (service.hash plain)
  · obtain ⟨row, present, hash⟩ := live
    obtain ⟨answer, after, later, ran, accepted⟩ := refresh_row coherent servable present hash
    constructor
    · rintro ⟨response, past, last, answered⟩
      have same := congrArg (Option.map fun result => result.1.answer) ((alone_at.mpr ran).symm.trans answered)
      exact ⟨row, present, hash, accepted.mp ⟨response, Option.some.inj same⟩⟩
    · rintro ⟨other, inside, same, alive⟩
      obtain rfl := SessionStore.rowSet_unique coherent.sound.inv other inside row present (same.trans hash.symm)
      obtain ⟨response, rfl⟩ := accepted.mpr alive
      exact ⟨response, later, after, alone_at.mpr ran⟩
  · obtain ⟨status, after, later, ran⟩ := refresh_absent coherent servable live
    constructor
    · rintro ⟨response, past, last, answered⟩
      have same := congrArg (Option.map fun result => result.1.answer) ((alone_at.mpr ran).symm.trans answered)
      cases same
    · rintro ⟨row, inside, same, _⟩
      exact absurd ⟨row, inside, same⟩ live

end
end Renewal

/-- The sessions of the user whose refresh tokens are accepted when the renewal presents them. -/
def activeSessions {store : SessionStore} (renewal : Renewal) (service : Service) (world : World store)
    (userID : String) : Set String :=
  {id | ∃ row ∈ store.rowSet world.sessions, row.userID = userID ∧ row.id = id ∧
    ∃ plain, service.hash plain = row.tokenHash ∧ renewal.Accepts service world plain}

/-- The sessions that a list shows. -/
def shownSessions (infos : List SessionInfo) : Set String := {id | ∃ info ∈ infos, info.sessionID = id}

/-- A session identifier belongs to one row. -/
theorem Backend.row_identified {backend : Backend} {state : backend.store.State}
    (inv : SessionStore.Lawful.Inv state) : ∀ row ∈ backend.store.rowSet state, ∀ other ∈ backend.store.rowSet state,
      row.id = other.id → row = other := by
  cases backend with
  | memory =>
      intro row member other inside same
      obtain ⟨address, found, rfl⟩ := MemoryState.Consistent.identified inv member
      obtain ⟨address', found', rfl⟩ := MemoryState.Consistent.identified inv inside
      rw [same, found', Option.some.injEq] at found
      rw [found]
  | postgres db =>
      rintro _ ⟨session, member, rfl⟩ _ ⟨other, inside, rfl⟩ same
      rw [SessionTable.id_injective state member inside same]

section
variable {service : Service} {backend : Backend} {world : World backend.store} {renewal : Renewal} {userID : String}

/-- A row is active unless the expiry that a refresh reads is over. -/
theorem mem_activeSessions (coherent : world.Coherent service) (servable : renewal.Servable service world) {row : Row}
    (present : row ∈ backend.store.rowSet world.sessions) (owner : row.userID = userID) :
    row.id ∈ activeSessions renewal service world userID ↔
      ¬ row.expiryRead world.cache renewal.time < renewal.time := by
  constructor
  · rintro ⟨other, inside, _, same, plain, hash, accepted⟩
    obtain rfl := Backend.row_identified coherent.sound.inv other inside row present same
    obtain ⟨found, member, hash', alive⟩ := (Renewal.accepts_iff coherent servable).mp accepted
    obtain rfl := SessionStore.rowSet_unique coherent.sound.inv found member other inside (hash'.trans hash)
    exact alive
  · intro alive
    obtain ⟨plain, hash⟩ := coherent.hashed row present
    exact ⟨row, present, owner, rfl, plain, hash,
      (Renewal.accepts_iff coherent servable).mpr ⟨row, present, hash.symm, alive⟩⟩

/-- A list of all rows of the user shows their identifiers. -/
theorem mem_shownSessions {sessions : List Session} (rows : ∀ row, (∃ session ∈ sessions, session.row = row) ↔
      row ∈ backend.store.rowSet world.sessions ∧ row.userID = userID) (id : String) :
    id ∈ shownSessions (sessions.map sessionInfo) ↔
      ∃ row ∈ backend.store.rowSet world.sessions, row.userID = userID ∧ row.id = id := by
  constructor
  · rintro ⟨_, member, rfl⟩
    obtain ⟨session, inside, rfl⟩ := List.mem_map.mp member
    obtain ⟨present, owner⟩ := (rows session.row).mp ⟨session, inside, rfl⟩
    exact ⟨session.row, present, owner, rfl⟩
  · rintro ⟨row, present, owner, rfl⟩
    obtain ⟨session, inside, rfl⟩ := (rows row).mpr ⟨present, owner⟩
    exact ⟨sessionInfo session, List.mem_map.mpr ⟨session, inside, rfl⟩, rfl⟩

/-- A list of all rows of the user shows the active ones exactly when no row has expired. -/
theorem shown_active_iff (coherent : world.Coherent service) (servable : renewal.Servable service world)
    {sessions : List Session} (rows : ∀ row, (∃ session ∈ sessions, session.row = row) ↔
      row ∈ backend.store.rowSet world.sessions ∧ row.userID = userID) :
    shownSessions (sessions.map sessionInfo) = activeSessions renewal service world userID ↔
      ∀ row ∈ backend.store.rowSet world.sessions, row.userID = userID →
        ¬ row.expiryRead world.cache renewal.time < renewal.time := by
  constructor
  · intro same row present owner
    rw [← mem_activeSessions coherent servable present owner, ← same, mem_shownSessions rows]
    exact ⟨row, present, owner, rfl⟩
  · intro alive
    ext id
    rw [mem_shownSessions rows]
    constructor
    · rintro ⟨row, present, owner, rfl⟩
      exact (mem_activeSessions coherent servable present owner).mpr (alive row present owner)
    · rintro ⟨row, present, owner, same, _⟩
      exact ⟨row, present, owner, same⟩

end

/-- In every state that requests reach one after another, only tokens of stored sessions are accepted, and a list
shows exactly the sessions of the user whose refresh tokens are accepted unless the user has a stored session
that has expired for a refresh. -/
theorem listed_active_iff (service : Service) (backend : Backend) (now : Time) :
    let auth := system service backend.store
    ∀ turns outcomes world, play auth.alone turns (World.empty backend.store now) = some (outcomes, world) →
      ∀ renewal : Renewal, renewal.Servable service world →
        (∀ plain, renewal.Accepts service world plain →
          Live (backend.store.rowSet world.sessions) (service.hash plain)) ∧
        ∀ ctx userID, ctx.Bears service renewal.time userID →
          (∃ order, (auth.alone ⟨.clock renewal.time, { order }, .listSessions ctx⟩ world).isSome) ∧
          ∀ order outcome after,
            auth.alone ⟨.clock renewal.time, { order }, .listSessions ctx⟩ world = some (outcome, after) →
            ∃ infos, outcome.answer = .ok (.listSessions infos) ∧
              (shownSessions infos = activeSessions renewal service world userID ↔
                ∀ row ∈ backend.store.rowSet world.sessions, row.userID = userID →
                  ¬ row.expiryRead world.cache renewal.time < renewal.time) := by
  intro auth turns outcomes world played renewal servable
  have coherent : world.Coherent service :=
    reaches_coherent (reaches_of_play (auth.begin (World.empty backend.store now) []) played)
  refine ⟨?_, fun ctx userID bears => ⟨?_, ?_⟩⟩
  · intro plain accepted
    obtain ⟨row, present, hash, _⟩ := (Renewal.accepts_iff coherent servable).mp accepted
    exact ⟨row, present, hash⟩
  · obtain ⟨order, ⟨answer, after, past⟩, ran⟩ : ∃ order result, (listSessions ctx).run.eval
        ((systemWith .redis service backend.store).recorded { order }) (renewal.ready world, []) = some result :=
      listSessions_total bears []
    refine ⟨order, ?_⟩
    rw [alone_at.mpr ran]
    rfl
  · rintro order ⟨answer, past⟩ after ran
    obtain ⟨sessions, answered, rows⟩ := listSessions_shows rfl bears (alone_at.mp ran)
    exact ⟨sessions.map sessionInfo, answered, shown_active_iff coherent servable rows⟩

/-- A user registers, logs in on a phone and, later in the lifetime of that session, on a laptop. -/
def twoLogins : List (System.Turn Choice Tick Request) :=
  [⟨.clock 0, { id := "user" }, .register bareContext ⟨"a@b.co", "passw0rd"⟩⟩,
    ⟨.clock 0, { id := "first", token := "phone token" }, .login bareContext ⟨"a@b.co", "passw0rd", "phone"⟩⟩,
    ⟨.clock 600000000, { id := "second", token := "laptop token" },
      .login bareContext ⟨"a@b.co", "passw0rd", "laptop"⟩⟩]

/-- A refresh at this time without metadata and with new values. -/
def renewalAt (time : Time) : Renewal := ⟨time, bareContext, "", "third", "new token"⟩

/-- What a refresh with this token is answered at this time. -/
def sampleRefresh (time : Time) (plain : String) (world : World (postgres exactDatabase)) : Option Answer :=
  (sampleSystem.alone ((renewalAt time).turn plain) world).map fun result => result.1.answer

theorem userContext_bears (time : Time) : userContext.Bears sample time "user" :=
  ⟨_, _, _, "user", _, rfl, rfl, by decide +kernel, rfl, rfl⟩

/-- A list of sessions shows the sample user both sessions. -/
theorem shows_both {world : World (postgres exactDatabase)}
    (rows : (world.sessions.rows.map fun session => (session.id, session.userID)) =
      [("second", "user"), ("first", "user")]) (time : Time) :
    ∃ order infos past after, sampleSystem.alone ⟨.clock time, { order }, .listSessions userContext⟩ world =
      some (⟨.ok (.listSessions infos), past⟩, after) ∧ shownSessions infos = {"second", "first"} := by
  obtain ⟨order, ⟨answer, after, past⟩, ran⟩ : ∃ order result, (listSessions userContext).run.eval
      ((systemWith .redis sample (Backend.postgres exactDatabase).store).recorded { order })
      ((renewalAt time).ready world, []) = some result := listSessions_total (userContext_bears time) []
  obtain ⟨sessions, rfl, listed⟩ := listSessions_shows rfl (userContext_bears time) ran
  refine ⟨order, _, past, after, alone_at.mpr ran, Set.ext fun id => ?_⟩
  rw [mem_shownSessions listed]
  have member : (id, "user") ∈ (world.sessions.rows.map fun session => (session.id, session.userID)) ↔
      id = "second" ∨ id = "first" := by
    rw [rows]
    simp
  refine Iff.trans ⟨?_, ?_⟩ member
  · rintro ⟨_, ⟨session, inside, rfl⟩, owner, rfl⟩
    exact List.mem_map.mpr ⟨session, inside, Prod.ext rfl owner⟩
  · intro inside
    obtain ⟨session, present, same⟩ := List.mem_map.mp inside
    obtain ⟨rfl, owner⟩ := Prod.mk.inj same
    exact ⟨session.row, ⟨session, present, rfl⟩, owner, rfl⟩

/-- In this run the session on the phone has expired and is still shown beside the one on the laptop, although a
refresh with its token is refused as expired. -/
theorem expired_session_listed :
    ∃ outcomes world order infos past after,
      play sampleSystem.alone twoLogins (World.empty (postgres exactDatabase) 0) = some (outcomes, world) ∧
      sampleSystem.alone ⟨.clock 1200000000, { order }, .listSessions userContext⟩ world =
        some (⟨.ok (.listSessions infos), past⟩, after) ∧
      shownSessions infos = {"second", "first"} ∧
      sampleRefresh 1200000000 "phone token" world = some (.error expiredRefreshToken) ∧
      sampleRefresh 1200000000 "laptop token" world = some (.ok (.refreshToken "user" "new token")) := by
  have checked : ((play sampleSystem.alone twoLogins (World.empty (postgres exactDatabase) 0)).any fun result =>
      decide ((result.2.sessions.rows.map fun session => (session.id, session.userID)) =
          [("second", "user"), ("first", "user")] ∧
        sampleRefresh 1200000000 "phone token" result.2 = some (.error expiredRefreshToken) ∧
        sampleRefresh 1200000000 "laptop token" result.2 = some (.ok (.refreshToken "user" "new token")))) = true := by
    decide +kernel
  obtain ⟨⟨outcomes, world⟩, played, facts⟩ := (Option.any_eq_true _ _).mp checked
  obtain ⟨rows, refused, accepted⟩ := of_decide_eq_true facts
  obtain ⟨order, infos, past, after, ran, shown⟩ := shows_both rows 1200000000
  exact ⟨outcomes, world, order, infos, past, after, played, ran, shown, refused, accepted⟩

/-- In this run both sessions are still in time, and the list shows exactly the sessions that can be refreshed. -/
theorem live_sessions_listed :
    ∃ outcomes world order infos past after,
      play sampleSystem.alone twoLogins (World.empty (postgres exactDatabase) 0) = some (outcomes, world) ∧
      sampleSystem.alone ⟨.clock 800000000, { order }, .listSessions userContext⟩ world =
        some (⟨.ok (.listSessions infos), past⟩, after) ∧
      shownSessions infos = {"second", "first"} ∧
      shownSessions infos = activeSessions (renewalAt 800000000) sample world "user" := by
  have checked : ((play sampleSystem.alone twoLogins (World.empty (postgres exactDatabase) 0)).any fun result =>
      decide ((result.2.sessions.rows.map fun session => (session.id, session.userID)) =
          [("second", "user"), ("first", "user")] ∧
        sample.hash "new token" ∉ result.2.issued ∧ (∀ session ∈ result.2.sessions.rows, session.id ≠ "third") ∧
        ∀ session ∈ result.2.sessions.rows,
          ¬ session.row.expiryRead result.2.cache 800000000 < 800000000)) = true := by
    decide +kernel
  obtain ⟨⟨outcomes, world⟩, played, facts⟩ := (Option.any_eq_true _ _).mp checked
  obtain ⟨rows, fresh, unused, alive⟩ := of_decide_eq_true facts
  obtain ⟨order, infos, past, after, ran, shown⟩ := shows_both rows 800000000
  have servable : @Renewal.Servable (.postgres exactDatabase) (renewalAt 800000000) sample world := by
    refine ⟨fresh, ?_, by decide +kernel, by decide +kernel, by decide +kernel⟩
    rintro _ ⟨session, member, rfl⟩
    exact unused session member
  obtain ⟨found, answered, exact⟩ := ((listed_active_iff sample (.postgres exactDatabase) 0 twoLogins outcomes world
    played (renewalAt 800000000) servable).2 userContext "user" (userContext_bears 800000000)).2 order _ after ran
  cases answered
  refine ⟨outcomes, world, order, infos, past, after, played, ran, shown, exact.mpr ?_⟩
  rintro _ ⟨session, member, rfl⟩ _
  exact alive session member

end AuthService
