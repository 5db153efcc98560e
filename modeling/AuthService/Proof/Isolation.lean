/-
This file proves that a request changes and shows only what belongs to the user that its credential identifies.
-/

import AuthService.Proof.Ownership
import AuthService.Proof.ResetAuthority

namespace AuthService
open Interleaving Program System

section Definitions
variable {store : SessionStore}

/-- The user with this address. -/
def Registered (config : ServiceConfig store) (email userID : String) : Prop :=
  ∃ user ∈ config.world.users.rows, user.email = email ∧ user.id = userID

/-- A reset token with this hash was saved for the user. -/
def Granted (history : List (Event Ports)) (tokenHash userID : String) : Prop :=
  ∃ task email ttl, (⟨task, .resets (.saveResetToken tokenHash userID email ttl), .ok ()⟩ : Event Ports) ∈ history

/-- The user that the credential of a request identifies: the user of the bearer token, the owner of the refresh
token, the user whose reset token it is, or the user with the address. -/
def Credential (service : Service) (config : ServiceConfig store) (task : Nat) : Request → String → Prop
  | .register _ req, userID => Registered config req.email userID
  | .login _ req, userID => Registered config req.email userID
  | .validateToken _, _ => False
  | .refreshToken _ req, userID => IssuedTo config.history (service.hash req.refreshToken) userID
  | .logout _ token, userID => IssuedTo config.history (service.hash token) userID
  | .logoutAll ctx, userID => Validated ctx (transcript task config.history) userID
  | .listSessions ctx, userID => Validated ctx (transcript task config.history) userID
  | .revokeSession ctx _, userID => Validated ctx (transcript task config.history) userID
  | .changePassword ctx _, userID => Validated ctx (transcript task config.history) userID
  | .requestPasswordReset _ email, userID => Registered config email userID
  | .verifyResetCode _ req, userID => Registered config req.email userID
  | .resetPassword _ req, userID => Granted config.history (service.hash req.resetToken) userID

/-- Everything that belongs to the user is as it was. -/
structure Untouched (service : Service) (config next : ServiceConfig store) (user : User) : Prop where
  account : user ∈ next.world.users.rows
  sessions : ∀ session : Session, session.userID = user.id →
    (session ∈ store.rows next.world.sessions ↔ session ∈ store.rows config.world.sessions)
  cache : ∀ tokenHash, IssuedTo config.history tokenHash user.id →
    next.world.cache tokenHash = config.world.cache tokenHash
  code : next.world.otps (service.hash user.email) = config.world.otps (service.hash user.email)
  resetTokens : ∀ (tokenHash : String) (entry : Expiring ResetTokenRecord), entry.value.userID = user.id →
    (next.world.resetTokens tokenHash = some entry ↔ config.world.resetTokens tokenHash = some entry)

/-- The values whose hashes are compared: those of the requests and the addresses of the users. -/
def comparedValues (config : ServiceConfig store) : Set String :=
  hashedValues config ∪ {email | ∃ user ∈ config.world.users.rows, user.email = email}

end Definitions

section Step
variable {service : Service} {backend : Backend} {now : Time} {requests : List Request}
variable {allowed : ServiceConfig backend.store → ServiceLabel → Prop} {config : ServiceConfig backend.store}
variable {task : Nat} {request : Request} {command : Command} {rest : command.Reply → Program Ports Answer}
variable {choice : Choice} {reply : command.Reply} {world : World backend.store} {user : User}

/-- The user for whom a request deletes sessions is the one that its credential identifies. -/
theorem credential_of_actsFor
    (reached : (system service backend.store).Reaches allowed
      ((system service backend.store).begin (World.empty backend.store now) requests) config)
    {userID : String} (acts : ActsFor service request (transcript task config.history) userID) :
    Credential service config task request userID := by
  cases request with
  | resetPassword ctx req =>
      obtain ⟨found, read, rfl⟩ := acts
      obtain ⟨saver, ttl, saved⟩ := saved_of_found reached ((mem_transcript _ _ _).mp read)
      exact ⟨saver, found.email, ttl, saved⟩
  | logoutAll ctx => exact acts
  | revokeSession ctx sessionID => exact acts
  | changePassword ctx req => exact acts
  | _ => exact acts.elim

theorem granted_of_reset
    (reached : (system service backend.store).Reaches allowed
      ((system service backend.store).begin (World.empty backend.store now) requests) config)
    {req : ResetPasswordRequest} {found : ResetTokenRecord}
    (grant : ResetGrant service req (transcript task config.history) found) :
    Granted config.history (service.hash req.resetToken) found.userID := by
  obtain ⟨saver, ttl, saved⟩ := saved_of_found reached ((mem_transcript _ _ _).mp (mem_of_select grant.read))
  exact ⟨saver, found.email, ttl, saved⟩

theorem registered_of_login
    (reached : (system service backend.store).Reaches allowed
      ((system service backend.store).begin (World.empty backend.store now) requests) config)
    {req : LoginRequest} {found : User} {access plain : String} {time : Time}
    (grant : LoginGrant service req (transcript task config.history) found access plain time) :
    Registered config req.email found.id := by
  have read := (mem_transcript _ _ _).mp (mem_of_select grant.read)
  obtain ⟨later, inside, identity, address⟩ := reaches_user reached _ read found rfl
  exact ⟨later, inside, address.trans (reaches_address reached read), identity⟩

/-- The account of another user stays as it is. -/
theorem account_kept
    (reached : (system service backend.store).Reaches allowed
      ((system service backend.store).begin (World.empty backend.store now) requests) config)
    (selected : config.tasks[task]? = some ⟨request, .call command rest⟩)
    (executed : exec service command choice config.world = some (reply, world))
    (member : user ∈ config.world.users.rows) (stranger : ¬ Credential service config task request user.id) :
    user ∈ world.users.rows := by
  by_cases call : ∃ call, command = .users call
  · obtain ⟨call, rfl⟩ := call
    obtain ⟨users, performed, rfl⟩ := exec_users executed
    rcases UserTable.exec_cases performed with rfl | ⟨_, _, _, _, rows⟩ | ⟨userID, passwordHash, rfl, rows⟩
    · exact member
    · exact rows ▸ List.mem_cons_of_mem _ member
    · have other : user.id ≠ userID := by
        rintro rfl
        generalize same : user.id = userID at selected
        cases (reaches_disciplined reached).next_permitted selected with
        | free harmless => cases harmless
        | change grant first => exact stranger (same ▸ grant.validated)
        | reset grant dropped => exact stranger (same ▸ granted_of_reset reached grant)
      change user ∈ users.rows
      rw [rows]
      exact List.mem_map.mpr ⟨user, member, if_neg other⟩
  · rw [(exec_changes executed).keeps_users fun other same => call ⟨other, same⟩]
    exact member

/-- A new session belongs to the user that the credential identifies. -/
theorem credential_of_newSession
    (reached : (system service backend.store).Reaches allowed
      ((system service backend.store).begin (World.empty backend.store now) requests) config)
    {call : SessionCommand} {following : call.Reply → Program Ports Answer}
    (selected : config.tasks[task]? = some ⟨request, .call (.sessions call) following⟩) {session : Session}
    (new : call.newSession = some session) : Credential service config task request session.userID := by
  cases (reaches_disciplined reached).next_permitted selected with
  | free harmless => cases call <;> simp_all [Command.free, Command.writes, SessionCommand.newSession]
  | login grant first =>
      obtain rfl := Option.some.inj new
      exact registered_of_login reached grant
  | rotate grant first =>
      obtain rfl := Option.some.inj new
      exact (reaches_attributed reached).looked grant.looked
  | _ => cases new

/-- A row that a request may remove belongs to the user that the credential identifies. -/
theorem credential_of_target
    (reached : (system service backend.store).Reaches allowed
      ((system service backend.store).begin (World.empty backend.store now) requests) config)
    {call : SessionCommand} {following : call.Reply → Program Ports Answer}
    (selected : config.tasks[task]? = some ⟨request, .call (.sessions call) following⟩) {row : Row}
    (present : row ∈ rowsOf config) (targets : call.Targets row) :
    Credential service config task request row.userID := by
  have issued := issuedTo_of_row reached present
  cases (reaches_disciplined reached).next_permitted selected with
  | free harmless =>
      cases call <;> first | exact targets.elim | cases harmless
  | login grant first => exact targets.elim
  | expire looked read expired first =>
      rw [show row.tokenHash = _ from targets] at issued
      exact issued
  | rotate grant first =>
      rw [show row.tokenHash = _ from targets] at issued
      exact issued
  | logout first =>
      rw [show row.tokenHash = _ from targets] at issued
      exact issued
  | logoutAll validated first => exact targets ▸ validated
  | revoke validated first => exact targets ▸ validated
  | revokeOthers grant changed kept => exact targets ▸ grant.validated
  | revokeAll grant changed => exact targets ▸ granted_of_reset reached grant

/-- The owner of the presented refresh token is the user that the credential identifies. -/
theorem credential_of_presented {token userID : String} (presented : request.sessionToken = some token)
    (issued : IssuedTo config.history (service.hash token) userID) :
    Credential service config task request userID := by
  cases request with
  | refreshToken ctx req =>
      obtain rfl := Option.some.inj presented
      exact issued
  | logout ctx plain =>
      obtain rfl := Option.some.inj presented
      exact issued
  | _ => cases presented

/-- A record that a request may refresh on reading it belongs to the user that the credential identifies. -/
theorem credential_of_lookup
    (reached : (system service backend.store).Reaches allowed
      ((system service backend.store).begin (World.empty backend.store now) requests) config)
    {tokenHash : String} {following : (SessionCommand.getByTokenHash tokenHash).Reply → Program Ports Answer}
    (selected : config.tasks[task]? = some ⟨request, .call (.sessions (.getByTokenHash tokenHash)) following⟩)
    {row : Row} (present : row ∈ rowsOf config) (same : row.tokenHash = tokenHash) :
    Credential service config task request row.userID := by
  obtain ⟨token, presented, hashed⟩ := (reached.disciplined (tidy_handle service)).next_permitted selected
  refine credential_of_presented presented ?_
  rw [hashed, ← same]
  exact issuedTo_of_row reached present

/-- The sessions of another user stay as they are. -/
theorem sessions_kept
    (reached : (system service backend.store).Reaches allowed
      ((system service backend.store).begin (World.empty backend.store now) requests) config)
    (selected : config.tasks[task]? = some ⟨request, .call command rest⟩)
    (executed : exec service command choice config.world = some (reply, world))
    (stranger : ¬ Credential service config task request user.id) (session : Session)
    (owner : session.userID = user.id) :
    session ∈ backend.store.rows world.sessions ↔ session ∈ backend.store.rows config.world.sessions := by
  by_cases call : ∃ call, command = .sessions call
  · obtain ⟨call, rfl⟩ := call
    obtain ⟨sessions, performed, rfl⟩ := exec_sessions executed
    have ledger := reaches_ledger (World.empty_sound now) reached
    have effect := (ledger.effect (World.empty_sound now) (reaches_disciplined reached) selected performed).2
    have keyed := SessionStore.Lawful.keyed config.world.sessions ledger.inv
    have back (found : Session) (own : found.userID = user.id) (member : found ∈ backend.store.rows sessions) :
        found ∈ backend.store.rows config.world.sessions := by
      rcases Backend.exec_inherited ledger.inv performed member with before | ⟨new, installs, same⟩ | rfl
      · exact before
      · have identified := credential_of_newSession reached selected installs
        rw [← same, own] at identified
        exact absurd identified stranger
      · have present : found.row ∈ rowsOf config := by
          rw [← effect.of_read rfl]
          exact ⟨found, member, rfl⟩
        have identified := credential_of_lookup reached selected present rfl
        exact absurd (own ▸ identified) stranger
    refine ⟨back session owner, fun member => ?_⟩
    have present : session.row ∈ rowsOf config := ⟨session, member, rfl⟩
    have spared : ¬ call.Targets session.row := fun targets =>
      stranger (owner ▸ credential_of_target reached selected present targets)
    obtain ⟨later, inside, same⟩ := effect.kept (SessionStore.rowSet_unique ledger.inv) present spared
    have hash : later.tokenHash = session.tokenHash := congrArg Row.tokenHash same
    have before := back later ((congrArg Row.userID same).trans owner) inside
    rwa [List.inj_on_of_nodup_map keyed before member hash] at inside
  · rw [(exec_changes executed).keeps_sessions fun other same => call ⟨other, same⟩]

/-- A request caches a session of the user that its credential identifies. -/
theorem credential_of_set
    (reached : (system service backend.store).Reaches allowed
      ((system service backend.store).begin (World.empty backend.store now) requests) config)
    {tokenHash : String} {cached : CachedSession} {ttl : Duration}
    {following : (CacheCommand.set tokenHash cached ttl).Reply → Program Ports Answer}
    (selected : config.tasks[task]? = some ⟨request, .call (.cache (.set tokenHash cached ttl)) following⟩) :
    Credential service config task request cached.userID := by
  cases (reaches_disciplined reached).next_permitted selected with
  | free harmless => cases harmless
  | cacheLogin grant created => exact registered_of_login reached grant
  | cacheRefresh grant rotated =>
      have issued := (reaches_attributed reached).looked grant.looked
      exact issued

/-- The cache entries of another user stay as they are. -/
theorem cache_kept
    (reached : (system service backend.store).Reaches allowed
      ((system service backend.store).begin (World.empty backend.store now) requests) config)
    (selected : config.tasks[task]? = some ⟨request, .call command rest⟩)
    (executed : exec service command choice config.world = some (reply, world))
    (stranger : ¬ Credential service config task request user.id) {tokenHash : String}
    (owner : IssuedTo config.history tokenHash user.id) : world.cache tokenHash = config.world.cache tokenHash := by
  by_cases call : ∃ call, command = .cache call
  · obtain ⟨call, rfl⟩ := call
    obtain rfl : (execCache call choice config.world).2 = world := congrArg Prod.snd (exec_cache executed)
    refine execCache_entry fun changes => stranger ?_
    have unique {userID : String} (issued : IssuedTo config.history tokenHash userID) : userID = user.id :=
      issued.unique (reaches_ledger (World.empty_sound now) reached).installs owner
    cases call with
    | set writtenHash cached ttl =>
        obtain rfl : writtenHash = tokenHash := changes
        have issued := issuedTo_of_set (reaches_disciplined reached) selected
        exact unique issued ▸ credential_of_set reached selected
    | get readHash => exact changes.elim
    | delete deletedHash =>
        obtain rfl : deletedHash = tokenHash := changes
        rcases (reached.disciplined (tidy_handle service)).next_permitted selected with
          ⟨token, presented, rfl⟩ | ⟨userID, acts, exchange, member, lists⟩
        · exact credential_of_presented presented owner
        · have issued := issuedTo_of_listed reached ((mem_transcript _ _ _).mp member) lists
          exact unique issued ▸ credential_of_actsFor reached acts
  · rw [(exec_changes executed).keeps_cache fun other same => call ⟨other, same⟩]

/-- The code of another user stays as it is. -/
theorem code_kept
    (reached : (system service backend.store).Reaches allowed
      ((system service backend.store).begin (World.empty backend.store now) requests) config)
    (injective : Set.InjOn service.hash (comparedValues config))
    (selected : config.tasks[task]? = some ⟨request, .call command rest⟩)
    (executed : exec service command choice config.world = some (reply, world))
    (member : user ∈ config.world.users.rows) (stranger : ¬ Credential service config task request user.id) :
    world.otps (service.hash user.email) = config.world.otps (service.hash user.email) := by
  by_cases call : ∃ call, command = .resets call
  · obtain ⟨call, rfl⟩ := call
    obtain rfl : (execResets service call choice config.world).2 = world := congrArg Prod.snd (exec_resets executed)
    refine execResets_code fun changes => stranger ?_
    have started : config.request task = some request := by
      rw [Config.request, selected, Option.map_some]
    have registered {email : String} (hashed : email ∈ request.hashes)
        (same : service.hash email = service.hash user.email) : Registered config email user.id :=
      ⟨user, member, (injective (.inl (hashed_of_request started hashed)) (.inr ⟨user, member, rfl⟩) same).symm, rfl⟩
    cases (reaches_disciplined reached).next_permitted selected with
    | free harmless => cases call <;> first | exact changes.elim | cases harmless
    | saveCode read drawn first => exact registered (by simp [Request.hashes]) changes
    | count read first => exact registered (by simp [Request.hashes]) changes
    | dropCode counted => exact registered (by simp [Request.hashes]) changes
    | _ => exact changes.elim
  · rw [(exec_changes executed).keeps_otps fun other same => call ⟨other, same⟩]

/-- The reset tokens of another user stay as they are. -/
theorem resetToken_kept
    (reached : (system service backend.store).Reaches allowed
      ((system service backend.store).begin (World.empty backend.store now) requests) config)
    (injective : Set.InjOn service.hash (hashedValues config))
    (selected : config.tasks[task]? = some ⟨request, .call command rest⟩)
    (executed : exec service command choice config.world = some (reply, world))
    (stranger : ¬ Credential service config task request user.id) {tokenHash : String}
    {entry : Expiring ResetTokenRecord} (owner : entry.value.userID = user.id) :
    world.resetTokens tokenHash = some entry ↔ config.world.resetTokens tokenHash = some entry := by
  have disciplined := reaches_disciplined reached
  have started : config.request task = some request := by
    rw [Config.request, selected, Option.map_some]
  constructor
  · intro present
    rcases exec_resetTokens executed present with before | ⟨ttl, same⟩
    · exact before
    · cases same
      generalize entry.value.userID = userID, entry.value.email = email at owner selected
      cases disciplined.next_permitted selected with
      | free harmless => cases harmless
      | saveToken grant drawn first =>
          obtain ⟨⟨found, inside, identity, address⟩, _⟩ := generated_of_read reached injective started
            ((mem_transcript _ _ _).mp grant.read) grant.verified.symm
          exact absurd ⟨found, inside, address, identity.trans owner⟩ stranger
  · intro present
    obtain ⟨saver, ttl, saved⟩ := (reaches_recorded reached).tokens tokenHash entry present
    by_cases call : ∃ call, command = .resets call
    · obtain ⟨call, rfl⟩ := call
      obtain rfl : (execResets service call choice config.world).2 = world :=
        congrArg Prod.snd (exec_resets executed)
      rw [execResets_token, present]
      intro changes
      cases call with
      | saveResetToken savedHash userID email lifetime =>
          obtain rfl : savedHash = tokenHash := changes
          have fresh := (reaches_ledger (World.empty_sound now) reached).fresh
          exact next_save_fresh disciplined fresh selected saved
      | deleteResetToken deletedHash =>
          obtain rfl : deletedHash = tokenHash := changes
          cases disciplined.next_permitted selected with
          | free harmless => cases harmless
          | dropToken grant first => exact stranger ⟨saver, entry.value.email, ttl, owner ▸ saved⟩
      | _ => exact changes.elim
    · rw [(exec_changes executed).keeps_resetTokens fun other same => call ⟨other, same⟩]
      exact present

end Step

section Bearers

/-- The requests whose credential is a bearer token. -/
def Request.bearer : Request → Bool
  | .logoutAll _ | .listSessions _ | .revokeSession _ _ | .changePassword _ _ => true
  | _ => false

/-- The call validates an access token. -/
def Validates (command : Command) : Prop := ∃ token, command = .tokens (.validate token)

/-- A request with a bearer token validates it before every other call. -/
def Introduces (request : Request) (past : Past) (command : Command) : Prop :=
  request.bearer = true → Validates command → past = []

/-- A `ListSessions` request answers with the sessions that it has read for the user of its bearer token. -/
def Shows : Request → Past → Answer → Prop
  | .listSessions ctx, past, .ok (.listSessions infos) => ∃ userID sessions earlier,
      past = ⟨.sessions (.listByUserID userID), .ok sessions⟩ :: earlier ∧ Validated ctx past userID ∧
        infos = sessions.map sessionInfo
  | _, _, _ => True

/-- The calls after the validation. -/
abbrev Introduced (command : Command) : Prop := ¬ Validates command

theorem introduced_cache (command : CacheCommand) : Introduced (.cache command) := by
  rintro ⟨token, ⟨⟩⟩

theorem introduced_background (command : BackgroundCommand) : Introduced (.background command) := by
  rintro ⟨token, ⟨⟩⟩

/-- A request that validates its bearer token first and never again. -/
theorem introduces_bearer {request : Request} (ctx : Context) {rest : String → Handler Response}
    (after : ∀ userID, (rest userID).run.Only Introduced) :
    (extractUserIDFromCtx ctx >>= rest).run.Follows (Introduces request) (fun _ _ => True) [] := by
  rw [follows_run_bind]
  apply follows_extractUserIDFromCtx ctx fun _ _ _ => rfl
  · intro status
    trivial
  · intro token status
    trivial
  · intro token claims validated
    rw [continues_ok]
    exact follows_of_only (after claims.userID) (fun _ _ later _ again => absurd again later)
      (fun _ _ _ _ => id) _ trivial

theorem introduces_logoutAll (ctx : Context) :
    (logoutAll ctx).run.Follows (Introduces (.logoutAll ctx)) (fun _ _ => True) [] := by
  refine introduces_bearer ctx fun userID => ?_
  refine only_run_bind (only_run_perform (by rintro ⟨token, ⟨⟩⟩)) fun deleted => ?_
  refine only_run_bind ?_ fun hashes => ?_
  · obtain ⟨hashes, _ | error⟩ := deleted <;> trivial
  refine only_run_bind (only_deleteHashes _ (fun _ => introduced_cache _) hashes) fun _ => ?_
  exact only_run_bind (only_report _ introduced_background _ _ _ _ _ _ _) fun _ => trivial

theorem introduces_revokeSession (ctx : Context) (sessionID : String) :
    (revokeSession ctx sessionID).run.Follows (Introduces (.revokeSession ctx sessionID)) (fun _ _ => True) [] := by
  refine introduces_bearer ctx fun userID => ?_
  refine only_run_bind (only_run_perform (by rintro ⟨token, ⟨⟩⟩)) fun deleted => ?_
  refine only_run_bind (only_orStatus _ _ deleted) fun tokenHash => ?_
  refine only_run_bind (only_deleteSessionFromCache _ (introduced_cache _)) fun _ => ?_
  exact only_run_bind (only_report _ introduced_background _ _ _ _ _ _ _) fun _ => trivial

theorem introduces_changePassword (service : Service) (ctx : Context) (req : ChangePasswordRequest) :
    (changePassword service ctx req).run.Follows (Introduces (.changePassword ctx req)) (fun _ _ => True) [] := by
  refine introduces_bearer ctx fun userID => ?_
  refine only_run_bind (only_checkArgument _) fun _ => ?_
  refine only_run_bind (only_run_perform (by rintro ⟨token, ⟨⟩⟩)) fun found => ?_
  refine only_run_bind (only_orInternalError found) fun user => ?_
  refine only_run_bind (only_checkCurrentPassword _ _ _ _) fun _ => ?_
  refine only_run_bind (only_hashPassword _ (by rintro ⟨token, ⟨⟩⟩) _ _) fun newHash => ?_
  refine only_run_bind (only_run_perform (by rintro ⟨token, ⟨⟩⟩)) fun written => ?_
  refine only_run_bind (only_orInternalError written) fun _ => ?_
  refine only_run_bind (only_run_perform (by rintro ⟨token, ⟨⟩⟩)) fun deleted => ?_
  refine only_run_bind (only_deleteHashes _ (fun _ => introduced_cache _) deleted.1) fun _ => ?_
  exact only_run_bind (only_report _ introduced_background _ _ _ _ _ _ _) fun _ => trivial

theorem introduces_listSessions (ctx : Context) :
    (listSessions ctx).run.Follows (Introduces (.listSessions ctx)) (Shows (.listSessions ctx)) [] := by
  unfold listSessions
  rw [follows_run_bind]
  apply follows_extractUserIDFromCtx ctx fun _ _ _ => rfl
  · intro status
    trivial
  · intro token status
    trivial
  · intro token claims validated
    rw [continues_ok, follows_run_bind]
    refine follows_call (by rintro _ ⟨other, ⟨⟩⟩) fun read => ?_
    rw [continues_ok, follows_run_bind]
    apply follows_orInternalError
    · intro error _
      trivial
    · rintro sessions rfl
      exact ⟨claims.userID, sessions, _, rfl, validated.mono fun _ => List.mem_cons_of_mem _, rfl⟩

theorem introduces_handle (service : Service) (request : Request) :
    (handle service request).run.Follows (Introduces request) (Shows request) [] := by
  have silent {program : Program Ports Answer} (open' : ∀ past answer, Shows request past answer)
      (follows : program.Follows (Introduces request) (fun _ _ => True) []) :
      program.Follows (Introduces request) (Shows request) [] := follows.imp fun past answer _ => open' past answer
  cases request with
  | listSessions ctx => exact introduces_listSessions ctx
  | logoutAll ctx => exact silent (fun _ _ => trivial) (introduces_logoutAll ctx)
  | revokeSession ctx sessionID => exact silent (fun _ _ => trivial) (introduces_revokeSession ctx sessionID)
  | changePassword ctx req => exact silent (fun _ _ => trivial) (introduces_changePassword service ctx req)
  | _ => exact follows_anything (fun _ _ => nofun) (fun _ _ => trivial) _ _

end Bearers

section Identity
variable {service : Service} {backend : Backend} {now : Time} {requests : List Request}
variable {allowed : ServiceConfig backend.store → ServiceLabel → Prop} {config : ServiceConfig backend.store}
variable {task : Nat} {request : Request} {first second : String}

theorem Registered.unique {email : String} (left : Registered config email first)
    (right : Registered config email second) : first = second := by
  obtain ⟨user, member, address, rfl⟩ := left
  obtain ⟨other, member', address', rfl⟩ := right
  rw [List.inj_on_of_nodup_map config.world.users.uniqueEmail member member' (address.trans address'.symm)]

theorem savedBy_eq_some {exchange : Exchange Ports} {tokenHash : String} (saves : savedBy exchange = some tokenHash) :
    ∃ userID email ttl, exchange = ⟨.resets (.saveResetToken tokenHash userID email ttl), .ok ()⟩ := by
  unfold savedBy at saves
  split at saves
  · cases saves
    exact ⟨_, _, _, rfl⟩
  · cases saves

/-- A reset token is saved once. -/
theorem granted_unique
    (reached : (system service backend.store).Reaches allowed
      ((system service backend.store).begin (World.empty backend.store now) requests) config)
    {tokenHash : String} (left : Granted config.history tokenHash first)
    (right : Granted config.history tokenHash second) : first = second := by
  have explained : Explained (fun (event : Event Ports) past => ∀ userID email ttl,
      event.exchange.command = .resets (.saveResetToken tokenHash userID email ttl) →
      ∀ saver userID' email' ttl', (⟨saver, .resets (.saveResetToken tokenHash userID' email' ttl'), .ok ()⟩ :
        Event Ports) ∉ past) config.history := by
    apply reaches_explained reached
    rintro config task request command rest choice reply world reached selected executed userID email ttl rfl
    intro saver userID' email' ttl'
    have fresh := (reaches_ledger (World.empty_sound now) reached).fresh
    exact next_save_fresh (reaches_disciplined reached) fresh selected
  let related (event other : Event Ports) : Prop :=
    savedBy event.exchange = some tokenHash ∧ savedBy other.exchange = some tokenHash
  obtain ⟨saver, email, ttl, saved⟩ := left
  obtain ⟨saver', email', ttl', saved'⟩ := right
  have same := explained.unique related (fun _ _ => And.symm) ?_ saved saved' ⟨rfl, rfl⟩
  · cases same
    rfl
  · rintro ⟨_, exchange⟩ past fresh ⟨other, exchange'⟩ member ⟨saves, saves'⟩
    obtain ⟨userID, email, ttl, rfl⟩ := savedBy_eq_some saves
    obtain ⟨userID', email', ttl', rfl⟩ := savedBy_eq_some saves'
    exact fresh userID email ttl rfl other userID' email' ttl' member

/-- A bearer token is validated once. -/
theorem validated_unique
    (reached : (system service backend.store).Reaches allowed
      ((system service backend.store).begin (World.empty backend.store now) requests) config)
    (started : config.request task = some request) (bearer : request.bearer = true) {ctx : Context}
    (left : Validated ctx (transcript task config.history) first)
    (right : Validated ctx (transcript task config.history) second) : first = second := by
  obtain ⟨md, header, rest, token, claims, _, _, _, member, rfl⟩ := left
  obtain ⟨md', header', rest', token', claims', _, _, _, member', rfl⟩ := right
  let related (event other : Event Ports) : Prop := event.task = task ∧ other.task = task ∧
    Validates event.exchange.command ∧ Validates other.exchange.command
  have same := (reached.disciplined (introduces_handle service)).permitted.unique related
    (fun _ _ ⟨own, other, one, two⟩ => ⟨other, own, two, one⟩) ?_ ((mem_transcript _ _ _).mp member)
    ((mem_transcript _ _ _).mp member') ⟨rfl, rfl, ⟨token, rfl⟩, token', rfl⟩
  · cases same
    rfl
  · rintro ⟨owner, exchange⟩ past ⟨known, requested, introduces⟩ ⟨other, exchange'⟩ inside ⟨own, own', one, _⟩
    obtain rfl : owner = task := own
    obtain rfl : other = owner := own'
    obtain rfl : known = request := Option.some.inj (requested.symm.trans started)
    have before : exchange' ∈ transcript other past := (mem_transcript _ _ _).mpr inside
    rw [introduces bearer one] at before
    cases before

/-- A credential identifies at most one user. -/
theorem credential_unique
    (reached : (system service backend.store).Reaches allowed
      ((system service backend.store).begin (World.empty backend.store now) requests) config)
    (started : config.request task = some request) (left : Credential service config task request first)
    (right : Credential service config task request second) : first = second := by
  have installs := (reaches_ledger (World.empty_sound now) reached).installs
  cases request with
  | register ctx req => exact Registered.unique left right
  | login ctx req => exact Registered.unique left right
  | validateToken token => exact left.elim
  | refreshToken ctx req => exact IssuedTo.unique installs left right
  | logout ctx token => exact IssuedTo.unique installs left right
  | logoutAll ctx => exact validated_unique reached started rfl left right
  | listSessions ctx => exact validated_unique reached started rfl left right
  | revokeSession ctx sessionID => exact validated_unique reached started rfl left right
  | changePassword ctx req => exact validated_unique reached started rfl left right
  | requestPasswordReset ctx email => exact Registered.unique left right
  | verifyResetCode ctx req => exact Registered.unique left right
  | resetPassword ctx req => exact granted_unique reached left right

/-- A list of sessions shows sessions that the user of the bearer token has at that moment. -/
theorem listed_own
    (reached : (system service backend.store).Reaches allowed
      ((system service backend.store).begin (World.empty backend.store now) requests) config)
    {choice : Choice} {next : ServiceConfig backend.store} (permitted : allowed config (.advance task choice))
    (moved : (system service backend.store).step config (.advance task choice) = some next) {ctx : Context}
    (started : config.request task = some (.listSessions ctx)) {infos : List SessionInfo}
    (answered : next.Answered task (.ok (.listSessions infos))) :
    ∃ userID, Credential service next task (.listSessions ctx) userID ∧ ∀ info ∈ infos,
      ∃ session ∈ backend.store.rows config.world.sessions, session.userID = userID ∧ sessionInfo session = info := by
  have kept := step_request _ moved task _ started
  obtain ⟨userID, sessions, earlier, past, validated, rfl⟩ :=
    ((Reaches.step _ reached permitted moved).disciplined (introduces_handle service)).answered task _ _ kept answered
  refine ⟨userID, validated, fun info member => ?_⟩
  obtain ⟨session, listed, rfl⟩ := List.mem_map.mp member
  obtain ⟨_, label, _⟩ | ⟨_, _, request, command, rest, reply, world, same, selected, executed, rfl⟩ |
    ⟨_, _, label, _⟩ := service_cases moved
  · cases label
  · cases same
    rw [transcript_cons_self] at past
    obtain ⟨same, _⟩ := List.cons.inj past
    cases same
    obtain ⟨_, performed, _⟩ := exec_sessions executed
    obtain ⟨inside, owner⟩ := Backend.exec_list performed listed
    exact ⟨session, inside, owner, rfl⟩
  · cases label

end Identity

/-- In every run from empty stores, with any interleaving and any failures, the credential of a request
identifies at most one user, each step of the request leaves everything of every other user as it was, and a
list of sessions shows only sessions of that user. -/
theorem users_isolated (service : Service) (backend : Backend) (now : Time) :
    let auth := system service backend.store
    let initial := auth.begin (World.empty backend.store now) []
    ∀ config task choice next request, auth.Reaches Anything initial config →
      Set.InjOn service.hash (comparedValues config) → config.request task = some request →
      auth.step config (.advance task choice) = some next →
      (∀ first second, Credential service config task request first →
        Credential service config task request second → first = second) ∧
      (∀ user ∈ config.world.users.rows, ¬ Credential service config task request user.id →
        Untouched service config next user) ∧
      ∀ ctx infos, request = .listSessions ctx → next.Answered task (.ok (.listSessions infos)) →
        ∃ userID, Credential service next task request userID ∧ ∀ info ∈ infos,
          ∃ session ∈ backend.store.rows config.world.sessions,
            session.userID = userID ∧ sessionInfo session = info := by
  intro auth initial config task choice next request reached injective started moved
  refine ⟨fun _ _ => credential_unique reached started, ?_, ?_⟩
  · intro user member stranger
    obtain ⟨_, label, _⟩ | ⟨_, _, owner, command, rest, reply, world, same, selected, executed, rfl⟩ |
      ⟨_, _, label, _⟩ := service_cases moved
    · cases label
    · cases same
      obtain rfl : owner = request := by
        rw [Config.request, selected] at started
        exact Option.some.inj started
      have hashed : Set.InjOn service.hash (hashedValues config) := injective.mono Set.subset_union_left
      exact {
        account := account_kept reached selected executed member stranger
        sessions := sessions_kept reached selected executed stranger
        cache := fun _ => cache_kept reached selected executed stranger
        code := code_kept reached injective selected executed member stranger
        resetTokens := fun _ _ => resetToken_kept reached hashed selected executed stranger }
    · cases label
  · rintro ctx infos rfl answered
    exact listed_own reached rfl moved started answered

/-- The user of the access token that an event has validated. -/
def validatedUser : Event Ports → Option String
  | ⟨_, .tokens (.validate _), some claims⟩ => some claims.userID
  | _ => none

/-- In this run a user asks to revoke a session of another user, and nothing of the other user changes. -/
theorem foreign_session_untouched :
    ∃ config next, sampleSystem.Reaches Anything (sampleStart []) config ∧
      sampleSystem.step config (.advance 3 {}) = some next ∧
      (∃ session ∈ config.world.sessions.rows, session.id = "session" ∧ session.userID = "other") ∧
      ∃ user ∈ config.world.users.rows, user.id = "other" ∧ Untouched sample config next user := by
  let requests : List Request :=
    [.register bareContext ⟨"a@b.co", "passw0rd"⟩, .register bareContext ⟨"c@d.co", "passw0rd"⟩,
      .login bareContext ⟨"c@d.co", "passw0rd", "phone"⟩, .revokeSession userContext "session"]
  let labels := advances 0 4 { id := "user" } ++ advances 1 4 { id := "other" } ++
    advances 2 8 { id := "session", token := "token" } ++ advances 3 1 {}
  obtain ⟨config, reached, checked⟩ : ∃ config, sampleSystem.Reaches Anything (sampleStart requests) config ∧
      ((sampleSystem.step config (.advance 3 {})).any fun _ => decide
        ((∃ session ∈ config.world.sessions.rows, session.id = "session" ∧ session.userID = "other") ∧
          (∃ user ∈ config.world.users.rows, user.id = "other") ∧
          ∀ event ∈ config.history, validatedUser event ≠ some "other")) = true :=
    exists_of_run labels _ (by decide +kernel)
  obtain ⟨next, moved, facts⟩ := (Option.any_eq_true _ _).mp checked
  obtain ⟨foreign, ⟨user, member, identity⟩, others⟩ := of_decide_eq_true facts
  have started : sampleSystem.Reaches Anything (sampleStart []) (sampleStart requests) :=
    reaches_started _ _ fun _ _ => rfl
  have whole := started.trans reached
  refine ⟨config, next, whole, moved, foreign, user, member, identity, ?_⟩
  refine (users_isolated sample (.postgres exactDatabase) 0 config 3 {} next _ whole
    sample_hash_injective.injOn (reached.request 3 _ rfl) moved).2.1 user member ?_
  rintro ⟨_, _, _, token, claims, _, _, _, validated, owner⟩
  refine others _ ((mem_transcript _ _ _).mp validated) ?_
  rw [validatedUser, owner, identity]

end AuthService
