/-
This file evaluates a refresh and a list of sessions that run alone, on either session store.
-/

import AuthService.Proof.ExactAnswers
import AuthService.Proof.RefreshSteps
import AuthService.Proof.SequentialLogin
import AuthService.Proof.SessionFrames

namespace AuthService
open Interleaving Program System

namespace MemoryState
variable {state : MemoryState} {id tokenHash : String} {now : Time} {session : Session}

theorem getByTokenHash_found {address : Nat} (found : state.byHash.lookup tokenHash = some address) :
    ∃ session next, state.getByTokenHash now tokenHash = (.ok session, next) := by
  rw [getByTokenHash, found]
  exact ⟨_, _, rfl⟩

theorem Consistent.lookup_none (consistent : state.Consistent) (absent : ¬ Live state.rowSet tokenHash) :
    state.byHash.lookup tokenHash = none := by
  rw [consistent.live_iff, not_exists] at absent
  exact Option.eq_none_iff_forall_not_mem.mpr absent

theorem getByTokenHash_absent (absent : state.byHash.lookup tokenHash = none) :
    state.getByTokenHash now tokenHash = (.error .sessionNotFound, state) := by
  rw [getByTokenHash, absent]

theorem rotateToken_absent (absent : state.byHash.lookup tokenHash = none) :
    state.rotateToken id now tokenHash session = some (.error .sessionNotFound, state) := by
  rw [rotateToken, absent]

/-- A rotation with an unused identifier replaces the record that is there. -/
theorem rotateToken_found {address : Nat} (found : state.byHash.lookup tokenHash = some address)
    (unused : id ∉ state.byID.keys) :
    ∃ created next, state.rotateToken id now tokenHash session = some (.ok created, next) := by
  have free : id ∉ (state.deleteByTokenHash tokenHash).byID.keys := by
    rw [deleteByTokenHash, found]
    intro used
    rw [AList.keys_erase] at used
    exact unused (List.mem_of_mem_erase used)
  rw [rotateToken, found]
  exact ⟨_, _, if_neg fun both => free both.2⟩

/-- A listing shows the records of the user. -/
theorem listByUserID_complete {order : List String} {userID : String} {reply : Except StoreError (List Session)}
    {next : MemoryState} (listed : state.listByUserID order userID = some (reply, next)) :
    ∃ sessions, reply = .ok sessions ∧
      ∀ session ∈ state.rows, session.userID = userID → session ∈ sessions := by
  unfold listByUserID at listed
  split at listed
  · rename_i visits
    cases listed
    refine ⟨_, rfl, fun session member owner => List.mem_filter.mpr ⟨?_, decide_eq_true owner⟩⟩
    obtain ⟨id, address, found, same⟩ := (mem_rows session).mp member
    refine List.mem_filterMap.mpr ⟨id, visits.mem_iff.mpr (mem_keys_of_lookup found), ?_⟩
    rw [found, Option.map_some, same]
  · cases listed

end MemoryState

namespace Backend

/-- PostgreSQL keeps no text with the character of code zero. -/
def storable : Backend → String → Bool
  | .memory, _ => true
  | .postgres _, text => SessionTable.storable text

/-- PostgreSQL keeps a session only for a user in its table. -/
def references : Backend → UserTable → String → Bool
  | .memory, _, _ => true
  | .postgres _, users, userID => (users.rows.map User.id).contains userID

/-- The backend takes the owner and the texts of a session. -/
def takes (backend : Backend) (users : UserTable) (session : Session) : Bool :=
  backend.references users session.userID && backend.storable session.deviceID &&
    backend.storable session.userAgent && backend.storable session.ipAddress

section
variable {backend : Backend} {choice : Choice} {users : UserTable} {now : Time} {state : backend.store.State}

/-- A row is found by its token hash. -/
theorem exec_found (inv : SessionStore.Lawful.Inv state) (works : choice.fails = false) {row : Row}
    (present : row ∈ backend.store.rowSet state) (owned : backend.references users row.userID = true) :
    ∃ session next, backend.store.exec (.getByTokenHash row.tokenHash) choice users now state =
        some (.ok session, next) ∧
      session.row = row ∧ SessionStore.Lawful.Inv next ∧ backend.store.rowSet next = backend.store.rowSet state := by
  obtain ⟨session, next, executed⟩ : ∃ session next,
      backend.store.exec (.getByTokenHash row.tokenHash) choice users now state = some (.ok session, next) := by
    cases backend with
    | memory =>
        have consistent : MemoryState.Consistent state := inv
        obtain ⟨address, found⟩ := (consistent.live_iff row.tokenHash).mp ⟨row, present, rfl⟩
        obtain ⟨session, next, read⟩ :
            ∃ session next, MemoryState.getByTokenHash now row.tokenHash state = (.ok session, next) :=
          MemoryState.getByTokenHash_found found
        exact ⟨session, next, congrArg some read⟩
    | postgres db =>
        have live := (SessionTable.mem_rowSet_live state row.tokenHash).mp ⟨row, present, rfl⟩
        have known : ∀ other ∈ state.rows, other.tokenHash = row.tokenHash →
            ∃ user ∈ users.rows, user.id = other.userID := by
          intro other member same
          obtain rfl := SessionStore.rowSet_unique inv _ ⟨other, member, rfl⟩ _ present same
          exact List.mem_map.mp (List.contains_iff_mem.mp owned)
        obtain ⟨session, read⟩ := SessionTable.getByTokenHash_present live known
        refine ⟨session, state, ?_⟩
        change some ((if choice.fails then _ else SessionTable.getByTokenHash users row.tokenHash state), state) = _
        rw [works, if_neg Bool.false_ne_true, read]
  obtain ⟨inv', kept, member, hash⟩ := SessionStore.Lawful.exec (.getByTokenHash row.tokenHash) choice users now state
    next (.ok session) inv trivial executed
  exact ⟨session, next, executed, SessionStore.rowSet_unique inv _ member _ present hash, inv', kept⟩

/-- Nothing is found under a token hash that is not live. -/
theorem exec_unknown (inv : SessionStore.Lawful.Inv state) (works : choice.fails = false) {tokenHash : String}
    (absent : ¬ Live (backend.store.rowSet state) tokenHash) :
    backend.store.exec (.getByTokenHash tokenHash) choice users now state = some (.error .sessionNotFound, state) := by
  cases backend with
  | memory =>
      exact congrArg some (MemoryState.getByTokenHash_absent (MemoryState.Consistent.lookup_none inv absent))
  | postgres db =>
      have missing := fun member => absent ((SessionTable.mem_rowSet_live state tokenHash).mpr member)
      change some ((if choice.fails then _ else SessionTable.getByTokenHash users tokenHash state), state) = _
      rw [works, if_neg Bool.false_ne_true, SessionTable.getByTokenHash_absent missing]

/-- A rotation of a token hash that is not live is refused. -/
theorem exec_rotate_unknown (inv : SessionStore.Lawful.Inv state) (whole : choice.statement = none)
    {tokenHash : String} (absent : ¬ Live (backend.store.rowSet state) tokenHash) (session : Session) :
    backend.store.exec (.rotateToken tokenHash session) choice users now state =
      some (.error .sessionNotFound, state) := by
  cases backend with
  | memory =>
      exact MemoryState.rotateToken_absent (MemoryState.Consistent.lookup_none inv absent)
  | postgres db =>
      have missing := fun member => absent ((SessionTable.mem_rowSet_live state tokenHash).mpr member)
      change SessionTable.rotateToken db choice.statement users now choice.id tokenHash session state = _
      rw [whole, SessionTable.rotateToken_absent missing]
      rfl

/-- A rotation of a live token hash succeeds when the store takes the new session. -/
theorem exec_rotate (inv : SessionStore.Lawful.Inv state) (whole : choice.statement = none) {tokenHash : String}
    {session : Session} (live : Live (backend.store.rowSet state) tokenHash)
    (fresh : ¬ Live (backend.store.rowSet state) session.tokenHash)
    (unused : ∀ row ∈ backend.store.rowSet state, row.id ≠ choice.id) (taken : backend.takes users session = true) :
    ∃ created next, backend.store.exec (.rotateToken tokenHash session) choice users now state =
      some (.ok created, next) := by
  cases backend with
  | memory =>
      have consistent : MemoryState.Consistent state := inv
      obtain ⟨address, found⟩ := (consistent.live_iff tokenHash).mp live
      refine MemoryState.rotateToken_found found fun used => ?_
      obtain ⟨other, present⟩ := Option.isSome_iff_exists.mp (AList.lookup_isSome.mpr (AList.mem_keys.mpr used))
      exact unused _ ((MemoryState.mem_rowSet _).mpr ⟨_, other, present, rfl⟩) (consistent.byID _ _ present).2.1
  | postgres db =>
      have absent := fun member => fresh ((SessionTable.mem_rowSet_live state session.tokenHash).mpr member)
      have free : choice.id ∉ state.rows.map Session.id := by
        intro member
        obtain ⟨other, inside, same⟩ := List.mem_map.mp member
        exact unused other.row ⟨other, inside, rfl⟩ same
      have accepted : SessionTable.accepts users state session = true := by
        simp only [takes, references, storable, Bool.and_eq_true] at taken
        simp only [SessionTable.accepts, Bool.and_eq_true, Bool.not_eq_true', List.contains_eq_mem,
          decide_eq_false_iff_not]
        exact ⟨⟨⟨⟨by simpa using taken.1.1.1, absent⟩, taken.1.1.2⟩, taken.1.2⟩, taken.2⟩
      obtain ⟨reply, next, rotated⟩ : ∃ reply next, SessionTable.rotateToken db none users now choice.id tokenHash
          session state = some (reply, next) := SessionTable.rotateToken_total free
      obtain ⟨created, rfl, _⟩ | ⟨_, gone⟩ := SessionTable.rotateToken_accepted accepted rotated
      · rw [← whole] at rotated
        exact ⟨created, next, rotated⟩
      · exact absurd live gone

/-- A listing shows the rows of the user and no others. -/
theorem exec_lists (works : choice.fails = false) {userID : String} {reply : Except StoreError (List Session)}
    {next : backend.store.State}
    (executed : backend.store.exec (.listByUserID userID) choice users now state = some (reply, next)) :
    ∃ sessions, reply = .ok sessions ∧ ∀ row, (∃ session ∈ sessions, session.row = row) ↔
      row ∈ backend.store.rowSet state ∧ row.userID = userID := by
  obtain ⟨sessions, rfl, complete⟩ : ∃ sessions, reply = .ok sessions ∧
      ∀ session ∈ backend.store.rows state, session.userID = userID → session ∈ sessions := by
    cases backend with
    | memory => exact MemoryState.listByUserID_complete executed
    | postgres db =>
        have replied := congrArg Prod.fst (Option.some.inj executed)
        dsimp only at replied
        rw [works, if_neg Bool.false_ne_true] at replied
        refine ⟨_, replied.symm, fun session member owner => ?_⟩
        exact List.mem_mergeSort.mpr (List.mem_filter.mpr ⟨member, decide_eq_true owner⟩)
  refine ⟨sessions, rfl, fun row => ⟨?_, ?_⟩⟩
  · rintro ⟨session, member, rfl⟩
    obtain ⟨inside, owner⟩ := exec_list executed member
    exact ⟨⟨session, inside, rfl⟩, owner⟩
  · rintro ⟨⟨session, inside, rfl⟩, owner⟩
    exact ⟨session, complete session inside owner, rfl⟩

/-- A listing returns in some order of the rows. -/
theorem exec_list_total (userID : String) (users : UserTable) (now : Time) (state : backend.store.State) :
    ∃ order result, backend.store.exec (.listByUserID userID) { order } users now state = some result := by
  cases backend with
  | memory => exact ⟨(MemoryState.byID state).keys, _, if_pos (.refl _)⟩
  | postgres db => exact ⟨[], _, rfl⟩

/-- A deletion by token hash always returns. -/
theorem exec_deletes (tokenHash : String) :
    ∃ result, backend.store.exec (.deleteByTokenHash tokenHash) choice users now state = some result := by
  cases backend <;> exact ⟨_, rfl⟩

end
end Backend

/-- The context carries an access token that is valid at the time as a token of the user. -/
def Context.Bears (service : Service) (ctx : Context) (time : Time) (userID : String) : Prop :=
  ∃ md header rest token claims, ctx.metadata = some md ∧ md "authorization" = header :: rest ∧
    cutPrefix header "Bearer " = some token ∧ service.validate token time = some claims ∧ claims.userID = userID

/-- A refresh with its time, its client and the values that its calls would draw. No call of a renewal fails. -/
structure Renewal where
  time : Time
  ctx : Context
  deviceID : String
  id : String
  token : String

namespace Renewal

abbrev request (renewal : Renewal) (plain : String) : RefreshTokenRequest := ⟨plain, renewal.deviceID⟩

def choice (renewal : Renewal) : Choice := { id := renewal.id, token := renewal.token }

def turn (renewal : Renewal) (plain : String) : System.Turn Choice Tick Request :=
  ⟨.clock renewal.time, renewal.choice, .refreshToken renewal.ctx (renewal.request plain)⟩

def ready {store : SessionStore} (renewal : Renewal) (world : World store) : World store :=
  { world with now := renewal.time }

end Renewal

/-- A request that runs alone at a time is evaluated with the clock at this time. -/
theorem alone_at {service : Service} {store : SessionStore} {choice : Choice} {world after : World store}
    {request : Request} {time : Time} {answer : Answer} {past : Past} :
    (system service store).alone ⟨.clock time, choice, request⟩ world = some (⟨answer, past⟩, after) ↔
      (handle service request).run.eval ((systemWith .redis service store).recorded choice)
        ({ world with now := time }, []) = some (answer, after, past) := by
  let turn : System.Turn Choice Tick Request := ⟨.clock time, choice, request⟩
  have drifted : (systemWith .redis service store).drift turn.tick world = some { world with now := time } := rfl
  rw [← systemWith_redis]
  exact ⟨alone_inv drifted, alone_eq drifted⟩

section Evaluation
variable {resets : ResetBackend} {service : Service} {backend : Backend} {choice : Choice}
variable {world looked : World backend.store} {past seen : Past} {tokenHash : String} {cached : CachedSession}

/-- A call on the session store changes the sessions only. -/
theorem exec_store {command : SessionCommand} {reply : command.Reply} {sessions : backend.store.State}
    (performed : backend.store.exec command choice world.users world.now world.sessions = some (reply, sessions)) :
    (systemWith resets service backend.store).exec (.sessions command) choice world =
      some (reply, { world with sessions }) := by
  change (backend.store.exec command choice world.users world.now world.sessions).map _ = _
  rw [performed, Option.map_some]

/-- A copy in the cache is found, and nothing changes. -/
theorem eval_lookup_cached (works : choice.fails = false)
    (hit : lookup world.cache world.now tokenHash = some cached) (past : Past) :
    (lookupSession tokenHash).run.eval ((systemWith resets service backend.store).recorded choice) (world, past) =
      some (.ok cached, world, ⟨.cache (.get tokenHash), .ok cached⟩ :: past) := by
  have executed : (systemWith resets service backend.store).exec (.cache (.get tokenHash)) choice world =
      some (.ok cached, world) := by
    change some (execCache (.get tokenHash) choice world) = _
    simp only [execCache, works, Bool.false_eq_true, if_false, hit]
  exact eval_lookup_hit (recorded_of_exec executed past)

/-- Without a copy in the cache the reply of the store decides. -/
theorem eval_lookup_stored (world : World backend.store) (works : choice.fails = false)
    (miss : lookup world.cache world.now tokenHash = none) {reply : Except StoreError Session}
    {sessions : backend.store.State}
    (read : backend.store.exec (.getByTokenHash tokenHash) choice world.users world.now world.sessions =
      some (reply, sessions)) (past : Past) :
    (lookupSession tokenHash).run.eval ((systemWith resets service backend.store).recorded choice) (world, past) =
      (orStatus .sessionNotFound invalidRefreshToken reply >>= fun session => pure session.cached :
        Handler CachedSession).run.eval ((systemWith resets service backend.store).recorded choice)
        ({ world with sessions }, ⟨.sessions (.getByTokenHash tokenHash), reply⟩ ::
          ⟨.cache (.get tokenHash), .error .other⟩ :: past) := by
  have missed : (systemWith resets service backend.store).exec (.cache (.get tokenHash)) choice world =
      some (.error .other, world) := by
    change some (execCache (.get tokenHash) choice world) = _
    simp only [execCache, works, Bool.false_eq_true, if_false, miss]
  exact eval_lookup_miss (recorded_of_exec missed past) (recorded_of_exec (exec_store read) _)

/-- A refresh that has found a copy succeeds when the copy is in time and its row can be rotated. -/
theorem refresh_found (ctx : Context) (req : RefreshTokenRequest) (works : choice.fails = false)
    (finds : (lookupSession (service.hash req.refreshToken)).run.eval
      ((systemWith resets service backend.store).recorded choice) (world, past) = some (.ok cached, looked, seen))
    (fresh : service.hash choice.token ∉ looked.issued) {reply : Except StoreError Session}
    {sessions : backend.store.State}
    (rotated : backend.store.exec (.rotateToken (service.hash req.refreshToken)
      (refreshSession service ctx req cached choice.token looked.now)) choice looked.users looked.now
        looked.sessions = some (reply, sessions)) :
    ∃ answer after later, (refreshToken service ctx req).run.eval
        ((systemWith resets service backend.store).recorded choice) (world, past) = some (answer, after, later) ∧
      ((∃ response, answer = .ok response) ↔ ¬ cached.expiresAt < looked.now ∧ ∃ created, reply = .ok created) := by
  let auth := systemWith resets service backend.store
  have clocked (current : World backend.store) : auth.exec .clock choice current = some (current.now, current) := rfl
  by_cases expired : cached.expiresAt < looked.now
  · obtain ⟨⟨deletion, remaining⟩, deleted⟩ : ∃ result, backend.store.exec
        (.deleteByTokenHash (service.hash req.refreshToken)) choice looked.users looked.now looked.sessions =
          some result := Backend.exec_deletes _
    obtain ⟨_, _, _, drops, _⟩ := eval_beside resets service choice
      (follows_dropThrow (service.hash req.refreshToken) expiredRefreshToken) { looked with sessions := remaining }
      (⟨.sessions (.deleteByTokenHash (service.hash req.refreshToken)), deletion⟩ :: ⟨.clock, looked.now⟩ :: seen)
    have checks := (eval_checkExpiry_expired (recorded_of_exec (clocked looked) seen) expired
      (recorded_of_exec (exec_store deleted) _)).trans drops
    exact ⟨_, _, _, eval_refresh_expired ctx finds checks, iff_of_false (by simp) fun both => both.1 expired⟩
  · let claims : Claims := ⟨cached.userID, cached.userEmail, ["user"]⟩
    have signs : auth.exec (.tokens (.generate claims)) choice looked =
        some (some (service.sign claims looked.now), looked) := by
      change some (execTokens service (.generate claims) choice looked, looked) = _
      simp only [execTokens, works, Bool.false_eq_true, if_false]
    have draws : auth.exec (.random .token) choice looked =
        some (some choice.token, { looked with issued := service.hash choice.token :: looked.issued }) := by
      change execRandom service .token choice looked = _
      simp only [execRandom, works, Bool.false_eq_true, if_false, fresh]
    have rotates : auth.exec (.sessions (.rotateToken (service.hash req.refreshToken)
        (refreshSession service ctx req cached choice.token looked.now))) choice
        { looked with issued := service.hash choice.token :: looked.issued } =
          some (reply, { looked with issued := service.hash choice.token :: looked.issued, sessions }) :=
      exec_store rotated
    rw [eval_refresh_alive ctx finds (eval_checkExpiry_alive (recorded_of_exec (clocked looked) seen) expired)
      (recorded_of_exec signs _) (recorded_of_exec draws _) (recorded_of_exec (clocked _) _)
      (recorded_of_exec rotates _)]
    cases reply with
    | error error =>
        obtain ⟨status, refuses⟩ : ∃ status, (orStatus .sessionNotFound invalidRefreshToken (.error error) :
            Handler Session) = throw status := by
          rw [orStatus]
          split <;> exact ⟨_, rfl⟩
        rw [refuses]
        exact ⟨_, _, _, rfl, iff_of_false (by simp) (by simp)⟩
    | ok created =>
        rw [eval_ok (eval_orStatus_ok ..)]
        obtain ⟨_, _, _, runs, _⟩ := eval_beside resets service choice (follows_afterwards _ _ _ _ _ _ _ _ _ _ _) _ _
        exact ⟨_, _, _, runs, iff_of_true ⟨_, rfl⟩ ⟨expired, created, rfl⟩⟩

/-- A bearer is identified by its access token. -/
theorem eval_bearer {ctx : Context} {userID : String} (bears : ctx.Bears service world.now userID) (past : Past) :
    ∃ later, (extractUserIDFromCtx ctx).run.eval ((systemWith resets service backend.store).recorded choice)
      (world, past) = some (.ok userID, world, later) := by
  obtain ⟨md, header, rest, token, claims, metadata, headers, cut, valid, rfl⟩ := bears
  have executed : (systemWith resets service backend.store).exec (.tokens (.validate token)) choice world =
      some (some claims, world) := congrArg (fun reply => some (reply, world)) valid
  simp only [extractUserIDFromCtx, metadata, headers, cut]
  rw [eval_ok (eval_recorded executed past)]
  exact ⟨_, rfl⟩

/-- A list of sessions shows the rows of the bearer and no others. -/
theorem listSessions_shows {ctx : Context} {userID : String} (works : choice.fails = false)
    (bears : ctx.Bears service world.now userID) {answer : Answer} {after : World backend.store}
    (ran : (listSessions ctx).run.eval ((systemWith resets service backend.store).recorded choice) (world, past) =
      some (answer, after, seen)) :
    ∃ sessions : List Session, answer = .ok (.listSessions (sessions.map sessionInfo)) ∧
      ∀ row, (∃ session ∈ sessions, session.row = row) ↔
        row ∈ backend.store.rowSet world.sessions ∧ row.userID = userID := by
  obtain ⟨later, identified⟩ : ∃ later, (extractUserIDFromCtx ctx).run.eval
      ((systemWith resets service backend.store).recorded choice) (world, past) = some (.ok userID, world, later) :=
    eval_bearer bears past
  unfold listSessions at ran
  rw [eval_ok identified] at ran
  obtain ⟨reply, next, executed, rest⟩ := eval_recorded_inv ran
  obtain ⟨_, performed, rfl⟩ := exec_sessions (show exec service _ choice world = _ from executed)
  obtain ⟨sessions, rfl, rows⟩ := Backend.exec_lists works performed
  cases rest
  exact ⟨sessions, rfl, rows⟩

/-- A list of sessions returns in some order of the rows. -/
theorem listSessions_total {ctx : Context} {userID : String} (bears : ctx.Bears service world.now userID)
    (past : Past) :
    ∃ order result, (listSessions ctx).run.eval ((systemWith resets service backend.store).recorded { order })
      (world, past) = some result := by
  obtain ⟨order, ⟨reply, sessions⟩, listed⟩ :=
    Backend.exec_list_total userID world.users world.now world.sessions
  obtain ⟨later, identified⟩ : ∃ later, (extractUserIDFromCtx ctx).run.eval
      ((systemWith resets service backend.store).recorded { order }) (world, past) =
        some (.ok userID, world, later) := eval_bearer bears past
  refine ⟨order, ?_⟩
  unfold listSessions
  rw [eval_ok identified, eval_ok (eval_recorded (exec_store listed) later)]
  cases reply <;> exact ⟨_, rfl⟩

end Evaluation
end AuthService
