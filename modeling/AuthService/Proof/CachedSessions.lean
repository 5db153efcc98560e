/-
This file proves that every copy of a session agrees with the session that was installed under its hash.
-/

import AuthService.Proof.Installed
import AuthService.Proof.ResetRecords
import AuthService.Proof.Users

namespace AuthService
open Interleaving System

/-- The copy has the owner, the device and the expiry of the session, up to a rounding of the expiry. -/
structure Copies (kept : Time → Time) (session : Session) (cached : CachedSession) : Prop where
  userID : cached.userID = session.userID
  deviceID : cached.deviceID = session.deviceID
  expiresAt : cached.expiresAt = kept session.expiresAt

/-- The identifier and the address of the copy belong to one user. -/
def Owned (users : UserTable) (cached : CachedSession) : Prop :=
  ∃ user ∈ users.rows, user.id = cached.userID ∧ user.email = cached.userEmail

/-- The copy names a user and agrees with a session that was installed under the token hash. -/
def Backed {store : SessionStore} (kept : Time → Time) (config : ServiceConfig store) (tokenHash : String)
    (cached : CachedSession) : Prop :=
  Owned config.world.users cached ∧ ∃ event ∈ config.history, ∃ session created,
    installationBy event = some (session, created) ∧ session.tokenHash = tokenHash ∧
      Copies kept session cached

section
variable {service : Service} {store : SessionStore}

/-- What a request caches is a copy of a session that it has installed. -/
theorem installed_of_set {config : ServiceConfig store}
    (disciplined : Disciplined (Permits service) (Finishes service) config) {task : Nat} {request : Request}
    {tokenHash : String} {cached : CachedSession} {ttl : Duration}
    {rest : (CacheCommand.set tokenHash cached ttl).Reply → Program Ports Answer}
    (selected : config.tasks[task]? = some ⟨request, .call (.cache (.set tokenHash cached ttl)) rest⟩) :
    ∃ event ∈ config.history, ∃ session created, installationBy event = some (session, created) ∧
      session.tokenHash = tokenHash ∧ session.userID = cached.userID ∧ session.deviceID = cached.deviceID ∧
      created.id = cached.sessionID := by
  cases disciplined.next_permitted selected with
  | free harmless => cases harmless
  | cacheLogin grant written =>
      exact ⟨_, (mem_transcript _ _ _).mp (mem_of_select written), _, _, rfl, rfl, rfl, rfl, rfl⟩
  | cacheRefresh grant written =>
      exact ⟨_, (mem_transcript _ _ _).mp (mem_of_select written), _, _, rfl, rfl, rfl, rfl, rfl⟩

theorem Backed.step {kept : Time → Time} {config next : ServiceConfig store} {label : ServiceLabel}
    {tokenHash : String} {cached : CachedSession} (backed : Backed kept config tokenHash cached)
    (moved : (system service store).step config label = some next) : Backed kept next tokenHash cached := by
  obtain ⟨⟨user, inside, identity, address⟩, event, member, session, created, installed, hash, copies⟩ := backed
  refine ⟨?_, event, (step_suffix label moved).subset member, session, created, installed, hash, copies⟩
  obtain ⟨_, _, rfl⟩ | ⟨task, choice, request, command, rest, reply, world, _, selected, executed, rfl⟩ |
    ⟨tick, world, _, drifted, rfl⟩ := service_cases moved
  · exact ⟨user, inside, identity, address⟩
  · obtain ⟨later, inside', identity', address'⟩ := exec_user executed inside
    exact ⟨later, inside', identity'.trans identity, address'.trans address⟩
  · obtain ⟨cache, now, rfl⟩ := drift_frame drifted
    exact ⟨user, inside, identity, address⟩

/-- The call changes the cache entry of this key. -/
def CacheCommand.Changes : CacheCommand → String → Prop
  | .set tokenHash _ _, key => tokenHash = key
  | .delete tokenHash, key => tokenHash = key
  | .get _, _ => False

theorem execCache_entry {choice : Choice} {world : World store} {command : CacheCommand} {key : String}
    (apart : ¬ command.Changes key) :
    (execCache command choice world).2.cache key = world.cache key := by
  cases command with
  | set tokenHash session ttl =>
      simp only [execCache]
      split
      · rfl
      · dsimp only
        split
        · rfl
        · exact Function.update_of_ne (fun same => apart same.symm) _ _
  | get tokenHash => rfl
  | delete tokenHash =>
      simp only [execCache]
      split
      · rfl
      · exact Function.update_of_ne (fun same => apart same.symm) _ _

/-- An entry of the cache was there before or is written by the call. -/
theorem exec_cache_entry {choice : Choice} {world next : World store} {command : Command}
    {reply : command.Reply} (executed : exec service command choice world = some (reply, next))
    {tokenHash : String} {entry : Expiring CachedSession} (present : next.cache tokenHash = some entry) :
    world.cache tokenHash = some entry ∨ ∃ ttl, command = .cache (.set tokenHash entry.value ttl) := by
  by_cases call : ∃ call, command = .cache call
  · obtain ⟨call, rfl⟩ := call
    obtain rfl : (execCache call choice world).2 = next := congrArg Prod.snd (exec_cache executed)
    by_cases changes : call.Changes tokenHash
    · cases call with
      | set writtenHash session ttl =>
          obtain rfl : writtenHash = tokenHash := changes
          simp only [execCache] at present
          split at present
          · exact .inl present
          · dsimp only at present
            split at present
            · exact .inl present
            · simp only [Function.update_self, Option.some.injEq] at present
              subst present
              exact .inr ⟨ttl, rfl⟩
      | get readHash => exact changes.elim
      | delete deletedHash =>
          obtain rfl : deletedHash = tokenHash := changes
          simp only [execCache] at present
          split at present
          · exact .inl present
          · simp at present
    · exact .inl ((execCache_entry changes).symm.trans present)
  · rw [(exec_changes executed).keeps_cache fun other same => call ⟨other, same⟩] at present
    exact .inl present

/-- The surroundings add nothing to the cache. -/
theorem drift_entry {world next : World store} {tick : Tick} (drifted : drift tick world = some next)
    {tokenHash : String} {entry : Expiring CachedSession} (present : next.cache tokenHash = some entry) :
    world.cache tokenHash = some entry := by
  cases tick with
  | clock time =>
      cases drifted
      exact present
  | evict evictedHash =>
      cases drifted
      by_cases same : tokenHash = evictedHash
      · subst same
        simp at present
      · simpa only [Function.update_of_ne same] using present

theorem cacheGet_found {choice : Choice} {world next : World store} {tokenHash : String}
    {cached : CachedSession}
    (executed : exec service (.cache (.get tokenHash)) choice world = some (.ok cached, next)) :
    ∃ entry, world.cache tokenHash = some entry ∧ entry.value = cached := by
  have replied := congrArg Prod.fst (exec_cache executed)
  simp only [execCache] at replied
  split at replied
  · cases replied
  · split at replied
    · rename_i value seen
      cases replied
      exact lookup_eq_some seen
    · cases replied

end

section
variable {service : Service} {db : Database} {base : World (postgres db)} {requests : List Request}
variable {allowed : ServiceConfig (postgres db) → ServiceLabel → Prop} {config : ServiceConfig (postgres db)}

/-- The entries of the cache and the sessions that were read are all backed. A read of the database returns
the expiry as it is stored, and the cache keeps it as it was built. -/
structure Faithful (config : ServiceConfig (postgres db)) : Prop where
  cache : ∀ tokenHash entry, config.world.cache tokenHash = some entry →
    Backed id config tokenHash entry.value
  hits : ∀ task tokenHash cached,
    (⟨task, .cache (.get tokenHash), .ok cached⟩ : Event Ports) ∈ config.history →
    Backed id config tokenHash cached
  reads : ∀ task tokenHash session,
    (⟨task, .sessions (.getByTokenHash tokenHash), .ok session⟩ : Event Ports) ∈ config.history →
    Backed db.stored config tokenHash session.cached

theorem Faithful.looked (faithful : Faithful config) {task : Nat} {tokenHash : String} {cached : CachedSession}
    (looked : Looked (transcript task config.history) tokenHash cached) :
    ∃ kept, (kept = id ∨ kept = db.stored) ∧ Backed kept config tokenHash cached := by
  rcases looked with hit | ⟨session, read, rfl⟩
  · exact ⟨id, .inl rfl, faithful.hits task tokenHash cached ((mem_transcript _ _ _).mp hit)⟩
  · exact ⟨db.stored, .inr rfl, faithful.reads task tokenHash session ((mem_transcript _ _ _).mp read)⟩

/-- A copy that a request is about to cache is backed. -/
theorem Faithful.next_set (faithful : Faithful config) (sound : base.Sound)
    (reached : (system service (postgres db)).Reaches allowed ((system service (postgres db)).begin base requests)
      config) {task : Nat} {request : Request} {tokenHash : String} {cached : CachedSession} {ttl : Duration}
    {rest : (CacheCommand.set tokenHash cached ttl).Reply → Program Ports Answer}
    (selected : config.tasks[task]? = some ⟨request, .call (.cache (.set tokenHash cached ttl)) rest⟩) :
    Backed id config tokenHash cached := by
  cases (reaches_disciplined reached).next_permitted selected with
  | free harmless => cases harmless
  | cacheLogin grant written =>
      have member := (mem_transcript _ _ _).mp (mem_of_select written)
      have read := (mem_transcript _ _ _).mp (mem_of_select grant.read)
      have filled := reaches_filled sound reached member rfl
      exact ⟨reaches_user reached _ read _ rfl, _, member, _, _, rfl, rfl, rfl, rfl, filled.expiresAt⟩
  | cacheRefresh grant written =>
      have member := (mem_transcript _ _ _).mp (mem_of_select written)
      have filled := reaches_filled sound reached member rfl
      obtain ⟨_, _, owned, _⟩ := faithful.looked grant.looked
      exact ⟨owned, _, member, _, _, rfl, rfl, rfl, rfl, filled.expiresAt⟩

/-- A session that is read from the database is backed. -/
theorem backed_of_read (sound : base.Sound) (fresh : base.sessions.rows = [])
    (reached : (system service (postgres db)).Reaches allowed ((system service (postgres db)).begin base requests)
      config) {choice : Choice} {tokenHash : String} {session : Session} {next : World (postgres db)}
    (executed : exec service (.sessions (.getByTokenHash tokenHash)) choice config.world =
      some (.ok session, next)) : Backed db.stored config tokenHash session.cached := by
  obtain ⟨sessions, performed, _⟩ := exec_sessions executed
  have replied := congrArg Prod.fst (Option.some.inj performed)
  dsimp only at replied
  split at replied
  · cases replied
  · obtain ⟨hash, present, owned⟩ := SessionTable.getByTokenHash_ok replied
    refine ⟨owned, ?_⟩
    rcases reaches_rows sound reached session.row present with ⟨old, inside, _⟩ |
      ⟨event, member, given, created, installed, filled, same⟩
    · change old ∈ base.sessions.rows at inside
      rw [fresh] at inside
      cases inside
    · have userID : session.userID = created.userID := congrArg Row.userID same
      have deviceID : session.deviceID = created.deviceID := congrArg Row.deviceID same
      have tokenHash' : session.tokenHash = created.tokenHash := congrArg Row.tokenHash same
      have expiresAt : session.expiresAt = db.stored created.expiresAt := congrArg Row.expiresAt same
      refine ⟨event, member, given, created, installed, ?_, ?_, ?_, ?_⟩
      · rw [← filled.tokenHash, ← tokenHash', hash]
      · exact userID.trans filled.userID
      · exact deviceID.trans filled.deviceID
      · rw [← filled.expiresAt]
        exact expiresAt

/-- Every run from a world without sessions and without cached copies is faithful. -/
theorem reaches_faithful (sound : base.Sound) (fresh : base.sessions.rows = [])
    (empty : base.cache = fun _ => none)
    (reached : (system service (postgres db)).Reaches allowed ((system service (postgres db)).begin base requests)
      config) : Faithful config := by
  apply reached.invariant
  · refine ⟨?_, nofun, nofun⟩
    intro tokenHash entry present
    change base.cache tokenHash = some entry at present
    rw [empty] at present
    cases present
  · intro config label next reached faithful _ moved
    have kept {kept : Time → Time} {tokenHash : String} {cached : CachedSession}
        (backed : Backed kept config tokenHash cached) : Backed kept next tokenHash cached := backed.step moved
    obtain ⟨_, _, rfl⟩ | ⟨task, choice, request, command, rest, reply, world, _, selected, executed, rfl⟩ |
      ⟨tick, world, _, drifted, rfl⟩ := service_cases moved
    · exact ⟨faithful.cache, faithful.hits, faithful.reads⟩
    · refine ⟨?_, ?_, ?_⟩
      · intro tokenHash entry present
        rcases exec_cache_entry executed present with before | ⟨ttl, rfl⟩
        · exact kept (faithful.cache tokenHash entry before)
        · exact kept (faithful.next_set sound reached selected)
      · intro reader tokenHash cached member
        rcases List.mem_cons.mp member with same | before
        · cases same
          obtain ⟨entry, present, rfl⟩ := cacheGet_found executed
          exact kept (faithful.cache tokenHash entry present)
        · exact kept (faithful.hits reader tokenHash cached before)
      · intro reader tokenHash session member
        rcases List.mem_cons.mp member with same | before
        · cases same
          exact kept (backed_of_read sound fresh reached executed)
        · exact kept (faithful.reads reader tokenHash session before)
    · refine ⟨?_, ?_, ?_⟩
      · intro tokenHash entry present
        exact kept (faithful.cache tokenHash entry (drift_entry drifted present))
      · intro reader tokenHash cached member
        exact kept (faithful.hits reader tokenHash cached member)
      · intro reader tokenHash session member
        exact kept (faithful.reads reader tokenHash session member)

end
end AuthService
