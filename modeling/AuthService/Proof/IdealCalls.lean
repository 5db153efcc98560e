/-
This file proves that the calls of a request that runs alone read the state of the specification.
-/

import AuthService.Proof.Expiry
import AuthService.Proof.PostgresRows
import AuthService.Proof.Realizes
import Mathlib.Data.List.Find
import Mathlib.Data.List.Nodup

namespace AuthService
open Interleaving Program System

/-- The calls of a visit. -/
abbrev Visit.exec {db : Database} (service : Service) (visit : Visit) (command : Command)
    (world : World (postgres db)) : Option (command.Reply × World (postgres db)) :=
  AuthService.exec service command visit.choice world

/-- The answer is that of the specification, and the stores hold its state. -/
structure Agrees (service : Service) (known salts : Set String) {db : Database} (result : Answer × Ideal)
    (answer : Answer) (after : World (postgres db)) : Prop where
  answer : answer = result.1
  state : Realizes service known salts result.2 [] after

section Reads
variable {service : Service} {known salts : Set String} {db : Database} {ideal : Ideal} {stale : List String}
variable {world : World (postgres db)}

namespace Realizes

theorem byEmail (realizes : Realizes service known salts ideal stale world) (email : String) :
    Option.Rel (Profile.KeptAs service known salts) (ideal.byEmail email)
      (world.users.rows.find? fun user => user.email = email) := by
  refine rel_find realizes.accounts fun profile row kept => ?_
  rw [kept.email]

theorem byID (realizes : Realizes service known salts ideal stale world) (id : String) :
    Option.Rel (Profile.KeptAs service known salts) (ideal.byID id)
      (world.users.rows.find? fun user => user.id = id) := by
  refine rel_find realizes.accounts fun profile row kept => ?_
  rw [kept.id]

/-- A registered user has a row with the address. -/
theorem row (realizes : Realizes service known salts ideal stale world) {userID email : String}
    (has : ideal.Has userID email) : ∃ row ∈ world.users.rows, row.id = userID ∧ row.email = email := by
  obtain ⟨profile, member, rfl, rfl⟩ := has
  obtain ⟨row, inside, kept⟩ := rel_mem realizes.accounts member
  exact ⟨row, inside, kept.id, kept.email⟩

/-- The hash of a known token is that of a grant when the tokens are equal. -/
theorem hash_eq_iff (realizes : Realizes service known salts ideal stale world)
    (collisionless : Collisionless service known salts) {grant : Grant} (member : grant ∈ ideal.grants) {token : String}
    (recognised : token ∈ known) : service.hash grant.token = service.hash token ↔ grant.token = token :=
  collisionless.hash.eq_iff (realizes.sessions.handed _ (realizes.sessions.tokens grant member)) recognised

theorem byToken (realizes : Realizes service known salts ideal stale world)
    (collisionless : Collisionless service known salts) {token : String} (recognised : token ∈ known) :
    (SessionTable.rows world.sessions).find? (fun row => row.tokenHash = service.hash token) =
      (ideal.byToken token).map (Grant.row service) := by
  rw [realizes.sessions.rows, List.find?_map]
  refine congrArg _ (List.find?_congr fun grant member => ?_)
  exact decide_eq_decide.mpr (realizes.hash_eq_iff collisionless member recognised)

/-- There is one grant for each token. -/
theorem byToken_eq (realizes : Realizes service known salts ideal stale world) {grant : Grant}
    (member : grant ∈ ideal.grants) : ideal.byToken grant.token = some grant := by
  have unique : (ideal.grants.map fun grant => service.hash grant.token).Nodup := by
    have rows := SessionTable.uniqueHash world.sessions
    rw [realizes.sessions.rows, List.map_map] at rows
    exact rows
  cases found : ideal.byToken grant.token with
  | none => exact absurd rfl (of_decide_eq_false (Bool.eq_false_iff.mpr (List.find?_eq_none.mp found grant member)))
  | some other =>
      have same : other.token = grant.token := by simpa using List.find?_some found
      rw [List.inj_on_of_nodup_map unique (List.mem_of_find?_eq_some found) member (congrArg _ same)]

/-- No grant has a token that was not handed out. -/
theorem unused (realizes : Realizes service known salts ideal stale world) {token : String}
    (fresh : token ∉ ideal.drawn) (grant : Grant) (member : grant ∈ ideal.grants) : grant.token ≠ token := by
  rintro rfl
  exact fresh (realizes.sessions.tokens grant member)

/-- There is one grant for each session. -/
theorem eq_of_sessionID (realizes : Realizes service known salts ideal stale world) {grant other : Grant}
    (member : grant ∈ ideal.grants) (member' : other ∈ ideal.grants) (same : grant.sessionID = other.sessionID) :
    grant = other := by
  have unique : (ideal.grants.map Grant.sessionID).Nodup := by
    have rows := SessionTable.uniqueID world.sessions
    rw [realizes.sessions.rows, List.map_map] at rows
    exact rows
  exact List.inj_on_of_nodup_map unique member member' same

/-- A copy in the cache is that of the grant. -/
theorem copy (realizes : Realizes service known salts ideal [] world)
    (collisionless : Collisionless service known salts) {token : String} (recognised : token ∈ known) {now : Time}
    {copy : CachedSession} (found : lookup world.cache now (service.hash token) = some copy) :
    ∃ grant, ideal.byToken token = some grant ∧ copy = grant.copy := by
  obtain ⟨entry, present, rfl⟩ := lookup_eq_some found
  rcases realizes.sessions.copies _ entry present with old | ⟨grant, member, hashed, copied⟩
  · exact absurd old List.not_mem_nil
  · obtain rfl := (realizes.hash_eq_iff collisionless member recognised).mp hashed
    exact ⟨grant, realizes.byToken_eq member, copied⟩

theorem ids (realizes : Realizes service known salts ideal stale world) :
    world.users.rows.map User.id = ideal.profiles.map Profile.id :=
  rel_map_eq realizes.accounts fun _ _ kept => kept.id

theorem emails (realizes : Realizes service known salts ideal stale world) :
    world.users.rows.map User.email = ideal.profiles.map Profile.email :=
  rel_map_eq realizes.accounts fun _ _ kept => kept.email

/-- A delete statement on the rows of the selected grants revokes them. -/
theorem deleteWhere (realizes : Realizes service known salts ideal stale world) (selected : Grant → Bool)
    (chosen : Session → Bool) (agree : ∀ grant ∈ ideal.grants, chosen (grant.row service) = selected grant) :
    ((SessionTable.rows world.sessions).filter chosen).map Session.tokenHash =
        (ideal.grants.filter selected).map (fun grant => service.hash grant.token) ∧
      Realizes service known salts (ideal.revoke selected)
        ((ideal.grants.filter selected).map (fun grant => service.hash grant.token) ++ stale)
        ({ world with sessions := SessionTable.deleteWhere world.sessions chosen } : World (postgres db)) := by
  constructor
  · have filtered : ideal.grants.filter (chosen ∘ Grant.row service) = ideal.grants.filter selected :=
      List.filter_congr agree
    rw [realizes.sessions.rows, List.filter_map, List.map_map, filtered]
    rfl
  · refine realizes.revoke ?_
    change (SessionTable.rows world.sessions).filter _ = _
    rw [realizes.sessions.rows, List.filter_map]
    refine congrArg _ (List.filter_congr fun grant member => ?_)
    exact congrArg _ (agree grant member)

theorem deleteByTokenHash (realizes : Realizes service known salts ideal stale world)
    (collisionless : Collisionless service known salts) {token : String} (recognised : token ∈ known) :
    Realizes service known salts (ideal.revoke fun grant => grant.token = token) (service.hash token :: stale)
      ({ world with sessions := SessionTable.deleteByTokenHash (service.hash token) world.sessions } :
        World (postgres db)) := by
  obtain ⟨_, deleted⟩ := realizes.deleteWhere (fun grant => grant.token = token)
    (fun row => row.tokenHash = service.hash token) (by
      intro grant member
      exact decide_eq_decide.mpr (realizes.hash_eq_iff collisionless member recognised))
  refine deleted.mono_stale fun hash member => ?_
  rcases List.mem_append.mp member with removed | old
  · obtain ⟨grant, chosen, rfl⟩ := List.mem_map.mp removed
    rw [of_decide_eq_true (List.mem_filter.mp chosen).2]
    exact List.mem_cons_self
  · exact List.mem_cons_of_mem _ old

/-- A session is inserted when its texts can be stored. -/
theorem accepts (realizes : Realizes service known salts ideal stale world) {table : SessionTable}
    {session : Session} {email : String} (has : ideal.Has session.userID email)
    (fresh : session.tokenHash ∉ table.rows.map Session.tokenHash) :
    table.accepts world.users session = (SessionTable.storable session.deviceID &&
      SessionTable.storable session.userAgent && SessionTable.storable session.ipAddress) := by
  obtain ⟨row, inside, same, _⟩ := realizes.row has
  have present : session.userID ∈ world.users.rows.map User.id := List.mem_map.mpr ⟨row, inside, same⟩
  simp only [SessionTable.accepts, List.contains_eq_mem, present, fresh, decide_true, decide_false, Bool.not_false,
    Bool.true_and]

end Realizes
end Reads

/-- What the specification asks of a grant that is stored for a session. -/
structure Opens (service : Service) (db : Database) (ideal : Ideal) (visit : Visit) (now : Time) (session : Session)
    (grant : Grant) : Prop where
  row : SessionTable.newRow db visit.id now session = grant.row service
  handed : grant.token ∈ ideal.drawn
  owner : ideal.Has grant.userID grant.email
  unused : ∀ other ∈ ideal.grants, other.token ≠ grant.token
  fresh : visit.id ∉ ideal.grants.map Grant.sessionID

section Calls
variable {service : Service} {known salts : Set String} {db : Database} {ideal : Ideal} {stale : List String}
variable {world : World (postgres db)} {visit : Visit}

namespace Realizes

theorem exec_getByEmail (realizes : Realizes service known salts ideal stale world) (email : String) :
    (ideal.byEmail email = none ∧
      visit.exec service (.users (.getByEmail email)) world = some (.error .userNotFound, world)) ∨
    ∃ profile row, ideal.byEmail email = some profile ∧ profile.KeptAs service known salts row ∧
      visit.exec service (.users (.getByEmail email)) world = some (.ok row, world) := by
  have found := realizes.byEmail email
  have executed : visit.exec service (.users (.getByEmail email)) world =
      some (world.users.getByEmail email, world) := rfl
  rw [executed, UserTable.getByEmail]
  generalize ideal.byEmail email = profile at found
  generalize world.users.rows.find? _ = row at found
  cases found with
  | none => exact .inl ⟨rfl, rfl⟩
  | some kept => exact .inr ⟨_, _, rfl, kept, rfl⟩

theorem exec_getByID (realizes : Realizes service known salts ideal stale world) (id : String) :
    (ideal.byID id = none ∧ visit.exec service (.users (.getByID id)) world = some (.error .userNotFound, world)) ∨
    ∃ profile row, ideal.byID id = some profile ∧ profile.KeptAs service known salts row ∧
      visit.exec service (.users (.getByID id)) world = some (.ok row, world) := by
  have found := realizes.byID id
  have executed : visit.exec service (.users (.getByID id)) world = some (world.users.getByID id, world) := rfl
  rw [executed, UserTable.getByID]
  generalize ideal.byID id = profile at found
  generalize world.users.rows.find? _ = row at found
  cases found with
  | none => exact .inl ⟨rfl, rfl⟩
  | some kept => exact .inr ⟨_, _, rfl, kept, rfl⟩

theorem exec_create_known (realizes : Realizes service known salts ideal stale world) {email : String}
    (registered : (ideal.byEmail email).isSome = true) (passwordHash : String) :
    visit.exec service (.users (.create email passwordHash)) world = some (.error .userAlreadyExists, world) := by
  have taken : email ∈ world.users.rows.map User.email := by
    rw [realizes.emails]
    obtain ⟨profile, found⟩ := Option.isSome_iff_exists.mp registered
    have same : profile.email = email := by simpa using List.find?_some found
    exact List.mem_map.mpr ⟨profile, List.mem_of_find?_eq_some found, same⟩
  have executed : visit.exec service (.users (.create email passwordHash)) world =
      (world.users.create email passwordHash visit.id world.now).map fun result =>
        (result.1, { world with users := result.2 }) := rfl
  rw [executed, UserTable.create, dif_pos taken]
  rfl

theorem exec_create_new (realizes : Realizes service known salts ideal stale world) {email : String}
    (absent : ideal.byEmail email = none) (fresh : visit.id ∉ ideal.profiles.map Profile.id) (passwordHash : String) :
    ∃ users : UserTable, visit.exec service (.users (.create email passwordHash)) world =
        some (.ok ⟨visit.id, email, passwordHash, world.now, world.now⟩, { world with users }) ∧
      users.rows = ⟨visit.id, email, passwordHash, world.now, world.now⟩ :: world.users.rows := by
  have free : email ∉ world.users.rows.map User.email := by
    rw [realizes.emails]
    intro taken
    obtain ⟨profile, member, same⟩ := List.mem_map.mp taken
    exact absurd same (by simpa using List.find?_eq_none.mp absent profile member)
  have unused : visit.id ∉ world.users.rows.map User.id := by
    rw [realizes.ids]
    exact fresh
  have executed : visit.exec service (.users (.create email passwordHash)) world =
      (world.users.create email passwordHash visit.id world.now).map fun result =>
        (result.1, { world with users := result.2 }) := rfl
  rw [executed, UserTable.create, dif_neg free, dif_neg unused]
  exact ⟨_, rfl, rfl⟩

theorem exec_updatePasswordHash (realizes : Realizes service known salts ideal stale world) {userID email : String}
    (has : ideal.Has userID email) (passwordHash : String) :
    visit.exec service (.users (.updatePasswordHash userID passwordHash)) world =
      some (.ok (), { world with users := world.users.setPassword userID passwordHash world.now }) := by
  obtain ⟨row, inside, same, _⟩ := realizes.row has
  have executed : visit.exec service (.users (.updatePasswordHash userID passwordHash)) world =
      some ((world.users.updatePasswordHash userID passwordHash world.now).1,
        { world with users := (world.users.updatePasswordHash userID passwordHash world.now).2 }) := rfl
  rw [executed, UserTable.updatePasswordHash, if_pos (List.mem_map.mpr ⟨row, inside, same⟩)]

/-- A token that was not handed out is drawn. -/
theorem exec_draw (realizes : Realizes service known salts ideal stale world)
    (collisionless : Collisionless service known salts) (recognised : visit.token ∈ known)
    (fresh : visit.token ∉ ideal.drawn) :
    visit.exec service (.random .token) world =
      some (some visit.token, { world with issued := service.hash visit.token :: world.issued }) := by
  have unused : service.hash visit.token ∉ world.issued := by
    rw [realizes.sessions.issued]
    intro issued
    obtain ⟨token, drawn, clash⟩ := List.mem_map.mp issued
    rw [collisionless.hash (realizes.sessions.handed token drawn) recognised clash] at drawn
    exact fresh drawn
  have executed : visit.exec service (.random .token) world = if service.hash visit.token ∈ world.issued then none
      else some (some visit.token, { world with issued := service.hash visit.token :: world.issued }) := rfl
  rw [executed, if_neg unused]

/-- The session of a grant is inserted unless one of its texts cannot be stored. -/
theorem create (realizes : Realizes service known salts ideal stale world)
    (collisionless : Collisionless service known salts) {session : Session} {grant : Grant}
    (opens : Opens service db ideal visit world.now session grant) :
    (grant.storable = false ∧ SessionTable.create db world.users world.now visit.id session world.sessions =
      some (.error .other, world.sessions)) ∨
    (grant.storable = true ∧ ∃ table, SessionTable.create db world.users world.now visit.id session world.sessions =
        some (.ok { session with id := visit.id, lastUsedAt := world.now, createdAt := world.now }, table) ∧
      Realizes service known salts { ideal with grants := grant :: ideal.grants } stale
        ({ world with sessions := table } : World (postgres db))) := by
  have owner : ideal.Has session.userID grant.email := by
    have same : session.userID = grant.userID := congrArg Session.userID opens.row
    rw [same]
    exact opens.owner
  have hashed : session.tokenHash = service.hash grant.token := congrArg Session.tokenHash opens.row
  have newHash : session.tokenHash ∉ (SessionTable.rows world.sessions).map Session.tokenHash := by
    rw [realizes.sessions.rows, List.map_map, hashed]
    intro taken
    obtain ⟨other, member, clash⟩ := List.mem_map.mp taken
    have recognised := realizes.sessions.handed _ opens.handed
    exact opens.unused other member ((realizes.hash_eq_iff collisionless member recognised).mp clash)
  have newID : visit.id ∉ (SessionTable.rows world.sessions).map Session.id := by
    rw [realizes.sessions.rows, List.map_map]
    exact opens.fresh
  have accepts : SessionTable.accepts world.users world.sessions session = grant.storable := by
    rw [realizes.accepts owner newHash, Grant.storable]
    have device : session.deviceID = grant.deviceID := congrArg Session.deviceID opens.row
    have agent : session.userAgent = grant.client.userAgent := congrArg Session.userAgent opens.row
    have address : session.ipAddress = grant.client.ipAddress := congrArg Session.ipAddress opens.row
    rw [device, agent, address]
  cases storable : grant.storable with
  | false => exact .inl ⟨rfl, SessionTable.create_unstored (accepts.trans storable)⟩
  | true =>
      obtain ⟨table, created, rows⟩ := SessionTable.create_stored (accepts.trans storable) newID
      refine .inr ⟨rfl, table, created, realizes.grant ?_ opens.handed opens.owner⟩
      rw [rows, opens.row]

theorem exec_createSession (realizes : Realizes service known salts ideal stale world)
    (collisionless : Collisionless service known salts) {session : Session} {grant : Grant}
    (opens : Opens service db ideal visit world.now session grant) :
    (grant.storable = false ∧ visit.exec service (.sessions (.create session)) world = some (.error .other, world)) ∨
    (grant.storable = true ∧ ∃ table, visit.exec service (.sessions (.create session)) world =
        some (.ok { session with id := visit.id, lastUsedAt := world.now, createdAt := world.now },
          { world with sessions := table }) ∧
      Realizes service known salts { ideal with grants := grant :: ideal.grants } stale
        { world with sessions := table }) := by
  have executed : visit.exec service (.sessions (.create session)) world =
      (SessionTable.create db world.users world.now visit.id session world.sessions).map fun result =>
        (result.1, { world with sessions := result.2 }) := rfl
  rw [executed]
  refine (realizes.create collisionless opens).imp ?_ ?_
  · rintro ⟨storable, refused⟩
    rw [refused]
    exact ⟨storable, rfl⟩
  · rintro ⟨storable, table, created, kept⟩
    rw [created]
    exact ⟨storable, table, rfl, kept⟩

/-- A rotation revokes the old grant and opens the new one. -/
theorem exec_rotateToken (realizes : Realizes service known salts ideal [] world)
    (collisionless : Collisionless service known salts) {token : String} (recognised : token ∈ known) {old : Grant}
    (found : ideal.byToken token = some old) {session : Session} {grant : Grant}
    (opens : Opens service db ideal visit world.now session grant) :
    (grant.storable = false ∧ visit.exec service (.sessions (.rotateToken (service.hash token) session)) world =
      some (.error .other, world)) ∨
    (grant.storable = true ∧ ∃ table, visit.exec service (.sessions (.rotateToken (service.hash token) session)) world =
        some (.ok { session with id := visit.id, lastUsedAt := world.now, createdAt := world.now },
          { world with sessions := table }) ∧
      Realizes service known salts
        { ideal.revoke (fun grant => grant.token = token) with
          grants := grant :: (ideal.revoke fun grant => grant.token = token).grants } [service.hash token]
        { world with sessions := table }) := by
  have revoked := realizes.deleteByTokenHash collisionless recognised
  have opens' : Opens service db (ideal.revoke fun grant => grant.token = token) visit world.now session grant :=
    ⟨opens.row, opens.handed, opens.owner, fun other member => opens.unused other (List.mem_of_mem_filter member),
      fun member => opens.fresh ((List.filter_sublist.map _).subset member)⟩
  have present : service.hash token ∈ (SessionTable.rows world.sessions).map Session.tokenHash := by
    have same : old.token = token := by simpa using List.find?_some found
    rw [realizes.sessions.rows, List.map_map, ← same]
    exact List.mem_map.mpr ⟨old, List.mem_of_find?_eq_some found, rfl⟩
  have executed : visit.exec service (.sessions (.rotateToken (service.hash token) session)) world =
      (SessionTable.rotateToken db none world.users world.now visit.id (service.hash token) session
        world.sessions).map fun result => (result.1, { world with sessions := result.2 }) := rfl
  rw [executed]
  simp only [SessionTable.rotateToken, reduceCtorEq, or_self, if_false, not_not.mpr present]
  refine (revoked.create collisionless opens').imp ?_ ?_
  · rintro ⟨storable, refused⟩
    replace refused : SessionTable.create db world.users world.now visit.id session
      (SessionTable.deleteByTokenHash (service.hash token) world.sessions) = _ := refused
    rw [refused]
    exact ⟨storable, rfl⟩
  · rintro ⟨storable, table, created, kept⟩
    replace created : SessionTable.create db world.users world.now visit.id session
      (SessionTable.deleteByTokenHash (service.hash token) world.sessions) = _ := created
    rw [created]
    exact ⟨storable, table, rfl, kept⟩

/-- A read by the hash of a token finds the row of its grant with the address of the owner. -/
theorem exec_getByTokenHash (realizes : Realizes service known salts ideal stale world)
    (collisionless : Collisionless service known salts) {token : String} (recognised : token ∈ known) :
    visit.exec service (.sessions (.getByTokenHash (service.hash token))) world =
      some ((ideal.byToken token).elim (.error .sessionNotFound) fun grant =>
        .ok { grant.row service with userEmail := grant.email }, world) := by
  have executed : visit.exec service (.sessions (.getByTokenHash (service.hash token))) world =
      some (SessionTable.getByTokenHash world.users (service.hash token) world.sessions, world) := rfl
  rw [executed]
  unfold SessionTable.getByTokenHash
  rw [realizes.byToken collisionless recognised]
  cases found : ideal.byToken token with
  | none => rfl
  | some grant =>
      have owned := realizes.owned.grants grant (List.mem_of_find?_eq_some found)
      obtain ⟨row, inside, same, address⟩ := realizes.row owned
      have owner : world.users.rows.find? (fun user => user.id = grant.userID) = some row := by
        cases search : world.users.rows.find? fun user => user.id = grant.userID with
        | none => exact absurd same (by simpa using List.find?_eq_none.mp search row inside)
        | some other =>
            have named : other.id = grant.userID := by simpa using List.find?_some search
            rw [List.inj_on_of_nodup_map world.users.uniqueID (List.mem_of_find?_eq_some search) inside
              (named.trans same.symm)]
      have joined : world.users.rows.find? (fun user => user.id = (grant.row service).userID) = some row := owner
      simp only [Option.map_some, Option.elim_some, joined, address]

/-- A bulk delete revokes the grants that it selects. -/
theorem exec_deleteAll (realizes : Realizes service known salts ideal [] world) (userID : String) :
    ∃ table, visit.exec service (.sessions (.deleteAllByUserID userID)) world =
        some (((ideal.grants.filter fun grant => grant.userID = userID).map fun grant => service.hash grant.token,
          none), { world with sessions := table }) ∧
      Realizes service known salts (ideal.revoke fun grant => grant.userID = userID)
        ((ideal.grants.filter fun grant => grant.userID = userID).map fun grant => service.hash grant.token)
        { world with sessions := table } := by
  obtain ⟨hashes, revoked⟩ := realizes.deleteWhere (fun grant => grant.userID = userID)
    (fun row => row.userID = userID) fun _ _ => rfl
  rw [List.append_nil] at revoked
  refine ⟨_, ?_, revoked⟩
  rw [← hashes]
  rfl

/-- The session of the given token is spared. -/
theorem exec_deleteAllExcept (realizes : Realizes service known salts ideal [] world)
    (collisionless : Collisionless service known salts) (userID : String) {token : String}
    (recognised : token ∈ known) :
    let selected : Grant → Bool := fun grant => grant.userID = userID && !(token ≠ "" && grant.token = token)
    ∃ table, visit.exec service (.sessions (.deleteAllByUserIDExcept userID
          (if token = "" then "" else service.hash token))) world =
        some (((ideal.grants.filter selected).map fun grant => service.hash grant.token, none),
          { world with sessions := table }) ∧
      Realizes service known salts (ideal.revoke selected)
        ((ideal.grants.filter selected).map fun grant => service.hash grant.token)
        { world with sessions := table } := by
  intro selected
  obtain ⟨hashes, revoked⟩ := realizes.deleteWhere selected
    (SessionTable.exceptCondition userID (if token = "" then "" else service.hash token)) (by
      intro grant member
      have condition : ∀ keep, SessionTable.exceptCondition userID keep (grant.row service) =
          if keep = "" then decide (grant.userID = userID)
          else decide (grant.userID = userID) && decide (service.hash grant.token ≠ keep) := fun _ => rfl
      by_cases absent : token = ""
      · simp [selected, condition, absent]
      · have proper := collisionless.proper token recognised absent
        have same := realizes.hash_eq_iff collisionless member recognised
        simp [selected, condition, absent, proper, same])
  rw [List.append_nil] at revoked
  refine ⟨_, ?_, revoked⟩
  rw [← hashes]
  rfl

end Realizes

theorem deleteByID_unread (table : SessionTable) {sessionID : String} (read : db.uuid sessionID = none)
    (userID : String) : table.deleteByID db sessionID userID = (.error .other, table) := by
  simp only [SessionTable.deleteByID, read]

/-- A session is deleted by its identifier when the user has it. -/
theorem deleteByID_grants {table : SessionTable} {grants : List Grant}
    (rows : table.rows = grants.map (Grant.row service))
    {sessionID id : String} (read : db.uuid sessionID = some id) (userID : String) :
    table.deleteByID db sessionID userID =
      match grants.find? fun grant => grant.sessionID = id && grant.userID = userID with
      | none => (.error .sessionNotFound, table)
      | some grant =>
          (.ok (service.hash grant.token), table.deleteWhere fun row => row.id = id && row.userID = userID) := by
  have search : table.rows.find? (fun row => row.id = id && row.userID = userID) =
      (grants.find? fun grant => grant.sessionID = id && grant.userID = userID).map (Grant.row service) := by
    rw [rows, List.find?_map]
    rfl
  simp only [SessionTable.deleteByID, read, search]
  cases grants.find? fun grant => grant.sessionID = id && grant.userID = userID <;> rfl

/-- A record is read until its expiry. -/
theorem lookup_record {V K : Type} {entries : String → Option (Expiring V)} {key : String} {record : K → Expiring V}
    {expiresAt : K → Time} (expires : ∀ item, (record item).expiresAt = some (expiresAt item)) {kept : Option K}
    (same : entries key = kept.map record) (now : Time) :
    lookup entries now key =
      (kept.filter fun item => now ≤ expiresAt item).map fun item => (record item).value := by
  rw [lookup_eq_filter, same]
  cases kept with
  | none => rfl
  | some item =>
      simp only [Option.map_some, Option.filter_some, Expiring.visible, expires]
      split <;> rfl

namespace Realizes

theorem exec_getOTP (realizes : Realizes service known salts ideal [] world) (now : world.now = visit.time)
    {email : String} (recognised : email ∈ known) :
    visit.exec service (.resets (.getOTP email)) world =
      some (((ideal.codes email).filter fun sent => visit.time ≤ sent.expiresAt).elim (.error .resetCodeNotFound)
        fun sent => .ok (sent.record service).value, world) := by
  have read := lookup_record (fun _ => rfl) (realizes.resets.code email recognised) visit.time
  have executed : visit.exec service (.resets (.getOTP email)) world =
      some ((lookup world.otps world.now (service.hash email)).elim (.error .resetCodeNotFound) .ok, world) := by
    change some (execResets service _ _ _) = _
    cases found : lookup world.otps world.now (service.hash email) <;>
    simp only [execResets, Visit.choice, found] <;> rfl
  rw [executed, now, read]
  cases (ideal.codes email).filter fun sent => visit.time ≤ sent.expiresAt <;> rfl

theorem exec_getResetToken (realizes : Realizes service known salts ideal [] world) (now : world.now = visit.time)
    {token : String} (recognised : token ∈ known) :
    visit.exec service (.resets (.getResetToken (service.hash token))) world =
      some (((ideal.permits token).filter fun permit => visit.time ≤ permit.expiresAt).elim
        (.error .resetTokenNotFound) fun permit => .ok permit.record.value, world) := by
  have read := lookup_record (fun _ => rfl) (realizes.resets.permit token recognised) visit.time
  have executed : visit.exec service (.resets (.getResetToken (service.hash token))) world =
      some ((lookup world.resetTokens world.now (service.hash token)).elim (.error .resetTokenNotFound) .ok,
        world) := by
    change some (execResets service _ _ _) = _
    cases found : lookup world.resetTokens world.now (service.hash token) <;>
    simp only [execResets, Visit.choice, found] <;> rfl
  rw [executed, now, read]
  cases (ideal.permits token).filter fun permit => visit.time ≤ permit.expiresAt <;> rfl

/-- A guess is counted strictly before the expiry. -/
theorem exec_incrOTPAttempts (realizes : Realizes service known salts ideal [] world) (now : world.now = visit.time)
    {email : String} (recognised : email ∈ known) {sent : SentCode} (present : ideal.codes email = some sent) :
    visit.exec service (.resets (.incrOTPAttempts email)) world =
      some (if visit.time < sent.expiresAt then
          (.ok (sent.attempts + 1), world.putCode service email (some { sent with attempts := sent.attempts + 1 }))
        else (.error .resetCodeNotFound, world)) := by
  have kept := realizes.resets.code email recognised
  rw [present] at kept
  change some (execResets service _ _ _) = _
  simp only [execResets, Visit.choice, Bool.false_eq_true, if_false, incrOTPAttempts, kept, Option.map_some,
    SentCode.record, ← now]
  by_cases ahead : world.now < sent.expiresAt
  · rw [if_neg (Int.not_le.mpr ahead), if_pos ahead]
    rfl
  · rw [if_pos (Int.not_lt.mp ahead), if_neg ahead]

end Realizes

namespace Visit

theorem exec_generate (visit : Visit) (world : World (postgres db)) (now : world.now = visit.time) (claims : Claims) :
    visit.exec service (.tokens (.generate claims)) world = some (some (service.sign claims visit.time), world) := by
  rw [← now]
  rfl

theorem exec_guard {config : GuardConfig} (guarded : service.bruteGuard = some config) (command : GuardCommand) :
    visit.exec service (.guard command) world = some (execGuard config command visit.choice world) := by
  change service.bruteGuard.map _ = _
  rw [guarded, Option.map_some]

theorem exec_deleteByTokenHash (visit : Visit) (tokenHash : String) (world : World (postgres db)) :
    visit.exec service (.sessions (.deleteByTokenHash tokenHash)) world =
      some (.ok (), { world with sessions := SessionTable.deleteByTokenHash tokenHash world.sessions }) := rfl

theorem exec_cacheGet (visit : Visit) (tokenHash : String) (world : World (postgres db)) :
    visit.exec service (.cache (.get tokenHash)) world =
      some ((lookup world.cache world.now tokenHash).elim (.error .other) .ok, world) := by
  change some (execCache _ _ _) = _
  cases found : lookup world.cache world.now tokenHash <;> simp only [execCache, found] <;> rfl

theorem exec_deleteByID {sessionID userID : String} {reply : Except StoreError String} {table : SessionTable}
    (deleted : SessionTable.deleteByID db sessionID userID world.sessions = (reply, table)) :
    visit.exec service (.sessions (.deleteByID sessionID userID)) world =
      some (reply, { world with sessions := table }) := by
  let leave : Except StoreError String × (postgres db).State →
      Option (Except StoreError String × World (postgres db)) :=
    fun result => some (result.1, { world with sessions := result.2 })
  exact congrArg leave deleted

theorem exec_deleteOTP (visit : Visit) (email : String) (world : World (postgres db)) :
    visit.exec service (.resets (.deleteOTP email)) world =
      some (.ok (), world.putCode service email none) := rfl

theorem exec_saveResetToken (now : world.now = visit.time) {token userID email : String} :
    visit.exec service (.resets (.saveResetToken (service.hash token) userID email (15 * minute))) world =
      some (.ok (), world.putPermit service token (some ⟨userID, email, visit.time + resetLifetime⟩)) := by
  rw [← now]
  rfl

theorem exec_deleteResetToken (visit : Visit) (token : String) (world : World (postgres db)) :
    visit.exec service (.resets (.deleteResetToken (service.hash token))) world =
      some (.ok (), world.putPermit service token none) := rfl

end Visit
end Calls
end AuthService
