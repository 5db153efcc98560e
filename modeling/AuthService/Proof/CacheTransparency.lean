/-
This file proves when a refresh has the same outcome with and without its cached session.
-/

import AuthService.Proof.CachedSessions
import AuthService.Proof.RefreshSteps
import AuthService.Proof.SingleUse
import AuthService.Proof.Solo

namespace AuthService
open Interleaving Program System

/-- The two texts for a refresh token that is not accepted count as one. -/
def Status.merged (status : Status) : Status :=
  if status = expiredRefreshToken then invalidRefreshToken else status

/-- What a refresh shows: its error, the claims of the access token that it returns, the user and the device
of the new session, and the session rows that it leaves. -/
structure RefreshView where
  refusal : Option Status
  claims : Option Claims
  session : Option (String × String)
  rows : List Session
deriving DecidableEq

/-- The claims of an access token that was signed. -/
def signedClaims (past : Past) : Option Claims :=
  (select Command.signs past).findSome? fun
    | ⟨.tokens (.generate claims), some _⟩ => some claims
    | _ => none

/-- The user and the device of a session that was rotated in. -/
def rotatedSession (past : Past) : Option (String × String) :=
  (select Command.writes past).findSome? fun
    | ⟨.sessions (.rotateToken _ _), .ok created⟩ => some (created.userID, created.deviceID)
    | _ => none

def outcome {db : Database} : Answer × Solo (postgres db) → RefreshView
  | (.ok _, solo) => ⟨none, signedClaims solo.past, rotatedSession solo.past, solo.world.sessions.rows⟩
  | (.error status, solo) => ⟨some status.merged, none, none, solo.world.sessions.rows⟩

/-- The outcome of a refresh that is refused and leaves these rows. -/
def refused (rows : List Session) : RefreshView := ⟨some invalidRefreshToken, none, none, rows⟩

/-- The outcome of a refresh that comes to the rotation. -/
def rotation (cached : CachedSession) : Option (Except StoreError Session × SessionTable) → RefreshView
  | some (.ok created, table) =>
      ⟨none, some ⟨cached.userID, cached.userEmail, ["user"]⟩, some (created.userID, created.deviceID), table.rows⟩
  | some (.error error, table) =>
      ⟨some (if error = .sessionNotFound then invalidRefreshToken else internalError), none, none, table.rows⟩
  | none => ⟨none, none, none, []⟩

section
variable {service : Service} {db : Database} {choice : Choice} {ctx : Context} {req : RefreshTokenRequest}
variable {solo looked : Solo (postgres db)} {cached : CachedSession}

/-- The lookup finds this copy and changes nothing. -/
structure Finds (service : Service) (choice : Choice) (tokenHash : String) (solo : Solo (postgres db))
    (cached : CachedSession) (looked : Solo (postgres db)) : Prop where
  eval : (lookupSession tokenHash).run.eval (Solo.exec service choice) solo = some (.ok cached, looked)
  world : looked.world = solo.world
  times : looked.times = solo.times
  signs : select Command.signs looked.past = select Command.signs solo.past
  writes : select Command.writes looked.past = select Command.writes solo.past

/-- A copy in the cache is found. -/
theorem finds_cached (works : choice.fails = false) {tokenHash : String}
    (hit : lookup solo.world.cache solo.world.now tokenHash = some cached) :
    Finds service choice tokenHash solo cached (solo.next solo.world ⟨.cache (.get tokenHash), .ok cached⟩) := by
  have executed : exec service (.cache (.get tokenHash)) choice solo.world = some (.ok cached, solo.world) := by
    simp only [exec, execCache, works, Bool.false_eq_true, if_false, hit]
  exact ⟨eval_lookup_hit (Solo.exec_next solo executed (by simp)), rfl, rfl, rfl, rfl⟩

section
variable (works : choice.fails = false) {tokenHash : String}
  (miss : lookup solo.world.cache solo.world.now tokenHash = none)
include works miss

theorem eval_lookup_read {reply : Except StoreError Session}
    (read : solo.world.sessions.getByTokenHash solo.world.users tokenHash = reply) :
    (lookupSession tokenHash).run.eval (Solo.exec service choice) solo =
      ((orStatus .sessionNotFound invalidRefreshToken reply >>= fun session => pure session.cached :
        Handler CachedSession)).run.eval (Solo.exec service choice)
        ((solo.next solo.world ⟨.cache (.get tokenHash), .error .other⟩).next solo.world
          ⟨.sessions (.getByTokenHash tokenHash), reply⟩) := by
  have missed : exec service (.cache (.get tokenHash)) choice solo.world =
      some (.error .other, solo.world) := by
    simp only [exec, execCache, works, Bool.false_eq_true, if_false, miss]
  have executed : exec service (.sessions (.getByTokenHash tokenHash)) choice solo.world =
      some (reply, solo.world) := by
    simp only [exec, postgres, SessionTable.exec, works, Bool.false_eq_true, if_false, read, Option.map_some]
    rfl
  exact eval_lookup_miss (Solo.exec_next solo missed (by simp))
    (Solo.exec_next (solo.next solo.world _) executed (by simp))

/-- A row of the database is found when the cache has no copy. -/
theorem finds_stored {session : Session}
    (read : solo.world.sessions.getByTokenHash solo.world.users tokenHash = .ok session) :
    Finds service choice tokenHash solo session.cached
      ((solo.next solo.world ⟨.cache (.get tokenHash), .error .other⟩).next solo.world
        ⟨.sessions (.getByTokenHash tokenHash), .ok session⟩) :=
  ⟨eval_lookup_read works miss read, rfl, rfl, rfl, rfl⟩

/-- Without a copy and without a row the refresh is refused. -/
theorem refresh_unknown (hash : tokenHash = service.hash req.refreshToken)
    (read : solo.world.sessions.getByTokenHash solo.world.users tokenHash = .error .sessionNotFound) :
    ∃ result, runAlone service choice (.refreshToken ctx req) solo = some result ∧
      outcome result = refused solo.world.sessions.rows := by
  subst hash
  have missed : (lookupSession (service.hash req.refreshToken)).run.eval (Solo.exec service choice) solo =
      some (.error invalidRefreshToken, _) := eval_lookup_read works miss read
  exact ⟨_, eval_error missed, rfl⟩

end

theorem eval_checkExpiry_late (works : choice.fails = false) {tokenHash : String} {checked : Time}
    {times : List Time} (script : solo.times = checked :: times) (expired : cached.expiresAt < checked) :
    ∃ last, (checkExpiry tokenHash cached).run.eval (Solo.exec service choice) solo =
        some (.error expiredRefreshToken, last) ∧
      last.world.sessions = solo.world.sessions.deleteByTokenHash tokenHash := by
  let read : Solo (postgres db) := ⟨{ solo.world with now := checked }, times, ⟨.clock, checked⟩ :: solo.past⟩
  have executed : exec service (.sessions (.deleteByTokenHash tokenHash)) choice read.world =
      some (.ok (), { read.world with sessions := solo.world.sessions.deleteByTokenHash tokenHash }) := by
    simp only [exec, postgres, SessionTable.exec, works, Bool.false_eq_true, if_false, Option.map_some]
    rfl
  obtain ⟨last, runs, kept, _⟩ := eval_aside service choice (follows_dropThrow tokenHash expiredRefreshToken)
    (read.next { read.world with sessions := solo.world.sessions.deleteByTokenHash tokenHash }
      ⟨.sessions (.deleteByTokenHash tokenHash), .ok ()⟩)
  exact ⟨last, (eval_checkExpiry_expired (Solo.exec_clock script) expired
    (Solo.exec_next read executed (by simp))).trans runs, kept⟩

/-- A refresh that finds an expired copy removes the row and is refused. -/
theorem refresh_expired (works : choice.fails = false)
    (finds : Finds service choice (service.hash req.refreshToken) solo cached looked) {checked : Time}
    {times : List Time} (script : solo.times = checked :: times) (expired : cached.expiresAt < checked) :
    ∃ result, runAlone service choice (.refreshToken ctx req) solo = some result ∧
      outcome result =
        refused (solo.world.sessions.deleteByTokenHash (service.hash req.refreshToken)).rows := by
  obtain ⟨last, checks, sessions⟩ := eval_checkExpiry_late works (finds.times.trans script) expired
  refine ⟨(.error expiredRefreshToken, last), eval_refresh_expired ctx finds.eval checks, ?_⟩
  rw [outcome, sessions, finds.world]
  rfl

/-- A refresh that finds a live copy comes to the rotation of its row. -/
theorem refresh_alive (works : choice.fails = false) (whole : choice.statement = none)
    (fresh : service.hash choice.token ∉ solo.world.issued)
    (finds : Finds service choice (service.hash req.refreshToken) solo cached looked)
    (nothing : select Command.signs solo.past = [] ∧ select Command.writes solo.past = []) {checked built : Time}
    {times : List Time} (script : solo.times = checked :: built :: times) (alive : ¬ cached.expiresAt < checked)
    {reply : Except StoreError Session} {table : SessionTable}
    (rotated : solo.world.sessions.rotateToken db none solo.world.users built choice.id
      (service.hash req.refreshToken) (refreshSession service ctx req cached choice.token built) =
        some (reply, table)) :
    ∃ result, runAlone service choice (.refreshToken ctx req) solo = some result ∧
      outcome result = rotation cached (some (reply, table)) := by
  let claims : Claims := ⟨cached.userID, cached.userEmail, ["user"]⟩
  let session := refreshSession service ctx req cached choice.token built
  let read : Solo (postgres db) :=
    ⟨{ solo.world with now := checked }, built :: times, ⟨.clock, checked⟩ :: looked.past⟩
  let signed := read.next read.world ⟨.tokens (.generate claims), some (service.sign claims checked)⟩
  let drawn := signed.next { read.world with issued := service.hash choice.token :: solo.world.issued }
    ⟨.random .token, some choice.token⟩
  let ready : Solo (postgres db) := ⟨{ drawn.world with now := built }, times, ⟨.clock, built⟩ :: drawn.past⟩
  let done := ready.next { ready.world with sessions := table }
    ⟨.sessions (.rotateToken (service.hash req.refreshToken) session), reply⟩
  have signs : exec service (.tokens (.generate claims)) choice read.world =
      some (some (service.sign claims checked), read.world) := by
    simp only [exec, execTokens, works, Bool.false_eq_true, if_false]
    rfl
  have draws : exec service (.random .token) choice signed.world = some (some choice.token, drawn.world) := by
    have unused : service.hash choice.token ∉ signed.world.issued := fresh
    simp only [exec, execRandom, works, Bool.false_eq_true, if_false, unused]
    rfl
  have rotates : exec service (.sessions (.rotateToken (service.hash req.refreshToken) session)) choice
      ready.world = some (reply, done.world) := by
    change (SessionTable.rotateToken db choice.statement solo.world.users built choice.id _ session
      solo.world.sessions).map _ = _
    rw [whole, rotated]
    rfl
  have clocks : Solo.exec service choice .clock looked = some (checked, read) := by
    rw [Solo.exec_clock (finds.times.trans script), finds.world]
  have clocked : Solo.exec service choice .clock drawn = some (built, ready) := Solo.exec_clock rfl
  have runs := eval_refresh_alive ctx finds.eval (eval_checkExpiry_alive clocks alive)
    (Solo.exec_next read signs (by simp)) (Solo.exec_next signed draws (by simp)) clocked
    (Solo.exec_next ready rotates (by simp))
  change ∃ result, (refreshToken service ctx req).run.eval _ solo = some result ∧ _
  rw [runs]
  cases reply with
  | error error =>
      have refuses : (orStatus .sessionNotFound invalidRefreshToken (.error error) : Handler Session).run.eval
          (Solo.exec service choice) done =
          some (.error (if error = .sessionNotFound then invalidRefreshToken else internalError), done) := by
        rw [orStatus]
        split <;> rfl
      refine ⟨_, eval_error refuses, ?_⟩
      simp only [outcome, rotation]
      split <;> rfl
  | ok created =>
      have accepts : (orStatus .sessionNotFound invalidRefreshToken (.ok created) : Handler Session).run.eval
          (Solo.exec service choice) done = some (.ok created, done) := rfl
      obtain ⟨last, ends, kept, extended⟩ := eval_aside service choice (follows_afterwards _ _ _ _ _ _ _ _ _ _ _) done
      refine ⟨_, (eval_ok accepts).trans ends, ?_⟩
      have signing : select Command.signs last.past =
          [⟨.tokens (.generate claims), some (service.sign claims checked)⟩] := by
        rw [extended.signs]
        change _ :: select Command.signs looked.past = _
        rw [finds.signs, nothing.1]
      have writing : select Command.writes last.past =
          [⟨.sessions (.rotateToken (service.hash req.refreshToken) session), .ok created⟩] := by
        rw [extended.writes]
        change _ :: select Command.writes looked.past = _
        rw [finds.writes, nothing.2]
      simp only [outcome, rotation, signedClaims, rotatedSession, signing, writing, kept]
      rfl

end

/-- The outcome of a refresh that has found this copy, with its first two readings of the clock. -/
def judged {db : Database} (service : Service) (choice : Choice) (ctx : Context) (req : RefreshTokenRequest)
    (checked built : Time) (world : World (postgres db)) (cached : CachedSession) : RefreshView :=
  if cached.expiresAt < checked then
    refused (world.sessions.deleteByTokenHash (service.hash req.refreshToken)).rows
  else rotation cached (world.sessions.rotateToken db none world.users built choice.id
    (service.hash req.refreshToken) (refreshSession service ctx req cached choice.token built))

/-- The outcome of a refresh that has found no copy in the cache. -/
def unassisted {db : Database} (service : Service) (choice : Choice) (ctx : Context) (req : RefreshTokenRequest)
    (checked built : Time) (world : World (postgres db)) : RefreshView :=
  match world.sessions.getByTokenHash world.users (service.hash req.refreshToken) with
  | .ok session => judged service choice ctx req checked built world session.cached
  | .error _ => refused world.sessions.rows

/-- The outcome of a refresh that runs alone. -/
def refreshOutcome {db : Database} (service : Service) (choice : Choice) (ctx : Context)
    (req : RefreshTokenRequest) (times : List Time) (world : World (postgres db)) : Option RefreshView :=
  (runAlone service choice (.refreshToken ctx req) ⟨world, times, []⟩).map outcome

/-- The cache has lost some of its entries. -/
def World.evict {store : SessionStore} (world : World store) (removed : String → Bool) : World store :=
  { world with cache := fun tokenHash => if removed tokenHash then none else world.cache tokenHash }

theorem lookup_evict {store : SessionStore} (world : World store) (removed : String → Bool) (tokenHash : String) :
    lookup (world.evict removed).cache (world.evict removed).now tokenHash =
      if removed tokenHash then none else lookup world.cache world.now tokenHash := by
  unfold lookup World.evict
  dsimp only
  split <;> simp_all

section
variable {service : Service} {db : Database} {choice : Choice} {ctx : Context} {req : RefreshTokenRequest}
variable {world : World (postgres db)} {cached : CachedSession} {checked built : Time} {times : List Time}
variable (works : choice.fails = false) (whole : choice.statement = none)
  (fresh : service.hash choice.token ∉ world.issued) (unused : choice.id ∉ world.sessions.rows.map Session.id)

include works whole fresh unused

theorem outcome_found {looked : Solo (postgres db)}
    (finds : Finds service choice (service.hash req.refreshToken) ⟨world, checked :: built :: times, []⟩ cached
      looked) :
    refreshOutcome service choice ctx req (checked :: built :: times) world =
      some (judged service choice ctx req checked built world cached) := by
  unfold judged refreshOutcome
  split
  · rename_i expired
    obtain ⟨result, runs, observed⟩ : ∃ result, runAlone service choice (.refreshToken ctx req) _ = some result ∧
        outcome result = _ := refresh_expired works finds rfl expired
    rw [runs, Option.map_some, observed]
  · rename_i alive
    obtain ⟨reply, table, rotated⟩ := world.sessions.rotateToken_total unused
    obtain ⟨result, runs, observed⟩ := refresh_alive works whole fresh finds ⟨rfl, rfl⟩ rfl alive rotated
    rw [runs, Option.map_some, observed, rotated]

theorem outcome_cached (hit : lookup world.cache world.now (service.hash req.refreshToken) = some cached) :
    refreshOutcome service choice ctx req (checked :: built :: times) world =
      some (judged service choice ctx req checked built world cached) := by
  let solo : Solo (postgres db) := ⟨world, checked :: built :: times, []⟩
  have seen : lookup solo.world.cache solo.world.now (service.hash req.refreshToken) = some cached := hit
  exact outcome_found works whole fresh unused (finds_cached works seen)

theorem outcome_missed (miss : lookup world.cache world.now (service.hash req.refreshToken) = none) :
    refreshOutcome service choice ctx req (checked :: built :: times) world =
      some (unassisted service choice ctx req checked built world) := by
  let solo : Solo (postgres db) := ⟨world, checked :: built :: times, []⟩
  have unseen : lookup solo.world.cache solo.world.now (service.hash req.refreshToken) = none := miss
  unfold unassisted
  split
  · rename_i session read
    exact outcome_found works whole fresh unused (finds_stored works unseen read)
  · rename_i error read
    obtain rfl := SessionTable.getByTokenHash_error read
    obtain ⟨result, runs, observed⟩ : ∃ result, runAlone service choice (.refreshToken ctx req) solo = some result ∧
        outcome result = refused solo.world.sessions.rows := refresh_unknown works unseen rfl read
    rw [refreshOutcome, runs, Option.map_some, observed]

omit works whole fresh unused

/-- Without a row every copy is refused. -/
theorem judged_absent (absent : service.hash req.refreshToken ∉ world.sessions.rows.map Session.tokenHash) :
    judged service choice ctx req checked built world cached = refused world.sessions.rows := by
  unfold judged
  split
  · rw [SessionTable.deleteByTokenHash_absent absent]
  · rw [SessionTable.rotateToken_absent absent]
    rfl

/-- Two copies that agree on the owner and the device have the same outcome when they agree on the expiry. -/
theorem judged_congr {copy : CachedSession} (userID : copy.userID = cached.userID)
    (userEmail : copy.userEmail = cached.userEmail) (deviceID : copy.deviceID = cached.deviceID)
    (expiry : copy.expiresAt < checked ↔ cached.expiresAt < checked) :
    judged service choice ctx req checked built world copy =
      judged service choice ctx req checked built world cached := by
  unfold judged
  simp only [expiry]
  split
  · rfl
  · unfold refreshSession rotation
    rw [userID, userEmail, deviceID]

include unused in
/-- An expired copy and a live copy of a row that is there have different outcomes. -/
theorem judged_ne {copy : CachedSession}
    (present : service.hash req.refreshToken ∈ world.sessions.rows.map Session.tokenHash)
    (expired : cached.expiresAt < checked) (alive : ¬ copy.expiresAt < checked) :
    judged service choice ctx req checked built world cached ≠
      judged service choice ctx req checked built world copy := by
  intro same
  have refusals := congrArg RefreshView.refusal same
  unfold judged at refusals
  rw [if_pos expired, if_neg alive] at refusals
  obtain ⟨reply, table, rotated, known⟩ := SessionTable.rotateToken_present unused present
  rw [rotated] at refusals
  cases reply with
  | ok created => cases refusals
  | error error =>
      simp only [rotation, refused, Option.some.injEq] at refusals
      split at refusals
      · rename_i unknown
        exact known (congrArg Except.error unknown)
      · cases refusals

end

/-- The refresh finds a cached copy of a row that is there, the copy is among the lost entries, and the check of
the expiry decides differently for the copy and for the stored row. -/
def Misjudged {db : Database} (world : World (postgres db)) (tokenHash : String) (checked : Time)
    (removed : String → Bool) : Prop :=
  removed tokenHash = true ∧ tokenHash ∈ world.sessions.rows.map Session.tokenHash ∧
    ∃ cached, lookup world.cache world.now tokenHash = some cached ∧
      ¬ (db.stored cached.expiresAt < checked ↔ cached.expiresAt < checked)

section
variable {service : Service} {db : Database} {base : World (postgres db)} {requests : List Request}
variable {allowed : ServiceConfig (postgres db) → ServiceLabel → Prop} {config : ServiceConfig (postgres db)}

/-- A row with a cached copy is found in the database with the same owner and device, and with the expiry of
the copy as it is stored. -/
theorem read_of_backed (sound : base.Sound)
    (reached : (system service (postgres db)).Reaches allowed ((system service (postgres db)).begin base requests)
      config) {tokenHash : String} {cached : CachedSession} (backed : Backed id config tokenHash cached)
    (present : tokenHash ∈ config.world.sessions.rows.map Session.tokenHash) :
    ∃ session, config.world.sessions.getByTokenHash config.world.users tokenHash = .ok session ∧
      session.userID = cached.userID ∧ session.userEmail = cached.userEmail ∧
      session.deviceID = cached.deviceID ∧ session.expiresAt = db.stored cached.expiresAt := by
  obtain ⟨⟨owner, inside, identity, address⟩, event, member, given, created, installed, hash, copies⟩ := backed
  have origin (row : Row) (there : row ∈ rowsOf config) (same : row.tokenHash = tokenHash) :
      row.userID = cached.userID ∧ row.deviceID = cached.deviceID ∧
        row.expiresAt = db.stored cached.expiresAt := by
    obtain ⟨filled, rfl⟩ := row_of_installation sound reached member installed there (same.trans hash.symm)
    refine ⟨filled.userID.trans copies.userID.symm, filled.deviceID.trans copies.deviceID.symm, ?_⟩
    change db.stored created.expiresAt = _
    rw [filled.expiresAt, copies.expiresAt, id]
  have owned : ∀ row ∈ config.world.sessions.rows, row.tokenHash = tokenHash →
      ∃ user ∈ config.world.users.rows, user.id = row.userID := by
    intro row there same
    exact ⟨owner, inside, identity.trans (origin row.row ⟨row, there, rfl⟩ same).1.symm⟩
  obtain ⟨session, read⟩ := SessionTable.getByTokenHash_present present owned
  obtain ⟨hash', there, user, known, identity', address'⟩ := SessionTable.getByTokenHash_ok read
  obtain ⟨userID, deviceID, expiresAt⟩ := origin session.row there hash'
  obtain rfl := config.world.users.id_injective known inside (identity'.trans (userID.trans identity.symm))
  exact ⟨session, read, userID, address'.symm.trans address, deviceID, expiresAt⟩

/-- A refresh judges the stored row like a cached copy of it, unless the stored expiry decides differently. -/
theorem unassisted_eq_judged_iff (sound : base.Sound)
    (reached : (system service (postgres db)).Reaches allowed ((system service (postgres db)).begin base requests)
      config) {choice : Choice} {ctx : Context} {req : RefreshTokenRequest} {checked built : Time}
    {cached : CachedSession} (unused : choice.id ∉ config.world.sessions.rows.map Session.id)
    (backed : Backed id config (service.hash req.refreshToken) cached) :
    unassisted service choice ctx req checked built config.world =
        judged service choice ctx req checked built config.world cached ↔
      ¬ (service.hash req.refreshToken ∈ config.world.sessions.rows.map Session.tokenHash ∧
        ¬ (db.stored cached.expiresAt < checked ↔ cached.expiresAt < checked)) := by
  by_cases present : service.hash req.refreshToken ∈ config.world.sessions.rows.map Session.tokenHash
  · obtain ⟨session, read, userID, userEmail, deviceID, expiresAt⟩ := read_of_backed sound reached backed present
    have stored : unassisted service choice ctx req checked built config.world =
        judged service choice ctx req checked built config.world session.cached := by
      rw [unassisted, read]
    rw [stored, ← expiresAt]
    by_cases agree : session.expiresAt < checked ↔ cached.expiresAt < checked
    · exact iff_of_true (judged_congr userID userEmail deviceID agree) fun apart => apart.2 agree
    · refine iff_of_false ?_ fun apart => apart ⟨present, agree⟩
      by_cases expired : cached.expiresAt < checked
      · have alive : ¬ session.cached.expiresAt < checked := fun late => agree (iff_of_true late expired)
        exact (judged_ne unused present expired alive).symm
      · have late : session.cached.expiresAt < checked :=
          not_not.mp fun alive => agree (iff_of_false alive expired)
        exact judged_ne unused present late expired
  · refine iff_of_true ?_ fun both => present both.1
    rw [unassisted, SessionTable.getByTokenHash_absent present, judged_absent present]

end

/-- In every reachable state, a refresh that runs alone with working stores has the same outcome with its cache and
after the loss of any cache entries, unless the expiry that the database stores decides the check
differently from the expiry in a lost copy. -/
theorem refresh_transparent_iff (service : Service) (db : Database) (now : Time) :
    let auth := system service (postgres db)
    let initial := auth.begin (World.empty (postgres db) now) []
    ∀ config, auth.Reaches Anything initial config →
      ∀ ctx req choice checked built times removed, choice.fails = false → choice.statement = none →
        service.hash choice.token ∉ config.world.issued →
        choice.id ∉ config.world.sessions.rows.map Session.id →
        ∃ kept lost,
          refreshOutcome service choice ctx req (checked :: built :: times) config.world = some kept ∧
          refreshOutcome service choice ctx req (checked :: built :: times) (config.world.evict removed) =
            some lost ∧
          (lost = kept ↔ ¬ Misjudged config.world (service.hash req.refreshToken) checked removed) := by
  intro auth initial config reached ctx req choice checked built times removed works whole fresh unused
  have sound : (World.empty (postgres db) now).Sound := World.empty_sound now
  have shown := lookup_evict config.world removed (service.hash req.refreshToken)
  cases hit : lookup config.world.cache config.world.now (service.hash req.refreshToken) with
  | none =>
      rw [hit, ite_self] at shown
      refine ⟨_, _, outcome_missed works whole fresh unused hit, outcome_missed works whole fresh unused shown, ?_⟩
      refine iff_of_true rfl ?_
      rintro ⟨_, _, cached, found, _⟩
      rw [hit] at found
      cases found
  | some cached =>
      rw [hit] at shown
      cases gone : removed (service.hash req.refreshToken) with
      | false =>
          rw [gone, if_neg Bool.false_ne_true] at shown
          refine ⟨_, _, outcome_cached works whole fresh unused hit, outcome_cached works whole fresh unused shown,
            iff_of_true rfl ?_⟩
          rintro ⟨lost, _⟩
          rw [gone] at lost
          cases lost
      | true =>
          rw [gone, if_pos rfl] at shown
          refine ⟨_, _, outcome_cached works whole fresh unused hit, outcome_missed works whole fresh unused shown, ?_⟩
          have backed : Backed id config (service.hash req.refreshToken) cached := by
            obtain ⟨entry, present, rfl⟩ := lookup_eq_some hit
            exact (reaches_faithful sound rfl rfl reached).cache _ entry present
          refine (unassisted_eq_judged_iff sound reached unused backed).trans (not_congr ?_)
          constructor
          · rintro ⟨present, apart⟩
            exact ⟨gone, present, cached, hit, apart⟩
          · rintro ⟨_, present, other, found, apart⟩
            obtain rfl := Option.some.inj (hit.symm.trans found)
            exact ⟨present, apart⟩

/-- A database that keeps the whole microseconds of a time. -/
def microsecondDatabase : Database := ⟨fun time => time / 1000 * 1000, some⟩

/-- A user registers and logs in one nanosecond after the epoch, and almost the whole lifetime passes. -/
def lateLogin : List ServiceLabel :=
  [.start (.register bareContext ⟨"a@b.co", "passw0rd"⟩),
    .start (.login bareContext ⟨"a@b.co", "passw0rd", "phone"⟩)] ++
  advances 0 4 { id := "user" } ++ [.drift (.clock 1)] ++ advances 1 9 { id := "first", token := "token" } ++
  [.drift (.clock 1000000000)]

/-- The refresh of the login, which draws a new token and a new identifier. -/
def lateRefresh (checked : Time) : World (postgres microsecondDatabase) → Option RefreshView :=
  refreshOutcome sample { id := "second", token := "next" } bareContext ⟨"token", ""⟩ [checked, checked]

/-- In this run the cached copy expires one nanosecond after the stored row. A refresh at that nanosecond succeeds
with the cache, and without it the session is removed as expired. -/
theorem lost_cache_changes_refresh :
    ∃ config kept lost, (system sample (postgres microsecondDatabase)).Reaches Anything
        ((system sample (postgres microsecondDatabase)).begin (World.empty (postgres microsecondDatabase) 0) [])
        config ∧
      lateRefresh 1000000001 config.world = some kept ∧
      lateRefresh 1000000001 (config.world.evict fun _ => true) = some lost ∧
      kept.refusal = none ∧ kept.rows.map Session.tokenHash = ["#next"] ∧
      lost.refusal = some invalidRefreshToken ∧ lost.rows = [] := by
  obtain ⟨config, reached, checked⟩ :
      ∃ config, (system sample (postgres microsecondDatabase)).Reaches Anything
          ((system sample (postgres microsecondDatabase)).begin (World.empty (postgres microsecondDatabase) 0) [])
          config ∧
        ((lateRefresh 1000000001 config.world).any (fun kept =>
            decide (kept.refusal = none ∧ kept.rows.map Session.tokenHash = ["#next"])) &&
          (lateRefresh 1000000001 (config.world.evict fun _ => true)).any fun lost =>
            decide (lost.refusal = some invalidRefreshToken ∧ lost.rows = [])) = true :=
    exists_of_run lateLogin _ (by decide +kernel)
  rw [Bool.and_eq_true] at checked
  obtain ⟨kept, keeps, accepted⟩ := (Option.any_eq_true _ _).mp checked.1
  obtain ⟨lost, loses, refused⟩ := (Option.any_eq_true _ _).mp checked.2
  obtain ⟨granted, rows⟩ := of_decide_eq_true accepted
  obtain ⟨denied, empty⟩ := of_decide_eq_true refused
  exact ⟨config, kept, lost, reached, keeps, loses, granted, rows, denied, empty⟩

/-- In this run a refresh one nanosecond earlier has the same outcome with and without the cache. -/
theorem lost_cache_keeps_refresh :
    ∃ config outcome, (system sample (postgres microsecondDatabase)).Reaches Anything
        ((system sample (postgres microsecondDatabase)).begin (World.empty (postgres microsecondDatabase) 0) [])
        config ∧
      lateRefresh 1000000000 config.world = some outcome ∧
      lateRefresh 1000000000 (config.world.evict fun _ => true) = some outcome := by
  obtain ⟨config, reached, checked⟩ :
      ∃ config, (system sample (postgres microsecondDatabase)).Reaches Anything
          ((system sample (postgres microsecondDatabase)).begin (World.empty (postgres microsecondDatabase) 0) [])
          config ∧
        decide (config.world.issued = ["#token"] ∧ config.world.sessions.rows.map Session.id = ["first"] ∧
          (lookup config.world.cache config.world.now "#token").map CachedSession.expiresAt =
            some 1000000001) = true :=
    exists_of_run lateLogin _ (by decide +kernel)
  obtain ⟨issued, ids, copy⟩ := of_decide_eq_true checked
  obtain ⟨kept, lost, keeps, loses, same⟩ := refresh_transparent_iff sample microsecondDatabase 0 config reached
    bareContext ⟨"token", ""⟩ { id := "second", token := "next" } 1000000000 1000000000 [] (fun _ => true) rfl rfl
    (by rw [issued]; decide) (by rw [ids]; decide)
  have agrees : lost = kept := same.mpr (by
    rintro ⟨_, _, cached, found, apart⟩
    obtain ⟨other, seen, expiry⟩ := Option.map_eq_some_iff.mp copy
    obtain rfl := Option.some.inj (seen.symm.trans found)
    rw [expiry] at apart
    exact apart (by decide))
  exact ⟨config, kept, reached, keeps, agrees ▸ loses⟩

end AuthService
