/-
This file proves the rules for the parts of a request that runs alone.
-/

import AuthService.Proof.IdealCalls

namespace AuthService
open Interleaving Program System

variable {service : Service} {known salts : Set String} {db : Database} {ideal : Ideal} {stale : List String}
variable {world : World (postgres db)} {visit : Visit}

theorem ensures_checked {refusal : Option String} {rest : Unit → Handler Response} {result : Answer × Ideal}
    (realizes : Realizes service known salts ideal [] world)
    (valid : (rest ()).run.Ensures (visit.exec service) (Agrees service known salts result) world) :
    (checkArgument refusal >>= rest).run.Ensures (visit.exec service)
      (Agrees service known salts (ideal.checked refusal result)) world := by
  cases refusal with
  | none => exact valid
  | some message => exact ⟨rfl, realizes⟩

theorem ensures_identified {ctx : Context} {rest : String → Handler Response} {result : String → Answer × Ideal}
    (realizes : Realizes service known salts ideal [] world) (now : world.now = visit.time)
    (named : ∀ userID, (rest userID).run.Ensures (visit.exec service) (Agrees service known salts (result userID))
      world) :
    (extractUserIDFromCtx ctx >>= rest).run.Ensures (visit.exec service)
      (Agrees service known salts (ideal.identified service visit ctx result)) world := by
  unfold extractUserIDFromCtx Ideal.identified Ideal.bearer
  cases ctx.metadata with
  | none => exact ⟨rfl, realizes⟩
  | some md =>
      dsimp only
      cases md "authorization" with
      | nil => exact ⟨rfl, realizes⟩
      | cons header others =>
          dsimp only
          cases cutPrefix header "Bearer " with
          | none => exact ⟨rfl, realizes⟩
          | some token =>
              dsimp only
              rw [ensures_run_bind]
              have executed : visit.exec service (.tokens (.validate token)) world =
                  some (service.validate token visit.time, world) := by
                rw [← now]
                rfl
              refine ensures_call executed ?_
              cases service.validate token visit.time with
              | none => exact ⟨rfl, realizes⟩
              | some claims => exact named claims.userID

/-- Reports are kept in the background. -/
theorem ensures_report {A : Type} {rest : Unit → Handler A} {ends : Except Status A → World (postgres db) → Prop}
    {auditUser : Option String} {hookUser email : String} {eventType : AuditEventType} {client : ClientInfo}
    {auditMeta hookMeta : List (String × String)}
    (continues : ∀ background, (rest ()).run.Ensures (visit.exec service) ends { world with background }) :
    (report auditUser hookUser email eventType client auditMeta hookMeta >>= rest).run.Ensures (visit.exec service)
      ends world := by
  rw [ensures_run_bind, report]
  obtain ⟨first, logged⟩ : ∃ background, execBackground service
      (.logAudit ⟨auditUser, eventType, client.ipAddress, client.userAgent, auditMeta⟩) world =
      { world with background } := execBackground_frame _
  refine ensures_call (congrArg (fun next => some ((), next)) logged) ?_
  exact ⟨(), _, rfl, continues _⟩

theorem ensures_hashPassword {A : Type} {rest : String → Handler A}
    {ends : Except Status A → World (postgres db) → Prop} {plaintext : String}
    (continues : (rest (service.hashPassword visit.salt plaintext)).run.Ensures (visit.exec service) ends world) :
    (hashPassword service plaintext >>= rest).run.Ensures (visit.exec service) ends world := by
  rw [ensures_run_bind]
  exact ⟨some visit.salt, world, rfl, continues⟩

theorem ensures_cacheDelete {A : Type} {rest : Unit → Handler A} {ends : Except Status A → World (postgres db) → Prop}
    {tokenHash : String} (realizes : Realizes service known salts ideal (tokenHash :: stale) world)
    (continues : ∀ cache, Realizes service known salts ideal stale { world with cache } →
      (rest ()).run.Ensures (visit.exec service) ends { world with cache }) :
    (deleteSessionFromCache tokenHash >>= rest).run.Ensures (visit.exec service) ends world := by
  rw [ensures_run_bind]
  exact ⟨.ok (), _, rfl, continues _ realizes.cacheDelete⟩

theorem ensures_cacheDeletes {A : Type} {rest : PUnit → Handler A}
    {ends : Except Status A → World (postgres db) → Prop} {hashes : List String}
    (realizes : Realizes service known salts ideal hashes world)
    (continues : ∀ cache, Realizes service known salts ideal [] { world with cache } →
      (rest ⟨⟩).run.Ensures (visit.exec service) ends { world with cache }) :
    (forM hashes deleteSessionFromCache >>= rest).run.Ensures (visit.exec service) ends world := by
  rw [ensures_run_bind]
  refine (ensures_forM _ (fun items next => ∃ cache, next = { world with cache } ∧
    Realizes service known salts ideal items next) ?_ hashes ⟨world.cache, rfl, realizes⟩).imp ?_
  · rintro item items _ ⟨cache, rfl, holds⟩
    exact ⟨.ok (), _, rfl, rfl, _, rfl, holds.cacheDelete⟩
  · rintro _ _ ⟨rfl, cache, rfl, holds⟩
    exact continues cache holds

theorem ensures_cacheSession {A : Type} {rest : Unit → Handler A} {ends : Except Status A → World (postgres db) → Prop}
    {grant : Grant} (realizes : Realizes service known salts ideal stale world) (member : grant ∈ ideal.grants)
    {tokenHash : String} (hashed : tokenHash = service.hash grant.token) {copy : CachedSession}
    (copied : copy = grant.copy)
    (continues : ∀ cache, Realizes service known salts ideal stale { world with cache } →
      (rest ()).run.Ensures (visit.exec service) ends { world with cache }) :
    (cacheSession tokenHash copy >>= rest).run.Ensures (visit.exec service) ends world := by
  subst hashed copied
  rw [ensures_run_bind, cacheSession]
  have executed : visit.exec service .clock world = some (world.now, world) := rfl
  refine ensures_call executed ?_
  split
  · rename_i positive
    have written : visit.exec service (.cache (.set (service.hash grant.token) grant.copy
        (grant.copy.expiresAt - world.now))) world = some (.ok (), { world with
          cache := Function.update world.cache (service.hash grant.token)
            (some ⟨grant.copy, redisExpiry world.now (grant.copy.expiresAt - world.now)⟩) }) := by
      change some (execCache _ _ _) = _
      rw [execCache, if_neg (Int.not_le.mpr positive)]
      rfl
    exact ⟨.ok (), _, written, continues _ (realizes.cacheSet member _)⟩
  · exact continues world.cache realizes

theorem ensures_checkLockout {A : Type} {rest : Unit → Handler A} {ends : Except Status A → World (postgres db) → Prop}
    (realizes : Realizes service known salts ideal stale world) (now : world.now = visit.time) {email : String}
    {client : ClientInfo} (apart : (ideal.lockout email).Apart visit.time)
    (passes : ideal.isLocked service visit email = false → (rest ()).run.Ensures (visit.exec service) ends world)
    (refuses : ideal.isLocked service visit email = true →
      ∀ background, ends (.error lockedOut) { world with background }) :
    (checkLockout service email client >>= rest).run.Ensures (visit.exec service) ends world := by
  rw [ensures_run_bind]
  unfold checkLockout
  unfold Ideal.isLocked at passes refuses
  cases guarded : service.bruteGuard with
  | none =>
      rw [guarded] at passes
      exact passes rfl
  | some config =>
      rw [guarded, Option.isSome_some, Bool.true_and] at passes refuses
      have executed : visit.exec service (.guard (.isLocked email)) world =
          some (.ok ((ideal.lockout email).isLocked visit.time), world) := by
        have read := (realizes.lockout email).isLocked apart
        rw [← now] at read
        rw [Visit.exec_guard guarded, ← now]
        change some (Except.ok (world.guard.isLocked false world.now email).1,
          { world with guard := (world.guard.isLocked false world.now email).2 }) = _
        rw [read]
      rw [Option.isSome_some, if_pos rfl]
      refine ensures_call executed ?_
      cases locked : (ideal.lockout email).isLocked visit.time with
      | false => exact passes locked
      | true => exact ensures_report fun background => refuses locked background

theorem ensures_getLoginUser {A : Type} {rest : User → Handler A} {ends : Except Status A → World (postgres db) → Prop}
    (realizes : Realizes service known salts ideal stale world) {email : String} {client : ClientInfo}
    (found : ∀ profile row, ideal.byEmail email = some profile → profile.KeptAs service known salts row →
      (rest row).run.Ensures (visit.exec service) ends world)
    (missing : ideal.byEmail email = none → ∀ background, ends (.error invalidCredentials) { world with background }) :
    (getLoginUser email client >>= rest).run.Ensures (visit.exec service) ends world := by
  rw [ensures_run_bind]
  unfold getLoginUser
  rcases realizes.exec_getByEmail email with ⟨absent, executed⟩ | ⟨profile, row, present, kept, executed⟩
  · refine ensures_call executed ?_
    exact ensures_report fun background => missing absent background
  · exact ensures_call executed (found profile row present kept)

/-- A password is compared with that of the profile. -/
theorem verify_profile (collisionless : Collisionless service known salts) {profile : Profile} {row : User}
    (kept : profile.KeptAs service known salts row) {guess : String} (recognised : guess ∈ known) :
    service.verifyPassword guess row.passwordHash = some (decide (guess = profile.password)) := by
  obtain ⟨salt, salted, encoded⟩ := kept.encoded
  rw [encoded, collisionless.verify salt salted _ kept.password _ recognised]

theorem ensures_recordFailure {A : Type} {rest : Unit → Handler A} {ends : Except Status A → World (postgres db) → Prop}
    (realizes : Realizes service known salts ideal stale world) (now : world.now = visit.time)
    (whole : ∀ config ∈ service.bruteGuard, config.Whole) {user : User} {email : String} {client : ClientInfo}
    (below : (ideal.recordFailure service visit email).1 = false → ∀ next,
      Realizes service known salts (ideal.recordFailure service visit email).2 stale next →
      (rest ()).run.Ensures (visit.exec service) ends next)
    (reached : (ideal.recordFailure service visit email).1 = true → ∀ next,
      Realizes service known salts (ideal.recordFailure service visit email).2 stale next →
      ends (.error lockedOut) next) :
    (recordFailure service user email client >>= rest).run.Ensures (visit.exec service) ends world := by
  rw [ensures_run_bind]
  unfold recordFailure
  unfold Ideal.recordFailure at below reached
  cases guarded : service.bruteGuard with
  | none =>
      rw [guarded] at below
      exact below rfl world realizes
  | some config =>
      simp only [guarded] at below reached
      obtain ⟨guard, recorded, represents⟩ :=
        (realizes.lockout email).recordFailure (whole config guarded) visit.time
      have executed : visit.exec service (.guard (.recordFailure email)) world =
          some (.ok ((ideal.lockout email).reaches config visit.time), { world with guard }) := by
        rw [← now] at recorded
        rw [Visit.exec_guard guarded, ← now]
        change some ((world.guard.recordFailure config (fun _ => false) world.now email).1,
          { world with guard := (world.guard.recordFailure config (fun _ => false) world.now email).2 }) = _
        rw [recorded]
      have kept := realizes.lock represents fun other spec apart before => before.recordFailure_other apart recorded
      rw [Option.isSome_some, if_pos rfl]
      refine ensures_call executed ?_
      cases limit : (ideal.lockout email).reaches config visit.time with
      | false => exact below limit _ kept
      | true => exact ensures_report fun background => reached limit _ (kept.aside _ background)

theorem ensures_checkLoginPassword {A : Type} {rest : Unit → Handler A}
    {ends : Except Status A → World (postgres db) → Prop} (realizes : Realizes service known salts ideal stale world)
    (collisionless : Collisionless service known salts) (now : world.now = visit.time)
    (whole : ∀ config ∈ service.bruteGuard, config.Whole) {profile : Profile} {row : User}
    (kept : profile.KeptAs service known salts row) {req : LoginRequest} {client : ClientInfo}
    (recognised : req.password ∈ known)
    (right : req.password = profile.password → (rest ()).run.Ensures (visit.exec service) ends world)
    (wrong : req.password ≠ profile.password → ∀ next,
      Realizes service known salts (ideal.recordFailure service visit req.email).2 stale next →
      ends (.error (if (ideal.recordFailure service visit req.email).1 then lockedOut else invalidCredentials)) next) :
    (checkLoginPassword service row req client >>= rest).run.Ensures (visit.exec service) ends world := by
  rw [ensures_run_bind]
  unfold checkLoginPassword
  rw [verify_profile collisionless kept recognised]
  change (if decide (req.password = profile.password) = true then pure () else _ : Handler Unit).run.Ensures _ _ _
  by_cases same : req.password = profile.password
  · rw [decide_eq_true same, if_pos rfl]
    exact right same
  · rw [decide_eq_false same, if_neg Bool.false_ne_true]
    refine ensures_recordFailure realizes now whole (fun below next kept => ?_) fun reached next kept => ?_
    · refine ensures_report fun background => ?_
      have refused := wrong same _ (kept.aside next.now background)
      rw [below] at refused
      exact refused
    · have refused := wrong same next kept
      rw [reached] at refused
      exact refused

theorem ensures_resetGuard {A : Type} {rest : Unit → Handler A} {ends : Except Status A → World (postgres db) → Prop}
    (realizes : Realizes service known salts ideal stale world) {email : String}
    (continues : ∀ guard, Realizes service known salts (ideal.clearFailures service email) stale
      { world with guard } → (rest ()).run.Ensures (visit.exec service) ends { world with guard }) :
    (resetGuard service email >>= rest).run.Ensures (visit.exec service) ends world := by
  rw [ensures_run_bind]
  unfold resetGuard
  unfold Ideal.clearFailures at continues
  cases guarded : service.bruteGuard with
  | none =>
      rw [guarded] at continues
      exact continues world.guard realizes
  | some config =>
      rw [guarded, Option.isSome_some, if_pos rfl] at continues
      rw [Option.isSome_some, if_pos rfl]
      have executed : visit.exec service (.guard (.reset email)) world =
          some ((), { world with guard := world.guard.reset false email }) := Visit.exec_guard guarded _
      refine ⟨(), _, executed, continues _ (realizes.lock (.reset world.guard email) ?_)⟩
      intro other spec apart before
      exact before.reset_other apart

end AuthService
