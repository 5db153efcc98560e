/-
This file proves that each handler conducts itself as specified.
-/

import AuthService.Proof.ConductRules

namespace AuthService
open Interleaving Program

section Login
variable {service : Service} {request : Request} {past : Past}

theorem follows_checkLockout {ends : Past → Except Status Unit → Prop} (email : String)
    (client : ClientInfo) (refused : ∀ later status, Extends past later → ends later (.error status))
    (finish : ∀ later, Extends past later → ends later (.ok ())) :
    (checkLockout service email client).run.Follows (Permits service request) ends past := by
  unfold checkLockout
  split
  · rw [follows_run_bind]
    refine follows_call (.free rfl) fun locked => ?_
    have extended := (Extends.refl past).cons ⟨.guard (.isLocked email), locked⟩ rfl
    rw [continues_ok]
    split
    · rw [follows_run_bind]
      apply follows_report
      intro later reported
      exact refused _ _ (extended.trans reported)
    · exact finish _ extended
  · exact finish _ (Extends.refl past)

theorem follows_getLoginUser {ends : Past → Except Status User → Prop} (email : String)
    (client : ClientInfo) (once : select Command.readsUser past = [])
    (failed : ∀ error later status, Extends (⟨.users (.getByEmail email), .error error⟩ :: past) later →
      ends later (.error status))
    (found : ∀ user, ends (⟨.users (.getByEmail email), .ok user⟩ :: past) (.ok user)) :
    (getLoginUser email client).run.Follows (Permits service request) ends past := by
  unfold getLoginUser
  rw [follows_run_bind]
  refine follows_call (.readEmail once) fun reply => ?_
  rw [continues_ok]
  cases reply with
  | ok user => exact found user
  | error error =>
      dsimp only
      split
      · rw [follows_run_bind]
        apply follows_report
        intro later reported
        exact failed error later _ reported
      · exact failed error _ _ (Extends.refl _)

theorem follows_recordFailure {ends : Past → Except Status Unit → Prop} (user : User) (email : String)
    (client : ClientInfo) (refused : ∀ later status, Extends past later → ends later (.error status))
    (finish : ∀ later, Extends past later → ends later (.ok ())) :
    (recordFailure service user email client).run.Follows (Permits service request) ends past := by
  unfold recordFailure
  split
  · rw [follows_run_bind]
    refine follows_call (.free rfl) fun locked => ?_
    have extended := (Extends.refl past).cons ⟨.guard (.recordFailure email), locked⟩ rfl
    rw [continues_ok]
    split
    · rw [follows_run_bind]
      apply follows_report
      intro later reported
      exact refused _ _ (extended.trans reported)
    · exact finish _ extended
  · exact finish _ (Extends.refl past)

theorem follows_checkLoginPassword {ends : Past → Except Status Unit → Prop} (user : User)
    (req : LoginRequest) (client : ClientInfo)
    (refused : ∀ later status, Extends past later → ends later (.error status))
    (matched : service.verifyPassword req.password user.passwordHash = some true → ends past (.ok ())) :
    (checkLoginPassword service user req client).run.Follows (Permits service request) ends past := by
  unfold checkLoginPassword
  rw [follows_run_bind]
  apply follows_orInternal
  · intro _
    exact refused _ _ (Extends.refl past)
  · intro isMatch verified
    rw [continues_ok]
    cases isMatch with
    | true => exact matched verified
    | false =>
        rw [if_neg Bool.false_ne_true, follows_run_bind]
        apply follows_recordFailure
        · exact refused
        intro later recorded
        rw [continues_ok, follows_run_bind]
        apply follows_report
        intro last reported
        exact refused _ _ (recorded.trans reported)

theorem follows_resetGuard {ends : Past → Except Status Unit → Prop} (email : String)
    (finish : ∀ later, Extends past later → ends later (.ok ())) :
    (resetGuard service email).run.Follows (Permits service request) ends past := by
  unfold resetGuard
  split
  · refine follows_call (.free rfl) fun _ => ?_
    exact finish _ ((Extends.refl past).cons _ rfl)
  · exact finish _ (Extends.refl past)

/-- `Login` creates a session only for a user whose password it verified. -/
theorem follows_login (ctx : Context) (req : LoginRequest) :
    (login service ctx req).run.Follows (Permits service (.login ctx req))
      (Finishes service (.login ctx req)) [] := by
  unfold login
  simp only [follows_run_bind]
  apply follows_checkArgument
  · intro status
    exact .failed sparing_nil
  rw [continues_ok, follows_run_bind]
  apply follows_checkLockout
  · intro later status extended
    exact .failed (extended.sparing sparing_nil)
  intro lockout extended
  have spared := extended.sparing sparing_nil
  rw [continues_ok, follows_run_bind]
  apply follows_getLoginUser
  · exact extended.readsUser
  · intro error later status reported
    exact .failed (reported.sparing (by simp [Spares, spared]))
  intro user
  rw [continues_ok, follows_run_bind]
  apply follows_checkLoginPassword
  · intro later status reported
    exact .failed (reported.sparing (by simp [Spares, spared]))
  intro verified
  rw [continues_ok, follows_run_bind]
  apply follows_resetGuard
  intro cleared reset
  have spared : Sparing cleared := reset.sparing (by simp [Spares, spared])
  have reads := reset.readsUser
  have signs := reset.signs
  have draws := reset.drawsToken
  have writes := reset.writes
  simp only [select_cons, Command.readsUser, Command.signs, Command.drawsToken, Command.writes,
    if_true, Bool.false_eq_true, if_false, extended.readsUser, extended.signs, extended.drawsToken,
    extended.writes, select_nil] at reads signs draws writes
  rw [continues_ok, follows_run_bind]
  refine follows_call (.signLogin reads verified) fun access => ?_
  rw [continues_ok, follows_run_bind]
  apply follows_orInternal
  · intro _
    exact .failed (by simp [Spares, spared])
  rintro accessToken rfl
  rw [continues_ok, follows_run_bind]
  refine follows_call (.free rfl) fun refresh => ?_
  rw [continues_ok, follows_run_bind]
  apply follows_orInternal
  · intro _
    exact .failed (by simp [Spares, spared])
  rintro plainRefresh rfl
  rw [continues_ok, follows_run_bind]
  refine follows_call (.free rfl) fun now => ?_
  have grant : LoginGrant service req (⟨.clock, now⟩ :: ⟨.random .token, some plainRefresh⟩ ::
      ⟨.tokens (.generate ⟨user.id, user.email, ["user"]⟩), some accessToken⟩ :: cleared)
      user accessToken plainRefresh now := by
    refine ⟨?_, verified, ?_, ?_, ?_⟩
    · simpa [Command.readsUser] using reads
    · simpa [Command.signs] using signs
    · simpa [Command.drawsToken] using draws
    · exact List.mem_cons_self
  rw [continues_ok, follows_run_bind]
  have first : select Command.writes (⟨.clock, now⟩ :: ⟨.random .token, some plainRefresh⟩ ::
      ⟨.tokens (.generate ⟨user.id, user.email, ["user"]⟩), some accessToken⟩ :: cleared) = [] := by
    simpa [Command.writes] using writes
  refine follows_call (.login grant first) fun created => ?_
  rw [continues_ok, follows_run_bind]
  apply follows_orInternalError
  · rintro error rfl
    exact .failed (by simp [Spares, spared])
  rintro sess rfl
  have granted : LoginGrant service req (⟨.sessions (.create (loginSession service ctx req user
      plainRefresh now)), .ok sess⟩ :: ⟨.clock, now⟩ :: ⟨.random .token, some plainRefresh⟩ ::
      ⟨.tokens (.generate ⟨user.id, user.email, ["user"]⟩), some accessToken⟩ :: cleared)
      user accessToken plainRefresh now :=
    ⟨grant.read, grant.verified, grant.signed, grant.drawn, List.mem_cons_of_mem _ grant.read_clock⟩
  have written : select Command.writes (⟨.sessions (.create (loginSession service ctx req user
      plainRefresh now)), .ok sess⟩ :: ⟨.clock, now⟩ :: ⟨.random .token, some plainRefresh⟩ ::
      ⟨.tokens (.generate ⟨user.id, user.email, ["user"]⟩), some accessToken⟩ :: cleared) =
      [⟨.sessions (.create (loginSession service ctx req user plainRefresh now)), .ok sess⟩] := by
    simpa [Command.writes] using writes
  rw [continues_ok, follows_run_bind]
  apply follows_cacheSession
  · intro later ttl extended
    exact .cacheLogin (extended.loginGrant granted) (extended.writes.trans written)
  intro later cached
  rw [continues_ok, follows_run_bind]
  apply follows_report
  intro last reported
  have extended := cached.trans reported
  exact .login (extended.loginGrant granted) (extended.writes.trans written)

end Login

section Sessions
variable {service : Service} {request : Request} {past : Past}

/-- What a lookup adds to the past. -/
structure Lookup (past later : Past) (tokenHash : String) (cached : CachedSession) : Prop where
  looked : Looked later tokenHash cached
  clocks : clocks later = clocks past
  select : ∀ kind, kind (.cache (.get tokenHash)) = false →
    kind (.sessions (.getByTokenHash tokenHash)) = false → select kind later = select kind past
  sparing : Sparing past → Sparing later

theorem follows_lookupSession {ends : Past → Except Status CachedSession → Prop} (tokenHash : String)
    (failed : ∀ miss error status, ends (⟨.sessions (.getByTokenHash tokenHash), .error error⟩ ::
      ⟨.cache (.get tokenHash), .error miss⟩ :: past) (.error status))
    (found : ∀ later cached, Lookup past later tokenHash cached → ends later (.ok cached)) :
    (lookupSession tokenHash).run.Follows (Permits service request) ends past := by
  unfold lookupSession
  rw [follows_run_bind]
  refine follows_call (.free rfl) fun reply => ?_
  rw [continues_ok]
  cases reply with
  | ok cached =>
      refine found _ cached ⟨.inl List.mem_cons_self, rfl, ?_, ?_⟩
      · intro kind blind _
        simp [blind]
      · intro spared
        simp [Spares, spared]
  | error miss =>
      simp only [follows_run_bind]
      refine follows_call (.free rfl) fun reply => ?_
      rw [continues_ok, follows_run_bind]
      apply follows_orStatus
      · rintro error status rfl
        exact failed miss error status
      · rintro session rfl
        refine found _ session.cached ⟨.inr ⟨session, List.mem_cons_self, rfl⟩, rfl, ?_, ?_⟩
        · intro kind blind blind'
          simp [blind, blind']
        · intro spared
          simp [Spares, spared]

theorem follows_checkExpiry {ends : Past → Except Status Unit → Prop} (tokenHash : String)
    (cached : CachedSession)
    (permitted : ∀ now : Time, cached.expiresAt < now → Permits service request (⟨.clock, now⟩ :: past)
      (.sessions (.deleteByTokenHash tokenHash)))
    (expired : ∀ (now : Time) (reply : Except StoreError Unit) later, cached.expiresAt < now →
      Extends (⟨.sessions (.deleteByTokenHash tokenHash), reply⟩ :: ⟨.clock, now⟩ :: past) later →
      ends later (.error expiredRefreshToken))
    (alive : ∀ now : Time, ¬ cached.expiresAt < now → ends (⟨.clock, now⟩ :: past) (.ok ())) :
    (checkExpiry tokenHash cached).run.Follows (Permits service request) ends past := by
  unfold checkExpiry
  rw [follows_run_bind]
  refine follows_call (.free rfl) fun now => ?_
  rw [continues_ok]
  split
  · rename_i late
    rw [follows_run_bind]
    refine follows_call (permitted now late) fun reply => ?_
    rw [continues_ok, follows_run_bind]
    apply follows_deleteSessionFromCache
    intro later extended
    exact expired now reply later late extended
  · rename_i early
    exact alive now early

/-- `RefreshToken` rotates only a session that it looked up and found alive. -/
theorem follows_refreshToken (ctx : Context) (req : RefreshTokenRequest) :
    (refreshToken service ctx req).run.Follows (Permits service (.refreshToken ctx req))
      (Finishes service (.refreshToken ctx req)) [] := by
  unfold refreshToken
  simp only [follows_run_bind]
  apply follows_lookupSession
  · intro miss error status
    exact .failed (by simp [Spares])
  intro looked cached lookup
  have early := lookup.clocks
  have signs := lookup.select Command.signs rfl rfl
  have draws := lookup.select Command.drawsToken rfl rfl
  have writes := lookup.select Command.writes rfl rfl
  have spared := lookup.sparing sparing_nil
  simp only [clocks, select_nil] at early signs draws writes
  rw [continues_ok, follows_run_bind]
  apply follows_checkExpiry
  · intro now late
    refine .expire (lookup.looked.mono fun _ => List.mem_cons_of_mem _) ?_ late ?_
    · simp [clocks, early]
    · simpa [Command.writes] using writes
  · intro now reply later late extended
    have found : Looked later (service.hash req.refreshToken) cached := by
      apply lookup.looked.mono
      intro exchange member
      exact extended.mem (List.mem_cons_of_mem _ (List.mem_cons_of_mem _ member))
    refine .expired found ?_ late ?_
    · refine List.IsSuffix.trans ?_ extended.clocks
      simp [clocks, early]
    · refine extended.forall_mem ?_ ?_
      · intro exchange side
        exact .inl (spares_of_incidental exchange side)
      · intro exchange member
        rcases List.mem_cons.mp member with rfl | member
        · exact .inr rfl
        · rcases List.mem_cons.mp member with rfl | member
          · exact .inl trivial
          · exact .inl (spared exchange member)
  intro checked alive
  rw [continues_ok, follows_run_bind]
  refine follows_call (.signRefresh (lookup.looked.mono fun _ => List.mem_cons_of_mem _)) fun access => ?_
  rw [continues_ok, follows_run_bind]
  apply follows_orInternal
  · intro _
    exact .failed (by simp [Spares, spared])
  rintro newAccessToken rfl
  rw [continues_ok, follows_run_bind]
  refine follows_call (.free rfl) fun refresh => ?_
  rw [continues_ok, follows_run_bind]
  apply follows_orInternal
  · intro _
    exact .failed (by simp [Spares, spared])
  rintro newPlain rfl
  rw [continues_ok, follows_run_bind]
  refine follows_call (.free rfl) fun now => ?_
  have grant : RefreshGrant service req (⟨.clock, now⟩ :: ⟨.random .token, some newPlain⟩ ::
      ⟨.tokens (.generate ⟨cached.userID, cached.userEmail, ["user"]⟩), some newAccessToken⟩ ::
      ⟨.clock, checked⟩ :: looked) cached newAccessToken newPlain now checked := by
    refine ⟨lookup.looked.mono ?_, alive, ?_, ?_, ?_⟩
    · intro exchange member
      simp [member]
    · simpa [Command.signs] using signs
    · simpa [Command.drawsToken] using draws
    · simp [clocks, early]
  have first : select Command.writes (⟨.clock, now⟩ :: ⟨.random .token, some newPlain⟩ ::
      ⟨.tokens (.generate ⟨cached.userID, cached.userEmail, ["user"]⟩), some newAccessToken⟩ ::
      ⟨.clock, checked⟩ :: looked) = [] := by
    simpa [Command.writes] using writes
  rw [continues_ok, follows_run_bind]
  refine follows_call (.rotate grant first) fun rotated => ?_
  rw [continues_ok, follows_run_bind]
  apply follows_orStatus
  · rintro error status rfl
    exact .failed (by simp [Spares, spared])
  rintro newSess rfl
  have granted : RefreshGrant service req (⟨.sessions (.rotateToken (service.hash req.refreshToken)
      (refreshSession service ctx req cached newPlain now)), .ok newSess⟩ :: ⟨.clock, now⟩ ::
      ⟨.random .token, some newPlain⟩ ::
      ⟨.tokens (.generate ⟨cached.userID, cached.userEmail, ["user"]⟩), some newAccessToken⟩ ::
      ⟨.clock, checked⟩ :: looked) cached newAccessToken newPlain now checked :=
    ⟨grant.looked.mono fun _ => List.mem_cons_of_mem _, alive, grant.signed, grant.drawn,
      grant.read_clock⟩
  have written : select Command.writes (⟨.sessions (.rotateToken (service.hash req.refreshToken)
      (refreshSession service ctx req cached newPlain now)), .ok newSess⟩ :: ⟨.clock, now⟩ ::
      ⟨.random .token, some newPlain⟩ ::
      ⟨.tokens (.generate ⟨cached.userID, cached.userEmail, ["user"]⟩), some newAccessToken⟩ ::
      ⟨.clock, checked⟩ :: looked) = [⟨.sessions (.rotateToken (service.hash req.refreshToken)
      (refreshSession service ctx req cached newPlain now)), .ok newSess⟩] := by
    simpa [Command.writes] using writes
  rw [continues_ok, follows_run_bind]
  apply follows_deleteSessionFromCache
  intro dropped removed
  rw [continues_ok, follows_run_bind]
  apply follows_cacheSession
  · intro later ttl extended
    have extended := removed.trans extended
    exact .cacheRefresh (extended.refreshGrant granted) (extended.writes.trans written)
  intro later stored
  rw [continues_ok, follows_run_bind]
  apply follows_report
  intro last reported
  have extended := (removed.trans stored).trans reported
  exact .refresh (extended.refreshGrant granted) (extended.writes.trans written)

theorem follows_logout (ctx : Context) (token : String) :
    (logout service ctx token).run.Follows (Permits service (.logout ctx token))
      (Finishes service (.logout ctx token)) [] := by
  unfold logout cachedOwner
  simp only [follows_run_bind]
  refine follows_call (.free rfl) fun owner => ?_
  have deletes : ∀ reply : Option CachedSession,
      (do
        orInternalError (← sessionStore (.deleteByTokenHash (service.hash token)))
        deleteSessionFromCache (service.hash token)
        report (reply.map CachedSession.userID) ((reply.map CachedSession.userID).getD "")
          ((reply.map CachedSession.userEmail).getD "") .logout (extractClientInfo ctx) [] []
        return .logout : Handler Response).run.Follows (Permits service (.logout ctx token))
        (Finishes service (.logout ctx token)) [⟨.cache (.get (service.hash token)), owner⟩] := by
    intro reply
    rw [follows_run_bind]
    refine follows_call (.logout rfl) fun deleted => ?_
    rw [continues_ok, follows_run_bind]
    apply follows_orInternalError
    · rintro error rfl
      exact .failed (by simp [Spares])
    rintro _ rfl
    rw [continues_ok, follows_run_bind]
    apply follows_deleteSessionFromCache
    intro later removed
    rw [continues_ok, follows_run_bind]
    apply follows_report
    intro last reported
    exact .plain rfl
  rw [continues_ok]
  cases owner with
  | ok cached => exact deletes (some cached)
  | error miss => exact deletes none

theorem follows_logoutAll (ctx : Context) :
    (logoutAll ctx).run.Follows (Permits service (.logoutAll ctx))
      (Finishes service (.logoutAll ctx)) [] := by
  unfold logoutAll
  simp only [follows_run_bind]
  apply follows_extractUserIDFromCtx ctx fun _ => .free rfl
  · intro status
    exact .failed sparing_nil
  · intro token status
    exact .failed (by simp [Spares])
  intro token claims validated
  rw [continues_ok, follows_run_bind]
  refine follows_call (.logoutAll validated rfl) fun deleted => ?_
  rw [continues_ok, follows_run_bind]
  apply follows_deletedHashes
  · intro hashes error same
    subst same
    exact .failed (by simp [Spares])
  intro hashes same
  rw [continues_ok, follows_run_bind]
  apply follows_deleteHashes
  intro later removed
  rw [continues_ok, follows_run_bind]
  apply follows_report
  intro last reported
  exact .plain rfl

theorem follows_listSessions (ctx : Context) :
    (listSessions ctx).run.Follows (Permits service (.listSessions ctx))
      (Finishes service (.listSessions ctx)) [] := by
  unfold listSessions
  simp only [follows_run_bind]
  apply follows_extractUserIDFromCtx ctx fun _ => .free rfl
  · intro status
    exact .failed sparing_nil
  · intro token status
    exact .failed (by simp [Spares])
  intro token claims _
  rw [continues_ok, follows_run_bind]
  refine follows_call (.free rfl) fun listed => ?_
  rw [continues_ok, follows_run_bind]
  apply follows_orInternalError
  · intro error _
    exact .failed (by simp [Spares])
  intro sessions _
  exact .plain rfl

theorem follows_revokeSession (ctx : Context) (sessionID : String) :
    (revokeSession ctx sessionID).run.Follows (Permits service (.revokeSession ctx sessionID))
      (Finishes service (.revokeSession ctx sessionID)) [] := by
  unfold revokeSession
  simp only [follows_run_bind]
  apply follows_extractUserIDFromCtx ctx fun _ => .free rfl
  · intro status
    exact .failed sparing_nil
  · intro token status
    exact .failed (by simp [Spares])
  intro token claims validated
  rw [continues_ok, follows_run_bind]
  refine follows_call (.revoke validated rfl) fun deleted => ?_
  rw [continues_ok, follows_run_bind]
  apply follows_orStatus
  · rintro error status rfl
    exact .failed (by simp [Spares])
  intro tokenHash _
  rw [continues_ok, follows_run_bind]
  apply follows_deleteSessionFromCache
  intro later removed
  rw [continues_ok, follows_run_bind]
  apply follows_report
  intro last reported
  exact .plain rfl

end Sessions

section Passwords
variable {service : Service} {request : Request} {past : Past}

theorem follows_register (ctx : Context) (req : RegisterRequest) :
    (register service ctx req).run.Follows (Permits service (.register ctx req))
      (Finishes service (.register ctx req)) [] := by
  unfold register
  simp only [follows_run_bind]
  apply follows_checkArgument
  · intro status
    exact .failed sparing_nil
  rw [continues_ok, follows_run_bind]
  apply follows_checkArgument
  · intro status
    exact .failed sparing_nil
  rw [continues_ok, follows_run_bind]
  apply follows_hashPassword
  · exact .failed (by simp [Spares])
  intro salt
  rw [continues_ok, follows_run_bind]
  refine follows_call (.register rfl) fun created => ?_
  rw [continues_ok, follows_run_bind]
  apply follows_orStatus
  · rintro error status rfl
    exact .failed (by simp [Spares])
  intro user _
  rw [continues_ok, follows_run_bind]
  apply follows_report
  intro later reported
  exact .plain rfl

theorem follows_validateToken (token : String) :
    (validateToken token).run.Follows (Permits service (.validateToken token))
      (Finishes service (.validateToken token)) [] := by
  unfold validateToken
  rw [follows_run_bind]
  refine follows_call (.free rfl) fun claims => ?_
  cases claims with
  | none => exact .plain rfl
  | some claims => exact .plain rfl

theorem follows_checkCurrentPassword {ends : Past → Except Status Unit → Prop} (user : User)
    (currentPassword : String) (refused : ∀ status, ends past (.error status))
    (matched : service.verifyPassword currentPassword user.passwordHash = some true → ends past (.ok ())) :
    (checkCurrentPassword service user currentPassword).run.Follows (Permits service request) ends past := by
  unfold checkCurrentPassword
  rw [follows_run_bind]
  apply follows_orInternal
  · intro _
    exact refused _
  · intro isMatch verified
    rw [continues_ok]
    cases isMatch with
    | true => exact matched verified
    | false => exact refused _

/-- `ChangePassword` writes only for the user of the bearer token after it verified the password. -/
theorem follows_changePassword (ctx : Context) (req : ChangePasswordRequest) :
    (changePassword service ctx req).run.Follows (Permits service (.changePassword ctx req))
      (Finishes service (.changePassword ctx req)) [] := by
  unfold changePassword
  simp only [follows_run_bind]
  apply follows_extractUserIDFromCtx ctx fun _ => .free rfl
  · intro status
    exact .failed sparing_nil
  · intro token status
    exact .failed (by simp [Spares])
  intro token claims validated
  rw [continues_ok, follows_run_bind]
  apply follows_checkArgument
  · intro status
    exact .failed (by simp [Spares])
  rw [continues_ok, follows_run_bind]
  refine follows_call (.readID rfl) fun read => ?_
  rw [continues_ok, follows_run_bind]
  apply follows_orInternalError
  · intro error _
    exact .failed (by simp [Spares])
  rintro user rfl
  rw [continues_ok, follows_run_bind]
  apply follows_checkCurrentPassword
  · intro status
    exact .failed (by simp [Spares])
  intro verified
  rw [continues_ok, follows_run_bind]
  apply follows_hashPassword
  · exact .failed (by simp [Spares])
  intro salt
  rw [continues_ok, follows_run_bind]
  have validated' := validated.mono fun _ member =>
    List.mem_cons_of_mem ⟨.random .salt, some salt⟩
      (List.mem_cons_of_mem ⟨.users (.getByID claims.userID), .ok user⟩ member)
  refine follows_call (.change ⟨validated', rfl, verified, salt, rfl⟩ rfl) fun changed => ?_
  rw [continues_ok, follows_run_bind]
  apply follows_orInternalError
  · rintro error rfl
    exact .failed (by simp [Spares])
  rintro _ rfl
  rw [continues_ok, follows_run_bind]
  refine follows_call (.revokeOthers ⟨validated'.mono fun _ => List.mem_cons_of_mem _, rfl, verified,
    salt, rfl⟩ rfl rfl) fun deleted => ?_
  rw [continues_ok, follows_run_bind]
  apply follows_deleteHashes
  intro later removed
  rw [continues_ok, follows_run_bind]
  apply follows_report
  intro last reported
  exact .plain rfl

theorem follows_requestPasswordReset (ctx : Context) (email : String) :
    (requestPasswordReset service ctx email).run.Follows (Permits service (.requestPasswordReset ctx email))
      (Finishes service (.requestPasswordReset ctx email)) [] := by
  unfold requestPasswordReset
  simp only [follows_run_bind]
  apply follows_checkArgument
  · intro status
    exact .failed sparing_nil
  rw [continues_ok, follows_run_bind]
  refine follows_call (.readEmail rfl) fun read => ?_
  rw [continues_ok]
  cases read with
  | error error =>
      dsimp only
      split
      · exact .plain rfl
      · exact .failed (by simp [Spares])
  | ok user =>
      dsimp only
      rw [follows_run_bind]
      refine follows_call (.free rfl) fun drawn => ?_
      rw [continues_ok, follows_run_bind]
      apply follows_orInternal
      · intro _
        exact .failed (by simp [Spares])
      rintro code rfl
      rw [continues_ok, follows_run_bind]
      refine follows_call (.saveCode rfl List.mem_cons_self rfl) fun saved => ?_
      rw [continues_ok, follows_run_bind]
      apply follows_orInternalError
      · intro error _
        exact .failed (by simp [Spares])
      intro _ _
      rw [continues_ok, follows_run_bind]
      apply follows_report
      intro later reported
      exact .plain rfl

/-- `VerifyResetCode` saves a token only after it counted the attempt and compared the code. -/
theorem follows_verifyResetCode (ctx : Context) (req : VerifyResetCodeRequest) :
    (verifyResetCode service req).run.Follows (Permits service (.verifyResetCode ctx req))
      (Finishes service (.verifyResetCode ctx req)) [] := by
  unfold verifyResetCode
  simp only [follows_run_bind]
  apply follows_checkArgument
  · intro status
    exact .failed sparing_nil
  rw [continues_ok, follows_run_bind]
  refine follows_call (.free rfl) fun read => ?_
  rw [continues_ok, follows_run_bind]
  apply follows_orStatus
  · intro error status _
    exact .failed (by simp [Spares])
  rintro found rfl
  rw [continues_ok, follows_run_bind]
  refine follows_call (.count List.mem_cons_self rfl) fun counted => ?_
  rw [continues_ok, follows_run_bind]
  apply follows_orStatus
  · intro error status _
    exact .failed (by simp [Spares])
  rintro attempts rfl
  rw [continues_ok, follows_run_bind]
  unfold checkAttempts
  split
  · rw [follows_run_bind]
    refine follows_call (.dropCode rfl) fun dropped => ?_
    exact .failed (by simp [Spares])
  rename_i few
  rw [follows_run_pure, continues_ok, follows_run_bind]
  unfold checkCode
  split
  · rename_i verified
    rw [follows_run_pure, continues_ok, follows_run_bind]
    refine follows_call (.dropCode rfl) fun dropped => ?_
    rw [continues_ok, follows_run_bind]
    refine follows_call (.free rfl) fun drawn => ?_
    rw [continues_ok, follows_run_bind]
    apply follows_orInternal
    · intro _
      exact .failed (by simp [Spares])
    rintro plain rfl
    have allowed : attempts < maxOTPAttempts := by omega
    rw [continues_ok, follows_run_bind]
    have grant : VerifyGrant service req [⟨.random .token, some plain⟩,
        ⟨.resets (.deleteOTP req.email), dropped⟩, ⟨.resets (.incrOTPAttempts req.email), .ok attempts⟩,
        ⟨.resets (.getOTP req.email), .ok found⟩] found attempts :=
      ⟨by simp, by simp, allowed, verified⟩
    refine follows_call (.saveToken grant rfl (by simp)) fun saved => ?_
    rw [continues_ok, follows_run_bind]
    apply follows_orInternalError
    · intro error _
      exact .failed (by simp [Spares])
    rintro _ rfl
    exact .verify ⟨List.mem_cons_of_mem _ grant.read, List.mem_cons_of_mem _ grant.counted, allowed,
      verified⟩ rfl List.mem_cons_self
  · exact .failed (by simp [Spares])

/-- `ResetPassword` deletes the token, then writes the password, then revokes the sessions. -/
theorem follows_resetPassword (ctx : Context) (req : ResetPasswordRequest) :
    (resetPassword service ctx req).run.Follows (Permits service (.resetPassword ctx req))
      (Finishes service (.resetPassword ctx req)) [] := by
  unfold resetPassword
  simp only [follows_run_bind]
  apply follows_checkArgument
  · intro status
    exact .failed sparing_nil
  rw [continues_ok, follows_run_bind]
  refine follows_call (.free rfl) fun read => ?_
  rw [continues_ok, follows_run_bind]
  apply follows_orStatus
  · intro error status _
    exact .failed (by simp [Spares])
  rintro found rfl
  rw [continues_ok, follows_run_bind]
  refine follows_call (.dropToken ⟨rfl⟩ rfl) fun dropped => ?_
  rw [continues_ok, follows_run_bind]
  apply follows_orInternalError
  · intro error _
    exact .failed (by simp [Spares])
  rintro _ rfl
  rw [continues_ok, follows_run_bind]
  apply follows_hashPassword
  · exact .failed (by simp [Spares])
  intro salt
  rw [continues_ok, follows_run_bind]
  refine follows_call (.reset ⟨rfl⟩ rfl) fun changed => ?_
  rw [continues_ok, follows_run_bind]
  apply follows_orInternalError
  · rintro error rfl
    exact .failed (by simp [Spares])
  rintro _ rfl
  rw [continues_ok, follows_run_bind]
  refine follows_call (.revokeAll ⟨rfl⟩ rfl) fun deleted => ?_
  rw [continues_ok, follows_run_bind]
  apply follows_deleteHashes
  intro later removed
  rw [continues_ok, follows_run_bind]
  apply follows_report
  intro last reported
  have extended := removed.trans reported
  exact .reset (extended.resetGrant ⟨rfl⟩) extended.writes

end Passwords

/-- Every handler conducts itself as specified. -/
theorem follows_handle (service : Service) (request : Request) :
    (handle service request).run.Follows (Permits service request) (Finishes service request) [] := by
  cases request with
  | register ctx req => exact follows_register ctx req
  | login ctx req => exact follows_login ctx req
  | validateToken token => exact follows_validateToken token
  | refreshToken ctx req => exact follows_refreshToken ctx req
  | logout ctx token => exact follows_logout ctx token
  | logoutAll ctx => exact follows_logoutAll ctx
  | listSessions ctx => exact follows_listSessions ctx
  | revokeSession ctx sessionID => exact follows_revokeSession ctx sessionID
  | changePassword ctx req => exact follows_changePassword ctx req
  | requestPasswordReset ctx email => exact follows_requestPasswordReset ctx email
  | verifyResetCode ctx req => exact follows_verifyResetCode ctx req
  | resetPassword ctx req => exact follows_resetPassword ctx req

end AuthService
