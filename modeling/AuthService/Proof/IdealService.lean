/-
This file proves that the service meets its specification when requests come one after another.
-/

import AuthService.Proof.AccountLockout
import AuthService.Proof.IdealRules

namespace AuthService
open Interleaving Program System

/-- The texts of a request that are compared or hashed. -/
def Request.texts : Request → List String
  | .register _ req => [req.email, req.password]
  | .login _ req => [req.password]
  | .validateToken _ | .logoutAll _ | .listSessions _ | .revokeSession _ _ => []
  | .refreshToken _ req => [req.refreshToken]
  | .logout _ token => [token]
  | .changePassword _ req => [req.currentPassword, req.newPassword, req.refreshToken]
  | .requestPasswordReset _ email => [email]
  | .verifyResetCode _ req => [req.email, req.otp]
  | .resetPassword _ req => [req.resetToken, req.newPassword]

/-- The texts of the visit are known, what is drawn for it is new, the database keeps its times exactly, and a login
does not come at the instant at which the lockout of its address ends. -/
structure Visit.Admissible (service : Service) (db : Database) (known salts : Set String) (ideal : Ideal)
    (visit : Visit) : Prop where
  texts : ∀ text ∈ visit.token :: otpCode visit.otp :: visit.request.texts, text ∈ known
  salt : visit.salt ∈ salts
  token : visit.token ∉ ideal.drawn
  user : visit.id ∉ ideal.profiles.map Profile.id
  session : visit.id ∉ ideal.grants.map Grant.sessionID
  stored : db.stored (visit.time + service.refreshTTL) = visit.time + service.refreshTTL
  apart : ∀ ctx req, visit.request = .login ctx req → (ideal.lockout req.email).Apart visit.time

namespace Ideal
variable (service : Service) (ideal : Ideal) (email : String)

@[simp] theorem clearFailures_drawn : (ideal.clearFailures service email).drawn = ideal.drawn := by
  unfold clearFailures
  split <;> rfl

@[simp] theorem clearFailures_grants : (ideal.clearFailures service email).grants = ideal.grants := by
  unfold clearFailures
  split <;> rfl

@[simp] theorem clearFailures_profiles : (ideal.clearFailures service email).profiles = ideal.profiles := by
  unfold clearFailures
  split <;> rfl

end Ideal

section Handlers
variable {service : Service} {known salts : Set String} {db : Database} {ideal : Ideal}
variable {world : World (postgres db)} {visit : Visit}

theorem register_agrees (realizes : Realizes service known salts ideal [] world) {ctx : Context}
    {req : RegisterRequest} (recognised : req.password ∈ known) (salted : visit.salt ∈ salts)
    (fresh : visit.id ∉ ideal.profiles.map Profile.id) :
    (register service ctx req).run.Ensures (visit.exec service)
      (Agrees service known salts (ideal.register service visit req)) world := by
  unfold register Ideal.register
  refine ensures_checked realizes (ensures_checked realizes (ensures_hashPassword ?_))
  cases registered : ideal.byEmail req.email with
  | some profile => exact ensures_call (realizes.exec_create_known (registered ▸ rfl) _) ⟨rfl, realizes⟩
  | none =>
      obtain ⟨users, created, rows⟩ := realizes.exec_create_new registered fresh
        (service.hashPassword visit.salt req.password)
      refine ensures_call created (ensures_report fun background => ⟨rfl, ?_⟩)
      refine (realizes.register ?_ rows).aside _ _
      exact ⟨rfl, rfl, recognised, visit.salt, salted, rfl⟩

/-- The session of a login is that of the grant that the specification opens. -/
theorem opens_login (ctx : Context) (admissible : visit.Admissible service db known salts ideal) {now : Time}
    (clocked : now = visit.time) {req : LoginRequest} {profile : Profile}
    (present : ideal.byEmail req.email = some profile) {row : User} (kept : profile.KeptAs service known salts row)
    (unused : ∀ grant ∈ (ideal.clearFailures service req.email).grants, grant.token ≠ visit.token) :
    Opens service db ((ideal.clearFailures service req.email).draw visit) visit now
      (loginSession service ctx req row visit.token now) (Ideal.loginGrant service visit ctx req profile) where
  row := by
    simp only [SessionTable.newRow, loginSession, Grant.row, Ideal.loginGrant, Ideal.opened, kept.id, clocked,
      admissible.stored]
  handed := List.mem_cons_self
  owner := by
    refine ⟨profile, ?_, rfl, rfl⟩
    change profile ∈ (ideal.clearFailures service req.email).profiles
    rw [Ideal.clearFailures_profiles]
    exact List.mem_of_find?_eq_some present
  unused := unused
  fresh := by
    change visit.id ∉ (ideal.clearFailures service req.email).grants.map Grant.sessionID
    rw [Ideal.clearFailures_grants]
    exact admissible.session

theorem login_agrees (realizes : Realizes service known salts ideal [] world)
    (collisionless : Collisionless service known salts) (whole : ∀ config ∈ service.bruteGuard, config.Whole)
    (now : world.now = visit.time) (admissible : visit.Admissible service db known salts ideal) {ctx : Context}
    {req : LoginRequest} (asked : visit.request = .login ctx req) (recognised : req.password ∈ known) :
    (login service ctx req).run.Ensures (visit.exec service)
      (Agrees service known salts (ideal.login service visit ctx req)) world := by
  unfold login Ideal.login
  refine ensures_checked realizes ?_
  have apart := admissible.apart ctx req asked
  refine ensures_checkLockout realizes now apart (fun passes => ?_) fun locked background => ?_
  · simp only [passes, Bool.false_eq_true, if_false]
    refine ensures_getLoginUser realizes (fun profile row present kept => ?_) fun missing background => ?_
    · simp only [present]
      refine ensures_checkLoginPassword realizes collisionless now whole kept recognised (fun same => ?_)
        fun differ next failed => ?_
      · rw [if_pos same]
        refine ensures_resetGuard realizes fun guard cleared => ?_
        refine ensures_call (visit.exec_generate { world with guard } now _) ?_
        have handed : visit.token ∉ (ideal.clearFailures service req.email).drawn := by
          rw [Ideal.clearFailures_drawn]
          exact admissible.token
        have token : visit.token ∈ known := admissible.texts _ List.mem_cons_self
        refine ensures_call (cleared.exec_draw collisionless token handed) ?_
        have executed : visit.exec service .clock { world with
          guard, issued := service.hash visit.token :: world.issued } = some (world.now, _) := rfl
        refine ensures_call executed ?_
        have opens := opens_login ctx admissible now present kept (cleared.unused handed)
        rcases (cleared.draw token).exec_createSession collisionless opens with
          ⟨storable, executed⟩ | ⟨storable, table, executed, created⟩
        · simp only [storable, Bool.false_eq_true, if_false]
          exact ensures_call executed ⟨rfl, cleared.draw token⟩
        · simp only [storable, if_true]
          refine ensures_call executed ?_
          refine ensures_cacheSession created List.mem_cons_self rfl ?_ fun cache cached => ?_
          · simp only [Grant.copy, Ideal.loginGrant, Ideal.opened, kept.id, kept.email, loginSession, now]
          · refine ensures_report fun background => ⟨?_, cached.aside _ background⟩
            simp only [Grant.claims, Ideal.loginGrant, Ideal.opened, kept.id, kept.email]
      · rw [if_neg differ]
        exact ⟨rfl, failed⟩
    · simp only [missing]
      exact ⟨rfl, realizes.aside _ background⟩
  · simp only [locked, if_true]
    exact ⟨rfl, realizes.aside _ background⟩

theorem validateToken_agrees (realizes : Realizes service known salts ideal [] world) (now : world.now = visit.time)
    (token : String) :
    (validateToken token).run.Ensures (visit.exec service)
      (Agrees service known salts (ideal.validateToken service visit token)) world := by
  unfold validateToken Ideal.validateToken
  have executed : visit.exec service (.tokens (.validate token)) world =
      some (service.validate token visit.time, world) := by
    rw [← now]
    rfl
  refine ensures_call executed ?_
  cases service.validate token visit.time with
  | none => exact ⟨rfl, realizes⟩
  | some claims => exact ⟨rfl, realizes⟩

theorem ensures_lookupSession {A : Type} {rest : CachedSession → Handler A}
    {ends : Except Status A → World (postgres db) → Prop} (realizes : Realizes service known salts ideal [] world)
    (collisionless : Collisionless service known salts) {token : String} (recognised : token ∈ known)
    (found : ∀ grant, ideal.byToken token = some grant →
      (rest grant.copy).run.Ensures (visit.exec service) ends world)
    (missing : ideal.byToken token = none → ends (.error invalidRefreshToken) world) :
    (lookupSession (service.hash token) >>= rest).run.Ensures (visit.exec service) ends world := by
  rw [ensures_run_bind]
  unfold lookupSession
  refine ensures_call (visit.exec_cacheGet _ world) ?_
  cases cached : lookup world.cache world.now (service.hash token) with
  | some copy =>
      obtain ⟨grant, present, rfl⟩ := realizes.copy collisionless recognised cached
      exact found grant present
  | none =>
      refine ensures_call (realizes.exec_getByTokenHash collisionless recognised) ?_
      cases present : ideal.byToken token with
      | none => exact missing present
      | some grant => exact found grant present

theorem ensures_checkExpiry {A : Type} {rest : Unit → Handler A} {ends : Except Status A → World (postgres db) → Prop}
    (realizes : Realizes service known salts ideal [] world) (collisionless : Collisionless service known salts)
    (now : world.now = visit.time) {token : String} (recognised : token ∈ known) {grant : Grant}
    (alive : ¬ grant.expiresAt < visit.time → (rest ()).run.Ensures (visit.exec service) ends world)
    (expired : grant.expiresAt < visit.time → ∀ next,
      Realizes service known salts (ideal.revoke fun grant => grant.token = token) [] next →
      ends (.error expiredRefreshToken) next) :
    (checkExpiry (service.hash token) grant.copy >>= rest).run.Ensures (visit.exec service) ends world := by
  rw [ensures_run_bind]
  unfold checkExpiry
  have executed : visit.exec service .clock world = some (visit.time, world) := by
    rw [← now]
    rfl
  refine ensures_call executed ?_
  split
  · rename_i past
    refine ensures_call (visit.exec_deleteByTokenHash _ world) ?_
    refine ensures_cacheDelete (realizes.deleteByTokenHash collisionless recognised) fun cache kept => ?_
    exact expired past _ kept
  · rename_i ahead
    exact alive ahead

theorem refreshToken_agrees (realizes : Realizes service known salts ideal [] world)
    (collisionless : Collisionless service known salts) (now : world.now = visit.time)
    (admissible : visit.Admissible service db known salts ideal) (ctx : Context) {req : RefreshTokenRequest}
    (recognised : req.refreshToken ∈ known) :
    (refreshToken service ctx req).run.Ensures (visit.exec service)
      (Agrees service known salts (ideal.refreshToken service visit ctx req)) world := by
  unfold refreshToken Ideal.refreshToken
  refine ensures_lookupSession realizes collisionless recognised (fun grant present => ?_) fun missing => ?_
  · simp only [present]
    refine ensures_checkExpiry realizes collisionless now recognised (fun alive => ?_) fun expired next revoked => ?_
    · rw [if_neg alive]
      have token : visit.token ∈ known := admissible.texts _ List.mem_cons_self
      refine ensures_call (visit.exec_generate world now _) ?_
      refine ensures_call (realizes.exec_draw collisionless token admissible.token) ?_
      have executed : visit.exec service .clock { world with issued := service.hash visit.token :: world.issued } =
          some (world.now, _) := rfl
      refine ensures_call executed ?_
      have opens : Opens service db (ideal.draw visit) visit world.now
          (refreshSession service ctx req grant.copy visit.token world.now)
          (Ideal.nextGrant service visit ctx req grant) := by
        refine ⟨?_, List.mem_cons_self, realizes.owned.grants grant (List.mem_of_find?_eq_some present),
          realizes.unused admissible.token, admissible.session⟩
        simp only [SessionTable.newRow, refreshSession, Grant.row, Grant.copy, Ideal.nextGrant, Ideal.opened, now,
          admissible.stored]
      rcases (realizes.draw token).exec_rotateToken collisionless recognised present opens with
        ⟨storable, executed⟩ | ⟨storable, table, executed, rotated⟩
      · simp only [storable, Bool.false_eq_true, if_false]
        exact ensures_call executed ⟨rfl, realizes.draw token⟩
      · simp only [storable, if_true]
        refine ensures_call executed (ensures_cacheDelete rotated fun cache kept => ?_)
        refine ensures_cacheSession kept List.mem_cons_self rfl ?_ fun cache cached => ?_
        · simp only [Grant.copy, Ideal.nextGrant, Ideal.opened, refreshSession, now]
        · exact ensures_report fun background => ⟨rfl, cached.aside _ background⟩
    · rw [if_pos expired]
      exact ⟨rfl, revoked⟩
  · simp only [missing]
    exact ⟨rfl, realizes⟩

theorem logout_agrees (realizes : Realizes service known salts ideal [] world)
    (collisionless : Collisionless service known salts) {ctx : Context} {token : String} (recognised : token ∈ known) :
    (logout service ctx token).run.Ensures (visit.exec service)
      (Agrees service known salts (ideal.logout token)) world := by
  unfold logout
  have owner : (cachedOwner (service.hash token)).run.Ensures (visit.exec service)
      (fun result next => ∃ owner, result = .ok owner ∧ world = next) world := by
    unfold cachedOwner
    refine ensures_call (visit.exec_cacheGet _ world) ?_
    cases lookup world.cache world.now (service.hash token) with
    | none => exact ⟨_, rfl, rfl⟩
    | some cached => exact ⟨_, rfl, rfl⟩
  refine owner.ok ?_
  rintro owner _ rfl
  refine ensures_call (visit.exec_deleteByTokenHash _ world) ?_
  refine ensures_cacheDelete (realizes.deleteByTokenHash collisionless recognised) fun cache kept => ?_
  exact ensures_report fun background => ⟨rfl, kept.aside _ _⟩

theorem logoutAll_agrees (realizes : Realizes service known salts ideal [] world) (now : world.now = visit.time)
    (ctx : Context) :
    (logoutAll ctx).run.Ensures (visit.exec service)
      (Agrees service known salts (ideal.logoutAll service visit ctx)) world := by
  unfold logoutAll Ideal.logoutAll
  refine ensures_identified realizes now fun userID => ?_
  obtain ⟨table, executed, revoked⟩ := realizes.exec_deleteAll userID
  refine ensures_call executed ?_
  refine ensures_cacheDeletes revoked fun cache kept => ensures_report fun background => ⟨?_, kept.aside _ _⟩
  rw [List.length_map]

theorem listSessions_agrees (realizes : Realizes service known salts ideal [] world) (now : world.now = visit.time)
    (ctx : Context) :
    (listSessions ctx).run.Ensures (visit.exec service)
      (Agrees service known salts (ideal.listSessions service visit ctx)) world := by
  unfold listSessions Ideal.listSessions
  refine ensures_identified realizes now fun userID => ?_
  have executed : visit.exec service (.sessions (.listByUserID userID)) world =
      some (.ok (SessionTable.listByUserID userID world.sessions), world) := rfl
  have listed : SessionTable.listByUserID userID world.sessions =
      ((ideal.grants.filter fun grant => grant.userID = userID).mergeSort fun first second =>
        decide (second.createdAt ≤ first.createdAt)).map (Grant.row service) := by
    change ((SessionTable.rows world.sessions).filter _).mergeSort _ = _
    rw [realizes.sessions.rows, List.filter_map]
    symm
    refine List.map_mergeSort ?_
    intro _ _ _ _
    rfl
  refine ensures_call executed ⟨?_, realizes⟩
  rw [listed, List.map_map]
  rfl

theorem revokeSession_agrees (realizes : Realizes service known salts ideal [] world) (now : world.now = visit.time)
    (ctx : Context) (sessionID : String) :
    (revokeSession ctx sessionID).run.Ensures (visit.exec service)
      (Agrees service known salts (ideal.revokeSession service db visit ctx sessionID)) world := by
  unfold revokeSession Ideal.revokeSession
  refine ensures_identified realizes now fun userID => ?_
  cases read : db.uuid sessionID with
  | none => exact ensures_call (Visit.exec_deleteByID (deleteByID_unread world.sessions read userID)) ⟨rfl, realizes⟩
  | some id =>
      have executed := deleteByID_grants realizes.sessions.rows read userID
      cases found : ideal.grants.find? fun grant => grant.sessionID = id && grant.userID = userID with
      | none =>
          rw [found] at executed
          have nobody : (ideal.grants.any fun grant => grant.sessionID = id && grant.userID = userID) = false := by
            rw [List.any_eq_false]
            exact List.find?_eq_none.mp found
          simp only [nobody, Bool.false_eq_true, if_false]
          exact ensures_call (Visit.exec_deleteByID executed) ⟨rfl, realizes⟩
      | some grant =>
          rw [found] at executed
          have member := List.mem_of_find?_eq_some found
          have chosen := List.find?_some found
          have somebody : (ideal.grants.any fun grant => grant.sessionID = id && grant.userID = userID) = true :=
            List.any_eq_true.mpr ⟨grant, member, chosen⟩
          simp only [somebody, if_true]
          refine ensures_call (Visit.exec_deleteByID executed) ?_
          obtain ⟨_, deleted⟩ := realizes.deleteWhere
            (fun grant => grant.sessionID = id && grant.userID = userID) (fun row => row.id = id && row.userID = userID)
            fun _ _ => rfl
          have only : (ideal.grants.filter fun grant => grant.sessionID = id && grant.userID = userID).map
              (fun grant => service.hash grant.token) ++ [] ⊆ [service.hash grant.token] := by
            intro hash old
            rw [List.append_nil] at old
            obtain ⟨other, selected, rfl⟩ := List.mem_map.mp old
            obtain ⟨inside, matched⟩ := List.mem_filter.mp selected
            simp only [Bool.and_eq_true, decide_eq_true_eq] at matched chosen
            rw [realizes.eq_of_sessionID inside member (matched.1.trans chosen.1.symm)]
            exact List.mem_singleton_self _
          have revoked := deleted.mono_stale only
          refine ensures_cacheDelete revoked fun cache kept => ensures_report fun background => ⟨rfl, kept.aside _ _⟩

theorem changePassword_agrees (realizes : Realizes service known salts ideal [] world)
    (collisionless : Collisionless service known salts) (now : world.now = visit.time) (ctx : Context)
    {req : ChangePasswordRequest} (current : req.currentPassword ∈ known) (next : req.newPassword ∈ known)
    (token : req.refreshToken ∈ known) (salted : visit.salt ∈ salts) :
    (changePassword service ctx req).run.Ensures (visit.exec service)
      (Agrees service known salts (ideal.changePassword service visit ctx req)) world := by
  unfold changePassword Ideal.changePassword
  refine ensures_identified realizes now fun userID => ensures_checked realizes ?_
  rcases realizes.exec_getByID userID with ⟨absent, executed⟩ | ⟨profile, row, present, kept, executed⟩
  · simp only [absent]
    exact ensures_call executed ⟨rfl, realizes⟩
  · simp only [present]
    refine ensures_call executed ?_
    change (checkCurrentPassword service row req.currentPassword >>= _ : Handler Response).run.Ensures _ _ _
    rw [ensures_run_bind]
    unfold checkCurrentPassword
    rw [verify_profile collisionless kept current]
    change (if decide (req.currentPassword = profile.password) = true then pure ()
      else throw invalidCredentials : Handler Unit).run.Ensures _ _ _
    by_cases same : req.currentPassword = profile.password
    · rw [decide_eq_true same, if_pos rfl, if_pos same]
      have has : ideal.Has userID profile.email := by
        have named : profile.id = userID := by simpa using List.find?_some present
        exact ⟨profile, List.mem_of_find?_eq_some present, named, rfl⟩
      refine ensures_hashPassword (ensures_call (realizes.exec_updatePasswordHash has _) ?_)
      obtain ⟨table, deletes, revoked⟩ :=
        (realizes.setPassword next salted world.now).exec_deleteAllExcept collisionless userID token
      refine ensures_call deletes (ensures_cacheDeletes revoked fun cache cleaned => ?_)
      exact ensures_report fun background => ⟨rfl, cleaned.aside _ background⟩
    · rw [decide_eq_false same, if_neg Bool.false_ne_true, if_neg same]
      exact ⟨rfl, realizes⟩

theorem requestPasswordReset_agrees (realizes : Realizes service known salts ideal [] world)
    (collisionless : Collisionless service known salts) (now : world.now = visit.time) (ctx : Context) {email : String}
    (recognised : email ∈ known) (code : otpCode visit.otp ∈ known) :
    (requestPasswordReset service ctx email).run.Ensures (visit.exec service)
      (Agrees service known salts (ideal.requestPasswordReset visit email)) world := by
  unfold requestPasswordReset Ideal.requestPasswordReset
  refine ensures_checked realizes ?_
  rcases realizes.exec_getByEmail email with ⟨absent, executed⟩ | ⟨profile, row, present, kept, executed⟩
  · simp only [absent]
    exact ensures_call executed ⟨rfl, realizes⟩
  · simp only [present]
    refine ensures_call executed ?_
    have draws : visit.exec service (.random .otp) world = some (some (otpCode visit.otp), world) := rfl
    refine ensures_call draws ?_
    have saves : visit.exec service (.resets (.saveOTP row.id email (service.hash (otpCode visit.otp)) (15 * minute)))
        world = some (.ok (), world.putCode service email
          (some ⟨profile.id, otpCode visit.otp, 0, visit.time + resetLifetime⟩)) := by
      rw [kept.id, ← now]
      rfl
    refine ensures_call saves (ensures_report fun background => ⟨rfl, ?_⟩)
    refine (realizes.withCode collisionless recognised ?_).aside _ background
    rintro _ ⟨⟩
    exact ⟨code, profile.email, profile, List.mem_of_find?_eq_some present, rfl, rfl⟩

theorem withCode_withCode (email : String) (first second : Option SentCode) :
    (ideal.withCode email first).withCode email second = ideal.withCode email second := by
  simp only [Ideal.withCode, Function.update_idem]

theorem verifyResetCode_agrees (realizes : Realizes service known salts ideal [] world)
    (collisionless : Collisionless service known salts) (now : world.now = visit.time)
    (admissible : visit.Admissible service db known salts ideal)
    {req : VerifyResetCodeRequest} (address : req.email ∈ known) (guess : req.otp ∈ known) :
    (verifyResetCode service req).run.Ensures (visit.exec service)
      (Agrees service known salts (ideal.verifyResetCode visit req)) world := by
  unfold verifyResetCode Ideal.verifyResetCode
  refine ensures_checked realizes (ensures_call (realizes.exec_getOTP now address) ?_)
  cases present : ideal.codes req.email with
  | none => exact ⟨rfl, realizes⟩
  | some sent =>
      have executed := realizes.exec_incrOTPAttempts now address present
      by_cases ahead : visit.time < sent.expiresAt
      · rw [if_pos ahead] at executed
        simp only [if_pos ahead, Option.filter_some, decide_eq_true (Int.le_of_lt ahead), if_true]
        refine ensures_call executed ?_
        have fits := And.intro (realizes.resets.sent req.email sent present)
          (realizes.owned.codes req.email sent present)
        have counted : Realizes service known salts
            (ideal.withCode req.email (some { sent with attempts := sent.attempts + 1 })) [] _ :=
          realizes.withCode collisionless address (by rintro _ ⟨⟩; exact fits)
        have cleared : Realizes service known salts ((Ideal.withCode _ req.email _).withCode req.email none) [] _ :=
          counted.withCode collisionless address (by rintro _ ⟨⟩)
        rw [withCode_withCode] at cleared
        change (checkAttempts req.email (sent.attempts + 1) >>= _ : Handler Response).run.Ensures _ _ _
        rw [ensures_run_bind]
        unfold checkAttempts
        by_cases last : maxOTPAttempts ≤ sent.attempts + 1
        · rw [if_pos last, if_pos last]
          exact ensures_call (visit.exec_deleteOTP req.email _) ⟨rfl, cleared⟩
        · rw [if_neg last, if_neg last]
          change (checkCode service req.otp ⟨sent.userID, service.hash sent.code, sent.attempts⟩ >>= _ :
            Handler Response).run.Ensures _ _ _
          rw [ensures_run_bind]
          unfold checkCode
          by_cases right : req.otp = sent.code
          · have token : visit.token ∈ known := admissible.texts _ List.mem_cons_self
            have same : service.hash req.otp = service.hash sent.code := congrArg _ right
            rw [if_pos same, if_pos right]
            refine ensures_call (visit.exec_deleteOTP req.email _) ?_
            refine ensures_call (cleared.exec_draw collisionless token admissible.token) ?_
            refine ensures_call (Visit.exec_saveResetToken (by exact now)) ⟨rfl, ?_⟩
            refine (cleared.draw token).withPermit collisionless token ?_
            rintro _ ⟨⟩
            exact fits.2
          · have apart : service.hash req.otp ≠ service.hash sent.code := fun clash =>
              right (collisionless.hash guess fits.1 clash)
            rw [if_neg apart, if_neg right]
            exact ⟨rfl, counted⟩
      · rw [if_neg ahead] at executed
        simp only [if_neg ahead, Option.filter_some]
        split
        · exact ensures_call executed ⟨rfl, realizes⟩
        · exact ⟨rfl, realizes⟩

theorem resetPassword_agrees (realizes : Realizes service known salts ideal [] world)
    (collisionless : Collisionless service known salts) (now : world.now = visit.time) (ctx : Context)
    {req : ResetPasswordRequest} (token : req.resetToken ∈ known) (next : req.newPassword ∈ known)
    (salted : visit.salt ∈ salts) :
    (resetPassword service ctx req).run.Ensures (visit.exec service)
      (Agrees service known salts (ideal.resetPassword service visit req)) world := by
  unfold resetPassword Ideal.resetPassword
  refine ensures_checked realizes (ensures_call (realizes.exec_getResetToken now token) ?_)
  cases present : ideal.permits req.resetToken with
  | none => exact ⟨rfl, realizes⟩
  | some permit =>
      by_cases valid : visit.time ≤ permit.expiresAt
      · simp only [if_pos valid, Option.filter_some, decide_eq_true valid, if_true]
        obtain ⟨email, has⟩ := realizes.owned.permits _ permit present
        have used : Realizes service known salts (ideal.withPermit req.resetToken none) [] _ :=
          realizes.withPermit collisionless token (by rintro _ ⟨⟩)
        refine ensures_call (visit.exec_deleteResetToken req.resetToken world) ?_
        refine ensures_hashPassword (ensures_call (used.exec_updatePasswordHash has _) ?_)
        obtain ⟨table, deletes, revoked⟩ := (used.setPassword next salted world.now).exec_deleteAll permit.userID
        refine ensures_call deletes (ensures_cacheDeletes revoked fun cache cleaned => ?_)
        exact ensures_report fun background => ⟨rfl, cleaned.aside _ background⟩
      · simp only [if_neg valid, Option.filter_some, decide_eq_false valid, Bool.false_eq_true, if_false]
        exact ⟨rfl, realizes⟩

/-- A request that runs alone answers as the specification does. -/
theorem serve_agrees (realizes : Realizes service known salts ideal [] world)
    (collisionless : Collisionless service known salts) (whole : ∀ config ∈ service.bruteGuard, config.Whole)
    (now : world.now = visit.time)
    (admissible : visit.Admissible service db known salts ideal) :
    (handle service visit.request).run.Ensures (visit.exec service)
      (Agrees service known salts (ideal.serve service db visit)) world := by
  have code : otpCode visit.otp ∈ known := admissible.texts _ (List.mem_cons_of_mem _ List.mem_cons_self)
  have texts : ∀ text ∈ visit.request.texts, text ∈ known := fun text mentioned =>
    admissible.texts text (List.mem_cons_of_mem _ (List.mem_cons_of_mem _ mentioned))
  unfold Ideal.serve
  cases asked : visit.request <;> simp only [asked, Request.texts, List.forall_mem_cons, handle] at texts ⊢
  case register => exact register_agrees realizes texts.2.1 admissible.salt admissible.user
  case login => exact login_agrees realizes collisionless whole now admissible asked texts.1
  case validateToken => exact validateToken_agrees realizes now _
  case refreshToken => exact refreshToken_agrees realizes collisionless now admissible _ texts.1
  case logout => exact logout_agrees realizes collisionless texts.1
  case logoutAll => exact logoutAll_agrees realizes now _
  case listSessions => exact listSessions_agrees realizes now _
  case revokeSession => exact revokeSession_agrees realizes now _ _
  case changePassword =>
    exact changePassword_agrees realizes collisionless now _ texts.1 texts.2.1 texts.2.2.1 admissible.salt
  case requestPasswordReset => exact requestPasswordReset_agrees realizes collisionless now _ texts.1 code
  case verifyResetCode => exact verifyResetCode_agrees realizes collisionless now admissible texts.1 texts.2.1
  case resetPassword => exact resetPassword_agrees realizes collisionless now _ texts.1 texts.2.1 admissible.salt

end Handlers

def Ideal.answer (service : Service) (db : Database) (ideal : Ideal) (visit : Visit) : Answer :=
  (ideal.serve service db visit).1

def Ideal.next (service : Service) (db : Database) (ideal : Ideal) (visit : Visit) : Ideal :=
  (ideal.serve service db visit).2

/-- The visits of a run, one after another. -/
def visits (service : Service) (db : Database) :
    List Visit → World (postgres db) → Option (List (Outcome Ports Answer) × World (postgres db)) :=
  play fun visit => (system service (postgres db)).alone visit.turn

theorem visit_agrees {service : Service} {db : Database} {known salts : Set String}
    (collisionless : Collisionless service known salts) (whole : ∀ config ∈ service.bruteGuard, config.Whole)
    (ideal : Ideal) (visit : Visit) (world : World (postgres db))
    (realizes : Realizes service known salts ideal [] world)
    (admissible : visit.Admissible service db known salts ideal) :
    ∃ outcome after, (system service (postgres db)).alone visit.turn world = some (outcome, after) ∧
      outcome.answer = ideal.answer service db visit ∧
      Realizes service known salts (ideal.next service db visit) [] after := by
  have moved : (system service (postgres db)).drift visit.turn.tick world =
      some { world with now := visit.time } := rfl
  have ready := realizes.aside visit.time world.background
  obtain ⟨outcome, after, served, agrees⟩ :=
    alone_of_ensures moved (serve_agrees ready collisionless whole rfl admissible)
  exact ⟨outcome, after, served, agrees.answer, agrees.state⟩

theorem visit_meets {service : Service} {db : Database} {known salts : Set String}
    (collisionless : Collisionless service known salts) (whole : ∀ config ∈ service.bruteGuard, config.Whole)
    (ideal : Ideal) (visit : Visit) (world : World (postgres db))
    (outcome : Outcome Ports Answer) (after : World (postgres db))
    (realizes : Realizes service known salts ideal [] world)
    (admissible : visit.Admissible service db known salts ideal)
    (served : (system service (postgres db)).alone visit.turn world = some (outcome, after)) :
    outcome.answer = ideal.answer service db visit ∧
      Realizes service known salts (ideal.next service db visit) [] after := by
  obtain ⟨_, _, same, agrees⟩ := visit_agrees collisionless whole ideal visit world realizes admissible
  cases same.symm.trans served
  exact agrees

/-- The service answers every run of requests as the specification does, and its stores hold the state of the
specification at the end. -/
theorem service_meets_specification (service : Service) (db : Database) (known salts : Set String)
    (collisionless : Collisionless service known salts) (whole : ∀ config ∈ service.bruteGuard, config.Whole)
    (start : Time) (requests : List Visit)
    (admitted : Along (Ideal.next service db) (Visit.Admissible service db known salts) .empty requests) :
    ∃ outcomes last, visits service db requests (World.empty (postgres db) start) = some (outcomes, last) ∧
      outcomes.map Outcome.answer =
        outputsOf (Ideal.next service db) (Ideal.answer service db) .empty requests ∧
      Realizes service known salts (requests.foldl (Ideal.next service db) .empty) [] last := by
  have begun := Realizes.empty service known salts db start
  obtain ⟨outcomes, last, played, _⟩ := play_exists (visit_agrees collisionless whole) begun admitted
  refine ⟨outcomes, last, played, ?_⟩
  obtain ⟨meets, final⟩ := play_meets (visit_meets collisionless whole) begun admitted played
  exact ⟨meets.outputs, final⟩

def annsLogin (password : String) : Request :=
  .login bareContext { email := "ann@example.com", password, deviceID := "phone" }

/-- A user registers, is locked out by two wrong passwords, logs in a second later, refreshes the session and shows the
old token again. -/
def sampleVisits : List Visit :=
  [{ time := 0, request := .register bareContext { email := "ann@example.com", password := "pass1234" }, id := "u" },
    { time := 1 * second, request := annsLogin "pass", id := "a", token := "none" },
    { time := 2 * second, request := annsLogin "word", id := "b", token := "none" },
    { time := 2 * second + 1, request := annsLogin "pass1234", id := "c", token := "none" },
    { time := 4 * second, request := annsLogin "pass1234", id := "s", token := "first" },
    { time := 4 * second + 1, request := .refreshToken bareContext { refreshToken := "first", deviceID := "" },
      id := "t", token := "second" },
    { time := 4 * second + 2, request := .refreshToken bareContext { refreshToken := "first", deviceID := "" },
      id := "r", token := "third" }]

theorem sample_collisionless : Collisionless guardedSample Set.univ {""} where
  hash := sample_hash_injective.injOn
  proper := by
    intro text _ _ hashed
    have lists := congrArg String.toList hashed
    simp [guardedSample, sample] at lists
  verify := by
    rintro _ rfl password _ guess _
    refine congrArg some (Bool.eq_iff_iff.mpr ?_)
    simp [guardedSample, sample]

/-- With all texts known, a visit is admissible when its values are new and its login is apart. -/
theorem sample_admissible {ideal : Ideal} {visit : Visit} (salted : visit.salt = "")
    (new : visit.token ∉ ideal.drawn ∧ visit.id ∉ ideal.profiles.map Profile.id ∧
      visit.id ∉ ideal.grants.map Grant.sessionID)
    (apart : ∀ ctx req, visit.request = .login ctx req → (ideal.lockout req.email).Apart visit.time) :
    visit.Admissible guardedSample exactDatabase Set.univ {""} ideal :=
  ⟨fun _ _ => trivial, salted, new.1, new.2.1, new.2.2, rfl, apart⟩

theorem sampleVisits_admissible :
    Along (Ideal.next guardedSample exactDatabase) (Visit.Admissible guardedSample exactDatabase Set.univ {""}) .empty
      sampleVisits := by
  refine ⟨sample_admissible rfl ?_ ?_, sample_admissible rfl ?_ ?_, sample_admissible rfl ?_ ?_,
    sample_admissible rfl ?_ ?_, sample_admissible rfl ?_ ?_, sample_admissible rfl ?_ ?_,
    sample_admissible rfl ?_ ?_, trivial⟩
  all_goals first
    | decide +kernel
    | rintro _ _ ⟨⟩ <;> decide +kernel

/-- The right password is refused during the lockout, and so is the old token. -/
theorem old_token_refused :
    ∃ outcomes last, visits guardedSample exactDatabase sampleVisits (World.empty _ 0) = some (outcomes, last) ∧
      outcomes.map Outcome.answer = [.ok (.register "u"), .error invalidCredentials, .error lockedOut, .error lockedOut,
        .ok (.login "u" "first"), .ok (.refreshToken "u" "second"), .error invalidRefreshToken] := by
  have whole : ∀ config ∈ guardedSample.bruteGuard, config.Whole := by
    rintro _ ⟨⟩
    exact shortLockout_whole
  obtain ⟨outcomes, last, served, answers, _⟩ := service_meets_specification guardedSample exactDatabase Set.univ {""}
    sample_collisionless whole 0 sampleVisits sampleVisits_admissible
  refine ⟨outcomes, last, served, answers.trans ?_⟩
  rfl

end AuthService
