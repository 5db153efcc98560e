/-
This file states how a request conducts itself: which exchanges must lie behind each call that
changes a store, and which exchanges lie behind its answer.
-/

import AuthService.Construction.Handlers

namespace AuthService
open Interleaving Program

/-- The exchanges of one request with the newest first. -/
abbrev Past := List (Exchange Ports)

namespace Command

/-- The calls that change the users, the sessions or the reset records. -/
def writes : Command → Bool
  | .users (.create _ _) | .users (.updatePasswordHash _ _) => true
  | .users _ => false
  | .sessions (.getByTokenHash _) | .sessions (.listByUserID _) => false
  | .sessions _ => true
  | .resets (.getOTP _) | .resets (.getResetToken _) => false
  | .resets _ => true
  | _ => false

/-- The calls that read a user. -/
def readsUser : Command → Bool
  | .users (.getByEmail _) | .users (.getByID _) => true
  | _ => false

def readsResetToken : Command → Bool
  | .resets (.getResetToken _) => true
  | _ => false

def signs : Command → Bool
  | .tokens (.generate _) => true
  | _ => false

def drawsToken : Command → Bool
  | .random .token => true
  | _ => false

/-- The calls that a handler makes on the side. -/
def incidental : Command → Bool
  | .guard _ | .background _ | .cache _ | .clock => true
  | _ => false

/-- The calls that need no justification: they change neither a store nor the cache, they do not read a user, and
they sign nothing. -/
def free : Command → Bool
  | .cache (.set _ _ _) | .tokens (.generate _) => false
  | command => !command.writes && !command.readsUser

theorem free_spec {command : Command} (harmless : command.free = true) :
    command.writes = false ∧ command.readsUser = false := by
  unfold free at harmless
  split at harmless
  · cases harmless
  · cases harmless
  · simpa using harmless

end Command

/-- The exchanges of one kind. -/
def select (kind : Command → Bool) (past : Past) : Past := past.filter fun exchange => kind exchange.command

@[simp] theorem select_nil (kind : Command → Bool) : select kind [] = [] := rfl

@[simp] theorem select_cons (kind : Command → Bool) (exchange : Exchange Ports) (past : Past) :
    select kind (exchange :: past) =
      if kind exchange.command then exchange :: select kind past else select kind past := by
  simp only [select, List.filter_cons]

theorem mem_of_mem_select {kind : Command → Bool} {past : Past} {exchange : Exchange Ports}
    (member : exchange ∈ select kind past) : exchange ∈ past := (List.mem_filter.mp member).1

theorem mem_of_select {kind : Command → Bool} {past : Past} {exchange : Exchange Ports} {rest : Past}
    (selected : select kind past = exchange :: rest) : exchange ∈ past :=
  mem_of_mem_select (selected ▸ List.mem_cons_self)

/-- The clock readings of a request. -/
def clocks : Past → List Time
  | [] => []
  | ⟨.clock, now⟩ :: past => now :: clocks past
  | _ :: past => clocks past

/-- An exchange that left the users and the sessions as they were. -/
def Spares : Exchange Ports → Prop
  | ⟨.users (.create _ _), .ok _⟩ => False
  | ⟨.users (.updatePasswordHash _ _), .ok _⟩ => False
  | ⟨.sessions (.create _), .ok _⟩ => False
  | ⟨.sessions (.deleteByID _ _), .ok _⟩ => False
  | ⟨.sessions (.deleteByTokenHash _), .ok _⟩ => False
  | ⟨.sessions (.rotateToken _ _), .ok _⟩ => False
  | ⟨.sessions (.deleteAllByUserID _), (_, none)⟩ => False
  | ⟨.sessions (.deleteAllByUserIDExcept _ _), (_, none)⟩ => False
  | _ => True

def Sparing (past : Past) : Prop := ∀ exchange ∈ past, Spares exchange

@[simp] theorem sparing_nil : Sparing [] := by simp [Sparing]

@[simp] theorem sparing_cons (exchange : Exchange Ports) (past : Past) :
    Sparing (exchange :: past) ↔ Spares exchange ∧ Sparing past := by
  simp [Sparing]

/-- The bearer token of the context was validated as a token of the user. -/
def Validated (ctx : Context) (past : Past) (userID : String) : Prop :=
  ∃ md header rest token claims, ctx.metadata = some md ∧ md "authorization" = header :: rest ∧
    cutPrefix header "Bearer " = some token ∧
    (⟨.tokens (.validate token), some claims⟩ : Exchange Ports) ∈ past ∧ claims.userID = userID

/-- What lies behind a session that `Login` creates. -/
structure LoginGrant (service : Service) (req : LoginRequest) (past : Past) (user : User)
    (access plain : String) (now : Time) : Prop where
  read : select Command.readsUser past = [⟨.users (.getByEmail req.email), .ok user⟩]
  verified : service.verifyPassword req.password user.passwordHash = some true
  signed : select Command.signs past = [⟨.tokens (.generate ⟨user.id, user.email, ["user"]⟩), some access⟩]
  drawn : select Command.drawsToken past = [⟨.random .token, some plain⟩]
  read_clock : (⟨.clock, now⟩ : Exchange Ports) ∈ past

/-- The copy of a session that a lookup in the database gives. -/
def Session.cached (session : Session) : CachedSession :=
  ⟨session.id, session.userID, session.userEmail, session.deviceID, session.expiresAt⟩

/-- The cache or the database returned this session for the token hash. -/
def Looked (past : Past) (tokenHash : String) (cached : CachedSession) : Prop :=
  (⟨.cache (.get tokenHash), .ok cached⟩ : Exchange Ports) ∈ past ∨
    ∃ session : Session, (⟨.sessions (.getByTokenHash tokenHash), .ok session⟩ : Exchange Ports) ∈ past ∧
      session.cached = cached

/-- What lies behind a session that `RefreshToken` creates. -/
structure RefreshGrant (service : Service) (req : RefreshTokenRequest) (past : Past)
    (cached : CachedSession) (access plain : String) (now checked : Time) : Prop where
  looked : Looked past (service.hash req.refreshToken) cached
  alive : ¬ cached.expiresAt < checked
  signed : select Command.signs past =
    [⟨.tokens (.generate ⟨cached.userID, cached.userEmail, ["user"]⟩), some access⟩]
  drawn : select Command.drawsToken past = [⟨.random .token, some plain⟩]
  read_clock : [now, checked] <:+ clocks past

/-- What lies behind a password that `ChangePassword` writes. -/
structure ChangeGrant (service : Service) (ctx : Context) (req : ChangePasswordRequest) (past : Past)
    (userID newHash : String) (user : User) : Prop where
  validated : Validated ctx past userID
  read : select Command.readsUser past = [⟨.users (.getByID userID), .ok user⟩]
  verified : service.verifyPassword req.currentPassword user.passwordHash = some true
  hashed : ∃ salt, newHash = service.hashPassword salt req.newPassword

/-- What lies behind a password reset. -/
structure ResetGrant (service : Service) (req : ResetPasswordRequest) (past : Past)
    (found : ResetTokenRecord) : Prop where
  read : select Command.readsResetToken past =
    [⟨.resets (.getResetToken (service.hash req.resetToken)), .ok found⟩]

/-- What lies behind a reset token that `VerifyResetCode` saves. -/
structure VerifyGrant (service : Service) (req : VerifyResetCodeRequest) (past : Past)
    (found : OTPRecord) (attempts : Int) : Prop where
  read : (⟨.resets (.getOTP req.email), .ok found⟩ : Exchange Ports) ∈ past
  counted : (⟨.resets (.incrOTPAttempts req.email), .ok attempts⟩ : Exchange Ports) ∈ past
  allowed : attempts < maxOTPAttempts
  verified : service.hash req.otp = found.otpHash

/-- The calls that a request may make after its past exchanges. -/
inductive Permits (service : Service) : Request → Past → Command → Prop where
  | free {request past command} (harmless : command.free = true) : Permits service request past command
  | readEmail {request past email} (once : select Command.readsUser past = []) :
      Permits service request past (.users (.getByEmail email))
  | readID {request past id} (once : select Command.readsUser past = []) :
      Permits service request past (.users (.getByID id))
  | register {ctx req past salt} (first : select Command.writes past = []) :
      Permits service (.register ctx req) past
        (.users (.create req.email (service.hashPassword salt req.password)))
  | signLogin {ctx req past} {user : User}
      (read : select Command.readsUser past = [⟨.users (.getByEmail req.email), .ok user⟩])
      (verified : service.verifyPassword req.password user.passwordHash = some true) :
      Permits service (.login ctx req) past (.tokens (.generate ⟨user.id, user.email, ["user"]⟩))
  | login {ctx req past user access plain now}
      (grant : LoginGrant service req past user access plain now) (first : select Command.writes past = []) :
      Permits service (.login ctx req) past
        (.sessions (.create (loginSession service ctx req user plain now)))
  | cacheLogin {ctx req past user access plain now ttl} {sess : Session}
      (grant : LoginGrant service req past user access plain now)
      (created : select Command.writes past =
        [⟨.sessions (.create (loginSession service ctx req user plain now)), .ok sess⟩]) :
      Permits service (.login ctx req) past
        (.cache (.set (service.hash plain) ⟨sess.id, user.id, user.email,
          (loginSession service ctx req user plain now).deviceID, sess.expiresAt⟩ ttl))
  | expire {ctx req past cached now} (looked : Looked past (service.hash req.refreshToken) cached)
      (read : [now] <:+ clocks past) (expired : cached.expiresAt < now)
      (first : select Command.writes past = []) :
      Permits service (.refreshToken ctx req) past
        (.sessions (.deleteByTokenHash (service.hash req.refreshToken)))
  | signRefresh {ctx req past} {cached : CachedSession} (looked : Looked past (service.hash req.refreshToken) cached) :
      Permits service (.refreshToken ctx req) past
        (.tokens (.generate ⟨cached.userID, cached.userEmail, ["user"]⟩))
  | rotate {ctx req past cached access plain now checked}
      (grant : RefreshGrant service req past cached access plain now checked)
      (first : select Command.writes past = []) :
      Permits service (.refreshToken ctx req) past (.sessions (.rotateToken
        (service.hash req.refreshToken) (refreshSession service ctx req cached plain now)))
  | cacheRefresh {ctx req past cached access plain now checked ttl} {sess : Session}
      (grant : RefreshGrant service req past cached access plain now checked)
      (rotated : select Command.writes past = [⟨.sessions (.rotateToken (service.hash req.refreshToken)
        (refreshSession service ctx req cached plain now)), .ok sess⟩]) :
      Permits service (.refreshToken ctx req) past
        (.cache (.set (service.hash plain) ⟨sess.id, cached.userID, cached.userEmail,
          (refreshSession service ctx req cached plain now).deviceID, sess.expiresAt⟩ ttl))
  | logout {ctx token past} (first : select Command.writes past = []) :
      Permits service (.logout ctx token) past (.sessions (.deleteByTokenHash (service.hash token)))
  | logoutAll {ctx past userID} (validated : Validated ctx past userID)
      (first : select Command.writes past = []) :
      Permits service (.logoutAll ctx) past (.sessions (.deleteAllByUserID userID))
  | revoke {ctx past sessionID userID} (validated : Validated ctx past userID)
      (first : select Command.writes past = []) :
      Permits service (.revokeSession ctx sessionID) past (.sessions (.deleteByID sessionID userID))
  | change {ctx req past userID newHash user}
      (grant : ChangeGrant service ctx req past userID newHash user)
      (first : select Command.writes past = []) :
      Permits service (.changePassword ctx req) past (.users (.updatePasswordHash userID newHash))
  | revokeOthers {ctx req past userID newHash user keepHash}
      (grant : ChangeGrant service ctx req past userID newHash user)
      (changed : select Command.writes past = [⟨.users (.updatePasswordHash userID newHash), .ok ()⟩])
      (kept : keepHash = if req.refreshToken = "" then "" else service.hash req.refreshToken) :
      Permits service (.changePassword ctx req) past
        (.sessions (.deleteAllByUserIDExcept userID keepHash))
  | saveCode {ctx email past code} {user : User}
      (read : select Command.readsUser past = [⟨.users (.getByEmail email), .ok user⟩])
      (drawn : (⟨.random .otp, some code⟩ : Exchange Ports) ∈ past)
      (first : select Command.writes past = []) :
      Permits service (.requestPasswordReset ctx email) past
        (.resets (.saveOTP user.id email (service.hash code) (15 * minute)))
  | count {ctx req past} {found : OTPRecord}
      (read : (⟨.resets (.getOTP req.email), .ok found⟩ : Exchange Ports) ∈ past)
      (first : select Command.writes past = []) :
      Permits service (.verifyResetCode ctx req) past (.resets (.incrOTPAttempts req.email))
  | dropCode {ctx req past} {attempts : Int}
      (counted : select Command.writes past = [⟨.resets (.incrOTPAttempts req.email), .ok attempts⟩]) :
      Permits service (.verifyResetCode ctx req) past (.resets (.deleteOTP req.email))
  | saveToken {ctx req past found attempts plain}
      (grant : VerifyGrant service req past found attempts)
      (drawn : select Command.drawsToken past = [⟨.random .token, some plain⟩])
      (first : ∀ exchange ∈ past, ∀ tokenHash userID email ttl,
        exchange.command ≠ .resets (.saveResetToken tokenHash userID email ttl)) :
      Permits service (.verifyResetCode ctx req) past
        (.resets (.saveResetToken (service.hash plain) found.userID req.email (15 * minute)))
  | dropToken {ctx req past found} (grant : ResetGrant service req past found)
      (first : select Command.writes past = []) :
      Permits service (.resetPassword ctx req) past
        (.resets (.deleteResetToken (service.hash req.resetToken)))
  | reset {ctx req past found salt} (grant : ResetGrant service req past found)
      (dropped : select Command.writes past =
        [⟨.resets (.deleteResetToken (service.hash req.resetToken)), .ok ()⟩]) :
      Permits service (.resetPassword ctx req) past
        (.users (.updatePasswordHash found.userID (service.hashPassword salt req.newPassword)))
  | revokeAll {ctx req past found salt} (grant : ResetGrant service req past found)
      (changed : select Command.writes past =
        [⟨.users (.updatePasswordHash found.userID (service.hashPassword salt req.newPassword)), .ok ()⟩,
          ⟨.resets (.deleteResetToken (service.hash req.resetToken)), .ok ()⟩]) :
      Permits service (.resetPassword ctx req) past (.sessions (.deleteAllByUserID found.userID))

/-- The requests whose success needs no further evidence. -/
def Request.plain : Request → Bool
  | .login _ _ | .refreshToken _ _ | .verifyResetCode _ _ | .resetPassword _ _ => false
  | _ => true

/-- The answers that a request may give after its past exchanges. -/
inductive Finishes (service : Service) : Request → Past → Answer → Prop where
  | failed {request past status} (sparing : Sparing past) : Finishes service request past (.error status)
  | expired {ctx req past cached now} (looked : Looked past (service.hash req.refreshToken) cached)
      (read : [now] <:+ clocks past) (expired : cached.expiresAt < now)
      (sparing : ∀ exchange ∈ past, Spares exchange ∨
        exchange.command = .sessions (.deleteByTokenHash (service.hash req.refreshToken))) :
      Finishes service (.refreshToken ctx req) past (.error expiredRefreshToken)
  | plain {request past response} (ordinary : request.plain = true) :
      Finishes service request past (.ok response)
  | login {ctx req past user access plain now} {sess : Session}
      (grant : LoginGrant service req past user access plain now)
      (created : select Command.writes past =
        [⟨.sessions (.create (loginSession service ctx req user plain now)), .ok sess⟩]) :
      Finishes service (.login ctx req) past (.ok (.login access plain))
  | refresh {ctx req past cached access plain now checked} {sess : Session}
      (grant : RefreshGrant service req past cached access plain now checked)
      (rotated : select Command.writes past = [⟨.sessions (.rotateToken (service.hash req.refreshToken)
        (refreshSession service ctx req cached plain now)), .ok sess⟩]) :
      Finishes service (.refreshToken ctx req) past (.ok (.refreshToken access plain))
  | verify {ctx req past found attempts plain} (grant : VerifyGrant service req past found attempts)
      (drawn : select Command.drawsToken past = [⟨.random .token, some plain⟩])
      (saved : (⟨.resets (.saveResetToken (service.hash plain) found.userID req.email (15 * minute)),
        .ok ()⟩ : Exchange Ports) ∈ past) :
      Finishes service (.verifyResetCode ctx req) past (.ok (.verifyResetCode plain))
  | reset {ctx req past found salt} {deleted : List String × Option StoreError}
      (grant : ResetGrant service req past found)
      (revoked : select Command.writes past = [⟨.sessions (.deleteAllByUserID found.userID), deleted⟩,
        ⟨.users (.updatePasswordHash found.userID (service.hashPassword salt req.newPassword)), .ok ()⟩,
        ⟨.resets (.deleteResetToken (service.hash req.resetToken)), .ok ()⟩]) :
      Finishes service (.resetPassword ctx req) past (.ok .resetPassword)

end AuthService
