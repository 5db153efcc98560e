/-
This file translates the handlers of the service, one program for each procedure.
-/

import AuthService.Construction.Commands

namespace AuthService
open Interleaving Program

/-- The configuration of the service and the library functions that it calls. The functions
`hash`, `sign`, `validate`, `hashPassword` and `verifyPassword` stand for SHA-256 in hex, the
access-token manager and the password package. A missing reply of `verifyPassword` is its error, and
`verifyPanics` tells the stored hashes on which it panics instead. -/
structure Service where
  hash : String → String
  sign : Claims → Time → String
  validate : String → Time → Option Claims
  hashPassword : String → String → String
  verifyPassword : String → String → Option Bool
  isLetter : Char → Bool
  isDigit : Char → Bool
  refreshTTL : Duration
  bruteGuard : Option GuardConfig
  auditStore : Bool
  hook : Bool
  verifyPanics : String → Bool := fun _ => false

abbrev userStore (command : UserCommand) : Handler command.Reply :=
  perform (S := Ports) (.users command)

abbrev sessionStore (command : SessionCommand) : Handler command.Reply :=
  perform (S := Ports) (.sessions command)

abbrev sessionCache (command : CacheCommand) : Handler command.Reply :=
  perform (S := Ports) (.cache command)

abbrev resetStore (command : ResetCommand) : Handler command.Reply :=
  perform (S := Ports) (.resets command)

abbrev bruteGuard (command : GuardCommand) : Handler command.Reply :=
  perform (S := Ports) (.guard command)

abbrev draw (command : RandomCommand) : Handler (Option String) :=
  perform (S := Ports) (.random command)

abbrev tokenMgr (command : TokenCommand) : Handler command.Reply :=
  perform (S := Ports) (.tokens command)

abbrev spawn (command : BackgroundCommand) : Handler Unit :=
  perform (S := Ports) (.background command)

/-- This is `time.Now`. -/
abbrev clock : Handler Time := perform (S := Ports) .clock

/-- A refused argument ends the request. -/
def checkArgument : Option String → Handler Unit
  | none => pure ()
  | some message => throw ⟨.invalidArgument, message⟩

/-- A library call that fails ends the request with an internal error. -/
def orInternal {A : Type} : Option A → Handler A
  | some value => pure value
  | none => throw internalError

/-- A store call that fails ends the request with an internal error. -/
def orInternalError {A : Type} : Except StoreError A → Handler A
  | .ok value => pure value
  | .error _ => throw internalError

/-- A store call that reports the given named error ends the request with its own status. -/
def orStatus {A : Type} (named : StoreError) (status : Status) : Except StoreError A → Handler A
  | .ok value => pure value
  | .error error => if error = named then throw status else throw internalError

/-- An audit entry and a hook event are started together. -/
def report (auditUser : Option String) (hookUser email : String) (eventType : AuditEventType)
    (client : ClientInfo) (auditMeta hookMeta : List (String × String)) : Handler Unit := do
  spawn (.logAudit ⟨auditUser, eventType, client.ipAddress, client.userAgent, auditMeta⟩)
  spawn (.fireHook ⟨eventType, hookUser, email, client.ipAddress, client.userAgent, hookMeta⟩)

/-- The lifetime of a cached session ends with the session, and a dead session is not cached. -/
def cacheSession (tokenHash : String) (sess : CachedSession) : Handler Unit := do
  let now ← clock
  if 0 < sess.expiresAt - now then
    let _ ← sessionCache (.set tokenHash sess (sess.expiresAt - now))

def deleteSessionFromCache (tokenHash : String) : Handler Unit := do
  let _ ← sessionCache (.delete tokenHash)

/-- This is `password.Hash`: the salt is random and the encoding is a library function. -/
def hashPassword (service : Service) (plaintext : String) : Handler String := do
  let salt ← orInternal (← draw .salt)
  return service.hashPassword salt plaintext

def extractUserIDFromCtx (ctx : Context) : Handler String := do
  match ctx.metadata with
  | none => throw ⟨.unauthenticated, "missing metadata"⟩
  | some md =>
      match md "authorization" with
      | [] => throw ⟨.unauthenticated, "missing authorization header"⟩
      | header :: _ =>
          match cutPrefix header "Bearer " with
          | none => throw ⟨.unauthenticated, "invalid authorization header format"⟩
          | some token =>
              match ← tokenMgr (.validate token) with
              | none => throw ⟨.unauthenticated, "invalid access token"⟩
              | some claims => return claims.userID

def register (service : Service) (ctx : Context) (req : RegisterRequest) : Handler Response := do
  checkArgument (validateEmail req.email)
  checkArgument (validatePassword service.isLetter service.isDigit req.password)
  let hash ← hashPassword service req.password
  let user ← orStatus .userAlreadyExists ⟨.alreadyExists, "email already registered"⟩
    (← userStore (.create req.email hash))
  let details := [("email", user.email)]
  report (some user.id) user.id user.email .register (extractClientInfo ctx) details details
  return .register user.id

def lockedOut : Status :=
  ⟨.resourceExhausted, "account temporarily locked due to too many failed attempts, try again later"⟩

def invalidCredentials : Status := ⟨.unauthenticated, "invalid credentials"⟩

/-- The lockout check of `Login` comes before any database lookup. -/
def checkLockout (service : Service) (email : String) (client : ClientInfo) : Handler Unit := do
  if service.bruteGuard.isSome then
    match ← bruteGuard (.isLocked email) with
    | .ok true =>
        report none "" email .loginBlocked client [("email", email)] [("email", email)]
        throw lockedOut
    | _ => pure ()

def getLoginUser (email : String) (client : ClientInfo) : Handler User := do
  match ← userStore (.getByEmail email) with
  | .ok user => return user
  | .error error =>
      if error = .userNotFound then
        report none "" email .loginFailure client [("email", email)] [("email", email)]
        throw invalidCredentials
      else throw internalError

/-- The failure that reaches the limit ends the request with the lockout status. -/
def recordFailure (service : Service) (user : User) (email : String) (client : ClientInfo) :
    Handler Unit := do
  if service.bruteGuard.isSome then
    match ← bruteGuard (.recordFailure email) with
    | .ok true =>
        report (some user.id) user.id user.email .loginBlocked client
          [("email", email)] [("email", email)]
        throw lockedOut
    | _ => pure ()

/-- A wrong password is recorded by the guard and always ends the request. -/
def checkLoginPassword (service : Service) (user : User) (req : LoginRequest) (client : ClientInfo) :
    Handler Unit := do
  let isMatch ← orInternal (service.verifyPassword req.password user.passwordHash)
  if isMatch then pure ()
  else
    recordFailure service user req.email client
    report (some user.id) user.id user.email .loginFailure client
      [("email", req.email)] [("email", req.email)]
    throw invalidCredentials

def resetGuard (service : Service) (email : String) : Handler Unit := do
  if service.bruteGuard.isSome then bruteGuard (.reset email)

/-- The session that `Login` stores for a new refresh token. -/
def loginSession (service : Service) (ctx : Context) (req : LoginRequest) (user : User)
    (plainRefresh : String) (now : Time) : Session :=
  let client := extractClientInfo ctx
  { id := ""
    userID := user.id
    userEmail := ""
    tokenHash := service.hash plainRefresh
    deviceID := if req.deviceID = "" then client.userAgent else req.deviceID
    userAgent := client.userAgent
    ipAddress := client.ipAddress
    expiresAt := now + service.refreshTTL
    lastUsedAt := zeroTime
    createdAt := zeroTime }

def login (service : Service) (ctx : Context) (req : LoginRequest) : Handler Response := do
  checkArgument (validateEmail req.email)
  let client := extractClientInfo ctx
  checkLockout service req.email client
  let user ← getLoginUser req.email client
  checkLoginPassword service user req client
  resetGuard service req.email
  let accessToken ← orInternal (← tokenMgr (.generate ⟨user.id, user.email, ["user"]⟩))
  let plainRefresh ← orInternal (← draw .token)
  let now ← clock
  let built := loginSession service ctx req user plainRefresh now
  let sess ← orInternalError (← sessionStore (.create built))
  cacheSession built.tokenHash ⟨sess.id, user.id, user.email, built.deviceID, sess.expiresAt⟩
  let details := [("email", user.email), ("device_id", built.deviceID), ("session_id", sess.id)]
  report (some user.id) user.id user.email .loginSuccess client details details
  return .login accessToken plainRefresh

/-- A token that does not validate is an ordinary response. -/
def validateToken (token : String) : Handler Response := do
  match ← tokenMgr (.validate token) with
  | none => return .validateToken false "" []
  | some claims => return .validateToken true claims.userID claims.roles

def invalidRefreshToken : Status := ⟨.unauthenticated, "invalid refresh token"⟩

def expiredRefreshToken : Status := ⟨.unauthenticated, "refresh token expired"⟩

/-- The cached copy is used when there is one, and the database row otherwise. -/
def lookupSession (tokenHash : String) : Handler CachedSession := do
  match ← sessionCache (.get tokenHash) with
  | .ok cached => return cached
  | .error _ =>
      let dbSess ← orStatus .sessionNotFound invalidRefreshToken
        (← sessionStore (.getByTokenHash tokenHash))
      return ⟨dbSess.id, dbSess.userID, dbSess.userEmail, dbSess.deviceID, dbSess.expiresAt⟩

/-- An expired session is removed, and a failure to remove it is only logged. -/
def checkExpiry (tokenHash : String) (cached : CachedSession) : Handler Unit := do
  let now ← clock
  if cached.expiresAt < now then
    let _ ← sessionStore (.deleteByTokenHash tokenHash)
    deleteSessionFromCache tokenHash
    throw expiredRefreshToken

/-- The session that `RefreshToken` stores in place of the old one. -/
def refreshSession (service : Service) (ctx : Context) (req : RefreshTokenRequest)
    (cached : CachedSession) (newPlain : String) (now : Time) : Session :=
  { id := ""
    userID := cached.userID
    userEmail := ""
    tokenHash := service.hash newPlain
    deviceID := if req.deviceID = "" then cached.deviceID else req.deviceID
    userAgent := (extractClientInfo ctx).userAgent
    ipAddress := (extractClientInfo ctx).ipAddress
    expiresAt := now + service.refreshTTL
    lastUsedAt := zeroTime
    createdAt := zeroTime }

def refreshToken (service : Service) (ctx : Context) (req : RefreshTokenRequest) :
    Handler Response := do
  let tokenHash := service.hash req.refreshToken
  let cached ← lookupSession tokenHash
  checkExpiry tokenHash cached
  let newAccessToken ← orInternal
    (← tokenMgr (.generate ⟨cached.userID, cached.userEmail, ["user"]⟩))
  let newPlain ← orInternal (← draw .token)
  let now ← clock
  let built := refreshSession service ctx req cached newPlain now
  let newSess ← orStatus .sessionNotFound invalidRefreshToken
    (← sessionStore (.rotateToken tokenHash built))
  deleteSessionFromCache tokenHash
  cacheSession built.tokenHash
    ⟨newSess.id, cached.userID, cached.userEmail, built.deviceID, newSess.expiresAt⟩
  report (some cached.userID) cached.userID cached.userEmail .tokenRefresh (extractClientInfo ctx)
    [("session_id", newSess.id)] [("session_id", newSess.id)]
  return .refreshToken newAccessToken newPlain

/-- The cached owner is read for the audit entry only. -/
def cachedOwner (tokenHash : String) : Handler (Option CachedSession) := do
  match ← sessionCache (.get tokenHash) with
  | .ok cached => return some cached
  | .error _ => return none

def logout (service : Service) (ctx : Context) (refreshToken : String) : Handler Response := do
  let tokenHash := service.hash refreshToken
  let owner ← cachedOwner tokenHash
  orInternalError (← sessionStore (.deleteByTokenHash tokenHash))
  deleteSessionFromCache tokenHash
  let userID := owner.map CachedSession.userID
  let email := (owner.map CachedSession.userEmail).getD ""
  report userID (userID.getD "") email .logout (extractClientInfo ctx) [] []
  return .logout

/-- A bulk delete that reports an error ends the request. -/
def deletedHashes : List String × Option StoreError → Handler (List String)
  | (hashes, none) => pure hashes
  | (_, some _) => throw internalError

def logoutAll (ctx : Context) : Handler Response := do
  let userID ← extractUserIDFromCtx ctx
  let hashes ← deletedHashes (← sessionStore (.deleteAllByUserID userID))
  forM hashes deleteSessionFromCache
  let details := [("sessions_revoked", toString hashes.length)]
  report (some userID) userID "" .logoutAll (extractClientInfo ctx) details details
  return .logoutAll (BitVec.ofNat 32 hashes.length)

/-- The seconds of `time.Time.Unix`. -/
def unix (time : Time) : Int := time / second

def sessionInfo (sess : Session) : SessionInfo :=
  ⟨sess.id, sess.deviceID, sess.userAgent, sess.ipAddress, unix sess.createdAt, unix sess.lastUsedAt⟩

def listSessions (ctx : Context) : Handler Response := do
  let userID ← extractUserIDFromCtx ctx
  let sessions ← orInternalError (← sessionStore (.listByUserID userID))
  return .listSessions (sessions.map sessionInfo)

def revokeSession (ctx : Context) (sessionID : String) : Handler Response := do
  let userID ← extractUserIDFromCtx ctx
  let tokenHash ← orStatus .sessionNotFound ⟨.notFound, "session not found"⟩
    (← sessionStore (.deleteByID sessionID userID))
  deleteSessionFromCache tokenHash
  let details := [("session_id", sessionID)]
  report (some userID) userID "" .sessionRevoke (extractClientInfo ctx) details details
  return .revokeSession

def checkCurrentPassword (service : Service) (user : User) (currentPassword : String) :
    Handler Unit := do
  let isMatch ← orInternal (service.verifyPassword currentPassword user.passwordHash)
  if isMatch then pure () else throw invalidCredentials

/-- A failure to revoke the other sessions is only logged, and the hashes that were read are
removed from the cache in any case. -/
def changePassword (service : Service) (ctx : Context) (req : ChangePasswordRequest) :
    Handler Response := do
  let userID ← extractUserIDFromCtx ctx
  checkArgument (validatePassword service.isLetter service.isDigit req.newPassword)
  let user ← orInternalError (← userStore (.getByID userID))
  checkCurrentPassword service user req.currentPassword
  let newHash ← hashPassword service req.newPassword
  orInternalError (← userStore (.updatePasswordHash userID newHash))
  let keepHash := if req.refreshToken = "" then "" else service.hash req.refreshToken
  let deleted ← sessionStore (.deleteAllByUserIDExcept userID keepHash)
  forM deleted.1 deleteSessionFromCache
  report (some userID) userID user.email .passwordChange (extractClientInfo ctx) [] []
  return .changePassword

/-- An unknown address gets the same response as a known one. -/
def requestPasswordReset (service : Service) (ctx : Context) (email : String) :
    Handler Response := do
  checkArgument (validateEmail email)
  match ← userStore (.getByEmail email) with
  | .error error =>
      if error = .userNotFound then return .requestPasswordReset else throw internalError
  | .ok user =>
      let code ← orInternal (← draw .otp)
      orInternalError (← resetStore (.saveOTP user.id email (service.hash code) (15 * minute)))
      report (some user.id) user.id user.email .passwordResetRequest (extractClientInfo ctx) []
        [("otp_code", code)]
      return .requestPasswordReset

def maxOTPAttempts : Int := 5

def invalidCode : Status := ⟨.unauthenticated, "invalid or expired code"⟩

/-- The fifth attempt deletes the record, and a failure to delete it is ignored. -/
def checkAttempts (email : String) (attempts : Int) : Handler Unit := do
  if maxOTPAttempts ≤ attempts then
    let _ ← resetStore (.deleteOTP email)
    throw ⟨.unauthenticated, "too many attempts"⟩

def checkCode (service : Service) (otp : String) (otpRecord : OTPRecord) : Handler Unit :=
  if service.hash otp = otpRecord.otpHash then pure () else throw invalidCode

def verifyResetCode (service : Service) (req : VerifyResetCodeRequest) : Handler Response := do
  checkArgument (validateEmail req.email)
  let otpRecord ← orStatus .resetCodeNotFound invalidCode (← resetStore (.getOTP req.email))
  let attempts ← orStatus .resetCodeNotFound invalidCode
    (← resetStore (.incrOTPAttempts req.email))
  checkAttempts req.email attempts
  checkCode service req.otp otpRecord
  let _ ← resetStore (.deleteOTP req.email)
  let plain ← orInternal (← draw .token)
  orInternalError (← resetStore
    (.saveResetToken (service.hash plain) otpRecord.userID req.email (15 * minute)))
  return .verifyResetCode plain

def invalidResetToken : Status := ⟨.unauthenticated, "invalid or expired reset token"⟩

/-- The token is deleted before the password is written, and a failure to revoke the sessions
is only logged. -/
def resetPassword (service : Service) (ctx : Context) (req : ResetPasswordRequest) :
    Handler Response := do
  checkArgument (validatePassword service.isLetter service.isDigit req.newPassword)
  let tokenRec ← orStatus .resetTokenNotFound invalidResetToken
    (← resetStore (.getResetToken (service.hash req.resetToken)))
  orInternalError (← resetStore (.deleteResetToken (service.hash req.resetToken)))
  let newHash ← hashPassword service req.newPassword
  orInternalError (← userStore (.updatePasswordHash tokenRec.userID newHash))
  let deleted ← sessionStore (.deleteAllByUserID tokenRec.userID)
  forM deleted.1 deleteSessionFromCache
  report (some tokenRec.userID) tokenRec.userID tokenRec.email .passwordReset
    (extractClientInfo ctx) [] []
  return .resetPassword

/-- The handler of each request. -/
def handle (service : Service) : Request → Handler Response
  | .register ctx req => register service ctx req
  | .login ctx req => login service ctx req
  | .validateToken token => validateToken token
  | .refreshToken ctx req => refreshToken service ctx req
  | .logout ctx token => logout service ctx token
  | .logoutAll ctx => logoutAll ctx
  | .listSessions ctx => listSessions ctx
  | .revokeSession ctx sessionID => revokeSession ctx sessionID
  | .changePassword ctx req => changePassword service ctx req
  | .requestPasswordReset ctx email => requestPasswordReset service ctx email
  | .verifyResetCode _ req => verifyResetCode service req
  | .resetPassword ctx req => resetPassword service ctx req

end AuthService
