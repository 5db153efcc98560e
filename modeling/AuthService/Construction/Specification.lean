/-
This file specifies the service for requests that come one after another. The specification knows the passwords, the
tokens and the codes themselves and follows the lockout rule of each address. It has neither hashes nor a cache, and it
keeps no audit log.
-/

import AuthService.Construction.LockoutRule
import AuthService.Construction.World

namespace AuthService

structure Profile where
  id : String
  email : String
  password : String

/-- What a refresh token grants. -/
structure Grant where
  token : String
  sessionID : String
  userID : String
  email : String
  deviceID : String
  client : ClientInfo
  expiresAt : Time
  createdAt : Time

/-- A code that was sent to an address, with the guesses that were made so far. -/
structure SentCode where
  userID : String
  code : String
  attempts : Int
  expiresAt : Time

/-- What a reset token permits. -/
structure Permit where
  userID : String
  email : String
  expiresAt : Time

/-- A request with its time and with the values that are drawn for it. -/
structure Visit where
  time : Time
  request : Request
  id : String := ""
  token : String := ""
  otp : Nat := 0
  salt : String := ""

/-- Codes and lockouts are kept by address and permits by reset token. The field `drawn` lists all tokens that were
handed out. -/
structure Ideal where
  profiles : List Profile
  grants : List Grant
  codes : String → Option SentCode
  permits : String → Option Permit
  lockout : String → Lockout
  drawn : List String

def resetLifetime : Duration := 15 * minute

namespace Grant

def claims (grant : Grant) : Claims := ⟨grant.userID, grant.email, ["user"]⟩

def info (grant : Grant) : SessionInfo :=
  ⟨grant.sessionID, grant.deviceID, grant.client.userAgent, grant.client.ipAddress, unix grant.createdAt,
    unix grant.createdAt⟩

/-- A database holds no text with the character zero. -/
def storable (grant : Grant) : Bool :=
  SessionTable.storable grant.deviceID && SessionTable.storable grant.client.userAgent &&
    SessionTable.storable grant.client.ipAddress

end Grant

namespace Ideal

def empty : Ideal := ⟨[], [], fun _ => none, fun _ => none, fun _ => .clear, []⟩

variable (service : Service) (db : Database) (visit : Visit) (ideal : Ideal)

def refused (status : Status) : Answer × Ideal := (.error status, ideal)

/-- A text that is not valid is refused. -/
def checked (refusal : Option String) (rest : Answer × Ideal) : Answer × Ideal :=
  match refusal with
  | some message => ideal.refused ⟨.invalidArgument, message⟩
  | none => rest

/-- The user whom the bearer token names. -/
def bearer (ctx : Context) : Except Status String :=
  match ctx.metadata with
  | none => .error ⟨.unauthenticated, "missing metadata"⟩
  | some md =>
      match md "authorization" with
      | [] => .error ⟨.unauthenticated, "missing authorization header"⟩
      | header :: _ =>
          match cutPrefix header "Bearer " with
          | none => .error ⟨.unauthenticated, "invalid authorization header format"⟩
          | some token =>
              match service.validate token visit.time with
              | none => .error ⟨.unauthenticated, "invalid access token"⟩
              | some claims => .ok claims.userID

def identified (ctx : Context) (rest : String → Answer × Ideal) : Answer × Ideal :=
  match bearer service visit ctx with
  | .error status => ideal.refused status
  | .ok userID => rest userID

def byEmail (email : String) : Option Profile := ideal.profiles.find? fun profile => profile.email = email

def byID (id : String) : Option Profile := ideal.profiles.find? fun profile => profile.id = id

def byToken (token : String) : Option Grant := ideal.grants.find? fun grant => grant.token = token

def revoke (selected : Grant → Bool) : Ideal :=
  { ideal with grants := ideal.grants.filter fun grant => !selected grant }

def setPassword (userID password : String) : Ideal :=
  { ideal with profiles := ideal.profiles.map fun profile =>
      if profile.id = userID then { profile with password } else profile }

def withCode (email : String) (code : Option SentCode) : Ideal :=
  { ideal with codes := Function.update ideal.codes email code }

def withPermit (token : String) (permit : Option Permit) : Ideal :=
  { ideal with permits := Function.update ideal.permits token permit }

def withLockout (email : String) (lockout : Lockout) : Ideal :=
  { ideal with lockout := Function.update ideal.lockout email lockout }

def isLocked (email : String) : Bool := service.bruteGuard.isSome && (ideal.lockout email).isLocked visit.time

/-- A failure is counted, and the flag says whether the address is locked now. -/
def recordFailure (email : String) : Bool × Ideal :=
  match service.bruteGuard with
  | none => (false, ideal)
  | some config =>
      let lockout := ideal.lockout email
      (lockout.reaches config visit.time, ideal.withLockout email (lockout.fail config visit.time))

def clearFailures (email : String) : Ideal :=
  if service.bruteGuard.isSome then ideal.withLockout email .clear else ideal

def draw : Ideal := { ideal with drawn := visit.token :: ideal.drawn }

def opened (ctx : Context) (deviceID userID email : String) : Grant where
  token := visit.token
  sessionID := visit.id
  userID
  email
  deviceID
  client := extractClientInfo ctx
  expiresAt := visit.time + service.refreshTTL
  createdAt := visit.time

def register (req : RegisterRequest) : Answer × Ideal :=
  ideal.checked (validateEmail req.email) <|
  ideal.checked (validatePassword service.isLetter service.isDigit req.password) <|
    if (ideal.byEmail req.email).isSome then ideal.refused ⟨.alreadyExists, "email already registered"⟩
    else (.ok (.register visit.id),
      { ideal with profiles := ⟨visit.id, req.email, req.password⟩ :: ideal.profiles })

/-- The grant that a login opens. -/
def loginGrant (ctx : Context) (req : LoginRequest) (profile : Profile) : Grant :=
  opened service visit ctx (if req.deviceID = "" then (extractClientInfo ctx).userAgent else req.deviceID)
    profile.id profile.email

def login (ctx : Context) (req : LoginRequest) : Answer × Ideal :=
  ideal.checked (validateEmail req.email) <|
    if ideal.isLocked service visit req.email then ideal.refused lockedOut
    else
      match ideal.byEmail req.email with
      | none => ideal.refused invalidCredentials
      | some profile =>
          if req.password = profile.password then
            let grant := loginGrant service visit ctx req profile
            let ready := (ideal.clearFailures service req.email).draw visit
            if grant.storable then
              (.ok (.login (service.sign grant.claims visit.time) visit.token),
                { ready with grants := grant :: ready.grants })
            else ready.refused internalError
          else
            let failure := ideal.recordFailure service visit req.email
            failure.2.refused (if failure.1 then lockedOut else invalidCredentials)

def validateToken (token : String) : Answer × Ideal :=
  match service.validate token visit.time with
  | none => (.ok (.validateToken false "" []), ideal)
  | some claims => (.ok (.validateToken true claims.userID claims.roles), ideal)

/-- The grant that takes the place of an old one. -/
def nextGrant (ctx : Context) (req : RefreshTokenRequest) (grant : Grant) : Grant :=
  opened service visit ctx (if req.deviceID = "" then grant.deviceID else req.deviceID) grant.userID grant.email

def refreshToken (ctx : Context) (req : RefreshTokenRequest) : Answer × Ideal :=
  match ideal.byToken req.refreshToken with
  | none => ideal.refused invalidRefreshToken
  | some grant =>
      if grant.expiresAt < visit.time then
        (ideal.revoke fun grant => grant.token = req.refreshToken).refused expiredRefreshToken
      else
        let next := nextGrant service visit ctx req grant
        if next.storable then
          let ready := (ideal.revoke fun grant => grant.token = req.refreshToken).draw visit
          (.ok (.refreshToken (service.sign grant.claims visit.time) visit.token),
            { ready with grants := next :: ready.grants })
        else (ideal.draw visit).refused internalError

def logout (token : String) : Answer × Ideal := (.ok .logout, ideal.revoke fun grant => grant.token = token)

def logoutAll (ctx : Context) : Answer × Ideal :=
  ideal.identified service visit ctx fun userID =>
    (.ok (.logoutAll (BitVec.ofNat 32 (ideal.grants.filter fun grant => grant.userID = userID).length)),
      ideal.revoke fun grant => grant.userID = userID)

/-- The sessions of a user are listed with the newest first. -/
def listSessions (ctx : Context) : Answer × Ideal :=
  ideal.identified service visit ctx fun userID =>
    let grants := (ideal.grants.filter fun grant => grant.userID = userID).mergeSort fun first second =>
      decide (second.createdAt ≤ first.createdAt)
    (.ok (.listSessions (grants.map Grant.info)), ideal)

def revokeSession (ctx : Context) (sessionID : String) : Answer × Ideal :=
  ideal.identified service visit ctx fun userID =>
    match db.uuid sessionID with
    | none => ideal.refused internalError
    | some id =>
        if ideal.grants.any fun grant => grant.sessionID = id && grant.userID = userID then
          (.ok .revokeSession, ideal.revoke fun grant => grant.sessionID = id && grant.userID = userID)
        else ideal.refused ⟨.notFound, "session not found"⟩

/-- The session that shows its refresh token is kept. -/
def changePassword (ctx : Context) (req : ChangePasswordRequest) : Answer × Ideal :=
  ideal.identified service visit ctx fun userID =>
    ideal.checked (validatePassword service.isLetter service.isDigit req.newPassword) <|
      match ideal.byID userID with
      | none => ideal.refused internalError
      | some profile =>
          if req.currentPassword = profile.password then
            (.ok .changePassword, (ideal.setPassword userID req.newPassword).revoke fun grant =>
              grant.userID = userID && !(req.refreshToken ≠ "" && grant.token = req.refreshToken))
          else ideal.refused invalidCredentials

def requestPasswordReset (email : String) : Answer × Ideal :=
  ideal.checked (validateEmail email) <|
    match ideal.byEmail email with
    | none => (.ok .requestPasswordReset, ideal)
    | some profile =>
        (.ok .requestPasswordReset,
          ideal.withCode email (some ⟨profile.id, otpCode visit.otp, 0, visit.time + resetLifetime⟩))

/-- Every guess before the expiry is counted, and the fifth one ends the code. -/
def verifyResetCode (req : VerifyResetCodeRequest) : Answer × Ideal :=
  ideal.checked (validateEmail req.email) <|
    match ideal.codes req.email with
    | none => ideal.refused invalidCode
    | some sent =>
        if visit.time < sent.expiresAt then
          if maxOTPAttempts ≤ sent.attempts + 1 then
            (ideal.withCode req.email none).refused ⟨.unauthenticated, "too many attempts"⟩
          else if req.otp = sent.code then
            (.ok (.verifyResetCode visit.token), ((ideal.withCode req.email none).draw visit).withPermit visit.token
              (some ⟨sent.userID, req.email, visit.time + resetLifetime⟩))
          else (ideal.withCode req.email (some { sent with attempts := sent.attempts + 1 })).refused invalidCode
        else ideal.refused invalidCode

def resetPassword (req : ResetPasswordRequest) : Answer × Ideal :=
  ideal.checked (validatePassword service.isLetter service.isDigit req.newPassword) <|
    match ideal.permits req.resetToken with
    | none => ideal.refused invalidResetToken
    | some permit =>
        if visit.time ≤ permit.expiresAt then
          let used := ideal.withPermit req.resetToken none
          (.ok .resetPassword, (used.setPassword permit.userID req.newPassword).revoke fun grant =>
            grant.userID = permit.userID)
        else ideal.refused invalidResetToken

def serve : Answer × Ideal :=
  match visit.request with
  | .register _ req => ideal.register service visit req
  | .login ctx req => ideal.login service visit ctx req
  | .validateToken token => ideal.validateToken service visit token
  | .refreshToken ctx req => ideal.refreshToken service visit ctx req
  | .logout _ token => ideal.logout token
  | .logoutAll ctx => ideal.logoutAll service visit ctx
  | .listSessions ctx => ideal.listSessions service visit ctx
  | .revokeSession ctx sessionID => ideal.revokeSession service db visit ctx sessionID
  | .changePassword ctx req => ideal.changePassword service visit ctx req
  | .requestPasswordReset _ email => ideal.requestPasswordReset visit email
  | .verifyResetCode _ req => ideal.verifyResetCode visit req
  | .resetPassword _ req => ideal.resetPassword service visit req

end Ideal
end AuthService
