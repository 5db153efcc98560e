/-
This file translates the models, the ports and the messages of the service.
-/

import Mathlib.Data.List.Basic
import Mathlib.Tactic.Common

namespace AuthService

/-- Instants count nanoseconds from the Unix epoch. -/
abbrev Time := Int

/-- Durations count nanoseconds. -/
abbrev Duration := Int

def millisecond : Duration := 1000000

def second : Duration := 1000000000

def minute : Duration := 60 * second

structure User where
  id : String
  email : String
  passwordHash : String
  createdAt : Time
  updatedAt : Time
deriving DecidableEq

structure Session where
  id : String
  userID : String
  userEmail : String
  tokenHash : String
  deviceID : String
  userAgent : String
  ipAddress : String
  expiresAt : Time
  lastUsedAt : Time
  createdAt : Time
deriving DecidableEq

/-- The cached copy of a session that the refresh path reads first. -/
structure CachedSession where
  sessionID : String
  userID : String
  userEmail : String
  deviceID : String
  expiresAt : Time
deriving DecidableEq

structure OTPRecord where
  userID : String
  otpHash : String
  attempts : Int
deriving DecidableEq

structure ResetTokenRecord where
  userID : String
  email : String
deriving DecidableEq

structure Claims where
  userID : String
  email : String
  roles : List String
deriving DecidableEq

/-- The named errors of the ports. Every other error of a store is `other`. -/
inductive StoreError where
  | userNotFound
  | userAlreadyExists
  | sessionNotFound
  | resetCodeNotFound
  | resetTokenNotFound
  | other
deriving DecidableEq

inductive AuditEventType where
  | register
  | loginSuccess
  | loginFailure
  | loginBlocked
  | logout
  | logoutAll
  | tokenRefresh
  | sessionRevoke
  | passwordChange
  | passwordResetRequest
  | passwordReset
deriving DecidableEq

structure AuditEvent where
  userID : Option String
  eventType : AuditEventType
  ipAddress : String
  userAgent : String
  metadata : List (String × String)
deriving DecidableEq

structure HookEvent where
  eventType : AuditEventType
  userID : String
  userEmail : String
  ipAddress : String
  userAgent : String
  metadata : List (String × String)
deriving DecidableEq

inductive Code where
  | invalidArgument
  | notFound
  | alreadyExists
  | resourceExhausted
  | internal
  | unauthenticated
deriving DecidableEq

/-- A gRPC status error. -/
structure Status where
  code : Code
  message : String
deriving DecidableEq

def internalError : Status := ⟨.internal, "internal error"⟩

/-- An incoming context carries the request metadata and the peer address when they are known. -/
structure Context where
  metadata : Option (String → List String)
  peer : Option String

structure RegisterRequest where
  email : String
  password : String

structure LoginRequest where
  email : String
  password : String
  deviceID : String

structure RefreshTokenRequest where
  refreshToken : String
  deviceID : String

structure ChangePasswordRequest where
  currentPassword : String
  newPassword : String
  refreshToken : String

structure VerifyResetCodeRequest where
  email : String
  otp : String

structure ResetPasswordRequest where
  resetToken : String
  newPassword : String

/-- A request names its procedure and carries its context and its message. -/
inductive Request where
  | register (ctx : Context) (req : RegisterRequest)
  | login (ctx : Context) (req : LoginRequest)
  | validateToken (token : String)
  | refreshToken (ctx : Context) (req : RefreshTokenRequest)
  | logout (ctx : Context) (refreshToken : String)
  | logoutAll (ctx : Context)
  | listSessions (ctx : Context)
  | revokeSession (ctx : Context) (sessionID : String)
  | changePassword (ctx : Context) (req : ChangePasswordRequest)
  | requestPasswordReset (ctx : Context) (email : String)
  | verifyResetCode (ctx : Context) (req : VerifyResetCodeRequest)
  | resetPassword (ctx : Context) (req : ResetPasswordRequest)

structure SessionInfo where
  sessionID : String
  deviceID : String
  userAgent : String
  ipAddress : String
  createdAt : Int
  lastUsedAt : Int
deriving DecidableEq

inductive Response where
  | register (userID : String)
  | login (accessToken refreshToken : String)
  | validateToken (valid : Bool) (userID : String) (roles : List String)
  | refreshToken (accessToken refreshToken : String)
  | logout
  | logoutAll (sessionsRevoked : BitVec 32)
  | listSessions (sessions : List SessionInfo)
  | revokeSession
  | changePassword
  | requestPasswordReset
  | verifyResetCode (resetToken : String)
  | resetPassword
deriving DecidableEq

/-- An answer is a response or a status error. -/
abbrev Answer := Except Status Response

end AuthService
