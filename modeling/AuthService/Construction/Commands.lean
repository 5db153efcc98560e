/-
This file lists the calls that the handlers make on the injected ports.
-/

import AuthService.Construction.Input
import AuthService.Construction.Guard
import AuthService.Concurrency.Program

namespace AuthService
open Interleaving

inductive UserCommand where
  | create (email passwordHash : String)
  | getByEmail (email : String)
  | getByID (id : String)
  | updatePasswordHash (userID passwordHash : String)

@[reducible] def UserCommand.Reply : UserCommand → Type
  | .create _ _ => Except StoreError User
  | .getByEmail _ => Except StoreError User
  | .getByID _ => Except StoreError User
  | .updatePasswordHash _ _ => Except StoreError Unit

inductive SessionCommand where
  | create (session : Session)
  | getByTokenHash (tokenHash : String)
  | deleteByID (sessionID userID : String)
  | deleteByTokenHash (tokenHash : String)
  | rotateToken (oldHash : String) (session : Session)
  | deleteAllByUserID (userID : String)
  | deleteAllByUserIDExcept (userID keepTokenHash : String)
  | listByUserID (userID : String)

/-- Creation fills in the identifier and the times of the session that it was given.
A bulk delete returns the hashes that it read together with its error. -/
@[reducible] def SessionCommand.Reply : SessionCommand → Type
  | .create _ => Except StoreError Session
  | .getByTokenHash _ => Except StoreError Session
  | .deleteByID _ _ => Except StoreError String
  | .deleteByTokenHash _ => Except StoreError Unit
  | .rotateToken _ _ => Except StoreError Session
  | .deleteAllByUserID _ => List String × Option StoreError
  | .deleteAllByUserIDExcept _ _ => List String × Option StoreError
  | .listByUserID _ => Except StoreError (List Session)

inductive CacheCommand where
  | set (tokenHash : String) (session : CachedSession) (ttl : Duration)
  | get (tokenHash : String)
  | delete (tokenHash : String)

@[reducible] def CacheCommand.Reply : CacheCommand → Type
  | .set _ _ _ => Except StoreError Unit
  | .get _ => Except StoreError CachedSession
  | .delete _ => Except StoreError Unit

inductive ResetCommand where
  | saveOTP (userID email otpHash : String) (ttl : Duration)
  | getOTP (email : String)
  | incrOTPAttempts (email : String)
  | deleteOTP (email : String)
  | saveResetToken (tokenHash userID email : String) (ttl : Duration)
  | getResetToken (tokenHash : String)
  | deleteResetToken (tokenHash : String)

@[reducible] def ResetCommand.Reply : ResetCommand → Type
  | .saveOTP _ _ _ _ => Except StoreError Unit
  | .getOTP _ => Except StoreError OTPRecord
  | .incrOTPAttempts _ => Except StoreError Int
  | .deleteOTP _ => Except StoreError Unit
  | .saveResetToken _ _ _ _ => Except StoreError Unit
  | .getResetToken _ => Except StoreError ResetTokenRecord
  | .deleteResetToken _ => Except StoreError Unit

inductive GuardCommand where
  | isLocked (email : String)
  | recordFailure (email : String)
  | reset (email : String)

@[reducible] def GuardCommand.Reply : GuardCommand → Type
  | .isLocked _ => Except StoreError Bool
  | .recordFailure _ => Except StoreError Bool
  | .reset _ => Unit

/-- The random sources: `token.Generate`, `otp.Generate` and the salt of `password.Hash`. -/
inductive RandomCommand where
  | token
  | otp
  | salt

/-- The access-token manager. -/
inductive TokenCommand where
  | generate (claims : Claims)
  | validate (token : String)

@[reducible] def TokenCommand.Reply : TokenCommand → Type
  | .generate _ => Option String
  | .validate _ => Option Claims

/-- The calls that start a background goroutine. -/
inductive BackgroundCommand where
  | logAudit (event : AuditEvent)
  | fireHook (event : HookEvent)

inductive Command where
  | users (command : UserCommand)
  | sessions (command : SessionCommand)
  | cache (command : CacheCommand)
  | resets (command : ResetCommand)
  | guard (command : GuardCommand)
  | random (command : RandomCommand)
  | tokens (command : TokenCommand)
  | background (command : BackgroundCommand)
  | clock

@[reducible] def Command.Reply : Command → Type
  | .users command => command.Reply
  | .sessions command => command.Reply
  | .cache command => command.Reply
  | .resets command => command.Reply
  | .guard command => command.Reply
  | .random _ => Option String
  | .tokens command => command.Reply
  | .background _ => Unit
  | .clock => Time

/-- The signature of the ports. -/
@[reducible] def Ports : Signature := ⟨Command, Command.Reply⟩

/-- A handler performs port calls and may return early with a status error. -/
abbrev Handler (A : Type) := ExceptT Status (Program Ports) A

/-- The statements of the transaction in `RotateToken`. -/
inductive RotateStatement where
  | begin
  | delete
  | insert
  | commit
deriving DecidableEq

/-- A choice resolves what one call leaves open. A call that fails reports an error that is not
one of the named ones. A lost cache call has no effect, whatever it reports. The remaining
fields are the drawn values, the failing statement of a rotation, the hashes that a failing
bulk delete had read, the iteration order of a map, and the Redis commands that fail. -/
structure Choice where
  fails : Bool := false
  lost : Bool := false
  id : String := ""
  token : String := ""
  otp : Nat := 0
  salt : String := ""
  statement : Option RotateStatement := none
  hashes : List String := []
  order : List String := []
  down : Nat → Bool := fun _ => false

end AuthService
