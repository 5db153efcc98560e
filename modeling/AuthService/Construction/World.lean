/-
This file connects the handlers to the stores.
-/

import AuthService.Construction.Handlers
import AuthService.Construction.Memory
import AuthService.Construction.Postgres
import AuthService.Concurrency.Interleaving

namespace AuthService
open Interleaving

/-- The shared state of the service. The field `issued` holds the hashes of all the tokens that
`token.Generate` has returned, and `background` the goroutines that were started. -/
structure World (store : SessionStore) where
  users : UserTable
  sessions : store.State
  cache : String → Option (Expiring CachedSession)
  otps : String → Option (Expiring OTPRecord)
  resetTokens : String → Option (Expiring ResetTokenRecord)
  guard : GuardState
  issued : List String
  background : List BackgroundCommand
  now : Time

/-- The service starts with empty stores. -/
def World.empty (store : SessionStore) (now : Time) : World store where
  users := .empty
  sessions := store.empty
  cache := fun _ => none
  otps := fun _ => none
  resetTokens := fun _ => none
  guard := .empty
  issued := []
  background := []
  now

/-- The six digits of `otp.Generate`. -/
def otpCode (drawn : Nat) : String :=
  let n := drawn % 1000000
  String.ofList ([n / 100000, n / 10000, n / 1000, n / 100, n / 10, n].map fun k => Nat.digitChar (k % 10))

section
variable (service : Service) {store : SessionStore}

/-- The session cache on Redis. The reply and the effect of a write are independent, and a write
whose lifetime is not positive returns without a command. -/
def execCache : (command : CacheCommand) → Choice → World store → command.Reply × World store
  | .set tokenHash session ttl, choice, world =>
      if ttl ≤ 0 then (.ok (), world)
      else
        (if choice.fails then .error .other else .ok (),
          if choice.lost then world else { world with
            cache := Function.update world.cache tokenHash (some ⟨session, redisExpiry world.now ttl⟩) })
  | .get tokenHash, choice, world =>
      (if choice.fails then .error .other
        else match lookup world.cache world.now tokenHash with
          | some session => .ok session
          | none => .error .other, world)
  | .delete tokenHash, choice, world =>
      (if choice.fails then .error .other else .ok (),
        if choice.lost then world else { world with cache := Function.update world.cache tokenHash none })

/-- The script increments the counter inside the stored record and keeps its remaining lifetime. -/
def incrOTPAttempts (email : String) (world : World store) : Except StoreError Int × World store :=
  match world.otps (service.hash email) with
  | none => (.error .resetCodeNotFound, world)
  | some entry =>
      match entry.expiresAt with
      | none => (.error .resetCodeNotFound, world)
      | some expiry =>
          if expiry ≤ world.now then (.error .resetCodeNotFound, world)
          else
            let counted := { entry.value with attempts := entry.value.attempts + 1 }
            (.ok counted.attempts, { world with
              otps := Function.update world.otps (service.hash email) (some ⟨counted, some expiry⟩) })

/-- The reset store on Redis. Codes and tokens have separate key prefixes. -/
def execResets : (command : ResetCommand) → Choice → World store → command.Reply × World store
  | .saveOTP userID email otpHash ttl, choice, world =>
      if choice.fails then (.error .other, world)
      else (.ok (), { world with
        otps := Function.update world.otps (service.hash email)
          (some ⟨⟨userID, otpHash, 0⟩, redisExpiry world.now ttl⟩) })
  | .getOTP email, choice, world =>
      (if choice.fails then .error .other
        else match lookup world.otps world.now (service.hash email) with
          | some record => .ok record
          | none => .error .resetCodeNotFound, world)
  | .incrOTPAttempts email, choice, world =>
      if choice.fails then (.error .other, world) else incrOTPAttempts service email world
  | .deleteOTP email, choice, world =>
      if choice.fails then (.error .other, world)
      else (.ok (), { world with otps := Function.update world.otps (service.hash email) none })
  | .saveResetToken tokenHash userID email ttl, choice, world =>
      if choice.fails then (.error .other, world)
      else (.ok (), { world with
        resetTokens := Function.update world.resetTokens tokenHash
          (some ⟨⟨userID, email⟩, redisExpiry world.now ttl⟩) })
  | .getResetToken tokenHash, choice, world =>
      (if choice.fails then .error .other
        else match lookup world.resetTokens world.now tokenHash with
          | some record => .ok record
          | none => .error .resetTokenNotFound, world)
  | .deleteResetToken tokenHash, choice, world =>
      if choice.fails then (.error .other, world)
      else (.ok (), { world with resetTokens := Function.update world.resetTokens tokenHash none })

def execGuard (config : GuardConfig) : (command : GuardCommand) → Choice → World store →
    command.Reply × World store
  | .isLocked email, choice, world =>
      let result := world.guard.isLocked (choice.down 0) world.now email
      (.ok result.1, { world with guard := result.2 })
  | .recordFailure email, choice, world =>
      let result := world.guard.recordFailure config choice.down world.now email
      (result.1, { world with guard := result.2 })
  | .reset email, choice, world =>
      ((), { world with guard := world.guard.reset (choice.down 0) email })

/-- A generated token has a hash that was never issued before. -/
def execRandom : RandomCommand → Choice → World store → Option (Option String × World store)
  | .token, choice, world =>
      if choice.fails then some (none, world)
      else if service.hash choice.token ∈ world.issued then none
      else some (some choice.token, { world with issued := service.hash choice.token :: world.issued })
  | .otp, choice, world => some (if choice.fails then none else some (otpCode choice.otp), world)
  | .salt, choice, world => some (if choice.fails then none else some choice.salt, world)

def execTokens : (command : TokenCommand) → Choice → World store → command.Reply
  | .generate claims, choice, world => if choice.fails then none else some (service.sign claims world.now)
  | .validate token, _, world => service.validate token world.now

/-- Without an audit store no goroutine is started for an audit entry. -/
def execBackground (command : BackgroundCommand) (world : World store) : World store :=
  match command with
  | .logAudit _ =>
      if service.auditStore then { world with background := command :: world.background } else world
  | .fireHook _ => { world with background := command :: world.background }

/-- Each port call is one atomic step. -/
def exec : (command : Command) → Choice → World store → Option (command.Reply × World store)
  | .users command, choice, world =>
      (UserTable.exec command choice world.now world.users).map fun result =>
        (result.1, { world with users := result.2 })
  | .sessions command, choice, world =>
      (store.exec command choice world.users world.now world.sessions).map fun result =>
        (result.1, { world with sessions := result.2 })
  | .cache command, choice, world => some (execCache command choice world)
  | .resets command, choice, world => some (execResets service command choice world)
  | .guard command, choice, world =>
      service.bruteGuard.map fun config => execGuard config command choice world
  | .random command, choice, world => execRandom service command choice world
  | .tokens command, choice, world => some (execTokens service command choice world, world)
  | .background command, _, world => some ((), execBackground service command world)
  | .clock, _, world => some (world.now, world)

end

/-- The surroundings set the clock and drop cache entries. -/
inductive Tick where
  | clock (time : Time)
  | evict (tokenHash : String)

def drift {store : SessionStore} : Tick → World store → Option (World store)
  | .clock time, world => some { world with now := time }
  | .evict tokenHash, world => some { world with cache := Function.update world.cache tokenHash none }

/-- The concurrent service: any number of requests whose port calls interleave. -/
def system (service : Service) (store : SessionStore) :
    System Ports (World store) Choice Tick Request Answer where
  handler := fun request => (handle service request).run
  exec := exec service
  drift := drift

/-- The two backends for the sessions. -/
inductive Backend where
  | memory
  | postgres (db : Database)

def Backend.store : Backend → SessionStore
  | .memory => AuthService.memory
  | .postgres db => AuthService.postgres db

end AuthService
