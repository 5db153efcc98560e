/-
This file translates the deployed server, whose cache, reset store, guard and limiters share one Redis.
-/

import AuthService.Construction.RedisResets
import AuthService.Construction.Server

namespace AuthService
open Interleaving

/-- The texts of all values in Redis, which are read back as they were written. -/
structure Texts extends JSON where
  marshalSession : CachedSession → String
  unmarshalSession : String → Option CachedSession
  number : Int → String
  readNumber : String → Option Int
  unmarshal_session : ∀ session, unmarshalSession (marshalSession session) = some session
  read_number : ∀ value, readNumber (number value) = some value

def cacheKey (tokenHash : String) : String := "refresh:" ++ tokenHash

def attemptsKey (email : String) : String := "bf:attempts:" ++ email

def lockedKey (email : String) : String := "bf:locked:" ++ email

/-- A command that reads or changes nothing in Redis works on the rest of the state. The field `localEntries` is
the fallback of the guard. -/
structure RedisWorld (store : SessionStore) where
  users : UserTable
  sessions : store.State
  redis : RedisDB
  localEntries : String → Option LocalEntry
  issued : List String
  background : List BackgroundCommand
  now : Time

namespace RedisDB

/-- This is EXPIRE on a new text. A lifetime that is not positive deletes the key. -/
def expire (seconds : Int) (now : Time) (text : String) : Option (Expiring String) :=
  if seconds ≤ 0 then none else some ⟨text, some (now + seconds * second)⟩

/-- The script of the guard and of the limiters. It gives no count when the text is not a number. -/
def luaIncrExpire (texts : Texts) (seconds : Int) (now : Time) (key : String) (db : RedisDB) : Option Int × RedisDB :=
  match (db key).filter fun entry => entry.visible now with
  | none => (some 1, Function.update db key (expire seconds now (texts.number 1)))
  | some entry =>
      match texts.readNumber entry.value with
      | none => (none, db)
      | some value =>
          (some (value + 1), Function.update db key
            (if value + 1 = 1 then expire seconds now (texts.number 1)
              else some ⟨texts.number (value + 1), entry.expiresAt⟩))

end RedisDB

namespace RedisWorld
variable {store : SessionStore}

def empty (store : SessionStore) (now : Time) : RedisWorld store where
  users := .empty
  sessions := store.empty
  redis := .empty
  localEntries := fun _ => none
  issued := []
  background := []
  now

def getLocalEntry (world : RedisWorld store) (email : String) : LocalEntry :=
  (world.localEntries email).getD LocalEntry.empty

def setLocalEntry (world : RedisWorld store) (email : String) (entry : LocalEntry) : RedisWorld store :=
  { world with localEntries := Function.update world.localEntries email (some entry) }

section
variable (texts : Texts)

def execCache : (command : CacheCommand) → Choice → RedisWorld store → command.Reply × RedisWorld store
  | .set tokenHash session ttl, choice, world =>
      if ttl ≤ 0 then (.ok (), world)
      else
        (if choice.fails then .error .other else .ok (),
          if choice.lost then world else { world with
            redis := world.redis.set world.now (cacheKey tokenHash) (texts.marshalSession session) ttl })
  | .get tokenHash, choice, world =>
      (if choice.fails then .error .other
        else match world.redis.get world.now (cacheKey tokenHash) with
          | none => .error .other
          | some data =>
              match texts.unmarshalSession data with
              | none => .error .other
              | some session => .ok session, world)
  | .delete tokenHash, choice, world =>
      (if choice.fails then .error .other else .ok (),
        if choice.lost then world else { world with redis := world.redis.del (cacheKey tokenHash) })

/-- A call on the reset store that fails has no effect. -/
def failed : (command : ResetCommand) → command.Reply
  | .saveOTP _ _ _ _ | .getOTP _ | .incrOTPAttempts _ | .deleteOTP _ | .saveResetToken _ _ _ _ | .getResetToken _
  | .deleteResetToken _ => .error .other

def execResets (service : Service) (command : ResetCommand) (choice : Choice) (world : RedisWorld store) :
    command.Reply × RedisWorld store :=
  if choice.fails then (failed command, world)
  else
    let result := ResetCache.exec service texts.toJSON command world.now world.redis
    (result.1, { world with redis := result.2 })

/-- The flags say which commands fail. A script without a count counts as a failure. -/
def recordFailure (config : GuardConfig) (down : Nat → Bool) (email : String) (world : RedisWorld store) :
    Except StoreError Bool × RedisWorld store :=
  let counted := world.redis.luaIncrExpire texts (wholeSeconds config.window) world.now (attemptsKey email)
  match if down 0 then none else counted.1 with
  | none =>
      let result := (world.getLocalEntry email).recordFailure config world.now
      (.ok result.1, world.setLocalEntry email result.2)
  | some count =>
      if config.maxAttempts ≤ count then
        if down 1 then (.error .other, { world with redis := counted.2 })
        else
          let locked := counted.2.set world.now (lockedKey email) (texts.number 1) config.lockoutTTL
          (.ok true, { world with redis := if down 2 then locked else locked.del (attemptsKey email) })
      else (.ok false, { world with redis := counted.2 })

def execGuard (config : GuardConfig) : (command : GuardCommand) → Choice → RedisWorld store →
    command.Reply × RedisWorld store
  | .isLocked email, choice, world =>
      if choice.down 0 then
        let entry := world.getLocalEntry email
        (.ok (entry.isLocked world.now), world.setLocalEntry email entry)
      else (.ok (world.redis.get world.now (lockedKey email)).isSome, world)
  | .recordFailure email, choice, world => recordFailure texts config choice.down email world
  | .reset email, choice, world =>
      ((), { world with
        redis := if choice.down 0 then world.redis else (world.redis.del (attemptsKey email)).del (lockedKey email)
        localEntries := Function.update world.localEntries email none })

/-- The part of the state outside Redis. -/
def outside (world : RedisWorld store) : World store :=
  { World.empty store world.now with
    users := world.users
    sessions := world.sessions
    issued := world.issued
    background := world.background }

/-- The other calls work on the part of the state outside Redis. -/
def execOutside (service : Service) (command : Command) (choice : Choice) (world : RedisWorld store) :
    Option (command.Reply × RedisWorld store) :=
  (exec service command choice world.outside).map fun result =>
    (result.1, { world with
      users := result.2.users
      sessions := result.2.sessions
      issued := result.2.issued
      background := result.2.background })

def execService (service : Service) : (command : Command) → Choice → RedisWorld store →
    Option (command.Reply × RedisWorld store)
  | .cache command, choice, world => some (execCache texts command choice world)
  | .resets command, choice, world => some (execResets texts service command choice world)
  | .guard command, choice, world =>
      service.bruteGuard.map fun config => execGuard texts config command choice world
  | command, choice, world => execOutside service command choice world

/-- The script of a call that fails may still have been executed. -/
def execLimiter : (command : LimiterCommand) → Choice → RedisWorld store → command.Reply × RedisWorld store
  | .time, _, world => (world.now, world)
  | .eval redisKey ttlSecs, choice, world =>
      let counted := world.redis.luaIncrExpire texts ttlSecs world.now redisKey
      match if choice.fails then none else counted.1 with
      | none => (.error .other, if choice.lost then world else { world with redis := counted.2 })
      | some count => (.ok count, { world with redis := counted.2 })

end

def drift : Tick → RedisWorld store → Option (RedisWorld store)
  | .clock time, world => some { world with now := time }
  | .evict tokenHash, world => some { world with redis := world.redis.del (cacheKey tokenHash) }

end RedisWorld

/-- The server with one Redis. -/
def redisServer (service : Service) (texts : Texts) (limits : RateLimitConfig) (store : SessionStore) :
    System (Ports.sum LimiterPorts) (RedisWorld store) Choice Tick Arrival Answer where
  handler := (server service limits store).handler
  exec := fun command choice world =>
    match command with
    | .inl command => RedisWorld.execService texts service command choice world
    | .inr command => some (RedisWorld.execLimiter texts command choice world)
  drift := RedisWorld.drift

end AuthService
