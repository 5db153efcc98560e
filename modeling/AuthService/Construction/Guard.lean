/-
This file translates the brute-force guard with its Redis keys and its local fallback.
-/

import AuthService.Construction.Domain
import AuthService.Encoding.Binary
import Mathlib.Logic.Function.Basic

namespace AuthService

/-- A stored value with its expiry. A key without an expiry stays until it is deleted. -/
structure Expiring (V : Type) where
  value : V
  expiresAt : Option Time

/-- A key is visible until its expiry has passed. -/
def Expiring.visible {V : Type} (entry : Expiring V) (now : Time) : Bool :=
  match entry.expiresAt with
  | some expiry => decide (now ≤ expiry)
  | none => true

/-- A read skips an expired entry. -/
def lookup {V : Type} (store : String → Option (Expiring V)) (now : Time) (key : String) : Option V :=
  match store key with
  | some entry => if entry.visible now then some entry.value else none
  | none => none

/-- Redis keeps lifetimes in whole milliseconds, and a client sends at least one.
A lifetime that is not positive sets no expiry. -/
def redisExpiry (now : Time) (ttl : Duration) : Option Time :=
  if ttl ≤ 0 then none else some (now + max millisecond (ttl / millisecond * millisecond))

/-- The whole part of `Seconds()`, which adds the whole seconds and the rest of a duration as doubles. -/
def wholeSeconds (duration : Duration) : Int :=
  duration.sign * Binary.wholeOfSum 53 1074 (duration.natAbs / 1000000000) (duration.natAbs % 1000000000) 1000000000

structure GuardConfig where
  maxAttempts : Int
  window : Duration
  lockoutTTL : Duration
deriving DecidableEq

structure LocalEntry where
  count : Int
  windowEnd : Time
  lockedUntil : Time
deriving DecidableEq

/-- The zero `time.Time` is the first instant of the year one. -/
def zeroTime : Time := -62135596800 * second

def LocalEntry.empty : LocalEntry := ⟨0, zeroTime, zeroTime⟩

def LocalEntry.isLocked (entry : LocalEntry) (now : Time) : Bool := decide (now < entry.lockedUntil)

def LocalEntry.recordFailure (config : GuardConfig) (now : Time) (entry : LocalEntry) :
    Bool × LocalEntry :=
  let entry := if entry.windowEnd < now then
      { entry with count := 0, windowEnd := now + config.window } else entry
  let entry := { entry with count := entry.count + 1 }
  if config.maxAttempts ≤ entry.count then
    (true, { entry with lockedUntil := now + config.lockoutTTL, count := 0 })
  else (false, entry)

/-- The guard keeps two Redis keys for each address and a local entry for outages. -/
structure GuardState where
  attempts : String → Option (Expiring Int)
  locked : String → Option (Expiring Unit)
  localEntries : String → Option LocalEntry

def GuardState.empty : GuardState := ⟨fun _ => none, fun _ => none, fun _ => none⟩

namespace GuardState

def getLocalEntry (state : GuardState) (email : String) : LocalEntry :=
  (state.localEntries email).getD LocalEntry.empty

def setLocalEntry (state : GuardState) (email : String) (entry : LocalEntry) : GuardState :=
  { state with localEntries := Function.update state.localEntries email (some entry) }

/-- The flag says that Redis does not answer. -/
def isLocked (down : Bool) (now : Time) (email : String) (state : GuardState) : Bool × GuardState :=
  if down then
    let entry := state.getLocalEntry email
    (entry.isLocked now, state.setLocalEntry email entry)
  else ((lookup state.locked now email).isSome, state)

/-- The script increments the counter and sets its lifetime on the first increment. -/
def luaIncrExpire (seconds : Int) (now : Time) (email : String) (state : GuardState) :
    Int × GuardState :=
  match state.attempts email with
  | some entry =>
      if entry.visible now then
        (entry.value + 1, { state with
          attempts := Function.update state.attempts email (some { entry with value := entry.value + 1 }) })
      else first
  | none => first
where
  first : Int × GuardState :=
    (1, { state with
      attempts := Function.update state.attempts email
        (if seconds ≤ 0 then none else some ⟨1, some (now + seconds * second)⟩) })

/-- The three flags say which of the commands `EVAL`, `SET` and `DEL` fail. -/
def recordFailure (config : GuardConfig) (down : Nat → Bool) (now : Time) (email : String)
    (state : GuardState) : Except StoreError Bool × GuardState :=
  if down 0 then
    let result := (state.getLocalEntry email).recordFailure config now
    (.ok result.1, state.setLocalEntry email result.2)
  else
    let counted := state.luaIncrExpire (wholeSeconds config.window) now email
    if config.maxAttempts ≤ counted.1 then
      if down 1 then (.error .other, counted.2)
      else
        let locked := { counted.2 with
          locked := Function.update counted.2.locked email (some ⟨(), redisExpiry now config.lockoutTTL⟩) }
        if down 2 then (.ok true, locked)
        else (.ok true, { locked with attempts := Function.update locked.attempts email none })
    else (.ok false, counted.2)

def reset (down : Bool) (email : String) (state : GuardState) : GuardState :=
  let state := if down then state else
    { state with
      attempts := Function.update state.attempts email none
      locked := Function.update state.locked email none }
  { state with localEntries := Function.update state.localEntries email none }

/-- The flags say whether the lock check and the counter read find Redis down. -/
def attemptsRemaining (config : GuardConfig) (down : Nat → Bool) (now : Time) (email : String)
    (state : GuardState) : Int × GuardState :=
  let locked := state.isLocked (down 0) now email
  if locked.1 then (0, locked.2)
  else if down 1 then
    let entry := locked.2.getLocalEntry email
    (max (config.maxAttempts - entry.count) 0, locked.2.setLocalEntry email entry)
  else
    match lookup locked.2.attempts now email with
    | none => (config.maxAttempts, locked.2)
    | some count => (max (config.maxAttempts - count) 0, locked.2)

end GuardState
end AuthService
