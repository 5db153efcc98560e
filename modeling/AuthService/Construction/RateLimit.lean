/-
This file translates the fixed-window rate limiter and the interceptor that applies it.
-/

import AuthService.Construction.Guard
import AuthService.Construction.Input
import Mathlib.Algebra.Group.Nat.Defs

namespace AuthService

/-- The counters of all limiters are kept in one Redis. -/
abbrev Counters := String → Option (Expiring Int)

namespace Counters

def empty : Counters := fun _ => none

/-- The script increments the counter and sets its lifetime on the first increment. -/
def luaIncrExpire (seconds : Int) (now : Time) (key : String) (counters : Counters) : Int × Counters :=
  match counters key with
  | some entry =>
      if entry.visible now then
        (entry.value + 1, Function.update counters key (some { entry with value := entry.value + 1 }))
      else first
  | none => first
where
  first : Int × Counters :=
    (1, Function.update counters key (if seconds ≤ 0 then none else some ⟨1, some (now + seconds * second)⟩))

end Counters

/-- This is `time.Truncate`, which rounds down to a multiple of the duration since the zero time. -/
def truncate (time : Time) (d : Duration) : Time := if d ≤ 0 then time else time - (time - zeroTime) % d

/-- This is `time.Unix`, the whole seconds since the epoch. -/
def unixSeconds (time : Time) : Int := time / second

/-- Durations are multiplied as 64-bit integers. -/
def int64 (value : Int) : Int := value.bmod (2 ^ 64)

structure Limiter where
  limit : Int
  window : Duration
deriving DecidableEq

/-- The Redis key of a counter. -/
def counterKey (key : String) (windowStart : Int) : String := "rl:" ++ key ++ ":" ++ toString windowStart

namespace Limiter

def redisKey (limiter : Limiter) (now : Time) (key : String) : String :=
  counterKey key (unixSeconds (truncate now limiter.window))

def ttlSecs (limiter : Limiter) : Int := (int64 (limiter.window * 2)).tdiv second

/-- The flag says that Redis does not answer. Then the limiter lets the request through and reports an error. -/
def allow (limiter : Limiter) (down : Bool) (now : Time) (key : String) (counters : Counters) :
    (Bool × Option StoreError) × Counters :=
  if down then ((true, some .other), counters)
  else
    let counted := counters.luaIncrExpire limiter.ttlSecs now (limiter.redisKey now key)
    ((decide (counted.1 ≤ limiter.limit), none), counted.2)

end Limiter

/-- The methods with the stricter limit. -/
def sensitiveMethods : List String :=
  ["Login", "Register", "ChangePassword", "RequestPasswordReset", "VerifyResetCode", "ResetPassword"]

/-- The name of the procedure in a full method. -/
def shortMethod (full : String) : String := String.ofList (full.toList.reverse.takeWhile (· != '/')).reverse

/-- The fraction of a number with the given count of decimals, without trailing zeros. -/
def fractionText (value decimals : Nat) : String :=
  let digits := (toString (10 ^ decimals + value % 10 ^ decimals)).toList.drop 1
  match (digits.reverse.dropWhile (· == '0')).reverse with
  | [] => ""
  | digits => "." ++ String.ofList digits

/-- A number with a fraction, followed by its unit. -/
def unitText (value decimals : Nat) (unit : String) : String :=
  toString (value / 10 ^ decimals) ++ fractionText value decimals ++ unit

/-- This is the text that the format `%v` gives for a duration. -/
def durationText (d : Duration) : String :=
  let size := d.natAbs
  let text :=
    if size = 0 then "0s"
    else if size < 1000 then unitText size 0 "ns"
    else if size < 1000000 then unitText size 3 "µs"
    else if size < 1000000000 then unitText size 6 "ms"
    else
      let seconds := size / 1000000000
      let minutes := seconds / 60
      let hours := minutes / 60
      (if hours = 0 then "" else toString hours ++ "h") ++
        (if minutes = 0 then "" else toString (minutes % 60) ++ "m") ++
        toString (seconds % 60) ++ fractionText size 9 ++ "s"
  if d < 0 then "-" ++ text else text

example : durationText minute = "1m0s" := by decide

/-- A request at the interceptor, with the times of the two checks. -/
structure Incoming where
  ctx : Context
  fullMethod : String
  time : Time
  loginTime : Time

/-- A check that failed lets the request through. -/
def refuses (result : Bool × Option StoreError) : Bool := result.2.isNone && !result.1

/-- This is the interceptor `RateLimit`. The flags say which of the two checks find Redis down. -/
def rateLimit (globalLimiter loginLimiter : Limiter) (down : Nat → Bool) (incoming : Incoming) (counters : Counters) :
    Except Status Unit × Counters :=
  let ip := extractIP incoming.ctx
  let global := globalLimiter.allow (down 0) incoming.time ip counters
  if refuses global.1 then
    (.error ⟨.resourceExhausted,
      "too many requests from your IP, try again in " ++ durationText globalLimiter.window⟩, global.2)
  else if shortMethod incoming.fullMethod ∈ sensitiveMethods then
    let login := loginLimiter.allow (down 1) incoming.loginTime ("auth:" ++ ip) global.2
    if refuses login.1 then
      (.error ⟨.resourceExhausted,
        "too many login attempts from your IP, try again in " ++ durationText loginLimiter.window⟩, login.2)
    else (.ok (), login.2)
  else (.ok (), global.2)

end AuthService
