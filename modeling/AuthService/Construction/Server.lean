/-
This file translates the server: the interceptor with the rate limits stands before every handler.
-/

import AuthService.Construction.RateLimit
import AuthService.Construction.World
import AuthService.Concurrency.Gate

namespace AuthService
open Interleaving Program

/-- The calls of a limiter: `time.Now` and the script on Redis. -/
inductive LimiterCommand where
  | time
  | eval (redisKey : String) (ttlSecs : Int)

@[reducible] def LimiterCommand.Reply : LimiterCommand → Type
  | .time => Time
  | .eval _ _ => Except StoreError Int

@[reducible] def LimiterPorts : Signature := ⟨LimiterCommand, LimiterCommand.Reply⟩

/-- An interceptor may end the request with a status error. -/
abbrev Interceptor (A : Type) := ExceptT Status (Program LimiterPorts) A

abbrev limiterTime : Interceptor Time := perform (S := LimiterPorts) .time

abbrev limiterEval (redisKey : String) (ttlSecs : Int) : Interceptor (Except StoreError Int) :=
  perform (S := LimiterPorts) (.eval redisKey ttlSecs)

/-- This is `Allow` as its two calls. -/
def Limiter.allowCalls (limiter : Limiter) (key : String) : Interceptor (Bool × Option StoreError) := do
  let now ← limiterTime
  match ← limiterEval (limiter.redisKey now key) limiter.ttlSecs with
  | .error error => return (true, some error)
  | .ok count => return (decide (count ≤ limiter.limit), none)

def tooManyRequests (globalLimiter : Limiter) : Status :=
  ⟨.resourceExhausted, "too many requests from your IP, try again in " ++ durationText globalLimiter.window⟩

def tooManyLogins (loginLimiter : Limiter) : Status :=
  ⟨.resourceExhausted, "too many login attempts from your IP, try again in " ++ durationText loginLimiter.window⟩

/-- This is the interceptor `RateLimit` as its calls. -/
def rateLimitCalls (globalLimiter loginLimiter : Limiter) (ctx : Context) (fullMethod : String) : Interceptor Unit := do
  let ip := extractIP ctx
  let global ← globalLimiter.allowCalls ip
  if refuses global then throw (tooManyRequests globalLimiter)
  if shortMethod fullMethod ∈ sensitiveMethods then
    let login ← loginLimiter.allowCalls ("auth:" ++ ip)
    if refuses login then throw (tooManyLogins loginLimiter)

/-- The names under which the handlers are registered. -/
def Request.fullMethod : Request → String
  | .register _ _ => "/api.AuthService/Register"
  | .login _ _ => "/api.AuthService/Login"
  | .validateToken _ => "/api.AuthService/ValidateToken"
  | .refreshToken _ _ => "/api.AuthService/RefreshToken"
  | .logout _ _ => "/api.AuthService/Logout"
  | .logoutAll _ => "/api.AuthService/LogoutAll"
  | .listSessions _ => "/api.AuthService/ListSessions"
  | .revokeSession _ _ => "/api.AuthService/RevokeSession"
  | .changePassword _ _ => "/api.AuthService/ChangePassword"
  | .requestPasswordReset _ _ => "/api.AuthService/RequestPasswordReset"
  | .verifyResetCode _ _ => "/api.AuthService/VerifyResetCode"
  | .resetPassword _ _ => "/api.AuthService/ResetPassword"

/-- The context that a handler reads. -/
def Request.context : Request → Option Context
  | .register ctx _ | .login ctx _ | .refreshToken ctx _ | .logout ctx _ | .logoutAll ctx | .listSessions ctx
  | .revokeSession ctx _ | .changePassword ctx _ | .requestPasswordReset ctx _ | .verifyResetCode ctx _
  | .resetPassword ctx _ => some ctx
  | .validateToken _ => none

/-- A request arrives with the context that its handler reads. -/
structure Arrival where
  ctx : Context
  request : Request
  same : ∀ ctx' ∈ request.context, ctx' = ctx

/-- The limits of `SecurityConfig`. -/
structure RateLimitConfig where
  globalRPM : Int
  loginRPM : Int

def RateLimitConfig.globalLimiter (config : RateLimitConfig) : Limiter := ⟨config.globalRPM, minute⟩

def RateLimitConfig.loginLimiter (config : RateLimitConfig) : Limiter := ⟨config.loginRPM, minute⟩

/-- A refused request ends with the status of the interceptor. -/
def RateLimitConfig.check (config : RateLimitConfig) (arrival : Arrival) : Program LimiterPorts (Option Answer) :=
  let limits := rateLimitCalls config.globalLimiter config.loginLimiter arrival.ctx arrival.request.fullMethod
  limits.run.bind fun result =>
    match result with
    | .error status => .done (some (.error status))
    | .ok () => .done none

/-- The script of a call that fails may still have been executed. -/
def execLimiter {store : SessionStore} : (command : LimiterCommand) → Choice → World store → Counters →
    Option (command.Reply × Counters)
  | .time, _, world, counters => some (world.now, counters)
  | .eval redisKey ttlSecs, choice, world, counters =>
      let counted := counters.luaIncrExpire ttlSecs world.now redisKey
      some (if choice.fails then (.error .other, if choice.lost then counters else counted.2)
        else (.ok counted.1, counted.2))

/-- The server: the service behind its interceptor. -/
def server (service : Service) (config : RateLimitConfig) (store : SessionStore) :
    System (Ports.sum LimiterPorts) (World store × Counters) Choice Tick Arrival Answer :=
  (system service store).gate Arrival.request config.check execLimiter

end AuthService
