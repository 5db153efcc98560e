/-
This file proves that the server behaves like the service on the requests that pass the rate limits.
-/

import AuthService.Construction.Server
import AuthService.Proof.SingleUse

namespace AuthService
open Interleaving Program System

/-- The exchanges of the limiters for one request with the newest first. -/
abbrev LimiterPast := List (Exchange LimiterPorts)

/-- The script runs under a key of the window in which the clock was read just before. -/
def LimiterMay (past : LimiterPast) : LimiterCommand → Prop
  | .time => True
  | .eval redisKey ttlSecs => ∃ key now rest, past = ⟨.time, now⟩ :: rest ∧
      redisKey = counterKey key (unixSeconds (truncate now minute)) ∧ ttlSecs = 120

/-- Redis counted the call within the limit or gave no count. -/
def Passed (limiter : Limiter) (key : String) (past : LimiterPast) : Prop :=
  ∃ now reply, (⟨.eval (limiter.redisKey now key) limiter.ttlSecs, reply⟩ : Exchange LimiterPorts) ∈ past ∧
    ∀ count, reply = .ok count → count ≤ limiter.limit

theorem Passed.mono {limiter : Limiter} {key : String} {past later : LimiterPast} (passed : Passed limiter key past)
    (extended : past ⊆ later) : Passed limiter key later := by
  obtain ⟨now, reply, member, within⟩ := passed
  exact ⟨now, reply, extended member, within⟩

def Arrival.Sensitive (arrival : Arrival) : Prop := shortMethod arrival.request.fullMethod ∈ sensitiveMethods

instance (arrival : Arrival) : Decidable arrival.Sensitive := inferInstanceAs (Decidable (_ ∈ _))

/-- What lies behind a request that reaches its handler. -/
structure Admits (limits : RateLimitConfig) (arrival : Arrival) (past : LimiterPast) : Prop where
  global : Passed limits.globalLimiter (extractIP arrival.ctx) past
  login : arrival.Sensitive → Passed limits.loginLimiter ("auth:" ++ extractIP arrival.ctx) past

/-- The answers of the interceptor itself. -/
inductive Refusal (limits : RateLimitConfig) (arrival : Arrival) : Answer → Prop where
  | global : Refusal limits arrival (.error (tooManyRequests limits.globalLimiter))
  | login (sensitive : arrival.Sensitive) : Refusal limits arrival (.error (tooManyLogins limits.loginLimiter))

section Conduct
variable {limits : RateLimitConfig} {past : LimiterPast}

theorem follows_limiterCall {command : LimiterCommand} {ends : LimiterPast → Except Status command.Reply → Prop}
    (may : LimiterMay past command) (each : ∀ reply, ends (⟨command, reply⟩ :: past) (.ok reply)) :
    (perform (S := LimiterPorts) command : Interceptor _).run.Follows LimiterMay ends past := ⟨may, each⟩

/-- A limiter passes a call or reports that the limit is exceeded. -/
theorem follows_allowCalls {ends : LimiterPast → Except Status (Bool × Option StoreError) → Prop} (limiter : Limiter)
    (window : limiter.window = minute) (key : String)
    (passed : ∀ later result, refuses result = false → past ⊆ later → Passed limiter key later →
      ends later (.ok result))
    (exceeded : ∀ later result, refuses result = true → past ⊆ later → ends later (.ok result)) :
    (limiter.allowCalls key).run.Follows LimiterMay ends past := by
  have lifetime : limiter.ttlSecs = 120 := by
    rw [Limiter.ttlSecs, window]
    decide
  unfold Limiter.allowCalls
  rw [follows_run_bind]
  refine follows_limiterCall trivial fun now => ?_
  rw [continues_ok, follows_run_bind]
  refine follows_limiterCall ⟨key, now, past, rfl, by rw [Limiter.redisKey, window], lifetime⟩ fun reply => ?_
  rw [continues_ok]
  have extended {exchange : Exchange LimiterPorts} : past ⊆ exchange :: ⟨.time, now⟩ :: past := fun _ member =>
    List.mem_cons_of_mem _ (List.mem_cons_of_mem _ member)
  cases reply with
  | error error =>
      refine passed _ _ rfl extended ⟨now, .error error, List.mem_cons_self, ?_⟩
      rintro count ⟨⟩
  | ok count =>
      by_cases within : count ≤ limiter.limit
      · refine passed _ _ (by simp only [refuses, within, decide_true, Bool.not_true, Bool.and_false]) extended
          ⟨now, .ok count, List.mem_cons_self, ?_⟩
        rintro _ ⟨⟩
        exact within
      · exact exceeded _ _ (by simp [refuses, within]) extended

/-- The interceptor refuses with one of its two statuses and admits a request after its checks. -/
theorem follows_check (limits : RateLimitConfig) (arrival : Arrival) :
    (limits.check arrival).Follows LimiterMay
      (fun past refusal => (∀ answer ∈ refusal, Refusal limits arrival answer) ∧
        (refusal = none → Admits limits arrival past)) [] := by
  unfold RateLimitConfig.check
  rw [follows_bind]
  unfold rateLimitCalls
  rw [follows_run_bind]
  refine follows_allowCalls _ rfl _ ?_ ?_
  · intro later result within _ global
    simp only [continues_ok, within, Bool.false_eq_true, if_false]
    by_cases sensitive : shortMethod arrival.request.fullMethod ∈ sensitiveMethods
    · rw [if_pos sensitive, follows_run_bind]
      refine follows_allowCalls _ rfl _ ?_ ?_
      · intro last result within extended login
        simp only [continues_ok, within, Bool.false_eq_true, if_false]
        refine ⟨?_, fun _ => ⟨global.mono extended, fun _ => login⟩⟩
        rintro answer ⟨⟩
      · intro last result above _
        simp only [continues_ok, above, if_true]
        refine ⟨?_, ?_⟩
        · rintro answer ⟨⟩
          exact .login sensitive
        · rintro ⟨⟩
    · rw [if_neg sensitive]
      refine ⟨?_, fun _ => ⟨global, fun other => absurd other sensitive⟩⟩
      rintro answer ⟨⟩
  · intro later result above _
    simp only [continues_ok, above, if_true]
    refine ⟨?_, ?_⟩
    · rintro answer ⟨⟩
      exact .global
    · rintro ⟨⟩

theorem check_honest (limits : RateLimitConfig) (arrival : Arrival) :
    (limits.check arrival).Follows LimiterMay (fun _ refusal => ∀ answer ∈ refusal, Refusal limits arrival answer) [] :=
  (follows_check limits arrival).imp (fun _ _ both => both.1) _ _

end Conduct

/-- A configuration of the server. -/
abbrev ServerConfig (store : SessionStore) := Config (Ports.sum LimiterPorts) (World store × Counters) Arrival Answer

abbrev ServerLabel := Label Choice Tick Arrival

section Runs
variable {service : Service} {limits : RateLimitConfig} {store : SessionStore} {base : World store × Counters}
variable {arrivals : List Arrival} {allowed : ServerConfig store → ServerLabel → Prop} {config : ServerConfig store}

/-- In a run of the server the limiters conduct themselves, the handlers run for admitted requests, and the other
requests are refused. -/
theorem reaches_gated
    (reached : (server service limits store).Reaches allowed ((server service limits store).begin base arrivals)
      config) :
    Disciplined (fun arrival => gateMay LimiterMay (Admits limits arrival))
      (fun arrival past answer => Refusal limits arrival answer ∨ Admits limits arrival (rights past)) config := by
  refine reached.disciplined fun arrival => ?_
  exact follows_gated _ _ _ (follows_check limits arrival)

end Runs

/-- In every run of the server the stores change as in a run of the service with the same requests. Each answer is
the answer of the service, or a refusal of the interceptor to a request for which the service performed nothing. -/
theorem server_refines_service (service : Service) (limits : RateLimitConfig) (store : SessionStore)
    (base : World store) (counters : Counters) :
    let auth := server service limits store
    ∀ config, auth.Reaches Anything (auth.begin (base, counters) []) config →
      ∃ served, (system service store).Reaches Anything ((system service store).begin base []) served ∧
        served.world = config.world.1 ∧
        (∀ task arrival, config.request task = some arrival → served.request task = some arrival.request) ∧
        ∀ task arrival answer, config.request task = some arrival → config.Answered task answer →
          served.Answered task answer ∨
            (Refusal limits arrival answer ∧ transcript task served.history = []) := by
  intro auth config reached
  obtain ⟨served, ran, shows⟩ : ∃ served,
      (system service store).Reaches Anything ((system service store).begin base []) served ∧
      Shows (system service store) Arrival.request (Refusal limits) config served :=
    Reaches.shows (check_honest limits) (fun _ _ _ _ _ => rfl) reached
  refine ⟨served, ran, shows.world, fun task arrival started => shows.request started, ?_⟩
  intro task arrival answer started answered
  exact (shows.answered started answered).symm

/-- A login without metadata arrives. -/
def bareLogin (password : String) : Arrival where
  ctx := bareContext
  request := .login bareContext ⟨"a@b.co", password, "phone"⟩
  same := by
    rintro ctx ⟨⟩
    rfl

/-- The service answers one of two logins and never sees the other one. -/
theorem refused_login_unseen :
    let limits : RateLimitConfig := ⟨5, 1⟩
    let auth := server sample limits (postgres exactDatabase)
    ∃ config served, auth.Reaches Anything (auth.begin (World.empty (postgres exactDatabase) 0, .empty) []) config ∧
      sampleSystem.Reaches Anything (sampleStart []) served ∧ served.world = config.world.1 ∧
      served.Answered 0 (.error invalidCredentials) ∧
      config.Answered 1 (.error (tooManyLogins limits.loginLimiter)) := by
  intro limits auth
  let labels : List ServerLabel :=
    [.start (bareLogin "first"), .start (bareLogin "second")] ++
      [0, 0, 0, 0, 1, 1, 1, 1, 0, 0, 0].map fun task => .advance task {}
  obtain ⟨config, reached, checked⟩ : ∃ config, auth.Reaches (fun config label => anything config label = true)
      (auth.begin (World.empty (postgres exactDatabase) 0, .empty) []) config ∧
      decide (config.answer? 0 = some (.error invalidCredentials) ∧
        config.answer? 1 = some (.error (tooManyLogins limits.loginLimiter))) = true :=
    exists_of_run labels _ (by decide +kernel)
  obtain ⟨answered, refused⟩ := of_decide_eq_true checked
  obtain ⟨served, ran, world, _, answers⟩ :=
    server_refines_service sample limits (postgres exactDatabase) _ _ config reached
  have finished := Config.answered_of_answer? answered
  obtain ⟨entry, selected, _⟩ := Option.map_eq_some_iff.mp finished
  have started : config.request 0 = some entry.request := by rw [Config.request, selected, Option.map_some]
  refine ⟨config, served, reached, ran, world, ?_, Config.answered_of_answer? refused⟩
  rcases answers 0 _ _ started finished with same | ⟨refusal, _⟩
  · exact same
  · cases refusal

end AuthService
