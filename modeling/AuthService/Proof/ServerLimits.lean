/-
This file bounds the requests that pass the rate limits of the server, for every interleaving of the requests and
of the failures of Redis.
-/

import AuthService.Proof.FixedWindow
import AuthService.Proof.Interceptor
import Mathlib.Data.Int.Interval

namespace AuthService
open Interleaving Program System

/-- The count that Redis gave for a call under the key. -/
def countOf (redisKey : String) : Event (Ports.sum LimiterPorts) → Option Int
  | ⟨_, .inr (.eval key _), .ok count⟩ => if key = redisKey then some count else none
  | _ => none

theorem countOf_eq_some {redisKey : String} {event : Event (Ports.sum LimiterPorts)} {count : Int}
    (counted : countOf redisKey event = some count) :
    ∃ task ttlSecs, event = ⟨task, .inr (.eval redisKey ttlSecs), .ok count⟩ := by
  unfold countOf at counted
  split at counted
  · split at counted
    · rename_i same
      subst same
      obtain rfl := Option.some.inj counted
      exact ⟨_, _, rfl⟩
    · cases counted
  · cases counted

theorem countOf_self (redisKey : String) (task : Nat) (ttlSecs count : Int) :
    countOf redisKey ⟨task, .inr (.eval redisKey ttlSecs), .ok count⟩ = some count := if_pos rfl

/-- Only calls under the key give counts of the key. -/
theorem countOf_other {redisKey : String} {task : Nat} {command : (Ports.sum LimiterPorts).Command}
    {reply : (Ports.sum LimiterPorts).Reply command}
    (other : ∀ ttlSecs, command ≠ .inr (.eval redisKey ttlSecs)) : countOf redisKey ⟨task, command, reply⟩ = none := by
  cases counted : countOf redisKey ⟨task, command, reply⟩ with
  | none => rfl
  | some count =>
      obtain ⟨_, ttlSecs, same⟩ := countOf_eq_some counted
      cases same
      exact absurd rfl (other ttlSecs)

/-- The script runs within the lifetime of its counter: after the start of the window in which the clock was read and at
most two minutes after it. -/
def prompt {store : SessionStore} (config : ServerConfig store) : ServerLabel → Bool
  | .advance task _ =>
      match config.tasks[task]?, rights (transcript task config.history) with
      | some ⟨_, .call (.inr (.eval _ _)) _⟩, ⟨.time, read⟩ :: _ =>
          decide (truncate read minute ≤ config.world.1.now ∧
            config.world.1.now ≤ truncate read minute + 2 * minute)
      | _, _ => true
  | _ => true

/-- What Redis and the history know about a counter of the window that starts at the given time. -/
structure Tally {store : SessionStore} (config : ServerConfig store) (redisKey : String) (start : Time) : Prop where
  decreasing : (config.history.filterMap (countOf redisKey)).Pairwise fun newer older => older < newer
  positive : ∀ count ∈ config.history.filterMap (countOf redisKey), 1 ≤ count
  kept : (config.world.2 redisKey = none ∧ config.history.filterMap (countOf redisKey) = []) ∨
    ∃ entry expiry, config.world.2 redisKey = some entry ∧ entry.expiresAt = some expiry ∧
      start + 2 * minute ≤ expiry ∧ 1 ≤ entry.value ∧
      ∀ count ∈ config.history.filterMap (countOf redisKey), count ≤ entry.value

section Script
variable {store : SessionStore} {config : ServerConfig store} {redisKey : String} {start now : Time}

/-- The script gives a new count and keeps the counter for two windows. -/
theorem Tally.script (tally : Tally config redisKey start) (after : start ≤ now) (soon : now ≤ start + 2 * minute) :
    ∃ expiry, (config.world.2.luaIncrExpire 120 now redisKey).2 redisKey =
        some ⟨(config.world.2.luaIncrExpire 120 now redisKey).1, some expiry⟩ ∧
      start + 2 * minute ≤ expiry ∧ 1 ≤ (config.world.2.luaIncrExpire 120 now redisKey).1 ∧
      ∀ count ∈ config.history.filterMap (countOf redisKey),
        count < (config.world.2.luaIncrExpire 120 now redisKey).1 := by
  rcases tally.kept with ⟨absent, uncounted⟩ | ⟨⟨value, _⟩, expiry, present, rfl, long, positive, above⟩
  · have missing : lookup config.world.2 now redisKey = none := by rw [lookup, absent]
    rw [luaIncrExpire_absent missing, uncounted]
    refine ⟨now + 120 * second, Function.update_self .., ?_, Int.le_refl 1, ?_⟩
    · exact Int.add_le_add_right after _
    · rintro count ⟨⟩
  · have visible : (⟨value, some expiry⟩ : Expiring Int).visible now = true :=
      decide_eq_true (Int.le_trans soon long)
    rw [luaIncrExpire_visible present visible]
    refine ⟨expiry, Function.update_self .., long, Int.le_add_one positive, ?_⟩
    intro count member
    exact Int.lt_add_one_of_le (above count member)

/-- A step that neither counts under the key nor changes its counter keeps the tally. -/
theorem Tally.quiet (tally : Tally config redisKey start) {next : ServerConfig store}
    (counter : next.world.2 redisKey = config.world.2 redisKey)
    (counts : next.history.filterMap (countOf redisKey) = config.history.filterMap (countOf redisKey)) :
    Tally next redisKey start := by
  refine ⟨counts ▸ tally.decreasing, counts ▸ tally.positive, ?_⟩
  rw [counter, counts]
  exact tally.kept

/-- The script keeps the tally of its counter, whether its reply arrives or not. -/
theorem Tally.eval (tally : Tally config redisKey start) {choice : Choice} {task : Nat} {reply : Except StoreError Int}
    {counters : Counters} (after : start ≤ config.world.1.now) (soon : config.world.1.now ≤ start + 2 * minute)
    (executed : execLimiter (.eval redisKey 120) choice config.world.1 config.world.2 = some (reply, counters))
    (tasks : List (Task (Ports.sum LimiterPorts) Arrival Answer)) :
    Tally ⟨(config.world.1, counters), tasks, ⟨task, .inr (.eval redisKey 120), reply⟩ :: config.history⟩ redisKey
      start := by
  obtain ⟨expiry, stored, long, positive, above⟩ := tally.script after soon
  simp only [execLimiter, Option.some.injEq] at executed
  split at executed
  · obtain ⟨rfl, rfl⟩ := Prod.mk.inj executed
    split
    · exact tally.quiet rfl rfl
    · refine ⟨tally.decreasing, tally.positive, .inr ⟨_, expiry, stored, rfl, long, positive, ?_⟩⟩
      intro count member
      exact Int.le_of_lt (above count member)
  · obtain ⟨rfl, rfl⟩ := Prod.mk.inj executed
    have counts : List.filterMap (countOf redisKey) (⟨task, .inr (.eval redisKey 120),
        .ok (config.world.2.luaIncrExpire 120 config.world.1.now redisKey).1⟩ :: config.history) =
        (config.world.2.luaIncrExpire 120 config.world.1.now redisKey).1 ::
          config.history.filterMap (countOf redisKey) :=
      List.filterMap_cons_some (countOf_self ..)
    refine ⟨?_, ?_, .inr ⟨_, expiry, stored, rfl, long, positive, ?_⟩⟩
    · rw [counts]
      exact List.pairwise_cons.mpr ⟨above, tally.decreasing⟩
    · rw [counts]
      rintro count (⟨⟩ | ⟨_, before⟩)
      · exact positive
      · exact tally.positive count before
    · rw [counts]
      rintro count (⟨⟩ | ⟨_, before⟩)
      · exact Int.le_refl _
      · exact Int.le_of_lt (above count before)

end Script

/-- The script leaves the other counters as they are. -/
theorem execLimiter_other {store : SessionStore} {choice : Choice} {world : World store} {counters next : Counters}
    {redisKey other : String} {ttlSecs : Int} {reply : Except StoreError Int}
    (executed : execLimiter (.eval redisKey ttlSecs) choice world counters = some (reply, next))
    (apart : other ≠ redisKey) : next other = counters other := by
  simp only [execLimiter, Option.some.injEq] at executed
  split at executed
  · obtain ⟨_, rfl⟩ := Prod.mk.inj executed
    split
    · rfl
    · exact luaIncrExpire_other apart
  · obtain ⟨_, rfl⟩ := Prod.mk.inj executed
    exact luaIncrExpire_other apart

section Runs
variable {service : Service} {limits : RateLimitConfig} {store : SessionStore} {base : World store}
variable {arrivals : List Arrival} {config : ServerConfig store}

/-- Every counter of a run from an empty Redis is kept for its window. -/
theorem reaches_tally
    (reached : (server service limits store).Reaches (fun config label => prompt config label = true)
      ((server service limits store).begin (base, .empty) arrivals) config) (key : String) (time : Time) :
    Tally config (counterKey key (unixSeconds (truncate time minute))) (truncate time minute) := by
  induction reached with
  | refl => exact ⟨.nil, by rintro count ⟨⟩, .inl ⟨rfl, rfl⟩⟩
  | @step middle last label reached permitted moved tally =>
      obtain ⟨_, _, rfl⟩ | ⟨task, choice, arrival, command, rest, reply, world, rfl, selected, executed, rfl⟩ |
        ⟨tick, world, _, drifted, rfl⟩ := step_cases label moved
      · exact tally.quiet rfl rfl
      · cases command with
        | inl command =>
            obtain ⟨result, _, same⟩ := Option.map_eq_some_iff.mp executed
            obtain ⟨rfl, rfl⟩ := Prod.mk.inj same
            exact tally.quiet rfl rfl
        | inr command =>
            obtain ⟨⟨reply, counters⟩, performed, same⟩ := Option.map_eq_some_iff.mp executed
            obtain ⟨rfl, rfl⟩ := Prod.mk.inj same
            cases command with
            | time =>
                obtain ⟨rfl, rfl⟩ := Prod.mk.inj (Option.some.inj performed)
                exact tally.quiet rfl rfl
            | eval redisKey ttlSecs =>
                obtain ⟨key', read, earlier, shape, rfl, rfl⟩ := (reaches_gated reached).next_permitted selected
                simp only [prompt, selected, shape, decide_eq_true_eq] at permitted
                obtain ⟨after, soon⟩ := permitted
                by_cases same : counterKey key' (unixSeconds (truncate read minute)) =
                    counterKey key (unixSeconds (truncate time minute))
                · obtain ⟨rfl, starts⟩ := counterKey_inj same
                  rw [← truncate_inj (by decide) starts] at tally ⊢
                  exact tally.eval after soon performed _
                · refine tally.quiet (execLimiter_other performed (Ne.symm same)) ?_
                  rw [List.filterMap_cons_none (countOf_other ?_)]
                  intro ttlSecs equal
                  exact same (LimiterCommand.eval.inj (Sum.inr.inj equal)).1
      · obtain ⟨after, _, rfl⟩ := Option.map_eq_some_iff.mp drifted
        exact tally.quiet rfl rfl

/-- Different tasks have different counts under a key, so at most as many of them as the limit are within it. -/
theorem within_limit_bounded
    (reached : (server service limits store).Reaches (fun config label => prompt config label = true)
      ((server service limits store).begin (base, .empty) arrivals) config) (key : String) (time : Time) {limit : Int}
    {tasks : List Nat} (distinct : tasks.Nodup)
    (within : ∀ task ∈ tasks, ∃ ttlSecs count, count ≤ limit ∧
      (⟨task, .inr (.eval (counterKey key (unixSeconds (truncate time minute))) ttlSecs), .ok count⟩ :
        Event (Ports.sum LimiterPorts)) ∈ config.history) :
    tasks.length ≤ limit.toNat := by
  have tally := reaches_tally reached key time
  have once : (config.history.filterMap
      (countOf (counterKey key (unixSeconds (truncate time minute))))).Nodup :=
    tally.decreasing.imp fun less => (Int.ne_of_lt less).symm
  choose! ttlSecs count small member using within
  have counted (task : Nat) (inside : task ∈ tasks) := countOf_self
    (counterKey key (unixSeconds (truncate time minute))) task (ttlSecs task) (count task)
  have different : (tasks.map count).Nodup := by
    refine distinct.map_on fun first left second right same => ?_
    have event := eq_of_observed_once _ _ once (member first left) (member second right)
      ((counted first left).trans (same ▸ (counted second right).symm)) (by rw [counted first left]; rfl)
    exact congrArg Event.task event
  have bounds : (tasks.map count).toFinset ⊆ Finset.Icc 1 limit := by
    intro value inside
    obtain ⟨task, present, rfl⟩ := List.mem_map.mp (List.mem_toFinset.mp inside)
    exact Finset.mem_Icc.mpr ⟨tally.positive _ (List.mem_filterMap.mpr ⟨_, member task present, counted task present⟩),
      small task present⟩
  calc tasks.length = (tasks.map count).toFinset.card := by
        rw [List.toFinset_card_of_nodup different, List.length_map]
    _ ≤ (Finset.Icc 1 limit).card := Finset.card_le_card bounds
    _ = limit.toNat := by rw [Int.card_Icc]; congr 1; omega

end Runs

/-- The service has performed something for the task, or the task was answered and not refused. -/
def Served {store : SessionStore} (limits : RateLimitConfig) (config : ServerConfig store) (task : Nat) : Prop :=
  (∃ command reply, (⟨task, .inl command, reply⟩ : Event (Ports.sum LimiterPorts)) ∈ config.history) ∨
    ∃ arrival answer, config.request task = some arrival ∧ config.Answered task answer ∧
      ¬ Refusal limits arrival answer

/-- The calls of the task under the key fell into the window, and Redis counted them. -/
def CountedIn {store : SessionStore} (config : ServerConfig store) (limiter : Limiter) (key : String) (window : Time)
    (task : Nat) : Prop :=
  ∀ now reply, (⟨task, .inr (.eval (limiter.redisKey now key) limiter.ttlSecs), reply⟩ :
    Event (Ports.sum LimiterPorts)) ∈ config.history → truncate now minute = window ∧ ∃ count, reply = .ok count

section Bounds
variable {service : Service} {limits : RateLimitConfig} {store : SessionStore} {base : World store}
variable {arrivals : List Arrival} {config : ServerConfig store}

/-- A request that passed in a window has a count within the limit there. -/
theorem Passed.count {limiter : Limiter} (length : limiter.window = minute) {key : String} {task : Nat} {window : Time}
    (passed : Passed limiter key (rights (transcript task config.history)))
    (counted : CountedIn config limiter key (truncate window minute) task) :
    ∃ ttlSecs count, count ≤ limiter.limit ∧
      (⟨task, .inr (.eval (counterKey key (unixSeconds (truncate window minute))) ttlSecs), .ok count⟩ :
        Event (Ports.sum LimiterPorts)) ∈ config.history := by
  obtain ⟨now, reply, member, within⟩ := passed
  have inside := (mem_transcript _ _ _).mp (mem_rights.mp member)
  obtain ⟨same, count, rfl⟩ := counted now reply inside
  refine ⟨limiter.ttlSecs, count, within count rfl, ?_⟩
  rw [Limiter.redisKey, length, same] at inside
  exact inside

theorem Served.admitted
    (reached : (server service limits store).Reaches (fun config label => prompt config label = true)
      ((server service limits store).begin (base, .empty) arrivals) config) {task : Nat} {arrival : Arrival}
    (served : Served limits config task) (started : config.request task = some arrival) :
    Admits limits arrival (rights (transcript task config.history)) := by
  have gated := reaches_gated reached
  obtain ⟨command, reply, member⟩ | ⟨other, answer, known, answered, passed⟩ := served
  · obtain ⟨later, past, same, other, known, admits⟩ := gated.permitted.mem member
    obtain rfl := Option.some.inj (known.symm.trans started)
    have extended : rights (transcript task past) ⊆ rights (transcript task config.history) := by
      refine List.Sublist.subset (List.Sublist.filterMap _ (List.IsSuffix.sublist (transcript_suffix task ?_)))
      rw [same]
      exact (List.suffix_cons _ _).trans (List.suffix_append _ _)
    exact ⟨admits.global.mono extended, fun sensitive => (admits.login sensitive).mono extended⟩
  · obtain rfl := Option.some.inj (known.symm.trans started)
    exact (gated.answered task other answer known answered).resolve_left passed

end Bounds

/-- In every run of the server in which the script runs within the lifetime of its counter, consider different requests
of one address that the interceptor let pass and whose calls in one window were counted by Redis. There are at most as
many of them as the limit of all requests, and at most as many sensitive ones as the limit of the logins. -/
theorem rate_limits_hold (service : Service) (limits : RateLimitConfig) (store : SessionStore) (base : World store) :
    let auth := server service limits store
    ∀ config, auth.Reaches (fun config label => prompt config label = true) (auth.begin (base, .empty) []) config →
      ∀ (address : String) (window : Time) (tasks : List Nat), tasks.Nodup →
        (∀ task ∈ tasks, Served limits config task ∧
          ∃ arrival, config.request task = some arrival ∧ extractIP arrival.ctx = address) →
        ((∀ task ∈ tasks, CountedIn config limits.globalLimiter address (truncate window minute) task) →
          tasks.length ≤ limits.globalRPM.toNat) ∧
        ((∀ task ∈ tasks, (∃ arrival, config.request task = some arrival ∧ arrival.Sensitive) ∧
          CountedIn config limits.loginLimiter ("auth:" ++ address) (truncate window minute) task) →
          tasks.length ≤ limits.loginRPM.toNat) := by
  intro auth config reached address window tasks distinct ours
  refine ⟨fun counted => ?_, fun counted => ?_⟩
  · refine within_limit_bounded reached address window distinct fun task member => ?_
    obtain ⟨served, arrival, started, rfl⟩ := ours task member
    exact (served.admitted reached started).global.count rfl (counted task member)
  · refine within_limit_bounded reached ("auth:" ++ address) window distinct fun task member => ?_
    obtain ⟨served, arrival, started, rfl⟩ := ours task member
    obtain ⟨⟨other, known, sensitive⟩, counted⟩ := counted task member
    obtain rfl := Option.some.inj (known.symm.trans started)
    exact ((served.admitted reached started).login sensitive).count rfl counted

/-- The call of the script that an event records. -/
def scriptCall : Event (Ports.sum LimiterPorts) → Option (Nat × String × Option Int)
  | ⟨task, .inr (.eval redisKey _), reply⟩ => some (task, redisKey, reply.toOption)
  | _ => none

/-- The event is a call of the service for the task. -/
def serviceCall (task : Nat) : Event (Ports.sum LimiterPorts) → Bool
  | ⟨owner, .inl _, _⟩ => owner = task
  | _ => false

theorem served_of_serviceCall {store : SessionStore} {config : ServerConfig store} {task : Nat}
    (called : config.history.any (serviceCall task) = true) (limits : RateLimitConfig) : Served limits config task := by
  obtain ⟨event, member, accepted⟩ := List.any_eq_true.mp called
  unfold serviceCall at accepted
  split at accepted
  · obtain rfl := of_decide_eq_true accepted
    exact .inl ⟨_, _, member⟩
  · cases accepted

/-- One of two simultaneous logins is served and the other one is refused. -/
theorem second_login_refused :
    let limits : RateLimitConfig := ⟨5, 1⟩
    let auth := server sample limits (postgres exactDatabase)
    ∃ config, auth.Reaches (fun config label => prompt config label = true)
        (auth.begin (World.empty (postgres exactDatabase) 0, .empty) []) config ∧
      Served limits config 0 ∧ config.Answered 1 (.error (tooManyLogins limits.loginLimiter)) ∧
      [0].length ≤ limits.loginRPM.toNat := by
  intro limits auth
  let labels : List ServerLabel :=
    [.start (bareLogin "first"), .start (bareLogin "second")] ++
      [0, 1, 1, 0, 0, 1, 0, 1, 0].map fun task => .advance task {}
  obtain ⟨config, reached, checked⟩ : ∃ config, auth.Reaches (fun config label => prompt config label = true)
      (auth.begin (World.empty (postgres exactDatabase) 0, .empty) []) config ∧
      decide (config.answer? 1 = some (.error (tooManyLogins limits.loginLimiter)) ∧
        (config.request 0).map (fun arrival => (extractIP arrival.ctx, decide arrival.Sensitive)) = some ("", true) ∧
        config.history.any (serviceCall 0) = true ∧ config.history.filterMap scriptCall =
          [(1, counterKey "auth:" 0, some 2), (0, counterKey "auth:" 0, some 1), (0, counterKey "" 0, some 2),
            (1, counterKey "" 0, some 1)]) = true :=
    exists_of_run labels _ (by decide +kernel)
  obtain ⟨answered, started, called, scripts⟩ := of_decide_eq_true checked
  obtain ⟨arrival, known, fields⟩ := Option.map_eq_some_iff.mp started
  have served := served_of_serviceCall called limits
  have counted : CountedIn config limits.loginLimiter ("auth:" ++ "") (truncate 0 minute) 0 := by
    intro now reply member
    have listed : (0, limits.loginLimiter.redisKey now ("auth:" ++ ""), reply.toOption) ∈
        config.history.filterMap scriptCall := List.mem_filterMap.mpr ⟨_, member, rfl⟩
    rw [scripts] at listed
    simp only [List.mem_cons, Prod.mk.injEq, List.not_mem_nil, or_false, zero_ne_one, false_and, false_or,
      true_and] at listed
    rcases listed with ⟨same, known⟩ | ⟨same, _⟩
    · refine ⟨truncate_inj (by decide) (counterKey_inj same).2, 1, ?_⟩
      cases reply with
      | error error => cases known
      | ok count => rw [Option.some.inj known]
    · exact absurd (counterKey_inj same).1 (by decide)
  refine ⟨config, reached, served, Config.answered_of_answer? answered, ?_⟩
  refine (rate_limits_hold sample limits _ _ config reached "" 0 [0] (List.nodup_singleton 0) ?_).2 ?_
  · intro task member
    obtain rfl := List.mem_singleton.mp member
    exact ⟨served, arrival, known, (Prod.mk.inj fields).1⟩
  · intro task member
    obtain rfl := List.mem_singleton.mp member
    exact ⟨⟨arrival, known, of_decide_eq_true (Prod.mk.inj fields).2⟩, counted⟩

end AuthService
