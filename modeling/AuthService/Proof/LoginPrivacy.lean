/-
This file compares the logins for a registered address with the logins for an unknown one.
-/

import AuthService.Proof.AccountLockout

namespace AuthService
open Interleaving Program System

namespace GuardState
variable {config : GuardConfig} {email : String} {now : Time} {guard next : GuardState} {locked : Bool}

/-- A guard whose Redis answers always records a failure. -/
theorem recordFailure_ok (config : GuardConfig) (now : Time) (email : String) (guard : GuardState) :
    ∃ locked next, guard.recordFailure config (fun _ => false) now email = (.ok locked, next) := by
  unfold recordFailure
  simp only [if_neg Bool.false_ne_true]
  split
  · exact ⟨true, _, rfl⟩
  · exact ⟨false, _, rfl⟩

/-- A failure below the limit does not touch the lock key. -/
theorem recordFailure_below (counted : guard.recordFailure config (fun _ => false) now email = (.ok false, next)) :
    next.locked = guard.locked := by
  unfold recordFailure at counted
  simp only [if_neg Bool.false_ne_true] at counted
  split at counted
  · cases counted
  · cases counted
    exact luaIncrExpire_locked ..

theorem isLocked_congr (same : next.locked = guard.locked) :
    (next.isLocked false now email).1 = (guard.isLocked false now email).1 := by
  simp only [isLocked, if_neg Bool.false_ne_true, lookup, same]

/-- A wrong password for a registered address starts a lockout. -/
def reachesLimit (config : GuardConfig) (email : String) (guard : GuardState) (attempt : Attempt) : Bool :=
  (guard.recordFailure config (fun _ => false) attempt.time email).1 = .ok true

/-- The guard after a wrong password for a registered address. -/
def afterWrong (config : GuardConfig) (email : String) (guard : GuardState) (attempt : Attempt) : GuardState :=
  if (guard.isLocked false attempt.time email).1 then guard
  else (guard.recordFailure config (fun _ => false) attempt.time email).2

end GuardState

/-- The answer to a wrong password for a registered address. -/
def wrongAnswer (config : GuardConfig) (email : String) (guard : GuardState) (attempt : Attempt) : Answer :=
  .error (if (guard.isLocked false attempt.time email).1 || guard.reachesLimit config email attempt then lockedOut
    else invalidCredentials)

/-- The answer for an unknown address. -/
def unknownAnswer (email : String) (guard : GuardState) (attempt : Attempt) : Answer :=
  .error (if (guard.isLocked false attempt.time email).1 then lockedOut else invalidCredentials)

/-- A guard locks the address during wrong passwords. -/
def GuardState.locks (config : GuardConfig) (email : String) : GuardState → List Attempt → Bool
  | _, [] => false
  | guard, attempt :: attempts =>
      (!(guard.isLocked false attempt.time email).1 && guard.reachesLimit config email attempt) ||
        locks config email (guard.afterWrong config email attempt) attempts

/-- The answers are the same exactly when no lockout starts. -/
theorem answers_eq_iff (config : GuardConfig) (email : String) (attempts : List Attempt) (guard other : GuardState)
    (same : guard.locked = other.locked) :
    outputsOf (GuardState.afterWrong config email) (wrongAnswer config email) guard attempts =
        outputsOf (fun guard _ => guard) (unknownAnswer email) other attempts ↔
      guard.locks config email attempts = false := by
  induction attempts generalizing guard with
  | nil => simp only [outputsOf, GuardState.locks]
  | cons attempt attempts ih =>
      have checked : (guard.isLocked false attempt.time email).1 = (other.isLocked false attempt.time email).1 :=
        GuardState.isLocked_congr same
      rw [outputsOf, outputsOf, List.cons.injEq, GuardState.locks, Bool.or_eq_false_iff, wrongAnswer, unknownAnswer,
        ← checked]
      cases locked : (guard.isLocked false attempt.time email).1 with
      | true =>
          rw [GuardState.afterWrong, if_pos locked]
          exact and_congr (iff_of_true rfl rfl) (ih guard same)
      | false =>
          cases reached : guard.reachesLimit config email attempt with
          | true =>
              exact iff_of_false (fun equal => absurd equal.1 (by decide)) fun equal => absurd equal.1 (by decide)
          | false =>
              refine and_congr (iff_of_true rfl rfl) (ih _ ?_)
              obtain ⟨limit, next, counted⟩ := GuardState.recordFailure_ok config attempt.time email guard
              rw [GuardState.reachesLimit, counted, decide_eq_false_iff_not] at reached
              rw [GuardState.afterWrong, locked, if_neg Bool.false_ne_true, counted]
              cases limit with
              | true => exact absurd rfl reached
              | false => exact (GuardState.recordFailure_below counted).trans same

/-- The settings by which the script counts. It keeps a counter for the whole seconds of the window, and without a
whole second no counter outlives its failure. -/
def GuardConfig.counting (config : GuardConfig) : GuardConfig :=
  { config with window := if wholeSeconds config.window ≤ 0 then -1 else wholeSeconds config.window * second }

/-- From a time on the counter of an address holds the failures of its lockout, or they count no more. -/
def Tallies (email : String) (spec : Lockout) (since : Time) (guard : GuardState) : Prop :=
  CountsFailures email spec guard ∨
    guard.attempts email = none ∧ ∃ expiry, spec.windowEnd = some expiry ∧ expiry < since

namespace Tallies
variable {email : String} {spec : Lockout} {since now : Time} {guard : GuardState}

theorem mono (tallies : Tallies email spec since guard) (follows : since ≤ now) : Tallies email spec now guard :=
  tallies.imp_right fun ⟨absent, expiry, opened, before⟩ =>
    ⟨absent, expiry, opened, Int.lt_of_lt_of_le before follows⟩

/-- The counter that is visible, with the end of its window. -/
theorem attempts (tallies : Tallies email spec since guard) (follows : since ≤ now) :
    (spec.counted now = 0 ∧ lookup guard.attempts now email = none) ∨
      (spec.counted now ≠ 0 ∧ guard.attempts email = some ⟨(spec.counted now : Int), spec.windowEnd⟩ ∧
        (⟨(spec.counted now : Int), spec.windowEnd⟩ : Expiring Int).visible now = true) := by
  rcases tallies.mono follows with counts | ⟨absent, expiry, opened, ended⟩
  · unfold CountsFailures at counts
    cases ended : spec.windowEnd.any fun expiry => decide (expiry < now) with
    | true =>
        have none : spec.counted now = 0 := by rw [Lockout.counted, if_pos ended]
        refine .inl ⟨none, ?_⟩
        by_cases zero : spec.failures = 0
        · rw [lookup, counts, if_pos zero]
        · rw [if_neg zero] at counts
          refine lookup_of_hidden counts ?_
          rw [CountsFailures.visible, ended]
          exact Bool.false_ne_true
    | false =>
        have same : spec.counted now = spec.failures := by
          rw [Lockout.counted, ended, if_neg Bool.false_ne_true]
        rw [same]
        by_cases zero : spec.failures = 0
        · exact .inl ⟨zero, by rw [lookup, counts, if_pos zero]⟩
        · refine .inr ⟨zero, by rw [counts, if_neg zero], ?_⟩
          rw [CountsFailures.visible, ended]
          rfl
  · refine .inl ⟨?_, by rw [lookup, absent]⟩
    rw [Lockout.counted, opened, Option.any_some, if_pos (decide_eq_true ended)]

/-- The script counts one more failure. -/
theorem luaIncrExpire (config : GuardConfig) (tallies : Tallies email spec since guard) (follows : since ≤ now) :
    (guard.luaIncrExpire (wholeSeconds config.window) now email).1 = (spec.counted now : Int) + 1 ∧
      Tallies email ⟨spec.counted now + 1, spec.window config.counting now, spec.lockedUntil⟩ now
        (guard.luaIncrExpire (wholeSeconds config.window) now email).2 := by
  rw [GuardState.luaIncrExpire_eq]
  rcases tallies.attempts follows with ⟨none, absent⟩ | ⟨some, present, visible⟩
  · rw [luaIncrExpire_absent absent, Lockout.window, if_pos none, none]
    refine ⟨rfl, ?_⟩
    by_cases short : wholeSeconds config.window ≤ 0
    · refine .inr ⟨?_, now + -1, ?_, Int.sub_lt_self now Int.one_pos⟩
      · simp only [Counters.luaIncrExpire.first, if_pos short, Function.update_self]
      · simp only [GuardConfig.counting, if_pos short]
    · refine .inl ?_
      simp only [CountsFailures, Counters.luaIncrExpire.first, GuardConfig.counting, if_neg short,
        Function.update_self]
      rfl
  · rw [luaIncrExpire_visible present visible, Lockout.window, if_neg some]
    exact ⟨rfl, .inl (Function.update_self ..)⟩

/-- A recorded failure tells whether it reaches the limit. -/
theorem recordFailure (config : GuardConfig) (tallies : Tallies email spec since guard) (follows : since ≤ now) :
    ∃ next, guard.recordFailure config (fun _ => false) now email =
        (.ok (spec.reaches config.counting now), next) ∧
      Tallies email (spec.fail config.counting now) now next := by
  obtain ⟨value, counted⟩ := tallies.luaIncrExpire config follows
  unfold GuardState.recordFailure
  rw [if_neg Bool.false_ne_true]
  dsimp only
  rw [value]
  by_cases limit : config.maxAttempts ≤ (spec.counted now : Int) + 1
  · have reached : spec.reaches config.counting now = true := decide_eq_true limit
    simp only [if_pos limit, if_neg Bool.false_ne_true, reached]
    refine ⟨_, rfl, .inl ?_⟩
    rw [CountsFailures, Lockout.fail, if_pos reached]
    exact Function.update_self ..
  · have below : spec.reaches config.counting now = false := decide_eq_false limit
    rw [if_neg limit, below]
    refine ⟨_, rfl, ?_⟩
    rw [Lockout.fail, below, if_neg Bool.false_ne_true]
    exact counted

end Tallies

/-- The times of the attempts at which no lock key of this guard stands. -/
def unlockedTimes (email : String) (guard : GuardState) (attempts : List Attempt) : List Time :=
  (attempts.map Attempt.time).filter fun time => (lookup guard.locked time email).isNone

/-- The guard locks the address when the rule does. -/
theorem locks_eq {config : GuardConfig} {email : String} {spec : Lockout} {guard : GuardState}
    {attempts : List Attempt} (ordered : (attempts.map Attempt.time).Pairwise (· ≤ ·))
    (tallies : ∀ time ∈ attempts.map Attempt.time, Tallies email spec time guard) :
    guard.locks config email attempts = spec.locksOut config.counting (unlockedTimes email guard attempts) := by
  induction attempts generalizing guard spec with
  | nil => rfl
  | cons attempt attempts ih =>
      obtain ⟨first, rest⟩ := List.pairwise_cons.mp ordered
      have later (time : Time) (member : time ∈ attempts.map Attempt.time) : Tallies email spec time guard :=
        tallies time (List.mem_cons_of_mem _ member)
      cases standing : lookup guard.locked attempt.time email with
      | some _ =>
          have locked : (guard.isLocked false attempt.time email).1 = true := by
            simp only [GuardState.isLocked, if_neg Bool.false_ne_true, standing, Option.isSome_some]
          have skipped : unlockedTimes email guard (attempt :: attempts) = unlockedTimes email guard attempts := by
            rw [unlockedTimes, List.map_cons, List.filter_cons_of_neg]
            · rfl
            · rw [standing]
              exact Bool.false_ne_true
          rw [GuardState.locks, GuardState.afterWrong, locked, if_pos rfl, skipped, ih rest later]
          rfl
      | none =>
          have passes : (guard.isLocked false attempt.time email).1 = false := by
            simp only [GuardState.isLocked, if_neg Bool.false_ne_true, standing, Option.isSome_none]
          have taken : unlockedTimes email guard (attempt :: attempts) =
              attempt.time :: unlockedTimes email guard attempts := by
            rw [unlockedTimes, List.map_cons, List.filter_cons_of_pos]
            · rfl
            · rw [standing]
              rfl
          obtain ⟨next, counted, moved⟩ :=
            (tallies attempt.time (List.mem_cons_self ..)).recordFailure config (Int.le_refl _)
          have reached : guard.reachesLimit config email attempt = spec.reaches config.counting attempt.time := by
            rw [GuardState.reachesLimit, counted]
            cases spec.reaches config.counting attempt.time <;> rfl
          rw [GuardState.locks, GuardState.afterWrong, passes, if_neg Bool.false_ne_true, counted, taken,
            Lockout.locksOut, reached, Bool.not_false, Bool.true_and]
          cases limit : spec.reaches config.counting attempt.time with
          | true => rfl
          | false =>
              rw [limit] at counted
              have kept : unlockedTimes email next attempts = unlockedTimes email guard attempts := by
                unfold unlockedTimes lookup
                rw [GuardState.recordFailure_below counted]
              rw [← kept]
              exact congrArg _ (ih rest fun time member => moved.mono (first time member))

section
variable {service : Service} {store : SessionStore} {config : GuardConfig} {email : String} {user : User}
variable {world : World store} {attempt : Attempt}

/-- A wrong password for a registered address is answered by the guard alone. -/
theorem wrong_answered (resets : ResetBackend) (guarded : service.bruteGuard = some config)
    (valid : validateEmail email = none) (registered : world.users.getByEmail email = .ok user)
    (wrong : service.verifyPassword attempt.password user.passwordHash = some false) :
    ∃ outcome after, (systemWith resets service store).alone (attempt.turn email) world = some (outcome, after) ∧
      outcome.answer = wrongAnswer config email world.guard attempt ∧
      after.users.getByEmail email = .ok user ∧ after.guard = world.guard.afterWrong config email attempt := by
  unfold wrongAnswer GuardState.afterWrong
  cases locked : (world.guard.isLocked false attempt.time email).1 with
  | true =>
      obtain ⟨past, cache, background, ran, _⟩ := login_refused resets guarded valid locked
      exact ⟨_, _, ran, rfl, registered, rfl⟩
  | false =>
      obtain ⟨limit, next, counted⟩ := GuardState.recordFailure_ok config attempt.time email world.guard
      obtain ⟨past, cache, background, ran⟩ := login_wrong resets guarded valid locked registered wrong counted
      have reached : world.guard.reachesLimit config email attempt = limit := by
        rw [GuardState.reachesLimit, counted]
        cases limit <;> rfl
      refine ⟨_, _, ran, ?_, registered, ?_⟩
      · rw [reached, Bool.false_or]
      · rw [counted]
        rfl

/-- A login for an unknown address is answered by the lock key alone. -/
theorem unknown_answered (resets : ResetBackend) (guarded : service.bruteGuard = some config)
    (valid : validateEmail email = none) (absent : world.users.getByEmail email = .error .userNotFound) :
    ∃ outcome after, (systemWith resets service store).alone (attempt.turn email) world = some (outcome, after) ∧
      outcome.answer = unknownAnswer email world.guard attempt ∧
      after.users.getByEmail email = .error .userNotFound ∧ after.guard = world.guard := by
  unfold unknownAnswer
  cases locked : (world.guard.isLocked false attempt.time email).1 with
  | true =>
      obtain ⟨past, cache, background, ran, _⟩ := login_refused resets guarded valid locked
      exact ⟨_, _, ran, rfl, absent, rfl⟩
  | false =>
      obtain ⟨past, cache, background, ran⟩ := login_unknown resets guarded valid locked absent
      exact ⟨_, _, ran, rfl, absent, rfl⟩

end

/-- Wrong passwords get the same answers for a registered address and for an unknown one exactly when by the lockout
rule they start no lockout. -/
theorem login_privacy_iff (resets : ResetBackend) (service : Service) (backend : Backend) (config : GuardConfig)
    (guarded : service.bruteGuard = some config) (email : String) (valid : validateEmail email = none)
    (world : World backend.store) (user : User) (registered : world.users.getByEmail email = .ok user)
    (users : UserTable) (absent : users.getByEmail email = .error .userNotFound) (spec : Lockout)
    (counts : CountsFailures email spec world.guard) (attempts : List Attempt)
    (ordered : (attempts.map Attempt.time).Pairwise (· ≤ ·))
    (wrong : ∀ attempt ∈ attempts, service.verifyPassword attempt.password user.passwordHash = some false) :
    ∃ known unknown last last', logins resets service email attempts world = some (known, last) ∧
      logins resets service email attempts { world with users } = some (unknown, last') ∧
      (known.map Outcome.answer = unknown.map Outcome.answer ↔
        spec.locksOut config.counting (unlockedTimes email world.guard attempts) = false) := by
  have eachKnown (guard : GuardState) (attempt : Attempt) (current : World backend.store)
      (holds : current.users.getByEmail email = .ok user ∧ current.guard = guard)
      (fails : service.verifyPassword attempt.password user.passwordHash = some false) :
      ∃ outcome after, (systemWith resets service backend.store).alone (attempt.turn email) current =
          some (outcome, after) ∧ outcome.answer = wrongAnswer config email guard attempt ∧
        after.users.getByEmail email = .ok user ∧ after.guard = guard.afterWrong config email attempt := by
    obtain ⟨found, rfl⟩ := holds
    exact wrong_answered resets guarded valid found fails
  have eachUnknown (guard : GuardState) (attempt : Attempt) (current : World backend.store)
      (holds : current.users.getByEmail email = .error .userNotFound ∧ current.guard = guard) (_ : True) :
      ∃ outcome after, (systemWith resets service backend.store).alone (attempt.turn email) current =
          some (outcome, after) ∧ outcome.answer = unknownAnswer email guard attempt ∧
        after.users.getByEmail email = .error .userNotFound ∧ after.guard = guard := by
    obtain ⟨missing, rfl⟩ := holds
    exact unknown_answered resets guarded valid missing
  obtain ⟨known, last, played, answers⟩ :=
    play_exists eachKnown ⟨registered, rfl⟩ (.of_forall fun attempt member _ => wrong attempt member)
  have missing : ({ world with users } : World backend.store).users.getByEmail email = .error .userNotFound ∧
      ({ world with users } : World backend.store).guard = world.guard := ⟨absent, rfl⟩
  obtain ⟨unknown, last', played', answers'⟩ :=
    play_exists eachUnknown missing (.of_forall fun _ _ _ => trivial)
  refine ⟨known, unknown, last, last', played, played', ?_⟩
  rw [answers.outputs, answers'.outputs, ← locks_eq ordered fun _ _ => .inl counts]
  exact answers_eq_iff config email attempts world.guard world.guard rfl

/-- One wrong password gets the same answer in both worlds. -/
theorem one_wrong_password_hidden :
    ∃ known unknown last last',
      logins .redis guardedSample "ann@example.com" [attemptAt 1000 "wrong"] sampleWorld = some (known, last) ∧
      logins .redis guardedSample "ann@example.com" [attemptAt 1000 "wrong"] { sampleWorld with users := .empty } =
        some (unknown, last') ∧ known.map Outcome.answer = unknown.map Outcome.answer := by
  obtain ⟨known, unknown, last, last', played, played', same⟩ := login_privacy_iff .redis guardedSample
    (.postgres exactDatabase) shortLockout rfl "ann@example.com" (by decide) sampleWorld sampleUser rfl .empty rfl
    .clear rfl [attemptAt 1000 "wrong"] (by decide) (by decide)
  exact ⟨known, unknown, last, last', played, played', same.mpr (by decide +kernel)⟩

/-- The second wrong password locks the account of a registered address, and an unknown one is never locked. -/
theorem lockout_reveals_account :
    let attempts := [attemptAt 1000 "wrong", attemptAt 2000 "wrong"]
    validateEmail "ann@example.com" = none ∧ sampleWorld.users.getByEmail "ann@example.com" = .ok sampleUser ∧
      UserTable.empty.getByEmail "ann@example.com" = .error .userNotFound ∧
      (∀ attempt ∈ attempts, guardedSample.verifyPassword attempt.password sampleUser.passwordHash = some false) ∧
      loginAnswers guardedSample "ann@example.com" attempts sampleWorld =
        some [.error invalidCredentials, .error lockedOut] ∧
      loginAnswers guardedSample "ann@example.com" attempts { sampleWorld with users := .empty } =
        some [.error invalidCredentials, .error invalidCredentials] := by
  refine ⟨by decide, rfl, rfl, by decide, ?_, ?_⟩
  · decide +kernel
  · decide +kernel

end AuthService
