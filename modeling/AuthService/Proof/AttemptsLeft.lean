/-
This file proves when the number of attempts that are left predicts the next recorded failures.
-/

import AuthService.Proof.LocalFallback

namespace AuthService

/-- A failure of the local entry locks exactly when it reaches the limit, and below the limit it counts at its
own time. -/
theorem LocalEntry.recordFailure_counted {config : GuardConfig} (positive : 0 ≤ config.window) (now : Time)
    (entry : LocalEntry) :
    (entry.recordFailure config now).1 = decide (config.maxAttempts ≤ entry.counted now + 1) ∧
      (entry.counted now + 1 < config.maxAttempts →
        (entry.recordFailure config now).2.counted now = entry.counted now + 1) := by
  have lasts : ¬ entry.window config now < now := by
    rw [window]
    split
    · exact Int.not_lt.mpr (Int.le_add_of_nonneg_right positive)
    · assumption
  rw [recordFailure_eq]
  by_cases limit : config.maxAttempts ≤ entry.counted now + 1
  · rw [if_pos limit]
    exact ⟨(decide_eq_true limit).symm, fun below => absurd limit (Int.not_le.mpr below)⟩
  · rw [if_neg limit]
    exact ⟨(decide_eq_false limit).symm, fun _ => if_neg lasts⟩

namespace GuardState
variable {config : GuardConfig} {down : Bool} {now : Time} {email : String} {guard : GuardState}

theorem getLocalEntry_setLocalEntry (guard : GuardState) (email other : String) (entry : LocalEntry) :
    (guard.setLocalEntry email entry).getLocalEntry other =
      if other = email then entry else guard.getLocalEntry other := by
  by_cases same : other = email
  · rw [if_pos same, same]
    simp only [setLocalEntry, getLocalEntry, Function.update_self, Option.getD_some]
  · simp only [setLocalEntry, getLocalEntry, if_neg same, Function.update_of_ne same]

/-- The failures that the next one is added to. -/
def counted (down : Bool) (now : Time) (email : String) (guard : GuardState) : Int :=
  if down then (guard.getLocalEntry email).counted now else (lookup guard.attempts now email).getD 0

/-- The failures that `AttemptsRemaining` reads. -/
def read (down : Bool) (now : Time) (email : String) (guard : GuardState) : Int :=
  if down then (guard.getLocalEntry email).count else (lookup guard.attempts now email).getD 0

/-- With and without Redis a failure locks exactly when it reaches the limit, and below the limit it counts. -/
theorem recordFailure_counted (least : second ≤ config.window) (down : Bool) (now : Time) (email : String)
    (guard : GuardState) :
    (guard.recordFailure config (fun _ => down) now email).1 =
        .ok (decide (config.maxAttempts ≤ guard.counted down now email + 1)) ∧
      (guard.counted down now email + 1 < config.maxAttempts →
        (guard.recordFailure config (fun _ => down) now email).2.counted down now email =
          guard.counted down now email + 1) := by
  cases down with
  | true =>
      have positive : 0 ≤ config.window := Int.le_trans (by decide) least
      obtain ⟨result, next⟩ := (guard.getLocalEntry email).recordFailure_counted positive now
      simp only [recordFailure, counted, if_true, getLocalEntry_setLocalEntry]
      exact ⟨congrArg _ result, next⟩
  | false =>
      simp only [recordFailure, counted, if_neg Bool.false_ne_true, luaIncrExpire_eq, luaIncrExpire_value]
      by_cases limit : config.maxAttempts ≤ (lookup guard.attempts now email).getD 0 + 1
      · simp only [if_pos limit, decide_eq_true limit, true_and]
        intro below
        exact absurd limit (Int.not_le.mpr below)
      · simp only [if_neg limit, decide_eq_false limit, true_and]
        intro _
        have positive := Int.not_le.mp (GuardConfig.seconds_pos least)
        have lasts : now ≤ now + wholeSeconds config.window * second :=
          Int.le_add_of_nonneg_right (Int.le_of_lt (Int.mul_pos positive (by decide)))
        rw [luaIncrExpire_later (GuardConfig.seconds_pos least) rfl lasts, Option.getD_some]

/-- The results of failures that are recorded at one time. -/
def repeatFailures (config : GuardConfig) (down : Bool) (now : Time) (email : String) :
    Nat → GuardState → List (Except StoreError Bool)
  | 0, _ => []
  | count + 1, guard =>
      let result := guard.recordFailure config (fun _ => down) now email
      result.1 :: repeatFailures config down now email count result.2

/-- Failures that stay below the limit do not lock. -/
theorem repeatFailures_below (least : second ≤ config.window) (count : Nat) (guard : GuardState)
    (below : guard.counted down now email + count < config.maxAttempts) :
    repeatFailures config down now email count guard = List.replicate count (.ok false) := by
  induction count generalizing guard with
  | zero => rfl
  | succ count ih =>
      obtain ⟨result, next⟩ := recordFailure_counted least down now email guard
      have open' : ¬ config.maxAttempts ≤ guard.counted down now email + 1 := by omega
      rw [repeatFailures, result, decide_eq_false open', List.replicate_succ]
      refine congrArg _ (ih _ ?_)
      rw [next (Int.not_le.mp open')]
      omega

/-- The failure that reaches the limit locks. -/
theorem repeatFailures_reaches (least : second ≤ config.window) (count : Nat) (guard : GuardState)
    (due : guard.counted down now email + count + 1 = config.maxAttempts) :
    repeatFailures config down now email (count + 1) guard = List.replicate count (.ok false) ++ [.ok true] := by
  induction count generalizing guard with
  | zero =>
      have reached : config.maxAttempts ≤ guard.counted down now email + 1 := by omega
      rw [repeatFailures, (recordFailure_counted least down now email guard).1, decide_eq_true reached]
      rfl
  | succ count ih =>
      obtain ⟨result, next⟩ := recordFailure_counted least down now email guard
      have open' : ¬ config.maxAttempts ≤ guard.counted down now email + 1 := by omega
      rw [repeatFailures, result, decide_eq_false open', List.replicate_succ, List.cons_append]
      refine congrArg _ (ih _ ?_)
      rw [next (Int.not_le.mp open')]
      omega

/-- Without a lock the answer is the distance of the read failures to the limit, and nothing is counted. -/
theorem attemptsRemaining_unlocked (attempts : 1 ≤ config.maxAttempts)
    (open' : (guard.isLocked down now email).1 = false) :
    (guard.attemptsRemaining config (fun _ => down) now email).1 =
        max (config.maxAttempts - guard.read down now email) 0 ∧
      (guard.attemptsRemaining config (fun _ => down) now email).2.counted down now email =
        guard.counted down now email := by
  simp only [attemptsRemaining, open', if_neg Bool.false_ne_true]
  cases down with
  | true => simp only [isLocked, read, counted, if_true, getLocalEntry_setLocalEntry, and_self]
  | false =>
      simp only [isLocked, read, counted, if_neg Bool.false_ne_true]
      cases found : lookup guard.attempts now email with
      | none =>
          simp only [found, Option.getD_none, and_true]
          omega
      | some count => simp only [found, Option.getD_some, and_self]

theorem attemptsRemaining_locked (locked : (guard.isLocked down now email).1 = true) :
    (guard.attemptsRemaining config (fun _ => down) now email).1 = 0 := by
  simp only [attemptsRemaining, locked, if_true]

/-- No stored count reaches the limit. -/
structure Below (config : GuardConfig) (guard : GuardState) : Prop where
  counter : ∀ email entry, guard.attempts email = some entry → entry.value < config.maxAttempts
  entry : ∀ email, 0 ≤ (guard.getLocalEntry email).count ∧ (guard.getLocalEntry email).count < config.maxAttempts

namespace Below

theorem empty (attempts : 1 ≤ config.maxAttempts) : Below config .empty where
  counter _ _ known := by cases known
  entry _ := ⟨Int.le_refl 0, attempts⟩

/-- A local entry that is written keeps the bound. -/
theorem setLocalEntry (below : Below config guard) {written : LocalEntry}
    (bound : 0 ≤ written.count ∧ written.count < config.maxAttempts) (email : String) :
    Below config (guard.setLocalEntry email written) where
  counter := below.counter
  entry other := by
    rw [getLocalEntry_setLocalEntry]
    split
    · exact bound
    · exact below.entry other

/-- A recorded failure keeps the bound. -/
theorem recordFailure (below : Below config guard) (attempts : 1 ≤ config.maxAttempts) (down : Bool) (now : Time)
    (email : String) : Below config (guard.recordFailure config (fun _ => down) now email).2 := by
  cases down with
  | true =>
      simp only [GuardState.recordFailure, if_true, LocalEntry.recordFailure_eq]
      have bound := below.entry email
      have counts : 0 ≤ (guard.getLocalEntry email).counted now := by
        unfold LocalEntry.counted
        split <;> omega
      split
      · exact below.setLocalEntry ⟨Int.le_refl 0, Int.lt_of_lt_of_le Int.zero_lt_one attempts⟩ email
      · rename_i limit
        refine below.setLocalEntry ⟨?_, Int.not_le.mp limit⟩ email
        exact Int.add_nonneg counts (by decide)
  | false =>
      simp only [GuardState.recordFailure, if_neg Bool.false_ne_true, luaIncrExpire_eq, luaIncrExpire_value]
      by_cases limit : config.maxAttempts ≤ (lookup guard.attempts now email).getD 0 + 1
      · simp only [if_pos limit]
        refine ⟨?_, below.entry⟩
        intro other entry known
        by_cases same : other = email
        · simp only [same, Function.update_self, reduceCtorEq] at known
        · simp only [Function.update_of_ne same, luaIncrExpire_other same] at known
          exact below.counter other entry known
      · simp only [if_neg limit]
        refine ⟨?_, below.entry⟩
        intro other entry known
        by_cases same : other = email
        · subst same
          rw [luaIncrExpire_stored known]
          exact Int.not_le.mp limit
        · exact below.counter other entry ((luaIncrExpire_other same).symm.trans known)

/-- A reset removes counts. -/
theorem reset (below : Below config guard) (attempts : 1 ≤ config.maxAttempts) (down : Bool) (email : String) :
    Below config (guard.reset down email) where
  counter other entry known := by
    cases down with
    | true => exact below.counter other entry known
    | false =>
        change Function.update guard.attempts email none other = some entry at known
        by_cases same : other = email
        · rw [same, Function.update_self] at known
          cases known
        · rw [Function.update_of_ne same] at known
          exact below.counter other entry known
  entry other := by
    have entries : (guard.reset down email).localEntries = Function.update guard.localEntries email none := by
      cases down <;> rfl
    rw [getLocalEntry, entries]
    by_cases same : other = email
    · rw [same, Function.update_self]
      exact ⟨Int.le_refl 0, attempts⟩
    · rw [Function.update_of_ne same]
      exact below.entry other

/-- Every call keeps the bound. -/
theorem call (below : Below config guard) (attempts : 1 ≤ config.maxAttempts) (down : Bool) (email : String)
    (timed : TimedCall) : Below config (guard.call config down email timed).2 := by
  obtain ⟨time, call⟩ := timed
  cases call with
  | isLocked =>
      cases down with
      | true => exact below.setLocalEntry (below.entry email) email
      | false => exact below
  | recordFailure => exact below.recordFailure attempts down time email
  | reset => exact below.reset attempts down email

end Below

/-- The failures that are read are below the limit. -/
theorem Below.read_lt (below : Below config guard)
    (attempts : 1 ≤ config.maxAttempts) (down : Bool) (now : Time) (email : String) :
    guard.read down now email < config.maxAttempts := by
  cases down with
  | true => exact (below.entry email).2
  | false =>
      simp only [read, if_neg Bool.false_ne_true]
      cases found : lookup guard.attempts now email with
      | none => exact Int.lt_of_lt_of_le Int.zero_lt_one attempts
      | some count =>
          obtain ⟨entry, present, rfl⟩ := lookup_eq_some found
          exact below.counter email entry present

/-- The guard after calls for any addresses. -/
def after (config : GuardConfig) (down : Bool) (calls : List (String × TimedCall)) : GuardState :=
  calls.foldl (fun guard call => (guard.call config down call.1 call.2).2) .empty

theorem after_below (attempts : 1 ≤ config.maxAttempts) (down : Bool) (calls : List (String × TimedCall)) :
    Below config (after config down calls) := by
  have kept (guard : GuardState) (below : Below config guard) :
      Below config (calls.foldl (fun guard call => (guard.call config down call.1 call.2).2) guard) := by
    induction calls generalizing guard with
    | nil => exact below
    | cons call calls ih => exact ih _ (below.call attempts down call.1 call.2)
  exact kept .empty (.empty attempts)

/-- Not more failures count than are read. -/
theorem Below.counted_le_read (below : Below config guard) (down : Bool) (now : Time) (email : String) :
    guard.counted down now email ≤ guard.read down now email := by
  cases down with
  | false => exact Int.le_refl _
  | true =>
      simp only [counted, read, if_true, LocalEntry.counted]
      split
      · exact (below.entry email).1
      · exact Int.le_refl _

/-- Only a local window that has ended makes a difference. -/
theorem counted_eq_read : guard.counted down now email = guard.read down now email ↔
    down = false ∨ (guard.getLocalEntry email).count = 0 ∨ now ≤ (guard.getLocalEntry email).windowEnd := by
  cases down with
  | false => exact iff_of_true rfl (.inl rfl)
  | true =>
      simp only [counted, read, if_true, LocalEntry.counted, reduceCtorEq, false_or]
      by_cases ended : (guard.getLocalEntry email).windowEnd < now
      · rw [if_pos ended, or_iff_left (Int.not_le.mpr ended)]
        exact eq_comm
      · rw [if_neg ended]
        exact iff_of_true rfl (.inr (Int.not_lt.mp ended))

/-- The answer of `AttemptsRemaining` is right: so many failures at the same time lock with the last one, and it is
zero exactly when the address is locked. -/
structure Predicts (config : GuardConfig) (down : Bool) (now : Time) (email : String) (guard : GuardState) : Prop where
  locks : ∀ count : Nat, (guard.attemptsRemaining config (fun _ => down) now email).1 = count + 1 →
    repeatFailures config down now email (count + 1) (guard.attemptsRemaining config (fun _ => down) now email).2 =
      List.replicate count (.ok false) ++ [.ok true]
  zero : (guard.attemptsRemaining config (fun _ => down) now email).1 = 0 ↔ (guard.isLocked down now email).1 = true

/-- A locked address has no attempts left. -/
theorem predicts_locked (locked : (guard.isLocked down now email).1 = true) :
    guard.Predicts config down now email where
  locks count answer := by
    rw [attemptsRemaining_locked locked] at answer
    omega
  zero := iff_of_true (attemptsRemaining_locked locked) locked

/-- Without a lock the answer is right exactly when it is computed from the failures that count. -/
theorem predicts_unlocked (below : Below config guard) (attempts : 1 ≤ config.maxAttempts)
    (least : second ≤ config.window) (open' : (guard.isLocked down now email).1 = false) :
    guard.Predicts config down now email ↔ guard.counted down now email = guard.read down now email := by
  obtain ⟨answer, same⟩ := attemptsRemaining_unlocked attempts open'
  have room := below.read_lt attempts down now email
  rw [Int.max_eq_left (by omega)] at answer
  constructor
  · intro predicts
    by_contra different
    have fewer : guard.counted down now email < guard.read down now email :=
      Int.lt_iff_le_and_ne.mpr ⟨below.counted_le_read down now email, different⟩
    obtain ⟨count, left⟩ := Int.eq_ofNat_of_zero_le
      (show 0 ≤ config.maxAttempts - guard.read down now email - 1 by omega)
    have locks := predicts.locks count (by omega)
    rw [repeatFailures_below least (count + 1) _ (by rw [same]; push_cast; omega)] at locks
    have last : (.ok true : Except StoreError Bool) ∈ List.replicate (count + 1) (.ok false) :=
      locks ▸ List.mem_append_right _ (List.mem_singleton_self _)
    cases List.eq_of_mem_replicate last
  · intro counts
    refine ⟨?_, ?_⟩
    · intro count left
      refine repeatFailures_reaches least count _ ?_
      rw [same, counts]
      omega
    · rw [answer, open']
      exact iff_of_false (by omega) Bool.false_ne_true

end GuardState

open GuardState

/-- In every state that calls for any addresses can reach, `AttemptsRemaining` is right exactly when Redis answers,
when the address is locked, or when the local entry has no failures or an open window. -/
theorem attempts_predicted_iff (config : GuardConfig) (attempts : 1 ≤ config.maxAttempts)
    (least : second ≤ config.window) (down : Bool) (calls : List (String × TimedCall)) (email : String) (now : Time) :
    (after config down calls).Predicts config down now email ↔
      down = false ∨ ((after config down calls).isLocked down now email).1 = true ∨
        ((after config down calls).getLocalEntry email).count = 0 ∨
        now ≤ ((after config down calls).getLocalEntry email).windowEnd := by
  have below := after_below attempts down calls
  by_cases locked : ((after config down calls).isLocked down now email).1 = true
  · exact iff_of_true (predicts_locked locked) (.inr (.inl locked))
  · rw [predicts_unlocked below attempts least (Bool.eq_false_iff.mpr locked), counted_eq_read,
      or_iff_right locked]

/-- After one failure on Redis one attempt is left, and the next failure locks. -/
theorem one_attempt_left :
    let guard := after shortLockout false [("ann@example.com", ⟨second, .recordFailure⟩)]
    (guard.attemptsRemaining shortLockout (fun _ => false) (2 * second) "ann@example.com").1 = 1 ∧
      guard.Predicts shortLockout false (2 * second) "ann@example.com" :=
  ⟨by decide +kernel, (attempts_predicted_iff shortLockout (by decide) (by decide) false _ _ _).mpr (.inl rfl)⟩

/-- Without Redis the window of a failure has ended. One attempt is said to be left, and the next failure does
not lock. -/
theorem ended_window_counted :
    let guard := after shortLockout true [("ann@example.com", ⟨second, .recordFailure⟩)]
    let answer := guard.attemptsRemaining shortLockout (fun _ => true) (12 * second) "ann@example.com"
    shortLockout.Whole ∧ answer.1 = 1 ∧
      (answer.2.recordFailure shortLockout (fun _ => true) (12 * second) "ann@example.com").1 = .ok false :=
  ⟨shortLockout_whole, by decide, by decide⟩

end AuthService
