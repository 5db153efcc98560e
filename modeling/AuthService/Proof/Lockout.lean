/-
This file proves that the Redis keys of the guard follow the lockout rule of one address.
-/

import AuthService.Construction.LockoutRule
import AuthService.Proof.Expiry
import Mathlib.Tactic.Common

namespace AuthService

/-- The settings are at least one attempt, a window of whole seconds and a lockout of whole milliseconds, each
of at least one second. -/
structure GuardConfig.Whole (config : GuardConfig) : Prop where
  attempts : 1 ≤ config.maxAttempts
  window : second ∣ config.window
  window_le : second ≤ config.window
  lockout : millisecond ∣ config.lockoutTTL
  lockout_le : second ≤ config.lockoutTTL

namespace GuardConfig
variable {config : GuardConfig}

/-- The script receives a window of whole seconds and loses nothing. -/
theorem seconds_exact (window : second ∣ config.window) : wholeSeconds config.window * second = config.window :=
  wholeSeconds_of_dvd window

theorem seconds_pos (least : second ≤ config.window) : ¬ wholeSeconds config.window ≤ 0 :=
  Int.not_le.mpr (wholeSeconds_pos least)

namespace Whole

/-- The lock key lives as long as the lockout. -/
theorem redisExpiry (whole : config.Whole) (now : Time) :
    redisExpiry now config.lockoutTTL = some (now + config.lockoutTTL) :=
  redisExpiry_exact (Int.lt_of_lt_of_le (by decide) whole.lockout_le) whole.lockout now

end Whole
end GuardConfig

/-- Two failures lock the address for a second, and the window is ten seconds long. -/
def shortLockout : GuardConfig := ⟨2, 10 * second, second⟩

theorem shortLockout_whole : shortLockout.Whole := ⟨by decide, by decide, by decide, by decide, by decide⟩

/-- The counter script leaves the lock key alone. -/
theorem GuardState.luaIncrExpire_locked (seconds : Int) (now : Time) (email : String) (guard : GuardState) :
    (guard.luaIncrExpire seconds now email).2.locked = guard.locked := by
  rw [luaIncrExpire_eq]

/-- The counter of an address holds the failures of its lockout. -/
def CountsFailures (email : String) (spec : Lockout) (guard : GuardState) : Prop :=
  guard.attempts email = if spec.failures = 0 then none else some ⟨(spec.failures : Int), spec.windowEnd⟩

namespace CountsFailures
variable {config : GuardConfig} {email : String} {spec : Lockout} {guard : GuardState} {now : Time}

/-- The counter is visible exactly while its failures count. -/
theorem visible (spec : Lockout) (now : Time) :
    (⟨(spec.failures : Int), spec.windowEnd⟩ : Expiring Int).visible now =
      !(spec.windowEnd.any fun expiry => decide (expiry < now)) := by
  unfold Expiring.visible
  cases spec.windowEnd with
  | none => rfl
  | some expiry => simp only [Option.any_some, ← decide_not, Int.not_lt]

/-- The script counts one more failure in the window. -/
theorem luaIncrExpire (counts : CountsFailures email spec guard) (window : second ∣ config.window)
    (least : second ≤ config.window) :
    guard.luaIncrExpire (wholeSeconds config.window) now email =
      ((spec.counted now : Int) + 1, { guard with
        attempts := Function.update guard.attempts email
          (some ⟨(spec.counted now : Int) + 1, spec.window config now⟩) }) := by
  have opens (uncounted : spec.counted now = 0) :
      GuardState.luaIncrExpire.first (wholeSeconds config.window) now email guard =
        ((spec.counted now : Int) + 1, { guard with
          attempts := Function.update guard.attempts email
            (some ⟨(spec.counted now : Int) + 1, spec.window config now⟩) }) := by
    rw [GuardState.luaIncrExpire.first, if_neg (GuardConfig.seconds_pos least),
      GuardConfig.seconds_exact window, Lockout.window, if_pos uncounted, uncounted]
    rfl
  unfold CountsFailures at counts
  rw [GuardState.luaIncrExpire, counts]
  by_cases zero : spec.failures = 0
  · rw [if_pos zero]
    refine opens ?_
    rw [Lockout.counted, zero, ite_self]
  · simp only [if_neg zero, visible]
    cases ended : spec.windowEnd.any fun expiry => decide (expiry < now) with
    | true =>
        refine opens ?_
        rw [Lockout.counted, if_pos ended]
    | false =>
        have same : spec.counted now = spec.failures := by
          rw [Lockout.counted, ended, if_neg Bool.false_ne_true]
        rw [Lockout.window, same, if_neg zero]
        rfl

/-- A recorded failure tells whether it reaches the limit, and the counter moves with the lockout. -/
theorem recordFailure (counts : CountsFailures email spec guard) (window : second ∣ config.window)
    (least : second ≤ config.window) (now : Time) :
    ∃ next, guard.recordFailure config (fun _ => false) now email = (.ok (spec.reaches config now), next) ∧
      CountsFailures email (spec.fail config now) next := by
  unfold GuardState.recordFailure
  rw [if_neg Bool.false_ne_true, counts.luaIncrExpire window least]
  by_cases limit : config.maxAttempts ≤ (spec.counted now : Int) + 1
  · have reached : spec.reaches config now = true := decide_eq_true limit
    simp only [if_pos limit, if_neg Bool.false_ne_true, reached]
    refine ⟨_, rfl, ?_⟩
    rw [CountsFailures, Lockout.fail, if_pos reached]
    exact Function.update_self ..
  · have below : spec.reaches config now = false := decide_eq_false limit
    simp only [if_neg limit, below]
    refine ⟨_, rfl, ?_⟩
    rw [CountsFailures, Lockout.fail, below, if_neg Bool.false_ne_true, if_neg (Nat.succ_ne_zero _)]
    exact Function.update_self ..

end CountsFailures

/-- The two Redis keys of an address hold its lockout. -/
structure Represents (email : String) (spec : Lockout) (guard : GuardState) : Prop where
  attempts : guard.attempts email =
    if spec.failures = 0 then none else some ⟨(spec.failures : Int), spec.windowEnd⟩
  locked : guard.locked email = spec.lockedUntil.map fun expiry => ⟨(), some expiry⟩

namespace Represents
variable {config : GuardConfig} {email : String} {spec : Lockout} {guard : GuardState} {now : Time}

theorem of_clear (attempts : guard.attempts email = none) (locked : guard.locked email = none) :
    Represents email .clear guard := ⟨attempts, locked⟩

/-- The lock key answers whether the address is locked. -/
theorem isLocked (represents : Represents email spec guard) (apart : spec.Apart now) :
    guard.isLocked false now email = (spec.isLocked now, guard) := by
  have read : (lookup guard.locked now email).isSome = spec.isLocked now := by
    rw [lookup, represents.locked, Lockout.isLocked]
    cases ends : spec.lockedUntil with
    | none => rfl
    | some expiry =>
        have other : now ≠ expiry := by
          rintro rfl
          exact apart ends
        have same : now ≤ expiry ↔ now < expiry := ⟨fun bound => Int.lt_iff_le_and_ne.mpr ⟨bound, other⟩, Int.le_of_lt⟩
        simp only [Option.map_some, Expiring.visible, same, Option.any_some]
        cases decide (now < expiry) <;> rfl
  rw [GuardState.isLocked, if_neg Bool.false_ne_true, read]

/-- A recorded failure tells whether it reaches the limit and moves the lockout. -/
theorem recordFailure (represents : Represents email spec guard) (whole : config.Whole) (now : Time) :
    ∃ next, guard.recordFailure config (fun _ => false) now email = (.ok (spec.reaches config now), next) ∧
      Represents email (spec.fail config now) next := by
  have counts : CountsFailures email spec guard := represents.attempts
  obtain ⟨next, recorded, counted⟩ := counts.recordFailure whole.window whole.window_le now
  refine ⟨next, recorded, counted, ?_⟩
  unfold GuardState.recordFailure at recorded
  rw [if_neg Bool.false_ne_true, counts.luaIncrExpire whole.window whole.window_le] at recorded
  by_cases limit : config.maxAttempts ≤ (spec.counted now : Int) + 1
  · have reached : spec.reaches config now = true := decide_eq_true limit
    simp only [if_pos limit, if_neg Bool.false_ne_true] at recorded
    obtain ⟨_, rfl⟩ := Prod.mk.inj recorded
    rw [Lockout.fail, if_pos reached, whole.redisExpiry]
    exact Function.update_self ..
  · have below : spec.reaches config now = false := decide_eq_false limit
    simp only [if_neg limit] at recorded
    obtain ⟨_, rfl⟩ := Prod.mk.inj recorded
    rw [Lockout.fail, below, if_neg Bool.false_ne_true]
    exact represents.locked

/-- A reset clears the lockout. -/
theorem reset (guard : GuardState) (email : String) : Represents email .clear (guard.reset false email) :=
  of_clear (Function.update_self ..) (Function.update_self ..)

/-- The failures of one address leave the lockouts of the others as they are. -/
theorem recordFailure_other {other : String} (represents : Represents other spec guard) (apart : other ≠ email)
    {reply : Except StoreError Bool} {next : GuardState}
    (recorded : guard.recordFailure config (fun _ => false) now email = (reply, next)) :
    Represents other spec next := by
  simp only [GuardState.recordFailure, if_neg Bool.false_ne_true, GuardState.luaIncrExpire_eq] at recorded
  split at recorded
  · obtain ⟨_, rfl⟩ := Prod.mk.inj recorded
    refine ⟨?_, (Function.update_of_ne apart ..).trans represents.locked⟩
    exact (Function.update_of_ne apart ..).trans ((luaIncrExpire_other apart).trans represents.attempts)
  · obtain ⟨_, rfl⟩ := Prod.mk.inj recorded
    exact ⟨(luaIncrExpire_other apart).trans represents.attempts, represents.locked⟩

theorem reset_other {other : String} (represents : Represents other spec guard) (apart : other ≠ email) :
    Represents other spec (guard.reset false email) where
  attempts := (Function.update_of_ne apart ..).trans represents.attempts
  locked := (Function.update_of_ne apart ..).trans represents.locked

end Represents
end AuthService
