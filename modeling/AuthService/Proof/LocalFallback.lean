/-
This file compares the guard on Redis with its fallback in the process.
-/

import AuthService.Concurrency.Sequential
import AuthService.Proof.Lockout

namespace AuthService
open Interleaving

/-- The calls of the guard for one address. -/
inductive GuardCall where
  | isLocked
  | recordFailure
  | reset
deriving DecidableEq

structure TimedCall where
  time : Time
  call : GuardCall
deriving DecidableEq

/-- What a call of the guard returns. -/
inductive GuardResult where
  | isLocked (locked : Bool)
  | recordFailure (locked : Except StoreError Bool)
  | reset
deriving DecidableEq

/-- One call of a guard whose Redis is down or not. -/
def GuardState.call (config : GuardConfig) (down : Bool) (email : String) (guard : GuardState) (timed : TimedCall) :
    GuardResult × GuardState :=
  match timed.call with
  | .isLocked =>
      let result := guard.isLocked down timed.time email
      (.isLocked result.1, result.2)
  | .recordFailure =>
      let result := guard.recordFailure config (fun _ => down) timed.time email
      (.recordFailure result.1, result.2)
  | .reset => (.reset, guard.reset down email)

/-- The results of a fresh guard for a sequence of calls. -/
def guardResults (config : GuardConfig) (down : Bool) (email : String) (calls : List TimedCall) : List GuardResult :=
  outputsOf (fun guard timed => (GuardState.call config down email guard timed).2)
    (fun guard timed => (GuardState.call config down email guard timed).1) .empty calls

namespace Lockout

/-- One call as the lockout rule answers it. -/
def call (config : GuardConfig) (spec : Lockout) (timed : TimedCall) : GuardResult × Lockout :=
  match timed.call with
  | .isLocked => (.isLocked (spec.isLocked timed.time), spec)
  | .recordFailure => (.recordFailure (.ok (spec.reaches config timed.time)), spec.fail config timed.time)
  | .reset => (.reset, clear)

def next (config : GuardConfig) (spec : Lockout) (timed : TimedCall) : Lockout := (spec.call config timed).2

def result (config : GuardConfig) (spec : Lockout) (timed : TimedCall) : GuardResult := (spec.call config timed).1

/-- No call comes at the end of a lockout. -/
def Away (spec : Lockout) (timed : TimedCall) : Prop := spec.Apart timed.time

/-- A failure that is counted as the first one comes after the window of the last lockout. -/
def Settled (config : GuardConfig) (spec : Lockout) (timed : TimedCall) : Prop :=
  timed.call = .recordFailure →
    config.maxAttempts = 1 ∨ spec.failures ≠ 0 ∨ spec.windowEnd.all (fun expiry => decide (expiry < timed.time)) = true

instance (spec : Lockout) (timed : TimedCall) : Decidable (spec.Away timed) :=
  inferInstanceAs (Decidable (spec.Apart timed.time))

instance (config : GuardConfig) (spec : Lockout) (timed : TimedCall) : Decidable (spec.Settled config timed) :=
  inferInstanceAs (Decidable (_ → _))

end Lockout

section Redis
variable {config : GuardConfig} {email : String} {spec : Lockout} {guard : GuardState} {timed : TimedCall}

/-- Each call of the guard on Redis follows the rule. -/
theorem Represents.call (represents : Represents email spec guard) (whole : config.Whole) (away : spec.Away timed) :
    (guard.call config false email timed).1 = spec.result config timed ∧
      Represents email (spec.next config timed) (guard.call config false email timed).2 := by
  obtain ⟨time, call⟩ := timed
  cases call with
  | isLocked =>
      simp only [GuardState.call, Lockout.result, Lockout.next, Lockout.call, represents.isLocked away, true_and]
      exact represents
  | recordFailure =>
      obtain ⟨next, recorded, kept⟩ := represents.recordFailure whole time
      simp only [GuardState.call, Lockout.result, Lockout.next, Lockout.call, recorded, true_and]
      exact kept
  | reset => exact ⟨rfl, .reset guard email⟩

end Redis

namespace LocalEntry

/-- The failures of the local entry that count. -/
def counted (entry : LocalEntry) (now : Time) : Int := if entry.windowEnd < now then 0 else entry.count

def window (config : GuardConfig) (entry : LocalEntry) (now : Time) : Time :=
  if entry.windowEnd < now then now + config.window else entry.windowEnd

theorem recordFailure_eq (config : GuardConfig) (entry : LocalEntry) (now : Time) :
    entry.recordFailure config now =
      if config.maxAttempts ≤ entry.counted now + 1 then
        (true, ⟨0, entry.window config now, now + config.lockoutTTL⟩)
      else (false, ⟨entry.counted now + 1, entry.window config now, entry.lockedUntil⟩) := by
  by_cases ended : entry.windowEnd < now
  · simp only [recordFailure, counted, window, if_pos ended]
  · simp only [recordFailure, counted, window, if_neg ended]

end LocalEntry

/-- The local entry of an address holds its lockout. With a limit of one failure the window does not matter. -/
structure Shadows (config : GuardConfig) (spec : Lockout) (entry : LocalEntry) : Prop where
  count : entry.count = spec.failures
  lockedUntil : entry.lockedUntil = spec.lockedUntil.getD zeroTime
  windowEnd : config.maxAttempts = 1 ∨ entry.windowEnd = spec.windowEnd.getD zeroTime
  opened : spec.windowEnd = none → spec.failures = 0

namespace Shadows
variable {config : GuardConfig} {spec : Lockout} {entry : LocalEntry} {now : Time}

theorem clear (config : GuardConfig) : Shadows config .clear .empty := ⟨rfl, rfl, .inr rfl, fun _ => rfl⟩

theorem isLocked (shadows : Shadows config spec entry) (after : zeroTime < now) :
    entry.isLocked now = spec.isLocked now := by
  rw [LocalEntry.isLocked, shadows.lockedUntil, Lockout.isLocked]
  cases spec.lockedUntil with
  | none => exact decide_eq_false (Int.not_lt.mpr (Int.le_of_lt after))
  | some expiry => rfl

/-- After a failure a window is open. -/
theorem window_ne_none (shadows : Shadows config spec entry) : spec.window config now ≠ none := by
  rw [Lockout.window]
  split
  · exact Option.some_ne_none _
  · rename_i counts
    intro closed
    refine counts ?_
    rw [Lockout.counted, shadows.opened closed, ite_self]

/-- A local count that reaches the limit together with the rule is moved like the rule. -/
theorem fail (shadows : Shadows config spec entry)
    (limit : config.maxAttempts ≤ entry.counted now + 1 ↔ config.maxAttempts ≤ spec.counted now + 1)
    (counted : config.maxAttempts = 1 ∨ entry.counted now = spec.counted now)
    (window : config.maxAttempts = 1 ∨ entry.window config now = (spec.window config now).getD zeroTime) :
    (entry.recordFailure config now).1 = spec.reaches config now ∧
      Shadows config (spec.fail config now) (entry.recordFailure config now).2 := by
  rw [LocalEntry.recordFailure_eq]
  by_cases reached : config.maxAttempts ≤ (spec.counted now : Int) + 1
  · rw [if_pos (limit.mpr reached), Lockout.fail, Lockout.reaches, if_pos (decide_eq_true reached)]
    exact ⟨(decide_eq_true reached).symm, rfl, rfl, window, fun _ => rfl⟩
  · rw [if_neg fun early => reached (limit.mp early), Lockout.fail, Lockout.reaches,
      if_neg fun same => reached (of_decide_eq_true same)]
    have several : config.maxAttempts ≠ 1 := by omega
    refine ⟨(decide_eq_false reached).symm, ?_, shadows.lockedUntil, window,
      fun closed => absurd closed shadows.window_ne_none⟩
    rw [counted.resolve_left several]
    rfl

/-- With a limit of one failure every failure reaches it. -/
theorem recordFailure_single (shadows : Shadows config spec entry) (single : config.maxAttempts = 1) :
    (entry.recordFailure config now).1 = spec.reaches config now ∧
      Shadows config (spec.fail config now) (entry.recordFailure config now).2 := by
  refine shadows.fail ?_ (.inl single) (.inl single)
  have count := shadows.count
  unfold LocalEntry.counted
  split <;> omega

/-- While the window is open both count on, and after its end both open a new one. -/
theorem recordFailure_window (shadows : Shadows config spec entry) (after : zeroTime < now)
    (same : entry.windowEnd = spec.windowEnd.getD zeroTime)
    (settled : spec.failures ≠ 0 ∨ spec.windowEnd.all (fun expiry => decide (expiry < now)) = true) :
    (entry.recordFailure config now).1 = spec.reaches config now ∧
      Shadows config (spec.fail config now) (entry.recordFailure config now).2 := by
  have agree : entry.counted now = spec.counted now ∧
      entry.window config now = (spec.window config now).getD zeroTime := by
    rw [LocalEntry.counted, LocalEntry.window, Lockout.window, Lockout.counted, same]
    cases ends : spec.windowEnd with
    | none =>
        have uncounted := shadows.opened ends
        simp only [Option.getD_none, if_pos after, Option.any_none, uncounted, ite_self, if_true, Option.getD_some,
          Int.natCast_zero, and_self]
    | some expiry =>
        by_cases ended : expiry < now
        · simp only [Option.getD_some, if_pos ended, Option.any_some, decide_eq_true ended, if_true, Int.natCast_zero,
            and_self]
        · have counting : spec.failures ≠ 0 := by
            refine settled.resolve_right fun passed => ended ?_
            rw [ends] at passed
            exact of_decide_eq_true passed
          simp only [Option.getD_some, if_neg ended, Option.any_some, decide_eq_false ended, Bool.false_eq_true,
            if_false, if_neg counting, shadows.count, and_self]
  refine shadows.fail ?_ (.inr agree.1) (.inr agree.2)
  rw [agree.1]

theorem recordFailure (shadows : Shadows config spec entry) (after : zeroTime < now)
    (settled : config.maxAttempts = 1 ∨ spec.failures ≠ 0 ∨
      spec.windowEnd.all (fun expiry => decide (expiry < now)) = true) :
    (entry.recordFailure config now).1 = spec.reaches config now ∧
      Shadows config (spec.fail config now) (entry.recordFailure config now).2 := by
  by_cases single : config.maxAttempts = 1
  · exact shadows.recordFailure_single single
  · exact shadows.recordFailure_window after (shadows.windowEnd.resolve_left single) (settled.resolve_left single)

/-- Each call of the guard without Redis follows the rule when a first failure comes after the old window. -/
theorem call {email : String} {guard : GuardState} {timed : TimedCall}
    (shadows : Shadows config spec (guard.getLocalEntry email)) (after : zeroTime < timed.time)
    (settled : spec.Settled config timed) :
    (guard.call config true email timed).1 = spec.result config timed ∧
      Shadows config (spec.next config timed) ((guard.call config true email timed).2.getLocalEntry email) := by
  have stored (entry : LocalEntry) : (guard.setLocalEntry email entry).getLocalEntry email = entry := by
    simp only [GuardState.setLocalEntry, GuardState.getLocalEntry, Function.update_self, Option.getD_some]
  obtain ⟨time, call⟩ := timed
  cases call with
  | isLocked =>
      simp only [GuardState.call, GuardState.isLocked, if_true, Lockout.result, Lockout.next, Lockout.call, stored,
        shadows.isLocked after, true_and]
      exact shadows
  | recordFailure =>
      obtain ⟨same, kept⟩ := shadows.recordFailure after (settled rfl)
      simp only [GuardState.call, GuardState.recordFailure, if_true, Lockout.result, Lockout.next, Lockout.call, stored,
        same, true_and]
      exact kept
  | reset =>
      refine ⟨rfl, ?_⟩
      simp only [GuardState.call, GuardState.reset, GuardState.getLocalEntry, Function.update_self, Option.getD_none]
      exact .clear config

end Shadows

/-- The guard on Redis and the fallback in the process return the same results for a sequence of calls in which
a failure that is counted as the first one comes after the window of the last lockout. -/
theorem fallback_agrees (config : GuardConfig) (whole : config.Whole) (email : String) (calls : List TimedCall)
    (after : ∀ timed ∈ calls, zeroTime < timed.time)
    (away : Along (Lockout.next config) Lockout.Away .clear calls)
    (settled : Along (Lockout.next config) (Lockout.Settled config) .clear calls) :
    guardResults config false email calls = guardResults config true email calls := by
  have redis : guardResults config false email calls =
      outputsOf (Lockout.next config) (Lockout.result config) .clear calls :=
    outputsOf_eq (fun _ _ _ represents away => represents.call whole away) (Represents.of_clear rfl rfl) away
  have each (spec : Lockout) (timed : TimedCall) (guard : GuardState)
      (shadows : Shadows config spec (guard.getLocalEntry email))
      (admitted : zeroTime < timed.time ∧ spec.Settled config timed) :
      (guard.call config true email timed).1 = spec.result config timed ∧
        Shadows config (spec.next config timed) ((guard.call config true email timed).2.getLocalEntry email) :=
    shadows.call admitted.1 admitted.2
  have fallback : guardResults config true email calls =
      outputsOf (Lockout.next config) (Lockout.result config) .clear calls :=
    outputsOf_eq each (Shadows.clear config) (.and (.of_forall fun timed member _ => after timed member) settled)
  rw [redis, fallback]

def failuresAt (seconds : List Int) : List TimedCall := seconds.map fun time => ⟨time * second, .recordFailure⟩

theorem fallback_agrees_after_window :
    guardResults shortLockout false "ann@example.com" (failuresAt [1, 2, 12, 13]) =
      guardResults shortLockout true "ann@example.com" (failuresAt [1, 2, 12, 13]) :=
  fallback_agrees shortLockout shortLockout_whole _ _ (by decide) (by decide) (by decide)

/-- The lockout is over and its window is not. The next failure opens a new window on Redis only, and the
fourth failure reaches the limit there only. -/
theorem fallback_keeps_old_window :
    shortLockout.Whole ∧ (failuresAt [1, 2, 9, 12]).Pairwise (fun first second => first.time ≤ second.time) ∧
      (∀ timed ∈ failuresAt [1, 2, 9, 12], zeroTime < timed.time) ∧
      Along (Lockout.next shortLockout) Lockout.Away .clear (failuresAt [1, 2, 9, 12]) ∧
      guardResults shortLockout false "ann@example.com" (failuresAt [1, 2, 9, 12]) ≠
        guardResults shortLockout true "ann@example.com" (failuresAt [1, 2, 9, 12]) :=
  ⟨shortLockout_whole, by decide, by decide, by decide, by decide +kernel⟩

end AuthService
