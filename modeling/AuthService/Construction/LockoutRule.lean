/-
This file states the lockout rule of one address.
-/

import AuthService.Construction.Guard

namespace AuthService

/-- The lockout of one address: the failures that count, the end of the window in which they were counted,
and the end of the last lockout. -/
@[ext] structure Lockout where
  failures : Nat
  windowEnd : Option Time
  lockedUntil : Option Time
deriving DecidableEq

namespace Lockout

/-- Nothing has happened, or a login has succeeded. -/
def clear : Lockout := ⟨0, none, none⟩

def isLocked (spec : Lockout) (now : Time) : Bool := spec.lockedUntil.any fun expiry => now < expiry

/-- A failure counts until its window has ended. -/
def counted (spec : Lockout) (now : Time) : Nat :=
  if spec.windowEnd.any fun expiry => expiry < now then 0 else spec.failures

/-- A window opens at the first failure that is counted. -/
def window (config : GuardConfig) (spec : Lockout) (now : Time) : Option Time :=
  if spec.counted now = 0 then some (now + config.window) else spec.windowEnd

/-- One more failure reaches the limit. -/
def reaches (config : GuardConfig) (spec : Lockout) (now : Time) : Bool :=
  config.maxAttempts ≤ spec.counted now + 1

/-- A failure that reaches the limit starts a lockout, and the count begins again. -/
def fail (config : GuardConfig) (spec : Lockout) (now : Time) : Lockout :=
  if spec.reaches config now then ⟨0, spec.window config now, some (now + config.lockoutTTL)⟩
  else ⟨spec.counted now + 1, spec.window config now, spec.lockedUntil⟩

/-- The lockout does not end at this instant. -/
def Apart (spec : Lockout) (now : Time) : Prop := spec.lockedUntil ≠ some now

instance (spec : Lockout) (now : Time) : Decidable (spec.Apart now) :=
  inferInstanceAs (Decidable (_ ≠ _))

/-- Failures at these times start a lockout. -/
def locksOut (config : GuardConfig) : Lockout → List Time → Bool
  | _, [] => false
  | spec, now :: times => spec.reaches config now || locksOut config (spec.fail config now) times

end Lockout
end AuthService
