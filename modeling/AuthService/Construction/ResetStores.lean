/-
This file translates the in-memory reset store and runs the service on either reset store.
-/

import AuthService.Construction.World

namespace AuthService
open Interleaving

section
variable (service : Service) {store : SessionStore}

/-- The in-memory reset store. A call that meets an expired record deletes it. -/
def execMemoryResets : (command : ResetCommand) → World store → command.Reply × World store
  | .saveOTP userID email otpHash ttl, world =>
      (.ok (), { world with
        otps := Function.update world.otps (service.hash email)
          (some ⟨⟨userID, otpHash, 0⟩, some (world.now + ttl)⟩) })
  | .getOTP email, world =>
      match lookup world.otps world.now (service.hash email) with
      | some record => (.ok record, world)
      | none => (.error .resetCodeNotFound,
          { world with otps := Function.update world.otps (service.hash email) none })
  | .incrOTPAttempts email, world =>
      match (world.otps (service.hash email)).filter fun entry => entry.visible world.now with
      | some entry =>
          let counted := { entry.value with attempts := entry.value.attempts + 1 }
          (.ok counted.attempts, { world with
            otps := Function.update world.otps (service.hash email) (some { entry with value := counted }) })
      | none => (.error .resetCodeNotFound,
          { world with otps := Function.update world.otps (service.hash email) none })
  | .deleteOTP email, world =>
      (.ok (), { world with otps := Function.update world.otps (service.hash email) none })
  | .saveResetToken tokenHash userID email ttl, world =>
      (.ok (), { world with
        resetTokens := Function.update world.resetTokens tokenHash
          (some ⟨⟨userID, email⟩, some (world.now + ttl)⟩) })
  | .getResetToken tokenHash, world =>
      match lookup world.resetTokens world.now tokenHash with
      | some record => (.ok record, world)
      | none => (.error .resetTokenNotFound,
          { world with resetTokens := Function.update world.resetTokens tokenHash none })
  | .deleteResetToken tokenHash, world =>
      (.ok (), { world with resetTokens := Function.update world.resetTokens tokenHash none })

/-- The two backends for the reset records. -/
inductive ResetBackend where
  | redis
  | memory

def ResetBackend.exec (resets : ResetBackend) (command : ResetCommand) (choice : Choice) (world : World store) :
    command.Reply × World store :=
  match resets with
  | .redis => execResets service command choice world
  | .memory => execMemoryResets service command world

/-- The calls of the service with the given reset store. -/
def execWith (resets : ResetBackend) :
    (command : Command) → Choice → World store → Option (command.Reply × World store)
  | .resets command, choice, world => some (resets.exec service command choice world)
  | command, choice, world => exec service command choice world

end

/-- The concurrent service with the given reset store. -/
def systemWith (resets : ResetBackend) (service : Service) (store : SessionStore) :
    System Ports (World store) Choice Tick Request Answer :=
  { system service store with exec := execWith service resets }

/-- With the reset store on Redis this is the service as above. -/
theorem systemWith_redis (service : Service) (store : SessionStore) :
    systemWith .redis service store = system service store := by
  have same (command : Command) (choice : Choice) (world : World store) :
      execWith service .redis command choice world = exec service command choice world := by
    cases command <;> rfl
  simp only [systemWith, system, System.mk.injEq, true_and, and_true]
  funext command choice world
  exact same command choice world

end AuthService
