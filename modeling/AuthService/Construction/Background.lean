/-
This file translates the background goroutines of the service and the process that they run in.
-/

import AuthService.Construction.ResetStores

namespace AuthService
open Interleaving

deriving instance DecidableEq for BackgroundCommand

/-- The interface that the goroutine of a call uses is not nil. -/
def Service.injects (service : Service) : BackgroundCommand → Bool
  | .logAudit _ => service.auditStore
  | .fireHook _ => service.hook

/-- The process of the service. A nil dereference in any goroutine ends it. -/
structure Process (store : SessionStore) where
  world : World store
  panicked : Bool

namespace Process
variable {store : SessionStore}

/-- The process starts without goroutines on the stores of any world. -/
def start (world : World store) : Process store := ⟨{ world with background := [] }, false⟩

/-- A process that has ended performs no call. -/
def exec (service : Service) (resets : ResetBackend) (command : Command) (choice : Choice) (process : Process store) :
    Option (command.Reply × Process store) :=
  if process.panicked then none
  else (execWith service resets command choice process.world).map fun result => (result.1, ⟨result.2, false⟩)

/-- The body of a goroutine. The no-op hook and an audit store that discards its events return at once, and a
call on a nil interface panics. -/
def finish (service : Service) (command : BackgroundCommand) (process : Process store) : Process store :=
  if service.injects command then
    { process with world := { process.world with background := process.world.background.erase command } }
  else { process with panicked := true }

end Process

/-- The surroundings move, or a goroutine that was started runs to its end. -/
inductive ProcessTick where
  | surroundings (tick : Tick)
  | goroutine (command : BackgroundCommand)

def Process.drift {store : SessionStore} (service : Service) : ProcessTick → Process store → Option (Process store)
  | .surroundings tick, process =>
      if process.panicked then none else (AuthService.drift tick process.world).map fun world => ⟨world, false⟩
  | .goroutine command, process =>
      if process.panicked then none
      else if command ∈ process.world.background then some (process.finish service command)
      else none

abbrev ProcessConfig (store : SessionStore) := Config Ports (Process store) Request Answer

abbrev ProcessLabel := Label Choice ProcessTick Request

/-- The concurrent service with its goroutines. -/
def processSystem (resets : ResetBackend) (service : Service) (store : SessionStore) :
    System Ports (Process store) Choice ProcessTick Request Answer where
  handler := fun request => (handle service request).run
  exec := Process.exec service resets
  drift := Process.drift service

/-- A request has just read the user whose stored hash it gives to `password.Verify`. -/
def ChecksHash {store : SessionStore} (config : ProcessConfig store) (task : Nat) (user : User) : Prop :=
  ∃ past,
    (∃ ctx req, config.request task = some (.login ctx req) ∧
      transcript task config.history = ⟨.users (.getByEmail req.email), .ok user⟩ :: past) ∨
    ∃ ctx req userID, config.request task = some (.changePassword ctx req) ∧
      transcript task config.history = ⟨.users (.getByID userID), .ok user⟩ :: past

/-- A goroutine has panicked, a request is about to call a method of a nil guard, or the check of a stored hash
panics. -/
def Panics {store : SessionStore} (service : Service) (config : ProcessConfig store) : Prop :=
  config.world.panicked = true ∨ (service.bruteGuard = none ∧ ∃ task call, config.Next task (.guard call)) ∨
    ∃ task user, ChecksHash config task user ∧ service.verifyPanics user.passwordHash = true

end AuthService
