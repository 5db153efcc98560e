/-
This file states which part of the world each port call can change.
-/

import AuthService.Construction.World

namespace AuthService
open Interleaving

section
variable {service : Service} {store : SessionStore} {choice : Choice} {world next : World store}

theorem exec_users {command : UserCommand} {reply : command.Reply}
    (executed : exec service (.users command) choice world = some (reply, next)) :
    ∃ users, UserTable.exec command choice world.now world.users = some (reply, users) ∧
      next = { world with users } := by
  obtain ⟨result, performed, same⟩ := Option.map_eq_some_iff.mp executed
  obtain ⟨rfl, rfl⟩ := Prod.mk.inj same
  exact ⟨result.2, performed, rfl⟩

theorem exec_sessions {command : SessionCommand} {reply : command.Reply}
    (executed : exec service (.sessions command) choice world = some (reply, next)) :
    ∃ sessions, store.exec command choice world.users world.now world.sessions = some (reply, sessions) ∧
      next = { world with sessions } := by
  obtain ⟨result, performed, same⟩ := Option.map_eq_some_iff.mp executed
  obtain ⟨rfl, rfl⟩ := Prod.mk.inj same
  exact ⟨result.2, performed, rfl⟩

/-- A cache call changes only the cache. -/
theorem execCache_frame (command : CacheCommand) :
    ∃ cache, (execCache command choice world).2 = { world with cache } := by
  cases command with
  | set tokenHash session ttl =>
      simp only [execCache]
      split
      · exact ⟨world.cache, rfl⟩
      · dsimp only
        split
        · exact ⟨world.cache, rfl⟩
        · exact ⟨_, rfl⟩
  | get tokenHash => exact ⟨world.cache, rfl⟩
  | delete tokenHash =>
      simp only [execCache]
      split
      · exact ⟨world.cache, rfl⟩
      · exact ⟨_, rfl⟩

/-- A call on the reset store changes only the reset records. -/
theorem execResets_frame (command : ResetCommand) :
    ∃ otps resetTokens, (execResets service command choice world).2 = { world with otps, resetTokens } := by
  cases command with
  | getOTP email => exact ⟨world.otps, world.resetTokens, rfl⟩
  | getResetToken tokenHash => exact ⟨world.otps, world.resetTokens, rfl⟩
  | incrOTPAttempts email =>
      simp only [execResets, incrOTPAttempts]
      repeat' split
      all_goals exact ⟨_, _, rfl⟩
  | saveOTP userID email otpHash ttl =>
      simp only [execResets]
      split
      all_goals exact ⟨_, _, rfl⟩
  | deleteOTP email =>
      simp only [execResets]
      split
      all_goals exact ⟨_, _, rfl⟩
  | saveResetToken tokenHash userID email ttl =>
      simp only [execResets]
      split
      all_goals exact ⟨_, _, rfl⟩
  | deleteResetToken tokenHash =>
      simp only [execResets]
      split
      all_goals exact ⟨_, _, rfl⟩

theorem execGuard_frame (config : GuardConfig) (command : GuardCommand) :
    ∃ guard, (execGuard config command choice world).2 = { world with guard } := by
  cases command <;> exact ⟨_, rfl⟩

theorem execBackground_frame (command : BackgroundCommand) :
    ∃ background, execBackground service command world = { world with background } := by
  cases command with
  | logAudit event =>
      simp only [execBackground]
      split
      all_goals exact ⟨_, rfl⟩
  | fireHook event => exact ⟨_, rfl⟩

theorem exec_cache {command : CacheCommand} {reply : command.Reply}
    (executed : exec service (.cache command) choice world = some (reply, next)) :
    (execCache command choice world) = (reply, next) := Option.some.inj executed

theorem exec_resets {command : ResetCommand} {reply : command.Reply}
    (executed : exec service (.resets command) choice world = some (reply, next)) :
    (execResets service command choice world) = (reply, next) := Option.some.inj executed

theorem exec_guard {config : GuardConfig} (guarded : service.bruteGuard = some config) {command : GuardCommand}
    {reply : command.Reply} (executed : exec service (.guard command) choice world = some (reply, next)) :
    execGuard config command choice world = (reply, next) := by
  obtain ⟨found, same, performed⟩ := Option.map_eq_some_iff.mp executed
  obtain rfl := Option.some.inj (guarded.symm.trans same)
  exact performed

/-- A drawn token is recorded, and its hash was not issued before. -/
theorem exec_draw {reply : Option String}
    (executed : exec service (.random .token) choice world = some (reply, next)) :
    (reply = none ∧ next = world) ∨
      ∃ plain, reply = some plain ∧ service.hash plain ∉ world.issued ∧
        next = { world with issued := service.hash plain :: world.issued } := by
  simp only [exec, execRandom] at executed
  split at executed
  · cases executed
    exact .inl ⟨rfl, rfl⟩
  · split at executed
    · cases executed
    · rename_i fresh
      cases executed
      exact .inr ⟨_, rfl, fresh, rfl⟩

/-- The other random draws leave the world as it is. -/
theorem exec_random_other {command : RandomCommand} {reply : Option String} (other : command ≠ .token)
    (executed : exec service (.random command) choice world = some (reply, next)) : next = world := by
  cases command with
  | token => exact absurd rfl other
  | otp =>
      cases executed
      rfl
  | salt =>
      cases executed
      rfl

/-- The part of the world that a call may change. -/
inductive Changes (world : World store) : Command → World store → Prop where
  | users (command : UserCommand) (users : UserTable) :
      Changes world (.users command) { world with users }
  | sessions (command : SessionCommand) (sessions : store.State) :
      Changes world (.sessions command) { world with sessions }
  | cache (command : CacheCommand) (cache : String → Option (Expiring CachedSession)) :
      Changes world (.cache command) { world with cache }
  | resets (command : ResetCommand) (otps : String → Option (Expiring OTPRecord))
      (resetTokens : String → Option (Expiring ResetTokenRecord)) :
      Changes world (.resets command) { world with otps, resetTokens }
  | guard (command : GuardCommand) (guard : GuardState) : Changes world (.guard command) { world with guard }
  | draw (issued : List String) : Changes world (.random .token) { world with issued }
  | background (command : BackgroundCommand) (background : List BackgroundCommand) :
      Changes world (.background command) { world with background }
  | nothing (command : Command) : Changes world command world

/-- Each call changes only its own part of the world. -/
theorem exec_changes {command : Command} {reply : command.Reply}
    (executed : exec service command choice world = some (reply, next)) : Changes world command next := by
  cases command with
  | users command =>
      obtain ⟨users, _, rfl⟩ := exec_users executed
      exact .users command users
  | sessions command =>
      obtain ⟨sessions, _, rfl⟩ := exec_sessions executed
      exact .sessions command sessions
  | cache command =>
      obtain ⟨cache, same⟩ : ∃ cache, (execCache command choice world).2 = { world with cache } :=
        execCache_frame command
      rw [exec_cache executed] at same
      obtain rfl := same
      exact .cache command cache
  | resets command =>
      obtain ⟨otps, resetTokens, same⟩ :
          ∃ otps resetTokens, (execResets service command choice world).2 =
            { world with otps, resetTokens } := execResets_frame command
      rw [exec_resets executed] at same
      obtain rfl := same
      exact .resets command otps resetTokens
  | guard command =>
      obtain ⟨config, _, same⟩ := Option.map_eq_some_iff.mp executed
      obtain ⟨guard, frame⟩ : ∃ guard, (execGuard config command choice world).2 = { world with guard } :=
        execGuard_frame config command
      rw [same] at frame
      obtain rfl := frame
      exact .guard command guard
  | random command =>
      by_cases token : command = .token
      · subst token
        obtain ⟨_, rfl⟩ | ⟨plain, _, _, rfl⟩ := exec_draw executed
        · exact .nothing _
        · exact .draw _
      · rw [exec_random_other token executed]
        exact .nothing _
  | tokens command =>
      cases executed
      exact .nothing _
  | background command =>
      obtain ⟨background, same⟩ :
          ∃ background, execBackground service command world = { world with background } :=
        execBackground_frame command
      cases executed
      rw [same]
      exact .background command background
  | clock =>
      cases executed
      exact .nothing _

namespace Changes
variable {command : Command}

theorem keeps_users (changes : Changes world command next) (apart : ∀ call, command ≠ .users call) :
    next.users = world.users := by
  cases changes with
  | users call => exact absurd rfl (apart call)
  | _ => rfl

theorem keeps_sessions (changes : Changes world command next) (apart : ∀ call, command ≠ .sessions call) :
    next.sessions = world.sessions := by
  cases changes with
  | sessions call => exact absurd rfl (apart call)
  | _ => rfl

theorem keeps_guard (changes : Changes world command next) (apart : ∀ call, command ≠ .guard call) :
    next.guard = world.guard := by
  cases changes with
  | guard call => exact absurd rfl (apart call)
  | _ => rfl

theorem keeps_now (changes : Changes world command next) : next.now = world.now := by
  cases changes <;> rfl

theorem keeps_issued (changes : Changes world command next) (apart : command ≠ .random .token) :
    next.issued = world.issued := by
  cases changes with
  | draw => exact absurd rfl apart
  | _ => rfl

theorem keeps_cache (changes : Changes world command next) (apart : ∀ call, command ≠ .cache call) :
    next.cache = world.cache := by
  cases changes with
  | cache call => exact absurd rfl (apart call)
  | _ => rfl

theorem keeps_otps (changes : Changes world command next) (apart : ∀ call, command ≠ .resets call) :
    next.otps = world.otps := by
  cases changes with
  | resets call => exact absurd rfl (apart call)
  | _ => rfl

theorem keeps_resetTokens (changes : Changes world command next)
    (apart : ∀ call, command ≠ .resets call) : next.resetTokens = world.resetTokens := by
  cases changes with
  | resets call => exact absurd rfl (apart call)
  | _ => rfl

end Changes

/-- The surroundings change the clock and the cache only. -/
theorem drift_frame {tick : Tick} (drifted : drift tick world = some next) :
    ∃ cache now, next = { world with cache, now } := by
  cases tick with
  | clock time =>
      cases drifted
      exact ⟨_, _, rfl⟩
  | evict tokenHash =>
      cases drifted
      exact ⟨_, _, rfl⟩

end
end AuthService
