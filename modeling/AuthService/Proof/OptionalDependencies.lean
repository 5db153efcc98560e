/-
This file compares a service whose optional parts are nil with the complete service, goroutines included.
-/

import AuthService.Construction.Background
import AuthService.Concurrency.Projection
import AuthService.Proof.CacheConduct
import AuthService.Proof.SingleUse
import AuthService.Proof.Users

namespace AuthService
open Interleaving Program System

/-- The service with the no-op hook and an audit store that discards its events. -/
def Service.complete (service : Service) : Service := { service with auditStore := true, hook := true }

theorem handle_complete (service : Service) (request : Request) :
    handle service.complete request = handle service request := by
  cases request <;> rfl

theorem injects_complete (service : Service) (command : BackgroundCommand) :
    service.complete.injects command = true := by
  cases command <;> rfl

section Worlds
variable {store : SessionStore} (service : Service) (f : List BackgroundCommand → List BackgroundCommand)

/-- The world with other goroutines. -/
abbrev World.mapBackground (world : World store) : World store := { world with background := f world.background }

variable (choice : Choice) (world : World store)

theorem execCache_mapBackground (command : CacheCommand) :
    execCache command choice (world.mapBackground f) =
      ((execCache command choice world).1, (execCache command choice world).2.mapBackground f) := by
  cases command with
  | set tokenHash session ttl =>
      by_cases expired : ttl ≤ 0
      · simp only [execCache, if_pos expired]
      · simp only [execCache, if_neg expired]
        cases choice.lost <;> rfl
  | get tokenHash => rfl
  | delete tokenHash =>
      simp only [execCache]
      cases choice.lost <;> rfl

theorem incrOTPAttempts_mapBackground (email : String) :
    incrOTPAttempts service email (world.mapBackground f) =
      ((incrOTPAttempts service email world).1, (incrOTPAttempts service email world).2.mapBackground f) := by
  simp only [incrOTPAttempts, World.mapBackground]
  split
  · rfl
  · split
    · rfl
    · rename_i expiry _
      by_cases expired : expiry ≤ world.now
      · rw [if_pos expired, if_pos expired]
      · rw [if_neg expired, if_neg expired]

theorem execResets_mapBackground (command : ResetCommand) :
    execResets service command choice (world.mapBackground f) =
      ((execResets service command choice world).1, (execResets service command choice world).2.mapBackground f) := by
  cases command with
  | getOTP email => rfl
  | getResetToken tokenHash => rfl
  | incrOTPAttempts email =>
      simp only [execResets]
      cases choice.fails with
      | true => rfl
      | false => exact incrOTPAttempts_mapBackground service f world email
  | _ =>
      simp only [execResets]
      cases choice.fails <;> rfl

theorem execMemoryResets_mapBackground (command : ResetCommand) :
    execMemoryResets service command (world.mapBackground f) =
      ((execMemoryResets service command world).1, (execMemoryResets service command world).2.mapBackground f) := by
  cases command with
  | getOTP email | getResetToken tokenHash | incrOTPAttempts email =>
      simp only [execMemoryResets, World.mapBackground]
      split <;> rfl
  | _ => rfl

theorem execRandom_mapBackground (command : RandomCommand) :
    execRandom service command choice (world.mapBackground f) =
      (execRandom service command choice world).map fun result => (result.1, result.2.mapBackground f) := by
  cases command with
  | token =>
      simp only [execRandom]
      cases choice.fails with
      | true => rfl
      | false =>
          by_cases known : service.hash choice.token ∈ world.issued
          · simp only [Bool.false_eq_true, if_false, if_pos known, Option.map_none]
          · simp only [Bool.false_eq_true, if_false, if_neg known, Option.map_some]
  | otp => rfl
  | salt => rfl

/-- Only the calls that start a goroutine depend on the optional parts. -/
theorem execWith_complete (resets : ResetBackend) {command : Command} (apart : ∀ call, command ≠ .background call) :
    execWith service.complete resets command choice world = execWith service resets command choice world := by
  cases command with
  | background call => exact absurd rfl (apart call)
  | _ => rfl

/-- The other calls neither read nor change the goroutines. -/
theorem execWith_mapBackground (resets : ResetBackend) {command : Command}
    (apart : ∀ call, command ≠ .background call) :
    execWith service resets command choice (world.mapBackground f) =
      (execWith service resets command choice world).map fun result => (result.1, result.2.mapBackground f) := by
  cases command with
  | users command =>
      simp only [execWith, exec, Option.map_map]
      rfl
  | sessions command =>
      simp only [execWith, exec, Option.map_map]
      rfl
  | cache command => exact congrArg some (execCache_mapBackground f choice world command)
  | resets command =>
      cases resets with
      | redis => exact congrArg some (execResets_mapBackground service f choice world command)
      | memory => exact congrArg some (execMemoryResets_mapBackground service f world command)
  | guard command =>
      simp only [execWith, exec, Option.map_map]
      congr 1
      funext config
      cases command <;> rfl
  | random command => exact execRandom_mapBackground service f choice world command
  | tokens command => cases command <;> rfl
  | background call => exact absurd rfl (apart call)
  | clock => rfl

/-- A goroutine starts in the complete service and is shown when its interface is not nil. -/
theorem execBackground_shown (hooked : service.hook = true) (command : BackgroundCommand) :
    execBackground service command (world.mapBackground (List.filter service.injects)) =
      (execBackground service.complete command world).mapBackground (List.filter service.injects) := by
  cases command with
  | logAudit event =>
      cases audited : service.auditStore with
      | true =>
          have injected : service.injects (.logAudit event) = true := audited
          simp only [execBackground, audited, Service.complete, if_true, World.mapBackground,
            List.filter_cons_of_pos injected]
      | false =>
          have missing : ¬ service.injects (.logAudit event) = true := by simp only [Service.injects, audited]; decide
          simp only [execBackground, audited, Service.complete, if_true, Bool.false_eq_true, if_false,
            World.mapBackground, List.filter_cons_of_neg missing]
  | fireHook event =>
      have injected : service.injects (.fireHook event) = true := hooked
      simp only [execBackground, World.mapBackground, List.filter_cons_of_pos injected]

end Worlds

section Processes
variable {store : SessionStore} {service : Service} {resets : ResetBackend}

/-- The process without the goroutines of interfaces that the service does not have. -/
def Process.view (service : Service) (process : Process store) : Process store :=
  ⟨process.world.mapBackground (List.filter service.injects), process.panicked⟩

/-- The goroutines that only the complete service runs. -/
def ProcessTick.hidden (service : Service) : ProcessTick → Bool
  | .surroundings _ => false
  | .goroutine command => !service.injects command

theorem exec_view (hooked : service.hook = true) (command : Command) (choice : Choice) (process : Process store) :
    Process.exec service resets command choice (process.view service) =
      (Process.exec service.complete resets command choice process).map fun result =>
        (result.1, result.2.view service) := by
  obtain ⟨world, panicked⟩ := process
  cases panicked with
  | true => rfl
  | false =>
      simp only [Process.exec, Process.view, Bool.false_eq_true, if_false, Option.map_map]
      by_cases spawns : ∃ call, command = .background call
      · obtain ⟨call, rfl⟩ := spawns
        simp only [execWith, exec, Option.map_some, execBackground_shown service world hooked call]
        rfl
      · have apart (call : BackgroundCommand) : command ≠ .background call := fun same => spawns ⟨call, same⟩
        rw [execWith_complete service choice world resets apart,
          execWith_mapBackground service _ choice world resets apart, Option.map_map]
        rfl

/-- A goroutine whose interface is not nil runs in both services. -/
theorem drift_view (tick : ProcessTick) (process : Process store) (shown : tick.hidden service = false) :
    Process.drift service tick (process.view service) =
      (Process.drift service.complete tick process).map (Process.view service) := by
  obtain ⟨world, panicked⟩ := process
  cases panicked with
  | true => cases tick <;> rfl
  | false =>
      cases tick with
      | surroundings tick => cases tick <;> rfl
      | goroutine command =>
          have injected : service.injects command = true := by
            simpa only [ProcessTick.hidden, Bool.not_eq_false'] using shown
          have same : command ∈ world.background.filter service.injects ↔ command ∈ world.background := by
            simp only [List.mem_filter, injected, and_true]
          simp only [Process.drift, Process.view, Bool.false_eq_true, if_false, same]
          split
          · simp only [Process.finish, injected, injects_complete, if_true, Option.map_some, Process.view,
              List.erase_filter]
          · rfl

theorem not_mem_shown {command : BackgroundCommand} (unseen : (ProcessTick.goroutine command).hidden service = true)
    (background : List BackgroundCommand) : command ∉ background.filter service.injects := by
  have missing : service.injects command = false := by
    simpa only [ProcessTick.hidden, Bool.not_eq_true'] using unseen
  simp only [List.mem_filter, missing, Bool.false_eq_true, and_false, not_false_eq_true]

/-- With a hook the service is the part of the complete one that it shows. -/
theorem projects_complete (hooked : service.hook = true) :
    (processSystem resets service.complete store).Projects (processSystem resets service store) (Process.view service)
      (ProcessTick.hidden service) where
  handler := by
    funext request
    exact congrArg ExceptT.run (handle_complete service request).symm
  exec := exec_view hooked
  drift := drift_view
  silent := by
    rintro (tick | command) ⟨world, panicked⟩ next unseen moved
    · cases unseen
    · simp only [processSystem, Process.drift] at moved
      split at moved
      · cases moved
      · split at moved
        · obtain rfl := Option.some.inj moved
          simp only [Process.finish, injects_complete, if_true, Process.view, World.mapBackground,
            ← List.erase_filter, List.erase_of_not_mem (not_mem_shown unseen world.background)]
        · cases moved
  absent := by
    rintro (tick | command) ⟨world, panicked⟩ unseen
    · cases unseen
    · simp only [processSystem, Process.drift, Process.view, World.mapBackground,
        if_neg (not_mem_shown unseen world.background), ite_self]

/-- A call of a request does not end the process. -/
theorem process_exec {command : Command} {choice : Choice} {process next : Process store} {reply : command.Reply}
    (executed : Process.exec service resets command choice process = some (reply, next)) :
    ∃ world, execWith service resets command choice process.world = some (reply, world) ∧ next = ⟨world, false⟩ := by
  unfold Process.exec at executed
  split at executed
  · cases executed
  · obtain ⟨⟨result, world⟩, performed, same⟩ := Option.map_eq_some_iff.mp executed
    obtain ⟨rfl, rfl⟩ := Prod.mk.inj same
    exact ⟨world, performed, rfl⟩

/-- No goroutine of the complete service panics. -/
theorem drift_complete_running {tick : ProcessTick} {process next : Process store}
    (drifted : Process.drift service.complete tick process = some next) : next.panicked = false := by
  cases tick with
  | surroundings tick =>
      simp only [Process.drift] at drifted
      split at drifted
      · cases drifted
      · obtain ⟨world, _, rfl⟩ := Option.map_eq_some_iff.mp drifted
        rfl
  | goroutine command =>
      simp only [Process.drift] at drifted
      split at drifted
      · cases drifted
      · rename_i running
        split at drifted
        · obtain rfl := Option.some.inj drifted
          simpa only [Process.finish, injects_complete, if_true, Bool.not_eq_true] using running
        · cases drifted

theorem complete_never_panicked {world : World store} {requests : List Request} {config : ProcessConfig store}
    {allowed : ProcessConfig store → ProcessLabel → Prop}
    (reached : (processSystem resets service.complete store).Reaches allowed
      ((processSystem resets service.complete store).begin (Process.start world) requests) config) :
    config.world.panicked = false := by
  apply reached.invariant
  · rfl
  · intro config label next _ running _ moved
    obtain ⟨_, _, rfl⟩ | ⟨_, _, _, _, _, _, _, _, _, executed, rfl⟩ | ⟨_, _, _, drifted, rfl⟩ :=
      step_cases label moved
    · exact running
    · obtain ⟨_, _, rfl⟩ := process_exec executed
      rfl
    · exact drift_complete_running drifted

end Processes

section Guard
variable {service : Service}

/-- A method of the guard is called only when there is a guard. -/
def Guarded (service : Service) (command : Command) : Prop :=
  ∀ call, command = .guard call → service.bruteGuard.isSome = true

theorem guarded_of_apart {command : Command} (apart : ∀ call, command ≠ .guard call) : Guarded service command :=
  fun call same => absurd same (apart call)

theorem guarded_deletedHashes (reply : List String × Option StoreError) :
    (deletedHashes reply).run.Only (Guarded service) := by
  obtain ⟨hashes, error⟩ := reply
  cases error <;> trivial

theorem guarded_lookupSession (tokenHash : String) : (lookupSession tokenHash).run.Only (Guarded service) := by
  refine only_run_bind (only_run_perform (guarded_of_apart nofun)) fun cached => ?_
  cases cached with
  | ok cached => trivial
  | error miss =>
      refine only_run_bind (only_run_perform (guarded_of_apart nofun)) fun read => ?_
      exact only_run_bind (only_orStatus _ _ _) fun _ => trivial

theorem guarded_checkExpiry (tokenHash : String) (cached : CachedSession) :
    (checkExpiry tokenHash cached).run.Only (Guarded service) := by
  refine only_run_bind (only_run_perform (guarded_of_apart nofun)) fun now => ?_
  split
  · refine only_run_bind (only_run_perform (guarded_of_apart nofun)) fun _ => ?_
    exact only_run_bind (only_deleteSessionFromCache _ (guarded_of_apart nofun)) fun _ => trivial
  · trivial

theorem guarded_of_mild (command : Command) (_ : Neutral command) (apart : ∀ call, command ≠ .guard call) :
    Guarded service command := guarded_of_apart apart

theorem guarded_refreshToken (ctx : Context) (req : RefreshTokenRequest) :
    (refreshToken service ctx req).run.Only (Guarded service) := by
  refine only_run_bind (guarded_lookupSession _) fun cached => ?_
  refine only_run_bind (guarded_checkExpiry _ _) fun _ => ?_
  refine only_run_bind (only_run_perform (guarded_of_apart nofun)) fun signed => ?_
  refine only_run_bind (only_orInternal _) fun newAccessToken => ?_
  refine only_run_bind (only_run_perform (guarded_of_apart nofun)) fun drawn => ?_
  refine only_run_bind (only_orInternal _) fun newPlain => ?_
  refine only_run_bind (only_run_perform (guarded_of_apart nofun)) fun now => ?_
  refine only_run_bind (only_run_perform (guarded_of_apart nofun)) fun rotated => ?_
  refine only_run_bind (only_orStatus _ _ _) fun newSess => ?_
  refine only_run_bind (only_deleteSessionFromCache _ (guarded_of_apart nofun)) fun _ => ?_
  refine only_run_bind (only_cacheSession _ (guarded_of_apart nofun) (fun _ _ _ => guarded_of_apart nofun) _ _)
    fun _ => ?_
  exact only_reportReturn guarded_of_mild _ _ _ _ _ _ _ _

theorem guarded_logout (ctx : Context) (token : String) : (logout service ctx token).run.Only (Guarded service) := by
  refine only_run_bind ?_ fun owner => ?_
  · refine only_run_bind (only_run_perform (guarded_of_apart nofun)) fun cached => ?_
    cases cached <;> trivial
  refine only_run_bind (only_run_perform (guarded_of_apart nofun)) fun deleted => ?_
  refine only_run_bind (only_orInternalError _) fun _ => ?_
  refine only_run_bind (only_deleteSessionFromCache _ (guarded_of_apart nofun)) fun _ => ?_
  exact only_reportReturn guarded_of_mild _ _ _ _ _ _ _ _

theorem guarded_logoutAll (ctx : Context) : (logoutAll ctx).run.Only (Guarded service) := by
  refine only_run_bind (only_extractUserIDFromCtx guarded_of_mild ctx) fun userID => ?_
  refine only_run_bind (only_run_perform (guarded_of_apart nofun)) fun deleted => ?_
  refine only_run_bind (guarded_deletedHashes deleted) fun hashes => ?_
  refine only_run_bind (only_deleteHashes _ (fun _ => guarded_of_apart nofun) hashes) fun _ => ?_
  exact only_reportReturn guarded_of_mild _ _ _ _ _ _ _ _

theorem guarded_revokeSession (ctx : Context) (sessionID : String) :
    (revokeSession ctx sessionID).run.Only (Guarded service) := by
  refine only_run_bind (only_extractUserIDFromCtx guarded_of_mild ctx) fun userID => ?_
  refine only_run_bind (only_run_perform (guarded_of_apart nofun)) fun deleted => ?_
  refine only_run_bind (only_orStatus _ _ _) fun tokenHash => ?_
  refine only_run_bind (only_deleteSessionFromCache _ (guarded_of_apart nofun)) fun _ => ?_
  exact only_reportReturn guarded_of_mild _ _ _ _ _ _ _ _

theorem guarded_changePassword (ctx : Context) (req : ChangePasswordRequest) :
    (changePassword service ctx req).run.Only (Guarded service) := by
  refine only_run_bind (only_extractUserIDFromCtx guarded_of_mild ctx) fun userID => ?_
  refine only_run_bind (only_checkArgument _) fun _ => ?_
  refine only_run_bind (only_run_perform (guarded_of_apart nofun)) fun read => ?_
  refine only_run_bind (only_orInternalError _) fun user => ?_
  refine only_run_bind (only_checkCurrentPassword _ service user _) fun _ => ?_
  refine only_run_bind (only_hashPassword _ (guarded_of_apart nofun) _ _) fun newHash => ?_
  refine only_run_bind (only_run_perform (guarded_of_apart nofun)) fun updated => ?_
  refine only_run_bind (only_orInternalError _) fun _ => ?_
  refine only_run_bind (only_run_perform (guarded_of_apart nofun)) fun deleted => ?_
  refine only_run_bind (only_deleteHashes _ (fun _ => guarded_of_apart nofun) deleted.1) fun _ => ?_
  exact only_reportReturn guarded_of_mild _ _ _ _ _ _ _ _

theorem guarded_resetPassword (ctx : Context) (req : ResetPasswordRequest) :
    (resetPassword service ctx req).run.Only (Guarded service) := by
  refine only_run_bind (only_checkArgument _) fun _ => ?_
  refine only_run_bind (only_run_perform (guarded_of_apart nofun)) fun read => ?_
  refine only_run_bind (only_orStatus _ _ _) fun tokenRec => ?_
  refine only_run_bind (only_run_perform (guarded_of_apart nofun)) fun dropped => ?_
  refine only_run_bind (only_orInternalError _) fun _ => ?_
  refine only_run_bind (only_hashPassword _ (guarded_of_apart nofun) _ _) fun newHash => ?_
  refine only_run_bind (only_run_perform (guarded_of_apart nofun)) fun updated => ?_
  refine only_run_bind (only_orInternalError _) fun _ => ?_
  refine only_run_bind (only_run_perform (guarded_of_apart nofun)) fun deleted => ?_
  refine only_run_bind (only_deleteHashes _ (fun _ => guarded_of_apart nofun) deleted.1) fun _ => ?_
  exact only_reportReturn guarded_of_mild _ _ _ _ _ _ _ _

/-- Every request asks whether there is a guard before it calls it. -/
theorem guarded_handle (request : Request) : (handle service request).run.Only (Guarded service) := by
  cases request with
  | register ctx req => exact only_register guarded_of_mild ctx req
  | login ctx req => exact only_login guarded_of_mild (fun guarded _ _ _ => guarded) ctx req
  | validateToken token => exact only_validateToken guarded_of_mild token
  | refreshToken ctx req => exact guarded_refreshToken ctx req
  | logout ctx token => exact guarded_logout ctx token
  | logoutAll ctx => exact guarded_logoutAll ctx
  | listSessions ctx => exact only_listSessions guarded_of_mild ctx
  | revokeSession ctx sessionID => exact guarded_revokeSession ctx sessionID
  | changePassword ctx req => exact guarded_changePassword ctx req
  | requestPasswordReset ctx email => exact only_requestPasswordReset guarded_of_mild ctx email
  | verifyResetCode ctx req => exact only_verifyResetCode guarded_of_mild req
  | resetPassword ctx req => exact guarded_resetPassword ctx req

/-- No reached request is about to call a method of a nil guard. -/
theorem reached_guarded {store : SessionStore} {resets : ResetBackend} {world : World store} {requests : List Request}
    {config : ProcessConfig store} {allowed : ProcessConfig store → ProcessLabel → Prop}
    (reached : (processSystem resets service store).Reaches allowed
      ((processSystem resets service store).begin (Process.start world) requests) config)
    {task : Nat} {call : GuardCommand} (next : config.Next task (.guard call)) : service.bruteGuard.isSome = true := by
  have handlers (request : Request) : ((processSystem resets service store).handler request).Follows
      (fun _ command => Guarded service command) (fun _ _ => True) [] :=
    follows_of_only (guarded_handle request) (fun _ _ guarded => guarded) (fun _ _ _ _ _ => trivial) [] trivial
  obtain ⟨request, rest, selected⟩ := next
  exact (reached.disciplined handlers).next_permitted selected call rfl

end Guard

section Hashes
variable {store : SessionStore} {service : Service} {resets : ResetBackend} {choice : Choice} {world next : World store}

/-- Calls on the other ports keep the users table. -/
theorem execWith_users {command : Command} {reply : command.Reply} (apart : ∀ call, command ≠ .users call)
    (executed : execWith service resets command choice world = some (reply, next)) : next.users = world.users := by
  by_cases ordinary : exec service command choice world = some (reply, next)
  · exact (exec_changes ordinary).keeps_users apart
  · cases command with
    | resets call =>
        cases resets with
        | redis => exact absurd executed ordinary
        | memory =>
            have same : execMemoryResets service call world = (reply, next) := Option.some.inj executed
            have kept : (execMemoryResets service call world).2.users = world.users := by
              cases call with
              | getOTP email | getResetToken tokenHash | incrOTPAttempts email =>
                  simp only [execMemoryResets]
                  split <;> rfl
              | _ => rfl
            rw [same] at kept
            exact kept
    | _ => exact absurd executed ordinary

/-- `password.Verify` can use a stored hash. -/
def Usable (service : Service) (users : UserTable) : Prop :=
  ∀ user ∈ users.rows, service.verifyPanics user.passwordHash = false

/-- Requests write the hashes that `password.Hash` makes. -/
theorem written_of_permits {request : Request} {past : Past} {passwordHash : String} :
    (∀ {email}, Permits service request past (.users (.create email passwordHash)) →
      ∃ salt plaintext, passwordHash = service.hashPassword salt plaintext) ∧
    ∀ {userID}, Permits service request past (.users (.updatePasswordHash userID passwordHash)) →
      ∃ salt plaintext, passwordHash = service.hashPassword salt plaintext := by
  refine ⟨fun permitted => ?_, fun permitted => ?_⟩
  · cases permitted with
    | free harmless => cases harmless
    | register first => exact ⟨_, _, rfl⟩
  · cases permitted with
    | free harmless => cases harmless
    | change grant first =>
        obtain ⟨salt, same⟩ := grant.hashed
        exact ⟨salt, _, same⟩
    | reset grant dropped => exact ⟨_, _, rfl⟩

/-- A permitted call keeps the stored hashes usable. -/
theorem Usable.kept {request : Request} {past : Past} {command : Command} {reply : command.Reply}
    (hashes : ∀ salt plaintext, service.verifyPanics (service.hashPassword salt plaintext) = false)
    (usable : Usable service world.users) (permitted : Permits service request past command)
    (executed : execWith service resets command choice world = some (reply, next)) : Usable service next.users := by
  by_cases call : ∃ call, command = .users call
  · obtain ⟨call, rfl⟩ := call
    have ordinary : exec service (.users call) choice world = some (reply, next) := executed
    obtain ⟨users, performed, rfl⟩ := exec_users ordinary
    intro user member
    rcases UserTable.exec_cases performed with rfl | ⟨email, passwordHash, id, rfl, rows⟩ |
      ⟨userID, passwordHash, rfl, rows⟩
    · exact usable user member
    · rw [rows] at member
      rcases List.mem_cons.mp member with rfl | before
      · obtain ⟨salt, plaintext, rfl⟩ := written_of_permits.1 permitted
        exact hashes salt plaintext
      · exact usable user before
    · rw [rows] at member
      obtain ⟨old, before, rfl⟩ := List.mem_map.mp member
      unfold UserTable.withPassword
      split
      · obtain ⟨salt, plaintext, rfl⟩ := written_of_permits.2 permitted
        exact hashes salt plaintext
      · exact usable old before
  · rw [execWith_users (fun other same => call ⟨other, same⟩) executed]
    exact usable

theorem process_drift_users {tick : ProcessTick} {process after : Process store}
    (drifted : Process.drift service tick process = some after) : after.world.users = process.world.users := by
  cases tick with
  | surroundings tick =>
      simp only [Process.drift] at drifted
      split at drifted
      · cases drifted
      · obtain ⟨world, moved, rfl⟩ := Option.map_eq_some_iff.mp drifted
        obtain ⟨cache, now, rfl⟩ := drift_frame moved
        rfl
  | goroutine command =>
      simp only [Process.drift, Process.finish] at drifted
      split at drifted
      · cases drifted
      · split at drifted
        · split at drifted <;> cases drifted <;> rfl
        · cases drifted

/-- A user that is read is in the table, with either reset store. -/
theorem readUser_with {command : Command} {reply : command.Reply} {task : Nat} {user : User}
    (executed : execWith service resets command choice world = some (reply, next))
    (read : readUser ⟨task, command, reply⟩ = some user) : user ∈ world.users.rows := by
  cases command with
  | users call =>
      have ordinary : exec service (.users call) choice world = some (reply, next) := executed
      exact readUser_found ordinary read
  | _ => cases read

/-- Every user that was read has a usable hash. -/
theorem reached_usable {requests : List Request} {config : ProcessConfig store}
    {allowed : ProcessConfig store → ProcessLabel → Prop}
    (hashes : ∀ salt plaintext, service.verifyPanics (service.hashPassword salt plaintext) = false)
    (usable : Usable service world.users)
    (reached : (processSystem resets service store).Reaches allowed
      ((processSystem resets service store).begin (Process.start world) requests) config) :
    Usable service config.world.world.users ∧
      ∀ event ∈ config.history, ∀ user, readUser event = some user →
        service.verifyPanics user.passwordHash = false := by
  apply reached.invariant
  · exact ⟨usable, fun _ member => absurd member List.not_mem_nil⟩
  · intro config label next reached known _ moved
    have disciplined : Disciplined (Permits service) (Finishes service) config :=
      reached.disciplined (follows_handle service)
    obtain ⟨_, _, rfl⟩ | ⟨task, choice, request, command, rest, reply, process, _, selected, executed, rfl⟩ |
      ⟨tick, process, _, drifted, rfl⟩ := step_cases label moved
    · exact known
    · obtain ⟨after, performed, rfl⟩ := process_exec executed
      refine ⟨known.1.kept hashes (disciplined.next_permitted selected) performed, fun event member user read => ?_⟩
      rcases List.mem_cons.mp member with rfl | before
      · exact known.1 user (readUser_with performed read)
      · exact known.2 event before user read
    · rw [process_drift_users drifted]
      exact known

theorem readUser_of_checks {config : ProcessConfig store} {task : Nat} {user : User}
    (checks : ChecksHash config task user) : ∃ event ∈ config.history, readUser event = some user := by
  obtain ⟨past, ⟨ctx, req, _, newest⟩ | ⟨ctx, req, userID, _, newest⟩⟩ := checks
  · exact ⟨⟨task, _⟩, (mem_transcript ..).mp (newest ▸ List.mem_cons_self), rfl⟩
  · exact ⟨⟨task, _⟩, (mem_transcript ..).mp (newest ▸ List.mem_cons_self), rfl⟩

end Hashes

section Outcomes
variable {store : SessionStore}

/-- Two processes have given the same answers and left the same stores. -/
structure SameOutcome (first second : ProcessConfig store) : Prop where
  tasks : first.tasks = second.tasks
  world : { first.world.world with background := [] } = { second.world.world with background := [] }

/-- A service acts as the complete one when no nil dereference is reached, every schedule of it is a schedule
of the complete service, and every schedule of the complete service is one of it without the goroutines that it
does not start. -/
structure ActsComplete (resets : ResetBackend) (service : Service) (world : World store) : Prop where
  safe : ∀ labels config, (processSystem resets service store).run anything labels
    ((processSystem resets service store).begin (Process.start world) []) = some config → ¬ Panics service config
  sound : ∀ labels config, (processSystem resets service store).run anything labels
    ((processSystem resets service store).begin (Process.start world) []) = some config →
    ∃ other, (processSystem resets service.complete store).run anything labels
      ((processSystem resets service.complete store).begin (Process.start world) []) = some other ∧
      SameOutcome config other
  possible : ∀ labels other, (processSystem resets service.complete store).run anything labels
    ((processSystem resets service.complete store).begin (Process.start world) []) = some other →
    ∃ config, (processSystem resets service store).run anything
      (labels.filter (Label.shown (ProcessTick.hidden service)))
      ((processSystem resets service store).begin (Process.start world) []) = some config ∧ SameOutcome config other

theorem sameOutcome_view (service : Service) (config : ProcessConfig store) :
    SameOutcome (config.view (Process.view service)) config := ⟨rfl, rfl⟩

variable {resets : ResetBackend} {service : Service} {world : World store}

theorem actsComplete_of_hook
    (hashes : ∀ salt plaintext, service.verifyPanics (service.hashPassword salt plaintext) = false)
    (usable : Usable service world.users) (hooked : service.hook = true) : ActsComplete resets service world := by
  have projects : (processSystem resets service.complete store).Projects (processSystem resets service store)
    (Process.view service) (ProcessTick.hidden service) := projects_complete hooked
  have same : ((processSystem resets service.complete store).begin (Process.start world) []).view
      (Process.view service) = (processSystem resets service store).begin (Process.start world) [] :=
    projects.begin_view _ _
  refine ⟨?_, ?_, ?_⟩
  · rintro labels config accepted (panicked | ⟨unguarded, task, call, next⟩ | ⟨task, user, checks, panics⟩)
    · rw [← same] at accepted
      obtain ⟨other, ran, rfl⟩ := projects.run_whole labels accepted
      exact absurd panicked (by simp [Config.view, Process.view, complete_never_panicked (reaches_run labels ran)])
    · have guarded := reached_guarded (reaches_run labels accepted) next
      rw [unguarded] at guarded
      cases guarded
    · obtain ⟨event, member, read⟩ := readUser_of_checks checks
      have known := (reached_usable hashes usable (reaches_run labels accepted)).2 event member user read
      rw [known] at panics
      cases panics
  · intro labels config accepted
    rw [← same] at accepted
    obtain ⟨other, ran, rfl⟩ := projects.run_whole labels accepted
    exact ⟨other, ran, sameOutcome_view service other⟩
  · intro labels other accepted
    have ran := projects.run_part labels accepted
    rw [same] at ran
    exact ⟨_, ran, sameOutcome_view service other⟩

/-- The event of a logout whose session is not in the cache. -/
def logoutEvent (ctx : Context) : HookEvent :=
  ⟨.logout, "", "", (extractClientInfo ctx).ipAddress, (extractClientInfo ctx).userAgent, []⟩

/-- A logout that misses the cache, up to its answer. -/
def logoutLabels (ctx : Context) (token : String) : List ProcessLabel :=
  .start (.logout ctx token) :: .advance 0 { fails := true } :: List.replicate 4 (.advance 0 {})

/-- A logout is answered, and its last goroutine calls the hook. -/
theorem logout_fires (resets : ResetBackend) (service : Service) (backend : Backend) (world : World backend.store)
    (ctx : Context) (token : String) :
    ∃ config, (processSystem resets service backend.store).run anything (logoutLabels ctx token)
      ((processSystem resets service backend.store).begin (Process.start world) []) = some config ∧
      config.Answered 0 (.ok .logout) ∧ config.world.panicked = false ∧
      .fireHook (logoutEvent ctx) ∈ config.world.world.background := by
  cases backend with
  | memory => exact ⟨_, rfl, rfl, rfl, List.mem_cons_self⟩
  | postgres db => exact ⟨_, rfl, rfl, rfl, List.mem_cons_self⟩

/-- A started goroutine that calls a nil interface ends the process. -/
theorem step_panics {config : ProcessConfig store} {command : BackgroundCommand}
    (running : config.world.panicked = false) (started : command ∈ config.world.world.background)
    (missing : service.injects command = false) :
    (processSystem resets service store).step config (.drift (.goroutine command)) =
      some { config with world := { config.world with panicked := true } } := by
  simp only [step, processSystem, Process.drift, running, Bool.false_eq_true, if_false, if_pos started,
    Process.finish, missing, Option.map_some]

/-- Without a hook any logout that misses the cache ends the process after its answer. -/
theorem logout_panics (resets : ResetBackend) (service : Service) (hookless : service.hook = false)
    (backend : Backend) (world : World backend.store) (ctx : Context) (token : String) :
    ∃ config, (processSystem resets service backend.store).run anything
      (logoutLabels ctx token ++ [.drift (.goroutine (.fireHook (logoutEvent ctx)))])
      ((processSystem resets service backend.store).begin (Process.start world) []) = some config ∧
      config.Answered 0 (.ok .logout) ∧ config.world.panicked = true := by
  obtain ⟨ready, ran, answered, running, started⟩ := logout_fires resets service backend world ctx token
  refine ⟨{ ready with world := { ready.world with panicked := true } }, ?_, answered, rfl⟩
  rw [run_anything_append, ran, Option.bind_some, run_anything_cons, step_panics running started hookless]
  rfl

end Outcomes

/-- The audit store and the guard are optional, and the hook is not: when the stored hashes can be checked, the
service acts as the complete one exactly when its hook is not nil. -/
theorem optional_dependencies_iff (resets : ResetBackend) (service : Service) (backend : Backend)
    (hashes : ∀ salt plaintext, service.verifyPanics (service.hashPassword salt plaintext) = false)
    (world : World backend.store) (usable : Usable service world.users) :
    ActsComplete resets service world ↔ service.hook = true := by
  constructor
  · intro acts
    cases hookless : service.hook with
    | true => rfl
    | false =>
        obtain ⟨config, ran, _, panicked⟩ := logout_panics resets service hookless backend world bareContext ""
        exact absurd (.inl panicked) (acts.safe _ config ran)
  · exact actsComplete_of_hook hashes usable

/-- Without an audit store and without a guard the sample service acts as the complete one on empty stores. -/
theorem sample_acts_complete : ActsComplete .redis sample (World.empty memory zeroTime) :=
  (optional_dependencies_iff .redis sample .memory (fun _ _ => rfl) (World.empty memory zeroTime)
    fun _ member => absurd member List.not_mem_nil).mpr rfl

/-- A service without a hook answers one logout and then panics. -/
theorem nil_hook_panics :
    ∃ config, (processSystem .redis { sample with hook := false } memory).run anything
      (logoutLabels bareContext "token" ++ [.drift (.goroutine (.fireHook ⟨.logout, "", "", "", "", []⟩))])
      ((processSystem .redis { sample with hook := false } memory).begin
        (Process.start (World.empty memory zeroTime)) []) = some config ∧
      config.Answered 0 (.ok .logout) ∧ Panics { sample with hook := false } config := by
  obtain ⟨config, ran, answered, panicked⟩ :=
    logout_panics .redis { sample with hook := false } rfl .memory (World.empty memory zeroTime) bareContext "token"
  exact ⟨config, ran, answered, .inl panicked⟩

end AuthService
