/-
This file proves where the records of the reset store come from.
-/

import AuthService.Proof.Expiry
import AuthService.Proof.Ledger

namespace AuthService
open Interleaving System

section
variable {service : Service} {store : SessionStore} {choice : Choice} {world next : World store}

theorem getResetToken_found {tokenHash : String} {found : ResetTokenRecord}
    (executed : exec service (.resets (.getResetToken tokenHash)) choice world = some (.ok found, next)) :
    ∃ entry, world.resetTokens tokenHash = some entry ∧ entry.value = found := by
  have replied := congrArg Prod.fst (exec_resets executed)
  simp only [execResets] at replied
  split at replied
  · cases replied
  · split at replied
    · rename_i value seen
      cases replied
      exact lookup_eq_some seen
    · cases replied

theorem getOTP_found {email : String} {found : OTPRecord}
    (executed : exec service (.resets (.getOTP email)) choice world = some (.ok found, next)) :
    ∃ entry, world.otps (service.hash email) = some entry ∧ entry.value = found := by
  have replied := congrArg Prod.fst (exec_resets executed)
  simp only [execResets] at replied
  split at replied
  · cases replied
  · split at replied
    · rename_i value seen
      cases replied
      exact lookup_eq_some seen
    · cases replied

/-- A deletion that reports success leaves no record. -/
theorem deleteResetToken_ok {tokenHash : String}
    (executed : exec service (.resets (.deleteResetToken tokenHash)) choice world = some (.ok (), next)) :
    next.resetTokens tokenHash = none := by
  have performed := exec_resets executed
  simp only [execResets] at performed
  split at performed
  · cases performed
  · cases performed
    simp

/-- The call changes the code record of this key. -/
def ResetCommand.ChangesCode (service : Service) : ResetCommand → String → Prop
  | .saveOTP _ email _ _, key => service.hash email = key
  | .incrOTPAttempts email, key => service.hash email = key
  | .deleteOTP email, key => service.hash email = key
  | _, _ => False

theorem execResets_code {command : ResetCommand} {key : String} (apart : ¬ command.ChangesCode service key) :
    (execResets service command choice world).2.otps key = world.otps key := by
  cases command with
  | saveOTP userID email otpHash ttl =>
      simp only [execResets]
      split
      · rfl
      · exact Function.update_of_ne (fun same => apart same.symm) _ _
  | incrOTPAttempts email =>
      simp only [execResets, incrOTPAttempts]
      repeat' split
      all_goals first | rfl | exact Function.update_of_ne (fun same => apart same.symm) _ _
  | deleteOTP email =>
      simp only [execResets]
      split
      · rfl
      · exact Function.update_of_ne (fun same => apart same.symm) _ _
  | saveResetToken tokenHash userID email ttl =>
      simp only [execResets]
      split <;> rfl
  | deleteResetToken tokenHash =>
      simp only [execResets]
      split <;> rfl
  | getOTP email => rfl
  | getResetToken tokenHash => rfl

/-- The call changes the reset-token record of this key. -/
def ResetCommand.ChangesToken : ResetCommand → String → Prop
  | .saveResetToken tokenHash _ _ _, key => tokenHash = key
  | .deleteResetToken tokenHash, key => tokenHash = key
  | _, _ => False

theorem execResets_token {command : ResetCommand} {key : String} (apart : ¬ command.ChangesToken key) :
    (execResets service command choice world).2.resetTokens key = world.resetTokens key := by
  cases command with
  | saveResetToken tokenHash userID email ttl =>
      simp only [execResets]
      split
      · rfl
      · exact Function.update_of_ne (fun same => apart same.symm) _ _
  | deleteResetToken tokenHash =>
      simp only [execResets]
      split
      · rfl
      · exact Function.update_of_ne (fun same => apart same.symm) _ _
  | incrOTPAttempts email =>
      simp only [execResets, incrOTPAttempts]
      repeat' split
      all_goals rfl
  | saveOTP userID email otpHash ttl =>
      simp only [execResets]
      split <;> rfl
  | deleteOTP email =>
      simp only [execResets]
      split <;> rfl
  | getOTP email => rfl
  | getResetToken tokenHash => rfl

/-- A reset-token record appears only by a save that reports success. -/
theorem exec_resetTokens {command : Command} {reply : command.Reply}
    (executed : exec service command choice world = some (reply, next)) {tokenHash : String}
    {entry : Expiring ResetTokenRecord} (present : next.resetTokens tokenHash = some entry) :
    world.resetTokens tokenHash = some entry ∨ ∃ ttl, (⟨command, reply⟩ : Exchange Ports) =
      ⟨.resets (.saveResetToken tokenHash entry.value.userID entry.value.email ttl), .ok ()⟩ := by
  by_cases call : ∃ call, command = .resets call
  · obtain ⟨call, rfl⟩ := call
    have performed := exec_resets executed
    by_cases changes : call.ChangesToken tokenHash
    · cases call with
      | saveResetToken savedHash userID email ttl =>
          obtain rfl : savedHash = tokenHash := changes
          simp only [execResets] at performed
          split at performed
          · cases performed
            exact .inl present
          · cases performed
            simp only [Function.update_self, Option.some.injEq] at present
            subst present
            exact .inr ⟨ttl, rfl⟩
      | deleteResetToken deletedHash =>
          obtain rfl : deletedHash = tokenHash := changes
          simp only [execResets] at performed
          split at performed
          · cases performed
            exact .inl present
          · cases performed
            simp at present
      | _ => exact changes.elim
    · obtain rfl := congrArg Prod.snd performed
      exact .inl ((execResets_token changes).symm.trans present)
  · rw [(exec_changes executed).keeps_resetTokens fun other same => call ⟨other, same⟩] at present
    exact .inl present

/-- Counting keeps the user and the code of the record. -/
theorem incrOTPAttempts_keeps {email : String} {reply : Except StoreError Int}
    (performed : execResets service (.incrOTPAttempts email) choice world = (reply, next)) {entry : Expiring OTPRecord}
    (present : next.otps (service.hash email) = some entry) :
    ∃ old, world.otps (service.hash email) = some old ∧ old.value.userID = entry.value.userID ∧
      old.value.otpHash = entry.value.otpHash := by
  simp only [execResets] at performed
  split at performed
  · cases performed
    exact ⟨entry, present, rfl, rfl⟩
  · unfold incrOTPAttempts at performed
    split at performed
    · cases performed
      exact ⟨entry, present, rfl, rfl⟩
    · rename_i old found
      repeat' split at performed
      · cases performed
        exact ⟨entry, present, rfl, rfl⟩
      · cases performed
        exact ⟨entry, present, rfl, rfl⟩
      · cases performed
        simp only [Function.update_self, Option.some.injEq] at present
        subst present
        exact ⟨old, found, rfl, rfl⟩

/-- A code record appears only by a save that reports success, and counting keeps its user and code. -/
theorem exec_otps {command : Command} {reply : command.Reply}
    (executed : exec service command choice world = some (reply, next)) {key : String}
    {entry : Expiring OTPRecord} (present : next.otps key = some entry) :
    (∃ old, world.otps key = some old ∧ old.value.userID = entry.value.userID ∧
      old.value.otpHash = entry.value.otpHash) ∨
    ∃ email ttl, service.hash email = key ∧ (⟨command, reply⟩ : Exchange Ports) =
      ⟨.resets (.saveOTP entry.value.userID email entry.value.otpHash ttl), .ok ()⟩ := by
  have kept (same : next.otps key = world.otps key) : ∃ old, world.otps key = some old ∧
      old.value.userID = entry.value.userID ∧ old.value.otpHash = entry.value.otpHash :=
    ⟨entry, same.symm.trans present, rfl, rfl⟩
  by_cases call : ∃ call, command = .resets call
  · obtain ⟨call, rfl⟩ := call
    have performed := exec_resets executed
    by_cases changes : call.ChangesCode service key
    · cases call with
      | saveOTP userID email otpHash ttl =>
          obtain rfl : service.hash email = key := changes
          simp only [execResets] at performed
          split at performed
          · cases performed
            exact .inl (kept rfl)
          · cases performed
            simp only [Function.update_self, Option.some.injEq] at present
            subst present
            exact .inr ⟨email, ttl, rfl, rfl⟩
      | deleteOTP email =>
          obtain rfl : service.hash email = key := changes
          simp only [execResets] at performed
          split at performed
          · cases performed
            exact .inl (kept rfl)
          · cases performed
            simp at present
      | incrOTPAttempts email =>
          obtain rfl : service.hash email = key := changes
          obtain ⟨old, found, user, code⟩ := incrOTPAttempts_keeps performed present
          exact .inl ⟨old, found, user, code⟩
      | _ => exact changes.elim
    · obtain rfl := congrArg Prod.snd performed
      exact .inl (kept (execResets_code changes))
  · exact .inl (kept (congrFun ((exec_changes executed).keeps_otps fun other same => call ⟨other, same⟩) key))

end

/-- The records of a configuration stem from events of its history. -/
structure Recorded {store : SessionStore} (service : Service) (config : ServiceConfig store) : Prop where
  tokens : ∀ tokenHash entry, config.world.resetTokens tokenHash = some entry →
    ∃ task ttl, (⟨task, .resets (.saveResetToken tokenHash entry.value.userID entry.value.email ttl),
      .ok ()⟩ : Event Ports) ∈ config.history
  codes : ∀ key entry, config.world.otps key = some entry →
    ∃ task email ttl, service.hash email = key ∧
      (⟨task, .resets (.saveOTP entry.value.userID email entry.value.otpHash ttl), .ok ()⟩ :
        Event Ports) ∈ config.history

/-- A record that is read was saved before. -/
def Provenance (service : Service) : Event Ports → List (Event Ports) → Prop
  | ⟨_, .resets (.getResetToken tokenHash), .ok found⟩, past =>
      ∃ task ttl, (⟨task, .resets (.saveResetToken tokenHash found.userID found.email ttl), .ok ()⟩ :
        Event Ports) ∈ past
  | ⟨_, .resets (.getOTP email), .ok found⟩, past =>
      ∃ task email' ttl, service.hash email' = service.hash email ∧
        (⟨task, .resets (.saveOTP found.userID email' found.otpHash ttl), .ok ()⟩ : Event Ports) ∈ past
  | _, _ => True

section
variable {service : Service} {store : SessionStore} {now : Time} {requests : List Request}
variable {allowed : ServiceConfig store → ServiceLabel → Prop} {config : ServiceConfig store}

theorem reaches_recorded
    (reached : (system service store).Reaches allowed
      ((system service store).begin (World.empty store now) requests) config) :
    Recorded service config := by
  refine reached.invariant ⟨?_, ?_⟩ ?_
  · intro tokenHash entry present
    cases present
  · intro key entry present
    cases present
  · intro config label next reached recorded _ moved
    obtain ⟨_, _, rfl⟩ | ⟨task, choice, request, command, rest, reply, world, _, selected, executed, rfl⟩ |
      ⟨tick, world, _, drifted, rfl⟩ := service_cases moved
    · exact ⟨recorded.tokens, recorded.codes⟩
    · refine ⟨?_, ?_⟩
      · intro tokenHash entry present
        rcases exec_resetTokens executed present with old | ⟨ttl, same⟩
        · obtain ⟨saver, ttl, member⟩ := recorded.tokens tokenHash entry old
          exact ⟨saver, ttl, List.mem_cons_of_mem _ member⟩
        · exact ⟨task, ttl, by rw [same]; exact List.mem_cons_self⟩
      · intro key entry present
        rcases exec_otps executed present with ⟨old, before, user, code⟩ | ⟨email, ttl, hashed, same⟩
        · obtain ⟨saver, email, ttl, hashed, member⟩ := recorded.codes key old before
          rw [user, code] at member
          exact ⟨saver, email, ttl, hashed, List.mem_cons_of_mem _ member⟩
        · exact ⟨task, email, ttl, hashed, by rw [same]; exact List.mem_cons_self⟩
    · obtain ⟨cache, now, rfl⟩ := drift_frame drifted
      exact ⟨recorded.tokens, recorded.codes⟩

theorem reaches_provenance
    (reached : (system service store).Reaches allowed
      ((system service store).begin (World.empty store now) requests) config) :
    Explained (Provenance service) config.history := by
  apply reaches_explained reached
  intro config task request command rest choice reply world reached selected executed
  have recorded := reaches_recorded reached
  unfold Provenance
  split
  · rename_i same
    cases same
    obtain ⟨entry, present, rfl⟩ := getResetToken_found executed
    exact recorded.tokens _ entry present
  · rename_i same
    cases same
    obtain ⟨entry, present, rfl⟩ := getOTP_found executed
    exact recorded.codes _ entry present
  · trivial

/-- A reset token that was found had been saved. -/
theorem saved_of_found
    (reached : (system service store).Reaches allowed
      ((system service store).begin (World.empty store now) requests) config)
    {task : Nat} {tokenHash : String} {found : ResetTokenRecord}
    (read : (⟨task, .resets (.getResetToken tokenHash), .ok found⟩ : Event Ports) ∈ config.history) :
    ∃ saver ttl, (⟨saver, .resets (.saveResetToken tokenHash found.userID found.email ttl), .ok ()⟩ :
      Event Ports) ∈ config.history := by
  obtain ⟨later, past, same, saver, ttl, saved⟩ := (reaches_provenance reached).mem read
  refine ⟨saver, ttl, ?_⟩
  rw [same]
  exact List.mem_append_right _ (List.mem_cons_of_mem _ saved)

end
end AuthService
