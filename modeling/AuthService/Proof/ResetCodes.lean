/-
This file states what each call does to the code record of an address, for either reset store.
-/

import AuthService.Construction.ResetStores
import AuthService.Proof.ResetRecords

namespace AuthService
open Interleaving

/-- The exchange saved a code under the key. -/
def savesCode (service : Service) (key : String) : Exchange Ports → Bool
  | ⟨.resets (.saveOTP _ email _ _), .ok _⟩ => service.hash email = key
  | _ => false

/-- The number that the exchange counted for the code under the key. -/
def countedCode (service : Service) (key : String) : Exchange Ports → Option Int
  | ⟨.resets (.incrOTPAttempts email), .ok attempts⟩ => if service.hash email = key then some attempts else none
  | _ => none

/-- The exchange deleted the code under the key. -/
def dropsCode (service : Service) (key : String) : Exchange Ports → Bool
  | ⟨.resets (.deleteOTP email), .ok _⟩ => service.hash email = key
  | _ => false

/-- The ways in which a call leaves the code record of a key. -/
inductive CodeChange (service : Service) (key : String) (exchange : Exchange Ports)
    (before after : Option (Expiring OTPRecord)) : Prop where
  | kept (unsaved : savesCode service key exchange = false) (uncounted : countedCode service key exchange = none)
      (undropped : dropsCode service key exchange = false) (same : after = before)
  | gone (unsaved : savesCode service key exchange = false) (uncounted : countedCode service key exchange = none)
      (none : after = none)
  | saved {record : OTPRecord} {expiry : Option Time} (saves : savesCode service key exchange = true)
      (uncounted : countedCode service key exchange = none) (new : after = some ⟨record, expiry⟩)
      (fresh : record.attempts = 0)
  | counted {entry : Expiring OTPRecord} (unsaved : savesCode service key exchange = false)
      (undropped : dropsCode service key exchange = false)
      (counts : countedCode service key exchange = some (entry.value.attempts + 1)) (present : before = some entry)
      (next : after = some { entry with value := { entry.value with attempts := entry.value.attempts + 1 } })

section Updates
variable {service : Service} {otps : String → Option (Expiring OTPRecord)} {email : String}

theorem CodeChange.of_save (key userID otpHash : String) (ttl : Duration) (expiry : Option Time) :
    CodeChange service key ⟨.resets (.saveOTP userID email otpHash ttl), .ok ()⟩ (otps key)
      (Function.update otps (service.hash email) (some ⟨⟨userID, otpHash, 0⟩, expiry⟩) key) := by
  by_cases same : service.hash email = key
  · subst same
    exact .saved (decide_eq_true rfl) rfl (Function.update_self ..) rfl
  · exact .kept (decide_eq_false same) rfl rfl (Function.update_of_ne (Ne.symm same) _ _)

theorem CodeChange.of_count (key : String) {entry : Expiring OTPRecord}
    (present : otps (service.hash email) = some entry) :
    CodeChange service key ⟨.resets (.incrOTPAttempts email), .ok (entry.value.attempts + 1)⟩ (otps key)
      (Function.update otps (service.hash email)
        (some { entry with value := { entry.value with attempts := entry.value.attempts + 1 } }) key) := by
  by_cases same : service.hash email = key
  · subst same
    exact .counted rfl rfl (if_pos rfl) present (Function.update_self ..)
  · exact .kept rfl (if_neg same) rfl (Function.update_of_ne (Ne.symm same) _ _)

/-- A call that takes the record of the address out. -/
theorem CodeChange.of_drop (key : String) {exchange : Exchange Ports}
    (unsaved : savesCode service key exchange = false) (uncounted : countedCode service key exchange = none)
    (aimed : dropsCode service key exchange = true → service.hash email = key) :
    CodeChange service key exchange (otps key) (Function.update otps (service.hash email) none key) := by
  by_cases same : service.hash email = key
  · subst same
    exact .gone unsaved uncounted (Function.update_self ..)
  · exact .kept unsaved uncounted (Bool.eq_false_iff.mpr fun drops => same (aimed drops))
      (Function.update_of_ne (Ne.symm same) _ _)

end Updates

section Calls
variable {service : Service} {store : SessionStore} {choice : Choice} {world next : World store}

theorem execResets_code_cases (key : String) (command : ResetCommand) :
    CodeChange service key ⟨.resets command, (execResets service command choice world).1⟩ (world.otps key)
      ((execResets service command choice world).2.otps key) := by
  cases command with
  | saveOTP userID email otpHash ttl =>
      simp only [execResets]
      split
      · exact .kept rfl rfl rfl rfl
      · exact .of_save ..
  | getOTP email => exact .kept rfl rfl rfl rfl
  | incrOTPAttempts email =>
      simp only [execResets]
      split
      · exact .kept rfl rfl rfl rfl
      · unfold incrOTPAttempts
        split
        · exact .kept rfl rfl rfl rfl
        · rename_i entry present
          split
          · exact .kept rfl rfl rfl rfl
          · rename_i expiry lifetime
            split
            · exact .kept rfl rfl rfl rfl
            · rw [← lifetime]
              exact .of_count key present
  | deleteOTP email =>
      simp only [execResets]
      split
      · exact .kept rfl rfl rfl rfl
      · exact .of_drop key rfl rfl of_decide_eq_true
  | saveResetToken tokenHash userID email ttl =>
      simp only [execResets]
      split <;> exact .kept rfl rfl rfl rfl
  | getResetToken tokenHash => exact .kept rfl rfl rfl rfl
  | deleteResetToken tokenHash =>
      simp only [execResets]
      split <;> exact .kept rfl rfl rfl rfl

theorem execMemoryResets_code_cases (key : String) (command : ResetCommand) :
    CodeChange service key ⟨.resets command, (execMemoryResets service command world).1⟩ (world.otps key)
      ((execMemoryResets service command world).2.otps key) := by
  cases command with
  | saveOTP userID email otpHash ttl => exact .of_save ..
  | getOTP email =>
      simp only [execMemoryResets]
      split
      · exact .kept rfl rfl rfl rfl
      · exact .of_drop key rfl rfl nofun
  | incrOTPAttempts email =>
      simp only [execMemoryResets]
      split
      · rename_i entry found
        exact .of_count key (Option.filter_eq_some_iff.mp found).1
      · exact .of_drop key rfl rfl nofun
  | deleteOTP email => exact .of_drop key rfl rfl of_decide_eq_true
  | saveResetToken tokenHash userID email ttl => exact .kept rfl rfl rfl rfl
  | getResetToken tokenHash =>
      simp only [execMemoryResets]
      split <;> exact .kept rfl rfl rfl rfl
  | deleteResetToken tokenHash => exact .kept rfl rfl rfl rfl

/-- Every call changes a code record in one of the four ways, with either reset store. -/
theorem execWith_code {resets : ResetBackend} {command : Command} {reply : command.Reply}
    (executed : execWith service resets command choice world = some (reply, next)) (key : String) :
    CodeChange service key ⟨command, reply⟩ (world.otps key) (next.otps key) := by
  by_cases call : ∃ call, command = .resets call
  · obtain ⟨call, rfl⟩ := call
    cases resets with
    | redis =>
        obtain ⟨rfl, rfl⟩ := Prod.mk.inj (Option.some.inj executed)
        exact execResets_code_cases key call
    | memory =>
        obtain ⟨rfl, rfl⟩ := Prod.mk.inj (Option.some.inj executed)
        exact execMemoryResets_code_cases key call
  · have apart : execWith service resets command choice world = exec service command choice world := by
      cases command with
      | resets call' => exact absurd ⟨call', rfl⟩ call
      | _ => rfl
    rw [apart] at executed
    have same := (exec_changes executed).keeps_otps fun other same => call ⟨other, same⟩
    cases command with
    | resets call' => exact absurd ⟨call', rfl⟩ call
    | _ => exact .kept rfl rfl rfl (congrFun same key)

/-- A code that a read returns is stored. -/
theorem execWith_getOTP {resets : ResetBackend} {email : String} {found : OTPRecord}
    (executed : execWith service resets (.resets (.getOTP email)) choice world = some (.ok found, next)) :
    ∃ entry, world.otps (service.hash email) = some entry ∧ entry.value = found := by
  cases resets with
  | redis =>
      have read : exec service (.resets (.getOTP email)) choice world = some (.ok found, next) := executed
      exact getOTP_found read
  | memory =>
      simp only [execWith, ResetBackend.exec, execMemoryResets, Option.some.injEq] at executed
      split at executed
      · rename_i record seen
        cases executed
        exact lookup_eq_some seen
      · cases executed

/-- A deletion that does not fail reports success. -/
theorem execWith_deleteOTP {resets : ResetBackend} {email : String} {reply : Except StoreError Unit}
    (succeeds : choice.fails = false)
    (executed : execWith service resets (.resets (.deleteOTP email)) choice world = some (reply, next)) :
    reply = .ok () := by
  cases resets with
  | redis =>
      simp only [execWith, ResetBackend.exec, execResets, succeeds, Bool.false_eq_true, if_false] at executed
      cases executed
      rfl
  | memory =>
      cases executed
      rfl

/-- The three kinds of steps of the service with either reset store. -/
theorem systemWith_cases {resets : ResetBackend} {config next : ServiceConfig store} {label : ServiceLabel}
    (moved : (systemWith resets service store).step config label = some next) :
    (∃ request, label = .start request ∧
      next = { config with tasks := config.tasks ++ [⟨request, (handle service request).run⟩] }) ∨
    (∃ task choice request command rest reply world, label = .advance task choice ∧
      config.tasks[task]? = some ⟨request, .call command rest⟩ ∧
      execWith service resets command choice config.world = some (reply, world) ∧
      next = ⟨world, config.tasks.set task ⟨request, rest reply⟩, ⟨task, command, reply⟩ :: config.history⟩) ∨
    ∃ tick world, label = .drift tick ∧ drift tick config.world = some world ∧ next = { config with world } :=
  System.step_cases label moved

end Calls
end AuthService
