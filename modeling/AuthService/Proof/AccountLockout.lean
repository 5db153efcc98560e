/-
This file proves that the logins for one account follow the lockout rule.
-/

import AuthService.Proof.Lockout
import AuthService.Proof.SequentialLogin
import AuthService.Proof.SingleUse
import AuthService.Proof.Users

namespace AuthService
open Interleaving Program System

/-- The address belongs to an account whose stored password can be checked. -/
structure Account (service : Service) (users : UserTable) (email : String) (user : User) : Prop where
  valid : validateEmail email = none
  registered : users.getByEmail email = .ok user
  readable : ∀ password, service.verifyPassword password user.passwordHash ≠ none

/-- The session store can hold the texts of an attempt. A text column of PostgreSQL refuses the character with code
zero. -/
def Attempt.kept : Backend → Attempt → Bool
  | .memory, _ => true
  | .postgres _, attempt =>
      let client := extractClientInfo attempt.ctx
      SessionTable.storable attempt.deviceID && SessionTable.storable client.userAgent &&
        SessionTable.storable client.ipAddress

namespace Lockout
variable (backend : Backend) (service : Service) (config : GuardConfig) (user : User)

/-- A refused attempt changes nothing, a right password clears the lockout, and a wrong one is counted. -/
def attempt (spec : Lockout) (attempt : Attempt) : Lockout :=
  if spec.isLocked attempt.time then spec
  else if service.verifyPassword attempt.password user.passwordHash = some true then clear
  else spec.fail config attempt.time

/-- The answers that the rule allows. A locked address is refused without a call to the user store, and a right
password succeeds when the session store can hold the texts of the new session. -/
def Answers (spec : Lockout) (attempt : Attempt) (outcome : Outcome Ports Answer) : Prop :=
  if spec.isLocked attempt.time then
    outcome.answer = .error lockedOut ∧ ∀ exchange ∈ outcome.past, ∀ command, exchange.command ≠ .users command
  else if service.verifyPassword attempt.password user.passwordHash = some true then
    if attempt.kept backend then ∃ access refresh, outcome.answer = .ok (.login access refresh)
    else outcome.answer = .error internalError
  else outcome.answer = .error (if spec.reaches config attempt.time then lockedOut else invalidCredentials)

end Lockout

section
variable {resets : ResetBackend} {service : Service} {backend : Backend} {config : GuardConfig}
variable {email : String} {user : User} {spec : Lockout} {world : World backend.store} {attempt : Attempt}

/-- The session of a login has the texts of the attempt. -/
theorem kept_loginSession (db : Database) (token : String) :
    let session := loginSession service attempt.ctx (attempt.request email) user token attempt.time
    (SessionTable.storable session.deviceID && SessionTable.storable session.userAgent &&
      SessionTable.storable session.ipAddress) = attempt.kept (.postgres db) := by
  simp only [loginSession, Attempt.kept]
  by_cases unnamed : attempt.deviceID = ""
  · rw [if_pos unnamed, unnamed, Bool.and_self]
    rfl
  · rw [if_neg unnamed]

/-- A reliable store takes the session of a login exactly when it can hold its texts. -/
theorem create_isOk (registered : world.users.getByEmail email = .ok user)
    (fresh : ¬ Live (backend.store.rowSet world.sessions) (service.hash attempt.token))
    {reply : Except StoreError Session} {sessions : backend.store.State}
    (created : backend.store.exec (.create (loginSession service attempt.ctx (attempt.request email) user
      attempt.token attempt.time)) attempt.choice world.users attempt.time world.sessions = some (reply, sessions)) :
    reply.isOk = attempt.kept backend := by
  cases backend with
  | memory =>
      have stored : MemoryState.create attempt.id attempt.time (loginSession service attempt.ctx
        (attempt.request email) user attempt.token attempt.time) world.sessions = some (reply, sessions) := created
      unfold MemoryState.create at stored
      split at stored
      · cases stored
      · cases stored
        rfl
  | postgres db =>
      have known : user.id ∈ world.users.rows.map User.id :=
        List.mem_map_of_mem (UserTable.getByEmail_ok registered).1
      have unused : service.hash attempt.token ∉ (SessionTable.rows world.sessions).map Session.tokenHash := by
        intro member
        obtain ⟨row, inside, same⟩ := List.mem_map.mp member
        exact fresh ⟨row.row, ⟨row, inside, rfl⟩, same⟩
      rw [← kept_loginSession]
      exact SessionTable.create_isOk known unused created

/-- The world holds the account and its lockout. -/
structure Protects (service : Service) (email : String) (user : User) (spec : Lockout) (world : World backend.store) :
    Prop where
  account : Account service world.users email user
  represents : Represents email spec world.guard
  sound : world.Sound

namespace Protects

/-- A refused attempt keeps the users table and the sessions. -/
theorem refused (protects : Protects service email user spec world) {next : Lockout} {guard : GuardState}
    (cache : String → Option (Expiring CachedSession)) (background : List BackgroundCommand)
    (represents : Represents email next guard) :
    Protects service email user next { attempt.ready world with guard, cache, background } :=
  ⟨protects.account, represents, protects.sound.inv, protects.sound.issued⟩

/-- A right password clears the lockout and keeps the store in order. -/
theorem right (protects : Protects service email user spec world) {outcome : Outcome Ports Answer}
    {after : World backend.store} (left : RightPassword service email user attempt world outcome after) :
    (if attempt.kept backend then ∃ access refresh, outcome.answer = .ok (.login access refresh)
      else outcome.answer = .error internalError) ∧ Protects service email user .clear after := by
  obtain ⟨access, reply, created, answered⟩ := left.answer
  have fresh : ¬ Live (backend.store.rowSet world.sessions) (service.hash attempt.token) :=
    fun live => left.unused (protects.sound.issued _ live)
  have taken : reply.isOk = attempt.kept backend := create_isOk protects.account.registered fresh created
  obtain ⟨inv, effect⟩ :=
    SessionStore.Lawful.exec (.create _) _ _ _ _ _ _ protects.sound.inv ⟨rfl, fresh⟩ created
  refine ⟨?_, left.users ▸ protects.account, left.guard ▸ .reset world.guard email, inv, fun tokenHash live => ?_⟩
  · rw [taken] at answered
    cases kept : attempt.kept backend with
    | true => exact ⟨access, attempt.token, by rw [answered, kept]; rfl⟩
    | false => rw [if_neg Bool.false_ne_true, answered, kept, if_neg Bool.false_ne_true]
  · rw [left.issued]
    rcases effect.live tokenHash live with before | installed
    · exact List.mem_cons_of_mem _ (protects.sound.issued _ before)
    · cases reply with
      | error error => cases installed
      | ok created =>
          obtain rfl := Option.some.inj installed
          exact List.mem_cons_self

theorem isLocked (protects : Protects service email user spec world) (apart : spec.Apart attempt.time) :
    (world.guard.isLocked false attempt.time email).1 = spec.isLocked attempt.time :=
  congrArg Prod.fst (protects.represents.isLocked apart)

theorem wrong (protects : Protects service email user spec world)
    (other : service.verifyPassword attempt.password user.passwordHash ≠ some true) :
    service.verifyPassword attempt.password user.passwordHash = some false := by
  obtain ⟨isMatch, verified⟩ := Option.ne_none_iff_exists'.mp (protects.account.readable attempt.password)
  cases isMatch with
  | true => exact absurd verified other
  | false => exact verified

/-- One attempt is answered by the rule. -/
theorem step (protects : Protects service email user spec world) (guarded : service.bruteGuard = some config)
    (whole : config.Whole) (apart : spec.Apart attempt.time) {outcome : Outcome Ports Answer}
    {after : World backend.store}
    (ran : (systemWith resets service backend.store).alone (attempt.turn email) world = some (outcome, after)) :
    spec.Answers backend service config user attempt outcome ∧
      Protects service email user (spec.attempt service config user attempt) after := by
  have valid := protects.account.valid
  have registered := protects.account.registered
  have checked : (world.guard.isLocked false attempt.time email).1 = spec.isLocked attempt.time :=
    protects.isLocked apart
  unfold Lockout.Answers Lockout.attempt
  cases locked : spec.isLocked attempt.time with
  | true =>
      obtain ⟨past, cache, background, refused, unread⟩ :=
        login_refused resets guarded valid (checked.trans locked)
      obtain ⟨rfl, rfl⟩ := Prod.mk.inj (Option.some.inj (ran.symm.trans refused))
      exact ⟨⟨rfl, unread⟩, protects.refused cache background protects.represents⟩
  | false =>
      have passes := checked.trans locked
      rw [if_neg Bool.false_ne_true, if_neg Bool.false_ne_true]
      by_cases right : service.verifyPassword attempt.password user.passwordHash = some true
      · rw [if_pos right, if_pos right]
        exact protects.right (login_right guarded valid passes registered right ran)
      · obtain ⟨guard, counted, kept⟩ := protects.represents.recordFailure whole attempt.time
        obtain ⟨past, cache, background, refused⟩ :=
          login_wrong resets guarded valid passes registered (protects.wrong right) counted
        obtain ⟨rfl, rfl⟩ := Prod.mk.inj (Option.some.inj (ran.symm.trans refused))
        rw [if_neg right, if_neg right]
        exact ⟨rfl, protects.refused cache background kept⟩

/-- The next attempt comes to its end when what it draws is not in use. -/
theorem ends (resets : ResetBackend) (protects : Protects service email user spec world)
    (guarded : service.bruteGuard = some config) (whole : config.Whole) (drawable : attempt.Drawable service world) :
    ∃ result, (systemWith resets service backend.store).alone (attempt.turn email) world = some result := by
  have valid := protects.account.valid
  have registered := protects.account.registered
  cases checked : (world.guard.isLocked false attempt.time email).1 with
  | true =>
      obtain ⟨past, cache, background, refused, _⟩ := login_refused resets guarded valid checked
      exact ⟨_, refused⟩
  | false =>
      by_cases right : service.verifyPassword attempt.password user.passwordHash = some true
      · exact login_right_ends resets guarded valid checked registered right drawable
      · obtain ⟨guard, counted, _⟩ := protects.represents.recordFailure whole attempt.time
        obtain ⟨past, cache, background, refused⟩ :=
          login_wrong resets guarded valid checked registered (protects.wrong right) counted
        exact ⟨_, refused⟩

end Protects
end

/-- The sample deployment with a lockout after two failures. -/
def guardedSample : Service := { sample with bruteGuard := some shortLockout }

def sampleUser : User := ⟨"user", "ann@example.com", "right", 0, 0⟩

/-- One account and nothing else. -/
def sampleWorld : World (postgres exactDatabase) :=
  { World.empty (postgres exactDatabase) 0 with
    users := UserTable.empty.insert sampleUser List.not_mem_nil List.not_mem_nil }

theorem sampleWorld_sound : sampleWorld.Sound := by
  have empty : (World.empty (postgres exactDatabase) 0).Sound := World.empty_sound 0
  exact ⟨empty.inv, empty.issued⟩

/-- An attempt at a time in milliseconds. -/
def attemptAt (time : Int) (password : String) : Attempt :=
  ⟨time * millisecond, bareContext, password, "device", "session", "token"⟩

/-- The answers of logins, one after another. -/
def loginAnswers {store : SessionStore} (service : Service) (email : String) (attempts : List Attempt)
    (world : World store) : Option (List Answer) :=
  (logins .redis service email attempts world).map fun result => result.1.map Outcome.answer

/-- The lockout lasts a second and nine tenths of a millisecond, and the lock key lives for a second. -/
def fractionLockout : GuardConfig := ⟨2, 10 * second, second + 900000⟩

end AuthService
