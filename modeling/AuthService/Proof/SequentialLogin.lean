/-
This file evaluates a login that runs alone, in each case that the guard and the users table leave.
-/

import AuthService.Concurrency.Sequential
import AuthService.Construction.ResetStores
import AuthService.Proof.Solo

namespace AuthService
open Interleaving Program System

/-- A login attempt for a given address with its time and the values that its calls would draw. No call of an
attempt fails. -/
structure Attempt where
  time : Time
  ctx : Context
  password : String
  deviceID : String
  id : String
  token : String

namespace Attempt

abbrev request (attempt : Attempt) (email : String) : LoginRequest := ⟨email, attempt.password, attempt.deviceID⟩

def choice (attempt : Attempt) : Choice := { id := attempt.id, token := attempt.token }

def turn (email : String) (attempt : Attempt) : Turn Choice Tick Request :=
  ⟨.clock attempt.time, attempt.choice, .login attempt.ctx (attempt.request email)⟩

end Attempt

/-- Login attempts for one address are answered one after another. -/
def logins {store : SessionStore} (resets : ResetBackend) (service : Service) (email : String) :
    List Attempt → World store → Option (List (Outcome Ports Answer) × World store) :=
  play fun attempt => (systemWith resets service store).alone (attempt.turn email)

section
variable {resets : ResetBackend} {service : Service} {store : SessionStore} {choice : Choice} {world : World store}

/-- Logins one after another are a run of the concurrent service. -/
theorem logins_reached {email : String} {attempts : List Attempt} {outcomes : List (Outcome Ports Answer)}
    {last : World store} (played : logins resets service email attempts world = some (outcomes, last)) :
    (systemWith resets service store).Reaches Anything ((systemWith resets service store).begin world []) ⟨last,
      List.zipWith (fun attempt outcome => ⟨.login attempt.ctx (attempt.request email), .done outcome.answer⟩)
        attempts outcomes, eventsFrom 0 outcomes⟩ := by
  have reached := reaches_of_play ((systemWith resets service store).begin world []) played
  simp only [System.begin, List.map_nil, List.length_nil, List.nil_append, List.append_nil] at reached
  exact reached

/-- Calls on the side change the cache and the background only. -/
theorem exec_beside {command : Command} (side : command.aside = true) (world : World store) :
    ∃ reply cache background, (systemWith resets service store).exec command choice world =
      some (reply, { world with cache, background }) := by
  obtain ⟨reply, next, executed, _⟩ :
      ∃ reply next, exec service command choice world = some (reply, next) ∧ next.sessions = world.sessions :=
    exec_aside side world
  have same : (systemWith resets service store).exec command choice world = exec service command choice world := by
    cases command <;> first | rfl | cases side
  rw [same, executed]
  cases exec_changes executed with
  | cache command cache => exact ⟨reply, cache, world.background, rfl⟩
  | background command background => exact ⟨reply, world.cache, background, rfl⟩
  | nothing => exact ⟨reply, world.cache, world.background, rfl⟩
  | _ => cases side

/-- A program of calls on the side runs to its end and records nothing else. -/
theorem eval_beside (resets : ResetBackend) (service : Service) (choice : Choice) {A : Type}
    {program : Program Ports A} {answer : A} {seen : Past}
    (follows : program.Follows Aside (fun _ result => result = answer) seen) (world : World store) (past : Past) :
    ∃ cache background side, program.eval ((systemWith resets service store).recorded choice) (world, past) =
        some (answer, { world with cache, background }, side ++ past) ∧
      ∀ exchange ∈ side, exchange.command.aside = true := by
  induction program generalizing world past seen with
  | done result =>
      obtain rfl : result = answer := follows
      exact ⟨world.cache, world.background, [], rfl, fun _ inside => absurd inside List.not_mem_nil⟩
  | call command next ih =>
      obtain ⟨⟨side⟩, rest⟩ := follows
      obtain ⟨reply, cache, background, executed⟩ :
          ∃ reply cache background, (systemWith resets service store).exec command choice world =
            some (reply, { world with cache, background }) := exec_beside side world
      obtain ⟨cache', background', later, runs, each⟩ :=
        ih reply (rest reply) { world with cache, background } (⟨command, reply⟩ :: past)
      refine ⟨cache', background', later ++ [⟨command, reply⟩], ?_, ?_⟩
      · rw [Program.eval, recorded, executed, Option.map_some, Option.bind_some, List.append_assoc]
        exact runs
      · intro exchange member
        rcases List.mem_append.mp member with inside | last
        · exact each exchange inside
        · rw [List.mem_singleton.mp last]
          exact side

theorem eval_valid {email : String} (valid : validateEmail email = none) (past : Past) :
    (checkArgument (validateEmail email)).run.eval ((systemWith resets service store).recorded choice) (world, past) =
      some (.ok (), world, past) := by
  rw [valid]
  rfl

theorem eval_orStatus_ok {A : Type} (named : StoreError) (status : Status) (value : A) (state : World store × Past) :
    (orStatus named status (.ok value)).run.eval ((systemWith resets service store).recorded choice) state =
      some (.ok value, state) := rfl

/-- A report on the side may come before an early return. -/
theorem aside_reportThrow {A : Type} (auditUser : Option String) (hookUser email : String)
    (eventType : AuditEventType) (client : ClientInfo) (auditMeta hookMeta : List (String × String)) (status : Status) :
    (report auditUser hookUser email eventType client auditMeta hookMeta >>= fun _ => throw status :
      Handler A).run.Follows Aside (fun _ result => result = .error status) [] :=
  follows_reportThrow [] (fun _ _ => ⟨rfl⟩) (fun _ => rfl) ..

end

section Parts
variable {resets : ResetBackend} {service : Service} {store : SessionStore} {world : World store} {attempt : Attempt}
variable {config : GuardConfig} {email : String} {client : ClientInfo} {user : User}

theorem exec_isLocked (guarded : service.bruteGuard = some config) :
    (systemWith resets service store).exec (.guard (.isLocked email)) attempt.choice world =
      some (.ok (world.guard.isLocked false world.now email).1, world) := by
  change service.bruteGuard.map _ = _
  rw [guarded, Option.map_some]
  rfl

/-- An address that is not locked passes the lockout check. -/
theorem eval_checkLockout_passes (guarded : service.bruteGuard = some config)
    (passes : (world.guard.isLocked false world.now email).1 = false) (past : Past) :
    (checkLockout service email client).run.eval ((systemWith resets service store).recorded attempt.choice)
        (world, past) = some (.ok (), world, ⟨.guard (.isLocked email), .ok false⟩ :: past) := by
  have executed : (systemWith resets service store).exec (.guard (.isLocked email)) attempt.choice world =
      some (.ok false, world) := by
    rw [exec_isLocked guarded, passes]
  rw [checkLockout, if_pos (guarded ▸ rfl), eval_ok (eval_recorded executed past)]
  rfl

/-- A locked address is refused. -/
theorem eval_checkLockout_refuses (guarded : service.bruteGuard = some config)
    (locked : (world.guard.isLocked false world.now email).1 = true) (past : Past) :
    ∃ cache background side, (checkLockout service email client).run.eval
        ((systemWith resets service store).recorded attempt.choice) (world, past) =
        some (.error lockedOut, { world with cache, background },
          side ++ ⟨.guard (.isLocked email), .ok true⟩ :: past) ∧
      ∀ exchange ∈ side, exchange.command.aside = true := by
  have executed : (systemWith resets service store).exec (.guard (.isLocked email)) attempt.choice world =
      some (.ok true, world) := by
    rw [exec_isLocked guarded, locked]
  rw [checkLockout, if_pos (guarded ▸ rfl), eval_ok (eval_recorded executed past)]
  exact eval_beside resets service attempt.choice (A := Except Status Unit)
    (aside_reportThrow ..) world _

theorem exec_getByEmail :
    (systemWith resets service store).exec (.users (.getByEmail email)) attempt.choice world =
      some (world.users.getByEmail email, world) := rfl

theorem eval_getLoginUser_found (registered : world.users.getByEmail email = .ok user) (past : Past) :
    (getLoginUser email client).run.eval ((systemWith resets service store).recorded attempt.choice) (world, past) =
      some (.ok user, world, ⟨.users (.getByEmail email), .ok user⟩ :: past) := by
  have executed : (systemWith resets service store).exec (.users (.getByEmail email)) attempt.choice world =
      some (.ok user, world) := by
    rw [exec_getByEmail, registered]
  rw [getLoginUser, eval_ok (eval_recorded executed past)]
  rfl

theorem eval_getLoginUser_unknown (absent : world.users.getByEmail email = .error .userNotFound) (past : Past) :
    ∃ cache background side, (getLoginUser email client).run.eval
        ((systemWith resets service store).recorded attempt.choice) (world, past) =
        some (.error invalidCredentials, { world with cache, background },
          side ++ ⟨.users (.getByEmail email), .error .userNotFound⟩ :: past) := by
  have executed : (systemWith resets service store).exec (.users (.getByEmail email)) attempt.choice world =
      some (.error .userNotFound, world) := by
    rw [exec_getByEmail, absent]
  rw [getLoginUser, eval_ok (eval_recorded executed past)]
  obtain ⟨cache, background, side, runs, _⟩ :=
    eval_beside resets service attempt.choice (A := Except Status User) (aside_reportThrow ..) world _
  exact ⟨cache, background, side, runs⟩

theorem exec_recordFailure (guarded : service.bruteGuard = some config) {locked : Bool} {guard : GuardState}
    (counted : world.guard.recordFailure config (fun _ => false) world.now email = (.ok locked, guard)) :
    (systemWith resets service store).exec (.guard (.recordFailure email)) attempt.choice world =
      some (.ok locked, { world with guard }) := by
  change service.bruteGuard.map (fun config => execGuard config (.recordFailure email) attempt.choice world) = _
  have same : attempt.choice.down = fun _ => false := rfl
  rw [guarded, Option.map_some, execGuard, same, counted]

/-- A failure that reaches the limit ends the request. -/
theorem eval_recordFailure_reaches (guarded : service.bruteGuard = some config) {guard : GuardState}
    (counted : world.guard.recordFailure config (fun _ => false) world.now email = (.ok true, guard)) (past : Past) :
    ∃ cache background later, (recordFailure service user email client).run.eval
        ((systemWith resets service store).recorded attempt.choice) (world, past) =
      some (.error lockedOut, { world with guard, cache, background }, later) := by
  have executed : (systemWith resets service store).exec (.guard (.recordFailure email)) attempt.choice world =
      some (.ok true, { world with guard }) := exec_recordFailure guarded counted
  rw [recordFailure, if_pos (guarded ▸ rfl), eval_ok (eval_recorded executed past)]
  obtain ⟨cache, background, side, runs, _⟩ := eval_beside resets service attempt.choice (A := Except Status Unit)
    (aside_reportThrow ..) { world with guard } _
  exact ⟨cache, background, _, runs⟩

theorem eval_recordFailure_below (guarded : service.bruteGuard = some config) {guard : GuardState}
    (counted : world.guard.recordFailure config (fun _ => false) world.now email = (.ok false, guard)) (past : Past) :
    (recordFailure service user email client).run.eval
        ((systemWith resets service store).recorded attempt.choice) (world, past) =
      some (.ok (), { world with guard }, ⟨.guard (.recordFailure email), .ok false⟩ :: past) := by
  have executed : (systemWith resets service store).exec (.guard (.recordFailure email)) attempt.choice world =
      some (.ok false, { world with guard }) := exec_recordFailure guarded counted
  rw [recordFailure, if_pos (guarded ▸ rfl), eval_ok (eval_recorded executed past)]
  rfl

theorem eval_verify {password : String} {isMatch : Bool}
    (verified : service.verifyPassword password user.passwordHash = some isMatch) (past : Past) :
    (orInternal (service.verifyPassword password user.passwordHash)).run.eval
      ((systemWith resets service store).recorded attempt.choice) (world, past) = some (.ok isMatch, world, past) := by
  rw [verified]
  rfl

/-- A wrong password is refused, and with the lockout status when it reaches the limit. -/
theorem eval_checkLoginPassword_wrong (guarded : service.bruteGuard = some config) {req : LoginRequest} {locked : Bool}
    {guard : GuardState} (wrong : service.verifyPassword req.password user.passwordHash = some false)
    (counted : world.guard.recordFailure config (fun _ => false) world.now req.email = (.ok locked, guard))
    (past : Past) :
    ∃ cache background later, (checkLoginPassword service user req client).run.eval
        ((systemWith resets service store).recorded attempt.choice) (world, past) =
      some (.error (if locked then lockedOut else invalidCredentials),
        { world with guard, cache, background }, later) := by
  rw [checkLoginPassword, eval_ok (eval_verify wrong past), if_neg Bool.false_ne_true]
  cases locked with
  | true =>
      obtain ⟨cache, background, later, refuses⟩ :
          ∃ cache background later, (recordFailure service user req.email client).run.eval
              ((systemWith resets service store).recorded attempt.choice) (world, past) =
            some (.error lockedOut, { world with guard, cache, background }, later) :=
        eval_recordFailure_reaches guarded counted past
      exact ⟨cache, background, later, eval_error refuses⟩
  | false =>
      rw [eval_ok (eval_recordFailure_below guarded counted past)]
      obtain ⟨cache, background, side, runs, _⟩ := eval_beside resets service attempt.choice (A := Except Status Unit)
        (aside_reportThrow ..) { world with guard } _
      exact ⟨cache, background, _, runs⟩

theorem eval_checkLoginPassword_right {req : LoginRequest}
    (right : service.verifyPassword req.password user.passwordHash = some true) (past : Past) :
    (checkLoginPassword service user req client).run.eval ((systemWith resets service store).recorded attempt.choice)
      (world, past) = some (.ok (), world, past) := by
  rw [checkLoginPassword, eval_ok (eval_verify right past)]
  rfl

theorem eval_resetGuard (guarded : service.bruteGuard = some config) (past : Past) :
    (resetGuard service email).run.eval ((systemWith resets service store).recorded attempt.choice) (world, past) =
      some (.ok (), { world with guard := world.guard.reset false email }, ⟨.guard (.reset email), ()⟩ :: past) := by
  have executed : (systemWith resets service store).exec (.guard (.reset email)) attempt.choice world =
      some ((), { world with guard := world.guard.reset false email }) := by
    change service.bruteGuard.map _ = _
    rw [guarded, Option.map_some]
    rfl
  rw [resetGuard, if_pos (guarded ▸ rfl)]
  exact eval_recorded executed past

theorem exec_token {choice : Choice} {reply : Option String} {next : World store} (works : ¬ choice.fails = true)
    (executed : (systemWith resets service store).exec (.random .token) choice world = some (reply, next)) :
    reply = some choice.token ∧ service.hash choice.token ∉ world.issued ∧
      next = { world with issued := service.hash choice.token :: world.issued } := by
  have drawn : execRandom service .token choice world = some (reply, next) := executed
  rw [execRandom, if_neg works] at drawn
  split at drawn
  · cases drawn
  · rename_i unused
    cases drawn
    exact ⟨rfl, unused, rfl⟩

theorem exec_create {session : Session} {reply : Except StoreError Session} {next : World store}
    (executed : (systemWith resets service store).exec (.sessions (.create session)) attempt.choice world =
      some (reply, next)) :
    ∃ sessions, store.exec (.create session) attempt.choice world.users world.now world.sessions =
      some (reply, sessions) ∧ next = { world with sessions } := by
  have created : exec service (.sessions (.create session)) attempt.choice world = some (reply, next) := executed
  exact exec_sessions created

/-- The end of a login after its session was created or refused. -/
theorem login_ends (resets : ResetBackend) (service : Service) (attempt : Attempt) (user : User) (client : ClientInfo)
    (built : Session) (access refresh : String) (reply : Except StoreError Session) (world : World store)
    (past : Past) :
    ∃ cache background answer later, (do
        let sess ← orInternalError reply
        cacheSession built.tokenHash ⟨sess.id, user.id, user.email, built.deviceID, sess.expiresAt⟩
        let details := [("email", user.email), ("device_id", built.deviceID), ("session_id", sess.id)]
        report (some user.id) user.id user.email .loginSuccess client details details
        return .login access refresh : Handler Response).run.eval
          ((systemWith resets service store).recorded attempt.choice)
          (world, ⟨.sessions (.create built), reply⟩ :: past) =
        some (answer, { world with cache, background }, later) ∧
      answer = if reply.isOk then .ok (.login access refresh) else .error internalError := by
  cases reply with
  | error error => exact ⟨world.cache, world.background, .error internalError, _, rfl, rfl⟩
  | ok sess =>
      obtain ⟨cache, background, side, runs, _⟩ := eval_beside resets service attempt.choice
        (follows_cacheReport built.tokenHash ⟨sess.id, user.id, user.email, built.deviceID, sess.expiresAt⟩
          (some user.id) user.id user.email .loginSuccess client
          [("email", user.email), ("device_id", built.deviceID), ("session_id", sess.id)]
          [("email", user.email), ("device_id", built.deviceID), ("session_id", sess.id)]
          (.login access refresh) []) world (⟨.sessions (.create built), .ok sess⟩ :: past)
      exact ⟨cache, background, _, _, runs, rfl⟩

end Parts

section Cases
variable {resets : ResetBackend} {service : Service} {store : SessionStore} {world : World store} {attempt : Attempt}
variable {config : GuardConfig} {email : String} {user : User}

/-- The world in which an attempt is made. -/
def Attempt.ready (attempt : Attempt) (world : World store) : World store := { world with now := attempt.time }

/-- A login that runs alone is evaluated at its time. -/
theorem alone_login {answer : Answer} {past : Past} {after : World store}
    (evaluated : (login service attempt.ctx (attempt.request email)).run.eval
      ((systemWith resets service store).recorded attempt.choice) (attempt.ready world, []) =
        some (answer, after, past)) :
    (systemWith resets service store).alone (attempt.turn email) world = some (⟨answer, past⟩, after) := by
  have drifted : (systemWith resets service store).drift (attempt.turn email).tick world =
      some (attempt.ready world) := rfl
  exact alone_eq drifted evaluated

theorem alone_login_inv {outcome : Outcome Ports Answer} {after : World store}
    (ran : (systemWith resets service store).alone (attempt.turn email) world = some (outcome, after)) :
    (login service attempt.ctx (attempt.request email)).run.eval
      ((systemWith resets service store).recorded attempt.choice) (attempt.ready world, []) =
        some (outcome.answer, after, outcome.past) := by
  have drifted : (systemWith resets service store).drift (attempt.turn email).tick world =
      some (attempt.ready world) := rfl
  exact alone_inv drifted ran

/-- A locked address is refused before the users table is read. -/
theorem login_refused (resets : ResetBackend) (guarded : service.bruteGuard = some config)
    (valid : validateEmail email = none)
    (locked : (world.guard.isLocked false attempt.time email).1 = true) :
    ∃ past cache background, (systemWith resets service store).alone (attempt.turn email) world =
        some (⟨.error lockedOut, past⟩, { attempt.ready world with cache, background }) ∧
      ∀ exchange ∈ past, ∀ command, exchange.command ≠ .users command := by
  obtain ⟨cache, background, side, refuses, each⟩ :
      ∃ cache background side, (checkLockout service email (extractClientInfo attempt.ctx)).run.eval
          ((systemWith resets service store).recorded attempt.choice) (attempt.ready world, []) =
          some (.error lockedOut, { attempt.ready world with cache, background },
            side ++ [⟨.guard (.isLocked email), .ok true⟩]) ∧
        ∀ exchange ∈ side, exchange.command.aside = true :=
    eval_checkLockout_refuses guarded locked []
  refine ⟨side ++ [⟨.guard (.isLocked email), .ok true⟩], cache, background, alone_login ?_, ?_⟩
  · rw [login, eval_ok (eval_valid valid []), eval_error refuses]
  · intro exchange member command same
    rcases List.mem_append.mp member with inside | first
    · have side := each exchange inside
      rw [same] at side
      cases side
    · rw [List.mem_singleton.mp first] at same
      cases same

/-- An unknown address is refused, and the guard is not told. -/
theorem login_unknown (resets : ResetBackend) (guarded : service.bruteGuard = some config)
    (valid : validateEmail email = none)
    (passes : (world.guard.isLocked false attempt.time email).1 = false)
    (absent : world.users.getByEmail email = .error .userNotFound) :
    ∃ past cache background, (systemWith resets service store).alone (attempt.turn email) world =
      some (⟨.error invalidCredentials, past⟩, { attempt.ready world with cache, background }) := by
  have passed : ((attempt.ready world).guard.isLocked false (attempt.ready world).now email).1 = false := passes
  have unknown : (attempt.ready world).users.getByEmail email = .error .userNotFound := absent
  obtain ⟨cache, background, side, refuses⟩ :
      ∃ cache background side, (getLoginUser email (extractClientInfo attempt.ctx)).run.eval
          ((systemWith resets service store).recorded attempt.choice)
          (attempt.ready world, [⟨.guard (.isLocked email), .ok false⟩]) =
        some (.error invalidCredentials, { attempt.ready world with cache, background },
          side ++ [⟨.users (.getByEmail email), .error .userNotFound⟩, ⟨.guard (.isLocked email), .ok false⟩]) :=
    eval_getLoginUser_unknown unknown _
  refine ⟨side ++ [⟨.users (.getByEmail email), .error .userNotFound⟩, ⟨.guard (.isLocked email), .ok false⟩],
    cache, background, alone_login ?_⟩
  rw [login, eval_ok (eval_valid valid []), eval_ok (eval_checkLockout_passes guarded passed []), eval_error refuses]

/-- A wrong password is refused and recorded by the guard. -/
theorem login_wrong (resets : ResetBackend) (guarded : service.bruteGuard = some config)
    (valid : validateEmail email = none)
    (passes : (world.guard.isLocked false attempt.time email).1 = false)
    (registered : world.users.getByEmail email = .ok user)
    (wrong : service.verifyPassword attempt.password user.passwordHash = some false) {locked : Bool}
    {guard : GuardState}
    (counted : world.guard.recordFailure config (fun _ => false) attempt.time email = (.ok locked, guard)) :
    ∃ past cache background, (systemWith resets service store).alone (attempt.turn email) world =
      some (⟨.error (if locked then lockedOut else invalidCredentials), past⟩,
        { attempt.ready world with guard, cache, background }) := by
  have passed : ((attempt.ready world).guard.isLocked false (attempt.ready world).now email).1 = false := passes
  have found : (attempt.ready world).users.getByEmail email = .ok user := registered
  have counts : (attempt.ready world).guard.recordFailure config (fun _ => false) (attempt.ready world).now
      (attempt.request email).email = (.ok locked, guard) := counted
  obtain ⟨cache, background, later, refuses⟩ :
      ∃ cache background later, (checkLoginPassword service user (attempt.request email)
          (extractClientInfo attempt.ctx)).run.eval ((systemWith resets service store).recorded attempt.choice)
          (attempt.ready world, [⟨.users (.getByEmail email), .ok user⟩, ⟨.guard (.isLocked email), .ok false⟩]) =
        some (.error (if locked then lockedOut else invalidCredentials),
          { attempt.ready world with guard, cache, background }, later) :=
    eval_checkLoginPassword_wrong guarded wrong counts _
  refine ⟨later, cache, background, alone_login ?_⟩
  rw [login, eval_ok (eval_valid valid []), eval_ok (eval_checkLockout_passes guarded passed []),
    eval_ok (eval_getLoginUser_found found _), eval_error refuses]

/-- What a right password leaves: the guard is cleared, and the answer tells whether the session store took the new
session. -/
structure RightPassword (service : Service) (email : String) (user : User) (attempt : Attempt)
    (world : World store) (outcome : Outcome Ports Answer) (after : World store) : Prop where
  users : after.users = world.users
  guard : after.guard = world.guard.reset false email
  unused : service.hash attempt.token ∉ world.issued
  issued : after.issued = service.hash attempt.token :: world.issued
  answer : ∃ access reply, store.exec (.create (loginSession service attempt.ctx (attempt.request email) user
      attempt.token attempt.time)) attempt.choice world.users attempt.time world.sessions =
      some (reply, after.sessions) ∧
    outcome.answer = if reply.isOk then .ok (.login access attempt.token) else .error internalError

/-- A right password clears the guard, and it succeeds exactly when the session store takes the new session. -/
theorem login_right (guarded : service.bruteGuard = some config) (valid : validateEmail email = none)
    (passes : (world.guard.isLocked false attempt.time email).1 = false)
    (registered : world.users.getByEmail email = .ok user)
    (right : service.verifyPassword attempt.password user.passwordHash = some true)
    {outcome : Outcome Ports Answer} {after : World store}
    (ran : (systemWith resets service store).alone (attempt.turn email) world = some (outcome, after)) :
    RightPassword service email user attempt world outcome after := by
  have passed : ((attempt.ready world).guard.isLocked false (attempt.ready world).now email).1 = false := passes
  have found : (attempt.ready world).users.getByEmail email = .ok user := registered
  have evaluated := alone_login_inv ran
  rw [login, eval_ok (eval_valid valid []), eval_ok (eval_checkLockout_passes guarded passed []),
    eval_ok (eval_getLoginUser_found found _), eval_ok (eval_checkLoginPassword_right right _),
    eval_ok (eval_resetGuard guarded _)] at evaluated
  obtain ⟨signed, _, signs, evaluated⟩ := eval_recorded_inv evaluated
  cases signs
  obtain ⟨drawn, _, draws, evaluated⟩ := eval_recorded_inv evaluated
  obtain ⟨rfl, unused, rfl⟩ := exec_token Bool.false_ne_true draws
  obtain ⟨now, _, clocks, evaluated⟩ := eval_recorded_inv evaluated
  cases clocks
  obtain ⟨reply, _, creates, evaluated⟩ := eval_recorded_inv evaluated
  obtain ⟨sessions, created, rfl⟩ := exec_create creates
  obtain ⟨cache, background, answer, later, runs, ends⟩ := login_ends resets service attempt user
    (extractClientInfo attempt.ctx) (loginSession service attempt.ctx (attempt.request email) user attempt.token _) _
    attempt.token reply _ _
  obtain ⟨same, rest⟩ := Prod.mk.inj (Option.some.inj (evaluated.symm.trans runs))
  obtain ⟨rfl, _⟩ := Prod.mk.inj rest
  exact ⟨rfl, rfl, unused, rfl, _, reply, created, same.trans ends⟩

/-- The token and the identifier that an attempt draws are not in use. -/
structure Attempt.Drawable (attempt : Attempt) (service : Service) (world : World store) : Prop where
  token : service.hash attempt.token ∉ world.issued
  id : ∀ session, store.exec (.create session) attempt.choice world.users attempt.time world.sessions ≠ none

/-- An attempt with a right password comes to its end when what it draws is not in use. -/
theorem login_right_ends (resets : ResetBackend) (guarded : service.bruteGuard = some config)
    (valid : validateEmail email = none) (passes : (world.guard.isLocked false attempt.time email).1 = false)
    (registered : world.users.getByEmail email = .ok user)
    (right : service.verifyPassword attempt.password user.passwordHash = some true)
    (drawable : attempt.Drawable service world) :
    ∃ result, (systemWith resets service store).alone (attempt.turn email) world = some result := by
  have passed : ((attempt.ready world).guard.isLocked false (attempt.ready world).now email).1 = false := passes
  have found : (attempt.ready world).users.getByEmail email = .ok user := registered
  let built := loginSession service attempt.ctx (attempt.request email) user attempt.token attempt.time
  let claims : Claims := ⟨user.id, user.email, ["user"]⟩
  let cleared : World store :=
    { attempt.ready world with guard := (attempt.ready world).guard.reset false (attempt.request email).email }
  let drawn : World store := { cleared with issued := service.hash attempt.token :: world.issued }
  obtain ⟨⟨reply, sessions⟩, created⟩ := Option.ne_none_iff_exists'.mp (drawable.id built)
  have signs : (systemWith resets service store).exec (.tokens (.generate claims)) attempt.choice cleared =
      some (some (service.sign claims attempt.time), cleared) := rfl
  have draws : (systemWith resets service store).exec (.random .token) attempt.choice cleared =
      some (some attempt.token, drawn) := by
    have works : ¬ attempt.choice.fails = true := Bool.false_ne_true
    have unused : service.hash attempt.choice.token ∉ cleared.issued := drawable.token
    change execRandom service .token attempt.choice cleared = _
    rw [execRandom, if_neg works, if_neg unused]
    rfl
  have clocks : (systemWith resets service store).exec .clock attempt.choice drawn = some (attempt.time, drawn) := rfl
  have creates : (systemWith resets service store).exec (.sessions (.create built)) attempt.choice drawn =
      some (reply, { drawn with sessions }) := by
    change (store.exec (.create built) attempt.choice world.users attempt.time world.sessions).map _ = _
    rw [created]
    rfl
  have given {A : Type} (value : A) (state : World store × Past) :
      (orInternal (some value)).run.eval ((systemWith resets service store).recorded attempt.choice) state =
        some (.ok value, state) := rfl
  obtain ⟨cache, background, answer, later, runs, _⟩ := login_ends resets service attempt user
    (extractClientInfo attempt.ctx) built (service.sign claims attempt.time) attempt.token reply
    { drawn with sessions } _
  refine ⟨(⟨answer, later⟩, { drawn with sessions, cache, background }), alone_login ?_⟩
  rw [login, eval_ok (eval_valid valid []), eval_ok (eval_checkLockout_passes guarded passed []),
    eval_ok (eval_getLoginUser_found found _), eval_ok (eval_checkLoginPassword_right right _),
    eval_ok (eval_resetGuard guarded _), eval_ok (eval_recorded signs _), eval_ok (given _ _),
    eval_ok (eval_recorded draws _), eval_ok (given _ _), eval_ok (eval_recorded clocks _),
    eval_ok (eval_recorded creates _)]
  exact runs

end Cases
end AuthService
