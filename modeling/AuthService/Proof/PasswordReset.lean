/-
This file proves when a password reset cuts off the old password, and shows a run in which requests
that verified the old password act after the reset.
-/

import AuthService.Proof.Installed
import AuthService.Proof.ResetToken
import AuthService.Proof.Users

namespace AuthService
open Interleaving System

/-- The task wrote a password of the user. -/
def writesPassword (task : Nat) (userID : String) : Event Ports → Bool
  | ⟨owner, .users (.updatePasswordHash id _), .ok _⟩ => owner = task && id = userID
  | _ => false

/-- The events before the task wrote the password of the user. -/
def beforeUpdate (task : Nat) (userID : String) (history : List (Event Ports)) : List (Event Ports) :=
  (history.dropWhile fun event => !writesPassword task userID event).tail

/-- The password that a `Login` or a `ChangePassword` request carries is the one of the user. -/
def verifies (service : Service) (user : User) : Request → Bool
  | .login _ req => service.verifyPassword req.password user.passwordHash = some true
  | .changePassword _ req => service.verifyPassword req.currentPassword user.passwordHash = some true
  | _ => false

/-- The task is a `Login` or a `ChangePassword` request that read the user before the reset wrote the
new password, and its password matches the hash that it read. -/
def verifiedBefore {store : SessionStore} (service : Service) (config : ServiceConfig store) (reset : Nat)
    (userID : String) (task : Nat) : Bool :=
  (beforeUpdate reset userID config.history).any fun event =>
    event.task = task && (readUser event).any fun user =>
      user.id = userID && (config.request task).any (verifies service user)

/-- The calls that a verified password leads to. -/
def Command.acts : Command → Bool
  | .sessions (.create _) | .users (.updatePasswordHash _ _) => true
  | _ => false

/-- The task is still running and has not acted on its password. -/
def pending {store : SessionStore} (config : ServiceConfig store) (task : Nat) : Bool :=
  (config.answer? task).isNone &&
    !config.history.any fun event => event.task = task && event.exchange.command.acts

/-- A reset revokes the sessions only when no request that verified the old password is pending. -/
def undisturbed {store : SessionStore} (service : Service) (config : ServiceConfig store) :
    ServiceLabel → Bool
  | .advance reset _ =>
      match config.tasks[reset]? with
      | some ⟨.resetPassword _ _, .call (.sessions (.deleteAllByUserID userID)) _⟩ =>
          (List.range config.tasks.length).all fun task =>
            !(verifiedBefore service config reset userID task && pending config task)
      | _ => true
  | _ => true

/-- After a reset has revoked the sessions, no request that verified the old password is pending, and
the sessions of these requests are gone. -/
def CutOff {store : SessionStore} (service : Service) (config : ServiceConfig store) : Prop :=
  ∀ reset ctx req userID reply, config.request reset = some (.resetPassword ctx req) →
    (⟨reset, .sessions (.deleteAllByUserID userID), reply⟩ : Event Ports) ∈ config.history →
    ∀ task, verifiedBefore service config reset userID task = true → pending config task = false ∧
      ∀ session created, (⟨task, .sessions (.create session), .ok created⟩ : Event Ports) ∈ config.history →
        ¬ Live (rowsOf config) session.tokenHash

theorem beforeUpdate_cons {task : Nat} {userID : String} {event : Event Ports} {history : List (Event Ports)}
    (other : writesPassword task userID event = false) :
    beforeUpdate task userID (event :: history) = beforeUpdate task userID history := by
  rw [beforeUpdate, List.dropWhile_cons_of_pos (by rw [other]; rfl), beforeUpdate]

theorem beforeUpdate_subset {task : Nat} {userID : String} {history : List (Event Ports)} :
    beforeUpdate task userID history ⊆ history :=
  fun _ member => (List.dropWhile_sublist _).subset (List.mem_of_mem_tail member)

theorem verifiedBefore_iff {store : SessionStore} {service : Service} {config : ServiceConfig store}
    {reset : Nat} {userID : String} {task : Nat} :
    verifiedBefore service config reset userID task = true ↔
      ∃ event ∈ beforeUpdate reset userID config.history, event.task = task ∧
        ∃ user, readUser event = some user ∧ user.id = userID ∧
          ∃ request, config.request task = some request ∧ verifies service user request = true := by
  simp only [verifiedBefore, List.any_eq_true, Bool.and_eq_true, decide_eq_true_eq, Option.any_eq_true]

section
variable {service : Service} {request : Request} {past : Past} {command : Command}

theorem Command.writes_of_acts (acts : command.acts = true) : command.writes = true := by
  cases command with
  | users command => cases command <;> first | rfl | cases acts
  | sessions command => cases command <;> first | rfl | cases acts
  | _ => cases acts

/-- A request acts on its password once. -/
theorem Permits.acts_once (permitted : Permits service request past command) (acts : command.acts = true)
    (exchange : Exchange Ports) (member : exchange ∈ past) : exchange.command.acts = false := by
  have written (again : exchange.command.acts = true) : exchange ∈ select Command.writes past :=
    List.mem_filter.mpr ⟨member, Command.writes_of_acts again⟩
  have first (nothing : select Command.writes past = []) : exchange.command.acts = false := by
    cases again : exchange.command.acts with
    | false => rfl
    | true =>
        have inside := written again
        rw [nothing] at inside
        cases inside
  cases permitted with
  | free harmless =>
      have harmless' := (Command.free_spec harmless).1
      rw [Command.writes_of_acts acts] at harmless'
      cases harmless'
  | login grant nothing => exact first nothing
  | change grant nothing => exact first nothing
  | reset grant dropped =>
      cases again : exchange.command.acts with
      | false => rfl
      | true =>
          have inside := written again
          rw [dropped, List.mem_singleton] at inside
          rw [inside] at again
          cases again
  | _ => cases acts

/-- A request reads a user once. -/
theorem Permits.reads_once (permitted : Permits service request past command)
    (reads : command.readsUser = true) : select Command.readsUser past = [] := by
  cases permitted with
  | free harmless =>
      rw [(Command.free_spec harmless).2] at reads
      cases reads
  | readEmail once => exact once
  | readID once => exact once
  | _ => cases reads

end

section
variable {service : Service} {store : SessionStore} {config next : ServiceConfig store}

/-- The reads of one task are the same event. -/
theorem read_unique (disciplined : Disciplined (Permits service) (Finishes service) config)
    {first second : Event Ports} (left : first ∈ config.history) (right : second ∈ config.history)
    (same : first.task = second.task) (reads : first.exchange.command.readsUser = true)
    (reads' : second.exchange.command.readsUser = true) : first = second := by
  refine disciplined.permitted.unique (fun event other => event.task = other.task ∧
    event.exchange.command.readsUser = true ∧ other.exchange.command.readsUser = true) ?_ ?_ left right
    ⟨same, reads, reads'⟩
  · rintro event other ⟨same, reads, reads'⟩
    exact ⟨same.symm, reads', reads⟩
  · rintro event past ⟨request, _, permitted⟩ other member ⟨same, reads, reads'⟩
    have inside : other.exchange ∈ select Command.readsUser (transcript event.task past) := by
      refine List.mem_filter.mpr ⟨(mem_transcript _ _ _).mpr ?_, reads'⟩
      rw [same]
      exact member
    rw [permitted.reads_once reads] at inside
    cases inside

/-- A `Login` creates a session for the user that it read. -/
theorem created_for_read_user (disciplined : Disciplined (Permits service) (Finishes service) config)
    {task : Nat} {session created : Session} {event : Event Ports} {user : User}
    (member : (⟨task, .sessions (.create session), .ok created⟩ : Event Ports) ∈ config.history)
    (known : event ∈ config.history) (owner : event.task = task) (read : readUser event = some user) :
    session.userID = user.id := by
  obtain ⟨later, past, same, request, _, permitted⟩ := disciplined.permitted.mem member
  cases permitted with
  | free harmless => cases harmless
  | login grant first =>
      have earlier := mem_of_past same (mem_of_select grant.read)
      obtain rfl := read_unique disciplined known earlier owner (readUser_eq_some read) rfl
      obtain rfl := Option.some.inj read
      rfl

theorem pending_eq_false {task : Nat} : pending config task = false ↔
    (∃ answer, config.Answered task answer) ∨
      ∃ event ∈ config.history, event.task = task ∧ event.exchange.command.acts = true := by
  have answered : (config.answer? task).isNone = false ↔ ∃ answer, config.Answered task answer := by
    rw [Option.isNone_eq_false_iff, Option.isSome_iff_exists]
    exact exists_congr fun answer => ⟨Config.answered_of_answer?, Config.answer?_of_answered⟩
  simp only [pending, Bool.and_eq_false_iff, answered, Bool.not_eq_false', List.any_eq_true,
    Bool.and_eq_true, decide_eq_true_eq]

theorem pending_step {label : ServiceLabel} (moved : (system service store).step config label = some next)
    {task : Nat} (settled : pending config task = false) : pending next task = false := by
  rw [pending_eq_false] at settled ⊢
  rcases settled with ⟨answer, answered⟩ | ⟨event, member, acted⟩
  · exact .inl ⟨answer, step_answered label moved task answer answered⟩
  · exact .inr ⟨event, (step_suffix label moved).subset member, acted⟩

/-- A task that is about to act on its password is pending. -/
theorem pending_of_next (disciplined : Disciplined (Permits service) (Finishes service) config) {task : Nat}
    {request : Request} {command : Command} {rest : command.Reply → Program Ports Answer}
    (selected : config.tasks[task]? = some ⟨request, .call command rest⟩) (acts : command.acts = true) :
    pending config task = true := by
  rw [← Bool.not_eq_false, pending_eq_false, not_or]
  refine ⟨?_, ?_⟩
  · rintro ⟨answer, answered⟩
    rw [Config.Answered, selected, Option.map_some] at answered
    cases answered
  · rintro ⟨event, member, rfl, acted⟩
    have once := (disciplined.next_permitted selected).acts_once acts event.exchange
      ((mem_transcript _ _ _).mpr member)
    rw [acted] at once
    cases once

/-- A step that does not write the password of the reset verifies nothing new. -/
theorem verifiedBefore_step (disciplined : Disciplined (Permits service) (Finishes service) config)
    {label : ServiceLabel} (moved : (system service store).step config label = some next) {reset : Nat}
    {userID : String} (same : beforeUpdate reset userID next.history = beforeUpdate reset userID config.history)
    {task : Nat} (verified : verifiedBefore service next reset userID task = true) :
    verifiedBefore service config reset userID task = true := by
  rw [verifiedBefore_iff] at verified ⊢
  obtain ⟨event, member, rfl, user, read, owner, request, known, matches'⟩ := verified
  rw [same] at member
  exact ⟨event, member, rfl, user, read, owner, request,
    disciplined.request_known moved (beforeUpdate_subset member) known, matches'⟩

/-- A reset that has revoked the sessions does not write the password again. -/
theorem swept_writes_nothing (disciplined : Disciplined (Permits service) (Finishes service) config)
    {reset owner : Nat} {request : Request} {command : Command} {reply : command.Reply}
    {rest : command.Reply → Program Ports Answer} {swept : List String × Option StoreError}
    {userID userID' : String}
    (selected : config.tasks[owner]? = some ⟨request, .call command rest⟩)
    (started : ∃ ctx req, config.request reset = some (.resetPassword ctx req))
    (member : (⟨reset, .sessions (.deleteAllByUserID userID), swept⟩ : Event Ports) ∈ config.history) :
    writesPassword reset userID' ⟨owner, command, reply⟩ = false := by
  cases again : writesPassword reset userID' ⟨owner, command, reply⟩ with
  | false => rfl
  | true =>
      obtain ⟨ctx, req, started⟩ := started
      unfold writesPassword at again
      split at again
      · rename_i same
        cases same
        simp only [Bool.and_eq_true, decide_eq_true_eq] at again
        obtain ⟨rfl, rfl⟩ := again
        rw [Config.request, selected, Option.map_some, Option.some.injEq] at started
        subst started
        have written : (⟨.sessions (.deleteAllByUserID userID), swept⟩ : Exchange Ports) ∈
            select Command.writes (transcript owner config.history) :=
          List.mem_filter.mpr ⟨(mem_transcript _ _ _).mpr member, rfl⟩
        cases disciplined.next_permitted selected with
        | free harmless => cases harmless
        | reset grant dropped =>
            rw [dropped, List.mem_singleton] at written
            cases written
      · cases again

/-- The new password that a verification precedes was written. -/
theorem written_of_verified {reset task : Nat} {userID : String}
    (verified : verifiedBefore service config reset userID task = true) :
    ∃ passwordHash, (⟨reset, .users (.updatePasswordHash userID passwordHash), .ok ()⟩ : Event Ports) ∈
      config.history := by
  obtain ⟨event, member, _⟩ := verifiedBefore_iff.mp verified
  unfold beforeUpdate at member
  cases rest : config.history.dropWhile fun event => !writesPassword reset userID event with
  | nil =>
      rw [rest] at member
      cases member
  | cons update past =>
      have inside : update ∈ config.history :=
        (List.dropWhile_sublist _).subset (rest ▸ List.mem_cons_self)
      have writes : writesPassword reset userID update = true := by
        have first := List.head?_dropWhile_not (fun event => !writesPassword reset userID event) config.history
        rw [rest] at first
        simpa using first
      obtain ⟨owner, command, reply⟩ := update
      unfold writesPassword at writes
      split at writes
      · rename_i same
        cases same
        simp only [Bool.and_eq_true, decide_eq_true_eq] at writes
        obtain ⟨rfl, rfl⟩ := writes
        exact ⟨_, inside⟩
      · cases writes

/-- A reset that succeeds has revoked the sessions of the user whose password it wrote. -/
theorem swept_of_success (disciplined : Disciplined (Permits service) (Finishes service) config)
    {reset : Nat} {token userID : String} (presents : PresentsReset config reset token)
    (succeeds : Succeeds config reset)
    (written : ∃ passwordHash, (⟨reset, .users (.updatePasswordHash userID passwordHash), .ok ()⟩ :
      Event Ports) ∈ config.history) :
    ∃ swept, (⟨reset, .sessions (.deleteAllByUserID userID), swept⟩ : Event Ports) ∈ config.history := by
  obtain ⟨ctx, newPassword, started⟩ := presents
  obtain ⟨response, answered⟩ := succeeds
  obtain ⟨passwordHash, member⟩ := written
  cases disciplined.answered reset _ _ started answered with
  | plain ordinary => cases ordinary
  | reset grant revoked =>
      have inside : (⟨.users (.updatePasswordHash userID passwordHash), .ok ()⟩ : Exchange Ports) ∈
          select Command.writes (transcript reset config.history) :=
        List.mem_filter.mpr ⟨(mem_transcript _ _ _).mpr member, rfl⟩
      have swept := (mem_transcript _ _ _).mp (mem_of_select revoked)
      rw [revoked] at inside
      simp only [List.mem_cons, Exchange.mk.injEq, reduceCtorEq, false_and, List.not_mem_nil, or_false,
        false_or, Command.users.injEq, UserCommand.updatePasswordHash.injEq] at inside
      obtain ⟨⟨rfl, _⟩, _⟩ := inside
      exact ⟨_, swept⟩

/-- A `Login` that succeeds has created a session. -/
theorem created_of_login (disciplined : Disciplined (Permits service) (Finishes service) config) {task : Nat}
    {ctx : Context} {req : LoginRequest} {response : Response}
    (started : config.request task = some (.login ctx req))
    (answered : config.Answered task (.ok response)) :
    ∃ session created, (⟨task, .sessions (.create session), .ok created⟩ : Event Ports) ∈ config.history := by
  cases disciplined.answered task _ _ started answered with
  | plain ordinary => cases ordinary
  | login grant created => exact ⟨_, _, mem_of_writes created⟩

end

/-- A reliable bulk delete reports no error. -/
theorem deleteAll_reliable (backend : Backend) {userID : String} {choice : Choice} {users : UserTable}
    {now : Time} {state next : backend.store.State} {reply : List String × Option StoreError}
    (executed : backend.store.exec (.deleteAllByUserID userID) choice users now state = some (reply, next))
    (works : choice.fails = false) : reply.2 = none := by
  cases backend with
  | memory =>
      change MemoryState.sweep _ _ _ = _ at executed
      unfold MemoryState.sweep at executed
      split at executed
      · cases executed
        rfl
      · cases executed
  | postgres db =>
      change SessionTable.deleteReturning _ _ _ = _ at executed
      simp only [SessionTable.deleteReturning, works, Bool.false_eq_true, if_false] at executed
      cases executed
      rfl

section
variable {service : Service} {backend : Backend} {now : Time} {config : ServiceConfig backend.store}

/-- The steps of a run with reliable calls whose resets are undisturbed. -/
abbrev Orderly (service : Service) (config : ServiceConfig backend.store) (label : ServiceLabel) : Prop :=
  (reliable config label && undisturbed service config label) = true

/-- The sessions that requests with the old password created are gone after the reset has revoked
the sessions of the user. -/
theorem sweep_removes {base : World backend.store} {requests : List Request}
    {allowed : ServiceConfig backend.store → ServiceLabel → Prop} (sound : base.Sound)
    (reached : (system service backend.store).Reaches allowed
      ((system service backend.store).begin base requests) config)
    {reset : Nat} {request : Request} {userID : String}
    {rest : (SessionCommand.deleteAllByUserID userID).Reply → Program Ports Answer}
    (selected : config.tasks[reset]? = some ⟨request, .call (.sessions (.deleteAllByUserID userID)) rest⟩)
    {choice : Choice} {reply : List String × Option StoreError} {sessions : backend.store.State}
    (works : choice.fails = false)
    (performed : backend.store.exec (.deleteAllByUserID userID) choice config.world.users config.world.now
      config.world.sessions = some (reply, sessions))
    {task : Nat} (verified : verifiedBefore service config reset userID task = true) {session created : Session}
    (member : (⟨task, .sessions (.create session), .ok created⟩ : Event Ports) ∈ config.history) :
    ¬ Live (backend.store.rowSet sessions) session.tokenHash := by
  have disciplined := reaches_disciplined reached
  rintro ⟨row, present, same⟩
  obtain ⟨hashes, error⟩ := reply
  obtain rfl : error = none := deleteAll_reliable backend performed works
  obtain ⟨rows, _⟩ := ((reaches_ledger sound reached).effect sound disciplined selected performed).2
  rw [rows] at present
  obtain ⟨before, other⟩ := present
  obtain ⟨event, known, owner, user, read, identity, _⟩ := verifiedBefore_iff.mp verified
  obtain ⟨filled, rfl⟩ := row_of_installation sound reached member rfl before same
  apply other
  rw [Session.keptRow_userID, filled.userID,
    created_for_read_user disciplined member (beforeUpdate_subset known) owner read, identity]

/-- A call in an orderly run keeps the old password cut off. -/
theorem CutOff.event_step (cut : CutOff service config)
    (reached : (system service backend.store).Reaches (Orderly service)
      ((system service backend.store).begin (World.empty backend.store now) []) config)
    {owner : Nat} {choice : Choice} {request : Request} {command : Command}
    {rest : command.Reply → Program Ports Answer} {reply : command.Reply} {world : World backend.store}
    (permitted : Orderly service config (.advance owner choice))
    (selected : config.tasks[owner]? = some ⟨request, .call command rest⟩)
    (executed : exec service command choice config.world = some (reply, world))
    (moved : (system service backend.store).step config (.advance owner choice) =
      some ⟨world, config.tasks.set owner ⟨request, rest reply⟩, ⟨owner, command, reply⟩ :: config.history⟩) :
    CutOff service (⟨world, config.tasks.set owner ⟨request, rest reply⟩,
      ⟨owner, command, reply⟩ :: config.history⟩ : ServiceConfig backend.store) := by
  have disciplined := reaches_disciplined reached
  have sound : (World.empty backend.store now).Sound := World.empty_sound now
  intro reset ctx req userID swept started member task verified
  rcases List.mem_cons.mp member with same | before
  · cases same
    have verified' := verifiedBefore_step disciplined moved (beforeUpdate_cons rfl) verified
    have origin : config.request owner = some request := by rw [Config.request, selected, Option.map_some]
    rw [step_request _ moved _ _ origin, Option.some.injEq] at started
    subst started
    simp only [Orderly, reliable, undisturbed, selected, Bool.and_eq_true, Bool.not_eq_true', List.all_eq_true,
      List.mem_range, Bool.and_eq_false_iff] at permitted
    have inside : task < config.tasks.length := by
      obtain ⟨_, _, _, _, _, _, _, known, _⟩ := verifiedBefore_iff.mp verified'
      obtain ⟨entry, present, _⟩ := Option.map_eq_some_iff.mp known
      exact (List.getElem?_eq_some_iff.mp present).1
    have settled : pending config task = false := by
      rcases permitted.2 task inside with unverified | settled
      · rw [verified'] at unverified
        cases unverified
      · exact settled
    refine ⟨pending_step moved settled, ?_⟩
    intro session created creation
    rcases List.mem_cons.mp creation with same | earlier
    · cases same
    · obtain ⟨sessions, performed, rfl⟩ := exec_sessions executed
      exact sweep_removes sound reached selected permitted.1.1.1 performed verified' earlier
  · have origin := disciplined.request_known moved before started
    have writes : writesPassword reset userID ⟨owner, command, reply⟩ = false :=
      swept_writes_nothing disciplined selected ⟨ctx, req, origin⟩ before
    have verified' := verifiedBefore_step disciplined moved (beforeUpdate_cons writes) verified
    obtain ⟨settled, gone⟩ := cut reset ctx req userID swept origin before task verified'
    refine ⟨pending_step moved settled, ?_⟩
    intro session created creation
    rcases List.mem_cons.mp creation with same | earlier
    · cases same
      rw [pending_of_next disciplined selected rfl] at settled
      cases settled
    · intro live
      refine gone session created earlier (live_step sound reached moved (.inl ?_) live)
      exact List.mem_filterMap.mpr ⟨_, earlier, rfl⟩

theorem reaches_cutOff
    (reached : (system service backend.store).Reaches (Orderly service)
      ((system service backend.store).begin (World.empty backend.store now) []) config) :
    CutOff service config := by
  apply reached.invariant
  · intro reset ctx req userID reply _ member
    cases member
  · intro config label next reached cut permitted moved
    obtain ⟨_, _, rfl⟩ | ⟨task, choice, request, command, rest, reply, world, rfl, selected, executed, rfl⟩ |
      ⟨tick, world, _, drifted, rfl⟩ := service_cases moved
    · intro reset ctx req userID reply started member task verified
      have disciplined := reaches_disciplined reached
      have origin := disciplined.request_known moved member started
      obtain ⟨settled, gone⟩ := cut reset ctx req userID reply origin member task
        (verifiedBefore_step disciplined moved rfl verified)
      exact ⟨pending_step moved settled, gone⟩
    · exact cut.event_step reached permitted selected executed moved
    · obtain ⟨cache, now, rfl⟩ := drift_frame drifted
      exact cut

end

/-- In every run with reliable calls in which a reset revokes the sessions only when no request that
verified the old password is pending, a successful `ResetPassword` request cuts off the old password:
no row is left of a `Login` that verified it, and neither such a `Login` nor such a `ChangePassword`
comes to its `Create` or `UpdatePasswordHash` call any more. -/
theorem reset_cuts_off_password (service : Service) (backend : Backend) (now : Time) :
    let auth := system service backend.store
    let initial := auth.begin (World.empty backend.store now) []
    ∀ config, auth.Reaches (fun config label =>
        (reliable config label && undisturbed service config label) = true) initial config →
      ∀ reset token userID task, PresentsReset config reset token → Succeeds config reset →
        verifiedBefore service config reset userID task = true →
        (∀ session created, (⟨task, .sessions (.create session), .ok created⟩ : Event Ports) ∈
          config.history → ¬ HasRow config session.tokenHash) ∧
        (∀ session, ¬ config.Next task (.sessions (.create session))) ∧
        ∀ userID' passwordHash, ¬ config.Next task (.users (.updatePasswordHash userID' passwordHash)) := by
  intro auth initial config reached reset token userID task presents succeeds verified
  have disciplined := reaches_disciplined reached
  obtain ⟨swept, member⟩ : ∃ swept, (⟨reset, .sessions (.deleteAllByUserID userID), swept⟩ : Event Ports) ∈
      config.history := swept_of_success disciplined presents succeeds (written_of_verified verified)
  obtain ⟨ctx, newPassword, started⟩ := presents
  obtain ⟨settled, gone⟩ := reaches_cutOff reached reset ctx _ userID swept started member task verified
  refine ⟨?_, ?_, ?_⟩
  · intro session created creation present
    exact gone session created creation ((hasRow_iff config session.tokenHash).mp present)
  · rintro session ⟨request, rest, selected⟩
    rw [pending_of_next disciplined selected rfl] at settled
    cases settled
  · rintro userID' passwordHash ⟨request, rest, selected⟩
    rw [pending_of_next disciplined selected rfl] at settled
    cases settled

/-- A reset with a login and a password change of the same user. -/
def resetRace : List Request :=
  [.register bareContext ⟨"a@b.co", "passw0rd"⟩, .requestPasswordReset bareContext "a@b.co",
    .verifyResetCode bareContext ⟨"a@b.co", "000007"⟩, .resetPassword bareContext ⟨"token", "fresh111"⟩,
    .login bareContext ⟨"a@b.co", "passw0rd", "phone"⟩,
    .changePassword userContext ⟨"passw0rd", "other222", ""⟩]

/-- In this run of reliable calls, the login and the password change read the user before the reset
and act after it: the login leaves a row, and the password change replaces the new password. -/
theorem old_password_survives_reset :
    ∃ config next, sampleSystem.Reaches (fun config label => reliable config label = true) (sampleStart []) config ∧
      PresentsReset config 3 "token" ∧ Succeeds config 3 ∧
      verifiedBefore sample config 3 "user" 4 = true ∧ HasRow config "#late" ∧
      verifiedBefore sample config 3 "user" 5 = true ∧
      config.world.users.rows.map User.passwordHash = ["fresh111"] ∧
      sampleSystem.step config (.advance 5 {}) = some next ∧
      next.world.users.rows.map User.passwordHash = ["other222"] := by
  let labels := issueToken ++ advances 4 1 {} ++ advances 5 3 {} ++ advances 3 7 {} ++
    advances 4 7 { id := "session", token := "late" }
  obtain ⟨config, reached, checked⟩ :
      ∃ config, sampleSystem.Reaches (fun config label => reliable config label = true)
          (sampleStart resetRace) config ∧
        decide (config.answer? 3 = some (.ok .resetPassword) ∧
          verifiedBefore sample config 3 "user" 4 = true ∧
          (∃ session ∈ config.world.sessions.rows, session.tokenHash = "#late") ∧
          verifiedBefore sample config 3 "user" 5 = true ∧
          config.world.users.rows.map User.passwordHash = ["fresh111"] ∧
          ((sampleSystem.step config (.advance 5 {})).map fun next =>
            next.world.users.rows.map User.passwordHash) = some ["other222"]) = true :=
    exists_of_run labels _ (by decide +kernel)
  obtain ⟨answered, login, row, change, fresh, replaced⟩ := of_decide_eq_true checked
  obtain ⟨next, moved, other⟩ := Option.map_eq_some_iff.mp replaced
  have started : sampleSystem.Reaches (fun config label => reliable config label = true) (sampleStart [])
      (sampleStart resetRace) := reaches_started _ _ fun _ _ => rfl
  exact ⟨config, next, started.trans reached, ⟨bareContext, "fresh111", reached.request 3 _ rfl⟩,
    ⟨_, Config.answered_of_answer? answered⟩, login, row, change, fresh, moved, other⟩

/-- In this run the login is over before the reset begins, and the reset removes its row. -/
theorem reset_cuts_off_login :
    ∃ config session created, sampleSystem.Reaches (fun config label =>
        (reliable config label && undisturbed sample config label) = true) (sampleStart []) config ∧
      PresentsReset config 3 "token" ∧ Succeeds config 3 ∧
      verifiedBefore sample config 3 "user" 4 = true ∧
      (⟨4, .sessions (.create session), .ok created⟩ : Event Ports) ∈ config.history ∧
      ¬ HasRow config session.tokenHash := by
  let labels := issueToken ++ advances 4 9 { id := "session", token := "early" } ++ advances 3 8 {}
  obtain ⟨config, reached, checked⟩ :
      ∃ config, sampleSystem.Reaches (fun config label =>
          (reliable config label && undisturbed sample config label) = true) (sampleStart resetRace) config ∧
        decide (config.answer? 3 = some (.ok .resetPassword) ∧
          config.answer? 4 = some (.ok (.login "user" "early")) ∧
          verifiedBefore sample config 3 "user" 4 = true) = true :=
    exists_of_run labels _ (by decide +kernel)
  obtain ⟨answered, login, verified⟩ := of_decide_eq_true checked
  have started : sampleSystem.Reaches (fun config label =>
      (reliable config label && undisturbed sample config label) = true) (sampleStart [])
      (sampleStart resetRace) := reaches_started _ _ fun _ _ => rfl
  have whole := started.trans reached
  have presents : PresentsReset config 3 "token" := ⟨bareContext, "fresh111", reached.request 3 _ rfl⟩
  have succeeds : Succeeds config 3 := ⟨_, Config.answered_of_answer? answered⟩
  obtain ⟨session, created, creation⟩ : ∃ session created,
      (⟨4, .sessions (.create session), .ok created⟩ : Event Ports) ∈ config.history :=
    created_of_login (reaches_disciplined whole) (reached.request 4 _ rfl) (Config.answered_of_answer? login)
  exact ⟨config, session, created, whole, presents, succeeds, verified, creation,
    (reset_cuts_off_password sample (.postgres exactDatabase) 0 config whole 3 "token" "user" 4 presents
      succeeds verified).1 session created creation⟩

end AuthService
