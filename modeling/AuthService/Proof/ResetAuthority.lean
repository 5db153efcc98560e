/-
This file proves that only an authorised request changes a password.
-/

import AuthService.Proof.ResetToken
import AuthService.Proof.Users
import Mathlib.Data.Set.Function

namespace AuthService
open Interleaving Program System

/-- The reset token that an exchange saves. -/
def savedBy : Exchange Ports → Option String
  | ⟨.resets (.saveResetToken tokenHash _ _ _), .ok _⟩ => some tokenHash
  | _ => none

/-- A `VerifyResetCode` request calls nothing after it has saved a reset token. -/
def Unsaved : Request → Past → Command → Prop
  | .verifyResetCode _ _, past, _ => ∀ exchange ∈ past, savedBy exchange = none
  | _, _, _ => True

/-- A `VerifyResetCode` request returns the reset token that it has saved. -/
def Returns (service : Service) : Request → Past → Answer → Prop
  | .verifyResetCode _ _, past, answer => ∀ exchange ∈ past, ∀ tokenHash, savedBy exchange = some tokenHash →
      ∃ plain, answer = .ok (.verifyResetCode plain) ∧ service.hash plain = tokenHash
  | _, _, _ => True

section Returning
variable {service : Service} {ctx : Context} {req : VerifyResetCodeRequest}

/-- A request that has saved no token may return anything. -/
theorem returns_of_unsaved (ctx : Context) (req : VerifyResetCodeRequest) {past : Past} {answer : Answer}
    (unsaved : ∀ exchange ∈ past, savedBy exchange = none) :
    Returns service (.verifyResetCode ctx req) past answer := by
  intro exchange member tokenHash saved
  rw [unsaved exchange member] at saved
  cases saved

theorem returning_verifyResetCode (ctx : Context) (req : VerifyResetCodeRequest) :
    (verifyResetCode service req).run.Follows (Unsaved (.verifyResetCode ctx req))
      (Returns service (.verifyResetCode ctx req)) [] := by
  unfold verifyResetCode
  simp only [follows_run_bind]
  apply follows_checkArgument
  · intro status
    exact returns_of_unsaved ctx req (by simp)
  rw [continues_ok, follows_run_bind]
  refine follows_call (by simp [Unsaved]) fun read => ?_
  rw [continues_ok, follows_run_bind]
  apply follows_orStatus
  · intro error status _
    exact returns_of_unsaved ctx req (by simp [savedBy])
  rintro found rfl
  rw [continues_ok, follows_run_bind]
  refine follows_call (by simp [Unsaved, savedBy]) fun counted => ?_
  rw [continues_ok, follows_run_bind]
  apply follows_orStatus
  · intro error status _
    exact returns_of_unsaved ctx req (by simp [savedBy])
  rintro attempts rfl
  rw [continues_ok, follows_run_bind]
  unfold checkAttempts
  split
  · rw [follows_run_bind]
    refine follows_call (by simp [Unsaved, savedBy]) fun dropped => ?_
    exact returns_of_unsaved ctx req (by simp [savedBy])
  rw [follows_run_pure, continues_ok, follows_run_bind]
  unfold checkCode
  split
  · rw [follows_run_pure, continues_ok, follows_run_bind]
    refine follows_call (by simp [Unsaved, savedBy]) fun dropped => ?_
    rw [continues_ok, follows_run_bind]
    refine follows_call (by simp [Unsaved, savedBy]) fun drawn => ?_
    rw [continues_ok, follows_run_bind]
    apply follows_orInternal
    · intro _
      exact returns_of_unsaved ctx req (by simp [savedBy])
    rintro plain rfl
    rw [continues_ok, follows_run_bind]
    refine follows_call (by simp [Unsaved, savedBy]) fun saved => ?_
    rw [continues_ok, follows_run_bind]
    apply follows_orInternalError
    · rintro error rfl
      exact returns_of_unsaved ctx req (by simp [savedBy])
    rintro _ rfl
    rw [continues_ok, follows_run_pure]
    simp [Returns, savedBy]
  · exact returns_of_unsaved ctx req (by simp [savedBy])

theorem returning_handle (service : Service) (request : Request) :
    (handle service request).run.Follows (Unsaved request) (Returns service request) [] := by
  cases request with
  | verifyResetCode ctx req => exact returning_verifyResetCode ctx req
  | _ => exact follows_anything (fun _ _ => trivial) (fun _ _ => trivial) _ _

/-- A reset token that was saved has been returned. -/
theorem returned_of_saved {store : SessionStore} {config : ServiceConfig store}
    (returning : Disciplined Unsaved (Returns service) config) {task : Nat} {tokenHash userID email : String}
    {ttl : Duration} (started : config.request task = some (.verifyResetCode ctx req))
    (saved : (⟨task, .resets (.saveResetToken tokenHash userID email ttl), .ok ()⟩ : Event Ports) ∈
      config.history) :
    ∃ plain, config.Answered task (.ok (.verifyResetCode plain)) ∧ service.hash plain = tokenHash := by
  obtain ⟨⟨request, rest⟩, selected, same⟩ := Option.map_eq_some_iff.mp started
  obtain rfl : request = .verifyResetCode ctx req := same
  have member := (mem_transcript _ _ _).mpr saved
  cases rest with
  | call command following =>
      have unsaved := returning.next_permitted selected _ member
      cases unsaved
  | done answer =>
      have follows := returning.follows task _ _ selected
      obtain ⟨plain, rfl, hashed⟩ := follows _ member tokenHash rfl
      exact ⟨plain, by rw [Config.Answered, selected]; rfl, hashed⟩

end Returning

/-- The task is a `ChangePassword` request with a bearer token of the user and a current password that
verified against the hash as the request read it. -/
def ChangedByOwner {store : SessionStore} (service : Service) (config : ServiceConfig store) (task : Nat)
    (user : User) : Prop :=
  ∃ ctx req read, config.request task = some (.changePassword ctx req) ∧
    Validated ctx (transcript task config.history) user.id ∧
    (⟨task, .users (.getByID user.id), .ok read⟩ : Event Ports) ∈ config.history ∧
    service.verifyPassword req.currentPassword read.passwordHash = some true

/-- The task is a `VerifyResetCode` request that presented the code and returned the reset token, and a
`RequestPasswordReset` request for the same address had generated the code before it was compared. -/
structure Verifies {store : SessionStore} (config : ServiceConfig store) (task : Nat)
    (email otp token : String) : Prop where
  presented : ∃ ctx, config.request task = some (.verifyResetCode ctx ⟨email, otp⟩)
  returned : config.Answered task (.ok (.verifyResetCode token))
  generated : ∃ requester ctx found later past,
    config.request requester = some (.requestPasswordReset ctx email) ∧
    config.history = later ++ ⟨task, .resets (.getOTP email), .ok found⟩ :: past ∧
    (⟨requester, .random .otp, some otp⟩ : Event Ports) ∈ past

/-- The task is a `ResetPassword` request with a reset token that was returned for the user. -/
def ResetByCode {store : SessionStore} (config : ServiceConfig store) (task : Nat) (user : User) : Prop :=
  ∃ ctx req verifier otp, config.request task = some (.resetPassword ctx req) ∧
    Verifies config verifier user.email otp req.resetToken

section Authority
variable {service : Service} {store : SessionStore} {config : ServiceConfig store}

/-- A reset token was saved by a request that presented the code of the record it had read. -/
theorem verifier_of_saved (disciplined : Disciplined (Permits service) (Finishes service) config) {task : Nat}
    {tokenHash userID email : String} {ttl : Duration}
    (saved : (⟨task, .resets (.saveResetToken tokenHash userID email ttl), .ok ()⟩ : Event Ports) ∈
      config.history) :
    ∃ ctx otp found, config.request task = some (.verifyResetCode ctx ⟨email, otp⟩) ∧
      (⟨task, .resets (.getOTP email), .ok found⟩ : Event Ports) ∈ config.history ∧
      found.userID = userID ∧ found.otpHash = service.hash otp := by
  obtain ⟨later, past, same, request, started, permitted⟩ := disciplined.permitted.mem saved
  cases permitted with
  | free harmless => cases harmless
  | saveToken grant drawn first =>
      exact ⟨_, _, _, started, mem_of_past same grant.read, rfl, grant.verified.symm⟩

/-- A request drew the reset token that it returns. -/
theorem drawn_of_returned (disciplined : Disciplined (Permits service) (Finishes service) config) {task : Nat}
    {ctx : Context} {req : VerifyResetCodeRequest} {plain : String}
    (started : config.request task = some (.verifyResetCode ctx req))
    (answered : config.Answered task (.ok (.verifyResetCode plain))) :
    (⟨task, .random .token, some plain⟩ : Event Ports) ∈ config.history := by
  cases disciplined.answered task _ _ started answered with
  | plain ordinary => cases ordinary
  | verify grant drawn saved => exact (mem_transcript _ _ _).mp (mem_of_select drawn)

/-- A code was saved by a request that had read the user and generated the code. -/
theorem requester_of_saved (disciplined : Disciplined (Permits service) (Finishes service) config)
    {later past : List (Event Ports)} {task : Nat} {userID email otpHash : String} {ttl : Duration}
    (same : config.history =
      later ++ ⟨task, .resets (.saveOTP userID email otpHash ttl), .ok ()⟩ :: past) :
    ∃ ctx code user, config.request task = some (.requestPasswordReset ctx email) ∧
      (⟨task, .users (.getByEmail email), .ok user⟩ : Event Ports) ∈ past ∧ user.id = userID ∧
      (⟨task, .random .otp, some code⟩ : Event Ports) ∈ past ∧ otpHash = service.hash code := by
  obtain ⟨request, started, permitted⟩ := disciplined.permitted.split later _ past same
  cases permitted with
  | free harmless => cases harmless
  | saveCode read drawn first =>
      exact ⟨_, _, _, started, (mem_transcript _ _ _).mp (mem_of_select read), rfl,
        (mem_transcript _ _ _).mp drawn, rfl⟩

variable {now : Time} {requests : List Request} {allowed : ServiceConfig store → ServiceLabel → Prop}

/-- A code record that is read for an address belongs to the user with that address, and its code was
generated for that address. -/
theorem generated_of_read
    (reached : (system service store).Reaches allowed
      ((system service store).begin (World.empty store now) requests) config)
    (injective : Set.InjOn service.hash (hashedValues config)) {task : Nat} {ctx : Context}
    {req : VerifyResetCodeRequest} {found : OTPRecord}
    (started : config.request task = some (.verifyResetCode ctx req))
    (read : (⟨task, .resets (.getOTP req.email), .ok found⟩ : Event Ports) ∈ config.history)
    (verified : found.otpHash = service.hash req.otp) :
    (∃ user ∈ config.world.users.rows, user.id = found.userID ∧ user.email = req.email) ∧
    ∃ requester ctx later past, config.request requester = some (.requestPasswordReset ctx req.email) ∧
      config.history = later ++ ⟨task, .resets (.getOTP req.email), .ok found⟩ :: past ∧
      (⟨requester, .random .otp, some req.otp⟩ : Event Ports) ∈ past := by
  obtain ⟨later, past, same, requester, email, ttl, hashed, saved⟩ := (reaches_provenance reached).mem read
  obtain ⟨between, before, rfl⟩ := List.append_of_mem saved
  have whole : config.history = (later ++ ⟨task, .resets (.getOTP req.email), .ok found⟩ :: between) ++
      ⟨requester, .resets (.saveOTP found.userID email found.otpHash ttl), .ok ()⟩ :: before := by
    rw [same, List.append_assoc, List.cons_append]
  obtain ⟨requestCtx, code, user, requested, looked, identity, drawn, matched⟩ :=
    requester_of_saved (reaches_disciplined reached) whole
  have known {event : Event Ports} (member : event ∈ before) : event ∈ config.history := by
    rw [whole]
    exact List.mem_append_right _ (List.mem_cons_of_mem _ member)
  obtain rfl : email = req.email :=
    injective (hashed_of_request requested (by simp [Request.hashes]))
      (hashed_of_request started (by simp [Request.hashes])) hashed
  obtain rfl : code = req.otp :=
    injective (hashed_of_event (known drawn) rfl) (hashed_of_request started (by simp [Request.hashes]))
      (matched.symm.trans verified)
  refine ⟨?_, requester, requestCtx, later, _, requested, same,
    List.mem_append_right _ (List.mem_cons_of_mem _ drawn)⟩
  obtain ⟨row, inside, rowID, rowEmail⟩ := reaches_user reached _ (known looked) user rfl
  exact ⟨row, inside, rowID.trans identity, rowEmail.trans (reaches_address reached (known looked))⟩

/-- A reset-token record that a request finds leads back to a code for the address of its user. -/
theorem verified_of_found
    (reached : (system service store).Reaches allowed
      ((system service store).begin (World.empty store now) requests) config)
    (injective : Set.InjOn service.hash (hashedValues config)) {task : Nat} {ctx : Context}
    {req : ResetPasswordRequest} {found : ResetTokenRecord}
    (started : config.request task = some (.resetPassword ctx req))
    (read : (⟨task, .resets (.getResetToken (service.hash req.resetToken)), .ok found⟩ : Event Ports) ∈
      config.history) :
    ∃ user ∈ config.world.users.rows, user.id = found.userID ∧
      ∃ verifier otp, Verifies config verifier user.email otp req.resetToken := by
  obtain ⟨verifier, ttl, saved⟩ := saved_of_found reached read
  obtain ⟨verifyCtx, otp, record, verifying, looked, identity, matched⟩ :=
    verifier_of_saved (reaches_disciplined reached) saved
  obtain ⟨⟨user, member, userID, address⟩, requester, requestCtx, later, past, requested, same, drawn⟩ :=
    generated_of_read reached injective verifying looked matched
  obtain ⟨plain, answered, hashed⟩ :=
    returned_of_saved (reached.disciplined (returning_handle service)) verifying saved
  have issued := drawn_of_returned (reaches_disciplined reached) verifying answered
  obtain rfl : plain = req.resetToken :=
    injective (hashed_of_event issued rfl) (hashed_of_request started (by simp [Request.hashes])) hashed
  refine ⟨user, member, userID.trans identity, verifier, otp, ⟨verifyCtx, ?_⟩, answered,
    requester, requestCtx, record, later, past, ?_, ?_, drawn⟩
  · rw [address]
    exact verifying
  · rw [address]
    exact requested
  · rw [address]
    exact same

/-- A step that changes the password of a user performs the `UpdatePasswordHash` call for it. -/
theorem password_step {next : ServiceConfig store} {label : ServiceLabel}
    (moved : (system service store).step config label = some next) {before after : User}
    (old : before ∈ config.world.users.rows) (new : after ∈ next.world.users.rows) (same : after.id = before.id)
    (changed : after.passwordHash ≠ before.passwordHash) :
    ∃ task choice, label = .advance task choice ∧
      config.Next task (.users (.updatePasswordHash before.id after.passwordHash)) := by
  have unchanged (kept : next.world.users = config.world.users) : False := by
    rw [kept] at new
    rw [config.world.users.id_injective new old same] at changed
    exact changed rfl
  obtain ⟨_, _, rfl⟩ | ⟨task, choice, request, command, rest, reply, world, rfl, selected, executed, rfl⟩ |
    ⟨tick, world, _, drifted, rfl⟩ := service_cases moved
  · exact (unchanged rfl).elim
  · by_cases call : ∃ call, command = .users call
    · obtain ⟨call, rfl⟩ := call
      obtain ⟨users, performed, rfl⟩ := exec_users executed
      obtain rfl := UserTable.exec_password performed old new same changed
      exact ⟨task, choice, rfl, request, rest, selected⟩
    · exact (unchanged ((exec_changes executed).keeps_users fun other same => call ⟨other, same⟩)).elim
  · obtain ⟨cache, now, rfl⟩ := drift_frame drifted
    exact (unchanged rfl).elim

end Authority

/-- In every run from empty stores, with any interleaving and any failures, the password of a user changes
only at the `UpdatePasswordHash` call of a request of the user, or of a reset that a code for the address
of the user has authorised. -/
theorem password_change_authorised (service : Service) (backend : Backend) (now : Time) :
    let auth := system service backend.store
    let initial := auth.begin (World.empty backend.store now) []
    ∀ config label next, auth.Reaches Anything initial config →
      Set.InjOn service.hash (hashedValues config) → auth.step config label = some next →
      ∀ before ∈ config.world.users.rows, ∀ after ∈ next.world.users.rows, after.id = before.id →
        after.passwordHash ≠ before.passwordHash →
        ∃ task choice, label = .advance task choice ∧
          config.Next task (.users (.updatePasswordHash before.id after.passwordHash)) ∧
          (ChangedByOwner service config task before ∨ ResetByCode config task before) := by
  intro auth initial config label next reached injective moved before old after new same changed
  obtain ⟨task, choice, rfl, request, rest, selected⟩ := password_step moved old new same changed
  refine ⟨task, choice, rfl, ⟨request, rest, selected⟩, ?_⟩
  have started : config.request task = some request := by
    rw [Config.request, selected, Option.map_some]
  generalize target : before.id = userID, after.passwordHash = newHash at selected
  cases (reaches_disciplined reached).next_permitted selected with
  | free harmless => cases harmless
  | change grant first =>
      subst target
      exact .inl ⟨_, _, _, started, grant.validated, (mem_transcript _ _ _).mp (mem_of_select grant.read),
        grant.verified⟩
  | reset grant dropped =>
      obtain ⟨user, member, identity, verifier, otp, verifies⟩ := verified_of_found reached injective started
        ((mem_transcript _ _ _).mp (mem_of_select grant.read))
      obtain rfl := config.world.users.id_injective member old (identity.trans target.symm)
      exact .inr ⟨_, _, verifier, otp, started, verifies⟩

/-- In this run a reset with the token of a verified code changes the password. -/
theorem password_reset_authorised :
    ∃ config next, sampleSystem.Reaches Anything (sampleStart []) config ∧
      sampleSystem.step config (.advance 3 {}) = some next ∧
      ∃ before ∈ config.world.users.rows, ∃ after ∈ next.world.users.rows, after.id = before.id ∧
        after.passwordHash ≠ before.passwordHash ∧ ResetByCode config 3 before := by
  obtain ⟨config, reached, checked⟩ : ∃ config, sampleSystem.Reaches Anything (sampleStart twoResets) config ∧
      ((sampleSystem.step config (.advance 3 {})).any fun next => decide
        (∃ before ∈ config.world.users.rows, ∃ after ∈ next.world.users.rows, after.id = before.id ∧
          after.passwordHash ≠ before.passwordHash)) = true :=
    exists_of_run (issueToken ++ advances 3 3 {}) _ (by decide +kernel)
  obtain ⟨next, moved, changes⟩ := (Option.any_eq_true _ _).mp checked
  obtain ⟨before, old, after, new, same, changed⟩ := of_decide_eq_true changes
  have started : sampleSystem.Reaches Anything (sampleStart []) (sampleStart twoResets) :=
    reaches_started _ _ fun _ _ => rfl
  have whole := started.trans reached
  refine ⟨config, next, whole, moved, before, old, after, new, same, changed, ?_⟩
  obtain ⟨task, choice, label, _, authorised⟩ := password_change_authorised sample (.postgres exactDatabase) 0
    config _ next whole sample_hash_injective.injOn moved before old after new same changed
  cases label
  rcases authorised with ⟨ctx, req, read, request, _⟩ | authorised
  · have other : config.request 3 = some (.resetPassword bareContext ⟨"token", "first111"⟩) :=
      reached.request 3 _ rfl
    cases other.symm.trans request
  · exact authorised

end AuthService
