/-
This file states how the handlers treat the cache: which entries they drop, and that they drop the entry
of every row that they have removed.
-/

import AuthService.Proof.ConductRules

namespace AuthService
open Interleaving Program

/-- The refresh token whose session a request refreshes or ends. -/
def Request.sessionToken : Request → Option String
  | .refreshToken _ req => some req.refreshToken
  | .logout _ token => some token
  | _ => none

/-- The user whose sessions a request deletes, as its own exchanges tell. -/
def ActsFor (service : Service) : Request → Past → String → Prop
  | .logoutAll ctx, past, userID => Validated ctx past userID
  | .revokeSession ctx _, past, userID => Validated ctx past userID
  | .changePassword ctx _, past, userID => Validated ctx past userID
  | .resetPassword _ req, past, userID => ∃ found : ResetTokenRecord,
      (⟨.resets (.getResetToken (service.hash req.resetToken)), .ok found⟩ : Exchange Ports) ∈ past ∧
        found.userID = userID
  | _, _, _ => False

/-- The exchange deleted sessions of the user and returned the token hash. -/
def Lists : Exchange Ports → String → String → Prop
  | ⟨.sessions (.deleteByID _ userID), .ok deleted⟩, owner, tokenHash =>
      userID = owner ∧ deleted = tokenHash
  | ⟨.sessions (.deleteAllByUserID userID), reply⟩, owner, tokenHash => userID = owner ∧ tokenHash ∈ reply.1
  | ⟨.sessions (.deleteAllByUserIDExcept userID _), reply⟩, owner, tokenHash =>
      userID = owner ∧ tokenHash ∈ reply.1
  | _, _, _ => False

/-- A request drops the entry of the token that it presents, and those of the sessions that it deletes for
the user it acts for. -/
def Drops (service : Service) (request : Request) (past : Past) (tokenHash : String) : Prop :=
  (∃ token, request.sessionToken = some token ∧ service.hash token = tokenHash) ∨
    ∃ userID, ActsFor service request past userID ∧ ∃ exchange ∈ past, Lists exchange userID tokenHash

/-- The calls that a request may make on the entries and rows of a token hash. -/
def Cleans (service : Service) (request : Request) (past : Past) : Command → Prop
  | .cache (.delete tokenHash) => Drops service request past tokenHash
  | .sessions (.getByTokenHash tokenHash) =>
      ∃ token, request.sessionToken = some token ∧ service.hash token = tokenHash
  | _ => True

/-- The token hashes whose rows an exchange removed. -/
def removed : Exchange Ports → List String
  | ⟨.sessions (.deleteByID _ _), .ok tokenHash⟩ => [tokenHash]
  | ⟨.sessions (.deleteByTokenHash tokenHash), .ok _⟩ => [tokenHash]
  | ⟨.sessions (.rotateToken oldHash _), .ok _⟩ => [oldHash]
  | ⟨.sessions (.deleteAllByUserID _), (hashes, none)⟩ => hashes
  | ⟨.sessions (.deleteAllByUserIDExcept _ _), (hashes, none)⟩ => hashes
  | _ => []

/-- The request has removed the row of the token hash and has not yet dropped its cache entry. -/
def Owes : Past → String → Prop
  | [], _ => False
  | exchange :: past, tokenHash => exchange.command ≠ .cache (.delete tokenHash) ∧
      (tokenHash ∈ removed exchange ∨ Owes past tokenHash)

/-- The request owes nothing to the cache. -/
def Settled (past : Past) : Prop := ∀ tokenHash, ¬ Owes past tokenHash

/-- The calls that neither drop a cache entry nor touch a session row that exists. -/
def Command.neutral : Command → Bool
  | .cache (.delete _) => false
  | .sessions (.create _) | .sessions (.listByUserID _) => true
  | .sessions _ => false
  | _ => true

def Neutral (command : Command) : Prop := command.neutral = true

theorem removed_of_neutral {command : Command} (neutral : Neutral command) (reply : command.Reply) :
    removed ⟨command, reply⟩ = [] := by
  cases command with
  | sessions command =>
      cases command with
      | create session => rfl
      | listByUserID userID => rfl
      | _ => cases neutral
  | _ => rfl

theorem settled_nil : Settled [] := fun _ owes => owes

theorem Settled.cons {past : Past} (settled : Settled past) {exchange : Exchange Ports}
    (kept : removed exchange = []) : Settled (exchange :: past) := by
  rintro tokenHash ⟨_, now | before⟩
  · rw [kept] at now
    cases now
  · exact settled tokenHash before

theorem Settled.neutral {past : Past} (settled : Settled past) {command : Command}
    (neutral : Neutral command) (reply : command.Reply) : Settled (⟨command, reply⟩ :: past) :=
  settled.cons (removed_of_neutral neutral reply)

/-- After a removal the request owes the entries of the removed rows. -/
theorem Settled.owed {past : Past} (settled : Settled past) {exchange : Exchange Ports} {tokenHash : String}
    (owes : Owes (exchange :: past) tokenHash) : tokenHash ∈ removed exchange :=
  owes.2.resolve_right (settled tokenHash)

theorem ActsFor.mono {service : Service} {request : Request} {past later : Past} {userID : String}
    (acts : ActsFor service request past userID) (kept : ∀ exchange ∈ past, exchange ∈ later) :
    ActsFor service request later userID := by
  cases request with
  | resetPassword ctx req =>
      obtain ⟨found, read, same⟩ := acts
      exact ⟨found, kept _ read, same⟩
  | logoutAll ctx => exact Validated.mono acts kept
  | revokeSession ctx sessionID => exact Validated.mono acts kept
  | changePassword ctx req => exact Validated.mono acts kept
  | _ => exact acts.elim

theorem Drops.cons {service : Service} {request : Request} {past : Past} {tokenHash : String}
    (drops : Drops service request past tokenHash) (exchange : Exchange Ports) :
    Drops service request (exchange :: past) tokenHash := by
  rcases drops with presented | ⟨userID, acts, deletion, member, lists⟩
  · exact .inl presented
  · exact .inr ⟨userID, acts.mono fun _ => List.mem_cons_of_mem _, deletion, List.mem_cons_of_mem _ member, lists⟩

section Rules
variable {service : Service} {request : Request} {past : Past}

theorem cleans_of_neutral (past : Past) {command : Command} (neutral : Neutral command) :
    Cleans service request past command := by
  cases command with
  | cache command =>
      cases command with
      | delete tokenHash => cases neutral
      | _ => trivial
  | sessions command =>
      cases command with
      | getByTokenHash tokenHash => cases neutral
      | _ => trivial
  | _ => trivial

/-- A program is tidy when it drops only entries that it may drop and ends owing nothing. -/
def Tidy {A : Type} (service : Service) (request : Request) (past : Past) (program : Handler A) : Prop :=
  program.run.Follows (Cleans service request) (fun past _ => Settled past) past

theorem tidy_of_only {A : Type} {program : Handler A} (only : program.run.Only Neutral) (settled : Settled past) :
    Tidy service request past program :=
  follows_of_only only (fun past _ neutral => cleans_of_neutral past neutral)
    (fun _ _ reply neutral settled => settled.neutral neutral reply) past settled

/-- Tidy programs can be put one after the other. -/
theorem tidy_seq {A B : Type} {program : Handler A} {rest : A → Handler B}
    (first : Tidy service request past program)
    (after : ∀ later answer, Settled later → Tidy service request later (rest answer)) :
    Tidy service request past (program >>= rest) := by
  rw [Tidy, follows_run_bind]
  refine Follows.imp ?_ _ _ first
  rintro later (status | answer) settled
  · exact settled
  · exact after later answer settled

/-- A neutral part in front of a program keeps what is known about the past. -/
theorem tidy_bind {A B : Type} {program : Handler A} {rest : A → Handler B} {known : Past → Prop}
    (keeps : ∀ past exchange, known past → known (exchange :: past)) (only : program.run.Only Neutral)
    (settled : Settled past) (holds : known past)
    (after : ∀ later answer, Settled later → known later → Tidy service request later (rest answer)) :
    Tidy service request past (program >>= rest) := by
  rw [Tidy, follows_run_bind]
  have neutral : program.run.Follows (Cleans service request) (fun past _ => Settled past ∧ known past) past :=
    follows_of_only only (fun past _ neutral => cleans_of_neutral past neutral)
      (fun past _ reply neutral both => ⟨both.1.neutral neutral reply, keeps past _ both.2⟩) past ⟨settled, holds⟩
  refine Follows.imp ?_ _ _ neutral
  rintro later (status | answer) ⟨settled, holds⟩
  · exact settled
  · exact after later answer settled holds

/-- The request drops the entry that it owes. -/
theorem tidy_deleteSessionFromCache {tokenHash : String} (drops : Drops service request past tokenHash)
    (owed : ∀ other, Owes past other → other = tokenHash) :
    Tidy service request past (deleteSessionFromCache tokenHash) := by
  rw [Tidy, deleteSessionFromCache, follows_run_bind]
  refine follows_call drops fun reply => ?_
  rintro other ⟨apart, now | before⟩
  · cases now
  · exact apart (by rw [owed other before])

/-- The loop over the returned hashes drops every entry that the request owes. -/
theorem tidy_deleteHashes {hashes : List String} (drops : ∀ tokenHash ∈ hashes, Drops service request past tokenHash)
    (owed : ∀ tokenHash, Owes past tokenHash → tokenHash ∈ hashes) :
    Tidy service request past (forM hashes deleteSessionFromCache : Handler PUnit) := by
  apply follows_forM deleteSessionFromCache fun left past =>
    (∀ tokenHash ∈ left, Drops service request past tokenHash) ∧ ∀ tokenHash, Owes past tokenHash → tokenHash ∈ left
  · rintro tokenHash left past ⟨drops, owed⟩
    rw [deleteSessionFromCache, follows_run_bind]
    refine follows_call (drops tokenHash List.mem_cons_self) fun reply => ⟨rfl, ?_, ?_⟩
    · intro other member
      exact (drops other (List.mem_cons_of_mem _ member)).cons _
    · rintro other ⟨apart, now | before⟩
      · cases now
      · rcases List.mem_cons.mp (owed other before) with rfl | member
        · exact absurd rfl apart
        · exact member
  · intro past ⟨_, owed⟩ tokenHash owes
    cases owed tokenHash owes
  · exact ⟨drops, owed⟩

end Rules

section Kinds
variable {service : Service} {kind : Command → Prop}
  (mild : ∀ command, Neutral command → (∀ call, command ≠ .guard call) → kind command)
include mild

theorem only_reportReturn (auditUser : Option String) (hookUser email : String) (eventType : AuditEventType)
    (client : ClientInfo) (auditMeta hookMeta : List (String × String)) (response : Response) :
    (do
      report auditUser hookUser email eventType client auditMeta hookMeta
      return response : Handler Response).run.Only kind :=
  only_run_bind (only_report kind (fun _ => mild _ rfl nofun) _ _ _ _ _ _ _) fun _ => trivial

theorem only_register (ctx : Context) (req : RegisterRequest) :
    (register service ctx req).run.Only kind := by
  refine only_run_bind (only_checkArgument _) fun _ => ?_
  refine only_run_bind (only_checkArgument _) fun _ => ?_
  refine only_run_bind (only_hashPassword kind (mild _ rfl nofun) _ _) fun hash => ?_
  refine only_run_bind (only_run_perform (mild _ rfl nofun)) fun created => ?_
  refine only_run_bind (only_orStatus _ _ _) fun user => ?_
  exact only_reportReturn mild _ _ _ _ _ _ _ _

theorem only_login (guard : service.bruteGuard.isSome = true → ∀ call, kind (.guard call)) (ctx : Context)
    (req : LoginRequest) : (login service ctx req).run.Only kind := by
  refine only_run_bind (only_checkArgument _) fun _ => ?_
  refine only_run_bind (only_checkLockout kind _ guard (fun _ => mild _ rfl nofun) _ _) fun _ => ?_
  refine only_run_bind (only_getLoginUser kind (mild _ rfl nofun) (fun _ => mild _ rfl nofun) _) fun user => ?_
  refine only_run_bind (only_checkLoginPassword kind _ guard (fun _ => mild _ rfl nofun) _ _ _) fun _ => ?_
  refine only_run_bind (only_resetGuard kind _ guard _) fun _ => ?_
  refine only_run_bind (only_run_perform (mild _ rfl nofun)) fun signed => ?_
  refine only_run_bind (only_orInternal _) fun accessToken => ?_
  refine only_run_bind (only_run_perform (mild _ rfl nofun)) fun drawn => ?_
  refine only_run_bind (only_orInternal _) fun plainRefresh => ?_
  refine only_run_bind (only_run_perform (mild _ rfl nofun)) fun now => ?_
  refine only_run_bind (only_run_perform (mild _ rfl nofun)) fun created => ?_
  refine only_run_bind (only_orInternalError _) fun sess => ?_
  refine only_run_bind (only_cacheSession kind (mild _ rfl nofun) (fun _ _ _ => mild _ rfl nofun) _ _) fun _ => ?_
  exact only_reportReturn mild _ _ _ _ _ _ _ _

theorem only_validateToken (token : String) : (validateToken token).run.Only kind := by
  refine only_run_bind (only_run_perform (mild _ rfl nofun)) fun claims => ?_
  cases claims <;> trivial

theorem only_extractUserIDFromCtx (ctx : Context) : (extractUserIDFromCtx ctx).run.Only kind := by
  unfold extractUserIDFromCtx
  split
  · trivial
  · split
    · trivial
    · split
      · trivial
      · refine only_run_bind (only_run_perform (mild _ rfl nofun)) fun claims => ?_
        cases claims <;> trivial

theorem only_listSessions (ctx : Context) : (listSessions ctx).run.Only kind := by
  refine only_run_bind (only_extractUserIDFromCtx mild ctx) fun userID => ?_
  refine only_run_bind (only_run_perform (mild _ rfl nofun)) fun listed => ?_
  exact only_run_bind (only_orInternalError _) fun _ => trivial

theorem only_requestPasswordReset (ctx : Context) (email : String) :
    (requestPasswordReset service ctx email).run.Only kind := by
  refine only_run_bind (only_checkArgument _) fun _ => ?_
  refine only_run_bind (only_run_perform (mild _ rfl nofun)) fun found => ?_
  cases found with
  | error error =>
      by_cases unknown : error = .userNotFound
      · simp only [if_pos unknown]
        trivial
      · simp only [if_neg unknown]
        trivial
  | ok user =>
      refine only_run_bind (only_run_perform (mild _ rfl nofun)) fun drawn => ?_
      refine only_run_bind (only_orInternal _) fun code => ?_
      refine only_run_bind (only_run_perform (mild _ rfl nofun)) fun saved => ?_
      refine only_run_bind (only_orInternalError _) fun _ => ?_
      exact only_reportReturn mild _ _ _ _ _ _ _ _

theorem only_verifyResetCode (req : VerifyResetCodeRequest) :
    (verifyResetCode service req).run.Only kind := by
  refine only_run_bind (only_checkArgument _) fun _ => ?_
  refine only_run_bind (only_run_perform (mild _ rfl nofun)) fun read => ?_
  refine only_run_bind (only_orStatus _ _ _) fun otpRecord => ?_
  refine only_run_bind (only_run_perform (mild _ rfl nofun)) fun counted => ?_
  refine only_run_bind (only_orStatus _ _ _) fun attempts => ?_
  refine only_run_bind ?_ fun _ => ?_
  · unfold checkAttempts
    split
    · exact only_run_bind (only_run_perform (mild _ rfl nofun)) fun _ => trivial
    · trivial
  refine only_run_bind ?_ fun _ => ?_
  · unfold checkCode
    split <;> trivial
  refine only_run_bind (only_run_perform (mild _ rfl nofun)) fun dropped => ?_
  refine only_run_bind (only_run_perform (mild _ rfl nofun)) fun drawn => ?_
  refine only_run_bind (only_orInternal _) fun plain => ?_
  refine only_run_bind (only_run_perform (mild _ rfl nofun)) fun saved => ?_
  exact only_run_bind (only_orInternalError _) fun _ => trivial

end Kinds

section Handlers
variable {service : Service}

theorem neutral_report (auditUser : Option String) (hookUser email : String) (eventType : AuditEventType)
    (client : ClientInfo) (auditMeta hookMeta : List (String × String)) (response : Response) :
    (do
      report auditUser hookUser email eventType client auditMeta hookMeta
      return response : Handler Response).run.Only Neutral :=
  only_reportReturn (fun _ neutral _ => neutral) _ _ _ _ _ _ _ _

section Presented
variable {request : Request} {token : String} {past : Past}

theorem drops_presented (presented : request.sessionToken = some token) (past : Past) :
    Drops service request past (service.hash token) := .inl ⟨token, presented, rfl⟩

theorem tidy_lookupSession (presented : request.sessionToken = some token) (settled : Settled past) :
    Tidy service request past (lookupSession (service.hash token)) := by
  rw [Tidy, lookupSession, follows_run_bind]
  refine follows_call trivial fun cached => ?_
  have settled : Settled (⟨.cache (.get (service.hash token)), cached⟩ :: past) := settled.cons rfl
  rw [continues_ok]
  cases cached with
  | ok cached => exact settled
  | error miss =>
      simp only [follows_run_bind]
      refine follows_call ⟨token, presented, rfl⟩ fun row => ?_
      rw [continues_ok, follows_run_bind]
      apply follows_orStatus
      · intro error status _
        exact settled.cons rfl
      · intro session _
        exact settled.cons rfl

/-- The removal of an expired session is followed by the removal of its entry. -/
theorem tidy_checkExpiry (presented : request.sessionToken = some token) (cached : CachedSession)
    (settled : Settled past) : Tidy service request past (checkExpiry (service.hash token) cached) := by
  rw [Tidy, checkExpiry, follows_run_bind]
  refine follows_call trivial fun now => ?_
  have settled : Settled (⟨.clock, now⟩ :: past) := settled.cons rfl
  rw [continues_ok]
  split
  · rw [follows_run_bind]
    refine follows_call trivial fun deleted => ?_
    rw [continues_ok]
    refine tidy_seq (tidy_deleteSessionFromCache (drops_presented presented _) ?_) fun _ _ settled => settled
    intro other owes
    have owed := settled.owed owes
    cases deleted with
    | ok _ => exact List.mem_singleton.mp owed
    | error error => cases owed
  · exact settled

end Presented

/-- `RefreshToken` drops the entry of the token that it was given once it has removed the row. -/
theorem tidy_refreshToken (ctx : Context) (req : RefreshTokenRequest) :
    Tidy service (.refreshToken ctx req) [] (refreshToken service ctx req) := by
  refine tidy_seq (tidy_lookupSession rfl settled_nil) fun _ cached settled => ?_
  refine tidy_seq (tidy_checkExpiry rfl cached settled) fun _ _ settled => ?_
  refine tidy_seq (tidy_of_only (only_run_perform rfl) settled) fun _ signed settled => ?_
  refine tidy_seq (tidy_of_only (only_orInternal _) settled) fun _ newAccessToken settled => ?_
  refine tidy_seq (tidy_of_only (only_run_perform rfl) settled) fun _ drawn settled => ?_
  refine tidy_seq (tidy_of_only (only_orInternal _) settled) fun _ newPlain settled => ?_
  refine tidy_seq (tidy_of_only (only_run_perform rfl) settled) fun _ now settled => ?_
  rw [Tidy, follows_run_bind]
  refine follows_call trivial fun rotated => ?_
  rw [continues_ok, follows_run_bind]
  apply follows_orStatus
  · rintro error status rfl
    exact settled.cons rfl
  rintro newSess rfl
  refine tidy_seq (tidy_deleteSessionFromCache (drops_presented rfl _) ?_) fun _ _ settled => ?_
  · intro other owes
    exact List.mem_singleton.mp (settled.owed owes)
  · refine tidy_of_only (only_run_bind (only_cacheSession Neutral rfl (fun _ _ _ => rfl) _ _) fun _ => ?_) settled
    exact neutral_report _ _ _ _ _ _ _ _

theorem tidy_logout (ctx : Context) (token : String) :
    Tidy service (.logout ctx token) [] (logout service ctx token) := by
  have reads : (cachedOwner (service.hash token)).run.Only Neutral := by
    refine only_run_bind (only_run_perform rfl) fun cached => ?_
    cases cached <;> trivial
  refine tidy_seq (tidy_of_only reads settled_nil) fun _ owner settled => ?_
  rw [Tidy, follows_run_bind]
  refine follows_call trivial fun deleted => ?_
  rw [continues_ok, follows_run_bind]
  apply follows_orInternalError
  · rintro error rfl
    exact settled.cons rfl
  rintro _ rfl
  refine tidy_seq (tidy_deleteSessionFromCache (drops_presented rfl _) ?_) fun _ _ settled => ?_
  · intro other owes
    exact List.mem_singleton.mp (settled.owed owes)
  · exact tidy_of_only (neutral_report _ _ _ _ _ _ _ _) settled

section Acting
variable {ctx : Context}

/-- A request with a bearer token goes on with the user of the token. -/
theorem tidy_extractUserIDFromCtx {request : Request} {B : Type} {rest : String → Handler B}
    (after : ∀ later userID, Settled later → Validated ctx later userID → Tidy service request later (rest userID)) :
    Tidy service request [] (extractUserIDFromCtx ctx >>= rest) := by
  rw [Tidy, follows_run_bind]
  apply follows_extractUserIDFromCtx ctx fun _ => trivial
  · intro status
    exact settled_nil
  · intro token status
    exact settled_nil.cons rfl
  · intro token claims validated
    exact after _ _ (settled_nil.cons rfl) validated

theorem tidy_logoutAll (ctx : Context) : Tidy service (.logoutAll ctx) [] (logoutAll ctx) := by
  refine tidy_extractUserIDFromCtx fun past userID settled validated => ?_
  rw [Tidy, follows_run_bind]
  refine follows_call trivial fun deleted => ?_
  rw [continues_ok, follows_run_bind]
  apply follows_deletedHashes
  · rintro hashes error rfl
    exact settled.cons rfl
  rintro hashes rfl
  refine tidy_seq (tidy_deleteHashes ?_ ?_) fun _ _ settled => tidy_of_only (neutral_report _ _ _ _ _ _ _ _) settled
  · intro tokenHash member
    exact .inr ⟨userID, validated.mono fun _ => List.mem_cons_of_mem _, _, List.mem_cons_self, rfl, member⟩
  · intro tokenHash owes
    exact settled.owed owes

theorem tidy_revokeSession (ctx : Context) (sessionID : String) :
    Tidy service (.revokeSession ctx sessionID) [] (revokeSession ctx sessionID) := by
  refine tidy_extractUserIDFromCtx fun past userID settled validated => ?_
  rw [Tidy, follows_run_bind]
  refine follows_call trivial fun deleted => ?_
  rw [continues_ok, follows_run_bind]
  apply follows_orStatus
  · rintro error status rfl
    exact settled.cons rfl
  rintro tokenHash rfl
  refine tidy_seq (tidy_deleteSessionFromCache ?_ ?_) fun _ _ settled =>
    tidy_of_only (neutral_report _ _ _ _ _ _ _ _) settled
  · exact .inr ⟨userID, validated.mono fun _ => List.mem_cons_of_mem _, _, List.mem_cons_self, rfl, rfl⟩
  · intro other owes
    exact List.mem_singleton.mp (settled.owed owes)

theorem tidy_changePassword (ctx : Context) (req : ChangePasswordRequest) :
    Tidy service (.changePassword ctx req) [] (changePassword service ctx req) := by
  refine tidy_extractUserIDFromCtx fun past userID settled validated => ?_
  have keeps (past : Past) (exchange : Exchange Ports) (validated : Validated ctx past userID) :
      Validated ctx (exchange :: past) userID := validated.mono fun _ => List.mem_cons_of_mem _
  refine tidy_bind keeps (only_checkArgument _) settled validated fun past _ settled validated => ?_
  refine tidy_bind keeps (only_run_perform rfl) settled validated fun past read settled validated => ?_
  refine tidy_bind keeps (only_orInternalError _) settled validated fun past user settled validated => ?_
  refine tidy_bind keeps (only_checkCurrentPassword Neutral _ _ _) settled validated
    fun past _ settled validated => ?_
  refine tidy_bind keeps (only_hashPassword Neutral rfl _ _) settled validated
    fun past newHash settled validated => ?_
  refine tidy_bind keeps (only_run_perform rfl) settled validated fun past changed settled validated => ?_
  refine tidy_bind keeps (only_orInternalError _) settled validated fun past _ settled validated => ?_
  rw [Tidy, follows_run_bind]
  refine follows_call trivial fun deleted => ?_
  refine tidy_seq (tidy_deleteHashes ?_ ?_) fun _ _ settled => tidy_of_only (neutral_report _ _ _ _ _ _ _ _) settled
  · intro tokenHash member
    exact .inr ⟨userID, keeps _ _ validated, _, List.mem_cons_self, rfl, member⟩
  · intro tokenHash owes
    have owed := settled.owed owes
    obtain ⟨hashes, _ | error⟩ := deleted
    · exact owed
    · cases owed

theorem tidy_resetPassword (ctx : Context) (req : ResetPasswordRequest) :
    Tidy service (.resetPassword ctx req) [] (resetPassword service ctx req) := by
  refine tidy_seq (tidy_of_only (only_checkArgument _) settled_nil) fun past _ settled => ?_
  rw [Tidy, follows_run_bind]
  refine follows_call trivial fun read => ?_
  have settled : Settled (⟨.resets (.getResetToken (service.hash req.resetToken)), read⟩ :: past) :=
    settled.cons rfl
  rw [continues_ok, follows_run_bind]
  apply follows_orStatus
  · intro error status _
    exact settled
  rintro tokenRec rfl
  have acts : ActsFor service (.resetPassword ctx req) (⟨.resets (.getResetToken (service.hash req.resetToken)),
      .ok tokenRec⟩ :: past) tokenRec.userID := ⟨tokenRec, List.mem_cons_self, rfl⟩
  have keeps (past : Past) (exchange : Exchange Ports)
      (acts : ActsFor service (.resetPassword ctx req) past tokenRec.userID) :
      ActsFor service (.resetPassword ctx req) (exchange :: past) tokenRec.userID :=
    acts.mono fun _ => List.mem_cons_of_mem _
  rw [continues_ok]
  refine tidy_bind keeps (only_run_perform rfl) settled acts fun past dropped settled acts => ?_
  refine tidy_bind keeps (only_orInternalError _) settled acts fun past _ settled acts => ?_
  refine tidy_bind keeps (only_hashPassword Neutral rfl _ _) settled acts fun past newHash settled acts => ?_
  refine tidy_bind keeps (only_run_perform rfl) settled acts fun past changed settled acts => ?_
  refine tidy_bind keeps (only_orInternalError _) settled acts fun past _ settled acts => ?_
  rw [Tidy, follows_run_bind]
  refine follows_call trivial fun deleted => ?_
  refine tidy_seq (tidy_deleteHashes ?_ ?_) fun _ _ settled => tidy_of_only (neutral_report _ _ _ _ _ _ _ _) settled
  · intro tokenHash member
    exact .inr ⟨tokenRec.userID, keeps _ _ acts, _, List.mem_cons_self, rfl, member⟩
  · intro tokenHash owes
    have owed := settled.owed owes
    obtain ⟨hashes, _ | error⟩ := deleted
    · exact owed
    · cases owed

end Acting

/-- Every handler is tidy. -/
theorem tidy_handle (service : Service) (request : Request) :
    (handle service request).run.Follows (Cleans service request) (fun past _ => Settled past) [] := by
  have mild (command : Command) (neutral : Neutral command) (_ : ∀ call, command ≠ .guard call) : Neutral command :=
    neutral
  cases request with
  | register ctx req => exact tidy_of_only (only_register mild ctx req) settled_nil
  | login ctx req => exact tidy_of_only (only_login mild (fun _ _ => rfl) ctx req) settled_nil
  | validateToken token => exact tidy_of_only (only_validateToken mild token) settled_nil
  | refreshToken ctx req => exact tidy_refreshToken ctx req
  | logout ctx token => exact tidy_logout ctx token
  | logoutAll ctx => exact tidy_logoutAll ctx
  | listSessions ctx => exact tidy_of_only (only_listSessions mild ctx) settled_nil
  | revokeSession ctx sessionID => exact tidy_revokeSession ctx sessionID
  | changePassword ctx req => exact tidy_changePassword ctx req
  | requestPasswordReset ctx email => exact tidy_of_only (only_requestPasswordReset mild ctx email) settled_nil
  | verifyResetCode ctx req => exact tidy_of_only (only_verifyResetCode mild req) settled_nil
  | resetPassword ctx req => exact tidy_resetPassword ctx req

end Handlers
end AuthService
