/-
This file proves the rules of conduct for the steps that the handlers share.
-/

import AuthService.Proof.Conduct

namespace AuthService
open Interleaving Program

/-- The later past has only calls on the side in addition. -/
def Extends (past later : Past) : Prop :=
  ∃ side : Past, later = side ++ past ∧ ∀ exchange ∈ side, exchange.command.incidental = true

theorem spares_of_incidental (exchange : Exchange Ports)
    (side : exchange.command.incidental = true) : Spares exchange := by
  obtain ⟨command, reply⟩ := exchange
  cases command <;> simp_all [Command.incidental, Spares]

theorem Looked.mono {past later : Past} {tokenHash : String} {cached : CachedSession}
    (found : Looked past tokenHash cached) (kept : ∀ exchange ∈ past, exchange ∈ later) :
    Looked later tokenHash cached := by
  rcases found with hit | ⟨session, read, same⟩
  · exact .inl (kept _ hit)
  · exact .inr ⟨session, kept _ read, same⟩

theorem Validated.mono {ctx : Context} {past later : Past} {userID : String}
    (validated : Validated ctx past userID) (kept : ∀ exchange ∈ past, exchange ∈ later) :
    Validated ctx later userID := by
  obtain ⟨md, header, rest, token, claims, known, headers, cut, performed, same⟩ := validated
  exact ⟨md, header, rest, token, claims, known, headers, cut, kept _ performed, same⟩

theorem clocks_suffix_cons (exchange : Exchange Ports) (past : Past) :
    clocks past <:+ clocks (exchange :: past) := by
  obtain ⟨command, reply⟩ := exchange
  cases command with
  | clock => exact List.suffix_cons _ _
  | _ => exact List.suffix_refl _

namespace Extends
variable {past later : Past}

theorem refl (past : Past) : Extends past past := ⟨[], rfl, by simp⟩

theorem cons (extended : Extends past later) (exchange : Exchange Ports)
    (side : exchange.command.incidental = true) : Extends past (exchange :: later) := by
  obtain ⟨before, rfl, incidental⟩ := extended
  refine ⟨exchange :: before, rfl, ?_⟩
  intro other member
  rcases List.mem_cons.mp member with rfl | member
  · exact side
  · exact incidental other member

theorem trans {last : Past} (first : Extends past later) (second : Extends later last) :
    Extends past last := by
  obtain ⟨side, rfl, incidental⟩ := first
  obtain ⟨side', rfl, incidental'⟩ := second
  refine ⟨side' ++ side, (List.append_assoc _ _ _).symm, ?_⟩
  intro exchange member
  rcases List.mem_append.mp member with member | member
  · exact incidental' exchange member
  · exact incidental exchange member

theorem select (extended : Extends past later) (kind : Command → Bool)
    (blind : ∀ command : Command, command.incidental = true → kind command = false) :
    AuthService.select kind later = AuthService.select kind past := by
  obtain ⟨side, rfl, incidental⟩ := extended
  have none : side.filter (fun exchange => kind exchange.command) = [] := by
    rw [List.filter_eq_nil_iff]
    intro exchange member
    rw [blind _ (incidental exchange member)]
    exact Bool.false_ne_true
  simp only [AuthService.select, List.filter_append, none, List.nil_append]

theorem writes (extended : Extends past later) :
    AuthService.select Command.writes later = AuthService.select Command.writes past :=
  extended.select _ fun command => by cases command <;> simp [Command.incidental, Command.writes]

theorem readsUser (extended : Extends past later) :
    AuthService.select Command.readsUser later = AuthService.select Command.readsUser past :=
  extended.select _ fun command => by cases command <;> simp [Command.incidental, Command.readsUser]

theorem readsResetToken (extended : Extends past later) :
    AuthService.select Command.readsResetToken later = AuthService.select Command.readsResetToken past :=
  extended.select _ fun command => by cases command <;> simp [Command.incidental, Command.readsResetToken]

theorem signs (extended : Extends past later) :
    AuthService.select Command.signs later = AuthService.select Command.signs past :=
  extended.select _ fun command => by cases command <;> simp [Command.incidental, Command.signs]

theorem drawsToken (extended : Extends past later) :
    AuthService.select Command.drawsToken later = AuthService.select Command.drawsToken past :=
  extended.select _ fun command => by cases command <;> simp [Command.incidental, Command.drawsToken]

theorem mem (extended : Extends past later) {exchange : Exchange Ports} (member : exchange ∈ past) :
    exchange ∈ later := by
  obtain ⟨side, rfl, _⟩ := extended
  exact List.mem_append_right side member

theorem clocks (extended : Extends past later) : AuthService.clocks past <:+ AuthService.clocks later := by
  obtain ⟨side, rfl, -⟩ := extended
  induction side with
  | nil => exact List.suffix_refl _
  | cons exchange side ih => exact ih.trans (clocks_suffix_cons exchange _)

theorem forall_mem (extended : Extends past later) {holds : Exchange Ports → Prop}
    (side : ∀ exchange, exchange.command.incidental = true → holds exchange)
    (before : ∀ exchange ∈ past, holds exchange) : ∀ exchange ∈ later, holds exchange := by
  obtain ⟨added, rfl, incidental⟩ := extended
  intro exchange member
  rcases List.mem_append.mp member with member | member
  · exact side exchange (incidental exchange member)
  · exact before exchange member

theorem sparing (extended : Extends past later) (spared : Sparing past) : Sparing later :=
  extended.forall_mem spares_of_incidental spared

theorem loginGrant {service : Service} {req : LoginRequest} {user : User} {access plain : String}
    {now : Time} (extended : Extends past later)
    (grant : LoginGrant service req past user access plain now) :
    LoginGrant service req later user access plain now where
  read := extended.readsUser.trans grant.read
  verified := grant.verified
  signed := extended.signs.trans grant.signed
  drawn := extended.drawsToken.trans grant.drawn
  read_clock := extended.mem grant.read_clock

theorem refreshGrant {service : Service} {req : RefreshTokenRequest} {cached : CachedSession}
    {access plain : String} {now checked : Time} (extended : Extends past later)
    (grant : RefreshGrant service req past cached access plain now checked) :
    RefreshGrant service req later cached access plain now checked where
  looked := grant.looked.mono fun _ => extended.mem
  alive := grant.alive
  signed := extended.signs.trans grant.signed
  drawn := extended.drawsToken.trans grant.drawn
  read_clock := grant.read_clock.trans extended.clocks

theorem resetGrant {service : Service} {req : ResetPasswordRequest} {found : ResetTokenRecord}
    (extended : Extends past later) (grant : ResetGrant service req past found) :
    ResetGrant service req later found :=
  ⟨extended.readsResetToken.trans grant.read⟩

end Extends

section Discipline
variable {may : Past → Command → Prop} {past : Past}

theorem follows_call {command : Command} {ends : Past → Except Status command.Reply → Prop}
    (permitted : may past command)
    (finish : ∀ reply, ends (⟨command, reply⟩ :: past) (.ok reply)) :
    (perform (S := Ports) command : Handler command.Reply).run.Follows may ends past := ⟨permitted, finish⟩

theorem follows_checkArgument {ends : Past → Except Status Unit → Prop} (refusal : Option String)
    (refused : ∀ status, ends past (.error status)) (accepted : ends past (.ok ())) :
    (checkArgument refusal).run.Follows may ends past := by
  cases refusal with
  | none => exact accepted
  | some message => exact refused _

theorem follows_orInternal {A : Type} {ends : Past → Except Status A → Prop} (value : Option A)
    (failed : value = none → ends past (.error internalError))
    (given : ∀ result, value = some result → ends past (.ok result)) :
    (orInternal value).run.Follows may ends past := by
  cases value with
  | none => exact failed rfl
  | some result => exact given result rfl

theorem follows_orInternalError {A : Type} {ends : Past → Except Status A → Prop}
    (value : Except StoreError A) (failed : ∀ error, value = .error error → ends past (.error internalError))
    (given : ∀ result, value = .ok result → ends past (.ok result)) :
    (orInternalError value).run.Follows may ends past := by
  cases value with
  | error error => exact failed error rfl
  | ok result => exact given result rfl

theorem follows_orStatus {A : Type} {ends : Past → Except Status A → Prop} (named : StoreError)
    (status : Status) (value : Except StoreError A)
    (failed : ∀ error status, value = .error error → ends past (.error status))
    (given : ∀ result, value = .ok result → ends past (.ok result)) :
    (orStatus named status value).run.Follows may ends past := by
  cases value with
  | error error =>
      by_cases same : error = named
      · rw [orStatus, if_pos same]
        exact failed error _ rfl
      · rw [orStatus, if_neg same]
        exact failed error _ rfl
  | ok result => exact given result rfl

theorem follows_deletedHashes {ends : Past → Except Status (List String) → Prop}
    (reply : List String × Option StoreError)
    (failed : ∀ hashes error, reply = (hashes, some error) → ends past (.error internalError))
    (given : ∀ hashes, reply = (hashes, none) → ends past (.ok hashes)) :
    (deletedHashes reply).run.Follows may ends past := by
  obtain ⟨hashes, _ | error⟩ := reply
  · exact given hashes rfl
  · exact failed hashes error rfl

theorem follows_extractUserIDFromCtx {ends : Past → Except Status String → Prop} (ctx : Context)
    (permitted : ∀ token, may past (.tokens (.validate token)))
    (refused : ∀ status, ends past (.error status))
    (invalid : ∀ token status, ends (⟨.tokens (.validate token), none⟩ :: past) (.error status))
    (validated : ∀ token claims,
      Validated ctx (⟨.tokens (.validate token), some claims⟩ :: past) claims.userID →
      ends (⟨.tokens (.validate token), some claims⟩ :: past) (.ok claims.userID)) :
    (extractUserIDFromCtx ctx).run.Follows may ends past := by
  unfold extractUserIDFromCtx
  split
  · exact refused _
  · rename_i md known
    split
    · exact refused _
    · rename_i header rest headers
      split
      · exact refused _
      · rename_i token cut
        rw [follows_run_bind]
        refine follows_call (permitted token) fun claims => ?_
        cases claims with
        | none => exact invalid token _
        | some claims =>
            exact validated token claims
              ⟨md, header, rest, token, claims, known, headers, cut, List.mem_cons_self, rfl⟩

/-- A report before an early return concerns no discipline that leaves the background alone. -/
theorem follows_reportThrow {A : Type} {ends : Past → Except Status A → Prop} {status : Status} (past : Past)
    (background : ∀ past command, may past (.background command)) (refused : ∀ past, ends past (.error status))
    (auditUser : Option String) (hookUser email : String) (eventType : AuditEventType) (client : ClientInfo)
    (auditMeta hookMeta : List (String × String)) :
    (report auditUser hookUser email eventType client auditMeta hookMeta >>= fun _ => throw status :
      Handler A).run.Follows may ends past :=
  ⟨background _ _, fun _ => ⟨background _ _, fun _ => refused _⟩⟩

end Discipline

section Rules
variable {service : Service} {request : Request} {past : Past}

theorem follows_report {ends : Past → Except Status Unit → Prop} (auditUser : Option String)
    (hookUser email : String) (eventType : AuditEventType) (client : ClientInfo)
    (auditMeta hookMeta : List (String × String))
    (finish : ∀ later, Extends past later → ends later (.ok ())) :
    (report auditUser hookUser email eventType client auditMeta hookMeta).run.Follows
      (Permits service request) ends past := by
  unfold report
  rw [follows_run_bind]
  refine follows_call (.free rfl) fun _ => ?_
  refine follows_call (.free rfl) fun _ => ?_
  exact finish _ (((Extends.refl past).cons _ rfl).cons _ rfl)

theorem follows_cacheSession {ends : Past → Except Status Unit → Prop} (tokenHash : String)
    (sess : CachedSession)
    (permitted : ∀ later ttl, Extends past later →
      Permits service request later (.cache (.set tokenHash sess ttl)))
    (finish : ∀ later, Extends past later → ends later (.ok ())) :
    (cacheSession tokenHash sess).run.Follows (Permits service request) ends past := by
  unfold cacheSession
  rw [follows_run_bind]
  refine follows_call (.free rfl) fun now => ?_
  have extended := (Extends.refl past).cons ⟨.clock, now⟩ rfl
  rw [continues_ok]
  split
  · rw [follows_run_bind]
    refine follows_call (permitted _ _ extended) fun reply => ?_
    exact finish _ (extended.cons _ rfl)
  · exact finish _ extended

theorem follows_deleteSessionFromCache {ends : Past → Except Status Unit → Prop} (tokenHash : String)
    (finish : ∀ later, Extends past later → ends later (.ok ())) :
    (deleteSessionFromCache tokenHash).run.Follows (Permits service request) ends past := by
  unfold deleteSessionFromCache
  rw [follows_run_bind]
  refine follows_call (.free rfl) fun reply => ?_
  exact finish _ ((Extends.refl past).cons _ rfl)

/-- The loop over the revoked hashes makes only calls on the side. -/
theorem follows_deleteHashes {ends : Past → Except Status PUnit → Prop} (hashes : List String)
    (finish : ∀ later, Extends past later → ends later (.ok ⟨⟩)) :
    (forM hashes deleteSessionFromCache : Handler PUnit).run.Follows (Permits service request) ends past := by
  apply follows_forM deleteSessionFromCache fun _ => Extends past
  · intro tokenHash _ later extended
    unfold deleteSessionFromCache
    rw [follows_run_bind]
    refine follows_call (.free rfl) fun reply => ?_
    exact ⟨rfl, extended.cons _ rfl⟩
  · exact finish
  · exact Extends.refl past

theorem follows_hashPassword {ends : Past → Except Status String → Prop} (plaintext : String)
    (failed : ends (⟨.random .salt, none⟩ :: past) (.error internalError))
    (hashed : ∀ salt, ends (⟨.random .salt, some salt⟩ :: past)
      (.ok (service.hashPassword salt plaintext))) :
    (hashPassword service plaintext).run.Follows (Permits service request) ends past := by
  unfold hashPassword
  simp only [follows_run_bind]
  refine follows_call (.free rfl) fun drawn => ?_
  cases drawn with
  | none => exact failed
  | some salt => exact hashed salt

end Rules

section Kinds
variable {kind : Command → Prop}

theorem only_checkArgument (refusal : Option String) : (checkArgument refusal).run.Only kind := by
  cases refusal <;> trivial

theorem only_orInternal {A : Type} (value : Option A) : (orInternal value).run.Only kind := by
  cases value <;> trivial

theorem only_orInternalError {A : Type} (value : Except StoreError A) :
    (orInternalError value).run.Only kind := by
  cases value <;> trivial

theorem only_orStatus {A : Type} (named : StoreError) (status : Status) (value : Except StoreError A) :
    (orStatus named status value).run.Only kind := by
  cases value with
  | ok result => trivial
  | error error =>
      by_cases same : error = named
      · rw [orStatus, if_pos same]
        trivial
      · rw [orStatus, if_neg same]
        trivial

variable (kind)

theorem only_report (background : ∀ command, kind (.background command)) (auditUser : Option String)
    (hookUser email : String) (eventType : AuditEventType) (client : ClientInfo)
    (auditMeta hookMeta : List (String × String)) :
    (report auditUser hookUser email eventType client auditMeta hookMeta).run.Only kind :=
  only_run_bind (only_run_perform (background _)) fun _ => only_run_perform (background _)

theorem only_cacheSession (clock : kind .clock) (set : ∀ tokenHash sess ttl, kind (.cache (.set tokenHash sess ttl)))
    (tokenHash : String) (sess : CachedSession) : (cacheSession tokenHash sess).run.Only kind := by
  refine only_run_bind (only_run_perform clock) fun now => ?_
  split
  · exact only_run_bind (only_run_perform (set _ _ _)) fun _ => trivial
  · trivial

theorem only_deleteSessionFromCache {tokenHash : String} (delete : kind (.cache (.delete tokenHash))) :
    (deleteSessionFromCache tokenHash).run.Only kind := only_run_bind (only_run_perform delete) fun _ => trivial

/-- The loop over the returned hashes makes only deletions from the cache. -/
theorem only_deleteHashes (delete : ∀ tokenHash, kind (.cache (.delete tokenHash))) (hashes : List String) :
    (forM hashes deleteSessionFromCache : Handler PUnit).run.Only kind :=
  only_run_forM (fun tokenHash => only_deleteSessionFromCache kind (delete tokenHash)) hashes

theorem only_hashPassword (salt : kind (.random .salt)) (service : Service) (plaintext : String) :
    (hashPassword service plaintext).run.Only kind :=
  only_run_bind (only_run_perform salt) fun drawn => only_run_bind (only_orInternal drawn) fun _ => trivial

theorem only_checkLockout (service : Service)
    (guard : service.bruteGuard.isSome = true → ∀ command, kind (.guard command))
    (background : ∀ command, kind (.background command)) (email : String) (client : ClientInfo) :
    (checkLockout service email client).run.Only kind := by
  unfold checkLockout
  split
  · rename_i guarded
    refine only_run_bind (only_run_perform (guard guarded _)) fun locked => ?_
    split
    · exact only_run_bind (only_report kind background _ _ _ _ _ _ _) fun _ => trivial
    · trivial
  · trivial

theorem only_getLoginUser {email : String} (read : kind (.users (.getByEmail email)))
    (background : ∀ command, kind (.background command)) (client : ClientInfo) :
    (getLoginUser email client).run.Only kind := by
  refine only_run_bind (only_run_perform read) fun reply => ?_
  cases reply with
  | ok user => trivial
  | error error =>
      by_cases unknown : error = .userNotFound
      · simp only [if_pos unknown]
        exact only_run_bind (only_report kind background _ _ _ _ _ _ _) fun _ => trivial
      · simp only [if_neg unknown]
        trivial

theorem only_checkLoginPassword (service : Service)
    (guard : service.bruteGuard.isSome = true → ∀ command, kind (.guard command))
    (background : ∀ command, kind (.background command)) (user : User) (req : LoginRequest) (client : ClientInfo) :
    (checkLoginPassword service user req client).run.Only kind := by
  refine only_run_bind (only_orInternal _) fun isMatch => ?_
  split
  · trivial
  · refine only_run_bind ?_ fun _ => only_run_bind (only_report kind background _ _ _ _ _ _ _) fun _ => trivial
    unfold recordFailure
    split
    · rename_i guarded
      refine only_run_bind (only_run_perform (guard guarded _)) fun locked => ?_
      split
      · exact only_run_bind (only_report kind background _ _ _ _ _ _ _) fun _ => trivial
      · trivial
    · trivial

theorem only_resetGuard (service : Service)
    (guard : service.bruteGuard.isSome = true → ∀ command, kind (.guard command))
    (email : String) : (resetGuard service email).run.Only kind := by
  unfold resetGuard
  split
  · rename_i guarded
    exact only_run_perform (guard guarded _)
  · trivial

theorem only_checkCurrentPassword (service : Service) (user : User) (currentPassword : String) :
    (checkCurrentPassword service user currentPassword).run.Only kind := by
  refine only_run_bind (only_orInternal _) fun isMatch => ?_
  split <;> trivial

end Kinds
end AuthService
