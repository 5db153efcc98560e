/-
This file proves when a successful password reset revokes every session of its user.
-/

import AuthService.Proof.FailedRequests
import AuthService.Proof.SessionFrames
import AuthService.Proof.Users

namespace AuthService
open Interleaving System

namespace UserTable
variable {table next : UserTable} {choice : Choice} {now : Time} {userID passwordHash : String}

/-- The user has this password hash. -/
def HasPassword (table : UserTable) (userID passwordHash : String) : Prop :=
  ∃ user ∈ table.rows, user.id = userID ∧ user.passwordHash = passwordHash

/-- A successful update writes the password hash of a user that is there. -/
theorem exec_update
    (executed : exec (.updatePasswordHash userID passwordHash) choice now table = some (.ok (), next)) :
    next.HasPassword userID passwordHash := by
  simp only [exec, updatePasswordHash, Option.some.injEq] at executed
  split at executed
  · cases executed
  · split at executed
    · rename_i known
      cases executed
      obtain ⟨user, member, same⟩ := List.mem_map.mp known
      refine ⟨withPassword userID passwordHash now user, List.mem_map.mpr ⟨user, member, rfl⟩,
        (withPassword_id ..).trans same, ?_⟩
      rw [withPassword, if_pos same]
    · cases executed

/-- A password hash stays until an update writes another one. -/
theorem HasPassword.exec {command : UserCommand} {reply : command.Reply}
    (has : table.HasPassword userID passwordHash)
    (executed : UserTable.exec command choice now table = some (reply, next))
    (same : ∀ id hash, command = .updatePasswordHash id hash → hash = passwordHash) :
    next.HasPassword userID passwordHash := by
  obtain ⟨user, member, identity, hash⟩ := has
  rcases exec_cases executed with rfl | ⟨_, _, _, _, rows⟩ | ⟨id, written, call, rows⟩
  · exact ⟨user, member, identity, hash⟩
  · exact ⟨user, rows ▸ List.mem_cons_of_mem _ member, identity, hash⟩
  · refine ⟨withPassword id written now user, ?_, (withPassword_id ..).trans identity, ?_⟩
    · rw [rows]
      exact List.mem_map.mpr ⟨user, member, rfl⟩
    · unfold withPassword
      split
      · exact same id written call
      · exact hash

end UserTable

section
variable {service : Service} {store : SessionStore} [lawful : store.Lawful]
variable {base : World store} {requests : List Request}
variable {allowed : ServiceConfig store → ServiceLabel → Prop} {config : ServiceConfig store}

/-- A run from a sound world ends in a sound world. -/
theorem reaches_sound (sound : base.Sound)
    (reached : (system service store).Reaches allowed ((system service store).begin base requests) config) :
    config.world.Sound := by
  have ledger := reaches_ledger sound reached
  refine ⟨ledger.inv, ?_⟩
  intro tokenHash live
  rw [ledger.issued, List.mem_append]
  refine (ledger.live tokenHash live).imp ?_ (sound.issued tokenHash)
  intro installed
  obtain ⟨event, member, observed⟩ := List.mem_filterMap.mp installed
  obtain ⟨plain, drawn, same⟩ := drawn_of_installed (reaches_disciplined reached) member observed
  exact List.mem_filterMap.mpr ⟨_, drawn, congrArg some same⟩

/-- A token hash that was issued before the run and has no row at its beginning is never rotated. -/
theorem spent_not_consumed (sound : base.Sound) {tokenHash : String} (issued : tokenHash ∈ base.issued)
    (absent : ¬ Live (store.rowSet base.sessions) tokenHash)
    (reached : (system service store).Reaches allowed ((system service store).begin base requests) config) :
    tokenHash ∉ config.history.filterMap consumedBy := by
  apply reached.invariant
  · exact List.not_mem_nil
  · intro config label next reached none _ moved consumed
    have spent : Spent base config tokenHash := Spent.stays sound .refl ⟨.inr issued, absent⟩ reached
    obtain same | ⟨⟨task, exchange⟩, same⟩ := step_history label moved
    · rw [same] at consumed
      exact none consumed
    · obtain ⟨other, member, observed⟩ := List.mem_filterMap.mp consumed
      rw [same] at member
      rcases List.mem_cons.mp member with rfl | earlier
      · obtain ⟨session, created, rfl⟩ := consumedBy_eq_some observed
        exact spent.2 (rotate_spends sound reached moved same).1
      · exact none (List.mem_filterMap.mpr ⟨other, earlier, observed⟩)

/-- A token that was issued before the run and has no row at its beginning is never accepted. -/
theorem spent_not_accepted (sound : base.Sound) {plain : String} (issued : service.hash plain ∈ base.issued)
    (absent : ¬ Live (store.rowSet base.sessions) (service.hash plain))
    (reached : (system service store).Reaches allowed ((system service store).begin base requests) config)
    {task : Nat} (presents : Presents config task plain) : ¬ Succeeds config task := by
  intro succeeds
  obtain ⟨session, created, writes⟩ := succeeds_writes (reaches_disciplined reached) presents succeeds
  exact spent_not_consumed sound issued absent reached
    (List.mem_filterMap.mpr ⟨_, mem_of_writes writes, rfl⟩)

omit lawful in
/-- A run that writes one password hash leaves this hash. -/
theorem reaches_password {userID passwordHash : String}
    (reached : (system service store).Reaches allowed ((system service store).begin base requests) config)
    (only : ∀ event ∈ config.history, ∀ id hash,
      event.exchange.command = .users (.updatePasswordHash id hash) → hash = passwordHash)
    (wrote : ∃ event ∈ config.history,
      event.exchange = ⟨.users (.updatePasswordHash userID passwordHash), .ok ()⟩) :
    config.world.users.HasPassword userID passwordHash := by
  revert only wrote
  apply reached.invariant
  · rintro _ ⟨event, member, _⟩
    cases member
  · intro config label next _ kept _ moved only wrote
    obtain ⟨_, _, rfl⟩ | ⟨task, choice, request, command, rest, reply, after, _, _, executed, rfl⟩ |
      ⟨tick, after, _, drifted, rfl⟩ := service_cases moved
    · exact kept only wrote
    · have earlier := kept fun event member => only event (List.mem_cons_of_mem _ member)
      obtain ⟨event, member, exchange⟩ := wrote
      rcases List.mem_cons.mp member with rfl | before
      · cases exchange
        obtain ⟨users, performed, rfl⟩ := exec_users executed
        exact UserTable.exec_update performed
      · have has := earlier ⟨event, before, exchange⟩
        by_cases call : ∃ call, command = .users call
        · obtain ⟨call, rfl⟩ := call
          obtain ⟨users, performed, rfl⟩ := exec_users executed
          refine has.exec performed ?_
          rintro id hash rfl
          exact only _ List.mem_cons_self id hash rfl
        · rw [(exec_changes executed).keeps_users fun other same => call ⟨other, same⟩]
          exact has
    · obtain ⟨cache, now, rfl⟩ := drift_frame drifted
      exact kept only wrote

/-- The rows of the other users. -/
def rowsOfOthers (rows : Set Row) (userID : String) : Set Row := {row ∈ rows | row.userID ≠ userID}

/-- What a bulk delete leaves of the rows before it, when the history has no other write on the sessions. -/
def AfterBulk (before after : Set Row) (history : List (Event Ports)) (userID : String)
    (deleted : List String × Option StoreError) : Prop :=
  (after = before ∧
    ((∃ event ∈ history, event.exchange = ⟨.sessions (.deleteAllByUserID userID), deleted⟩) → deleted.2 ≠ none)) ∨
  (after = rowsOfOthers before userID ∧ deleted.2 = none)

section
variable {before after next : Set Row} {history : List (Event Ports)} {userID : String}
  {deleted : List String × Option StoreError}

/-- Another event that keeps the rows does not count. -/
theorem AfterBulk.other (bulk : AfterBulk before after history userID deleted) (same : next = after)
    {event : Event Ports} (other : event.exchange ≠ ⟨.sessions (.deleteAllByUserID userID), deleted⟩) :
    AfterBulk before next (event :: history) userID deleted := by
  subst same
  refine bulk.imp_left ?_
  rintro ⟨same, fails⟩
  refine ⟨same, ?_⟩
  rintro ⟨earlier, member, exchange⟩
  rcases List.mem_cons.mp member with rfl | inside
  · exact absurd exchange other
  · exact fails ⟨earlier, inside, exchange⟩

/-- The bulk delete removes the rows of the user or fails. -/
theorem AfterBulk.bulk (bulk : AfterBulk before after history userID deleted) {stored : Time → Time}
    (effect : (SessionCommand.deleteAllByUserID userID).Effect stored after next deleted) (event : Event Ports) :
    AfterBulk before next (event :: history) userID deleted := by
  obtain ⟨hashes, _ | error⟩ := deleted
  · refine .inr ⟨effect.1.trans ?_, rfl⟩
    rcases bulk with ⟨same, _⟩ | ⟨same, _⟩
    · rw [same]
      rfl
    · rw [same]
      ext row
      exact ⟨fun inside => inside.1, fun inside => ⟨inside, inside.2⟩⟩
  · rcases bulk with ⟨same, _⟩ | ⟨_, impossible⟩
    · exact .inl ⟨Eq.trans effect same, fun _ => nofun⟩
    · cases impossible

/-- The bulk delete adds no row. -/
theorem AfterBulk.subset (bulk : AfterBulk before after history userID deleted) : after ⊆ before := by
  rcases bulk with ⟨same, _⟩ | ⟨same, _⟩
  · exact same.subset
  · rw [same]
    exact fun row member => member.1

/-- After the bulk delete the user has no row exactly when it did not fail or there was no row. -/
theorem AfterBulk.none_iff (bulk : AfterBulk before after history userID deleted)
    (performed : ∃ event ∈ history, event.exchange = ⟨.sessions (.deleteAllByUserID userID), deleted⟩) :
    (∀ row ∈ after, row.userID ≠ userID) ↔ deleted.2 = none ∨ ∀ row ∈ before, row.userID ≠ userID := by
  rcases bulk with ⟨same, fails⟩ | ⟨same, succeeded⟩
  · rw [same, or_iff_right (fails performed)]
  · rw [same]
    exact iff_of_true (fun row member => member.2) (.inl succeeded)

end

/-- A run whose only write on the sessions is a bulk delete removes the rows of the user, or it fails and
removes none. -/
theorem reaches_bulk (sound : base.Sound) {userID : String} {deleted : List String × Option StoreError}
    (reached : (system service store).Reaches allowed ((system service store).begin base requests) config)
    (only : ∀ event ∈ config.history, ∀ command, event.exchange.command = .sessions command →
      (Command.sessions command).writes = true →
      event.exchange = ⟨.sessions (.deleteAllByUserID userID), deleted⟩) :
    AfterBulk (store.rowSet base.sessions) (rowsOf config) config.history userID deleted := by
  revert only
  apply reached.invariant
  · intro _
    refine .inl ⟨rfl, ?_⟩
    rintro ⟨event, member, _⟩
    cases member
  · intro config label next reached kept _ moved only
    obtain ⟨_, _, rfl⟩ | ⟨task, choice, request, command, rest, reply, after, _, selected, executed, rfl⟩ |
      ⟨tick, after, _, drifted, rfl⟩ := service_cases moved
    · exact kept only
    · have earlier := kept fun event member => only event (List.mem_cons_of_mem _ member)
      by_cases call : ∃ call, command = .sessions call
      · obtain ⟨call, rfl⟩ := call
        obtain ⟨sessions, performed, rfl⟩ := exec_sessions executed
        have effect := ((reaches_ledger sound reached).effect sound (reaches_disciplined reached) selected
          performed).2
        cases writing : (Command.sessions call).writes with
        | false =>
            refine earlier.other (effect.of_read writing) ?_
            intro same
            cases same
            cases writing
        | true =>
            cases only _ List.mem_cons_self call rfl writing
            exact earlier.bulk effect _
      · refine earlier.other (congrArg store.rowSet ((exec_changes executed).keeps_sessions fun other same =>
          call ⟨other, same⟩)) ?_
        intro same
        exact call ⟨_, congrArg Exchange.command same⟩
    · obtain ⟨cache, now, rfl⟩ := drift_frame drifted
      exact kept only

end

/-- A reset that runs alone and succeeds performs exactly three writes. -/
theorem reset_writes {service : Service} {store : SessionStore} [store.Lawful] {world : World store} {ctx : Context}
    {req : ResetPasswordRequest} {config : ServiceConfig store}
    (reached : (system service store).Reaches NoStart
      ((system service store).begin world [.resetPassword ctx req]) config)
    (answered : config.Answered 0 (.ok .resetPassword)) :
    ∃ (found : ResetTokenRecord) (salt : String) (deleted : List String × Option StoreError),
      ResetGrant service req (transcript 0 config.history) found ∧
      ∀ exchange : Exchange Ports,
        ((∃ event ∈ config.history, event.exchange = exchange) ∧ exchange.command.writes = true) ↔
          exchange ∈ ([⟨.sessions (.deleteAllByUserID found.userID), deleted⟩,
            ⟨.users (.updatePasswordHash found.userID (service.hashPassword salt req.newPassword)), .ok ()⟩,
            ⟨.resets (.deleteResetToken (service.hash req.resetToken)), .ok ()⟩] : Past) := by
  have finished := (reaches_disciplined reached).answered 0 _ _ (reached.request 0 _ rfl) answered
  cases finished with
  | plain ordinary => cases ordinary
  | @reset _ _ past found salt deleted grant revoked =>
      refine ⟨found, salt, deleted, grant, ?_⟩
      intro exchange
      rw [← revoked, select, List.mem_filter]
      refine and_congr_left' ⟨?_, ?_⟩
      · rintro ⟨event, member, rfl⟩
        exact alone_transcript reached member
      · intro member
        exact ⟨⟨0, exchange⟩, (mem_transcript _ _ _).mp member, rfl⟩

/-- The bulk delete of the sessions of the user did not fail. -/
def Revokes (history : List (Event Ports)) (userID : String) : Prop :=
  ∃ task hashes, (⟨task, .sessions (.deleteAllByUserID userID), (hashes, none)⟩ : Event Ports) ∈ history

/-- After a `ResetPassword` that runs alone and succeeds, whatever else fails, the user has the new password. The user
has no session left exactly when the bulk delete did not fail or there was no session, and then no refresh
token that was issued to the user before is ever accepted again. -/
theorem reset_revokes_iff (service : Service) (backend : Backend) (world : World backend.store)
    (sound : world.Sound) (ctx : Context) (req : ResetPasswordRequest) :
    let auth := system service backend.store
    ∀ config, auth.Reaches NoStart (auth.begin world [.resetPassword ctx req]) config →
      config.Answered 0 (.ok .resetPassword) →
      ∃ (found : ResetTokenRecord) (salt : String),
        (⟨0, .resets (.getResetToken (service.hash req.resetToken)), .ok found⟩ : Event Ports) ∈ config.history ∧
        config.world.users.HasPassword found.userID (service.hashPassword salt req.newPassword) ∧
        ((∀ row ∈ rowsOf config, row.userID ≠ found.userID) ↔
          Revokes config.history found.userID ∨
            ∀ row ∈ backend.store.rowSet world.sessions, row.userID ≠ found.userID) ∧
        ((∀ row ∈ rowsOf config, row.userID ≠ found.userID) →
          ∀ plain, service.hash plain ∈ world.issued →
            (∀ row ∈ backend.store.rowSet world.sessions, row.tokenHash = service.hash plain →
              row.userID = found.userID) →
            ∀ later task, auth.Reaches Anything (auth.begin config.world []) later →
              Presents later task plain → ¬ Succeeds later task) := by
  intro auth config reached answered
  obtain ⟨found, salt, deleted, grant, writes⟩ := reset_writes reached answered
  have password : config.world.users.HasPassword found.userID (service.hashPassword salt req.newPassword) := by
    refine reaches_password reached ?_ ((writes _).mpr (by simp)).1
    rintro ⟨task, command, reply⟩ member id hash rfl
    have written := (writes _).mp ⟨⟨_, member, rfl⟩, rfl⟩
    simp only [List.mem_cons, List.not_mem_nil, or_false] at written
    rcases written with same | same | same
    · cases same
    · cases same
      rfl
    · cases same
  have only : ∀ event ∈ config.history, ∀ command, event.exchange.command = .sessions command →
      (Command.sessions command).writes = true →
      event.exchange = ⟨.sessions (.deleteAllByUserID found.userID), deleted⟩ := by
    rintro ⟨task, command, reply⟩ member call rfl writing
    have written := (writes _).mp ⟨⟨_, member, rfl⟩, writing⟩
    simp only [List.mem_cons, List.not_mem_nil, or_false] at written
    rcases written with same | same | same
    · exact same
    · cases same
    · cases same
  have bulk := ((writes _).mpr List.mem_cons_self).1
  have revokes : Revokes config.history found.userID ↔ deleted.2 = none := by
    constructor
    · rintro ⟨task, hashes, member⟩
      cases only _ member _ rfl rfl
      rfl
    · intro succeeded
      obtain ⟨⟨task, _⟩, member, rfl⟩ := bulk
      obtain ⟨hashes, error⟩ := deleted
      obtain rfl : error = none := succeeded
      exact ⟨task, hashes, member⟩
  have rows := reaches_bulk sound reached only
  refine ⟨found, salt, (mem_transcript _ _ _).mp (mem_of_select grant.read), password, ?_, ?_⟩
  · rw [revokes]
    exact rows.none_iff bulk
  · intro none plain issued owned later task onward presents
    refine spent_not_accepted (reaches_sound sound reached) ?_ ?_ onward presents
    · rw [(reaches_ledger sound reached).issued]
      exact List.mem_append_right _ issued
    · rintro ⟨row, member, same⟩
      exact none row member (owned row (rows.subset member) same)

/-- A world with one user, one session and one reset token of this user. -/
def resetWorld : World (postgres exactDatabase) :=
  { storedWorld with
    resetTokens := fun tokenHash => if tokenHash = "#reset" then some ⟨⟨"user", "a@b.co"⟩, none⟩ else none }

theorem resetWorld_rows {row : Row} (member : row ∈ (postgres exactDatabase).rowSet resetWorld.sessions) :
    row = ⟨"first", "user", "#token", "phone", "", "", 100⟩ := by
  obtain ⟨session, inside, rfl⟩ := member
  obtain rfl := List.mem_singleton.mp inside
  rfl

theorem resetWorld_sound : resetWorld.Sound where
  inv := trivial
  issued := by
    rintro tokenHash ⟨row, member, rfl⟩
    rw [resetWorld_rows member]
    exact List.mem_singleton_self _

/-- A reset of the password with the reset token. -/
def sampleReset : Request := .resetPassword bareContext ⟨"reset", "newpassw0rd"⟩

/-- In this run the bulk delete fails, the reset succeeds, and the refresh token that was issued before is accepted
afterwards. -/
theorem failed_revocation_keeps_session :
    ∃ config later, sampleSystem.Reaches NoStart (sampleSystem.begin resetWorld [sampleReset]) config ∧
      config.Answered 0 (.ok .resetPassword) ∧
      sampleSystem.Reaches Anything (sampleSystem.begin config.world []) later ∧
      Presents later 0 "token" ∧ Succeeds later 0 := by
  let request : Request := .refreshToken bareContext ⟨"token", ""⟩
  let steps := advances 0 12 { id := "second", token := "next" }
  obtain ⟨config, reached, checked⟩ : ∃ config,
      sampleSystem.Reaches (fun config label => noStart config label = true)
        (sampleSystem.begin resetWorld [sampleReset]) config ∧
      (decide (config.answer? 0 = some (.ok .resetPassword)) &&
        (sampleSystem.run anything steps (sampleSystem.begin config.world [request])).any fun later =>
          decide (later.answer? 0 = some (.ok (.refreshToken "user" "next")))) = true :=
    exists_of_run (advances 0 4 {} ++ advances 0 1 { fails := true } ++ advances 0 2 {}) _ (by decide +kernel)
  obtain ⟨answered, accepted⟩ := Bool.and_eq_true_iff.mp checked
  obtain ⟨later, ran, refreshed⟩ := (Option.any_eq_true _ _).mp accepted
  have onward : sampleSystem.Reaches Anything (sampleSystem.begin config.world [request]) later :=
    reaches_run steps ran
  have started : sampleSystem.Reaches Anything (sampleSystem.begin config.world [])
      (sampleSystem.begin config.world [request]) := reaches_started _ _ fun _ _ => rfl
  exact ⟨config, later, reached.of_noStart, Config.answered_of_answer? (of_decide_eq_true answered),
    started.trans onward, ⟨bareContext, "", onward.request 0 request rfl⟩,
    _, Config.answered_of_answer? (of_decide_eq_true refreshed)⟩

/-- In this run nothing fails, and the refresh token that was issued before is never accepted again. -/
theorem reset_revokes_session :
    ∃ config, sampleSystem.Reaches NoStart (sampleSystem.begin resetWorld [sampleReset]) config ∧
      config.Answered 0 (.ok .resetPassword) ∧
      (∃ salt, config.world.users.HasPassword "user" (sample.hashPassword salt "newpassw0rd")) ∧
      ∀ later task, sampleSystem.Reaches Anything (sampleSystem.begin config.world []) later →
        Presents later task "token" → ¬ Succeeds later task := by
  obtain ⟨config, reached, checked⟩ : ∃ config,
      sampleSystem.Reaches (fun config label => noStart config label = true)
        (sampleSystem.begin resetWorld [sampleReset]) config ∧
      decide (config.answer? 0 = some (.ok .resetPassword) ∧ config.world.sessions.rows = [] ∧
        config.world.users.rows.map User.id = ["user"]) = true :=
    exists_of_run (advances 0 8 {}) _ (by decide +kernel)
  obtain ⟨returned, empty, ids⟩ := of_decide_eq_true checked
  have answered := Config.answered_of_answer? returned
  obtain ⟨found, salt, _, password, _, revoked⟩ := reset_revokes_iff sample (.postgres exactDatabase) resetWorld
    resetWorld_sound bareContext ⟨"reset", "newpassw0rd"⟩ config reached.of_noStart answered
  have owner : found.userID = "user" := by
    obtain ⟨user, member, same, _⟩ := password
    rw [← same]
    exact List.mem_singleton.mp (ids ▸ List.mem_map_of_mem member)
  have none : ∀ row ∈ rowsOf config, row.userID ≠ found.userID := by
    rintro row ⟨session, member, _⟩
    change session ∈ config.world.sessions.rows at member
    rw [empty] at member
    cases member
  rw [owner] at password
  refine ⟨config, reached.of_noStart, answered, ⟨salt, password⟩, ?_⟩
  refine revoked none "token" (List.mem_singleton_self _) ?_
  intro row member _
  rw [resetWorld_rows member, owner]

end AuthService
