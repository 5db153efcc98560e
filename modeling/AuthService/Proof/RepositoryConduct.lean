/-
This file proves in which order a call on the session repository performs its statements, and that its
reply is determined by the statements that it has performed.
-/

import AuthService.Construction.RepositoryCalls
import AuthService.Proof.BulkRevocation

namespace AuthService
open Interleaving Program ReadCommitted

/-- The rows that a call has chosen and not tried yet. -/
def rowsLeft : Statements → Option (List Session)
  | [] => none
  | ⟨.candidates _, reply⟩ :: _ => reply
  | ⟨.delete _ _, some _⟩ :: past => (rowsLeft past).map List.tail
  | ⟨.delete _ _, none⟩ :: _ => none
  | _ :: past => rowsLeft past

/-- The rows that a call has deleted, with the oldest first. -/
def deletedBy : Statements → List Session
  | [] => []
  | ⟨.delete _ row, some true⟩ :: past => deletedBy past ++ [row]
  | _ :: past => deletedBy past

/-- The rows that a call has inserted. -/
def insertedBy : Statements → List Session
  | [] => []
  | ⟨.insert _ row, some _⟩ :: past => row :: insertedBy past
  | _ :: past => insertedBy past

def hasCommitted : Statements → Bool
  | [] => false
  | ⟨.commit _, some _⟩ :: _ => true
  | _ :: past => hasCommitted past

/-- The rows that a writing call reports, once it has committed or found nothing to delete. -/
def reported (past : Statements) : Option (List Session) :=
  if hasCommitted past ∨ (rowsLeft past = some [] ∧ deletedBy past = []) then some (deletedBy past) else none

/-- The methods that only read. -/
def reads : SessionCommand → Bool
  | .getByTokenHash _ | .listByUserID _ => true
  | _ => false

/-- The rows on which the reply of a call depends, once they are known. -/
def concluded (command : SessionCommand) (past : Statements) : Option (List Session) :=
  if reads command then rowsLeft past else reported past

/-- A call that has not concluded reports an error of the database. -/
def orDatabaseError {A : Type} (reply : List Session → Except StoreError A) :
    Option (List Session) → Except StoreError A
  | some rows => reply rows
  | none => .error .other

/-- The rotation reports an absent session when it has deleted nothing. -/
def rotated (id : String) (now : Time) (session : Session) (deleted : List Session) : Except StoreError Session :=
  if deleted = [] then .error .sessionNotFound else .ok (returned id now session)

/-- The reply of each method as a function of the rows that it has read or deleted. -/
def replyOf (users : UserTable) (id : String) (now : Time) :
    (command : SessionCommand) → Option (List Session) → command.Reply
  | .create session, rows => orDatabaseError (fun _ => .ok (returned id now session)) rows
  | .getByTokenHash _, rows => orDatabaseError (joined users) rows
  | .deleteByID _ _, rows => orDatabaseError firstHash rows
  | .deleteByTokenHash _, rows => orDatabaseError (fun _ => .ok ()) rows
  | .rotateToken _ session, rows => orDatabaseError (rotated id now session) rows
  | .deleteAllByUserID _, rows => returnedHashes (orDatabaseError .ok rows)
  | .deleteAllByUserIDExcept _ _, rows => returnedHashes (orDatabaseError .ok rows)
  | .listByUserID _, rows => orDatabaseError (fun rows => .ok (latestFirst rows)) rows

/-- The first statement of the call has begun the transaction. -/
def Within (past : Statements) (tx : Nat) : Prop := past.getLast? = some ⟨.begin, some tx⟩

/-- The row that a call inserts. -/
def RepositoryCall.inserted (db : Database) (call : RepositoryCall) : Option Session :=
  match call.command with
  | .create session => some (SessionTable.newRow db call.id call.now session)
  | .rotateToken _ session => some (SessionTable.newRow db call.id call.now session)
  | _ => none

/-- The delete statement of a call has deleted something, and a creation has none. -/
def Effective (command : SessionCommand) (past : Statements) : Prop :=
  ((∃ session, command = .create session) ∧ rowsLeft past = none) ∨ (rowsLeft past = some [] ∧ deletedBy past ≠ [])

/-- The statements that a call may perform after its past statements. -/
inductive CallMay (db : Database) (users : UserTable) (call : RepositoryCall) :
    Statements → Statement Session → Prop where
  | begin (writes : reads call.command = false) : CallMay db users call [] .begin
  | read {condition} (reading : reads call.command = true)
      (selects : selection db call.command = some condition) :
      CallMay db users call [] (.candidates condition)
  | choose {tx condition} (writes : reads call.command = false)
      (selects : selection db call.command = some condition) :
      CallMay db users call [⟨.begin, some tx⟩] (.candidates condition)
  | delete {past tx row rest} (writes : reads call.command = false) (within : Within past tx)
      (running : Running past) (left : rowsLeft past = some (row :: rest)) :
      CallMay db users call past (.delete tx row)
  | insert {past tx row} (writes : reads call.command = false) (within : Within past tx)
      (running : Running past) (effective : Effective call.command past) (first : insertedBy past = [])
      (same : call.inserted db = some row) : CallMay db users call past (.insert tx row)
  | commit {past tx} (writes : reads call.command = false) (within : Within past tx) (running : Running past)
      (effective : Effective call.command past)
      (drafted : ∀ row, call.inserted db = some row → insertable users row = true ∧
        (⟨.insert tx row, some ()⟩ : Exchange (Sql Session)) ∈ past) :
      CallMay db users call past (.commit tx)
  | rollback {past tx} (writes : reads call.command = false) (within : Within past tx) :
      CallMay db users call past (.rollback tx)

/-- The answer of a call is the reply for the rows that it has concluded on. -/
def CallEnds (users : UserTable) (call : RepositoryCall) (past : Statements) (answer : Exchange SessionCalls) : Prop :=
  answer = ⟨call.command, replyOf users call.id call.now call.command (concluded call.command past)⟩

section
variable {past : Statements} {tx : Nat}

@[simp] theorem rowsLeft_begin (reply : Option Nat) : rowsLeft (⟨.begin, reply⟩ :: past) = rowsLeft past := rfl

@[simp] theorem rowsLeft_candidates (condition : Session → Bool) (reply : Option (List Session)) :
    rowsLeft (⟨.candidates condition, reply⟩ :: past) = reply := rfl

@[simp] theorem rowsLeft_delete (row : Session) (result : Bool) :
    rowsLeft (⟨.delete tx row, some result⟩ :: past) = (rowsLeft past).map List.tail := rfl

@[simp] theorem rowsLeft_insert (row : Session) (reply : Option Unit) :
    rowsLeft (⟨.insert tx row, reply⟩ :: past) = rowsLeft past := rfl

@[simp] theorem rowsLeft_commit (reply : Option Unit) : rowsLeft (⟨.commit tx, reply⟩ :: past) = rowsLeft past := rfl

@[simp] theorem deletedBy_insert (row : Session) (reply : Option Unit) :
    deletedBy (⟨.insert tx row, reply⟩ :: past) = deletedBy past := rfl

@[simp] theorem deletedBy_commit (reply : Option Unit) :
    deletedBy (⟨.commit tx, reply⟩ :: past) = deletedBy past := rfl

@[simp] theorem deletedBy_false (row : Session) :
    deletedBy (⟨.delete tx row, some false⟩ :: past) = deletedBy past := rfl

@[simp] theorem reported_rollback : reported (⟨.rollback tx, ()⟩ :: past) = reported past := rfl

theorem Within.cons (within : Within past tx) (exchange : Exchange (Sql Session)) : Within (exchange :: past) tx := by
  rw [Within, List.getLast?_cons, within, Option.getD_some]

theorem Within.mem (within : Within past tx) : (⟨.begin, some tx⟩ : Exchange (Sql Session)) ∈ past :=
  List.mem_of_getLast? within

theorem Running.cons {exchange : Exchange (Sql Session)} (running : Running past) (stays : closes exchange = none) :
    Running (exchange :: past) := by
  intro other member
  rcases List.mem_cons.mp member with rfl | inside
  · exact stays
  · exact running other inside

/-- A call that has not ended its transaction has not committed. -/
theorem Running.hasCommitted (running : Running past) : hasCommitted past = false := by
  induction past with
  | nil => rfl
  | cons exchange past ih =>
      have earlier := ih fun other inside => running other (List.mem_cons_of_mem _ inside)
      have stays := running exchange List.mem_cons_self
      obtain ⟨statement, reply⟩ := exchange
      cases statement with
      | commit tx =>
          cases reply with
          | none => exact earlier
          | some _ => cases stays
      | _ => exact earlier

/-- A call that has failed in its delete statement reports nothing. -/
theorem reported_failed (running : Running past) (stopped : rowsLeft past = none) : reported past = none := by
  rw [reported, if_neg]
  rintro (committed | ⟨none, _⟩)
  · rw [running.hasCommitted] at committed
    cases committed
  · rw [stopped] at none
    cases none

theorem reported_effective (running : Running past) (effective : deletedBy past ≠ []) : reported past = none := by
  rw [reported, if_neg]
  rintro (committed | ⟨_, nothing⟩)
  · rw [running.hasCommitted] at committed
    cases committed
  · exact effective nothing

theorem reported_empty (left : rowsLeft past = some []) (nothing : deletedBy past = []) : reported past = some [] := by
  rw [reported, if_pos (.inr ⟨left, nothing⟩), nothing]

theorem reported_committed : reported (⟨.commit tx, some ()⟩ :: past) = some (deletedBy past) := by
  rw [reported, if_pos (.inl rfl), deletedBy_commit]

end

section Conduct
variable {db : Database} {users : UserTable} {call : RepositoryCall} {past : Statements} {tx : Nat}

/-- The conduct of the script of a call, whose result is a function of the reported rows. -/
abbrev Reports {A : Type} (db : Database) (users : UserTable) (call : RepositoryCall) (script : Script A)
    (reply : List Session → Except StoreError A) (tx : Nat) (past : Statements) : Prop :=
  script.run.Follows (CallMay db users call)
    (fun past answer => Within past tx ∧ answer = orDatabaseError reply (reported past)) past

theorem follows_statement {statement : Statement Session}
    {ends : Statements → Except StoreError statement.Reply → Prop} (permitted : CallMay db users call past statement)
    (finish : ∀ reply, ends (⟨statement, reply⟩ :: past) (.ok reply)) :
    (sql statement).run.Follows (CallMay db users call) ends past := ⟨permitted, finish⟩

theorem follows_database {A : Type} {ends : Statements → Except StoreError A → Prop} (value : Option A)
    (failed : value = none → ends past (.error .other))
    (given : ∀ result, value = some result → ends past (.ok result)) :
    (orOther value).run.Follows (CallMay db users call) ends past := by
  cases value with
  | none => exact failed rfl
  | some result => exact given result rfl

/-- The loop of a delete statement tries the chosen rows in their order. -/
theorem follows_candidates {ends : Statements → Except StoreError (List Session) → Prop}
    (writes : reads call.command = false) (rows : List Session) (within : Within past tx) (running : Running past)
    (left : rowsLeft past = some rows)
    (failed : ∀ later, Within later tx → Running later → rowsLeft later = none → ends later (.error .other))
    (finish : ∀ later deleted, Within later tx → Running later → rowsLeft later = some [] →
      insertedBy later = insertedBy past → deletedBy later = deletedBy past ++ deleted → ends later (.ok deleted)) :
    (deleteRows tx rows).run.Follows (CallMay db users call) ends past := by
  induction rows generalizing past ends with
  | nil => exact finish past [] within running left rfl (List.append_nil _).symm
  | cons row rows ih =>
      unfold deleteRows
      rw [follows_run_bind]
      refine follows_statement (.delete writes within running left) fun reply => ?_
      rw [continues_ok, follows_run_bind]
      apply follows_database
      · rintro rfl
        exact failed _ (within.cons _) (running.cons rfl) rfl
      rintro result rfl
      rw [continues_ok, follows_run_bind]
      refine ih (within.cons _) (running.cons rfl) (by rw [rowsLeft_delete, left]; rfl) failed ?_
      intro later deleted within' running' left' inserted same
      refine finish later _ within' running' left' inserted ?_
      cases result with
      | false => exact same
      | true =>
          rw [same, if_pos rfl]
          exact List.append_assoc _ _ _

/-- A delete statement chooses its candidates and tries all of them. -/
theorem follows_selection {ends : Statements → Except StoreError (List Session) → Prop} {condition : Session → Bool}
    (writes : reads call.command = false) (selects : selection db call.command = some condition)
    (failed : ∀ later, Within later tx → Running later → rowsLeft later = none → ends later (.error .other))
    (finish : ∀ later deleted, Within later tx → Running later → rowsLeft later = some [] →
      insertedBy later = [] → deletedBy later = deleted → ends later (.ok deleted)) :
    (deleteWhere tx condition).run.Follows (CallMay db users call) ends [⟨.begin, some tx⟩] := by
  have running : Running [⟨.begin, some tx⟩] := by
    intro exchange member
    obtain rfl := List.mem_singleton.mp member
    rfl
  have within : Within [⟨.begin, some tx⟩] tx := rfl
  unfold deleteWhere
  rw [follows_run_bind]
  refine follows_statement (.choose writes selects) fun reply => ?_
  rw [continues_ok, follows_run_bind]
  apply follows_database
  · rintro rfl
    exact failed _ (within.cons _) (running.cons rfl) rfl
  rintro chosen rfl
  rw [continues_ok]
  exact follows_candidates writes chosen (within.cons _) (running.cons rfl) rfl failed finish

/-- The deferred rollback keeps what the body has achieved. -/
theorem follows_withTransaction {A : Type} (writes : reads call.command = false) (body : Nat → Script A)
    (reply : List Session → Except StoreError A)
    (inside : ∀ tx, Reports db users call (body tx) reply tx [⟨.begin, some tx⟩]) :
    (withTransaction body).run.Follows (CallMay db users call)
      (fun past answer => answer = orDatabaseError reply (reported past)) [] := by
  unfold withTransaction
  rw [follows_run_bind]
  refine follows_statement (.begin writes) fun begun => ?_
  rw [continues_ok, follows_run_bind]
  apply follows_database
  · rintro rfl
    rfl
  rintro tx rfl
  rw [continues_ok, follows_run_bind, follows_run_lift]
  refine Follows.imp ?_ _ _ (inside tx)
  rintro past answer ⟨within, same⟩
  rw [continues_ok, follows_run_bind]
  refine follows_statement (.rollback writes within) fun _ => ?_
  rw [continues_ok]
  cases answer with
  | error error => exact same
  | ok value => exact same

/-- A commit that succeeds concludes the call. -/
theorem reports_commit {A : Type} {value : A} {reply : List Session → Except StoreError A}
    (permitted : CallMay db users call past (.commit tx)) (within : Within past tx) (unfinished : reported past = none)
    (same : reply (deletedBy past) = .ok value) :
    Reports db users call (do orOther (← sql (.commit tx)); return value) reply tx past := by
  rw [Reports, follows_run_bind]
  refine follows_statement permitted fun committed => ?_
  rw [continues_ok, follows_run_bind]
  apply follows_database
  · rintro rfl
    refine ⟨within.cons _, ?_⟩
    change _ = orDatabaseError reply (reported past)
    rw [unfinished]
    rfl
  rintro _ rfl
  refine ⟨within.cons _, ?_⟩
  rw [reported_committed, orDatabaseError, same]

theorem follows_deleteAlone {condition : Session → Bool} (writes : reads call.command = false)
    (selects : selection db call.command = some condition) (nothing : call.inserted db = none) :
    (deleteAlone condition).run.Follows (CallMay db users call)
      (fun past answer => answer = orDatabaseError .ok (reported past)) [] := by
  apply follows_withTransaction writes
  intro tx
  rw [Reports, follows_run_bind]
  apply follows_selection writes selects
  · intro later within running stopped
    exact ⟨within, by rw [reported_failed running stopped]; rfl⟩
  intro later deleted within running left _ same
  rw [continues_ok]
  by_cases empty : deleted = []
  · rw [if_pos empty]
    exact ⟨within, by rw [reported_empty left (same.trans empty)]; rfl⟩
  · rw [if_neg empty]
    have effective : deletedBy later ≠ [] := fun none => empty (same.symm.trans none)
    refine reports_commit (.commit writes within running (.inr ⟨left, effective⟩) ?_) within
      (reported_effective running effective) (congrArg Except.ok same)
    intro row inserted
    rw [nothing] at inserted
    cases inserted

/-- The insertion of a call is committed at once. -/
theorem reports_insertion {session : Session} {reply : List Session → Except StoreError Session}
    (writes : reads call.command = false)
    (inserted : call.inserted db = some (SessionTable.newRow db call.id call.now session)) (within : Within past tx)
    (running : Running past) (effective : Effective call.command past) (first : insertedBy past = [])
    (unfinished : reported past = none) (same : reply (deletedBy past) = .ok (returned call.id call.now session)) :
    Reports db users call (do
      insertRow db users call.id call.now session tx
      orOther (← sql (.commit tx))
      return returned call.id call.now session) reply tx past := by
  have refused : Within past tx ∧ (.error .other : Except StoreError Session) = orDatabaseError reply (reported past) :=
    ⟨within, by rw [unfinished]; rfl⟩
  rw [Reports, follows_run_bind, insertRow]
  split
  · rename_i accepted
    rw [follows_run_bind]
    refine follows_statement (.insert writes within running effective first inserted) fun done => ?_
    rw [continues_ok]
    apply follows_database
    · rintro rfl
      exact ⟨within.cons _, refused.2⟩
    rintro _ rfl
    rw [continues_ok]
    refine reports_commit (.commit writes (within.cons _) (running.cons rfl) effective ?_) (within.cons _) unfinished
      same
    intro row drafted
    rw [inserted] at drafted
    cases drafted
    exact ⟨accepted, List.mem_cons_self⟩
  · exact refused

theorem follows_create {session : Session} (same : call.command = .create session) :
    (withTransaction fun tx => do
        insertRow db users call.id call.now session tx
        orOther (← sql (.commit tx))
        return returned call.id call.now session : Script Session).run.Follows (CallMay db users call)
      (fun past answer => answer = orDatabaseError (fun _ => .ok (returned call.id call.now session)) (reported past))
      [] := by
  have writes : reads call.command = false := by rw [same]; rfl
  apply follows_withTransaction writes
  intro tx
  refine reports_insertion writes ?_ rfl ?_ (.inl ⟨⟨session, same⟩, rfl⟩) rfl rfl rfl
  · rw [RepositoryCall.inserted, same]
  · intro exchange member
    obtain rfl := List.mem_singleton.mp member
    rfl

theorem follows_rotateToken {oldHash : String} {session : Session}
    (same : call.command = .rotateToken oldHash session) :
    (withTransaction (rotateRow db users call.id call.now oldHash session)).run.Follows (CallMay db users call)
      (fun past answer => answer = orDatabaseError (rotated call.id call.now session) (reported past)) [] := by
  have writes : reads call.command = false := by rw [same]; rfl
  apply follows_withTransaction writes
  intro tx
  rw [Reports, rotateRow, follows_run_bind]
  apply follows_selection writes (by rw [same]; rfl)
  · intro later within running stopped
    exact ⟨within, by rw [reported_failed running stopped]; rfl⟩
  intro later deleted within running left first deletes
  rw [continues_ok]
  by_cases empty : deleted = []
  · rw [if_pos empty]
    exact ⟨within, by rw [reported_empty left (deletes.trans empty)]; rfl⟩
  · rw [if_neg empty]
    have effective : deletedBy later ≠ [] := fun none => empty (deletes.symm.trans none)
    refine reports_insertion writes ?_ within running (.inr ⟨left, effective⟩) first
      (reported_effective running effective) (if_neg effective)
    rw [RepositoryCall.inserted, same]

theorem follows_selectRows {condition : Session → Bool} (reading : reads call.command = true)
    (selects : selection db call.command = some condition) :
    (selectRows condition).run.Follows (CallMay db users call)
      (fun past answer => answer = orDatabaseError .ok (rowsLeft past)) [] := by
  rw [selectRows, follows_run_bind]
  refine follows_statement (.read reading selects) fun reply => ?_
  rw [continues_ok]
  apply follows_database
  · rintro rfl
    rfl
  · rintro rows rfl
    rfl

/-- A call that ends with a function of a conducted script conducts itself as specified. -/
theorem follows_result {A : Type} {program : Program (Sql Session) A} {finish : A → call.command.Reply}
    {answer : Option (List Session) → A} {observe : Statements → Option (List Session)}
    (follows : program.Follows (CallMay db users call) (fun past result => result = answer (observe past)) [])
    (observes : ∀ past, concluded call.command past = observe past)
    (same : ∀ rows, finish (answer rows) = replyOf users call.id call.now call.command rows) :
    (program.bind fun result => .done (finish result)).Follows (CallMay db users call)
      (fun past reply => CallEnds users call past ⟨call.command, reply⟩) [] := by
  rw [follows_bind]
  refine Follows.imp ?_ _ _ follows
  rintro past _ rfl
  change CallEnds users call past _
  rw [CallEnds, observes, same]

/-- Every call conducts itself as specified. -/
theorem follows_statements (call : RepositoryCall) :
    ((statements db users call.id call.now call.command).bind fun reply =>
        (.done ⟨call.command, reply⟩ : Program (Sql Session) (Exchange SessionCalls))).Follows
      (CallMay db users call) (CallEnds users call) [] := by
  rw [follows_bind]
  change (statements db users call.id call.now call.command).Follows (CallMay db users call)
    (fun past reply => CallEnds users call past ⟨call.command, reply⟩) []
  obtain ⟨command, id, now⟩ := call
  cases command with
  | create session => exact Follows.imp (fun _ _ same => congrArg _ same) _ _ (follows_create rfl)
  | getByTokenHash tokenHash =>
      refine follows_result (follows_selectRows rfl rfl) (fun _ => rfl) fun rows => ?_
      cases rows <;> rfl
  | deleteByID sessionID userID =>
      cases read : db.uuid sessionID with
      | none =>
          simp only [statements, read]
          rfl
      | some known =>
          simp only [statements, read]
          refine follows_result (follows_deleteAlone rfl ?_ rfl) (fun _ => rfl) fun rows => ?_
          · rw [selection, read, Option.map_some]
          · cases rows <;> rfl
  | deleteByTokenHash tokenHash =>
      refine follows_result (follows_deleteAlone rfl rfl rfl) (fun _ => rfl) fun rows => ?_
      cases rows <;> rfl
  | rotateToken oldHash session => exact Follows.imp (fun _ _ same => congrArg _ same) _ _ (follows_rotateToken rfl)
  | deleteAllByUserID userID =>
      exact follows_result (follows_deleteAlone rfl rfl rfl) (fun _ => rfl) fun _ => rfl
  | deleteAllByUserIDExcept userID keepTokenHash =>
      exact follows_result (follows_deleteAlone rfl rfl rfl) (fun _ => rfl) fun _ => rfl
  | listByUserID userID =>
      refine follows_result (follows_selectRows rfl rfl) (fun _ => rfl) fun rows => ?_
      cases rows <;> rfl

end Conduct
end AuthService
