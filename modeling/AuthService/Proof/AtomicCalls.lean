/-
This file states what a call on the session repository does when it takes effect at one moment, and proves that
the rows which its statements have read, deleted and inserted have this effect.
-/

import AuthService.Proof.PostgresRows
import AuthService.Proof.RepositoryConduct
import AuthService.Proof.Statements

namespace AuthService
open Interleaving Program System ReadCommitted

/-- The delete statements that may select several rows. -/
def sweeps : SessionCommand → Bool
  | .deleteAllByUserID _ | .deleteAllByUserIDExcept _ _ => true
  | _ => false

/-- What a call does when it takes effect at one moment. It is the method of the atomic repository, except
that a bulk delete removes just the sessions whose hashes it returns and that sessions which were last used
at the same time are listed in any order. -/
inductive Atomic (db : Database) (users : UserTable) (id : String) (now : Time) (table : SessionTable) :
    Exchange SessionCalls → SessionTable → Prop where
  | method {command reply next} (single : sweeps command = false)
      (executed : SessionTable.exec db command { id } users now table = some (reply, next)) :
      Atomic db users id now table ⟨command, reply⟩ next
  | listed {userID rows} (all : rows.Perm (table.listByUserID userID))
      (sorted : rows.Pairwise fun first second => second.lastUsedAt ≤ first.lastUsedAt) :
      Atomic db users id now table ⟨.listByUserID userID, .ok rows⟩ table
  | swept {command condition} {deleted : List Session} (several : sweeps command = true)
      (selects : selection db command = some condition)
      (chosen : ∀ row ∈ deleted, row ∈ table.rows ∧ condition row = true) :
      Atomic db users id now table ⟨command, replyOf users id now command (some deleted)⟩
        (table.deleteWhere fun row => row ∈ deleted)

section Tables
variable {db : Database} {users : UserTable} {id : String} {now : Time} {table : SessionTable}
variable {command : SessionCommand} {condition : Session → Bool}

/-- A call that finds no row has no effect. -/
theorem atomic_absent (writes : reads command = false) (selects : selection db command = some condition)
    (nothing : sweeps command = false → ∀ row ∈ table.rows, condition row = false) :
    ∃ after, Atomic db users id now table ⟨command, replyOf users id now command (some [])⟩ after ∧
      ∀ row, row ∈ after.rows ↔ row ∈ table.rows := by
  cases command with
  | create session => cases selects
  | getByTokenHash tokenHash => cases writes
  | listByUserID userID => cases writes
  | deleteByID sessionID userID =>
      obtain ⟨known, read, rfl⟩ := Option.map_eq_some_iff.mp selects
      refine ⟨table, .method rfl ?_, fun _ => Iff.rfl⟩
      have missing : table.rows.find? (fun row => row.id = known && row.userID = userID) = none :=
        List.find?_eq_none.mpr fun row inside => by simpa using nothing rfl row inside
      simp only [SessionTable.exec, SessionTable.deleteByID, read, missing]
      rfl
  | deleteByTokenHash tokenHash =>
      cases selects
      refine ⟨table.deleteByTokenHash tokenHash, .method rfl rfl, fun row => ?_⟩
      simp only [SessionTable.deleteByTokenHash, SessionTable.deleteWhere, List.mem_filter, and_iff_left_iff_imp]
      intro inside
      exact congrArg not (nothing rfl row inside)
  | rotateToken oldHash session =>
      cases selects
      refine ⟨table, .method rfl ?_, fun _ => Iff.rfl⟩
      have missing : oldHash ∉ table.rows.map Session.tokenHash := by
        intro present
        obtain ⟨row, inside, same⟩ := List.mem_map.mp present
        exact absurd same (of_decide_eq_false (nothing rfl row inside))
      simp only [SessionTable.exec, SessionTable.rotateToken, reduceCtorEq, or_self, if_false, missing,
        not_false_eq_true, if_true]
      rfl
  | deleteAllByUserID userID =>
      exact ⟨_, .swept rfl selects (by rintro row ⟨⟩), fun row => by simp [SessionTable.deleteWhere]⟩
  | deleteAllByUserIDExcept userID keepTokenHash =>
      exact ⟨_, .swept rfl selects (by rintro row ⟨⟩), fun row => by simp [SessionTable.deleteWhere]⟩

/-- A row that a call inserts can be stored beside the rows of the table. -/
structure Insertable (users : UserTable) (table : SessionTable) (row : Session) : Prop where
  accepted : insertable users row = true
  newHash : row.tokenHash ∉ table.rows.map Session.tokenHash
  newID : row.id ∉ table.rows.map Session.id

/-- The insertion of a row that can be stored succeeds. -/
theorem SessionTable.create_new {session : Session}
    (fits : Insertable users table (SessionTable.newRow db id now session)) :
    ∃ next, table.create db users now id session = some (.ok (returned id now session), next) ∧
      next.rows = SessionTable.newRow db id now session :: table.rows := by
  have accepts : table.accepts users session = true := by
    have accepted : insertable users session = true := fits.accepted
    simp only [insertable, Bool.and_eq_true] at accepted
    have unknown : (table.rows.map Session.tokenHash).contains session.tokenHash = false := by
      rw [List.contains_eq_mem]
      exact decide_eq_false fits.newHash
    simp only [SessionTable.accepts, Bool.and_eq_true, unknown]
    exact ⟨⟨⟨⟨accepted.1.1.1, rfl⟩, accepted.1.1.2⟩, accepted.1.2⟩, accepted.2⟩
  exact SessionTable.create_stored accepts fits.newID

/-- The deleted rows are rows of the table that the call selects. -/
def Erases (db : Database) (table : SessionTable) (command : SessionCommand) (deleted : List Session) : Prop :=
  ∀ row ∈ deleted, row ∈ table.rows ∧ ∃ condition, selection db command = some condition ∧ condition row = true

variable {deleted : List Session}

theorem Erases.selected (deletes : Erases db table command deleted) (selects : selection db command = some condition)
    {row : Session} (inside : row ∈ deleted) : row ∈ table.rows ∧ condition row = true := by
  obtain ⟨present, condition', selects', chosen⟩ := deletes row inside
  rw [selects, Option.some.injEq] at selects'
  exact ⟨present, selects' ▸ chosen⟩

/-- A condition on a key selects the one row that was deleted. -/
theorem Erases.mem_iff (deletes : Erases db table command deleted) (selects : selection db command = some condition)
    (effective : deleted ≠ [])
    (unique : ∀ row ∈ table.rows, ∀ other ∈ table.rows, condition row = true → condition other = true → row = other)
    {row : Session} (present : row ∈ table.rows) : row ∈ deleted ↔ condition row = true := by
  refine ⟨fun inside => (deletes.selected selects inside).2, fun chosen => ?_⟩
  obtain ⟨other, inside⟩ := List.exists_mem_of_ne_nil deleted effective
  obtain ⟨present', chosen'⟩ := deletes.selected selects inside
  rwa [unique row present other present' chosen chosen']

theorem SessionTable.eq_of_hash {row other : Session} (first : row ∈ table.rows) (second : other ∈ table.rows)
    {tokenHash : String} (left : decide (row.tokenHash = tokenHash) = true)
    (right : decide (other.tokenHash = tokenHash) = true) : row = other :=
  List.inj_on_of_nodup_map table.uniqueHash first second
    ((of_decide_eq_true left).trans (of_decide_eq_true right).symm)

/-- The sessions that a deletion by token hash keeps. -/
theorem Erases.mem_deleteByTokenHash {tokenHash : String} (deletes : Erases db table command deleted)
    (selects : selection db command = some fun row => decide (row.tokenHash = tokenHash)) (effective : deleted ≠ [])
    (row : Session) : row ∈ (table.deleteByTokenHash tokenHash).rows ↔ row ∈ table.rows ∧ row ∉ deleted := by
  simp only [SessionTable.deleteByTokenHash, SessionTable.deleteWhere, List.mem_filter]
  refine and_congr_right fun present => ?_
  rw [deletes.mem_iff selects effective (fun _ first _ second => SessionTable.eq_of_hash first second) present,
    Bool.not_eq_true', Bool.not_eq_true]

theorem atomic_deleteByID {sessionID userID : String} (effective : deleted ≠ [])
    (deletes : Erases db table (.deleteByID sessionID userID) deleted) :
    ∃ after, Atomic db users id now table ⟨.deleteByID sessionID userID, firstHash deleted⟩ after ∧
      ∀ row, row ∈ after.rows ↔ row ∈ table.rows ∧ row ∉ deleted := by
  cases deleted with
  | nil => exact absurd rfl effective
  | cons first others =>
      obtain ⟨present, condition, selects, chosen⟩ := deletes first List.mem_cons_self
      obtain ⟨known, read, rfl⟩ := Option.map_eq_some_iff.mp selects
      have unique : ∀ row ∈ table.rows, ∀ other ∈ table.rows, (row.id = known && row.userID = userID) = true →
          (other.id = known && other.userID = userID) = true → row = other := by
        intro row inside other inside' left right
        simp only [Bool.and_eq_true, decide_eq_true_eq] at left right
        exact List.inj_on_of_nodup_map table.uniqueID inside inside' (left.1.trans right.1.symm)
      have found : table.rows.find? (fun row => row.id = known && row.userID = userID) = some first := by
        cases search : table.rows.find? fun row => row.id = known && row.userID = userID with
        | none => exact absurd chosen (List.find?_eq_none.mp search first present)
        | some row =>
            have matched := List.find?_some search
            exact congrArg some (unique row (List.mem_of_find?_eq_some search) first present matched chosen)
      refine ⟨table.deleteWhere fun row => row.id = known && row.userID = userID, .method rfl ?_, fun row => ?_⟩
      · simp only [SessionTable.exec, SessionTable.deleteByID, read, found]
        rfl
      · simp only [SessionTable.deleteWhere, List.mem_filter]
        refine and_congr_right fun inside => ?_
        rw [deletes.mem_iff selects effective unique inside, Bool.not_eq_true', Bool.not_eq_true]

theorem atomic_rotateToken {oldHash : String} {session : Session} (effective : deleted ≠ [])
    (deletes : Erases db table (.rotateToken oldHash session) deleted)
    (fits : Insertable users table (SessionTable.newRow db id now session)) :
    ∃ after, Atomic db users id now table ⟨.rotateToken oldHash session, .ok (returned id now session)⟩ after ∧
      ∀ row, row ∈ after.rows ↔
        row = SessionTable.newRow db id now session ∨ (row ∈ table.rows ∧ row ∉ deleted) := by
  have kept : ∀ row, row ∈ (table.deleteByTokenHash oldHash).rows ↔ row ∈ table.rows ∧ row ∉ deleted :=
    fun row => deletes.mem_deleteByTokenHash rfl effective row
  have fits' : Insertable users (table.deleteByTokenHash oldHash) (SessionTable.newRow db id now session) :=
    ⟨fits.accepted, fun present => fits.newHash ((List.filter_sublist.map _).subset present),
      fun present => fits.newID ((List.filter_sublist.map _).subset present)⟩
  have present : oldHash ∈ table.rows.map Session.tokenHash := by
    obtain ⟨first, inside⟩ := List.exists_mem_of_ne_nil deleted effective
    obtain ⟨there, chosen⟩ := deletes.selected rfl inside
    exact List.mem_map.mpr ⟨first, there, of_decide_eq_true chosen⟩
  obtain ⟨next, created, rows⟩ := SessionTable.create_new fits'
  refine ⟨next, .method rfl ?_, fun row => ?_⟩
  · simp only [SessionTable.exec, SessionTable.rotateToken, reduceCtorEq, or_self, if_false, present,
      not_true_eq_false, created]
  · rw [rows, List.mem_cons, kept]

variable {call : RepositoryCall}

/-- A call that commits has removed the rows that it has deleted and added the row that it inserts. -/
theorem atomic_committed (writes : reads call.command = false)
    (effective : (∃ session, call.command = .create session) ∨ deleted ≠ [])
    (deletes : Erases db table call.command deleted)
    (insertion : ∀ row, call.inserted db = some row → Insertable users table row) :
    ∃ after, Atomic db users call.id call.now table
        ⟨call.command, replyOf users call.id call.now call.command (some deleted)⟩ after ∧
      ∀ row, row ∈ after.rows ↔ (row ∈ table.rows ∧ row ∉ deleted) ∨ call.inserted db = some row := by
  obtain ⟨command, id, now⟩ := call
  have sweeping : ∀ condition, selection db command = some condition → sweeps command = true →
      ∃ after, Atomic db users id now table ⟨command, replyOf users id now command (some deleted)⟩ after ∧
        ∀ row, row ∈ after.rows ↔ row ∈ table.rows ∧ row ∉ deleted := by
    intro condition selects several
    exact ⟨_, .swept several selects fun row inside => deletes.selected selects inside,
      fun row => by simp [SessionTable.deleteWhere]⟩
  cases command with
  | create session =>
      obtain ⟨next, created, rows⟩ := SessionTable.create_new (insertion _ rfl)
      have empty : deleted = [] := by
        refine List.eq_nil_iff_forall_not_mem.mpr fun row inside => ?_
        obtain ⟨_, _, selects, _⟩ := deletes row inside
        cases selects
      refine ⟨next, .method rfl created, fun row => ?_⟩
      rw [rows, List.mem_cons, empty, or_comm]
      simp [RepositoryCall.inserted, eq_comm]
  | getByTokenHash tokenHash => cases writes
  | listByUserID userID => cases writes
  | deleteByID sessionID userID =>
      have some' : deleted ≠ [] := effective.resolve_left (by simp)
      obtain ⟨after, atomic, members⟩ := atomic_deleteByID some' deletes
      exact ⟨after, atomic, fun row => (members row).trans (by simp [RepositoryCall.inserted])⟩
  | deleteByTokenHash tokenHash =>
      have some' : deleted ≠ [] := effective.resolve_left (by simp)
      refine ⟨table.deleteByTokenHash tokenHash, .method rfl rfl, fun row => ?_⟩
      rw [deletes.mem_deleteByTokenHash rfl some']
      simp [RepositoryCall.inserted]
  | rotateToken oldHash session =>
      have some' : deleted ≠ [] := effective.resolve_left (by simp)
      obtain ⟨after, atomic, members⟩ := atomic_rotateToken some' deletes (insertion _ rfl)
      refine ⟨after, ?_, fun row => ?_⟩
      · rw [replyOf, orDatabaseError, rotated, if_neg some']
        exact atomic
      · rw [members, or_comm]
        simp [RepositoryCall.inserted, eq_comm]
  | deleteAllByUserID userID =>
      obtain ⟨after, atomic, members⟩ := sweeping _ rfl rfl
      exact ⟨after, atomic, fun row => (members row).trans (by simp [RepositoryCall.inserted])⟩
  | deleteAllByUserIDExcept userID keepTokenHash =>
      obtain ⟨after, atomic, members⟩ := sweeping _ rfl rfl
      exact ⟨after, atomic, fun row => (members row).trans (by simp [RepositoryCall.inserted])⟩

/-- A reading call answers from the rows of one moment. -/
theorem atomic_read (reading : reads command = true) (selects : selection db command = some condition)
    {chosen : List Session} (all : chosen.Perm (table.rows.filter condition)) :
    Atomic db users id now table ⟨command, replyOf users id now command (some chosen)⟩ table := by
  cases command with
  | getByTokenHash tokenHash =>
      cases selects
      refine .method rfl ?_
      have reply : joined users chosen = table.getByTokenHash users tokenHash := by
        unfold SessionTable.getByTokenHash
        cases search : table.rows.find? fun row => row.tokenHash = tokenHash with
        | none =>
            have empty : table.rows.filter (fun row => row.tokenHash = tokenHash) = [] :=
              List.filter_eq_nil_iff.mpr (List.find?_eq_none.mp search)
            rw [empty, List.perm_nil] at all
            rw [all, joined]
        | some row =>
            have matched := List.find?_some search
            have present := List.mem_of_find?_eq_some search
            cases chosen with
            | nil =>
                have inside := all.mem_iff.mpr (List.mem_filter.mpr ⟨present, matched⟩)
                cases inside
            | cons first others =>
                obtain ⟨present', matched'⟩ := List.mem_filter.mp (all.mem_iff.mp List.mem_cons_self)
                rw [SessionTable.eq_of_hash present' present matched' matched]
                rfl
      rw [replyOf, orDatabaseError, reply]
      rfl
  | listByUserID userID =>
      cases selects
      refine .listed ?_ ?_
      · exact (List.mergeSort_perm _ _).trans (all.trans (List.mergeSort_perm _ _).symm)
      · have sorted : (latestFirst chosen).Pairwise fun first second =>
            decide (second.lastUsedAt ≤ first.lastUsedAt) = true := by
          apply List.pairwise_mergeSort
          · intro first second third earlier later
            exact decide_eq_true (Int.le_trans (of_decide_eq_true later) (of_decide_eq_true earlier))
          · intro first second
            rw [Bool.or_eq_true, decide_eq_true_eq, decide_eq_true_eq]
            exact Int.le_total _ _
        exact sorted.imp of_decide_eq_true
  | _ => cases reading

end Tables

end AuthService
