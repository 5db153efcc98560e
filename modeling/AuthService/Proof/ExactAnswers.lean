/-
This file proves what the two session stores answer exactly when no call fails.
-/

import AuthService.Proof.MemoryRows
import AuthService.Proof.PostgresRows

namespace AuthService

/-- A bulk delete removes the rows that meet a condition and returns their token hashes. -/
structure Cleared (condition : Row → Prop) (before after : Set Row) (reply : List String × Option StoreError) :
    Prop where
  succeeded : reply.2 = none
  rows : after = {row ∈ before | ¬ condition row}
  hashes : ∀ tokenHash, tokenHash ∈ reply.1 ↔ ∃ row ∈ before, condition row ∧ row.tokenHash = tokenHash

/-- The answer of a store that does not fail is determined by its rows. -/
def SessionCommand.Exact (stored : Time → Time) (before after : Set Row) : (command : SessionCommand) →
    command.Reply → Prop
  | .create session, .ok created =>
      created.FillsIn session ∧ after = insert (created.keptRow stored) before
  | .create _, .error _ => False
  | .getByTokenHash tokenHash, .ok session =>
      after = before ∧ session.row ∈ before ∧ session.tokenHash = tokenHash
  | .getByTokenHash tokenHash, .error error =>
      after = before ∧ error = .sessionNotFound ∧ ¬ Live before tokenHash
  | .deleteByID sessionID userID, .ok tokenHash =>
      (∃ row ∈ before, row.id = sessionID ∧ row.userID = userID ∧ row.tokenHash = tokenHash) ∧
        after = without before tokenHash
  | .deleteByID sessionID userID, .error error =>
      after = before ∧ error = .sessionNotFound ∧ ∀ row ∈ before, row.id = sessionID → row.userID ≠ userID
  | .deleteByTokenHash tokenHash, .ok _ => after = without before tokenHash
  | .deleteByTokenHash _, .error _ => False
  | .rotateToken oldHash session, .ok created =>
      created.FillsIn session ∧ Live before oldHash ∧
        after = insert (created.keptRow stored) (without before oldHash)
  | .rotateToken oldHash _, .error error =>
      after = before ∧ error = .sessionNotFound ∧ ¬ Live before oldHash
  | .deleteAllByUserID userID, reply => Cleared (fun row => row.userID = userID) before after reply
  | .deleteAllByUserIDExcept userID keepTokenHash, reply =>
      Cleared (fun row => row.userID = userID ∧ row.tokenHash ≠ keepTokenHash) before after reply
  | .listByUserID _, _ => after = before

namespace MemoryState

variable {state next : MemoryState} {users : UserTable}

/-- A refused delete by identifier found no row of the user. -/
theorem deleteByID_exact (consistent : state.Consistent) {sessionID userID : String}
    {reply : Except StoreError String} (deleted : state.deleteByID sessionID userID = (reply, next)) :
    (SessionCommand.deleteByID sessionID userID).Exact id state.rowSet next.rowSet reply := by
  have effect := (deleteByID_cases consistent deleted).2
  unfold deleteByID at deleted
  split at deleted
  · rename_i absent
    cases deleted
    refine ⟨rfl, rfl, ?_⟩
    rintro row member rfl
    obtain ⟨address, found, _⟩ := consistent.identified member
    rw [absent] at found
    cases found
  · rename_i address found
    obtain ⟨_, own, back⟩ := consistent.byID sessionID address found
    dsimp only at deleted
    split at deleted
    · rename_i foreign
      cases deleted
      refine ⟨rfl, rfl, ?_⟩
      intro row member same
      obtain ⟨other, present, rfl⟩ := consistent.identified member
      rw [same, found, Option.some.injEq] at present
      subst present
      exact foreign
    · rename_i owner
      cases deleted
      exact ⟨⟨_, consistent.row_mem back, own, not_not.mp owner, rfl⟩, effect.2⟩

/-- The in-memory store answers every admissible call exactly. -/
theorem exec_exact (command : SessionCommand) (choice : Choice) (now : Time) (reply : command.Reply)
    (consistent : state.Consistent) (admissible : command.Admissible state.rowSet)
    (executed : exec command choice users now state = some (reply, next)) :
    command.Exact id state.rowSet next.rowSet reply := by
  have effect := (exec_effect command choice users now next reply consistent admissible executed).2
  cases command with
  | create session =>
      obtain ⟨filled, rfl, _⟩ := create_ok consistent admissible.1 admissible.2 executed
      exact effect
  | getByTokenHash tokenHash =>
      cases reply with
      | ok session => exact effect
      | error error =>
          simp only [exec, getByTokenHash, Option.some.injEq] at executed
          split at executed
          · rename_i absent
            cases executed
            exact ⟨rfl, rfl, consistent.not_live absent⟩
          · cases executed
  | deleteByID sessionID userID =>
      simp only [exec, Option.some.injEq] at executed
      exact deleteByID_exact consistent executed
  | deleteByTokenHash tokenHash =>
      cases executed
      exact effect
  | rotateToken oldHash session =>
      cases reply with
      | ok created => exact effect
      | error error =>
          simp only [exec, rotateToken] at executed
          split at executed
          · rename_i absent
            cases executed
            exact ⟨rfl, rfl, consistent.not_live absent⟩
          · unfold create at executed
            split at executed
            · cases executed
            · cases executed
  | deleteAllByUserID userID =>
      obtain ⟨succeeded, _, rows, hashes⟩ :=
        sweep_spec _ (fun row => row.userID = userID) (by simp) consistent executed
      exact ⟨succeeded, rows, hashes⟩
  | deleteAllByUserIDExcept userID keepTokenHash =>
      obtain ⟨succeeded, _, rows, hashes⟩ := sweep_spec _
        (fun row => row.userID = userID ∧ row.tokenHash ≠ keepTokenHash) (by simp) consistent executed
      exact ⟨succeeded, rows, hashes⟩
  | listByUserID userID => exact effect

end MemoryState

/-- The database takes the call as it is written: it accepts the new session, and it reads the
identifier of a session as the same text. -/
def SessionCommand.Regular (db : Database) (users : UserTable) (table : SessionTable) : SessionCommand → Prop
  | .create session => table.accepts users session = true
  | .rotateToken _ session => table.accepts users session = true
  | .deleteByID sessionID _ => db.uuid sessionID = some sessionID
  | _ => True

namespace SessionTable

variable {db : Database} {users : UserTable} {now : Time} {table next : SessionTable}

/-- An accepted session is inserted. -/
theorem create_accepted {id : String} {session : Session} {reply : Except StoreError Session}
    (accepted : table.accepts users session = true)
    (inserted : table.create db users now id session = some (reply, next)) :
    ∃ created, reply = .ok created ∧ created.id = id := by
  unfold create at inserted
  rw [dif_pos accepted] at inserted
  split at inserted
  · cases inserted
  · cases inserted
    exact ⟨_, rfl, rfl⟩

/-- The deletion of the old row does not make a session unacceptable. -/
theorem accepts_deleteByTokenHash {session : Session} (oldHash : String)
    (accepted : table.accepts users session = true) :
    (table.deleteByTokenHash oldHash).accepts users session = true := by
  simp only [accepts, Bool.and_eq_true, Bool.not_eq_true', List.contains_eq_mem,
    decide_eq_false_iff_not] at accepted ⊢
  obtain ⟨⟨⟨⟨known, fresh⟩, device⟩, agent⟩, address⟩ := accepted
  refine ⟨⟨⟨⟨known, ?_⟩, device⟩, agent⟩, address⟩
  exact fun member => fresh ((List.filter_sublist.map _).subset member)

/-- A rotation of an accepted session is refused only for an unknown token hash. -/
theorem rotateToken_accepted {id oldHash : String} {session : Session} {reply : Except StoreError Session}
    (accepted : table.accepts users session = true)
    (rotated : table.rotateToken db none users now id oldHash session = some (reply, next)) :
    (∃ created, reply = .ok created ∧ created.id = id) ∨
      reply = .error .sessionNotFound ∧ ¬ Live table.rowSet oldHash := by
  by_cases present : oldHash ∈ table.rows.map Session.tokenHash
  · simp only [rotateToken, reduceCtorEq, or_self, if_false, not_not.mpr present] at rotated
    split at rotated
    · cases rotated
    · rename_i inserted
      obtain ⟨created, same, _⟩ := create_accepted (accepts_deleteByTokenHash oldHash accepted) inserted
      cases same
    · rename_i inserted
      cases rotated
      exact .inl (create_accepted (accepts_deleteByTokenHash oldHash accepted) inserted)
  · rw [rotateToken_absent present] at rotated
    cases rotated
    exact .inr ⟨rfl, fun live => present ((mem_rowSet_live _ _).mp live)⟩

/-- A delete by an identifier that is read as the same text looks for this identifier. -/
theorem deleteByID_exact {sessionID userID : String} {reply : Except StoreError String}
    (canonical : db.uuid sessionID = some sessionID)
    (deleted : table.deleteByID db sessionID userID = (reply, next)) :
    (SessionCommand.deleteByID sessionID userID).Exact db.stored table.rowSet next.rowSet reply := by
  cases reply with
  | ok tokenHash =>
      refine ⟨?_, (deleteByID_ok deleted).2⟩
      simp only [deleteByID, canonical] at deleted
      split at deleted
      · cases deleted
      · rename_i row selected
        cases deleted
        have matched := List.find?_some selected
        simp only [Bool.and_eq_true, decide_eq_true_eq] at matched
        exact ⟨row.row, ⟨row, List.mem_of_find?_eq_some selected, rfl⟩, matched.1, matched.2, rfl⟩
  | error error =>
      simp only [deleteByID, canonical] at deleted
      split at deleted
      · rename_i none
        cases deleted
        refine ⟨rfl, rfl, ?_⟩
        rintro row ⟨session, member, rfl⟩ same owner
        refine List.find?_eq_none.mp none session member ?_
        exact Bool.and_eq_true_iff.mpr ⟨decide_eq_true same, decide_eq_true owner⟩
      · cases deleted

/-- The repository answers every regular call exactly when no statement fails, the rows have users and
no token hash is empty. -/
theorem exec_exact (command : SessionCommand) (choice : Choice) (reply : command.Reply)
    (reliable : choice.fails = false) (committed : choice.statement = none)
    (owned : ∀ row ∈ table.rows, ∃ user ∈ users.rows, user.id = row.userID)
    (hashed : ∀ row ∈ table.rows, row.tokenHash ≠ "") (regular : command.Regular db users table)
    (executed : table.exec db command choice users now = some (reply, next)) :
    command.Exact db.stored table.rowSet next.rowSet reply := by
  have effect := exec_effect command choice reply executed
  cases command with
  | create session =>
      simp only [exec, reliable, Bool.false_eq_true, if_false] at executed
      obtain ⟨created, rfl, _⟩ := create_accepted regular executed
      exact effect
  | getByTokenHash tokenHash =>
      cases reply with
      | ok session => exact effect
      | error error =>
          simp only [exec, reliable, Bool.false_eq_true, if_false, Option.some.injEq, Prod.mk.injEq] at executed
          refine ⟨effect, getByTokenHash_error executed.1, ?_⟩
          rw [mem_rowSet_live]
          intro present
          obtain ⟨found, same⟩ := getByTokenHash_present present fun row member _ => owned row member
          rw [executed.1] at same
          cases same
  | deleteByID sessionID userID =>
      simp only [exec, reliable, Bool.false_eq_true, if_false, Option.some.injEq] at executed
      exact deleteByID_exact regular executed
  | deleteByTokenHash tokenHash =>
      simp only [exec, reliable, Bool.false_eq_true, if_false, Option.some.injEq, Prod.mk.injEq] at executed
      obtain ⟨rfl, _⟩ := executed
      exact effect
  | rotateToken oldHash session =>
      simp only [exec, committed] at executed
      rcases rotateToken_accepted regular executed with ⟨created, rfl, _⟩ | ⟨rfl, absent⟩
      · exact effect
      · exact ⟨effect, rfl, absent⟩
  | deleteAllByUserID userID =>
      obtain ⟨succeeded, rows, hashes⟩ :=
        deleteReturning_spec _ (fun row => row.userID = userID) (by simp) reliable executed
      exact ⟨succeeded, rows, hashes⟩
  | deleteAllByUserIDExcept userID keepTokenHash =>
      have agrees : ∀ session ∈ table.rows, exceptCondition userID keepTokenHash session = true ↔
          session.row.userID = userID ∧ session.row.tokenHash ≠ keepTokenHash := by
        intro session member
        unfold exceptCondition
        split
        · rename_i ignored
          simpa [ignored] using fun _ => hashed session member
        · simp
      obtain ⟨succeeded, rows, hashes⟩ := deleteReturning_spec _
        (fun row => row.userID = userID ∧ row.tokenHash ≠ keepTokenHash) agrees reliable executed
      exact ⟨succeeded, rows, hashes⟩
  | listByUserID userID => exact effect

end SessionTable
end AuthService
