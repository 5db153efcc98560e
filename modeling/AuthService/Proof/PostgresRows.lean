/-
This file proves that the repository on PostgreSQL behaves as a set of rows.
-/

import AuthService.Construction.Postgres
import AuthService.Proof.SessionRows
import Mathlib.Data.List.Nodup

namespace AuthService
namespace SessionTable

variable {db : Database} {users : UserTable} {now : Time} {table next : SessionTable}

/-- The abstract state of a table. -/
def rowSet (table : SessionTable) : Set Row := {row | ∃ session ∈ table.rows, session.row = row}

theorem mem_rowSet_live (table : SessionTable) (tokenHash : String) :
    Live table.rowSet tokenHash ↔ tokenHash ∈ table.rows.map Session.tokenHash := by
  simp only [Live, rowSet, Set.mem_ofPred_eq, List.mem_map]
  constructor
  · rintro ⟨row, ⟨session, member, rfl⟩, same⟩
    exact ⟨session, member, same⟩
  · rintro ⟨session, member, same⟩
    exact ⟨session.row, ⟨session, member, rfl⟩, same⟩

/-- A delete statement removes the rows that its condition selects. -/
theorem rowSet_deleteWhere (selected : Session → Bool) (condition : Row → Prop)
    (agrees : ∀ session ∈ table.rows, selected session = true ↔ condition session.row) :
    (table.deleteWhere selected).rowSet = {row ∈ table.rowSet | ¬ condition row} := by
  ext row
  simp only [rowSet, deleteWhere, Set.mem_ofPred_eq, List.mem_filter, Bool.not_eq_true']
  constructor
  · rintro ⟨session, ⟨member, kept⟩, rfl⟩
    refine ⟨⟨session, member, rfl⟩, ?_⟩
    rw [← agrees session member, kept]
    exact Bool.false_ne_true
  · rintro ⟨⟨session, member, rfl⟩, kept⟩
    rw [← agrees session member, Bool.not_eq_true] at kept
    exact ⟨session, ⟨member, kept⟩, rfl⟩

theorem rowSet_deleteByTokenHash (tokenHash : String) :
    (table.deleteByTokenHash tokenHash).rowSet = without table.rowSet tokenHash :=
  rowSet_deleteWhere _ (fun row => row.tokenHash = tokenHash) (by simp)

/-- A successful insertion adds one row and fills in the session. -/
theorem create_ok {id : String} {session created : Session}
    (inserted : table.create db users now id session = some (.ok created, next)) :
    created.FillsIn session ∧ next.rowSet = Insert.insert (created.keptRow db.stored) table.rowSet := by
  unfold create at inserted
  split at inserted
  · split at inserted
    · cases inserted
    · simp only [Option.some.injEq, Prod.mk.injEq, Except.ok.injEq] at inserted
      obtain ⟨rfl, rfl⟩ := inserted
      refine ⟨⟨rfl, rfl, rfl, rfl, rfl, rfl, rfl⟩, ?_⟩
      ext row
      simp only [rowSet, insert, List.mem_cons, exists_eq_or_imp, Set.mem_ofPred_eq, Set.mem_insert_iff]
      rw [eq_comm]
      rfl
  · cases inserted

/-- A refused insertion leaves the table as it was. -/
theorem create_error {id : String} {session : Session} {error : StoreError}
    (refused : table.create db users now id session = some (.error error, next)) : next = table := by
  unfold create at refused
  split at refused
  · split at refused
    · cases refused
    · cases refused
  · cases refused
    rfl

/-- A rotation that reports success found the old row and inserted the new one after the deletion. -/
theorem rotateToken_inserted {failing : Option RotateStatement} {id oldHash : String}
    {session created : Session}
    (rotated : table.rotateToken db failing users now id oldHash session = some (.ok created, next)) :
    oldHash ∈ table.rows.map Session.tokenHash ∧
      (table.deleteByTokenHash oldHash).create db users now id session = some (.ok created, next) := by
  unfold rotateToken at rotated
  split at rotated
  · cases rotated
  · split at rotated
    · cases rotated
    · rename_i present
      split at rotated
      · cases rotated
      · split at rotated
        · cases rotated
        · cases rotated
        · rename_i inserted
          split at rotated
          · cases rotated
          · cases rotated
            exact ⟨not_not.mp present, inserted⟩

/-- A rotation that reports success replaced the old row. -/
theorem rotateToken_ok {failing : Option RotateStatement} {id oldHash : String}
    {session created : Session}
    (rotated : table.rotateToken db failing users now id oldHash session = some (.ok created, next)) :
    created.FillsIn session ∧ Live table.rowSet oldHash ∧
      next.rowSet = Insert.insert (created.keptRow db.stored) (without table.rowSet oldHash) := by
  obtain ⟨present, inserted⟩ := rotateToken_inserted rotated
  obtain ⟨filled, same⟩ := create_ok inserted
  rw [rowSet_deleteByTokenHash] at same
  exact ⟨filled, (mem_rowSet_live _ _).mpr present, same⟩

/-- A rotation that reports an error is rolled back. -/
theorem rotateToken_error {failing : Option RotateStatement} {id oldHash : String}
    {session : Session} {error : StoreError}
    (refused : table.rotateToken db failing users now id oldHash session = some (.error error, next)) :
    next = table := by
  unfold rotateToken at refused
  repeat' split at refused
  all_goals cases refused
  all_goals rfl

/-- A read returns a row of the table together with the address of its user. -/
theorem getByTokenHash_ok {tokenHash : String} {session : Session}
    (found : table.getByTokenHash users tokenHash = .ok session) :
    session.tokenHash = tokenHash ∧ session.row ∈ table.rowSet ∧
      ∃ user ∈ users.rows, user.id = session.userID ∧ user.email = session.userEmail := by
  unfold getByTokenHash at found
  split at found
  · cases found
  · rename_i row selected
    split at found
    · cases found
    · rename_i user joined
      cases found
      have hash := List.find?_some selected
      have owner := List.find?_some joined
      simp only [decide_eq_true_eq] at hash owner
      exact ⟨hash, ⟨row, List.mem_of_find?_eq_some selected, rfl⟩, user,
        List.mem_of_find?_eq_some joined, owner, rfl⟩

theorem hash_injective (table : SessionTable) {first second : Session} (left : first ∈ table.rows)
    (right : second ∈ table.rows) (same : first.tokenHash = second.tokenHash) : first = second :=
  List.inj_on_of_nodup_map table.uniqueHash left right same

theorem id_injective (table : SessionTable) {first second : Session} (left : first ∈ table.rows)
    (right : second ∈ table.rows) (same : first.id = second.id) : first = second :=
  List.inj_on_of_nodup_map table.uniqueID left right same

/-- A delete by identifier removes the one row with the reported token hash. -/
theorem deleteByID_ok {sessionID userID tokenHash : String}
    (deleted : table.deleteByID db sessionID userID = (.ok tokenHash, next)) :
    (∃ row ∈ table.rowSet, row.tokenHash = tokenHash ∧ row.userID = userID) ∧
      next.rowSet = without table.rowSet tokenHash := by
  unfold deleteByID at deleted
  split at deleted
  · cases deleted
  · rename_i id _
    split at deleted
    · cases deleted
    · rename_i row selected
      cases deleted
      have member := List.mem_of_find?_eq_some selected
      have matched := List.find?_some selected
      simp only [Bool.and_eq_true, decide_eq_true_eq] at matched
      refine ⟨⟨row.row, ⟨row, member, rfl⟩, rfl, matched.2⟩, ?_⟩
      apply rowSet_deleteWhere _ (fun kept => kept.tokenHash = row.tokenHash)
      intro session other
      simp only [Bool.and_eq_true, decide_eq_true_eq, Session.row_tokenHash]
      constructor
      · rintro ⟨same, _⟩
        rw [table.id_injective other member (same.trans matched.1.symm)]
      · intro same
        rw [table.hash_injective other member same]
        exact matched

theorem deleteByID_error {sessionID userID : String} {error : StoreError}
    (refused : table.deleteByID db sessionID userID = (.error error, next)) : next = table := by
  unfold deleteByID at refused
  repeat' split at refused
  all_goals cases refused
  all_goals rfl

/-- A bulk delete either removes every selected row or fails and removes none. -/
theorem deleteReturning_cases {choice : Choice} {selected : Session → Bool}
    {reply : List String × Option StoreError}
    (deleted : table.deleteReturning choice selected = some (reply, next)) :
    (choice.fails = false ∧ reply = ((table.rows.filter selected).map Session.tokenHash, none) ∧
      next = table.deleteWhere selected) ∨
    (choice.fails = true ∧ reply.2 = some .other ∧ next = table) := by
  unfold deleteReturning at deleted
  cases fails : choice.fails with
  | false =>
      simp only [fails, Bool.false_eq_true, if_false, Option.some.injEq, Prod.mk.injEq] at deleted
      exact .inl ⟨rfl, deleted.1.symm, deleted.2.symm⟩
  | true =>
      simp only [fails, if_true, Option.ite_none_right_eq_some, Option.some.injEq,
        Prod.mk.injEq] at deleted
      obtain ⟨_, rfl, rfl⟩ := deleted
      exact .inr ⟨rfl, rfl, rfl⟩

/-- A bulk delete that does not fail removes the selected rows and returns their token hashes. -/
theorem deleteReturning_spec (selected : Session → Bool) (condition : Row → Prop)
    (agrees : ∀ session ∈ table.rows, selected session = true ↔ condition session.row)
    {choice : Choice} (reliable : choice.fails = false) {reply : List String × Option StoreError}
    (deleted : table.deleteReturning choice selected = some (reply, next)) :
    reply.2 = none ∧ next.rowSet = {row ∈ table.rowSet | ¬ condition row} ∧
      ∀ tokenHash, tokenHash ∈ reply.1 ↔
        ∃ row ∈ table.rowSet, condition row ∧ row.tokenHash = tokenHash := by
  obtain ⟨_, rfl, rfl⟩ | ⟨fails, _⟩ := deleteReturning_cases deleted
  · refine ⟨rfl, rowSet_deleteWhere selected condition agrees, ?_⟩
    intro tokenHash
    simp only [List.mem_map, List.mem_filter, rowSet, Set.mem_ofPred_eq]
    constructor
    · rintro ⟨session, ⟨member, chosen⟩, same⟩
      exact ⟨session.row, ⟨session, member, rfl⟩, (agrees session member).mp chosen, same⟩
    · rintro ⟨row, ⟨session, member, rfl⟩, holds, same⟩
      exact ⟨session, ⟨member, (agrees session member).mpr holds⟩, same⟩
  · rw [reliable] at fails
    cases fails

/-- Each call has the effect that its reply tells. -/
theorem exec_effect (command : SessionCommand) (choice : Choice) (reply : command.Reply)
    (executed : table.exec db command choice users now = some (reply, next)) :
    command.Effect db.stored table.rowSet next.rowSet reply := by
  cases command with
  | create session =>
      simp only [exec] at executed
      split at executed
      · cases executed
        rfl
      · cases reply with
        | ok created => exact create_ok executed
        | error error => exact congrArg rowSet (create_error executed)
  | getByTokenHash tokenHash =>
      simp only [exec, Option.some.injEq, Prod.mk.injEq] at executed
      obtain ⟨replied, rfl⟩ := executed
      cases reply with
      | error error => rfl
      | ok session =>
          split at replied
          · cases replied
          · obtain ⟨hash, member, _⟩ := getByTokenHash_ok replied
            exact ⟨rfl, member, hash⟩
  | deleteByID sessionID userID =>
      simp only [exec, Option.some.injEq] at executed
      split at executed
      · cases executed
        rfl
      · cases reply with
        | ok tokenHash => exact deleteByID_ok executed
        | error error => exact congrArg rowSet (deleteByID_error executed)
  | deleteByTokenHash tokenHash =>
      simp only [exec, Option.some.injEq] at executed
      split at executed
      · cases executed
        rfl
      · cases executed
        exact rowSet_deleteByTokenHash tokenHash
  | rotateToken oldHash session =>
      cases reply with
      | ok created => exact rotateToken_ok executed
      | error error => exact congrArg rowSet (rotateToken_error executed)
  | deleteAllByUserID userID =>
      obtain ⟨hashes, error⟩ := reply
      obtain ⟨reliable, _⟩ | ⟨_, failed, rfl⟩ := deleteReturning_cases executed
      · obtain ⟨rfl, rows, returned⟩ :=
          deleteReturning_spec _ (fun row => row.userID = userID) (by simp) reliable executed
        exact ⟨rows, returned⟩
      · obtain rfl := failed
        rfl
  | deleteAllByUserIDExcept userID keepTokenHash =>
      obtain ⟨_, rfl, rfl⟩ | ⟨_, failed, rfl⟩ := deleteReturning_cases executed
      · refine ⟨?_, ?_, ?_⟩
        · rintro row ⟨session, member, rfl⟩
          exact ⟨session, List.mem_of_mem_filter member, rfl⟩
        · rintro row ⟨session, member, rfl⟩ other
          refine ⟨session, List.mem_filter.mpr ⟨member, ?_⟩, rfl⟩
          have different : session.userID ≠ userID := other
          unfold exceptCondition
          split <;> simp [different]
        · rintro row ⟨session, member, rfl⟩ owner
          have kept := (List.mem_filter.mp member).2
          have same : session.userID = userID := owner
          unfold exceptCondition at kept
          split at kept
          · simp [same] at kept
          · simpa [same] using kept
      · obtain ⟨hashes, error⟩ := reply
        obtain rfl := failed
        rfl
  | listByUserID userID =>
      simp only [exec, Option.some.injEq, Prod.mk.injEq] at executed
      obtain ⟨_, rfl⟩ := executed
      rfl

section Total
variable {id oldHash : String} {session : Session}

/-- An unused identifier always lets the insertion return. -/
theorem create_total (unused : id ∉ table.rows.map Session.id) :
    ∃ reply next, table.create db users now id session = some (reply, next) ∧
      reply ≠ .error .sessionNotFound := by
  unfold create
  split
  · exact ⟨_, _, rfl, nofun⟩
  · exact ⟨_, _, rfl, nofun⟩

/-- An accepted session with an unused identifier is inserted. -/
theorem create_stored (accepted : table.accepts users session = true) (unused : id ∉ table.rows.map Session.id) :
    ∃ next, table.create db users now id session =
        some (.ok { session with id, lastUsedAt := now, createdAt := now }, next) ∧
      next.rows = newRow db id now session :: table.rows := by
  rw [create, dif_pos accepted, dif_neg unused]
  exact ⟨_, rfl, rfl⟩

theorem create_unstored (refused : table.accepts users session = false) :
    table.create db users now id session = some (.error .other, table) := by
  rw [create, dif_neg (by rw [refused]; exact Bool.false_ne_true)]

/-- The insertion of a new hash for a known user succeeds exactly when the columns can hold its texts. -/
theorem create_isOk {reply : Except StoreError Session} (known : session.userID ∈ users.rows.map User.id)
    (unused : session.tokenHash ∉ table.rows.map Session.tokenHash)
    (created : table.create db users now id session = some (reply, next)) :
    reply.isOk = (storable session.deviceID && storable session.userAgent && storable session.ipAddress) := by
  have accepts : table.accepts users session =
      (storable session.deviceID && storable session.userAgent && storable session.ipAddress) := by
    simp only [SessionTable.accepts, List.contains_eq_mem, known, unused, decide_true, decide_false, Bool.not_false,
      Bool.true_and]
  rw [← accepts]
  unfold create at created
  split at created
  · rename_i accepted
    split at created
    · cases created
    · cases created
      exact accepted.symm
  · rename_i refused
    cases created
    exact (Bool.eq_false_iff.mpr refused).symm

theorem rotateToken_absent (absent : oldHash ∉ table.rows.map Session.tokenHash) :
    table.rotateToken db none users now id oldHash session = some (.error .sessionNotFound, table) := by
  simp only [rotateToken, reduceCtorEq, or_self, if_false, if_pos absent]

/-- The rotation of a row that is there is not refused as unknown. -/
theorem rotateToken_present (unused : id ∉ table.rows.map Session.id)
    (present : oldHash ∈ table.rows.map Session.tokenHash) :
    ∃ reply next, table.rotateToken db none users now id oldHash session = some (reply, next) ∧
      reply ≠ .error .sessionNotFound := by
  have unused' : id ∉ (table.deleteByTokenHash oldHash).rows.map Session.id :=
    fun member => unused ((List.filter_sublist.map _).subset member)
  obtain ⟨reply, next, inserted, known⟩ :
      ∃ reply next, (table.deleteByTokenHash oldHash).create db users now id session = some (reply, next) ∧
        reply ≠ .error .sessionNotFound := create_total unused'
  simp only [rotateToken, reduceCtorEq, or_self, if_false, not_not.mpr present, inserted]
  cases reply with
  | error error => exact ⟨_, _, rfl, known⟩
  | ok created => exact ⟨_, _, rfl, nofun⟩

theorem rotateToken_total (unused : id ∉ table.rows.map Session.id) :
    ∃ reply next, table.rotateToken db none users now id oldHash session = some (reply, next) := by
  by_cases present : oldHash ∈ table.rows.map Session.tokenHash
  · obtain ⟨reply, next, rotated, _⟩ := rotateToken_present unused present
    exact ⟨reply, next, rotated⟩
  · exact ⟨_, _, rotateToken_absent present⟩

theorem deleteByTokenHash_absent (absent : oldHash ∉ table.rows.map Session.tokenHash) :
    (table.deleteByTokenHash oldHash).rows = table.rows := by
  refine List.filter_eq_self.mpr ?_
  intro row member
  simp only [Bool.not_eq_true', decide_eq_false_iff_not]
  rintro rfl
  exact absent (List.mem_map.mpr ⟨row, member, rfl⟩)

theorem getByTokenHash_absent (absent : oldHash ∉ table.rows.map Session.tokenHash) :
    table.getByTokenHash users oldHash = .error .sessionNotFound := by
  have none : (table.rows.find? fun row => row.tokenHash = oldHash) = none := by
    rw [List.find?_eq_none]
    intro row member same
    exact absent (List.mem_map.mpr ⟨row, member, of_decide_eq_true same⟩)
  rw [getByTokenHash, none]

theorem getByTokenHash_error {error : StoreError} (refused : table.getByTokenHash users oldHash = .error error) :
    error = .sessionNotFound := by
  unfold getByTokenHash at refused
  split at refused
  · cases refused
    rfl
  · split at refused
    · cases refused
      rfl
    · cases refused

/-- A row whose user is known is found. -/
theorem getByTokenHash_present (present : oldHash ∈ table.rows.map Session.tokenHash)
    (owned : ∀ row ∈ table.rows, row.tokenHash = oldHash → ∃ user ∈ users.rows, user.id = row.userID) :
    ∃ found, table.getByTokenHash users oldHash = .ok found := by
  obtain ⟨row, member, same⟩ := List.mem_map.mp present
  unfold getByTokenHash
  split
  · rename_i none
    exact absurd (decide_eq_true same) (List.find?_eq_none.mp none row member)
  · rename_i found selected
    obtain ⟨user, inside, identity⟩ := owned found (List.mem_of_find?_eq_some selected)
      (of_decide_eq_true (List.find?_some selected :))
    split
    · rename_i none
      exact absurd (decide_eq_true identity) (List.find?_eq_none.mp none user inside)
    · exact ⟨_, rfl⟩

end Total
end SessionTable

instance (db : Database) : (postgres db).Lawful where
  stored := db.stored
  Inv := fun _ => True
  empty_inv := trivial
  empty_rows := rfl
  keyed := fun table _ => SessionTable.uniqueHash table
  exec := fun command choice _ _ _ _ reply _ _ executed =>
    ⟨trivial, SessionTable.exec_effect command choice reply executed⟩

end AuthService
