/-
This file proves which sessions a call on the session store leaves as they were.
-/

import AuthService.Proof.CacheConduct
import AuthService.Proof.Ledger

namespace AuthService
open Interleaving

namespace SessionCommand

/-- The rows that a call may remove. -/
def Targets : SessionCommand → Row → Prop
  | .deleteByTokenHash tokenHash, row => row.tokenHash = tokenHash
  | .rotateToken oldHash _, row => row.tokenHash = oldHash
  | .deleteByID _ userID, row => row.userID = userID
  | .deleteAllByUserID userID, row => row.userID = userID
  | .deleteAllByUserIDExcept userID _, row => row.userID = userID
  | _, _ => False

/-- A row that is not a target stays. -/
theorem Effect.kept {stored : Time → Time} {before after : Set Row} {command : SessionCommand}
    {reply : command.Reply} (effect : command.Effect stored before after reply)
    (unique : ∀ row ∈ before, ∀ other ∈ before, row.tokenHash = other.tokenHash → row = other) {row : Row}
    (member : row ∈ before) (spared : ¬ command.Targets row) : row ∈ after := by
  have kept (same : after = before) : row ∈ after := same ▸ member
  cases command with
  | create session =>
      cases reply with
      | error error => exact kept effect
      | ok created =>
          obtain ⟨_, rfl⟩ := effect
          exact .inr member
  | getByTokenHash tokenHash =>
      cases reply with
      | error error => exact kept effect
      | ok session => exact kept effect.1
  | deleteByID sessionID userID =>
      cases reply with
      | error error => exact kept effect
      | ok tokenHash =>
          obtain ⟨⟨deleted, inside, rfl, owner⟩, rfl⟩ := effect
          refine ⟨member, fun same => spared ?_⟩
          rw [unique row member deleted inside same]
          exact owner
  | deleteByTokenHash tokenHash =>
      cases reply with
      | error error => exact kept effect
      | ok _ =>
          obtain rfl := effect
          exact ⟨member, spared⟩
  | rotateToken oldHash session =>
      cases reply with
      | error error => exact kept effect
      | ok created =>
          obtain ⟨_, _, rfl⟩ := effect
          exact .inr ⟨member, spared⟩
  | deleteAllByUserID userID =>
      obtain ⟨hashes, _ | error⟩ := reply
      · obtain ⟨rfl, _⟩ := effect
        exact ⟨member, spared⟩
      · exact kept effect
  | deleteAllByUserIDExcept userID keepTokenHash =>
      obtain ⟨hashes, _ | error⟩ := reply
      · exact effect.2.1 row member spared
      · exact kept effect
  | listByUserID userID => exact kept effect

/-- Every deletion but one returns the token hashes of the rows that it removes. -/
theorem Effect.gone {stored : Time → Time} {before after : Set Row} {command : SessionCommand}
    {reply : command.Reply} (effect : command.Effect stored before after reply) {row : Row} (member : row ∈ before)
    (absent : row ∉ after) (listed : ∀ userID keepTokenHash, command ≠ .deleteAllByUserIDExcept userID keepTokenHash) :
    row.tokenHash ∈ removed ⟨.sessions command, reply⟩ := by
  have kept (same : after = before) : row.tokenHash ∈ removed ⟨.sessions command, reply⟩ :=
    absurd (same ▸ member) absent
  cases command with
  | create session =>
      cases reply with
      | error error => exact kept effect
      | ok created =>
          obtain ⟨_, rfl⟩ := effect
          exact absurd (.inr member) absent
  | getByTokenHash tokenHash =>
      cases reply with
      | error error => exact kept effect
      | ok session => exact kept effect.1
  | deleteByID sessionID userID =>
      cases reply with
      | error error => exact kept effect
      | ok tokenHash =>
          obtain ⟨_, rfl⟩ := effect
          exact List.mem_singleton.mpr (by_contra fun other => absent ⟨member, other⟩)
  | deleteByTokenHash tokenHash =>
      cases reply with
      | error error => exact kept effect
      | ok _ =>
          obtain rfl := effect
          exact List.mem_singleton.mpr (by_contra fun other => absent ⟨member, other⟩)
  | rotateToken oldHash session =>
      cases reply with
      | error error => exact kept effect
      | ok created =>
          obtain ⟨_, _, rfl⟩ := effect
          exact List.mem_singleton.mpr (by_contra fun other => absent (.inr ⟨member, other⟩))
  | deleteAllByUserID userID =>
      obtain ⟨hashes, _ | error⟩ := reply
      · obtain ⟨rfl, returned⟩ := effect
        exact (returned _).mpr ⟨row, member, by_contra fun other => absent ⟨member, other⟩, rfl⟩
      · exact kept effect
  | deleteAllByUserIDExcept userID keepTokenHash => exact absurd rfl (listed userID keepTokenHash)
  | listByUserID userID => exact kept effect

/-- A call that does not write keeps the rows. -/
theorem Effect.of_read {stored : Time → Time} {before after : Set Row} {command : SessionCommand}
    {reply : command.Reply} (effect : command.Effect stored before after reply)
    (reads : (Command.sessions command).writes = false) : after = before := by
  cases command with
  | getByTokenHash tokenHash =>
      cases reply with
      | error error => exact effect
      | ok session => exact effect.1
  | listByUserID userID => exact effect
  | _ => cases reads

end SessionCommand

/-- A token hash belongs to one row. -/
theorem SessionStore.rowSet_unique {store : SessionStore} [lawful : store.Lawful] {state : store.State}
    (inv : lawful.Inv state) : ∀ row ∈ store.rowSet state, ∀ other ∈ store.rowSet state,
      row.tokenHash = other.tokenHash → row = other := by
  rintro _ ⟨session, member, rfl⟩ _ ⟨other, member', rfl⟩ same
  rw [List.inj_on_of_nodup_map (lawful.keyed state inv) member member' same]

/-- A whole record of the store after a call was there before, was created by the call, or was read by it. -/
def Inherited (command : SessionCommand) (before : List Session) (session : Session) : Prop :=
  session ∈ before ∨ (∃ new, command.newSession = some new ∧ session.userID = new.userID) ∨
    command = .getByTokenHash session.tokenHash

namespace MemoryState
variable {state next : MemoryState}

/-- Records were only taken out of the indexes. -/
structure Shrinks (state next : MemoryState) : Prop where
  heap : next.heap = state.heap
  byID : ∀ id address, next.byID.lookup id = some address → state.byID.lookup id = some address

theorem Shrinks.mem_rows (shrinks : state.Shrinks next) {session : Session} (member : session ∈ next.rows) :
    session ∈ state.rows := by
  obtain ⟨id, address, found, rfl⟩ := (MemoryState.mem_rows session).mp member
  exact (MemoryState.mem_rows _).mpr ⟨id, address, shrinks.byID id address found, by rw [shrinks.heap]⟩

theorem Shrinks.refl (state : MemoryState) : state.Shrinks state := ⟨rfl, fun _ _ found => found⟩

theorem shrinks_erase (state : MemoryState) (id : String) (byHash : Index) :
    state.Shrinks { state with byID := state.byID.erase id, byHash } := by
  refine ⟨rfl, fun key address found => ?_⟩
  by_cases same : key = id
  · subst same
    rw [AList.lookup_erase] at found
    cases found
  · rwa [AList.lookup_erase_ne same] at found

theorem Shrinks.trans {last : MemoryState} (first : state.Shrinks next) (second : next.Shrinks last) :
    state.Shrinks last :=
  ⟨second.heap.trans first.heap, fun id address found => first.byID id address (second.byID id address found)⟩

theorem shrinks_deleteByTokenHash (tokenHash : String) : state.Shrinks (state.deleteByTokenHash tokenHash) := by
  unfold deleteByTokenHash
  split
  · exact .refl state
  · exact shrinks_erase state _ _

theorem shrinks_deleteByID {sessionID userID : String} {reply : Except StoreError String}
    (deleted : state.deleteByID sessionID userID = (reply, next)) : state.Shrinks next := by
  unfold deleteByID at deleted
  split at deleted
  · cases deleted
    exact .refl state
  · dsimp only at deleted
    split at deleted
    · cases deleted
      exact .refl state
    · cases deleted
      exact shrinks_erase state _ _

theorem shrinks_foldl_sweepStep (selected : Session → Bool) (order : List String) (result : List String × MemoryState) :
    result.2.Shrinks (order.foldl (sweepStep selected) result).2 := by
  induction order generalizing result with
  | nil => exact .refl result.2
  | cons id order ih =>
      refine Shrinks.trans ?_ (ih (sweepStep selected result id))
      unfold sweepStep
      split
      · exact .refl result.2
      · dsimp only
        split
        · exact shrinks_erase result.2 _ _
        · exact .refl result.2

theorem shrinks_sweep {order : List String} {selected : Session → Bool} {reply : List String × Option StoreError}
    (swept : state.sweep order selected = some (reply, next)) : state.Shrinks next := by
  unfold sweep at swept
  split at swept
  · cases swept
    exact shrinks_foldl_sweepStep selected order ([], state)
  · cases swept

theorem create_inherited (consistent : state.Consistent) {id : String} {now : Time} {given session : Session}
    {reply : Except StoreError Session} (created : state.create id now given = some (reply, next))
    (member : session ∈ next.rows) : session ∈ state.rows ∨ session.userID = given.userID := by
  unfold create at created
  split at created
  · cases created
  · cases created
    obtain ⟨key, address, found, rfl⟩ := (mem_rows session).mp member
    simp only [store] at found ⊢
    by_cases same : key = (stamped id now given).id
    · subst same
      rw [AList.lookup_insert, Option.some.injEq] at found
      subst found
      rw [Function.update_self]
      exact .inr rfl
    · rw [AList.lookup_insert_ne same] at found
      have older : address ≠ state.next := by
        have bound := (consistent.byID key address found).1
        omega
      rw [Function.update_of_ne older]
      exact .inl ((mem_rows _).mpr ⟨key, address, found, rfl⟩)

theorem exec_inherited {command : SessionCommand} {choice : Choice} {users : UserTable} {now : Time}
    {reply : command.Reply} (consistent : state.Consistent)
    (executed : exec command choice users now state = some (reply, next)) {session : Session}
    (member : session ∈ next.rows) : Inherited command state.rows session := by
  cases command with
  | create given =>
      exact (create_inherited consistent executed member).imp_right fun owner => .inl ⟨given, rfl, owner⟩
  | getByTokenHash tokenHash =>
      simp only [exec, getByTokenHash, Option.some.injEq] at executed
      split at executed
      · cases executed
        exact .inl member
      · rename_i address found
        cases executed
        obtain ⟨id, other, present, rfl⟩ := (mem_rows session).mp member
        by_cases same : other = address
        · subst same
          refine .inr (.inr ?_)
          simp only [Function.update_self]
          rw [(consistent.byHash tokenHash other found).1]
        · simp only [Function.update_of_ne same]
          exact .inl ((mem_rows _).mpr ⟨id, other, present, rfl⟩)
  | deleteByID sessionID userID =>
      simp only [exec, Option.some.injEq] at executed
      exact .inl ((shrinks_deleteByID executed).mem_rows member)
  | deleteByTokenHash tokenHash =>
      cases executed
      exact .inl ((shrinks_deleteByTokenHash tokenHash).mem_rows member)
  | rotateToken oldHash given =>
      simp only [exec, rotateToken] at executed
      split at executed
      · cases executed
        exact .inl member
      · have kept := (deleteByTokenHash_consistent consistent oldHash).1
        rcases create_inherited kept executed member with before | owner
        · exact .inl ((shrinks_deleteByTokenHash oldHash).mem_rows before)
        · exact .inr (.inl ⟨given, rfl, owner⟩)
  | deleteAllByUserID userID => exact .inl ((shrinks_sweep executed).mem_rows member)
  | deleteAllByUserIDExcept userID keepTokenHash => exact .inl ((shrinks_sweep executed).mem_rows member)
  | listByUserID userID =>
      simp only [exec, listByUserID] at executed
      split at executed
      · cases executed
        exact .inl member
      · cases executed

/-- The returned token hashes belong to rows of the user. -/
theorem exec_listed {command : SessionCommand} {choice : Choice} {users : UserTable} {now : Time}
    {reply : command.Reply} (consistent : state.Consistent)
    (executed : exec command choice users now state = some (reply, next)) {userID tokenHash : String}
    (lists : Lists ⟨.sessions command, reply⟩ userID tokenHash) :
    ∃ row ∈ state.rowSet, row.userID = userID ∧ row.tokenHash = tokenHash := by
  cases command with
  | deleteByID sessionID owner =>
      cases reply with
      | error error => exact lists.elim
      | ok deleted =>
          obtain ⟨rfl, rfl⟩ := lists
          simp only [exec, Option.some.injEq] at executed
          obtain ⟨row, member, hash, same⟩ := (deleteByID_cases consistent executed).2.1
          exact ⟨row, member, same, hash⟩
  | deleteAllByUserID owner =>
      obtain ⟨rfl, member⟩ := lists
      exact ((sweep_spec _ (fun row => row.userID = owner) (by simp) consistent executed).2.2.2 tokenHash).mp member
  | deleteAllByUserIDExcept owner keepTokenHash =>
      obtain ⟨rfl, member⟩ := lists
      obtain ⟨row, inside, ⟨same, _⟩, hash⟩ := ((sweep_spec _
        (fun row => row.userID = owner ∧ row.tokenHash ≠ keepTokenHash) (by simp) consistent executed).2.2.2
        tokenHash).mp member
      exact ⟨row, inside, same, hash⟩
  | _ => exact lists.elim

/-- A sweep returns the token hash of every record that it removes. -/
theorem sweep_removed {selected : Session → Bool} (condition : Row → Prop)
    (agrees : ∀ session, selected session = true ↔ condition session.row) (consistent : state.Consistent)
    {order : List String} {reply : List String × Option StoreError}
    (swept : state.sweep order selected = some (reply, next)) {row : Row} (member : row ∈ state.rowSet)
    (absent : row ∉ next.rowSet) : reply.2 = none ∧ row.tokenHash ∈ reply.1 := by
  obtain ⟨succeeded, _, rows, returned⟩ := sweep_spec selected condition agrees consistent swept
  rw [rows] at absent
  exact ⟨succeeded, (returned _).mpr ⟨row, member, by_contra fun spared => absent ⟨member, spared⟩, rfl⟩⟩

/-- A list holds records of the user. -/
theorem listByUserID_ok {order : List String} {userID : String} {sessions : List Session}
    (listed : state.listByUserID order userID = some (.ok sessions, next)) {session : Session}
    (member : session ∈ sessions) : session ∈ state.rows ∧ session.userID = userID := by
  unfold listByUserID at listed
  split at listed
  · cases listed
    obtain ⟨inside, owner⟩ := List.mem_filter.mp member
    obtain ⟨id, _, found⟩ := List.mem_filterMap.mp inside
    obtain ⟨address, present, same⟩ := Option.map_eq_some_iff.mp found
    exact ⟨(mem_rows session).mpr ⟨id, address, present, same⟩, of_decide_eq_true owner⟩
  · cases listed

end MemoryState

namespace SessionTable
variable {db : Database} {users : UserTable} {now : Time} {table next : SessionTable}

theorem create_inherited {id : String} {given session : Session} {reply : Except StoreError Session}
    (created : table.create db users now id given = some (reply, next)) (member : session ∈ next.rows) :
    session ∈ table.rows ∨ session.userID = given.userID := by
  unfold create at created
  split at created
  · split at created
    · cases created
    · cases created
      rcases List.mem_cons.mp member with rfl | inside
      · exact .inr rfl
      · exact .inl inside
  · cases created
    exact .inl member

theorem mem_of_deleteWhere {selected : Session → Bool} {session : Session}
    (member : session ∈ (table.deleteWhere selected).rows) : session ∈ table.rows := List.mem_of_mem_filter member

theorem deleteReturning_inherited {choice : Choice} {selected : Session → Bool} {session : Session}
    {reply : List String × Option StoreError}
    (deleted : table.deleteReturning choice selected = some (reply, next)) (member : session ∈ next.rows) :
    session ∈ table.rows := by
  obtain ⟨_, _, rfl⟩ | ⟨_, _, rfl⟩ := deleteReturning_cases deleted
  · exact mem_of_deleteWhere member
  · exact member

theorem exec_inherited {command : SessionCommand} {choice : Choice} {reply : command.Reply}
    (executed : table.exec db command choice users now = some (reply, next)) {session : Session}
    (member : session ∈ next.rows) : Inherited command table.rows session := by
  cases command with
  | create given =>
      simp only [exec] at executed
      split at executed
      · cases executed
        exact .inl member
      · exact (create_inherited executed member).imp_right fun owner => .inl ⟨given, rfl, owner⟩
  | getByTokenHash tokenHash =>
      cases executed
      exact .inl member
  | deleteByID sessionID userID =>
      simp only [exec, deleteByID, Option.some.injEq] at executed
      repeat' split at executed
      all_goals cases executed
      · exact .inl member
      · exact .inl member
      · exact .inl member
      · exact .inl (mem_of_deleteWhere member)
  | deleteByTokenHash tokenHash =>
      simp only [exec, Option.some.injEq] at executed
      split at executed
      · cases executed
        exact .inl member
      · cases executed
        exact .inl (mem_of_deleteWhere member)
  | rotateToken oldHash given =>
      cases reply with
      | error error =>
          rw [rotateToken_error executed] at member
          exact .inl member
      | ok created =>
          rcases create_inherited (rotateToken_inserted executed).2 member with before | owner
          · exact .inl (mem_of_deleteWhere before)
          · exact .inr (.inl ⟨given, rfl, owner⟩)
  | deleteAllByUserID userID => exact .inl (deleteReturning_inherited executed member)
  | deleteAllByUserIDExcept userID keepTokenHash => exact .inl (deleteReturning_inherited executed member)
  | listByUserID userID =>
      cases executed
      exact .inl member

/-- The hashes of a bulk delete belong to selected rows, also when it fails. -/
theorem deleteReturning_listed {choice : Choice} {selected : Session → Bool} {reply : List String × Option StoreError}
    (deleted : table.deleteReturning choice selected = some (reply, next)) {tokenHash : String}
    (listed : tokenHash ∈ reply.1) :
    ∃ session ∈ table.rows, selected session = true ∧ session.tokenHash = tokenHash := by
  have inside : tokenHash ∈ (table.rows.filter selected).map Session.tokenHash := by
    unfold deleteReturning at deleted
    dsimp only at deleted
    split at deleted
    · split at deleted
      · rename_i read
        cases deleted
        exact (List.isPrefixOf_iff_prefix.mp read).subset listed
      · cases deleted
    · cases deleted
      exact listed
  obtain ⟨session, member, same⟩ := List.mem_map.mp inside
  exact ⟨session, (List.mem_filter.mp member).1, (List.mem_filter.mp member).2, same⟩

/-- A bulk delete returns the token hash of every row that it removes. -/
theorem deleteReturning_removed {choice : Choice} {selected : Session → Bool}
    {reply : List String × Option StoreError} (deleted : table.deleteReturning choice selected = some (reply, next))
    {row : Row} (member : row ∈ table.rowSet) (absent : row ∉ next.rowSet) :
    reply.2 = none ∧ row.tokenHash ∈ reply.1 := by
  obtain ⟨session, inside, rfl⟩ := member
  obtain ⟨_, rfl, rfl⟩ | ⟨_, _, rfl⟩ := deleteReturning_cases deleted
  · refine ⟨rfl, List.mem_map.mpr ⟨session, List.mem_filter.mpr ⟨inside, ?_⟩, rfl⟩⟩
    by_contra spared
    exact absent ⟨session, List.mem_filter.mpr ⟨inside, by simpa using spared⟩, rfl⟩
  · exact absurd ⟨session, inside, rfl⟩ absent

theorem exceptCondition_owner {userID keepTokenHash : String} {row : Session}
    (selected : exceptCondition userID keepTokenHash row = true) : row.userID = userID := by
  unfold exceptCondition at selected
  split at selected
  · exact of_decide_eq_true selected
  · exact of_decide_eq_true (Bool.and_eq_true_iff.mp selected).1

theorem exec_listed {command : SessionCommand} {choice : Choice} {reply : command.Reply}
    (executed : table.exec db command choice users now = some (reply, next)) {userID tokenHash : String}
    (lists : Lists ⟨.sessions command, reply⟩ userID tokenHash) :
    ∃ row ∈ table.rowSet, row.userID = userID ∧ row.tokenHash = tokenHash := by
  cases command with
  | deleteByID sessionID owner =>
      cases reply with
      | error error => exact lists.elim
      | ok deleted =>
          obtain ⟨rfl, rfl⟩ := lists
          simp only [exec, Option.some.injEq] at executed
          split at executed
          · cases executed
          · obtain ⟨row, member, hash, same⟩ := (deleteByID_ok executed).1
            exact ⟨row, member, same, hash⟩
  | deleteAllByUserID owner =>
      obtain ⟨rfl, member⟩ := lists
      obtain ⟨session, inside, selected, same⟩ := deleteReturning_listed executed member
      exact ⟨session.row, ⟨session, inside, rfl⟩, of_decide_eq_true selected, same⟩
  | deleteAllByUserIDExcept owner keepTokenHash =>
      obtain ⟨rfl, member⟩ := lists
      obtain ⟨session, inside, selected, same⟩ := deleteReturning_listed executed member
      exact ⟨session.row, ⟨session, inside, rfl⟩, exceptCondition_owner selected, same⟩
  | _ => exact lists.elim

theorem mem_listByUserID {userID : String} {session : Session} (member : session ∈ table.listByUserID userID) :
    session ∈ table.rows ∧ session.userID = userID := by
  obtain ⟨inside, owner⟩ := List.mem_filter.mp (List.mem_mergeSort.mp member)
  exact ⟨inside, of_decide_eq_true owner⟩

end SessionTable

namespace Backend
variable {backend : Backend} {command : SessionCommand} {choice : Choice} {users : UserTable} {now : Time}
variable {state next : backend.store.State} {reply : command.Reply}

theorem exec_inherited (inv : SessionStore.Lawful.Inv state)
    (executed : backend.store.exec command choice users now state = some (reply, next)) {session : Session}
    (member : session ∈ backend.store.rows next) : Inherited command (backend.store.rows state) session := by
  cases backend with
  | memory => exact MemoryState.exec_inherited inv executed member
  | postgres db => exact SessionTable.exec_inherited executed member

theorem exec_listed (inv : SessionStore.Lawful.Inv state)
    (executed : backend.store.exec command choice users now state = some (reply, next)) {userID tokenHash : String}
    (lists : Lists ⟨.sessions command, reply⟩ userID tokenHash) :
    ∃ row ∈ backend.store.rowSet state, row.userID = userID ∧ row.tokenHash = tokenHash := by
  cases backend with
  | memory => exact MemoryState.exec_listed inv executed lists
  | postgres db => exact SessionTable.exec_listed executed lists

/-- The call returns the token hashes of the rows that it removes. -/
theorem exec_removed (inv : SessionStore.Lawful.Inv state)
    (executed : backend.store.exec command choice users now state = some (reply, next))
    {stored : Time → Time}
    (effect : command.Effect stored (backend.store.rowSet state) (backend.store.rowSet next) reply) {row : Row}
    (member : row ∈ backend.store.rowSet state) (absent : row ∉ backend.store.rowSet next) :
    row.tokenHash ∈ removed ⟨.sessions command, reply⟩ := by
  by_cases others : ∃ userID keepTokenHash, command = .deleteAllByUserIDExcept userID keepTokenHash
  · obtain ⟨userID, keepTokenHash, rfl⟩ := others
    have returned : reply.2 = none ∧ row.tokenHash ∈ reply.1 := by
      cases backend with
      | memory =>
          exact MemoryState.sweep_removed (fun row => row.userID = userID ∧ row.tokenHash ≠ keepTokenHash)
            (by simp) inv executed member absent
      | postgres db => exact SessionTable.deleteReturning_removed executed member absent
    obtain ⟨hashes, error⟩ := reply
    obtain rfl : error = none := returned.1
    exact returned.2
  · exact effect.gone member absent fun userID keepTokenHash same => others ⟨userID, keepTokenHash, same⟩

theorem exec_list {userID : String} {sessions : List Session}
    (executed : backend.store.exec (.listByUserID userID) choice users now state = some (.ok sessions, next))
    {session : Session} (member : session ∈ sessions) :
    session ∈ backend.store.rows state ∧ session.userID = userID := by
  cases backend with
  | memory => exact MemoryState.listByUserID_ok executed member
  | postgres db =>
      have replied := congrArg Prod.fst (Option.some.inj executed)
      dsimp only at replied
      split at replied
      · cases replied
      · cases replied
        exact SessionTable.mem_listByUserID member

end Backend
end AuthService
