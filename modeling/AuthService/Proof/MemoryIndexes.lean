/-
This file proves that the two indexes of the in-memory session store always describe the same records, and what a bulk
delete leaves in them.
-/

import AuthService.Proof.MemoryRows

namespace AuthService
namespace MemoryState

/-- The record that an identifier leads to. -/
def recordByID (state : MemoryState) (id : String) : Option Session := (state.byID.lookup id).map state.heap

/-- The record that a token hash leads to. -/
def recordByHash (state : MemoryState) (tokenHash : String) : Option Session :=
  (state.byHash.lookup tokenHash).map state.heap

/-- A record that one index leads to has its key there, and the other index leads to it with the same contents. -/
structure SameRecords (state : MemoryState) : Prop where
  byID : ∀ id session, state.recordByID id = some session →
    session.id = id ∧ state.recordByHash session.tokenHash = some session
  byHash : ∀ tokenHash session, state.recordByHash tokenHash = some session →
    session.tokenHash = tokenHash ∧ state.recordByID session.id = some session

/-- A new session has no identifier, and its token hash is not stored. -/
def Unused (state : MemoryState) : SessionCommand → Prop
  | .create session => session.id = "" ∧ state.byHash.lookup session.tokenHash = none
  | .rotateToken _ session => session.id = "" ∧ state.byHash.lookup session.tokenHash = none
  | _ => True

/-- The states of the store after any number of calls. -/
inductive Reached : MemoryState → Prop
  | new : Reached empty
  | call {state next : MemoryState} (command : SessionCommand) (choice : Choice) (users : UserTable) (now : Time)
      (reply : command.Reply) : Reached state → state.Unused command →
        exec command choice users now state = some (reply, next) → Reached next

/-- No operation finds the session in the store. -/
structure Unreachable (session : Session) (state : MemoryState) : Prop where
  unread : ∀ now, (state.getByTokenHash now session.tokenHash).1 = .error .sessionNotFound
  undeleted : ∀ userID, (state.deleteByID session.id userID).1 = .error .sessionNotFound
  unlisted : ∀ order userID sessions, state.listByUserID order userID = some (.ok sessions, state) →
    ∀ listed ∈ sessions, listed.id ≠ session.id

/-- A bulk delete returned the token hash of each selected session once, removed these sessions and no others. -/
structure Revokes (selected : Session → Bool) (state : MemoryState) (hashes : List String) (next : MemoryState) :
    Prop where
  once : hashes.Nodup
  each : ∀ tokenHash, tokenHash ∈ hashes ↔
    ∃ session, state.recordByHash tokenHash = some session ∧ selected session = true
  gone : ∀ session, state.recordByID session.id = some session → selected session = true → Unreachable session next
  keptByID : ∀ id, next.recordByID id = (state.recordByID id).filter fun session => !selected session
  keptByHash : ∀ tokenHash,
    next.recordByHash tokenHash = (state.recordByHash tokenHash).filter fun session => !selected session

variable {state next : MemoryState}

theorem Consistent.sameRecords (consistent : state.Consistent) : state.SameRecords := by
  refine ⟨fun id session found => ?_, fun tokenHash session found => ?_⟩
  · obtain ⟨address, known, rfl⟩ := Option.map_eq_some_iff.mp found
    obtain ⟨_, own, back⟩ := consistent.byID id address known
    exact ⟨own, congrArg (Option.map state.heap) back⟩
  · obtain ⟨address, known, rfl⟩ := Option.map_eq_some_iff.mp found
    obtain ⟨own, back⟩ := consistent.byHash tokenHash address known
    exact ⟨own, congrArg (Option.map state.heap) back⟩

/-- In a consistent store a token hash that is not stored belongs to no row. -/
theorem Unused.admissible {command : SessionCommand} (consistent : state.Consistent) (unused : state.Unused command) :
    command.Admissible state.rowSet := by
  cases command with
  | create session => exact ⟨unused.1, consistent.not_live unused.2⟩
  | rotateToken oldHash session => exact ⟨unused.1, consistent.not_live unused.2⟩
  | _ => trivial

theorem Reached.consistent (reached : state.Reached) : state.Consistent := by
  induction reached with
  | new => exact empty_consistent
  | call command choice users now reply _ unused executed ih =>
      exact (exec_effect command choice users now _ reply ih (unused.admissible ih) executed).1

theorem SameRecords.byHash_iff (same : state.SameRecords) (tokenHash : String) (session : Session) :
    state.recordByHash tokenHash = some session ↔
      session.tokenHash = tokenHash ∧ state.recordByID session.id = some session := by
  refine ⟨same.byHash tokenHash session, ?_⟩
  rintro ⟨rfl, found⟩
  exact (same.byID _ session found).2

/-- What remains under the identifiers remains under the token hashes. -/
theorem SameRecords.filter_byHash (same : state.SameRecords) (same' : next.SameRecords) {keep : Session → Bool}
    (kept : ∀ id, next.recordByID id = (state.recordByID id).filter keep) (tokenHash : String) :
    next.recordByHash tokenHash = (state.recordByHash tokenHash).filter keep := by
  refine Option.ext fun session => ?_
  rw [same'.byHash_iff, kept, Option.filter_eq_some_iff, Option.filter_eq_some_iff, same.byHash_iff, and_assoc]

/-- The operations go through the two indexes. -/
theorem unreachable_of_absent {session : Session} (same : state.SameRecords)
    (absent : state.recordByID session.id = none) (absentHash : state.recordByHash session.tokenHash = none) :
    Unreachable session state := by
  have noAddress : state.byID.lookup session.id = none := Option.map_eq_none_iff.mp absent
  have noAddress' : state.byHash.lookup session.tokenHash = none := Option.map_eq_none_iff.mp absentHash
  refine ⟨fun now => ?_, fun userID => ?_, fun order userID sessions answered listed member => ?_⟩
  · rw [getByTokenHash, noAddress']
  · rw [deleteByID, noAddress]
  · unfold listByUserID at answered
    split at answered
    · cases answered
      obtain ⟨id, _, found⟩ := List.mem_filterMap.mp (List.mem_filter.mp member).1
      have own := same.byID id listed found
      intro clash
      have present : state.recordByID listed.id = some listed := own.1 ▸ found
      rw [clash, absent] at present
      cases present
    · cases answered

section Sweep
variable (selected : Session → Bool)

/-- One iteration looks at the record of one identifier. -/
theorem sweepStep_records (result : List String × MemoryState) (id : String) :
    (sweepStep selected result id).1 =
        result.1 ++ (((result.2.recordByID id).filter selected).map Session.tokenHash).toList ∧
      ∀ other, (sweepStep selected result id).2.recordByID other =
        if other = id then (result.2.recordByID id).filter fun session => !selected session
        else result.2.recordByID other := by
  unfold sweepStep
  split
  · rename_i absent
    have nothing : result.2.recordByID id = none := congrArg (Option.map result.2.heap) absent
    rw [nothing]
    refine ⟨(List.append_nil _).symm, fun other => ?_⟩
    split
    · rename_i same
      rw [same, nothing]
      rfl
    · rfl
  · rename_i address found
    have present : result.2.recordByID id = some (result.2.heap address) :=
      congrArg (Option.map result.2.heap) found
    rw [present]
    dsimp only
    split
    · rename_i chosen
      refine ⟨by rw [Option.filter_some, if_pos chosen]; rfl, fun other => ?_⟩
      split
      · rename_i same
        rw [Option.filter_some, chosen, same, recordByID, AList.lookup_erase]
        rfl
      · rename_i different
        rw [recordByID, AList.lookup_erase_ne different]
        rfl
    · rename_i skipped
      refine ⟨by rw [Option.filter_some, if_neg skipped]; exact (List.append_nil _).symm, fun other => ?_⟩
      split
      · rename_i same
        rw [same, present, Option.filter_some, Bool.eq_false_iff.mpr skipped]
        rfl
      · rfl

/-- The token hashes of the selected sessions, in the order of their identifiers. -/
def selectedHashes (order : List String) (state : MemoryState) : List String :=
  order.filterMap fun id => ((state.recordByID id).filter selected).map Session.tokenHash

/-- The loop visits each identifier once, whatever comes before it in the order. -/
theorem foldl_sweepStep_records {order : List String} (nodup : order.Nodup) (result : List String × MemoryState) :
    (order.foldl (sweepStep selected) result).1 =
        result.1 ++ selectedHashes selected order result.2 ∧
      ∀ other, (order.foldl (sweepStep selected) result).2.recordByID other =
        if other ∈ order then (result.2.recordByID other).filter fun session => !selected session
        else result.2.recordByID other := by
  induction order generalizing result with
  | nil => exact ⟨(List.append_nil _).symm, fun _ => rfl⟩
  | cons id order ih =>
      obtain ⟨absent, rest⟩ := List.nodup_cons.mp nodup
      obtain ⟨collected, records⟩ := sweepStep_records selected result id
      obtain ⟨collected', records'⟩ := ih rest (sweepStep selected result id)
      have untouched (other : String) (member : other ∈ order) :
          (sweepStep selected result id).2.recordByID other = result.2.recordByID other := by
        rw [records, if_neg]
        rintro rfl
        exact absent member
      refine ⟨?_, fun other => ?_⟩
      · have visited : selectedHashes selected order (sweepStep selected result id).2 =
            selectedHashes selected order result.2 :=
          List.filterMap_congr fun other member => by rw [untouched other member]
        rw [List.foldl_cons, collected', collected, visited, List.append_assoc, selectedHashes, selectedHashes,
          List.filterMap_cons]
        cases ((result.2.recordByID id).filter selected).map Session.tokenHash <;> rfl
      · rw [List.foldl_cons, records']
        by_cases same : other = id
        · subst same
          rw [if_neg absent, records, if_pos rfl, if_pos List.mem_cons_self]
        · have known : (sweepStep selected result id).2.recordByID other = result.2.recordByID other := by
            rw [records, if_neg same]
          rw [known]
          simp only [List.mem_cons, same, false_or]

variable {selected} {order : List String}

theorem mem_selectedHashes (tokenHash : String) :
    tokenHash ∈ selectedHashes selected order state ↔
      ∃ id ∈ order, ∃ session, state.recordByID id = some session ∧ selected session = true ∧
        session.tokenHash = tokenHash := by
  simp only [selectedHashes, List.mem_filterMap, Option.map_eq_some_iff, Option.filter_eq_some_iff, and_assoc]

/-- Sessions under different identifiers have different token hashes. -/
theorem selectedHashes_nodup (same : state.SameRecords) (nodup : order.Nodup) :
    (selectedHashes selected order state).Nodup := by
  refine List.Nodup.filterMap (fun id id' tokenHash first second => ?_) nodup
  obtain ⟨session, found, hash⟩ := Option.map_eq_some_iff.mp first
  obtain ⟨session', found', hash'⟩ := Option.map_eq_some_iff.mp second
  obtain ⟨own, back⟩ := same.byID id session (Option.filter_eq_some_iff.mp found).1
  obtain ⟨own', back'⟩ := same.byID id' session' (Option.filter_eq_some_iff.mp found').1
  rw [hash] at back
  rw [hash', back, Option.some.injEq] at back'
  rw [← own, ← own', back']

/-- A bulk delete in any order of the identifiers revokes the selected sessions. -/
theorem sweep_revokes (condition : Row → Prop) (agrees : ∀ session, selected session = true ↔ condition session.row)
    (consistent : state.Consistent) (complete : order.Perm state.byID.keys) :
    ∃ hashes next, state.sweep order selected = some ((hashes, none), next) ∧ Revokes selected state hashes next := by
  have swept : state.sweep order selected = _ := if_pos complete
  refine ⟨_, _, swept, ?_⟩
  have nodup : order.Nodup := complete.nodup_iff.mpr state.byID.nodupKeys
  obtain ⟨collected, records⟩ := foldl_sweepStep_records selected nodup ([], state)
  have same := consistent.sameRecords
  have same' := (sweep_spec selected condition agrees consistent swept).2.1.sameRecords
  generalize (order.foldl (sweepStep selected) ([], state)).2 = next at *
  rw [collected, List.nil_append]
  have visited (id : String) (session : Session) (found : state.recordByID id = some session) : id ∈ order := by
    obtain ⟨address, known, _⟩ := Option.map_eq_some_iff.mp found
    exact complete.mem_iff.mpr (mem_keys_of_lookup known)
  have keptByID (id : String) :
      next.recordByID id = (state.recordByID id).filter fun session => !selected session := by
    rw [records]
    cases found : state.recordByID id with
    | none => exact ite_self none
    | some session => exact if_pos (visited id session found)
  have keptByHash := same.filter_byHash same' keptByID
  refine ⟨selectedHashes_nodup same nodup, fun tokenHash => ?_, fun session found chosen => ?_, keptByID, keptByHash⟩
  · rw [mem_selectedHashes]
    constructor
    · rintro ⟨id, _, session, found, chosen, rfl⟩
      exact ⟨session, (same.byID id session found).2, chosen⟩
    · rintro ⟨session, found, chosen⟩
      obtain ⟨own, back⟩ := same.byHash tokenHash session found
      exact ⟨session.id, visited _ session back, session, back, chosen, own⟩
  · have absent : next.recordByID session.id = none := by
      rw [keptByID, found, Option.filter_some, chosen]
      rfl
    have absentHash : next.recordByHash session.tokenHash = none := by
      rw [keptByHash, (same.byID _ session found).2, Option.filter_some, chosen]
      rfl
    exact unreachable_of_absent same' absent absentHash

end Sweep

theorem rotateToken_not_found {id oldHash : String} {now : Time} {session : Session}
    (failed : state.rotateToken id now oldHash session = some (.error .sessionNotFound, next)) : next = state := by
  unfold rotateToken at failed
  split at failed
  · cases failed
    rfl
  · unfold create at failed
    split at failed <;> cases failed

end MemoryState
open MemoryState

/-- In every state that calls reach, the indexes describe the same records, both bulk deletes revoke exactly the
sessions they target in any order of the loop, and a rotation that finds no session changes nothing. -/
theorem memory_indexes_consistent (state : MemoryState) (reached : state.Reached) :
    state.SameRecords ∧
      (∀ (userID : String) (choice : Choice) (users : UserTable) (now : Time), choice.order.Perm state.byID.keys →
        ∃ hashes next,
          MemoryState.exec (.deleteAllByUserID userID) choice users now state = some ((hashes, none), next) ∧
          Revokes (fun session => session.userID = userID) state hashes next) ∧
      (∀ (userID keepTokenHash : String) (choice : Choice) (users : UserTable) (now : Time),
        choice.order.Perm state.byID.keys →
        ∃ hashes next,
          MemoryState.exec (.deleteAllByUserIDExcept userID keepTokenHash) choice users now state =
            some ((hashes, none), next) ∧
          Revokes (fun session => session.userID = userID && session.tokenHash ≠ keepTokenHash) state hashes next) ∧
      ∀ (oldHash : String) (session : Session) (choice : Choice) (users : UserTable) (now : Time)
        (next : MemoryState),
        MemoryState.exec (.rotateToken oldHash session) choice users now state = some (.error .sessionNotFound, next) →
          next = state := by
  have consistent := reached.consistent
  refine ⟨consistent.sameRecords, ?_, ?_, ?_⟩
  · intro userID choice users now complete
    exact sweep_revokes (fun row => row.userID = userID) (by simp) consistent complete
  · intro userID keepTokenHash choice users now complete
    exact sweep_revokes (fun row => row.userID = userID ∧ row.tokenHash ≠ keepTokenHash) (by simp) consistent complete
  · intro oldHash session choice users now next failed
    exact rotateToken_not_found failed

/-- A session of one user that has no identifier yet. -/
def annSession (tokenHash : String) : Session :=
  ⟨"", "ann", "ann@example.com", tokenHash, "", "", "", second, zeroTime, zeroTime⟩

/-- The store after two logins and a read of the first session. -/
def twoSessions : MemoryState :=
  (((empty.store (stamped "1" 0 (annSession "h1"))).store (stamped "2" 0 (annSession "h2"))).getByTokenHash 5 "h1").2

theorem twoSessions_reached : twoSessions.Reached := by
  have first : Reached (empty.store (stamped "1" 0 (annSession "h1"))) :=
    .call (.create (annSession "h1")) { id := "1" } .empty 0 _ .new ⟨rfl, rfl⟩ rfl
  have second : Reached ((empty.store (stamped "1" 0 (annSession "h1"))).store (stamped "2" 0 (annSession "h2"))) :=
    .call (.create (annSession "h2")) { id := "2" } .empty 0 _ first ⟨rfl, rfl⟩ rfl
  exact .call (.getByTokenHash "h1") {} .empty 5 _ second trivial rfl

/-- The bulk delete that keeps the first session returns the hash of the second one. -/
theorem second_session_revoked :
    ∃ next, MemoryState.exec (.deleteAllByUserIDExcept "ann" "h1") { order := ["1", "2"] } .empty 6 twoSessions =
      some ((["h2"], none), next) ∧ Unreachable (stamped "2" 0 (annSession "h2")) next := by
  obtain ⟨_, _, except, _⟩ := memory_indexes_consistent twoSessions twoSessions_reached
  obtain ⟨hashes, next, executed, revoked⟩ := except "ann" "h1" { order := ["1", "2"] } .empty 6 (by decide)
  have known : MemoryState.exec (.deleteAllByUserIDExcept "ann" "h1") { order := ["1", "2"] } .empty 6 twoSessions =
    some ((["h2"], none), _) := rfl
  rw [executed, Option.some.injEq, Prod.mk.injEq, Prod.mk.injEq] at known
  refine ⟨next, ?_, revoked.gone _ rfl rfl⟩
  rw [executed, known.1.1]

end AuthService
