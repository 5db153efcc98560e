/-
This file proves that the in-memory store keeps its two indexes consistent and behaves as a set of
rows.
-/

import AuthService.Construction.Memory
import AuthService.Proof.SessionRows

namespace AuthService
namespace MemoryState

/-- Each record is stored under its identifier and under its token hash, and under nothing else. -/
structure Consistent (state : MemoryState) : Prop where
  byID : ∀ (id : String) (address : Nat), state.byID.lookup id = some address →
    address < state.next ∧ (state.heap address).id = id ∧
      state.byHash.lookup (state.heap address).tokenHash = some address
  byHash : ∀ (tokenHash : String) (address : Nat), state.byHash.lookup tokenHash = some address →
    (state.heap address).tokenHash = tokenHash ∧
      state.byID.lookup (state.heap address).id = some address

/-- The abstract state of the store. -/
def rowSet (state : MemoryState) : Set Row := {row | ∃ session ∈ state.rows, session.row = row}

variable {state : MemoryState}

theorem mem_keys_of_lookup {index : Index} {key : String} {address : Nat}
    (found : index.lookup key = some address) : key ∈ index.keys := by
  apply AList.mem_keys.mp
  rw [← AList.lookup_isSome, found]
  rfl

theorem mem_rows (session : Session) :
    session ∈ state.rows ↔ ∃ id address, state.byID.lookup id = some address ∧ state.heap address = session := by
  simp only [rows, List.mem_map]
  constructor
  · rintro ⟨⟨id, address⟩, member, same⟩
    exact ⟨id, address, AList.mem_lookup_iff.mpr member, same⟩
  · rintro ⟨id, address, found, same⟩
    exact ⟨⟨id, address⟩, AList.mem_lookup_iff.mp found, same⟩

theorem mem_rowSet (row : Row) :
    row ∈ state.rowSet ↔
      ∃ id address, state.byID.lookup id = some address ∧ (state.heap address).row = row := by
  simp only [rowSet, Set.mem_ofPred_eq, mem_rows]
  constructor
  · rintro ⟨session, ⟨id, address, found, rfl⟩, same⟩
    exact ⟨id, address, found, same⟩
  · rintro ⟨id, address, found, same⟩
    exact ⟨_, ⟨id, address, found, rfl⟩, same⟩

/-- A record that is found by its token hash is a row. -/
theorem Consistent.row_mem (consistent : state.Consistent) {tokenHash : String} {address : Nat}
    (found : state.byHash.lookup tokenHash = some address) :
    (state.heap address).row ∈ state.rowSet :=
  (mem_rowSet _).mpr ⟨_, address, (consistent.byHash _ _ found).2, rfl⟩

theorem Consistent.live_iff (consistent : state.Consistent) (tokenHash : String) :
    Live state.rowSet tokenHash ↔ ∃ address, state.byHash.lookup tokenHash = some address := by
  constructor
  · rintro ⟨row, member, rfl⟩
    obtain ⟨id, address, found, rfl⟩ := (mem_rowSet _).mp member
    exact ⟨address, (consistent.byID _ _ found).2.2⟩
  · rintro ⟨address, found⟩
    exact ⟨_, consistent.row_mem found, (consistent.byHash _ _ found).1⟩

/-- A token hash that the index does not have is not live. -/
theorem Consistent.not_live (consistent : state.Consistent) {tokenHash : String}
    (absent : state.byHash.lookup tokenHash = none) : ¬ Live state.rowSet tokenHash := by
  rw [consistent.live_iff]
  rintro ⟨address, found⟩
  rw [absent] at found
  cases found

/-- A row is found by its identifier. -/
theorem Consistent.identified (consistent : state.Consistent) {row : Row} (member : row ∈ state.rowSet) :
    ∃ address, state.byID.lookup row.id = some address ∧ (state.heap address).row = row := by
  obtain ⟨key, address, found, rfl⟩ := (mem_rowSet row).mp member
  obtain ⟨_, rfl, _⟩ := consistent.byID key address found
  exact ⟨address, found, rfl⟩

theorem empty_consistent : empty.Consistent :=
  ⟨by simp [empty], by simp [empty]⟩

/-- The read of a session updates a time that no row carries. -/
def touch (address : Nat) (now : Time) (state : MemoryState) : MemoryState :=
  { state with heap := Function.update state.heap address { state.heap address with lastUsedAt := now } }

theorem touch_fields (address other : Nat) (now : Time) :
    ((state.touch address now).heap other).row = (state.heap other).row := by
  by_cases same : other = address
  · subst same
    simp [touch, Session.row]
  · simp [touch, Function.update_of_ne same]

theorem touch_consistent (consistent : state.Consistent) (address : Nat) (now : Time) :
    (state.touch address now).Consistent := by
  have ids (other : Nat) : ((state.touch address now).heap other).id = (state.heap other).id :=
    congrArg Row.id (touch_fields address other now)
  have hashes (other : Nat) :
      ((state.touch address now).heap other).tokenHash = (state.heap other).tokenHash :=
    congrArg Row.tokenHash (touch_fields address other now)
  constructor
  · intro id other found
    rw [ids, hashes]
    exact consistent.byID id other found
  · intro tokenHash other found
    rw [ids, hashes]
    exact consistent.byHash tokenHash other found

theorem touch_rowSet (address : Nat) (now : Time) : (state.touch address now).rowSet = state.rowSet := by
  ext row
  simp only [mem_rowSet, touch_fields]
  rfl

/-- Storing a session with two new keys adds its row. -/
theorem store_consistent (consistent : state.Consistent) (session : Session)
    (freshID : session.id ∉ state.byID.keys) (freshHash : ¬ Live state.rowSet session.tokenHash) :
    (state.store session).Consistent ∧ (state.store session).rowSet = insert session.row state.rowSet := by
  have unknown : ∀ id address, state.byID.lookup id = some address → id ≠ session.id := by
    rintro id address found rfl
    exact freshID (mem_keys_of_lookup found)
  have unused : ∀ tokenHash address, state.byHash.lookup tokenHash = some address →
      tokenHash ≠ session.tokenHash := by
    rintro tokenHash address found rfl
    exact freshHash ((consistent.live_iff _).mpr ⟨address, found⟩)
  have older : ∀ id address, state.byID.lookup id = some address → address ≠ state.next := by
    intro id address found
    have bound := (consistent.byID id address found).1
    omega
  refine ⟨⟨?_, ?_⟩, ?_⟩
  · intro id address found
    simp only [store] at found ⊢
    by_cases same : id = session.id
    · subst same
      rw [AList.lookup_insert, Option.some.injEq] at found
      subst found
      rw [Function.update_self]
      exact ⟨Nat.lt_succ_self _, rfl, AList.lookup_insert _⟩
    · rw [AList.lookup_insert_ne same] at found
      obtain ⟨bound, own, back⟩ := consistent.byID id address found
      rw [Function.update_of_ne (older id address found), AList.lookup_insert_ne (unused _ _ back)]
      exact ⟨by omega, own, back⟩
  · intro tokenHash address found
    simp only [store] at found ⊢
    by_cases same : tokenHash = session.tokenHash
    · subst same
      rw [AList.lookup_insert, Option.some.injEq] at found
      subst found
      rw [Function.update_self]
      exact ⟨rfl, AList.lookup_insert _⟩
    · rw [AList.lookup_insert_ne same] at found
      obtain ⟨own, back⟩ := consistent.byHash tokenHash address found
      rw [Function.update_of_ne (older _ address back), AList.lookup_insert_ne (unknown _ _ back)]
      exact ⟨own, back⟩
  · ext row
    rw [mem_rowSet, Set.mem_insert_iff, mem_rowSet]
    constructor
    · rintro ⟨id, address, found, rfl⟩
      simp only [store] at found ⊢
      by_cases same : id = session.id
      · subst same
        rw [AList.lookup_insert, Option.some.injEq] at found
        subst found
        exact .inl (by simp)
      · rw [AList.lookup_insert_ne same] at found
        rw [Function.update_of_ne (older id address found)]
        exact .inr ⟨id, address, found, rfl⟩
    · rintro (rfl | ⟨id, address, found, rfl⟩)
      · exact ⟨session.id, state.next, by simp [store], by simp [store]⟩
      · refine ⟨id, address, ?_, ?_⟩
        · simp only [store]
          rw [AList.lookup_insert_ne (unknown id address found)]
          exact found
        · simp only [store]
          rw [Function.update_of_ne (older id address found)]

/-- One record leaves both indexes. -/
def drop (address : Nat) (state : MemoryState) : MemoryState :=
  { state with
    byID := state.byID.erase (state.heap address).id
    byHash := state.byHash.erase (state.heap address).tokenHash }

/-- Dropping a stored record removes its row. -/
theorem drop_consistent (consistent : state.Consistent) {tokenHash : String} {address : Nat}
    (found : state.byHash.lookup tokenHash = some address) :
    (state.drop address).Consistent ∧ (state.drop address).rowSet = without state.rowSet tokenHash := by
  obtain ⟨rfl, own⟩ := consistent.byHash tokenHash address found
  have keptID : ∀ id other, (state.drop address).byID.lookup id = some other →
      state.byID.lookup id = some other ∧ other ≠ address := by
    intro id other present
    simp only [drop] at present
    by_cases same : id = (state.heap address).id
    · subst same
      rw [AList.lookup_erase] at present
      cases present
    · rw [AList.lookup_erase_ne same] at present
      refine ⟨present, ?_⟩
      rintro rfl
      exact same (consistent.byID id other present).2.1.symm
  have keptHash : ∀ hash other, (state.drop address).byHash.lookup hash = some other →
      state.byHash.lookup hash = some other ∧ other ≠ address := by
    intro hash other present
    simp only [drop] at present
    by_cases same : hash = (state.heap address).tokenHash
    · subst same
      rw [AList.lookup_erase] at present
      cases present
    · rw [AList.lookup_erase_ne same] at present
      refine ⟨present, ?_⟩
      rintro rfl
      exact same (consistent.byHash hash other present).1.symm
  have otherID : ∀ other, state.byID.lookup (state.heap other).id = some other → other ≠ address →
      (state.drop address).byID.lookup (state.heap other).id = some other := by
    intro other present different
    simp only [drop]
    rw [AList.lookup_erase_ne]
    · exact present
    · intro same
      rw [same, own, Option.some.injEq] at present
      exact different present.symm
  have otherHash : ∀ other, state.byHash.lookup (state.heap other).tokenHash = some other →
      other ≠ address → (state.drop address).byHash.lookup (state.heap other).tokenHash = some other := by
    intro other present different
    simp only [drop]
    rw [AList.lookup_erase_ne]
    · exact present
    · intro same
      rw [same, found, Option.some.injEq] at present
      exact different present.symm
  refine ⟨⟨?_, ?_⟩, ?_⟩
  · intro id other present
    obtain ⟨before, different⟩ := keptID id other present
    obtain ⟨bound, same, back⟩ := consistent.byID id other before
    exact ⟨bound, same, otherHash other back different⟩
  · intro hash other present
    obtain ⟨before, different⟩ := keptHash hash other present
    obtain ⟨same, back⟩ := consistent.byHash hash other before
    exact ⟨same, otherID other back different⟩
  · ext row
    rw [mem_rowSet, without, Set.mem_ofPred_eq, mem_rowSet]
    constructor
    · rintro ⟨id, other, present, rfl⟩
      obtain ⟨before, different⟩ := keptID id other present
      refine ⟨⟨id, other, before, rfl⟩, ?_⟩
      intro same
      have back := (consistent.byID id other before).2.2
      change (state.heap other).tokenHash = (state.heap address).tokenHash at same
      rw [same, found, Option.some.injEq] at back
      exact different back.symm
    · rintro ⟨⟨id, other, present, rfl⟩, different⟩
      obtain ⟨_, rfl, _⟩ := consistent.byID id other present
      refine ⟨_, other, otherID other present ?_, rfl⟩
      rintro rfl
      exact different rfl

theorem deleteByTokenHash_consistent (consistent : state.Consistent) (tokenHash : String) :
    (state.deleteByTokenHash tokenHash).Consistent ∧
      (state.deleteByTokenHash tokenHash).rowSet = without state.rowSet tokenHash := by
  unfold deleteByTokenHash
  split
  · rename_i absent
    refine ⟨consistent, ?_⟩
    ext row
    refine ⟨?_, fun member => member.1⟩
    intro member
    exact ⟨member, fun same => consistent.not_live absent ⟨row, member, same⟩⟩
  · rename_i address found
    have dropped := drop_consistent consistent found
    rw [drop, (consistent.byHash tokenHash address found).1] at dropped
    exact dropped

theorem deleteByID_cases (consistent : state.Consistent) {sessionID userID : String}
    {reply : Except StoreError String} {next : MemoryState}
    (deleted : state.deleteByID sessionID userID = (reply, next)) :
    next.Consistent ∧ (SessionCommand.deleteByID sessionID userID).Effect id state.rowSet next.rowSet reply := by
  unfold deleteByID at deleted
  split at deleted
  · cases deleted
    exact ⟨consistent, rfl⟩
  · rename_i address found
    obtain ⟨_, own, back⟩ := consistent.byID sessionID address found
    dsimp only at deleted
    split at deleted
    · cases deleted
      exact ⟨consistent, rfl⟩
    · rename_i owner
      cases deleted
      have dropped := drop_consistent consistent back
      rw [drop, own] at dropped
      exact ⟨dropped.1, ⟨_, consistent.row_mem back, rfl, not_not.mp owner⟩, dropped.2⟩

theorem create_ok (consistent : state.Consistent) {id : String} {now : Time} {session : Session}
    {reply : Except StoreError Session} {next : MemoryState} (unnamed : session.id = "")
    (fresh : ¬ Live state.rowSet session.tokenHash)
    (created : state.create id now session = some (reply, next)) :
    ∃ filled, reply = .ok filled ∧ filled.FillsIn session ∧ next.Consistent ∧
      next.rowSet = insert filled.row state.rowSet := by
  unfold create at created
  split at created
  · cases created
  · rename_i free
    cases created
    have stampedID : (stamped id now session).id = id := by simp [stamped, unnamed]
    have unusedID : (stamped id now session).id ∉ state.byID.keys := by
      rw [stampedID]
      exact fun used => free ⟨unnamed, used⟩
    obtain ⟨kept, rows⟩ := store_consistent consistent (stamped id now session) unusedID fresh
    exact ⟨_, rfl, ⟨rfl, rfl, rfl, rfl, rfl, rfl, rfl⟩, kept, rows⟩

/-- What one iteration of a bulk delete does to the rows and to the collected hashes. -/
theorem sweepStep_spec (selected : Session → Bool) (condition : Row → Prop)
    (agrees : ∀ session, selected session = true ↔ condition session.row)
    (result : List String × MemoryState) (consistent : result.2.Consistent) (id : String) :
    (sweepStep selected result id).2.Consistent ∧
      (sweepStep selected result id).2.rowSet =
        {row ∈ result.2.rowSet | ¬ (row.id = id ∧ condition row)} ∧
      ∀ tokenHash, tokenHash ∈ (sweepStep selected result id).1 ↔ tokenHash ∈ result.1 ∨
        ∃ row ∈ result.2.rowSet, row.id = id ∧ condition row ∧ row.tokenHash = tokenHash := by
  have single : ∀ row ∈ result.2.rowSet, row.id = id →
      ∃ address, result.2.byID.lookup id = some address ∧ (result.2.heap address).row = row := by
    rintro row member rfl
    exact consistent.identified member
  have unchanged (none : ∀ row ∈ result.2.rowSet, ¬ (row.id = id ∧ condition row)) :
      result.2.rowSet = {row ∈ result.2.rowSet | ¬ (row.id = id ∧ condition row)} ∧
      ∀ tokenHash, tokenHash ∈ result.1 ↔ tokenHash ∈ result.1 ∨
        ∃ row ∈ result.2.rowSet, row.id = id ∧ condition row ∧ row.tokenHash = tokenHash := by
    refine ⟨?_, ?_⟩
    · ext row
      exact ⟨fun member => ⟨member, none row member⟩, fun member => member.1⟩
    · intro tokenHash
      refine ⟨.inl, ?_⟩
      rintro (member | ⟨row, member, same, holds, _⟩)
      · exact member
      · exact absurd ⟨same, holds⟩ (none row member)
  unfold sweepStep
  split
  · rename_i absent
    refine ⟨consistent, unchanged ?_⟩
    rintro row member ⟨same, _⟩
    obtain ⟨address, found, _⟩ := single row member same
    rw [absent] at found
    cases found
  · rename_i address found
    obtain ⟨_, own, back⟩ := consistent.byID id address found
    dsimp only
    split
    · rename_i chosen
      have dropped := drop_consistent consistent back
      rw [drop, own] at dropped
      refine ⟨dropped.1, ?_, ?_⟩
      · refine dropped.2.trans ?_
        ext row
        simp only [without, Set.mem_ofPred_eq]
        refine and_congr_right fun member => not_congr ?_
        constructor
        · intro same
          obtain ⟨key, other, present, rfl⟩ := (mem_rowSet row).mp member
          have again := (consistent.byID key other present).2.2
          rw [Session.row_tokenHash] at same
          rw [same, back, Option.some.injEq] at again
          subst again
          exact ⟨own, (agrees _).mp chosen⟩
        · rintro ⟨same, _⟩
          obtain ⟨other, present, rfl⟩ := single row member same
          rw [found, Option.some.injEq] at present
          subst present
          rfl
      · intro tokenHash
        rw [List.mem_append, List.mem_singleton]
        refine or_congr_right ?_
        constructor
        · rintro rfl
          exact ⟨_, consistent.row_mem back, own, (agrees _).mp chosen, rfl⟩
        · rintro ⟨row, member, same, _, rfl⟩
          obtain ⟨other, present, rfl⟩ := single row member same
          rw [found, Option.some.injEq] at present
          subst present
          rfl
    · rename_i skipped
      refine ⟨consistent, unchanged ?_⟩
      rintro row member ⟨same, holds⟩
      obtain ⟨other, present, rfl⟩ := single row member same
      rw [found, Option.some.injEq] at present
      subst present
      exact skipped ((agrees _).mpr holds)

/-- A bulk delete that visits some identifiers removes the selected rows among them. -/
theorem foldl_sweepStep_spec (selected : Session → Bool) (condition : Row → Prop)
    (agrees : ∀ session, selected session = true ↔ condition session.row) (order : List String)
    (result : List String × MemoryState) (consistent : result.2.Consistent) :
    (order.foldl (sweepStep selected) result).2.Consistent ∧
      (order.foldl (sweepStep selected) result).2.rowSet =
        {row ∈ result.2.rowSet | ¬ (row.id ∈ order ∧ condition row)} ∧
      ∀ tokenHash, tokenHash ∈ (order.foldl (sweepStep selected) result).1 ↔ tokenHash ∈ result.1 ∨
        ∃ row ∈ result.2.rowSet, row.id ∈ order ∧ condition row ∧ row.tokenHash = tokenHash := by
  induction order generalizing result with
  | nil => simpa using consistent
  | cons id order ih =>
      obtain ⟨kept, rows, hashes⟩ := sweepStep_spec selected condition agrees result consistent id
      obtain ⟨last, rows', hashes'⟩ := ih _ kept
      refine ⟨last, ?_, ?_⟩
      · rw [List.foldl_cons, rows', rows]
        ext row
        simp only [Set.mem_ofPred_eq, List.mem_cons]
        tauto
      · intro tokenHash
        rw [List.foldl_cons, hashes', hashes, rows]
        constructor
        · rintro ((member | ⟨row, member, same, holds, hash⟩) | ⟨row, ⟨member, _⟩, inside, holds, hash⟩)
          · exact .inl member
          · exact .inr ⟨row, member, List.mem_cons.mpr (.inl same), holds, hash⟩
          · exact .inr ⟨row, member, List.mem_cons_of_mem _ inside, holds, hash⟩
        · rintro (member | ⟨row, member, inside, holds, hash⟩)
          · exact .inl (.inl member)
          · by_cases same : row.id = id
            · exact .inl (.inr ⟨row, member, same, holds, hash⟩)
            · have later := (List.mem_cons.mp inside).resolve_left same
              exact .inr ⟨row, ⟨member, fun both => same both.1⟩, later, holds, hash⟩

/-- A bulk delete removes the selected rows whatever order the loop takes. -/
theorem sweep_spec (selected : Session → Bool) (condition : Row → Prop)
    (agrees : ∀ session, selected session = true ↔ condition session.row)
    (consistent : state.Consistent) {order : List String}
    {reply : List String × Option StoreError} {next : MemoryState}
    (swept : state.sweep order selected = some (reply, next)) :
    reply.2 = none ∧ next.Consistent ∧ next.rowSet = {row ∈ state.rowSet | ¬ condition row} ∧
      ∀ tokenHash, tokenHash ∈ reply.1 ↔
        ∃ row ∈ state.rowSet, condition row ∧ row.tokenHash = tokenHash := by
  unfold sweep at swept
  split at swept
  · rename_i complete
    cases swept
    have visited : ∀ row ∈ state.rowSet, row.id ∈ order := by
      intro row member
      obtain ⟨address, found, _⟩ := consistent.identified member
      exact complete.mem_iff.mpr (mem_keys_of_lookup found)
    obtain ⟨kept, rows, hashes⟩ :=
      foldl_sweepStep_spec selected condition agrees order ([], state) consistent
    refine ⟨rfl, kept, ?_, ?_⟩
    · rw [rows]
      ext row
      refine and_congr_right fun member => ?_
      simp only [visited row member, true_and]
    · intro tokenHash
      rw [hashes]
      simp only [List.not_mem_nil, false_or]
      refine exists_congr fun row => and_congr_right fun member => ?_
      simp only [visited row member, true_and]
  · cases swept

/-- Each admissible call keeps the indexes consistent and has the effect that its reply tells. -/
theorem exec_effect (command : SessionCommand) (choice : Choice) (users : UserTable) (now : Time)
    (next : MemoryState) (reply : command.Reply) (consistent : state.Consistent)
    (admissible : command.Admissible state.rowSet)
    (executed : exec command choice users now state = some (reply, next)) :
    next.Consistent ∧ command.Effect id state.rowSet next.rowSet reply := by
  cases command with
  | create session =>
      obtain ⟨filled, rfl, fills, kept, rows⟩ :=
        create_ok consistent admissible.1 admissible.2 executed
      exact ⟨kept, fills, rows⟩
  | getByTokenHash tokenHash =>
      simp only [exec, getByTokenHash, Option.some.injEq] at executed
      split at executed
      · cases executed
        exact ⟨consistent, rfl⟩
      · rename_i address found
        cases executed
        have same := (consistent.byHash tokenHash address found).1
        exact ⟨touch_consistent consistent address now, touch_rowSet address now,
          consistent.row_mem found, same⟩
  | deleteByID sessionID userID =>
      simp only [exec, Option.some.injEq] at executed
      exact deleteByID_cases consistent executed
  | deleteByTokenHash tokenHash =>
      cases executed
      exact deleteByTokenHash_consistent consistent tokenHash
  | rotateToken oldHash session =>
      simp only [exec, rotateToken] at executed
      split at executed
      · cases executed
        exact ⟨consistent, rfl⟩
      · rename_i address found
        obtain ⟨kept, rows⟩ := deleteByTokenHash_consistent consistent oldHash
        have fresh : ¬ Live (state.deleteByTokenHash oldHash).rowSet session.tokenHash := by
          rw [rows]
          rintro ⟨row, member, same⟩
          exact admissible.2 ⟨row, member.1, same⟩
        obtain ⟨filled, rfl, fills, last, rows'⟩ := create_ok kept admissible.1 fresh executed
        exact ⟨last, fills, (consistent.live_iff oldHash).mpr ⟨address, found⟩, by rw [rows', rows]; rfl⟩
  | deleteAllByUserID userID =>
      obtain ⟨revoked, error⟩ := reply
      obtain ⟨rfl, kept, rows, hashes⟩ :=
        sweep_spec _ (fun row => row.userID = userID) (by simp) consistent executed
      exact ⟨kept, rows, hashes⟩
  | deleteAllByUserIDExcept userID keepTokenHash =>
      obtain ⟨revoked, error⟩ := reply
      obtain ⟨rfl, kept, rows, _⟩ := sweep_spec _
        (fun row => row.userID = userID ∧ row.tokenHash ≠ keepTokenHash) (by simp) consistent executed
      refine ⟨kept, ?_⟩
      simp only [SessionCommand.Effect, rows]
      refine ⟨fun row member => member.1, ?_, ?_⟩
      · intro row member other
        exact ⟨member, fun both => other both.1⟩
      · intro row member owner
        exact not_not.mp fun different => member.2 ⟨owner, different⟩
  | listByUserID userID =>
      simp only [exec, listByUserID] at executed
      split at executed
      · cases executed
        exact ⟨consistent, rfl⟩
      · cases executed

/-- Different records have different token hashes. -/
theorem Consistent.keyed (consistent : state.Consistent) :
    (state.rows.map Session.tokenHash).Nodup := by
  rw [rows, List.map_map, List.Nodup, List.pairwise_map]
  have distinct : state.byID.entries.Pairwise fun first second => first.1 ≠ second.1 :=
    List.pairwise_map.mp state.byID.nodupKeys
  apply distinct.imp_of_mem
  intro first second left right different same
  have found := consistent.byID _ _ (AList.mem_lookup_iff.mpr left)
  have found' := consistent.byID _ _ (AList.mem_lookup_iff.mpr right)
  simp only [Function.comp_apply] at same
  rw [same, found'.2.2, Option.some.injEq] at found
  rw [← found.2.1, ← found'.2.1, found.2.2] at different
  exact different rfl

end MemoryState

instance : memory.Lawful where
  stored := id
  Inv := MemoryState.Consistent
  empty_inv := MemoryState.empty_consistent
  empty_rows := rfl
  keyed := fun _ consistent => consistent.keyed
  exec := fun command choice users now _ next reply consistent admissible executed =>
    MemoryState.exec_effect command choice users now next reply consistent admissible executed

end AuthService
