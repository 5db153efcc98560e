/-
This file proves that the statements of a call on the repository have the effect of the atomic call
when no other call runs.
-/

import AuthService.Construction.Postgres
import AuthService.Construction.Transactions

namespace AuthService
open Interleaving Program ReadCommitted

/-- The statements run alone, and all of them succeed. -/
abbrev alone {A : Type} (script : Script A) (store : RowStore Session) :
    Option (Except StoreError A × RowStore Session) :=
  script.run.eval (fun statement => RowStore.exec statement false) store

theorem alone_orOther {A : Type} (value : A) (store : RowStore Session) :
    alone (orOther (some value)) store = some (.ok value, store) := rfl

section
variable (tx : Nat) (store : RowStore Session)

/-- The deletion of free committed rows locks them. -/
theorem alone_deleteRows (rows : List Session) (different : rows.Nodup)
    (free : ∀ row ∈ rows, row ∈ store.rows ∧ row ∉ store.locks.map Prod.snd) :
    ∃ next, alone (deleteRows tx rows) store = some (.ok rows, next) ∧ next.rows = store.rows ∧
      next.drafts = store.drafts ∧
      ∀ owner row, (owner, row) ∈ next.locks ↔ (owner, row) ∈ store.locks ∨ (owner = tx ∧ row ∈ rows) := by
  induction rows generalizing store with
  | nil => exact ⟨store, rfl, rfl, rfl, by simp⟩
  | cons row rows ih =>
      obtain ⟨absent, different⟩ := List.nodup_cons.mp different
      obtain ⟨present, unlocked⟩ := free row List.mem_cons_self
      have deleted : RowStore.exec (.delete tx row) false store =
          some (some true, store.lock tx row present unlocked) := by
        simp only [RowStore.exec, RowStore.delete, unlocked, present, not_false_eq_true, dif_pos,
          Bool.false_eq_true, if_false, Option.map_some]
      obtain ⟨next, runs, rowsKept, draftsKept, locks⟩ := ih (store.lock tx row present unlocked)
        different (by
          intro other inside
          obtain ⟨there, free⟩ := free other (List.mem_cons_of_mem _ inside)
          refine ⟨there, ?_⟩
          rintro locked
          rcases List.mem_cons.mp locked with rfl | old
          · exact absent inside
          · exact free old)
      refine ⟨next, ?_, rowsKept, draftsKept, ?_⟩
      · unfold deleteRows
        rw [alone, eval_ok (eval_perform deleted), eval_ok (alone_orOther true _), eval_ok runs]
        rfl
      · intro owner other
        rw [locks]
        simp only [RowStore.lock, List.mem_cons, Prod.mk.injEq]
        tauto

end

section
variable {rows : List Session}

/-- A delete statement on a table without open transactions locks the rows that it selects, and its
commit removes them. -/
theorem alone_deleteWhere (tx counter : Nat) (condition : Session → Bool) (different : rows.Nodup) :
    ∃ deleted, alone (deleteWhere tx condition) (.idle rows counter) =
        some (.ok (rows.filter condition), deleted) ∧ deleted.drafts = [] ∧ deleted.rows = rows ∧
      (deleted.rows.filter fun row => (tx, row) ∉ deleted.locks) = rows.filter fun row => !condition row := by
  have chosen : RowStore.exec (.candidates condition) false (.idle rows counter) =
      some (some (rows.filter condition), .idle rows counter) := rfl
  obtain ⟨deleted, runs, kept, drafts, locks⟩ := alone_deleteRows tx (.idle rows counter)
    (rows.filter condition) (different.filter _) (by
      intro row inside
      exact ⟨(List.mem_filter.mp inside).1, List.not_mem_nil⟩)
  refine ⟨deleted, ?_, drafts, kept, ?_⟩
  · unfold deleteWhere
    rw [alone, eval_ok (eval_perform chosen), eval_ok (alone_orOther _ _)]
    exact runs
  · rw [kept]
    apply List.filter_congr
    intro row inside
    change row ∈ rows at inside
    cases selected : condition row <;> simp [locks, RowStore.idle, inside, selected]

/-- A transaction returns the reply of its body, and the rollback after it changes no row. -/
theorem alone_inTransaction {body : Nat → Script JobReply} {store : RowStore Session}
    {result : Except StoreError JobReply} (runs : alone (body 0) (.idle rows 1) = some (result, store)) :
    ∃ final, alone (inTransaction body) (.quiescent rows) = some (result, final) ∧ final.rows = store.rows := by
  have begun : RowStore.exec .begin false (.quiescent rows) = some (some 0, .idle rows 1) := rfl
  have undone : RowStore.exec (.rollback 0) false store = some ((), store.rollback 0) := rfl
  refine ⟨store.rollback 0, ?_, rfl⟩
  unfold inTransaction
  rw [alone, eval_ok (eval_perform begun), eval_ok (alone_orOther 0 _), eval_ok (eval_lift runs),
    eval_ok (eval_perform undone)]
  cases result <;> rfl

end

section
variable {db : Database} {users : UserTable} {now : Time} {id oldHash userID : String} {session created : Session}
variable {table next : SessionTable}

theorem SessionTable.rows_nodup (table : SessionTable) : table.rows.Nodup := table.uniqueHash.of_map

theorem SessionTable.create_rows
    (inserted : table.create db users now id session = some (.ok created, next)) :
    next.rows = newRow db id now session :: table.rows := by
  unfold create at inserted
  split at inserted
  · split at inserted
    · cases inserted
    · cases inserted
      rfl
  · cases inserted

theorem SessionTable.rotateToken_rows
    (rotated : table.rotateToken db none users now id oldHash session = some (.ok created, next)) :
    oldHash ∈ table.rows.map Session.tokenHash ∧ next.rows =
      newRow db id now session :: table.rows.filter fun row => !decide (row.tokenHash = oldHash) := by
  simp only [rotateToken, reduceCtorEq, or_self, if_false] at rotated
  split at rotated
  · cases rotated
  · rename_i present
    split at rotated
    · cases rotated
    · cases rotated
    · rename_i inserted
      cases rotated
      exact ⟨not_not.mp present, create_rows inserted⟩

/-- The statements of a rotation have the effect of the atomic rotation. -/
theorem alone_rotateToken
    (rotated : table.rotateToken db none users now id oldHash session = some (.ok created, next)) :
    ∃ store, alone (SessionJob.rotateToken oldHash (SessionTable.newRow db id now session)).script
        (.quiescent table.rows) = some (.ok .rotated, store) ∧ store.rows.Perm next.rows := by
  obtain ⟨present, rows⟩ := SessionTable.rotateToken_rows rotated
  obtain ⟨deleted, runs, drafts, _, kept⟩ := alone_deleteWhere 0 1
    (SessionJob.rotateToken oldHash (SessionTable.newRow db id now session)).condition table.rows_nodup
  have found : table.rows.filter
      (SessionJob.rotateToken oldHash (SessionTable.newRow db id now session)).condition ≠ [] := by
    obtain ⟨old, inside, same⟩ := List.mem_map.mp present
    exact List.ne_nil_of_mem (List.mem_filter.mpr ⟨inside, decide_eq_true same⟩)
  have body : alone (rotateStatements oldHash (SessionTable.newRow db id now session) 0) (.idle table.rows 1) =
      some (.ok .rotated, (deleted.insert 0 (SessionTable.newRow db id now session)).commit 0) := by
    rw [alone, rotateStatements, eval_ok runs, if_neg found]
    rfl
  obtain ⟨final, runs', same⟩ := alone_inTransaction body
  refine ⟨final, runs', ?_⟩
  have final' : final.rows = (table.rows.filter fun row => !decide (row.tokenHash = oldHash)) ++
      [SessionTable.newRow db id now session] := by
    rw [same]
    simp only [RowStore.commit, RowStore.insert, drafts, kept]
    rfl
  rw [final', rows]
  exact List.perm_append_singleton _ _

/-- The statements of a rotation of an absent token hash report that there is no such session. -/
theorem alone_rotateToken_missing (missing : oldHash ∉ table.rows.map Session.tokenHash) :
    ∃ store, alone (SessionJob.rotateToken oldHash session).script (.quiescent table.rows) =
        some (.error .sessionNotFound, store) ∧ store.rows = table.rows := by
  obtain ⟨deleted, runs, _, kept, _⟩ := alone_deleteWhere 0 1
    (SessionJob.rotateToken oldHash session).condition table.rows_nodup
  have nothing : table.rows.filter (SessionJob.rotateToken oldHash session).condition = [] := by
    rw [List.filter_eq_nil_iff]
    intro row inside matched
    exact missing (List.mem_map.mpr ⟨row, inside, of_decide_eq_true matched⟩)
  have body : alone (rotateStatements oldHash session 0) (.idle table.rows 1) =
      some (.error .sessionNotFound, deleted) := by
    rw [alone, rotateStatements, eval_ok runs, if_pos nothing]
    rfl
  obtain ⟨final, runs', same⟩ := alone_inTransaction body
  exact ⟨final, runs', same.trans kept⟩

/-- The statement of a bulk delete has the effect of the atomic bulk delete. -/
theorem alone_deleteAllByUserID {hashes : List String}
    (swept : table.deleteReturning {} (fun row => row.userID = userID) = some ((hashes, none), next)) :
    ∃ store, alone (SessionJob.deleteAllByUserID userID).script (.quiescent table.rows) =
        some (.ok (.deleted hashes), store) ∧ store.rows = next.rows := by
  obtain ⟨deleted, runs, drafts, _, kept⟩ := alone_deleteWhere 0 1
    (SessionJob.deleteAllByUserID userID).condition table.rows_nodup
  obtain ⟨rfl, rfl⟩ : hashes = (table.rows.filter fun row => decide (row.userID = userID)).map Session.tokenHash ∧
      next = table.deleteWhere fun row => row.userID = userID := by
    obtain ⟨replied, same⟩ := Prod.mk.inj (Option.some.inj swept)
    exact ⟨(congrArg Prod.fst replied).symm, same.symm⟩
  have body : alone (deleteAllStatements userID 0) (.idle table.rows 1) =
      some (.ok (.deleted ((table.rows.filter fun row => decide (row.userID = userID)).map Session.tokenHash)),
        deleted.commit 0) := by
    rw [alone, deleteAllStatements, eval_ok runs]
    rfl
  obtain ⟨final, runs', same⟩ := alone_inTransaction body
  refine ⟨final, runs', ?_⟩
  rw [same]
  simp only [RowStore.commit, drafts, kept, List.filter_nil, List.map_nil, List.append_nil]
  rfl

end
end AuthService
