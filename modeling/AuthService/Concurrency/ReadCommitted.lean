import AuthService.Concurrency.Interleaving
import Mathlib.Data.List.Nodup

namespace ReadCommitted
open Interleaving System

/-- A table under the isolation level READ COMMITTED. A deleted row stays among the committed rows
and is locked until its transaction ends, and an inserted row is a draft until then. -/
structure RowStore (R : Type) where
  rows : List R
  locks : List (Nat × R)
  drafts : List (Nat × R)
  next : Nat
  locked : ∀ lock ∈ locks, lock.2 ∈ rows
  exclusive : (locks.map Prod.snd).Nodup

/-- A delete statement is split into the choice of its candidates, at its start, and the deletion of
each candidate. -/
inductive Statement (R : Type) where
  | begin
  | candidates (condition : R → Bool)
  | delete (tx : Nat) (row : R)
  | insert (tx : Nat) (row : R)
  | commit (tx : Nat)
  | rollback (tx : Nat)

/-- A missing reply is an error of the database. -/
@[reducible] def Statement.Reply {R : Type} : Statement R → Type
  | .begin => Option Nat
  | .candidates _ => Option (List R)
  | .delete _ _ => Option Bool
  | .insert _ _ => Option Unit
  | .commit _ => Option Unit
  | .rollback _ => Unit

@[reducible] def Sql (R : Type) : Signature := ⟨Statement R, Statement.Reply⟩

namespace RowStore
variable {R : Type} [DecidableEq R]

/-- A table without open transactions. -/
def idle (rows : List R) (next : Nat) : RowStore R := ⟨rows, [], [], next, by simp, by simp⟩

/-- A table that no transaction has used yet. -/
abbrev quiescent (rows : List R) : RowStore R := idle rows 0

def lock (store : RowStore R) (tx : Nat) (row : R) (present : row ∈ store.rows)
    (free : row ∉ store.locks.map Prod.snd) : RowStore R where
  rows := store.rows
  locks := (tx, row) :: store.locks
  drafts := store.drafts
  next := store.next
  locked := by
    intro lock member
    rcases List.mem_cons.mp member with rfl | inside
    · exact present
    · exact store.locked lock inside
  exclusive := List.nodup_cons.mpr ⟨free, store.exclusive⟩

/-- The deletion waits for a row that another transaction has locked, and it skips a row that is no
longer committed. -/
def delete (store : RowStore R) (tx : Nat) (row : R) : Option (Bool × RowStore R) :=
  if free : row ∉ store.locks.map Prod.snd then
    if present : row ∈ store.rows then some (true, store.lock tx row present free)
    else some (false, store)
  else if (tx, row) ∈ store.locks then some (false, store)
  else none

def insert (store : RowStore R) (tx : Nat) (row : R) : RowStore R :=
  { store with drafts := (tx, row) :: store.drafts }

/-- The table when the transaction ends without effect. -/
def rollback (store : RowStore R) (tx : Nat) : RowStore R where
  rows := store.rows
  locks := store.locks.filter fun lock => lock.1 ≠ tx
  drafts := store.drafts.filter fun draft => draft.1 ≠ tx
  next := store.next
  locked := fun lock member => store.locked lock (List.mem_filter.mp member).1
  exclusive := store.exclusive.sublist (List.filter_sublist.map _)

omit [DecidableEq R] in
theorem lock_owner (store : RowStore R) {first second : Nat} {row : R} (left : (first, row) ∈ store.locks)
    (right : (second, row) ∈ store.locks) : first = second :=
  congrArg Prod.fst (List.inj_on_of_nodup_map store.exclusive left right rfl)

/-- The table when the transaction takes effect. -/
def commit (store : RowStore R) (tx : Nat) : RowStore R where
  rows := (store.rows.filter fun row => (tx, row) ∉ store.locks) ++
    (store.drafts.filter fun draft => draft.1 = tx).map Prod.snd
  locks := store.locks.filter fun lock => lock.1 ≠ tx
  drafts := store.drafts.filter fun draft => draft.1 ≠ tx
  next := store.next
  locked := by
    rintro ⟨owner, row⟩ member
    obtain ⟨inside, other⟩ := List.mem_filter.mp member
    simp only [ne_eq, decide_not, Bool.not_eq_true', decide_eq_false_iff_not] at other
    refine List.mem_append_left _ (List.mem_filter.mpr ⟨store.locked _ inside, ?_⟩)
    simp only [decide_eq_true_eq]
    exact fun mine => other (store.lock_owner inside mine)
  exclusive := store.exclusive.sublist (List.filter_sublist.map _)

theorem mem_commit (store : RowStore R) (tx : Nat) (row : R) :
    row ∈ (store.commit tx).rows ↔
      (row ∈ store.rows ∧ (tx, row) ∉ store.locks) ∨ (tx, row) ∈ store.drafts := by
  simp only [commit, List.mem_append, List.mem_filter, decide_eq_true_eq, List.mem_map, Prod.exists,
    exists_eq_right]

/-- A statement that fails reports an error and has no effect. -/
def exec : (statement : Statement R) → Bool → RowStore R → Option (statement.Reply × RowStore R)
  | .begin, fails, store =>
      some (if fails then (none, store) else (some store.next, { store with next := store.next + 1 }))
  | .candidates condition, fails, store =>
      some (if fails then none else some (store.rows.filter condition), store)
  | .delete tx row, fails, store =>
      if fails then some (none, store)
      else (store.delete tx row).map fun result => (some result.1, result.2)
  | .insert tx row, fails, store =>
      some (if fails then (none, store) else (some (), store.insert tx row))
  | .commit tx, fails, store => some (if fails then (none, store) else (some (), store.commit tx))
  | .rollback tx, _, store => some ((), store.rollback tx)

end RowStore

section
variable {R : Type}

/-- The transaction that an exchange ends. -/
def closes : Exchange (Sql R) → Option Nat
  | ⟨.commit tx, some _⟩ => some tx
  | ⟨.rollback tx, _⟩ => some tx
  | _ => none

/-- The exchanges that change the table. -/
def effective : Exchange (Sql R) → Bool
  | ⟨.begin, some _⟩ | ⟨.delete _ _, some true⟩ | ⟨.insert _ _, some _⟩ | ⟨.commit _, some _⟩
  | ⟨.rollback _, _⟩ => true
  | _ => false

theorem closes_of_idle {exchange : Exchange (Sql R)} (idle : effective exchange = false) :
    closes exchange = none := by
  obtain ⟨statement, reply⟩ := exchange
  cases statement with
  | commit tx =>
      cases reply with
      | none => rfl
      | some _ => cases idle
  | rollback tx => cases idle
  | _ => rfl

variable [DecidableEq R] {store next : RowStore R}

/-- What each exchange does to the table. -/
inductive Changes (store : RowStore R) : Exchange (Sql R) → RowStore R → Prop where
  | nothing {exchange} (idle : effective exchange = false) : Changes store exchange store
  | begun : Changes store ⟨.begin, some store.next⟩ { store with next := store.next + 1 }
  | deleted {tx row} (present : row ∈ store.rows) (free : row ∉ store.locks.map Prod.snd) :
      Changes store ⟨.delete tx row, some true⟩ (store.lock tx row present free)
  | inserted {tx row} : Changes store ⟨.insert tx row, some ()⟩ (store.insert tx row)
  | committed {tx} : Changes store ⟨.commit tx, some ()⟩ (store.commit tx)
  | undone {tx} : Changes store ⟨.rollback tx, ()⟩ (store.rollback tx)

/-- Every statement changes the table in one of these ways. -/
theorem exec_changes {statement : Statement R} {reply : statement.Reply} {fails : Bool}
    (executed : RowStore.exec statement fails store = some (reply, next)) :
    Changes store ⟨statement, reply⟩ next := by
  cases statement with
  | begin =>
      cases fails with
      | true =>
          cases executed
          exact .nothing rfl
      | false =>
          cases executed
          exact .begun
  | candidates condition =>
      cases executed
      exact .nothing rfl
  | delete tx row =>
      cases fails with
      | true =>
          cases executed
          exact .nothing rfl
      | false =>
          obtain ⟨⟨result, after⟩, performed, same⟩ := Option.map_eq_some_iff.mp executed
          cases same
          unfold RowStore.delete at performed
          split at performed
          · rename_i free
            split at performed
            · rename_i present
              cases performed
              exact .deleted present free
            · cases performed
              exact .nothing rfl
          · split at performed
            · cases performed
              exact .nothing rfl
            · cases performed
  | insert tx row =>
      cases fails with
      | true =>
          cases executed
          exact .nothing rfl
      | false =>
          cases executed
          exact .inserted
  | commit tx =>
      cases fails with
      | true =>
          cases executed
          exact .nothing rfl
      | false =>
          cases executed
          exact .committed
  | rollback tx =>
      cases executed
      exact .undone

/-- A committed row that a transaction deletes is locked by it afterwards. -/
theorem delete_locks {tx : Nat} {row : R} {result : Bool} {fails : Bool}
    (executed : RowStore.exec (.delete tx row) fails store = some (some result, next))
    (present : row ∈ store.rows) : (tx, row) ∈ next.locks := by
  cases fails with
  | true => cases executed
  | false =>
      obtain ⟨⟨outcome, after⟩, performed, same⟩ := Option.map_eq_some_iff.mp executed
      cases same
      unfold RowStore.delete at performed
      split at performed
      · cases performed
        exact List.mem_cons_self
      · split at performed
        · rename_i mine
          cases performed
          exact mine
        · cases performed

/-- A deletion that finds nothing concerns a row that is gone or that its own transaction has deleted. -/
theorem delete_skips {tx : Nat} {row : R} {fails : Bool}
    (executed : RowStore.exec (.delete tx row) fails store = some (some false, next)) :
    row ∉ store.rows ∨ (tx, row) ∈ store.locks := by
  cases fails with
  | true => cases executed
  | false =>
      obtain ⟨⟨outcome, after⟩, performed, same⟩ := Option.map_eq_some_iff.mp executed
      cases same
      unfold RowStore.delete at performed
      split at performed
      · split at performed
        · cases performed
        · rename_i absent
          exact .inl absent
      · split at performed
        · rename_i mine
          exact .inr mine
        · cases performed

namespace Changes
variable {exchange : Exchange (Sql R)}

/-- A new committed row was a draft of the transaction that committed. -/
theorem row_cases (changes : Changes store exchange next) {row : R} (member : row ∈ next.rows) :
    row ∈ store.rows ∨ ∃ tx, exchange = ⟨.commit tx, some ()⟩ ∧ (tx, row) ∈ store.drafts := by
  cases changes with
  | @committed tx =>
      rcases (store.mem_commit tx row).mp member with ⟨kept, _⟩ | added
      · exact .inl kept
      · exact .inr ⟨tx, rfl, added⟩
  | _ => exact .inl member

/-- Only a commit changes the committed rows. -/
theorem rows_eq (changes : Changes store exchange next) (other : ∀ tx, exchange ≠ ⟨.commit tx, some ()⟩) :
    next.rows = store.rows := by
  cases changes with
  | committed => exact absurd rfl (other _)
  | _ => rfl

/-- A committed row stays unless the transaction that deleted it commits. -/
theorem row_kept (changes : Changes store exchange next) {row : R} (member : row ∈ store.rows) :
    row ∈ next.rows ∨ ∃ tx, exchange = ⟨.commit tx, some ()⟩ ∧ (tx, row) ∈ store.locks := by
  cases changes with
  | @committed tx =>
      by_cases mine : (tx, row) ∈ store.locks
      · exact .inr ⟨tx, rfl, mine⟩
      · exact .inl ((store.mem_commit tx row).mpr (.inl ⟨member, mine⟩))
  | _ => exact .inl member

/-- A lock was there before, with its transaction still open, or is new. -/
theorem lock_cases (changes : Changes store exchange next) {tx : Nat} {row : R}
    (member : (tx, row) ∈ next.locks) :
    ((tx, row) ∈ store.locks ∧ closes exchange ≠ some tx) ∨
      (exchange = ⟨.delete tx row, some true⟩ ∧ row ∈ store.rows) := by
  cases changes with
  | nothing idle => exact .inl ⟨member, by simp [closes_of_idle idle]⟩
  | begun => exact .inl ⟨member, by simp [closes]⟩
  | deleted present free =>
      rcases List.mem_cons.mp member with same | inside
      · cases same
        exact .inr ⟨rfl, present⟩
      · exact .inl ⟨inside, by simp [closes]⟩
  | inserted => exact .inl ⟨member, by simp [closes]⟩
  | committed =>
      obtain ⟨inside, other⟩ := List.mem_filter.mp member
      refine .inl ⟨inside, fun same => of_decide_eq_true other (Option.some.inj same).symm⟩
  | undone =>
      obtain ⟨inside, other⟩ := List.mem_filter.mp member
      refine .inl ⟨inside, fun same => of_decide_eq_true other (Option.some.inj same).symm⟩

/-- A lock stays while its transaction is open. -/
theorem lock_kept (changes : Changes store exchange next) {tx : Nat} {row : R}
    (member : (tx, row) ∈ store.locks) (running : closes exchange ≠ some tx) : (tx, row) ∈ next.locks := by
  cases changes with
  | deleted => exact List.mem_cons_of_mem _ member
  | committed =>
      exact List.mem_filter.mpr ⟨member, decide_eq_true fun same => running (congrArg some same.symm)⟩
  | undone =>
      exact List.mem_filter.mpr ⟨member, decide_eq_true fun same => running (congrArg some same.symm)⟩
  | _ => exact member

/-- A draft stays while its transaction is open. -/
theorem draft_kept (changes : Changes store exchange next) {tx : Nat} {row : R}
    (member : (tx, row) ∈ store.drafts) (running : closes exchange ≠ some tx) : (tx, row) ∈ next.drafts := by
  cases changes with
  | inserted => exact List.mem_cons_of_mem _ member
  | committed =>
      exact List.mem_filter.mpr ⟨member, decide_eq_true fun same => running (congrArg some same.symm)⟩
  | undone =>
      exact List.mem_filter.mpr ⟨member, decide_eq_true fun same => running (congrArg some same.symm)⟩
  | _ => exact member

/-- A draft was there before, with its transaction still open, or is new. -/
theorem draft_cases (changes : Changes store exchange next) {tx : Nat} {row : R}
    (member : (tx, row) ∈ next.drafts) :
    ((tx, row) ∈ store.drafts ∧ closes exchange ≠ some tx) ∨ exchange = ⟨.insert tx row, some ()⟩ := by
  cases changes with
  | nothing idle => exact .inl ⟨member, by simp [closes_of_idle idle]⟩
  | begun => exact .inl ⟨member, by simp [closes]⟩
  | deleted => exact .inl ⟨member, by simp [closes]⟩
  | inserted =>
      rcases List.mem_cons.mp member with same | inside
      · cases same
        exact .inr rfl
      · exact .inl ⟨inside, by simp [closes]⟩
  | committed =>
      obtain ⟨inside, other⟩ := List.mem_filter.mp member
      refine .inl ⟨inside, fun same => of_decide_eq_true other (Option.some.inj same).symm⟩
  | undone =>
      obtain ⟨inside, other⟩ := List.mem_filter.mp member
      refine .inl ⟨inside, fun same => of_decide_eq_true other (Option.some.inj same).symm⟩

theorem next_le (changes : Changes store exchange next) : store.next ≤ next.next := by
  cases changes with
  | begun => exact Nat.le_succ _
  | _ => exact Nat.le_refl _

end Changes
end

section
variable {R Request Answer : Type} [DecidableEq R]

/-- Any number of transactions on one table, whose statements interleave. -/
def transactions (handler : Request → Program (Sql R) Answer) :
    System (Sql R) (RowStore R) Bool Empty Request Answer where
  handler := handler
  exec := RowStore.exec
  drift := fun tick _ => nomatch tick

/-- The transaction that an event begins. -/
def begunBy : Event (Sql R) → Option Nat
  | ⟨_, .begin, some tx⟩ => some tx
  | _ => none

omit [DecidableEq R] in
theorem begunBy_eq_some {event : Event (Sql R)} {tx : Nat} (observed : begunBy event = some tx) :
    event.exchange = ⟨.begin, some tx⟩ := by
  obtain ⟨task, statement, reply⟩ := event
  cases statement with
  | begin =>
      cases reply with
      | none => cases observed
      | some _ =>
          obtain rfl := Option.some.inj observed
          rfl
  | _ => cases observed

variable {handler : Request → Program (Sql R) Answer}
variable {config next : Config (Sql R) (RowStore R) Request Answer}

/-- The two kinds of steps of the transactions. -/
theorem transaction_cases {label : Label Bool Empty Request}
    (moved : (transactions handler).step config label = some next) :
    (∃ request, label = .start request ∧
      next = { config with tasks := config.tasks ++ [⟨request, handler request⟩] }) ∨
    (∃ (task : Nat) (fails : Bool) (request : Request) (statement : Statement R)
      (rest : statement.Reply → Program (Sql R) Answer) (reply : statement.Reply) (store : RowStore R),
      label = .advance task fails ∧ config.tasks[task]? = some ⟨request, .call statement rest⟩ ∧
      RowStore.exec statement fails config.world = some (reply, store) ∧
      next = ⟨store, config.tasks.set task ⟨request, rest reply⟩,
        ⟨task, statement, reply⟩ :: config.history⟩) := by
  rcases step_cases label moved with started | advanced | ⟨tick, _⟩
  · exact .inl started
  · exact .inr advanced
  · cases tick

variable {allowed : Config (Sql R) (RowStore R) Request Answer → Label Bool Empty Request → Prop}
variable {rows : List R} {requests : List Request}

/-- Every transaction is begun once. -/
theorem reaches_begun
    (reached : (transactions handler).Reaches allowed
      ((transactions handler).begin (.quiescent rows) requests) config) :
    (config.history.filterMap begunBy).Nodup ∧
      ∀ tx ∈ config.history.filterMap begunBy, tx < config.world.next := by
  apply reached.invariant
  · exact ⟨List.nodup_nil, by rintro tx ⟨⟩⟩
  · intro config label next reached ⟨once, bounded⟩ _ moved
    obtain ⟨_, _, rfl⟩ | ⟨task, fails, request, statement, rest, reply, store, _, selected, executed, rfl⟩ :=
      transaction_cases moved
    · exact ⟨once, bounded⟩
    · cases observed : begunBy (⟨task, statement, reply⟩ : Event (Sql R)) with
      | none =>
          rw [List.filterMap_cons_none observed]
          exact ⟨once, fun tx member => Nat.lt_of_lt_of_le (bounded tx member) (exec_changes executed).next_le⟩
      | some tx =>
          have exchange := begunBy_eq_some observed
          cases exchange
          have changes := exec_changes executed
          cases changes with
          | nothing idle => cases idle
          | begun =>
              rw [List.filterMap_cons_some observed]
              refine ⟨List.nodup_cons.mpr ⟨fun again => absurd (bounded _ again) (Nat.lt_irrefl _), once⟩, ?_⟩
              intro tx member
              rcases List.mem_cons.mp member with rfl | inside
              · exact Nat.lt_succ_self _
              · exact Nat.lt_succ_of_lt (bounded tx inside)

/-- A transaction is begun by one task. -/
theorem begun_owner
    (reached : (transactions handler).Reaches allowed
      ((transactions handler).begin (.quiescent rows) requests) config)
    {first second tx : Nat} (left : (⟨first, .begin, some tx⟩ : Event (Sql R)) ∈ config.history)
    (right : (⟨second, .begin, some tx⟩ : Event (Sql R)) ∈ config.history) : first = second :=
  congrArg Event.task
    (eq_of_observed_once begunBy config.history (reaches_begun reached).1 left right rfl rfl)

/-- The candidates of a statement satisfy its condition. -/
theorem reaches_chosen
    (reached : (transactions handler).Reaches allowed
      ((transactions handler).begin (.quiescent rows) requests) config)
    {task : Nat} {condition : R → Bool} {chosen : List R}
    (member : (⟨task, .candidates condition, some chosen⟩ : Event (Sql R)) ∈ config.history) :
    ∀ row ∈ chosen, condition row = true := by
  have explained : Explained (fun (event : Event (Sql R)) _ => ∀ (condition : R → Bool) (chosen : List R),
      event.exchange = ⟨.candidates condition, some chosen⟩ → ∀ row ∈ chosen, condition row = true)
      config.history := by
    refine reached.explained trivial ?_
    intro config task request statement rest fails reply store _ _ _ executed condition chosen same row among
    cases same
    have replied := congrArg Prod.fst (Option.some.inj executed)
    dsimp only at replied
    split at replied
    · cases replied
    · obtain rfl := Option.some.inj replied
      exact (List.mem_filter.mp among).2
  obtain ⟨_, _, _, satisfied⟩ := explained.mem member
  exact satisfied condition chosen rfl

/-- A row that an open transaction has deleted is locked. -/
theorem reaches_held
    (reached : (transactions handler).Reaches allowed
      ((transactions handler).begin (.quiescent rows) requests) config) :
    ∀ task tx row, (⟨task, .delete tx row, some true⟩ : Event (Sql R)) ∈ config.history →
      (∀ event ∈ config.history, closes event.exchange ≠ some tx) → (tx, row) ∈ config.world.locks := by
  apply reached.invariant
  · rintro task tx row ⟨⟩
  · intro config label next reached held _ moved
    obtain ⟨_, _, rfl⟩ | ⟨owner, fails, request, statement, rest, reply, store, _, selected, executed, rfl⟩ :=
      transaction_cases moved
    · exact held
    · intro task tx row member running
      have changes := exec_changes executed
      rcases List.mem_cons.mp member with same | before
      · cases same
        cases changes with
        | nothing idle => cases idle
        | deleted => exact List.mem_cons_self
      · have earlier := held task tx row before fun event inside =>
          running event (List.mem_cons_of_mem _ inside)
        exact changes.lock_kept earlier (running _ List.mem_cons_self)

/-- A row that an open transaction has inserted is a draft. -/
theorem reaches_drafted
    (reached : (transactions handler).Reaches allowed
      ((transactions handler).begin (.quiescent rows) requests) config) :
    ∀ task tx row, (⟨task, .insert tx row, some ()⟩ : Event (Sql R)) ∈ config.history →
      (∀ event ∈ config.history, closes event.exchange ≠ some tx) → (tx, row) ∈ config.world.drafts := by
  apply reached.invariant
  · rintro task tx row ⟨⟩
  · intro config label next reached drafted _ moved
    obtain ⟨_, _, rfl⟩ | ⟨owner, fails, request, statement, rest, reply, store, _, selected, executed, rfl⟩ :=
      transaction_cases moved
    · exact drafted
    · intro task tx row member running
      have changes := exec_changes executed
      rcases List.mem_cons.mp member with same | before
      · cases same
        cases changes with
        | nothing idle => cases idle
        | inserted => exact List.mem_cons_self
      · have earlier := drafted task tx row before fun event inside =>
          running event (List.mem_cons_of_mem _ inside)
        exact changes.draft_kept earlier (running _ List.mem_cons_self)

/-- A locked row was deleted, and a draft was inserted. -/
theorem reaches_sources
    (reached : (transactions handler).Reaches allowed
      ((transactions handler).begin (.quiescent rows) requests) config) :
    (∀ tx row, (tx, row) ∈ config.world.locks →
      ∃ task, (⟨task, .delete tx row, some true⟩ : Event (Sql R)) ∈ config.history) ∧
    ∀ tx row, (tx, row) ∈ config.world.drafts →
      ∃ task, (⟨task, .insert tx row, some ()⟩ : Event (Sql R)) ∈ config.history := by
  apply reached.invariant
  · exact ⟨by rintro tx row ⟨⟩, by rintro tx row ⟨⟩⟩
  · intro config label next reached ⟨locks, drafts⟩ _ moved
    obtain ⟨_, _, rfl⟩ | ⟨owner, fails, request, statement, rest, reply, store, _, selected, executed, rfl⟩ :=
      transaction_cases moved
    · exact ⟨locks, drafts⟩
    · have changes := exec_changes executed
      constructor
      · intro tx row member
        rcases changes.lock_cases member with ⟨before, _⟩ | ⟨same, _⟩
        · obtain ⟨task, deleted⟩ := locks tx row before
          exact ⟨task, List.mem_cons_of_mem _ deleted⟩
        · exact ⟨owner, same ▸ List.mem_cons_self⟩
      · intro tx row member
        rcases changes.draft_cases member with ⟨before, _⟩ | same
        · obtain ⟨task, inserted⟩ := drafts tx row before
          exact ⟨task, List.mem_cons_of_mem _ inserted⟩
        · exact ⟨owner, same ▸ List.mem_cons_self⟩

end
end ReadCommitted
