/-
This file proves what a run of concurrent calls on the session repository keeps: which rows a call holds, which
rows it is about to commit, and where the committed rows come from.
-/

import AuthService.Proof.RepositoryConduct

namespace AuthService
open Interleaving Program System ReadCommitted

abbrev CallsConfig := Config (Sql Session) (RowStore Session) RepositoryCall (Exchange SessionCalls)

/-- The started calls insert rows whose keys are new. -/
structure FreshRows (db : Database) (key : Session → String) (rows : List Session) (config : CallsConfig) : Prop where
  new : ∀ task call row, config.request task = some call → call.inserted db = some row → key row ∉ rows.map key
  once : ∀ first second call call' row row', config.request first = some call → config.request second = some call' →
    call.inserted db = some row → call'.inserted db = some row' → key row = key row' → first = second

/-- The rows that the started calls insert. -/
def insertedRows (db : Database) (config : CallsConfig) : List Session :=
  config.tasks.filterMap fun task => task.request.inserted db

/-- The keys are new when those of the initial rows and of the inserted rows are all different. -/
theorem FreshRows.of_nodup {db : Database} {key : Session → String} {rows : List Session} {config : CallsConfig}
    (different : ((rows ++ insertedRows db config).map key).Nodup) : FreshRows db key rows config := by
  rw [List.map_append, List.nodup_append] at different
  obtain ⟨_, once, apart⟩ := different
  have started : ∀ task call row, config.request task = some call → call.inserted db = some row →
      row ∈ insertedRows db config := by
    intro task call row known inserts
    obtain ⟨entry, found, rfl⟩ := Option.map_eq_some_iff.mp known
    exact List.mem_filterMap.mpr ⟨entry, List.mem_of_getElem? found, inserts⟩
  constructor
  · intro task call row known inserts old
    exact apart _ old _ (List.mem_map_of_mem (started task call row known inserts)) rfl
  · intro first second call call' row row' known known' inserts inserts' same
    obtain ⟨entry, found, rfl⟩ := Option.map_eq_some_iff.mp known
    obtain ⟨entry', found', rfl⟩ := Option.map_eq_some_iff.mp known'
    obtain ⟨inside, rfl⟩ := List.getElem?_eq_some_iff.mp found
    obtain ⟨inside', rfl⟩ := List.getElem?_eq_some_iff.mp found'
    rw [List.Nodup, List.pairwise_map, insertedRows, List.pairwise_filterMap, List.pairwise_iff_getElem] at once
    rcases Nat.lt_trichotomy first second with before | equal | after
    · exact absurd same (once first second inside inside' before row inserts row' inserts')
    · exact equal
    · exact absurd same.symm (once second first inside' inside after row' inserts' row inserts)

/-- A row of the initial table or of a started call. -/
def Origin (db : Database) (rows : List Session) (config : CallsConfig) (row : Session) : Prop :=
  row ∈ rows ∨ ∃ task call, config.request task = some call ∧ call.inserted db = some row

/-- The transaction that a statement belongs to. -/
def transactionOf : Statement Session → Option Nat
  | .delete tx _ | .insert tx _ | .commit tx | .rollback tx => some tx
  | _ => none

theorem transactionOf_closes {exchange : Exchange (Sql Session)} {tx : Nat} (closed : closes exchange = some tx) :
    transactionOf exchange.command = some tx := by
  obtain ⟨statement, reply⟩ := exchange
  cases statement with
  | commit owner =>
      cases reply with
      | none => cases closed
      | some _ => exact closed
  | rollback owner => exact closed
  | _ => cases closed

section Past
variable {db : Database} {users : UserTable} {call : RepositoryCall} {past : Statements} {tx : Nat}

theorem CallMay.within {statement : Statement Session} (permitted : CallMay db users call past statement)
    (same : transactionOf statement = some tx) : Within past tx := by
  cases permitted with
  | begin _ | read _ _ | choose _ _ => cases same
  | delete _ within _ _ | insert _ within _ _ _ _ | commit _ within _ _ _ | rollback _ within =>
      cases same
      exact within

theorem CallMay.inserts {row : Session} (permitted : CallMay db users call past (.insert tx row)) :
    reads call.command = false ∧ Running past ∧ Effective call.command past ∧ insertedBy past = [] ∧
      call.inserted db = some row := by
  cases permitted with
  | insert writes _ running effective first same => exact ⟨writes, running, effective, first, same⟩

theorem CallMay.selects {condition : Session → Bool} (permitted : CallMay db users call past (.candidates condition)) :
    selection db call.command = some condition ∧
      (reads call.command = true ∧ past = [] ∨ reads call.command = false ∧ ∃ tx, past = [⟨.begin, some tx⟩]) := by
  cases permitted with
  | read reading selects => exact ⟨selects, .inl ⟨reading, rfl⟩⟩
  | @choose tx _ writes selects => exact ⟨selects, .inr ⟨writes, tx, rfl⟩⟩

theorem CallMay.deletes {row : Session} (permitted : CallMay db users call past (.delete tx row)) :
    reads call.command = false ∧ Within past tx ∧ Running past ∧ ∃ rest, rowsLeft past = some (row :: rest) := by
  cases permitted with
  | delete writes within running left => exact ⟨writes, within, running, _, left⟩

/-- A call commits when it has deleted and inserted what it is to delete and insert. -/
structure Committing (db : Database) (users : UserTable) (call : RepositoryCall) (tx : Nat) (past : Statements) :
    Prop where
  writes : reads call.command = false
  within : Within past tx
  running : Running past
  effective : Effective call.command past
  drafted : ∀ row, call.inserted db = some row → insertable users row = true ∧
    (⟨.insert tx row, some ()⟩ : Exchange (Sql Session)) ∈ past

theorem CallMay.commits (permitted : CallMay db users call past (.commit tx)) : Committing db users call tx past := by
  cases permitted with
  | commit writes within running effective drafted => exact ⟨writes, within, running, effective, drafted⟩

theorem Within.of_suffix {later : Statements} (within : Within past tx) (earlier : past <:+ later) :
    Within later tx := by
  obtain ⟨side, rfl⟩ := earlier
  induction side with
  | nil => exact within
  | cons exchange side ih => exact Within.cons ih exchange

theorem hasCommitted_cons {exchange : Exchange (Sql Session)} (before : hasCommitted past = true) :
    hasCommitted (exchange :: past) = true := by
  obtain ⟨statement, reply⟩ := exchange
  cases statement with
  | commit tx =>
      cases reply with
      | none => exact before
      | some _ => rfl
  | _ => exact before

/-- The rows that a call has deleted are those of its effective deletions. -/
theorem mem_deletedBy {row : Session} :
    row ∈ deletedBy past ↔ ∃ tx, (⟨.delete tx row, some true⟩ : Exchange (Sql Session)) ∈ past := by
  fun_induction deletedBy past with
  | case1 => simp
  | case2 tx other past ih =>
      rw [List.mem_append, ih, List.mem_singleton]
      constructor
      · rintro (⟨owner, inside⟩ | rfl)
        · exact ⟨owner, List.mem_cons_of_mem _ inside⟩
        · exact ⟨tx, List.mem_cons_self⟩
      · rintro ⟨owner, member⟩
        rcases List.mem_cons.mp member with same | inside
        · cases same
          exact .inr rfl
        · exact .inl ⟨owner, inside⟩
  | case3 exchange past different ih =>
      rw [ih]
      constructor
      · rintro ⟨owner, inside⟩
        exact ⟨owner, List.mem_cons_of_mem _ inside⟩
      · rintro ⟨owner, member⟩
        rcases List.mem_cons.mp member with same | inside
        · exact (different owner row same.symm).elim
        · exact ⟨owner, inside⟩

theorem mem_insertedBy {row : Session} (inserted : (⟨.insert tx row, some ()⟩ : Exchange (Sql Session)) ∈ past) :
    row ∈ insertedBy past := by
  fun_induction insertedBy past with
  | case1 => cases inserted
  | case2 owner other done past ih =>
      rcases List.mem_cons.mp inserted with same | inside
      · cases same
        exact List.mem_cons_self
      · exact List.mem_cons_of_mem _ (ih inside)
  | case3 exchange past different ih =>
      rcases List.mem_cons.mp inserted with same | inside
      · exact (different tx row () same.symm).elim
      · exact ih inside

/-- The rows that are left to try are among the chosen ones. -/
theorem rowsLeft_chosen {rows : List Session} (left : rowsLeft past = some rows) :
    ∃ condition chosen, (⟨.candidates condition, some chosen⟩ : Exchange (Sql Session)) ∈ past ∧
      ∀ row ∈ rows, row ∈ chosen := by
  fun_induction rowsLeft past generalizing rows with
  | case1 => cases left
  | case2 condition reply past =>
      cases left
      exact ⟨condition, rows, List.mem_cons_self, fun _ inside => inside⟩
  | case3 tx row result past ih =>
      obtain ⟨others, before, rfl⟩ := Option.map_eq_some_iff.mp left
      obtain ⟨condition, chosen, member, among⟩ := ih before
      exact ⟨condition, chosen, List.mem_cons_of_mem _ member, fun _ inside => among _ (List.mem_of_mem_tail inside)⟩
  | case4 => cases left
  | case5 exchange past _ _ _ ih =>
      obtain ⟨condition, chosen, member, among⟩ := ih left
      exact ⟨condition, chosen, List.mem_cons_of_mem _ member, among⟩

/-- A call with a row to try has not concluded. -/
theorem reported_trying {row : Session} {others : List Session} (running : Running past)
    (left : rowsLeft past = some (row :: others)) : reported past = none := by
  rw [reported, if_neg]
  rw [running.hasCommitted, left]
  rintro (never | ⟨never, _⟩) <;> cases never

/-- A call that goes on has not concluded. -/
theorem Effective.reported (effective : Effective call.command past) (running : Running past) :
    AuthService.reported past = none := by
  rcases effective with ⟨_, stopped⟩ | ⟨_, some'⟩
  · exact reported_failed running stopped
  · exact reported_effective running some'

theorem concluded_nil (command : SessionCommand) : concluded command [] = none := by
  cases command <;> rfl

theorem concluded_reading (reading : reads call.command = true) : concluded call.command past = rowsLeft past := by
  rw [concluded, if_pos reading]

theorem concluded_writing (writes : reads call.command = false) : concluded call.command past = reported past := by
  rw [concluded, if_neg (by rw [writes]; exact Bool.false_ne_true)]

end Past

section Origins
variable {db : Database} {key : Session → String} {rows : List Session} {config next : CallsConfig}
variable {row other : Session}

/-- Rows with the same key are the same row. -/
theorem FreshRows.eq_of_key (fresh : FreshRows db key rows config) (unique : (rows.map key).Nodup)
    (first : Origin db rows config row) (second : Origin db rows config other) (same : key row = key other) :
    row = other := by
  rcases first with old | ⟨task, call, started, inserts⟩
  · rcases second with old' | ⟨task', call', started', inserts'⟩
    · exact List.inj_on_of_nodup_map unique old old' same
    · exact absurd (List.mem_map.mpr ⟨row, old, same⟩) (fresh.new task' call' other started' inserts')
  · rcases second with old' | ⟨task', call', started', inserts'⟩
    · exact absurd (List.mem_map.mpr ⟨other, old', same.symm⟩) (fresh.new task call row started inserts)
    · obtain rfl := fresh.once task task' call call' row other started started' inserts inserts' same
      rw [started, Option.some.injEq] at started'
      subst started'
      exact Option.some.inj (inserts.symm.trans inserts')

variable {users : UserTable} {label : Label Bool Empty RepositoryCall}

theorem FreshRows.before (fresh : FreshRows db key rows next)
    (moved : (sessionRepository db users).step config label = some next) : FreshRows db key rows config where
  new := fun task call row started => fresh.new task call row (step_request label moved _ _ started)
  once := fun first second call call' row row' started started' =>
    fresh.once first second call call' row row' (step_request label moved _ _ started)
      (step_request label moved _ _ started')

theorem Origin.step (origin : Origin db rows config row)
    (moved : (sessionRepository db users).step config label = some next) : Origin db rows next row := by
  rcases origin with old | ⟨task, call, started, inserts⟩
  · exact .inl old
  · exact .inr ⟨task, call, step_request label moved _ _ started, inserts⟩

end Origins

/-- The configurations of the repository that the calls reach from a table. -/
abbrev CallsReach (db : Database) (users : UserTable) (rows : List Session) (config : CallsConfig) : Prop :=
  (sessionRepository db users).Reaches Anything ((sessionRepository db users).begin (.quiescent rows) []) config

section Runs
variable {db : Database} {users : UserTable} {rows : List Session} {config : CallsConfig}
variable {call : RepositoryCall} {task tx : Nat} {row : Session}

theorem calls_disciplined (reached : CallsReach db users rows config) :
    Disciplined (CallMay db users) (CallEnds users) config :=
  reached.disciplined follows_statements

/-- All statements of a call belong to the transaction that it has begun. -/
theorem event_within (reached : CallsReach db users rows config) {event : Event (Sql Session)}
    (member : event ∈ config.history) (same : transactionOf event.exchange.command = some tx) :
    Within (transcript event.task config.history) tx := by
  obtain ⟨later, past, split, call, _, permitted⟩ := (calls_disciplined reached).permitted.mem member
  refine (permitted.within same).of_suffix (transcript_suffix _ ⟨later ++ [event], ?_⟩)
  rw [split, List.append_assoc, List.singleton_append]

theorem within_owner (reached : CallsReach db users rows config) {other : Nat}
    (mine : Within (transcript task config.history) tx) (theirs : Within (transcript other config.history) tx) :
    task = other :=
  begun_owner reached ((mem_transcript _ _ _).mp mine.mem) ((mem_transcript _ _ _).mp theirs.mem)

/-- Nobody else ends the transaction of a call. -/
theorem transaction_open (reached : CallsReach db users rows config)
    (within : Within (transcript task config.history) tx) (running : Running (transcript task config.history)) :
    ∀ event ∈ config.history, closes event.exchange ≠ some tx := by
  intro event member closed
  obtain rfl := within_owner reached within (event_within reached member (transactionOf_closes closed))
  rw [running event.exchange ((mem_transcript _ _ _).mpr member)] at closed
  cases closed

/-- A call holds exactly the rows that it has deleted. -/
theorem locks_iff (reached : CallsReach db users rows config) (within : Within (transcript task config.history) tx)
    (running : Running (transcript task config.history)) :
    (tx, row) ∈ config.world.locks ↔ row ∈ deletedBy (transcript task config.history) := by
  rw [mem_deletedBy]
  constructor
  · intro locked
    obtain ⟨owner, deleted⟩ := (reaches_sources reached).1 tx row locked
    obtain rfl := within_owner reached within (event_within reached deleted rfl)
    exact ⟨tx, (mem_transcript _ _ _).mpr deleted⟩
  · rintro ⟨other, deleted⟩
    rw [mem_transcript] at deleted
    have same : some (⟨.begin, some tx⟩ : Exchange (Sql Session)) = some ⟨.begin, some other⟩ :=
      within.symm.trans (event_within reached deleted rfl)
    cases same
    exact reaches_held reached task tx row deleted (transaction_open reached within running)

/-- The drafts of a call that is about to commit are the row that it inserts. -/
theorem drafts_iff (reached : CallsReach db users rows config) (started : config.request task = some call)
    (within : Within (transcript task config.history) tx) (running : Running (transcript task config.history))
    (drafted : ∀ row, call.inserted db = some row →
      (⟨.insert tx row, some ()⟩ : Exchange (Sql Session)) ∈ transcript task config.history) :
    (tx, row) ∈ config.world.drafts ↔ call.inserted db = some row := by
  constructor
  · intro draft
    obtain ⟨owner, inserted⟩ := (reaches_sources reached).2 tx row draft
    obtain rfl := within_owner reached within (event_within reached inserted rfl)
    obtain ⟨_, _, _, call', started', permitted⟩ := (calls_disciplined reached).permitted.mem inserted
    rw [started, Option.some.injEq] at started'
    subst started'
    exact permitted.inserts.2.2.2.2
  · intro inserts
    exact reaches_drafted reached task tx row ((mem_transcript _ _ _).mp (drafted row inserts))
      (transaction_open reached within running)

/-- No draft is inserted twice. -/
theorem reaches_drafts_nodup (reached : CallsReach db users rows config) : config.world.drafts.Nodup := by
  apply reached.invariant
  · exact List.nodup_nil
  · intro config label next reached once _ moved
    obtain ⟨_, _, rfl⟩ | ⟨task, fails, call, statement, rest, reply, store, _, selected, executed, rfl⟩ :=
      transaction_cases moved
    · exact once
    · have permitted := (calls_disciplined reached).next_permitted selected
      cases ReadCommitted.exec_changes executed with
      | nothing _ | begun | deleted _ _ => exact once
      | @inserted tx row =>
          refine List.nodup_cons.mpr ⟨fun draft => ?_, once⟩
          obtain ⟨owner, inserted⟩ := (reaches_sources reached).2 tx row draft
          obtain rfl := within_owner reached (permitted.within rfl) (event_within reached inserted rfl)
          have again := mem_insertedBy ((mem_transcript _ _ _).mpr inserted)
          rw [permitted.inserts.2.2.2.1] at again
          cases again
      | committed | undone => exact once.filter _

/-- A new row is committed by the call that inserts it. -/
theorem reaches_origin (reached : CallsReach db users rows config) :
    ∀ row ∈ config.world.rows, row ∈ rows ∨ ∃ task call, config.request task = some call ∧
      call.inserted db = some row ∧ hasCommitted (transcript task config.history) = true := by
  apply reached.invariant
  · exact fun row member => .inl member
  · intro config label next reached known _ moved row member
    have kept : (row ∈ rows ∨ ∃ task call, config.request task = some call ∧
          call.inserted db = some row ∧ hasCommitted (transcript task config.history) = true) →
        row ∈ rows ∨ ∃ task call, next.request task = some call ∧
          call.inserted db = some row ∧ hasCommitted (transcript task next.history) = true := by
      rintro (old | ⟨task, call, started, inserts, committed⟩)
      · exact .inl old
      · refine .inr ⟨task, call, step_request label moved _ _ started, inserts, ?_⟩
        obtain ⟨side, same⟩ := transcript_suffix task (step_suffix label moved)
        rw [← same]
        clear same
        induction side with
        | nil => exact committed
        | cons exchange side ih => exact hasCommitted_cons ih
    obtain ⟨_, _, rfl⟩ | ⟨task, fails, call, statement, rest, reply, store, _, selected, executed, rfl⟩ :=
      transaction_cases moved
    · exact kept (known row member)
    · rcases (ReadCommitted.exec_changes executed).row_cases member with old | ⟨tx, same, draft⟩
      · exact kept (known row old)
      · cases same
        have started : config.request task = some call := by rw [Config.request, selected, Option.map_some]
        have commits := ((calls_disciplined reached).next_permitted selected).commits
        have inserts := (drafts_iff reached started commits.within commits.running
          fun row inserts => (commits.drafted row inserts).2).mp draft
        refine .inr ⟨task, call, step_request label moved _ _ started, inserts, ?_⟩
        rw [transcript_cons_self]
        rfl

theorem Origin.of_row (reached : CallsReach db users rows config) (member : row ∈ config.world.rows) :
    Origin db rows config row := by
  rcases reaches_origin reached row member with old | ⟨task, call, started, inserts, _⟩
  · exact .inl old
  · exact .inr ⟨task, call, started, inserts⟩

/-- The rows that a call has chosen come from the table or from a call. -/
theorem reaches_chosen_origin (reached : CallsReach db users rows config) :
    ∀ task condition chosen, (⟨task, .candidates condition, some chosen⟩ : Event (Sql Session)) ∈ config.history →
      ∀ row ∈ chosen, Origin db rows config row := by
  apply reached.invariant
  · rintro task condition chosen ⟨⟩
  · intro config label next reached known _ moved task condition chosen member row inside
    obtain ⟨_, _, rfl⟩ | ⟨owner, fails, call, statement, rest, reply, store, _, selected, executed, rfl⟩ :=
      transaction_cases moved
    · exact (known task condition chosen member row inside).step moved
    · rcases List.mem_cons.mp member with same | before
      · cases same
        have replied := congrArg Prod.fst (Option.some.inj executed)
        dsimp only at replied
        split at replied
        · cases replied
        · obtain rfl := Option.some.inj replied
          exact (Origin.of_row reached (List.mem_filter.mp inside).1).step moved
      · exact (known task condition chosen before row inside).step moved

/-- The rows that are left to try are selected by the call. -/
theorem rowsLeft_selected (reached : CallsReach db users rows config) (started : config.request task = some call)
    {past : List (Event (Sql Session))} (earlier : past <:+ config.history) {left : List Session}
    (some' : rowsLeft (transcript task past) = some left) (member : row ∈ left) :
    ∃ condition, selection db call.command = some condition ∧ condition row = true ∧ Origin db rows config row := by
  obtain ⟨condition, chosen, found, among⟩ := rowsLeft_chosen some'
  have event := earlier.subset ((mem_transcript _ _ _).mp found)
  obtain ⟨_, _, _, call', started', permitted⟩ := (calls_disciplined reached).permitted.mem event
  rw [started, Option.some.injEq] at started'
  subst started'
  have selected := reaches_chosen reached event row (among row member)
  have origin := reaches_chosen_origin reached task condition chosen event row (among row member)
  exact ⟨condition, permitted.selects.1, selected, origin⟩

/-- The rows that a call has deleted are selected by it. -/
theorem deleted_selected (reached : CallsReach db users rows config) (started : config.request task = some call)
    (deleted : row ∈ deletedBy (transcript task config.history)) :
    ∃ condition, selection db call.command = some condition ∧ condition row = true := by
  obtain ⟨tx, found⟩ := mem_deletedBy.mp deleted
  obtain ⟨later, past, split, call', started', permitted⟩ :=
    (calls_disciplined reached).permitted.mem ((mem_transcript _ _ _).mp found)
  rw [started, Option.some.injEq] at started'
  subst started'
  obtain ⟨_, _, _, rest, left⟩ := permitted.deletes
  obtain ⟨condition, selects, selected, _⟩ := rowsLeft_selected reached started
    ⟨later ++ [_], by rw [split, List.append_assoc, List.singleton_append]⟩ left List.mem_cons_self
  exact ⟨condition, selects, selected⟩

end Runs

end AuthService
