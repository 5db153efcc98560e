/-
This file proves that every call on the session repository takes effect at one moment, although the
statements of concurrent calls interleave.
-/

import AuthService.Proof.AtomicCalls
import AuthService.Proof.RepositoryRuns

namespace AuthService
open Interleaving Program System ReadCommitted

/-- A moment of the run at which a call takes effect. -/
structure Point where
  event : Event (Sql Session)
  call : RepositoryCall
  answer : Exchange SessionCalls

/-- The calls take effect in the order of the points. -/
inductive Replays (db : Database) (users : UserTable) (start : SessionTable) :
    List Point → SessionTable → Prop where
  | nothing : Replays db users start [] start
  | next {points point table after} (before : Replays db users start points table)
      (atomic : Atomic db users point.call.id point.call.now table point.answer after) :
      Replays db users start (points ++ [point]) after

/-- The calls of a configuration that have concluded take effect in the order of the points, and this gives
the committed rows. -/
structure Linear (db : Database) (users : UserTable) (table : SessionTable) (config : CallsConfig)
    (points : List Point) (last : SessionTable) : Prop where
  replays : Replays db users table points last
  same : ∀ row, row ∈ last.rows ↔ row ∈ config.world.rows
  nodup : config.world.rows.Nodup
  order : (points.map Point.event).Sublist config.history.reverse
  once : (points.map fun point => point.event.task).Nodup
  settled : ∀ point ∈ points, config.request point.event.task = some point.call ∧
    ∃ rows, concluded point.call.command (transcript point.event.task config.history) = some rows ∧
      point.answer = ⟨point.call.command, replyOf users point.call.id point.call.now point.call.command (some rows)⟩
  complete : ∀ task call rows, config.request task = some call →
    concluded call.command (transcript task config.history) = some rows → ∃ point ∈ points, point.event.task = task

section Steps
variable {db : Database} {users : UserTable} {table last : SessionTable} {config : CallsConfig} {points : List Point}
variable {task : Nat} {call : RepositoryCall} {statement : Statement Session} {reply : statement.Reply}
variable {rest : statement.Reply → Program (Sql Session) (Exchange SessionCalls)} {store : RowStore Session}

/-- The configuration after a statement of a task. -/
abbrev advanced (config : CallsConfig) (task : Nat) (call : RepositoryCall) (statement : Statement Session)
    (reply : statement.Reply) (rest : statement.Reply → Program (Sql Session) (Exchange SessionCalls))
    (store : RowStore Session) : CallsConfig :=
  ⟨store, config.tasks.set task ⟨call, rest reply⟩, ⟨task, statement, reply⟩ :: config.history⟩

theorem advanced_request (selected : config.tasks[task]? = some ⟨call, .call statement rest⟩) (other : Nat) :
    (advanced config task call statement reply rest store).request other = config.request other := by
  by_cases same : task = other
  · subst same
    have inside := (List.getElem?_eq_some_iff.mp selected).1
    rw [Config.request, Config.request, List.getElem?_set_self inside, selected]
    rfl
  · rw [Config.request, Config.request, List.getElem?_set_ne same]

/-- A statement that concludes nothing and commits nothing keeps the points. -/
theorem Linear.silent (linear : Linear db users table config points last)
    (selected : config.tasks[task]? = some ⟨call, .call statement rest⟩) (kept : store.rows = config.world.rows)
    (nothing : concluded call.command (⟨statement, reply⟩ :: transcript task config.history) =
      concluded call.command (transcript task config.history)) :
    Linear db users table (advanced config task call statement reply rest store) points last := by
  have started : config.request task = some call := by rw [Config.request, selected, Option.map_some]
  have unchanged : ∀ other caller, config.request other = some caller →
      concluded caller.command (transcript other (⟨task, statement, reply⟩ :: config.history)) =
        concluded caller.command (transcript other config.history) := by
    intro other caller known
    by_cases same : task = other
    · subst same
      obtain rfl : call = caller := Option.some.inj (started.symm.trans known)
      rw [transcript_cons_self, nothing]
    · rw [transcript_cons_other _ _ _ same]
  refine ⟨linear.replays, fun row => ?_, ?_, ?_, linear.once, ?_, ?_⟩
  · rw [linear.same row, ← kept]
  · change store.rows.Nodup
    rw [kept]
    exact linear.nodup
  · rw [List.reverse_cons]
    exact linear.order.trans (List.sublist_append_left _ _)
  · intro point member
    obtain ⟨known, rows, concludes, answer⟩ := linear.settled point member
    exact ⟨(advanced_request selected _).trans known, rows, (unchanged _ _ known).trans concludes, answer⟩
  · intro other caller rows known concludes
    rw [advanced_request selected] at known
    exact linear.complete other caller rows known ((unchanged _ _ known).symm.trans concludes)

/-- A statement that concludes its call is the point at which the call takes effect. -/
theorem Linear.point {rows : List Session} {after : SessionTable} (linear : Linear db users table config points last)
    (selected : config.tasks[task]? = some ⟨call, .call statement rest⟩)
    (before : concluded call.command (transcript task config.history) = none)
    (concludes : concluded call.command (⟨statement, reply⟩ :: transcript task config.history) = some rows)
    (atomic : Atomic db users call.id call.now last
      ⟨call.command, replyOf users call.id call.now call.command (some rows)⟩ after)
    (same : ∀ row, row ∈ after.rows ↔ row ∈ store.rows) (nodup : store.rows.Nodup) :
    ∃ point,
      Linear db users table (advanced config task call statement reply rest store) (points ++ [point]) after := by
  have started : config.request task = some call := by rw [Config.request, selected, Option.map_some]
  have fresh : ∀ point ∈ points, point.event.task ≠ task := by
    intro point member same
    obtain ⟨known, rows, concludes, _⟩ := linear.settled point member
    rw [same, started, Option.some.injEq] at known
    rw [same, ← known, before] at concludes
    cases concludes
  refine ⟨⟨⟨task, statement, reply⟩, call, _⟩, .next linear.replays atomic, same, nodup, ?_, ?_, ?_, ?_⟩
  · rw [List.map_append, List.reverse_cons]
    exact linear.order.append (List.Sublist.refl _)
  · rw [List.map_append, List.nodup_append]
    refine ⟨linear.once, List.nodup_singleton _, ?_⟩
    intro other member new inside
    obtain ⟨point, found, rfl⟩ := List.mem_map.mp member
    obtain rfl := List.mem_singleton.mp inside
    exact fresh point found
  · intro point member
    rw [advanced_request selected]
    rcases List.mem_append.mp member with old | new
    · obtain ⟨known, rows, concludes, answer⟩ := linear.settled point old
      refine ⟨known, rows, ?_, answer⟩
      rwa [transcript_cons_other _ _ _ (fresh point old).symm]
    · obtain rfl := List.mem_singleton.mp new
      exact ⟨started, rows, by rwa [transcript_cons_self], rfl⟩
  · intro other caller rows known concludes
    rw [advanced_request selected] at known
    by_cases same : task = other
    · exact ⟨_, List.mem_append_right _ List.mem_cons_self, same⟩
    · rw [transcript_cons_other _ _ _ same] at concludes
      obtain ⟨point, member, mine⟩ := linear.complete other caller rows known concludes
      exact ⟨point, List.mem_append_left _ member, mine⟩

/-- A call that starts has concluded nothing. -/
theorem Linear.start (linear : Linear db users table config points last)
    (reached : CallsReach db users table.rows config) (added : RepositoryCall) (program : Program (Sql Session) _) :
    Linear db users table { config with tasks := config.tasks ++ [⟨added, program⟩] } points last := by
  have appended : ∀ other, ({ config with tasks := config.tasks ++ [⟨added, program⟩] } : CallsConfig).request other =
      config.request other ∨ (transcript other config.history = []) := by
    intro other
    by_cases inside : other < config.tasks.length
    · left
      rw [Config.request, Config.request, List.getElem?_append_left inside]
    · right
      rw [transcript, List.map_eq_nil_iff, List.filter_eq_nil_iff]
      intro event member same
      have known := (calls_disciplined reached).task_lt member
      rw [of_decide_eq_true same] at known
      exact inside known
  refine ⟨linear.replays, linear.same, linear.nodup, linear.order, linear.once, ?_, ?_⟩
  · intro point member
    obtain ⟨known, rows, concludes, answer⟩ := linear.settled point member
    rcases appended point.event.task with same | empty
    · exact ⟨same.trans known, rows, concludes, answer⟩
    · rw [empty] at concludes
      rw [concluded_nil] at concludes
      cases concludes
  · intro other caller rows known concludes
    rcases appended other with same | empty
    · exact linear.complete other caller rows (same.symm.trans known) concludes
    · change concluded caller.command (transcript other config.history) = some rows at concludes
      rw [empty] at concludes
      rw [concluded_nil] at concludes
      cases concludes

/-- A call that finds no row takes effect without a change. -/
theorem Linear.absent {condition : Session → Bool} (linear : Linear db users table config points last)
    (selected : config.tasks[task]? = some ⟨call, .call statement rest⟩) (kept : store.rows = config.world.rows)
    (writes : reads call.command = false) (selects : selection db call.command = some condition)
    (before : concluded call.command (transcript task config.history) = none)
    (concludes : concluded call.command (⟨statement, reply⟩ :: transcript task config.history) = some [])
    (nothing : sweeps call.command = false → ∀ row ∈ config.world.rows, condition row = false) :
    ∃ points last, Linear db users table (advanced config task call statement reply rest store) points last := by
  obtain ⟨after, atomic, same⟩ := atomic_absent writes selects
    fun single row inside => nothing single row ((linear.same row).mp inside)
  obtain ⟨point, next⟩ := linear.point selected before concludes atomic
    (fun row => by rw [same row, linear.same row, kept]) (by rw [kept]; exact linear.nodup)
  exact ⟨_, _, next⟩

/-- What is known when a task performs a statement. -/
structure Performed (db : Database) (users : UserTable) (table : SessionTable) (config : CallsConfig) (task : Nat)
    (call : RepositoryCall) (statement : Statement Session) (reply : statement.Reply)
    (rest : statement.Reply → Program (Sql Session) (Exchange SessionCalls)) (store : RowStore Session) : Prop where
  reached : CallsReach db users table.rows config
  selected : config.tasks[task]? = some ⟨call, .call statement rest⟩
  executed : ∃ fails, RowStore.exec statement fails config.world = some (reply, store)
  freshHash : FreshRows db Session.tokenHash table.rows config
  freshID : FreshRows db Session.id table.rows config

namespace Performed
variable (performed : Performed db users table config task call statement reply rest store)
include performed

theorem started : config.request task = some call := by
  rw [Config.request, performed.selected, Option.map_some]

theorem permitted : CallMay db users call (transcript task config.history) statement :=
  (calls_disciplined performed.reached).next_permitted performed.selected

theorem changes : ReadCommitted.Changes config.world ⟨statement, reply⟩ store := by
  obtain ⟨fails, executed⟩ := performed.executed
  exact ReadCommitted.exec_changes executed

end Performed

/-- The choice of rows is the point of a reading call and of a deletion that finds nothing. -/
theorem Linear.choose {condition : Session → Bool} {reply : Option (List Session)}
    {rest : Option (List Session) → Program (Sql Session) (Exchange SessionCalls)}
    (linear : Linear db users table config points last)
    (performed : Performed db users table config task call (.candidates condition) reply rest store) :
    ∃ points last, Linear db users table (advanced config task call (.candidates condition) reply rest store)
      points last := by
  have kept : store.rows = config.world.rows := performed.changes.rows_eq fun tx same => by cases same
  obtain ⟨selects, past⟩ := performed.permitted.selects
  have before : concluded call.command (transcript task config.history) = none := by
    rcases past with ⟨_, empty⟩ | ⟨writes, tx, begun⟩
    · rw [empty, concluded_nil]
    · rw [begun, concluded_writing writes]
      rfl
  cases reply with
  | none =>
      refine ⟨points, last, linear.silent performed.selected kept ?_⟩
      rcases past with ⟨reading, empty⟩ | ⟨writes, tx, begun⟩
      · rw [before, concluded_reading reading]
        rfl
      · rw [before, concluded_writing writes, begun]
        rfl
  | some chosen =>
      have chosen' : chosen = config.world.rows.filter condition := by
        obtain ⟨fails, executed⟩ := performed.executed
        have replied := congrArg Prod.fst (Option.some.inj executed)
        dsimp only at replied
        split at replied
        · cases replied
        · exact (Option.some.inj replied).symm
      have members : ∀ row, row ∈ last.rows ↔ row ∈ store.rows := fun row => by rw [linear.same row, kept]
      have nodup : store.rows.Nodup := by
        rw [kept]
        exact linear.nodup
      rcases past with ⟨reading, empty⟩ | ⟨writes, tx, begun⟩
      · have all : chosen.Perm (last.rows.filter condition) := by
          rw [chosen']
          refine List.Perm.filter _ ((List.perm_ext_iff_of_nodup linear.nodup last.rows_nodup).mpr fun row => ?_)
          exact (linear.same row).symm
        have concludes : concluded call.command
            (⟨.candidates condition, some chosen⟩ :: transcript task config.history) = some chosen :=
          concluded_reading reading
        obtain ⟨point, next⟩ := linear.point performed.selected before concludes (atomic_read reading selects all)
          members nodup
        exact ⟨_, _, next⟩
      · cases chosen with
        | nil =>
            refine linear.absent performed.selected kept writes selects before ?_ fun _ row inside => ?_
            · rw [concluded_writing writes, begun]
              rfl
            · exact eq_false_of_ne_true (List.filter_eq_nil_iff.mp chosen'.symm row inside)
        | cons row others =>
            refine ⟨points, last, linear.silent performed.selected kept ?_⟩
            rw [before, concluded_writing writes, begun]
            rfl

/-- A condition on a key selects one row of all that there will ever be. -/
theorem Performed.unique {condition : Session → Bool}
    (performed : Performed db users table config task call statement reply rest store)
    (writes : reads call.command = false) (single : sweeps call.command = false)
    (selects : selection db call.command = some condition) {row other : Session}
    (first : Origin db table.rows config row) (second : Origin db table.rows config other)
    (left : condition row = true) (right : condition other = true) : row = other := by
  have byHash : row.tokenHash = other.tokenHash → row = other :=
    performed.freshHash.eq_of_key table.uniqueHash first second
  obtain ⟨command, id, now⟩ := call
  cases command with
  | deleteByID sessionID userID =>
      obtain ⟨known, _, rfl⟩ := Option.map_eq_some_iff.mp selects
      simp only [Bool.and_eq_true, decide_eq_true_eq] at left right
      exact performed.freshID.eq_of_key table.uniqueID first second (left.1.trans right.1.symm)
  | deleteByTokenHash tokenHash =>
      cases selects
      exact byHash ((of_decide_eq_true left).trans (of_decide_eq_true right).symm)
  | rotateToken oldHash session =>
      cases selects
      exact byHash ((of_decide_eq_true left).trans (of_decide_eq_true right).symm)
  | create session => cases selects
  | getByTokenHash tokenHash => cases writes
  | listByUserID userID => cases writes
  | deleteAllByUserID userID => cases single
  | deleteAllByUserIDExcept userID keepTokenHash => cases single

/-- A call that concludes with a deletion which finds nothing has deleted nothing. -/
theorem reported_skipped {past : Statements} {tx : Nat} {row : Session} {reports : List Session}
    (running : Running past) (concludes : reported (⟨.delete tx row, some false⟩ :: past) = some reports) :
    deletedBy past = [] ∧ reports = [] := by
  unfold reported at concludes
  split at concludes
  · rename_i finished
    rcases finished with committed | ⟨_, nothing⟩
    · have running' : Running (⟨.delete tx row, some false⟩ :: past) := running.cons rfl
      rw [running'.hasCommitted] at committed
      cases committed
    · rw [nothing, Option.some.injEq] at concludes
      exact ⟨nothing, concludes.symm⟩
  · cases concludes

/-- The last deletion is the point of a call that has deleted nothing. -/
theorem Linear.skipped {tx : Nat} {row : Session} {reports : List Session}
    {rest : Option Bool → Program (Sql Session) (Exchange SessionCalls)}
    (linear : Linear db users table config points last)
    (performed : Performed db users table config task call (.delete tx row) (some false) rest store)
    (concludes : reported (⟨.delete tx row, some false⟩ :: transcript task config.history) = some reports) :
    ∃ points last, Linear db users table (advanced config task call (.delete tx row) (some false) rest store)
      points last := by
  obtain ⟨writes, within, running, others, left⟩ := performed.permitted.deletes
  obtain ⟨nothing, rfl⟩ := reported_skipped running concludes
  obtain ⟨condition, selects, chosen, origin⟩ := rowsLeft_selected performed.reached performed.started
    (List.suffix_refl _) left List.mem_cons_self
  refine linear.absent performed.selected (performed.changes.rows_eq fun tx same => by cases same) writes selects
    ?_ ((concluded_writing writes).trans concludes) ?_
  · rw [concluded_writing writes, reported_trying running left]
  intro single other present
  refine eq_false_of_ne_true fun chosen' => ?_
  obtain rfl := performed.unique writes single selects (Origin.of_row performed.reached present) origin chosen' chosen
  obtain ⟨fails, executed⟩ := performed.executed
  rcases delete_skips executed with absent | mine
  · exact absent present
  · have deleted := (locks_iff performed.reached within running).mp mine
    rw [nothing] at deleted
    cases deleted

theorem Linear.delete {tx : Nat} {row : Session} {reply : Option Bool}
    {rest : Option Bool → Program (Sql Session) (Exchange SessionCalls)}
    (linear : Linear db users table config points last)
    (performed : Performed db users table config task call (.delete tx row) reply rest store) :
    ∃ points last, Linear db users table (advanced config task call (.delete tx row) reply rest store)
      points last := by
  have kept : store.rows = config.world.rows := performed.changes.rows_eq fun tx same => by cases same
  obtain ⟨writes, within, running, others, left⟩ := performed.permitted.deletes
  have before : concluded call.command (transcript task config.history) = none := by
    rw [concluded_writing writes, reported_trying running left]
  have silent : reported (⟨.delete tx row, reply⟩ :: transcript task config.history) = none →
      ∃ points last, Linear db users table (advanced config task call (.delete tx row) reply rest store)
        points last := by
    intro unfinished
    refine ⟨points, last, linear.silent performed.selected kept ?_⟩
    rw [before, concluded_writing writes, unfinished]
  have running' : Running (⟨.delete tx row, reply⟩ :: transcript task config.history) := running.cons rfl
  cases reply with
  | none => exact silent (reported_failed running' rfl)
  | some result =>
      cases result with
      | true =>
          refine silent (reported_effective running' ?_)
          exact List.append_ne_nil_of_right_ne_nil _ (List.cons_ne_nil _ _)
      | false =>
          cases concludes : reported (⟨.delete tx row, some false⟩ :: transcript task config.history) with
          | none => exact silent concludes
          | some reports => exact linear.skipped performed concludes

/-- The keys of the row that a call is about to commit are new. -/
theorem Performed.fresh_key {key : Session → String} (fresh : FreshRows db key table.rows config)
    (performed : Performed db users table config task call statement reply rest store)
    (running : Running (transcript task config.history)) {row : Session} (inserts : call.inserted db = some row) :
    key row ∉ config.world.rows.map key := by
  intro known
  obtain ⟨other, present, same⟩ := List.mem_map.mp known
  rcases reaches_origin performed.reached other present with old | ⟨owner, call', started', inserts', committed⟩
  · exact fresh.new task call row performed.started inserts (same ▸ List.mem_map_of_mem old)
  · obtain rfl := fresh.once owner task call' call other row started' performed.started inserts' inserts same
    rw [running.hasCommitted] at committed
    cases committed

/-- The committed rows stay different. -/
theorem Performed.commit_nodup {tx : Nat} {reply : Option Unit}
    {rest : Option Unit → Program (Sql Session) (Exchange SessionCalls)} (nodup : config.world.rows.Nodup)
    (performed : Performed db users table config task call (.commit tx) reply rest store) :
    (config.world.commit tx).rows.Nodup := by
  have commits := performed.permitted.commits
  refine List.nodup_append.mpr ⟨nodup.filter _, ?_, ?_⟩
  · refine List.Nodup.map_on ?_ ((reaches_drafts_nodup performed.reached).filter _)
    rintro ⟨first, row⟩ left ⟨second, other⟩ right same
    have mine := of_decide_eq_true (List.mem_filter.mp left).2
    have mine' := of_decide_eq_true (List.mem_filter.mp right).2
    exact Prod.ext (mine.trans mine'.symm) same
  · intro row kept new inserted same
    subst same
    obtain ⟨⟨owner, _⟩, draft, rfl⟩ := List.mem_map.mp inserted
    obtain ⟨open', mine⟩ := List.mem_filter.mp draft
    obtain rfl : owner = tx := of_decide_eq_true mine
    have inserts := (drafts_iff performed.reached performed.started commits.within commits.running
      fun row inserts => (commits.drafted row inserts).2).mp open'
    exact performed.fresh_key performed.freshHash commits.running inserts
      (List.mem_map_of_mem (List.mem_filter.mp kept).1)

/-- A commit that succeeds is the point of its call. -/
theorem Linear.commit {tx : Nat} {reply : Option Unit}
    {rest : Option Unit → Program (Sql Session) (Exchange SessionCalls)}
    (linear : Linear db users table config points last)
    (performed : Performed db users table config task call (.commit tx) reply rest store) :
    ∃ points last, Linear db users table (advanced config task call (.commit tx) reply rest store) points last := by
  have commits := performed.permitted.commits
  cases reply with
  | none =>
      exact ⟨points, last, linear.silent performed.selected
        (performed.changes.rows_eq fun tx same => by cases same) rfl⟩
  | some done =>
      obtain rfl : store = config.world.commit tx := by
        cases performed.changes with
        | nothing idle => cases idle
        | committed => rfl
      have present : ∀ row, row ∈ last.rows ↔ row ∈ config.world.rows := linear.same
      have deletes : Erases db last call.command (deletedBy (transcript task config.history)) := by
        intro row deleted
        have locked := (locks_iff performed.reached commits.within commits.running).mpr deleted
        exact ⟨(present row).mpr (config.world.locked _ locked),
          deleted_selected performed.reached performed.started deleted⟩
      have missing : ∀ (key : Session → String) (row : Session), key row ∉ config.world.rows.map key →
          key row ∉ last.rows.map key := by
        intro key row unknown known
        obtain ⟨other, inside, same⟩ := List.mem_map.mp known
        exact unknown (List.mem_map.mpr ⟨other, (present other).mp inside, same⟩)
      obtain ⟨after, atomic, members⟩ := atomic_committed commits.writes
        (commits.effective.imp And.left And.right) deletes fun row inserts =>
          ⟨(commits.drafted row inserts).1,
            missing _ row (performed.fresh_key performed.freshHash commits.running inserts),
            missing _ row (performed.fresh_key performed.freshID commits.running inserts)⟩
      have before : concluded call.command (transcript task config.history) = none := by
        rw [concluded_writing commits.writes, commits.effective.reported commits.running]
      have concludes : concluded call.command (⟨.commit tx, some done⟩ :: transcript task config.history) =
          some (deletedBy (transcript task config.history)) := by
        rw [concluded_writing commits.writes]
        exact reported_committed
      obtain ⟨point, next⟩ := linear.point performed.selected before concludes atomic (fun row => by
        rw [members, present, RowStore.mem_commit, locks_iff performed.reached commits.within commits.running,
          drafts_iff performed.reached performed.started commits.within commits.running
            fun row inserts => (commits.drafted row inserts).2]) (performed.commit_nodup linear.nodup)
      exact ⟨_, _, next⟩

/-- Every statement keeps the order of the points. -/
theorem Linear.advance (linear : Linear db users table config points last)
    (performed : Performed db users table config task call statement reply rest store) :
    ∃ points last, Linear db users table (advanced config task call statement reply rest store) points last := by
  cases statement with
  | begin =>
      exact ⟨points, last, linear.silent performed.selected
        (performed.changes.rows_eq fun tx same => by cases same) rfl⟩
  | candidates condition => exact linear.choose performed
  | delete tx row => exact linear.delete performed
  | insert tx row =>
      exact ⟨points, last, linear.silent performed.selected
        (performed.changes.rows_eq fun tx same => by cases same) rfl⟩
  | commit tx => exact linear.commit performed
  | rollback tx =>
      exact ⟨points, last, linear.silent performed.selected
        (performed.changes.rows_eq fun tx same => by cases same) rfl⟩

end Steps

section
variable {db : Database} {users : UserTable} {table : SessionTable} {config : CallsConfig}

/-- Every run has an order of points. -/
theorem reaches_linear (reached : CallsReach db users table.rows config) :
    FreshRows db Session.tokenHash table.rows config → FreshRows db Session.id table.rows config →
      ∃ points last, Linear db users table config points last := by
  apply reached.invariant
  · intro _ _
    refine ⟨[], table, .nothing, fun _ => Iff.rfl, table.rows_nodup, List.Sublist.refl _, List.nodup_nil, ?_, ?_⟩
    · rintro point ⟨⟩
    · rintro task call rows ⟨⟩
  · intro config label next reached earlier _ moved freshHash freshID
    have freshHash' := freshHash.before moved
    have freshID' := freshID.before moved
    obtain ⟨points, last, linear⟩ := earlier freshHash' freshID'
    obtain ⟨call, _, rfl⟩ | ⟨task, fails, call, statement, rest, reply, store, _, selected, executed, rfl⟩ :=
      transaction_cases moved
    · exact ⟨points, last, linear.start reached call _⟩
    · exact linear.advance ⟨reached, selected, ⟨fails, executed⟩, freshHash', freshID'⟩

end

/-- The reply of a call that an error of the database ends. -/
def databaseError : (command : SessionCommand) → command.Reply
  | .create _ => .error .other
  | .getByTokenHash _ => .error .other
  | .deleteByID _ _ => .error .other
  | .deleteByTokenHash _ => .error .other
  | .rotateToken _ _ => .error .other
  | .deleteAllByUserID _ => ([], some .other)
  | .deleteAllByUserIDExcept _ _ => ([], some .other)
  | .listByUserID _ => .error .other

theorem replyOf_none (users : UserTable) (id : String) (now : Time) (command : SessionCommand) :
    replyOf users id now command none = databaseError command := by
  cases command <;> rfl

/-- However the statements of the calls interleave and whichever of them fail, each call takes effect at one of its
own statements: in the order of these statements the atomic calls give the answers of all calls and the committed
rows, where a bulk delete removes just the sessions whose hashes it returns. A call without such a statement reports an
error of the database. -/
theorem repository_linearizable (db : Database) (users : UserTable) (table : SessionTable) (config : CallsConfig)
    (reached : CallsReach db users table.rows config)
    (freshHash : ((table.rows ++ insertedRows db config).map Session.tokenHash).Nodup)
    (freshID : ((table.rows ++ insertedRows db config).map Session.id).Nodup) :
    ∃ points last, Replays db users table points last ∧ last.rows.Perm config.world.rows ∧
      (points.map Point.event).Sublist config.history.reverse ∧
      (points.map fun point => point.event.task).Nodup ∧
      (∀ point ∈ points, config.request point.event.task = some point.call) ∧
      ∀ task call answer, config.request task = some call → config.Answered task answer →
        (∃ point ∈ points, point.event.task = task ∧ point.answer = answer) ∨
          (answer = ⟨call.command, databaseError call.command⟩ ∧ ∀ point ∈ points, point.event.task ≠ task) := by
  obtain ⟨points, last, linear⟩ := reaches_linear reached (.of_nodup freshHash) (.of_nodup freshID)
  refine ⟨points, last, linear.replays,
    (List.perm_ext_iff_of_nodup last.rows_nodup linear.nodup).mpr linear.same, linear.order, linear.once,
    fun point member => (linear.settled point member).1, ?_⟩
  intro task call answer started answered
  have ended : CallEnds users call (transcript task config.history) answer :=
    (calls_disciplined reached).answered task call answer started answered
  cases concludes : concluded call.command (transcript task config.history) with
  | some rows =>
      obtain ⟨point, member, mine⟩ := linear.complete task call rows started concludes
      obtain ⟨known, rows', concludes', answers⟩ := linear.settled point member
      rw [mine, started, Option.some.injEq] at known
      rw [mine, ← known, concludes, Option.some.injEq] at concludes'
      refine .inl ⟨point, member, mine, ?_⟩
      rw [answers, ended, concludes, ← concludes', ← known]
  | none =>
      refine .inr ⟨?_, fun point member mine => ?_⟩
      · rw [ended, concludes, replyOf_none]
      · obtain ⟨known, rows', concludes', _⟩ := linear.settled point member
        rw [mine, started, Option.some.injEq] at known
        rw [mine, ← known, concludes] at concludes'
        cases concludes'

/-- A rotation has replaced its session. -/
def replaces : Exchange SessionCalls → Bool
  | ⟨.rotateToken _ _, .ok _⟩ => true
  | _ => false

/-- Two rotations choose the same session before either of them deletes it: one succeeds, and the calls are those
of an order in which the other comes later. -/
theorem concurrent_rotations_linearize :
    ∃ (users : UserTable) (table : SessionTable) (config : CallsConfig),
      CallsReach ⟨id, some⟩ users table.rows config ∧ (config.answer? 0).map replaces = some true ∧
      (config.answer? 1).map replaces = some false ∧
      ∃ points last, Replays ⟨id, some⟩ users table points last ∧ last.rows.Perm config.world.rows ∧
        (points.map Point.event).Sublist config.history.reverse := by
  let users : UserTable := ⟨[⟨"user", "user@example.com", "", 0, 0⟩], by simp, by simp⟩
  let table : SessionTable := ⟨[userSession "old"], by simp, by simp⟩
  let rotation (tokenHash : String) : RepositoryCall := ⟨.rotateToken "old" (userSession tokenHash), tokenHash, 0⟩
  let labels : List (Label Bool Empty RepositoryCall) := [.start (rotation "first"), .start (rotation "second"),
    .advance 0 false, .advance 1 false, .advance 0 false, .advance 1 false, .advance 0 false, .advance 0 false,
    .advance 0 false, .advance 1 false, .advance 0 false, .advance 1 false]
  obtain ⟨config, reached, checked⟩ : ∃ config, CallsReach ⟨id, some⟩ users table.rows config ∧
      decide (((config.answer? 0).map replaces = some true ∧ (config.answer? 1).map replaces = some false) ∧
        ((table.rows ++ insertedRows ⟨id, some⟩ config).map Session.tokenHash).Nodup ∧
        ((table.rows ++ insertedRows ⟨id, some⟩ config).map Session.id).Nodup) = true :=
    exists_of_run labels _ (by decide +kernel)
  obtain ⟨⟨first, second⟩, freshHash, freshID⟩ := of_decide_eq_true checked
  obtain ⟨points, last, replays, same, order, _⟩ :=
    repository_linearizable ⟨id, some⟩ users table config reached freshHash freshID
  exact ⟨users, table, config, reached, first, second, points, last, replays, same, order⟩

end AuthService
