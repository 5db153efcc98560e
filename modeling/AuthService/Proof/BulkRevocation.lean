/-
This file proves when a bulk delete leaves no session of its user while rotations run, and shows a run
in which the successor of a rotated session survives the bulk delete.
-/

import AuthService.Construction.Transactions

namespace AuthService
open Interleaving Program System ReadCommitted

abbrev RepositoryConfig :=
  Config (Sql Session) (RowStore Session) SessionJob (Except StoreError JobReply)

abbrev RepositoryLabel := Label Bool Empty SessionJob

/-- The statements of one call with the newest first. -/
abbrev Statements := List (Exchange (Sql Session))

/-- No statement has ended a transaction yet. -/
def Running (past : Statements) : Prop := ∀ exchange ∈ past, closes exchange = none

/-- The transaction was begun by the call itself. -/
def Owns (past : Statements) (tx : Nat) : Prop := (⟨.begin, some tx⟩ : Exchange (Sql Session)) ∈ past

/-- The statements that a call may perform after its past statements. -/
inductive JobMay (job : SessionJob) : Statements → Statement Session → Prop where
  | begin {past} : JobMay job past .begin
  | choose {past} (running : Running past)
      (first : ∀ exchange ∈ past, ∀ condition, exchange.command ≠ .candidates condition) :
      JobMay job past (.candidates job.condition)
  | delete {past tx rows row} (own : Owns past tx)
      (chosen : (⟨.candidates job.condition, some rows⟩ : Exchange (Sql Session)) ∈ past) (among : row ∈ rows) :
      JobMay job past (.delete tx row)
  | insert {past tx oldHash session rows row} (same : job = .rotateToken oldHash session) (own : Owns past tx)
      (running : Running past)
      (chosen : (⟨.candidates job.condition, some rows⟩ : Exchange (Sql Session)) ∈ past) (among : row ∈ rows)
      (deleted : (⟨.delete tx row, some true⟩ : Exchange (Sql Session)) ∈ past) :
      JobMay job past (.insert tx session)
  | commit {past tx rows} (own : Owns past tx) (running : Running past)
      (chosen : (⟨.candidates job.condition, some rows⟩ : Exchange (Sql Session)) ∈ past)
      (tried : ∀ row ∈ rows, ∃ result, (⟨.delete tx row, some result⟩ : Exchange (Sql Session)) ∈ past) :
      JobMay job past (.commit tx)
  | rollback {past tx} (own : Owns past tx) : JobMay job past (.rollback tx)

/-- A call that succeeds has committed. -/
def JobEnds (_ : SessionJob) (past : Statements) : Except StoreError JobReply → Prop
  | .ok _ => ∃ tx, (⟨.commit tx, some ()⟩ : Exchange (Sql Session)) ∈ past
  | .error _ => True

section Conduct
variable {job : SessionJob} {past : Statements} {tx : Nat}

theorem follows_sql {statement : Statement Session} {ends : Statements → Except StoreError statement.Reply → Prop}
    (permitted : JobMay job past statement) (finish : ∀ reply, ends (⟨statement, reply⟩ :: past) (.ok reply)) :
    (sql statement).run.Follows (JobMay job) ends past := ⟨permitted, finish⟩

theorem follows_orOther {A : Type} {ends : Statements → Except StoreError A → Prop} (value : Option A)
    (failed : value = none → ends past (.error .other))
    (given : ∀ result, value = some result → ends past (.ok result)) :
    (orOther value).run.Follows (JobMay job) ends past := by
  cases value with
  | none => exact failed rfl
  | some result => exact given result rfl

/-- The later past has only further deletions in addition. -/
def Deleting (tx : Nat) (past later : Statements) : Prop :=
  ∃ side : Statements, later = side ++ past ∧ ∀ exchange ∈ side, ∃ row, exchange.command = .delete tx row

theorem Deleting.running {later : Statements} (deleting : Deleting tx past later) (running : Running past) :
    Running later := by
  obtain ⟨side, rfl, deletions⟩ := deleting
  intro exchange member
  rcases List.mem_append.mp member with inside | inside
  · obtain ⟨command, reply⟩ := exchange
    obtain ⟨row, rfl⟩ := deletions _ inside
    rfl
  · exact running exchange inside

theorem Deleting.mem {later : Statements} (deleting : Deleting tx past later) {exchange : Exchange (Sql Session)}
    (member : exchange ∈ past) : exchange ∈ later := by
  obtain ⟨side, rfl, _⟩ := deleting
  exact List.mem_append_right _ member

theorem Deleting.cons {later : Statements} {row : Session} {reply : Option Bool}
    (deleting : Deleting tx (⟨.delete tx row, reply⟩ :: past) later) : Deleting tx past later := by
  obtain ⟨side, rfl, deletions⟩ := deleting
  refine ⟨side ++ [⟨.delete tx row, reply⟩], by simp, ?_⟩
  intro exchange member
  rcases List.mem_append.mp member with inside | inside
  · exact deletions exchange inside
  · obtain rfl := List.mem_singleton.mp inside
    exact ⟨row, rfl⟩

/-- The loop of a delete statement tries all its candidates. -/
theorem follows_deleteRows {ends : Statements → Except StoreError (List Session) → Prop}
    {chosen : List Session} (own : Owns past tx)
    (choice : (⟨.candidates job.condition, some chosen⟩ : Exchange (Sql Session)) ∈ past)
    (rows : List Session) (among : ∀ row ∈ rows, row ∈ chosen)
    (failed : ∀ later, Deleting tx past later → ends later (.error .other))
    (finish : ∀ later deleted, Deleting tx past later →
      (∀ row ∈ rows, ∃ result, (⟨.delete tx row, some result⟩ : Exchange (Sql Session)) ∈ later) →
      (∀ row ∈ deleted, row ∈ rows ∧ (⟨.delete tx row, some true⟩ : Exchange (Sql Session)) ∈ later) →
      ends later (.ok deleted)) :
    (deleteRows tx rows).run.Follows (JobMay job) ends past := by
  induction rows generalizing past ends with
  | nil => exact finish past [] ⟨[], rfl, by simp⟩ (by simp) (by simp)
  | cons row rows ih =>
      unfold deleteRows
      rw [follows_run_bind]
      refine follows_sql (.delete own choice (among row List.mem_cons_self)) fun reply => ?_
      have grown : Deleting tx past (⟨.delete tx row, reply⟩ :: past) :=
        ⟨[⟨.delete tx row, reply⟩], rfl, by simp⟩
      rw [continues_ok, follows_run_bind]
      apply follows_orOther
      · intro _
        exact failed _ grown
      rintro result rfl
      rw [continues_ok, follows_run_bind]
      apply ih (grown.mem own) (grown.mem choice) fun other inside => among other (List.mem_cons_of_mem _ inside)
      · intro later deleting
        exact failed later deleting.cons
      · intro later deleted deleting tried effective
        have first : (⟨.delete tx row, some result⟩ : Exchange (Sql Session)) ∈ later :=
          deleting.mem List.mem_cons_self
        refine finish later _ deleting.cons ?_ ?_
        · intro other inside
          rcases List.mem_cons.mp inside with rfl | inside
          · exact ⟨result, first⟩
          · exact tried other inside
        · intro other inside
          cases result with
          | false => exact (effective other inside).imp_left (List.mem_cons_of_mem _)
          | true =>
              rcases List.mem_cons.mp inside with rfl | inside
              · exact ⟨List.mem_cons_self, first⟩
              · exact (effective other inside).imp_left (List.mem_cons_of_mem _)

/-- What a delete statement leaves in the past of its call. -/
structure Swept (job : SessionJob) (tx : Nat) (past : Statements) (chosen deleted : List Session) : Prop where
  own : Owns past tx
  running : Running past
  choice : (⟨.candidates job.condition, some chosen⟩ : Exchange (Sql Session)) ∈ past
  tried : ∀ row ∈ chosen, ∃ result, (⟨.delete tx row, some result⟩ : Exchange (Sql Session)) ∈ past
  effective : ∀ row ∈ deleted, row ∈ chosen ∧ (⟨.delete tx row, some true⟩ : Exchange (Sql Session)) ∈ past

/-- A delete statement chooses its candidates once and tries all of them. -/
theorem follows_deleteWhere {ends : Statements → Except StoreError (List Session) → Prop}
    (failed : ∀ later, Owns later tx → ends later (.error .other))
    (finish : ∀ later chosen deleted, Swept job tx later chosen deleted → ends later (.ok deleted)) :
    (deleteWhere tx job.condition).run.Follows (JobMay job) ends [⟨.begin, some tx⟩] := by
  have running : Running [⟨.begin, some tx⟩] := by
    intro exchange member
    obtain rfl := List.mem_singleton.mp member
    rfl
  unfold deleteWhere
  rw [follows_run_bind]
  refine follows_sql (.choose running ?_) fun reply => ?_
  · intro exchange member condition
    obtain rfl := List.mem_singleton.mp member
    simp
  have own : Owns [⟨.candidates job.condition, reply⟩, ⟨.begin, some tx⟩] tx :=
    List.mem_cons_of_mem _ List.mem_cons_self
  rw [continues_ok, follows_run_bind]
  apply follows_orOther
  · intro _
    exact failed _ own
  rintro chosen rfl
  rw [continues_ok]
  apply follows_deleteRows own List.mem_cons_self chosen fun _ inside => inside
  · intro later deleting
    exact failed later (deleting.mem own)
  · intro later deleted deleting tried effective
    refine finish later chosen deleted ⟨deleting.mem own, deleting.running ?_,
      deleting.mem List.mem_cons_self, tried, effective⟩
    intro exchange member
    rcases List.mem_cons.mp member with rfl | inside
    · rfl
    · exact running exchange inside

/-- The deferred rollback keeps what the body has achieved. -/
theorem follows_inTransaction (body : Nat → Script JobReply)
    (inside : ∀ tx, (body tx).run.Follows (JobMay job)
      (fun past answer => Owns past tx ∧ JobEnds job past answer) [⟨.begin, some tx⟩]) :
    (inTransaction body).run.Follows (JobMay job) (JobEnds job) [] := by
  unfold inTransaction
  rw [follows_run_bind]
  refine follows_sql .begin fun reply => ?_
  rw [continues_ok, follows_run_bind]
  apply follows_orOther
  · intro _
    trivial
  rintro tx rfl
  rw [continues_ok, follows_run_bind, follows_run_lift]
  refine Follows.imp ?_ _ _ (inside tx)
  rintro past answer ⟨own, ended⟩
  rw [continues_ok, follows_run_bind]
  refine follows_sql (.rollback own) fun _ => ?_
  rw [continues_ok]
  cases answer with
  | error error => trivial
  | ok reply =>
      obtain ⟨committed, member⟩ := ended
      exact ⟨committed, List.mem_cons_of_mem _ member⟩

/-- The calls conduct themselves as specified. -/
theorem follows_script (job : SessionJob) :
    job.script.run.Follows (JobMay job) (JobEnds job) [] := by
  cases job with
  | rotateToken oldHash session =>
      apply follows_inTransaction
      intro tx
      unfold rotateStatements
      rw [follows_run_bind]
      apply follows_deleteWhere
      · intro later own
        exact ⟨own, trivial⟩
      intro later chosen deleted swept
      rw [continues_ok]
      split
      · exact ⟨swept.own, trivial⟩
      rename_i some'
      obtain ⟨row, inside⟩ := List.exists_mem_of_ne_nil deleted some'
      obtain ⟨among, effective⟩ := swept.effective row inside
      rw [follows_run_bind]
      refine follows_sql (.insert rfl swept.own swept.running swept.choice among effective) fun reply => ?_
      rw [continues_ok, follows_run_bind]
      apply follows_orOther
      · intro _
        exact ⟨List.mem_cons_of_mem _ swept.own, trivial⟩
      rintro _ rfl
      rw [continues_ok, follows_run_bind]
      refine follows_sql (.commit (List.mem_cons_of_mem _ swept.own) ?_
        (List.mem_cons_of_mem _ swept.choice) ?_) fun reply => ?_
      · intro exchange member
        rcases List.mem_cons.mp member with rfl | inside
        · rfl
        · exact swept.running exchange inside
      · intro row inside
        exact (swept.tried row inside).imp fun _ => List.mem_cons_of_mem _
      have own := List.mem_cons_of_mem (⟨.commit tx, reply⟩ : Exchange (Sql Session))
        (List.mem_cons_of_mem (⟨.insert tx session, some ()⟩ : Exchange (Sql Session)) swept.own)
      rw [continues_ok, follows_run_bind]
      apply follows_orOther
      · intro _
        exact ⟨own, trivial⟩
      rintro _ rfl
      exact ⟨own, tx, List.mem_cons_self⟩
  | deleteAllByUserID userID =>
      apply follows_inTransaction
      intro tx
      unfold deleteAllStatements
      rw [follows_run_bind]
      apply follows_deleteWhere
      · intro later own
        exact ⟨own, trivial⟩
      intro later chosen deleted swept
      rw [continues_ok, follows_run_bind]
      refine follows_sql (.commit swept.own swept.running swept.choice swept.tried) fun reply => ?_
      rw [continues_ok, follows_run_bind]
      apply follows_orOther
      · intro _
        exact ⟨List.mem_cons_of_mem _ swept.own, trivial⟩
      rintro _ rfl
      exact ⟨List.mem_cons_of_mem _ swept.own, tx, List.mem_cons_self⟩

end Conduct

/-- The task has chosen the candidates of its delete statement. -/
def chooses (task : Nat) : Event (Sql Session) → Bool
  | ⟨owner, .candidates _, some _⟩ => owner = task
  | _ => false

/-- The first task has chosen its candidates and its transaction is still open. -/
def sweeping (history : List (Event (Sql Session))) : Bool :=
  history.any (chooses 0) && history.all fun event => event.task ≠ 0 || (closes event.exchange).isNone

/-- The bulk delete chooses its candidates while no rotation has an uncommitted deletion of a session
of the user, and no rotation deletes such a session until the bulk delete has ended. -/
def undivided (userID : String) (config : RepositoryConfig) : RepositoryLabel → Bool
  | .advance task _ =>
      match config.tasks[task]? with
      | some ⟨.deleteAllByUserID _, .call (.candidates _) _⟩ =>
          config.world.locks.all fun lock => lock.2.userID ≠ userID
      | some ⟨.rotateToken _ _, .call (.delete _ row) _⟩ => row.userID ≠ userID || !sweeping config.history
      | _ => true
  | _ => true

/-- Only rotations start, and each replaces a session by one of the same user. -/
def rotates (owner : String → String) : RepositoryLabel → Bool
  | .start (.rotateToken oldHash session) =>
      session.userID = owner oldHash && session.userID = owner session.tokenHash
  | .start (.deleteAllByUserID _) => false
  | _ => true

/-- The transaction of the first task is still open. -/
def SweepOpen (history : List (Event (Sql Session))) : Prop :=
  ∀ event ∈ history, event.task = 0 → closes event.exchange = none

/-- The candidates of the bulk delete are the committed sessions of the user. -/
structure Covered (userID : String) (config : RepositoryConfig) (chosen : List Session) : Prop where
  all : ∀ row ∈ config.world.rows, row.userID = userID → row ∈ chosen
  present : ∀ row ∈ chosen, row ∈ config.world.rows
  mine : ∀ tx row, (tx, row) ∈ config.world.locks → row.userID = userID →
    (⟨0, .begin, some tx⟩ : Event (Sql Session)) ∈ config.history
  tried : ∀ tx row result, (⟨0, .delete tx row, some result⟩ : Event (Sql Session)) ∈ config.history →
    (tx, row) ∈ config.world.locks

/-- The first task is the bulk delete, and the others are rotations. -/
def Jobs (owner : String → String) (userID : String) (config : RepositoryConfig) : Prop :=
  config.request 0 = some (.deleteAllByUserID userID) ∧
    ∀ task job, config.request task = some job → task = 0 ∨ ∃ oldHash session,
      job = .rotateToken oldHash session ∧ session.userID = owner oldHash ∧
        session.userID = owner session.tokenHash

/-- The table in a run in which the bulk delete is undivided. -/
structure Window (owner : String → String) (userID : String) (config : RepositoryConfig) : Prop where
  owned : ∀ row ∈ config.world.rows, row.userID = owner row.tokenHash
  drafted : ∀ tx row, (tx, row) ∈ config.world.drafts → row.userID = owner row.tokenHash ∧
    (∃ task, task ≠ 0 ∧ (⟨task, .begin, some tx⟩ : Event (Sql Session)) ∈ config.history) ∧
    ∃ old, (tx, old) ∈ config.world.locks ∧ old.userID = row.userID
  covered : ∀ chosen, (⟨0, .candidates (SessionJob.deleteAllByUserID userID).condition, some chosen⟩ :
    Event (Sql Session)) ∈ config.history → SweepOpen config.history → Covered userID config chosen
  cleared : ∀ tx, (⟨0, .commit tx, some ()⟩ : Event (Sql Session)) ∈ config.history →
    ∀ row ∈ config.world.rows, row.userID ≠ userID

theorem sweeping_of_open {history : List (Event (Sql Session))} {condition : Session → Bool}
    {chosen : List Session}
    (member : (⟨0, .candidates condition, some chosen⟩ : Event (Sql Session)) ∈ history)
    (running : SweepOpen history) : sweeping history = true := by
  simp only [sweeping, Bool.and_eq_true, List.any_eq_true, List.all_eq_true, Bool.or_eq_true,
    decide_eq_true_eq, Option.isNone_iff_eq_none]
  refine ⟨⟨_, member, by simp [chooses]⟩, ?_⟩
  intro event inside
  by_cases first : event.task = 0
  · exact .inr (running event inside first)
  · exact .inl first

/-- A call ends only a transaction that it began. -/
theorem JobMay.owns_closed {job : SessionJob} {past : Statements} {statement : Statement Session}
    {reply : statement.Reply} {tx : Nat} (permitted : JobMay job past statement)
    (closed : closes (⟨statement, reply⟩ : Exchange (Sql Session)) = some tx) : Owns past tx := by
  cases permitted with
  | commit own =>
      cases reply with
      | none => cases closed
      | some _ =>
          obtain rfl := Option.some.inj closed
          exact own
  | rollback own =>
      obtain rfl := Option.some.inj closed
      exact own
  | _ => cases closed

section
variable {owner : String → String} {userID : String} {config next : RepositoryConfig} {rows : List Session}
variable {allowed : RepositoryConfig → RepositoryLabel → Prop}

theorem repository_disciplined
    (reached : repository.Reaches allowed
      (repository.begin (.quiescent rows) [.deleteAllByUserID userID]) config) :
    Disciplined JobMay JobEnds config :=
  reached.disciplined follows_script

/-- A task ends only the transactions that it began. -/
theorem closed_by_owner (disciplined : Disciplined JobMay JobEnds config) {event : Event (Sql Session)}
    {tx : Nat} (member : event ∈ config.history) (closed : closes event.exchange = some tx) :
    (⟨event.task, .begin, some tx⟩ : Event (Sql Session)) ∈ config.history := by
  obtain ⟨later, past, same, job, _, permitted⟩ := disciplined.permitted.mem member
  exact mem_of_past same (permitted.owns_closed closed)

/-- The rows that an open transaction has deleted are locked. -/
theorem locked_of_running
    (reached : repository.Reaches allowed
      (repository.begin (.quiescent rows) [.deleteAllByUserID userID]) config)
    {task tx : Nat} {row : Session} (own : Owns (transcript task config.history) tx)
    (running : Running (transcript task config.history))
    (deleted : (⟨.delete tx row, some true⟩ : Exchange (Sql Session)) ∈ transcript task config.history) :
    (tx, row) ∈ config.world.locks := by
  refine reaches_held reached task tx row ((mem_transcript _ _ _).mp deleted) ?_
  intro event member closed
  have begun := closed_by_owner (repository_disciplined reached) member closed
  have same : event.task = task := begun_owner reached begun ((mem_transcript _ _ _).mp own)
  have open' := running event.exchange ((mem_transcript _ _ _).mpr (same ▸ member))
  rw [open'] at closed
  cases closed

theorem reaches_jobs
    (reached : repository.Reaches (fun _ label => rotates owner label = true)
      (repository.begin (.quiescent rows) [.deleteAllByUserID userID]) config) :
    Jobs owner userID config := by
  apply reached.invariant
  · refine ⟨rfl, ?_⟩
    intro task job started
    cases task with
    | zero => exact .inl rfl
    | succ task => cases started
  · rintro config label next reached ⟨first, others⟩ replaces moved
    refine ⟨step_request label moved 0 _ first, ?_⟩
    intro task job started
    obtain ⟨added, rfl, rfl⟩ | ⟨_, _, request, _, _, _, _, _, selected, _, rfl⟩ := transaction_cases moved
    · simp only [Config.request, List.getElem?_append] at started
      split at started
      · exact others task job started
      · obtain ⟨entry, member, rfl⟩ := Option.map_eq_some_iff.mp started
        obtain ⟨_, rfl⟩ := List.getElem?_eq_some_iff.mp member
        rw [List.getElem_singleton]
        cases added with
        | rotateToken oldHash session =>
            obtain ⟨owned, fresh⟩ := (Bool.and_eq_true _ _).mp replaces
            exact .inr ⟨oldHash, session, rfl, of_decide_eq_true owned, of_decide_eq_true fresh⟩
        | deleteAllByUserID _ => cases replaces
    · cases known : config.request task with
      | some earlier =>
          rw [step_request label moved task earlier known, Option.some.injEq] at started
          exact others task job (known.trans (congrArg some started))
      | none =>
          simp only [Config.request, Option.map_eq_none_iff, List.getElem?_eq_none_iff] at known
          obtain ⟨entry, member, _⟩ := Option.map_eq_some_iff.mp started
          have inside := (List.getElem?_eq_some_iff.mp member).1
          rw [List.length_set] at inside
          omega

end

section
variable {owner : String → String} {userID : String} {config : RepositoryConfig} {rows : List Session}
variable {task : Nat} {job : SessionJob} {statement : Statement Session}
variable {rest : statement.Reply → Program (Sql Session) (Except StoreError JobReply)} {reply : statement.Reply}
variable {store : RowStore Session} {fails : Bool}

/-- The steps of the runs in which the bulk delete is undivided. -/
abbrev Undivided (owner : String → String) (userID : String) (config : RepositoryConfig)
    (label : RepositoryLabel) : Prop :=
  (undivided userID config label && rotates owner label) = true

theorem Undivided.undivided {label : RepositoryLabel} (allowed : Undivided owner userID config label) :
    undivided userID config label = true := ((Bool.and_eq_true _ _).mp allowed).1

theorem Undivided.rotates {label : RepositoryLabel} (allowed : Undivided owner userID config label) :
    rotates owner label = true := ((Bool.and_eq_true _ _).mp allowed).2

namespace Window

/-- A draft belongs to a rotation that holds the session that it replaces. -/
theorem drafted_step (window : Window owner userID config)
    (reached : repository.Reaches (Undivided owner userID)
      (repository.begin (.quiescent rows) [.deleteAllByUserID userID]) config)
    (selected : config.tasks[task]? = some ⟨job, .call statement rest⟩)
    (changes : ReadCommitted.Changes config.world ⟨statement, reply⟩ store) {tx : Nat} {row : Session}
    (member : (tx, row) ∈ store.drafts) :
    row.userID = owner row.tokenHash ∧
      (∃ creator, creator ≠ 0 ∧ (⟨creator, .begin, some tx⟩ : Event (Sql Session)) ∈
        ⟨task, statement, reply⟩ :: config.history) ∧
      ∃ old, (tx, old) ∈ store.locks ∧ old.userID = row.userID := by
  rcases changes.draft_cases member with ⟨before, running⟩ | same
  · obtain ⟨owned, ⟨creator, other, begun⟩, old, locked, identity⟩ := window.drafted tx row before
    exact ⟨owned, ⟨creator, other, List.mem_cons_of_mem _ begun⟩, old, changes.lock_kept locked running, identity⟩
  · cases same
    have jobs := reaches_jobs (reached.imp fun _ _ => Undivided.rotates)
    have started : config.request task = some job := by rw [Config.request, selected, Option.map_some]
    cases (repository_disciplined reached).next_permitted selected with
    | insert rotation own running choice among deleted =>
        have other : task ≠ 0 := by
          rintro rfl
          rw [jobs.1, rotation] at started
          cases started
        rcases jobs.2 task job started with first | ⟨oldHash', session', rotation', owned, fresh⟩
        · exact absurd first other
        · rw [rotation] at rotation'
          cases rotation'
          have locked := locked_of_running reached own running deleted
          have matched := reaches_chosen reached ((mem_transcript _ _ _).mp choice) _ among
          rw [rotation] at matched
          refine ⟨fresh, ⟨task, other, List.mem_cons_of_mem _ ((mem_transcript _ _ _).mp own)⟩, _,
            changes.lock_kept locked (by simp [closes]), ?_⟩
          rw [window.owned _ (config.world.locked _ locked), owned]
          exact congrArg owner (of_decide_eq_true matched)

/-- The sessions of the user stay the same while the bulk delete runs. -/
theorem covered_step (window : Window owner userID config)
    (reached : repository.Reaches (Undivided owner userID)
      (repository.begin (.quiescent rows) [.deleteAllByUserID userID]) config)
    (permitted : undivided userID config (.advance task fails) = true)
    (selected : config.tasks[task]? = some ⟨job, .call statement rest⟩)
    (executed : RowStore.exec statement fails config.world = some (reply, store))
    (tasks : List (Task (Sql Session) SessionJob (Except StoreError JobReply))) {chosen : List Session}
    (member : (⟨0, .candidates (SessionJob.deleteAllByUserID userID).condition, some chosen⟩ :
      Event (Sql Session)) ∈ config.history)
    (running : SweepOpen (⟨task, statement, reply⟩ :: config.history)) :
    Covered userID ⟨store, tasks, ⟨task, statement, reply⟩ :: config.history⟩ chosen := by
  have disciplined := repository_disciplined reached
  have changes := ReadCommitted.exec_changes executed
  have before : SweepOpen config.history := fun event inside => running event (List.mem_cons_of_mem _ inside)
  have covered := window.covered chosen member before
  have closer {tx : Nat} (closed : closes (⟨statement, reply⟩ : Exchange (Sql Session)) = some tx)
      (begun : (⟨0, .begin, some tx⟩ : Event (Sql Session)) ∈ config.history) : False := by
    have own := (disciplined.next_permitted selected).owns_closed closed
    obtain rfl := begun_owner reached ((mem_transcript _ _ _).mp own) begun
    rw [running _ List.mem_cons_self rfl] at closed
    cases closed
  refine ⟨?_, ?_, ?_, ?_⟩
  · intro row inside identity
    rcases changes.row_cases inside with old | ⟨tx, same, draft⟩
    · exact covered.all row old identity
    · obtain ⟨_, ⟨creator, other, begun⟩, old, locked, replaced⟩ := window.drafted tx row draft
      have begun' := covered.mine tx old locked (replaced.trans identity)
      exact absurd (begun_owner reached begun begun') other
  · intro row inside
    have identity := of_decide_eq_true (reaches_chosen reached member row inside)
    rcases changes.row_kept (covered.present row inside) with kept | ⟨tx, same, locked⟩
    · exact kept
    · exact (closer (by rw [same]; rfl) (covered.mine tx row locked identity)).elim
  · intro tx row inside identity
    rcases changes.lock_cases inside with ⟨old, _⟩ | ⟨same, _⟩
    · exact List.mem_cons_of_mem _ (covered.mine tx row old identity)
    · cases same
      cases disciplined.next_permitted selected with
      | delete own choice among =>
          cases job with
          | rotateToken oldHash session =>
              simp only [undivided, selected, identity, sweeping_of_open member before, ne_eq,
                not_true_eq_false, decide_false, Bool.not_true, Bool.or_self, Bool.false_eq_true] at permitted
          | deleteAllByUserID other =>
              have jobs := reaches_jobs (reached.imp fun _ _ => Undivided.rotates)
              have started : config.request task = some (.deleteAllByUserID other) := by
                rw [Config.request, selected, Option.map_some]
              rcases jobs.2 task _ started with rfl | ⟨_, _, impossible, _⟩
              · exact List.mem_cons_of_mem _ ((mem_transcript _ _ _).mp own)
              · cases impossible
  · intro tx row result inside
    rcases List.mem_cons.mp inside with same | old
    · cases same
      cases disciplined.next_permitted selected with
      | delete own choice among =>
          have jobs := reaches_jobs (reached.imp fun _ _ => Undivided.rotates)
          have started : config.request 0 = some job := by rw [Config.request, selected, Option.map_some]
          rw [jobs.1, Option.some.injEq] at started
          subst started
          have again := window.covered _ ((mem_transcript _ _ _).mp choice) before
          exact delete_locks executed (again.present row among)
    · refine changes.lock_kept (covered.tried tx row result old) ?_
      intro closed
      obtain ⟨later, past, same, job', _, permitted'⟩ := disciplined.permitted.mem old
      cases permitted' with
      | delete own choice among => exact closer closed (mem_of_past same own)

/-- The candidates are the committed sessions of the user when they are chosen. -/
theorem covered_choice
    (reached : repository.Reaches (Undivided owner userID)
      (repository.begin (.quiescent rows) [.deleteAllByUserID userID]) config)
    (permitted : undivided userID config (.advance 0 fails) = true)
    {condition : Session → Bool}
    {rest : (Statement.candidates condition).Reply → Program (Sql Session) (Except StoreError JobReply)}
    (selected : config.tasks[0]? = some ⟨job, .call (.candidates condition) rest⟩) {chosen : List Session}
    (executed : RowStore.exec (.candidates condition) fails config.world = some (some chosen, store))
    (tasks : List (Task (Sql Session) SessionJob (Except StoreError JobReply))) :
    Covered userID ⟨store, tasks, ⟨0, .candidates condition, some chosen⟩ :: config.history⟩ chosen := by
  have disciplined := repository_disciplined reached
  have jobs := reaches_jobs (reached.imp fun _ _ => Undivided.rotates)
  have started : config.request 0 = some job := by rw [Config.request, selected, Option.map_some]
  rw [jobs.1, Option.some.injEq] at started
  subst started
  simp only [undivided, selected, List.all_eq_true, decide_eq_true_eq] at permitted
  cases disciplined.next_permitted selected with
  | choose running first =>
      obtain ⟨replied, rfl⟩ := Prod.mk.inj (Option.some.inj executed)
      split at replied
      · cases replied
      · obtain rfl := Option.some.inj replied
        refine ⟨?_, ?_, ?_, ?_⟩
        · intro row inside identity
          exact List.mem_filter.mpr ⟨inside, decide_eq_true identity⟩
        · intro row inside
          exact (List.mem_filter.mp inside).1
        · intro tx row locked identity
          exact absurd identity (permitted _ locked)
        · intro tx row result inside
          rcases List.mem_cons.mp inside with same | old
          · cases same
          · obtain ⟨later, past, same, _, _, permitted'⟩ := disciplined.permitted.mem old
            cases permitted' with
            | delete own choice among =>
                have earlier := mem_of_past same choice
                exact absurd rfl (first _ ((mem_transcript _ _ _).mpr earlier) _)

/-- The commit of the bulk delete leaves no session of the user, and none comes back. -/
theorem cleared_step (window : Window owner userID config)
    (reached : repository.Reaches (Undivided owner userID)
      (repository.begin (.quiescent rows) [.deleteAllByUserID userID]) config)
    (selected : config.tasks[task]? = some ⟨job, .call statement rest⟩)
    (changes : ReadCommitted.Changes config.world ⟨statement, reply⟩ store) {tx : Nat}
    (member : (⟨0, .commit tx, some ()⟩ : Event (Sql Session)) ∈ ⟨task, statement, reply⟩ :: config.history)
    {row : Session} (present : row ∈ store.rows) : row.userID ≠ userID := by
  intro identity
  rcases List.mem_cons.mp member with same | before
  · cases same
    have jobs := reaches_jobs (reached.imp fun _ _ => Undivided.rotates)
    have started : config.request 0 = some job := by rw [Config.request, selected, Option.map_some]
    rw [jobs.1, Option.some.injEq] at started
    subst started
    cases (repository_disciplined reached).next_permitted selected with
    | commit own running choice tried =>
        have open' : SweepOpen config.history := by
          intro event inside first
          exact running event.exchange ((mem_transcript _ _ _).mpr (first ▸ inside))
        have covered := window.covered _ ((mem_transcript _ _ _).mp choice) open'
        cases changes with
        | nothing idle => cases idle
        | committed =>
            rcases (config.world.mem_commit tx row).mp present with ⟨old, unlocked⟩ | draft
            · obtain ⟨result, deleted⟩ := tried row (covered.all row old identity)
              exact unlocked (covered.tried tx row result ((mem_transcript _ _ _).mp deleted))
            · obtain ⟨_, ⟨creator, other, begun⟩, _⟩ := window.drafted tx row draft
              exact other (begun_owner reached begun ((mem_transcript _ _ _).mp own))
  · have gone := window.cleared tx before
    rcases changes.row_cases present with old | ⟨other, _, draft⟩
    · exact gone row old identity
    · obtain ⟨_, _, old, locked, replaced⟩ := window.drafted other row draft
      exact gone old (config.world.locked _ locked) (replaced.trans identity)

end Window

/-- Every run in which the bulk delete is undivided keeps the window. -/
theorem reaches_window (owned : ∀ row ∈ rows, row.userID = owner row.tokenHash)
    (reached : repository.Reaches (Undivided owner userID)
      (repository.begin (.quiescent rows) [.deleteAllByUserID userID]) config) :
    Window owner userID config := by
  apply reached.invariant
  · refine ⟨owned, ?_, ?_, ?_⟩
    · rintro tx row ⟨⟩
    · rintro chosen ⟨⟩
    · rintro tx ⟨⟩
  · intro config label next reached window permitted moved
    obtain ⟨_, _, rfl⟩ | ⟨task, fails, job, statement, rest, reply, store, rfl, selected, executed, rfl⟩ :=
      transaction_cases moved
    · exact ⟨window.owned, window.drafted,
        fun chosen member running => ⟨(window.covered chosen member running).all,
          (window.covered chosen member running).present, (window.covered chosen member running).mine,
          (window.covered chosen member running).tried⟩, window.cleared⟩
    · have changes := ReadCommitted.exec_changes executed
      refine ⟨?_, ?_, ?_, ?_⟩
      · intro row present
        rcases changes.row_cases present with old | ⟨tx, _, draft⟩
        · exact window.owned row old
        · exact (window.drafted tx row draft).1
      · intro tx row draft
        exact window.drafted_step reached selected changes draft
      · intro chosen member running
        rcases List.mem_cons.mp member with same | before
        · cases same
          exact Window.covered_choice reached permitted.undivided selected executed _
        · exact window.covered_step reached permitted.undivided selected executed _ before running
      · intro tx member row present
        exact window.cleared_step reached selected changes member present

end

/-- In every run of one bulk delete and any number of rotations, each of which replaces a session by one
of the same user, a successful bulk delete leaves no session of its user, provided that it chooses its
candidates while no rotation has an uncommitted deletion of a session of the user, and that no rotation
deletes such a session before the bulk delete has ended. -/
theorem bulk_delete_leaves_nothing (owner : String → String) (rows : List Session) (userID : String)
    (owned : ∀ row ∈ rows, row.userID = owner row.tokenHash) :
    ∀ config, repository.Reaches
        (fun config label => (undivided userID config label && rotates owner label) = true)
        (repository.begin (.quiescent rows) [.deleteAllByUserID userID]) config →
      ∀ hashes, config.Answered 0 (.ok (.deleted hashes)) →
        ∀ row ∈ config.world.rows, row.userID ≠ userID := by
  intro config reached hashes answered
  have window := reaches_window owned reached
  have jobs := reaches_jobs (reached.imp fun _ _ => Undivided.rotates)
  obtain ⟨tx, committed⟩ := (repository_disciplined reached).answered 0 _ _ jobs.1 answered
  exact window.cleared tx ((mem_transcript _ _ _).mp committed)

/-- A session of the sample user. -/
def userSession (tokenHash : String) : Session :=
  ⟨"", "user", "", tokenHash, "", "", "", 0, 0, 0⟩

/-- A bulk delete of the sessions of the sample user. -/
abbrev bulkStart : RepositoryConfig :=
  repository.begin (.quiescent [userSession "old"]) [.deleteAllByUserID "user"]

/-- A task performs several statements that succeed. -/
def performs (task count : Nat) : List RepositoryLabel := List.replicate count (.advance task false)

/-- In this run a rotation has deleted the old session and inserted the new one when the bulk delete
chooses its candidates, and it commits before the bulk delete reaches the old session: both calls
succeed, and the new session is left. -/
theorem rotated_session_survives :
    ∃ config, repository.Reaches (fun _ label => rotates (fun _ => "user") label = true) bulkStart config ∧
      config.tasks.length = 2 ∧ config.Answered 0 (.ok (.deleted [])) ∧ config.Answered 1 (.ok .rotated) ∧
      config.world.rows = [userSession "new"] := by
  let labels := .start (.rotateToken "old" (userSession "new")) :: (performs 1 4 ++ performs 0 2 ++
    performs 1 2 ++ performs 0 3)
  obtain ⟨config, reached, checked⟩ :
      ∃ config, repository.Reaches (fun _ label => rotates (fun _ => "user") label = true) bulkStart config ∧
        decide (config.tasks.length = 2 ∧ config.answer? 0 = some (.ok (.deleted [])) ∧
          config.answer? 1 = some (.ok .rotated) ∧ config.world.rows = [userSession "new"]) = true :=
    exists_of_run labels _ (by decide +kernel)
  obtain ⟨count, swept, rotated, left⟩ := of_decide_eq_true checked
  exact ⟨config, reached, count, Config.answered_of_answer? swept, Config.answered_of_answer? rotated, left⟩

/-- In this run the rotation is over before the bulk delete chooses its candidates. -/
theorem bulk_delete_clears_rotated :
    (∀ row ∈ [userSession "old"], row.userID = (fun _ => "user") row.tokenHash) ∧
    ∃ config, repository.Reaches (fun config label =>
        (undivided "user" config label && rotates (fun _ => "user") label) = true) bulkStart config ∧
      config.Answered 0 (.ok (.deleted ["new"])) ∧ config.Answered 1 (.ok .rotated) ∧
      ∀ row ∈ config.world.rows, row.userID ≠ "user" := by
  have owned : ∀ row ∈ [userSession "old"], row.userID = (fun _ => "user") row.tokenHash := by
    intro row member
    obtain rfl := List.mem_singleton.mp member
    rfl
  let labels := .start (.rotateToken "old" (userSession "new")) :: (performs 1 6 ++ performs 0 5)
  obtain ⟨config, reached, checked⟩ :
      ∃ config, repository.Reaches (fun config label =>
          (undivided "user" config label && rotates (fun _ => "user") label) = true) bulkStart config ∧
        decide (config.answer? 0 = some (.ok (.deleted ["new"])) ∧
          config.answer? 1 = some (.ok .rotated)) = true :=
    exists_of_run labels _ (by decide +kernel)
  obtain ⟨swept, rotated⟩ := of_decide_eq_true checked
  have answered := Config.answered_of_answer? swept
  exact ⟨owned, config, reached, answered, Config.answered_of_answer? rotated,
    bulk_delete_leaves_nothing (fun _ => "user") _ "user" owned config reached ["new"] answered⟩

end AuthService
