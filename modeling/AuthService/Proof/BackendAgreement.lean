/-
This file compares the in-memory session store with the repository on PostgreSQL, call by call.
-/

import AuthService.Proof.Twins

namespace AuthService

/-- The two stores after the same calls. -/
structure Backends where
  memory : MemoryState
  postgres : SessionTable
  names : Renaming

/-- One call with what each store leaves open. -/
structure Turn where
  command : SessionCommand
  memoryChoice : Choice
  memoryTime : Time
  postgresChoice : Choice
  postgresTime : Time

/-- Both stores execute the call. -/
def Backends.step (db : Database) (users : UserTable) (turn : Turn) (backends : Backends) :
    Option ((Result × Result) × Backends) :=
  match MemoryState.exec turn.command turn.memoryChoice users turn.memoryTime backends.memory,
      backends.postgres.exec db (turn.command.renamed backends.names) turn.postgresChoice users
        turn.postgresTime with
  | some (reply, memory), some (reply', postgres) =>
      some ((turn.command.result reply, (turn.command.renamed backends.names).result reply'),
        ⟨memory, postgres, backends.names.record (turn.command.installation reply)
          ((turn.command.renamed backends.names).installation reply')⟩)
  | _, _ => none

/-- A session is built as `Login` and `RefreshToken` build it: it belongs to a user, it has no
identifier yet and its token hash is new. -/
def Backends.built (users : UserTable) (backends : Backends) (session : Session) : Bool :=
  (users.rows.map User.id).contains session.userID && session.id = "" && session.userEmail = "" &&
    session.tokenHash ≠ "" &&
    !(backends.memory.rows.map Session.tokenHash).contains session.tokenHash &&
    !(backends.postgres.rows.map Session.tokenHash).contains session.tokenHash

/-- The drawn identifiers are new, and the database writes them in their canonical form. -/
def Backends.drawn (db : Database) (backends : Backends) (turn : Turn) : Bool :=
  !backends.names.keys.contains turn.memoryChoice.id &&
    !(backends.names.entries.map Sigma.snd).contains turn.postgresChoice.id &&
    db.uuid turn.postgresChoice.id = some turn.postgresChoice.id

/-- The sequence consists of the seven calls, the new sessions are built as the service builds them, and
no statement fails. -/
def Backends.permitted (db : Database) (users : UserTable) (backends : Backends) (turn : Turn) : Bool :=
  !turn.postgresChoice.fails && turn.postgresChoice.statement = none &&
    match turn.command with
    | .create session => backends.built users session && backends.drawn db turn
    | .rotateToken _ session => backends.built users session && backends.drawn db turn
    | .listByUserID _ => false
    | _ => true

/-- The texts of the call have the form that the columns of the database ask for: a text column
holds them, and an identifier is written in its canonical form. -/
def Backends.wellFormed (db : Database) (backends : Backends) (turn : Turn) : Bool :=
  let storable := SessionTable.storable
  let canonical := fun id => db.uuid id = some id
  let texts := fun session : Session => canonical session.userID && storable session.tokenHash &&
    storable session.deviceID && storable session.userAgent && storable session.ipAddress
  match turn.command with
  | .create session => texts session
  | .getByTokenHash tokenHash => storable tokenHash
  | .deleteByID sessionID userID => canonical userID && (backends.names.keys.contains sessionID ||
      canonical sessionID && !(backends.names.entries.map Sigma.snd).contains sessionID)
  | .deleteByTokenHash tokenHash => storable tokenHash
  | .rotateToken oldHash session => storable oldHash && texts session
  | .deleteAllByUserID userID => canonical userID
  | .deleteAllByUserIDExcept userID keepTokenHash => canonical userID && storable keepTokenHash
  | .listByUserID _ => true

/-- A read finds no session, or one whose user has no address and whose expiry the database keeps. -/
def Backends.plainRead (db : Database) (users : UserTable) (backends : Backends) : SessionCommand → Bool
  | .getByTokenHash tokenHash => backends.memory.rows.all fun session =>
      session.tokenHash ≠ tokenHash || (db.stored session.expiresAt = session.expiresAt &&
        users.rows.all fun user => user.id ≠ session.userID || user.email = "")
  | _ => true

/-- The pairs of stores that a sequence of calls can reach from two empty stores. -/
inductive Backends.Reached (db : Database) (users : UserTable) : Backends → Prop
  | empty : Reached db users ⟨.empty, .empty, ∅⟩
  | step {backends next : Backends} {turn : Turn} {results : Result × Result} (reached : Reached db users backends)
      (permitted : backends.permitted db users turn = true) (wellFormed : backends.wellFormed db turn = true)
      (executed : backends.step db users turn = some (results, next)) : Reached db users next

namespace MemoryState

variable {state next : MemoryState} {users : UserTable}

/-- No record carries the address of its user. -/
def Addressless (state : MemoryState) : Prop := ∀ address, (state.heap address).userEmail = ""

theorem Addressless.update (addressless : state.Addressless) (address : Nat) (session : Session)
    (missing : session.userEmail = "") :
    ∀ other, (Function.update state.heap address session other).userEmail = "" := by
  intro other
  rw [Function.update_apply]
  split
  · exact missing
  · exact addressless other

theorem deleteByTokenHash_heap (tokenHash : String) : (state.deleteByTokenHash tokenHash).heap = state.heap := by
  unfold deleteByTokenHash
  split <;> rfl

theorem foldl_sweepStep_heap (selected : Session → Bool) (order : List String)
    (result : List String × MemoryState) :
    (order.foldl (sweepStep selected) result).2.heap = result.2.heap := by
  induction order generalizing result with
  | nil => rfl
  | cons id order ih =>
      rw [List.foldl_cons, ih]
      unfold sweepStep
      split
      · rfl
      · dsimp only
        split <;> rfl

theorem sweep_heap {order : List String} {selected : Session → Bool} {reply : List String × Option StoreError}
    (swept : state.sweep order selected = some (reply, next)) : next.heap = state.heap := by
  unfold sweep at swept
  split at swept
  · cases swept
    exact foldl_sweepStep_heap selected order ([], state)
  · cases swept

theorem create_created {id : String} {now : Time} {session : Session} {reply : Except StoreError Session}
    (created : state.create id now session = some (reply, next)) :
    reply = .ok (stamped id now session) ∧
      next.heap = Function.update state.heap state.next (stamped id now session) := by
  unfold create at created
  split at created
  · cases created
  · cases created
    exact ⟨rfl, rfl⟩

/-- A new session gets the identifier that the store drew. -/
theorem installation_id {command : SessionCommand} {choice : Choice} {now : Time} {reply : command.Reply}
    (admissible : command.Admissible state.rowSet)
    (executed : exec command choice users now state = some (reply, next)) {pair : Session × Session}
    (installed : command.installation reply = some pair) : pair.2.id = choice.id := by
  cases command with
  | create session =>
      obtain ⟨rfl, _⟩ := create_created executed
      cases installed
      exact if_pos admissible.1
  | rotateToken oldHash session =>
      simp only [exec, rotateToken] at executed
      split at executed
      · cases executed
        cases installed
      · obtain ⟨rfl, _⟩ := create_created executed
        cases installed
        exact if_pos admissible.1
  | _ => cases installed

/-- A call that is given no address stores none. -/
theorem exec_addressless {command : SessionCommand} {choice : Choice} {now : Time} {reply : command.Reply}
    (addressless : state.Addressless)
    (missing : ∀ pair, command.installation reply = some pair → pair.1.userEmail = "")
    (executed : exec command choice users now state = some (reply, next)) : next.Addressless := by
  cases command with
  | create session =>
      obtain ⟨rfl, heap⟩ := create_created executed
      rw [Addressless, heap]
      exact addressless.update _ _ (missing (session, _) rfl :)
  | getByTokenHash tokenHash =>
      simp only [exec, getByTokenHash, Option.some.injEq] at executed
      split at executed
      · cases executed
        exact addressless
      · rename_i address _
        cases executed
        exact addressless.update _ _ (addressless address :)
  | deleteByID sessionID userID =>
      simp only [exec, deleteByID, Option.some.injEq] at executed
      split at executed
      · cases executed
        exact addressless
      · split at executed
        · cases executed
          exact addressless
        · cases executed
          exact addressless
  | deleteByTokenHash tokenHash =>
      cases executed
      rw [Addressless, deleteByTokenHash_heap]
      exact addressless
  | rotateToken oldHash session =>
      simp only [exec, rotateToken] at executed
      split at executed
      · cases executed
        exact addressless
      · obtain ⟨rfl, heap⟩ := create_created executed
        rw [Addressless, heap, deleteByTokenHash_heap]
        exact addressless.update _ _ (missing (session, _) rfl :)
  | deleteAllByUserID userID =>
      rw [Addressless, sweep_heap executed]
      exact addressless
  | deleteAllByUserIDExcept userID keepTokenHash =>
      rw [Addressless, sweep_heap executed]
      exact addressless
  | listByUserID userID =>
      simp only [exec, listByUserID] at executed
      split at executed
      · cases executed
        exact addressless
      · cases executed

/-- A read returns a record of the store with a new time of last use. -/
theorem getByTokenHash_ok (consistent : state.Consistent) {now : Time} {tokenHash : String} {session : Session}
    (found : state.getByTokenHash now tokenHash = (.ok session, next)) :
    ∃ record ∈ state.rows, record.tokenHash = tokenHash ∧ session = { record with lastUsedAt := now } := by
  unfold getByTokenHash at found
  split at found
  · cases found
  · rename_i address present
    cases found
    obtain ⟨same, back⟩ := consistent.byHash tokenHash address present
    exact ⟨state.heap address, (mem_rows _).mpr ⟨_, address, back, rfl⟩, same, rfl⟩

end MemoryState

theorem SessionTable.exec_getByTokenHash {db : Database} {users : UserTable} {table : SessionTable}
    {choice : Choice} {now : Time} {tokenHash : String} (reliable : choice.fails = false) :
    table.exec db (.getByTokenHash tokenHash) choice users now =
      some (table.getByTokenHash users tokenHash, table) := by
  simp only [exec, reliable, Bool.false_eq_true, if_false]

/-- A new row gets the identifier that the database drew. -/
theorem SessionTable.installation_id {db : Database} {users : UserTable} {table next : SessionTable}
    {command : SessionCommand} {choice : Choice} {now : Time} {reply : command.Reply}
    (reliable : choice.fails = false) (committed : choice.statement = none)
    (regular : command.Regular db users table)
    (executed : table.exec db command choice users now = some (reply, next)) {pair : Session × Session}
    (installed : command.installation reply = some pair) : pair.2.id = choice.id := by
  cases command with
  | create session =>
      simp only [exec, reliable, Bool.false_eq_true, if_false] at executed
      obtain ⟨created, rfl, drawn⟩ := create_accepted regular executed
      cases installed
      exact drawn
  | rotateToken oldHash session =>
      simp only [exec, committed] at executed
      rcases rotateToken_accepted regular executed with ⟨created, rfl, drawn⟩ | ⟨rfl, _⟩
      · cases installed
        exact drawn
      · cases installed
  | _ => cases installed

namespace Backends

variable {db : Database} {users : UserTable} {backends next : Backends} {turn : Turn} {results : Result × Result}

/-- The two stores hold the same sessions up to the identifiers that they drew. -/
structure Similar (db : Database) (users : UserTable) (backends : Backends) : Prop where
  consistent : backends.memory.Consistent
  addressless : backends.memory.Addressless
  matched : Matched db backends.names backends.memory.rowSet backends.postgres.rowSet
  injective : ∀ first second id, backends.names.lookup first = some id →
    backends.names.lookup second = some id → first = second
  canonical : ∀ first id, backends.names.lookup first = some id → db.uuid id = some id
  owned : ∀ row ∈ backends.postgres.rowSet, ∃ user ∈ users.rows, user.id = row.userID
  hashed : ∀ row ∈ backends.postgres.rowSet, row.tokenHash ≠ ""

theorem step_some (executed : backends.step db users turn = some (results, next)) :
    ∃ (reply : turn.command.Reply) (reply' : (turn.command.renamed backends.names).Reply),
      MemoryState.exec turn.command turn.memoryChoice users turn.memoryTime backends.memory =
        some (reply, next.memory) ∧
      backends.postgres.exec db (turn.command.renamed backends.names) turn.postgresChoice users
        turn.postgresTime = some (reply', next.postgres) ∧
      results = (turn.command.result reply, (turn.command.renamed backends.names).result reply') ∧
      next.names = backends.names.record (turn.command.installation reply)
        ((turn.command.renamed backends.names).installation reply') := by
  unfold step at executed
  split at executed
  · rename_i reply memory reply' postgres first second
    cases executed
    exact ⟨reply, reply', first, second, rfl, rfl⟩
  · cases executed

/-- What the conditions on a new session say. -/
structure Brings (db : Database) (users : UserTable) (backends : Backends) (turn : Turn) (session : Session) :
    Prop where
  known : ∃ user ∈ users.rows, user.id = session.userID
  unnamed : session.id = ""
  addressless : session.userEmail = ""
  hashed : session.tokenHash ≠ ""
  fresh : session.tokenHash ∉ backends.memory.rows.map Session.tokenHash
  accepted : backends.postgres.accepts users session = true
  unusedMemory : backends.names.lookup turn.memoryChoice.id = none
  unusedPostgres : ∀ id, backends.names.lookup id ≠ some turn.postgresChoice.id
  canonical : db.uuid turn.postgresChoice.id = some turn.postgresChoice.id

theorem lookup_ne_of_not_mem {names : Renaming} {id' : String} (absent : id' ∉ names.entries.map Sigma.snd)
    (id : String) : names.lookup id ≠ some id' := by
  intro found
  exact absent (List.mem_map.mpr ⟨⟨id, id'⟩, AList.mem_lookup_iff.mp found, rfl⟩)

theorem brings_of_built {session : Session} (built : backends.built users session = true)
    (drawn : backends.drawn db turn = true)
    (texts : (SessionTable.storable session.deviceID && SessionTable.storable session.userAgent &&
      SessionTable.storable session.ipAddress) = true) : backends.Brings db users turn session := by
  simp only [Backends.built, Bool.and_eq_true, decide_eq_true_eq, List.contains_eq_mem, Bool.not_eq_true',
    decide_eq_false_iff_not] at built
  simp only [Backends.drawn, Bool.and_eq_true, decide_eq_true_eq, List.contains_eq_mem, Bool.not_eq_true',
    decide_eq_false_iff_not] at drawn
  obtain ⟨⟨⟨⟨⟨known, unnamed⟩, addressless⟩, hashed⟩, fresh⟩, fresh'⟩ := built
  obtain ⟨⟨unused, unused'⟩, canonical⟩ := drawn
  refine ⟨List.mem_map.mp known, unnamed, addressless, hashed, fresh, ?_, AList.lookup_eq_none.mpr unused,
    lookup_ne_of_not_mem unused', canonical⟩
  simp only [SessionTable.accepts, Bool.and_eq_true, List.contains_eq_mem, decide_eq_true_eq,
    Bool.not_eq_true', decide_eq_false_iff_not]
  simp only [Bool.and_eq_true] at texts
  exact ⟨⟨⟨⟨known, fresh'⟩, texts.1.1⟩, texts.1.2⟩, texts.2⟩

/-- The new session of a permitted and well-formed call meets its conditions. -/
theorem brings_of_permitted (permitted : backends.permitted db users turn = true)
    (wellFormed : backends.wellFormed db turn = true) {session : Session}
    (brought : turn.command.brought = some session) : backends.Brings db users turn session := by
  unfold SessionCommand.brought at brought
  split at brought
  · rename_i same
    cases brought
    simp only [Backends.permitted, same, Bool.and_eq_true] at permitted
    simp only [Backends.wellFormed, same, Bool.and_eq_true] at wellFormed
    refine brings_of_built permitted.2.1 permitted.2.2 ?_
    simp only [Bool.and_eq_true]
    exact ⟨⟨wellFormed.1.1.2, wellFormed.1.2⟩, wellFormed.2⟩
  · rename_i same
    cases brought
    simp only [Backends.permitted, same, Bool.and_eq_true] at permitted
    simp only [Backends.wellFormed, same, Bool.and_eq_true] at wellFormed
    refine brings_of_built permitted.2.1 permitted.2.2 ?_
    simp only [Bool.and_eq_true]
    exact ⟨⟨wellFormed.2.1.1.2, wellFormed.2.1.2⟩, wellFormed.2.2⟩
  · cases brought

/-- A new session of a permitted call is admissible for the in-memory store. -/
theorem admissible_of_brings
    (brings : ∀ session, turn.command.brought = some session → backends.Brings db users turn session) :
    turn.command.Admissible backends.memory.rowSet := by
  have fresh (session : Session) (brought : turn.command.brought = some session) :
      session.id = "" ∧ ¬ Live backends.memory.rowSet session.tokenHash := by
    refine ⟨(brings session brought).unnamed, ?_⟩
    rintro ⟨row, ⟨record, member, rfl⟩, same⟩
    exact (brings session brought).fresh (List.mem_map.mpr ⟨record, member, same⟩)
  cases same : turn.command with
  | create session => exact fresh session (by rw [same]; rfl)
  | rotateToken oldHash session => exact fresh session (by rw [same]; rfl)
  | _ => trivial

/-- The identifier in a well-formed call stands for the same session in both stores. -/
theorem Similar.identifies (similar : backends.Similar db users)
    (wellFormed : backends.wellFormed db turn = true) : Identifies db backends.names turn.command := by
  cases same : turn.command with
  | deleteByID sessionID userID =>
      simp only [Backends.wellFormed, same, Bool.and_eq_true, Bool.or_eq_true, List.contains_eq_mem,
        decide_eq_true_eq, Bool.not_eq_true', decide_eq_false_iff_not] at wellFormed
      intro row row' twin
      cases found : backends.names.lookup sessionID with
      | some id =>
          rw [Option.getD_some]
          constructor
          · rintro rfl
            exact Option.some.inj (twin.named.symm.trans found)
          · rintro rfl
            exact similar.injective _ _ _ twin.named found
      | none =>
          rw [Option.getD_none]
          have outside := (wellFormed.2.resolve_left (AList.lookup_eq_none.mp found)).2
          constructor
          · rintro rfl
            rw [twin.named] at found
            cases found
          · rintro rfl
            exact absurd twin.named (lookup_ne_of_not_mem outside row.id)
  | _ => trivial

/-- The database takes a permitted and well-formed call as it is written. -/
theorem Similar.regular (similar : backends.Similar db users)
    (brings : ∀ session, turn.command.brought = some session → backends.Brings db users turn session)
    (wellFormed : backends.wellFormed db turn = true) :
    (turn.command.renamed backends.names).Regular db users backends.postgres := by
  cases same : turn.command with
  | create session => exact (brings session (by rw [same]; rfl)).accepted
  | rotateToken oldHash session => exact (brings session (by rw [same]; rfl)).accepted
  | deleteByID sessionID userID =>
      simp only [Backends.wellFormed, same, Bool.and_eq_true, Bool.or_eq_true, List.contains_eq_mem,
        decide_eq_true_eq] at wellFormed
      change db.uuid _ = some _
      cases found : backends.names.lookup sessionID with
      | some id => exact similar.canonical sessionID id found
      | none => exact (wellFormed.2.resolve_left (AList.lookup_eq_none.mp found)).1
  | _ => trivial

/-- The exact answers of both stores to one call. -/
structure Answers (db : Database) (users : UserTable) (backends next : Backends) (turn : Turn)
    (reply : turn.command.Reply) (reply' : (turn.command.renamed backends.names).Reply) : Prop where
  memory : turn.command.Exact id backends.memory.rowSet next.memory.rowSet reply
  postgres : (turn.command.renamed backends.names).Exact db.stored backends.postgres.rowSet
    next.postgres.rowSet reply'
  drawnMemory : ∀ pair, turn.command.installation reply = some pair → pair.2.id = turn.memoryChoice.id
  drawnPostgres : ∀ pair, (turn.command.renamed backends.names).installation reply' = some pair →
    pair.2.id = turn.postgresChoice.id

theorem reliable_of_permitted (permitted : backends.permitted db users turn = true) :
    turn.postgresChoice.fails = false ∧ turn.postgresChoice.statement = none ∧
      ∀ userID, turn.command ≠ .listByUserID userID := by
  simp only [Backends.permitted, Bool.and_eq_true, Bool.not_eq_true', decide_eq_true_eq] at permitted
  refine ⟨permitted.1.1, permitted.1.2, ?_⟩
  intro userID same
  rw [same] at permitted
  exact Bool.false_ne_true permitted.2

/-- Similar stores answer a permitted and well-formed call exactly. -/
theorem Similar.answers (similar : backends.Similar db users) (permitted : backends.permitted db users turn = true)
    (wellFormed : backends.wellFormed db turn = true) {reply : turn.command.Reply}
    {reply' : (turn.command.renamed backends.names).Reply}
    (executed : MemoryState.exec turn.command turn.memoryChoice users turn.memoryTime backends.memory =
      some (reply, next.memory))
    (executed' : backends.postgres.exec db (turn.command.renamed backends.names) turn.postgresChoice users
      turn.postgresTime = some (reply', next.postgres)) : Answers db users backends next turn reply reply' := by
  obtain ⟨reliable, committed, _⟩ := reliable_of_permitted permitted
  have brings (session : Session) (brought : turn.command.brought = some session) :=
    brings_of_permitted permitted wellFormed brought
  have admissible := admissible_of_brings brings
  have regular := similar.regular brings wellFormed
  constructor
  · exact MemoryState.exec_exact _ _ _ _ similar.consistent admissible executed
  · refine SessionTable.exec_exact _ _ _ reliable committed ?_ ?_ regular executed'
    · exact fun row member => similar.owned row.row ⟨row, member, rfl⟩
    · exact fun row member => similar.hashed row.row ⟨row, member, rfl⟩
  · exact fun pair installed => MemoryState.installation_id admissible executed installed
  · exact fun pair installed => SessionTable.installation_id reliable committed regular executed' installed

theorem brought_renamed (names : Renaming) (command : SessionCommand) :
    (command.renamed names).brought = command.brought := by
  cases command <;> rfl

/-- The name of a new session is new in both stores. -/
theorem record_lookup {names : Renaming} {first second : Option (Session × Session)} {id id' : String}
    (found : (names.record first second).lookup id = some id') :
    names.lookup id = some id' ∨
      ∃ pair pair', first = some pair ∧ second = some pair' ∧ id = pair.2.id ∧ id' = pair'.2.id := by
  unfold Renaming.record at found
  split at found
  · rename_i session created session' created'
    by_cases same : id = created.id
    · subst same
      rw [AList.lookup_insert] at found
      cases found
      exact .inr ⟨_, _, rfl, rfl, rfl, rfl⟩
    · rw [AList.lookup_insert_ne same] at found
      exact .inl found
  · exact .inl found

/-- The answers to one call keep the rows matched, and they agree unless the call is a read. -/
theorem Similar.matched_next (similar : backends.Similar db users)
    (permitted : backends.permitted db users turn = true) (wellFormed : backends.wellFormed db turn = true)
    {reply : turn.command.Reply} {reply' : (turn.command.renamed backends.names).Reply}
    (answers : Answers db users backends next turn reply reply') :
    Matched db (backends.names.record (turn.command.installation reply)
        ((turn.command.renamed backends.names).installation reply'))
        next.memory.rowSet next.postgres.rowSet ∧
      ((∀ tokenHash, turn.command ≠ .getByTokenHash tokenHash) →
        Agree (backends.names.record (turn.command.installation reply)
            ((turn.command.renamed backends.names).installation reply'))
          (turn.command.result reply) ((turn.command.renamed backends.names).result reply')) := by
  obtain ⟨_, _, listed⟩ := reliable_of_permitted permitted
  refine matched_step similar.matched ?_ ?_ (similar.identifies wellFormed) answers.memory answers.postgres listed
  · rintro row ⟨record, member, rfl⟩ other ⟨record', member', rfl⟩ same
    rw [backends.postgres.id_injective member member' same]
  · intro pair installed
    rw [answers.drawnMemory pair installed]
    exact (brings_of_permitted permitted wellFormed
      (SessionCommand.brought_of_installation installed)).unusedMemory

/-- One call keeps the stores similar. -/
theorem Similar.step (similar : backends.Similar db users) (permitted : backends.permitted db users turn = true)
    (wellFormed : backends.wellFormed db turn = true)
    (executed : backends.step db users turn = some (results, next)) : next.Similar db users := by
  obtain ⟨reply, reply', first, second, _, names⟩ := step_some executed
  have brings (session : Session) (brought : turn.command.brought = some session) :=
    brings_of_permitted permitted wellFormed brought
  have answers := similar.answers permitted wellFormed first second
  have effect := SessionTable.exec_effect _ _ _ second
  have brought (pair : Session × Session) (installed : turn.command.installation reply = some pair) :=
    brings pair.1 (SessionCommand.brought_of_installation installed)
  have brought' (pair : Session × Session)
      (installed : (turn.command.renamed backends.names).installation reply' = some pair) :=
    brings pair.1 ((brought_renamed _ _).symm.trans (SessionCommand.brought_of_installation installed))
  have unused (pair : Session × Session)
      (installed : (turn.command.renamed backends.names).installation reply' = some pair) (id : String) :
      backends.names.lookup id ≠ some pair.2.id := by
    rw [answers.drawnPostgres pair installed]
    exact (brought' pair installed).unusedPostgres id
  refine ⟨?_, ?_, ?_, ?_, ?_, ?_, ?_⟩
  · exact (MemoryState.exec_effect _ _ _ _ _ _ similar.consistent (admissible_of_brings brings) first).1
  · exact MemoryState.exec_addressless similar.addressless
      (fun pair installed => (brought pair installed).addressless) first
  · rw [names]
    exact (similar.matched_next permitted wellFormed answers).1
  · intro one two id found found'
    rw [names] at found found'
    rcases record_lookup found with known | ⟨pair, pair', installed, installed', rfl, rfl⟩
    · rcases record_lookup found' with known' | ⟨pair, pair', _, installed', rfl, rfl⟩
      · exact similar.injective one two id known known'
      · exact absurd known (unused pair' installed' one)
    · rcases record_lookup found' with known' | ⟨other, other', again, _, rfl, _⟩
      · exact absurd known' (unused pair' installed' two)
      · cases installed.symm.trans again
        rfl
  · intro one id found
    rw [names] at found
    rcases record_lookup found with known | ⟨pair, pair', _, installed', rfl, rfl⟩
    · exact similar.canonical one id known
    · rw [answers.drawnPostgres pair' installed']
      exact (brought' pair' installed').canonical
  · intro row member
    rcases effect.origin member with inside | ⟨session, created, installed, filled, rfl⟩
    · exact similar.owned row inside
    · rw [Session.keptRow_userID, filled.userID]
      exact (brought' (session, created) installed).known
  · intro row member
    rcases effect.origin member with inside | ⟨session, created, installed, filled, rfl⟩
    · exact similar.hashed row inside
    · rw [Session.keptRow_tokenHash, filled.tokenHash]
      exact (brought' (session, created) installed).hashed

/-- Every reachable pair of stores is similar. -/
theorem Reached.similar (reached : Reached db users backends) : backends.Similar db users := by
  induction reached with
  | empty =>
      have none (row : Row) : row ∉ SessionTable.empty.rowSet := by
        rintro ⟨session, member, _⟩
        cases member
      refine ⟨MemoryState.empty_consistent, fun _ => rfl, ⟨?_, ?_⟩, ?_, ?_, ?_, ?_⟩
      · rintro row ⟨session, member, _⟩
        cases member
      · exact fun row member => absurd member (none row)
      · rintro first second id found
        cases found
      · rintro first id found
        cases found
      · exact fun row member => absurd member (none row)
      · exact fun row member => absurd member (none row)
  | step reached permitted wellFormed executed similar => exact similar.step permitted wellFormed executed

theorem plainRead_iff (tokenHash : String) :
    backends.plainRead db users (.getByTokenHash tokenHash) = true ↔
      ∀ session ∈ backends.memory.rows, session.tokenHash = tokenHash →
        db.stored session.expiresAt = session.expiresAt ∧
          ∀ user ∈ users.rows, user.id = session.userID → user.email = "" := by
  simp only [plainRead, List.all_eq_true, Bool.or_eq_true, Bool.and_eq_true, decide_eq_true_eq, ne_eq,
    ← imp_iff_not_or]

/-- The two reads return twins. -/
theorem Similar.twin (similar : backends.Similar db users) {record session : Session} {tokenHash : String}
    (member : record ∈ backends.memory.rows) (same : record.tokenHash = tokenHash)
    (found : backends.postgres.getByTokenHash users tokenHash = .ok session) :
    Twin db backends.names record.row session.row := by
  obtain ⟨same', ⟨stored, inside, kept⟩, _⟩ := SessionTable.getByTokenHash_ok found
  obtain ⟨row', ⟨other, inside', rfl⟩, twin⟩ := similar.matched.forth record.row ⟨record, member, rfl⟩
  have hash : other.tokenHash = stored.tokenHash := by
    have kept' : stored.tokenHash = session.tokenHash := congrArg Row.tokenHash kept
    exact (twin.tokenHash.symm.trans same).trans (same'.symm.trans kept'.symm)
  rw [backends.postgres.hash_injective inside' inside hash, kept] at twin
  exact twin

/-- Two reads that find a session agree exactly when the read is plain. -/
theorem Similar.found_agree (similar : backends.Similar db users) {record session : Session} {tokenHash : String}
    {now : Time} (member : record ∈ backends.memory.rows) (same : record.tokenHash = tokenHash)
    (found : backends.postgres.getByTokenHash users tokenHash = .ok session) :
    Agree backends.names (.session { record with lastUsedAt := now }) (.session session) ↔
      backends.plainRead db users (.getByTokenHash tokenHash) = true := by
  have twin := similar.twin member same found
  obtain ⟨_, _, user, known, owner, address⟩ := SessionTable.getByTokenHash_ok found
  have missing : record.userEmail = "" := by
    obtain ⟨_, place, _, rfl⟩ := (MemoryState.mem_rows record).mp member
    exact similar.addressless place
  have ownerID : user.id = record.userID := owner.trans twin.userID.symm
  rw [plainRead_iff]
  constructor
  · intro agree other inside hash
    obtain rfl : other = record :=
      List.inj_on_of_nodup_map similar.consistent.keyed inside member (hash.trans same.symm)
    cases agree with
    | session named userID userEmail _ _ _ _ expiresAt =>
        refine ⟨twin.expiresAt.symm.trans expiresAt.symm, ?_⟩
        intro holder inside' identity
        obtain rfl : holder = user :=
          List.inj_on_of_nodup_map users.uniqueID inside' known (identity.trans ownerID.symm)
        exact address.trans (userEmail.symm.trans missing)
  · intro plain
    obtain ⟨kept, addresses⟩ := plain record member same
    exact .session twin.named twin.userID (missing.trans ((addresses user known ownerID).symm.trans address))
      twin.tokenHash twin.deviceID twin.userAgent twin.ipAddress (kept.symm.trans twin.expiresAt.symm)

/-- Two reads agree exactly when the read is plain. -/
theorem Similar.reads_agree (similar : backends.Similar db users) (tokenHash : String) (now : Time) :
    Agree backends.names
        ((SessionCommand.getByTokenHash tokenHash).result (backends.memory.getByTokenHash now tokenHash).1)
        ((SessionCommand.getByTokenHash tokenHash).result (backends.postgres.getByTokenHash users tokenHash)) ↔
      backends.plainRead db users (.getByTokenHash tokenHash) = true := by
  have read : MemoryState.exec (.getByTokenHash tokenHash) {} users now backends.memory =
      some (backends.memory.getByTokenHash now tokenHash) := rfl
  generalize answered : backends.memory.getByTokenHash now tokenHash = answer at read
  obtain ⟨reply, after⟩ := answer
  have exact := MemoryState.exec_exact (.getByTokenHash tokenHash) _ _ _ similar.consistent trivial read
  cases reply with
  | error error =>
      obtain ⟨_, rfl, absent⟩ := exact
      have absent' := mt (similar.matched.live tokenHash).mpr absent
      rw [SessionTable.mem_rowSet_live] at absent'
      rw [SessionTable.getByTokenHash_absent absent', plainRead_iff]
      refine iff_of_true .sessionNotFound ?_
      intro session member same
      exact absurd ⟨session.row, ⟨session, member, rfl⟩, same⟩ absent
  | ok session =>
      obtain ⟨record, member, same, rfl⟩ := MemoryState.getByTokenHash_ok similar.consistent answered
      have live : Live backends.memory.rowSet tokenHash := ⟨record.row, ⟨record, member, rfl⟩, same⟩
      have present := (SessionTable.mem_rowSet_live _ _).mp ((similar.matched.live tokenHash).mp live)
      obtain ⟨found, joined⟩ := SessionTable.getByTokenHash_present present
        fun row inside _ => similar.owned row.row ⟨row, inside, rfl⟩
      rw [joined]
      exact similar.found_agree member same joined

/-- In every sequence of well-formed calls the two stores return the same result for a call exactly when
the call is no read or its read is plain. -/
theorem backends_agree_iff (reached : Reached db users backends)
    (permitted : backends.permitted db users turn = true) (wellFormed : backends.wellFormed db turn = true)
    (executed : backends.step db users turn = some (results, next)) :
    Agree next.names results.1 results.2 ↔ backends.plainRead db users turn.command = true := by
  have similar := reached.similar
  obtain ⟨reply, reply', first, second, rfl, names⟩ := step_some executed
  by_cases read : ∃ tokenHash, turn.command = .getByTokenHash tokenHash
  · obtain ⟨tokenHash, same⟩ := read
    obtain ⟨reliable, _⟩ := reliable_of_permitted permitted
    obtain ⟨command, choice, now, choice', now'⟩ := turn
    obtain rfl : command = .getByTokenHash tokenHash := same
    have agreed := similar.reads_agree tokenHash now
    rw [Option.some.inj first,
      (Prod.mk.inj (Option.some.inj ((SessionTable.exec_getByTokenHash reliable).symm.trans second))).1] at agreed
    rw [names]
    exact agreed
  · have answers := similar.answers permitted wellFormed first second
    rw [names]
    refine iff_of_true ((similar.matched_next permitted wellFormed answers).2 fun tokenHash same =>
      read ⟨tokenHash, same⟩) ?_
    unfold plainRead
    split
    · rename_i tokenHash same
      exact absurd ⟨tokenHash, same⟩ read
    · rfl

/-- A run of permitted and well-formed calls. -/
def run (db : Database) (users : UserTable) : List Turn → Backends → Option Backends
  | [], backends => some backends
  | turn :: rest, backends =>
      if backends.permitted db users turn && backends.wellFormed db turn then
        (backends.step db users turn).bind fun result => run db users rest result.2
      else none

theorem Reached.run (reached : Reached db users backends) {turns : List Turn}
    (ran : backends.run db users turns = some next) : Reached db users next := by
  induction turns generalizing backends with
  | nil =>
      cases ran
      exact reached
  | cons turn rest ih =>
      rw [Backends.run] at ran
      split at ran
      · rename_i checked
        obtain ⟨result, executed, continued⟩ := Option.bind_eq_some_iff.mp ran
        obtain ⟨permitted, wellFormed⟩ := Bool.and_eq_true_iff.mp checked
        exact ih (.step reached permitted wellFormed executed) continued
      · cases ran

/-- A check that succeeds after a run and one more call gives a reachable pair of stores. -/
theorem exists_of_run (db : Database) (users : UserTable) (turns : List Turn) (turn : Turn)
    (check : Result → Result → Bool)
    (checked : ((run db users turns ⟨.empty, .empty, ∅⟩).any fun backends =>
      backends.permitted db users turn && backends.wellFormed db turn &&
        (backends.step db users turn).any fun result => check result.1.1 result.1.2) = true) :
    ∃ (backends next : Backends) (results : Result × Result), Reached db users backends ∧
      backends.permitted db users turn = true ∧ backends.wellFormed db turn = true ∧
      backends.step db users turn = some (results, next) ∧ check results.1 results.2 = true := by
  obtain ⟨backends, ran, rest⟩ := (Option.any_eq_true _ _).mp checked
  simp only [Bool.and_eq_true] at rest
  obtain ⟨⟨results, next⟩, executed, holds⟩ := (Option.any_eq_true _ _).mp rest.2
  exact ⟨backends, next, results, Reached.empty.run ran, rest.1.1, rest.1.2, executed, holds⟩

def sampleDatabase : Database := ⟨id, some⟩

def sampleUsers : UserTable := ⟨[⟨"alice", "alice@example.com", "#", 0, 0⟩], by decide, by decide⟩

/-- A session as `Login` builds it. -/
def sampleSession (tokenHash : String) : Session :=
  ⟨"", "alice", "", tokenHash, "phone", "agent", "10.0.0.1", 100, zeroTime, zeroTime⟩

def sampleTurn (command : SessionCommand) (memoryID postgresID : String) (order : List String) : Turn :=
  ⟨command, { id := memoryID, order }, 1, { id := postgresID }, 1⟩

/-- The in-memory store returns a session without the address that the repository joins. -/
theorem backend_reads_differ :
    ∃ (turn : Turn) (backends next : Backends) (results : Result × Result),
      Reached sampleDatabase sampleUsers backends ∧
      backends.permitted sampleDatabase sampleUsers turn = true ∧
      backends.wellFormed sampleDatabase turn = true ∧
      backends.step sampleDatabase sampleUsers turn = some (results, next) ∧
      ¬ Agree next.names results.1 results.2 := by
  let turn := sampleTurn (.getByTokenHash "h1") "" "" []
  obtain ⟨backends, next, ⟨first, second⟩, reached, permitted, wellFormed, executed, different⟩ :=
    exists_of_run sampleDatabase sampleUsers [sampleTurn (.create (sampleSession "h1")) "m1" "p1" []] turn
      (fun first second => match first, second with
        | .session first, .session second => first.userEmail ≠ second.userEmail
        | _, _ => false) (by decide +kernel)
  refine ⟨turn, backends, next, _, reached, permitted, wellFormed, executed, ?_⟩
  intro agree
  cases agree with
  | session named userID userEmail => simp [userEmail] at different
  | _ => cases different

/-- Two sessions are created, one is rotated and one is revoked, and both stores still agree. -/
theorem backends_agree_after_rotation :
    ∃ (turn : Turn) (backends next : Backends) (results : Result × Result),
      Reached sampleDatabase sampleUsers backends ∧
      backends.step sampleDatabase sampleUsers turn = some (results, next) ∧
      backends.plainRead sampleDatabase sampleUsers turn.command = true ∧
      Agree next.names results.1 results.2 := by
  let turn := sampleTurn (.deleteByID "m2" "alice") "" "" []
  obtain ⟨backends, next, results, reached, permitted, wellFormed, executed, _⟩ :=
    exists_of_run sampleDatabase sampleUsers [sampleTurn (.create (sampleSession "h1")) "m1" "p1" [],
      sampleTurn (.create (sampleSession "h2")) "m2" "p2" [],
      sampleTurn (.rotateToken "h1" (sampleSession "h3")) "m3" "p3" [],
      sampleTurn (.deleteAllByUserIDExcept "alice" "h2") "" "" ["m2", "m3"]] turn
      (fun _ _ => true) (by decide +kernel)
  exact ⟨turn, backends, next, results, reached, executed, rfl,
    (backends_agree_iff reached permitted wellFormed executed).mpr rfl⟩

end Backends
end AuthService
