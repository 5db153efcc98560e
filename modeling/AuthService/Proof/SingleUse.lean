/-
This file proves that a refresh token is used at most once and that its revocation is final.
-/

import AuthService.Proof.Ledger
import Mathlib.Logic.Relation

namespace AuthService
open Interleaving System

/-- The store of a configuration has a row with this token hash. -/
def HasRow {store : SessionStore} (config : ServiceConfig store) (tokenHash : String) : Prop :=
  ∃ session ∈ store.rows config.world.sessions, session.tokenHash = tokenHash

/-- The task is a `RefreshToken` request for this refresh token. -/
def Presents {store : SessionStore} (config : ServiceConfig store) (task : Nat) (plain : String) : Prop :=
  ∃ ctx deviceID, config.request task = some (.refreshToken ctx ⟨plain, deviceID⟩)

/-- The task has returned a response and not an error. -/
def Succeeds {store : SessionStore} (config : ServiceConfig store) (task : Nat) : Prop :=
  ∃ response, config.Answered task (.ok response)

/-- A successful rotation replaced the first token hash with the second. -/
def Rotated (history : List (Event Ports)) (oldHash newHash : String) : Prop :=
  ∃ (task : Nat) (session created : Session),
    (⟨task, .sessions (.rotateToken oldHash session), .ok created⟩ : Event Ports) ∈ history ∧
      session.tokenHash = newHash

/-- The token hashes that stem from the session of one login by rotations. -/
def InChain (history : List (Event Ports)) (login : Nat) (tokenHash : String) : Prop :=
  ∃ session created : Session,
    (⟨login, .sessions (.create session), .ok created⟩ : Event Ports) ∈ history ∧
      Relation.ReflTransGen (Rotated history) session.tokenHash tokenHash

/-- The token hash that a successful rotation consumes. -/
def consumedBy : Event Ports → Option String
  | ⟨_, .sessions (.rotateToken oldHash _), .ok _⟩ => some oldHash
  | _ => none

theorem consumedBy_eq_some {event : Event Ports} {tokenHash : String}
    (consumed : consumedBy event = some tokenHash) :
    ∃ session created : Session,
      event.exchange = ⟨.sessions (.rotateToken tokenHash session), .ok created⟩ := by
  obtain ⟨task, command, reply⟩ := event
  cases command with
  | sessions command =>
      cases command with
      | rotateToken oldHash session =>
          cases reply with
          | ok created =>
              obtain rfl := Option.some.inj consumed
              exact ⟨session, created, rfl⟩
          | error error => cases consumed
      | _ => cases consumed
  | _ => cases consumed

section
variable {service : Service} {store : SessionStore}

theorem hasRow_iff (config : ServiceConfig store) (tokenHash : String) :
    HasRow config tokenHash ↔ Live (rowsOf config) tokenHash := by
  constructor
  · rintro ⟨session, member, same⟩
    exact ⟨session.row, ⟨session, member, rfl⟩, same⟩
  · rintro ⟨row, ⟨session, member, rfl⟩, same⟩
    exact ⟨session, member, same⟩

/-- A `RefreshToken` request that succeeds has rotated its token and written nothing else. -/
theorem succeeds_writes {config : ServiceConfig store}
    (disciplined : Disciplined (Permits service) (Finishes service) config) {task : Nat} {plain : String}
    (presents : Presents config task plain) (succeeds : Succeeds config task) :
    ∃ session created : Session, select Command.writes (transcript task config.history) =
      [⟨.sessions (.rotateToken (service.hash plain) session), .ok created⟩] := by
  obtain ⟨ctx, deviceID, started⟩ := presents
  obtain ⟨response, answered⟩ := succeeds
  have finished := disciplined.answered task _ _ started answered
  cases finished with
  | plain ordinary => cases ordinary
  | refresh grant rotated => exact ⟨_, _, rotated⟩

theorem mem_of_writes {history : List (Event Ports)} {task : Nat} {exchange : Exchange Ports}
    (writes : select Command.writes (transcript task history) = [exchange]) :
    (⟨task, exchange⟩ : Event Ports) ∈ history :=
  (mem_transcript _ _ _).mp (mem_of_select writes)

/-- A task creates at most one session. -/
theorem create_unique {config : ServiceConfig store}
    (disciplined : Disciplined (Permits service) (Finishes service) config) {task : Nat}
    {first second created created' : Session}
    (left : (⟨task, .sessions (.create first), .ok created⟩ : Event Ports) ∈ config.history)
    (right : (⟨task, .sessions (.create second), .ok created'⟩ : Event Ports) ∈ config.history) :
    first.tokenHash = second.tokenHash := by
  have same := disciplined.permitted.unique
    (fun event other => event.task = other.task ∧ (∃ session, event.exchange.command = .sessions (.create session)) ∧
      ∃ session, other.exchange.command = .sessions (.create session))
    (fun _ _ related => ⟨related.1.symm, related.2.2, related.2.1⟩) ?_ left right
    ⟨rfl, ⟨first, rfl⟩, second, rfl⟩
  · cases same
    rfl
  · rintro ⟨owner, command, reply⟩ past ⟨request, _, permitted⟩ ⟨owner', command', reply'⟩ member
      ⟨same, ⟨session, created⟩, session', created'⟩
    dsimp only at same created created' permitted
    subst same created created'
    have first := (permitted.installs rfl).2.1
    have written : (⟨.sessions (.create session'), reply'⟩ : Exchange Ports) ∈
        select Command.writes (transcript owner past) :=
      List.mem_filter.mpr ⟨(mem_transcript _ _ _).mpr member, rfl⟩
    rw [first] at written
    cases written

/-- A token hash is spent when it was known before and has no row now. -/
def Spent (base : World store) (config : ServiceConfig store) (tokenHash : String) : Prop :=
  (tokenHash ∈ config.history.filterMap installedBy ∨ tokenHash ∈ base.issued) ∧
    ¬ Live (rowsOf config) tokenHash

theorem known_mono {base : World store} {config next : ServiceConfig store} {tokenHash : String}
    (suffix : config.history <:+ next.history)
    (known : tokenHash ∈ config.history.filterMap installedBy ∨ tokenHash ∈ base.issued) :
    tokenHash ∈ next.history.filterMap installedBy ∨ tokenHash ∈ base.issued := by
  refine known.imp_left fun installed => ?_
  obtain ⟨event, member, observed⟩ := List.mem_filterMap.mp installed
  exact List.mem_filterMap.mpr ⟨event, suffix.subset member, observed⟩

end

section
variable {service : Service} {store : SessionStore} [lawful : store.Lawful]
variable {base : World store} {requests : List Request}
variable {allowed : ServiceConfig store → ServiceLabel → Prop} {config next : ServiceConfig store}

/-- A live token hash is known. -/
theorem Ledger.known (ledger : Ledger service base config) (sound : base.Sound) {tokenHash : String}
    (live : Live (rowsOf config) tokenHash) :
    tokenHash ∈ config.history.filterMap installedBy ∨ tokenHash ∈ base.issued :=
  (ledger.live tokenHash live).imp_right (sound.issued tokenHash)

/-- A step adds a row only for a token hash that was not known. -/
theorem live_step (sound : base.Sound)
    (reached : (system service store).Reaches allowed ((system service store).begin base requests) config)
    {label : ServiceLabel} (moved : (system service store).step config label = some next)
    {tokenHash : String}
    (known : tokenHash ∈ config.history.filterMap installedBy ∨ tokenHash ∈ base.issued)
    (live : Live (rowsOf next) tokenHash) : Live (rowsOf config) tokenHash := by
  have ledger := reaches_ledger sound reached
  obtain ⟨_, _, rfl⟩ | ⟨task, choice, request, command, rest, reply, world, _, selected, executed, rfl⟩ |
    ⟨tick, world, _, drifted, rfl⟩ := service_cases moved
  · exact live
  · by_cases call : ∃ call, command = .sessions call
    · obtain ⟨call, rfl⟩ := call
      have disciplined := reaches_disciplined reached
      obtain ⟨sessions, performed, rfl⟩ := exec_sessions executed
      have effect := (ledger.effect sound disciplined selected performed).2
      rcases effect.live tokenHash live with before | installed
      · exact before
      · obtain ⟨session, new, rfl⟩ := SessionCommand.newSession_of_installed installed
        obtain ⟨_, drawn, absent⟩ := next_hash_fresh disciplined ledger.fresh selected new
        rcases known with installed | issued
        · exact absurd installed absent
        · exact absurd issued (ledger.apart _ drawn)
    · have kept := (exec_changes executed).keeps_sessions fun other same => call ⟨other, same⟩
      have rows : store.rowSet world.sessions = rowsOf config := congrArg store.rowSet kept
      rw [rowsOf, rows] at live
      exact live
  · obtain ⟨cache, now, rfl⟩ := drift_frame drifted
    exact live

/-- A spent token hash stays spent. -/
theorem Spent.stays (sound : base.Sound)
    (reached : (system service store).Reaches allowed ((system service store).begin base requests) config)
    {tokenHash : String} (spent : Spent base config tokenHash)
    (later : (system service store).Reaches allowed config next) : Spent base next tokenHash := by
  induction later with
  | refl => exact spent
  | step label later _ moved ih =>
      have before := reached.trans later
      exact ⟨known_mono (step_suffix label moved) ih.1,
        fun live => ih.2 (live_step sound before moved ih.1 live)⟩

/-- A successful rotation finds the row of the old token hash and spends that hash. -/
theorem rotate_spends (sound : base.Sound)
    (reached : (system service store).Reaches allowed ((system service store).begin base requests) config)
    {label : ServiceLabel} (moved : (system service store).step config label = some next) {task : Nat}
    {oldHash : String} {session created : Session}
    (rotated : next.history =
      ⟨task, .sessions (.rotateToken oldHash session), .ok created⟩ :: config.history) :
    Live (rowsOf config) oldHash ∧ Spent base next oldHash := by
  have ledger := reaches_ledger sound reached
  obtain ⟨_, _, rfl⟩ | ⟨_, choice, request, command, rest, reply, world, _, selected, executed, rfl⟩ |
    ⟨tick, world, _, drifted, rfl⟩ := service_cases moved
  · exact absurd rotated (List.ne_cons_self)
  · obtain ⟨rfl, exchange⟩ := Event.mk.inj (List.cons.inj rotated).1
    cases exchange
    have disciplined := reaches_disciplined reached
    obtain ⟨sessions, performed, rfl⟩ := exec_sessions executed
    obtain ⟨filled, live, rows⟩ := (ledger.effect sound disciplined selected performed).2
    have known := ledger.known sound live
    obtain ⟨_, drawn, absent⟩ := next_hash_fresh disciplined ledger.fresh selected
      (show (SessionCommand.rotateToken oldHash session).newSession = some session from rfl)
    have different : created.tokenHash ≠ oldHash := by
      rw [filled.tokenHash]
      rintro rfl
      rcases known with installed | issued
      · exact absent installed
      · exact ledger.apart _ drawn issued
    refine ⟨live, known_mono (List.suffix_cons _ _) known, ?_⟩
    rintro ⟨row, member, same⟩
    change row ∈ store.rowSet sessions at member
    rw [rows] at member
    rcases member with rfl | member
    · exact different same
    · exact member.2 same
  · exact absurd rotated (List.ne_cons_self)

/-- No token hash is rotated twice, and a rotated one is spent. -/
theorem reaches_consumed (sound : base.Sound)
    (reached : (system service store).Reaches allowed ((system service store).begin base requests) config) :
    (config.history.filterMap consumedBy).Nodup ∧
      ∀ tokenHash ∈ config.history.filterMap consumedBy, Spent base config tokenHash := by
  apply reached.invariant
  · exact ⟨List.nodup_nil, by simp [begin]⟩
  · rintro config label next reached ⟨once, spent⟩ permitted moved
    have still : ∀ tokenHash ∈ config.history.filterMap consumedBy, Spent base next tokenHash := by
      intro tokenHash member
      exact (spent tokenHash member).stays sound reached (.step label .refl permitted moved)
    obtain same | ⟨event, same⟩ := step_history label moved
    · rw [same]
      exact ⟨once, still⟩
    · cases consumed : consumedBy event with
      | none =>
          rw [same, List.filterMap_cons_none consumed]
          exact ⟨once, still⟩
      | some oldHash =>
          obtain ⟨session, created, exchange⟩ := consumedBy_eq_some consumed
          obtain ⟨task, _⟩ := event
          obtain rfl := exchange
          obtain ⟨live, gone⟩ := rotate_spends sound reached moved same
          rw [same, List.filterMap_cons_some consumed]
          refine ⟨List.nodup_cons.mpr ⟨fun again => (spent oldHash again).2 live, once⟩, ?_⟩
          intro tokenHash member
          rcases List.mem_cons.mp member with rfl | member
          · exact gone
          · exact still tokenHash member

/-- A token hash has at most one successor. -/
theorem rotated_rightUnique (sound : base.Sound)
    (reached : (system service store).Reaches allowed ((system service store).begin base requests) config) :
    Relator.RightUnique (Rotated config.history) := by
  rintro oldHash first second ⟨task, session, created, left, rfl⟩ ⟨task', session', created', right, rfl⟩
  have same := eq_of_observed_once consumedBy config.history (reaches_consumed sound reached).1 left right
    rfl rfl
  cases same
  rfl

/-- A token hash with a row has no successor. -/
theorem live_not_rotated (sound : base.Sound)
    (reached : (system service store).Reaches allowed ((system service store).begin base requests) config)
    {oldHash newHash : String} (live : Live (rowsOf config) oldHash) :
    ¬ Rotated config.history oldHash newHash := by
  rintro ⟨task, session, created, member, _⟩
  have consumed : oldHash ∈ config.history.filterMap consumedBy :=
    List.mem_filterMap.mpr ⟨_, member, rfl⟩
  exact ((reaches_consumed sound reached).2 oldHash consumed).2 live

/-- The chain of a login has at most one token hash with a row. -/
theorem chain_live_unique (sound : base.Sound)
    (reached : (system service store).Reaches allowed ((system service store).begin base requests) config)
    {login : Nat} {first second : String} (left : InChain config.history login first)
    (right : InChain config.history login second) (live : Live (rowsOf config) first)
    (live' : Live (rowsOf config) second) : first = second := by
  obtain ⟨session, created, member, path⟩ := left
  obtain ⟨session', created', member', path'⟩ := right
  rw [create_unique (reaches_disciplined reached) member member'] at path
  have stuck {oldHash newHash : String} (alive : Live (rowsOf config) oldHash)
      (steps : Relation.ReflTransGen (Rotated config.history) oldHash newHash) : oldHash = newHash := by
    rcases steps.cases_head with same | ⟨middle, rotated, _⟩
    · exact same
    · exact absurd rotated (live_not_rotated sound reached alive)
  rcases path.total_of_right_unique (rotated_rightUnique sound reached) path' with onward | onward
  · exact stuck live onward
  · exact (stuck live' onward).symm

/-- Two requests that succeed with the same refresh token are the same request. -/
theorem success_unique (sound : base.Sound)
    (reached : (system service store).Reaches allowed ((system service store).begin base requests) config)
    {first second : Nat} {plain : String} (left : Presents config first plain)
    (right : Presents config second plain) (succeeds : Succeeds config first)
    (succeeds' : Succeeds config second) : first = second := by
  have disciplined := reaches_disciplined reached
  obtain ⟨session, created, writes⟩ := succeeds_writes disciplined left succeeds
  obtain ⟨session', created', writes'⟩ := succeeds_writes disciplined right succeeds'
  have same := eq_of_observed_once consumedBy config.history (reaches_consumed sound reached).1
    (mem_of_writes writes) (mem_of_writes writes') rfl rfl
  exact congrArg Event.task same

/-- A request whose rotation comes after the removal of the row does not succeed. -/
theorem removed_not_refreshed (sound : base.Sound) {removed rotated final : ServiceConfig store}
    {label : ServiceLabel} {plain : String} {task : Nat} {choice : Choice} {session : Session}
    (reached : (system service store).Reaches allowed ((system service store).begin base requests) config)
    (moved : (system service store).step config label = some removed) (permitted : allowed config label)
    (present : Live (rowsOf config) (service.hash plain))
    (absent : ¬ Live (rowsOf removed) (service.hash plain))
    (later : (system service store).Reaches allowed removed next)
    (presents : Presents next task plain)
    (about : next.Next task (.sessions (.rotateToken (service.hash plain) session)))
    (permitted' : allowed next (.advance task choice))
    (rotates : (system service store).step next (.advance task choice) = some rotated)
    (after : (system service store).Reaches allowed rotated final) : ¬ Succeeds final task := by
  intro succeeds
  have reached' := reached.step label permitted moved
  have known := (reaches_ledger sound reached).known sound present
  have spent : Spent base removed (service.hash plain) := ⟨known_mono (step_suffix label moved) known, absent⟩
  have gone := (spent.stays sound reached' later).2
  have before := reached'.trans later
  have whole := (before.step _ permitted' rotates).trans after
  obtain ⟨session', created, writes⟩ := succeeds_writes (reaches_disciplined whole)
    (presents.imp fun ctx => Exists.imp fun deviceID started =>
      after.request task _ (step_request _ rotates task _ started)) succeeds
  obtain ⟨request, rest, selected⟩ := about
  obtain ⟨_, impossible, _⟩ | ⟨_, _, _, command, _, reply, world, moves, found, executed, rfl⟩ |
    ⟨_, _, impossible, _⟩ := service_cases rotates
  · cases impossible
  · cases moves
    rw [selected] at found
    cases found
    have performed : (⟨.sessions (.rotateToken (service.hash plain) session), reply⟩ : Exchange Ports) ∈
        select Command.writes (transcript task final.history) := by
      refine List.mem_filter.mpr ⟨(mem_transcript _ _ _).mpr ?_, rfl⟩
      exact after.history_suffix.subset List.mem_cons_self
    rw [writes, List.mem_singleton] at performed
    cases performed
    exact gone (rotate_spends sound before rotates rfl).1
  · cases impossible

end

/-- In every run of the service, with either backend and any behaviour of the cache, at most one
`RefreshToken` request succeeds with a refresh token, none succeeds whose rotation comes after the
removal of the row of that token, and the rotation chain of a login never has two rows. -/
theorem refresh_token_single_use (service : Service) (backend : Backend) (now : Time) :
    let auth := system service backend.store
    let initial := auth.begin (World.empty backend.store now) []
    (∀ config, auth.Reaches Anything initial config → ∀ plain first second,
      Presents config first plain → Presents config second plain → Succeeds config first →
      Succeeds config second → first = second) ∧
    (∀ config removed later rotated final label plain task choice session,
      auth.Reaches Anything initial config → auth.step config label = some removed →
      HasRow config (service.hash plain) → ¬ HasRow removed (service.hash plain) →
      auth.Reaches Anything removed later → Presents later task plain →
      later.Next task (.sessions (.rotateToken (service.hash plain) session)) →
      auth.step later (.advance task choice) = some rotated →
      auth.Reaches Anything rotated final → ¬ Succeeds final task) ∧
    (∀ config, auth.Reaches Anything initial config → ∀ login,
      (backend.store.rows config.world.sessions).Pairwise fun first second =>
        ¬ (InChain config.history login first.tokenHash ∧
          InChain config.history login second.tokenHash)) := by
  intro auth initial
  have sound : (World.empty backend.store now).Sound := World.empty_sound now
  refine ⟨?_, ?_, ?_⟩
  · intro config reached plain first second left right succeeds succeeds'
    exact success_unique sound reached left right succeeds succeeds'
  · intro config removed later rotated final label plain task choice session reached moved present absent
      onward presents about rotates after
    rw [hasRow_iff] at present absent
    exact removed_not_refreshed sound reached moved rfl present absent onward presents about rfl
      rotates after
  · intro config reached login
    have keyed := SessionStore.Lawful.keyed _ (reaches_ledger sound reached).inv
    refine (List.pairwise_map.mp keyed).imp_of_mem ?_
    intro first second left right different both
    have live := (hasRow_iff config first.tokenHash).mp ⟨first, left, rfl⟩
    have live' := (hasRow_iff config second.tokenHash).mp ⟨second, right, rfl⟩
    exact different (chain_live_unique sound reached both.1 both.2 live live')

/-- A small deployment for concrete runs. Access tokens are user identifiers, and passwords are
stored with their salt in front. -/
def sample : Service where
  hash := fun text => "#" ++ text
  sign := fun claims _ => claims.userID
  validate := fun token _ => some ⟨token, "", ["user"]⟩
  hashPassword := fun salt plaintext => salt ++ plaintext
  verifyPassword := fun plaintext encoded => some (plaintext == encoded)
  isLetter := Char.isAlpha
  isDigit := Char.isDigit
  refreshTTL := second
  bruteGuard := none
  auditStore := false
  hook := true

theorem sample_hash_injective : Function.Injective sample.hash := by
  intro first second same
  have lists := congrArg String.toList same
  simp only [sample, String.toList_append, List.append_cancel_left_eq] at lists
  exact String.toList_inj.mp lists

/-- A database that stores every value as it is. -/
def exactDatabase : Database := ⟨id, some⟩

/-- A context without metadata and without a peer. -/
def bareContext : Context := ⟨none, none⟩

/-- A context with the bearer token of the sample user. -/
def userContext : Context :=
  ⟨some fun key => if key = "authorization" then ["Bearer user"] else [], none⟩

/-- A task takes several steps with the same choice. -/
def advances (task count : Nat) (choice : Choice) : List ServiceLabel :=
  List.replicate count (.advance task choice)

/-- The sample deployment with its database. -/
abbrev sampleSystem : System Ports (World (postgres exactDatabase)) Choice Tick Request Answer :=
  system sample (postgres exactDatabase)

abbrev sampleStart (requests : List Request) : ServiceConfig (postgres exactDatabase) :=
  sampleSystem.begin (World.empty (postgres exactDatabase) 0) requests

/-- In this run a user registers and logs in, and one request uses the refresh token. -/
theorem refresh_token_used_once :
    ∃ config, sampleSystem.Reaches Anything (sampleStart []) config ∧ Presents config 2 "token" ∧
      Succeeds config 2 ∧ ∀ other, Presents config other "token" → Succeeds config other → 2 = other := by
  let requests : List Request :=
    [.register bareContext ⟨"a@b.co", "passw0rd"⟩, .login bareContext ⟨"a@b.co", "passw0rd", "phone"⟩,
      .refreshToken bareContext ⟨"token", ""⟩]
  let labels := advances 0 4 { id := "user" } ++ advances 1 8 { id := "first", token := "token" } ++
    advances 2 11 { id := "second", token := "next" }
  obtain ⟨config, reached, checked⟩ : ∃ config, sampleSystem.Reaches Anything (sampleStart requests) config ∧
      decide (config.answer? 2 = some (.ok (.refreshToken "user" "next"))) = true :=
    exists_of_run labels _ (by decide +kernel)
  have presents : Presents config 2 "token" := ⟨bareContext, "", reached.request 2 _ rfl⟩
  have succeeds : Succeeds config 2 := ⟨_, Config.answered_of_answer? (of_decide_eq_true checked)⟩
  have started : sampleSystem.Reaches Anything (sampleStart []) (sampleStart requests) :=
    reaches_started _ requests fun _ _ => rfl
  have whole := started.trans reached
  refine ⟨config, whole, presents, succeeds, ?_⟩
  intro other presents' succeeds'
  exact (refresh_token_single_use sample (.postgres exactDatabase) 0).1 config whole "token" 2 other
    presents presents' succeeds succeeds'

end AuthService
