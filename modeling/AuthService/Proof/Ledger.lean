/-
This file proves that every token hash is issued once and installed once, so that a removed row
never comes back.
-/

import AuthService.Proof.Frames
import AuthService.Proof.HandlerConduct
import AuthService.Proof.MemoryRows
import AuthService.Proof.PostgresRows

namespace AuthService
open Interleaving System

abbrev ServiceConfig (store : SessionStore) := Config Ports (World store) Request Answer

abbrev ServiceLabel := Label Choice Tick Request

instance (backend : Backend) : backend.store.Lawful :=
  match backend with
  | .memory => inferInstanceAs memory.Lawful
  | .postgres db => inferInstanceAs (postgres db).Lawful

/-- The session rows of a configuration. -/
def rowsOf {store : SessionStore} (config : ServiceConfig store) : Set Row :=
  store.rowSet config.world.sessions

/-- The token hash that an event installs. -/
def installedBy : Event Ports → Option String
  | ⟨_, .sessions command, reply⟩ => command.installed reply
  | _ => none

/-- The token hash that an event issues. -/
def drawnBy (service : Service) : Event Ports → Option String
  | ⟨_, .random .token, some plain⟩ => some (service.hash plain)
  | _ => none

/-- The values of a request that the service hashes. -/
def Request.hashes : Request → List String
  | .refreshToken _ req => [req.refreshToken]
  | .logout _ token => [token]
  | .changePassword _ req => [req.refreshToken]
  | .requestPasswordReset _ email => [email]
  | .verifyResetCode _ req => [req.email, req.otp]
  | .resetPassword _ req => [req.resetToken]
  | _ => []

/-- The token or code that an event generates. -/
def generatedBy : Event Ports → Option String
  | ⟨_, .random .token, reply⟩ => reply
  | ⟨_, .random .otp, reply⟩ => reply
  | _ => none

/-- The values that the requests of a configuration hash. -/
def hashedValues {store : SessionStore} (config : ServiceConfig store) : Set String :=
  {value | (∃ task request, config.request task = some request ∧ value ∈ request.hashes) ∨
    ∃ event ∈ config.history, generatedBy event = some value}

theorem hashed_of_request {store : SessionStore} {config : ServiceConfig store} {task : Nat} {request : Request}
    {value : String} (started : config.request task = some request) (used : value ∈ request.hashes) :
    value ∈ hashedValues config := .inl ⟨task, request, started, used⟩

theorem hashed_of_event {store : SessionStore} {config : ServiceConfig store} {event : Event Ports}
    {value : String} (member : event ∈ config.history) (generated : generatedBy event = some value) :
    value ∈ hashedValues config := .inr ⟨event, member, generated⟩

/-- The session that a call tries to install. -/
def SessionCommand.newSession : SessionCommand → Option Session
  | .create session => some session
  | .rotateToken _ session => some session
  | _ => none

section
variable {service : Service} {store : SessionStore}

/-- A request installs only a session with a token that it drew itself, and it writes nothing before. -/
theorem Permits.installs {request : Request} {past : Past} {command : SessionCommand} {session : Session}
    (permitted : Permits service request past (.sessions command))
    (new : command.newSession = some session) :
    session.id = "" ∧ select Command.writes past = [] ∧
      ∃ plain, (⟨.random .token, some plain⟩ : Exchange Ports) ∈ past ∧
        session.tokenHash = service.hash plain := by
  cases permitted with
  | free harmless => cases command <;> simp_all [Command.free, Command.writes, SessionCommand.newSession]
  | login grant first =>
      obtain rfl := Option.some.inj new
      exact ⟨rfl, first, _, mem_of_select grant.drawn, rfl⟩
  | rotate grant first =>
      obtain rfl := Option.some.inj new
      exact ⟨rfl, first, _, mem_of_select grant.drawn, rfl⟩
  | _ => cases new

/-- A call that installs a hash tried to install a session with it. -/
theorem SessionCommand.newSession_of_installed {command : SessionCommand} {reply : command.Reply}
    {tokenHash : String} (installed : command.installed reply = some tokenHash) :
    ∃ session, command.newSession = some session ∧ session.tokenHash = tokenHash := by
  cases command with
  | create session =>
      cases reply with
      | ok created => exact ⟨session, rfl, Option.some.inj installed⟩
      | error error => cases installed
  | rotateToken oldHash session =>
      cases reply with
      | ok created => exact ⟨session, rfl, Option.some.inj installed⟩
      | error error => cases installed
  | _ => cases installed

theorem SessionCommand.writes_of_newSession {command : SessionCommand} {session : Session}
    (new : command.newSession = some session) : (Command.sessions command).writes = true := by
  cases command <;> simp_all [SessionCommand.newSession, Command.writes]

theorem installedBy_eq_some {event : Event Ports} {tokenHash : String}
    (installed : installedBy event = some tokenHash) :
    ∃ command reply session, event.exchange = ⟨.sessions command, reply⟩ ∧
      command.newSession = some session ∧ session.tokenHash = tokenHash := by
  obtain ⟨task, command, reply⟩ := event
  cases command with
  | sessions command =>
      obtain ⟨session, new, same⟩ := SessionCommand.newSession_of_installed installed
      exact ⟨command, reply, session, rfl, new, same⟩
  | _ => cases installed

section Disciplined
variable {config : ServiceConfig store}

/-- An installed hash was drawn before by the same task. -/
theorem drawn_of_installed (disciplined : Disciplined (Permits service) (Finishes service) config)
    {event : Event Ports} (member : event ∈ config.history) {tokenHash : String}
    (installed : installedBy event = some tokenHash) :
    ∃ plain, (⟨event.task, .random .token, some plain⟩ : Event Ports) ∈ config.history ∧
      service.hash plain = tokenHash := by
  obtain ⟨later, past, same, request, _, permitted⟩ := disciplined.permitted.mem member
  obtain ⟨command, reply, session, exchange, new, hash⟩ := installedBy_eq_some installed
  rw [exchange] at permitted
  obtain ⟨_, _, plain, drawn, drew⟩ := permitted.installs new
  exact ⟨plain, mem_of_past same drawn, drew.symm.trans hash⟩

/-- Two draws of tokens with the same hash are made by the same task. -/
theorem draw_owner {history : List (Event Ports)} (fresh : (history.filterMap (drawnBy service)).Nodup)
    {first second : Nat} {plain plain' : String}
    (left : (⟨first, .random .token, some plain⟩ : Event Ports) ∈ history)
    (right : (⟨second, .random .token, some plain'⟩ : Event Ports) ∈ history)
    (same : service.hash plain = service.hash plain') : first = second := by
  have equal := eq_of_observed_once (drawnBy service) history fresh left right
    (by simp only [drawnBy, same]) rfl
  exact congrArg Event.task equal

/-- The hash that a task is about to install was never installed before. -/
theorem next_hash_fresh (disciplined : Disciplined (Permits service) (Finishes service) config)
    (fresh : (config.history.filterMap (drawnBy service)).Nodup) {task : Nat} {request : Request}
    {command : SessionCommand} {rest : command.Reply → Program Ports Answer} {session : Session}
    (selected : config.tasks[task]? = some ⟨request, .call (.sessions command) rest⟩)
    (new : command.newSession = some session) :
    session.id = "" ∧ session.tokenHash ∈ config.history.filterMap (drawnBy service) ∧
      session.tokenHash ∉ config.history.filterMap installedBy := by
  obtain ⟨unnamed, first, plain, drawn, same⟩ := (disciplined.next_permitted selected).installs new
  have event := (mem_transcript _ _ _).mp drawn
  refine ⟨unnamed, List.mem_filterMap.mpr ⟨_, event, by rw [same]; rfl⟩, ?_⟩
  intro installed
  obtain ⟨earlier, member, observed⟩ := List.mem_filterMap.mp installed
  obtain ⟨plain', event', same'⟩ := drawn_of_installed disciplined member observed
  have owner : task = earlier.task := draw_owner fresh event event' (same.symm.trans same'.symm)
  obtain ⟨call, reply, other, exchange, wrote, _⟩ := installedBy_eq_some observed
  have written : earlier.exchange ∈ select Command.writes (transcript task config.history) := by
    refine List.mem_filter.mpr ⟨?_, ?_⟩
    · rw [mem_transcript, owner]
      exact member
    · rw [exchange]
      exact SessionCommand.writes_of_newSession wrote
  rw [first] at written
  cases written

end Disciplined

theorem drawnBy_other {task : Nat} {command : Command} {reply : command.Reply}
    (apart : command ≠ .random .token) : drawnBy service ⟨task, command, reply⟩ = none := by
  cases command with
  | random command =>
      cases command with
      | token => exact absurd rfl apart
      | _ => rfl
  | _ => rfl

theorem installedBy_other {task : Nat} {command : Command} {reply : command.Reply}
    (apart : ∀ call, command ≠ .sessions call) : installedBy ⟨task, command, reply⟩ = none := by
  cases command with
  | sessions call => exact absurd rfl (apart call)
  | _ => rfl

/-- The three kinds of steps of the service. -/
theorem service_cases {config next : ServiceConfig store} {label : ServiceLabel}
    (moved : (system service store).step config label = some next) :
    (∃ request, label = .start request ∧
      next = { config with tasks := config.tasks ++ [⟨request, (handle service request).run⟩] }) ∨
    (∃ (task : Nat) (choice : Choice) (request : Request) (command : Command)
      (rest : command.Reply → Program Ports Answer) (reply : command.Reply) (world : World store),
      label = .advance task choice ∧ config.tasks[task]? = some ⟨request, .call command rest⟩ ∧
      exec service command choice config.world = some (reply, world) ∧
      next = ⟨world, config.tasks.set task ⟨request, rest reply⟩,
        ⟨task, command, reply⟩ :: config.history⟩) ∨
    (∃ tick world, label = .drift tick ∧ drift tick config.world = some world ∧
      next = { config with world }) :=
  step_cases label moved

theorem reaches_disciplined {base : World store} {requests : List Request}
    {allowed : ServiceConfig store → ServiceLabel → Prop} {config : ServiceConfig store}
    (reached : (system service store).Reaches allowed ((system service store).begin base requests) config) :
    Disciplined (Permits service) (Finishes service) config :=
  reached.disciplined (follows_handle service)

/-- A run explains its history when the history before each call justifies its exchange. -/
theorem reaches_explained {base : World store} {requests : List Request}
    {allowed : ServiceConfig store → ServiceLabel → Prop} {config : ServiceConfig store}
    {justified : Event Ports → List (Event Ports) → Prop}
    (reached : (system service store).Reaches allowed ((system service store).begin base requests) config)
    (each : ∀ (config : ServiceConfig store) (task : Nat) (request : Request) (command : Command)
      (rest : command.Reply → Program Ports Answer) (choice : Choice) (reply : command.Reply) (world : World store),
      (system service store).Reaches allowed ((system service store).begin base requests) config →
      config.tasks[task]? = some ⟨request, .call command rest⟩ →
      exec service command choice config.world = some (reply, world) →
      justified ⟨task, command, reply⟩ config.history) :
    Explained justified config.history := by
  refine reached.explained trivial ?_
  intro config task request command rest choice reply world reached _ selected executed
  exact each config task request command rest choice reply world reached selected executed

end

/-- A world is sound when its store is in order and its live hashes were issued. -/
structure World.Sound {store : SessionStore} [store.Lawful] (world : World store) : Prop where
  inv : SessionStore.Lawful.Inv world.sessions
  issued : ∀ tokenHash, Live (store.rowSet world.sessions) tokenHash → tokenHash ∈ world.issued

section Sound
variable {service : Service} {store : SessionStore} [lawful : store.Lawful]

theorem World.empty_sound (now : Time) : (World.empty store now).Sound where
  inv := lawful.empty_inv
  issued := by
    rintro tokenHash ⟨row, ⟨session, member, _⟩, _⟩
    have none : store.rows (World.empty store now).sessions = [] := lawful.empty_rows
    rw [none] at member
    cases member

/-- What the history and the store of a run know about the token hashes. -/
structure Ledger (service : Service) (base : World store) (config : ServiceConfig store) : Prop where
  inv : lawful.Inv config.world.sessions
  issued : config.world.issued = config.history.filterMap (drawnBy service) ++ base.issued
  fresh : (config.history.filterMap (drawnBy service)).Nodup
  apart : ∀ tokenHash ∈ config.history.filterMap (drawnBy service), tokenHash ∉ base.issued
  installs : (config.history.filterMap installedBy).Nodup
  live : ∀ tokenHash, Live (rowsOf config) tokenHash →
    tokenHash ∈ config.history.filterMap installedBy ∨ Live (store.rowSet base.sessions) tokenHash

variable {base : World store} {requests : List Request}
variable {allowed : ServiceConfig store → ServiceLabel → Prop} {config : ServiceConfig store}

/-- A call of a task on the session store is admissible and has the effect that its reply tells. -/
theorem Ledger.effect (ledger : Ledger service base config) (sound : base.Sound)
    (disciplined : Disciplined (Permits service) (Finishes service) config) {task : Nat}
    {request : Request} {command : SessionCommand} {rest : command.Reply → Program Ports Answer}
    (selected : config.tasks[task]? = some ⟨request, .call (.sessions command) rest⟩) {choice : Choice}
    {reply : command.Reply} {sessions : store.State}
    (executed : store.exec command choice config.world.users config.world.now config.world.sessions =
      some (reply, sessions)) :
    lawful.Inv sessions ∧
      command.Effect lawful.stored (rowsOf config) (store.rowSet sessions) reply := by
  refine lawful.exec command choice _ _ _ sessions reply ledger.inv ?_ executed
  have unused {session : Session} (new : command.newSession = some session) :
      session.id = "" ∧ ¬ Live (rowsOf config) session.tokenHash := by
    obtain ⟨unnamed, drawn, absent⟩ := next_hash_fresh disciplined ledger.fresh selected new
    refine ⟨unnamed, ?_⟩
    intro live
    rcases ledger.live _ live with installed | old
    · exact absent installed
    · exact ledger.apart _ drawn (sound.issued _ old)
  cases command with
  | create session => exact unused rfl
  | rotateToken oldHash session => exact unused rfl
  | _ => trivial

/-- A call on the session store keeps the ledger. -/
theorem Ledger.sessions_step (ledger : Ledger service base config) (sound : base.Sound)
    (disciplined : Disciplined (Permits service) (Finishes service) config) {task : Nat}
    {request : Request} {command : SessionCommand} {rest : command.Reply → Program Ports Answer}
    (selected : config.tasks[task]? = some ⟨request, .call (.sessions command) rest⟩) {choice : Choice}
    {reply : command.Reply} {sessions : store.State} (tasks : List (Task Ports Request Answer))
    (executed : store.exec command choice config.world.users config.world.now config.world.sessions =
      some (reply, sessions)) :
    Ledger service base ⟨{ config.world with sessions }, tasks,
      ⟨task, .sessions command, reply⟩ :: config.history⟩ := by
  obtain ⟨inv, effect⟩ := ledger.effect sound disciplined selected executed
  have draws : (⟨task, .sessions command, reply⟩ :: config.history).filterMap (drawnBy service) =
      config.history.filterMap (drawnBy service) := List.filterMap_cons_none rfl
  refine ⟨inv, ?_, ?_, ?_, ?_, ?_⟩
  · rw [draws]
    exact ledger.issued
  · rw [draws]
    exact ledger.fresh
  · rw [draws]
    exact ledger.apart
  · cases installed : command.installed reply with
    | none =>
        rw [List.filterMap_cons, show installedBy ⟨task, .sessions command, reply⟩ = none from installed]
        exact ledger.installs
    | some tokenHash =>
        obtain ⟨session, new, same⟩ := SessionCommand.newSession_of_installed installed
        rw [List.filterMap_cons,
          show installedBy ⟨task, .sessions command, reply⟩ = some tokenHash from installed, ← same]
        exact List.nodup_cons.mpr
          ⟨(next_hash_fresh disciplined ledger.fresh selected new).2.2, ledger.installs⟩
  · intro tokenHash live
    rcases effect.live tokenHash live with before | installed
    · rcases ledger.live tokenHash before with known | old
      · refine .inl ?_
        obtain ⟨event, member, observed⟩ := List.mem_filterMap.mp known
        exact List.mem_filterMap.mpr ⟨event, List.mem_cons_of_mem _ member, observed⟩
      · exact .inr old
    · exact .inl (List.mem_filterMap.mpr ⟨_, List.mem_cons_self, installed⟩)

/-- A draw of a token keeps the ledger. -/
theorem Ledger.draw_step (ledger : Ledger service base config) {task : Nat} {plain : String}
    (unused : service.hash plain ∉ config.world.issued) (tasks : List (Task Ports Request Answer)) :
    Ledger service base ⟨{ config.world with issued := service.hash plain :: config.world.issued }, tasks,
      ⟨task, .random .token, some plain⟩ :: config.history⟩ := by
  have draws : (⟨task, .random .token, some plain⟩ :: config.history).filterMap (drawnBy service) =
      service.hash plain :: config.history.filterMap (drawnBy service) := List.filterMap_cons_some rfl
  have installs : (⟨task, .random .token, some plain⟩ :: config.history).filterMap installedBy =
      config.history.filterMap installedBy := List.filterMap_cons_none rfl
  rw [ledger.issued, List.mem_append, not_or] at unused
  refine ⟨ledger.inv, ?_, ?_, ?_, ?_, ?_⟩
  · rw [draws, ledger.issued]
    rfl
  · rw [draws]
    exact List.nodup_cons.mpr ⟨unused.1, ledger.fresh⟩
  · rw [draws]
    intro tokenHash member
    rcases List.mem_cons.mp member with rfl | member
    · exact unused.2
    · exact ledger.apart tokenHash member
  · rw [installs]
    exact ledger.installs
  · rw [installs]
    exact ledger.live

/-- A step that neither issues nor installs keeps the ledger. -/
theorem Ledger.quiet_step (ledger : Ledger service base config) {next : ServiceConfig store}
    (sessions : next.world.sessions = config.world.sessions) (issued : next.world.issued = config.world.issued)
    (draws : next.history.filterMap (drawnBy service) = config.history.filterMap (drawnBy service))
    (installs : next.history.filterMap installedBy = config.history.filterMap installedBy) :
    Ledger service base next := by
  have rows : rowsOf next = rowsOf config := congrArg store.rowSet sessions
  refine ⟨?_, ?_, ?_, ?_, ?_, ?_⟩
  · rw [sessions]
    exact ledger.inv
  · rw [issued, draws]
    exact ledger.issued
  · rw [draws]
    exact ledger.fresh
  · rw [draws]
    exact ledger.apart
  · rw [installs]
    exact ledger.installs
  · rw [rows, installs]
    exact ledger.live

/-- Every run from a sound world keeps the ledger. -/
theorem reaches_ledger (sound : base.Sound)
    (reached : (system service store).Reaches allowed ((system service store).begin base requests) config) :
    Ledger service base config := by
  apply reached.invariant
  · exact ⟨sound.inv, rfl, List.nodup_nil, by simp [begin], List.nodup_nil, fun _ live => .inr live⟩
  · intro config label next reached ledger _ moved
    obtain ⟨_, _, rfl⟩ | ⟨task, choice, request, command, rest, reply, world, _, selected, executed, rfl⟩ |
      ⟨tick, world, _, drifted, rfl⟩ := service_cases moved
    · exact ledger.quiet_step rfl rfl rfl rfl
    · by_cases call : ∃ call, command = .sessions call
      · obtain ⟨call, rfl⟩ := call
        obtain ⟨sessions, performed, rfl⟩ := exec_sessions executed
        exact ledger.sessions_step sound (reaches_disciplined reached) selected _ performed
      · have apart : ∀ other, command ≠ .sessions other := fun other same => call ⟨other, same⟩
        have kept := (exec_changes executed).keeps_sessions apart
        have installs : (⟨task, command, reply⟩ :: config.history).filterMap installedBy =
            config.history.filterMap installedBy := List.filterMap_cons_none (installedBy_other apart)
        by_cases token : command = .random .token
        · subst token
          obtain ⟨rfl, rfl⟩ | ⟨plain, rfl, unused, rfl⟩ := exec_draw executed
          · exact ledger.quiet_step rfl rfl (List.filterMap_cons_none rfl) installs
          · exact ledger.draw_step unused _
        · exact ledger.quiet_step kept ((exec_changes executed).keeps_issued token)
            (List.filterMap_cons_none (drawnBy_other token)) installs
    · obtain ⟨cache, now, rfl⟩ := drift_frame drifted
      exact ledger.quiet_step rfl rfl rfl rfl

end Sound
end AuthService
