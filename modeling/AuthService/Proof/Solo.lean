/-
This file runs one request alone and relates such a run to the concurrent service.
-/

import AuthService.Proof.ConductRules
import AuthService.Proof.Ledger

namespace AuthService
open Interleaving Program System

/-- A request that runs alone: the world, the readings that its clock will give and its exchanges. -/
structure Solo (store : SessionStore) where
  world : World store
  times : List Time
  past : Past

namespace Solo
variable {store : SessionStore}

/-- The clock moves to its next reading before it is read. -/
def ready (solo : Solo store) : Command → Solo store
  | .clock =>
      match solo.times with
      | [] => solo
      | time :: times => { solo with world := { solo.world with now := time }, times }
  | _ => solo

/-- One call of the request, which is recorded. -/
def exec (service : Service) (choice : Choice) (command : Command) (solo : Solo store) :
    Option (command.Reply × Solo store) :=
  (AuthService.exec service command choice (solo.ready command).world).map fun result =>
    (result.1, ⟨result.2, (solo.ready command).times, ⟨command, result.1⟩ :: solo.past⟩)

/-- The request after a call that left this world. -/
def next (solo : Solo store) (world : World store) (exchange : Exchange Ports) : Solo store :=
  ⟨world, solo.times, exchange :: solo.past⟩

variable {service : Service} {choice : Choice} {solo : Solo store}

/-- Every call but the clock is executed as it is. -/
theorem exec_next (solo : Solo store) {command : Command} {reply : command.Reply} {world : World store}
    (executed : AuthService.exec service command choice solo.world = some (reply, world))
    (apart : command ≠ .clock) :
    exec service choice command solo = some (reply, solo.next world ⟨command, reply⟩) := by
  have same : solo.ready command = solo := by
    unfold ready
    split
    · exact absurd rfl apart
    · rfl
  rw [exec, same, executed]
  rfl

/-- The clock gives the next reading. -/
theorem exec_clock {time : Time} {times : List Time} (script : solo.times = time :: times) :
    exec service choice .clock solo =
      some (time, ⟨{ solo.world with now := time }, times, ⟨.clock, time⟩ :: solo.past⟩) := by
  simp only [exec, ready, script, AuthService.exec, Option.map_some]

end Solo

/-- The request runs alone to its answer. -/
def runAlone {store : SessionStore} (service : Service) (choice : Choice) (request : Request)
    (solo : Solo store) : Option (Answer × Solo store) :=
  (handle service request).run.eval (Solo.exec service choice) solo

section
variable {service : Service} {store : SessionStore} {choice : Choice}

/-- The calls that change no store and always return. -/
def Command.aside : Command → Bool
  | .cache _ | .background _ | .clock => true
  | _ => false

/-- Only calls on the side are made. -/
structure Aside (past : Past) (command : Command) : Prop where
  side : command.aside = true

theorem Command.incidental_of_aside {command : Command} (side : command.aside = true) :
    command.incidental = true := by
  cases command <;> first | rfl | cases side

theorem exec_aside {command : Command} (side : command.aside = true) (world : World store) :
    ∃ reply next, exec service command choice world = some (reply, next) ∧ next.sessions = world.sessions := by
  obtain ⟨⟨reply, next⟩, executed⟩ : ∃ result, exec service command choice world = some result := by
    cases command with
    | cache command => exact ⟨_, rfl⟩
    | background command => exact ⟨_, rfl⟩
    | clock => exact ⟨_, rfl⟩
    | _ => cases side
  refine ⟨reply, next, executed, (exec_changes executed).keeps_sessions ?_⟩
  rintro call rfl
  cases side

theorem Solo.ready_sessions (solo : Solo store) (command : Command) :
    (solo.ready command).world.sessions = solo.world.sessions := by
  unfold Solo.ready
  split
  · split <;> rfl
  · rfl

/-- A program of calls on the side runs to its end and keeps the sessions. -/
theorem eval_aside (service : Service) (choice : Choice) {A : Type} {program : Program Ports A} {answer : A}
    {past : Past} (follows : program.Follows Aside (fun _ result => result = answer) past) (solo : Solo store) :
    ∃ last, program.eval (Solo.exec service choice) solo = some (answer, last) ∧
      last.world.sessions = solo.world.sessions ∧ Extends solo.past last.past := by
  induction program generalizing solo past with
  | done result =>
      obtain rfl : result = answer := follows
      exact ⟨solo, rfl, rfl, .refl _⟩
  | call command next ih =>
      obtain ⟨⟨side⟩, rest⟩ := follows
      obtain ⟨reply, world, executed, kept⟩ :
          ∃ reply world, exec service command choice (solo.ready command).world = some (reply, world) ∧
            world.sessions = (solo.ready command).world.sessions := exec_aside side _
      obtain ⟨last, runs, sessions, extended⟩ := ih reply (rest reply)
        ⟨world, (solo.ready command).times, ⟨command, reply⟩ :: solo.past⟩
      refine ⟨last, ?_, ?_, ?_⟩
      · rw [Program.eval, Solo.exec, executed]
        exact runs
      · rw [sessions, kept, Solo.ready_sessions]
      · exact ((Extends.refl solo.past).cons ⟨command, reply⟩ (Command.incidental_of_aside side)).trans extended

/-- A new session is cached and reported on the side. -/
theorem follows_cacheReport (tokenHash : String) (copy : CachedSession) (auditUser : Option String)
    (hookUser email : String) (eventType : AuditEventType) (client : ClientInfo)
    (auditMeta hookMeta : List (String × String)) (response : Response) (past : Past) :
    (do
      cacheSession tokenHash copy
      report auditUser hookUser email eventType client auditMeta hookMeta
      return response : Handler Response).run.Follows Aside (fun _ result => result = .ok response) past := by
  have reported (past : Past) : (report auditUser hookUser email eventType client auditMeta hookMeta >>= fun _ =>
      pure response : Handler Response).run.Follows Aside (fun _ result => result = .ok response) past :=
    ⟨⟨rfl⟩, fun _ => ⟨⟨rfl⟩, fun _ => rfl⟩⟩
  unfold cacheSession
  simp only [follows_run_bind]
  refine follows_call (Aside.mk rfl) fun now => ?_
  rw [continues_ok]
  split
  · rw [follows_run_bind]
    refine follows_call (Aside.mk rfl) fun _ => ?_
    exact reported _
  · exact reported _

/-- An expired session is dropped from the cache on the side. -/
theorem follows_dropThrow (tokenHash : String) (status : Status) :
    (deleteSessionFromCache tokenHash >>= fun _ => throw status : Handler Unit).run.Follows Aside
      (fun _ result => result = .error status) [] := by
  unfold deleteSessionFromCache
  simp only [follows_run_bind]
  exact ⟨⟨rfl⟩, fun _ => rfl⟩

/-- The calls after the rotation are all on the side. -/
theorem follows_afterwards (oldHash newHash : String) (copy : CachedSession) (auditUser : Option String)
    (hookUser email : String) (eventType : AuditEventType) (client : ClientInfo)
    (auditMeta hookMeta : List (String × String)) (response : Response) :
    (do
      deleteSessionFromCache oldHash
      cacheSession newHash copy
      report auditUser hookUser email eventType client auditMeta hookMeta
      return response : Handler Response).run.Follows Aside (fun _ result => result = .ok response) [] := by
  unfold deleteSessionFromCache
  simp only [follows_run_bind]
  refine follows_call (Aside.mk rfl) fun _ => ?_
  exact follows_cacheReport ..

/-- In a run of one request every event is an exchange of this request. -/
theorem alone_transcript {world : World store} {request : Request} {config : ServiceConfig store}
    (reached : (system service store).Reaches NoStart ((system service store).begin world [request]) config)
    {event : Event Ports} (member : event ∈ config.history) :
    event.exchange ∈ transcript 0 config.history := by
  have inside := (reaches_disciplined reached).task_lt member
  rw [reached.tasks_length] at inside
  have zero : event.task = 0 := Nat.lt_one_iff.mp inside
  rw [mem_transcript, ← zero]
  exact member

/-- A program that runs alone is a run of the service in which nothing else happens. -/
theorem reaches_of_eval {request : Request} {program : Program Ports Answer} {answer : Answer}
    {solo last : Solo store} {config : ServiceConfig store}
    (ran : program.eval (Solo.exec service choice) solo = some (answer, last))
    (selected : config.tasks[0]? = some ⟨request, program⟩) (world : config.world = solo.world)
    (past : transcript 0 config.history = solo.past) :
    ∃ final, (system service store).Reaches NoStart config final ∧ final.request 0 = some request ∧
      final.Answered 0 answer ∧ final.world = last.world ∧ transcript 0 final.history = last.past := by
  induction program generalizing solo config with
  | done result =>
      obtain ⟨rfl, rfl⟩ := Prod.mk.inj (Option.some.inj ran)
      exact ⟨config, .refl, by rw [Config.request, selected]; rfl, by rw [Config.Answered, selected]; rfl, world, past⟩
  | call command next ih =>
      obtain ⟨⟨reply, after⟩, performed, rest⟩ := Option.bind_eq_some_iff.mp ran
      obtain ⟨⟨result, changed⟩, executed, same⟩ := Option.map_eq_some_iff.mp performed
      obtain ⟨rfl, rfl⟩ := Prod.mk.inj same
      have inside := (List.getElem?_eq_some_iff.mp selected).1
      obtain ⟨set, ticked, tasks, clock, history⟩ : ∃ set, (system service store).Reaches NoStart config set ∧
          set.tasks = config.tasks ∧ set.world = (solo.ready command).world ∧ set.history = config.history := by
        unfold Solo.ready
        split
        · split
          · exact ⟨config, .refl, rfl, world, rfl⟩
          · rename_i time times _
            refine ⟨{ config with world := { config.world with now := time } },
              .step (.drift (.clock time)) .refl trivial rfl, rfl, ?_, rfl⟩
            rw [world]
        · exact ⟨config, .refl, rfl, world, rfl⟩
      let moved : ServiceConfig store :=
        ⟨changed, config.tasks.set 0 ⟨request, next result⟩, ⟨0, command, result⟩ :: config.history⟩
      have following : moved.tasks[0]? = some ⟨request, next result⟩ := List.getElem?_set_self inside
      have recorded : transcript 0 moved.history = ⟨command, result⟩ :: solo.past := by
        rw [← past]
        exact transcript_cons_self 0 _ config.history
      obtain ⟨final, reached, request', answered, world', past'⟩ := ih result rest following rfl recorded
      refine ⟨final, (Reaches.step (.advance 0 choice) ticked trivial ?_).trans reached, request', answered,
        world', past'⟩
      simp only [step, tasks, selected, history]
      change (exec service command choice set.world).map _ = _
      rw [clock, executed]
      rfl

/-- A request that runs alone gives the answer and leaves the world of a run of the service without other
requests. -/
theorem reaches_of_runAlone {request : Request} {answer : Answer} {world : World store} {times : List Time}
    {last : Solo store} (ran : runAlone service choice request ⟨world, times, []⟩ = some (answer, last)) :
    ∃ final, (system service store).Reaches NoStart ((system service store).begin world [request]) final ∧
      final.Answered 0 answer ∧ final.world = last.world ∧ transcript 0 final.history = last.past := by
  have started : ((system service store).begin world [request]).tasks[0]? =
      some ⟨request, (handle service request).run⟩ := rfl
  obtain ⟨final, reached, _, answered, same, past⟩ := reaches_of_eval ran started rfl rfl
  exact ⟨final, reached, answered, same, past⟩

end
end AuthService
