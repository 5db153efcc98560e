import AuthService.Concurrency.Program
import Mathlib.Data.List.Basic
import Mathlib.Data.List.Induction
import Mathlib.Tactic.Common

namespace Interleaving

/-- A system answers requests with programs and executes their commands on a shared world.
A choice resolves the nondeterminism of one command, and a tick is a move of the surroundings. -/
structure System (S : Signature) (World Choice Tick Request Answer : Type) where
  handler : Request → Program S Answer
  exec : (command : S.Command) → Choice → World → Option (S.Reply command × World)
  drift : Tick → World → Option World

structure Task (S : Signature) (Request Answer : Type) where
  request : Request
  rest : Program S Answer

/-- An event records which task performed an exchange. -/
structure Event (S : Signature) where
  task : Nat
  exchange : Exchange S

/-- A configuration keeps every task that was started and the events with the newest first. -/
structure Config (S : Signature) (World Request Answer : Type) where
  world : World
  tasks : List (Task S Request Answer)
  history : List (Event S)

inductive Label (Choice Tick Request : Type) where
  | start (request : Request)
  | advance (task : Nat) (choice : Choice)
  | drift (tick : Tick)

variable {S : Signature} {World Choice Tick Request Answer : Type}

/-- The transcript of a task is its part of the history. -/
def transcript (task : Nat) (history : List (Event S)) : List (Exchange S) :=
  (history.filter fun event => event.task = task).map Event.exchange

@[simp] theorem transcript_nil (task : Nat) : transcript task ([] : List (Event S)) = [] := rfl

theorem transcript_cons_self (task : Nat) (exchange : Exchange S) (history : List (Event S)) :
    transcript task (⟨task, exchange⟩ :: history) = exchange :: transcript task history := by
  simp [transcript]

theorem transcript_cons_other (task : Nat) (event : Event S) (history : List (Event S))
    (other : event.task ≠ task) : transcript task (event :: history) = transcript task history := by
  simp [transcript, other]

@[simp] theorem mem_transcript (task : Nat) (exchange : Exchange S) (history : List (Event S)) :
    exchange ∈ transcript task history ↔ ⟨task, exchange⟩ ∈ history := by
  simp only [transcript, List.mem_map, List.mem_filter, decide_eq_true_eq]
  constructor
  · rintro ⟨event, ⟨member, rfl⟩, rfl⟩
    exact member
  · intro member
    exact ⟨_, ⟨member, rfl⟩, rfl⟩

theorem transcript_suffix (task : Nat) {past history : List (Event S)} (earlier : past <:+ history) :
    transcript task past <:+ transcript task history :=
  (earlier.filter _).map _

/-- An earlier exchange of a task is an event of the whole history. -/
theorem mem_of_past {history later past : List (Event S)} {event : Event S} {task : Nat}
    {exchange : Exchange S} (same : history = later ++ event :: past)
    (member : exchange ∈ transcript task past) : ⟨task, exchange⟩ ∈ history := by
  rw [same]
  exact List.mem_append_right _ (List.mem_cons_of_mem _ ((mem_transcript _ _ _).mp member))

/-- A history is explained when each event is justified by the events before it. -/
def Explained (justified : Event S → List (Event S) → Prop) : List (Event S) → Prop
  | [] => True
  | event :: past => justified event past ∧ Explained justified past

theorem Explained.imp {justified justified' : Event S → List (Event S) → Prop}
    (weaker : ∀ event past, justified event past → justified' event past)
    (history : List (Event S)) (explained : Explained justified history) :
    Explained justified' history := by
  induction history with
  | nil => trivial
  | cons event past ih => exact ⟨weaker event past explained.1, ih explained.2⟩

/-- Each event of an explained history is justified by its own past. -/
theorem Explained.split {justified : Event S → List (Event S) → Prop} {history : List (Event S)}
    (explained : Explained justified history) (later : List (Event S)) (event : Event S)
    (past : List (Event S)) (same : history = later ++ event :: past) : justified event past := by
  subst same
  induction later with
  | nil => exact explained.1
  | cons _ later ih => exact ih explained.2

/-- The part of an explained history before a moment is explained. -/
theorem Explained.before {justified : Event S → List (Event S) → Prop} {later past : List (Event S)}
    (explained : Explained justified (later ++ past)) : Explained justified past := by
  induction later with
  | nil => exact explained
  | cons _ later ih => exact ih explained.2

theorem Explained.mem {justified : Event S → List (Event S) → Prop} {history : List (Event S)}
    (explained : Explained justified history) {event : Event S} (member : event ∈ history) :
    ∃ later past, history = later ++ event :: past ∧ justified event past := by
  obtain ⟨later, past, same⟩ := List.append_of_mem member
  exact ⟨later, past, same, explained.split later event past same⟩

/-- When the past of an event excludes its relatives, related events are the same. -/
theorem Explained.unique {justified : Event S → List (Event S) → Prop} {history : List (Event S)}
    (explained : Explained justified history) (related : Event S → Event S → Prop)
    (symmetric : ∀ first second, related first second → related second first)
    (excludes : ∀ event past, justified event past → ∀ other ∈ past, ¬ related event other)
    {first second : Event S} (left : first ∈ history) (right : second ∈ history)
    (relatives : related first second) : first = second := by
  induction history with
  | nil => cases left
  | cons event past ih =>
      rcases List.mem_cons.mp left with rfl | inside
      · rcases List.mem_cons.mp right with rfl | inside
        · rfl
        · exact absurd relatives (excludes first past explained.1 second inside)
      · rcases List.mem_cons.mp right with rfl | inside'
        · exact absurd (symmetric _ _ relatives) (excludes second past explained.1 first inside)
        · exact ih explained.2 inside inside'

/-- An observation that never repeats identifies its event. -/
theorem eq_of_observed_once {B : Type} (observe : Event S → Option B) (history : List (Event S))
    (once : (history.filterMap observe).Nodup) {first second : Event S} (left : first ∈ history)
    (right : second ∈ history) (same : observe first = observe second)
    (observed : (observe first).isSome) : first = second := by
  induction history with
  | nil => cases left
  | cons event past ih =>
      have earlier : (past.filterMap observe).Nodup :=
        once.sublist ((List.sublist_cons_self event past).filterMap observe)
      have apart : ∀ other ∈ past, observe event = observe other → (observe event).isSome → False := by
        intro other member equal known
        obtain ⟨value, seen⟩ := Option.isSome_iff_exists.mp known
        rw [List.filterMap_cons, seen] at once
        exact (List.nodup_cons.mp once).1 (List.mem_filterMap.mpr ⟨other, member, equal ▸ seen⟩)
      rcases List.mem_cons.mp left with rfl | inside
      · rcases List.mem_cons.mp right with rfl | inside
        · rfl
        · exact (apart second inside same observed).elim
      · rcases List.mem_cons.mp right with rfl | inside'
        · exact (apart first inside same.symm (same ▸ observed)).elim
        · exact ih earlier inside inside'

namespace Config

/-- The command that a task performs next. -/
def Next (config : Config S World Request Answer) (task : Nat) (command : S.Command) : Prop :=
  ∃ request rest, config.tasks[task]? = some ⟨request, .call command rest⟩

/-- The request that a task was started with. -/
def request (config : Config S World Request Answer) (task : Nat) : Option Request :=
  (config.tasks[task]?).map Task.request

/-- A task has answered when its program has no command left. -/
def Answered (config : Config S World Request Answer) (task : Nat) (answer : Answer) : Prop :=
  (config.tasks[task]?).map Task.rest = some (.done answer)

/-- The answer of a task, if it has one. -/
def answer? (config : Config S World Request Answer) (task : Nat) : Option Answer :=
  (config.tasks[task]?).bind fun entry =>
    match entry.rest with
    | .done answer => some answer
    | .call _ _ => none

theorem answered_of_answer? {config : Config S World Request Answer} {task : Nat} {answer : Answer}
    (known : config.answer? task = some answer) : config.Answered task answer := by
  obtain ⟨entry, member, finished⟩ := Option.bind_eq_some_iff.mp known
  rw [Answered, member, Option.map_some]
  split at finished
  · rename_i same
    rw [same, Option.some.inj finished]
  · cases finished

theorem answer?_of_answered {config : Config S World Request Answer} {task : Nat} {answer : Answer}
    (answered : config.Answered task answer) : config.answer? task = some answer := by
  obtain ⟨entry, member, finished⟩ := Option.map_eq_some_iff.mp answered
  simp only [answer?, member, Option.bind_some, finished]

end Config

namespace System
variable (system : System S World Choice Tick Request Answer)

/-- A run begins in a world with some started tasks and no events. -/
def begin (world : World) (requests : List Request) : Config S World Request Answer where
  world
  tasks := requests.map fun request => ⟨request, system.handler request⟩
  history := []

def step (config : Config S World Request Answer) :
    Label Choice Tick Request → Option (Config S World Request Answer)
  | .start request =>
      some { config with tasks := config.tasks ++ [⟨request, system.handler request⟩] }
  | .advance task choice =>
      match config.tasks[task]? with
      | some ⟨request, .call command next⟩ =>
          (system.exec command choice config.world).map fun result =>
            { world := result.2
              tasks := config.tasks.set task ⟨request, next result.1⟩
              history := ⟨task, command, result.1⟩ :: config.history }
      | _ => none
  | .drift tick => (system.drift tick config.world).map fun world => { config with world }

/-- A schedule resolves every choice of a run, and the run stops at a step that is not permitted. -/
def run (permits : Config S World Request Answer → Label Choice Tick Request → Bool) :
    List (Label Choice Tick Request) → Config S World Request Answer →
    Option (Config S World Request Answer)
  | [], config => some config
  | label :: labels, config =>
      if permits config label then (system.step config label).bind (run permits labels) else none

/-- The reachable configurations of the runs whose steps are all allowed. -/
inductive Reaches (allowed : Config S World Request Answer → Label Choice Tick Request → Prop)
    (initial : Config S World Request Answer) : Config S World Request Answer → Prop where
  | refl : Reaches allowed initial initial
  | step {config next : Config S World Request Answer} (label : Label Choice Tick Request)
      (reached : Reaches allowed initial config) (permitted : allowed config label)
      (moved : system.step config label = some next) : Reaches allowed initial next

/-- Every step of an unrestricted run is allowed. -/
def anything (_ : Config S World Request Answer) (_ : Label Choice Tick Request) : Bool := true

def Anything (config : Config S World Request Answer) (label : Label Choice Tick Request) : Prop :=
  anything config label = true

/-- No new task starts in a run of the tasks that are already there. -/
def NoStart (_ : Config S World Request Answer) : Label Choice Tick Request → Prop
  | .start _ => False
  | _ => True

/-- The check of a step in a run without starts. -/
def noStart (_ : Config S World Request Answer) : Label Choice Tick Request → Bool
  | .start _ => false
  | _ => true

variable {system}
variable {allowed : Config S World Request Answer → Label Choice Tick Request → Prop}
variable {initial config next : Config S World Request Answer}

theorem Reaches.trans {last : Config S World Request Answer}
    (first : system.Reaches allowed initial config) (second : system.Reaches allowed config last) :
    system.Reaches allowed initial last := by
  induction second with
  | refl => exact first
  | step label _ permitted moved ih => exact .step label ih permitted moved

theorem Reaches.imp {allowed' : Config S World Request Answer → Label Choice Tick Request → Prop}
    (weaker : ∀ config label, allowed config label → allowed' config label)
    (reached : system.Reaches allowed initial config) : system.Reaches allowed' initial config := by
  induction reached with
  | refl => exact .refl
  | step label _ permitted moved ih => exact .step label ih (weaker _ _ permitted) moved

theorem Reaches.of_noStart
    (reached : system.Reaches (fun config label => noStart config label = true) initial config) :
    system.Reaches NoStart initial config := by
  refine reached.imp ?_
  rintro config (request | ⟨task, choice⟩ | tick) permitted
  · cases permitted
  · trivial
  · trivial

/-- A condition that every allowed step keeps holds in every reachable configuration. -/
theorem Reaches.invariant {holds : Config S World Request Answer → Prop}
    (reached : system.Reaches allowed initial config) (start : holds initial)
    (keeps : ∀ config label next, system.Reaches allowed initial config → holds config →
      allowed config label → system.step config label = some next → holds next) : holds config := by
  induction reached with
  | refl => exact start
  | step label reached permitted moved ih => exact keeps _ label _ reached ih permitted moved

/-- A schedule that the system accepts gives a reachable configuration. -/
theorem reaches_run {permits : Config S World Request Answer → Label Choice Tick Request → Bool}
    (labels : List (Label Choice Tick Request))
    (accepted : system.run permits labels initial = some config) :
    system.Reaches (fun config label => permits config label = true) initial config := by
  induction labels generalizing initial with
  | nil =>
      simp only [run, Option.some.injEq] at accepted
      subst accepted
      exact .refl
  | cons label labels ih =>
      simp only [run] at accepted
      split at accepted
      · rename_i permitted
        obtain ⟨middle, moved, rest⟩ := Option.bind_eq_some_iff.mp accepted
        exact (Reaches.step label .refl permitted moved).trans (ih rest)
      · cases accepted

/-- A schedule whose final configuration passes a check shows that such a configuration is reachable. -/
theorem exists_of_run {permits : Config S World Request Answer → Label Choice Tick Request → Bool}
    (labels : List (Label Choice Tick Request)) (check : Config S World Request Answer → Bool)
    (passed : (system.run permits labels initial).any check = true) :
    ∃ config, system.Reaches (fun config label => permits config label = true) initial config ∧
      check config = true := by
  cases accepted : system.run permits labels initial with
  | none =>
      rw [accepted] at passed
      cases passed
  | some config =>
      rw [accepted] at passed
      exact ⟨config, reaches_run labels accepted, passed⟩

/-- Any requests can be started at the beginning of a run. -/
theorem reaches_started (world : World) (requests : List Request)
    (starts : ∀ config request, allowed config (.start request)) :
    system.Reaches allowed (system.begin world []) (system.begin world requests) := by
  induction requests using List.reverseRecOn with
  | nil => exact .refl
  | append_singleton requests request ih =>
      refine .step (.start request) ih (starts _ _) ?_
      simp only [step, begin, List.map_append, List.map_cons, List.map_nil]

/-- The three kinds of steps, with everything that each of them changes. -/
theorem step_cases (label : Label Choice Tick Request)
    (moved : system.step config label = some next) :
    (∃ request, label = .start request ∧
      next = { config with tasks := config.tasks ++ [⟨request, system.handler request⟩] }) ∨
    (∃ task choice request command rest reply world, label = .advance task choice ∧
      config.tasks[task]? = some ⟨request, .call command rest⟩ ∧
      system.exec command choice config.world = some (reply, world) ∧
      next = ⟨world, config.tasks.set task ⟨request, rest reply⟩,
        ⟨task, command, reply⟩ :: config.history⟩) ∨
    (∃ tick world, label = .drift tick ∧ system.drift tick config.world = some world ∧
      next = { config with world }) := by
  cases label with
  | start request =>
      simp only [step, Option.some.injEq] at moved
      exact .inl ⟨request, rfl, moved.symm⟩
  | advance task choice =>
      simp only [step] at moved
      split at moved
      · rename_i request command rest selected
        obtain ⟨⟨reply, world⟩, executed, same⟩ := Option.map_eq_some_iff.mp moved
        exact .inr (.inl ⟨task, choice, request, command, rest, reply, world, rfl, selected,
          executed, same.symm⟩)
      · exact absurd moved (by simp)
  | drift tick =>
      obtain ⟨world, drifted, same⟩ := Option.map_eq_some_iff.mp moved
      exact .inr (.inr ⟨tick, world, rfl, drifted, same.symm⟩)

/-- A step adds at most one event to the history. -/
theorem step_history (label : Label Choice Tick Request)
    (moved : system.step config label = some next) :
    next.history = config.history ∨ ∃ event, next.history = event :: config.history := by
  obtain ⟨_, _, rfl⟩ | ⟨task, _, _, command, _, reply, _, _, _, _, rfl⟩ | ⟨_, _, _, _, rfl⟩ :=
    step_cases label moved
  · exact .inl rfl
  · exact .inr ⟨⟨task, command, reply⟩, rfl⟩
  · exact .inl rfl

theorem step_suffix (label : Label Choice Tick Request) (moved : system.step config label = some next) :
    config.history <:+ next.history := by
  obtain same | ⟨event, same⟩ := step_history label moved
  · exact same ▸ List.suffix_refl _
  · exact same ▸ List.suffix_cons event _

/-- The history of a later configuration extends the history of an earlier one. -/
theorem Reaches.history_suffix (reached : system.Reaches allowed initial config) :
    initial.history <:+ config.history := by
  induction reached with
  | refl => exact List.suffix_refl _
  | step label _ _ moved ih => exact ih.trans (step_suffix label moved)

/-- When the exchange of every step is justified by the history before it, the history is explained. -/
theorem Reaches.explained {justified : Event S → List (Event S) → Prop}
    (reached : system.Reaches allowed initial config) (start : Explained justified initial.history)
    (each : ∀ (config : Config S World Request Answer) (task : Nat) (request : Request)
      (command : S.Command) (rest : S.Reply command → Program S Answer) (choice : Choice)
      (reply : S.Reply command) (world : World), system.Reaches allowed initial config →
      allowed config (.advance task choice) → config.tasks[task]? = some ⟨request, .call command rest⟩ →
      system.exec command choice config.world = some (reply, world) →
      justified ⟨task, command, reply⟩ config.history) :
    Explained justified config.history := by
  induction reached with
  | refl => exact start
  | step label reached permitted moved explained =>
      obtain ⟨_, _, rfl⟩ | ⟨task, choice, request, command, rest, reply, world, rfl, selected, executed, rfl⟩ |
        ⟨_, _, _, _, rfl⟩ := step_cases label moved
      · exact explained
      · exact ⟨each _ task request command rest choice reply world reached permitted selected executed, explained⟩
      · exact explained

/-- A step performs the event that it adds to the history. -/
def Performs (system : System S World Choice Tick Request Answer) (config : Config S World Request Answer)
    (event : Event S) (next : Config S World Request Answer) : Prop :=
  ∃ choice, system.step config (.advance event.task choice) = some next ∧ next.history = event :: config.history

/-- What a performed event tells about the step that performed it. -/
theorem Performs.executed {event : Event S} (performs : system.Performs config event next) :
    ∃ choice request rest, config.tasks[event.task]? = some ⟨request, .call event.exchange.command rest⟩ ∧
      system.exec event.exchange.command choice config.world = some (event.exchange.reply, next.world) := by
  obtain ⟨choice, moved, added⟩ := performs
  obtain ⟨_, started, _⟩ | ⟨task, _, request, command, rest, reply, world, advanced, selected, executed, rfl⟩ |
    ⟨_, _, drifted, _⟩ := step_cases _ moved
  · cases started
  · obtain ⟨owner, performed⟩ := event
    cases advanced
    cases added
    exact ⟨choice, request, rest, selected, executed⟩
  · cases drifted

/-- A run passes through the step that performed an event of its history. -/
theorem Reaches.performed (reached : system.Reaches allowed initial config) (fresh : initial.history = [])
    {later past : List (Event S)} {event : Event S} (same : config.history = later ++ event :: past) :
    ∃ before after, system.Reaches allowed initial before ∧ before.history = past ∧
      (∃ choice, allowed before (.advance event.task choice)) ∧ system.Performs before event after ∧
      system.Reaches allowed after config := by
  induction reached generalizing later with
  | refl =>
      rw [fresh] at same
      exact absurd same (by simp)
  | @step middle last label reached permitted moved ih =>
      have unchanged (kept : last.history = middle.history) : ∃ before after,
          system.Reaches allowed initial before ∧ before.history = past ∧
          (∃ choice, allowed before (.advance event.task choice)) ∧ system.Performs before event after ∧
          system.Reaches allowed after last := by
        obtain ⟨before, after, first, matched, allows, performs, rest⟩ := ih (kept.symm.trans same)
        exact ⟨before, after, first, matched, allows, performs, .step label rest permitted moved⟩
      obtain ⟨_, _, rfl⟩ | ⟨task, choice, request, command, rest, reply, world, rfl, selected, executed, rfl⟩ |
        ⟨_, _, _, _, rfl⟩ := step_cases label moved
      · exact unchanged rfl
      · cases later with
        | nil =>
            obtain ⟨rfl, rfl⟩ := List.cons.inj same
            exact ⟨middle, _, reached, rfl, ⟨choice, permitted⟩, ⟨choice, moved, rfl⟩, .refl⟩
        | cons newest later =>
            obtain ⟨before, after, first, matched, allows, performs, onward⟩ := ih (List.cons.inj same).2
            exact ⟨before, after, first, matched, allows, performs, .step _ onward permitted moved⟩
      · exact unchanged rfl

/-- A started task keeps its request. -/
theorem step_request (label : Label Choice Tick Request)
    (moved : system.step config label = some next) (task : Nat) (request : Request)
    (started : config.request task = some request) : next.request task = some request := by
  obtain ⟨added, _, rfl⟩ | ⟨index, _, owner, command, rest, reply, _, _, selected, _, rfl⟩ |
    ⟨_, _, _, _, rfl⟩ := step_cases label moved
  · obtain ⟨found, member, rfl⟩ := Option.map_eq_some_iff.mp started
    have inside := (List.getElem?_eq_some_iff.mp member).1
    simp only [Config.request, List.getElem?_append_left inside, member, Option.map_some]
  · by_cases same : index = task
    · subst same
      have inside := (List.getElem?_eq_some_iff.mp selected).1
      simp only [Config.request, selected, Option.map_some, Option.some.injEq] at started
      simp only [Config.request, List.getElem?_set_self inside, Option.map_some, started]
    · simpa only [Config.request, List.getElem?_set_ne same] using started
  · exact started

theorem Reaches.request (reached : system.Reaches allowed initial config) (task : Nat)
    (request : Request) (started : initial.request task = some request) :
    config.request task = some request := by
  induction reached with
  | refl => exact started
  | step label _ _ moved ih => exact step_request label moved task request ih

/-- Only a start gives a task its request. -/
theorem step_started (label : Label Choice Tick Request)
    (moved : system.step config label = some next) {task : Nat} {request : Request}
    (absent : config.request task = none) (known : next.request task = some request) :
    label = .start request := by
  have outside : config.tasks.length ≤ task := by
    rwa [Config.request, Option.map_eq_none_iff, List.getElem?_eq_none_iff] at absent
  obtain ⟨added, rfl, rfl⟩ | ⟨index, _, owner, command, rest, reply, _, _, selected, _, rfl⟩ |
    ⟨_, _, _, _, rfl⟩ := step_cases label moved
  · obtain ⟨found, member, rfl⟩ := Option.map_eq_some_iff.mp known
    rw [List.getElem?_append_right outside] at member
    obtain ⟨_, same⟩ := List.getElem?_eq_some_iff.mp member
    rw [List.getElem_singleton] at same
    rw [← same]
  · have inside := (List.getElem?_eq_some_iff.mp selected).1
    rw [Config.request, List.getElem?_set_ne (by omega)] at known
    exact absurd (absent.symm.trans known) (by simp)
  · exact absurd (absent.symm.trans known) (by simp)

/-- A run passes through the start of every task that it has added. -/
theorem Reaches.started (reached : system.Reaches allowed initial config) {task : Nat} {request : Request}
    (absent : initial.request task = none) (known : config.request task = some request) :
    ∃ before after, system.Reaches allowed initial before ∧ before.request task = none ∧
      allowed before (.start request) ∧ system.step before (.start request) = some after ∧
      after.request task = some request ∧ system.Reaches allowed after config := by
  induction reached with
  | refl => exact absurd (absent.symm.trans known) (by simp)
  | @step middle last label reached permitted moved ih =>
      cases earlier : middle.request task with
      | none =>
          obtain rfl := step_started label moved earlier known
          exact ⟨middle, last, reached, earlier, permitted, moved, known, .refl⟩
      | some found =>
          have kept := step_request label moved task found earlier
          obtain rfl : found = request := Option.some.inj (kept.symm.trans known)
          obtain ⟨before, after, first, none, allows, starts, started, rest⟩ := ih earlier
          exact ⟨before, after, first, none, allows, starts, started, .step label rest permitted moved⟩

/-- A run without starts keeps its tasks. -/
theorem Reaches.tasks_length (reached : system.Reaches NoStart initial config) :
    config.tasks.length = initial.tasks.length := by
  induction reached with
  | refl => rfl
  | step label _ permitted moved ih =>
      obtain ⟨request, rfl, _⟩ | ⟨_, _, _, _, _, _, _, _, _, _, rfl⟩ | ⟨_, _, _, _, rfl⟩ :=
        step_cases label moved
      · exact permitted.elim
      · rw [List.length_set, ih]
      · exact ih

/-- An answered task performs nothing more. -/
theorem step_answered (label : Label Choice Tick Request)
    (moved : system.step config label = some next) (task : Nat) (answer : Answer)
    (answered : config.Answered task answer) : next.Answered task answer := by
  obtain ⟨found, member, finished⟩ := Option.map_eq_some_iff.mp answered
  obtain ⟨added, _, rfl⟩ | ⟨index, _, owner, command, rest, reply, _, _, selected, _, rfl⟩ |
    ⟨_, _, _, _, rfl⟩ := step_cases label moved
  · have inside := (List.getElem?_eq_some_iff.mp member).1
    simp only [Config.Answered, List.getElem?_append_left inside, member, Option.map_some, finished]
  · have other : index ≠ task := by
      rintro rfl
      rw [selected, Option.some.injEq] at member
      rw [← member] at finished
      exact absurd finished (by simp)
    simp only [Config.Answered, List.getElem?_set_ne other, member, Option.map_some, finished]
  · exact answered

theorem Reaches.answered (reached : system.Reaches allowed initial config) (task : Nat)
    (answer : Answer) (answered : initial.Answered task answer) : config.Answered task answer := by
  induction reached with
  | refl => exact answered
  | step label _ _ moved ih => exact step_answered label moved task answer ih

/-- An answered task adds no event. -/
theorem step_transcript (label : Label Choice Tick Request)
    (moved : system.step config label = some next) {task : Nat} {answer : Answer}
    (answered : config.Answered task answer) : transcript task next.history = transcript task config.history := by
  obtain ⟨_, _, rfl⟩ | ⟨index, _, owner, command, rest, reply, _, _, selected, _, rfl⟩ | ⟨_, _, _, _, rfl⟩ :=
    step_cases label moved
  · rfl
  · refine transcript_cons_other _ _ _ ?_
    rintro rfl
    rw [Config.Answered, selected] at answered
    cases answered
  · rfl

/-- The discipline of a configuration: each running task follows its discipline from its own
transcript, and each event was permitted by what its task had done before. -/
structure Disciplined (may : Request → List (Exchange S) → S.Command → Prop)
    (ends : Request → List (Exchange S) → Answer → Prop)
    (config : Config S World Request Answer) : Prop where
  follows : ∀ (task : Nat) (request : Request) (rest : Program S Answer),
    config.tasks[task]? = some ⟨request, rest⟩ →
    rest.Follows (may request) (ends request) (transcript task config.history)
  permitted : Explained (fun event past => ∃ request, config.request event.task = some request ∧
    may request (transcript event.task past) event.exchange.command) config.history

/-- When every handler follows its discipline, every reachable configuration does. -/
theorem Reaches.disciplined {may : Request → List (Exchange S) → S.Command → Prop}
    {ends : Request → List (Exchange S) → Answer → Prop}
    (handlers : ∀ request, (system.handler request).Follows (may request) (ends request) [])
    {world : World} {requests : List Request}
    (reached : system.Reaches allowed (system.begin world requests) config) :
    Disciplined may ends config := by
  apply reached.invariant
  · refine ⟨?_, trivial⟩
    intro task request rest member
    simp only [begin, List.getElem?_map, Option.map_eq_some_iff] at member
    obtain ⟨found, _, same⟩ := member
    obtain ⟨rfl, rfl⟩ := Task.mk.inj same
    exact handlers found
  · intro config label next _ disciplined _ moved
    have keeps : ∀ (event : Event S) (past : List (Event S)), (∃ request, config.request event.task = some request ∧
        may request (transcript event.task past) event.exchange.command) →
        ∃ request, next.request event.task = some request ∧
          may request (transcript event.task past) event.exchange.command := by
      rintro event past ⟨request, started, may⟩
      exact ⟨request, step_request label moved _ _ started, may⟩
    have explained := disciplined.permitted.imp keeps
    obtain ⟨added, _, rfl⟩ | ⟨index, _, owner, command, rest, reply, _, _, selected, _, rfl⟩ |
      ⟨_, _, _, _, rfl⟩ := step_cases label moved
    · refine ⟨?_, explained⟩
      intro task request rest member
      rw [List.getElem?_append] at member
      split at member
      · exact disciplined.follows task request rest member
      · rename_i outside
        have fresh : transcript task config.history = [] := by
          rw [transcript, List.map_eq_nil_iff, List.filter_eq_nil_iff]
          rintro event found same
          obtain ⟨later, past, _, owner, started, _⟩ := disciplined.permitted.mem found
          obtain ⟨entry, present, _⟩ := Option.map_eq_some_iff.mp started
          have inside := (List.getElem?_eq_some_iff.mp present).1
          simp only [decide_eq_true_eq] at same
          omega
        obtain ⟨_, same⟩ := List.getElem?_eq_some_iff.mp member
        simp only [List.getElem_singleton, Task.mk.injEq] at same
        obtain ⟨rfl, rfl⟩ := same
        change Program.Follows _ _ _ (transcript task config.history)
        rw [fresh]
        exact handlers added
    · have current := disciplined.follows index owner _ selected
      refine ⟨?_, ⟨owner, ?_, current.1⟩, explained⟩
      · intro task request remaining member
        by_cases same : index = task
        · subst same
          have inside := (List.getElem?_eq_some_iff.mp selected).1
          rw [List.getElem?_set_self inside, Option.some.injEq, Task.mk.injEq] at member
          obtain ⟨rfl, rfl⟩ := member
          rw [transcript_cons_self]
          exact current.2 reply
        · rw [List.getElem?_set_ne same] at member
          rw [transcript_cons_other _ _ _ same]
          exact disciplined.follows task request remaining member
      · apply step_request label moved
        simp only [Config.request, selected, Option.map_some]
    · exact ⟨disciplined.follows, explained⟩

/-- What holds everywhere in every handler holds of what is left of every task. -/
theorem Reaches.everywhere {holds : Request → Program S Answer → Prop}
    (handlers : ∀ request, (system.handler request).Everywhere (holds request)) {world : World}
    {requests : List Request} (reached : system.Reaches allowed (system.begin world requests) config) :
    ∀ task ∈ config.tasks, task.rest.Everywhere (holds task.request) := by
  apply reached.invariant
  · intro task member
    obtain ⟨request, _, rfl⟩ := List.mem_map.mp member
    exact handlers request
  · intro config label next _ before _ moved
    obtain ⟨added, _, rfl⟩ | ⟨index, _, owner, command, rest, reply, _, _, selected, _, rfl⟩ |
      ⟨_, _, _, _, rfl⟩ := step_cases label moved
    · intro task member
      rcases List.mem_append.mp member with inside | last
      · exact before task inside
      · rw [List.mem_singleton.mp last]
        exact handlers added
    · intro task member
      rcases List.mem_or_eq_of_mem_set member with inside | rfl
      · exact before task inside
      · exact (before _ (List.mem_of_getElem? selected)).2 reply
    · exact before

/-- The next command of a task in a disciplined configuration is permitted. -/
theorem Disciplined.next_permitted {may : Request → List (Exchange S) → S.Command → Prop}
    {ends : Request → List (Exchange S) → Answer → Prop} {task : Nat} {request : Request}
    {command : S.Command} {following : S.Reply command → Program S Answer}
    (disciplined : Disciplined may ends config)
    (selected : config.tasks[task]? = some ⟨request, .call command following⟩) :
    may request (transcript task config.history) command :=
  (disciplined.follows task request _ selected).1

/-- The request of a task that has performed something was known before the step. -/
theorem Disciplined.request_known {may : Request → List (Exchange S) → S.Command → Prop}
    {ends : Request → List (Exchange S) → Answer → Prop} (disciplined : Disciplined may ends config)
    {label : Label Choice Tick Request} (moved : system.step config label = some next) {event : Event S}
    (member : event ∈ config.history) {request : Request}
    (known : next.request event.task = some request) : config.request event.task = some request := by
  obtain ⟨_, _, _, earlier, started, _⟩ := disciplined.permitted.mem member
  rw [step_request label moved _ _ started, Option.some.injEq] at known
  rw [started, known]

/-- The task of every event is one of the tasks. -/
theorem Disciplined.task_lt {may : Request → List (Exchange S) → S.Command → Prop}
    {ends : Request → List (Exchange S) → Answer → Prop} (disciplined : Disciplined may ends config)
    {event : Event S} (member : event ∈ config.history) : event.task < config.tasks.length := by
  obtain ⟨_, _, _, request, started, _⟩ := disciplined.permitted.mem member
  obtain ⟨entry, found, _⟩ := Option.map_eq_some_iff.mp started
  exact (List.getElem?_eq_some_iff.mp found).1

/-- An answered task of a disciplined configuration meets its final condition. -/
theorem Disciplined.answered {may : Request → List (Exchange S) → S.Command → Prop}
    {ends : Request → List (Exchange S) → Answer → Prop}
    (disciplined : Disciplined may ends config) (task : Nat) (request : Request) (answer : Answer)
    (started : config.request task = some request) (answered : config.Answered task answer) :
    ends request (transcript task config.history) answer := by
  obtain ⟨⟨found, rest⟩, member, rfl⟩ := Option.map_eq_some_iff.mp started
  simp only [Config.Answered, member, Option.map_some, Option.some.injEq] at answered
  subst answered
  exact disciplined.follows task found _ member

end System
end Interleaving
