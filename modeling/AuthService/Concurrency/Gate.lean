import AuthService.Concurrency.Interleaving

namespace Interleaving
variable {S T : Signature} {A B World View Choice Tick Incoming Request Answer : Type}

/-- The commands of two components. -/
@[reducible] def Signature.sum (S T : Signature) : Signature where
  Command := S.Command ⊕ T.Command
  Reply := fun command =>
    match command with
    | .inl command => S.Reply command
    | .inr command => T.Reply command

namespace Program

/-- A program of the first component. -/
def left : Program S A → Program (S.sum T) A
  | .done answer => .done answer
  | .call command next => .call (.inl command) fun reply => (next reply).left

/-- A program of the second component with a continuation. -/
def rightThen (rest : A → Program (S.sum T) B) : Program T A → Program (S.sum T) B
  | .done answer => rest answer
  | .call command next => .call (.inr command) fun reply => (next reply).rightThen rest

/-- A gate answers in place of the program or lets it run. -/
def gated (gate : Program T (Option A)) (program : Program S A) : Program (S.sum T) A :=
  gate.rightThen fun refusal =>
    match refusal with
    | some answer => .done answer
    | none => program.left

@[simp] theorem gated_refused (answer : A) (program : Program S A) :
    gated (.done (some answer) : Program T (Option A)) program = .done answer := rfl

@[simp] theorem gated_admitted (program : Program S A) :
    gated (.done none : Program T (Option A)) program = program.left := rfl

@[simp] theorem gated_call (command : T.Command) (next : T.Reply command → Program T (Option A))
    (program : Program S A) :
    gated (.call command next) program = .call (.inr command) fun reply => gated (next reply) program := rfl

theorem only_left {kind : (S.sum T).Command → Prop} (inner : ∀ command, kind (.inl command)) (program : Program S A) :
    (program.left : Program (S.sum T) A).Only kind := by
  induction program with
  | done answer => trivial
  | call command next ih => exact ⟨inner command, ih⟩

/-- The commands of a gated program are those of its gate and those of the program. -/
theorem only_gated {kind : (S.sum T).Command → Prop} (inner : ∀ command, kind (.inl command))
    {gate : Program T (Option A)} (only : gate.Only fun command => kind (.inr command)) (program : Program S A) :
    (gated gate program).Only kind := by
  induction gate with
  | done refusal =>
      cases refusal with
      | some answer => trivial
      | none => exact only_left inner program
  | call command next ih => exact ⟨only.1, fun reply => ih reply (only.2 reply)⟩

/-- The exchanges of the second component. -/
def rights (past : List (Exchange (S.sum T))) : List (Exchange T) :=
  past.filterMap fun exchange =>
    match exchange with
    | ⟨.inl _, _⟩ => none
    | ⟨.inr command, reply⟩ => some ⟨command, reply⟩

@[simp] theorem rights_nil : rights ([] : List (Exchange (S.sum T))) = [] := rfl

@[simp] theorem rights_inl (command : S.Command) (reply : S.Reply command) (past : List (Exchange (S.sum T))) :
    rights (⟨.inl command, reply⟩ :: past) = rights past := rfl

@[simp] theorem rights_inr (command : T.Command) (reply : T.Reply command) (past : List (Exchange (S.sum T))) :
    rights (⟨.inr command, reply⟩ :: past) = ⟨command, reply⟩ :: rights past := rfl

theorem mem_rights {past : List (Exchange (S.sum T))} {command : T.Command} {reply : T.Reply command} :
    (⟨command, reply⟩ : Exchange T) ∈ rights past ↔ (⟨.inr command, reply⟩ : Exchange (S.sum T)) ∈ past := by
  induction past with
  | nil => simp only [rights_nil, List.not_mem_nil]
  | cons exchange past ih =>
      obtain ⟨command' | command', reply'⟩ := exchange
      · rw [rights_inl, ih, List.mem_cons]
        constructor
        · exact .inr
        · rintro (same | before)
          · cases same
          · exact before
      · rw [rights_inr, List.mem_cons, List.mem_cons, ih]
        constructor
        · rintro (same | before)
          · cases same
            exact .inl rfl
          · exact .inr before
        · rintro (same | before)
          · cases same
            exact .inl rfl
          · exact .inr before

/-- The gate may perform its own commands, and the handler runs after it was admitted. -/
def gateMay (may : List (Exchange T) → T.Command → Prop) (admits : List (Exchange T) → Prop)
    (past : List (Exchange (S.sum T))) : (S.sum T).Command → Prop
  | .inl _ => admits (rights past)
  | .inr command => may (rights past) command

theorem follows_left {may : List (Exchange T) → T.Command → Prop} {admits : List (Exchange T) → Prop}
    {refuses : A → Prop} (program : Program S A) (past : List (Exchange (S.sum T))) (admitted : admits (rights past)) :
    program.left.Follows (gateMay may admits) (fun past answer => refuses answer ∨ admits (rights past)) past := by
  induction program generalizing past with
  | done answer => exact .inr admitted
  | call command next ih => exact ⟨admitted, fun reply => ih reply _ admitted⟩

/-- A gated program follows what its gate follows, and it answers with a refusal or after it was admitted. -/
theorem follows_gated {may : List (Exchange T) → T.Command → Prop} {admits : List (Exchange T) → Prop}
    {refuses : A → Prop} (gate : Program T (Option A)) (program : Program S A) (past : List (Exchange (S.sum T)))
    (follows : gate.Follows may
      (fun past refusal => (∀ answer ∈ refusal, refuses answer) ∧ (refusal = none → admits past)) (rights past)) :
    (gated gate program).Follows (gateMay may admits) (fun past answer => refuses answer ∨ admits (rights past))
      past := by
  induction gate generalizing past with
  | done refusal =>
      cases refusal with
      | some answer => exact .inl (follows.1 answer rfl)
      | none => exact follows_left program past (follows.2 rfl)
  | call command next ih => exact ⟨follows.1, fun reply => ih reply _ (follows.2 reply)⟩

end Program

/-- The events of the first component. -/
def Event.left? : Event (S.sum T) → Option (Event S)
  | ⟨task, .inl command, reply⟩ => some ⟨task, command, reply⟩
  | ⟨_, .inr _, _⟩ => none

/-- A step with the request that a gate forwards. -/
def Label.forward (forward : Incoming → Request) : Label Choice Tick Incoming → Label Choice Tick Request
  | .start incoming => .start (forward incoming)
  | .advance task choice => .advance task choice
  | .drift tick => .drift tick

namespace System

/-- A gate stands before every handler of a system. It has a state of its own and reads the world. -/
def gate (inner : System S World Choice Tick Request Answer) (forward : Incoming → Request)
    (check : Incoming → Program T (Option Answer))
    (execGate : (command : T.Command) → Choice → World → View → Option (T.Reply command × View)) :
    System (S.sum T) (World × View) Choice Tick Incoming Answer where
  handler := fun incoming => Program.gated (check incoming) (inner.handler (forward incoming))
  exec := fun command choice world =>
    match command with
    | .inl command =>
        (inner.exec command choice world.1).map fun result => (result.1, result.2, world.2)
    | .inr command => (execGate command choice world.1 world.2).map fun result => (result.1, world.1, result.2)
  drift := fun tick world => (inner.drift tick world.1).map fun next => (next, world.2)

variable (inner : System S World Choice Tick Request Answer) (forward : Incoming → Request)
  (refuses : Incoming → Answer → Prop)

/-- How far a gated task is, with the exchanges that its handler has performed. -/
inductive Stage (T : Signature) (incoming : Incoming) :
    Program (S.sum T) Answer → Program S Answer → List (Exchange S) → Prop where
  | waiting {may : List (Exchange T) → T.Command → Prop} {past : List (Exchange T)} (gate : Program T (Option Answer))
      (honest : gate.Follows may (fun _ refusal => ∀ answer ∈ refusal, refuses incoming answer) past) :
      Stage T incoming (Program.gated gate (inner.handler (forward incoming))) (inner.handler (forward incoming)) []
  | running (rest : Program S Answer) (past : List (Exchange S)) : Stage T incoming rest.left rest past

/-- A configuration of the gated system shows a configuration of the inner one. -/
structure Shows (config : Config (S.sum T) (World × View) Incoming Answer)
    (served : Config S World Request Answer) : Prop where
  world : served.world = config.world.1
  history : served.history = config.history.filterMap Event.left?
  length : served.tasks.length = config.tasks.length
  known : ∀ event ∈ served.history, event.task < served.tasks.length
  tasks : ∀ (task : Nat) (incoming : Incoming) (rest : Program (S.sum T) Answer),
    config.tasks[task]? = some ⟨incoming, rest⟩ →
    ∃ program, served.tasks[task]? = some ⟨forward incoming, program⟩ ∧
      Stage inner forward refuses T incoming rest program (transcript task served.history)

variable {inner forward refuses}

section Stage
variable {incoming : Incoming} {program : Program S Answer} {past : List (Exchange S)}

/-- A task that performs a command of its handler has passed the gate. -/
theorem Stage.left {command : S.Command} {rest : S.Reply command → Program (S.sum T) Answer}
    (stage : Stage inner forward refuses T incoming (.call (.inl command) rest) program past) :
    ∃ next, program = .call command next ∧ rest = fun reply => (next reply).left := by
  have passed {handler : Program S Answer}
      (same : (.call (.inl command) rest : Program (S.sum T) Answer) = handler.left) :
      ∃ next, handler = .call command next ∧ rest = fun reply => (next reply).left := by
    cases handler with
    | done answer => cases same
    | call command next =>
        cases same
        exact ⟨next, rfl, rfl⟩
  generalize same : (.call (.inl command) rest : Program (S.sum T) Answer) = outer at stage
  cases stage with
  | waiting gate honest =>
      cases gate with
      | done refusal =>
          cases refusal with
          | none => exact passed same
          | some answer => cases same
      | call command next => cases same
  | running handler past => exact passed same

/-- A task that performs a command of the gate has performed nothing of its handler. -/
theorem Stage.right {command : T.Command} {rest : T.Reply command → Program (S.sum T) Answer}
    (stage : Stage inner forward refuses T incoming (.call (.inr command) rest) program past)
    (reply : T.Reply command) :
    Stage inner forward refuses T incoming (rest reply) program past := by
  have running {handler : Program S Answer}
      (same : (.call (.inr command) rest : Program (S.sum T) Answer) = handler.left) : False := by
    cases handler with
    | done answer => cases same
    | call command next => cases same
  generalize same : (.call (.inr command) rest : Program (S.sum T) Answer) = outer at stage
  cases stage with
  | waiting gate honest =>
      cases gate with
      | done refusal =>
          cases refusal with
          | none => exact (running same).elim
          | some answer => cases same
      | call command next =>
          cases same
          exact .waiting (next reply) (honest.2 reply)
  | running handler past => exact (running same).elim

/-- A task that has answered was refused before it did anything, or its handler has answered. -/
theorem Stage.answered {answer : Answer} (stage : Stage inner forward refuses T incoming (.done answer) program past) :
    (refuses incoming answer ∧ past = []) ∨ program = .done answer := by
  have passed {handler : Program S Answer} (same : .done answer = (handler.left : Program (S.sum T) Answer)) :
      handler = .done answer := by
    cases handler with
    | done answer => cases same; rfl
    | call command next => cases same
  generalize same : Program.done answer = outer at stage
  cases stage with
  | waiting gate honest =>
      cases gate with
      | done refusal =>
          cases refusal with
          | none => exact .inr (passed same)
          | some refusal =>
              cases same
              exact .inl ⟨honest _ rfl, rfl⟩
      | call command next => cases same
  | running handler past => exact .inr (passed same)

end Stage

section Runs
variable {check : Incoming → Program T (Option Answer)} {may : Incoming → List (Exchange T) → T.Command → Prop}
variable {execGate : (command : T.Command) → Choice → World → View → Option (T.Reply command × View)}
variable {config next : Config (S.sum T) (World × View) Incoming Answer} {served : Config S World Request Answer}

theorem transcript_of_unknown {history : List (Event S)} {count : Nat} (known : ∀ event ∈ history, event.task < count) :
    transcript count history = [] := by
  rw [transcript, List.map_eq_nil_iff, List.filter_eq_nil_iff]
  intro event member same
  exact absurd (of_decide_eq_true same) (Nat.ne_of_lt (known event member))

theorem shows_begin (honest : ∀ incoming, (check incoming).Follows (may incoming)
      (fun _ refusal => ∀ answer ∈ refusal, refuses incoming answer) []) (world : World) (view : View)
    (arrivals : List Incoming) :
    Shows inner forward refuses ((inner.gate forward check execGate).begin (world, view) arrivals)
      (inner.begin world (arrivals.map forward)) := by
  refine ⟨rfl, rfl, by simp only [begin, List.length_map], ?_, ?_⟩
  · rintro event ⟨⟩
  · intro task incoming rest member
    simp only [begin, List.getElem?_map, Option.map_eq_some_iff] at member
    obtain ⟨found, present, same⟩ := member
    obtain ⟨rfl, rfl⟩ := Task.mk.inj same
    refine ⟨inner.handler (forward found), by simp only [begin, List.getElem?_map, present, Option.map_some], ?_⟩
    exact .waiting _ (honest found)

/-- Each step of the gated system is a step of the gate alone or a step of the inner system. -/
theorem Shows.step (honest : ∀ incoming, (check incoming).Follows (may incoming)
      (fun _ refusal => ∀ answer ∈ refusal, refuses incoming answer) [])
    (shows : Shows inner forward refuses config served) {label : Label Choice Tick Incoming}
    (moved : (inner.gate forward check execGate).step config label = some next) :
    Shows inner forward refuses next served ∨
      ∃ following, inner.step served (label.forward forward) = some following ∧
        Shows inner forward refuses next following := by
  obtain ⟨incoming, rfl, rfl⟩ | ⟨task, choice, incoming, command, rest, reply, world, rfl, selected, executed, rfl⟩ |
    ⟨tick, world, rfl, drifted, rfl⟩ := step_cases label moved
  · refine .inr ⟨_, rfl, shows.world, shows.history, ?_, ?_, ?_⟩
    · simp only [List.length_append, shows.length, List.length_cons, List.length_nil]
    · intro event member
      rw [List.length_append]
      exact Nat.lt_add_right _ (shows.known event member)
    · intro task owner rest member
      rw [List.getElem?_append] at member ⊢
      rw [shows.length]
      split at member
      · rename_i inside
        rw [if_pos inside]
        exact shows.tasks task owner rest member
      · rename_i outside
        rw [if_neg outside]
        obtain ⟨index, same⟩ := List.getElem?_eq_some_iff.mp member
        simp only [List.getElem_singleton, Task.mk.injEq] at same
        obtain ⟨rfl, rfl⟩ := same
        have last : task = served.tasks.length := by
          simp only [List.length_cons, List.length_nil] at index
          have := shows.length
          omega
        refine ⟨inner.handler (forward incoming), ?_, ?_⟩
        · simp only [List.length_cons, List.length_nil] at index
          rw [List.getElem?_eq_some_iff]
          exact ⟨by simpa using index, by simp⟩
        · rw [last, transcript_of_unknown shows.known]
          exact .waiting _ (honest incoming)
  · obtain ⟨program, present, stage⟩ := shows.tasks task incoming _ selected
    have inside := (List.getElem?_eq_some_iff.mp selected).1
    cases command with
    | inl command =>
        obtain ⟨⟨reply, after⟩, performed, same⟩ := Option.map_eq_some_iff.mp executed
        obtain ⟨rfl, rfl⟩ := Prod.mk.inj same
        obtain ⟨following, rfl, rfl⟩ := stage.left
        have stepped : inner.step served (.advance task choice) =
            some ⟨after, served.tasks.set task ⟨forward incoming, following reply⟩,
              ⟨task, command, reply⟩ :: served.history⟩ := by
          simp only [System.step, present, shows.world, performed, Option.map_some]
        refine .inr ⟨_, stepped, rfl, ?_, ?_, ?_, ?_⟩
        · rw [shows.history]
          rfl
        · rw [List.length_set, List.length_set, shows.length]
        · intro event member
          rw [List.length_set]
          rcases List.mem_cons.mp member with rfl | before
          · exact shows.length ▸ inside
          · exact shows.known event before
        · intro index owner rest member
          by_cases same : task = index
          · subst same
            rw [List.getElem?_set_self inside, Option.some.injEq, Task.mk.injEq] at member
            obtain ⟨rfl, rfl⟩ := member
            exact ⟨_, List.getElem?_set_self (shows.length ▸ inside), .running _ _⟩
          · rw [List.getElem?_set_ne same] at member ⊢
            rw [transcript_cons_other _ _ _ same]
            exact shows.tasks index owner rest member
    | inr command =>
        obtain ⟨⟨reply, after⟩, performed, same⟩ := Option.map_eq_some_iff.mp executed
        obtain ⟨rfl, rfl⟩ := Prod.mk.inj same
        refine .inl ⟨shows.world, ?_, ?_, shows.known, ?_⟩
        · rw [shows.history]
          rfl
        · rw [List.length_set, shows.length]
        · intro index owner rest member
          by_cases same : task = index
          · subst same
            rw [List.getElem?_set_self inside, Option.some.injEq, Task.mk.injEq] at member
            obtain ⟨rfl, rfl⟩ := member
            exact ⟨program, present, stage.right _⟩
          · rw [List.getElem?_set_ne same] at member
            exact shows.tasks index owner rest member
  · obtain ⟨after, changed, rfl⟩ := Option.map_eq_some_iff.mp drifted
    refine .inr ⟨{ served with world := after }, ?_, rfl, shows.history, shows.length, shows.known, shows.tasks⟩
    simp only [Label.forward, System.step, shows.world, changed, Option.map_some]

/-- Every run of the gated system shows a run of the inner one. -/
theorem Reaches.shows {allowed : Config (S.sum T) (World × View) Incoming Answer → Label Choice Tick Incoming → Prop}
    {allowed' : Config S World Request Answer → Label Choice Tick Request → Prop}
    (honest : ∀ incoming, (check incoming).Follows (may incoming)
      (fun _ refusal => ∀ answer ∈ refusal, refuses incoming answer) [])
    (weaker : ∀ config served label, Shows inner forward refuses config served → allowed config label →
      allowed' served (label.forward forward))
    {world : World} {view : View} {arrivals : List Incoming}
    (reached : (inner.gate forward check execGate).Reaches allowed
      ((inner.gate forward check execGate).begin (world, view) arrivals) config) :
    ∃ served, inner.Reaches allowed' (inner.begin world (arrivals.map forward)) served ∧
      Shows inner forward refuses config served := by
  induction reached with
  | refl => exact ⟨_, .refl, shows_begin honest world view arrivals⟩
  | step label _ permitted moved ih =>
      obtain ⟨served, ran, shows⟩ := ih
      rcases shows.step honest moved with kept | ⟨following, stepped, kept⟩
      · exact ⟨served, ran, kept⟩
      · exact ⟨following, .step _ ran (weaker _ _ label shows permitted) stepped, kept⟩

/-- An answer of the gated system is a refusal of a request whose handler did nothing, or the answer of the
handler. -/
theorem Shows.answered (shows : Shows inner forward refuses config served) {task : Nat} {incoming : Incoming}
    {answer : Answer} (started : config.request task = some incoming) (answered : config.Answered task answer) :
    (refuses incoming answer ∧ transcript task served.history = []) ∨ served.Answered task answer := by
  obtain ⟨⟨owner, rest⟩, selected, rfl⟩ := Option.map_eq_some_iff.mp started
  rw [Config.Answered, selected, Option.map_some, Option.some.injEq] at answered
  obtain rfl := answered
  obtain ⟨program, present, stage⟩ := shows.tasks task owner _ selected
  rcases stage.answered with refused | rfl
  · exact .inl refused
  · exact .inr (by rw [Config.Answered, present, Option.map_some])

theorem Shows.request (shows : Shows inner forward refuses config served) {task : Nat} {incoming : Incoming}
    (started : config.request task = some incoming) : served.request task = some (forward incoming) := by
  obtain ⟨⟨owner, rest⟩, selected, rfl⟩ := Option.map_eq_some_iff.mp started
  obtain ⟨program, present, _⟩ := shows.tasks task owner rest selected
  rw [Config.request, present, Option.map_some]

end Runs
end System
end Interleaving
