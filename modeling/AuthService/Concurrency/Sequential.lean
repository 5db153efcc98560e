import AuthService.Concurrency.Interleaving

namespace Interleaving
variable {I O A W : Type}

/-- A machine reads its inputs one after another. -/
def play (step : I → W → Option (O × W)) : List I → W → Option (List O × W)
  | [], world => some ([], world)
  | input :: inputs, world =>
      (step input world).bind fun first =>
        (play step inputs first.2).map fun rest => (first.1 :: rest.1, rest.2)

theorem play_cons {step : I → W → Option (O × W)} {input : I} {inputs : List I} {world middle last : W}
    {output : O} {outputs : List O} (first : step input world = some (output, middle))
    (rest : play step inputs middle = some (outputs, last)) :
    play step (input :: inputs) world = some (output :: outputs, last) := by
  rw [play, first, Option.bind_some, rest, Option.map_some]

theorem play_cons_inv {step : I → W → Option (O × W)} {input : I} {inputs : List I} {world last : W}
    {outputs : List O} (played : play step (input :: inputs) world = some (outputs, last)) :
    ∃ output middle rest, step input world = some (output, middle) ∧ play step inputs middle = some (rest, last) ∧
      outputs = output :: rest := by
  obtain ⟨⟨output, middle⟩, first, others⟩ := Option.bind_eq_some_iff.mp played
  obtain ⟨⟨rest, final⟩, continued, same⟩ := Option.map_eq_some_iff.mp others
  obtain ⟨rfl, rfl⟩ := Prod.mk.inj same
  exact ⟨output, middle, rest, first, continued, rfl⟩

/-- A condition on the inputs holds along the states of a specification. -/
def Along (next : A → I → A) (admits : A → I → Prop) : A → List I → Prop
  | _, [] => True
  | state, input :: inputs => admits state input ∧ Along next admits (next state input) inputs

namespace Along
variable {next : A → I → A} {admits admits' : A → I → Prop} {state : A} {inputs : List I}

theorem and (first : Along next admits state inputs) (second : Along next admits' state inputs) :
    Along next (fun state input => admits state input ∧ admits' state input) state inputs := by
  induction inputs generalizing state with
  | nil => trivial
  | cons input inputs ih => exact ⟨⟨first.1, second.1⟩, ih first.2 second.2⟩

theorem of_forall (each : ∀ input ∈ inputs, ∀ state, admits state input) : Along next admits state inputs := by
  induction inputs generalizing state with
  | nil => trivial
  | cons input inputs ih =>
      exact ⟨each input List.mem_cons_self state, ih fun other member => each other (List.mem_cons_of_mem _ member)⟩

/-- The condition holds along a list when it holds at the state before each input. -/
theorem of_splits
    (each : ∀ before input after, inputs = before ++ input :: after → admits (before.foldl next state) input) :
    Along next admits state inputs := by
  induction inputs generalizing state with
  | nil => trivial
  | cons input inputs ih =>
      refine ⟨each [] input inputs rfl, ih fun before other after split => ?_⟩
      exact each (input :: before) other after (congrArg (List.cons input) split)

instance decidable (next : A → I → A) (admits : A → I → Prop) [∀ state input, Decidable (admits state input)] :
    ∀ (state : A) (inputs : List I), Decidable (Along next admits state inputs)
  | _, [] => .isTrue trivial
  | state, input :: inputs =>
      let _ := decidable next admits (next state input) inputs
      inferInstanceAs (Decidable (admits state input ∧ Along next admits (next state input) inputs))

end Along

/-- The outputs meet a specification whose state moves with the inputs. -/
def Meets (next : A → I → A) (meets : A → I → O → Prop) : A → List I → List O → Prop
  | _, [], [] => True
  | state, input :: inputs, output :: outputs =>
      meets state input output ∧ Meets next meets (next state input) inputs outputs
  | _, _, _ => False

section Refinement
variable {step : I → W → Option (O × W)} {next : A → I → A} {admits : A → I → Prop} {meets : A → I → O → Prop}
variable {related : A → W → Prop}

/-- When each step of the machine meets the specification and keeps the relation, every run does. -/
theorem play_meets
    (each : ∀ state input world output after, related state world → admits state input →
      step input world = some (output, after) → meets state input output ∧ related (next state input) after)
    {inputs : List I} {state : A} {world last : W} {outputs : List O} (start : related state world)
    (admitted : Along next admits state inputs) (played : play step inputs world = some (outputs, last)) :
    Meets next meets state inputs outputs ∧ related (inputs.foldl next state) last := by
  induction inputs generalizing state world outputs with
  | nil =>
      cases played
      exact ⟨trivial, start⟩
  | cons input inputs ih =>
      obtain ⟨output, middle, rest, first, continued, rfl⟩ := play_cons_inv played
      obtain ⟨met, kept⟩ := each state input world output middle start admitted.1 first
      obtain ⟨later, final⟩ := ih kept admitted.2 continued
      exact ⟨⟨met, later⟩, final⟩

/-- When each step of the machine can be taken as well, the run exists. -/
theorem play_exists
    (each : ∀ state input world, related state world → admits state input → ∃ output after,
      step input world = some (output, after) ∧ meets state input output ∧ related (next state input) after)
    {inputs : List I} {state : A} {world : W} (start : related state world)
    (admitted : Along next admits state inputs) :
    ∃ outputs last, play step inputs world = some (outputs, last) ∧ Meets next meets state inputs outputs := by
  induction inputs generalizing state world with
  | nil => exact ⟨[], world, rfl, trivial⟩
  | cons input inputs ih =>
      obtain ⟨output, after, first, met, kept⟩ := each state input world start admitted.1
      obtain ⟨outputs, last, rest, others⟩ := ih kept admitted.2
      exact ⟨output :: outputs, last, play_cons first rest, met, others⟩

end Refinement

/-- The outputs of a machine that takes every input. -/
def outputsOf (next : A → I → A) (output : A → I → O) : A → List I → List O
  | _, [] => []
  | state, input :: inputs => output state input :: outputsOf next output (next state input) inputs

/-- A machine that follows a specification step by step has its outputs. -/
theorem outputsOf_eq {B : Type} {next : A → I → A} {output : A → I → O} {next' : B → I → B} {output' : B → I → O}
    {admits : A → I → Prop} {related : A → B → Prop}
    (each : ∀ state input other, related state other → admits state input →
      output' other input = output state input ∧ related (next state input) (next' other input))
    {inputs : List I} {state : A} {other : B} (start : related state other)
    (admitted : Along next admits state inputs) :
    outputsOf next' output' other inputs = outputsOf next output state inputs := by
  induction inputs generalizing state other with
  | nil => rfl
  | cons input inputs ih =>
      obtain ⟨same, kept⟩ := each state input other start admitted.1
      rw [outputsOf, outputsOf, same, ih kept admitted.2]

/-- A specification that determines what is observed has one list of observations. -/
theorem Meets.outputs {R : Type} {next : A → I → A} {observe : R → O} {output : A → I → O} {state : A}
    {inputs : List I} {results : List R}
    (meets : Meets next (fun state input result => observe result = output state input) state inputs results) :
    results.map observe = outputsOf next output state inputs := by
  induction inputs generalizing state results with
  | nil =>
      cases results with
      | nil => rfl
      | cons => exact meets.elim
  | cons input inputs ih =>
      cases results with
      | nil => exact meets.elim
      | cons first rest => rw [outputsOf, List.map_cons, meets.1, ih meets.2]

namespace System
variable {S : Signature} {World Choice Tick Request Answer : Type}
variable (system : System S World Choice Tick Request Answer)

/-- One turn of a sequential run: the surroundings move, and then a request runs alone with one choice for all
of its calls. -/
structure Turn (Choice Tick Request : Type) where
  tick : Tick
  choice : Choice
  request : Request

/-- The answer of a request with its exchanges, the newest first. -/
structure Outcome (S : Signature) (Answer : Type) where
  answer : Answer
  past : List (Exchange S)

/-- A call is executed and recorded. -/
def recorded (choice : Choice) (command : S.Command) (state : World × List (Exchange S)) :
    Option (S.Reply command × World × List (Exchange S)) :=
  (system.exec command choice state.1).map fun result =>
    (result.1, result.2, ⟨command, result.1⟩ :: state.2)

/-- The request of a turn runs alone to its answer. -/
def alone (turn : Turn Choice Tick Request) (world : World) : Option (Outcome S Answer × World) :=
  (system.drift turn.tick world).bind fun ready =>
    ((system.handler turn.request).eval (system.recorded turn.choice) (ready, [])).map fun result =>
      (⟨result.1, result.2.2⟩, result.2.1)

variable {system}

/-- A call that is executed is recorded. -/
theorem recorded_of_exec {choice : Choice} {command : S.Command} {reply : S.Reply command} {world next : World}
    (executed : system.exec command choice world = some (reply, next)) (past : List (Exchange S)) :
    system.recorded choice command (world, past) = some (reply, next, ⟨command, reply⟩ :: past) := by
  rw [recorded, executed, Option.map_some]

/-- A call that is executed hands over its reply. -/
theorem eval_recorded {E : Type} {choice : Choice} {command : S.Command} {reply : S.Reply command} {world next : World}
    (executed : system.exec command choice world = some (reply, next)) (past : List (Exchange S)) :
    (Program.perform command : ExceptT E (Program S) _).run.eval (system.recorded choice) (world, past) =
      some (.ok reply, next, ⟨command, reply⟩ :: past) :=
  Program.eval_perform (recorded_of_exec executed past)

/-- A program that begins with a call and runs to its end had this call executed. -/
theorem eval_recorded_inv {E A : Type} {choice : Choice} {command : S.Command} {world : World}
    {past : List (Exchange S)} {rest : S.Reply command → ExceptT E (Program S) A}
    {result : Except E A × World × List (Exchange S)}
    (ran : (Program.perform command >>= rest).run.eval (system.recorded choice) (world, past) = some result) :
    ∃ reply next, system.exec command choice world = some (reply, next) ∧
      (rest reply).run.eval (system.recorded choice) (next, ⟨command, reply⟩ :: past) = some result := by
  cases executed : system.exec command choice world with
  | none =>
      rw [Program.eval_run_bind] at ran
      change ((((system.exec command choice world).map _).bind _).bind _) = _ at ran
      rw [executed] at ran
      cases ran
  | some performed =>
      obtain ⟨reply, next⟩ := performed
      rw [Program.eval_ok (eval_recorded executed past)] at ran
      exact ⟨reply, next, rfl, ran⟩

/-- The request of a turn is evaluated in the world that the tick leaves. -/
theorem alone_eq {turn : Turn Choice Tick Request} {world ready next : World} {answer : Answer}
    {past : List (Exchange S)} (drifted : system.drift turn.tick world = some ready)
    (evaluated : (system.handler turn.request).eval (system.recorded turn.choice) (ready, []) =
      some (answer, next, past)) : system.alone turn world = some (⟨answer, past⟩, next) := by
  rw [alone, drifted, Option.bind_some, evaluated, Option.map_some]

theorem alone_inv {turn : Turn Choice Tick Request} {world ready next : World} {outcome : Outcome S Answer}
    (drifted : system.drift turn.tick world = some ready) (ran : system.alone turn world = some (outcome, next)) :
    (system.handler turn.request).eval (system.recorded turn.choice) (ready, []) =
      some (outcome.answer, next, outcome.past) := by
  rw [alone, drifted, Option.bind_some] at ran
  obtain ⟨⟨answer, last, past⟩, evaluated, same⟩ := Option.map_eq_some_iff.mp ran
  cases same
  exact evaluated

/-- A program that is evaluated alone runs to its answer as a task, and nothing else happens. -/
theorem reaches_of_recorded (config : Config S World Request Answer) {choice : Choice} {request : Request}
    {program : Program S Answer} {answer : Answer} {task : Nat} {past later : List (Exchange S)} {after : World}
    (evaluated : program.eval (system.recorded choice) (config.world, past) = some (answer, after, later))
    (selected : config.tasks[task]? = some ⟨request, program⟩) :
    ∃ made, later = made ++ past ∧ system.Reaches Anything config
      ⟨after, config.tasks.set task ⟨request, .done answer⟩, made.map (Event.mk task) ++ config.history⟩ := by
  induction program generalizing config past with
  | done result =>
      obtain ⟨rfl, rest⟩ := Prod.mk.inj (Option.some.inj evaluated)
      obtain ⟨rfl, rfl⟩ := Prod.mk.inj rest
      refine ⟨[], rfl, ?_⟩
      rw [← (List.getElem?_eq_some_iff.mp selected).2, List.set_getElem_self]
      exact .refl
  | call command next ih =>
      obtain ⟨⟨reply, changed, seen⟩, performed, rest⟩ := Option.bind_eq_some_iff.mp evaluated
      obtain ⟨⟨replied, world⟩, executed, same⟩ := Option.map_eq_some_iff.mp performed
      cases same
      let moved : Config S World Request Answer :=
        ⟨world, config.tasks.set task ⟨request, next replied⟩, ⟨task, command, replied⟩ :: config.history⟩
      have stepped : system.step config (.advance task choice) = some moved := by
        simp only [step, selected, executed, Option.map_some]
        rfl
      have following : moved.tasks[task]? = some ⟨request, next replied⟩ :=
        List.getElem?_set_self (List.getElem?_eq_some_iff.mp selected).1
      obtain ⟨made, rfl, reached⟩ := ih replied moved rest following
      refine ⟨made ++ [⟨command, replied⟩], by rw [List.append_assoc]; rfl,
        (Reaches.step (.advance task choice) .refl rfl stepped).trans ?_⟩
      rw [List.set_set] at reached
      rw [List.map_append, List.append_assoc]
      exact reached

/-- A turn is a run in which its request is started and answered. -/
theorem reaches_of_alone {turn : Turn Choice Tick Request} {config : Config S World Request Answer}
    {outcome : Outcome S Answer} {after : World} (ran : system.alone turn config.world = some (outcome, after)) :
    system.Reaches Anything config ⟨after, config.tasks ++ [⟨turn.request, .done outcome.answer⟩],
      outcome.past.map (Event.mk config.tasks.length) ++ config.history⟩ := by
  obtain ⟨ready, drifted, rest⟩ := Option.bind_eq_some_iff.mp ran
  obtain ⟨⟨answer, last, past⟩, evaluated, same⟩ := Option.map_eq_some_iff.mp rest
  cases same
  let set : Config S World Request Answer := { config with world := ready }
  let started : Config S World Request Answer :=
    { set with tasks := config.tasks ++ [⟨turn.request, system.handler turn.request⟩] }
  have ticked : system.step config (.drift turn.tick) = some set := by
    rw [step, drifted]
    rfl
  have selected : started.tasks[config.tasks.length]? = some ⟨turn.request, system.handler turn.request⟩ :=
    List.getElem?_concat_length
  obtain ⟨made, same, reached⟩ := reaches_of_recorded started evaluated selected
  rw [List.append_nil] at same
  subst same
  refine ((Reaches.step (.drift turn.tick) .refl rfl ticked).step (.start turn.request) rfl rfl).trans ?_
  rw [List.set_append_right _ _ (Nat.le_refl _), Nat.sub_self] at reached
  exact reached

/-- The events of the turns whose first task is given, with the newest first. -/
def eventsFrom : Nat → List (Outcome S Answer) → List (Event S)
  | _, [] => []
  | task, outcome :: outcomes => eventsFrom (task + 1) outcomes ++ outcome.past.map (Event.mk task)

/-- Turns that are taken one after another are a run of the system. -/
theorem reaches_of_play (config : Config S World Request Answer) {I : Type} {turn : I → Turn Choice Tick Request}
    {inputs : List I} {outcomes : List (Outcome S Answer)} {last : World}
    (played : play (fun input => system.alone (turn input)) inputs config.world = some (outcomes, last)) :
    system.Reaches Anything config ⟨last,
      config.tasks ++ List.zipWith (fun input outcome => ⟨(turn input).request, .done outcome.answer⟩) inputs outcomes,
      eventsFrom config.tasks.length outcomes ++ config.history⟩ := by
  induction inputs generalizing config outcomes with
  | nil =>
      cases played
      simp only [List.zipWith_nil_left, List.append_nil, eventsFrom, List.nil_append]
      exact .refl
  | cons input inputs ih =>
      obtain ⟨outcome, middle, rest, first, continued, rfl⟩ := play_cons_inv played
      have reached := ih ⟨middle, config.tasks ++ [⟨(turn input).request, .done outcome.answer⟩],
        outcome.past.map (Event.mk config.tasks.length) ++ config.history⟩ continued
      refine (reaches_of_alone first).trans ?_
      simp only [List.length_append, List.length_singleton, List.append_assoc, List.singleton_append] at reached
      rw [List.zipWith_cons_cons, eventsFrom, List.append_assoc]
      exact reached

end System
end Interleaving
