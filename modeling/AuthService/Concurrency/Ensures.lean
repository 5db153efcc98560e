import AuthService.Concurrency.Sequential

namespace Interleaving
namespace Program
variable {S : Signature} {A B E W : Type}

/-- A program that runs alone comes to its end and leaves an answer and a state with the property. -/
def Ensures (exec : (command : S.Command) → W → Option (S.Reply command × W)) (ends : A → W → Prop) :
    Program S A → W → Prop
  | .done answer, world => ends answer world
  | .call command next, world =>
      ∃ reply after, exec command world = some (reply, after) ∧ (next reply).Ensures exec ends after

section Rules
variable {exec : (command : S.Command) → W → Option (S.Reply command × W)} {world after : W}

theorem Ensures.imp {ends ends' : A → W → Prop} (weaker : ∀ answer world, ends answer world → ends' answer world)
    {program : Program S A} (ensures : program.Ensures exec ends world) : program.Ensures exec ends' world := by
  induction program generalizing world with
  | done answer => exact weaker answer world ensures
  | call command next ih =>
      obtain ⟨reply, after, executed, rest⟩ := ensures
      exact ⟨reply, after, executed, ih reply rest⟩

theorem ensures_bind {ends : B → W → Prop} (program : Program S A) (rest : A → Program S B) :
    (program.bind rest).Ensures exec ends world ↔
      program.Ensures exec (fun answer world => (rest answer).Ensures exec ends world) world := by
  induction program generalizing world with
  | done answer => rfl
  | call command next ih => simp only [bind, Ensures, ih]

/-- What is asked of the first part of a fallible program: the rest runs only after success. -/
def Resumes (exec : (command : S.Command) → W → Option (S.Reply command × W)) (ends : Except E B → W → Prop)
    (rest : A → ExceptT E (Program S) B) : Except E A → W → Prop
  | .ok answer, world => (rest answer).run.Ensures exec ends world
  | .error error, world => ends (.error error) world

variable {ends : Except E B → W → Prop} {rest : A → ExceptT E (Program S) B}

theorem ensures_run_bind (program : ExceptT E (Program S) A) :
    (program >>= rest).run.Ensures exec ends world ↔ program.run.Ensures exec (Resumes exec ends rest) world := by
  change (program.run.bind _).Ensures exec ends world ↔ _
  rw [ensures_bind]
  constructor
  · apply Ensures.imp
    intro answer
    cases answer <;> exact fun _ => id
  · apply Ensures.imp
    intro answer
    cases answer <;> exact fun _ => id

/-- A part that succeeds hands over to the rest. -/
theorem Ensures.ok {program : ExceptT E (Program S) A} {between : A → W → Prop}
    (first : program.run.Ensures exec (fun result world => ∃ answer, result = .ok answer ∧ between answer world) world)
    (second : ∀ answer world, between answer world → (rest answer).run.Ensures exec ends world) :
    (program >>= rest).run.Ensures exec ends world := by
  rw [ensures_run_bind]
  refine first.imp ?_
  rintro _ world ⟨answer, rfl, holds⟩
  exact second answer world holds

/-- A call that is executed hands over its reply. -/
theorem ensures_call {command : S.Command} {reply : S.Reply command} {rest : S.Reply command → ExceptT E (Program S) B}
    (executed : exec command world = some (reply, after)) (second : (rest reply).run.Ensures exec ends after) :
    (perform command >>= rest).run.Ensures exec ends world := by
  rw [ensures_run_bind]
  exact ⟨reply, after, executed, second⟩

theorem Ensures.eval {ends : A → W → Prop} {program : Program S A} (ensures : program.Ensures exec ends world) :
    ∃ answer after, program.eval exec world = some (answer, after) ∧ ends answer after := by
  induction program generalizing world with
  | done answer => exact ⟨answer, world, rfl, ensures⟩
  | call command next ih =>
      obtain ⟨reply, middle, executed, rest⟩ := ensures
      obtain ⟨answer, after, evaluated, holds⟩ := ih reply rest
      refine ⟨answer, after, ?_, holds⟩
      rw [Program.eval, executed]
      exact evaluated

/-- A loop keeps what is known about the items that are left. -/
theorem ensures_forM {I : Type} (body : I → ExceptT E (Program S) PUnit) (invariant : List I → W → Prop)
    (step : ∀ item items world, invariant (item :: items) world →
      (body item).run.Ensures exec (fun result world => result = .ok ⟨⟩ ∧ invariant items world) world)
    (items : List I) (holds : invariant items world) :
    (forM items body).run.Ensures exec (fun result world => result = .ok ⟨⟩ ∧ invariant [] world) world := by
  induction items generalizing world with
  | nil => exact ⟨rfl, holds⟩
  | cons item items ih =>
      rw [List.forM_cons, ensures_run_bind]
      refine (step item items world holds).imp ?_
      rintro _ world ⟨rfl, kept⟩
      exact ih kept

end Rules
end Program

namespace System
variable {S : Signature} {World Choice Tick Request Answer : Type}
variable {system : System S World Choice Tick Request Answer}

/-- The recorded calls of a request do not change its answer. -/
theorem eval_recorded_of_eval {A : Type} {choice : Choice} {program : Program S A} {answer : A} {world after : World}
    (evaluated : program.eval (fun command => system.exec command choice) world = some (answer, after))
    (past : List (Exchange S)) :
    ∃ later, program.eval (system.recorded choice) (world, past) = some (answer, after, later) := by
  induction program generalizing world past with
  | done result =>
      cases evaluated
      exact ⟨past, rfl⟩
  | call command next ih =>
      obtain ⟨⟨reply, middle⟩, executed, rest⟩ := Option.bind_eq_some_iff.mp evaluated
      obtain ⟨later, continued⟩ := ih reply rest (⟨command, reply⟩ :: past)
      refine ⟨later, ?_⟩
      rw [Program.eval, recorded_of_exec executed]
      exact continued

/-- A turn whose request ensures a property can be taken. -/
theorem alone_of_ensures {turn : Turn Choice Tick Request} {world ready : World} {ends : Answer → World → Prop}
    (drifted : system.drift turn.tick world = some ready)
    (ensures : (system.handler turn.request).Ensures (fun command => system.exec command turn.choice) ends ready) :
    ∃ outcome after, system.alone turn world = some (outcome, after) ∧ ends outcome.answer after := by
  obtain ⟨answer, after, evaluated, holds⟩ := ensures.eval
  obtain ⟨past, recorded⟩ := eval_recorded_of_eval evaluated []
  exact ⟨⟨answer, past⟩, after, alone_eq drifted recorded, holds⟩

end System
end Interleaving
