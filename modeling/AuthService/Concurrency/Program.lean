import Mathlib.Data.List.Basic
import Mathlib.Tactic.Common

namespace Interleaving

/-- A signature lists the commands of a component and the reply type of each command. -/
structure Signature where
  Command : Type
  Reply : Command → Type

/-- A program performs one command at a time and continues with the reply. -/
inductive Program (S : Signature) (A : Type) : Type where
  | done (answer : A)
  | call (command : S.Command) (next : S.Reply command → Program S A)

/-- An exchange is one performed command with the reply that it received. -/
structure Exchange (S : Signature) where
  command : S.Command
  reply : S.Reply command

namespace Program
variable {S : Signature} {A B E W : Type}

def bind : Program S A → (A → Program S B) → Program S B
  | .done answer, rest => rest answer
  | .call command next, rest => .call command fun reply => (next reply).bind rest

instance : Monad (Program S) where
  pure := .done
  bind := bind

/-- One command of a program that may also fail with an error of its own. -/
def perform (command : S.Command) : ExceptT E (Program S) (S.Reply command) :=
  ExceptT.lift (.call command .done)

/-- A program follows a discipline when the commands performed so far permit each next command
and justify the final answer. The exchanges are listed with the newest first. -/
def Follows (may : List (Exchange S) → S.Command → Prop) (ends : List (Exchange S) → A → Prop) :
    Program S A → List (Exchange S) → Prop
  | .done answer, past => ends past answer
  | .call command next, past =>
      may past command ∧ ∀ reply, (next reply).Follows may ends (⟨command, reply⟩ :: past)

variable {may : List (Exchange S) → S.Command → Prop}

/-- A weaker final condition is followed by the same program. -/
theorem Follows.imp {ends ends' : List (Exchange S) → A → Prop}
    (weaker : ∀ past answer, ends past answer → ends' past answer)
    (program : Program S A) (past : List (Exchange S)) (follows : program.Follows may ends past) :
    program.Follows may ends' past := by
  induction program generalizing past with
  | done answer => exact weaker past answer follows
  | call command next ih =>
      exact ⟨follows.1, fun reply => ih reply _ (follows.2 reply)⟩

/-- Every program follows a discipline that asks for nothing. -/
theorem follows_anything {ends : List (Exchange S) → A → Prop} (free : ∀ past command, may past command)
    (open' : ∀ past answer, ends past answer) (program : Program S A) (past : List (Exchange S)) :
    program.Follows may ends past := by
  induction program generalizing past with
  | done answer => exact open' past answer
  | call command next ih => exact ⟨free past command, fun reply => ih reply _⟩

/-- Sequencing checks the second part at the exchanges that the first part leaves. -/
theorem follows_bind (program : Program S A) (rest : A → Program S B)
    (ends : List (Exchange S) → B → Prop) (past : List (Exchange S)) :
    (program.bind rest).Follows may ends past ↔
      program.Follows may (fun past answer => (rest answer).Follows may ends past) past := by
  induction program generalizing past with
  | done answer => rfl
  | call command next ih => simp only [bind, Follows, ih]

/-- The continuation of a fallible program runs only after success. -/
def Continues (may : List (Exchange S) → S.Command → Prop)
    (ends : List (Exchange S) → Except E B → Prop) (rest : A → ExceptT E (Program S) B) :
    List (Exchange S) → Except E A → Prop
  | past, .ok answer => (rest answer).run.Follows may ends past
  | past, .error error => ends past (.error error)

variable {ends : List (Exchange S) → Except E B → Prop} {rest : A → ExceptT E (Program S) B}

@[simp] theorem continues_ok (past : List (Exchange S)) (answer : A) :
    Continues may ends rest past (.ok answer) ↔ (rest answer).run.Follows may ends past := Iff.rfl

@[simp] theorem continues_error (past : List (Exchange S)) (error : E) :
    Continues may ends rest past (.error error) ↔ ends past (.error error) := Iff.rfl

@[simp] theorem follows_run_bind (program : ExceptT E (Program S) A) (past : List (Exchange S)) :
    (program >>= rest).run.Follows may ends past ↔
      program.run.Follows may (Continues may ends rest) past := by
  change (program.run.bind _).Follows may ends past ↔ _
  rw [follows_bind]
  constructor
  · apply Follows.imp
    intro past answer
    cases answer <;> exact id
  · apply Follows.imp
    intro past answer
    cases answer <;> exact id

@[simp] theorem follows_run_pure (answer : B) (past : List (Exchange S)) :
    (pure answer : ExceptT E (Program S) B).run.Follows may ends past ↔ ends past (.ok answer) :=
  Iff.rfl

@[simp] theorem follows_run_throw (error : E) (past : List (Exchange S)) :
    (throw error : ExceptT E (Program S) B).run.Follows may ends past ↔ ends past (.error error) :=
  Iff.rfl

@[simp] theorem follows_run_lift (program : Program S B) (past : List (Exchange S)) :
    (ExceptT.lift program : ExceptT E (Program S) B).run.Follows may ends past ↔
      program.Follows may (fun past answer => ends past (.ok answer)) past := by
  change (program.bind fun answer => .done (.ok answer)).Follows may ends past ↔ _
  rw [follows_bind]
  rfl

@[simp] theorem follows_run_perform (command : S.Command) (past : List (Exchange S))
    {ends : List (Exchange S) → Except E (S.Reply command) → Prop} :
    (perform command : ExceptT E (Program S) _).run.Follows may ends past ↔
      may past command ∧ ∀ reply, ends (⟨command, reply⟩ :: past) (.ok reply) :=
  Iff.rfl

/-- A loop follows a discipline when each step keeps what is known about the items that are left. -/
theorem follows_forM {I : Type} {ends : List (Exchange S) → Except E PUnit → Prop}
    (body : I → ExceptT E (Program S) PUnit) (invariant : List I → List (Exchange S) → Prop)
    (step : ∀ item items past, invariant (item :: items) past →
      (body item).run.Follows may (fun past answer => answer = .ok ⟨⟩ ∧ invariant items past) past)
    (finish : ∀ past, invariant [] past → ends past (.ok ⟨⟩))
    (items : List I) (past : List (Exchange S)) (holds : invariant items past) :
    (forM items body).run.Follows may ends past := by
  induction items generalizing past with
  | nil => exact finish past holds
  | cons item items ih =>
      rw [List.forM_cons, follows_run_bind]
      apply Follows.imp _ _ _ (step item items past holds)
      rintro past answer ⟨rfl, kept⟩
      exact ih past kept

/-- Every command of the program is of one kind. -/
def Only (kind : S.Command → Prop) : Program S A → Prop
  | .done _ => True
  | .call command next => kind command ∧ ∀ reply, (next reply).Only kind

section Only
variable {kind : S.Command → Prop}

theorem only_bind {program : Program S A} {rest : A → Program S B} (first : program.Only kind)
    (after : ∀ answer, (rest answer).Only kind) : (program.bind rest).Only kind := by
  induction program with
  | done answer => exact after answer
  | call command next ih => exact ⟨first.1, fun reply => ih reply (first.2 reply)⟩

theorem only_run_bind {program : ExceptT E (Program S) A} (first : program.run.Only kind)
    (after : ∀ answer, (rest answer).run.Only kind) : (program >>= rest).run.Only kind := by
  refine only_bind first fun answer => ?_
  cases answer with
  | ok answer => exact after answer
  | error error => trivial

/-- The commands of a disciplined program are those that the discipline permits at some moment. -/
theorem only_of_follows {ends : List (Exchange S) → A → Prop} {program : Program S A} {past : List (Exchange S)}
    (follows : program.Follows may ends past) : program.Only fun command => ∃ past, may past command := by
  induction program generalizing past with
  | done answer => trivial
  | call command next ih => exact ⟨⟨past, follows.1⟩, fun reply => ih reply (follows.2 reply)⟩

theorem only_run_perform {command : S.Command} (member : kind command) :
    (perform command : ExceptT E (Program S) _).run.Only kind := ⟨member, fun _ => trivial⟩

theorem only_run_forM {I : Type} {body : I → ExceptT E (Program S) PUnit} (each : ∀ item, (body item).run.Only kind)
    (items : List I) : (forM items body).run.Only kind := by
  induction items with
  | nil => trivial
  | cons item items ih =>
      rw [List.forM_cons]
      exact only_run_bind (each item) fun _ => ih

/-- A program of harmless commands keeps any condition that each of them keeps. -/
theorem follows_of_only {invariant : List (Exchange S) → Prop} {program : Program S A}
    (only : program.Only kind) (free : ∀ past command, kind command → may past command)
    (keeps : ∀ past command reply, kind command → invariant past → invariant (⟨command, reply⟩ :: past))
    (past : List (Exchange S)) (holds : invariant past) :
    program.Follows may (fun past _ => invariant past) past := by
  induction program generalizing past with
  | done answer => exact holds
  | call command next ih =>
      exact ⟨free past command only.1, fun reply => ih reply (only.2 reply) _ (keeps past command reply only.1 holds)⟩

/-- A condition holds of a program and of all that the replies leave of it. -/
def Everywhere (holds : Program S A → Prop) : Program S A → Prop
  | .done answer => holds (.done answer)
  | .call command next => holds (.call command next) ∧ ∀ reply, (next reply).Everywhere holds

theorem Everywhere.here {holds : Program S A → Prop} {program : Program S A} (everywhere : program.Everywhere holds) :
    holds program := by
  cases program with
  | done answer => exact everywhere
  | call command next => exact everywhere.1

/-- A condition on the next command holds everywhere in a program whose commands all meet it. -/
theorem everywhere_of_only {holds : Program S A → Prop} {program : Program S A} (only : program.Only kind)
    (done : ∀ answer, holds (.done answer)) (call : ∀ command next, kind command → holds (.call command next)) :
    program.Everywhere holds := by
  induction program with
  | done answer => exact done answer
  | call command next ih => exact ⟨call command next only.1, fun reply => ih reply (only.2 reply)⟩

end Only

/-- A program runs alone when one fixed function answers each command. -/
def eval (exec : (command : S.Command) → W → Option (S.Reply command × W)) :
    Program S A → W → Option (A × W)
  | .done answer, world => some (answer, world)
  | .call command next, world =>
      (exec command world).bind fun result => (next result.1).eval exec result.2

section Eval
variable {exec : (command : S.Command) → W → Option (S.Reply command × W)} {world next : W}

theorem eval_bind (program : Program S A) (rest : A → Program S B) :
    (program.bind rest).eval exec world =
      (program.eval exec world).bind fun result => (rest result.1).eval exec result.2 := by
  induction program generalizing world with
  | done answer => rfl
  | call command next ih =>
      simp only [bind, eval, Option.bind_assoc]
      congr 1
      funext result
      exact ih result.1

variable {first : ExceptT E (Program S) A} {then' : A → ExceptT E (Program S) B}

theorem eval_run_bind :
    (first >>= then').run.eval exec world =
      (first.run.eval exec world).bind fun result =>
        match result.1 with
        | .ok answer => (then' answer).run.eval exec result.2
        | .error error => some (.error error, result.2) := by
  change (first.run.bind _).eval exec world = _
  rw [eval_bind]
  congr 1
  funext result
  obtain ⟨answer | answer, next⟩ := result <;> rfl

/-- A part that succeeds hands over to the rest. -/
theorem eval_ok {answer : A} (succeeds : first.run.eval exec world = some (.ok answer, next)) :
    (first >>= then').run.eval exec world = (then' answer).run.eval exec next := by
  rw [eval_run_bind, succeeds, Option.bind_some]

/-- A part that fails ends the program. -/
theorem eval_error {error : E} (fails : first.run.eval exec world = some (.error error, next)) :
    (first >>= then').run.eval exec world = some (.error error, next) := by
  rw [eval_run_bind, fails, Option.bind_some]

theorem eval_perform {command : S.Command} {reply : S.Reply command}
    (executed : exec command world = some (reply, next)) :
    (perform command : ExceptT E (Program S) _).run.eval exec world = some (.ok reply, next) := by
  change (exec command world).bind _ = _
  rw [executed]
  rfl

theorem eval_lift {program : Program S A} {answer : A} (runs : program.eval exec world = some (answer, next)) :
    (ExceptT.lift program : ExceptT E (Program S) A).run.eval exec world = some (.ok answer, next) := by
  change (program.bind fun answer => .done (Except.ok answer)).eval exec world = _
  rw [eval_bind, runs, Option.bind_some]
  rfl

end Eval
end Program
end Interleaving
