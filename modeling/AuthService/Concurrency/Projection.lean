import AuthService.Concurrency.Interleaving

namespace Interleaving
variable {S : Signature} {World View Choice Tick Request Answer : Type}

/-- A view of a configuration shows a part of its world. -/
def Config.view (project : World → View) (config : Config S World Request Answer) : Config S View Request Answer :=
  ⟨project config.world, config.tasks, config.history⟩

/-- Every label is shown except the hidden ticks. -/
def Label.shown (hidden : Tick → Bool) : Label Choice Tick Request → Bool
  | .drift tick => !hidden tick
  | _ => true

namespace System

theorem run_anything_cons (system : System S World Choice Tick Request Answer) (label : Label Choice Tick Request)
    (labels : List (Label Choice Tick Request)) (config : Config S World Request Answer) :
    system.run anything (label :: labels) config = (system.step config label).bind (system.run anything labels) := rfl

theorem run_anything_append (system : System S World Choice Tick Request Answer)
    (first second : List (Label Choice Tick Request)) (config : Config S World Request Answer) :
    system.run anything (first ++ second) config =
      (system.run anything first config).bind (system.run anything second) := by
  induction first generalizing config with
  | nil => rfl
  | cons label labels ih =>
      rw [List.cons_append, run_anything_cons, run_anything_cons, Option.bind_assoc]
      exact congrArg _ (funext ih)

/-- One system is a part of another. The hidden ticks of the whole only move what the part does not show,
and the part itself never takes them. -/
structure Projects (whole : System S World Choice Tick Request Answer)
    (part : System S View Choice Tick Request Answer) (project : World → View) (hidden : Tick → Bool) : Prop where
  handler : part.handler = whole.handler
  exec : ∀ command choice world, part.exec command choice (project world) =
    (whole.exec command choice world).map fun result => (result.1, project result.2)
  drift : ∀ tick world, hidden tick = false →
    part.drift tick (project world) = (whole.drift tick world).map project
  silent : ∀ tick world next, hidden tick = true → whole.drift tick world = some next →
    project next = project world
  absent : ∀ tick world, hidden tick = true → part.drift tick (project world) = none

namespace Projects
variable {whole : System S World Choice Tick Request Answer} {part : System S View Choice Tick Request Answer}
  {project : World → View} {hidden : Tick → Bool}

theorem begin_view (projects : whole.Projects part project hidden) (world : World) (requests : List Request) :
    (whole.begin world requests).view project = part.begin (project world) requests := by
  simp only [begin, Config.view, projects.handler]

/-- The two systems take the shown steps together. -/
theorem step_shown (projects : whole.Projects part project hidden) (config : Config S World Request Answer)
    {label : Label Choice Tick Request} (shown : label.shown hidden = true) :
    part.step (config.view project) label = (whole.step config label).map (Config.view project) := by
  cases label with
  | start request => simp only [step, Config.view, Option.map_some, projects.handler]
  | advance task choice =>
      simp only [step, Config.view]
      split
      · rw [projects.exec, Option.map_map, Option.map_map]
        rfl
      · rfl
  | drift tick =>
      have visible : hidden tick = false := by simpa only [Label.shown, Bool.not_eq_true'] using shown
      simp only [step, Config.view]
      rw [projects.drift tick _ visible, Option.map_map, Option.map_map]
      rfl

/-- A hidden step of the whole leaves the part where it is. -/
theorem step_hidden (projects : whole.Projects part project hidden) {config next : Config S World Request Answer}
    {label : Label Choice Tick Request} (unseen : label.shown hidden = false)
    (moved : whole.step config label = some next) : next.view project = config.view project := by
  cases label with
  | start request => cases unseen
  | advance task choice => cases unseen
  | drift tick =>
      have away : hidden tick = true := by simpa only [Label.shown, Bool.not_eq_false'] using unseen
      obtain ⟨world, drifted, rfl⟩ := Option.map_eq_some_iff.mp moved
      simp only [Config.view, projects.silent tick _ world away drifted]

/-- The part takes no hidden step. -/
theorem shown_of_step (projects : whole.Projects part project hidden) {config : Config S World Request Answer}
    {seen : Config S View Request Answer} {label : Label Choice Tick Request}
    (moved : part.step (config.view project) label = some seen) : label.shown hidden = true := by
  cases label with
  | start request => rfl
  | advance task choice => rfl
  | drift tick =>
      cases away : hidden tick with
      | false => simp only [Label.shown, away, Bool.not_false]
      | true =>
          simp only [step, Config.view, projects.absent tick _ away, Option.map_none] at moved
          cases moved

/-- Without its hidden ticks a schedule of the whole is a schedule of the part. -/
theorem run_part (projects : whole.Projects part project hidden) (labels : List (Label Choice Tick Request))
    {config last : Config S World Request Answer} (accepted : whole.run anything labels config = some last) :
    part.run anything (labels.filter (Label.shown hidden)) (config.view project) = some (last.view project) := by
  induction labels generalizing config with
  | nil =>
      obtain rfl := Option.some.inj accepted
      rfl
  | cons label labels ih =>
      obtain ⟨middle, moved, rest⟩ := Option.bind_eq_some_iff.mp accepted
      cases shown : label.shown hidden with
      | true =>
          rw [List.filter_cons_of_pos shown, run_anything_cons, projects.step_shown config shown, moved]
          exact ih rest
      | false =>
          rw [List.filter_cons_of_neg (by rw [shown]; exact Bool.false_ne_true),
            ← projects.step_hidden shown moved]
          exact ih rest

/-- A schedule of the part is a schedule of the whole. -/
theorem run_whole (projects : whole.Projects part project hidden) (labels : List (Label Choice Tick Request))
    {config : Config S World Request Answer} {seen : Config S View Request Answer}
    (accepted : part.run anything labels (config.view project) = some seen) :
    ∃ last, whole.run anything labels config = some last ∧ last.view project = seen := by
  induction labels generalizing config with
  | nil => exact ⟨config, rfl, Option.some.inj accepted⟩
  | cons label labels ih =>
      obtain ⟨middle, moved, rest⟩ := Option.bind_eq_some_iff.mp accepted
      rw [projects.step_shown config (projects.shown_of_step moved)] at moved
      obtain ⟨next, stepped, rfl⟩ := Option.map_eq_some_iff.mp moved
      obtain ⟨last, ran, same⟩ := ih rest
      refine ⟨last, ?_, same⟩
      rw [run_anything_cons, stepped]
      exact ran

end Projects
end System
end Interleaving
