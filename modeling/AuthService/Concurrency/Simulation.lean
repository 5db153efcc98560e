import AuthService.Concurrency.Projection

namespace Interleaving
variable {S : Signature} {World View Choice Tick Request Answer : Type}

/-- Two configurations differ in their worlds only, which are related. Their tasks perform commands of one kind. -/
structure Config.Matches (kind : S.Command → Prop) (related : World → View → Prop)
    (config : Config S World Request Answer) (model : Config S View Request Answer) : Prop where
  world : related config.world model.world
  tasks : config.tasks = model.tasks
  history : config.history = model.history
  only : ∀ task ∈ config.tasks, task.rest.Only kind

/-- A step of the surroundings is one of those that are admitted. -/
def Label.Admitted (admits : Tick → Prop) : Label Choice Tick Request → Prop
  | .drift tick => admits tick
  | _ => True

namespace System

/-- Two systems are in step when their handlers perform commands of one kind, to which related worlds give the same
replies, and the worlds stay related. -/
structure InStep (system : System S World Choice Tick Request Answer)
    (model : System S View Choice Tick Request Answer) (kind : S.Command → Prop) (related : World → View → Prop)
    (admits : Tick → Prop) : Prop where
  handler : system.handler = model.handler
  only : ∀ request, (system.handler request).Only kind
  exec : ∀ command choice world view, kind command → related world view →
    Option.Rel (fun first second => first.1 = second.1 ∧ related first.2 second.2)
      (system.exec command choice world) (model.exec command choice view)
  drift : ∀ tick world view, admits tick → related world view →
    Option.Rel related (system.drift tick world) (model.drift tick view)

namespace InStep
variable {system : System S World Choice Tick Request Answer} {model : System S View Choice Tick Request Answer}
  {kind : S.Command → Prop} {related : World → View → Prop} {admits : Tick → Prop}
variable {config : Config S World Request Answer} {shown : Config S View Request Answer}

theorem begin_matches (together : system.InStep model kind related admits) {world : World} {view : View}
    (start : related world view) (requests : List Request) :
    (system.begin world requests).Matches kind related (model.begin view requests) := by
  refine ⟨start, by simp only [begin, together.handler], rfl, ?_⟩
  intro task member
  obtain ⟨request, _, rfl⟩ := List.mem_map.mp member
  exact together.only request

/-- The two systems take the same steps. -/
theorem step (together : system.InStep model kind related admits) (same : config.Matches kind related shown)
    {label : Label Choice Tick Request} (admitted : label.Admitted admits) :
    Option.Rel (Config.Matches kind related) (system.step config label) (model.step shown label) := by
  obtain ⟨world, tasks, history⟩ := config
  obtain ⟨view, tasks', history'⟩ := shown
  obtain ⟨start, rfl, rfl, only⟩ := same
  cases label with
  | start request =>
      refine .some ⟨start, by simp only [together.handler], rfl, ?_⟩
      intro task member
      rcases List.mem_append.mp member with before | added
      · exact only task before
      · obtain rfl := List.mem_singleton.mp added
        exact together.only request
  | advance task choice =>
      simp only [System.step]
      split
      · rename_i request command next selected
        have performs := only _ (List.mem_of_getElem? selected)
        have executed := together.exec command choice world view performs.1 start
        generalize system.exec command choice world = first at executed
        generalize model.exec command choice view = second at executed
        cases executed with
        | none => exact .none
        | @some first second both =>
            obtain ⟨reply, after⟩ := first
            obtain ⟨reply', after'⟩ := second
            obtain ⟨rfl, kept⟩ := both
            refine .some ⟨kept, rfl, rfl, ?_⟩
            intro entry member
            rcases List.mem_or_eq_of_mem_set member with before | rfl
            · exact only entry before
            · exact performs.2 reply
      · exact .none
  | drift tick =>
      have drifted := together.drift tick world view admitted start
      simp only [System.step]
      generalize system.drift tick world = first at drifted
      generalize model.drift tick view = second at drifted
      cases drifted with
      | none => exact .none
      | some kept => exact .some ⟨kept, rfl, rfl, only⟩

/-- The two systems accept the same schedules. -/
theorem run (together : system.InStep model kind related admits) (same : config.Matches kind related shown)
    {labels : List (Label Choice Tick Request)} (admitted : ∀ label ∈ labels, label.Admitted admits) :
    Option.Rel (Config.Matches kind related) (system.run anything labels config) (model.run anything labels shown) := by
  induction labels generalizing config shown with
  | nil => exact .some same
  | cons label labels ih =>
      rw [run_anything_cons, run_anything_cons]
      have stepped := together.step same (admitted label List.mem_cons_self)
      generalize system.step config label = first at stepped
      generalize model.step shown label = second at stepped
      cases stepped with
      | none => exact .none
      | some kept => exact ih kept fun other member => admitted other (List.mem_cons_of_mem _ member)

end InStep
end System
end Interleaving
