import V2x.Foundations.TransitionSystem

namespace Foundations

/-!
# Simulation of one machine by another

The concrete machine takes smaller steps than the abstract one.  A step of the
first is matched by a run of the second, which may be empty.  The two states
stay related, so a run of the concrete machine ends in a state that some run of
the abstract machine explains.
-/

universe u v w x

namespace Machine

variable {State : Type u} {Label : Type v} {Image : Type w} {Event : Type x}
  {concrete : Machine State Label} {abstract : Machine Image Event} {related : State -> Image -> Prop}

/-- Every step between related states is matched by a run. -/
def Simulates (concrete : Machine State Label) (abstract : Machine Image Event)
    (related : State -> Image -> Prop) : Prop :=
  forall {state next : State} {label : Label} {image : Image}, related state image ->
    concrete.step state label = some next ->
    Exists fun events => Exists fun after =>
      abstract.run image events = some after ∧ related next after

/-- The empty run, for a step that the abstract machine does not see. -/
theorem matched_stutter {next : State} {image : Image} (relatedNext : related next image) :
    Exists fun events => Exists fun after =>
      abstract.run image events = some after ∧ related next after :=
  ⟨[], image, rfl, relatedNext⟩

theorem matched_step {next : State} {image after : Image} {event : Event}
    (taken : abstract.step image event = some after) (relatedNext : related next after) :
    Exists fun events => Exists fun after =>
      abstract.run image events = some after ∧ related next after := by
  refine ⟨[event], after, ?_, relatedNext⟩
  exact (abstract.run_cons_iff image after event []).mpr ⟨after, taken, rfl⟩

/-- Every run is matched by a run. -/
theorem Simulates.run (simulates : Simulates concrete abstract related) {state final : State}
    {labels : List Label} {image : Image} (start : related state image)
    (ran : concrete.run state labels = some final) :
    Exists fun events => Exists fun after =>
      abstract.run image events = some after ∧ related final after := by
  induction labels generalizing state image with
  | nil =>
      cases ran
      exact ⟨[], image, rfl, start⟩
  | cons label labels inductionHypothesis =>
      rcases (concrete.run_cons_iff state final label labels).mp ran with ⟨next, taken, rest⟩
      rcases simulates start taken with ⟨first, middle, ranFirst, relatedNext⟩
      rcases inductionHypothesis relatedNext rest with ⟨second, after, ranSecond, relatedFinal⟩
      refine ⟨first ++ second, after, ?_, relatedFinal⟩
      exact (abstract.run_append_iff image after first second).mpr ⟨middle, ranFirst, ranSecond⟩

/-- If the abstract machine makes what each step reports that meets the condition, it makes what a
run of such steps reports. -/
theorem run_trace_of_allSteps {Report : Type v} {abstract : Machine Image Report}
    {report : State -> Label -> List Report} {ok : State -> Label -> Prop}
    (follows : forall {state next : State} {label : Label} {image : Image}, related state image ->
      ok state label -> concrete.step state label = some next ->
      Exists fun after => abstract.run image (report state label) = some after ∧ related next after)
    {state final : State} {labels : List Label} {image : Image} (start : related state image)
    (conditioned : concrete.AllSteps ok state labels) (ran : concrete.run state labels = some final) :
    Exists fun after => abstract.run image (concrete.trace report state labels) = some after ∧
      related final after := by
  induction labels generalizing state image with
  | nil =>
      cases ran
      exact ⟨image, rfl, start⟩
  | cons label labels inductionHypothesis =>
      rcases (concrete.run_cons_iff state final label labels).mp ran with ⟨next, taken, rest⟩
      rcases follows start conditioned.1 taken with ⟨middle, ranFirst, relatedNext⟩
      rcases inductionHypothesis relatedNext (conditioned.2 next taken) rest with
        ⟨after, ranRest, relatedFinal⟩
      refine ⟨after, ?_, relatedFinal⟩
      simp only [trace, taken]
      exact (abstract.run_append_iff image after _ _).mpr ⟨middle, ranFirst, ranRest⟩

theorem run_trace {Report : Type v} {abstract : Machine Image Report}
    {report : State -> Label -> List Report}
    (follows : forall {state next : State} {label : Label} {image : Image}, related state image ->
      concrete.step state label = some next ->
      Exists fun after => abstract.run image (report state label) = some after ∧ related next after)
    {state final : State} {labels : List Label} {image : Image} (start : related state image)
    (ran : concrete.run state labels = some final) :
    Exists fun after => abstract.run image (concrete.trace report state labels) = some after ∧
      related final after :=
  run_trace_of_allSteps (fun isRelated _ taken => follows isRelated taken) start
    (concrete.allSteps_of_forall (fun _ _ => trivial) state labels) ran

end Machine
end Foundations
