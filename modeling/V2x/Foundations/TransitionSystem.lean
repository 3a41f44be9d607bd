import Mathlib.Data.List.Induction

namespace Foundations

/-!
# Labelled machines with partial steps

A machine is a state together with a partial step.  Everything that a real
execution leaves open, such as the thread that moves, the address an allocator
returns, or the bytes that arrive, is part of the label.  A run is therefore a
list of labels, and it either reaches one state or is not possible at all.

The rules here are the only inductions over runs that a development needs:
an invariant of states, the same for runs whose every step meets a condition,
the passage between a condition on the steps of a run and one on the states
it visits, and the order of what the steps report.
-/

universe u v

/-- A step that is defined only on the labels enabled in a state. -/
structure Machine (State : Type u) (Label : Type v) where
  step : State -> Label -> Option State

namespace Machine

variable {State : Type u} {Label : Type v} (machine : Machine State Label)

/-- Execute the labels from left to right. -/
def run : State -> List Label -> Option State
  | state, [] => some state
  | state, label :: labels =>
      (machine.step state label).bind (fun next => run next labels)

@[simp] theorem run_nil (state : State) : machine.run state [] = some state :=
  rfl

theorem run_cons_iff (state final : State) (label : Label) (labels : List Label) :
    machine.run state (label :: labels) = some final <->
      Exists fun next => machine.step state label = some next ∧
        machine.run next labels = some final := by
  simp only [run, Option.bind_eq_some_iff]

theorem run_append_iff (state final : State) (before after : List Label) :
    machine.run state (before ++ after) = some final <->
      Exists fun middle => machine.run state before = some middle ∧
        machine.run middle after = some final := by
  induction before generalizing state with
  | nil => simp
  | cons label before inductionHypothesis =>
      simp only [List.cons_append, run_cons_iff, inductionHypothesis]
      constructor
      · rintro ⟨next, taken, middle, first, second⟩
        exact ⟨middle, ⟨next, taken, first⟩, second⟩
      · rintro ⟨middle, ⟨next, taken, first⟩, second⟩
        exact ⟨next, taken, middle, first, second⟩

theorem run_snoc_iff (state final : State) (labels : List Label) (label : Label) :
    machine.run state (labels ++ [label]) = some final <->
      Exists fun middle => machine.run state labels = some middle ∧
        machine.step middle label = some final := by
  rw [run_append_iff]
  simp only [run_cons_iff, run_nil, Option.some.injEq, exists_eq_right]

theorem run_snoc (state : State) (labels : List Label) (label : Label) :
    machine.run state (labels ++ [label]) =
      (machine.run state labels).bind (fun middle => machine.step middle label) := by
  apply Option.ext
  intro final
  rw [run_snoc_iff, Option.bind_eq_some_iff]

/-- What is not possible stays so. -/
theorem run_append_none {state : State} {labels : List Label}
    (stuck : machine.run state labels = none) (more : List Label) :
    machine.run state (labels ++ more) = none := by
  apply Option.eq_none_iff_forall_ne_some.mpr
  intro final ran
  rcases (run_append_iff machine state final labels more).mp ran with ⟨middle, before, _⟩
  rw [stuck] at before
  cases before

/-! ## Invariants of runs -/

/-- A property of states that every step keeps holds at the end of a run. -/
theorem run_invariant {Inv : State -> Prop}
    (kept : forall state label next, Inv state -> machine.step state label = some next -> Inv next)
    {state final : State} {labels : List Label}
    (start : Inv state) (ran : machine.run state labels = some final) : Inv final := by
  induction labels generalizing state with
  | nil => exact Option.some.inj ran ▸ start
  | cons label labels inductionHypothesis =>
      rcases (run_cons_iff machine state final label labels).mp ran with ⟨next, taken, rest⟩
      exact inductionHypothesis (kept state label next start taken) rest

/-! ## Conditions on the steps and on the states of a run -/

/-- Every step of the run is taken from a state and with a label that meet
the condition. -/
def AllSteps (ok : State -> Label -> Prop) : State -> List Label -> Prop
  | _, [] => True
  | state, label :: labels =>
      ok state label ∧ forall next, machine.step state label = some next -> AllSteps ok next labels

/-- A condition that every step meets. -/
theorem allSteps_of_forall {ok : State -> Label -> Prop}
    (always : forall state label, ok state label) (state : State) (labels : List Label) :
    machine.AllSteps ok state labels := by
  induction labels generalizing state with
  | nil => exact trivial
  | cons label labels inductionHypothesis =>
      exact ⟨always state label, fun next _ => inductionHypothesis next⟩

theorem allSteps_of_labels {ok : Label -> Prop} {labels : List Label}
    (all : forall label, label ∈ labels -> ok label) (state : State) :
    machine.AllSteps (fun _ label => ok label) state labels := by
  induction labels generalizing state with
  | nil => exact trivial
  | cons label labels inductionHypothesis =>
      rw [List.forall_mem_cons] at all
      exact ⟨all.1, fun next _ => inductionHypothesis all.2 next⟩

/-- A condition on the labels of a run that is possible. -/
theorem allSteps_labels_iff {ok : Label -> Prop} {state final : State} {labels : List Label}
    (ran : machine.run state labels = some final) :
    machine.AllSteps (fun _ label => ok label) state labels <->
      forall label, label ∈ labels -> ok label := by
  refine ⟨fun conditioned => ?_, fun all => machine.allSteps_of_labels all state⟩
  induction labels generalizing state with
  | nil => exact fun _ member => absurd member List.not_mem_nil
  | cons label labels inductionHypothesis =>
      rcases (run_cons_iff machine state final label labels).mp ran with ⟨next, taken, rest⟩
      rw [List.forall_mem_cons]
      exact ⟨conditioned.1, inductionHypothesis rest (conditioned.2 next taken)⟩

theorem allSteps_cons_none {ok : State -> Label -> Prop} {state : State} {label : Label}
    {labels : List Label} (stuck : machine.step state label = none) :
    ok state label <-> machine.AllSteps ok state (label :: labels) := by
  constructor
  · intro holds
    exact ⟨holds, fun next taken => by rw [stuck] at taken; cases taken⟩
  · exact And.left

theorem allSteps_cons_some {ok : State -> Label -> Prop} {state next : State} {label : Label}
    {labels : List Label} (taken : machine.step state label = some next) :
    (ok state label ∧ machine.AllSteps ok next labels) <->
      machine.AllSteps ok state (label :: labels) := by
  constructor
  · rintro ⟨holds, rest⟩
    exact ⟨holds, fun other same => by rw [taken] at same; cases same; exact rest⟩
  · rintro ⟨holds, rest⟩
    exact ⟨holds, rest next taken⟩

theorem allSteps_append_iff {ok : State -> Label -> Prop} {state middle : State}
    {before : List Label} (ran : machine.run state before = some middle) (after : List Label) :
    machine.AllSteps ok state (before ++ after) <->
      machine.AllSteps ok state before ∧ machine.AllSteps ok middle after := by
  induction before generalizing state with
  | nil =>
      cases ran
      exact (and_iff_right trivial).symm
  | cons label before inductionHypothesis =>
      rcases (run_cons_iff machine state middle label before).mp ran with ⟨next, taken, rest⟩
      rw [List.cons_append, ← machine.allSteps_cons_some taken, ← machine.allSteps_cons_some taken,
        inductionHypothesis rest, and_assoc]

/-- A condition that can be decided on one step can be decided on a run. -/
instance decidableAllSteps (ok : State -> Label -> Prop)
    [forall state label, Decidable (ok state label)] :
    (state : State) -> (labels : List Label) -> Decidable (machine.AllSteps ok state labels)
  | _, [] => isTrue trivial
  | state, label :: labels =>
      match taken : machine.step state label with
      | none => decidable_of_iff _ (machine.allSteps_cons_none taken)
      | some next =>
          haveI := decidableAllSteps ok next labels
          decidable_of_iff _ (machine.allSteps_cons_some taken)

/-- The property holds in the first state of the run and in every later one. -/
def EveryState (holds : State -> Prop) : State -> List Label -> Prop
  | state, [] => holds state
  | state, label :: labels =>
      holds state ∧ forall next, machine.step state label = some next -> EveryState holds next labels

theorem everyState_start {holds : State -> Prop} {state : State} {labels : List Label}
    (every : machine.EveryState holds state labels) : holds state := by
  cases labels with
  | nil => exact every
  | cons label labels => exact every.1

/-- A property that the conditioned steps keep holds in every state of a
run whose steps all meet the condition. -/
theorem everyState_of_allSteps {Inv : State -> Prop} {ok : State -> Label -> Prop}
    (kept : forall state label next, Inv state -> ok state label ->
      machine.step state label = some next -> Inv next)
    {state : State} {labels : List Label}
    (start : Inv state) (conditioned : machine.AllSteps ok state labels) :
    machine.EveryState Inv state labels := by
  induction labels generalizing state with
  | nil => exact start
  | cons label labels inductionHypothesis =>
      refine ⟨start, fun next taken => ?_⟩
      exact inductionHypothesis (kept state label next start conditioned.1 taken)
        (conditioned.2 next taken)

/-- A property that every step keeps holds in every state of every run. -/
theorem everyState_invariant {Inv : State -> Prop}
    (kept : forall state label next, Inv state -> machine.step state label = some next -> Inv next)
    {state : State} (start : Inv state) (labels : List Label) :
    machine.EveryState Inv state labels := by
  induction labels generalizing state with
  | nil => exact start
  | cons label labels inductionHypothesis =>
      exact ⟨start, fun next taken => inductionHypothesis (kept state label next start taken)⟩

theorem everyState_imp {first second : State -> Prop} (weaken : forall state, first state -> second state)
    {state : State} {labels : List Label} (every : machine.EveryState first state labels) :
    machine.EveryState second state labels := by
  induction labels generalizing state with
  | nil => exact weaken state every
  | cons label labels inductionHypothesis =>
      exact ⟨weaken state every.1, fun next taken => inductionHypothesis (every.2 next taken)⟩

theorem everyState_and {first second : State -> Prop} {state : State} {labels : List Label}
    (every : machine.EveryState first state labels)
    (everyToo : machine.EveryState second state labels) :
    machine.EveryState (fun state => first state ∧ second state) state labels := by
  induction labels generalizing state with
  | nil => exact ⟨every, everyToo⟩
  | cons label labels inductionHypothesis =>
      exact ⟨⟨every.1, everyToo.1⟩, fun next taken =>
        inductionHypothesis (every.2 next taken) (everyToo.2 next taken)⟩

theorem everyState_final {holds : State -> Prop} {state final : State} {labels : List Label}
    (every : machine.EveryState holds state labels)
    (ran : machine.run state labels = some final) : holds final := by
  induction labels generalizing state with
  | nil => exact Option.some.inj ran ▸ every
  | cons label labels inductionHypothesis =>
      rcases (run_cons_iff machine state final label labels).mp ran with ⟨next, taken, rest⟩
      exact inductionHypothesis (every.2 next taken) rest

/-- What stays once it holds has not held in a run at whose end it does not. -/
theorem everyState_of_final {Inv lost : State -> Prop}
    (kept : forall state label next, Inv state -> machine.step state label = some next -> Inv next)
    (stays : forall state label next, Inv state -> lost state ->
      machine.step state label = some next -> lost next)
    {state final : State} {labels : List Label} (start : Inv state)
    (ran : machine.run state labels = some final) (fine : ¬ lost final) :
    machine.EveryState (fun state => ¬ lost state) state labels := by
  induction labels generalizing state with
  | nil => exact Option.some.inj ran ▸ fine
  | cons label labels inductionHypothesis =>
      rcases (run_cons_iff machine state final label labels).mp ran with ⟨next, taken, rest⟩
      have later := inductionHypothesis (kept state label next start taken) rest
      refine ⟨fun isLost => machine.everyState_start later (stays state label next start isLost taken),
        fun other same => ?_⟩
      rw [taken] at same
      cases same
      exact later

/-- The final state of a run whose steps all meet the condition. -/
theorem run_of_allSteps {Inv : State -> Prop} {ok : State -> Label -> Prop}
    (kept : forall state label next, Inv state -> ok state label ->
      machine.step state label = some next -> Inv next)
    {state final : State} {labels : List Label}
    (start : Inv state) (conditioned : machine.AllSteps ok state labels)
    (ran : machine.run state labels = some final) : Inv final :=
  machine.everyState_final (machine.everyState_of_allSteps kept start conditioned) ran

/-- Where every conditioned step is possible, the run is. -/
theorem exists_run_of_allSteps {Inv : State -> Prop} {ok : State -> Label -> Prop}
    (enabled : forall state label, Inv state -> ok state label ->
      Exists fun next => machine.step state label = some next ∧ Inv next)
    {state : State} {labels : List Label}
    (start : Inv state) (conditioned : machine.AllSteps ok state labels) :
    Exists fun final => machine.run state labels = some final := by
  induction labels generalizing state with
  | nil => exact ⟨state, rfl⟩
  | cons label labels inductionHypothesis =>
      rcases enabled state label start conditioned.1 with ⟨next, taken, kept⟩
      rcases inductionHypothesis kept (conditioned.2 next taken) with ⟨final, rest⟩
      exact ⟨final, (run_cons_iff machine state final label labels).mpr ⟨next, taken, rest⟩⟩

theorem allSteps_and {first second : State -> Label -> Prop} {state : State} {labels : List Label}
    (isFirst : machine.AllSteps first state labels)
    (isSecond : machine.AllSteps second state labels) :
    machine.AllSteps (fun state label => first state label ∧ second state label) state labels := by
  induction labels generalizing state with
  | nil => exact trivial
  | cons label labels inductionHypothesis =>
      refine ⟨⟨isFirst.1, isSecond.1⟩, fun next taken => ?_⟩
      exact inductionHypothesis (isFirst.2 next taken) (isSecond.2 next taken)

/-- What an invariant and one condition imply about a step. -/
theorem allSteps_of_invariant {Inv : State -> Prop} {assumed ok : State -> Label -> Prop}
    (kept : forall state label next, Inv state -> assumed state label ->
      machine.step state label = some next -> Inv next)
    (implied : forall state label, Inv state -> assumed state label -> ok state label)
    {state : State} {labels : List Label}
    (start : Inv state) (conditioned : machine.AllSteps assumed state labels) :
    machine.AllSteps ok state labels := by
  induction labels generalizing state with
  | nil => exact trivial
  | cons label labels inductionHypothesis =>
      refine ⟨implied state label start conditioned.1, fun next taken => ?_⟩
      exact inductionHypothesis (kept state label next start conditioned.1 taken)
        (conditioned.2 next taken)

/-- Two conditions that agree on the steps of a run, as long as they hold, hold
of the same runs. -/
theorem allSteps_iff {Inv : State -> Prop} {assumed good ok : State -> Label -> Prop}
    (decides : forall state label, Inv state -> assumed state label ->
      (good state label <-> ok state label))
    (kept : forall state label next, Inv state -> assumed state label -> ok state label ->
      machine.step state label = some next -> Inv next)
    {state : State} {labels : List Label} (start : Inv state)
    (conditioned : machine.AllSteps assumed state labels) :
    machine.AllSteps good state labels <-> machine.AllSteps ok state labels := by
  induction labels generalizing state with
  | nil => exact Iff.rfl
  | cons label labels inductionHypothesis =>
      have decided := decides state label start conditioned.1
      have later := fun holds next taken => inductionHypothesis
        (kept state label next start conditioned.1 holds taken) (conditioned.2 next taken)
      constructor
      · rintro ⟨isGood, rest⟩
        have holds := decided.mp isGood
        exact ⟨holds, fun next taken => (later holds next taken).mp (rest next taken)⟩
      · rintro ⟨holds, rest⟩
        exact ⟨decided.mpr holds, fun next taken => (later holds next taken).mpr (rest next taken)⟩

/-- Where a condition decides, step by step, whether a property survives, it
decides whether the property holds in every state of the run.  The auxiliary
invariant `Inv` is kept by the steps that meet `assumed`. -/
theorem everyState_iff_allSteps {Inv holds : State -> Prop} {assumed ok : State -> Label -> Prop}
    (kept : forall state label next, Inv state -> assumed state label ->
      machine.step state label = some next -> Inv next)
    (decides : forall state label next, Inv state -> holds state -> assumed state label ->
      machine.step state label = some next -> (holds next <-> ok state label))
    {state final : State} {labels : List Label} (start : Inv state) (good : holds state)
    (conditioned : machine.AllSteps assumed state labels)
    (ran : machine.run state labels = some final) :
    machine.EveryState holds state labels <-> machine.AllSteps ok state labels := by
  induction labels generalizing state with
  | nil => exact iff_of_true good trivial
  | cons label labels inductionHypothesis =>
      rcases (run_cons_iff machine state final label labels).mp ran with ⟨next, taken, rest⟩
      have decided := decides state label next start good conditioned.1 taken
      have later := fun stays : holds next => inductionHypothesis
        (kept state label next start conditioned.1 taken) stays (conditioned.2 next taken) rest
      constructor
      · intro every
        have stays := machine.everyState_start (every.2 next taken)
        refine ⟨decided.mp stays, fun other same => ?_⟩
        rw [taken] at same
        cases same
        exact (later stays).mp (every.2 next taken)
      · intro all
        have stays := decided.mpr all.1
        refine ⟨good, fun other same => ?_⟩
        rw [taken] at same
        cases same
        exact (later stays).mpr (all.2 next taken)

/-- Where a step from a good state either meets the condition and leads to a good state, or
fails it and leads to a doomed one, the end of a run tells whether all of its steps met the
condition. -/
theorem not_doomed_iff_allSteps {Good Doomed : State -> Prop} {ok : State -> Label -> Prop}
    (apart : forall state, Good state -> ¬ Doomed state)
    (splits : forall state label next, Good state -> machine.step state label = some next ->
      (ok state label ∧ Good next) ∨ (¬ ok state label ∧ Doomed next))
    (stays : forall state label next, Doomed state -> machine.step state label = some next ->
      Doomed next)
    {state final : State} {labels : List Label} (start : Good state)
    (ran : machine.run state labels = some final) :
    ¬ Doomed final <-> machine.AllSteps ok state labels := by
  have kept : forall state label next, Good state ∨ Doomed state ->
      machine.step state label = some next -> Good next ∨ Doomed next := by
    rintro state label next (good | doomed) taken
    · exact (splits state label next good taken).imp And.right And.right
    · exact Or.inr (stays state label next doomed taken)
  have decides : forall state label next, Good state ∨ Doomed state -> ¬ Doomed state -> True ->
      machine.step state label = some next -> (¬ Doomed next <-> ok state label) := by
    intro state label next either fine _ taken
    rcases splits state label next (either.resolve_right fine) taken with
      ⟨holds, good⟩ | ⟨fails, doomed⟩
    · exact iff_of_true (apart next good) holds
    · exact iff_of_false (not_not.mpr doomed) fails
  rw [← machine.everyState_iff_allSteps (fun state label next either _ => kept state label next either)
    decides (Or.inl start) (apart state start)
    (machine.allSteps_of_forall (fun _ _ => trivial) state labels) ran]
  constructor
  · exact machine.everyState_of_final kept
      (fun state label next _ doomed => stays state label next doomed) (Or.inl start) ran
  · exact fun every => machine.everyState_final every ran

/-- What two neighbouring states of a run imply about the step between them
holds of every step of the run. -/
theorem allSteps_of_everyState {Inv holds : State -> Prop} {assumed ok : State -> Label -> Prop}
    (kept : forall state label next, Inv state -> assumed state label ->
      machine.step state label = some next -> Inv next)
    (implied : forall state label next, Inv state -> holds state -> assumed state label ->
      machine.step state label = some next -> holds next -> ok state label)
    {state final : State} {labels : List Label} (start : Inv state)
    (conditioned : machine.AllSteps assumed state labels)
    (ran : machine.run state labels = some final) (every : machine.EveryState holds state labels) :
    machine.AllSteps ok state labels := by
  induction labels generalizing state with
  | nil => exact trivial
  | cons label labels inductionHypothesis =>
      rcases (run_cons_iff machine state final label labels).mp ran with ⟨next, taken, rest⟩
      have after := every.2 next taken
      refine ⟨implied state label next start every.1 conditioned.1 taken
        (machine.everyState_start after), fun other same => ?_⟩
      rw [taken] at same
      cases same
      exact inductionHypothesis (kept state label next start conditioned.1 taken)
        (conditioned.2 next taken) rest after

/-- A property that follows from a stronger one, which the conditioned steps keep, and that
holds on both sides of a conditioned step only. -/
theorem everyState_iff_of_stronger {Inv stronger holds : State -> Prop} {ok : State -> Label -> Prop}
    (kept : forall state label next, Inv state -> machine.step state label = some next -> Inv next)
    (strong : forall state label next, stronger state -> ok state label ->
      machine.step state label = some next -> stronger next)
    (weaken : forall state, stronger state -> holds state)
    (implied : forall state label next, Inv state -> holds state ->
      machine.step state label = some next -> holds next -> ok state label)
    {state final : State} {labels : List Label} (start : Inv state) (strongStart : stronger state)
    (ran : machine.run state labels = some final) :
    machine.EveryState holds state labels <-> machine.AllSteps ok state labels := by
  constructor
  · exact machine.allSteps_of_everyState (fun state label next inv _ taken => kept state label next inv taken)
      (fun state label next inv before _ taken after => implied state label next inv before taken after)
      start (machine.allSteps_of_forall (fun _ _ => trivial) state labels) ran
  · intro conditioned
    exact machine.everyState_imp weaken (machine.everyState_of_allSteps strong strongStart conditioned)

/-! ## Runs that come to an end -/

section Rank

variable {Inv : State -> Prop} {ok : Label -> Prop} {rank : State -> Nat}

/-- A run of steps that lower a rank is not longer than the rank of its first state. -/
theorem length_le_of_lowers
    (lowers : forall state label next, Inv state -> ok label -> machine.step state label = some next ->
      Inv next ∧ rank next < rank state)
    {state final : State} {labels : List Label} (start : Inv state)
    (all : forall label, label ∈ labels -> ok label) (ran : machine.run state labels = some final) :
    labels.length ≤ rank state := by
  induction labels generalizing state with
  | nil => exact Nat.zero_le _
  | cons label labels inductionHypothesis =>
      rcases (run_cons_iff machine state final label labels).mp ran with ⟨next, taken, rest⟩
      rw [List.forall_mem_cons] at all
      rcases lowers state label next start all.1 taken with ⟨kept, lower⟩
      exact Nat.lt_of_le_of_lt (inductionHypothesis kept all.2 rest) lower

/-- Such steps lead to a state in which none of them is possible. -/
theorem exists_rest
    (lowers : forall state label next, Inv state -> ok label -> machine.step state label = some next ->
      Inv next ∧ rank next < rank state)
    {state : State} (start : Inv state) :
    Exists fun labels => Exists fun final => (forall label, label ∈ labels -> ok label) ∧
      machine.run state labels = some final ∧
      forall label, ok label -> machine.step final label = none := by
  induction bound : rank state using Nat.strongRecOn generalizing state with
  | _ bound inductionHypothesis =>
      by_cases resting : forall label, ok label -> machine.step state label = none
      · exact ⟨[], state, fun _ member => absurd member List.not_mem_nil, rfl, resting⟩
      · push Not at resting
        rcases resting with ⟨label, isOk, moves⟩
        rcases Option.ne_none_iff_exists'.mp moves with ⟨next, taken⟩
        rcases lowers state label next start isOk taken with ⟨kept, lower⟩
        rcases inductionHypothesis (rank next) (bound ▸ lower) kept rfl with
          ⟨labels, final, all, ran, rests⟩
        refine ⟨label :: labels, final, ?_, ?_, rests⟩
        · exact List.forall_mem_cons.mpr ⟨isOk, all⟩
        · exact (run_cons_iff machine state final label labels).mpr ⟨next, taken, ran⟩

end Rank

/-! ## Notes about a run -/

section Notes

variable {Notes : Type u} (note : State -> Label -> Notes -> Notes)

/-- The machine with notes that its steps take and on which no step depends. -/
def noting : Machine (State × Notes) Label where
  step state label := (machine.step state.1 label).map (fun next => (next, note state.1 label state.2))

theorem noting_step_iff {state next : State × Notes} {label : Label} :
    (machine.noting note).step state label = some next <->
      machine.step state.1 label = some next.1 ∧ next.2 = note state.1 label state.2 := by
  simp only [noting, Option.map_eq_some_iff]
  constructor
  · rintro ⟨after, taken, rfl⟩
    exact ⟨taken, rfl⟩
  · rintro ⟨taken, noted⟩
    exact ⟨next.1, taken, Prod.ext rfl noted.symm⟩

/-- With notes the same runs are possible. -/
theorem exists_run_noting {state final : State} {labels : List Label}
    (ran : machine.run state labels = some final) (notes : Notes) :
    Exists fun later => (machine.noting note).run (state, notes) labels = some (final, later) := by
  induction labels generalizing state notes with
  | nil =>
      cases ran
      exact ⟨notes, rfl⟩
  | cons label labels inductionHypothesis =>
      rcases (run_cons_iff machine state final label labels).mp ran with ⟨next, taken, rest⟩
      rcases inductionHypothesis rest (note state label notes) with ⟨later, ranLater⟩
      refine ⟨later, (run_cons_iff _ _ _ label labels).mpr ⟨_, ?_, ranLater⟩⟩
      exact (machine.noting_step_iff note).mpr ⟨taken, rfl⟩

end Notes

/-! ## What a run reports -/

section Trace

variable {Event : Type v} {report : State -> Label -> List Event}

/-- What the steps of the run report, one step after the other. -/
def trace (report : State -> Label -> List Event) : State -> List Label -> List Event
  | _, [] => []
  | state, label :: labels =>
      match machine.step state label with
      | none => []
      | some next => report state label ++ trace report next labels

theorem mem_trace_cons {state : State} {label : Label} {labels : List Label} {event : Event}
    (member : event ∈ machine.trace report state (label :: labels)) :
    Exists fun next => machine.step state label = some next ∧
      (event ∈ report state label ∨ event ∈ machine.trace report next labels) := by
  simp only [trace] at member
  split at member
  next => exact absurd member List.not_mem_nil
  next next taken => exact ⟨next, taken, List.mem_append.mp member⟩

/-- What a state shows is the result of what the steps have reported, if each
step changes it by what it reports. -/
theorem foldl_trace {View : Type v} {observe : State -> View} {apply : View -> Event -> View}
    (acts : forall state label next, machine.step state label = some next ->
      observe next = (report state label).foldl apply (observe state))
    {state final : State} {labels : List Label} (ran : machine.run state labels = some final) :
    observe final = (machine.trace report state labels).foldl apply (observe state) := by
  induction labels generalizing state with
  | nil => exact congrArg observe (Option.some.inj ran).symm
  | cons label labels inductionHypothesis =>
      rcases (run_cons_iff machine state final label labels).mp ran with ⟨next, taken, rest⟩
      simp only [trace, taken]
      rw [List.foldl_append, ← acts state label next taken]
      exact inductionHypothesis rest

/-- An event for which every step pays out of a potential is reported at most as
often as the first state can pay. -/
theorem count_trace_le [DecidableEq Event] {Inv : State -> Prop} {potential : State -> Nat}
    {event : Event}
    (pays : forall state label next, Inv state -> machine.step state label = some next ->
      Inv next ∧ (report state label).count event + potential next ≤ potential state)
    {state : State} (start : Inv state) (labels : List Label) :
    (machine.trace report state labels).count event ≤ potential state := by
  induction labels generalizing state with
  | nil => exact Nat.zero_le _
  | cons label labels inductionHypothesis =>
      simp only [trace]
      split
      next => exact Nat.zero_le _
      next next taken =>
        rcases pays state label next start taken with ⟨kept, paid⟩
        rw [List.count_append]
        exact Nat.le_trans (Nat.add_le_add_left (inductionHypothesis kept) _) paid

/-- What holds of an event when it is reported, and is kept by every step, holds of all events at
the end of the run. -/
theorem forall_mem_trace {Inv : State -> Prop} {holds : Event -> State -> Prop}
    (kept : forall state label next, Inv state -> machine.step state label = some next -> Inv next)
    (reported : forall state label next event, Inv state -> machine.step state label = some next ->
      event ∈ report state label -> holds event next)
    (stays : forall state label next event, Inv state -> machine.step state label = some next ->
      holds event state -> holds event next)
    {state final : State} {labels : List Label} (start : Inv state)
    (ran : machine.run state labels = some final) :
    forall event, event ∈ machine.trace report state labels -> holds event final := by
  induction labels generalizing state with
  | nil => exact fun event member => absurd member List.not_mem_nil
  | cons label labels inductionHypothesis =>
      rcases (run_cons_iff machine state final label labels).mp ran with ⟨next, taken, rest⟩
      have after := kept state label next start taken
      intro event member
      rcases machine.mem_trace_cons member with ⟨other, same, now | later⟩
      · have both : forall state label next, Inv state ∧ holds event state ->
            machine.step state label = some next -> Inv next ∧ holds event next :=
          fun state label next inv taken =>
            ⟨kept state label next inv.1 taken, stays state label next event inv.1 taken inv.2⟩
        exact (machine.run_invariant both
          ⟨after, reported state label next event start taken now⟩ rest).2
      · rw [taken] at same
        cases same
        exact inductionHypothesis after rest event later

/-- A queue between two reports.  What has entered it has left it again, in the same order, or is
still there. -/
theorem trace_queue {Inv : State -> Prop} {ok : State -> Label -> Prop}
    {enters leaves : State -> Label -> List Event} {queue : State -> List Event}
    (kept : forall state label next, Inv state -> ok state label ->
      machine.step state label = some next -> Inv next)
    (moves : forall state label next, Inv state -> ok state label ->
      machine.step state label = some next ->
      queue state ++ enters state label = leaves state label ++ queue next)
    {state final : State} {labels : List Label} (start : Inv state)
    (conditioned : machine.AllSteps ok state labels) (ran : machine.run state labels = some final) :
    queue state ++ machine.trace enters state labels =
      machine.trace leaves state labels ++ queue final := by
  induction labels generalizing state with
  | nil =>
      cases ran
      exact List.append_nil _
  | cons label labels inductionHypothesis =>
      rcases (run_cons_iff machine state final label labels).mp ran with ⟨next, taken, rest⟩
      simp only [trace, taken]
      rw [← List.append_assoc, moves state label next start conditioned.1 taken, List.append_assoc,
        List.append_assoc,
        inductionHypothesis (kept state label next start conditioned.1 taken)
          (conditioned.2 next taken) rest]

/-- The events of one kind in a report. -/
theorem trace_filter (select : Event -> Bool) (state : State) (labels : List Label) :
    machine.trace (fun state label => (report state label).filter select) state labels =
      (machine.trace report state labels).filter select := by
  induction labels generalizing state with
  | nil => rfl
  | cons label labels inductionHypothesis =>
      simp only [trace]
      split
      next => rfl
      next next taken => rw [List.filter_append, inductionHypothesis]

/-- A state from which no step reports a certain event, now or later. -/
theorem trace_silent {holds closed : State -> Prop} {early : Event -> Prop}
    (stays : forall state label next, holds state -> closed state ->
      machine.step state label = some next -> closed next)
    (silent : forall state label next event, holds state -> closed state ->
      machine.step state label = some next -> event ∈ report state label -> ¬ early event)
    {state : State} {labels : List Label} (every : machine.EveryState holds state labels)
    (isClosed : closed state) (event : Event) (member : event ∈ machine.trace report state labels) :
    ¬ early event := by
  induction labels generalizing state with
  | nil => exact absurd member List.not_mem_nil
  | cons label labels inductionHypothesis =>
      rcases machine.mem_trace_cons member with ⟨next, taken, now | later⟩
      · exact silent state label next event every.1 isClosed taken now
      · exact inductionHypothesis (every.2 next taken) (stays state label next every.1 isClosed taken)
          later

/-- Events of one kind are reported before those of another kind, if the second
kind is only reported where the first one is over. -/
theorem trace_inOrder {holds closed : State -> Prop} {early late : Event -> Prop}
    (closes : forall state label next event, holds state ->
      machine.step state label = some next -> event ∈ report state label -> late event ->
      closed state)
    (stays : forall state label next, holds state -> closed state ->
      machine.step state label = some next -> closed next)
    (silent : forall state label next event, holds state -> closed state ->
      machine.step state label = some next -> event ∈ report state label -> ¬ early event)
    {state : State} {labels : List Label} (every : machine.EveryState holds state labels) :
    (machine.trace report state labels).Pairwise (fun first second =>
      late first -> ¬ early second) := by
  induction labels generalizing state with
  | nil => exact List.Pairwise.nil
  | cons label labels inductionHypothesis =>
      simp only [trace]
      split
      next => exact List.Pairwise.nil
      next next taken =>
        have rest := every.2 next taken
        apply List.pairwise_append.mpr
        refine ⟨?_, inductionHypothesis rest, ?_⟩
        · apply List.pairwise_of_forall_mem_list
          intro first firstNow second secondNow isLate
          exact silent state label next second every.1
            (closes state label next first every.1 taken firstNow isLate) taken secondNow
        · intro first firstNow second secondLater isLate
          have isClosed := closes state label next first every.1 taken firstNow isLate
          exact machine.trace_silent stays silent rest
            (stays state label next every.1 isClosed taken) second secondLater

end Trace

end Machine
end Foundations
