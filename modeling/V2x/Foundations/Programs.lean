import Mathlib.Logic.Basic

namespace Foundations

/-!
# Programs over system calls

A program is a tree of calls: after each call it goes on with whatever the
call answers.  What the answers are is left to a kernel, so one program can be
run by a kernel that keeps files, and by another one in which any call may
fail.  A kernel may also have no answer, which stands for undefined behaviour
or for an answer that the real system does not give.

What holds after a program is proved by one rule for each way in which programs
are built, and so is that a program follows a protocol.  A protocol serves where
other threads make calls between those of the program.
-/

/-- A computation that makes calls. -/
inductive Program (Op : Type) (Answer : Op -> Type) (α : Type) where
  | done (value : α)
  | call (op : Op) (next : Answer op -> Program Op Answer α)

/-- What the calls answer and how they change the state of the system. -/
structure Kernel (Op : Type) (Answer : Op -> Type) (State : Type) where
  answer : State -> (op : Op) -> Option (Answer op × State)

/-- The calls that a thread may make in a phase, and the phase to which an answer leads. -/
structure Protocol (Op : Type) (Answer : Op -> Type) (Phase : Type) where
  allowed : Phase -> Op -> Prop
  next : Phase -> (op : Op) -> Answer op -> Phase

namespace Program

variable {Op : Type} {Answer : Op -> Type} {State α β : Type}

def bind : Program Op Answer α -> (α -> Program Op Answer β) -> Program Op Answer β
  | .done value, rest => rest value
  | .call op next, rest => .call op (fun answer => (next answer).bind rest)

instance : Monad (Program Op Answer) where
  pure := .done
  bind := bind

/-- One call, and its answer. -/
def perform (op : Op) : Program Op Answer (Answer op) :=
  .call op .done

/-! ## Execution -/

variable (kernel : Kernel Op Answer State)

def exec : Program Op Answer α -> State -> Option (α × State)
  | .done value, state => some (value, state)
  | .call op next, state =>
      (kernel.answer state op).bind (fun answered => exec (next answered.1) answered.2)

@[simp] theorem exec_pure (value : α) (state : State) :
    exec kernel (pure value : Program Op Answer α) state = some (value, state) :=
  rfl

@[simp] theorem exec_perform (op : Op) (state : State) :
    exec kernel (perform op : Program Op Answer _) state = kernel.answer state op := by
  cases answered : kernel.answer state op with
  | none => simp only [perform, exec, answered, Option.bind_none]
  | some result => simp only [perform, exec, answered, Option.bind_some]

@[simp] theorem exec_bind (program : Program Op Answer α) (rest : α -> Program Op Answer β)
    (state : State) :
    exec kernel (program >>= rest) state =
      (exec kernel program state).bind (fun result => exec kernel (rest result.1) result.2) := by
  change exec kernel (program.bind rest) state = _
  induction program generalizing state with
  | done value => rfl
  | call op next inductionHypothesis =>
      simp only [bind, exec, Option.bind_assoc, inductionHypothesis]

theorem exec_bind_iff {program : Program Op Answer α} {rest : α -> Program Op Answer β}
    {state after : State} {result : β} :
    exec kernel (program >>= rest) state = some (result, after) <->
      Exists fun value => Exists fun middle => exec kernel program state = some (value, middle) ∧
        exec kernel (rest value) middle = some (result, after) := by
  rw [exec_bind, Option.bind_eq_some_iff]
  constructor
  · rintro ⟨⟨value, middle⟩, first, second⟩
    exact ⟨value, middle, first, second⟩
  · rintro ⟨value, middle, first, second⟩
    exact ⟨⟨value, middle⟩, first, second⟩

theorem exec_ite (condition : Prop) [Decidable condition] (first second : Program Op Answer α)
    (state : State) :
    exec kernel (if condition then first else second) state =
      if condition then exec kernel first state else exec kernel second state := by
  split <;> rfl

/-- Where every call has an answer, the program comes to its end. -/
theorem exists_exec_of_total {kernel : Kernel Op Answer State}
    (total : forall state op, (kernel.answer state op).isSome) (program : Program Op Answer α)
    (state : State) : Exists fun result => exec kernel program state = some result := by
  induction program generalizing state with
  | done value => exact ⟨(value, state), rfl⟩
  | call op next inductionHypothesis =>
      rcases Option.isSome_iff_exists.mp (total state op) with ⟨answered, isAnswer⟩
      rcases inductionHypothesis answered.1 answered.2 with ⟨result, ran⟩
      refine ⟨result, ?_⟩
      rw [exec, isAnswer]
      exact ran

/-! ## Answers that do not change -/

/-- The value of a program in such a system. -/
def answered (answers : (op : Op) -> Answer op) : Program Op Answer α -> α
  | .done value => value
  | .call op next => answered answers (next (answers op))

/-- A kernel that notes the calls. -/
def logged : Kernel Op Answer (State × List Op) where
  answer state op := (kernel.answer state.1 op).map (fun answered =>
    (answered.1, answered.2, state.2 ++ [op]))

theorem exec_logged (program : Program Op Answer α) (state : State) (log : List Op) :
    (exec (logged kernel) program (state, log)).map (fun result => (result.1, result.2.1)) =
      exec kernel program state := by
  induction program generalizing state log with
  | done value => rfl
  | call op next inductionHypothesis =>
      cases answered : kernel.answer state op with
      | none => simp only [exec, logged, answered, Option.map_none, Option.bind_none]
      | some result =>
          simp only [exec, logged, answered, Option.map_some, Option.bind_some]
          exact inductionHypothesis result.1 result.2 (log ++ [op])

/-! ## Conditions before and after a program -/

/-- Where the program is begun under the first condition and ends, it ends with a value and a
state under the second one. -/
def Meets (before : State -> Prop) (program : Program Op Answer α) (after : α -> State -> Prop) : Prop :=
  forall state value final, before state -> exec kernel program state = some (value, final) ->
    after value final

section Rules

variable {kernel} {before : State -> Prop} {after : α -> State -> Prop}

theorem meets_pure {value : α} (holds : forall state, before state -> after value state) :
    Meets kernel before (pure value) after := by
  intro state result final start ran
  cases ran
  exact holds state start

theorem meets_perform {op : Op} {after : Answer op -> State -> Prop}
    (holds : forall state answered, before state -> kernel.answer state op = some answered ->
      after answered.1 answered.2) :
    Meets kernel before (perform op) after := by
  intro state value final start ran
  rw [exec_perform] at ran
  exact holds state (value, final) start ran

theorem meets_bind {program : Program Op Answer α} {rest : α -> Program Op Answer β}
    {middle : α -> State -> Prop} {after : β -> State -> Prop} (first : Meets kernel before program middle)
    (second : forall value, Meets kernel (middle value) (rest value) after) :
    Meets kernel before (program >>= rest) after := by
  intro state result final start ran
  rcases (exec_bind_iff kernel).mp ran with ⟨value, between, ranFirst, ranRest⟩
  exact second value between result final (first state value between start ranFirst) ranRest

theorem meets_ite {condition : Prop} [Decidable condition] {first second : Program Op Answer α}
    (isFirst : condition -> Meets kernel before first after)
    (isSecond : ¬ condition -> Meets kernel before second after) :
    Meets kernel before (if condition then first else second) after := by
  split
  next holds => exact isFirst holds
  next fails => exact isSecond fails

/-- What does not depend on the state can be assumed. -/
theorem meets_of_fact {fact : Prop} {program : Program Op Answer α}
    (meets : fact -> Meets kernel before program after) :
    Meets kernel (fun state => fact ∧ before state) program after :=
  fun state value final start ran => meets start.1 state value final start.2 ran

/-- What every call keeps, the program keeps. -/
theorem meets_of_calls {Inv : State -> Prop}
    (kept : forall state op answered, Inv state -> kernel.answer state op = some answered ->
      Inv answered.2)
    (program : Program Op Answer α) : Meets kernel Inv program (fun _ => Inv) := by
  intro state value final start ran
  induction program generalizing state with
  | done other =>
      cases ran
      exact start
  | call op next inductionHypothesis =>
      rcases Option.bind_eq_some_iff.mp ran with ⟨answered, isAnswer, rest⟩
      exact inductionHypothesis answered.1 answered.2 (kept state op answered start isAnswer) rest

end Rules

/-! ## Protocols -/

section Protocols

variable {Phase : Type} {protocol : Protocol Op Answer Phase} {ends : α -> Phase -> Prop} {phase : Phase}

/-- Whatever the answers are, the program makes allowed calls only, and it ends as it should. -/
def Follows (protocol : Protocol Op Answer Phase) (ends : α -> Phase -> Prop) :
    Phase -> Program Op Answer α -> Prop
  | phase, .done value => ends value phase
  | phase, .call op next => protocol.allowed phase op ∧
      forall answer, Follows protocol ends (protocol.next phase op answer) (next answer)

theorem follows_pure {value : α} (isEnd : ends value phase) :
    Follows protocol ends phase (pure value : Program Op Answer α) :=
  isEnd

theorem follows_call {op : Op} {rest : Answer op -> Program Op Answer α}
    (isAllowed : protocol.allowed phase op)
    (next : forall answer, Follows protocol ends (protocol.next phase op answer) (rest answer)) :
    Follows protocol ends phase (perform op >>= rest) :=
  ⟨isAllowed, next⟩

theorem follows_bind {program : Program Op Answer α} {rest : α -> Program Op Answer β}
    {middle : α -> Phase -> Prop} {ends : β -> Phase -> Prop}
    (first : Follows protocol middle phase program)
    (second : forall value later, middle value later -> Follows protocol ends later (rest value)) :
    Follows protocol ends phase (program >>= rest) := by
  change Follows protocol ends phase (program.bind rest)
  induction program generalizing phase with
  | done value => exact second value phase first
  | call op next inductionHypothesis =>
      exact ⟨first.1, fun answer => inductionHypothesis answer (first.2 answer)⟩

theorem follows_ite {condition : Prop} [Decidable condition] {first second : Program Op Answer α}
    (isFirst : condition -> Follows protocol ends phase first)
    (isSecond : ¬ condition -> Follows protocol ends phase second) :
    Follows protocol ends phase (if condition then first else second) := by
  split
  next holds => exact isFirst holds
  next fails => exact isSecond fails

end Protocols

end Program
end Foundations
