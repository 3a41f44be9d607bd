import V2x.ThreadPool.Lifecycle

namespace V2x
namespace ThreadPool

open Foundations

/-!
# The contract of the interface

`contract` says what a caller may rely on.  The pool is down until a call of
`ThreadPoolInit` has started its threads, it takes jobs until the next call of
`ThreadPoolDeinit`, and then it is down again.

`ThreadPoolDeinit` leaves `g_isInit` set.  So the calls that follow the first
`ThreadPoolDeinit` of a started pool are answered as if the pool were up, and
the contract holds of exactly those runs that make no such call.
-/

variable {F X : Type}

/-! ## The contract and the calls that break it -/

/-- The pool is down, or it serves its callers with this many threads. -/
inductive Life where
  | down
  | up (threadNum : Nat)
deriving DecidableEq, Repr

def InRange (threadNum : Int) : Prop := 0 < threadNum ∧ threadNum < threadPoolNumMax

instance (threadNum : Int) : Decidable (InRange threadNum) :=
  inferInstanceAs (Decidable (_ ∧ _))

/-- The answers that the contract allows. -/
def Life.answer : Life -> Call -> Option Life
  | .down, .init threadNum granted ret started =>
      if InRange threadNum ∧ granted then
        if ret = 0 ∧ started = threadNum.toNat then some (.up threadNum.toNat) else none
      else if ret ≠ 0 then some .down else none
  | .down, .addJob ret _ => if ret ≠ 0 then some .down else none
  | .down, .deinit destroys => if destroys = 0 then some .down else none
  | .up threadNum, .init _ _ _ _ => some (.up threadNum)
  | .up threadNum, .addJob ret workers =>
      if ret = 0 ∧ threadNum ≤ workers then some (.up threadNum) else none
  | .up _, .deinit destroys => if destroys = 2 then some .down else none

def contract : Machine Life Call where
  step := Life.answer

/-- How far the calls have come: no threads were started yet, they were started,
or `ThreadPoolDeinit` was called since. -/
inductive Stage where
  | fresh
  | started
  | closed
deriving DecidableEq, Repr

/-- The calls that may come next.  Only what a call is given counts. -/
def Stage.next : Stage -> Call -> Option Stage
  | .fresh, .init threadNum granted _ _ =>
      some (if InRange threadNum ∧ granted then .started else .fresh)
  | .fresh, .addJob _ _ => some .fresh
  | .fresh, .deinit _ => some .fresh
  | .started, .deinit _ => some .closed
  | .started, .init _ _ _ _ => some .started
  | .started, .addJob _ _ => some .started
  | .closed, .init threadNum _ _ _ => if InRange threadNum then none else some .closed
  | .closed, .addJob _ _ => none
  | .closed, .deinit _ => none

def stages : Machine Stage Call where
  step := Stage.next

/-- Every call was answered as the contract says. -/
def Conforms (calls : List Call) : Prop := (contract.run .down calls).isSome

/-- After the `ThreadPoolDeinit` of a started pool there is no further
`ThreadPoolDeinit`, no job, and no `ThreadPoolInit` with a number in range. -/
def NothingAfterDeinit (calls : List Call) : Prop := (stages.run .fresh calls).isSome

instance (calls : List Call) : Decidable (Conforms calls) :=
  inferInstanceAs (Decidable (_ = true))

instance (calls : List Call) : Decidable (NothingAfterDeinit calls) :=
  inferInstanceAs (Decidable (_ = true))

/-! ## The state of the pool at each stage -/

/-- The threads of the last initialisation are there and have not ended. -/
structure Serves (state : PoolState F X) (threadNum : Nat) : Prop where
  isRunning : state.isRunning = true
  crew : Exists fun base => state.threads.length = base + threadNum ∧
    forall pc, pc ∈ state.threads.drop base -> pc ≠ .exited

theorem Serves.workers {state : PoolState F X} {threadNum : Nat} (serves : Serves state threadNum) :
    threadNum ≤ state.workers := by
  rcases serves.crew with ⟨base, length, alive⟩
  have all : (state.threads.drop base).countP (fun pc => decide (pc ≠ .exited)) =
      (state.threads.drop base).length :=
    List.countP_eq_length.mpr (fun pc member => decide_eq_true (alive pc member))
  have split := congrArg (List.countP (fun pc => decide (pc ≠ WorkerPc.exited)))
    (List.take_append_drop base state.threads).symm
  rw [List.countP_append, all, List.length_drop, length, Nat.add_sub_cancel_left] at split
  rw [PoolState.workers, if_pos serves.isRunning, split]
  exact Nat.le_add_left _ _

theorem Serves.background {state next : PoolState F X} {threadNum : Nat}
    (serves : Serves state threadNum) (change : BackgroundChange state next) :
    Serves next threadNum := by
  rcases serves.crew with ⟨base, length, alive⟩
  exact ⟨change.isRunning.trans serves.isRunning, base, change.length.trans length,
    change.alive serves.isRunning base alive⟩

/-- The pool as the contract and the stage describe it. -/
inductive Matches (state : LifeState F X) : Life -> Stage -> Prop where
  | fresh (isInit : state.shared.pool.isInit = false) : Matches state .down .fresh
  | started (threadNum : Nat) (isInit : state.shared.pool.isInit = true)
      (serves : state.exiting = none -> Serves state.shared.pool threadNum) :
      Matches state (.up threadNum) .started
  | closed (isInit : state.shared.pool.isInit = true) : Matches state .down .closed

/-- The calls so far were answered and the state matches, or there was one that
the contract and the stage both refuse. -/
inductive Agreed (state : LifeState F X) : Prop where
  | answered (life : Life) (stage : Stage)
      (lived : contract.run .down state.calls = some life)
      (staged : stages.run .fresh state.calls = some stage) (same : Matches state life stage)
  | refused (lived : contract.run .down state.calls = none)
      (staged : stages.run .fresh state.calls = none)

section Agreed

variable {state next : LifeState F X} {life : Life} {stage : Stage}

theorem Agreed.recorded {call : Call} (lived : contract.run .down state.calls = some life)
    (staged : stages.run .fresh state.calls = some stage)
    (calls : next.calls = state.calls ++ [call])
    (outcome : (Exists fun life' => Exists fun stage' => life.answer call = some life' ∧
        stage.next call = some stage' ∧ Matches next life' stage') ∨
      (life.answer call = none ∧ stage.next call = none)) : Agreed next := by
  have livedNext : contract.run .down next.calls = life.answer call := by
    rw [calls, Machine.run_snoc, lived]
    rfl
  have stagedNext : stages.run .fresh next.calls = stage.next call := by
    rw [calls, Machine.run_snoc, staged]
    rfl
  rcases outcome with ⟨life', stage', answered, may, same⟩ | ⟨refused, mayNot⟩
  · exact .answered life' stage' (livedNext.trans answered) (stagedNext.trans may) same
  · exact .refused (livedNext.trans refused) (stagedNext.trans mayNot)

theorem Agreed.silent (lived : contract.run .down state.calls = some life)
    (staged : stages.run .fresh state.calls = some stage) (calls : next.calls = state.calls)
    (same : Matches next life stage) : Agreed next :=
  .answered life stage (calls ▸ lived) (calls ▸ staged) same

/-- A step that records no call. -/
theorem Agreed.unrecorded (agreed : Agreed state) (calls : next.calls = state.calls)
    (same : forall life stage, Matches state life stage -> Matches next life stage) :
    Agreed next := by
  cases agreed with
  | answered life stage lived staged matching =>
      exact .silent lived staged calls (same life stage matching)
  | refused lived staged => exact .refused (calls ▸ lived) (calls ▸ staged)

/-- A step that records one call. -/
theorem Agreed.step (agreed : Agreed state) (call : Call)
    (calls : next.calls = state.calls ++ [call])
    (outcome : forall life stage, Matches state life stage ->
      (Exists fun life' => Exists fun stage' => life.answer call = some life' ∧
        stage.next call = some stage' ∧ Matches next life' stage') ∨
      (life.answer call = none ∧ stage.next call = none)) : Agreed next := by
  cases agreed with
  | answered life stage lived staged matching =>
      exact .recorded lived staged calls (outcome life stage matching)
  | refused lived staged =>
      exact .refused (calls ▸ contract.run_append_none lived [call])
        (calls ▸ stages.run_append_none staged [call])

end Agreed

/-! ## Every step agrees -/

section Steps

variable {state next : LifeState F X}

/-- Nothing but `isInit`, the handler and the threads counts. -/
theorem Matches.congr {life : Life} {stage : Stage} (matching : Matches state life stage)
    (isInit : next.shared.pool.isInit = state.shared.pool.isInit)
    (serves : forall threadNum, state.shared.pool.isInit = true ->
      (state.exiting = none -> Serves state.shared.pool threadNum) ->
      next.exiting = none -> Serves next.shared.pool threadNum) : Matches next life stage := by
  cases matching with
  | fresh notInit => exact .fresh (isInit.trans notInit)
  | started threadNum was serving =>
      exact .started threadNum (isInit.trans was) (serves threadNum was serving)
  | closed was => exact .closed (isInit.trans was)

/-- Before its first start the pool is down, for the contract and for the stage. -/
theorem Matches.of_notInit {life : Life} {stage : Stage} (matching : Matches state life stage)
    (notInit : state.shared.pool.isInit = false) : life = .down ∧ stage = .fresh := by
  cases matching with
  | fresh _ => exact ⟨rfl, rfl⟩
  | started threadNum was _ =>
      rw [notInit] at was
      cases was
  | closed was =>
      rw [notInit] at was
      cases was

/-- An initialised pool is up, or it was closed. -/
theorem Matches.of_isInit {life : Life} {stage : Stage} (matching : Matches state life stage)
    (isInit : state.shared.pool.isInit = true) :
    (life = .down ∧ stage = .closed) ∨
      Exists fun threadNum => life = .up threadNum ∧ stage = .started ∧
        (state.exiting = none -> Serves state.shared.pool threadNum) := by
  cases matching with
  | fresh notInit =>
      rw [isInit] at notInit
      cases notInit
  | started threadNum _ serving => exact Or.inr ⟨threadNum, rfl, rfl, serving⟩
  | closed _ => exact Or.inl ⟨rfl, rfl⟩

/-- An initialisation that fails leaves the pool as it was before its first start. -/
theorem Agreed.initFailed (agreed : Agreed state) (notInit : state.shared.pool.isInit = false)
    {threadNum ret : Int} {begun : Nat} (nonzero : ret ≠ 0)
    (calls : next.calls = state.calls ++ [.init threadNum false ret begun])
    (stays : next.shared.pool.isInit = false) : Agreed next := by
  apply agreed.step _ calls
  intro life stage matching
  rcases matching.of_notInit notInit with ⟨rfl, rfl⟩
  refine Or.inl ⟨.down, .fresh, ?_, ?_, .fresh stays⟩
  · simp only [Life.answer, nonzero, Bool.false_eq_true, and_false, if_false, ne_eq,
      not_false_eq_true, if_true]
  · simp only [Stage.next, Bool.false_eq_true, and_false, if_false]

/-- `ThreadPoolAddJob` succeeds in an initialised pool. -/
theorem agreed_leave {life : Life} {stage : Stage} (matching : Matches state life stage)
    (isInit : state.shared.pool.isInit = true) (noHandler : state.exiting = none)
    (same : Matches next life stage) :
    (Exists fun life' => Exists fun stage' =>
      life.answer (.addJob 0 state.shared.pool.workers) = some life' ∧
      stage.next (.addJob 0 state.shared.pool.workers) = some stage' ∧ Matches next life' stage') ∨
    (life.answer (.addJob 0 state.shared.pool.workers) = none ∧
      stage.next (.addJob 0 state.shared.pool.workers) = none) := by
  rcases matching.of_isInit isInit with ⟨rfl, rfl⟩ | ⟨threadNum, rfl, rfl, serving⟩
  · exact Or.inr ⟨rfl, rfl⟩
  · refine Or.inl ⟨.up threadNum, .started, ?_, rfl, same⟩
    exact if_pos ⟨rfl, (serving noHandler).workers⟩

theorem agreed_add (agreed : Agreed state) (inv : LifeInv state) (noHandler : state.exiting = none)
    {shared : SharedPool F X} {label : PoolLabel F X}
    (stepped : poolStep state.shared label = some shared) :
    Agreed { state with
      shared := shared
      calls := state.calls ++ addRecord state.shared.pool label } := by
  have change := (poolStep_change inv.passed stepped).1
  have same : forall calls life stage, Matches state life stage ->
      Matches { state with shared := shared, calls := calls } life stage := by
    intro calls life stage matching
    apply matching.congr change.isInit
    intro threadNum _ serving _
    exact (serving noHandler).background change
  cases label with
  | leave who =>
      rcases Option.bind_eq_some_iff.mp stepped with ⟨adder, isHolder, taken⟩
      have isInit : state.shared.pool.isInit = true := by
        rcases inv.passed adder isHolder with ⟨jobInfo, locked⟩ | isInit
        · simp only [addStep, locked] at taken
          cases taken
        · exact isInit
      apply agreed.step _ rfl
      exact fun life stage matching =>
        agreed_leave matching isInit noHandler (same _ life stage matching)
  | allocate who outcome =>
      by_cases isInit : state.shared.pool.isInit
      · apply agreed.unrecorded
        · change state.calls ++ (if state.shared.pool.isInit then [] else _) = state.calls
          rw [if_pos isInit, List.append_nil]
        · exact same _
      · have notInit := Bool.eq_false_iff.mpr isInit
        apply agreed.step (.addJob (-1) state.shared.pool.workers)
        · change state.calls ++ (if state.shared.pool.isInit then [] else _) = _
          rw [if_neg isInit]
        · intro life stage matching
          rcases matching.of_notInit notInit with ⟨rfl, rfl⟩
          exact Or.inl ⟨.down, .fresh, rfl, rfl, same _ _ _ matching⟩
  | enter who jobFunc arg => exact agreed.unrecorded (List.append_nil _) (same _)
  | create who outcome => exact agreed.unrecorded (List.append_nil _) (same _)
  | insert who => exact agreed.unrecorded (List.append_nil _) (same _)
  | post who => exact agreed.unrecorded (List.append_nil _) (same _)
  | background label => exact agreed.unrecorded (List.append_nil _) (same _)

theorem agreed_init (agreed : Agreed state) {threadNum : Int} {granted : Bool}
    (case : InitCase state threadNum granted next) : Agreed next := by
  cases case with
  | invalid range =>
      apply agreed.step _ rfl
      intro life stage matching
      have outside : ¬ InRange threadNum := fun inside => by
        rcases range with low | high
        · exact absurd inside.1 (Int.not_lt.mpr low)
        · exact absurd inside.2 (Int.not_lt.mpr high)
      have same : forall life stage, Matches state life stage ->
          Matches (state.record (.init threadNum granted (-3) 0)) life stage :=
        fun life stage matching => matching.congr rfl (fun _ _ serving => serving)
      refine Or.inl ⟨life, stage, ?_, ?_, same life stage matching⟩
      · cases life with
        | down =>
            simp only [Life.answer, outside, false_and, if_false, ne_eq]
            rfl
        | up num => rfl
      · cases stage with
        | fresh => simp only [Stage.next, outside, false_and, if_false]
        | started => rfl
        | closed => exact if_neg outside
  | already range isInit =>
      apply agreed.step _ rfl
      intro life stage matching
      rcases matching.of_isInit isInit with ⟨rfl, rfl⟩ | ⟨num, rfl, rfl, serving⟩
      · refine Or.inr ⟨?_, if_pos range⟩
        cases granted with
        | false =>
            simp only [Life.answer, Bool.false_eq_true, and_false, ne_eq, not_true_eq_false, if_false]
        | true =>
            have more : ¬ 0 = threadNum.toNat := by
              have positive := range.1
              omega
            have inside : InRange threadNum := range
            simp only [Life.answer, inside, more, and_self, and_false, if_true, if_false]
      · exact Or.inl ⟨.up num, .started, rfl, rfl, .started num isInit serving⟩
  | failed range isInit pool ret notGranted nonzero stays threads threadId =>
      subst notGranted
      exact agreed.initFailed isInit nonzero rfl stays
  | started range isInit pool isGranted becomes running size threads crew objects =>
      apply agreed.step _ rfl
      intro life stage matching
      subst isGranted
      have inside : InRange threadNum := range
      rcases matching.of_notInit isInit with ⟨rfl, rfl⟩
      refine Or.inl ⟨.up threadNum.toNat, .started, ?_, ?_, .started _ becomes ?_⟩
      · simp only [Life.answer, inside, and_self, if_true]
      · simp only [Stage.next, inside, and_self, if_true]
      · intro _
        refine ⟨running, state.shared.pool.threads.length, crew.length, ?_⟩
        change forall pc, pc ∈ pool.threads.drop state.shared.pool.threads.length -> pc ≠ .exited
        intro pc member
        rw [threads, List.drop_left] at member
        rw [List.eq_of_mem_replicate member]
        exact nofun
  | exiting range isInit pool num ret begun notGranted nonzero stays crew objects =>
      refine agreed.unrecorded rfl ?_
      intro life stage matching
      rcases matching.of_notInit isInit with ⟨rfl, rfl⟩
      exact .fresh stays

theorem agreed_deinit (agreed : Agreed state) : Agreed (deinitCall state) := by
  unfold deinitCall
  split
  next isInit =>
    refine agreed.unrecorded rfl ?_
    exact fun life stage matching => matching.congr rfl (fun _ _ _ none_ => by cases none_)
  next notInit =>
    apply agreed.step _ rfl
    intro life stage matching
    have isFalse := Bool.eq_false_iff.mpr notInit
    rcases matching.of_notInit isFalse with ⟨rfl, rfl⟩
    exact Or.inl ⟨.down, .fresh, rfl, rfl, .fresh isFalse⟩

theorem agreed_exitStep (agreed : Agreed state) {caller : ExitCaller} {handle after : ExitHandle}
    {pool : PoolState F X} (stepped : exitStep state.shared.pool handle = some (pool, after)) :
    Agreed { state.withPool pool with exiting := some (caller, after) } := by
  have change := exitStep_change stepped
  refine agreed.unrecorded rfl ?_
  exact fun life stage matching => matching.congr change.isInit (fun _ _ _ none_ => by cases none_)

/-- The call that has gone through the handler returns. -/
theorem agreed_afterExit (agreed : Agreed state) (inv : LifeInv state) {caller : ExitCaller}
    {handle : ExitHandle} {fuel : Nat} (exits : state.exiting = some (caller, handle))
    (finished : handle.pc = .finished)
    (returned : afterExit state caller handle fuel = some next) : Agreed next := by
  cases caller with
  | init threadNum granted ret begun =>
      cases returned
      rcases inv.failing threadNum granted ret begun handle exits with ⟨notInit, rfl, nonzero⟩
      exact agreed.initFailed notInit nonzero rfl notInit
  | deinit =>
      rcases Option.map_eq_some_iff.mp returned with ⟨done, _, rfl⟩
      have isInit := inv.stopping handle exits
      have both : handle.destroys = 2 := by
        have counted := (inv.joins .deinit handle exits).destroys
        rw [finished] at counted
        exact counted
      rw [both]
      apply agreed.step _ rfl
      intro life stage matching
      rcases matching.of_isInit isInit with ⟨rfl, rfl⟩ | ⟨num, rfl, rfl, _⟩
      · exact Or.inr ⟨rfl, rfl⟩
      · exact Or.inl ⟨.down, .closed, rfl, rfl, .closed isInit⟩

end Steps

theorem agreed_step {state next : LifeState F X} {label : LifeLabel F X} (inv : LifeInv state)
    (agreed : Agreed state) (stepped : lifeStep state label = some next) : Agreed next := by
  cases lifeStep_cases stepped with
  | adds label shared noHandler taken => exact agreed_add agreed inv noHandler taken
  | inits threadNum outcome next noHandler unlocked called =>
      exact agreed_init agreed (initCall_cases inv.ids_lt called)
  | deinits noHandler unlocked => exact agreed_deinit agreed
  | handles caller handle after pool exits taken => exact agreed_exitStep agreed taken
  | returns caller handle fuel next exits isFinished returned =>
      exact agreed_afterExit agreed inv exits isFinished returned
  | moves label pool taken =>
      have change := backgroundStep_change taken
      refine agreed.unrecorded rfl ?_
      intro life stage matching
      exact matching.congr change.isInit
        (fun _ _ serving noHandler => (serving noHandler).background change)

/-- The invariants of the pool and of its calls. -/
structure Overseen (state : LifeState F X) : Prop where
  inv : LifeInv state
  agreed : Agreed state

theorem overseen_of_run {jobListHead : DoublyLinkedListNode Addr} {labels : List (LifeLabel F X)}
    {final : LifeState F X}
    (ran : (lifecycle F X).run (lifeInit F X jobListHead) labels = some final) : Overseen final := by
  refine (lifecycle F X).run_invariant ?_ ?_ ran
  · exact fun state label next overseen taken =>
      ⟨lifeInv_step overseen.inv taken, agreed_step overseen.inv overseen.agreed taken⟩
  · exact ⟨.init jobListHead, .answered .down .fresh rfl rfl (.fresh rfl)⟩

/-- In every run from the start of the program, with any callers and workers in
between, the calls are answered as the contract says exactly if nothing follows
the `ThreadPoolDeinit` of a started pool. -/
theorem lifecycle_conforms_iff {jobListHead : DoublyLinkedListNode Addr}
    {labels : List (LifeLabel F X)} {final : LifeState F X}
    (ran : (lifecycle F X).run (lifeInit F X jobListHead) labels = some final) :
    Conforms final.calls <-> NothingAfterDeinit final.calls := by
  cases (overseen_of_run ran).agreed with
  | answered life stage lived staged matching =>
      exact iff_of_true (Option.isSome_iff_exists.mpr ⟨life, lived⟩)
        (Option.isSome_iff_exists.mpr ⟨stage, staged⟩)
  | refused lived staged =>
      rw [Conforms, NothingAfterDeinit, lived, staged]
      exact iff_of_false nofun nofun

/-- A pool is started and takes a job. -/
theorem lifecycle_conforms_iff_oneJob :
    let cell : DoublyLinkedListNode Addr := ⟨none, .jobListHead, .jobListHead⟩
    Exists fun final =>
      (lifecycle Unit Unit).run (lifeInit Unit Unit cell)
        [.init 1 (.success cell), .add (.enter 0 (some ()) (some (.block 0))),
          .add (.allocate 0 (some 1)), .add (.create 0 (some 2)), .add (.insert 0),
          .add (.post 0), .add (.leave 0)] = some final ∧
      final.calls = [.init 1 true 0 1, .addJob 0 1] ∧ Conforms final.calls := by
  intro cell
  have reached : ((lifecycle Unit Unit).run (lifeInit Unit Unit cell)
      [.init 1 (.success cell), .add (.enter 0 (some ()) (some (.block 0))),
        .add (.allocate 0 (some 1)), .add (.create 0 (some 2)), .add (.insert 0),
        .add (.post 0), .add (.leave 0)]).map LifeState.calls =
      some [.init 1 true 0 1, .addJob 0 1] := by
    decide
  rcases Option.map_eq_some_iff.mp reached with ⟨final, ran, calls⟩
  refine ⟨final, ran, calls, (lifecycle_conforms_iff ran).mpr ?_⟩
  rw [calls]
  decide

/-- After `ThreadPoolDeinit` a job is accepted that no thread will run, a new
initialisation starts no thread, and a second `ThreadPoolDeinit` destroys the
lock and the semaphore again. -/
theorem jobAfterDeinit_accepted :
    let cell : DoublyLinkedListNode Addr := ⟨none, .jobListHead, .jobListHead⟩
    Exists fun final =>
      (lifecycle Unit Unit).run (lifeInit Unit Unit cell)
        [.init 1 (.success cell), .deinit, .exitHandle, .exitHandle, .exitHandle, .exitHandle,
          .exitHandle, .exitHandle, .exitHandle, .returned 1, .background (.worker 0),
          .add (.enter 0 (some ()) (some (.block 0))), .add (.allocate 0 (some 1)),
          .add (.create 0 (some 2)), .add (.insert 0), .add (.post 0), .add (.leave 0),
          .init 1 (.success cell), .deinit, .exitHandle, .exitHandle, .exitHandle, .exitHandle,
          .returned 2] = some final ∧
      final.shared.pool.threads = [.exited] ∧
      final.calls =
        [.init 1 true 0 1, .deinit 2, .addJob 0 0, .init 1 true 0 0, .deinit 2] ∧
      ¬ Conforms final.calls := by
  intro cell
  have reached : ((lifecycle Unit Unit).run (lifeInit Unit Unit cell)
      [.init 1 (.success cell), .deinit, .exitHandle, .exitHandle, .exitHandle, .exitHandle,
        .exitHandle, .exitHandle, .exitHandle, .returned 1, .background (.worker 0),
        .add (.enter 0 (some ()) (some (.block 0))), .add (.allocate 0 (some 1)),
        .add (.create 0 (some 2)), .add (.insert 0), .add (.post 0), .add (.leave 0),
        .init 1 (.success cell), .deinit, .exitHandle, .exitHandle, .exitHandle, .exitHandle,
        .returned 2]).map (fun final => (final.shared.pool.threads, final.calls)) =
      some ([.exited],
        [.init 1 true 0 1, .deinit 2, .addJob 0 0, .init 1 true 0 0, .deinit 2]) := by
    decide
  rcases Option.map_eq_some_iff.mp reached with ⟨final, ran, observed⟩
  simp only [Prod.mk.injEq] at observed
  refine ⟨final, ran, observed.1, observed.2, ?_⟩
  rw [observed.2]
  decide

end ThreadPool
end V2x
