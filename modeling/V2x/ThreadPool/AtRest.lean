import Mathlib.Algebra.BigOperators.Group.Finset.Piecewise
import Mathlib.Algebra.Order.BigOperators.Group.Finset
import V2x.ThreadPool.Sections

namespace V2x
namespace ThreadPool

open Foundations
open scoped BigOperators

/-!
# A pool that is left alone

Without new calls the threads of the pool come to rest, in whatever order they
execute their statements.  Each statement uses up a part of a round, and a round
needs a unit of the semaphore.  At rest nobody is inside `ThreadPoolAddJob`, the
list is empty, and every worker waits at the semaphore.  There is no other way
to get stuck: a thread that waits for a mutex waits for one that can go on.
-/

variable {F X : Type}

/-! ## Who can go on -/

/-- Some statement of the party can be executed. -/
def CanGo (state : StatementState F X) (party : Party) : Prop :=
  Exists fun block => ((statements F X).step state (.thread party block)).isSome

/-- Nothing is left to do. -/
structure AtRest (state : StatementState F X) : Prop where
  callers : forall caller, state.callers caller = none
  workers : forall thread statement, state.workers thread = some statement ->
    statement = .semWait ∨ statement = .exited
  lock : state.lock = none
  initMutex : state.initMutex = none
  sem : state.sem = 0
  curJobNum : state.curJobNum = 0
  list : JobList state.heap [] [] []

/-- A worker that has not exited, which there is while the pool is running. -/
structure Staffed (state : StatementState F X) (thread : Nat) : Prop where
  running : state.isRunning = true
  present : Exists fun statement => state.workers thread = some statement ∧ statement ≠ .exited

section Going

variable {state : StatementState F X} {image : SharedPool F X} {nodes datas : List Addr}
  {jobs : List (ThreadPoolJobInfo F)} {thread caller : Nat}

theorem canGo_worker {statement : WorkerStatement} (at_ : state.workers thread = some statement)
    (goes : (workerStatement state thread statement).isSome) : CanGo state (.worker thread) := by
  refine ⟨none, ?_⟩
  simp only [statements, statementStep, at_, Option.bind_some]
  exact goes

theorem canGo_caller {statement : AddStatement F} (at_ : state.callers caller = some statement)
    (block : Option Nat) (goes : (addStatement state caller block statement).isSome) :
    CanGo state (.caller caller) := by
  refine ⟨block, ?_⟩
  simp only [statements, statementStep, at_, Option.bind_some]
  exact goes

/-- A worker in a section can leave it. -/
theorem canGo_inside (refines : Refines state image) (accounted : Accounted image nodes datas jobs)
    {statement : WorkerStatement} (at_ : state.workers thread = some statement)
    (inside : statement.holdsLock = true) : CanGo state (.worker thread) := by
  apply canGo_worker at_
  cases statement with
  | loopTest | lockIdle | semWait | lockDequeue | fetched | running | exited => cases inside
  | testIdle | raiseIdle | unlockIdle | lowerIdle | unlockEmpty | lowerJobs | unlockTaken => rfl
  | deleteTail =>
      rcases refines.threads with ⟨serials, places⟩
      have place := places thread
      rw [at_, Option.map_some] at place
      rcases (queueAgrees_of_accounted accounted).neverEmpty thread place with ⟨after, done⟩
      rw [refines.heap] at done
      simp only [workerStatement, done, Option.map_some, Option.isSome_some]

/-- The cell of the caller can be inserted. -/
theorem canGo_inserting (guarded : Guarded state) (refines : Refines state image)
    (accounted : Accounted image nodes datas jobs) {jobInfo : ThreadPoolJobInfo F} {tmp node : Addr}
    (at_ : state.callers caller = some (.insertHead jobInfo tmp node)) :
    CanGo state (.caller caller) := by
  have isHolder : image.initMutex = some ⟨caller, .created jobInfo tmp node⟩ :=
    refines.initMutex.trans (guarded.adder at_ rfl)
  have owns := accounted.adder
  rw [isHolder] at owns
  rcases accounted.list.push owns.2.live owns.2.isBlock owns.2.points owns.1.info owns.2.notListed
    owns.1.notListed with ⟨after, done, _⟩
  rw [refines.heap] at done
  apply canGo_caller at_ none
  simp only [addStatement, done, Option.map_some, Option.isSome_some]

/-- Who has the lock can go on. -/
theorem canGo_owner (guarded : Guarded state) (refines : Refines state image)
    (accounted : Accounted image nodes datas jobs) {party : Party} (owner : state.lock = some party) :
    CanGo state party := by
  have inside := (guarded.lock party).mp owner
  cases party with
  | worker thread =>
      rcases (Option.any_eq_true ..).mp inside with ⟨statement, at_, holds⟩
      exact canGo_inside refines accounted at_ holds
  | caller caller =>
      rcases (Option.any_eq_true ..).mp inside with ⟨statement, at_, holds⟩
      cases statement with
      | lockInit | testInit | mallocTmp | createNode | freeTmp | lockList | post | unlockInit =>
          cases holds
      | insertHead jobInfo tmp node => exact canGo_inserting guarded refines accounted at_
      | raiseJobs | unlockList => exact canGo_caller at_ none rfl

/-- While the lock is free, who has `g_initMutex` can go on. -/
theorem canGo_holder (guarded : Guarded state) (refines : Refines state image)
    (accounted : Accounted image nodes datas jobs) (free : state.lock = none) {party : Party}
    (owner : state.initMutex = some party) : CanGo state party := by
  have inside := (guarded.initMutex party).mp owner
  cases party with
  | worker thread => exact absurd inside id
  | caller caller =>
      rcases (Option.any_eq_true ..).mp inside with ⟨statement, at_, holds⟩
      cases statement with
      | lockInit => cases holds
      | testInit | mallocTmp | raiseJobs | unlockList | post | unlockInit =>
          exact canGo_caller at_ none rfl
      | createNode jobInfo tmp => exact canGo_caller at_ none rfl
      | freeTmp jobInfo tmp =>
          have isHolder : image.initMutex = some ⟨caller, .allocated jobInfo tmp⟩ :=
            refines.initMutex.trans (guarded.adder at_ rfl)
          have allocated := isSome_of_jobInfo (accounted.owned.holdsTmp isHolder).info
          rw [refines.heap] at allocated
          apply canGo_caller at_ none
          simp only [addStatement, Heap.free, allocated, if_true, Option.map_some, Option.isSome_some]
      | lockList jobInfo tmp node =>
          apply canGo_caller at_ none
          simp only [addStatement, StatementState.takeLock, free, Option.map_some, Option.isSome_some]
      | insertHead jobInfo tmp node => exact canGo_inserting guarded refines accounted at_

/-- While the lock is free, a worker can go on that neither waits for a unit of the semaphore nor
has exited. -/
theorem canGo_outside (refines : Refines state image) (accounted : Accounted image nodes datas jobs)
    (free : state.lock = none) {statement : WorkerStatement}
    (at_ : state.workers thread = some statement) (notExited : statement ≠ .exited)
    (unit : statement = .semWait -> state.sem ≠ 0) : CanGo state (.worker thread) := by
  rcases refines.threads with ⟨serials, places⟩
  have place := places thread
  rw [at_, Option.map_some] at place
  cases statement with
  | loopTest => exact canGo_worker at_ rfl
  | testIdle | raiseIdle | unlockIdle | lowerIdle | deleteTail | unlockEmpty | lowerJobs | unlockTaken =>
      exact canGo_inside refines accounted at_ rfl
  | lockIdle | lockDequeue =>
      apply canGo_worker at_
      simp only [workerStatement, StatementState.takeLock, free, Option.map_some, Option.isSome_some]
  | semWait =>
      apply canGo_worker at_
      simp only [workerStatement, if_neg (unit rfl), Option.isSome_some]
  | fetched =>
      rcases accounted.workers.holds thread (serials thread) (serialOf_at place) with
        ⟨data, jobInfo, points, info, _⟩
      rw [refines.heap] at points info
      apply canGo_worker at_
      simp only [workerStatement, points, info, Option.map_some, Option.isSome_some]
  | running cur =>
      rcases accounted.workers.holds thread (serials thread) (serialOf_at place) with
        ⟨data, jobInfo, points, info, _⟩
      rw [refines.heap] at points info
      apply canGo_worker at_
      simp only [workerStatement, points, Heap.free, isSome_of_jobInfo info, if_true, Option.map_some,
        Option.isSome_some]
  | exited => exact absurd rfl notExited

/-- The pool is stuck only when nothing is left to do, and then every job was taken. -/
theorem atRest_of_stuck (guarded : Guarded state) (refines : Refines state image)
    (accounted : Accounted image nodes datas jobs) (staffed : Staffed state thread)
    (stuck : forall party, ¬ CanGo state party) :
    AtRest state ∧ image.pool.dequeued = image.pool.accepted := by
  have lockFree : state.lock = none := by
    cases owner : state.lock with
    | none => rfl
    | some party => exact absurd (canGo_owner guarded refines accounted owner) (stuck party)
  have initFree : state.initMutex = none := by
    cases owner : state.initMutex with
    | none => rfl
    | some party => exact absurd (canGo_holder guarded refines accounted lockFree owner) (stuck party)
  have noCaller : forall caller, state.callers caller = none := by
    intro caller
    cases at_ : state.callers caller with
    | none => rfl
    | some statement =>
        cases statement with
        | lockInit jobInfo =>
            apply absurd _ (stuck (.caller caller))
            apply canGo_caller at_ none
            simp only [addStatement, StatementState.takeInit, initFree, Option.map_some,
              Option.isSome_some]
        | testInit | mallocTmp | createNode | freeTmp | lockList | insertHead | raiseJobs | unlockList
        | post | unlockInit =>
            cases (guarded.init_caller at_ rfl).symm.trans initFree
  have waits : forall worker statement, state.workers worker = some statement ->
      statement ≠ .exited -> statement = .semWait ∧ state.sem = 0 := by
    intro worker statement at_ notExited
    by_contra able
    apply stuck (.worker worker)
    exact canGo_outside refines accounted lockFree at_ notExited fun isWait none_ =>
      able ⟨isWait, none_⟩
  have noUnit : state.sem = 0 := by
    rcases staffed.present with ⟨statement, at_, notExited⟩
    exact (waits thread statement at_ notExited).2
  have noneDequeues : image.pool.threads.count .dequeueSection = 0 := by
    apply List.count_eq_zero_of_not_mem
    intro member
    rcases List.mem_iff_getElem?.mp member with ⟨worker, isPc⟩
    rcases refines.threads with ⟨serials, places⟩
    rw [places worker] at isPc
    rcases Option.map_eq_some_iff.mp isPc with ⟨statement, at_, isSection⟩
    by_cases exited : statement = .exited
    · rw [exited] at isSection
      cases isSection
    · rw [(waits worker statement at_ exited).1] at isSection
      cases isSection
  have unlocked : image.initMutex = none := by
    rw [refines.initMutex, StatementState.adder, initFree]
  -- No cell has a token left, so there is no cell.
  have empty : nodes = [] := by
    have tokens := accounted.tokens
    rw [refines.sem, noUnit, noneDequeues, unlocked] at tokens
    exact List.length_eq_zero_iff.mp tokens
  subst empty
  have noDatas : datas = [] := List.length_eq_zero_iff.mp accounted.list.nodes_length.symm
  subst noDatas
  have noJobs : jobs = [] := List.length_eq_zero_iff.mp accounted.list.datas_length.symm
  subst noJobs
  refine ⟨⟨noCaller, ?_, lockFree, initFree, noUnit, ?_, ?_⟩, ?_⟩
  · intro worker statement at_
    by_cases exited : statement = .exited
    · exact Or.inr exited
    · exact Or.inl (waits worker statement at_ exited).1
  · have counted := refines.curJobNum
    rw [StatementState.jobsDue, lockFree, accounted.counter] at counted
    exact ((Int.add_zero _).symm.trans counted.symm)
  · rw [← refines.heap]
    exact accounted.list
  · have fifo := accounted.fifo
    rw [List.reverse_nil, List.append_nil] at fifo
    exact fifo

/-- Nobody goes on from rest. -/
theorem AtRest.stuck (atRest : AtRest state) (party : Party) : ¬ CanGo state party := by
  rintro ⟨block, goes⟩
  cases party with
  | worker thread =>
      simp only [statements, statementStep] at goes
      cases at_ : state.workers thread with
      | none => simp [at_] at goes
      | some statement =>
          rcases atRest.workers thread statement at_ with rfl | rfl
          · simp [at_, workerStatement, atRest.sem] at goes
          · simp [at_, workerStatement] at goes
  | caller caller => simp [statements, statementStep, atRest.callers caller] at goes

end Going

/-! ## There is a worker -/

theorem staffed_of_threadPoolInit {pre start : PoolState F X} {threadNum : Int} {outcome : InitOutcome}
    (uninitialised : pre.isInit = false)
    (initialised : threadPoolInit pre threadNum outcome = some (.returned 0 start)) :
    Staffed start.statements pre.threads.length := by
  rcases created_of_threadPoolInit uninitialised initialised with ⟨positive, heap, _, created⟩
  rcases createWorkers_spawned created with ⟨spawned, _⟩
  have threads : start.threads = pre.threads ++ List.replicate threadNum.toNat .loopTest :=
    spawned.threads
  have some_ : 0 < threadNum.toNat := by omega
  refine ⟨spawned.isRunning, .loopTest, ?_, nofun⟩
  simp only [PoolState.statements, threads]
  rw [List.getElem?_append_right (Nat.le_refl _), Nat.sub_self,
    List.getElem?_replicate_of_lt some_]
  rfl

theorem staffed_step {state next : StatementState F X} {label : StatementLabel F X} {thread : Nat}
    (staffed : Staffed state thread) (stepped : statementStep state label = some next) :
    Staffed next thread := by
  cases statementStep_cases stepped with
  | @works worker block next old at_ taken =>
      rcases workerStatement_goes taken with ⟨new, goes⟩
      refine ⟨goes.isRunning.trans staffed.running, ?_⟩
      rw [goes.workers]
      by_cases same : thread = worker
      · subst same
        rw [Function.update_self]
        refine ⟨new, rfl, fun exited => ?_⟩
        exact Bool.false_ne_true ((goes.exits exited).symm.trans staffed.running)
      · rw [Function.update_of_ne same]
        exact staffed.present
  | adds old at_ taken =>
      rcases addStatement_goes taken with ⟨new, goes⟩
      exact ⟨goes.isRunning.trans staffed.running, goes.workers ▸ staffed.present⟩
  | rejects | calls | mallocs | frees => exact ⟨staffed.running, staffed.present⟩

/-! ## What is left to do -/

/-- Only threads below the bounds are there. -/
structure Within (workerBound callerBound : Nat) (state : StatementState F X) : Prop where
  workers : forall thread, workerBound ≤ thread -> state.workers thread = none
  callers : forall caller, callerBound ≤ caller -> state.callers caller = none

/-- The rounds and the calls that are under way, and the rounds that the semaphore pays for. -/
def StatementState.left (workerBound callerBound : Nat) (state : StatementState F X) : Nat :=
  (∑ thread ∈ Finset.range workerBound, (state.workers thread).elim 0 WorkerStatement.left) +
    (∑ caller ∈ Finset.range callerBound, (state.callers caller).elim 0 AddStatement.left) +
    13 * state.sem

/-- How a sum changes with one of its summands. -/
theorem sum_update_add {bound index : Nat} (inside : index < bound) (summand : Nat -> Nat) (value : Nat) :
    (∑ i ∈ Finset.range bound, Function.update summand index value i) + summand index =
      (∑ i ∈ Finset.range bound, summand i) + value := by
  have member := Finset.mem_range.mpr inside
  rw [Finset.sum_update_of_mem member, ← Finset.add_sum_erase _ _ member, Finset.sdiff_singleton_eq_erase]
  omega

theorem elim_update {Statement : Type} (statements : Nat -> Option Statement) (index : Nat)
    (new : Option Statement) (left : Statement -> Nat) (i : Nat) :
    (Function.update statements index new i).elim 0 left =
      Function.update (fun i => (statements i).elim 0 left) index (new.elim 0 left) i := by
  by_cases same : i = index
  · subst same
    rw [Function.update_self, Function.update_self]
  · rw [Function.update_of_ne same, Function.update_of_ne same]

section Bounds

variable {state next : StatementState F X} {label : StatementLabel F X} {workerBound callerBound : Nat}

theorem Within.thread_lowers (within : Within workerBound callerBound state) {party : Party}
    {block : Option Nat} (stepped : statementStep state (.thread party block) = some next) :
    Within workerBound callerBound next ∧
      next.left workerBound callerBound < state.left workerBound callerBound := by
  cases statementStep_cases stepped with
  | @works thread _ _ old at_ taken =>
      rcases workerStatement_goes taken with ⟨new, goes⟩
      have inside : thread < workerBound := by
        by_contra beyond
        rw [within.workers thread (Nat.not_lt.mp beyond)] at at_
        cases at_
      refine ⟨⟨fun other beyond => ?_, goes.callers ▸ within.callers⟩, ?_⟩
      · rw [goes.workers, Function.update_of_ne (by omega)]
        exact within.workers other beyond
      · have moved := sum_update_add inside
          (fun thread => (state.workers thread).elim 0 WorkerStatement.left) new.left
        have less := goes.left
        simp only [at_, Option.elim_some] at moved
        simp only [StatementState.left, goes.workers, goes.callers, elim_update, Option.elim_some]
        omega
  | @adds caller _ _ old at_ taken =>
      rcases addStatement_goes taken with ⟨new, goes⟩
      have inside : caller < callerBound := by
        by_contra beyond
        rw [within.callers caller (Nat.not_lt.mp beyond)] at at_
        cases at_
      refine ⟨⟨goes.workers ▸ within.workers, fun other beyond => ?_⟩, ?_⟩
      · rw [goes.callers, Function.update_of_ne (by omega)]
        exact within.callers other beyond
      · have moved := sum_update_add inside
          (fun caller => (state.callers caller).elim 0 AddStatement.left) (new.elim 0 AddStatement.left)
        have less := goes.left
        simp only [at_, Option.elim_some] at moved
        simp only [StatementState.left, goes.workers, goes.callers, elim_update]
        omega

/-- In every state there are finitely many threads. -/
theorem within_step (within : Within workerBound callerBound state)
    (stepped : statementStep state label = some next) :
    Exists fun callerBound => Within workerBound callerBound next := by
  cases label with
  | thread party block => exact ⟨callerBound, (within.thread_lowers stepped).1⟩
  | call caller jobFunc arg =>
      cases statementStep_cases stepped with
      | rejects => exact ⟨callerBound, within⟩
      | calls _ jobFunc arg outside =>
          refine ⟨max callerBound (caller + 1), within.workers, fun other beyond => ?_⟩
          simp only [StatementState.gotoAdd]
          rw [Function.update_of_ne (by omega)]
          exact within.callers other (by omega)
  | userMalloc index object =>
      cases statementStep_cases stepped with
      | mallocs => exact ⟨callerBound, within.workers, within.callers⟩
  | userFree address =>
      cases statementStep_cases stepped with
      | frees => exact ⟨callerBound, within.workers, within.callers⟩

end Bounds

/-! ## Every run -/

section Runs

variable {pre start : PoolState F X} {threadNum : Int} {outcome : InitOutcome}
  {labels : List (StatementLabel F X)} {state : StatementState F X}

/-- A step of a thread, neither a new call nor a step of the rest of the program. -/
def StatementLabel.IsThread : StatementLabel F X -> Prop
  | .thread _ _ => True
  | _ => False

/-- A resting pool in which every job was taken that was ever accepted. -/
def Drained (start : PoolState F X) (state : StatementState F X) : Prop :=
  AtRest state ∧ Exists fun events => Exists fun image =>
    (pool F X).run ⟨start, none⟩ events = some image ∧ Refines state image ∧
      image.pool.dequeued = image.pool.accepted

theorem within_of_run (ran : (statements F X).run start.statements labels = some state) :
    Exists fun callerBound => Within start.threads.length callerBound state := by
  apply (statements F X).run_invariant ?_ ?_ ran
  · rintro state label next ⟨callerBound, within⟩ stepped
    exact within_step within stepped
  · refine ⟨0, fun thread beyond => ?_, fun _ _ => rfl⟩
    simp only [PoolState.statements, List.getElem?_eq_none_iff.mpr beyond, Option.map_none]

theorem staffed_of_run {thread : Nat} (staffed : Staffed start.statements thread)
    (ran : (statements F X).run start.statements labels = some state) : Staffed state thread :=
  (statements F X).run_invariant (fun _ _ _ staffed stepped => staffed_step staffed stepped) staffed ran

theorem drained_of_stuck (uninitialised : pre.isInit = false)
    (noWorkers : forall pc, pc ∈ pre.threads -> pc = .exited)
    (initialised : threadPoolInit pre threadNum outcome = some (.returned 0 start))
    (ran : (statements F X).run start.statements labels = some state)
    (stuck : forall party, ¬ CanGo state party) : Drained start state := by
  have idle := idle_of_threadPoolInit uninitialised noWorkers initialised
  rcases Explained.of_run idle ran with ⟨events, image, ranImage, explained⟩
  rcases accounted_of_run idle ranImage with ⟨nodes, datas, jobs, accounted⟩
  have staffed := staffed_of_run (staffed_of_threadPoolInit uninitialised initialised) ran
  rcases atRest_of_stuck explained.guarded explained.refines accounted staffed stuck with ⟨atRest, taken⟩
  exact ⟨atRest, events, image, ranImage, explained.refines, taken⟩

/-- In every state that is reached after a successful initialisation, with no older threads left: no
thread can go on exactly if nothing is left to do.  There is no deadlock, and no job is forgotten. -/
theorem statements_stuck_iff_drained (uninitialised : pre.isInit = false)
    (noWorkers : forall pc, pc ∈ pre.threads -> pc = .exited)
    (initialised : threadPoolInit pre threadNum outcome = some (.returned 0 start))
    (ran : (statements F X).run start.statements labels = some state) :
    (forall party, ¬ CanGo state party) <-> Drained start state := by
  constructor
  · exact drained_of_stuck uninitialised noWorkers initialised ran
  · exact fun drained => drained.1.stuck

/-- A call that has been served, and nothing else. -/
theorem statements_stuck_iff_drained_served :
    let cell : DoublyLinkedListNode Addr := ⟨none, .jobListHead, .jobListHead⟩
    let labels := callingOnce 0 1 2 ++ List.replicate 17 (.thread (.worker 0) none)
    Exists fun start => Exists fun final =>
      threadPoolInit (poolStatics Unit Unit cell) 1 (.success cell) = some (.returned 0 start) ∧
      (statements Unit Unit).run start.statements labels = some final ∧
      final.workers 0 = some .semWait ∧
      ((forall party, ¬ CanGo final party) <-> Drained start final) := by
  intro cell labels
  have reached : ((threadPoolInit (poolStatics Unit Unit cell) 1 (.success cell)).bind
      InitResult.started).bind (fun start => ((statements Unit Unit).run start.statements labels).map
        (fun final => final.workers 0)) = some (some .semWait) := by
    decide +kernel
  rcases InitResult.exists_run reached with ⟨start, final, done, ran, waits⟩
  exact ⟨start, final, done, ran, waits, statements_stuck_iff_drained rfl
    (fun pc member => absurd member List.not_mem_nil) done ran⟩

/-- From every such state the threads make a bounded number of steps, if no caller comes, and some
order of these steps ends with nothing left to do. -/
theorem statements_comeToRest (uninitialised : pre.isInit = false)
    (noWorkers : forall pc, pc ∈ pre.threads -> pc = .exited)
    (initialised : threadPoolInit pre threadNum outcome = some (.returned 0 start))
    (ran : (statements F X).run start.statements labels = some state) :
    (Exists fun bound => forall more final, (forall label, label ∈ more -> label.IsThread) ->
      (statements F X).run state more = some final -> more.length ≤ bound) ∧
    Exists fun more => Exists fun final => (forall label, label ∈ more -> label.IsThread) ∧
      (statements F X).run state more = some final ∧ Drained start final := by
  rcases within_of_run ran with ⟨callerBound, within⟩
  have lowers : forall (state : StatementState F X) label next,
      Within start.threads.length callerBound state -> label.IsThread ->
      (statements F X).step state label = some next ->
      Within start.threads.length callerBound next ∧
        next.left start.threads.length callerBound < state.left start.threads.length callerBound := by
    intro state label next within isThread stepped
    cases label with
    | thread party block => exact within.thread_lowers stepped
    | call | userMalloc | userFree => exact absurd isThread id
  constructor
  · exact ⟨_, fun more final all ranMore => (statements F X).length_le_of_lowers lowers within all ranMore⟩
  · rcases (statements F X).exists_rest lowers within with ⟨more, final, all, ranMore, rests⟩
    refine ⟨more, final, all, ranMore, drained_of_stuck uninitialised noWorkers initialised
      (((statements F X).run_append_iff _ _ labels more).mpr ⟨state, ran, ranMore⟩) ?_⟩
    rintro party ⟨block, goes⟩
    rw [rests (.thread party block) trivial] at goes
    cases goes

/-- Two callers are in the middle of their calls. -/
theorem statements_comeToRest_twoCallers :
    let cell : DoublyLinkedListNode Addr := ⟨none, .jobListHead, .jobListHead⟩
    let labels := callingOnce 0 1 2 ++ (callingOnce 1 3 4).take 7
    Exists fun start => Exists fun state =>
      threadPoolInit (poolStatics Unit Unit cell) 2 (.success cell) = some (.returned 0 start) ∧
      (statements Unit Unit).run start.statements labels = some state ∧
      state.callers 1 = some .raiseJobs ∧
      Exists fun more => Exists fun final =>
        (statements Unit Unit).run state more = some final ∧ Drained start final := by
  intro cell labels
  have reached : ((threadPoolInit (poolStatics Unit Unit cell) 2 (.success cell)).bind
      InitResult.started).bind (fun start => ((statements Unit Unit).run start.statements labels).map
        (fun state => state.callers 1)) = some (some .raiseJobs) := by
    decide +kernel
  rcases InitResult.exists_run reached with ⟨start, state, done, ran, inside⟩
  rcases (statements_comeToRest rfl (fun pc member => absurd member List.not_mem_nil) done ran).2 with
    ⟨more, final, _, ranMore, drained⟩
  exact ⟨start, state, done, ran, inside, more, final, ranMore, drained⟩

end Runs

end ThreadPool
end V2x
