import V2x.ThreadPool.Lifecycle

namespace V2x
namespace ThreadPool

open Foundations

/-!
# Whom a shutdown waits for

`ThreadPoolExitHandle` is to join the threads of the pool before it destroys the
lock and the semaphore.  Then no thread stands at one of them later on, and no
job is running when the caller returns.

A handler that is called for at least one thread has joined none of them when it
comes to `pthread_mutex_destroy`.  As long as no such handler gets there, either
the pool is served by live objects, or no thread was ever created.
-/

variable {F X : Type}

/-! ## What is asked of a shutdown -/

/-- No thread has taken a job that it has not finished. -/
def PoolState.JobFree (state : PoolState F X) : Prop :=
  forall pc, pc ∈ state.threads -> pc.serial? = none

/-- Who reaches `pthread_mutex_destroy` has joined the threads of the pool, and no job is left
when `ThreadPoolInit` or `ThreadPoolDeinit` returns from its handler.  A `ThreadPoolDeinit`
without a pool returns at once. -/
def WaitsForWorkers (state : LifeState F X) : LifeLabel F X -> Prop
  | .exitHandle => forall caller handle, state.exiting = some (caller, handle) ->
      handle.pc = .destroyLock -> Waited state.shared.pool handle
  | .returned _ => forall caller handle, state.exiting = some (caller, handle) ->
      handle.pc = .finished -> state.shared.pool.JobFree
  | .deinit => state.exiting = none -> state.shared.pool.isInit = false ->
      state.shared.pool.JobFree
  | _ => True

/-- No thread stands at an operation on the lock or the semaphore that is not there. -/
def UsesLive (state : LifeState F X) : Prop :=
  forall pc, pc ∈ state.shared.pool.threads ->
    (pc = .idleSection ∨ pc = .dequeueSection -> state.shared.pool.lockLive = true) ∧
    (pc = .semWait -> state.shared.pool.semLive = true)

/-- Who reaches `pthread_mutex_destroy` was called for no thread. -/
def DestroysForNone (state : LifeState F X) : LifeLabel F X -> Prop
  | .exitHandle => forall caller handle, state.exiting = some (caller, handle) ->
      handle.pc = .destroyLock -> handle.num = 0
  | _ => True

/-! ## The joins of one handler -/

theorem LifeInv.waited_iff {state : LifeState F X} (inv : LifeInv state) {caller : ExitCaller}
    {handle : ExitHandle} (exits : state.exiting = some (caller, handle))
    (destroying : handle.pc.Destroying) : Waited state.shared.pool handle <-> handle.num = 0 := by
  rcases inv.crew with ⟨base, crew⟩
  have size : state.crewSize = handle.num := by
    simp only [LifeState.crewSize, exits]
  rw [size] at crew
  exact ThreadPool.waited_iff crew (inv.joins caller handle exits) destroying

/-! ## The pools that such handlers leave -/

/-- No thread was created, and the pool was not started. -/
structure Deserted (state : LifeState F X) : Prop where
  threads : state.shared.pool.threads = []
  isInit : state.shared.pool.isInit = false

/-- The lock and the semaphore are there.  A handler was called for at least one thread and has
destroyed nothing, and without a handler the pool has been started. -/
structure Equipped (state : LifeState F X) : Prop where
  lockLive : state.shared.pool.lockLive = true
  semLive : state.shared.pool.semLive = true
  serving : state.exiting = none ->
    state.shared.pool.isInit = true ∧ 0 < state.shared.pool.maxThreadNum
  waiting : forall caller handle, state.exiting = some (caller, handle) ->
    0 < handle.num ∧ handle.pc.destroys = 0

theorem Deserted.jobFree {state : LifeState F X} (deserted : Deserted state) :
    state.shared.pool.JobFree := by
  intro pc member
  rw [deserted.threads] at member
  cases member

theorem Deserted.congr {state next : LifeState F X} (deserted : Deserted state)
    (length : next.shared.pool.threads.length = state.shared.pool.threads.length)
    (isInit : next.shared.pool.isInit = state.shared.pool.isInit) : Deserted next := by
  refine ⟨?_, isInit.trans deserted.isInit⟩
  rw [deserted.threads] at length
  exact List.length_eq_zero_iff.mp length

theorem Equipped.congr {state next : LifeState F X} (equipped : Equipped state)
    (objects : KeepsObjects state.shared.pool next.shared.pool)
    (exiting : next.exiting = state.exiting)
    (isInit : next.shared.pool.isInit = state.shared.pool.isInit)
    (maxThreadNum : next.shared.pool.maxThreadNum = state.shared.pool.maxThreadNum) :
    Equipped next where
  lockLive := objects.lockLive.trans equipped.lockLive
  semLive := objects.semLive.trans equipped.semLive
  serving := by
    rw [exiting, isInit, maxThreadNum]
    exact equipped.serving
  waiting := by
    rw [exiting]
    exact equipped.waiting

theorem poolStep_objects {state next : SharedPool F X} {label : PoolLabel F X}
    (stepped : poolStep state label = some next) : KeepsObjects state.pool next.pool := by
  cases poolStep_cases stepped with
  | rejects | enters => exact ⟨rfl, rfl⟩
  | adds adder isHolder added =>
      rcases adder with ⟨caller, pc⟩
      cases addStep_cases added <;> exact ⟨rfl, rfl⟩
  | moves label pool moved => exact backgroundStep_objects moved

/-- In front of `pthread_mutex_destroy` the handler leaves the lock and the semaphore alone. -/
theorem exitStep_objects {state next : PoolState F X} {handle after : ExitHandle}
    (stepped : exitStep state handle = some (next, after)) (early : handle.pc.destroys = 0)
    (elsewhere : handle.pc ≠ .destroyLock) : KeepsObjects state next ∧ after.pc.destroys = 0 := by
  rcases handle with ⟨num, pc, joined, destroys⟩
  cases pc with
  | stop | post =>
      cases stepped
      exact ⟨⟨rfl, rfl⟩, rfl⟩
  | loopTest idx =>
      cases stepped
      refine ⟨⟨rfl, rfl⟩, ?_⟩
      simp only [ExitHandle.goto]
      split <;> rfl
  | join idx =>
      simp only [exitStep] at stepped
      split at stepped
      · cases stepped
        exact ⟨⟨rfl, rfl⟩, rfl⟩
      · cases stepped
  | destroyLock => exact absurd rfl elsewhere
  | destroySem | finished => cases early

/-! ## Steps -/

namespace Deserted

variable {state next : LifeState F X}

theorem init (jobListHead : DoublyLinkedListNode Addr) : Deserted (lifeInit F X jobListHead) :=
  ⟨rfl, rfl⟩

/-- A call of `ThreadPoolInit` leaves the pool as it is, or it makes the lock and the semaphore
and then creates threads. -/
theorem initCall (deserted : Deserted state) (noHandler : state.exiting = none) {threadNum : Int}
    {granted : Bool} (case : InitCase state threadNum granted next) :
    Deserted next ∨ Equipped next := by
  cases case with
  | invalid range => exact Or.inl ⟨deserted.threads, deserted.isInit⟩
  | already range isInit => cases deserted.isInit.symm.trans isInit
  | failed range isInit pool ret notGranted nonzero stays threads threadId =>
      exact Or.inl ⟨threads.trans deserted.threads, stays⟩
  | started range isInit pool isGranted becomes running size threads crew objects =>
      refine Or.inr ⟨objects.1, objects.2, fun _ => ⟨becomes, ?_⟩, ?_⟩
      · change 0 < pool.maxThreadNum
        rw [size]
        exact range.1
      · intro caller handle exits
        cases noHandler.symm.trans exits
  | exiting range isInit pool num ret begun notGranted nonzero stays crew objects =>
      cases num with
      | zero =>
          refine Or.inl ⟨?_, stays⟩
          have noThread := crew.length
          rw [deserted.threads] at noThread
          exact List.length_eq_zero_iff.mp noThread
      | succ num =>
          refine Or.inr ⟨objects.1, objects.2, nofun, ?_⟩
          rintro caller handle ⟨⟩
          exact ⟨Nat.succ_pos num, rfl⟩

/-- No thread is created, or `ThreadPoolInit` makes a pool with objects and threads. -/
theorem step (deserted : Deserted state) (inv : LifeInv state) {label : LifeLabel F X}
    (stepped : lifeStep state label = some next) : Deserted next ∨ Equipped next := by
  cases lifeStep_cases stepped with
  | adds label shared noHandler taken =>
      have change := (poolStep_change inv.passed taken).1
      exact Or.inl (deserted.congr change.length change.isInit)
  | inits threadNum outcome next noHandler unlocked called =>
      exact deserted.initCall noHandler (initCall_cases inv.ids_lt called)
  | deinits noHandler unlocked =>
      simp only [deinitCall, deserted.isInit, Bool.false_eq_true, if_false]
      exact Or.inl ⟨deserted.threads, deserted.isInit⟩
  | handles caller handle after pool exits taken =>
      have change := exitStep_change taken
      exact Or.inl (deserted.congr (congrArg List.length change.threads) change.isInit)
  | returns caller handle fuel next exits isFinished returned =>
      cases caller with
      | init threadNum granted ret begun =>
          cases returned
          exact Or.inl ⟨deserted.threads, deserted.isInit⟩
      | deinit => cases deserted.isInit.symm.trans (inv.stopping handle exits)
  | moves label pool taken =>
      have change := backgroundStep_change taken
      exact Or.inl (deserted.congr change.length change.isInit)

end Deserted

namespace Equipped

variable {state next : LifeState F X}

theorem not_finished (equipped : Equipped state) {caller : ExitCaller} {handle : ExitHandle}
    (exits : state.exiting = some (caller, handle)) : handle.pc ≠ .finished := by
  intro isFinished
  have early := (equipped.waiting caller handle exits).2
  rw [isFinished] at early
  cases early

/-- In a started pool `ThreadPoolInit` does nothing. -/
theorem initCall (equipped : Equipped state) (noHandler : state.exiting = none) {threadNum : Int}
    {granted : Bool} (case : InitCase state threadNum granted next) : Equipped next := by
  have started := (equipped.serving noHandler).1
  cases case with
  | invalid range => exact equipped.congr ⟨rfl, rfl⟩ rfl rfl rfl
  | already range isInit => exact equipped.congr ⟨rfl, rfl⟩ rfl rfl rfl
  | failed _ isInit => cases started.symm.trans isInit
  | started _ isInit => cases started.symm.trans isInit
  | exiting _ isInit => cases started.symm.trans isInit

theorem deinitCall (equipped : Equipped state) (noHandler : state.exiting = none) :
    Equipped (deinitCall state) := by
  rcases equipped.serving noHandler with ⟨isInit, positive⟩
  simp only [ThreadPool.deinitCall, isInit, if_true]
  refine ⟨equipped.lockLive, equipped.semLive, nofun, ?_⟩
  rintro caller handle ⟨⟩
  refine ⟨?_, rfl⟩
  change 0 < state.shared.pool.maxThreadNum.toNat
  omega

/-- A handler that was called for a thread does not come to the destruction. -/
theorem exitStep (equipped : Equipped state) {caller : ExitCaller} {handle after : ExitHandle}
    {pool : PoolState F X} (exits : state.exiting = some (caller, handle))
    (spares : handle.pc = .destroyLock -> handle.num = 0)
    (taken : exitStep state.shared.pool handle = some (pool, after)) :
    Equipped { state.withPool pool with exiting := some (caller, after) } := by
  rcases equipped.waiting caller handle exits with ⟨positive, early⟩
  have elsewhere : handle.pc ≠ .destroyLock :=
    fun destroying => absurd (spares destroying) (Nat.ne_of_gt positive)
  rcases exitStep_objects taken early elsewhere with ⟨objects, stillEarly⟩
  refine ⟨objects.lockLive.trans equipped.lockLive, objects.semLive.trans equipped.semLive, nofun, ?_⟩
  rintro other otherHandle ⟨⟩
  exact ⟨(exitStep_change taken).num.symm ▸ positive, stillEarly⟩

theorem step (equipped : Equipped state) (inv : LifeInv state) {label : LifeLabel F X}
    (spares : DestroysForNone state label) (stepped : lifeStep state label = some next) :
    Equipped next := by
  cases lifeStep_cases stepped with
  | adds label shared noHandler taken =>
      have change := (poolStep_change inv.passed taken).1
      exact equipped.congr (poolStep_objects taken) rfl change.isInit change.maxThreadNum
  | inits threadNum outcome next noHandler unlocked called =>
      exact equipped.initCall noHandler (initCall_cases inv.ids_lt called)
  | deinits noHandler unlocked => exact equipped.deinitCall noHandler
  | handles caller handle after pool exits taken =>
      exact equipped.exitStep exits (spares caller handle exits) taken
  | returns caller handle fuel next exits isFinished returned =>
      exact absurd isFinished (equipped.not_finished exits)
  | moves label pool taken =>
      have change := backgroundStep_change taken
      exact equipped.congr (backgroundStep_objects taken) rfl change.isInit change.maxThreadNum

end Equipped

/-- What holds in every state as long as every handler that destroys was called for no thread. -/
structure Unharmed (state : LifeState F X) : Prop where
  inv : LifeInv state
  either : Deserted state ∨ Equipped state

namespace Unharmed

variable {state next : LifeState F X} {label : LifeLabel F X}

theorem usesLive (unharmed : Unharmed state) : UsesLive state := by
  intro pc member
  rcases unharmed.either with deserted | equipped
  · rw [deserted.threads] at member
    cases member
  · exact ⟨fun _ => equipped.lockLive, fun _ => equipped.semLive⟩

theorem init (jobListHead : DoublyLinkedListNode Addr) : Unharmed (lifeInit F X jobListHead) :=
  ⟨.init jobListHead, Or.inl (.init jobListHead)⟩

theorem step (unharmed : Unharmed state) (spares : DestroysForNone state label)
    (stepped : lifeStep state label = some next) : Unharmed next := by
  refine ⟨lifeInv_step unharmed.inv stepped, ?_⟩
  rcases unharmed.either with deserted | equipped
  · exact deserted.step unharmed.inv stepped
  · exact Or.inr (equipped.step unharmed.inv spares stepped)

/-- Such a step waits for the workers. -/
theorem waits (unharmed : Unharmed state) (spares : DestroysForNone state label) :
    WaitsForWorkers state label := by
  cases label with
  | exitHandle =>
      intro caller handle exits destroying
      rw [unharmed.inv.waited_iff exits (destroying ▸ trivial)]
      exact spares caller handle exits destroying
  | returned fuel =>
      intro caller handle exits isFinished
      rcases unharmed.either with deserted | equipped
      · exact deserted.jobFree
      · exact absurd isFinished (equipped.not_finished exits)
  | deinit =>
      intro noHandler notInit
      rcases unharmed.either with deserted | equipped
      · exact deserted.jobFree
      · cases notInit.symm.trans (equipped.serving noHandler).1
  | add | init | background => exact trivial

end Unharmed

/-! ## The handler waits for no one -/

/-- In a run of the whole life of the pool every handler that destroys the lock has joined its
threads, no thread uses a lock or a semaphore that is not there, and no job is left when the
caller of a handler returns, exactly if each handler that destroys was called for no thread.  Of
the joins alone this can be said of each handler, whatever happened before. -/
theorem exitHandle_waits_iff (jobListHead : DoublyLinkedListNode Addr)
    (labels : List (LifeLabel F X)) :
    ((lifecycle F X).AllSteps WaitsForWorkers (lifeInit F X jobListHead) labels ∧
        (lifecycle F X).EveryState UsesLive (lifeInit F X jobListHead) labels <->
      (lifecycle F X).AllSteps DestroysForNone (lifeInit F X jobListHead) labels) ∧
    forall final caller handle,
      (lifecycle F X).run (lifeInit F X jobListHead) labels = some final ->
      final.exiting = some (caller, handle) -> handle.pc.Destroying ->
      (Waited final.shared.pool handle <-> handle.num = 0) := by
  refine ⟨⟨?_, fun spares => ⟨?_, ?_⟩⟩, ?_⟩
  · rintro ⟨waits, _⟩
    refine (lifecycle F X).allSteps_of_invariant (fun _ _ _ inv _ taken => lifeInv_step inv taken) ?_
      (LifeInv.init jobListHead) waits
    intro state label inv waited
    cases label with
    | exitHandle =>
        intro caller handle exits destroying
        rw [← inv.waited_iff exits (destroying ▸ trivial)]
        exact waited caller handle exits destroying
    | add | init | deinit | returned | background => exact trivial
  · exact (lifecycle F X).allSteps_of_invariant (fun _ _ _ unharmed => unharmed.step)
      (fun _ _ unharmed => unharmed.waits) (Unharmed.init jobListHead) spares
  · have every := (lifecycle F X).everyState_of_allSteps (fun _ _ _ unharmed => unharmed.step)
      (Unharmed.init jobListHead) spares
    exact (lifecycle F X).everyState_imp (fun _ unharmed => unharmed.usesLive) every
  · exact fun final caller handle ran exits => (lifeInv_of_run ran).waited_iff exits

/-- A pool of one worker runs a job while `ThreadPoolDeinit` goes through its
handler and returns: the id that is joined is not the worker's. -/
theorem deinit_leavesJobRunning :
    let cell : DoublyLinkedListNode Addr := ⟨none, .jobListHead, .jobListHead⟩
    let labels : List (LifeLabel Unit Unit) := [.init 1 (.success cell),
      .add (.enter 0 (some ()) (some (.block 0))), .add (.allocate 0 (some 1)),
      .add (.create 0 (some 2)), .add (.insert 0), .add (.post 0), .add (.leave 0),
      .background (.worker 0), .background (.worker 0), .background (.worker 0),
      .background (.worker 0), .background (.worker 0),
      .deinit, .exitHandle, .exitHandle, .exitHandle, .exitHandle, .exitHandle, .exitHandle,
      .exitHandle]
    Exists fun inside => Exists fun handle => Exists fun final =>
      (lifecycle Unit Unit).run (lifeInit Unit Unit cell) labels = some inside ∧
      inside.exiting = some (.deinit, handle) ∧ handle.pc = .finished ∧
      ¬ Waited inside.shared.pool handle ∧
      lifeStep inside (.returned 8) = some final ∧
      final.shared.pool.threads = [.running 0 (.block 1)] ∧ final.calls.getLast? = some (.deinit 2) ∧
      ¬ ((lifecycle Unit Unit).AllSteps WaitsForWorkers (lifeInit Unit Unit cell)
          (labels ++ [.returned 8]) ∧
        (lifecycle Unit Unit).EveryState UsesLive (lifeInit Unit Unit cell)
          (labels ++ [.returned 8])) := by
  intro cell labels
  have reached : ((lifecycle Unit Unit).run (lifeInit Unit Unit cell) labels).map
      (fun inside => (inside.exiting, inside.shared.pool.threads, inside.shared.pool.threadId 0)) =
      some (some (.deinit, ⟨1, .finished, [none], 2⟩), [.running 0 (.block 1)], some 0) := by
    decide
  have returned : ((lifecycle Unit Unit).run (lifeInit Unit Unit cell) (labels ++ [.returned 8])).map
      (fun final => (final.shared.pool.threads, final.calls.getLast?)) =
      some ([.running 0 (.block 1)], some (.deinit 2)) := by
    decide
  rcases Option.map_eq_some_iff.mp reached with ⟨inside, ran, observed⟩
  rcases Option.map_eq_some_iff.mp returned with ⟨final, ranAll, shown⟩
  simp only [Prod.mk.injEq] at observed shown
  rcases observed with ⟨exits, threads, isId⟩
  have taken : lifeStep inside (.returned 8) = some final := by
    rw [(lifecycle Unit Unit).run_snoc, ran] at ranAll
    exact ranAll
  refine ⟨inside, _, final, ran, exits, rfl, ?_, taken, shown.1, shown.2, ?_⟩
  · intro waited
    have ended := waited.ended 0 0 Nat.zero_lt_one isId
    rw [threads] at ended
    cases ended
  · rintro ⟨waits, _⟩
    have last := (((lifecycle Unit Unit).allSteps_append_iff ran _).mp waits).2.1
    have idle := last _ _ exits rfl (.running 0 (.block 1)) (threads ▸ List.mem_cons_self)
    cases idle

end ThreadPool
end V2x
