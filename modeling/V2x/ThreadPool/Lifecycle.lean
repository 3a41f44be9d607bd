import V2x.ThreadPool.Adding
import V2x.ThreadPool.Shutdown

namespace V2x
namespace ThreadPool

open Foundations

/-!
# The calls of the interface over the life of the program

The machine has the steps of all callers of `ThreadPoolAddJob`, complete calls
of `ThreadPoolInit` and `ThreadPoolDeinit` up to the handler they may enter, the
steps of the handler, and everything that moves besides.  All calls hold
`g_initMutex`, so they follow each other in some order.

The run records what every call was given and what it did.  The calls with
`NULL` arguments are not recorded, and neither are those for which `malloc`
failed.
-/

variable {F X : Type}

/-- A completed call.  `granted` says that every call of the system succeeds
that `ThreadPoolInit` makes in order to start `threadNum` threads, `started`
counts the threads it created, `workers` counts the threads that can take the
job, and `destroys` the objects that were destroyed. -/
inductive Call where
  | init (threadNum : Int) (granted : Bool) (ret : Int) (started : Nat)
  | addJob (ret : Int) (workers : Nat)
  | deinit (destroys : Nat)
deriving DecidableEq, Repr

def InitOutcome.grants (outcome : InitOutcome) (threadNum : Int) : Bool :=
  decide (outcome.mutexInit = 0 ∧ outcome.semInit = 0 ∧
    forall idx, idx < threadNum.toNat -> (outcome.created idx).1 = 0)

/-- The threads that have not ended, while the pool is running. -/
def PoolState.workers (state : PoolState F X) : Nat :=
  if state.isRunning then state.threads.countP (fun pc => decide (pc ≠ .exited)) else 0

/-- Who is in `ThreadPoolExitHandle`: a call of `ThreadPoolInit`, with the record
of this call, or a call of `ThreadPoolDeinit`. -/
inductive ExitCaller where
  | init (threadNum : Int) (granted : Bool) (ret : Int) (started : Nat)
  | deinit
deriving DecidableEq, Repr

structure LifeState (F X : Type) where
  shared : SharedPool F X
  exiting : Option (ExitCaller × ExitHandle)
  calls : List Call

/-- The labels carry what the calls of the system return, and for the rest of
`ThreadPoolDeinit` a bound on the length of the job list. -/
inductive LifeLabel (F X : Type) where
  | add (label : PoolLabel F X)
  | init (threadNum : Int) (outcome : InitOutcome)
  | deinit
  | exitHandle
  | returned (fuel : Nat)
  | background (label : Background X)

namespace LifeState

def record (state : LifeState F X) (call : Call) : LifeState F X :=
  { state with calls := state.calls ++ [call] }

def withPool (state : LifeState F X) (pool : PoolState F X) : LifeState F X :=
  { state with shared := { state.shared with pool := pool } }

end LifeState

/-- The records of `ThreadPoolAddJob`: it returns `0` at its end, or `-1` at the
test of `g_isInit`. -/
def addRecord (before : PoolState F X) : PoolLabel F X -> List Call
  | .leave _ => [.addJob 0 before.workers]
  | .allocate _ _ => if before.isInit then [] else [.addJob (-1) before.workers]
  | _ => []

/-- `ThreadPoolInit` under `g_initMutex`. -/
def initCall (state : LifeState F X) (threadNum : Int) (outcome : InitOutcome) :
    Option (LifeState F X) :=
  (threadPoolInit state.shared.pool threadNum outcome).map (fun result =>
    let granted := outcome.grants threadNum
    match result with
    | .returned ret pool =>
        (state.withPool pool).record (.init threadNum granted ret
          (pool.threads.length - state.shared.pool.threads.length))
    | .exiting num ret pool =>
        { state.withPool pool with
          exiting := some (.init threadNum granted ret
            (pool.threads.length - state.shared.pool.threads.length), .start num) })

/-- `ThreadPoolDeinit` up to the handler. -/
def deinitCall (state : LifeState F X) : LifeState F X :=
  if state.shared.pool.isInit then
    { state with exiting := some (.deinit, .start state.shared.pool.maxThreadNum.toNat) }
  else state.record (.deinit 0)

/-- The counters are cleared and the list is released. -/
def PoolState.cleared (state : PoolState F X) (heap : PoolHeap F X) : PoolState F X :=
  { state with curJobNum := 0, maxThreadNum := 0, idleThreadNum := 0, heap := heap }

/-- What follows the handler in its caller: `ThreadPoolInit` returns the error,
and `ThreadPoolDeinit` clears the counters and releases the list. -/
def afterExit (state : LifeState F X) (caller : ExitCaller) (handle : ExitHandle) (fuel : Nat) :
    Option (LifeState F X) :=
  match caller with
  | .init threadNum granted ret started =>
      some ({ state with exiting := none }.record (.init threadNum granted ret started))
  | .deinit =>
      (deInitDoublyLinkedListNode fuel state.shared.pool.heap (some .jobListHead)).map (fun done =>
        { state.withPool (state.shared.pool.cleared done.2) with exiting := none }.record
          (.deinit handle.destroys))

def lifeStep (state : LifeState F X) : LifeLabel F X -> Option (LifeState F X)
  | .add label =>
      if state.exiting.isSome then none
      else (poolStep state.shared label).map (fun shared =>
        { state with shared := shared, calls := state.calls ++ addRecord state.shared.pool label })
  | .init threadNum outcome =>
      if state.exiting.isSome ∨ state.shared.initMutex.isSome then none
      else initCall state threadNum outcome
  | .deinit =>
      if state.exiting.isSome ∨ state.shared.initMutex.isSome then none
      else some (deinitCall state)
  | .exitHandle =>
      state.exiting.bind (fun exiting =>
        (exitStep state.shared.pool exiting.2).map (fun done =>
          { state.withPool done.1 with exiting := some (exiting.1, done.2) }))
  | .returned fuel =>
      state.exiting.bind (fun exiting =>
        if exiting.2.pc = .finished then afterExit state exiting.1 exiting.2 fuel else none)
  | .background label =>
      (backgroundStep state.shared.pool label).map state.withPool

def lifecycle (F X : Type) : Machine (LifeState F X) (LifeLabel F X) where
  step := lifeStep

/-- The steps, one for each kind of label. -/
inductive LifeMove (state : LifeState F X) : LifeLabel F X -> LifeState F X -> Prop where
  | adds (label : PoolLabel F X) (shared : SharedPool F X) (noHandler : state.exiting = none)
      (taken : poolStep state.shared label = some shared) :
      LifeMove state (.add label)
        { state with shared := shared, calls := state.calls ++ addRecord state.shared.pool label }
  | inits (threadNum : Int) (outcome : InitOutcome) (next : LifeState F X)
      (noHandler : state.exiting = none) (unlocked : state.shared.initMutex = none)
      (called : initCall state threadNum outcome = some next) :
      LifeMove state (.init threadNum outcome) next
  | deinits (noHandler : state.exiting = none) (unlocked : state.shared.initMutex = none) :
      LifeMove state .deinit (deinitCall state)
  | handles (caller : ExitCaller) (handle after : ExitHandle) (pool : PoolState F X)
      (exits : state.exiting = some (caller, handle))
      (taken : exitStep state.shared.pool handle = some (pool, after)) :
      LifeMove state .exitHandle { state.withPool pool with exiting := some (caller, after) }
  | returns (caller : ExitCaller) (handle : ExitHandle) (fuel : Nat) (next : LifeState F X)
      (exits : state.exiting = some (caller, handle)) (isFinished : handle.pc = .finished)
      (returned : afterExit state caller handle fuel = some next) :
      LifeMove state (.returned fuel) next
  | moves (label : Background X) (pool : PoolState F X)
      (taken : backgroundStep state.shared.pool label = some pool) :
      LifeMove state (.background label) (state.withPool pool)

theorem lifeStep_cases {state next : LifeState F X} {label : LifeLabel F X}
    (stepped : lifeStep state label = some next) : LifeMove state label next := by
  have idle : forall {others : Prop}, ¬ (state.exiting.isSome ∨ others) -> state.exiting = none :=
    fun free => Option.not_isSome_iff_eq_none.mp (fun exits => free (Or.inl exits))
  have unlocked : forall {others : Prop}, ¬ (others ∨ state.shared.initMutex.isSome) ->
      state.shared.initMutex = none :=
    fun free => Option.not_isSome_iff_eq_none.mp (fun held => free (Or.inr held))
  cases label with
  | add label =>
      simp only [lifeStep] at stepped
      split at stepped
      · cases stepped
      next free =>
        rcases Option.map_eq_some_iff.mp stepped with ⟨shared, taken, rfl⟩
        exact .adds label shared (Option.not_isSome_iff_eq_none.mp free) taken
  | init threadNum outcome =>
      simp only [lifeStep] at stepped
      split at stepped
      · cases stepped
      next free => exact .inits threadNum outcome next (idle free) (unlocked free) stepped
  | deinit =>
      simp only [lifeStep] at stepped
      split at stepped
      · cases stepped
      next free =>
        cases stepped
        exact .deinits (idle free) (unlocked free)
  | exitHandle =>
      rcases Option.bind_eq_some_iff.mp stepped with ⟨⟨caller, handle⟩, exits, rest⟩
      rcases Option.map_eq_some_iff.mp rest with ⟨⟨pool, after⟩, taken, rfl⟩
      exact .handles caller handle after pool exits taken
  | returned fuel =>
      rcases Option.bind_eq_some_iff.mp stepped with ⟨⟨caller, handle⟩, exits, rest⟩
      split at rest
      next isFinished => exact .returns caller handle fuel next exits isFinished rest
      next => cases rest
  | background label =>
      rcases Option.map_eq_some_iff.mp stepped with ⟨pool, taken, rfl⟩
      exact .moves label pool taken

/-- The program before its first call. -/
def lifeInit (F X : Type) (jobListHead : DoublyLinkedListNode Addr) : LifeState F X where
  shared := ⟨poolStatics F X jobListHead, none⟩
  exiting := none
  calls := []

/-! ## What a caller of `ThreadPoolAddJob` changes -/

/-- A caller that has passed the test of `g_isInit` is inside an initialised pool. -/
def AdderPassed (state : SharedPool F X) : Prop :=
  forall adder, state.initMutex = some adder ->
    (Exists fun jobInfo => adder.pc = .locked jobInfo) ∨ state.pool.isInit = true

/-- The flags and the threads are as before. -/
structure AddChange (state next : SharedPool F X) : Prop where
  flags : KeepsFlags state.pool next.pool
  threads : next.pool.threads = state.pool.threads
  passed : AdderPassed next

theorem addStep_change {state next : SharedPool F X} {adder : Adder F} {label : PoolLabel F X}
    (passed : AdderPassed state) (isHolder : state.initMutex = some adder)
    (stepped : addStep state adder label = some next) : AddChange state next := by
  have inside : (forall jobInfo, adder.pc ≠ .locked jobInfo) -> state.pool.isInit = true := by
    intro notLocked
    rcases passed adder isHolder with ⟨jobInfo, locked⟩ | isInit
    · exact absurd locked (notLocked jobInfo)
    · exact isInit
  have released : forall pool : PoolState F X, AdderPassed ⟨pool, none⟩ :=
    fun pool adder none_ => by cases none_
  rcases adder with ⟨caller, pc⟩
  cases addStep_cases stepped with
  | refused | noMemory | leaves => exact ⟨KeepsFlags.refl _, rfl, released _⟩
  | allocates jobInfo index heap isInit done =>
      exact ⟨⟨rfl, rfl, rfl, rfl, rfl⟩, rfl, fun _ _ => Or.inr isInit⟩
  | givesUp => exact ⟨⟨rfl, rfl, rfl, rfl, rfl⟩, rfl, released _⟩
  | creates | inserts | posts =>
      exact ⟨⟨rfl, rfl, rfl, rfl, rfl⟩, rfl, fun _ _ => Or.inr (inside (by simp))⟩

theorem poolStep_change {state next : SharedPool F X} {label : PoolLabel F X}
    (passed : AdderPassed state) (stepped : poolStep state label = some next) :
    BackgroundChange state.pool next.pool ∧ AdderPassed next := by
  cases poolStep_cases stepped with
  | rejects caller jobFunc arg invalid => exact ⟨⟨KeepsFlags.refl _, Or.inl rfl⟩, passed⟩
  | enters caller jobFunc arg unlocked =>
      refine ⟨⟨KeepsFlags.refl _, Or.inl rfl⟩, ?_⟩
      rintro adder isAdder
      cases isAdder
      exact Or.inl ⟨_, rfl⟩
  | adds adder isHolder added =>
      have change := addStep_change passed isHolder added
      exact ⟨⟨change.flags, Or.inl change.threads⟩, change.passed⟩
  | moves label pool moved =>
      have change := backgroundStep_change moved
      refine ⟨change, fun adder isAdder => ?_⟩
      rcases passed adder isAdder with locked | isInit
      · exact Or.inl locked
      · exact Or.inr (change.isInit.trans isInit)

/-! ## What a call of `ThreadPoolInit` does -/

/-- The outcomes of a call of `ThreadPoolInit` in a state without a handler. -/
inductive InitCase (state : LifeState F X) (threadNum : Int) (granted : Bool) :
    LifeState F X -> Prop where
  | invalid (range : threadNum ≤ 0 ∨ threadPoolNumMax ≤ threadNum) :
      InitCase state threadNum granted (state.record (.init threadNum granted (-3) 0))
  | already (range : 0 < threadNum ∧ threadNum < threadPoolNumMax)
      (isInit : state.shared.pool.isInit = true) :
      InitCase state threadNum granted (state.record (.init threadNum granted 0 0))
  | failed (range : 0 < threadNum ∧ threadNum < threadPoolNumMax)
      (isInit : state.shared.pool.isInit = false) (pool : PoolState F X) (ret : Int)
      (notGranted : granted = false) (nonzero : ret ≠ 0)
      (stays : pool.isInit = false) (threads : pool.threads = state.shared.pool.threads)
      (threadId : pool.threadId = state.shared.pool.threadId) :
      InitCase state threadNum granted
        ((state.withPool pool).record (.init threadNum granted ret 0))
  | started (range : 0 < threadNum ∧ threadNum < threadPoolNumMax)
      (isInit : state.shared.pool.isInit = false) (pool : PoolState F X)
      (isGranted : granted = true) (becomes : pool.isInit = true) (running : pool.isRunning = true)
      (size : pool.maxThreadNum = threadNum)
      (threads : pool.threads =
        state.shared.pool.threads ++ List.replicate threadNum.toNat .loopTest)
      (crew : Crew pool state.shared.pool.threads.length threadNum.toNat)
      (objects : pool.lockLive = true ∧ pool.semLive = true) :
      InitCase state threadNum granted
        ((state.withPool pool).record (.init threadNum granted 0 threadNum.toNat))
  | exiting (range : 0 < threadNum ∧ threadNum < threadPoolNumMax)
      (isInit : state.shared.pool.isInit = false) (pool : PoolState F X) (num : Nat) (ret : Int)
      (begun : Nat) (notGranted : granted = false) (nonzero : ret ≠ 0)
      (stays : pool.isInit = false) (crew : Crew pool state.shared.pool.threads.length num)
      (objects : pool.lockLive = true ∧ pool.semLive = true) :
      InitCase state threadNum granted
        { state.withPool pool with
          exiting := some (.init threadNum granted ret begun, .start num) }

theorem initCall_cases {state next : LifeState F X} {threadNum : Int} {outcome : InitOutcome}
    (ids : forall idx thread, state.shared.pool.threadId idx = some thread ->
      thread < state.shared.pool.threads.length)
    (called : initCall state threadNum outcome = some next) :
    InitCase state threadNum (outcome.grants threadNum) next := by
  rcases Option.map_eq_some_iff.mp called with ⟨result, done, rfl⟩
  rcases threadPoolInit_cases done with
    ⟨range, rfl⟩ | ⟨range, ⟨isInit, rfl⟩ | ⟨isInit, heap, _, rest⟩⟩
  · dsimp only
    rw [Nat.sub_self]
    exact .invalid range
  · dsimp only
    rw [Nat.sub_self]
    exact .already range isInit
  · rcases rest with ⟨nonzero, rfl⟩ | ⟨_, nonzero, rfl⟩ | ⟨mutexDone, semDone, created⟩
    · dsimp only
      rw [show (state.shared.pool.reset threadNum heap).threads = state.shared.pool.threads from rfl,
        Nat.sub_self]
      exact .failed range isInit _ _ (decide_eq_false fun granted => nonzero granted.1)
        nonzero isInit rfl rfl
    · dsimp only
      rw [show (state.shared.pool.reset threadNum heap).threads = state.shared.pool.threads from rfl,
        Nat.sub_self]
      exact .failed range isInit _ _ (decide_eq_false fun granted => nonzero granted.2.1)
        nonzero isInit rfl rfl
    · have opened : Crew (state.shared.pool.reset threadNum heap).opened
          state.shared.pool.threads.length 0 := (Crew.start ids).congr rfl rfl
      have kept := createWorkers_objects created
      rcases createWorkers_cases opened created with
        ⟨final, rfl, crew, more, becomes, all⟩ |
        ⟨failed, final, rfl, crew, stays, _, below, nonzero⟩
      · rw [Nat.zero_add] at crew all
        have begun : final.threads.length - state.shared.pool.threads.length = threadNum.toNat := by
          rw [crew.length, Nat.add_sub_cancel_left]
        dsimp only
        rw [begun]
        exact .started range isInit final
          (decide_eq_true ⟨mutexDone, semDone, fun idx => all idx (Nat.zero_le idx)⟩)
          becomes more.isRunning more.maxThreadNum more.threads crew ⟨kept.lockLive, kept.semLive⟩
      · rw [Nat.zero_add] at below
        exact .exiting range isInit final failed _ _
          (decide_eq_false fun granted => nonzero (granted.2.2 _ below))
          nonzero (stays.trans isInit) crew ⟨kept.lockLive, kept.semLive⟩

/-! ## Invariants of the life of the pool -/

namespace LifeState

/-- The number of threads that a handler would have to join. -/
def crewSize (state : LifeState F X) : Nat :=
  match state.exiting with
  | some (_, handle) => handle.num
  | none => if state.shared.pool.isInit then state.shared.pool.maxThreadNum.toNat else 0

end LifeState

structure LifeInv (state : LifeState F X) : Prop where
  crew : Exists fun base => Crew state.shared.pool base state.crewSize
  passed : AdderPassed state.shared
  alone : state.exiting.isSome -> state.shared.initMutex = none
  joins : forall caller handle, state.exiting = some (caller, handle) ->
    JoinsLast state.shared.pool.threadId handle
  failing : forall threadNum granted ret begun handle,
    state.exiting = some (.init threadNum granted ret begun, handle) ->
    state.shared.pool.isInit = false ∧ granted = false ∧ ret ≠ 0
  stopping : forall handle, state.exiting = some (.deinit, handle) ->
    state.shared.pool.isInit = true

namespace LifeInv

variable {state next : LifeState F X}

theorem init (jobListHead : DoublyLinkedListNode Addr) : LifeInv (lifeInit F X jobListHead) where
  crew := ⟨0, Crew.start (fun _ _ none_ => by cases none_)⟩
  passed := fun _ none_ => by cases none_
  alone := fun _ => rfl
  joins := fun _ _ none_ => by cases none_
  failing := fun _ _ _ _ _ none_ => by cases none_
  stopping := fun _ none_ => by cases none_

theorem ids_lt (inv : LifeInv state) (idx thread : Nat)
    (isId : state.shared.pool.threadId idx = some thread) :
    thread < state.shared.pool.threads.length := by
  rcases inv.crew with ⟨base, crew⟩
  exact crew.ids_lt isId

/-- A state without a handler. -/
theorem withoutHandler (noHandler : state.exiting = none) (passed : AdderPassed state.shared)
    (crew : Exists fun base => Crew state.shared.pool base state.crewSize) : LifeInv state where
  crew := crew
  passed := passed
  alone := fun exits => by rw [noHandler] at exits; cases exits
  joins := fun caller handle exits => by rw [noHandler] at exits; cases exits
  failing := fun threadNum granted ret begun handle exits => by
    rw [noHandler] at exits
    cases exits
  stopping := fun handle exits => by rw [noHandler] at exits; cases exits

/-- A state without a handler and without threads to join. -/
theorem withoutCrew (noHandler : state.exiting = none) (passed : AdderPassed state.shared)
    (empty : state.shared.pool.isInit = false ∨ state.shared.pool.maxThreadNum = 0)
    (ids : forall idx thread, state.shared.pool.threadId idx = some thread ->
      thread < state.shared.pool.threads.length) : LifeInv state := by
  have size : state.crewSize = 0 := by
    rcases empty with notInit | zero
    · simp only [LifeState.crewSize, noHandler, notInit, Bool.false_eq_true, if_false]
    · simp only [LifeState.crewSize, noHandler, zero, Int.toNat_zero, ite_self]
  exact withoutHandler noHandler passed ⟨_, size ▸ Crew.start ids⟩

/-- What moves besides the callers keeps the invariants. -/
theorem background (inv : LifeInv state) {pool : PoolState F X} {label : Background X}
    (stepped : backgroundStep state.shared.pool label = some pool) :
    LifeInv (state.withPool pool) := by
  have change := backgroundStep_change stepped
  have sameSize : (state.withPool pool).crewSize = state.crewSize := by
    simp only [LifeState.crewSize, LifeState.withPool, change.isInit, change.maxThreadNum]
  rcases inv.crew with ⟨base, crew⟩
  constructor
  · exact ⟨base, sameSize ▸ crew.congr change.threadId change.length⟩
  · intro adder isHolder
    rcases inv.passed adder isHolder with locked | isInit
    · exact Or.inl locked
    · exact Or.inr (change.isInit.trans isInit)
  · exact inv.alone
  · intro caller handle exits
    have joins := inv.joins caller handle exits
    rw [← change.threadId] at joins
    exact joins
  · intro threadNum granted ret begun handle exits
    have failing := inv.failing threadNum granted ret begun handle exits
    exact ⟨change.isInit.trans failing.1, failing.2⟩
  · exact fun handle exits => change.isInit.trans (inv.stopping handle exits)

theorem add (inv : LifeInv state) (noHandler : state.exiting = none) {shared : SharedPool F X}
    {label : PoolLabel F X} (stepped : poolStep state.shared label = some shared)
    (calls : List Call) : LifeInv { state with shared := shared, calls := calls } := by
  rcases poolStep_change inv.passed stepped with ⟨change, passed⟩
  rcases inv.crew with ⟨base, crew⟩
  refine withoutHandler noHandler passed ⟨base, ?_⟩
  have sameSize : LifeState.crewSize { state with shared := shared, calls := calls } =
      state.crewSize := by
    simp only [LifeState.crewSize, noHandler, change.isInit, change.maxThreadNum]
  rw [sameSize]
  exact crew.congr change.threadId change.length

theorem initCall (inv : LifeInv state) (noHandler : state.exiting = none)
    (unlocked : state.shared.initMutex = none) {threadNum : Int} {granted : Bool}
    (case : InitCase state threadNum granted next) : LifeInv next := by
  have passed : forall pool : PoolState F X,
      AdderPassed (SharedPool.mk pool state.shared.initMutex) := by
    intro pool adder isHolder
    rw [show state.shared.initMutex = none from unlocked] at isHolder
    cases isHolder
  cases case with
  | invalid range => exact withoutHandler noHandler inv.passed inv.crew
  | already range isInit => exact withoutHandler noHandler inv.passed inv.crew
  | failed range isInit pool ret notGranted nonzero stays threads threadId =>
      refine withoutCrew noHandler (passed pool) (Or.inl stays) ?_
      intro idx thread isId
      change pool.threadId idx = some thread at isId
      rw [threadId] at isId
      change thread < pool.threads.length
      rw [threads]
      exact inv.ids_lt idx thread isId
  | started range isInit pool isGranted becomes running size threads crew objects =>
      refine withoutHandler noHandler (passed pool) ⟨state.shared.pool.threads.length, ?_⟩
      have isSize : ((state.withPool pool).record
          (.init threadNum granted 0 threadNum.toNat)).crewSize = threadNum.toNat := by
        simp only [LifeState.crewSize, LifeState.record, LifeState.withPool, noHandler, becomes, size,
          if_true]
      rw [isSize]
      exact crew
  | exiting range isInit pool num ret begun notGranted nonzero stays crew objects =>
      constructor
      · exact ⟨state.shared.pool.threads.length, crew⟩
      · exact passed pool
      · exact fun _ => unlocked
      · intro caller handle exits
        cases exits
        exact .start pool.threadId num
      · intro threadNum granted ret begun handle exits
        cases exits
        exact ⟨stays, notGranted, nonzero⟩
      · exact fun _ exits => by cases exits

theorem deinitCall (inv : LifeInv state) (noHandler : state.exiting = none)
    (unlocked : state.shared.initMutex = none) : LifeInv (deinitCall state) := by
  unfold ThreadPool.deinitCall
  split
  next isInit =>
    have sameSize : state.crewSize = state.shared.pool.maxThreadNum.toNat := by
      simp only [LifeState.crewSize, noHandler, isInit, if_true]
    constructor
    · exact sameSize ▸ inv.crew
    · exact inv.passed
    · exact fun _ => unlocked
    · intro caller handle exits
      cases exits
      exact .start _ _
    · exact fun _ _ _ _ _ exits => by cases exits
    · exact fun _ _ => isInit
  next => exact withoutHandler noHandler inv.passed inv.crew

theorem exitStep (inv : LifeInv state) {caller : ExitCaller} {handle after : ExitHandle}
    {pool : PoolState F X} (exits : state.exiting = some (caller, handle))
    (stepped : exitStep state.shared.pool handle = some (pool, after)) :
    LifeInv { state.withPool pool with exiting := some (caller, after) } := by
  have change := exitStep_change stepped
  have joins := (inv.joins caller handle exits).step stepped
  rcases inv.crew with ⟨base, crew⟩
  have size : state.crewSize = handle.num := by
    simp only [LifeState.crewSize, exits]
  rw [size, ← change.num] at crew
  have unlocked : state.shared.initMutex = none := by
    apply inv.alone
    rw [exits]
    rfl
  constructor
  · exact ⟨base, crew.congr change.threadId (congrArg List.length change.threads)⟩
  · intro adder isHolder
    rw [show state.shared.initMutex = some adder from isHolder] at unlocked
    cases unlocked
  · exact fun _ => unlocked
  · intro other otherHandle same
    cases same
    rw [← change.threadId] at joins
    exact joins
  · intro threadNum granted ret begun otherHandle same
    cases same
    have failing := inv.failing threadNum granted ret begun handle exits
    exact ⟨change.isInit.trans failing.1, failing.2⟩
  · intro otherHandle same
    cases same
    exact change.isInit.trans (inv.stopping handle exits)

theorem afterExit (inv : LifeInv state) {caller : ExitCaller} {handle : ExitHandle} {fuel : Nat}
    (exits : state.exiting = some (caller, handle))
    (returned : afterExit state caller handle fuel = some next) : LifeInv next := by
  have unlocked : state.shared.initMutex = none := by
    apply inv.alone
    rw [exits]
    rfl
  cases caller with
  | init threadNum granted ret begun =>
      cases returned
      exact withoutCrew rfl inv.passed
        (Or.inl (inv.failing threadNum granted ret begun handle exits).1) inv.ids_lt
  | deinit =>
      rcases Option.map_eq_some_iff.mp returned with ⟨done, _, rfl⟩
      refine withoutCrew rfl ?_ (Or.inr rfl) inv.ids_lt
      intro adder isHolder
      rw [show state.shared.initMutex = some adder from isHolder] at unlocked
      cases unlocked

end LifeInv

theorem lifeInv_step {state next : LifeState F X} {label : LifeLabel F X} (inv : LifeInv state)
    (stepped : lifeStep state label = some next) : LifeInv next := by
  cases lifeStep_cases stepped with
  | adds label shared noHandler taken => exact inv.add noHandler taken _
  | inits threadNum outcome next noHandler unlocked called =>
      exact inv.initCall noHandler unlocked (initCall_cases inv.ids_lt called)
  | deinits noHandler unlocked => exact inv.deinitCall noHandler unlocked
  | handles caller handle after pool exits taken => exact inv.exitStep exits taken
  | returns caller handle fuel next exits isFinished returned => exact inv.afterExit exits returned
  | moves label pool taken => exact inv.background taken

theorem lifeInv_of_run {jobListHead : DoublyLinkedListNode Addr} {labels : List (LifeLabel F X)}
    {final : LifeState F X}
    (ran : (lifecycle F X).run (lifeInit F X jobListHead) labels = some final) : LifeInv final :=
  (lifecycle F X).run_invariant (fun _ _ _ inv taken => lifeInv_step inv taken)
    (LifeInv.init jobListHead) ran

end ThreadPool
end V2x
