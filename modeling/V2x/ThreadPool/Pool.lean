import V2x.ThreadPool.JobList

namespace V2x
namespace ThreadPool

open Foundations

/-!
# The thread pool `thread_pool.c`

The state holds the static variables of the module, the semaphore, the heap and
the program counter of every thread that was ever created.  The sections under
`g_threadPoolInfo.lock`, the two semaphore operations and the calls of a job are
the steps of a worker.  A worker that runs a job stays at `running` until the
job function returns.

Two lists record the run: the jobs in the order of their insertion, and the jobs
in the order in which workers took them.  A worker that has taken a job also
remembers its position in the second list.  No step depends on them.
-/

/-- `THREAD_POOL_NUM_MAX`. -/
def threadPoolNumMax : Int := 7

/-- Where a worker stands in `PthreadPoolProcessThread`. -/
inductive WorkerPc where
  | loopTest
  | idleSection
  | semWait
  | dequeueSection
  | fetched (serial : Nat)
  | running (serial : Nat) (cur : Addr)
  | exited
deriving DecidableEq, Repr

/-- The position of the job a worker has taken and not yet finished. -/
def WorkerPc.serial? : WorkerPc -> Option Nat
  | .fetched serial => some serial
  | .running serial _ => some serial
  | _ => none

/-- The static variables of the module and what its threads share.  The two
flags say that the lock and the semaphore are initialised and not destroyed. -/
structure PoolState (F X : Type) where
  isInit : Bool
  isRunning : Bool
  curJobNum : Int
  maxThreadNum : Int
  idleThreadNum : Int
  threadId : Nat -> Option Nat
  lockLive : Bool
  semLive : Bool
  sem : Nat
  heap : PoolHeap F X
  threads : List WorkerPc
  accepted : List (ThreadPoolJobInfo F)
  dequeued : List (ThreadPoolJobInfo F)

variable {F X : Type}

/-- The static variables before the first call.  Nothing reads the links of
`g_jobListHead` before they are initialised. -/
def poolStatics (F X : Type) (jobListHead : DoublyLinkedListNode Addr) : PoolState F X where
  isInit := false
  isRunning := false
  curJobNum := 0
  maxThreadNum := 0
  idleThreadNum := 0
  threadId := fun _ => none
  lockLive := false
  semLive := false
  sem := 0
  heap := Function.update (fun _ => none) .jobListHead (some (.node jobListHead))
  threads := []
  accepted := []
  dequeued := []

namespace PoolState

def goto (state : PoolState F X) (thread : Nat) (pc : WorkerPc) : PoolState F X :=
  { state with threads := state.threads.set thread pc }

/-- The job description that a worker's `curHead` points to. -/
def fetchedJob (state : PoolState F X) (thread : Nat) : Option (ThreadPoolJobInfo F) :=
  (state.heap.nodeData (.curHead thread)).bind (jobInfoAt state.heap)

end PoolState

/-- One step of `PthreadPoolProcessThread`.  A worker waits at a semaphore whose
value is zero. -/
def workerStep (state : PoolState F X) (thread : Nat) : Option (PoolState F X) :=
  match state.threads[thread]? with
  | none => none
  | some .loopTest =>
      some (state.goto thread (if state.isRunning then .idleSection else .exited))
  | some .idleSection =>
      let idle :=
        if state.idleThreadNum ≠ state.maxThreadNum then state.idleThreadNum + 1
        else state.idleThreadNum
      some ({ state with idleThreadNum := idle }.goto thread .semWait)
  | some .semWait =>
      if state.sem = 0 then none
      else some ({ state with sem := state.sem - 1 }.goto thread .dequeueSection)
  | some .dequeueSection => do
      let (ret, heap) <- deleteTailDoublyLinkedListNode state.heap (some .jobListHead)
        (some (.curHead thread))
      let state := { state with idleThreadNum := state.idleThreadNum - 1, heap := heap }
      if ret ≠ 0 then
        return state.goto thread .loopTest
      return { state with
        curJobNum := state.curJobNum - 1
        dequeued := state.dequeued ++ (state.fetchedJob thread).toList }.goto thread
          (.fetched state.dequeued.length)
  | some (.fetched serial) =>
      match state.heap.nodeData (.curHead thread) with
      | none => some (state.goto thread .loopTest)
      | some cur => (jobInfoAt state.heap cur).map (fun _ => state.goto thread (.running serial cur))
  | some (.running _ _) =>
      match state.heap.nodeData (.curHead thread) with
      | none => some (state.goto thread .loopTest)
      | some data => (state.heap.free data).map (fun heap =>
          { state with heap := heap }.goto thread .loopTest)
  | some .exited => none

/-- The steps of a worker, one for each way through `PthreadPoolProcessThread`. -/
inductive WorkerMove (state : PoolState F X) (thread : Nat) : PoolState F X -> Prop where
  | loops (at_ : state.threads[thread]? = some .loopTest) (running : state.isRunning = true) :
      WorkerMove state thread (state.goto thread .idleSection)
  | exits (at_ : state.threads[thread]? = some .loopTest) (stopped : state.isRunning = false) :
      WorkerMove state thread (state.goto thread .exited)
  | idles (at_ : state.threads[thread]? = some .idleSection) :
      WorkerMove state thread ({ state with
        idleThreadNum :=
          if state.idleThreadNum ≠ state.maxThreadNum then state.idleThreadNum + 1
          else state.idleThreadNum }.goto thread .semWait)
  | waits (at_ : state.threads[thread]? = some .semWait) (available : state.sem ≠ 0) :
      WorkerMove state thread ({ state with sem := state.sem - 1 }.goto thread .dequeueSection)
  | findsNone (at_ : state.threads[thread]? = some .dequeueSection) (ret : Int)
      (heap : PoolHeap F X) (failed : ret ≠ 0)
      (done : deleteTailDoublyLinkedListNode state.heap (some .jobListHead)
        (some (.curHead thread)) = some (ret, heap)) :
      WorkerMove state thread ({ state with
        idleThreadNum := state.idleThreadNum - 1
        heap := heap }.goto thread .loopTest)
  | takes (at_ : state.threads[thread]? = some .dequeueSection) (heap : PoolHeap F X)
      (done : deleteTailDoublyLinkedListNode state.heap (some .jobListHead)
        (some (.curHead thread)) = some (0, heap)) :
      WorkerMove state thread ({ state with
        idleThreadNum := state.idleThreadNum - 1
        heap := heap
        curJobNum := state.curJobNum - 1
        dequeued := state.dequeued ++
          ((heap.nodeData (.curHead thread)).bind (jobInfoAt heap)).toList }.goto thread
            (.fetched state.dequeued.length))
  | calls (serial : Nat) (cur : Addr) (jobInfo : ThreadPoolJobInfo F)
      (at_ : state.threads[thread]? = some (.fetched serial))
      (points : state.heap.nodeData (.curHead thread) = some cur)
      (info : jobInfoAt state.heap cur = some jobInfo) :
      WorkerMove state thread (state.goto thread (.running serial cur))
  | finishes (serial : Nat) (cur data : Addr) (heap : PoolHeap F X)
      (at_ : state.threads[thread]? = some (.running serial cur))
      (points : state.heap.nodeData (.curHead thread) = some data)
      (freed : state.heap.free data = some heap) :
      WorkerMove state thread ({ state with heap := heap }.goto thread .loopTest)
  | skips (serial : Nat) (old : WorkerPc) (at_ : state.threads[thread]? = some old)
      (isSerial : old.serial? = some serial)
      (noData : state.heap.nodeData (.curHead thread) = none) :
      WorkerMove state thread (state.goto thread .loopTest)

theorem workerStep_cases {state next : PoolState F X} {thread : Nat}
    (stepped : workerStep state thread = some next) : WorkerMove state thread next := by
  unfold workerStep at stepped
  split at stepped
  next => cases stepped
  next at_ =>
    cases stepped
    cases running : state.isRunning with
    | true => exact .loops at_ running
    | false => exact .exits at_ running
  next at_ =>
    cases stepped
    exact .idles at_
  next at_ =>
    split at stepped
    · cases stepped
    next available =>
      cases stepped
      exact .waits at_ available
  next at_ =>
    rcases Option.bind_eq_some_iff.mp stepped with ⟨⟨ret, heap⟩, done, rest⟩
    by_cases failed : ret ≠ 0
    · simp only [if_pos failed, Option.pure_def, Option.some.injEq] at rest
      subst rest
      exact .findsNone at_ ret heap failed done
    · simp only [if_neg failed, Option.pure_def, Option.some.injEq] at rest
      subst rest
      rw [not_not.mp failed] at done
      exact .takes at_ heap done
  next serial at_ =>
    split at stepped
    next noData =>
      cases stepped
      exact .skips serial _ at_ rfl noData
    next cur points =>
      rcases Option.map_eq_some_iff.mp stepped with ⟨jobInfo, info, rfl⟩
      exact .calls serial cur jobInfo at_ points info
  next serial cur at_ =>
    split at stepped
    next noData =>
      cases stepped
      exact .skips serial _ at_ rfl noData
    next data points =>
      rcases Option.map_eq_some_iff.mp stepped with ⟨heap, freed, rfl⟩
      exact .finishes serial cur data heap at_ points freed
  next => cases stepped

/-! ## What moves besides the callers -/

/-- A step of a worker, or the rest of the program allocates or frees an object
of its own. -/
inductive Background (X : Type) where
  | worker (thread : Nat)
  | userMalloc (index : Nat) (object : X)
  | userFree (address : Addr)
deriving DecidableEq, Repr

def backgroundStep (state : PoolState F X) : Background X -> Option (PoolState F X)
  | .worker thread => workerStep state thread
  | .userMalloc index object =>
      (state.heap.malloc (.block index) (.data (.user object))).map (fun heap =>
        { state with heap := heap })
  | .userFree address =>
      match state.heap.content address with
      | some (.user _) => (state.heap.free address).map (fun heap => { state with heap := heap })
      | _ => none

/-! ## Creating the workers -/

/-- A new thread gets a number that was not used before and a stack with an
uninitialised `curHead`. -/
def PoolState.spawn (state : PoolState F X) (idx : Nat) (stack : DoublyLinkedListNode Addr) :
    Option (PoolState F X) :=
  (state.heap.malloc (.curHead state.threads.length) (.node stack)).map (fun heap =>
    { state with
      heap := heap
      threads := state.threads ++ [.loopTest]
      threadId := Function.update state.threadId idx (some state.threads.length) })

/-- The return values of the calls that `ThreadPoolInit` makes, with the stack
of each thread that is created. -/
structure InitOutcome where
  mutexInit : Int
  semInit : Int
  created : Nat -> Int × DoublyLinkedListNode Addr

/-- Every call succeeds. -/
def InitOutcome.success (stack : DoublyLinkedListNode Addr) : InitOutcome where
  mutexInit := 0
  semInit := 0
  created := fun _ => (0, stack)

/-- `ThreadPoolInit` returns, or it goes on in `ThreadPoolExitHandle(num)` and
returns the error afterwards. -/
inductive InitResult (F X : Type) where
  | returned (ret : Int) (state : PoolState F X)
  | exiting (num : Nat) (ret : Int) (state : PoolState F X)

/-- The pool that a successful initialisation leaves. -/
def InitResult.started : InitResult F X -> Option (PoolState F X)
  | .returned ret state => if ret = 0 then some state else none
  | .exiting _ _ _ => none

theorem InitResult.eq_of_started {result : InitResult F X} {start : PoolState F X}
    (started : result.started = some start) : result = .returned 0 start := by
  cases result with
  | returned ret state =>
      simp only [InitResult.started] at started
      split at started
      next isZero =>
        cases started
        rw [isZero]
      next => cases started
  | exiting num ret state => cases started

/-- The loop that creates the workers. -/
def createWorkers (created : Nat -> Int × DoublyLinkedListNode Addr) :
    Nat -> Nat -> PoolState F X -> Option (InitResult F X)
  | _, 0, state => some (.returned 0 { state with isInit := true })
  | idx, remaining + 1, state =>
      if (created idx).1 ≠ 0 then some (.exiting idx (created idx).1 state)
      else
        (state.spawn idx (created idx).2).bind (fun state =>
          createWorkers created (idx + 1) remaining state)

/-- What `ThreadPoolInit` writes before it asks for the lock. -/
def PoolState.reset (state : PoolState F X) (threadNum : Int) (heap : PoolHeap F X) :
    PoolState F X :=
  { state with
    heap := heap
    isRunning := true
    curJobNum := 0
    maxThreadNum := threadNum
    idleThreadNum := threadNum }

/-- The lock and the semaphore are there.  The records of the run start anew. -/
def PoolState.opened (state : PoolState F X) : PoolState F X :=
  { state with lockLive := true, semLive := true, sem := 0, accepted := [], dequeued := [] }

/-- `ThreadPoolInit`.  A worker that moves before the call returns could as well
move afterwards: it finds `isRunning` set and no job. -/
def threadPoolInit (state : PoolState F X) (threadNum : Int) (outcome : InitOutcome) :
    Option (InitResult F X) :=
  if threadNum ≤ 0 ∨ threadPoolNumMax ≤ threadNum then some (.returned (-3) state)
  else if state.isInit then some (.returned 0 state)
  else
    (initDoublyLinkedListNode state.heap (some .jobListHead)).bind (fun headDone =>
      let state := state.reset threadNum headDone.2
      if outcome.mutexInit ≠ 0 then some (.returned outcome.mutexInit state)
      else if outcome.semInit ≠ 0 then
        some (.returned outcome.semInit { state with lockLive := false })
      else createWorkers outcome.created 0 threadNum.toNat state.opened)

end ThreadPool
end V2x
