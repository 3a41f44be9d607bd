import V2x.Foundations.Mutex
import V2x.Foundations.Simulation
import V2x.ThreadPool.Accounting

namespace V2x
namespace ThreadPool

open Foundations

/-!
# The pool statement by statement

In the machine `pool` a section under `g_threadPoolInfo.lock` is one step, and
so is a way out of `ThreadPoolAddJob`.  Here each statement is a step of its own,
the two mutexes have owners, and any number of callers may be anywhere in
`ThreadPoolAddJob`.  A thread that wants a mutex waits until nobody has it, and
an unlock asks for nothing.

`statements_simulates` connects the two.  The section of a worker counts as done
when it calls `DeleteTailDoublyLinkedListNode`, or when it has decided about
`idleThreadNum`, and the section of a caller when it inserts its cell.  At these
moments a counter of the section may not have been changed yet, or the other
one may have been changed already: this is what the thread with the lock owes.
-/

/-- The threads that use the mutexes. -/
inductive Party where
  | worker (thread : Nat)
  | caller (caller : Nat)
deriving DecidableEq, Repr

/-- The next statement of `PthreadPoolProcessThread`.  The two unlocks after the
dequeue are the one before `continue` and the one before the job. -/
inductive WorkerStatement where
  | loopTest
  | lockIdle
  | testIdle
  | raiseIdle
  | unlockIdle
  | semWait
  | lockDequeue
  | lowerIdle
  | deleteTail
  | unlockEmpty
  | lowerJobs
  | unlockTaken
  | fetched
  | running (cur : Addr)
  | exited
deriving DecidableEq, Repr

/-- The next statement of `ThreadPoolAddJob` behind the check of its arguments. -/
inductive AddStatement (F : Type) where
  | lockInit (jobInfo : ThreadPoolJobInfo F)
  | testInit (jobInfo : ThreadPoolJobInfo F)
  | mallocTmp (jobInfo : ThreadPoolJobInfo F)
  | createNode (jobInfo : ThreadPoolJobInfo F) (tmp : Addr)
  | freeTmp (jobInfo : ThreadPoolJobInfo F) (tmp : Addr)
  | lockList (jobInfo : ThreadPoolJobInfo F) (tmp node : Addr)
  | insertHead (jobInfo : ThreadPoolJobInfo F) (tmp node : Addr)
  | raiseJobs
  | unlockList
  | post
  | unlockInit
deriving DecidableEq, Repr

structure StatementState (F X : Type) where
  isInit : Bool
  isRunning : Bool
  curJobNum : Int
  maxThreadNum : Int
  idleThreadNum : Int
  sem : Nat
  heap : PoolHeap F X
  lock : Option Party
  initMutex : Option Party
  workers : Nat -> Option WorkerStatement
  callers : Nat -> Option (AddStatement F)

/-- A thread executes its next statement, a caller comes, or the rest of the
program allocates or frees an object of its own.  `block` is what a `malloc` in
the statement returns. -/
inductive StatementLabel (F X : Type) where
  | thread (party : Party) (block : Option Nat)
  | call (caller : Nat) (jobFunc : Option F) (arg : Option Addr)
  | userMalloc (index : Nat) (object : X)
  | userFree (address : Addr)

variable {F X : Type}

namespace StatementState

def goto (state : StatementState F X) (thread : Nat) (statement : WorkerStatement) :
    StatementState F X :=
  { state with workers := Function.update state.workers thread (some statement) }

def gotoAdd (state : StatementState F X) (caller : Nat) (statement : AddStatement F) :
    StatementState F X :=
  { state with callers := Function.update state.callers caller (some statement) }

/-- The call returns. -/
def returns (state : StatementState F X) (caller : Nat) : StatementState F X :=
  { state with callers := Function.update state.callers caller none }

/-- `pthread_mutex_lock(&g_threadPoolInfo.lock)`. -/
def takeLock (state : StatementState F X) (party : Party) : Option (StatementState F X) :=
  match state.lock with
  | none => some { state with lock := some party }
  | some _ => none

/-- `pthread_mutex_lock(&g_initMutex)`. -/
def takeInit (state : StatementState F X) (party : Party) : Option (StatementState F X) :=
  match state.initMutex with
  | none => some { state with initMutex := some party }
  | some _ => none

end StatementState

/-- One statement of `PthreadPoolProcessThread`. -/
def workerStatement (state : StatementState F X) (thread : Nat) :
    WorkerStatement -> Option (StatementState F X)
  | .loopTest => some (state.goto thread (if state.isRunning then .lockIdle else .exited))
  | .lockIdle => (state.takeLock (.worker thread)).map (fun state => state.goto thread .testIdle)
  | .testIdle =>
      some (state.goto thread
        (if state.idleThreadNum ≠ state.maxThreadNum then .raiseIdle else .unlockIdle))
  | .raiseIdle =>
      some ({ state with idleThreadNum := state.idleThreadNum + 1 }.goto thread .unlockIdle)
  | .unlockIdle => some ({ state with lock := none }.goto thread .semWait)
  | .semWait =>
      if state.sem = 0 then none
      else some ({ state with sem := state.sem - 1 }.goto thread .lockDequeue)
  | .lockDequeue =>
      (state.takeLock (.worker thread)).map (fun state => state.goto thread .lowerIdle)
  | .lowerIdle =>
      some ({ state with idleThreadNum := state.idleThreadNum - 1 }.goto thread .deleteTail)
  | .deleteTail =>
      (deleteTailDoublyLinkedListNode state.heap (some .jobListHead) (some (.curHead thread))).map
        (fun done => { state with heap := done.2 }.goto thread
          (if done.1 ≠ 0 then .unlockEmpty else .lowerJobs))
  | .unlockEmpty => some ({ state with lock := none }.goto thread .loopTest)
  | .lowerJobs => some ({ state with curJobNum := state.curJobNum - 1 }.goto thread .unlockTaken)
  | .unlockTaken => some ({ state with lock := none }.goto thread .fetched)
  | .fetched =>
      match state.heap.nodeData (.curHead thread) with
      | none => some (state.goto thread .loopTest)
      | some cur => (jobInfoAt state.heap cur).map (fun _ => state.goto thread (.running cur))
  | .running _ =>
      match state.heap.nodeData (.curHead thread) with
      | none => some (state.goto thread .loopTest)
      | some data => (state.heap.free data).map (fun heap =>
          { state with heap := heap }.goto thread .loopTest)
  | .exited => none

/-- One statement of `ThreadPoolAddJob`. -/
def addStatement (state : StatementState F X) (caller : Nat) (block : Option Nat) :
    AddStatement F -> Option (StatementState F X)
  | .lockInit jobInfo =>
      (state.takeInit (.caller caller)).map (fun state => state.gotoAdd caller (.testInit jobInfo))
  | .testInit jobInfo =>
      some (state.gotoAdd caller (if state.isInit then .mallocTmp jobInfo else .unlockInit))
  | .mallocTmp jobInfo =>
      match block with
      | none => some (state.gotoAdd caller .unlockInit)
      | some index =>
          (state.heap.malloc (.block index) (.data (.jobNode jobInfo))).map (fun heap =>
            { state with heap := heap }.gotoAdd caller (.createNode jobInfo (.block index)))
  | .createNode jobInfo tmp =>
      (createDoublyLinkedListNode state.heap (some tmp) (block.map .block)).map (fun created =>
        match created.1 with
        | none => { state with heap := created.2 }.gotoAdd caller (.freeTmp jobInfo tmp)
        | some node => { state with heap := created.2 }.gotoAdd caller (.lockList jobInfo tmp node))
  | .freeTmp _ tmp =>
      (state.heap.free tmp).map (fun heap => { state with heap := heap }.gotoAdd caller .unlockInit)
  | .lockList jobInfo tmp node =>
      (state.takeLock (.caller caller)).map (fun state =>
        state.gotoAdd caller (.insertHead jobInfo tmp node))
  | .insertHead _ _ node =>
      (insertHeadDoublyLinkedListNode state.heap (some .jobListHead) (some node)).map (fun done =>
        { state with heap := done.2 }.gotoAdd caller .raiseJobs)
  | .raiseJobs => some ({ state with curJobNum := state.curJobNum + 1 }.gotoAdd caller .unlockList)
  | .unlockList => some ({ state with lock := none }.gotoAdd caller .post)
  | .post => some ({ state with sem := state.sem + 1 }.gotoAdd caller .unlockInit)
  | .unlockInit => some ({ state with initMutex := none }.returns caller)

/-- A call with the check of its arguments.  Each caller is in one call at a time. -/
def callStatement (state : StatementState F X) (caller : Nat) :
    Option F -> Option Addr -> Option (StatementState F X)
  | some jobFunc, some arg =>
      match state.callers caller with
      | none => some (state.gotoAdd caller (.lockInit ⟨jobFunc, arg⟩))
      | some _ => none
  | _, _ => some state

def statementStep (state : StatementState F X) : StatementLabel F X -> Option (StatementState F X)
  | .thread (.worker thread) _ => (state.workers thread).bind (workerStatement state thread)
  | .thread (.caller caller) block => (state.callers caller).bind (addStatement state caller block)
  | .call caller jobFunc arg => callStatement state caller jobFunc arg
  | .userMalloc index object =>
      (state.heap.malloc (.block index) (.data (.user object))).map (fun heap =>
        { state with heap := heap })
  | .userFree address =>
      match state.heap.content address with
      | some (.user _) => (state.heap.free address).map (fun heap => { state with heap := heap })
      | _ => none

def statements (F X : Type) : Machine (StatementState F X) (StatementLabel F X) where
  step := statementStep

/-- The first statement of what a worker does next. -/
def WorkerPc.statement : WorkerPc -> WorkerStatement
  | .loopTest => .loopTest
  | .idleSection => .lockIdle
  | .semWait => .semWait
  | .dequeueSection => .lockDequeue
  | .fetched _ => .fetched
  | .running _ cur => .running cur
  | .exited => .exited

/-- The pool when nobody is in a section or in a call. -/
def PoolState.statements (pool : PoolState F X) : StatementState F X where
  isInit := pool.isInit
  isRunning := pool.isRunning
  curJobNum := pool.curJobNum
  maxThreadNum := pool.maxThreadNum
  idleThreadNum := pool.idleThreadNum
  sem := pool.sem
  heap := pool.heap
  lock := none
  initMutex := none
  workers := fun thread => pool.threads[thread]?.map WorkerPc.statement
  callers := fun _ => none

/-! ## Who holds what -/

/-- Between a lock of `g_threadPoolInfo.lock` and its unlock. -/
def WorkerStatement.holdsLock : WorkerStatement -> Bool
  | .testIdle | .raiseIdle | .unlockIdle | .lowerIdle | .deleteTail | .unlockEmpty | .lowerJobs
  | .unlockTaken => true
  | .loopTest | .lockIdle | .semWait | .lockDequeue | .fetched | .running _ | .exited => false

def AddStatement.holdsLock : AddStatement F -> Bool
  | .insertHead _ _ _ | .raiseJobs | .unlockList => true
  | .lockInit _ | .testInit _ | .mallocTmp _ | .createNode _ _ | .freeTmp _ _ | .lockList _ _ _ | .post
  | .unlockInit => false

/-- Between the lock of `g_initMutex` and its unlock. -/
def AddStatement.holdsInit : AddStatement F -> Bool
  | .lockInit _ => false
  | .testInit _ | .mallocTmp _ | .createNode _ _ | .freeTmp _ _ | .lockList _ _ _ | .insertHead _ _ _
  | .raiseJobs | .unlockList | .post | .unlockInit => true

def HoldsLock (state : StatementState F X) : Party -> Prop
  | .worker thread => (state.workers thread).any WorkerStatement.holdsLock = true
  | .caller caller => (state.callers caller).any AddStatement.holdsLock = true

def HoldsInit (state : StatementState F X) : Party -> Prop
  | .worker _ => False
  | .caller caller => (state.callers caller).any AddStatement.holdsInit = true

/-- The mutexes belong to the threads inside, and what a thread has found out under a mutex still
holds. -/
structure Guarded (state : StatementState F X) : Prop where
  lock : Owns state.lock (HoldsLock state)
  initMutex : Owns state.initMutex (HoldsInit state)
  notFull : forall thread, state.workers thread = some .raiseIdle ->
    state.idleThreadNum ≠ state.maxThreadNum
  tested : forall caller jobInfo, state.callers caller = some (.mallocTmp jobInfo) ->
    state.isInit = true

/-! ## What every statement does -/

/-- How much is left of the round of a worker, from its wake-up to the next wait. -/
def WorkerStatement.left : WorkerStatement -> Nat
  | .lockDequeue => 12
  | .lowerIdle => 11
  | .deleteTail => 10
  | .lowerJobs => 9
  | .unlockTaken => 8
  | .fetched => 7
  | .running _ => 6
  | .unlockEmpty => 6
  | .loopTest => 5
  | .lockIdle => 4
  | .testIdle => 3
  | .raiseIdle => 2
  | .unlockIdle => 1
  | .semWait => 0
  | .exited => 0

/-- How much is left of a call, with the round of the worker that it wakes up. -/
def AddStatement.left : AddStatement F -> Nat
  | .lockInit _ => 23
  | .testInit _ => 22
  | .mallocTmp _ => 21
  | .createNode _ _ => 20
  | .lockList _ _ _ => 19
  | .insertHead _ _ _ => 18
  | .raiseJobs => 17
  | .unlockList => 16
  | .post => 15
  | .freeTmp _ _ => 2
  | .unlockInit => 1

/-- What the statements leave as it is. -/
structure KeepsModule (state next : StatementState F X) : Prop where
  isInit : next.isInit = state.isInit
  isRunning : next.isRunning = state.isRunning
  maxThreadNum : next.maxThreadNum = state.maxThreadNum

/-- A worker executes a statement.  A unit of the semaphore is worth a round. -/
structure WorkerGoes (state next : StatementState F X) (thread : Nat) (old new : WorkerStatement) :
    Prop extends KeepsModule state next where
  workers : next.workers = Function.update state.workers thread (some new)
  callers : next.callers = state.callers
  lock : MutexMove (Party.worker thread) old.holdsLock new.holdsLock state.lock next.lock
  initMutex : next.initMutex = state.initMutex
  idleThreadNum : next.idleThreadNum ≠ state.idleThreadNum -> old.holdsLock = true
  notFull : new = .raiseIdle -> next.idleThreadNum ≠ next.maxThreadNum
  exits : new = .exited -> state.isRunning = false
  left : new.left + 13 * next.sem < old.left + 13 * state.sem

/-- A caller executes a statement, and after the last one it is gone. -/
structure CallerGoes (state next : StatementState F X) (caller : Nat) (old : AddStatement F)
    (new : Option (AddStatement F)) : Prop extends KeepsModule state next where
  workers : next.workers = state.workers
  callers : next.callers = Function.update state.callers caller new
  lock : MutexMove (Party.caller caller) old.holdsLock (new.any AddStatement.holdsLock) state.lock
    next.lock
  initMutex : MutexMove (Party.caller caller) old.holdsInit (new.any AddStatement.holdsInit)
    state.initMutex next.initMutex
  idleThreadNum : next.idleThreadNum = state.idleThreadNum
  tested : forall jobInfo, new = some (.mallocTmp jobInfo) -> next.isInit = true
  left : new.elim 0 AddStatement.left + 13 * next.sem < old.left + 13 * state.sem

theorem takeLock_eq_some {state next : StatementState F X} {party : Party}
    (taken : state.takeLock party = some next) :
    state.lock = none ∧ next = { state with lock := some party } := by
  unfold StatementState.takeLock at taken
  split at taken
  next free => exact ⟨free, (Option.some.inj taken).symm⟩
  next => cases taken

theorem takeInit_eq_some {state next : StatementState F X} {party : Party}
    (taken : state.takeInit party = some next) :
    state.initMutex = none ∧ next = { state with initMutex := some party } := by
  unfold StatementState.takeInit at taken
  split at taken
  next free => exact ⟨free, (Option.some.inj taken).symm⟩
  next => cases taken

theorem workerStatement_goes {state next : StatementState F X} {thread : Nat} {old : WorkerStatement}
    (taken : workerStatement state thread old = some next) :
    Exists fun new => WorkerGoes state next thread old new := by
  cases old with
  | loopTest =>
      cases taken
      refine ⟨_, ⟨rfl, rfl, rfl⟩, rfl, rfl, ?_, rfl, fun moved => absurd rfl moved, ?_, ?_, ?_⟩
      · split <;> exact .keeps
      · split <;> nofun
      · split
        next => nofun
        next stopped => exact fun _ => Bool.eq_false_iff.mpr stopped
      · split <;> simp [StatementState.goto, WorkerStatement.left]
  | lockIdle =>
      rcases Option.map_eq_some_iff.mp taken with ⟨locked, isLocked, rfl⟩
      rcases takeLock_eq_some isLocked with ⟨free, rfl⟩
      refine ⟨_, ⟨rfl, rfl, rfl⟩, rfl, rfl, ?_, rfl, fun moved => absurd rfl moved, nofun, nofun, ?_⟩
      · rw [free]
        exact .takes
      · simp [StatementState.goto, WorkerStatement.left]
  | testIdle =>
      cases taken
      refine ⟨_, ⟨rfl, rfl, rfl⟩, rfl, rfl, ?_, rfl, fun moved => absurd rfl moved, ?_, ?_, ?_⟩
      · split <;> exact .keeps
      · split
        next notFull => exact fun _ => notFull
        next => nofun
      · split <;> nofun
      · split <;> simp [StatementState.goto, WorkerStatement.left]
  | raiseIdle =>
      cases taken
      refine ⟨_, ⟨rfl, rfl, rfl⟩, rfl, rfl, .keeps, rfl, fun _ => rfl, nofun, nofun, ?_⟩
      simp [StatementState.goto, WorkerStatement.left]
  | unlockIdle =>
      cases taken
      refine ⟨_, ⟨rfl, rfl, rfl⟩, rfl, rfl, .gives, rfl, fun moved => absurd rfl moved, nofun, nofun, ?_⟩
      simp [StatementState.goto, WorkerStatement.left]
  | semWait =>
      simp only [workerStatement] at taken
      split at taken
      · cases taken
      next available =>
        cases taken
        refine ⟨_, ⟨rfl, rfl, rfl⟩, rfl, rfl, .keeps, rfl, fun moved => absurd rfl moved, nofun, nofun, ?_⟩
        simp only [StatementState.goto, WorkerStatement.left]
        omega
  | lockDequeue =>
      rcases Option.map_eq_some_iff.mp taken with ⟨locked, isLocked, rfl⟩
      rcases takeLock_eq_some isLocked with ⟨free, rfl⟩
      refine ⟨_, ⟨rfl, rfl, rfl⟩, rfl, rfl, ?_, rfl, fun moved => absurd rfl moved, nofun, nofun, ?_⟩
      · rw [free]
        exact .takes
      · simp [StatementState.goto, WorkerStatement.left]
  | lowerIdle =>
      cases taken
      refine ⟨_, ⟨rfl, rfl, rfl⟩, rfl, rfl, .keeps, rfl, fun _ => rfl, nofun, nofun, ?_⟩
      simp [StatementState.goto, WorkerStatement.left]
  | deleteTail =>
      rcases Option.map_eq_some_iff.mp taken with ⟨done, _, rfl⟩
      refine ⟨_, ⟨rfl, rfl, rfl⟩, rfl, rfl, ?_, rfl, fun moved => absurd rfl moved, ?_, ?_, ?_⟩
      · split <;> exact .keeps
      · split <;> nofun
      · split <;> nofun
      · split <;> simp [StatementState.goto, WorkerStatement.left]
  | unlockEmpty =>
      cases taken
      refine ⟨_, ⟨rfl, rfl, rfl⟩, rfl, rfl, .gives, rfl, fun moved => absurd rfl moved, nofun, nofun, ?_⟩
      simp [StatementState.goto, WorkerStatement.left]
  | lowerJobs =>
      cases taken
      refine ⟨_, ⟨rfl, rfl, rfl⟩, rfl, rfl, .keeps, rfl, fun moved => absurd rfl moved, nofun, nofun, ?_⟩
      simp [StatementState.goto, WorkerStatement.left]
  | unlockTaken =>
      cases taken
      refine ⟨_, ⟨rfl, rfl, rfl⟩, rfl, rfl, .gives, rfl, fun moved => absurd rfl moved, nofun, nofun, ?_⟩
      simp [StatementState.goto, WorkerStatement.left]
  | fetched =>
      simp only [workerStatement] at taken
      split at taken
      · cases taken
        refine ⟨_, ⟨rfl, rfl, rfl⟩, rfl, rfl, .keeps, rfl, fun moved => absurd rfl moved, nofun, nofun, ?_⟩
        simp [StatementState.goto, WorkerStatement.left]
      · rcases Option.map_eq_some_iff.mp taken with ⟨_, _, rfl⟩
        refine ⟨_, ⟨rfl, rfl, rfl⟩, rfl, rfl, .keeps, rfl, fun moved => absurd rfl moved, nofun, nofun, ?_⟩
        simp [StatementState.goto, WorkerStatement.left]
  | running cur =>
      simp only [workerStatement] at taken
      split at taken
      · cases taken
        refine ⟨_, ⟨rfl, rfl, rfl⟩, rfl, rfl, .keeps, rfl, fun moved => absurd rfl moved, nofun, nofun, ?_⟩
        simp [StatementState.goto, WorkerStatement.left]
      · rcases Option.map_eq_some_iff.mp taken with ⟨_, _, rfl⟩
        refine ⟨_, ⟨rfl, rfl, rfl⟩, rfl, rfl, .keeps, rfl, fun moved => absurd rfl moved, nofun, nofun, ?_⟩
        simp [StatementState.goto, WorkerStatement.left]
  | exited => cases taken

theorem addStatement_goes {state next : StatementState F X} {caller : Nat} {block : Option Nat}
    {old : AddStatement F} (taken : addStatement state caller block old = some next) :
    Exists fun new => CallerGoes state next caller old new := by
  cases old with
  | lockInit jobInfo =>
      rcases Option.map_eq_some_iff.mp taken with ⟨locked, isLocked, rfl⟩
      rcases takeInit_eq_some isLocked with ⟨free, rfl⟩
      refine ⟨_, ⟨rfl, rfl, rfl⟩, rfl, rfl, .keeps, ?_, rfl, nofun, ?_⟩
      · rw [free]
        exact .takes
      · simp [StatementState.gotoAdd, AddStatement.left]
  | testInit jobInfo =>
      cases taken
      refine ⟨_, ⟨rfl, rfl, rfl⟩, rfl, rfl, ?_, ?_, rfl, ?_, ?_⟩
      · split <;> exact .keeps
      · split <;> exact .keeps
      · split
        next isInit => exact fun _ _ => isInit
        next => nofun
      · split <;> simp [StatementState.gotoAdd, AddStatement.left]
  | mallocTmp jobInfo =>
      cases block with
      | none =>
          cases taken
          refine ⟨_, ⟨rfl, rfl, rfl⟩, rfl, rfl, .keeps, .keeps, rfl, nofun, ?_⟩
          simp [StatementState.gotoAdd, AddStatement.left]
      | some index =>
          rcases Option.map_eq_some_iff.mp taken with ⟨heap, _, rfl⟩
          refine ⟨_, ⟨rfl, rfl, rfl⟩, rfl, rfl, .keeps, .keeps, rfl, nofun, ?_⟩
          simp [StatementState.gotoAdd, AddStatement.left]
  | createNode jobInfo tmp =>
      rcases Option.map_eq_some_iff.mp taken with ⟨⟨node, heap⟩, _, rfl⟩
      cases node with
      | none =>
          refine ⟨_, ⟨rfl, rfl, rfl⟩, rfl, rfl, .keeps, .keeps, rfl, nofun, ?_⟩
          simp [StatementState.gotoAdd, AddStatement.left]
      | some node =>
          refine ⟨_, ⟨rfl, rfl, rfl⟩, rfl, rfl, .keeps, .keeps, rfl, nofun, ?_⟩
          simp [StatementState.gotoAdd, AddStatement.left]
  | freeTmp jobInfo tmp =>
      rcases Option.map_eq_some_iff.mp taken with ⟨heap, _, rfl⟩
      refine ⟨_, ⟨rfl, rfl, rfl⟩, rfl, rfl, .keeps, .keeps, rfl, nofun, ?_⟩
      simp [StatementState.gotoAdd, AddStatement.left]
  | lockList jobInfo tmp node =>
      rcases Option.map_eq_some_iff.mp taken with ⟨locked, isLocked, rfl⟩
      rcases takeLock_eq_some isLocked with ⟨free, rfl⟩
      refine ⟨_, ⟨rfl, rfl, rfl⟩, rfl, rfl, ?_, .keeps, rfl, nofun, ?_⟩
      · rw [free]
        exact .takes
      · simp [StatementState.gotoAdd, AddStatement.left]
  | insertHead jobInfo tmp node =>
      rcases Option.map_eq_some_iff.mp taken with ⟨done, _, rfl⟩
      refine ⟨_, ⟨rfl, rfl, rfl⟩, rfl, rfl, .keeps, .keeps, rfl, nofun, ?_⟩
      simp [StatementState.gotoAdd, AddStatement.left]
  | raiseJobs =>
      cases taken
      refine ⟨_, ⟨rfl, rfl, rfl⟩, rfl, rfl, .keeps, .keeps, rfl, nofun, ?_⟩
      simp [StatementState.gotoAdd, AddStatement.left]
  | unlockList =>
      cases taken
      refine ⟨_, ⟨rfl, rfl, rfl⟩, rfl, rfl, .gives, .keeps, rfl, nofun, ?_⟩
      simp [StatementState.gotoAdd, AddStatement.left]
  | post =>
      cases taken
      refine ⟨_, ⟨rfl, rfl, rfl⟩, rfl, rfl, .keeps, .keeps, rfl, nofun, ?_⟩
      simp only [StatementState.gotoAdd, AddStatement.left, Option.elim_some]
      omega
  | unlockInit =>
      cases taken
      refine ⟨_, ⟨rfl, rfl, rfl⟩, rfl, rfl, .keeps, .gives, rfl, nofun, ?_⟩
      simp [StatementState.returns, AddStatement.left]

/-! ## The owners of the mutexes -/

section Owners

variable {state next : StatementState F X} {thread caller : Nat}

theorem guarded_start (pool : PoolState F X) (threads : forall pc, pc ∈ pool.threads ->
    pc = .exited ∨ pc = .loopTest) : Guarded pool.statements where
  lock := by
    rintro (thread | caller)
    · refine iff_of_false nofun ?_
      cases at_ : pool.threads[thread]? with
      | none => simp [HoldsLock, PoolState.statements, at_]
      | some pc =>
          rcases threads pc (List.mem_of_getElem? at_) with rfl | rfl
          · simp [HoldsLock, PoolState.statements, at_, WorkerPc.statement, WorkerStatement.holdsLock]
          · simp [HoldsLock, PoolState.statements, at_, WorkerPc.statement, WorkerStatement.holdsLock]
    · exact iff_of_false nofun (by simp [HoldsLock, PoolState.statements])
  initMutex := by
    rintro (thread | caller)
    · exact iff_of_false nofun id
    · exact iff_of_false nofun (by simp [HoldsInit, PoolState.statements])
  notFull := by
    intro thread at_
    simp only [PoolState.statements] at at_
    rcases Option.map_eq_some_iff.mp at_ with ⟨pc, isPc, isRaise⟩
    rcases threads pc (List.mem_of_getElem? isPc) with rfl | rfl
    · cases isRaise
    · cases isRaise
  tested := nofun

/-- A worker inside is the owner of the lock. -/
theorem Guarded.lock_worker (guarded : Guarded state) {statement : WorkerStatement}
    (at_ : state.workers thread = some statement) (inside : statement.holdsLock = true) :
    state.lock = some (.worker thread) := by
  apply (guarded.lock _).mpr
  simp only [HoldsLock, at_, Option.any_some, inside]

theorem Guarded.init_caller (guarded : Guarded state) {statement : AddStatement F}
    (at_ : state.callers caller = some statement) (inside : statement.holdsInit = true) :
    state.initMutex = some (.caller caller) := by
  apply (guarded.initMutex _).mpr
  simp only [HoldsInit, at_, Option.any_some, inside]

theorem Guarded.works {old new : WorkerStatement} (guarded : Guarded state)
    (at_ : state.workers thread = some old) (goes : WorkerGoes state next thread old new) :
    Guarded next where
  lock := by
    refine guarded.lock.move goes.lock ?_ ?_ ?_
    · simp only [HoldsLock, at_, Option.any_some]
    · simp only [HoldsLock, goes.workers, Function.update_self, Option.any_some]
    · rintro (other | other) different
      · have elsewhere : other ≠ thread := fun same => different (same ▸ rfl)
        simp only [HoldsLock, goes.workers, Function.update_of_ne elsewhere]
      · simp only [HoldsLock, goes.callers]
  initMutex := by
    rw [goes.initMutex]
    refine guarded.initMutex.congr ?_
    rintro (other | other)
    · exact Iff.rfl
    · simp only [HoldsInit, goes.callers]
  notFull := by
    intro other otherAt
    rw [goes.workers] at otherAt
    by_cases same : other = thread
    · subst same
      rw [Function.update_self] at otherAt
      exact goes.notFull (Option.some.inj otherAt)
    · -- Only the owner of the lock changes the counter, and the owner is the other worker.
      rw [Function.update_of_ne same] at otherAt
      rw [goes.maxThreadNum]
      by_cases moved : next.idleThreadNum = state.idleThreadNum
      · rw [moved]
        exact guarded.notFull other otherAt
      · have owner := guarded.lock_worker at_ (goes.idleThreadNum moved)
        have otherOwner := guarded.lock_worker otherAt rfl
        cases owner.symm.trans otherOwner
        exact absurd rfl same
  tested := by
    rw [goes.callers, goes.isInit]
    exact guarded.tested

theorem Guarded.adds {old : AddStatement F} {new : Option (AddStatement F)} (guarded : Guarded state)
    (at_ : state.callers caller = some old) (goes : CallerGoes state next caller old new) :
    Guarded next where
  lock := by
    refine guarded.lock.move goes.lock ?_ ?_ ?_
    · simp only [HoldsLock, at_, Option.any_some]
    · simp only [HoldsLock, goes.callers, Function.update_self]
    · rintro (other | other) different
      · simp only [HoldsLock, goes.workers]
      · have elsewhere : other ≠ caller := fun same => different (same ▸ rfl)
        simp only [HoldsLock, goes.callers, Function.update_of_ne elsewhere]
  initMutex := by
    refine guarded.initMutex.move goes.initMutex ?_ ?_ ?_
    · simp only [HoldsInit, at_, Option.any_some]
    · simp only [HoldsInit, goes.callers, Function.update_self]
    · rintro (other | other) different
      · exact Iff.rfl
      · have elsewhere : other ≠ caller := fun same => different (same ▸ rfl)
        simp only [HoldsInit, goes.callers, Function.update_of_ne elsewhere]
  notFull := by
    rw [goes.workers, goes.idleThreadNum, goes.maxThreadNum]
    exact guarded.notFull
  tested := by
    intro other jobInfo otherAt
    rw [goes.callers] at otherAt
    by_cases same : other = caller
    · subst same
      rw [Function.update_self] at otherAt
      exact goes.tested jobInfo otherAt
    · rw [Function.update_of_ne same] at otherAt
      rw [goes.isInit]
      exact guarded.tested other jobInfo otherAt

/-- A caller that comes has no mutex. -/
theorem Guarded.calls (guarded : Guarded state) (outside : state.callers caller = none)
    (jobInfo : ThreadPoolJobInfo F) : Guarded (state.gotoAdd caller (.lockInit jobInfo)) where
  lock := by
    refine guarded.lock.congr ?_
    rintro (other | other)
    · exact Iff.rfl
    · by_cases same : other = caller
      · subst same
        simp [HoldsLock, StatementState.gotoAdd, outside, AddStatement.holdsLock]
      · simp only [HoldsLock, StatementState.gotoAdd, Function.update_of_ne same]
  initMutex := by
    refine guarded.initMutex.congr ?_
    rintro (other | other)
    · exact Iff.rfl
    · by_cases same : other = caller
      · subst same
        simp [HoldsInit, StatementState.gotoAdd, outside, AddStatement.holdsInit]
      · simp only [HoldsInit, StatementState.gotoAdd, Function.update_of_ne same]
  notFull := guarded.notFull
  tested := by
    intro other jobInfo otherAt
    simp only [StatementState.gotoAdd] at otherAt
    by_cases same : other = caller
    · subst same
      rw [Function.update_self] at otherAt
      cases otherAt
    · rw [Function.update_of_ne same] at otherAt
      exact guarded.tested other jobInfo otherAt

theorem Guarded.heap (guarded : Guarded state) (heap : PoolHeap F X) :
    Guarded { state with heap := heap } :=
  ⟨guarded.lock, guarded.initMutex, guarded.notFull, guarded.tested⟩

end Owners

/-! ## Everything that a step can be -/

inductive StatementMove (state : StatementState F X) :
    StatementLabel F X -> StatementState F X -> Prop where
  | works {thread : Nat} {block : Option Nat} {next : StatementState F X} (old : WorkerStatement)
      (at_ : state.workers thread = some old) (taken : workerStatement state thread old = some next) :
      StatementMove state (.thread (.worker thread) block) next
  | adds {caller : Nat} {block : Option Nat} {next : StatementState F X} (old : AddStatement F)
      (at_ : state.callers caller = some old)
      (taken : addStatement state caller block old = some next) :
      StatementMove state (.thread (.caller caller) block) next
  | rejects (caller : Nat) (jobFunc : Option F) (arg : Option Addr) :
      StatementMove state (.call caller jobFunc arg) state
  | calls (caller : Nat) (jobFunc : F) (arg : Addr) (outside : state.callers caller = none) :
      StatementMove state (.call caller (some jobFunc) (some arg))
        (state.gotoAdd caller (.lockInit ⟨jobFunc, arg⟩))
  | mallocs (index : Nat) (object : X) (heap : PoolHeap F X)
      (done : state.heap.malloc (.block index) (.data (.user object)) = some heap) :
      StatementMove state (.userMalloc index object) { state with heap := heap }
  | frees (address : Addr) (object : X) (heap : PoolHeap F X)
      (held : state.heap.content address = some (.user object))
      (freed : state.heap.free address = some heap) :
      StatementMove state (.userFree address) { state with heap := heap }

theorem statementStep_cases {state next : StatementState F X} {label : StatementLabel F X}
    (stepped : statementStep state label = some next) : StatementMove state label next := by
  cases label with
  | thread party block =>
      cases party with
      | worker thread =>
          rcases Option.bind_eq_some_iff.mp stepped with ⟨old, at_, taken⟩
          exact .works old at_ taken
      | caller caller =>
          rcases Option.bind_eq_some_iff.mp stepped with ⟨old, at_, taken⟩
          exact .adds old at_ taken
  | call caller jobFunc arg =>
      simp only [statementStep, callStatement] at stepped
      split at stepped
      next jobFunc arg =>
        split at stepped
        next outside =>
          cases stepped
          exact .calls caller jobFunc arg outside
        next => cases stepped
      next =>
        cases stepped
        exact .rejects caller _ _
  | userMalloc index object =>
      rcases Option.map_eq_some_iff.mp stepped with ⟨heap, done, rfl⟩
      exact .mallocs index object heap done
  | userFree address =>
      simp only [statementStep] at stepped
      split at stepped
      next object held =>
        rcases Option.map_eq_some_iff.mp stepped with ⟨heap, freed, rfl⟩
        exact .frees address object heap held freed
      next => cases stepped

theorem guarded_step {state next : StatementState F X} {label : StatementLabel F X}
    (guarded : Guarded state) (stepped : statementStep state label = some next) : Guarded next := by
  cases statementStep_cases stepped with
  | works old at_ taken =>
      rcases workerStatement_goes taken with ⟨new, goes⟩
      exact guarded.works at_ goes
  | adds old at_ taken =>
      rcases addStatement_goes taken with ⟨new, goes⟩
      exact guarded.adds at_ goes
  | rejects => exact guarded
  | calls caller jobFunc arg outside => exact guarded.calls outside ⟨jobFunc, arg⟩
  | mallocs index object heap => exact guarded.heap heap
  | frees address object heap => exact guarded.heap heap

end ThreadPool
end V2x
