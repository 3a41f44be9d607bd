import V2x.Foundations.TransitionSystem
import V2x.ThreadPool.Pool

namespace V2x
namespace ThreadPool

open Foundations

/-!
# Adding jobs while the workers run

`ThreadPoolAddJob` holds `g_initMutex` from its first access to its return, so of
any number of callers one is inside and the others wait for the mutex.  The
machine has the steps of the caller inside, the steps of all workers, and the
allocations that the rest of the program makes for its own objects.
-/

/-- Where the caller that holds `g_initMutex` stands in `ThreadPoolAddJob`. -/
inductive AddPc (F : Type) where
  | locked (jobInfo : ThreadPoolJobInfo F)
  | allocated (jobInfo : ThreadPoolJobInfo F) (tmp : Addr)
  | created (jobInfo : ThreadPoolJobInfo F) (tmp node : Addr)
  | inserted
  | posted
deriving DecidableEq, Repr

/-- The holder of `g_initMutex`. -/
structure Adder (F : Type) where
  caller : Nat
  pc : AddPc F
deriving DecidableEq, Repr

/-- The pool among its callers. -/
structure SharedPool (F X : Type) where
  pool : PoolState F X
  initMutex : Option (Adder F)

/-- A step of a caller or of what moves besides.  The labels carry what `malloc`
returned. -/
inductive PoolLabel (F X : Type) where
  | enter (caller : Nat) (jobFunc : Option F) (arg : Option Addr)
  | allocate (caller : Nat) (tmp : Option Nat)
  | create (caller : Nat) (node : Option Nat)
  | insert (caller : Nat)
  | post (caller : Nat)
  | leave (caller : Nat)
  | background (label : Background X)

variable {F X : Type}

/-- The check of the arguments and `pthread_mutex_lock(&g_initMutex)`. -/
def enterStep (state : SharedPool F X) (caller : Nat) (jobFunc : Option F) (arg : Option Addr) :
    Option (SharedPool F X) :=
  match jobFunc, arg with
  | some jobFunc, some arg =>
      match state.initMutex with
      | none => some { state with initMutex := some ⟨caller, .locked ⟨jobFunc, arg⟩⟩ }
      | some _ => none
  | _, _ => some state

/-- The test of `g_isInit` and `malloc` of the job description. -/
def allocateStep (state : SharedPool F X) (jobInfo : ThreadPoolJobInfo F) (caller : Nat)
    (tmp : Option Nat) : Option (SharedPool F X) :=
  if ¬ state.pool.isInit then some { state with initMutex := none }
  else
    match tmp with
    | none => some { state with initMutex := none }
    | some index =>
        (state.pool.heap.malloc (.block index) (.data (.jobNode jobInfo))).map (fun heap =>
          { pool := { state.pool with heap := heap }
            initMutex := some ⟨caller, .allocated jobInfo (.block index)⟩ })

/-- `CreateDoublyLinkedListNode(tmp)`; without a cell the description is freed. -/
def createStep (state : SharedPool F X) (jobInfo : ThreadPoolJobInfo F) (tmp : Addr) (caller : Nat)
    (node : Option Nat) : Option (SharedPool F X) := do
  let (created, heap) <- createDoublyLinkedListNode state.pool.heap (some tmp) (node.map .block)
  match created with
  | none =>
      let heap <- heap.free tmp
      return { pool := { state.pool with heap := heap }, initMutex := none }
  | some node =>
      return { pool := { state.pool with heap := heap }
               initMutex := some ⟨caller, .created jobInfo tmp node⟩ }

/-- The section under `g_threadPoolInfo.lock`. -/
def insertStep (state : SharedPool F X) (jobInfo : ThreadPoolJobInfo F) (node : Addr)
    (caller : Nat) : Option (SharedPool F X) :=
  (insertHeadDoublyLinkedListNode state.pool.heap (some .jobListHead) (some node)).map (fun done =>
    { pool := { state.pool with
        heap := done.2
        curJobNum := state.pool.curJobNum + 1
        accepted := state.pool.accepted ++ [jobInfo] }
      initMutex := some ⟨caller, .inserted⟩ })

/-- The steps of `ThreadPoolAddJob` after it has got the mutex. -/
def addStep (state : SharedPool F X) (adder : Adder F) :
    PoolLabel F X -> Option (SharedPool F X)
  | .allocate caller tmp =>
      match adder.pc with
      | .locked jobInfo =>
          if caller = adder.caller then allocateStep state jobInfo caller tmp else none
      | _ => none
  | .create caller node =>
      match adder.pc with
      | .allocated jobInfo tmp =>
          if caller = adder.caller then createStep state jobInfo tmp caller node else none
      | _ => none
  | .insert caller =>
      match adder.pc with
      | .created jobInfo _ node =>
          if caller = adder.caller then insertStep state jobInfo node caller else none
      | _ => none
  | .post caller =>
      match adder.pc with
      | .inserted =>
          if caller = adder.caller then
            some { pool := { state.pool with sem := state.pool.sem + 1 }
                   initMutex := some ⟨caller, .posted⟩ }
          else none
      | _ => none
  | .leave caller =>
      match adder.pc with
      | .posted => if caller = adder.caller then some { state with initMutex := none } else none
      | _ => none
  | _ => none

/-- The steps of the caller inside `ThreadPoolAddJob`. -/
inductive AddMove (state : SharedPool F X) (caller : Nat) :
    AddPc F -> PoolLabel F X -> SharedPool F X -> Prop where
  | refused (jobInfo : ThreadPoolJobInfo F) (tmp : Option Nat)
      (notInit : state.pool.isInit = false) :
      AddMove state caller (.locked jobInfo) (.allocate caller tmp) { state with initMutex := none }
  | noMemory (jobInfo : ThreadPoolJobInfo F) (isInit : state.pool.isInit = true) :
      AddMove state caller (.locked jobInfo) (.allocate caller none) { state with initMutex := none }
  | allocates (jobInfo : ThreadPoolJobInfo F) (index : Nat) (heap : PoolHeap F X)
      (isInit : state.pool.isInit = true)
      (done : state.pool.heap.malloc (.block index) (.data (.jobNode jobInfo)) = some heap) :
      AddMove state caller (.locked jobInfo) (.allocate caller (some index))
        { pool := { state.pool with heap := heap }
          initMutex := some ⟨caller, .allocated jobInfo (.block index)⟩ }
  | givesUp (jobInfo : ThreadPoolJobInfo F) (tmp : Addr) (heap : PoolHeap F X)
      (freed : state.pool.heap.free tmp = some heap) :
      AddMove state caller (.allocated jobInfo tmp) (.create caller none)
        { pool := { state.pool with heap := heap }, initMutex := none }
  | creates (jobInfo : ThreadPoolJobInfo F) (tmp : Addr) (index : Nat) (heap : PoolHeap F X)
      (done : createDoublyLinkedListNode state.pool.heap (some tmp) (some (.block index)) =
        some (some (.block index), heap)) :
      AddMove state caller (.allocated jobInfo tmp) (.create caller (some index))
        { pool := { state.pool with heap := heap }
          initMutex := some ⟨caller, .created jobInfo tmp (.block index)⟩ }
  | inserts (jobInfo : ThreadPoolJobInfo F) (tmp node : Addr) (ret : Int) (heap : PoolHeap F X)
      (done : insertHeadDoublyLinkedListNode state.pool.heap (some .jobListHead) (some node) =
        some (ret, heap)) :
      AddMove state caller (.created jobInfo tmp node) (.insert caller)
        { pool := { state.pool with
            heap := heap
            curJobNum := state.pool.curJobNum + 1
            accepted := state.pool.accepted ++ [jobInfo] }
          initMutex := some ⟨caller, .inserted⟩ }
  | posts : AddMove state caller .inserted (.post caller)
      { pool := { state.pool with sem := state.pool.sem + 1 }
        initMutex := some ⟨caller, .posted⟩ }
  | leaves : AddMove state caller .posted (.leave caller) { state with initMutex := none }

theorem allocateStep_cases {state next : SharedPool F X} {jobInfo : ThreadPoolJobInfo F}
    {caller : Nat} {tmp : Option Nat}
    (stepped : allocateStep state jobInfo caller tmp = some next) :
    AddMove state caller (.locked jobInfo) (.allocate caller tmp) next := by
  unfold allocateStep at stepped
  split at stepped
  next notInit =>
    cases stepped
    exact .refused jobInfo tmp (Bool.eq_false_iff.mpr notInit)
  next notRefused =>
    have isInit := not_not.mp notRefused
    cases tmp with
    | none =>
        cases stepped
        exact .noMemory jobInfo isInit
    | some index =>
        rcases Option.map_eq_some_iff.mp stepped with ⟨heap, done, rfl⟩
        exact .allocates jobInfo index heap isInit done

theorem createStep_cases {state next : SharedPool F X} {jobInfo : ThreadPoolJobInfo F}
    {tmp : Addr} {caller : Nat} {node : Option Nat}
    (stepped : createStep state jobInfo tmp caller node = some next) :
    AddMove state caller (.allocated jobInfo tmp) (.create caller node) next := by
  cases node with
  | none =>
      rcases Option.bind_eq_some_iff.mp stepped with ⟨heap, freed, isNext⟩
      cases isNext
      exact .givesUp jobInfo tmp heap freed
  | some index =>
      rcases Option.bind_eq_some_iff.mp stepped with ⟨⟨created, heap⟩, done, isNext⟩
      have isNode : created = some (.block index) := by
        rcases Option.bind_eq_some_iff.mp done with ⟨first, _, rest⟩
        rcases Option.bind_eq_some_iff.mp rest with ⟨second, _, isResult⟩
        cases isResult
        rfl
      subst isNode
      cases isNext
      exact .creates jobInfo tmp index heap done

theorem addStep_cases {state next : SharedPool F X} {adder : Adder F} {label : PoolLabel F X}
    (stepped : addStep state adder label = some next) :
    AddMove state adder.caller adder.pc label next := by
  unfold addStep at stepped
  split at stepped
  next caller tmp =>
    split at stepped
    next jobInfo isPc =>
      split at stepped
      next same =>
        rw [isPc, same]
        exact allocateStep_cases (same ▸ stepped)
      next => cases stepped
    next => cases stepped
  next caller node =>
    split at stepped
    next jobInfo tmp isPc =>
      split at stepped
      next same =>
        rw [isPc, same]
        exact createStep_cases (same ▸ stepped)
      next => cases stepped
    next => cases stepped
  next caller =>
    split at stepped
    next jobInfo tmp node isPc =>
      split at stepped
      next same =>
        rcases Option.map_eq_some_iff.mp stepped with ⟨⟨ret, heap⟩, done, rfl⟩
        rw [isPc, same]
        exact .inserts jobInfo tmp node ret heap done
      next => cases stepped
    next => cases stepped
  next caller =>
    split at stepped
    next isPc =>
      split at stepped
      next same =>
        cases stepped
        rw [isPc, same]
        exact .posts
      next => cases stepped
    next => cases stepped
  next caller =>
    split at stepped
    next isPc =>
      split at stepped
      next same =>
        cases stepped
        rw [isPc, same]
        exact .leaves
      next => cases stepped
    next => cases stepped
  next => cases stepped

def poolStep (state : SharedPool F X) : PoolLabel F X -> Option (SharedPool F X)
  | .enter caller jobFunc arg => enterStep state caller jobFunc arg
  | .background label =>
      (backgroundStep state.pool label).map (fun pool => { state with pool := pool })
  | label => state.initMutex.bind (fun adder => addStep state adder label)

/-- The steps of the pool: of the caller inside, of a caller that comes, and of
what moves besides. -/
inductive PoolMove (state : SharedPool F X) : PoolLabel F X -> SharedPool F X -> Prop where
  | rejects (caller : Nat) (jobFunc : Option F) (arg : Option Addr)
      (invalid : jobFunc = none ∨ arg = none) : PoolMove state (.enter caller jobFunc arg) state
  | enters (caller : Nat) (jobFunc : F) (arg : Addr) (unlocked : state.initMutex = none) :
      PoolMove state (.enter caller (some jobFunc) (some arg))
        { state with initMutex := some ⟨caller, .locked ⟨jobFunc, arg⟩⟩ }
  | adds {label : PoolLabel F X} {next : SharedPool F X} (adder : Adder F)
      (isHolder : state.initMutex = some adder) (added : addStep state adder label = some next) :
      PoolMove state label next
  | moves (label : Background X) (pool : PoolState F X)
      (moved : backgroundStep state.pool label = some pool) :
      PoolMove state (.background label) { state with pool := pool }

theorem poolStep_cases {state next : SharedPool F X} {label : PoolLabel F X}
    (stepped : poolStep state label = some next) : PoolMove state label next := by
  cases label with
  | enter caller jobFunc arg =>
      simp only [poolStep, enterStep] at stepped
      split at stepped
      · split at stepped
        next unlocked =>
          cases stepped
          exact .enters caller _ _ unlocked
        next => cases stepped
      next invalid =>
        cases stepped
        apply PoolMove.rejects caller jobFunc arg
        cases jobFunc with
        | none => exact Or.inl rfl
        | some jobFunc =>
            cases arg with
            | none => exact Or.inr rfl
            | some arg => exact absurd rfl (invalid jobFunc arg rfl)
  | background label =>
      rcases Option.map_eq_some_iff.mp stepped with ⟨pool, moved, rfl⟩
      exact .moves label pool moved
  | allocate | create | insert | post | leave =>
      rcases Option.bind_eq_some_iff.mp stepped with ⟨adder, isHolder, added⟩
      exact .adds adder isHolder added

/-- The pool as a machine. -/
def pool (F X : Type) : Machine (SharedPool F X) (PoolLabel F X) where
  step := poolStep

/-- The pool that an initialisation starts is the first state of a run, of
whatever machine the pool is part of. -/
theorem InitResult.exists_run {State Label View : Type} {machine : Machine State Label}
    {initial : Option (InitResult F X)} {enter : PoolState F X -> State} {labels : List Label}
    {observe : PoolState F X -> State -> View} {view : View}
    (reached : (initial.bind InitResult.started).bind (fun start =>
      (machine.run (enter start) labels).map (observe start)) = some view) :
    Exists fun start => Exists fun final => initial = some (.returned 0 start) ∧
      machine.run (enter start) labels = some final ∧ observe start final = view := by
  rcases Option.bind_eq_some_iff.mp reached with ⟨start, initialised, rest⟩
  rcases Option.bind_eq_some_iff.mp initialised with ⟨result, done, started⟩
  rcases Option.map_eq_some_iff.mp rest with ⟨final, ran, observed⟩
  rw [InitResult.eq_of_started started] at done
  exact ⟨start, final, done, ran, observed⟩

end ThreadPool
end V2x
