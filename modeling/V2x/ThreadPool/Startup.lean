import V2x.ThreadPool.Pool

namespace V2x
namespace ThreadPool

open Foundations

/-!
# What `ThreadPoolInit` and the workers leave unchanged

The flags and the thread ids of the pool are written by the calls of the
interface only.  `BackgroundChange` says so for everything that moves besides,
and `Crew` says which threads an initialisation has created: their numbers are
consecutive, and every other thread id belongs to an older thread or to none.
-/

variable {F X : Type}

/-! ## What moves besides the callers -/

/-- The flags, the ids and the number of threads are as before. -/
structure KeepsFlags (state next : PoolState F X) : Prop where
  isInit : next.isInit = state.isInit
  isRunning : next.isRunning = state.isRunning
  maxThreadNum : next.maxThreadNum = state.maxThreadNum
  threadId : next.threadId = state.threadId
  length : next.threads.length = state.threads.length

theorem KeepsFlags.refl (state : PoolState F X) : KeepsFlags state state :=
  ⟨rfl, rfl, rfl, rfl, rfl⟩

/-- Besides, at most one thread moves, and it ends only after the flag
`isRunning` was taken away. -/
structure BackgroundChange (state next : PoolState F X) : Prop extends
    KeepsFlags state next where
  threads : next.threads = state.threads ∨ Exists fun thread => Exists fun new =>
    next.threads = state.threads.set thread new ∧ (new = .exited -> state.isRunning = false)

namespace BackgroundChange

variable {state next : PoolState F X}

/-- A step that moves one thread. -/
theorem moved (middle : PoolState F X) (thread : Nat) {new : WorkerPc}
    (ends : new = .exited -> state.isRunning = false)
    (same : middle = { state with
      sem := middle.sem
      idleThreadNum := middle.idleThreadNum
      curJobNum := middle.curJobNum
      heap := middle.heap
      dequeued := middle.dequeued }) :
    BackgroundChange state (middle.goto thread new) := by
  rw [same]
  exact ⟨⟨rfl, rfl, rfl, rfl, List.length_set⟩, Or.inr ⟨thread, new, rfl, ends⟩⟩

/-- Threads do not end while the pool is running. -/
theorem alive (change : BackgroundChange state next) (running : state.isRunning = true) (base : Nat)
    (before : forall pc, pc ∈ state.threads.drop base -> pc ≠ .exited) (pc : WorkerPc)
    (member : pc ∈ next.threads.drop base) : pc ≠ .exited := by
  rcases change.threads with same | ⟨thread, new, isSet, ends⟩
  · rw [same] at member
    exact before pc member
  · rw [isSet, List.drop_set] at member
    split at member
    · exact before pc member
    · rcases List.mem_or_eq_of_mem_set member with old | isNew
      · exact before pc old
      · rintro rfl
        rw [ends isNew.symm] at running
        cases running

end BackgroundChange

theorem workerStep_change {state next : PoolState F X} {thread : Nat}
    (stepped : workerStep state thread = some next) : BackgroundChange state next := by
  cases workerStep_cases stepped with
  | exits at_ stopped => exact .moved state thread (fun _ => stopped) rfl
  | loops | idles | waits | findsNone | takes | calls | finishes | skips =>
      exact .moved _ thread nofun rfl

theorem backgroundStep_change {state next : PoolState F X} {label : Background X}
    (stepped : backgroundStep state label = some next) : BackgroundChange state next := by
  cases label with
  | worker thread => exact workerStep_change stepped
  | userMalloc index object =>
      rcases Option.map_eq_some_iff.mp stepped with ⟨_, _, rfl⟩
      exact ⟨⟨rfl, rfl, rfl, rfl, rfl⟩, Or.inl rfl⟩
  | userFree address =>
      simp only [backgroundStep] at stepped
      split at stepped
      · rcases Option.map_eq_some_iff.mp stepped with ⟨_, _, rfl⟩
        exact ⟨⟨rfl, rfl, rfl, rfl, rfl⟩, Or.inl rfl⟩
      · cases stepped

/-! ## The lock and the semaphore -/

/-- Neither of the two is made or destroyed. -/
structure KeepsObjects (state next : PoolState F X) : Prop where
  lockLive : next.lockLive = state.lockLive
  semLive : next.semLive = state.semLive

theorem KeepsObjects.trans {first second third : PoolState F X} (before : KeepsObjects first second)
    (after : KeepsObjects second third) : KeepsObjects first third :=
  ⟨after.lockLive.trans before.lockLive, after.semLive.trans before.semLive⟩

theorem backgroundStep_objects {state next : PoolState F X} {label : Background X}
    (stepped : backgroundStep state label = some next) : KeepsObjects state next := by
  cases label with
  | worker thread => cases workerStep_cases stepped <;> exact ⟨rfl, rfl⟩
  | userMalloc index object =>
      rcases Option.map_eq_some_iff.mp stepped with ⟨_, _, rfl⟩
      exact ⟨rfl, rfl⟩
  | userFree address =>
      simp only [backgroundStep] at stepped
      split at stepped
      · rcases Option.map_eq_some_iff.mp stepped with ⟨_, _, rfl⟩
        exact ⟨rfl, rfl⟩
      · cases stepped

/-! ## The cases of `ThreadPoolInit` -/

/-- Only an allocated head can be initialised. -/
theorem cell_isSome_of_init {heap after : PoolHeap F X} {node : Addr} {ret : Option Int}
    (done : initDoublyLinkedListNode heap (some node) = some (ret, after)) :
    (heap.cell node).isSome := by
  rcases Option.bind_eq_some_iff.mp done with ⟨middle, nextDone, _⟩
  rcases Option.map_eq_some_iff.mp nextDone with ⟨found, isCell, _⟩
  rw [isCell]
  rfl

/-- Every outcome of `ThreadPoolInit`. -/
theorem threadPoolInit_cases {state : PoolState F X} {threadNum : Int} {outcome : InitOutcome}
    {result : InitResult F X} (done : threadPoolInit state threadNum outcome = some result) :
    ((threadNum ≤ 0 ∨ threadPoolNumMax ≤ threadNum) ∧ result = .returned (-3) state) ∨
    ((0 < threadNum ∧ threadNum < threadPoolNumMax) ∧
      ((state.isInit = true ∧ result = .returned 0 state) ∨
      (state.isInit = false ∧ Exists fun heap => HeapRing heap .jobListHead [] ∧
        ((outcome.mutexInit ≠ 0 ∧
            result = .returned outcome.mutexInit (state.reset threadNum heap)) ∨
        (outcome.mutexInit = 0 ∧ outcome.semInit ≠ 0 ∧
            result = .returned outcome.semInit
              { state.reset threadNum heap with lockLive := false }) ∨
        (outcome.mutexInit = 0 ∧ outcome.semInit = 0 ∧
            createWorkers outcome.created 0 threadNum.toNat (state.reset threadNum heap).opened =
              some result))))) := by
  unfold threadPoolInit at done
  split at done
  next invalid => exact Or.inl ⟨invalid, (Option.some.inj done).symm⟩
  next valid =>
    refine Or.inr ⟨by omega, ?_⟩
    split at done
    next isInit => exact Or.inl ⟨isInit, (Option.some.inj done).symm⟩
    next notInit =>
      rcases Option.bind_eq_some_iff.mp done with ⟨⟨ret, heap⟩, headDone, rest⟩
      rcases initDoublyLinkedListNode_spec (cell_isSome_of_init headDone) with
        ⟨after, again, ring, _, _⟩
      rw [headDone] at again
      cases again
      refine Or.inr ⟨Bool.eq_false_iff.mpr notInit, heap, ring, ?_⟩
      dsimp only at rest
      split at rest
      next failed => exact Or.inl ⟨failed, (Option.some.inj rest).symm⟩
      next locked =>
        split at rest
        next failed =>
          exact Or.inr (Or.inl ⟨not_not.mp locked, failed, (Option.some.inj rest).symm⟩)
        next opened => exact Or.inr (Or.inr ⟨not_not.mp locked, not_not.mp opened, rest⟩)

/-- A first initialisation that succeeds creates its workers. -/
theorem created_of_threadPoolInit {pre start : PoolState F X} {threadNum : Int} {outcome : InitOutcome}
    (uninitialised : pre.isInit = false)
    (initialised : threadPoolInit pre threadNum outcome = some (.returned 0 start)) :
    0 < threadNum ∧ Exists fun heap => HeapRing heap .jobListHead [] ∧
      createWorkers outcome.created 0 threadNum.toNat (pre.reset threadNum heap).opened =
        some (.returned 0 start) := by
  rcases threadPoolInit_cases initialised with
    ⟨_, isResult⟩ | ⟨range, ⟨isInit, _⟩ | ⟨_, heap, ring, failed | failed | ⟨_, _, created⟩⟩⟩
  · cases isResult
  · rw [uninitialised] at isInit
    cases isInit
  · rcases failed with ⟨nonzero, isResult⟩
    injection isResult with isZero
    exact absurd isZero.symm nonzero
  · rcases failed with ⟨_, nonzero, isResult⟩
    injection isResult with isZero
    exact absurd isZero.symm nonzero
  · exact ⟨range.1, heap, ring, created⟩

/-! ## The threads that were created -/

/-- The threads of an initialisation are those from `base` on. -/
structure Crew (state : PoolState F X) (base num : Nat) : Prop where
  length : state.threads.length = base + num
  ids : forall idx, idx < num -> state.threadId idx = some (base + idx)
  others : forall idx thread, num ≤ idx -> state.threadId idx = some thread -> thread < base

/-- Before any thread is created, the ids in use belong to the past. -/
theorem Crew.start {state : PoolState F X}
    (ids : forall idx thread, state.threadId idx = some thread -> thread < state.threads.length) :
    Crew state state.threads.length 0 where
  length := rfl
  ids := fun _ below => absurd below (Nat.not_lt_zero _)
  others := fun idx thread _ isId => ids idx thread isId

/-- Every id belongs to a thread. -/
theorem Crew.ids_lt {state : PoolState F X} {base num : Nat} (crew : Crew state base num)
    {idx thread : Nat} (isId : state.threadId idx = some thread) : thread < state.threads.length := by
  rw [crew.length]
  by_cases below : idx < num
  · rw [crew.ids idx below] at isId
    have position := Option.some.inj isId
    omega
  · exact Nat.lt_add_right num (crew.others idx thread (Nat.not_lt.mp below) isId)

theorem Crew.congr {state next : PoolState F X} {base num : Nat} (crew : Crew state base num)
    (sameIds : next.threadId = state.threadId)
    (sameLength : next.threads.length = state.threads.length) : Crew next base num where
  length := sameLength.trans crew.length
  ids := sameIds ▸ crew.ids
  others := sameIds ▸ crew.others

theorem Crew.spawn {state next : PoolState F X} {base num : Nat} (crew : Crew state base num)
    {stack : DoublyLinkedListNode Addr} (spawned : state.spawn num stack = some next) :
    Crew next base (num + 1) := by
  rcases Option.map_eq_some_iff.mp spawned with ⟨heap, _, rfl⟩
  constructor
  · change (state.threads ++ [WorkerPc.loopTest]).length = base + (num + 1)
    rw [List.length_append, List.length_singleton, crew.length, Nat.add_assoc]
  · intro idx below
    change Function.update state.threadId num (some state.threads.length) idx = some (base + idx)
    by_cases same : idx = num
    · rw [same, Function.update_self, crew.length]
    · rw [Function.update_of_ne same]
      exact crew.ids idx (by omega)
  · intro idx thread above isId
    change Function.update state.threadId num (some state.threads.length) idx = some thread at isId
    rw [Function.update_of_ne (by omega)] at isId
    exact crew.others idx thread (by omega) isId

/-- New threads were created, and the flags that the loop leaves alone are as before. -/
structure Spawned (state final : PoolState F X) (count : Nat) : Prop where
  isRunning : final.isRunning = state.isRunning
  maxThreadNum : final.maxThreadNum = state.maxThreadNum
  threads : final.threads = state.threads ++ List.replicate count .loopTest

theorem Spawned.after_spawn {state next final : PoolState F X} {idx count : Nat}
    {stack : DoublyLinkedListNode Addr} (spawned : state.spawn idx stack = some next)
    (rest : Spawned next final count) : Spawned state final (count + 1) := by
  rcases Option.map_eq_some_iff.mp spawned with ⟨heap, _, rfl⟩
  refine ⟨rest.isRunning, rest.maxThreadNum, rest.threads.trans ?_⟩
  rw [List.append_assoc, List.singleton_append, List.replicate_succ]

/-- A loop that comes to its end has created all of the workers. -/
theorem createWorkers_spawned {created : Nat -> Int × DoublyLinkedListNode Addr}
    {remaining idx : Nat} {state final : PoolState F X}
    (done : createWorkers created idx remaining state = some (.returned 0 final)) :
    Spawned state final remaining ∧ final.idleThreadNum = state.idleThreadNum := by
  induction remaining generalizing idx state with
  | zero =>
      cases done
      exact ⟨⟨rfl, rfl, (List.append_nil state.threads).symm⟩, rfl⟩
  | succ remaining inductionHypothesis =>
      simp only [createWorkers] at done
      split at done
      · cases done
      · rcases Option.bind_eq_some_iff.mp done with ⟨next, spawned, rest⟩
        rcases inductionHypothesis rest with ⟨more, sameIdle⟩
        refine ⟨more.after_spawn spawned, sameIdle.trans ?_⟩
        rcases Option.map_eq_some_iff.mp spawned with ⟨heap, _, rfl⟩
        rfl

/-- What the loop over `pthread_create` leaves: all of the workers, or those
that were created before a failure. -/
theorem createWorkers_cases {created : Nat -> Int × DoublyLinkedListNode Addr}
    {remaining base num : Nat} {state : PoolState F X} {result : InitResult F X}
    (crew : Crew state base num)
    (done : createWorkers created num remaining state = some result) :
    (Exists fun final => result = .returned 0 final ∧ Crew final base (num + remaining) ∧
      Spawned state final remaining ∧ final.isInit = true ∧
      forall idx, num ≤ idx -> idx < num + remaining -> (created idx).1 = 0) ∨
    (Exists fun failed => Exists fun final => result = .exiting failed (created failed).1 final ∧
      Crew final base failed ∧ final.isInit = state.isInit ∧
      num ≤ failed ∧ failed < num + remaining ∧ (created failed).1 ≠ 0) := by
  induction remaining generalizing num state with
  | zero =>
      cases done
      exact Or.inl ⟨_, rfl, ⟨crew.length, crew.ids, crew.others⟩,
        ⟨rfl, rfl, (List.append_nil state.threads).symm⟩, rfl,
        fun idx from_ below => absurd below (Nat.not_lt.mpr from_)⟩
  | succ remaining inductionHypothesis =>
      simp only [createWorkers] at done
      split at done
      next failed =>
        cases done
        exact Or.inr ⟨num, state, rfl, crew, rfl, Nat.le_refl _, by omega, failed⟩
      next succeeded =>
        rcases Option.bind_eq_some_iff.mp done with ⟨next, spawned, rest⟩
        have sameInit : next.isInit = state.isInit := by
          rcases Option.map_eq_some_iff.mp spawned with ⟨heap, _, rfl⟩
          rfl
        rcases inductionHypothesis (crew.spawn spawned) rest with
          ⟨final, isResult, whole, more, isInit, all⟩ |
          ⟨failed, final, isResult, part, isInit, from_, below, code⟩
        · refine Or.inl ⟨final, isResult, ?_, more.after_spawn spawned, isInit, ?_⟩
          · rw [Nat.add_right_comm] at whole
            exact whole
          · intro idx fromHere below
            by_cases here : idx = num
            · rw [here]
              exact not_not.mp succeeded
            · exact all idx (by omega) (by omega)
        · exact Or.inr ⟨failed, final, isResult, part, isInit.trans sameInit, by omega, by omega, code⟩

/-- The pool in which `ThreadPoolInit` returns or goes on. -/
def InitResult.pool : InitResult F X -> PoolState F X
  | .returned _ state => state
  | .exiting _ _ state => state

theorem createWorkers_objects {created : Nat -> Int × DoublyLinkedListNode Addr}
    {remaining idx : Nat} {state : PoolState F X} {result : InitResult F X}
    (done : createWorkers created idx remaining state = some result) :
    KeepsObjects state result.pool := by
  induction remaining generalizing idx state with
  | zero =>
      cases done
      exact ⟨rfl, rfl⟩
  | succ remaining inductionHypothesis =>
      simp only [createWorkers] at done
      split at done
      · cases done
        exact ⟨rfl, rfl⟩
      · rcases Option.bind_eq_some_iff.mp done with ⟨next, spawned, rest⟩
        have kept : KeepsObjects state next := by
          rcases Option.map_eq_some_iff.mp spawned with ⟨heap, _, rfl⟩
          exact ⟨rfl, rfl⟩
        exact kept.trans (inductionHypothesis rest)

/-! ## No job and no past -/

/-- The list is empty, and every thread is about to test `isRunning` for the
first time or belongs to the past. -/
structure Idle (state : PoolState F X) : Prop where
  list : JobList state.heap [] [] []
  threads : forall thread pc, state.threads[thread]? = some pc -> pc = .exited ∨
    (pc = .loopTest ∧ (state.heap.cell (.curHead thread)).isSome)
  counter : state.curJobNum = 0
  sem : state.sem = 0
  accepted : state.accepted = []
  dequeued : state.dequeued = []

theorem Idle.spawn {state next : PoolState F X} {idx : Nat} {stack : DoublyLinkedListNode Addr}
    (idle : Idle state) (spawned : state.spawn idx stack = some next) : Idle next := by
  rcases Option.map_eq_some_iff.mp spawned with ⟨after, done, rfl⟩
  have mallocs := Heap.mallocs_of_malloc done
  constructor
  · apply idle.list.congr
    · exact fun address member => mallocs.kept (Heap.isSome_of_cell (idle.list.ring.live address member))
    · exact fun _ member => absurd member List.not_mem_nil
  · intro thread pc at_
    by_cases old : thread < state.threads.length
    · rw [List.getElem?_append_left old] at at_
      rcases idle.threads thread pc at_ with gone | ⟨ready, live⟩
      · exact Or.inl gone
      · refine Or.inr ⟨ready, ?_⟩
        simpa only [Heap.cell, mallocs.kept (Heap.isSome_of_cell live)] using live
    · have inside := (List.getElem?_eq_some_iff.mp at_).1
      rw [List.length_append, List.length_singleton] at inside
      have position : thread = state.threads.length := by omega
      subst position
      rw [List.getElem?_concat_length] at at_
      refine Or.inr ⟨(Option.some.inj at_).symm, ?_⟩
      change (Heap.cell after (.curHead state.threads.length)).isSome
      rw [Heap.cell_of_node mallocs.holds]
      rfl
  · exact idle.counter
  · exact idle.sem
  · exact idle.accepted
  · exact idle.dequeued

theorem Idle.createWorkers {created : Nat -> Int × DoublyLinkedListNode Addr} {remaining idx : Nat}
    {state final : PoolState F X} (idle : Idle state)
    (done : createWorkers created idx remaining state = some (.returned 0 final)) : Idle final := by
  induction remaining generalizing idx state with
  | zero =>
      simp only [ThreadPool.createWorkers, Option.some.injEq, InitResult.returned.injEq,
        true_and] at done
      subst done
      exact ⟨idle.list, idle.threads, idle.counter, idle.sem, idle.accepted, idle.dequeued⟩
  | succ remaining inductionHypothesis =>
      simp only [ThreadPool.createWorkers] at done
      split at done
      · cases done
      · rcases Option.bind_eq_some_iff.mp done with ⟨next, spawned, rest⟩
        exact inductionHypothesis (idle.spawn spawned) rest

/-- A successful first initialisation leaves an idle pool. -/
theorem idle_of_threadPoolInit {pre start : PoolState F X} {threadNum : Int} {outcome : InitOutcome}
    (uninitialised : pre.isInit = false) (noWorkers : forall pc, pc ∈ pre.threads -> pc = .exited)
    (initialised : threadPoolInit pre threadNum outcome = some (.returned 0 start)) :
    Idle start := by
  rcases created_of_threadPoolInit uninitialised initialised with ⟨_, heap, ring, created⟩
  refine Idle.createWorkers ⟨JobList.empty ring, ?_, rfl, rfl, rfl, rfl⟩ created
  exact fun thread pc at_ => Or.inl (noWorkers pc (List.mem_of_getElem? at_))

end ThreadPool
end V2x
