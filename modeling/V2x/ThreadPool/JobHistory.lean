import V2x.ThreadPool.Accounting

namespace V2x
namespace ThreadPool

open Foundations

/-!
# What a step means for the jobs and for the objects of the users

A program that uses the pool follows its own jobs and its own objects.  The
theorems here say, for every step of the pool, how it changes the two lists of
jobs, where the moving thread stands with its job, and that it leaves the
objects of the users alone.
-/

variable {F X : Type}

/-! ## The objects of the users -/

/-- The objects of the users are where they were. -/
def KeepsUser (heap after : PoolHeap F X) : Prop :=
  forall address object, heap.content address = some (.user object) ->
    after.content address = some (.user object)

theorem KeepsUser.refl (heap : PoolHeap F X) : KeepsUser heap heap :=
  fun _ _ held => held

theorem KeepsUser.of_contents {heap after : PoolHeap F X} (keeps : KeepsContents heap after) :
    KeepsUser heap after :=
  fun address object held => keeps address (.user object) held

/-- A job description is no object of a user. -/
theorem keepsUser_free {heap after : PoolHeap F X} {address : Addr}
    {jobInfo : ThreadPoolJobInfo F} (info : jobInfoAt heap address = some jobInfo)
    (freed : heap.free address = some after) : KeepsUser heap after := by
  intro other object held
  have different : other ≠ address := by
    rintro rfl
    rw [jobInfoAt, held] at info
    cases info
  simpa only [Heap.content, (Heap.frees_of_free freed).elsewhere other different] using held

/-! ## Steps of workers -/

/-- Where the moving thread stands with its job before and after the step. -/
inductive WorkerCase (state next : PoolState F X) (thread : Nat) : Prop where
  | idle (old new : WorkerPc) (at_ : state.threads[thread]? = some old)
      (oldIdle : old.serial? = none) (newIdle : new.serial? = none)
      (threads : next.threads = state.threads.set thread new)
      (dequeued : next.dequeued = state.dequeued)
  | takes (jobInfo : ThreadPoolJobInfo F)
      (at_ : state.threads[thread]? = some .dequeueSection)
      (threads : next.threads = state.threads.set thread (.fetched state.dequeued.length))
      (dequeued : next.dequeued = state.dequeued ++ [jobInfo])
  | calls (serial : Nat) (cur : Addr) (at_ : state.threads[thread]? = some (.fetched serial))
      (threads : next.threads = state.threads.set thread (.running serial cur))
      (dequeued : next.dequeued = state.dequeued)
  | finishes (serial : Nat) (cur : Addr)
      (at_ : state.threads[thread]? = some (.running serial cur))
      (threads : next.threads = state.threads.set thread .loopTest)
      (dequeued : next.dequeued = state.dequeued)

structure WorkerEffect (state next : PoolState F X) (thread : Nat) : Prop where
  accepted : next.accepted = state.accepted
  user : KeepsUser state.heap next.heap
  case : WorkerCase state next thread

theorem workerEffect {state : SharedPool F X} {nodes datas : List Addr}
    {jobs : List (ThreadPoolJobInfo F)} {thread : Nat} {pool : PoolState F X}
    (owned : Owned state nodes datas jobs)
    (stepped : workerStep state.pool thread = some pool) : WorkerEffect state.pool pool thread := by
  cases workerStep_cases stepped with
  | loops at_ running => exact ⟨rfl, KeepsUser.refl _, .idle _ _ at_ rfl rfl rfl rfl⟩
  | exits at_ stopped => exact ⟨rfl, KeepsUser.refl _, .idle _ _ at_ rfl rfl rfl rfl⟩
  | idles at_ => exact ⟨rfl, KeepsUser.refl _, .idle _ _ at_ rfl rfl rfl rfl⟩
  | waits at_ available => exact ⟨rfl, KeepsUser.refl _, .idle _ _ at_ rfl rfl rfl rfl⟩
  | findsNone at_ ret heap failed done =>
      exact ⟨rfl, .of_contents (keepsContents_deleteTail done), .idle _ _ at_ rfl rfl rfl rfl⟩
  | takes at_ heap done =>
      cases nodes using List.reverseRecOn with
      | nil => cases done.symm.trans (deleteTailDoublyLinkedListNode_empty owned.list.ring)
      | append_singleton rest last _ =>
          rcases owned.dequeue at_ done 0 0 with ⟨_, _, _, jobInfo, fetched, _⟩
          refine ⟨rfl, .of_contents (keepsContents_deleteTail done), .takes jobInfo at_ rfl ?_⟩
          change state.pool.dequeued ++
            ((heap.nodeData (.curHead thread)).bind (jobInfoAt heap)).toList = _
          rw [fetched, Option.toList_some]
  | calls serial cur jobInfo at_ points info =>
      exact ⟨rfl, KeepsUser.refl _, .calls serial cur at_ rfl rfl⟩
  | finishes serial cur data heap at_ points freed =>
      rcases owned.workers.holds thread serial (serialOf_at at_) with
        ⟨held, jobInfo, heldPoints, info, _, _⟩
      have sameData : held = data := Option.some.inj (heldPoints.symm.trans points)
      exact ⟨rfl, keepsUser_free (sameData ▸ info) freed, .finishes serial cur at_ rfl rfl⟩
  | skips serial old at_ isSerial noData => exact absurd noData (owned.points at_ isSerial)

/-- The job of a thread that runs one. -/
theorem Owned.runningJob {state : SharedPool F X} {nodes datas : List Addr}
    {jobs : List (ThreadPoolJobInfo F)} {thread serial : Nat} {cur : Addr}
    (owned : Owned state nodes datas jobs)
    (at_ : state.pool.threads[thread]? = some (.running serial cur)) :
    Exists fun jobInfo => jobInfoAt state.pool.heap cur = some jobInfo ∧
      state.pool.dequeued[serial]? = some jobInfo := by
  have holds : serialOf state.pool.threads thread = some serial := serialOf_at at_
  rcases owned.workers.holds thread serial holds with ⟨data, jobInfo, points, info, taken, _⟩
  have current := owned.workers.current thread serial cur at_
  rw [Option.some.inj (points.symm.trans current)] at info
  exact ⟨jobInfo, info, taken⟩

/-- The jobs are taken in the order of their insertion. -/
theorem Owned.accepted_of_dequeued {state : SharedPool F X} {nodes datas : List Addr}
    {jobs : List (ThreadPoolJobInfo F)} (owned : Owned state nodes datas jobs)
    {serial : Nat} {jobInfo : ThreadPoolJobInfo F}
    (taken : state.pool.dequeued[serial]? = some jobInfo) :
    state.pool.accepted[serial]? = some jobInfo := by
  rw [← owned.fifo, List.getElem?_append_left (List.getElem?_eq_some_iff.mp taken).1]
  exact taken

theorem Owned.dequeued_le_accepted {state : SharedPool F X} {nodes datas : List Addr}
    {jobs : List (ThreadPoolJobInfo F)} (owned : Owned state nodes datas jobs) :
    state.pool.dequeued.length ≤ state.pool.accepted.length := by
  rw [← owned.fifo, List.length_append]
  exact Nat.le_add_right _ _

/-! ## Steps of a caller -/

/-- The job that a caller of `ThreadPoolAddJob` has not yet inserted. -/
def AddPc.job? : AddPc F -> Option (ThreadPoolJobInfo F)
  | .locked jobInfo => some jobInfo
  | .allocated jobInfo _ => some jobInfo
  | .created jobInfo _ _ => some jobInfo
  | .inserted => none
  | .posted => none

/-- The insertion is the step that accepts the job. -/
def PoolLabel.isInsert : PoolLabel F X -> Bool
  | .insert _ => true
  | _ => false

/-- What a step of the caller inside means for its job: the call ends, it goes
on, or the job is inserted. -/
inductive AddCase (state next : SharedPool F X) (adder : Adder F) (label : PoolLabel F X) :
    Prop where
  | ends (other : label.isInsert = false) (unlocked : next.initMutex = none)
      (accepted : next.pool.accepted = state.pool.accepted)
  | moves (other : label.isInsert = false) (pc : AddPc F)
      (holder : next.initMutex = some ⟨adder.caller, pc⟩) (sameJob : pc.job? = adder.pc.job?)
      (accepted : next.pool.accepted = state.pool.accepted)
  | inserts (insertion : label.isInsert = true) (jobInfo : ThreadPoolJobInfo F)
      (isJob : adder.pc.job? = some jobInfo)
      (holder : next.initMutex = some ⟨adder.caller, .inserted⟩)
      (accepted : next.pool.accepted = state.pool.accepted ++ [jobInfo])

structure AddEffect (state next : SharedPool F X) (adder : Adder F) (label : PoolLabel F X) :
    Prop where
  threads : next.pool.threads = state.pool.threads
  dequeued : next.pool.dequeued = state.pool.dequeued
  user : KeepsUser state.pool.heap next.pool.heap
  case : AddCase state next adder label

theorem addEffect {state next : SharedPool F X} {adder : Adder F} {label : PoolLabel F X}
    {nodes datas : List Addr} {jobs : List (ThreadPoolJobInfo F)}
    (owned : Owned state nodes datas jobs) (isHolder : state.initMutex = some adder)
    (stepped : addStep state adder label = some next) : AddEffect state next adder label := by
  rcases adder with ⟨owner, pc⟩
  have sameHeap := KeepsUser.refl state.pool.heap
  cases addStep_cases stepped with
  | refused jobInfo block notInit => exact ⟨rfl, rfl, sameHeap, .ends rfl rfl rfl⟩
  | noMemory jobInfo isInit => exact ⟨rfl, rfl, sameHeap, .ends rfl rfl rfl⟩
  | allocates jobInfo index heap isInit done =>
      exact ⟨rfl, rfl, .of_contents (keepsContents_malloc done), .moves rfl _ rfl rfl rfl⟩
  | givesUp jobInfo tmp heap freed =>
      exact ⟨rfl, rfl, keepsUser_free (owned.holdsTmp isHolder).info freed, .ends rfl rfl rfl⟩
  | creates jobInfo tmp index heap done =>
      exact ⟨rfl, rfl, .of_contents (keepsContents_createDoublyLinkedListNode done),
        .moves rfl _ rfl rfl rfl⟩
  | inserts jobInfo tmp node ret heap done =>
      exact ⟨rfl, rfl, .of_contents (keepsContents_insertHead done),
        .inserts rfl jobInfo rfl rfl rfl⟩
  | posts => exact ⟨rfl, rfl, sameHeap, .moves rfl _ rfl rfl rfl⟩
  | leaves => exact ⟨rfl, rfl, sameHeap, .ends rfl rfl rfl⟩

end ThreadPool
end V2x
