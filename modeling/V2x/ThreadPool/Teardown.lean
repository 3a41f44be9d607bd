import V2x.ListTeardown
import V2x.ThreadPool.JobHistory
import V2x.ThreadPool.Lifecycle

namespace V2x
namespace ThreadPool

open Foundations

/-!
# Who owns what while the pool is torn down

`ThreadPoolDeinit` posts the semaphore without a job, so after it queue and
semaphore no longer agree.  Ownership survives: the handler touches no block, and
the teardown of the list frees the cells and the job descriptions that are still
in it and nothing else.  In particular it does not free what the jobs were given.
-/

variable {F X : Type}

/-- The handler moves flags and the semaphore only. -/
structure ExitKeeps (state next : PoolState F X) : Prop where
  heap : next.heap = state.heap
  threads : next.threads = state.threads
  dequeued : next.dequeued = state.dequeued
  accepted : next.accepted = state.accepted

theorem exitStep_keeps {state next : PoolState F X} {handle after : ExitHandle}
    (stepped : exitStep state handle = some (next, after)) : ExitKeeps state next := by
  rcases handle with ⟨num, pc, joined, destroys⟩
  cases pc with
  | join idx =>
      simp only [exitStep] at stepped
      split at stepped
      · cases stepped
        exact ⟨rfl, rfl, rfl, rfl⟩
      · cases stepped
  | finished => cases stepped
  | _ =>
      cases stepped
      exact ⟨rfl, rfl, rfl, rfl⟩

theorem Owned.exitStep {state : SharedPool F X} {nodes datas : List Addr}
    {jobs : List (ThreadPoolJobInfo F)} (owned : Owned state nodes datas jobs)
    {pool : PoolState F X} (keeps : ExitKeeps state.pool pool) :
    Owned { state with pool := pool } nodes datas jobs where
  list := keeps.heap ▸ owned.list
  workers := by
    change WorkersHold pool.heap pool.threads pool.dequeued datas
    rw [keeps.heap, keeps.threads, keeps.dequeued]
    exact owned.workers
  adder := by
    change AdderOwns pool.heap pool.threads nodes datas state.initMutex
    rw [keeps.heap, keeps.threads]
    exact owned.adder
  fifo := by
    change pool.dequeued ++ jobs.reverse = pool.accepted
    rw [keeps.dequeued, keeps.accepted]
    exact owned.fifo

/-- `ThreadPoolDeinit` clears the counters and releases the list.  The jobs that
were in the list are taken off the record of the accepted ones. -/
def PoolState.tornDown (state : PoolState F X) (heap : PoolHeap F X) : PoolState F X :=
  { state.cleared heap with accepted := state.dequeued }

/-- The blocks that the cells of the job list point to. -/
theorem JobList.datas_eq {heap : PoolHeap F X} {nodes datas : List Addr}
    {jobs : List (ThreadPoolJobInfo F)} (list : JobList heap nodes datas jobs) :
    Heap.datas heap nodes = datas := by
  have mapped : Heap.datas heap nodes = (nodes.map heap.nodeData).filterMap id := by
    rw [Heap.datas, List.filterMap_map]
    rfl
  rw [mapped, list.points, List.filterMap_map]
  exact List.filterMap_some

/-- The list of the pool can be torn down, in as many rounds as it has jobs. -/
theorem JobList.tearsDown {heap : PoolHeap F X} {nodes datas : List Addr}
    {jobs : List (ThreadPoolJobInfo F)} (list : JobList heap nodes datas jobs) :
    Exists fun after =>
      (forall fuel, deInitDoublyLinkedListNode fuel heap (some .jobListHead) =
        if nodes.length < fuel then some (none, after) else none) ∧
      TearsDown heap after .jobListHead nodes := by
  apply deInitDoublyLinkedListNode_spec list.ring
  · intro data member
    rw [list.datas_eq] at member
    rcases list.info_of_mem member with ⟨jobInfo, found⟩
    exact isSome_of_jobInfo found
  · exact list.datas_eq.symm ▸ list.distinct
  · intro data member isCell
    rw [list.datas_eq] at member
    rcases list.info_of_mem member with ⟨jobInfo, found⟩
    have live := list.ring.live data isCell
    rw [cell_eq_none_of_jobInfo found] at live
    cases live

section Teardown

variable {state : SharedPool F X} {nodes datas : List Addr} {jobs : List (ThreadPoolJobInfo F)}
  {fuel : Nat} {done : Option Int × PoolHeap F X}

/-- What the teardown of the job list changes. -/
theorem JobList.tearsDown_of_done {heap : PoolHeap F X} (list : JobList heap nodes datas jobs)
    (torn : deInitDoublyLinkedListNode fuel heap (some .jobListHead) = some done) :
    HeapRing done.2 .jobListHead [] ∧
    forall other, other ∉ Addr.jobListHead :: nodes -> other ∉ datas -> done.2 other = heap other := by
  rcases list.tearsDown with ⟨after, loops, tears⟩
  rw [loops fuel] at torn
  split at torn
  · cases torn
    exact ⟨tears.ring, list.datas_eq ▸ tears.elsewhere⟩
  · cases torn

/-- The objects of the users are no part of the list. -/
theorem keepsUser_tearDown {heap : PoolHeap F X} (list : JobList heap nodes datas jobs)
    (torn : deInitDoublyLinkedListNode fuel heap (some .jobListHead) = some done) :
    KeepsUser heap done.2 := by
  intro address object held
  have present : (heap.content address).isSome := by
    rw [held]
    rfl
  have kept : done.2 address = heap address := by
    apply (list.tearsDown_of_done torn).2
    · intro isCell
      have live := list.ring.live address isCell
      rw [Heap.cell_eq_none_of_content present] at live
      cases live
    · intro isData
      rcases list.info_of_mem isData with ⟨jobInfo, found⟩
      rw [jobInfoAt, held] at found
      cases found
  simpa only [Heap.content, kept] using held

/-- After the teardown the list is empty, and the workers have what they had. -/
theorem Owned.tearDown (owned : Owned state nodes datas jobs) (unlocked : state.initMutex = none)
    (torn : deInitDoublyLinkedListNode fuel state.pool.heap (some .jobListHead) = some done) :
    Owned { state with pool := state.pool.tornDown done.2 } [] [] [] := by
  rcases owned.list.tearsDown_of_done torn with ⟨ring, elsewhere⟩
  constructor
  · exact .empty ring
  · have kept : WorkersHold done.2 state.pool.threads state.pool.dequeued datas := by
      apply owned.workers.congr
      · intro thread live
        apply elsewhere _ (owned.list.curHead_not_mem thread)
        intro isData
        rcases owned.list.info_of_mem isData with ⟨jobInfo, found⟩
        rw [cell_eq_none_of_jobInfo found] at live
        cases live
      · intro thread serial data holds points
        rcases owned.workers.holds thread serial holds with
          ⟨held, jobInfo, heldPoints, info, _, notListed⟩
        cases points.symm.trans heldPoints
        apply elsewhere data ?_ notListed
        intro isCell
        have live := owned.list.ring.live data isCell
        rw [cell_eq_none_of_jobInfo info] at live
        cases live
    exact ⟨kept.stackLive, fun thread serial holds => by
      rcases kept.holds thread serial holds with ⟨data, jobInfo, points, info, taken, _⟩
      exact ⟨data, jobInfo, points, info, taken, List.not_mem_nil⟩, kept.current, kept.apart,
      kept.serials⟩
  · change AdderOwns done.2 state.pool.threads [] [] state.initMutex
    rw [unlocked]
    exact trivial
  · exact List.append_nil _

end Teardown

end ThreadPool
end V2x
