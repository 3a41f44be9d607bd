import V2x.ThreadPool.Adding
import V2x.ThreadPool.Startup

namespace V2x
namespace ThreadPool

open Foundations

/-!
# Queue, counters and semaphore

`Accounted` ties the state of the pool to the list of jobs that wait in it.  It
has two sides.  The first is ownership: every job description belongs to the
list, to the worker that took it, or to the caller that made it, and to one of
them only.  The second is counting: every cell of the list has a token, which is
a unit of the semaphore, a worker that is about to dequeue, or a caller that has
not posted yet.

A worker that dequeues holds a token, so it never meets an empty list.
-/

variable {F X : Type}

/-! ## Threads and what they hold -/

/-- The position of the job that a thread has taken and not finished. -/
def serialOf (threads : List WorkerPc) (thread : Nat) : Option Nat :=
  threads[thread]?.bind WorkerPc.serial?

section Threads

variable {threads : List WorkerPc} {thread : Nat} {old new : WorkerPc}

theorem serialOf_at (at_ : threads[thread]? = some old) :
    serialOf threads thread = old.serial? := by
  rw [serialOf, at_, Option.bind_some]

theorem serialOf_set_self (at_ : threads[thread]? = some old) :
    serialOf (threads.set thread new) thread = new.serial? := by
  rw [serialOf, List.getElem?_set_self (List.getElem?_eq_some_iff.mp at_).1, Option.bind_some]

theorem serialOf_set_other {other : Nat} (different : other ≠ thread) :
    serialOf (threads.set thread new) other = serialOf threads other := by
  rw [serialOf, serialOf, List.getElem?_set_ne (Ne.symm different)]

/-- After a step of one thread the others stand where they stood. -/
theorem at_of_set (at_ : threads[thread]? = some old) {other : Nat} {pc : WorkerPc}
    (otherAt : (threads.set thread new)[other]? = some pc) :
    other = thread ∧ new = pc ∨ other ≠ thread ∧ threads[other]? = some pc := by
  by_cases same : other = thread
  · rw [same, List.getElem?_set_self (List.getElem?_eq_some_iff.mp at_).1] at otherAt
    exact Or.inl ⟨same, Option.some.inj otherAt⟩
  · rw [List.getElem?_set_ne (Ne.symm same)] at otherAt
    exact Or.inr ⟨same, otherAt⟩

/-- A thread that stands elsewhere than the one that moves stays. -/
theorem at_set_of_ne (at_ : threads[thread]? = some old) {other : Nat} {pc : WorkerPc}
    (otherAt : threads[other]? = some pc) (elsewhere : pc ≠ old) :
    (threads.set thread new)[other]? = some pc := by
  have different : other ≠ thread := by
    rintro rfl
    exact elsewhere (Option.some.inj (otherAt.symm.trans at_))
  rw [List.getElem?_set_ne (Ne.symm different)]
  exact otherAt

/-- A step that keeps the job of its thread changes nobody's job. -/
theorem serialOf_set_same (new : WorkerPc) (at_ : threads[thread]? = some old)
    (same : new.serial? = old.serial?) (other : Nat) :
    serialOf (threads.set thread new) other = serialOf threads other := by
  by_cases isThread : other = thread
  · rw [isThread, serialOf_set_self at_, serialOf_at at_, same]
  · exact serialOf_set_other isThread

/-- A step of a thread without a job takes no job away. -/
theorem serialOf_set_of_idle (at_ : threads[thread]? = some old) (idle : old.serial? = none)
    {other serial : Nat} (holds : serialOf threads other = some serial) :
    serialOf (threads.set thread new) other = some serial := by
  have different : other ≠ thread := by
    rintro rfl
    rw [serialOf_at at_, idle] at holds
    cases holds
  rw [serialOf_set_other different]
  exact holds

/-- A step that ends without a job gives no thread a new one. -/
theorem serialOf_of_set (at_ : threads[thread]? = some old) (idle : new.serial? = none)
    {other serial : Nat} (holds : serialOf (threads.set thread new) other = some serial) :
    other ≠ thread ∧ serialOf threads other = some serial := by
  by_cases same : other = thread
  · rw [same, serialOf_set_self at_, idle] at holds
    cases holds
  · rw [serialOf_set_other same] at holds
    exact ⟨same, holds⟩

/-- A thread with a job has not exited. -/
theorem running_of_serialOf {serial : Nat} (holds : serialOf threads thread = some serial) :
    Exists fun pc => threads[thread]? = some pc ∧ pc ≠ .exited ∧ pc.serial? = some serial := by
  rcases Option.bind_eq_some_iff.mp holds with ⟨pc, at_, serialIs⟩
  refine ⟨pc, at_, ?_, serialIs⟩
  rintro rfl
  cases serialIs

/-- How a step of one thread changes the number of threads at a place. -/
theorem count_set_add (new place : WorkerPc) (at_ : threads[thread]? = some old) :
    (threads.set thread new).count place + (if old = place then 1 else 0) =
      threads.count place + (if new = place then 1 else 0) := by
  rcases List.getElem?_eq_some_iff.mp at_ with ⟨inside, isOld⟩
  have present : old = place -> 0 < threads.count place := by
    intro same
    apply List.count_pos_iff.mpr
    rw [← same, ← isOld]
    exact List.getElem_mem inside
  rw [List.count_set inside, isOld]
  by_cases oldHere : old = place
  · have positive := present oldHere
    simp only [oldHere, beq_self_eq_true, if_true]
    by_cases newHere : new = place
    · simp only [newHere, beq_self_eq_true, if_true]
      omega
    · simp only [if_neg newHere, beq_iff_eq, Nat.add_zero]
      omega
  · simp only [beq_iff_eq, if_neg oldHere, Nat.sub_zero, Nat.add_zero]

end Threads

/-- Every thread that has taken a job has its description, alone. -/
structure WorkersHold (heap : PoolHeap F X) (threads : List WorkerPc)
    (dequeued : List (ThreadPoolJobInfo F)) (datas : List Addr) : Prop where
  stackLive : forall thread pc, threads[thread]? = some pc -> pc ≠ .exited ->
    (heap.cell (.curHead thread)).isSome
  holds : forall thread serial, serialOf threads thread = some serial ->
    Exists fun data => Exists fun jobInfo =>
      heap.nodeData (.curHead thread) = some data ∧ jobInfoAt heap data = some jobInfo ∧
      dequeued[serial]? = some jobInfo ∧ data ∉ datas
  current : forall thread serial cur, threads[thread]? = some (.running serial cur) ->
    heap.nodeData (.curHead thread) = some cur
  apart : forall first second firstSerial secondSerial data,
    serialOf threads first = some firstSerial -> serialOf threads second = some secondSerial ->
    heap.nodeData (.curHead first) = some data -> heap.nodeData (.curHead second) = some data ->
    first = second
  serials : forall first second serial, serialOf threads first = some serial ->
    serialOf threads second = some serial -> first = second

namespace WorkersHold

variable {heap after : PoolHeap F X} {threads : List WorkerPc}
  {dequeued : List (ThreadPoolJobInfo F)} {datas : List Addr}

theorem stack_of_serial (workers : WorkersHold heap threads dequeued datas) (thread serial : Nat)
    (holds : serialOf threads thread = some serial) : (heap.cell (.curHead thread)).isSome := by
  rcases running_of_serialOf holds with ⟨pc, at_, alive, _⟩
  exact workers.stackLive thread pc at_ alive

/-- The position of a job that a worker has is one of the jobs taken. -/
theorem serial_lt (workers : WorkersHold heap threads dequeued datas) {thread serial : Nat}
    (holds : serialOf threads thread = some serial) : serial < dequeued.length := by
  rcases workers.holds thread serial holds with ⟨_, _, _, _, taken, _⟩
  exact (List.getElem?_eq_some_iff.mp taken).1

/-- No worker has a description that is in the list. -/
theorem ne_of_listed (workers : WorkersHold heap threads dequeued datas) {thread serial : Nat}
    (holds : serialOf threads thread = some serial) {data : Addr} (listed : data ∈ datas) :
    heap.nodeData (.curHead thread) ≠ some data := by
  intro points
  rcases workers.holds thread serial holds with ⟨held, _, heldPoints, _, _, notListed⟩
  rw [points] at heldPoints
  cases heldPoints
  exact notListed listed

/-- Changes that miss the stacks and the descriptions held change nothing. -/
theorem congr (workers : WorkersHold heap threads dequeued datas)
    (stacksKept : forall thread, (heap.cell (.curHead thread)).isSome ->
      after (.curHead thread) = heap (.curHead thread))
    (datasKept : forall thread serial data, serialOf threads thread = some serial ->
      heap.nodeData (.curHead thread) = some data -> after data = heap data) :
    WorkersHold after threads dequeued datas := by
  have stackOf : forall thread serial, serialOf threads thread = some serial ->
      after.nodeData (.curHead thread) = heap.nodeData (.curHead thread) := by
    intro thread serial holds
    have live := workers.stack_of_serial thread serial holds
    simp only [Heap.nodeData, Heap.cell, stacksKept thread live]
  constructor
  · intro thread pc at_ alive
    have live := workers.stackLive thread pc at_ alive
    simpa only [Heap.cell, stacksKept thread live] using live
  · intro thread serial holds
    rcases workers.holds thread serial holds with ⟨data, jobInfo, points, info, taken, apart⟩
    refine ⟨data, jobInfo, (stackOf thread serial holds).trans points, ?_, taken, apart⟩
    exact (jobInfoAt_congr (datasKept thread serial data holds points)).trans info
  · intro thread serial cur at_
    have holds : serialOf threads thread = some serial :=
      serialOf_at at_
    exact (stackOf thread serial holds).trans (workers.current thread serial cur at_)
  · intro first second firstSerial secondSerial data firstHolds secondHolds firstPoints secondPoints
    rw [stackOf first firstSerial firstHolds] at firstPoints
    rw [stackOf second secondSerial secondHolds] at secondPoints
    exact workers.apart first second firstSerial secondSerial data firstHolds secondHolds
      firstPoints secondPoints
  · exact workers.serials

/-- A thread moves to a place without a job. -/
theorem move (workers : WorkersHold heap threads dequeued datas) {thread : Nat}
    {old new : WorkerPc} (at_ : threads[thread]? = some old) (alive : old ≠ .exited)
    (idle : new.serial? = none) : WorkersHold heap (threads.set thread new) dequeued datas := by
  constructor
  · intro other pc otherAt otherAlive
    rcases at_of_set at_ otherAt with ⟨same, _⟩ | ⟨_, before⟩
    · rw [same]
      exact workers.stackLive thread old at_ alive
    · exact workers.stackLive other pc before otherAlive
  · intro other serial holds
    exact workers.holds other serial (serialOf_of_set at_ idle holds).2
  · intro other serial cur otherAt
    rcases at_of_set at_ otherAt with ⟨_, rfl⟩ | ⟨_, before⟩
    · cases idle
    · exact workers.current other serial cur before
  · intro first second firstSerial secondSerial data firstHolds secondHolds
    exact workers.apart first second firstSerial secondSerial data
      (serialOf_of_set at_ idle firstHolds).2 (serialOf_of_set at_ idle secondHolds).2
  · intro first second serial firstHolds secondHolds
    exact workers.serials first second serial (serialOf_of_set at_ idle firstHolds).2
      (serialOf_of_set at_ idle secondHolds).2

/-- A thread calls the function of the job it has taken. -/
theorem start (workers : WorkersHold heap threads dequeued datas) {thread serial : Nat}
    {cur : Addr} (at_ : threads[thread]? = some (.fetched serial))
    (points : heap.nodeData (.curHead thread) = some cur) :
    WorkersHold heap (threads.set thread (.running serial cur)) dequeued datas := by
  have sameSerial : forall other, serialOf (threads.set thread (.running serial cur)) other =
      serialOf threads other := serialOf_set_same _ at_ rfl
  constructor
  · intro other pc otherAt otherAlive
    rcases at_of_set at_ otherAt with ⟨same, _⟩ | ⟨_, before⟩
    · rw [same]
      exact workers.stackLive thread _ at_ nofun
    · exact workers.stackLive other pc before otherAlive
  · intro other otherSerial holds
    exact workers.holds other otherSerial (sameSerial other ▸ holds)
  · intro other otherSerial otherCur otherAt
    rcases at_of_set at_ otherAt with ⟨same, isNew⟩ | ⟨_, before⟩
    · cases isNew
      rw [same]
      exact points
    · exact workers.current other otherSerial otherCur before
  · intro first second firstSerial secondSerial data firstHolds secondHolds
    exact workers.apart first second firstSerial secondSerial data
      (sameSerial first ▸ firstHolds) (sameSerial second ▸ secondHolds)
  · intro first second same firstHolds secondHolds
    exact workers.serials first second same (sameSerial first ▸ firstHolds)
      (sameSerial second ▸ secondHolds)

/-- A thread takes the last job of the list. -/
theorem take {nodes : List Addr} {last data : Addr} {jobInfo : ThreadPoolJobInfo F} {thread : Nat}
    {jobs : List (ThreadPoolJobInfo F)}
    (workers : WorkersHold heap threads dequeued (datas ++ [data]))
    (list : JobList heap (nodes ++ [last]) (datas ++ [data]) jobs)
    (at_ : threads[thread]? = some .dequeueSection)
    (removes : RemovesBack heap after .jobListHead (.curHead thread) last nodes)
    (points : heap.nodeData last = some data) (info : jobInfoAt heap data = some jobInfo) :
    WorkersHold after (threads.set thread (.fetched dequeued.length)) (dequeued ++ [jobInfo])
      datas := by
  have sameInfo : jobInfoAt after = jobInfoAt heap := by
    funext address
    simp only [jobInfoAt, removes.contents]
  have fetched : after.nodeData (.curHead thread) = some data := removes.output.trans points
  have elsewhere : forall other, other ≠ thread ->
      after (.curHead other) = heap (.curHead other) := by
    intro other different
    apply removes.elsewhere
    intro member
    rcases List.mem_cons.mp member with same | inRing
    · exact different (Addr.curHead.inj same)
    · exact list.curHead_not_mem other inRing
  have otherData : forall other, other ≠ thread ->
      after.nodeData (.curHead other) = heap.nodeData (.curHead other) := by
    intro other different
    simp only [Heap.nodeData, Heap.cell, elsewhere other different]
  have newSerial : serialOf (threads.set thread (.fetched dequeued.length)) thread =
      some dequeued.length := serialOf_set_self at_
  have oldSerial : forall other serial, other ≠ thread ->
      serialOf (threads.set thread (.fetched dequeued.length)) other = some serial ->
      serialOf threads other = some serial := by
    intro other serial different holds
    rw [serialOf_set_other different] at holds
    exact holds
  have listed : data ∈ datas ++ [data] := List.mem_append_right _ (List.mem_singleton_self _)
  constructor
  · intro other pc otherAt alive
    rcases at_of_set at_ otherAt with ⟨same, _⟩ | ⟨different, before⟩
    · rw [same]
      exact removes.outputLive
    · simpa only [Heap.cell, elsewhere other different] using
        workers.stackLive other pc before alive
  · intro other serial holds
    by_cases same : other = thread
    · rw [same, newSerial] at holds
      cases holds
      refine ⟨data, jobInfo, same ▸ fetched, sameInfo ▸ info, ?_, ?_⟩
      · exact List.getElem?_concat_length
      · intro member
        exact (List.nodup_append.mp list.distinct).2.2 data member data
          (List.mem_singleton_self _) rfl
    · have before := oldSerial other serial same holds
      rcases workers.holds other serial before with ⟨held, heldInfo, heldPoints, found, taken, apart⟩
      refine ⟨held, heldInfo, (otherData other same).trans heldPoints, sameInfo ▸ found, ?_,
        fun member => apart (List.mem_append_left _ member)⟩
      rw [List.getElem?_append_left (workers.serial_lt before)]
      exact taken
  · intro other serial cur otherAt
    rcases at_of_set at_ otherAt with ⟨_, isNew⟩ | ⟨different, before⟩
    · cases isNew
    · exact (otherData other different).trans (workers.current other serial cur before)
  · intro first second firstSerial secondSerial shared firstHolds secondHolds firstPoints secondPoints
    by_cases firstSame : first = thread
    · by_cases secondSame : second = thread
      · exact firstSame.trans secondSame.symm
      · rw [firstSame, fetched] at firstPoints
        rw [otherData second secondSame, ← firstPoints] at secondPoints
        exact absurd secondPoints
          (workers.ne_of_listed (oldSerial second secondSerial secondSame secondHolds) listed)
    · by_cases secondSame : second = thread
      · rw [secondSame, fetched] at secondPoints
        rw [otherData first firstSame, ← secondPoints] at firstPoints
        exact absurd firstPoints
          (workers.ne_of_listed (oldSerial first firstSerial firstSame firstHolds) listed)
      · rw [otherData first firstSame] at firstPoints
        rw [otherData second secondSame] at secondPoints
        exact workers.apart first second firstSerial secondSerial shared
          (oldSerial first firstSerial firstSame firstHolds)
          (oldSerial second secondSerial secondSame secondHolds) firstPoints secondPoints
  · intro first second serial firstHolds secondHolds
    by_cases firstSame : first = thread
    · by_cases secondSame : second = thread
      · exact firstSame.trans secondSame.symm
      · rw [firstSame, newSerial] at firstHolds
        have below := workers.serial_lt (oldSerial second serial secondSame secondHolds)
        exact absurd (Option.some.inj firstHolds) (Nat.ne_of_gt below)
    · by_cases secondSame : second = thread
      · rw [secondSame, newSerial] at secondHolds
        have below := workers.serial_lt (oldSerial first serial firstSame firstHolds)
        exact absurd (Option.some.inj secondHolds) (Nat.ne_of_gt below)
      · exact workers.serials first second serial (oldSerial first serial firstSame firstHolds)
          (oldSerial second serial secondSame secondHolds)

/-- A job is inserted that no thread has. -/
theorem insert {nodes : List Addr} {node data : Addr} {jobs : List (ThreadPoolJobInfo F)}
    (workers : WorkersHold heap threads dequeued datas) (list : JobList heap nodes datas jobs)
    (isBlock : Exists fun index => node = .block index)
    (inserts : InsertsFront heap after .jobListHead node nodes)
    (notHeld : forall thread serial, serialOf threads thread = some serial ->
      heap.nodeData (.curHead thread) ≠ some data) :
    WorkersHold after threads dequeued (data :: datas) := by
  have sameInfo : jobInfoAt after = jobInfoAt heap := by
    funext address
    simp only [jobInfoAt, inserts.contents]
  constructor
  · intro thread pc at_ alive
    have outside : Addr.curHead thread ∉ node :: Addr.jobListHead :: nodes := by
      intro member
      rcases List.mem_cons.mp member with same | inRing
      · rcases isBlock with ⟨index, rfl⟩
        cases same
      · exact list.curHead_not_mem thread inRing
    simpa only [Heap.cell, inserts.elsewhere _ outside] using workers.stackLive thread pc at_ alive
  · intro thread serial holds
    rcases workers.holds thread serial holds with ⟨held, jobInfo, points, info, taken, apart⟩
    refine ⟨held, jobInfo, inserts.nodeData ▸ points, sameInfo ▸ info, taken, ?_⟩
    intro member
    rcases List.mem_cons.mp member with same | listed
    · exact notHeld thread serial holds (same ▸ points)
    · exact apart listed
  · rw [inserts.nodeData]
    exact workers.current
  · rw [inserts.nodeData]
    exact workers.apart
  · exact workers.serials

/-- A thread frees the description of the job it has run. -/
theorem finish (workers : WorkersHold heap threads dequeued datas) {thread serial : Nat}
    {cur data : Addr} (at_ : threads[thread]? = some (.running serial cur))
    (points : heap.nodeData (.curHead thread) = some data)
    (kept : forall other, other ≠ data -> after other = heap other) :
    WorkersHold after (threads.set thread .loopTest) dequeued datas := by
  have holds : serialOf threads thread = some serial :=
    serialOf_at at_
  rcases workers.holds thread serial holds with ⟨held, jobInfo, heldPoints, info, _, _⟩
  have sameData : held = data := Option.some.inj (heldPoints.symm.trans points)
  rw [sameData] at info
  apply (workers.move at_ nofun rfl).congr
  · intro other live
    apply kept
    rintro rfl
    rw [cell_eq_none_of_jobInfo info] at live
    cases live
  · intro other otherSerial otherData otherHolds otherPoints
    have before := serialOf_of_set at_ rfl otherHolds
    apply kept
    rintro rfl
    exact before.1 (workers.apart other thread otherSerial serial otherData before.2 holds
      otherPoints points)

end WorkersHold

/-! ## What the caller inside holds -/

/-- The caller's job description is in no one else's hands. -/
structure OwnsTmp (heap : PoolHeap F X) (threads : List WorkerPc) (datas : List Addr)
    (jobInfo : ThreadPoolJobInfo F) (tmp : Addr) : Prop where
  info : jobInfoAt heap tmp = some jobInfo
  notListed : tmp ∉ datas
  notHeld : forall thread serial, serialOf threads thread = some serial ->
    heap.nodeData (.curHead thread) ≠ some tmp

/-- The caller's cell points to the description and is in no list. -/
structure OwnsNode (heap : PoolHeap F X) (nodes : List Addr) (tmp node : Addr) : Prop where
  live : (heap.cell node).isSome
  isBlock : Exists fun index => node = .block index
  points : heap.nodeData node = some tmp
  notListed : node ∉ Addr.jobListHead :: nodes

def AdderOwns (heap : PoolHeap F X) (threads : List WorkerPc) (nodes datas : List Addr) :
    Option (Adder F) -> Prop
  | some ⟨_, .allocated jobInfo tmp⟩ => OwnsTmp heap threads datas jobInfo tmp
  | some ⟨_, .created jobInfo tmp node⟩ =>
      OwnsTmp heap threads datas jobInfo tmp ∧ OwnsNode heap nodes tmp node
  | _ => True

/-- The callers that have inserted and not yet posted.  A caller without the
mutex is before its insertion or after its post. -/
def insertedAdders : Option (Adder F) -> Nat
  | some ⟨_, .inserted⟩ => 1
  | _ => 0

/-- Every job description has one owner, and the jobs were taken in order. -/
structure Owned (state : SharedPool F X) (nodes datas : List Addr)
    (jobs : List (ThreadPoolJobInfo F)) : Prop where
  list : JobList state.pool.heap nodes datas jobs
  workers : WorkersHold state.pool.heap state.pool.threads state.pool.dequeued datas
  adder : AdderOwns state.pool.heap state.pool.threads nodes datas state.initMutex
  fifo : state.pool.dequeued ++ jobs.reverse = state.pool.accepted

/-- Queue, counters and semaphore agree, and every job description has one owner. -/
structure Accounted (state : SharedPool F X) (nodes datas : List Addr)
    (jobs : List (ThreadPoolJobInfo F)) : Prop where
  list : JobList state.pool.heap nodes datas jobs
  workers : WorkersHold state.pool.heap state.pool.threads state.pool.dequeued datas
  adder : AdderOwns state.pool.heap state.pool.threads nodes datas state.initMutex
  fifo : state.pool.dequeued ++ jobs.reverse = state.pool.accepted
  counter : state.pool.curJobNum = nodes.length
  tokens : nodes.length = state.pool.sem + state.pool.threads.count .dequeueSection +
    insertedAdders state.initMutex

theorem Accounted.owned {state : SharedPool F X} {nodes datas : List Addr}
    {jobs : List (ThreadPoolJobInfo F)} (accounted : Accounted state nodes datas jobs) :
    Owned state nodes datas jobs :=
  ⟨accounted.list, accounted.workers, accounted.adder, accounted.fifo⟩

theorem Owned.counted {state : SharedPool F X} {nodes datas : List Addr}
    {jobs : List (ThreadPoolJobInfo F)} (owned : Owned state nodes datas jobs)
    (counter : state.pool.curJobNum = nodes.length)
    (tokens : nodes.length = state.pool.sem + state.pool.threads.count .dequeueSection +
      insertedAdders state.initMutex) : Accounted state nodes datas jobs :=
  ⟨owned.list, owned.workers, owned.adder, owned.fifo, counter, tokens⟩

section Adder

variable {heap after : PoolHeap F X} {threads : List WorkerPc} {nodes datas : List Addr}
  {jobInfo : ThreadPoolJobInfo F} {tmp node : Addr}

theorem OwnsTmp.congr (owns : OwnsTmp heap threads datas jobInfo tmp)
    (kept : after tmp = heap tmp)
    (stackSame : forall thread serial, serialOf threads thread = some serial ->
      after.nodeData (.curHead thread) = heap.nodeData (.curHead thread)) :
    OwnsTmp after threads datas jobInfo tmp where
  info := (jobInfoAt_congr kept).trans owns.info
  notListed := owns.notListed
  notHeld := by
    intro thread serial holds
    rw [stackSame thread serial holds]
    exact owns.notHeld thread serial holds

/-- No thread gets a job that it did not have. -/
theorem OwnsTmp.mono (owns : OwnsTmp heap threads datas jobInfo tmp) {later : List WorkerPc}
    (fewer : forall thread serial, serialOf later thread = some serial ->
      Exists fun before => serialOf threads thread = some before) :
    OwnsTmp heap later datas jobInfo tmp where
  info := owns.info
  notListed := owns.notListed
  notHeld := by
    intro thread serial holds
    rcases fewer thread serial holds with ⟨before, held⟩
    exact owns.notHeld thread before held

theorem OwnsNode.congr (owns : OwnsNode heap nodes tmp node) (kept : after node = heap node) :
    OwnsNode after nodes tmp node where
  live := by simpa only [Heap.cell, kept] using owns.live
  isBlock := owns.isBlock
  points := by simpa only [Heap.nodeData, Heap.cell, kept] using owns.points
  notListed := owns.notListed

/-- A change that misses everything the caller and the threads have. -/
theorem AdderOwns.congr {adder : Option (Adder F)}
    (owns : AdderOwns heap threads nodes datas adder)
    (infos : forall jobInfo tmp, OwnsTmp heap threads datas jobInfo tmp -> after tmp = heap tmp)
    (cells : forall address, (heap.cell address).isSome -> after address = heap address)
    (stackLive : forall thread serial, serialOf threads thread = some serial ->
      (heap.cell (.curHead thread)).isSome) :
    AdderOwns after threads nodes datas adder := by
  have stackSame : forall thread serial, serialOf threads thread = some serial ->
      after.nodeData (.curHead thread) = heap.nodeData (.curHead thread) := by
    intro thread serial holds
    simp only [Heap.nodeData, Heap.cell, cells _ (stackLive thread serial holds)]
  have tmpKept : forall {jobInfo tmp}, OwnsTmp heap threads datas jobInfo tmp ->
      OwnsTmp after threads datas jobInfo tmp :=
    fun owns => owns.congr (infos _ _ owns) stackSame
  unfold AdderOwns at *
  split at owns
  next caller jobInfo tmp => exact tmpKept owns
  next caller jobInfo tmp node => exact ⟨tmpKept owns.1, owns.2.congr (cells node owns.2.live)⟩
  next => exact trivial

theorem AdderOwns.mono {adder : Option (Adder F)} {later : List WorkerPc}
    (owns : AdderOwns heap threads nodes datas adder)
    (fewer : forall thread serial, serialOf later thread = some serial ->
      Exists fun before => serialOf threads thread = some before) :
    AdderOwns heap later nodes datas adder := by
  unfold AdderOwns at *
  split at owns
  next caller jobInfo tmp => exact owns.mono fewer
  next caller jobInfo tmp node => exact ⟨owns.1.mono fewer, owns.2⟩
  next => exact trivial

/-- A worker takes the last job; the caller's own job is another one. -/
theorem OwnsTmp.take {last data : Addr} {thread : Nat} {pc : WorkerPc} {listed : List Addr}
    {jobs : List (ThreadPoolJobInfo F)} (owns : OwnsTmp heap threads (datas ++ [data]) jobInfo tmp)
    (list : JobList heap (nodes ++ [last]) listed jobs)
    (removes : RemovesBack heap after .jobListHead (.curHead thread) last nodes)
    (points : heap.nodeData last = some data) :
    OwnsTmp after (threads.set thread pc) datas jobInfo tmp where
  info := by
    have sameInfo : jobInfoAt after tmp = jobInfoAt heap tmp := by
      simp only [jobInfoAt, removes.contents]
    exact sameInfo.trans owns.info
  notListed := fun member => owns.notListed (List.mem_append_left _ member)
  notHeld := by
    intro other serial holds
    by_cases same : other = thread
    · rw [same, removes.output, points]
      intro isTmp
      exact owns.notListed (List.mem_append_right _ (List.mem_singleton.mpr
        (Option.some.inj isTmp).symm))
    · rw [serialOf_set_other same] at holds
      have kept : after (.curHead other) = heap (.curHead other) := by
        apply removes.elsewhere
        intro member
        rcases List.mem_cons.mp member with equal | inRing
        · exact same (Addr.curHead.inj equal)
        · exact list.curHead_not_mem other inRing
      have sameStack : after.nodeData (.curHead other) = heap.nodeData (.curHead other) := by
        simp only [Heap.nodeData, Heap.cell, kept]
      rw [sameStack]
      exact owns.notHeld other serial holds

theorem OwnsNode.take {last : Addr} {thread : Nat} (owns : OwnsNode heap (nodes ++ [last]) tmp node)
    (removes : RemovesBack heap after .jobListHead (.curHead thread) last nodes) :
    OwnsNode after nodes tmp node := by
  have kept : after node = heap node := by
    apply removes.elsewhere
    intro member
    rcases List.mem_cons.mp member with equal | inRing
    · rcases owns.isBlock with ⟨index, rfl⟩
      cases equal
    · exact owns.notListed inRing
  have stays := owns.congr kept
  refine ⟨stays.live, stays.isBlock, stays.points, fun member => owns.notListed ?_⟩
  rcases List.mem_cons.mp member with atHead | listed
  · exact List.mem_cons.mpr (Or.inl atHead)
  · exact List.mem_cons_of_mem _ (List.mem_append_left _ listed)

theorem AdderOwns.take {adder : Option (Adder F)} {last data : Addr} {thread : Nat} {pc : WorkerPc}
    {jobs : List (ThreadPoolJobInfo F)}
    (owns : AdderOwns heap threads (nodes ++ [last]) (datas ++ [data]) adder)
    (list : JobList heap (nodes ++ [last]) (datas ++ [data]) jobs)
    (removes : RemovesBack heap after .jobListHead (.curHead thread) last nodes)
    (points : heap.nodeData last = some data) :
    AdderOwns after (threads.set thread pc) nodes datas adder := by
  unfold AdderOwns at *
  split at owns
  next caller jobInfo tmp => exact owns.take list removes points
  next caller jobInfo tmp node => exact ⟨owns.1.take list removes points, owns.2.take removes⟩
  next => exact trivial

end Adder

/-! ## Changes of the heap that concern nobody -/

section Heap

variable {state : SharedPool F X} {nodes datas : List Addr} {jobs : List (ThreadPoolJobInfo F)}

/-- A change that misses all cells and all job descriptions. -/
theorem Owned.congrHeap (owned : Owned state nodes datas jobs) {after : PoolHeap F X}
    (cells : forall address, (state.pool.heap.cell address).isSome ->
      after address = state.pool.heap address)
    (infos : forall address, (jobInfoAt state.pool.heap address).isSome ->
      after address = state.pool.heap address) :
    Owned { state with pool := { state.pool with heap := after } } nodes datas jobs where
  list := by
    apply owned.list.congr
    · exact fun address member => cells address (owned.list.ring.live address member)
    · intro address member
      rcases owned.list.info_of_mem member with ⟨jobInfo, found⟩
      exact infos address (by rw [found]; rfl)
  workers := by
    apply owned.workers.congr
    · exact fun thread live => cells _ live
    · intro thread serial data holds points
      rcases owned.workers.holds thread serial holds with
        ⟨held, jobInfo, heldPoints, info, _, _⟩
      rw [Option.some.inj (points.symm.trans heldPoints)]
      exact infos held (by rw [info]; rfl)
  adder := by
    apply owned.adder.congr _ cells owned.workers.stack_of_serial
    intro jobInfo tmp owns
    exact infos tmp (by rw [owns.info]; rfl)
  fifo := owned.fifo

/-- A new block changes nothing for the pool. -/
theorem Owned.malloc (owned : Owned state nodes datas jobs) {after : PoolHeap F X}
    {address : Addr} {block : Block Addr (Content F X)}
    (done : state.pool.heap.malloc address block = some after) :
    Owned { state with pool := { state.pool with heap := after } } nodes datas jobs := by
  have mallocs := Heap.mallocs_of_malloc done
  apply owned.congrHeap
  · exact fun other live => mallocs.kept (Heap.isSome_of_cell live)
  · intro other found
    rcases Option.isSome_iff_exists.mp found with ⟨jobInfo, same⟩
    exact mallocs.kept (isSome_of_jobInfo same)

theorem Accounted.malloc (accounted : Accounted state nodes datas jobs) {after : PoolHeap F X}
    {address : Addr} {block : Block Addr (Content F X)}
    (done : state.pool.heap.malloc address block = some after) :
    Accounted { state with pool := { state.pool with heap := after } } nodes datas jobs :=
  (accounted.owned.malloc done).counted accounted.counter accounted.tokens

/-- An object of the rest of the program is neither a cell nor a job description. -/
theorem Owned.freeUser (owned : Owned state nodes datas jobs) {after : PoolHeap F X}
    {address : Addr} {object : X} (held : state.pool.heap.content address = some (.user object))
    (freed : state.pool.heap.free address = some after) :
    Owned { state with pool := { state.pool with heap := after } } nodes datas jobs := by
  have present : (state.pool.heap.content address).isSome := by
    rw [held]
    rfl
  have kept := (Heap.frees_of_free freed).elsewhere
  apply owned.congrHeap
  · intro other live
    apply kept
    rintro rfl
    rw [Heap.cell_eq_none_of_content present] at live
    cases live
  · intro other found
    apply kept
    rintro rfl
    simp only [jobInfoAt, held] at found
    cases found

theorem Accounted.freeUser (accounted : Accounted state nodes datas jobs) {after : PoolHeap F X}
    {address : Addr} {object : X} (held : state.pool.heap.content address = some (.user object))
    (freed : state.pool.heap.free address = some after) :
    Accounted { state with pool := { state.pool with heap := after } } nodes datas jobs :=
  (accounted.owned.freeUser held freed).counted accounted.counter accounted.tokens

end Heap

/-! ## The steps of a worker -/

section Worker

variable {state : SharedPool F X} {nodes datas : List Addr} {jobs : List (ThreadPoolJobInfo F)}
  {thread : Nat}

/-- A worker moves, without a job before or after. -/
theorem Owned.move (owned : Owned state nodes datas jobs) {old : WorkerPc} (new : WorkerPc)
    (at_ : state.pool.threads[thread]? = some old) (alive : old ≠ .exited)
    (idle : new.serial? = none) (idleThreadNum : Int) (sem : Nat) :
    Owned { state with
      pool := { state.pool with idleThreadNum := idleThreadNum, sem := sem }.goto thread new }
      nodes datas jobs where
  list := owned.list
  workers := owned.workers.move at_ alive idle
  adder := owned.adder.mono
    (fun _ serial holds => ⟨serial, (serialOf_of_set at_ idle holds).2⟩)
  fifo := owned.fifo

/-- No token moves with the worker. -/
theorem Accounted.move (accounted : Accounted state nodes datas jobs) {old : WorkerPc}
    (new : WorkerPc) (at_ : state.pool.threads[thread]? = some old) (alive : old ≠ .exited)
    (idle : new.serial? = none) (oldOutside : old ≠ .dequeueSection)
    (newOutside : new ≠ .dequeueSection) (idleThreadNum : Int) :
    Accounted { state with
      pool := { state.pool with idleThreadNum := idleThreadNum }.goto thread new }
      nodes datas jobs := by
  apply (accounted.owned.move new at_ alive idle idleThreadNum state.pool.sem).counted
    accounted.counter
  have moved := count_set_add new .dequeueSection at_
  rw [if_neg oldOutside, if_neg newOutside, Nat.add_zero, Nat.add_zero] at moved
  change nodes.length = _ + (state.pool.threads.set thread new).count .dequeueSection + _
  rw [moved]
  exact accounted.tokens

/-- A worker takes a unit of the semaphore. -/
theorem Accounted.wait (accounted : Accounted state nodes datas jobs)
    (at_ : state.pool.threads[thread]? = some .semWait) (available : state.pool.sem ≠ 0) :
    Accounted { state with
      pool := { state.pool with sem := state.pool.sem - 1 }.goto thread .dequeueSection }
      nodes datas jobs := by
  apply (accounted.owned.move .dequeueSection at_ nofun rfl state.pool.idleThreadNum
    (state.pool.sem - 1)).counted accounted.counter
  have moved := count_set_add .dequeueSection .dequeueSection at_
  rw [if_neg (by decide), if_pos rfl] at moved
  change nodes.length = (state.pool.sem - 1) +
    (state.pool.threads.set thread .dequeueSection).count .dequeueSection +
    insertedAdders state.initMutex
  have before := accounted.tokens
  omega

/-- A worker takes the oldest job. -/
theorem Owned.dequeue {rest : List Addr} {last : Addr}
    (owned : Owned state (rest ++ [last]) datas jobs)
    (at_ : state.pool.threads[thread]? = some .dequeueSection) {ret : Int} {after : PoolHeap F X}
    (done : deleteTailDoublyLinkedListNode state.pool.heap (some .jobListHead)
      (some (.curHead thread)) = some (ret, after)) (idleThreadNum curJobNum : Int) :
    ret = 0 ∧ Exists fun restDatas => Exists fun restJobs => Exists fun jobInfo =>
      (after.nodeData (.curHead thread)).bind (jobInfoAt after) = some jobInfo ∧
      Owned { state with
        pool := { state.pool with
          idleThreadNum := idleThreadNum
          heap := after
          curJobNum := curJobNum
          dequeued := state.pool.dequeued ++ [jobInfo] }.goto thread
            (.fetched state.pool.dequeued.length) } rest restDatas restJobs := by
  rcases owned.list.split_last with ⟨restDatas, data, restJobs, jobInfo, rfl, rfl, points, info⟩
  have stack := owned.workers.stackLive thread _ at_ (by simp)
  rcases owned.list.pop stack with ⟨popped, pops, list, removes⟩
  cases done.symm.trans pops
  have sameInfo : jobInfoAt after = jobInfoAt state.pool.heap := by
    funext address
    simp only [jobInfoAt, removes.contents]
  refine ⟨rfl, restDatas, restJobs, jobInfo, ?_, ?_⟩
  · rw [removes.output, points, Option.bind_some, sameInfo, info]
  constructor
  · exact list
  · exact owned.workers.take owned.list at_ removes points info
  · exact owned.adder.take owned.list removes points
  · change (state.pool.dequeued ++ [jobInfo]) ++ restJobs.reverse = state.pool.accepted
    rw [← owned.fifo, List.reverse_append, List.reverse_singleton, List.append_assoc]

/-- A worker that is about to dequeue has a cell to take. -/
theorem Accounted.nonempty (accounted : Accounted state nodes datas jobs)
    (at_ : state.pool.threads[thread]? = some .dequeueSection) :
    Exists fun rest => Exists fun last => nodes = rest ++ [last] := by
  have present : 0 < state.pool.threads.count .dequeueSection :=
    List.count_pos_iff.mpr (List.mem_of_getElem? at_)
  have counted := accounted.tokens
  cases nodes using List.reverseRecOn with
  | nil =>
      rw [List.length_nil] at counted
      omega
  | append_singleton rest last _ => exact ⟨rest, last, rfl⟩

/-- The token of the worker goes with the cell that it takes. -/
theorem Accounted.dequeue (accounted : Accounted state nodes datas jobs)
    (at_ : state.pool.threads[thread]? = some .dequeueSection) {ret : Int} {after : PoolHeap F X}
    (done : deleteTailDoublyLinkedListNode state.pool.heap (some .jobListHead)
      (some (.curHead thread)) = some (ret, after)) (idleThreadNum : Int) :
    ret = 0 ∧ Exists fun rest => Exists fun restDatas => Exists fun restJobs =>
      Exists fun jobInfo =>
        (after.nodeData (.curHead thread)).bind (jobInfoAt after) = some jobInfo ∧
        Accounted { state with
          pool := { state.pool with
            idleThreadNum := idleThreadNum
            heap := after
            curJobNum := state.pool.curJobNum - 1
            dequeued := state.pool.dequeued ++ [jobInfo] }.goto thread
              (.fetched state.pool.dequeued.length) } rest restDatas restJobs := by
  rcases accounted.nonempty at_ with ⟨rest, last, rfl⟩
  rcases accounted.owned.dequeue at_ done idleThreadNum (state.pool.curJobNum - 1) with
    ⟨success, restDatas, restJobs, jobInfo, fetched, owned⟩
  refine ⟨success, rest, restDatas, restJobs, jobInfo, fetched, owned.counted ?_ ?_⟩
  · change state.pool.curJobNum - 1 = _
    have before := accounted.counter
    rw [List.length_append, List.length_singleton] at before
    omega
  · have moved := count_set_add (.fetched state.pool.dequeued.length) .dequeueSection at_
    rw [if_pos rfl, if_neg (by simp)] at moved
    have before := accounted.tokens
    rw [List.length_append, List.length_singleton] at before
    change rest.length = state.pool.sem +
      (state.pool.threads.set thread (.fetched state.pool.dequeued.length)).count
        .dequeueSection + insertedAdders state.initMutex
    omega

/-- A worker calls the function of its job. -/
theorem Owned.start (owned : Owned state nodes datas jobs) {serial : Nat} {cur : Addr}
    (at_ : state.pool.threads[thread]? = some (.fetched serial))
    (points : state.pool.heap.nodeData (.curHead thread) = some cur) :
    Owned { state with pool := state.pool.goto thread (.running serial cur) } nodes datas jobs where
  list := owned.list
  workers := owned.workers.start at_ points
  adder := by
    apply owned.adder.mono
    intro other otherSerial holds
    have kept := serialOf_set_same (.running serial cur) at_ rfl other
    exact ⟨otherSerial, kept.symm.trans holds⟩
  fifo := owned.fifo

theorem Accounted.start (accounted : Accounted state nodes datas jobs) {serial : Nat} {cur : Addr}
    (at_ : state.pool.threads[thread]? = some (.fetched serial))
    (points : state.pool.heap.nodeData (.curHead thread) = some cur) :
    Accounted { state with pool := state.pool.goto thread (.running serial cur) }
      nodes datas jobs := by
  apply (accounted.owned.start at_ points).counted accounted.counter
  have moved := count_set_add (.running serial cur) .dequeueSection at_
  rw [if_neg nofun, if_neg nofun, Nat.add_zero, Nat.add_zero] at moved
  change nodes.length = state.pool.sem +
    (state.pool.threads.set thread (.running serial cur)).count .dequeueSection +
    insertedAdders state.initMutex
  rw [moved]
  exact accounted.tokens

/-- A worker frees the description of its job. -/
theorem Owned.finish (owned : Owned state nodes datas jobs) {serial : Nat}
    {cur data : Addr} (at_ : state.pool.threads[thread]? = some (.running serial cur))
    (points : state.pool.heap.nodeData (.curHead thread) = some data) {after : PoolHeap F X}
    (freed : state.pool.heap.free data = some after) :
    Owned { state with
      pool := { state.pool with heap := after }.goto thread .loopTest } nodes datas jobs := by
  have holds : serialOf state.pool.threads thread = some serial :=
    serialOf_at at_
  rcases owned.workers.holds thread serial holds with
    ⟨held, jobInfo, heldPoints, info, _, notListed⟩
  have sameData : held = data := Option.some.inj (heldPoints.symm.trans points)
  subst sameData
  have kept := (Heap.frees_of_free freed).elsewhere
  have notCell : forall address, (state.pool.heap.cell address).isSome -> address ≠ held := by
    rintro address live rfl
    rw [cell_eq_none_of_jobInfo info] at live
    cases live
  constructor
  · apply owned.list.congr
    · exact fun address member => kept address (notCell address (owned.list.ring.live _ member))
    · intro address member
      apply kept
      rintro rfl
      exact notListed member
  · exact owned.workers.finish at_ points kept
  · have stays := owned.adder.congr
      (fun jobInfo tmp owns => kept tmp (by
        rintro rfl
        exact owns.notHeld thread serial holds points))
      (fun address live => kept address (notCell address live))
      owned.workers.stack_of_serial
    exact stays.mono (fun _ before held => ⟨before, (serialOf_of_set at_ rfl held).2⟩)
  · exact owned.fifo

theorem Accounted.finish (accounted : Accounted state nodes datas jobs) {serial : Nat}
    {cur data : Addr} (at_ : state.pool.threads[thread]? = some (.running serial cur))
    (points : state.pool.heap.nodeData (.curHead thread) = some data) {after : PoolHeap F X}
    (freed : state.pool.heap.free data = some after) :
    Accounted { state with
      pool := { state.pool with heap := after }.goto thread .loopTest } nodes datas jobs := by
  apply (accounted.owned.finish at_ points freed).counted accounted.counter
  have moved := count_set_add .loopTest .dequeueSection at_
  rw [if_neg nofun, if_neg nofun, Nat.add_zero, Nat.add_zero] at moved
  change nodes.length = state.pool.sem +
    (state.pool.threads.set thread .loopTest).count .dequeueSection +
    insertedAdders state.initMutex
  rw [moved]
  exact accounted.tokens

/-- A worker with a job points to its description. -/
theorem Owned.points (owned : Owned state nodes datas jobs) {serial : Nat} {old : WorkerPc}
    (at_ : state.pool.threads[thread]? = some old) (isSerial : old.serial? = some serial) :
    state.pool.heap.nodeData (.curHead thread) ≠ none := by
  intro noData
  rcases owned.workers.holds thread serial ((serialOf_at at_).trans isSerial) with
    ⟨data, _, points, _⟩
  cases noData.symm.trans points

end Worker

/-- Every step of a worker keeps the accounts. -/
theorem accounted_worker {state : SharedPool F X} {nodes datas : List Addr}
    {jobs : List (ThreadPoolJobInfo F)} {thread : Nat} {pool : PoolState F X}
    (accounted : Accounted state nodes datas jobs)
    (stepped : workerStep state.pool thread = some pool) :
    Exists fun nodes => Exists fun datas => Exists fun jobs =>
      Accounted { state with pool := pool } nodes datas jobs := by
  cases workerStep_cases stepped with
  | loops at_ running =>
      exact ⟨nodes, datas, jobs, accounted.move .idleSection at_ nofun rfl nofun nofun _⟩
  | exits at_ stopped =>
      exact ⟨nodes, datas, jobs, accounted.move .exited at_ nofun rfl nofun nofun _⟩
  | idles at_ => exact ⟨nodes, datas, jobs, accounted.move .semWait at_ nofun rfl nofun nofun _⟩
  | waits at_ available => exact ⟨nodes, datas, jobs, accounted.wait at_ available⟩
  | findsNone at_ ret heap failed done =>
      exact absurd (accounted.dequeue at_ done (state.pool.idleThreadNum - 1)).1 failed
  | takes at_ heap done =>
      rcases accounted.dequeue at_ done (state.pool.idleThreadNum - 1) with
        ⟨_, rest, restDatas, restJobs, jobInfo, fetched, kept⟩
      rw [fetched]
      exact ⟨rest, restDatas, restJobs, kept⟩
  | calls serial cur jobInfo at_ points info =>
      exact ⟨nodes, datas, jobs, accounted.start at_ points⟩
  | finishes serial cur data heap at_ points freed =>
      exact ⟨nodes, datas, jobs, accounted.finish at_ points freed⟩
  | skips serial old at_ isSerial noData =>
      exact absurd noData (accounted.owned.points at_ isSerial)

/-- A worker may also be woken without a job, and every description keeps its owner. -/
theorem owned_worker {state : SharedPool F X} {nodes datas : List Addr}
    {jobs : List (ThreadPoolJobInfo F)} {thread : Nat} {pool : PoolState F X}
    (owned : Owned state nodes datas jobs)
    (stepped : workerStep state.pool thread = some pool) :
    Exists fun nodes => Exists fun datas => Exists fun jobs =>
      Owned { state with pool := pool } nodes datas jobs := by
  cases workerStep_cases stepped with
  | loops at_ running => exact ⟨nodes, datas, jobs, owned.move .idleSection at_ nofun rfl _ _⟩
  | exits at_ stopped => exact ⟨nodes, datas, jobs, owned.move .exited at_ nofun rfl _ _⟩
  | idles at_ => exact ⟨nodes, datas, jobs, owned.move .semWait at_ nofun rfl _ _⟩
  | waits at_ available => exact ⟨nodes, datas, jobs, owned.move .dequeueSection at_ nofun rfl _ _⟩
  | findsNone at_ ret heap failed done =>
      cases nodes using List.reverseRecOn with
      | nil =>
          cases done.symm.trans (deleteTailDoublyLinkedListNode_empty owned.list.ring)
          exact ⟨[], datas, jobs, owned.move .loopTest at_ nofun rfl _ _⟩
      | append_singleton rest last _ => exact absurd (owned.dequeue at_ done 0 0).1 failed
  | takes at_ heap done =>
      cases nodes using List.reverseRecOn with
      | nil => cases done.symm.trans (deleteTailDoublyLinkedListNode_empty owned.list.ring)
      | append_singleton rest last _ =>
          rcases owned.dequeue at_ done (state.pool.idleThreadNum - 1)
            (state.pool.curJobNum - 1) with ⟨_, restDatas, restJobs, jobInfo, fetched, kept⟩
          rw [fetched]
          exact ⟨rest, restDatas, restJobs, kept⟩
  | calls serial cur jobInfo at_ points info =>
      exact ⟨nodes, datas, jobs, owned.start at_ points⟩
  | finishes serial cur data heap at_ points freed =>
      exact ⟨nodes, datas, jobs, owned.finish at_ points freed⟩
  | skips serial old at_ isSerial noData => exact absurd noData (owned.points at_ isSerial)

/-! ## The steps of a caller -/

section Caller

variable {state : SharedPool F X} {nodes datas : List Addr} {jobs : List (ThreadPoolJobInfo F)}
  {jobInfo : ThreadPoolJobInfo F} {tmp : Addr} {caller : Nat}

/-- The mutex changes hands, or its holder moves on. -/
theorem Owned.setMutex (owned : Owned state nodes datas jobs) (adder : Option (Adder F))
    (owns : AdderOwns state.pool.heap state.pool.threads nodes datas adder) (sem : Nat) :
    Owned { pool := { state.pool with sem := sem }, initMutex := adder } nodes datas jobs :=
  ⟨owned.list, owned.workers, owns, owned.fifo⟩

/-- The mutex changes hands, or its holder moves on without a token. -/
theorem Accounted.setMutex (accounted : Accounted state nodes datas jobs)
    (adder : Option (Adder F))
    (owns : AdderOwns state.pool.heap state.pool.threads nodes datas adder)
    (same : insertedAdders adder = insertedAdders state.initMutex) :
    Accounted { state with initMutex := adder } nodes datas jobs := by
  apply (accounted.owned.setMutex adder owns state.pool.sem).counted accounted.counter
  change nodes.length = state.pool.sem + state.pool.threads.count .dequeueSection +
    insertedAdders adder
  rw [same]
  exact accounted.tokens

/-- The caller has memory for its description. -/
theorem Owned.allocate (owned : Owned state nodes datas jobs) {index : Nat}
    {after : PoolHeap F X}
    (done : state.pool.heap.malloc (.block index) (.data (.jobNode jobInfo)) = some after) :
    Owned { pool := { state.pool with heap := after }
            initMutex := some ⟨caller, .allocated jobInfo (.block index)⟩ }
      nodes datas jobs := by
  have mallocs := Heap.mallocs_of_malloc done
  have notUsed : forall info : ThreadPoolJobInfo F,
      jobInfoAt state.pool.heap (.block index) ≠ some info := by
    intro info found
    have present := isSome_of_jobInfo found
    rw [mallocs.unused] at present
    cases present
  refine (owned.malloc done).setMutex (some ⟨caller, .allocated jobInfo (.block index)⟩)
    ⟨?_, ?_, ?_⟩ state.pool.sem
  · change jobInfoAt after (.block index) = some jobInfo
    simp only [jobInfoAt, Heap.content, mallocs.holds]
  · intro member
    rcases owned.list.info_of_mem member with ⟨info, found⟩
    exact notUsed info found
  · intro thread serial holds points
    have stack : after.nodeData (.curHead thread) =
        state.pool.heap.nodeData (.curHead thread) := by
      simp only [Heap.nodeData, Heap.cell, mallocs.elsewhere (.curHead thread) (by simp)]
    change after.nodeData (.curHead thread) = some (.block index) at points
    rw [stack] at points
    rcases owned.workers.holds thread serial holds with
      ⟨data, info, dataPoints, found, _, _⟩
    rw [Option.some.inj (dataPoints.symm.trans points)] at found
    exact notUsed info found

/-- The caller gives up: its description is freed. -/
theorem Owned.giveUp (owned : Owned state nodes datas jobs)
    (owns : OwnsTmp state.pool.heap state.pool.threads datas jobInfo tmp)
    {after : PoolHeap F X} (freed : state.pool.heap.free tmp = some after) :
    Owned { pool := { state.pool with heap := after }, initMutex := none } nodes datas jobs := by
  have kept := (Heap.frees_of_free freed).elsewhere
  have notCell : forall address, (state.pool.heap.cell address).isSome -> address ≠ tmp := by
    rintro address live rfl
    rw [cell_eq_none_of_jobInfo owns.info] at live
    cases live
  constructor
  · apply owned.list.congr
    · exact fun address member => kept address (notCell address (owned.list.ring.live _ member))
    · intro address member
      apply kept
      rintro rfl
      exact owns.notListed member
  · apply owned.workers.congr
    · exact fun thread live => kept _ (notCell _ live)
    · intro thread serial data holds points
      apply kept
      rintro rfl
      exact owns.notHeld thread serial holds points
  · exact trivial
  · exact owned.fifo

/-- The caller has memory for a cell and makes it point to its description. -/
theorem Owned.create (owned : Owned state nodes datas jobs)
    (isHolder : state.initMutex = some ⟨caller, .allocated jobInfo tmp⟩) {index : Nat}
    {after : PoolHeap F X}
    (done : createDoublyLinkedListNode state.pool.heap (some tmp) (some (.block index)) =
      some (some (.block index), after)) :
    Owned { pool := { state.pool with heap := after }
            initMutex := some ⟨caller, .created jobInfo tmp (.block index)⟩ }
      nodes datas jobs := by
  have unused : state.pool.heap (.block index) = none := by
    rcases Option.bind_eq_some_iff.mp done with ⟨first, allocated, _⟩
    exact (Heap.mallocs_of_malloc allocated).unused
  rcases createDoublyLinkedListNode_spec tmp unused with ⟨reached, creates, live, points, kept⟩
  cases done.symm.trans creates
  have keptLive : forall address, (state.pool.heap address).isSome ->
      after address = state.pool.heap address := by
    intro address present
    apply kept
    rintro rfl
    rw [unused] at present
    cases present
  have stays := owned.congrHeap
    (fun address isCell => keptLive address (Heap.isSome_of_cell isCell))
    (fun address isInfo => by
      rcases Option.isSome_iff_exists.mp isInfo with ⟨info, found⟩
      exact keptLive address (isSome_of_jobInfo found))
  have ownsAfter : OwnsTmp after state.pool.threads datas jobInfo tmp := by
    have held := stays.adder
    change AdderOwns after state.pool.threads nodes datas state.initMutex at held
    rw [isHolder] at held
    exact held
  refine stays.setMutex (some ⟨caller, .created jobInfo tmp (.block index)⟩)
    ⟨ownsAfter, live, ⟨index, rfl⟩, points, ?_⟩ state.pool.sem
  intro member
  have present := Heap.isSome_of_cell (owned.list.ring.live _ member)
  rw [unused] at present
  cases present

/-- The caller puts its cell at the head of the list. -/
theorem Owned.insert {node : Addr} (owned : Owned state nodes datas jobs)
    (isHolder : state.initMutex = some ⟨caller, .created jobInfo tmp node⟩) {ret : Int}
    {after : PoolHeap F X}
    (done : insertHeadDoublyLinkedListNode state.pool.heap (some .jobListHead) (some node) =
      some (ret, after)) (curJobNum : Int) :
    Owned { pool := { state.pool with
              heap := after
              curJobNum := curJobNum
              accepted := state.pool.accepted ++ [jobInfo] }
            initMutex := some ⟨caller, .inserted⟩ }
      (node :: nodes) (tmp :: datas) (jobInfo :: jobs) := by
  have owns : OwnsTmp state.pool.heap state.pool.threads datas jobInfo tmp ∧
      OwnsNode state.pool.heap nodes tmp node := by
    have held := owned.adder
    rw [isHolder] at held
    exact held
  rcases owns with ⟨ownsTmp, ownsNode⟩
  rcases owned.list.push ownsNode.live ownsNode.isBlock ownsNode.points ownsTmp.info
    ownsNode.notListed ownsTmp.notListed with ⟨reached, pushes, list, inserts⟩
  cases done.symm.trans pushes
  refine ⟨list, ?_, trivial, ?_⟩
  · exact owned.workers.insert owned.list ownsNode.isBlock inserts ownsTmp.notHeld
  · change state.pool.dequeued ++ (jobInfo :: jobs).reverse = state.pool.accepted ++ [jobInfo]
    rw [← owned.fifo, List.reverse_cons, List.append_assoc]

/-- The new cell waits for the post of its caller. -/
theorem Accounted.insert {node : Addr} (accounted : Accounted state nodes datas jobs)
    (isHolder : state.initMutex = some ⟨caller, .created jobInfo tmp node⟩) {ret : Int}
    {after : PoolHeap F X}
    (done : insertHeadDoublyLinkedListNode state.pool.heap (some .jobListHead) (some node) =
      some (ret, after)) :
    Accounted { pool := { state.pool with
                  heap := after
                  curJobNum := state.pool.curJobNum + 1
                  accepted := state.pool.accepted ++ [jobInfo] }
                initMutex := some ⟨caller, .inserted⟩ }
      (node :: nodes) (tmp :: datas) (jobInfo :: jobs) := by
  refine (accounted.owned.insert isHolder done (state.pool.curJobNum + 1)).counted ?_ ?_
  · change state.pool.curJobNum + 1 = _
    rw [accounted.counter, List.length_cons]
    rfl
  · have before := accounted.tokens
    rw [isHolder] at before
    change (node :: nodes).length =
      state.pool.sem + state.pool.threads.count .dequeueSection + 1
    rw [List.length_cons, before]
    rfl

/-- The caller posts for the job that it has inserted. -/
theorem Accounted.post (accounted : Accounted state nodes datas jobs)
    (isHolder : state.initMutex = some ⟨caller, .inserted⟩) :
    Accounted { pool := { state.pool with sem := state.pool.sem + 1 }
                initMutex := some ⟨caller, .posted⟩ } nodes datas jobs := by
  apply (accounted.owned.setMutex (some ⟨caller, .posted⟩) trivial
    (state.pool.sem + 1)).counted accounted.counter
  have before := accounted.tokens
  rw [isHolder] at before
  change nodes.length = (state.pool.sem + 1) + state.pool.threads.count .dequeueSection + 0
  change nodes.length = state.pool.sem + state.pool.threads.count .dequeueSection + 1 at before
  omega

/-- The description that the caller inside has made is its own. -/
theorem Owned.holdsTmp (owned : Owned state nodes datas jobs)
    (isHolder : state.initMutex = some ⟨caller, .allocated jobInfo tmp⟩) :
    OwnsTmp state.pool.heap state.pool.threads datas jobInfo tmp := by
  have held := owned.adder
  rw [isHolder] at held
  exact held

/-- Every step of the caller inside keeps every description with its owner. -/
theorem owned_add {label : PoolLabel F X} {adder : Adder F} {next : SharedPool F X}
    (owned : Owned state nodes datas jobs) (isHolder : state.initMutex = some adder)
    (stepped : addStep state adder label = some next) :
    Exists fun nodes => Exists fun datas => Exists fun jobs => Owned next nodes datas jobs := by
  rcases adder with ⟨owner, pc⟩
  cases addStep_cases stepped with
  | refused jobInfo block notInit =>
      exact ⟨nodes, datas, jobs, owned.setMutex none trivial state.pool.sem⟩
  | noMemory jobInfo isInit =>
      exact ⟨nodes, datas, jobs, owned.setMutex none trivial state.pool.sem⟩
  | allocates jobInfo index heap isInit done => exact ⟨nodes, datas, jobs, owned.allocate done⟩
  | givesUp jobInfo tmp heap freed =>
      exact ⟨nodes, datas, jobs, owned.giveUp (owned.holdsTmp isHolder) freed⟩
  | creates jobInfo tmp index heap done =>
      exact ⟨nodes, datas, jobs, owned.create isHolder done⟩
  | inserts jobInfo tmp node ret heap done =>
      exact ⟨_, _, _, owned.insert isHolder done (state.pool.curJobNum + 1)⟩
  | posts =>
      exact ⟨nodes, datas, jobs, owned.setMutex (some ⟨owner, .posted⟩) trivial
        (state.pool.sem + 1)⟩
  | leaves => exact ⟨nodes, datas, jobs, owned.setMutex none trivial state.pool.sem⟩

/-- Every step of the caller inside keeps the accounts. -/
theorem accounted_add {label : PoolLabel F X} {adder : Adder F} {next : SharedPool F X}
    (accounted : Accounted state nodes datas jobs) (isHolder : state.initMutex = some adder)
    (stepped : addStep state adder label = some next) :
    Exists fun nodes => Exists fun datas => Exists fun jobs => Accounted next nodes datas jobs := by
  rcases adder with ⟨owner, pc⟩
  have owned := accounted.owned
  have noToken : pc ≠ .inserted -> insertedAdders state.initMutex = 0 := by
    intro notInserted
    rw [isHolder]
    cases pc <;> first | rfl | exact absurd rfl notInserted
  have tokens : pc ≠ .inserted -> nodes.length = state.pool.sem +
      state.pool.threads.count .dequeueSection + 0 :=
    fun notInserted => noToken notInserted ▸ accounted.tokens
  cases addStep_cases stepped with
  | refused jobInfo block notInit =>
      exact ⟨nodes, datas, jobs, accounted.setMutex none trivial (noToken nofun).symm⟩
  | noMemory jobInfo isInit =>
      exact ⟨nodes, datas, jobs, accounted.setMutex none trivial (noToken nofun).symm⟩
  | allocates jobInfo index heap isInit done =>
      exact ⟨nodes, datas, jobs, (owned.allocate done).counted accounted.counter (tokens nofun)⟩
  | givesUp jobInfo tmp heap freed =>
      exact ⟨nodes, datas, jobs, (owned.giveUp (owned.holdsTmp isHolder) freed).counted
        accounted.counter (tokens nofun)⟩
  | creates jobInfo tmp index heap done =>
      exact ⟨nodes, datas, jobs, (owned.create isHolder done).counted accounted.counter
        (tokens nofun)⟩
  | inserts jobInfo tmp node ret heap done => exact ⟨_, _, _, accounted.insert isHolder done⟩
  | posts => exact ⟨nodes, datas, jobs, accounted.post isHolder⟩
  | leaves => exact ⟨nodes, datas, jobs, accounted.setMutex none trivial (noToken nofun).symm⟩

end Caller

/-- What moves besides the callers is a worker or an object of the rest of the program. -/
inductive BackgroundCase (state : PoolState F X) : Background X -> PoolState F X -> Prop
  | works (thread : Nat) {after : PoolState F X} (worked : workerStep state thread = some after) :
      BackgroundCase state (.worker thread) after
  | mallocs (index : Nat) (object : X) (heap : PoolHeap F X)
      (done : state.heap.malloc (.block index) (.data (.user object)) = some heap) :
      BackgroundCase state (.userMalloc index object) { state with heap := heap }
  | frees (address : Addr) (object : X) (heap : PoolHeap F X)
      (held : state.heap.content address = some (.user object))
      (freed : state.heap.free address = some heap) :
      BackgroundCase state (.userFree address) { state with heap := heap }

theorem backgroundStep_cases {state after : PoolState F X} {label : Background X}
    (stepped : backgroundStep state label = some after) : BackgroundCase state label after := by
  cases label with
  | worker thread => exact .works thread stepped
  | userMalloc index object =>
      rcases Option.map_eq_some_iff.mp stepped with ⟨heap, done, rfl⟩
      exact .mallocs index object heap done
  | userFree address =>
      simp only [backgroundStep] at stepped
      split at stepped
      · next object held =>
          rcases Option.map_eq_some_iff.mp stepped with ⟨heap, freed, rfl⟩
          exact .frees address object heap held freed
      · cases stepped

/-- What moves besides the callers keeps the accounts. -/
theorem accounted_background {state : SharedPool F X} {nodes datas : List Addr}
    {jobs : List (ThreadPoolJobInfo F)} {label : Background X} {after : PoolState F X}
    (accounted : Accounted state nodes datas jobs)
    (stepped : backgroundStep state.pool label = some after) :
    Exists fun nodes => Exists fun datas => Exists fun jobs =>
      Accounted { state with pool := after } nodes datas jobs := by
  cases backgroundStep_cases stepped with
  | works thread worked => exact accounted_worker accounted worked
  | mallocs index object heap done => exact ⟨nodes, datas, jobs, accounted.malloc done⟩
  | frees address object heap held freed =>
      exact ⟨nodes, datas, jobs, accounted.freeUser held freed⟩

theorem owned_background {state : SharedPool F X} {nodes datas : List Addr}
    {jobs : List (ThreadPoolJobInfo F)} {label : Background X} {after : PoolState F X}
    (owned : Owned state nodes datas jobs)
    (stepped : backgroundStep state.pool label = some after) :
    Exists fun nodes => Exists fun datas => Exists fun jobs =>
      Owned { state with pool := after } nodes datas jobs := by
  cases backgroundStep_cases stepped with
  | works thread worked => exact owned_worker owned worked
  | mallocs index object heap done => exact ⟨nodes, datas, jobs, owned.malloc done⟩
  | frees address object heap held freed => exact ⟨nodes, datas, jobs, owned.freeUser held freed⟩

/-- Every step of the pool keeps the accounts. -/
theorem accounted_step {state next : SharedPool F X} {label : PoolLabel F X} {nodes datas : List Addr}
    {jobs : List (ThreadPoolJobInfo F)} (accounted : Accounted state nodes datas jobs)
    (stepped : poolStep state label = some next) :
    Exists fun nodes => Exists fun datas => Exists fun jobs => Accounted next nodes datas jobs := by
  cases poolStep_cases stepped with
  | rejects caller jobFunc arg invalid => exact ⟨nodes, datas, jobs, accounted⟩
  | enters caller jobFunc arg unlocked =>
      refine ⟨nodes, datas, jobs, accounted.setMutex _ trivial ?_⟩
      rw [unlocked]
      rfl
  | adds adder isHolder added => exact accounted_add accounted isHolder added
  | moves label pool moved => exact accounted_background accounted moved

/-- Every step of the pool keeps every description with its owner, also when a
semaphore unit was posted without a job. -/
theorem owned_step {state next : SharedPool F X} {label : PoolLabel F X} {nodes datas : List Addr}
    {jobs : List (ThreadPoolJobInfo F)} (owned : Owned state nodes datas jobs)
    (stepped : poolStep state label = some next) :
    Exists fun nodes => Exists fun datas => Exists fun jobs => Owned next nodes datas jobs := by
  cases poolStep_cases stepped with
  | rejects caller jobFunc arg invalid => exact ⟨nodes, datas, jobs, owned⟩
  | enters caller jobFunc arg unlocked =>
      refine ⟨nodes, datas, jobs, owned.setMutex _ ?_ state.pool.sem⟩
      exact trivial
  | adds adder isHolder added => exact owned_add owned isHolder added
  | moves label pool moved => exact owned_background owned moved

/-! ## Runs of the pool -/

/-- An idle pool is accounted for, with no job anywhere. -/
theorem accounted_of_idle {start : PoolState F X} (idle : Idle start) :
    Accounted ⟨start, none⟩ [] [] [] := by
  have noSerial : forall thread serial, serialOf start.threads thread ≠ some serial := by
    intro thread serial holds
    rcases running_of_serialOf holds with ⟨pc, at_, alive, serialIs⟩
    rcases idle.threads thread pc at_ with gone | ⟨rfl, _⟩
    · exact alive gone
    · cases serialIs
  constructor
  · exact idle.list
  · constructor
    · intro thread pc at_ alive
      rcases idle.threads thread pc at_ with gone | ⟨_, live⟩
      · exact absurd gone alive
      · exact live
    · exact fun thread serial holds => absurd holds (noSerial thread serial)
    · intro thread serial cur at_
      rcases idle.threads thread _ at_ with gone | ⟨ready, _⟩
      · cases gone
      · cases ready
    · exact fun first _ serial _ _ holds => absurd holds (noSerial first serial)
    · exact fun first _ serial holds => absurd holds (noSerial first serial)
  · exact trivial
  · rw [List.reverse_nil, List.append_nil, idle.dequeued, idle.accepted]
  · exact idle.counter
  · have noneDequeues : start.threads.count .dequeueSection = 0 := by
      apply List.count_eq_zero_of_not_mem
      intro member
      rcases List.mem_iff_getElem?.mp member with ⟨thread, at_⟩
      rcases idle.threads thread _ at_ with gone | ⟨ready, _⟩
      · cases gone
      · cases ready
    change 0 = start.sem + start.threads.count .dequeueSection + 0
    rw [idle.sem, noneDequeues]

/-! ## The agreement -/

/-- Queue, counter and semaphore agree.  The jobs are listed newest first, so
those dequeued and then the reversed list are the accepted jobs in order. -/
structure QueueAgrees (state : SharedPool F X) : Prop where
  agrees : Exists fun nodes => Exists fun datas => Exists fun jobs =>
    JobList state.pool.heap nodes datas jobs ∧
    state.pool.curJobNum = nodes.length ∧
    nodes.length = state.pool.sem + state.pool.threads.count .dequeueSection +
      insertedAdders state.initMutex ∧
    state.pool.dequeued ++ jobs.reverse = state.pool.accepted
  neverEmpty : forall thread, state.pool.threads[thread]? = some .dequeueSection ->
    Exists fun heap => deleteTailDoublyLinkedListNode state.pool.heap (some .jobListHead)
      (some (.curHead thread)) = some (0, heap)

theorem queueAgrees_of_accounted {state : SharedPool F X} {nodes datas : List Addr}
    {jobs : List (ThreadPoolJobInfo F)} (accounted : Accounted state nodes datas jobs) :
    QueueAgrees state where
  agrees := ⟨nodes, datas, jobs, accounted.list, accounted.counter, accounted.tokens, accounted.fifo⟩
  neverEmpty := by
    intro thread at_
    rcases accounted.nonempty at_ with ⟨rest, last, rfl⟩
    rcases accounted.list.split_last with ⟨restDatas, data, restJobs, jobInfo, rfl, rfl, _, _⟩
    rcases accounted.list.pop (accounted.workers.stackLive thread _ at_ nofun) with
      ⟨after, done, _, _⟩
    exact ⟨after, done⟩

/-- Every state that the callers and the workers reach is accounted for. -/
theorem accounted_of_run {start : PoolState F X} {final : SharedPool F X}
    {labels : List (PoolLabel F X)} (idle : Idle start)
    (ran : (pool F X).run ⟨start, none⟩ labels = some final) :
    Exists fun nodes => Exists fun datas => Exists fun jobs => Accounted final nodes datas jobs := by
  apply (pool F X).run_invariant ?_ ⟨[], [], [], accounted_of_idle idle⟩ ran
  rintro state label next ⟨nodes, datas, jobs, accounted⟩ taken
  exact accounted_step accounted taken

/-- After a successful initialisation, queue, counter and semaphore agree in
every state, whatever the callers, the workers and the rest of the program do.
The threads of earlier initialisations have ended by then: the workers are the
`threadNum` threads that this one has created. -/
theorem pool_queueAgrees {pre start : PoolState F X} {threadNum : Int} {outcome : InitOutcome}
    (uninitialised : pre.isInit = false) (noWorkers : forall pc, pc ∈ pre.threads -> pc = .exited)
    (initialised : threadPoolInit pre threadNum outcome = some (.returned 0 start))
    {labels : List (PoolLabel F X)} {final : SharedPool F X}
    (ran : (pool F X).run ⟨start, none⟩ labels = some final) : QueueAgrees final := by
  rcases accounted_of_run (idle_of_threadPoolInit uninitialised noWorkers initialised) ran with
    ⟨nodes, datas, jobs, accounted⟩
  exact queueAgrees_of_accounted accounted

/-- Two callers and one worker: the second job is inserted but not yet posted
while the worker runs the first. -/
theorem pool_queueAgrees_twoCallers :
    let cell : DoublyLinkedListNode Addr := ⟨none, .jobListHead, .jobListHead⟩
    Exists fun start => Exists fun final =>
      threadPoolInit (poolStatics Unit Unit cell) 1 (.success cell) = some (.returned 0 start) ∧
      (pool Unit Unit).run ⟨start, none⟩
        [.enter 0 (some ()) (some (.block 0)), .allocate 0 (some 1), .create 0 (some 2), .insert 0,
          .post 0, .leave 0, .background (.worker 0), .background (.worker 0),
          .background (.worker 0), .background (.worker 0), .background (.worker 0),
          .enter 1 (some ()) (some (.block 0)), .allocate 1 (some 3), .create 1 (some 4),
          .insert 1] = some final ∧
      final.pool.curJobNum = 1 ∧ QueueAgrees final := by
  intro cell
  have reached : ((threadPoolInit (poolStatics Unit Unit cell) 1 (.success cell)).bind
      InitResult.started).bind (fun start => ((pool Unit Unit).run ⟨start, none⟩
        [.enter 0 (some ()) (some (.block 0)), .allocate 0 (some 1), .create 0 (some 2), .insert 0,
          .post 0, .leave 0, .background (.worker 0), .background (.worker 0),
          .background (.worker 0), .background (.worker 0), .background (.worker 0),
          .enter 1 (some ()) (some (.block 0)), .allocate 1 (some 3), .create 1 (some 4),
          .insert 1]).map (fun final => final.pool.curJobNum)) = some 1 := by
    decide
  rcases InitResult.exists_run reached with ⟨start, final, done, ran, counted⟩
  refine ⟨start, final, done, ran, counted, pool_queueAgrees rfl ?_ done ran⟩
  exact fun pc member => absurd member List.not_mem_nil

end ThreadPool
end V2x
