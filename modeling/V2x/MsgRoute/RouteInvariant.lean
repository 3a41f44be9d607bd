import V2x.MsgRoute.RouteSystem

namespace V2x
namespace MsgRoute

open Foundations ThreadPool

/-!
# What links packets, jobs and executions

`RunsOk` links the executions to the threads and to the jobs that were taken.
`BlocksOk` says that the block of every job that is not over holds its packet,
and that no two such jobs share a block.  `RunsCorrect` says that every
execution sends what its packet and the table ask for.  `EpollOk` says what the
epoll thread has in its hands.
-/

/-- The bytes that are sent on for a packet. -/
def Packet.routed (packet : Packet) : List UInt8 := routedBytes packet.bytes packet.fd

/-- The message that the job of a packet reads. -/
def Packet.msg (packet : Packet) : MsgRouteDataInfo := Memory.ofBytes packet.routed

/-- An execution of the job with this position has returned. -/
def Over (runs : List JobRun) (serial : Nat) : Prop :=
  Exists fun run => run ∈ runs ∧ run.serial = serial ∧ run.returned = true

/-! ## Executions and threads -/

structure RunsOk (threads : List WorkerPc) (dequeued : List (ThreadPoolJobInfo JobFunc))
    (runs : List JobRun) : Prop where
  distinct : (runs.map JobRun.serial).Nodup
  job : forall run, run ∈ runs -> Exists fun jobInfo =>
    dequeued[run.serial]? = some jobInfo ∧ jobInfo.arg = run.arg
  running : forall run, run ∈ runs -> run.returned = false ->
    Exists fun (thread : Nat) => Exists fun (cur : Addr) => threads[thread]? = some (WorkerPc.running run.serial cur)
  called : forall (thread serial : Nat) (cur : Addr), threads[thread]? = some (WorkerPc.running serial cur) ->
    Exists fun run => run ∈ runs ∧ run.serial = serial
  notCalled : forall (thread serial : Nat), threads[thread]? = some (WorkerPc.fetched serial) ->
    forall run, run ∈ runs -> run.serial ≠ serial
  finished : forall serial, serial < dequeued.length ->
    (Exists fun thread => serialOf threads thread = some serial) ∨ Over runs serial

namespace RunsOk

variable {threads : List WorkerPc} {dequeued : List (ThreadPoolJobInfo JobFunc)}
  {runs : List JobRun} {thread : Nat}

theorem start (idle : forall thread serial, serialOf threads thread ≠ some serial) :
    RunsOk threads [] [] where
  distinct := List.nodup_nil
  job := fun _ member => absurd member List.not_mem_nil
  running := fun _ member => absurd member List.not_mem_nil
  called := by
    intro thread serial cur at_
    exact absurd (by rw [serialOf, at_]; rfl) (idle thread serial)
  notCalled := fun _ _ _ _ member => absurd member List.not_mem_nil
  finished := fun _ below => absurd below (Nat.not_lt_zero _)

/-- Two executions of one job are one execution. -/
theorem eq_of_serial (ok : RunsOk threads dequeued runs) {first second : JobRun}
    (firstMember : first ∈ runs) (secondMember : second ∈ runs)
    (same : first.serial = second.serial) : first = second :=
  List.inj_on_of_nodup_map ok.distinct firstMember secondMember same

theorem serial_lt (ok : RunsOk threads dequeued runs) {run : JobRun} (member : run ∈ runs) :
    run.serial < dequeued.length := by
  rcases ok.job run member with ⟨jobInfo, taken, _⟩
  exact (List.getElem?_eq_some_iff.mp taken).1

/-- The executions go on. -/
theorem map (ok : RunsOk threads dequeued runs) (change : JobRun -> JobRun)
    (serial : forall run, (change run).serial = run.serial)
    (arg : forall run, (change run).arg = run.arg)
    (returned : forall run, run ∈ runs -> run.returned = true -> (change run).returned = true) :
    RunsOk threads dequeued (runs.map change) where
  distinct := by
    rw [List.map_map, show JobRun.serial ∘ change = JobRun.serial from funext serial]
    exact ok.distinct
  job := by
    intro run member
    rcases List.mem_map.mp member with ⟨before, old, rfl⟩
    rcases ok.job before old with ⟨jobInfo, taken, isArg⟩
    rw [serial before, arg before]
    exact ⟨jobInfo, taken, isArg⟩
  running := by
    intro run member notReturned
    rcases List.mem_map.mp member with ⟨before, old, rfl⟩
    rw [serial before]
    apply ok.running before old
    by_contra ended
    rw [returned before old (Bool.not_eq_false _ ▸ ended)] at notReturned
    cases notReturned
  called := by
    intro thread number cur at_
    rcases ok.called thread number cur at_ with ⟨run, member, isSerial⟩
    exact ⟨change run, List.mem_map_of_mem member, (serial run).trans isSerial⟩
  notCalled := by
    intro thread number at_ run member
    rcases List.mem_map.mp member with ⟨before, old, rfl⟩
    rw [serial before]
    exact ok.notCalled thread number at_ before old
  finished := by
    intro number below
    rcases ok.finished number below with held | ⟨run, member, isSerial, ended⟩
    · exact Or.inl held
    · exact Or.inr ⟨change run, List.mem_map_of_mem member, (serial run).trans isSerial,
        returned run member ended⟩

/-- A thread moves without a job. -/
theorem idle (ok : RunsOk threads dequeued runs) {old new : WorkerPc}
    (at_ : threads[thread]? = some old) (oldIdle : old.serial? = none)
    (newIdle : new.serial? = none) : RunsOk (threads.set thread new) dequeued runs where
  distinct := ok.distinct
  job := ok.job
  running := by
    intro run member notReturned
    rcases ok.running run member notReturned with ⟨other, cur, otherAt⟩
    refine ⟨other, cur, at_set_of_ne at_ otherAt ?_⟩
    rintro rfl
    cases oldIdle
  called := by
    intro other serial cur otherAt
    rcases at_of_set at_ otherAt with ⟨_, rfl⟩ | ⟨_, before⟩
    · cases newIdle
    · exact ok.called other serial cur before
  notCalled := by
    intro other serial otherAt
    rcases at_of_set at_ otherAt with ⟨_, rfl⟩ | ⟨_, before⟩
    · cases newIdle
    · exact ok.notCalled other serial before
  finished := by
    intro serial below
    rcases ok.finished serial below with ⟨other, holds⟩ | ended
    · exact Or.inl ⟨other, serialOf_set_of_idle at_ oldIdle holds⟩
    · exact Or.inr ended

/-- A thread takes a job. -/
theorem take (ok : RunsOk threads dequeued runs) {jobInfo : ThreadPoolJobInfo JobFunc}
    (at_ : threads[thread]? = some .dequeueSection) :
    RunsOk (threads.set thread (.fetched dequeued.length)) (dequeued ++ [jobInfo]) runs := by
  constructor
  · exact ok.distinct
  · intro run member
    rcases ok.job run member with ⟨held, taken, isArg⟩
    refine ⟨held, ?_, isArg⟩
    rw [List.getElem?_append_left (ok.serial_lt member)]
    exact taken
  · intro run member notReturned
    rcases ok.running run member notReturned with ⟨other, cur, otherAt⟩
    exact ⟨other, cur, at_set_of_ne at_ otherAt (by simp)⟩
  · intro other serial cur otherAt
    rcases at_of_set at_ otherAt with ⟨_, isNew⟩ | ⟨_, before⟩
    · cases isNew
    · exact ok.called other serial cur before
  · intro other serial otherAt run member
    rcases at_of_set at_ otherAt with ⟨_, isNew⟩ | ⟨_, before⟩
    · cases isNew
      exact Nat.ne_of_lt (ok.serial_lt member)
    · exact ok.notCalled other serial before run member
  · intro serial below
    rw [List.length_append, List.length_singleton] at below
    by_cases last : serial = dequeued.length
    · refine Or.inl ⟨thread, ?_⟩
      rw [serialOf_set_self at_, last]
      rfl
    · rcases ok.finished serial (by omega) with ⟨other, holds⟩ | ended
      · exact Or.inl ⟨other, serialOf_set_of_idle at_ rfl holds⟩
      · exact Or.inr ended

/-- A thread calls the function of its job. -/
theorem call (ok : RunsOk threads dequeued runs) {serial : Nat} {cur : Addr}
    (at_ : threads[thread]? = some (.fetched serial)) {run : JobRun} (isSerial : run.serial = serial)
    {jobInfo : ThreadPoolJobInfo JobFunc} (taken : dequeued[serial]? = some jobInfo)
    (isArg : jobInfo.arg = run.arg)
    (alone : forall other, serialOf threads other = some serial -> other = thread) :
    RunsOk (threads.set thread (.running serial cur)) dequeued (runs ++ [run]) := by
  have here := (List.getElem?_eq_some_iff.mp at_).1
  have isNew := ok.notCalled thread serial at_
  constructor
  · rw [List.map_append, List.nodup_append]
    refine ⟨ok.distinct, List.nodup_singleton _, ?_⟩
    intro number old other last same
    rcases List.mem_map.mp old with ⟨before, member, rfl⟩
    rw [List.map_singleton, List.mem_singleton, isSerial] at last
    exact isNew before member (same.trans last)
  · intro other member
    rcases List.mem_append.mp member with old | last
    · exact ok.job other old
    · rw [List.mem_singleton.mp last, isSerial]
      exact ⟨jobInfo, taken, isArg⟩
  · intro other member notReturned
    rcases List.mem_append.mp member with old | last
    · rcases ok.running other old notReturned with ⟨otherThread, otherCur, otherAt⟩
      exact ⟨otherThread, otherCur, at_set_of_ne at_ otherAt (by simp)⟩
    · refine ⟨thread, cur, ?_⟩
      rw [List.getElem?_set_self here, List.mem_singleton.mp last, isSerial]
  · intro other number otherCur otherAt
    rcases at_of_set at_ otherAt with ⟨_, isNew⟩ | ⟨_, otherBefore⟩
    · cases isNew
      exact ⟨run, List.mem_append_right _ List.mem_cons_self, isSerial⟩
    · rcases ok.called other number otherCur otherBefore with ⟨before, member, isNumber⟩
      exact ⟨before, List.mem_append_left _ member, isNumber⟩
  · intro other number otherAt before member
    rcases at_of_set at_ otherAt with ⟨_, isFetched⟩ | ⟨different, otherBefore⟩
    · cases isFetched
    · rcases List.mem_append.mp member with old | last
      · exact ok.notCalled other number otherBefore before old
      · rw [List.mem_singleton.mp last, isSerial]
        rintro rfl
        apply different
        apply alone
        rw [serialOf, otherBefore]
        rfl
  · intro number below
    rcases ok.finished number below with ⟨other, holds⟩ | ⟨before, member, isNumber, ended⟩
    · have kept := serialOf_set_same (.running serial cur) at_ rfl other
      exact Or.inl ⟨other, kept.trans holds⟩
    · exact Or.inr ⟨before, List.mem_append_left _ member, isNumber, ended⟩

/-- A thread goes on after its job has returned. -/
theorem finish (ok : RunsOk threads dequeued runs) {serial : Nat} {cur : Addr}
    (at_ : threads[thread]? = some (.running serial cur)) {done : JobRun} (member : done ∈ runs)
    (isSerial : done.serial = serial) (ended : done.returned = true) :
    RunsOk (threads.set thread .loopTest) dequeued runs := by
  constructor
  · exact ok.distinct
  · exact ok.job
  · intro run runMember notReturned
    rcases ok.running run runMember notReturned with ⟨other, otherCur, otherAt⟩
    refine ⟨other, otherCur, at_set_of_ne at_ otherAt ?_⟩
    intro same
    cases same
    rw [ok.eq_of_serial runMember member isSerial.symm, ended] at notReturned
    cases notReturned
  · intro other number otherCur otherAt
    rcases at_of_set at_ otherAt with ⟨_, isNew⟩ | ⟨_, before⟩
    · cases isNew
    · exact ok.called other number otherCur before
  · intro other number otherAt
    rcases at_of_set at_ otherAt with ⟨_, isNew⟩ | ⟨_, before⟩
    · cases isNew
    · exact ok.notCalled other number before
  · intro number below
    rcases ok.finished number below with ⟨other, holds⟩ | finished
    · by_cases same : other = thread
      · rw [same, serialOf, at_] at holds
        exact Or.inr ⟨done, member, isSerial.trans (Option.some.inj holds), ended⟩
      · refine Or.inl ⟨other, ?_⟩
        rw [serialOf_set_other same]
        exact holds
    · exact Or.inr finished

end RunsOk

/-! ## Blocks -/

/-- The job was accepted and has not yet freed its block. -/
structure Pending (accepted : List (ThreadPoolJobInfo JobFunc)) (runs : List JobRun) (serial : Nat)
    (jobInfo : ThreadPoolJobInfo JobFunc) : Prop where
  isJob : accepted[serial]? = some jobInfo
  notOver : ¬ Over runs serial

/-- Every block holds the packet of its job, and no other job has it. -/
structure BlocksOk (heap : PoolHeap JobFunc (List UInt8)) (packetOf : Nat -> Option Packet)
    (accepted : List (ThreadPoolJobInfo JobFunc)) (runs : List JobRun) : Prop where
  holds : forall serial jobInfo packet, Pending accepted runs serial jobInfo ->
    packetOf serial = some packet -> heap.content jobInfo.arg = some (.user packet.routed)
  apart : forall first second firstJob secondJob, Pending accepted runs first firstJob ->
    Pending accepted runs second secondJob -> firstJob.arg = secondJob.arg -> first = second

/-- A block that no job has yet. -/
structure OwnsBlock (heap : PoolHeap JobFunc (List UInt8))
    (accepted : List (ThreadPoolJobInfo JobFunc)) (runs : List JobRun) (data : Addr)
    (bytes : List UInt8) : Prop where
  holds : heap.content data = some (.user bytes)
  apart : forall serial jobInfo, Pending accepted runs serial jobInfo -> jobInfo.arg ≠ data

section Blocks

variable {heap after : PoolHeap JobFunc (List UInt8)} {packetOf : Nat -> Option Packet}
  {accepted : List (ThreadPoolJobInfo JobFunc)} {runs later : List JobRun}

theorem Pending.mono {serial : Nat} {jobInfo : ThreadPoolJobInfo JobFunc}
    (pending : Pending accepted later serial jobInfo)
    (ended : forall serial, Over runs serial -> Over later serial) :
    Pending accepted runs serial jobInfo where
  isJob := pending.isJob
  notOver := fun before => pending.notOver (ended serial before)

theorem BlocksOk.congr (ok : BlocksOk heap packetOf accepted runs) (user : KeepsUser heap after)
    (ended : forall serial, Over runs serial -> Over later serial) :
    BlocksOk after packetOf accepted later where
  holds := fun serial jobInfo packet pending isPacket =>
    user _ _ (ok.holds serial jobInfo packet (pending.mono ended) isPacket)
  apart := fun first second firstJob secondJob firstPending secondPending =>
    ok.apart first second firstJob secondJob (firstPending.mono ended) (secondPending.mono ended)

theorem OwnsBlock.congr {data : Addr} {bytes : List UInt8}
    (owns : OwnsBlock heap accepted runs data bytes) (user : KeepsUser heap after)
    (ended : forall serial, Over runs serial -> Over later serial) :
    OwnsBlock after accepted later data bytes where
  holds := user _ _ owns.holds
  apart := fun serial jobInfo pending => owns.apart serial jobInfo (pending.mono ended)

theorem BlocksOk.start : BlocksOk heap packetOf [] [] where
  holds := fun _ _ _ pending => by cases pending.isJob
  apart := fun _ _ _ _ pending => by cases pending.isJob

/-- A new job with its block. -/
theorem BlocksOk.accept (ok : BlocksOk heap packetOf accepted runs)
    {jobInfo : ThreadPoolJobInfo JobFunc} {packet : Packet} {later : Nat -> Option Packet}
    (owns : OwnsBlock heap accepted runs jobInfo.arg packet.routed)
    (same : forall serial, serial < accepted.length -> later serial = packetOf serial)
    (isPacket : later accepted.length = some packet) :
    BlocksOk heap later (accepted ++ [jobInfo]) runs := by
  have cases_ : forall serial found, Pending (accepted ++ [jobInfo]) runs serial found ->
      (serial < accepted.length ∧ Pending accepted runs serial found) ∨
      (serial = accepted.length ∧ found = jobInfo) := by
    intro serial found pending
    have isJob := pending.isJob
    by_cases old : serial < accepted.length
    · rw [List.getElem?_append_left old] at isJob
      exact Or.inl ⟨old, isJob, pending.notOver⟩
    · have inside := (List.getElem?_eq_some_iff.mp isJob).1
      rw [List.length_append, List.length_singleton] at inside
      have last : serial = accepted.length := by omega
      rw [last, List.getElem?_concat_length] at isJob
      exact Or.inr ⟨last, (Option.some.inj isJob).symm⟩
  constructor
  · intro serial found other pending isOther
    rcases cases_ serial found pending with ⟨old, before⟩ | ⟨last, rfl⟩
    · rw [same serial old] at isOther
      exact ok.holds serial found other before isOther
    · rw [last, isPacket] at isOther
      cases isOther
      exact owns.holds
  · intro first second firstJob secondJob firstPending secondPending sameArg
    rcases cases_ first firstJob firstPending with ⟨_, firstBefore⟩ | ⟨firstLast, rfl⟩
    · rcases cases_ second secondJob secondPending with ⟨_, secondBefore⟩ | ⟨_, rfl⟩
      · exact ok.apart first second firstJob secondJob firstBefore secondBefore sameArg
      · exact absurd sameArg (owns.apart first firstJob firstBefore)
    · rcases cases_ second secondJob secondPending with ⟨_, secondBefore⟩ | ⟨secondLast, _⟩
      · exact absurd sameArg.symm (owns.apart second secondJob secondBefore)
      · exact firstLast.trans secondLast.symm

/-- Freeing one block leaves the others. -/
theorem content_of_free {address other : Addr} {object : Content JobFunc (List UInt8)}
    (freed : heap.free address = some after) (different : other ≠ address)
    (held : heap.content other = some object) : after.content other = some object := by
  simpa only [Heap.content, (Heap.frees_of_free freed).elsewhere other different] using held

/-- A job that is over has freed its block. -/
theorem BlocksOk.release (ok : BlocksOk heap packetOf accepted runs) {serial : Nat}
    {jobInfo : ThreadPoolJobInfo JobFunc} (pending : Pending accepted runs serial jobInfo)
    (freed : heap.free jobInfo.arg = some after)
    (ended : forall serial, Over runs serial -> Over later serial) (nowOver : Over later serial) :
    BlocksOk after packetOf accepted later where
  holds := by
    intro other otherJob packet otherPending isPacket
    have before := otherPending.mono ended
    apply content_of_free freed ?_ (ok.holds other otherJob packet before isPacket)
    intro sameArg
    rw [ok.apart other serial otherJob jobInfo before pending sameArg] at otherPending
    exact otherPending.notOver nowOver
  apart := fun first second firstJob secondJob firstPending secondPending =>
    ok.apart first second firstJob secondJob (firstPending.mono ended) (secondPending.mono ended)

theorem OwnsBlock.release {data : Addr} {bytes : List UInt8}
    (owns : OwnsBlock heap accepted runs data bytes) {serial : Nat}
    {jobInfo : ThreadPoolJobInfo JobFunc} (pending : Pending accepted runs serial jobInfo)
    (freed : heap.free jobInfo.arg = some after)
    (ended : forall serial, Over runs serial -> Over later serial) :
    OwnsBlock after accepted later data bytes where
  holds := content_of_free freed (Ne.symm (owns.apart serial jobInfo pending)) owns.holds
  apart := fun other otherJob otherPending => owns.apart other otherJob (otherPending.mono ended)

end Blocks

/-! ## What the executions send -/

/-- A slot has the same descriptor and the same flag in all of the tables. -/
def Steady (tables : List ClientInfoTable) (slot type : Nat) (fd : Int32) (flag : Bool) : Prop :=
  forall table, table ∈ tables -> table.fd slot = fd ∧ table.msgFlag slot type = flag

/-- The execution has sent what its message and the steady slots ask for. -/
structure JobCorrect (msgData : MsgRouteDataInfo) (run : JobRun) : Prop where
  calls : CallsOk msgData run.frame.pc run.sends
  slots : forall slot fd flag, slot ∈ targets msgData ->
    Steady run.tables slot msgData.typeIndex fd flag ->
    SlotServed msgData slot fd flag run.frame.pc run.sends

structure RunsCorrect (packetOf : Nat -> Option Packet) (table : ClientInfoTable)
    (runs : List JobRun) : Prop where
  live : forall run, run ∈ runs -> run.returned = false -> table ∈ run.tables
  correct : forall run packet, run ∈ runs -> packetOf run.serial = some packet ->
    packet.msg.dataType ≠ MsgRouteDataType.answer.code -> JobCorrect packet.msg run
  answers : forall run packet, run ∈ runs -> packetOf run.serial = some packet ->
    packet.msg.dataType = MsgRouteDataType.answer.code ->
    AnswerOk packet.msg run.sends run.frame.pc

section Correct

variable {packetOf : Nat -> Option Packet} {table : ClientInfoTable} {runs : List JobRun}

theorem RunsCorrect.start : RunsCorrect packetOf table [] where
  live := fun _ member => absurd member List.not_mem_nil
  correct := fun _ _ member => absurd member List.not_mem_nil
  answers := fun _ _ member => absurd member List.not_mem_nil

/-- The packets of the executions are those that they had. -/
theorem RunsCorrect.congr (ok : RunsCorrect packetOf table runs) {later : Nat -> Option Packet}
    (same : forall run, run ∈ runs -> later run.serial = packetOf run.serial) :
    RunsCorrect later table runs where
  live := ok.live
  correct := by
    intro run packet member isPacket notAnswer
    rw [same run member] at isPacket
    exact ok.correct run packet member isPacket notAnswer
  answers := by
    intro run packet member isPacket isAnswer
    rw [same run member] at isPacket
    exact ok.answers run packet member isPacket isAnswer

@[simp] theorem serial_observe (after : ClientInfoTable) (run : JobRun) :
    (run.observe after).serial = run.serial := by
  unfold JobRun.observe
  split <;> rfl

@[simp] theorem arg_observe (after : ClientInfoTable) (run : JobRun) :
    (run.observe after).arg = run.arg := by
  unfold JobRun.observe
  split <;> rfl

@[simp] theorem returned_observe (after : ClientInfoTable) (run : JobRun) :
    (run.observe after).returned = run.returned := by
  unfold JobRun.observe
  split <;> rfl

@[simp] theorem sends_observe (after : ClientInfoTable) (run : JobRun) :
    (run.observe after).sends = run.sends := by
  unfold JobRun.observe
  split <;> rfl

@[simp] theorem frame_observe (after : ClientInfoTable) (run : JobRun) :
    (run.observe after).frame = run.frame := by
  unfold JobRun.observe
  split <;> rfl

/-- The table changes while the executions stand still. -/
theorem RunsCorrect.observe (ok : RunsCorrect packetOf table runs) (after : ClientInfoTable) :
    RunsCorrect packetOf after (runs.map (JobRun.observe after)) where
  live := by
    intro run member notReturned
    rcases List.mem_map.mp member with ⟨before, _, rfl⟩
    rw [returned_observe] at notReturned
    have isRun : before.observe after = { before with tables := before.tables ++ [after] } := by
      rw [JobRun.observe, notReturned]
      rfl
    rw [isRun]
    exact List.mem_append_right _ List.mem_cons_self
  correct := by
    intro run packet member isPacket notAnswer
    rcases List.mem_map.mp member with ⟨before, old, rfl⟩
    rw [serial_observe] at isPacket
    have correct := ok.correct before packet old isPacket notAnswer
    unfold JobRun.observe
    split
    · exact correct
    · refine ⟨correct.calls, fun slot fd flag target steady => correct.slots slot fd flag target ?_⟩
      exact fun seen member => steady seen (List.mem_append_left _ member)
  answers := by
    intro run packet member isPacket isAnswer
    rcases List.mem_map.mp member with ⟨before, old, rfl⟩
    rw [serial_observe] at isPacket
    rw [sends_observe, frame_observe]
    exact ok.answers before packet old isPacket isAnswer

/-- An execution begins. -/
theorem RunsCorrect.call (ok : RunsCorrect packetOf table runs) {run : JobRun}
    (tables : run.tables = [table]) (pc : run.frame.pc = .copyTable) (sends : run.sends = []) :
    RunsCorrect packetOf table (runs ++ [run]) where
  live := by
    intro other member notReturned
    rcases List.mem_append.mp member with old | last
    · exact ok.live other old notReturned
    · rw [List.mem_singleton.mp last, tables]
      exact List.mem_singleton_self _
  correct := by
    intro other packet member isPacket notAnswer
    rcases List.mem_append.mp member with old | last
    · exact ok.correct other packet old isPacket notAnswer
    · rw [List.mem_singleton.mp last]
      constructor
      · rw [pc, sends]
        exact .start
      · intro slot fd flag target _
        rw [pc, sends]
        exact .start target
  answers := by
    intro other packet member isPacket isAnswer
    rcases List.mem_append.mp member with old | last
    · exact ok.answers other packet old isPacket isAnswer
    · rw [List.mem_singleton.mp last, pc]
      exact sends

theorem JobCorrect.step {msgData : MsgRouteDataInfo} {run : JobRun} {frame : JobFrame}
    {calls : List SendCall} (correct : JobCorrect msgData run)
    (notAnswer : msgData.dataType ≠ MsgRouteDataType.answer.code) (live : table ∈ run.tables)
    (moved : msgRouteCoreJobFunc table msgData run.frame = some (frame, calls)) :
    JobCorrect msgData { run with frame := frame, sends := run.sends ++ calls } where
  calls := correct.calls.step notAnswer moved
  slots := by
    intro slot fd flag target steady
    have here := steady table live
    exact (correct.slots slot fd flag target steady).step notAnswer correct.calls here.1 here.2 moved

theorem advance_same {serial : Nat} {frame : JobFrame} {calls : List SendCall} {run : JobRun}
    (same : run.serial = serial) :
    run.advance serial frame calls = { run with frame := frame, sends := run.sends ++ calls } :=
  if_pos same

theorem advance_other {serial : Nat} {frame : JobFrame} {calls : List SendCall} {run : JobRun}
    (different : run.serial ≠ serial) : run.advance serial frame calls = run :=
  if_neg different

theorem serial_advance (serial : Nat) (frame : JobFrame) (calls : List SendCall) (run : JobRun) :
    (run.advance serial frame calls).serial = run.serial := by
  unfold JobRun.advance
  split <;> rfl

theorem arg_advance (serial : Nat) (frame : JobFrame) (calls : List SendCall) (run : JobRun) :
    (run.advance serial frame calls).arg = run.arg := by
  unfold JobRun.advance
  split <;> rfl

/-- One execution takes a step. -/
theorem RunsCorrect.advance (ok : RunsCorrect packetOf table runs) {run : JobRun}
    (alone : forall other, other ∈ runs -> other.serial = run.serial -> other = run)
    {packet : Packet} (isPacket : packetOf run.serial = some packet) {frame : JobFrame}
    {calls : List SendCall} (running : run.returned = false)
    (moved : msgRouteCoreJobFunc table packet.msg run.frame = some (frame, calls)) :
    RunsCorrect packetOf table (runs.map (JobRun.advance run.serial frame calls)) where
  live := by
    intro other member notReturned
    rcases List.mem_map.mp member with ⟨before, old, rfl⟩
    by_cases same : before.serial = run.serial
    · rw [advance_same same]
      exact ok.live before old (alone before old same ▸ running)
    · rw [advance_other same] at notReturned ⊢
      exact ok.live before old notReturned
  correct := by
    intro other otherPacket member isOther notAnswer
    rcases List.mem_map.mp member with ⟨before, old, rfl⟩
    by_cases same : before.serial = run.serial
    · have isRun := alone before old same
      rw [advance_same same] at isOther ⊢
      rw [isRun] at isOther old ⊢
      cases isPacket.symm.trans isOther
      exact (ok.correct run packet old isPacket notAnswer).step notAnswer (ok.live run old running)
        moved
    · rw [advance_other same] at isOther ⊢
      exact ok.correct before otherPacket old isOther notAnswer
  answers := by
    intro other otherPacket member isOther isAnswer
    rcases List.mem_map.mp member with ⟨before, old, rfl⟩
    by_cases same : before.serial = run.serial
    · have isRun := alone before old same
      rw [advance_same same] at isOther ⊢
      rw [isRun] at isOther old ⊢
      cases isPacket.symm.trans isOther
      exact (ok.answers run packet old isPacket isAnswer).step isAnswer moved
    · rw [advance_other same] at isOther ⊢
      exact ok.answers before otherPacket old isOther isAnswer

end Correct

end MsgRoute
end V2x
