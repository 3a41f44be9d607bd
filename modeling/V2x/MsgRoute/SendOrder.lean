import V2x.MsgRoute.Delivery
import V2x.MsgRoute.NetworkRuns

namespace V2x
namespace MsgRoute

open Foundations ThreadPool

/-!
# In which order packets are sent on

The epoll thread puts the jobs into the queue in the order in which it receives
their packets, and the workers take them in this order.  What the jobs send is
in the same order as long as no two of them are in the hands of workers at once;
the pool does nothing to order the jobs of different workers.
-/

/-- A call of `send` that a job makes, with the position of its packet among the
received ones and the connection that is reached. -/
structure RoutedSend where
  packet : Option Nat
  call : SendCall
  link : Option Nat
deriving DecidableEq, Repr

/-- The calls of `send` in a step of the server. -/
def sendsOf (state : RouteState) : RouteLabel -> List RoutedSend
  | .job thread =>
      match jobMove state thread with
      | some (run, _, calls) => calls.map (fun call =>
          ⟨state.ids[run.serial]?, call,
            Delivery.reached ⟨run.serial, call, state.server.connections⟩⟩)
      | none => []
  | _ => []

/-- The first packet is sent to no connection after the second one. -/
def SentBefore (sends : List RoutedSend) (first second : Nat) : Prop :=
  sends.Pairwise (fun sooner later => ¬ (sooner.packet = some second ∧ later.packet = some first ∧
    sooner.link = later.link ∧ sooner.link.isSome))

instance (sends : List RoutedSend) (first second : Nat) :
    Decidable (SentBefore sends first second) :=
  inferInstanceAs (Decidable (List.Pairwise _ sends))

/-- Two data messages of one connection for the same application and type. -/
structure SameStream (first second : Packet) : Prop where
  fd : first.fd = second.fd
  appId : first.header.appId = second.header.appId
  msgType : first.header.msgType = second.header.msgType
  firstData : first.header.dataType ≠ MsgRouteDataType.answer.code
  secondData : second.header.dataType ≠ MsgRouteDataType.answer.code

/-- The packets whose jobs are in the hands of workers: taken from the queue and
not yet returned. -/
def RouteState.held (state : RouteState) : List Nat :=
  state.shared.pool.threads.filterMap (fun pc =>
    pc.serial?.bind (fun serial => state.ids[serial]?))

def NotTogether (first second : Nat) (state : RouteState) : Prop :=
  ¬ (first ∈ state.held ∧ second ∈ state.held)

/-! ## The order of the jobs -/

/-- The jobs are in the order of their packets. -/
structure ReceiptOrder (state : RouteState) : Prop where
  sorted : state.ids.Pairwise (· < ·)
  ahead : forall id, state.epoll.id? = some id -> forall earlier, earlier ∈ state.ids -> earlier < id

theorem ReceiptOrder.congr {state next : RouteState} (order : ReceiptOrder state)
    (ids : next.ids = state.ids)
    (epoll : forall id, next.epoll.id? = some id -> state.epoll.id? = some id) :
    ReceiptOrder next where
  sorted := ids ▸ order.sorted
  ahead := fun id isId => ids ▸ order.ahead id (epoll id isId)

theorem receiptOrder_step {state next : RouteState} {label : RouteLabel} (inv : RouteInv state)
    (order : ReceiptOrder state) (stepped : routeStep state label = some next) :
    ReceiptOrder next := by
  cases routeStep_cases stepped with
  | hears event server isEpoll taken =>
      refine ⟨order.sorted, fun id isId earlier known => ?_⟩
      change EpollPc.id? (if (routedPacket state.server event).isSome then
        .allocating state.received.length else .idle) = some id at isId
      split at isId
      · cases isId
        exact inv.idsBelow earlier known
      · cases isId
  | noMemory id isEpoll => exact order.congr rfl (by simp [EpollPc.id?])
  | mallocs id index heap isEpoll done =>
      refine order.congr rfl ?_
      rw [isEpoll]
      exact fun _ isId => isId
  | calls id data shared isEpoll entered =>
      refine order.congr rfl ?_
      rw [isEpoll]
      exact fun _ isId => isId
  | inserts label id data shared adder isEpoll isHolder insertion taken =>
      refine ⟨?_, by simp [EpollPc.id?]⟩
      apply List.pairwise_append.mpr
      refine ⟨order.sorted, List.pairwise_singleton _ _, ?_⟩
      intro earlier known last isLast
      rw [List.mem_singleton.mp isLast]
      exact order.ahead id (by rw [isEpoll]; rfl) earlier known
  | adds label id data shared adder isEpoll isHolder other taken =>
      refine order.congr rfl fun found isFound => ?_
      change EpollPc.id? (if shared.initMutex.isSome then .adding id data else .idle) =
        some found at isFound
      rw [isEpoll]
      split at isFound
      · exact isFound
      · cases isFound
  | leaves label shared adder isEpoll isHolder taken =>
      refine order.congr rfl fun found isFound => ?_
      change EpollPc.id? (if shared.initMutex.isSome then .added else .idle) = some found at isFound
      split at isFound <;> cases isFound
  | works thread stack pool may taken => exact order.congr rfl fun _ isId => isId
  | runs thread run frame calls heap isMove freed => exact order.congr rfl fun _ isId => isId

/-- Of two packets that have jobs, the job of the earlier one comes first. -/
theorem ReceiptOrder.serial_lt {state : RouteState} (order : ReceiptOrder state)
    {first second firstSerial secondSerial : Nat} (before : first < second)
    (isFirst : state.ids[firstSerial]? = some first)
    (isSecond : state.ids[secondSerial]? = some second) : firstSerial < secondSerial := by
  by_contra notBefore
  rcases List.getElem?_eq_some_iff.mp isFirst with ⟨firstInside, firstIs⟩
  rcases List.getElem?_eq_some_iff.mp isSecond with ⟨secondInside, secondIs⟩
  rcases Nat.lt_or_eq_of_le (not_lt.mp notBefore) with reversed | same
  · have sorted := List.pairwise_iff_getElem.mp order.sorted secondSerial firstSerial secondInside
      firstInside reversed
    rw [firstIs, secondIs] at sorted
    exact Nat.lt_asymm before sorted
  · subst same
    rw [isFirst] at isSecond
    exact Nat.ne_of_lt before (Option.some.inj isSecond)

/-! ## What a step inserts and sends -/

section Steps

variable {state next : RouteState}

/-- A job gets its position when it is inserted, and keeps it. -/
theorem ids_next {label : RouteLabel} (stepped : routeStep state label = some next)
    {serial id : Nat} (isId : next.ids[serial]? = some id) :
    state.ids[serial]? = some id ∨ state.epoll.id? = some id := by
  rcases ids_cases stepped with same | ⟨new, isNew, more⟩
  · exact Or.inl (same ▸ isId)
  · rw [more] at isId
    by_cases old : serial < state.ids.length
    · rw [List.getElem?_append_left old] at isId
      exact Or.inl isId
    · rw [List.getElem?_append_right (not_lt.mp old)] at isId
      rw [List.mem_singleton.mp (List.mem_of_getElem? isId)]
      exact Or.inr isNew

/-- What a step sends belongs to the packet of the job that moves. -/
theorem mem_sendsOf {label : RouteLabel} {send : RoutedSend} (links : RouteLinks state)
    (sent : send ∈ sendsOf state label) : Exists fun run => run ∈ state.runs ∧
      run.returned = false ∧ send.packet = state.ids[run.serial]? := by
  unfold sendsOf at sent
  split at sent
  next thread =>
    split at sent
    next run frame calls isMove =>
      rcases links.jobMove isMove with ⟨packet, moves⟩
      rcases List.mem_map.mp sent with ⟨call, _, rfl⟩
      exact ⟨run, moves.member, moves.running, rfl⟩
    next => exact absurd sent List.not_mem_nil
  next => exact absurd sent List.not_mem_nil

/-- A worker that has taken the job of a packet holds the packet. -/
theorem mem_held {thread serial id : Nat}
    (holds : serialOf state.shared.pool.threads thread = some serial)
    (isId : state.ids[serial]? = some id) : id ∈ state.held := by
  rcases Option.bind_eq_some_iff.mp holds with ⟨pc, at_, isSerial⟩
  apply List.mem_filterMap.mpr
  refine ⟨pc, List.mem_of_getElem? at_, ?_⟩
  rw [isSerial, Option.bind_some]
  exact isId

end Steps

/-! ## One job after the other -/

/-- The job of the first packet is over, and it will get no other. -/
structure Passed (first second : Nat) (state : RouteState) : Prop where
  accepted : second ∈ state.ids
  gone : forall serial, state.ids[serial]? = some first -> Over state.runs serial

/-- Where two jobs are never in the hands of workers at once. -/
structure Separate (first second : Nat) (state : RouteState) : Prop where
  route : RouteInv state
  order : ReceiptOrder state
  apart : NotTogether first second state

section Passing

variable {first second : Nat} {state : RouteState}

/-- When the second packet is sent on, the job of the first one is over. -/
theorem Separate.closes (separate : Separate first second state) (before : first < second)
    {label : RouteLabel} {send : RoutedSend} (sent : send ∈ sendsOf state label)
    (isSecond : send.packet = some second) : Passed first second state := by
  rcases mem_sendsOf separate.route.links sent with ⟨run, member, running, isPacket⟩
  have secondId : state.ids[run.serial]? = some second := isPacket.symm.trans isSecond
  refine ⟨List.mem_of_getElem? secondId, fun serial firstId => ?_⟩
  have earlier := separate.order.serial_lt before firstId secondId
  have taken := earlier.trans (separate.route.runs.serial_lt member)
  rcases separate.route.runs.finished serial taken with ⟨thread, holds⟩ | ended
  · rcases separate.route.runs.running run member running with ⟨other, cur, otherAt⟩
    have otherHolds : serialOf state.shared.pool.threads other = some run.serial := by
      rw [serialOf, otherAt]
      rfl
    exact absurd ⟨mem_held holds firstId, mem_held otherHolds secondId⟩ separate.apart
  · exact ended

theorem Passed.next (passed : Passed first second state) (before : first < second)
    (inv : RouteInv state) (order : ReceiptOrder state) {next : RouteState} {label : RouteLabel}
    (stepped : routeStep state label = some next) : Passed first second next where
  accepted := (ids_grow stepped).subset passed.accepted
  gone := by
    intro serial isFirst
    rcases ids_next stepped isFirst with known | isNew
    · exact over_next inv.links stepped (passed.gone serial known)
    · have ahead := order.ahead first isNew second passed.accepted
      exact absurd ahead (Nat.lt_asymm before)

theorem Passed.silent (passed : Passed first second state) (inv : RouteInv state)
    {label : RouteLabel} {send : RoutedSend} (sent : send ∈ sendsOf state label) :
    send.packet ≠ some first := by
  intro isFirst
  rcases mem_sendsOf inv.links sent with ⟨run, member, running, isPacket⟩
  rcases passed.gone run.serial (isPacket.symm.trans isFirst) with
    ⟨other, otherMember, same, returned⟩
  rw [inv.runs.eq_of_serial otherMember member same, running] at returned
  cases returned

end Passing

/-! ## A single worker -/

/-- At most one thread has not ended. -/
def OneWorker (threads : List WorkerPc) : Prop :=
  forall (first second : Nat) (firstPc secondPc : WorkerPc), threads[first]? = some firstPc ->
    threads[second]? = some secondPc -> firstPc ≠ .exited -> secondPc ≠ .exited -> first = second

/-- A worker that moves has not ended. -/
theorem workerStep_moves {F X : Type} {state next : PoolState F X} {thread : Nat}
    (stepped : workerStep state thread = some next) : Exists fun old => Exists fun new =>
      state.threads[thread]? = some old ∧ old ≠ .exited ∧
      next.threads = state.threads.set thread new := by
  cases workerStep_cases stepped with
  | loops at_ => exact ⟨_, _, at_, by simp, rfl⟩
  | exits at_ => exact ⟨_, _, at_, by simp, rfl⟩
  | idles at_ => exact ⟨_, _, at_, by simp, rfl⟩
  | waits at_ => exact ⟨_, _, at_, by simp, rfl⟩
  | findsNone at_ => exact ⟨_, _, at_, by simp, rfl⟩
  | takes at_ => exact ⟨_, _, at_, by simp, rfl⟩
  | calls serial cur jobInfo at_ => exact ⟨_, _, at_, by simp, rfl⟩
  | finishes serial cur data heap at_ => exact ⟨_, _, at_, by simp, rfl⟩
  | skips serial old at_ isSerial =>
      refine ⟨old, _, at_, ?_, rfl⟩
      rintro rfl
      cases isSerial

theorem OneWorker.set {threads : List WorkerPc} (one : OneWorker threads) {thread : Nat}
    {old new : WorkerPc} (at_ : threads[thread]? = some old) (alive : old ≠ .exited) :
    OneWorker (threads.set thread new) := by
  have only : forall (other : Nat) pc, (threads.set thread new)[other]? = some pc ->
      pc ≠ .exited -> other = thread := by
    intro other pc otherAt otherAlive
    by_cases same : other = thread
    · exact same
    · rw [List.getElem?_set_ne (Ne.symm same)] at otherAt
      exact one other thread pc old otherAt at_ otherAlive alive
  intro first second firstPc secondPc firstAt secondAt firstAlive secondAlive
  rw [only first firstPc firstAt firstAlive, only second secondPc secondAt secondAlive]

/-- A step of the pool moves one worker, or none. -/
theorem OneWorker.poolStep {state next : SharedPool JobFunc (List UInt8)}
    {label : PoolLabel JobFunc (List UInt8)} (one : OneWorker state.pool.threads)
    (stepped : poolStep state label = some next) : OneWorker next.pool.threads := by
  cases poolStep_cases stepped with
  | rejects caller jobFunc arg invalid => exact one
  | enters caller jobFunc arg unlocked => exact one
  | adds adder isHolder added =>
      rcases adder with ⟨caller, pc⟩
      have same : next.pool.threads = state.pool.threads := by
        cases addStep_cases added <;> rfl
      exact same ▸ one
  | moves label pool moved =>
      cases backgroundStep_cases moved with
      | works thread worked =>
          rcases workerStep_moves worked with ⟨old, new, at_, alive, threads⟩
          change OneWorker pool.threads
          rw [threads]
          exact one.set at_ alive
      | mallocs index object heap done => exact one
      | frees address object heap held freed => exact one

theorem oneWorker_step {state next : RouteState} {label : RouteLabel}
    (one : OneWorker state.shared.pool.threads) (stepped : routeStep state label = some next) :
    OneWorker next.shared.pool.threads := by
  rcases routeStep_shared stepped with same | ⟨poolLabel, moved⟩
  · exact same ▸ one
  · exact one.poolStep moved

theorem OneWorker.notTogether {state : RouteState} (one : OneWorker state.shared.pool.threads)
    {first second : Nat} (different : first ≠ second) : NotTogether first second state := by
  rintro ⟨firstHeld, secondHeld⟩
  rcases List.mem_filterMap.mp firstHeld with ⟨firstPc, firstMember, isFirst⟩
  rcases List.mem_filterMap.mp secondHeld with ⟨secondPc, secondMember, isSecond⟩
  have alive : forall pc id, WorkerPc.serial? pc >>= (fun serial => state.ids[serial]?) = some id ->
      pc ≠ .exited := by
    rintro pc id found rfl
    cases found
  rcases List.getElem?_of_mem firstMember with ⟨firstThread, firstAt⟩
  rcases List.getElem?_of_mem secondMember with ⟨secondThread, secondAt⟩
  have same := one firstThread secondThread firstPc secondPc firstAt secondAt
    (alive firstPc first isFirst) (alive secondPc second isSecond)
  rw [same, secondAt] at firstAt
  rw [Option.some.inj firstAt, isFirst] at isSecond
  exact different (Option.some.inj isSecond)

/-- `ThreadPoolInit(1)` starts one worker. -/
theorem oneWorker_of_threadPoolInit {F X : Type} {pre start : PoolState F X}
    {outcome : InitOutcome} (uninitialised : pre.isInit = false)
    (noWorkers : forall pc, pc ∈ pre.threads -> pc = .exited)
    (initialised : threadPoolInit pre 1 outcome = some (.returned 0 start)) :
    OneWorker start.threads := by
  have threads : start.threads = pre.threads ++ [.loopTest] := by
    rcases created_of_threadPoolInit uninitialised initialised with ⟨_, heap, _, created⟩
    exact (createWorkers_spawned created).1.threads
  have last : forall (thread : Nat) pc, start.threads[thread]? = some pc -> pc ≠ .exited ->
      thread = pre.threads.length := by
    intro thread pc at_ alive
    rw [threads] at at_
    by_cases old : thread < pre.threads.length
    · rw [List.getElem?_append_left old] at at_
      exact absurd (noWorkers pc (List.mem_of_getElem? at_)) alive
    · have inside := (List.getElem?_eq_some_iff.mp at_).1
      rw [List.length_append, List.length_singleton] at inside
      omega
  intro first second firstPc secondPc firstAt secondAt firstAlive secondAlive
  rw [last first firstPc firstAt firstAlive, last second secondPc secondAt secondAlive]

/-! ## Runs -/

theorem receiptOrder_init (pool : RoutePool) (memory recvBuf : Memory) :
    ReceiptOrder (routeInit pool memory recvBuf) where
  sorted := List.Pairwise.nil
  ahead := by
    intro id isId
    cases isId

/-- In every run of the server, with any number of workers: the packet that was
received first is sent on first if the two jobs are never in the hands of workers
at once, which is so in every run with one worker. -/
theorem sends_inOrder {pre start : RoutePool} {threadNum : Int} {outcome : InitOutcome}
    (uninitialised : pre.isInit = false) (noWorkers : forall pc, pc ∈ pre.threads -> pc = .exited)
    (initialised : threadPoolInit pre threadNum outcome = some (.returned 0 start))
    (memory recvBuf : Memory) (labels : List RouteLabel) {first second : Nat}
    (before : first < second) :
    (routeSystem.EveryState (NotTogether first second) (routeInit start memory recvBuf) labels ->
      SentBefore (routeSystem.trace sendsOf (routeInit start memory recvBuf) labels) first second) ∧
    (threadNum = 1 ->
      routeSystem.EveryState (NotTogether first second) (routeInit start memory recvBuf) labels) := by
  have idle := idle_of_threadPoolInit uninitialised noWorkers initialised
  constructor
  · intro apart
    have order : routeSystem.EveryState (fun state => RouteInv state ∧ ReceiptOrder state)
        (routeInit start memory recvBuf) labels :=
      routeSystem.everyState_invariant
        (fun _ _ _ both stepped => ⟨routeInv_step both.1 stepped, receiptOrder_step both.1 both.2 stepped⟩)
        ⟨routeInv_init idle memory recvBuf, receiptOrder_init start memory recvBuf⟩ labels
    have separate := routeSystem.everyState_imp
      (fun state (all : (RouteInv state ∧ ReceiptOrder state) ∧ NotTogether first second state) =>
        Separate.mk all.1.1 all.1.2 all.2)
      (routeSystem.everyState_and order apart)
    have ordered : (routeSystem.trace sendsOf (routeInit start memory recvBuf) labels).Pairwise
        (fun sooner later => sooner.packet = some second -> later.packet ≠ some first) :=
      routeSystem.trace_inOrder
      (fun state label next send (isSeparate : Separate first second state) _ sent isSecond =>
        isSeparate.closes before sent isSecond)
      (fun state label next isSeparate passed stepped =>
        passed.next before isSeparate.route isSeparate.order stepped)
      (fun state label next send isSeparate passed _ sent =>
        passed.silent isSeparate.route sent)
      separate
    exact ordered.imp fun isOrdered reversed => isOrdered reversed.1 reversed.2.1
  · rintro rfl
    have one : routeSystem.EveryState
        (fun state => RouteInv state ∧ OneWorker state.shared.pool.threads)
        (routeInit start memory recvBuf) labels :=
      routeSystem.everyState_invariant
        (fun _ _ _ both stepped => ⟨routeInv_step both.1 stepped, oneWorker_step both.2 stepped⟩)
        ⟨routeInv_init idle memory recvBuf,
          oneWorker_of_threadPoolInit uninitialised noWorkers initialised⟩ labels
    exact routeSystem.everyState_imp (fun _ both => both.2.notTogether (Nat.ne_of_lt before)) one

/-- Two notifications of descriptor 6 for the subscriber with descriptor 5. -/
def twoNotifications : List RouteLabel :=
  [.event (.accept 5 true), .event (.accept 6 true),
    .event (.recv 5 (.packet (controlPacket 1 1 3))), .event (.recv 6 (.packet notifyPacket))] ++
  enqueueLabels 0 1 2 ++ [.event (.recv 6 (.packet (notifyPacket.dropLast ++ [10])))] ++
  enqueueLabels 3 4 5

/-- One worker runs both jobs. -/
def oneAfterTheOther : List RouteLabel :=
  twoNotifications ++ dequeueLabels (Memory.ofBytes []) ++ List.replicate 7 (.job 0) ++
  [.worker 0 (Memory.ofBytes [])] ++ dequeueLabels (Memory.ofBytes []) ++ List.replicate 7 (.job 0)

theorem sends_inOrder_oneAfterTheOther :
    let cell : DoublyLinkedListNode Addr := ⟨none, .jobListHead, .jobListHead⟩
    Exists fun start =>
      threadPoolInit (poolStatics JobFunc (List UInt8) cell) 1 (.success cell) =
        some (.returned 0 start) ∧
      (routeSystem.run (routeInit start (Memory.ofBytes []) (Memory.ofBytes []))
        oneAfterTheOther).isSome ∧
      SentBefore (routeSystem.trace sendsOf
        (routeInit start (Memory.ofBytes []) (Memory.ofBytes [])) oneAfterTheOther) 0 1 := by
  intro cell
  have reached : (((threadPoolInit (poolStatics JobFunc (List UInt8) cell) 1 (.success cell)).bind
      InitResult.started).bind (fun start =>
        (routeSystem.run (routeInit start (Memory.ofBytes []) (Memory.ofBytes []))
          oneAfterTheOther).map (fun _ => ()))) = some () := by
    decide +kernel
  rcases InitResult.exists_run reached with ⟨start, final, done, ran, _⟩
  have ordered := sends_inOrder rfl (fun pc member => absurd member List.not_mem_nil) done
    (Memory.ofBytes []) (Memory.ofBytes []) oneAfterTheOther Nat.zero_lt_one
  exact ⟨start, done, by rw [ran]; rfl, ordered.1 (ordered.2 rfl)⟩

/-- Two workers take the jobs one after the other, and the second job is run
first. -/
def overtaking : List RouteLabel :=
  twoNotifications ++ dequeueLabels (Memory.ofBytes []) ++
  List.replicate 5 (.worker 1 (Memory.ofBytes [])) ++ List.replicate 7 (.job 1) ++
  List.replicate 7 (.job 0)

theorem overtaking_reorders :
    let cell : DoublyLinkedListNode Addr := ⟨none, .jobListHead, .jobListHead⟩
    Exists fun start => Exists fun final => Exists fun first => Exists fun second =>
      threadPoolInit (poolStatics JobFunc (List UInt8) cell) 2 (.success cell) =
        some (.returned 0 start) ∧
      routeSystem.run (routeInit start (Memory.ofBytes []) (Memory.ofBytes [])) overtaking =
        some final ∧
      final.received[0]? = some first ∧ final.received[1]? = some second ∧
      SameStream first second ∧
      ¬ SentBefore (routeSystem.trace sendsOf
        (routeInit start (Memory.ofBytes []) (Memory.ofBytes [])) overtaking) 0 1 := by
  intro cell
  have reached : ((threadPoolInit (poolStatics JobFunc (List UInt8) cell) 2 (.success cell)).bind
      InitResult.started).bind (fun start =>
        (routeSystem.run (routeInit start (Memory.ofBytes []) (Memory.ofBytes []))
          overtaking).map (fun final =>
            (final.received, decide (SentBefore (routeSystem.trace sendsOf
              (routeInit start (Memory.ofBytes []) (Memory.ofBytes [])) overtaking) 0 1)))) =
      some ([⟨notifyPacket, 6⟩, ⟨notifyPacket.dropLast ++ [10], 6⟩], false) := by
    decide +kernel
  rcases InitResult.exists_run reached with ⟨start, final, done, ran, parts⟩
  simp only [Prod.mk.injEq] at parts
  rcases parts with ⟨received, reordered⟩
  refine ⟨start, final, _, _, done, ran, by rw [received]; rfl, by rw [received]; rfl, ?_,
    of_decide_eq_false reordered⟩
  exact ⟨rfl, by decide +kernel, by decide +kernel, by decide +kernel, by decide +kernel⟩

end MsgRoute
end V2x
