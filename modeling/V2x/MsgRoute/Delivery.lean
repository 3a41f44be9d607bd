import V2x.MsgRoute.RouteRuns
import V2x.MsgRoute.TableAccess

namespace V2x
namespace MsgRoute

open Foundations ThreadPool

/-!
# Every packet is delivered once

A packet crosses the receive buffer, a heap block, the queue of the pool and a
worker.  `Delivered` says what the run owes to it, in terms of the packet as it
was received: its job is executed at most once, and once when it is finished;
this execution sends nothing but the packet with the sender's descriptor in
`src`, to target slots only, and to every slot that stays as it is what the
slot asks for.
-/

/-- The message as it was received. -/
def Packet.header (packet : Packet) : MsgRouteDataInfo := Memory.ofBytes packet.bytes

/-- The executions of the job of a packet. -/
def RouteState.executions (state : RouteState) (id : Nat) : List JobRun :=
  state.runs.filter (fun run => decide (state.ids[run.serial]? = some id))

/-- A worker has taken the job and is done with it. -/
structure RouteState.Finished (state : RouteState) (serial : Nat) : Prop where
  taken : serial < state.shared.pool.dequeued.length
  left : forall thread, serialOf state.shared.pool.threads thread ≠ some serial

/-- The packet, with the descriptor it came from in bytes 8 to 11. -/
structure Forwards (packet : Packet) (sent : List UInt8) : Prop where
  size : sent.length = msgRouteHeadSize + packet.header.len.toNat
  whole : sent.length = packet.bytes.length
  src : MsgRouteDataInfo.src (Memory.ofBytes sent) = packet.fd
  rest : forall index, index < 8 ∨ 12 ≤ index -> sent[index]? = packet.bytes[index]?

/-- What an execution sends for a packet.  A call is counted for the slot that
it was made for. -/
structure Serves (packet : Packet) (run : JobRun) : Prop where
  calls : forall call, call ∈ run.sends ->
    (Exists fun slot => slot ∈ targets packet.header ∧ call.slot = some slot) ∧
    Forwards packet call.bytes
  atMost : forall slot fd flag, slot ∈ targets packet.header ->
    Steady run.tables slot packet.header.typeIndex fd flag ->
    sendsTo slot run.sends <+: slotSends fd flag
  returned : run.returned = true -> forall slot fd flag, slot ∈ targets packet.header ->
    Steady run.tables slot packet.header.typeIndex fd flag ->
    sendsTo slot run.sends = slotSends fd flag

/-- What the run owes to a packet. -/
structure Delivered (state : RouteState) (id : Nat) (packet : Packet) : Prop where
  accepted : forall run, run ∈ state.executions id -> id ∈ state.ids
  once : (state.executions id).length ≤ 1
  complete : forall serial, state.ids[serial]? = some id -> state.Finished serial ->
    Exists fun run => state.executions id = [run] ∧ run.returned = true
  serves : packet.header.dataType ≠ MsgRouteDataType.answer.code ->
    forall run, run ∈ state.executions id -> Serves packet run

/-! ## A packet and what is sent for it -/

theorem passesLengthChecks_of_routed {bytes : List UInt8} (kind : packetKind bytes = .routed) :
    passesLengthChecks bytes = true := by
  unfold packetKind at kind
  split at kind
  · cases kind
  · split at kind
    · cases kind
    next checked => exact not_not.mp checked

section Routed

variable {packet : Packet}

/-- The block of the job starts with the received packet, marked with its sender. -/
theorem msg_agrees (packet : Packet) (address : Nat) (inside : address < packet.bytes.length) :
    packet.msg address = packetMsg packet.bytes packet.fd address :=
  Memory.ofBytes_loadBytes _ _ address inside

theorem header_lt_length (kind : packetKind packet.bytes = .routed) : 32 < packet.bytes.length :=
  ((passesLengthChecks_iff packet.bytes).mp (passesLengthChecks_of_routed kind)).1

theorem dataType_msg (kind : packetKind packet.bytes = .routed) :
    packet.msg.dataType = packet.header.dataType := by
  have inside := header_lt_length kind
  exact (MsgRouteDataInfo.dataType_congr (msg_agrees packet) (by omega)).trans
    (MsgRouteDataInfo.dataType_setSrc _ _)

theorem typeIndex_msg (kind : packetKind packet.bytes = .routed) :
    packet.msg.typeIndex = packet.header.typeIndex := by
  have inside := header_lt_length kind
  have sameType := (MsgRouteDataInfo.msgType_congr (msg_agrees packet) (by omega)).trans
    (MsgRouteDataInfo.msgType_setSrc _ _)
  rw [MsgRouteDataInfo.typeIndex, sameType]
  rfl

theorem targets_msg (kind : packetKind packet.bytes = .routed) :
    targets packet.msg = targets packet.header := by
  have inside := header_lt_length kind
  have sameApp := (MsgRouteDataInfo.appId_congr (msg_agrees packet) (by omega)).trans
    (MsgRouteDataInfo.appId_setSrc _ _)
  rw [targets, targets, MsgRouteDataInfo.slotIndex, MsgRouteDataInfo.slotIndex, sameApp]
  rfl

theorem src_msg (kind : packetKind packet.bytes = .routed) : packet.msg.src = packet.fd := by
  have inside := header_lt_length kind
  exact (MsgRouteDataInfo.src_congr (msg_agrees packet) (by omega)).trans
    (MsgRouteDataInfo.src_setSrc _ _)

/-- The job sends the whole block. -/
theorem copy_msg (kind : packetKind packet.bytes = .routed) : packet.msg.copy = packet.routed := by
  have checked := passesLengthChecks_of_routed kind
  have inside := header_lt_length kind
  have sameLen : packet.msg.len = (packetMsg packet.bytes packet.fd).len :=
    MsgRouteDataInfo.len_congr (msg_agrees packet) (by omega)
  have size : packet.msg.dataLen.toNat = packet.bytes.length := by
    rw [MsgRouteDataInfo.dataLen, sameLen]
    exact dataLen_packetMsg packet.fd checked
  rw [MsgRouteDataInfo.copy, size]
  apply Memory.loadBytes_congr
  intro address _ upper
  exact msg_agrees packet address (by omega)

theorem forwards_routed (kind : packetKind packet.bytes = .routed) :
    Forwards packet packet.routed := by
  have checked := (passesLengthChecks_iff packet.bytes).mp (passesLengthChecks_of_routed kind)
  have inside := header_lt_length kind
  have whole : packet.routed.length = packet.bytes.length := Memory.loadBytes_length _ _ _
  have isLen : packet.bytes.length - msgRouteHeadSize = packet.header.len.toNat := checked.2.2
  constructor
  · rw [whole]
    have header := checked.1
    omega
  · exact whole
  · exact src_msg kind
  · intro index outside
    by_cases within : index < packet.bytes.length
    · have reached : index < packet.routed.length := whole ▸ within
      have here := msg_agrees packet index within
      rw [packetMsg, MsgRouteDataInfo.setSrc_outside _ _ _ outside] at here
      rw [List.getElem?_eq_getElem within, List.getElem?_eq_getElem reached]
      rw [Packet.msg, Memory.ofBytes, Memory.ofBytes, List.getD_eq_getElem _ 0 reached,
        List.getD_eq_getElem _ 0 within] at here
      exact congrArg some here
    · rw [List.getElem?_eq_none (not_lt.mp within), List.getElem?_eq_none (whole ▸ not_lt.mp within)]

/-- A correct execution serves the packet. -/
theorem JobCorrect.serves {run : JobRun} (correct : JobCorrect packet.msg run)
    (kind : packetKind packet.bytes = .routed) : Serves packet run := by
  have targetsAre := targets_msg kind
  have typeIs := typeIndex_msg kind
  constructor
  · intro call member
    rcases correct.calls.calls call member with ⟨target, isCopy⟩
    rw [targetsAre] at target
    rw [copy_msg kind] at isCopy
    exact ⟨target, isCopy ▸ forwards_routed kind⟩
  · intro slot fd flag target steady
    rw [← targetsAre] at target
    rw [← typeIs] at steady
    have served := correct.slots slot fd flag target steady
    by_cases ahead : slot ∈ run.frame.pc.unfinished packet.msg
    · rw [served.waiting ahead]
      exact List.nil_prefix
    · exact ⟨_, served.served ahead⟩
  · intro ended slot fd flag target steady
    rw [← targetsAre] at target
    rw [← typeIs] at steady
    have isOver : run.frame.pc = .returned := of_decide_eq_true ended
    have served := (correct.slots slot fd flag target steady).served
    rw [isOver] at served
    exact (List.append_nil _).symm.trans (served List.not_mem_nil)

end Routed

/-! ## The executions of a packet -/

section Executions

variable {state : RouteState} {id : Nat}

theorem mem_executions {run : JobRun} :
    run ∈ state.executions id <-> run ∈ state.runs ∧ state.ids[run.serial]? = some id := by
  rw [RouteState.executions, List.mem_filter, decide_eq_true_eq]

/-- The executions of a packet are one execution. -/
theorem RouteInv.sameExecution (inv : RouteInv state) {first second : JobRun}
    (isFirst : first ∈ state.executions id) (isSecond : second ∈ state.executions id) :
    first = second := by
  rcases mem_executions.mp isFirst with ⟨firstMember, firstId⟩
  rcases mem_executions.mp isSecond with ⟨secondMember, secondId⟩
  have below := (List.getElem?_eq_some_iff.mp firstId).1
  have sameSerial := (List.getElem?_inj below inv.idsDistinct).mp (firstId.trans secondId.symm)
  exact inv.runs.eq_of_serial firstMember secondMember sameSerial

theorem RouteInv.executions_length_le (inv : RouteInv state) (id : Nat) :
    (state.executions id).length ≤ 1 := by
  have distinct : (state.executions id).Nodup := inv.runs.distinct.of_map.filter _
  cases executed : state.executions id with
  | nil => exact Nat.zero_le _
  | cons first others =>
      cases others with
      | nil => exact Nat.le_refl _
      | cons second others =>
          have isFirst : first ∈ state.executions id := by
            rw [executed]
            exact List.mem_cons_self
          have isSecond : second ∈ state.executions id := by
            rw [executed]
            exact List.mem_cons_of_mem _ List.mem_cons_self
          rw [executed, inv.sameExecution isFirst isSecond] at distinct
          exact absurd List.mem_cons_self (List.nodup_cons.mp distinct).1

/-- A finished job has been executed to its end. -/
theorem RouteInv.executions_of_finished (inv : RouteInv state) {serial : Nat}
    (isId : state.ids[serial]? = some id) (finished : state.Finished serial) :
    Exists fun run => state.executions id = [run] ∧ run.returned = true := by
  rcases inv.runs.finished serial finished.taken with ⟨thread, holds⟩ | ended
  · exact absurd holds (finished.left thread)
  · rcases ended with ⟨run, member, isSerial, returned⟩
    have executed : run ∈ state.executions id := by
      apply mem_executions.mpr
      rw [isSerial]
      exact ⟨member, isId⟩
    refine ⟨run, ?_, returned⟩
    have atMost := inv.executions_length_le id
    rcases List.length_eq_one_iff.mp (Nat.le_antisymm atMost (List.length_pos_of_mem executed))
      with ⟨only, isOnly⟩
    rw [isOnly] at executed ⊢
    rw [List.mem_singleton.mp executed]

/-- Where the links hold, every packet has got what the run owes to it. -/
theorem RouteInv.delivered (inv : RouteInv state) {packet : Packet}
    (received : state.received[id]? = some packet) : Delivered state id packet where
  accepted := by
    intro run executed
    exact List.mem_of_getElem? (mem_executions.mp executed).2
  once := inv.executions_length_le id
  complete := fun _ isId finished => inv.executions_of_finished isId finished
  serves := by
    intro notAnswer run executed
    rcases mem_executions.mp executed with ⟨member, isId⟩
    have kind := inv.kinds packet (List.mem_of_getElem? received)
    have isPacket : state.packetOf run.serial = some packet := by
      rw [RouteState.packetOf, isId]
      exact received
    rw [← dataType_msg kind] at notAnswer
    exact (inv.correct.correct run packet member isPacket notAnswer).serves kind

end Executions

/-- Whatever the epoll thread and the workers do after a successful initialisation
of the pool, every packet that is to be routed gets what the run owes to it.  The
threads of earlier initialisations have ended by then. -/
theorem received_delivered {pre start : RoutePool} {threadNum : Int} {outcome : InitOutcome}
    (uninitialised : pre.isInit = false) (noWorkers : forall pc, pc ∈ pre.threads -> pc = .exited)
    (initialised : threadPoolInit pre threadNum outcome = some (.returned 0 start))
    {memory recvBuf : Memory} {labels : List RouteLabel} {final : RouteState}
    (ran : routeSystem.run (routeInit start memory recvBuf) labels = some final)
    {id : Nat} {packet : Packet} (received : final.received[id]? = some packet) :
    Delivered final id packet :=
  (routeInv_of_run (idle_of_threadPoolInit uninitialised noWorkers initialised) ran).delivered
    received

/-- A notification of type 3 for application 1, as it is received. -/
def notifyPacket : List UInt8 :=
  [0, 0, 0, 0, 3, 0, 0, 0, 0, 0, 0, 0, 1, 0, 0, 0, 0, 0, 0, 0, 0, 0, 0, 0,
    0, 0, 0, 0, 1, 0, 0, 0, 9]

/-- The steps that put a block into the queue. -/
def enqueueLabels (data tmp node : Nat) : List RouteLabel :=
  [.malloc (some data), .call, .add (.allocate 0 (some tmp)), .add (.create 0 (some node)),
    .add (.insert 0), .add (.post 0), .add (.leave 0)]

/-- The steps of the first worker up to the call of a job. -/
def dequeueLabels (stack : ClientInfoTable) : List RouteLabel :=
  List.replicate 5 (.worker 0 stack)

/-- Descriptor 5 subscribes, descriptor 6 sends a notification, and the job for
it runs to its end. -/
def notifySubscriber : List RouteLabel :=
  [.event (.accept 5 true), .event (.accept 6 true),
    .event (.recv 5 (.packet (controlPacket 1 1 3))), .event (.recv 6 (.packet notifyPacket))] ++
  enqueueLabels 0 1 2 ++ dequeueLabels (Memory.ofBytes []) ++ List.replicate 7 (.job 0) ++
  [.worker 0 (Memory.ofBytes [])]

theorem received_delivered_notifySubscriber :
    let cell : DoublyLinkedListNode Addr := ⟨none, .jobListHead, .jobListHead⟩
    Exists fun start => Exists fun final =>
      threadPoolInit (poolStatics JobFunc (List UInt8) cell) 1 (.success cell) =
        some (.returned 0 start) ∧
      routeSystem.run (routeInit start (Memory.ofBytes []) (Memory.ofBytes [])) notifySubscriber =
        some final ∧
      (final.executions 0).map JobRun.sends = [[⟨some 1, 5, routedBytes notifyPacket 6⟩]] ∧
      Delivered final 0 ⟨notifyPacket, 6⟩ := by
  intro cell
  have reached : ((threadPoolInit (poolStatics JobFunc (List UInt8) cell) 1 (.success cell)).bind
      InitResult.started).bind (fun start =>
        (routeSystem.run (routeInit start (Memory.ofBytes []) (Memory.ofBytes []))
          notifySubscriber).map (fun final =>
            (final.received[0]?, (final.executions 0).map JobRun.sends))) =
      some (some ⟨notifyPacket, 6⟩, [[⟨some 1, 5, routedBytes notifyPacket 6⟩]]) := by
    decide +kernel
  rcases InitResult.exists_run reached with ⟨start, final, done, ran, parts⟩
  simp only [Prod.mk.injEq] at parts
  rcases parts with ⟨received, sent⟩
  refine ⟨start, final, done, ran, sent, received_delivered rfl ?_ done ran received⟩
  exact fun pc member => absurd member List.not_mem_nil

end MsgRoute
end V2x
