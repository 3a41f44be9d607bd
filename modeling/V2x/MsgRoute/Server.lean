import V2x.Foundations.TransitionSystem
import V2x.MsgRoute.Core

namespace V2x
namespace MsgRoute

open Foundations

/-!
# The epoll thread of `msg_route_server.c`

One thread accepts connections and handles their packets one after the other.
All packets are received into the same buffer, so the buffer still holds the
end of an older packet when a shorter one arrives.  `packetMsg` is the packet
without that rest.  `msgRouteServerHandleMsg_packet` shows that nothing but the
packet counts, and sorts the packets into the four kinds that the later modules
distinguish.

The state of the machine has two parts that the program does not store: which
connections are open, and the control packets handled so far.  They record the
run and no transition depends on the second one.
-/

/-- What `recv` returned.  An empty packet is the value 0, which the server
takes for the end of the connection. -/
inductive RecvResult where
  | error
  | packet (bytes : List UInt8)
deriving DecidableEq, Repr

/-- What one call of `MsgRouteServerHandleMsg` leaves behind.  `closed` stands for
`EPOLL_CTL_DEL` followed by `close(clientFd)`, `job` for the block passed to
`ThreadPoolAddJob`. -/
structure HandleResult where
  clientInfo : ClientInfoTable
  recvBuf : Memory
  closed : Bool
  job : Option (List UInt8)

/-- The size of the receive buffer. -/
def recvSize : Nat := msgRouteHeadSize + msgRouteDataSize

/-- `MsgRouteServerHandleMsg`. -/
def msgRouteServerHandleMsg (clientInfo : ClientInfoTable) (recvBuf : Memory) (clientFd : Int32) :
    RecvResult -> HandleResult
  | .error => ⟨clientInfo, recvBuf, false, none⟩
  | .packet sent =>
      let received := sent.take recvSize
      let recvByte := received.length
      let msgData := Memory.storeBytes recvBuf 0 received
      if recvByte = 0 then
        ⟨msgRouteCoreEraseClientInfo clientInfo clientFd, msgData, true, none⟩
      else if recvSize < recvByte ∨ recvByte ≤ msgRouteHeadSize then
        ⟨clientInfo, msgData, false, none⟩
      else if recvByte - msgRouteHeadSize ≠ (MsgRouteDataInfo.len msgData).toNat then
        ⟨clientInfo, msgData, false, none⟩
      else
        let marked := MsgRouteDataInfo.setSrc msgData clientFd
        let handled := msgRouteCoreHandleMsg clientInfo marked
        ⟨handled.1, marked, false, handled.2⟩

/-! ## The four kinds of packets -/

/-- The received bytes as a message, with the sender in `src`. -/
def packetMsg (bytes : List UInt8) (clientFd : Int32) : MsgRouteDataInfo :=
  MsgRouteDataInfo.setSrc (Memory.ofBytes bytes) clientFd

/-- What a routed packet is sent on as: the received bytes with the sender in `src`. -/
def routedBytes (bytes : List UInt8) (clientFd : Int32) : List UInt8 :=
  Memory.loadBytes (packetMsg bytes clientFd) 0 bytes.length

/-- What the server does with the received bytes. -/
inductive PacketKind where
  | disconnect
  | dropped
  | control (isAdd : Bool)
  | routed
deriving DecidableEq, Repr

/-- The size and length checks of `MsgRouteServerHandleMsg`. -/
def passesLengthChecks (bytes : List UInt8) : Bool :=
  msgRouteHeadSize < bytes.length && bytes.length ≤ recvSize &&
    bytes.length - msgRouteHeadSize == (MsgRouteDataInfo.len (Memory.ofBytes bytes)).toNat

def packetKind (bytes : List UInt8) : PacketKind :=
  if bytes.length = 0 then .disconnect
  else if ¬ passesLengthChecks bytes then .dropped
  else if ¬ isMsgRouteValidMsg (Memory.ofBytes bytes) then .dropped
  else if MsgRouteDataInfo.msgType (Memory.ofBytes bytes) = MsgRouteMsgType.subscribe.code then
    .control true
  else if MsgRouteDataInfo.msgType (Memory.ofBytes bytes) = MsgRouteMsgType.unsubscribe.code then
    .control false
  else .routed

/-- The slot a control packet names. -/
def packetSlot (bytes : List UInt8) : Nat :=
  MsgRouteDataInfo.slotIndex (Memory.ofBytes bytes)

/-- The type a control packet names in its first payload byte. -/
def packetType (bytes : List UInt8) : Nat :=
  (MsgRouteDataInfo.data (Memory.ofBytes bytes) 0).toNat

theorem passesLengthChecks_iff (bytes : List UInt8) :
    passesLengthChecks bytes = true <->
      msgRouteHeadSize < bytes.length ∧ bytes.length ≤ recvSize ∧
      bytes.length - msgRouteHeadSize =
        (MsgRouteDataInfo.len (Memory.ofBytes bytes)).toNat := by
  simp only [passesLengthChecks, Bool.and_eq_true, decide_eq_true_eq, beq_iff_eq, and_assoc]

/-- Outside `src` the marked buffer and the packet have the same bytes. -/
theorem buffer_agrees (recvBuf : Memory) (bytes : List UInt8) (clientFd : Int32) (address : Nat)
    (inside : address < bytes.length) :
    MsgRouteDataInfo.setSrc (recvBuf.storeBytes 0 bytes) clientFd address =
      packetMsg bytes clientFd address := by
  by_cases header : address < 8 ∨ 12 ≤ address
  · rw [packetMsg, MsgRouteDataInfo.setSrc_outside _ _ _ header,
      MsgRouteDataInfo.setSrc_outside _ _ _ header]
    exact Memory.storeBytes_zero_eq_ofBytes recvBuf bytes address inside
  · have position : 8 + (address - 8) = address := by omega
    have word : address - 8 < (leBytes 4 clientFd.toUInt32.toNat).length := by
      rw [leBytes_length]
      omega
    rw [← position]
    unfold packetMsg MsgRouteDataInfo.setSrc Memory.storeInt32 Memory.storeUInt32
    rw [Memory.storeBytes_inside _ _ _ _ word, Memory.storeBytes_inside _ _ _ _ word]

/-- The table after a packet of this kind. -/
def PacketKind.table (kind : PacketKind) (clientInfo : ClientInfoTable) (bytes : List UInt8)
    (clientFd : Int32) : ClientInfoTable :=
  match kind with
  | .disconnect => msgRouteCoreEraseClientInfo clientInfo clientFd
  | .dropped => clientInfo
  | .control isAdd =>
      msgRouteCoreUpdateClientSubscribeInfo clientInfo (packetMsg bytes clientFd) isAdd
  | .routed => clientInfo

/-- The block passed to the thread pool for a packet of this kind. -/
def PacketKind.job (kind : PacketKind) (bytes : List UInt8) (clientFd : Int32) :
    Option (List UInt8) :=
  match kind with
  | .routed => some (routedBytes bytes clientFd)
  | _ => none

@[simp] theorem packetSlot_eq (bytes : List UInt8) (clientFd : Int32) :
    (packetMsg bytes clientFd).slotIndex = packetSlot bytes := by
  unfold packetSlot MsgRouteDataInfo.slotIndex packetMsg
  rw [MsgRouteDataInfo.appId_setSrc]

@[simp] theorem packetType_eq (bytes : List UInt8) (clientFd : Int32) :
    ((packetMsg bytes clientFd).data 0).toNat = packetType bytes := by
  unfold packetType packetMsg
  rw [MsgRouteDataInfo.data_setSrc]

@[simp] theorem isMsgRouteValidMsg_packetMsg (bytes : List UInt8) (clientFd : Int32) :
    isMsgRouteValidMsg (packetMsg bytes clientFd) = isMsgRouteValidMsg (Memory.ofBytes bytes) := by
  unfold isMsgRouteValidMsg packetMsg
  rw [MsgRouteDataInfo.appId_setSrc, MsgRouteDataInfo.msgType_setSrc]

/-- A packet of kind `control` or `routed` has passed `IsMsgRouteValidMsg`. -/
theorem isMsgRouteValidMsg_of_kind {bytes : List UInt8} (clientFd : Int32)
    (handled : packetKind bytes ≠ .disconnect ∧ packetKind bytes ≠ .dropped) :
    isMsgRouteValidMsg (packetMsg bytes clientFd) = true := by
  rw [isMsgRouteValidMsg_packetMsg]
  by_contra invalid
  apply handled.2
  unfold packetKind at *
  by_cases empty : bytes.length = 0
  · exact absurd (if_pos empty) handled.1
  · rw [if_neg empty]
    by_cases checked : passesLengthChecks bytes = true
    · rw [if_neg (not_not.mpr checked), if_pos invalid]
    · rw [if_pos checked]

/-- A packet of the right length is its own copy. -/
theorem dataLen_packetMsg {bytes : List UInt8} (clientFd : Int32)
    (checked : passesLengthChecks bytes = true) :
    (packetMsg bytes clientFd).dataLen.toNat = bytes.length := by
  rcases (passesLengthChecks_iff bytes).mp checked with ⟨header, fits, lenIs⟩
  have sameLen : (packetMsg bytes clientFd).len = MsgRouteDataInfo.len (Memory.ofBytes bytes) :=
    MsgRouteDataInfo.len_setSrc _ _
  unfold recvSize at fits
  rw [dataLen_toNat (by rw [sameLen]; omega), sameLen]
  omega

/-- The length checks look at the packet only. -/
theorem len_buffer (recvBuf : Memory) {bytes : List UInt8} (header : msgRouteHeadSize < bytes.length) :
    MsgRouteDataInfo.len (recvBuf.storeBytes 0 bytes) =
      MsgRouteDataInfo.len (Memory.ofBytes bytes) := by
  unfold msgRouteHeadSize at header
  have same : forall address, address < bytes.length ->
      recvBuf.storeBytes 0 bytes address = Memory.ofBytes bytes address :=
    fun address inside => Memory.storeBytes_zero_eq_ofBytes recvBuf bytes address inside
  exact MsgRouteDataInfo.len_congr same (by omega)

/-- Handling a checked packet in the buffer is handling the packet. -/
theorem handleMsg_buffer (table : ClientInfoTable) (recvBuf : Memory) {bytes : List UInt8}
    (clientFd : Int32) (checked : passesLengthChecks bytes = true) :
    msgRouteCoreHandleMsg table (MsgRouteDataInfo.setSrc (recvBuf.storeBytes 0 bytes) clientFd) =
      msgRouteCoreHandleMsg table (packetMsg bytes clientFd) := by
  apply msgRouteCoreHandleMsg_congr table (buffer_agrees recvBuf bytes clientFd)
  · exact ((passesLengthChecks_iff bytes).mp checked).1
  · rw [dataLen_packetMsg clientFd checked]

/-- The kind of a packet decides everything the server does with it, and the
old contents of the receive buffer do not matter. -/
theorem msgRouteServerHandleMsg_packet (clientInfo : ClientInfoTable) (recvBuf : Memory)
    (clientFd : Int32) (sent : List UInt8) :
    let received := sent.take recvSize
    let kind := packetKind received
    let result := msgRouteServerHandleMsg clientInfo recvBuf clientFd (.packet sent)
    result.clientInfo = kind.table clientInfo received clientFd ∧
    result.closed = decide (kind = .disconnect) ∧
    result.job = kind.job received clientFd := by
  intro received kind result
  have short : received.length ≤ recvSize := List.length_take_le _ _
  by_cases empty : received.length = 0
  · have isKind : kind = .disconnect := if_pos empty
    have isResult : result = ⟨msgRouteCoreEraseClientInfo clientInfo clientFd,
      recvBuf.storeBytes 0 received, true, none⟩ := if_pos empty
    rw [isKind, isResult]
    exact ⟨rfl, rfl, rfl⟩
  by_cases checked : passesLengthChecks received = true
  · rcases (passesLengthChecks_iff received).mp checked with ⟨header, fits, lenIs⟩
    let marked := MsgRouteDataInfo.setSrc (recvBuf.storeBytes 0 received) clientFd
    have isResult : result = ⟨(msgRouteCoreHandleMsg clientInfo (packetMsg received clientFd)).1,
        marked, false, (msgRouteCoreHandleMsg clientInfo (packetMsg received clientFd)).2⟩ := by
      rw [← handleMsg_buffer clientInfo recvBuf clientFd checked]
      have fitting : ¬ (recvSize < received.length ∨ received.length ≤ msgRouteHeadSize) := by
        omega
      have matching : ¬ received.length - msgRouteHeadSize ≠
          (MsgRouteDataInfo.len (recvBuf.storeBytes 0 received)).toNat := by
        rw [len_buffer recvBuf header]
        exact not_not.mpr lenIs
      exact (if_neg empty).trans ((if_neg fitting).trans (if_neg matching))
    have sameType : (packetMsg received clientFd).msgType =
        MsgRouteDataInfo.msgType (Memory.ofBytes received) :=
      MsgRouteDataInfo.msgType_setSrc _ _
    have isCopy : (packetMsg received clientFd).copy = routedBytes received clientFd := by
      rw [MsgRouteDataInfo.copy, dataLen_packetMsg clientFd checked, routedBytes]
    have isKind : kind = packetKind received := rfl
    unfold packetKind at isKind
    rw [if_neg empty, if_neg (not_not.mpr checked), ← isMsgRouteValidMsg_packetMsg received clientFd,
      ← sameType] at isKind
    rw [isResult, isKind]
    unfold msgRouteCoreHandleMsg
    split
    · exact ⟨rfl, rfl, rfl⟩
    · split
      · exact ⟨rfl, rfl, rfl⟩
      · split
        · exact ⟨rfl, rfl, rfl⟩
        · exact ⟨rfl, rfl, congrArg some isCopy⟩
  · have isKind : kind = .dropped := by
      change packetKind received = _
      rw [packetKind, if_neg empty, if_pos checked]
    have isResult : result = ⟨clientInfo, recvBuf.storeBytes 0 received, false, none⟩ := by
      by_cases header : received.length ≤ msgRouteHeadSize
      · exact (if_neg empty).trans (if_pos (Or.inr header))
      · have fitting : ¬ (recvSize < received.length ∨ received.length ≤ msgRouteHeadSize) := by
          omega
        have differing : received.length - msgRouteHeadSize ≠
            (MsgRouteDataInfo.len (recvBuf.storeBytes 0 received)).toNat := by
          rw [len_buffer recvBuf (not_le.mp header)]
          intro lenIs
          exact checked ((passesLengthChecks_iff received).mpr ⟨not_le.mp header, short, lenIs⟩)
        exact (if_neg empty).trans ((if_neg fitting).trans (if_pos differing))
    rw [isKind, isResult]
    exact ⟨rfl, rfl, rfl⟩

/-! ## The machine -/

/-- An accepted connection that has not been closed.  `id` counts the
connections accepted before it and `born` the control packets handled before
it; `watched` is false if the descriptor could not be added to epoll. -/
structure Connection where
  id : Nat
  fd : Int32
  watched : Bool
  born : Nat
deriving DecidableEq, Repr

/-- A handled control packet, with the descriptor its slot had before. -/
structure ControlRecord where
  conn : Nat
  fd : Int32
  slot : Nat
  type : Nat
  isAdd : Bool
  owner : Int32
deriving DecidableEq, Repr

structure ServerState where
  clientInfo : ClientInfoTable
  recvBuf : Memory
  connections : List Connection
  accepted : Nat
  controls : List ControlRecord

/-- One event of `MsgRouteServerHandleEvent`, with the outcomes of its system
calls. -/
inductive ServerEvent where
  | accept (clientFd : Int32) (added : Bool)
  | acceptFailed
  | recv (clientFd : Int32) (result : RecvResult)
  | notReadable (fd : Int32)
deriving DecidableEq, Repr

/-- What an event is for the table and the connections. -/
inductive EventKind where
  | accept (fd : Int32)
  | close (fd : Int32)
  | control (fd : Int32) (slot type : Nat) (isAdd : Bool)
  | quiet
deriving DecidableEq, Repr

def RecvResult.kind (clientFd : Int32) : RecvResult -> EventKind
  | .error => .quiet
  | .packet sent =>
      let received := sent.take recvSize
      match packetKind received with
      | .disconnect => .close clientFd
      | .control isAdd => .control clientFd (packetSlot received) (packetType received) isAdd
      | .dropped => .quiet
      | .routed => .quiet

def ServerEvent.kind : ServerEvent -> EventKind
  | .accept clientFd _ => .accept clientFd
  | .acceptFailed => .quiet
  | .recv clientFd result => result.kind clientFd
  | .notReadable _ => .quiet

/-- The entry a received packet adds to the history. -/
def controlRecords (conn : Connection) (clientInfo : ClientInfoTable) (result : RecvResult) :
    List ControlRecord :=
  match result.kind conn.fd with
  | .control fd slot type isAdd => [⟨conn.id, fd, slot, type, isAdd, clientInfo.fd slot⟩]
  | _ => []

/-- The open connection on whose descriptor epoll may report data. -/
def ServerState.watchedConnection (state : ServerState) (fd : Int32) : Option Connection :=
  state.connections.find? (fun conn => conn.fd == fd && conn.watched)

/-- Receive on a connection. -/
def ServerState.receive (state : ServerState) (conn : Connection) (result : RecvResult) :
    ServerState :=
  let handled := msgRouteServerHandleMsg state.clientInfo state.recvBuf conn.fd result
  { clientInfo := handled.clientInfo
    recvBuf := handled.recvBuf
    connections :=
      if handled.closed then state.connections.filter (fun other => other.fd != conn.fd)
      else state.connections
    accepted := state.accepted
    controls := state.controls ++ controlRecords conn state.clientInfo result }

/-- `MsgRouteServerHandleEvent` on one event.  The kernel returns a descriptor
that is not in use, and reports data only on a watched one. -/
def serverStep (state : ServerState) : ServerEvent -> Option ServerState
  | .accept clientFd added =>
      if clientFd < 0 ∨ state.connections.any (fun conn => conn.fd == clientFd) then none
      else
        some { state with
          connections :=
            ⟨state.accepted, clientFd, added, state.controls.length⟩ :: state.connections
          accepted := state.accepted + 1 }
  | .acceptFailed => some state
  | .recv clientFd result =>
      (state.watchedConnection clientFd).map (fun conn => state.receive conn result)
  | .notReadable _ => some state

/-- The epoll thread as a machine. -/
def server : Machine ServerState ServerEvent where
  step := serverStep

/-- The state after `MsgRouteClientInfoInit`, with arbitrary old memory. -/
def serverInit (memory recvBuf : Memory) : ServerState where
  clientInfo := msgRouteClientInfoInit memory
  recvBuf := recvBuf
  connections := []
  accepted := 0
  controls := []

/-! ## What a step can do -/

/-- The effects a step can have on the table, the connections and the history.
The receive buffer is left out: no later packet depends on it. -/
inductive ServerChange (state next : ServerState) : EventKind -> Prop where
  | quiet
      (clientInfo : next.clientInfo = state.clientInfo)
      (connections : next.connections = state.connections)
      (accepted : next.accepted = state.accepted)
      (controls : next.controls = state.controls) :
      ServerChange state next .quiet
  | accepted (clientFd : Int32) (added : Bool)
      (valid : 0 ≤ clientFd.toInt)
      (fresh : forall conn, conn ∈ state.connections -> conn.fd ≠ clientFd)
      (clientInfo : next.clientInfo = state.clientInfo)
      (connections : next.connections =
        ⟨state.accepted, clientFd, added, state.controls.length⟩ :: state.connections)
      (accepted : next.accepted = state.accepted + 1)
      (controls : next.controls = state.controls) :
      ServerChange state next (.accept clientFd)
  | control (conn : Connection) (bytes : List UInt8) (isAdd : Bool)
      (member : conn ∈ state.connections)
      (kind : packetKind bytes = .control isAdd)
      (clientInfo : next.clientInfo = msgRouteCoreUpdateClientSubscribeInfo state.clientInfo
        (packetMsg bytes conn.fd) isAdd)
      (connections : next.connections = state.connections)
      (accepted : next.accepted = state.accepted)
      (controls : next.controls = state.controls ++
        [⟨conn.id, conn.fd, packetSlot bytes, packetType bytes, isAdd,
          state.clientInfo.fd (packetSlot bytes)⟩]) :
      ServerChange state next (.control conn.fd (packetSlot bytes) (packetType bytes) isAdd)
  | disconnected (conn : Connection)
      (member : conn ∈ state.connections)
      (clientInfo : next.clientInfo = msgRouteCoreEraseClientInfo state.clientInfo conn.fd)
      (connections : next.connections =
        state.connections.filter (fun other => other.fd != conn.fd))
      (accepted : next.accepted = state.accepted)
      (controls : next.controls = state.controls) :
      ServerChange state next (.close conn.fd)

theorem packetKind_eq_disconnect_iff (bytes : List UInt8) :
    packetKind bytes = .disconnect <-> bytes = [] := by
  unfold packetKind
  constructor
  · intro isDisconnect
    by_contra nonempty
    rw [if_neg (fun zero => nonempty (List.length_eq_zero_iff.mp zero))] at isDisconnect
    revert isDisconnect
    split_ifs <;> decide
  · rintro rfl
    rfl

theorem take_recvSize_eq_nil {sent : List UInt8} (empty : sent.take recvSize = []) : sent = [] := by
  rcases List.take_eq_nil_iff.mp empty with zero | none_
  · exact absurd zero (by decide)
  · exact none_

/-- The four kinds of packets as changes of the state. -/
theorem receive_change (state : ServerState) (conn : Connection) (result : RecvResult)
    (member : conn ∈ state.connections) :
    ServerChange state (state.receive conn result) (result.kind conn.fd) := by
  cases result with
  | error => exact .quiet rfl rfl rfl (List.append_nil _)
  | packet sent =>
      have effect := msgRouteServerHandleMsg_packet state.clientInfo state.recvBuf conn.fd sent
      dsimp only at effect
      rcases effect with ⟨table, closed, _⟩
      have stillOpen : packetKind (sent.take recvSize) ≠ .disconnect ->
          (state.receive conn (.packet sent)).connections = state.connections := by
        intro notDisconnect
        apply if_neg
        rw [closed, decide_eq_true_eq]
        exact notDisconnect
      cases kind : packetKind (sent.take recvSize) with
      | disconnect =>
          have isKind : (RecvResult.packet sent).kind conn.fd = .close conn.fd := by
            simp only [RecvResult.kind, kind]
          rw [isKind]
          apply ServerChange.disconnected conn member
          · exact table.trans (by rw [kind]; rfl)
          · apply if_pos
            rw [closed, kind]
            rfl
          · rfl
          · simp only [ServerState.receive, controlRecords, isKind, List.append_nil]
      | dropped =>
          have isKind : (RecvResult.packet sent).kind conn.fd = .quiet := by
            simp only [RecvResult.kind, kind]
          rw [isKind]
          apply ServerChange.quiet
          · exact table.trans (by rw [kind]; rfl)
          · exact stillOpen (by rw [kind]; exact nofun)
          · rfl
          · simp only [ServerState.receive, controlRecords, isKind, List.append_nil]
      | control isAdd =>
          have isKind : (RecvResult.packet sent).kind conn.fd = .control conn.fd
              (packetSlot (sent.take recvSize)) (packetType (sent.take recvSize)) isAdd := by
            simp only [RecvResult.kind, kind]
          rw [isKind]
          apply ServerChange.control conn (sent.take recvSize) isAdd member kind
          · exact table.trans (by rw [kind]; rfl)
          · exact stillOpen (by rw [kind]; exact nofun)
          · rfl
          · simp only [ServerState.receive, controlRecords, isKind]
      | routed =>
          have isKind : (RecvResult.packet sent).kind conn.fd = .quiet := by
            simp only [RecvResult.kind, kind]
          rw [isKind]
          apply ServerChange.quiet
          · exact table.trans (by rw [kind]; rfl)
          · exact stillOpen (by rw [kind]; exact nofun)
          · rfl
          · simp only [ServerState.receive, controlRecords, isKind, List.append_nil]

theorem watchedConnection_spec {state : ServerState} {fd : Int32} {conn : Connection}
    (found : state.watchedConnection fd = some conn) :
    conn ∈ state.connections ∧ conn.fd = fd ∧ conn.watched = true := by
  have member := List.mem_of_find?_eq_some found
  have holds := List.find?_some found
  simp only [Bool.and_eq_true, beq_iff_eq] at holds
  exact ⟨member, holds⟩

/-- Every step is one of the changes. -/
theorem serverStep_change {state next : ServerState} {event : ServerEvent}
    (stepped : serverStep state event = some next) : ServerChange state next event.kind := by
  cases event with
  | accept clientFd added =>
      simp only [serverStep] at stepped
      split at stepped
      · cases stepped
      · next refused =>
          simp only [not_or, List.any_eq_true, beq_iff_eq, not_exists, not_and] at refused
          rw [← Option.some.inj stepped]
          refine .accepted clientFd added ?_ refused.2 rfl rfl rfl rfl
          have zero : (0 : Int32).toInt = 0 := rfl
          rw [Int32.lt_iff_toInt_lt, zero] at refused
          omega
  | acceptFailed =>
      rw [← Option.some.inj stepped]
      exact .quiet rfl rfl rfl rfl
  | recv clientFd result =>
      rcases Option.map_eq_some_iff.mp stepped with ⟨conn, found, isNext⟩
      rcases watchedConnection_spec found with ⟨member, sameFd, _⟩
      rw [← isNext, ← sameFd]
      exact receive_change state conn result member
  | notReadable fd =>
      rw [← Option.some.inj stepped]
      exact .quiet rfl rfl rfl rfl

/-! ## Connections in reachable states -/

/-- The bookkeeping of connections and records is consistent. -/
structure Connected (connections : List Connection) (accepted : Nat)
    (controls : List ControlRecord) : Prop where
  fdsValid : forall conn, conn ∈ connections -> 0 ≤ conn.fd.toInt
  fdsDistinct : forall first, first ∈ connections -> forall second, second ∈ connections ->
    first.fd = second.fd -> first = second
  idsDistinct : forall first, first ∈ connections -> forall second, second ∈ connections ->
    first.id = second.id -> first = second
  idsBelow : forall conn, conn ∈ connections -> conn.id < accepted
  bornBelow : forall conn, conn ∈ connections -> conn.born ≤ controls.length
  recordsBelow : forall record, record ∈ controls -> record.conn < accepted
  recordsOwn : forall conn, conn ∈ connections -> forall record, record ∈ controls ->
    record.conn = conn.id -> record.fd = conn.fd

/-- The state's own bookkeeping. -/
def ServerState.Connected (state : ServerState) : Prop :=
  MsgRoute.Connected state.connections state.accepted state.controls

/-- A descriptor that the kernel handed out is not the mark of a free slot. -/
theorem ne_neg_one_of_valid {fd : Int32} (valid : 0 ≤ fd.toInt) : fd ≠ -1 := by
  intro same
  rw [same] at valid
  exact absurd valid (by decide)

namespace Connected

variable {connections : List Connection} {accepted : Nat} {controls : List ControlRecord}

theorem start : Connected [] 0 [] where
  fdsValid := fun _ member => absurd member List.not_mem_nil
  fdsDistinct := fun _ member => absurd member List.not_mem_nil
  idsDistinct := fun _ member => absurd member List.not_mem_nil
  idsBelow := fun _ member => absurd member List.not_mem_nil
  bornBelow := fun _ member => absurd member List.not_mem_nil
  recordsBelow := fun _ member => absurd member List.not_mem_nil
  recordsOwn := fun _ member => absurd member List.not_mem_nil

theorem accept (connected : Connected connections accepted controls) {fd : Int32} (watched : Bool)
    (valid : 0 ≤ fd.toInt) (fresh : forall conn, conn ∈ connections -> conn.fd ≠ fd) :
    Connected (⟨accepted, fd, watched, controls.length⟩ :: connections) (accepted + 1) controls where
  fdsValid := by
    intro conn member
    rcases List.mem_cons.mp member with rfl | old
    · exact valid
    · exact connected.fdsValid conn old
  fdsDistinct := by
    intro first firstMember second secondMember same
    rcases List.mem_cons.mp firstMember with rfl | firstOld
    · rcases List.mem_cons.mp secondMember with rfl | secondOld
      · rfl
      · exact absurd same.symm (fresh second secondOld)
    · rcases List.mem_cons.mp secondMember with rfl | secondOld
      · exact absurd same (fresh first firstOld)
      · exact connected.fdsDistinct first firstOld second secondOld same
  idsDistinct := by
    intro first firstMember second secondMember same
    rcases List.mem_cons.mp firstMember with rfl | firstOld
    · rcases List.mem_cons.mp secondMember with rfl | secondOld
      · rfl
      · exact absurd same (Nat.ne_of_gt (connected.idsBelow second secondOld))
    · rcases List.mem_cons.mp secondMember with rfl | secondOld
      · exact absurd same (Nat.ne_of_lt (connected.idsBelow first firstOld))
      · exact connected.idsDistinct first firstOld second secondOld same
  idsBelow := by
    intro conn member
    rcases List.mem_cons.mp member with rfl | old
    · exact Nat.lt_succ_self accepted
    · exact Nat.lt_succ_of_lt (connected.idsBelow conn old)
  bornBelow := by
    intro conn member
    rcases List.mem_cons.mp member with rfl | old
    · exact Nat.le_refl _
    · exact connected.bornBelow conn old
  recordsBelow := fun record member => Nat.lt_succ_of_lt (connected.recordsBelow record member)
  recordsOwn := by
    intro conn member record recorded same
    rcases List.mem_cons.mp member with rfl | old
    · exact absurd same (Nat.ne_of_lt (connected.recordsBelow record recorded))
    · exact connected.recordsOwn conn old record recorded same

theorem record (connected : Connected connections accepted controls) {conn : Connection}
    (member : conn ∈ connections) {added : ControlRecord} (sameConn : added.conn = conn.id)
    (sameFd : added.fd = conn.fd) : Connected connections accepted (controls ++ [added]) where
  fdsValid := connected.fdsValid
  fdsDistinct := connected.fdsDistinct
  idsDistinct := connected.idsDistinct
  idsBelow := connected.idsBelow
  bornBelow := by
    intro other old
    rw [List.length_append]
    exact Nat.le_add_right_of_le (connected.bornBelow other old)
  recordsBelow := by
    intro record recorded
    rcases List.mem_append.mp recorded with old | new
    · exact connected.recordsBelow record old
    · rw [List.mem_singleton.mp new, sameConn]
      exact connected.idsBelow conn member
  recordsOwn := by
    intro other otherMember record recorded same
    rcases List.mem_append.mp recorded with old | new
    · exact connected.recordsOwn other otherMember record old same
    · rw [List.mem_singleton.mp new] at same ⊢
      rw [connected.idsDistinct other otherMember conn member (same.symm.trans sameConn)]
      exact sameFd

theorem close (connected : Connected connections accepted controls)
    (keep : Connection -> Bool) : Connected (connections.filter keep) accepted controls where
  fdsValid := fun conn member => connected.fdsValid conn (List.mem_filter.mp member).1
  fdsDistinct := fun first firstMember second secondMember =>
    connected.fdsDistinct first (List.mem_filter.mp firstMember).1 second
      (List.mem_filter.mp secondMember).1
  idsDistinct := fun first firstMember second secondMember =>
    connected.idsDistinct first (List.mem_filter.mp firstMember).1 second
      (List.mem_filter.mp secondMember).1
  idsBelow := fun conn member => connected.idsBelow conn (List.mem_filter.mp member).1
  bornBelow := fun conn member => connected.bornBelow conn (List.mem_filter.mp member).1
  recordsBelow := connected.recordsBelow
  recordsOwn := fun conn member => connected.recordsOwn conn (List.mem_filter.mp member).1

end Connected

theorem connected_serverInit (memory recvBuf : Memory) :
    (serverInit memory recvBuf).Connected :=
  Connected.start

theorem connected_step {state next : ServerState} {kind : EventKind}
    (connected : state.Connected) (change : ServerChange state next kind) : next.Connected := by
  unfold ServerState.Connected at *
  cases change with
  | quiet clientInfo connections accepted controls =>
      rw [connections, accepted, controls]
      exact connected
  | accepted clientFd added valid fresh clientInfo connections accepted controls =>
      rw [connections, accepted, controls]
      exact connected.accept added valid fresh
  | control conn bytes isAdd member kind clientInfo connections accepted controls =>
      rw [connections, accepted, controls]
      exact connected.record member rfl rfl
  | disconnected conn member clientInfo connections accepted controls =>
      rw [connections, accepted, controls]
      exact connected.close _

end MsgRoute
end V2x
