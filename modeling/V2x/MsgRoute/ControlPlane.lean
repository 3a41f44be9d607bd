import V2x.MsgRoute.ClientSteps
import V2x.MsgRoute.Hops
import V2x.MsgRoute.Traffic

namespace V2x
namespace MsgRoute

open Foundations ThreadPool

/-!
# Control messages on their way

What the two subscription functions send is a control packet for the server,
with the application and the type of the call.  `ControlMove` says what a step
of the network does to the table of the server and to the packets on their way
to it.
-/

/-! ## The messages of the subscription functions -/

section Message

variable (sendBuf : MsgRouteDataInfo) (curAppId : Int32) (control : MsgRouteMsgType)
  (msgType : Int32)

/-- The header is what the function has put into it. -/
theorem controlMessage_header (address : Nat) (inside : address < 28) :
    controlMessage sendBuf curAppId control msgType address =
      (((sendBuf.setDataType MsgRouteDataType.notify.code).setMsgType control.code).setAppId
        curAppId) address := by
  unfold controlMessage MsgRouteDataInfo.setData MsgRouteDataInfo.setLen
  rw [Memory.storeBytes_outside _ _ _ _ (by unfold msgRouteHeadSize; omega),
    Memory.storeUInt32_outside _ _ _ _ (by omega)]

theorem msgType_controlMessage :
    (controlMessage sendBuf curAppId control msgType).msgType = control.code := by
  have same : forall address, 4 ≤ address -> address < 4 + 4 ->
      controlMessage sendBuf curAppId control msgType address =
        ((sendBuf.setDataType MsgRouteDataType.notify.code).setMsgType control.code) address := by
    intro address _ upper
    rw [controlMessage_header _ _ _ _ _ (by omega)]
    exact Memory.storeInt32_outside _ 12 address curAppId (by omega)
  exact (Memory.loadInt32_congr _ _ 4 same).trans (Memory.loadInt32_storeInt32_same _ 4 _)

theorem appId_controlMessage :
    (controlMessage sendBuf curAppId control msgType).appId = curAppId :=
  (Memory.loadInt32_congr _ _ 12 (fun address _ upper =>
    controlMessage_header _ _ _ _ address (by omega))).trans
    (Memory.loadInt32_storeInt32_same _ 12 _)

theorem len_controlMessage :
    (controlMessage sendBuf curAppId control msgType).len = 1 := by
  have same : forall address, 28 ≤ address -> address < 28 + 4 ->
      controlMessage sendBuf curAppId control msgType address =
        Memory.storeUInt32 (((sendBuf.setDataType MsgRouteDataType.notify.code).setMsgType
          control.code).setAppId curAppId) 28 1 address := by
    intro address _ upper
    unfold controlMessage MsgRouteDataInfo.setData MsgRouteDataInfo.setLen
    exact Memory.storeBytes_outside _ _ _ _ (by unfold msgRouteHeadSize; omega)
  exact (Memory.loadUInt32_congr _ _ 28 same).trans (Memory.loadUInt32_storeUInt32_same _ 28 _)

theorem data_controlMessage :
    (controlMessage sendBuf curAppId control msgType).data 0 = msgType.toUInt32.toUInt8 := by
  unfold controlMessage MsgRouteDataInfo.setData MsgRouteDataInfo.data
  exact Memory.storeBytes_inside _ _ 0 _ (by simp)

/-- A type is one byte on the wire. -/
theorem toNat_wireType (valid : isMsgType msgType = true) :
    msgType.toUInt32.toUInt8.toNat = msgType.toInt.toNat := by
  rcases (isMsgType_iff msgType).mp valid with ⟨low, high⟩
  have same : msgType = Int32.ofInt msgType.toInt := (Int32.ofInt_toInt msgType).symm
  generalize msgType.toInt = value at low high same
  rw [same]
  have cases : value = 0 ∨ value = 1 ∨ value = 2 ∨ value = 3 ∨ value = 4 ∨ value = 5 ∨ value = 6 := by
    omega
  rcases cases with rfl | rfl | rfl | rfl | rfl | rfl | rfl <;> rfl

end Message

/-- The packet is a control packet for the slot of the application and the type. -/
def IsControlFor (app type : Nat) (isAdd : Bool) (sent : List UInt8) : Prop :=
  packetKind (sent.take recvSize) = .control isAdd ∧ packetSlot (sent.take recvSize) = app ∧
    packetType (sent.take recvSize) = type

section Wire

variable {fd curAppId msgType : Int32} {sendBuf sendData : MsgRouteDataInfo}

/-- The message type that subscribes or unsubscribes. -/
def controlType (isAdd : Bool) : MsgRouteMsgType := if isAdd then .subscribe else .unsubscribe

theorem packetKind_control {bytes : List UInt8} {isAdd : Bool}
    (checked : passesLengthChecks bytes = true)
    (valid : isMsgRouteValidMsg (Memory.ofBytes bytes) = true)
    (isType : MsgRouteDataInfo.msgType (Memory.ofBytes bytes) = (controlType isAdd).code) :
    packetKind bytes = .control isAdd := by
  have header := ((passesLengthChecks_iff bytes).mp checked).1
  unfold packetKind
  rw [if_neg (by omega), if_neg (not_not.mpr checked), if_neg (not_not.mpr valid), isType]
  cases isAdd with
  | true => rfl
  | false => rfl

/-- A control message is a control packet when it arrives. -/
theorem isControlFor_sendMsg {isAdd : Bool} (isType : sendData.msgType = (controlType isAdd).code)
    (validApp : 0 ≤ sendData.appId.toInt ∧ sendData.appId.toInt < maxAppId)
    (fits : LenFits sendData) :
    IsControlFor sendData.slotIndex (sendData.data 0).toNat isAdd
      (msgRouteClientSendMsg fd sendData false).sendBytes := by
  have checked : passesLengthChecks (receivedPacket fd 0 sendData false).bytes = true :=
    receivedPacket_checked_iff.mpr fits
  have header := ((passesLengthChecks_iff _).mp checked).1
  have type := msgType_receivedPacket fd 0 sendData false
  have app : (receivedPacket fd 0 sendData false).header.appId = sendData.appId :=
    (appId_receivedPacket fd 0 sendData false).trans (if_neg Bool.false_ne_true)
  have data := data_receivedPacket fd 0 sendData false 0 header
  have valid : isMsgRouteValidMsg (receivedPacket fd 0 sendData false).header = true := by
    rw [isMsgRouteValidMsg_iff, type, app, isType]
    refine ⟨validApp, ?_⟩
    cases isAdd with
    | true => decide
    | false => decide
  have received : (msgRouteClientSendMsg fd sendData false).sendBytes.take recvSize =
      (receivedPacket fd 0 sendData false).bytes := by
    rw [receivedPacket]
  unfold Packet.header at type app data valid
  rw [IsControlFor, received, packetSlot, packetType, MsgRouteDataInfo.slotIndex, app, data]
  exact ⟨packetKind_control checked valid (type.trans isType), rfl, rfl⟩

/-- Both functions send a control message for the type whose entry they store. -/
theorem controlCall_spec {vars : ClientVars} {client : Nat} {label : NetLabel} {call : ControlCall}
    (isCall : controlCallOf vars client label = some call) :
    Exists fun msgType => Exists fun sendBuf => isMsgType msgType = true ∧
      call.index = msgType.toInt.toNat ∧
      call.sendData = controlMessage sendBuf vars.curAppId (controlType call.entry.rxFunc.isSome)
        msgType := by
  cases label with
  | subscribe other sendBuf subscribeInfo =>
      simp only [controlCallOf, msgRouteClientSubscribeMsg] at isCall
      split at isCall
      · split at isCall
        · cases isCall
        next typed =>
          split at isCall
          · cases isCall
          next hasFunc =>
            cases isCall
            refine ⟨subscribeInfo.msgType, sendBuf, not_not.mp typed, rfl, ?_⟩
            cases isFunc : subscribeInfo.rxFunc with
            | none =>
                rw [isFunc] at hasFunc
                exact absurd rfl hasFunc
            | some rxFunc => rfl
      · cases isCall
  | unsubscribe other sendBuf subscribeInfo =>
      simp only [controlCallOf, msgRouteClientUnsubscribeMsg] at isCall
      split at isCall
      · split at isCall
        · cases isCall
        next typed =>
          cases isCall
          exact ⟨subscribeInfo.msgType, sendBuf, not_not.mp typed, rfl, rfl⟩
      · cases isCall
  | _ => cases isCall

/-- A call sends a control packet for its application and type, and it stores a
callback exactly if it subscribes. -/
theorem controlCall_received (fd : Int32) {vars : ClientVars} {client : Nat} {label : NetLabel}
    {call : ControlCall} (isCall : controlCallOf vars client label = some call)
    (validApp : 0 ≤ vars.curAppId.toInt ∧ vars.curAppId.toInt < maxAppId) :
    call.index < msgRouteMaxMsg ∧
    IsControlFor vars.curAppId.toInt.toNat call.index call.entry.rxFunc.isSome
      (msgRouteClientSendMsg fd call.sendData false).sendBytes := by
  rcases controlCall_spec isCall with ⟨msgType, sendBuf, typed, index, isMessage⟩
  have range := (isMsgType_iff msgType).mp typed
  have app : call.sendData.appId = vars.curAppId := by rw [isMessage, appId_controlMessage]
  have type : call.sendData.msgType = (controlType call.entry.rxFunc.isSome).code := by
    rw [isMessage, msgType_controlMessage]
  have data : (call.sendData.data 0).toNat = call.index := by
    rw [isMessage, data_controlMessage, index]
    exact toNat_wireType msgType typed
  have fits : LenFits call.sendData := by
    rw [LenFits, isMessage, len_controlMessage]
    decide
  refine ⟨?_, ?_⟩
  · rw [index]
    unfold msgRouteMaxMsg
    omega
  · have received : IsControlFor call.sendData.slotIndex (call.sendData.data 0).toNat
        call.entry.rxFunc.isSome (msgRouteClientSendMsg fd call.sendData false).sendBytes :=
      isControlFor_sendMsg type (app ▸ validApp) fits
    rw [MsgRouteDataInfo.slotIndex, app, data] at received
    exact received

end Wire

/-! ## What a packet writes into a slot -/

/-- A control packet with these numbers writes no byte of the slot.  The type may
lie outside the array. -/
def LeavesSlot (app : Fin maxAppId) (slot type : Nat) : Prop :=
  slot ≠ app ∧
    (ClientInfoTable.msgFlagOffset slot type < ClientInfoTable.fdOffset app ∨
      ClientInfoTable.msgFlagOffset app msgRouteMaxMsg ≤ ClientInfoTable.msgFlagOffset slot type)

instance (app : Fin maxAppId) (slot type : Nat) : Decidable (LeavesSlot app slot type) :=
  inferInstanceAs (Decidable (_ ∧ _))

/-- A packet of this kind writes no byte of the slot. -/
def PacketKind.Spares (app : Fin maxAppId) (slot type : Nat) : PacketKind -> Prop
  | .control _ => LeavesSlot app slot type
  | .disconnect => True
  | .dropped => True
  | .routed => True

instance (app : Fin maxAppId) (slot type : Nat) : DecidablePred (PacketKind.Spares app slot type)
  | .control _ => inferInstanceAs (Decidable (LeavesSlot app slot type))
  | .disconnect => isTrue trivial
  | .dropped => isTrue trivial
  | .routed => isTrue trivial

/-- The server writes no byte of the slot when it receives this packet. -/
def Spares (app : Fin maxAppId) (sent : List UInt8) : Prop :=
  (packetKind (sent.take recvSize)).Spares app (packetSlot (sent.take recvSize))
    (packetType (sent.take recvSize))

instance (app : Fin maxAppId) (sent : List UInt8) : Decidable (Spares app sent) :=
  inferInstanceAs (Decidable (PacketKind.Spares app _ _ _))

section Slots

variable {state next : ServerState} {app : Fin maxAppId} {fd : Int32} {slot type : Nat}
  {isAdd : Bool}

/-- The other slots stay, and the flag of a type outside the array is none of theirs. -/
theorem table_control_other (change : ServerChange state next (.control fd slot type isAdd))
    (leaves : LeavesSlot app slot type) : next.table app = state.table app := by
  cases change with
  | control conn bytes isAdd member kind clientInfo connections accepted controls =>
      rw [ServerState.table, clientInfo]
      apply ClientInfoTable.slot_congr
      intro address lower upper
      unfold msgRouteCoreUpdateClientSubscribeInfo
      rw [packetSlot_eq, packetType_eq]
      rcases leaves with ⟨different, outside⟩
      unfold ClientInfoTable.msgFlagOffset ClientInfoTable.fdOffset clientInfoSize
        msgRouteMaxMsg at *
      rw [ClientInfoTable.setMsgFlag_outside]
      · split
        · apply ClientInfoTable.setFd_outside
          unfold ClientInfoTable.fdOffset clientInfoSize
          omega
        · rfl
      · unfold ClientInfoTable.msgFlagOffset clientInfoSize
        omega

theorem table_control_own (change : ServerChange state next (.control fd slot type isAdd))
    (own : slot = app) (small : type < msgRouteMaxMsg) :
    next.table app = (state.table app).control fd ⟨type, small⟩ isAdd := by
  cases change with
  | control conn bytes isAdd member kind clientInfo connections accepted controls =>
      have updated := view_msgRouteCoreUpdateClientSubscribeInfo state.clientInfo
        (packetMsg bytes conn.fd) isAdd app ⟨packetType bytes, small⟩
        ((packetSlot_eq bytes conn.fd).trans own) (packetType_eq bytes conn.fd)
      have sender : (packetMsg bytes conn.fd).src = conn.fd := MsgRouteDataInfo.src_setSrc _ _
      rw [ServerState.table, clientInfo, updated, sender, Function.update_self]
      rfl

/-- The end of a connection empties no slot of another one. -/
theorem table_close_other (connected : state.Connected)
    (change : ServerChange state next (.close fd)) (other : (state.table app).fd ≠ fd) :
    next.table app = state.table app := by
  cases change with
  | disconnected conn member clientInfo connections accepted controls =>
      rw [ServerState.table, clientInfo]
      rcases firstSlot_cases state.table conn.fd with absent | ⟨found, first⟩
      · rw [view_msgRouteCoreEraseClientInfo_absent state.clientInfo conn.fd absent]
        rfl
      · rw [view_msgRouteCoreEraseClientInfo_found state.clientInfo conn.fd found
          (ne_neg_one_of_valid (connected.fdsValid conn member)) first]
        apply Function.update_of_ne
        rintro rfl
        exact other first.1

theorem table_quiet (change : ServerChange state next .quiet) : next.table = state.table := by
  cases change with
  | quiet clientInfo _ _ _ => exact congrArg ClientInfoTable.view clientInfo

theorem table_accept (change : ServerChange state next (.accept fd)) : next.table = state.table := by
  cases change with
  | accepted clientFd added valid fresh clientInfo _ _ _ =>
      exact congrArg ClientInfoTable.view clientInfo

/-- A packet that spares the slot leaves it as it is, if it is not the end of the
connection that the slot belongs to. -/
theorem table_spared {sent : List UInt8} (connected : state.Connected)
    (change : ServerChange state next ((RecvResult.packet sent).kind fd))
    (spares : Spares app sent) (other : sent ≠ [] ∨ (state.table app).fd ≠ fd) :
    next.table app = state.table app := by
  unfold Spares at spares
  simp only [RecvResult.kind] at change
  cases kind : packetKind (sent.take recvSize) with
  | disconnect =>
      rw [kind] at change
      refine table_close_other connected change (other.resolve_left ?_)
      exact not_not.mpr (take_recvSize_eq_nil ((packetKind_eq_disconnect_iff _).mp kind))
  | dropped | routed =>
      rw [kind] at change
      exact congrFun (table_quiet change) app
  | control isAdd =>
      rw [kind] at change spares
      exact table_control_other change spares

theorem table_received {sent : List UInt8} (isControl : IsControlFor app type isAdd sent)
    (small : type < msgRouteMaxMsg)
    (change : ServerChange state next ((RecvResult.packet sent).kind fd)) :
    next.table app = (state.table app).control fd ⟨type, small⟩ isAdd := by
  rcases isControl with ⟨kind, isSlot, isType⟩
  simp only [RecvResult.kind, kind, isType] at change
  exact table_control_own change isSlot small

end Slots

/-! ## Steps of the network -/

/-- A step sends a message on a link: in `MsgRouteClientSendMsg`, or in the first
half of one of the two subscription functions. -/
structure Sends (state : NetState) (label : NetLabel) (client link : Nat)
    (sendData : MsgRouteDataInfo) (isBroadcast : Bool) : Prop where
  isLink : (state.clients client).link = some link
  isLabel : label = .send client sendData isBroadcast ∨ isBroadcast = false ∧
    Exists fun call => controlCallOf (state.clients client).vars client label = some call ∧
      sendData = call.sendData
  others : forall other vars, other ≠ client -> controlCallOf vars other label = none

/-- What a step does to the table of the server and to the packets on their way to it. -/
inductive ControlMove (state next : NetState) (label : NetLabel) : Prop where
  | quiet (noCall : forall client vars, controlCallOf vars client label = none)
      (up : upOf next.links = upOf state.links)
      (change : ServerChange state.route.server next.route.server .quiet)
  | sends (client link sent : Nat) (sendData : MsgRouteDataInfo) (isBroadcast : Bool)
      (isSend : Sends state label client link sendData isBroadcast)
      (up : upOf next.links = Function.update (upOf state.links) link (upOf state.links link ++
        [⟨(msgRouteClientSendMsg (state.clients client).vars.fd sendData isBroadcast).sendBytes,
          sent⟩]))
      (server : next.route.server = state.route.server)
  | accepts (fd : Int32) (noCall : forall client vars, controlCallOf vars client label = none)
      (up : upOf next.links = upOf state.links)
      (change : ServerChange state.route.server next.route.server (.accept fd))
  | receives (fd : Int32) (conn : Connection) (packet : UpPacket) (rest : List UpPacket)
      (isLabel : label = .recv fd false)
      (watched : state.route.server.watchedConnection fd = some conn)
      (first : upOf state.links conn.id = packet :: rest)
      (up : upOf next.links = Function.update (upOf state.links) conn.id rest)
      (change : ServerChange state.route.server next.route.server
        ((RecvResult.packet packet.bytes).kind fd))
  | ends (conn : Connection) (noCall : forall client vars, controlCallOf vars client label = none)
      (member : conn ∈ state.route.server.connections) (closed : isOpen state.links conn.id = false)
      (up : upOf next.links = upOf state.links)
      (change : ServerChange state.route.server next.route.server (.close conn.fd))

section Moves

variable {state next : NetState} {label : NetLabel}

/-- A step that leaves the server alone and what is on its way to it. -/
theorem ControlMove.ofSame (noCall : forall client vars, controlCallOf vars client label = none)
    (up : upOf next.links = upOf state.links)
    (server : next.route.server = state.route.server) : ControlMove state next label := by
  refine ControlMove.quiet noCall up ?_
  rw [server]
  exact .quiet rfl rfl rfl rfl

theorem send_controlMove {client : Nat} {sendData : MsgRouteDataInfo} {isBroadcast : Bool}
    {middle : NetState} (stepped : sendStep state client sendData isBroadcast = some middle)
    (links : next.links = middle.links) (route : next.route = middle.route)
    (isLabel : label = .send client sendData isBroadcast ∨ isBroadcast = false ∧
      Exists fun call => controlCallOf (state.clients client).vars client label = some call ∧
        sendData = call.sendData)
    (others : forall other vars, other ≠ client -> controlCallOf vars other label = none) :
    ControlMove state next label := by
  rcases Option.bind_eq_some_iff.mp stepped with ⟨link, isLink, rest⟩
  rcases Option.bind_eq_some_iff.mp rest with ⟨ends, isEnds, isMiddle⟩
  cases isMiddle
  refine ControlMove.sends client link state.sent.length sendData isBroadcast
    ⟨isLink, isLabel, others⟩ ?_ (congrArg RouteState.server route)
  rw [links, upOf_eq isEnds]
  exact upOf_set isEnds _

theorem control_controlMove {client : Nat} {call : Option ControlCall}
    (stepped : controlStep state client call = some next)
    (isCall : controlCallOf (state.clients client).vars client label = call)
    (others : forall other vars, other ≠ client -> controlCallOf vars other label = none) :
    ControlMove state next label := by
  rcases Option.bind_eq_some_iff.mp stepped with ⟨made, isMade, rest⟩
  rcases Option.bind_eq_some_iff.mp rest with ⟨middle, sent, isNext⟩
  cases isNext
  exact send_controlMove sent rfl rfl (Or.inr ⟨rfl, made, isCall.trans isMade, rfl⟩) others

/-- The epoll thread takes a packet or finds the end of a connection. -/
theorem recv_controlMove {fd : Int32} {failed : Bool}
    (stepped : recvNet state fd failed = some next) :
    ControlMove state next (.recv fd failed) := by
  unfold recvNet at stepped
  split at stepped
  · rcases event_serverChange stepped with ⟨links, change⟩
    exact ControlMove.quiet (fun _ _ => rfl) (by rw [links]) change
  next notFailed =>
    have isLabel : NetLabel.recv fd failed = .recv fd false := by
      rw [Bool.eq_false_iff.mpr notFailed]
    rcases Option.bind_eq_some_iff.mp stepped with ⟨conn, watched, rest⟩
    rcases Option.bind_eq_some_iff.mp rest with ⟨ends, isEnds, handled⟩
    split at handled
    next packet others uplink =>
      rcases event_serverChange handled with ⟨links, change⟩
      refine ControlMove.receives fd conn packet others isLabel watched
        ((upOf_eq isEnds).trans uplink) ?_ change
      rw [links]
      exact upOf_set isEnds _
    next =>
      split at handled
      · cases handled
      next notOpen =>
        rcases event_serverChange handled with ⟨links, change⟩
        rcases watchedConnection_spec watched with ⟨member, rfl, _⟩
        refine ControlMove.ends conn (fun _ _ => rfl) member ?_ (by rw [links]) change
        rw [isOpen, isEnds]
        exact Bool.eq_false_iff.mpr notOpen

theorem netStep_controlMove (stepped : netStep state label = some next) :
    ControlMove state next label := by
  cases label with
  | init client appId fd threadRet recvBuf =>
      have route := route_clients stepped trivial
      refine ControlMove.ofSame (fun _ _ => rfl) ?_ (congrArg RouteState.server route)
      simp only [netStep, initStep] at stepped
      split at stepped
      · cases stepped
      · cases stepped
        apply upOf_append
        intro ends member
        split at member
        · rw [List.mem_singleton.mp member]
        · exact absurd member List.not_mem_nil
  | deinit client =>
      cases stepped
      exact ControlMove.ofSame (fun _ _ => rfl) (upOf_closeLink _ _) rfl
  | send client sendData isBroadcast =>
      exact send_controlMove stepped rfl rfl (Or.inl rfl) (fun _ _ _ => rfl)
  | subscribe client sendBuf subscribeInfo | unsubscribe client sendBuf subscribeInfo =>
      exact control_controlMove stepped (if_pos rfl) fun other vars different =>
        if_neg (Ne.symm different)
  | store client index =>
      rcases Option.map_eq_some_iff.mp stepped with ⟨call, _, rfl⟩
      exact ControlMove.ofSame (fun _ _ => rfl) rfl rfl
  | rx client thread failed =>
      rcases rx_keeps stepped with ⟨route, up⟩
      exact ControlMove.ofSame (fun _ _ => rfl) up (congrArg RouteState.server route)
  | accept clientFd added =>
      simp only [netStep, acceptNet] at stepped
      split at stepped
      · rcases event_serverChange stepped with ⟨links, change⟩
        exact ControlMove.accepts clientFd (fun _ _ => rfl) (by rw [links]) change
      · cases stepped
  | recv clientFd failed => exact recv_controlMove stepped
  | core moved =>
      rcases core_serverChange stepped with ⟨links, _, change⟩
      exact ControlMove.quiet (fun _ _ => rfl) (by rw [links]) change
  | job thread =>
      rcases Option.bind_eq_some_iff.mp stepped with ⟨⟨run, frame, calls⟩, isMove, rest⟩
      rcases Option.bind_eq_some_iff.mp rest with ⟨route, moved, isNext⟩
      cases isNext
      exact ControlMove.ofSame (fun _ _ => rfl) (upOf_deliverAll _ _) (jobEffect isMove moved).1

end Moves

end MsgRoute
end V2x
