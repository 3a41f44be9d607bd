import V2x.MsgRoute.Agreement
import V2x.MsgRoute.BrokerView

namespace V2x
namespace MsgRoute

open Foundations ThreadPool

/-!
# The application that a link speaks for

The broker of `BrokerView` asks for connections that speak for one application
each.  A client sees to this itself, whatever it does with the library: it
changes its application only together with its link.  Two things are left to
ask of the processes: that they subscribe with the two functions that the
library has for it, and that an application is not on two open connections at a
time.
-/

namespace NetState

variable (state : NetState)

/-- What the epoll thread receives next from this descriptor. -/
def nextPacket (fd : Int32) : List UInt8 :=
  ((state.route.server.watchedConnection fd).bind (fun conn =>
    (upOf state.links conn.id).head?)).elim [] UpPacket.bytes

theorem nextPacket_cases (fd : Int32) :
    state.nextPacket fd = [] ∨ Exists fun conn => Exists fun packet =>
      state.route.server.watchedConnection fd = some conn ∧
      (upOf state.links conn.id).head? = some packet ∧ state.nextPacket fd = packet.bytes := by
  unfold nextPacket
  cases watched : state.route.server.watchedConnection fd with
  | none => exact Or.inl rfl
  | some conn =>
      rw [Option.bind_some]
      cases first : (upOf state.links conn.id).head? with
      | none => exact Or.inl rfl
      | some packet => exact Or.inr ⟨conn, packet, rfl, first, rfl⟩

/-- What a step of the network is for the server. -/
def eventKind : NetLabel -> EventKind
  | .accept clientFd _ => .accept clientFd
  | .recv clientFd false => (RecvResult.packet (state.nextPacket clientFd)).kind clientFd
  | _ => .quiet

end NetState

/-- No other open connection has spoken for the application. -/
def ServerState.Unclaimed (state : ServerState) : EventKind -> Prop
  | .control fd slot _ _ => forall conn, conn ∈ state.connections -> forall record,
      record ∈ state.controls -> record.conn = conn.id -> record.slot = slot -> conn.fd = fd
  | .accept _ | .close _ | .quiet => True

instance (state : ServerState) : DecidablePred state.Unclaimed
  | .control fd slot _ _ => inferInstanceAs (Decidable (forall conn, conn ∈ state.connections ->
      forall record, record ∈ state.controls -> record.conn = conn.id -> record.slot = slot ->
        conn.fd = fd))
  | .accept _ | .close _ | .quiet => isTrue trivial

/-- The message is not one of those that the two subscription functions send. -/
def SendsNoControl : NetLabel -> Prop
  | .send _ sendData _ => forall isAdd, sendData.msgType ≠ (controlType isAdd).code
  | _ => True

instance : DecidablePred SendsNoControl
  | .send _ sendData _ =>
      inferInstanceAs (Decidable (forall isAdd, sendData.msgType ≠ (controlType isAdd).code))
  | .init _ _ _ _ _ | .deinit _ | .subscribe _ _ _ | .unsubscribe _ _ _ | .store _ _ | .rx _ _ _
  | .accept _ _ | .recv _ _ | .core _ | .job _ => isTrue trivial

/-- What is asked of the processes that use the library. -/
def Orderly (state : NetState) (label : NetLabel) : Prop :=
  SendsNoControl label ∧ state.route.server.Unclaimed (state.eventKind label)

instance (state : NetState) (label : NetLabel) : Decidable (Orderly state label) :=
  inferInstanceAs (Decidable (_ ∧ _))

/-! ## A link speaks for one application -/

/-- The applications that a link speaks for: in the packets that the server has
handled, in those on their way, and in the client that sends on it. -/
inductive NetState.SpeaksFor (state : NetState) (link : Nat) : Nat -> Prop where
  | handled (record : ControlRecord) (member : record ∈ state.route.server.controls)
      (conn : record.conn = link) : SpeaksFor state link record.slot
  | sent (packet : UpPacket) (isAdd : Bool) (member : packet ∈ upOf state.links link)
      (kind : packetKind (packet.bytes.take recvSize) = .control isAdd) :
      SpeaksFor state link (packetSlot (packet.bytes.take recvSize))
  | client (client : Nat) (isLink : (state.clients client).link = some link) :
      SpeaksFor state link (state.clients client).vars.curAppId.toInt.toNat

structure OneName (state : NetState) : Prop where
  connected : state.route.server.Connected
  cover : state.LinksCover
  exclusive : Exclusive state
  apps : forall client, 0 ≤ (state.clients client).vars.curAppId.toInt ∧
    (state.clients client).vars.curAppId.toInt < maxAppId
  typed : forall link packet isAdd, packet ∈ upOf state.links link ->
    packetKind (packet.bytes.take recvSize) = .control isAdd ->
    packetType (packet.bytes.take recvSize) < msgRouteMaxMsg
  single : forall link first second, state.SpeaksFor link first -> state.SpeaksFor link second ->
    first = second

/-! ### What a step does to the clients -/

section Clients

variable {state next : NetState} {label : NetLabel}

theorem curAppId_msgRouteClientInit {vars : ClientVars} {appId fd : Int32} {threadRet : Int}
    (inRange : 0 ≤ vars.curAppId.toInt ∧ vars.curAppId.toInt < maxAppId) :
    0 ≤ (msgRouteClientInit vars appId (some fd) threadRet).vars.curAppId.toInt ∧
      (msgRouteClientInit vars appId (some fd) threadRet).vars.curAppId.toInt < maxAppId := by
  unfold msgRouteClientInit
  split
  · exact inRange
  next valid =>
    have zero : MsgRouteClientId.allAppId.code.toInt = 0 := rfl
    have three : (Int32.ofNat maxAppId).toInt = maxAppId := rfl
    rw [not_or, Int32.le_iff_toInt_le, Int32.le_iff_toInt_le, zero, three, not_le, not_le] at valid
    have inside : 0 ≤ appId.toInt ∧ appId.toInt < maxAppId := ⟨Int.le_of_lt valid.1, valid.2⟩
    split
    · exact inRange
    · simp only
      split
      · exact inRange
      · exact inside

theorem apps_step (stepped : netStep state label = some next) {client : Nat}
    (inRange : 0 ≤ (state.clients client).vars.curAppId.toInt ∧
      (state.clients client).vars.curAppId.toInt < maxAppId) :
    0 ≤ (next.clients client).vars.curAppId.toInt ∧
      (next.clients client).vars.curAppId.toInt < maxAppId := by
  have step := clientStep client stepped
  generalize next.clients client = after at step
  cases step with
  | init => exact curAppId_msgRouteClientInit inRange
  | deinit =>
      have zero : (0 : Int) < maxAppId := by decide
      exact ⟨Int.le_refl 0, zero⟩
  | same | control | store | moves | disconnected => exact inRange

/-- A call of `MsgRouteClientInit` that opens no connection changes nothing. -/
theorem vars_of_not_connected {vars : ClientVars} {appId fd : Int32} {threadRet : Int}
    (closed : ¬ (msgRouteClientInit vars appId (some fd) threadRet).connected = true) :
    (msgRouteClientInit vars appId (some fd) threadRet).vars = vars := by
  unfold msgRouteClientInit at closed ⊢
  split
  · rfl
  next valid =>
    rw [if_neg valid] at closed
    split
    · rfl
    next first =>
      rw [if_neg first] at closed
      simp only at closed
      split at closed
      · exact absurd rfl closed
      · exact absurd rfl closed

/-- A client changes its application only together with its link. -/
theorem link_step (stepped : netStep state label = some next) {client link : Nat}
    (isLink : (next.clients client).link = some link) :
    (state.clients client).link = some link ∧
      (next.clients client).vars.curAppId = (state.clients client).vars.curAppId ∨
    link = state.links.length := by
  by_cases isInit : Exists fun appId => Exists fun fd => Exists fun threadRet =>
    Exists fun recvBuf => label = .init client appId fd threadRet recvBuf
  · rcases isInit with ⟨appId, fd, threadRet, recvBuf, rfl⟩
    simp only [netStep, initStep] at stepped
    split at stepped
    · cases stepped
    · cases stepped
      change (Function.update state.clients client _ client).link = some link at isLink
      change _ ∧ (Function.update state.clients client _ client).vars.curAppId = _ ∨ _
      rw [Function.update_self] at isLink ⊢
      simp only at isLink
      split at isLink
      next => exact Or.inr (Option.some.inj isLink).symm
      next closed => exact Or.inl ⟨isLink, congrArg ClientVars.curAppId (vars_of_not_connected closed)⟩
  · have step := clientStep client stepped
    generalize next.clients client = after at step isLink
    cases step with
    | init appId fd threadRet recvBuf _ _ isLabel =>
        exact absurd ⟨appId, fd, threadRet, recvBuf, isLabel⟩ isInit
    | deinit | disconnected => cases isLink
    | same | control | store | moves => exact Or.inl ⟨isLink, rfl⟩

end Clients

/-! ### What a step does to the links and to the server -/

section Links

variable {state next : NetState} {label : NetLabel}

theorem msgType_of_control {bytes : List UInt8} {isAdd : Bool}
    (kind : packetKind bytes = .control isAdd) :
    MsgRouteDataInfo.msgType (Memory.ofBytes bytes) = (controlType isAdd).code := by
  unfold packetKind at kind
  split at kind
  · cases kind
  · split at kind
    · cases kind
    · split at kind
      · cases kind
      · split at kind
        next isType =>
          cases kind
          exact isType
        next =>
          split at kind
          next isType =>
            cases kind
            exact isType
          next => cases kind

/-- Only control messages arrive as control packets. -/
theorem not_control_of_msgType {fd : Int32} {sendData : MsgRouteDataInfo} {isBroadcast : Bool}
    (noControl : forall isAdd, sendData.msgType ≠ (controlType isAdd).code) (isAdd : Bool) :
    packetKind ((msgRouteClientSendMsg fd sendData isBroadcast).sendBytes.take recvSize) ≠
      .control isAdd := by
  intro kind
  have received : (receivedPacket fd 0 sendData isBroadcast).header.msgType =
      (controlType isAdd).code := msgType_of_control kind
  rw [msgType_receivedPacket] at received
  exact noControl isAdd received

/-- A packet that a step has put on a link is a control packet only if it is the request of the
client that sends there. -/
theorem mem_upOf_step (one : OneName state) (orderly : Orderly state label)
    (stepped : netStep state label = some next) {link : Nat} {packet : UpPacket}
    (member : packet ∈ upOf next.links link) :
    packet ∈ upOf state.links link ∨ Exists fun client =>
      (state.clients client).link = some link ∧
      forall isAdd, packetKind (packet.bytes.take recvSize) = .control isAdd ->
        packetSlot (packet.bytes.take recvSize) =
          (state.clients client).vars.curAppId.toInt.toNat ∧
        packetType (packet.bytes.take recvSize) < msgRouteMaxMsg := by
  cases netStep_controlMove stepped with
  | quiet _ up _ | accepts _ _ up _ | ends _ _ _ _ up _ => exact Or.inl (up ▸ member)
  | receives fd conn first rest _ _ isFirst up _ =>
      rw [up, Function.update_apply] at member
      split at member
      next same =>
        subst same
        exact Or.inl (isFirst ▸ List.mem_cons_of_mem _ member)
      next => exact Or.inl member
  | sends client number sent sendData isBroadcast isSend up _ =>
      rw [up, Function.update_apply] at member
      split at member
      next same =>
        subst same
        rcases List.mem_append.mp member with old | new
        · exact Or.inl old
        · rw [List.mem_singleton.mp new]
          refine Or.inr ⟨client, isSend.isLink, fun isAdd kind => ?_⟩
          rcases isSend.isLabel with rfl | ⟨rfl, call, isCall, rfl⟩
          · exact absurd kind (not_control_of_msgType orderly.1 isAdd)
          · rcases controlCall_received (state.clients client).vars.fd isCall (one.apps client) with
              ⟨small, _, isSlot, isType⟩
            exact ⟨isSlot, isType ▸ small⟩
      next => exact Or.inl member

theorem controls_of_serverChange {before after : ServerState} {kind : EventKind}
    (change : ServerChange before after kind) {record : ControlRecord}
    (member : record ∈ after.controls) :
    record ∈ before.controls ∨ Exists fun conn => Exists fun type => Exists fun isAdd =>
      conn ∈ before.connections ∧ record.conn = conn.id ∧
      kind = .control conn.fd record.slot type isAdd := by
  cases change with
  | quiet _ _ _ controls | accepted _ _ _ _ _ _ _ controls | disconnected _ _ _ _ _ controls =>
      exact Or.inl (controls ▸ member)
  | control conn bytes isAdd isConn _ _ _ _ controls =>
      rw [controls] at member
      rcases List.mem_append.mp member with old | new
      · exact Or.inl old
      · rw [List.mem_singleton.mp new]
        exact Or.inr ⟨conn, packetType bytes, isAdd, isConn, rfl, rfl⟩

/-- The control event that a received packet is. -/
theorem kind_eq_control {fd other : Int32} {sent : List UInt8} {slot type : Nat} {isAdd : Bool}
    (isKind : (RecvResult.packet sent).kind fd = .control other slot type isAdd) :
    fd = other ∧ packetKind (sent.take recvSize) = .control isAdd ∧
      packetSlot (sent.take recvSize) = slot ∧ packetType (sent.take recvSize) = type := by
  simp only [RecvResult.kind] at isKind
  split at isKind
  next => cases isKind
  next kind =>
    cases isKind
    exact ⟨rfl, kind, rfl, rfl⟩
  next => cases isKind
  next => cases isKind

/-- What the server has handled was on the link. -/
theorem mem_controls_step (one : OneName state) (stepped : netStep state label = some next)
    {record : ControlRecord} (member : record ∈ next.route.server.controls) :
    record ∈ state.route.server.controls ∨ Exists fun packet => Exists fun isAdd =>
      packet ∈ upOf state.links record.conn ∧
      packetKind (packet.bytes.take recvSize) = .control isAdd ∧
      packetSlot (packet.bytes.take recvSize) = record.slot := by
  cases netStep_controlMove stepped with
  | sends _ _ _ _ _ _ _ server => exact Or.inl (server ▸ member)
  | quiet _ _ change | accepts _ _ _ change | ends _ _ _ _ _ change =>
      rcases controls_of_serverChange change member with old | ⟨_, _, _, _, _, isKind⟩
      · exact Or.inl old
      · cases isKind
  | receives fd conn packet rest _ watched isFirst _ change =>
      rcases controls_of_serverChange change member with old | ⟨other, type, isAdd, isConn, same, isKind⟩
      · exact Or.inl old
      · rcases kind_eq_control isKind with ⟨sameFd, kind, isSlot, _⟩
        rcases watchedConnection_spec watched with ⟨isWatched, isFd, _⟩
        have isSame := one.connected.fdsDistinct conn isWatched other isConn (isFd.trans sameFd)
        refine Or.inr ⟨packet, isAdd, ?_, kind, isSlot⟩
        rw [same, ← isSame, isFirst]
        exact List.mem_cons_self

end Links

/-! ### Steps of orderly processes -/

namespace OneName

section Steps

variable {state next : NetState} {label : NetLabel}

/-- A link that nobody has opened speaks for nobody. -/
theorem not_speaksFor_new (one : OneName state) {slot : Nat} :
    ¬ state.SpeaksFor state.links.length slot := by
  intro speaks
  cases speaks with
  | handled record member conn =>
      have below := one.connected.recordsBelow record member
      rw [conn] at below
      exact absurd one.cover (not_le.mpr below)
  | sent packet isAdd member kind =>
      rw [upOf, List.getElem?_eq_none (Nat.le_refl _)] at member
      exact absurd member List.not_mem_nil
  | client client isLink =>
      exact absurd (one.exclusive.inside client _ (Or.inl isLink)) (Nat.lt_irrefl _)

/-- A step makes a link speak for no other application, except for the link that it opens. -/
theorem speaksFor_step (one : OneName state) (orderly : Orderly state label)
    (stepped : netStep state label = some next) {link slot : Nat} (speaks : next.SpeaksFor link slot) :
    state.SpeaksFor link slot ∨ link = state.links.length ∧ Exists fun client =>
      (next.clients client).link = some link ∧
      slot = (next.clients client).vars.curAppId.toInt.toNat := by
  cases speaks with
  | handled record member conn =>
      rcases mem_controls_step one stepped member with old | ⟨packet, isAdd, onLink, kind, isSlot⟩
      · exact Or.inl (.handled record old conn)
      · rw [conn] at onLink
        exact Or.inl (isSlot ▸ .sent packet isAdd onLink kind)
  | sent packet isAdd member kind =>
      rcases mem_upOf_step one orderly stepped member with old | ⟨client, isLink, isRequest⟩
      · exact Or.inl (.sent packet isAdd old kind)
      · rw [(isRequest isAdd kind).1]
        exact Or.inl (.client client isLink)
  | client client isLink =>
      rcases link_step stepped isLink with ⟨wasLink, sameApp⟩ | isNew
      · rw [sameApp]
        exact Or.inl (.client client wasLink)
      · exact Or.inr ⟨isNew, client, isLink, rfl⟩

theorem step (one : OneName state) (orderly : Orderly state label)
    (stepped : netStep state label = some next) : OneName next := by
  have exclusive := exclusive_step one.exclusive stepped
  refine ⟨connected_netStep one.connected stepped, linksCover_step one.cover stepped, exclusive,
    fun client => apps_step stepped (one.apps client), ?_, ?_⟩
  · intro link packet isAdd member kind
    rcases mem_upOf_step one orderly stepped member with old | ⟨_, _, isRequest⟩
    · exact one.typed link packet isAdd old kind
    · exact (isRequest isAdd kind).2
  · intro link first second speaksFirst speaksSecond
    rcases one.speaksFor_step orderly stepped speaksFirst with old | ⟨isNew, client, isLink, rfl⟩
    · rcases one.speaksFor_step orderly stepped speaksSecond with oldToo | ⟨isNew, _⟩
      · exact one.single link first second old oldToo
      · exact absurd (isNew ▸ old) one.not_speaksFor_new
    · rcases one.speaksFor_step orderly stepped speaksSecond with old | ⟨_, other, isLinkToo, rfl⟩
      · exact absurd (isNew ▸ old) one.not_speaksFor_new
      · rw [exclusive.single client other link (Or.inl isLink) (Or.inl isLinkToo)]

/-- A control event is the first packet on the link of its connection. -/
theorem eventKind_control {fd : Int32} {slot type : Nat} {isAdd : Bool}
    (isKind : state.eventKind label = .control fd slot type isAdd) :
    Exists fun conn => Exists fun packet => conn ∈ state.route.server.connections ∧ conn.fd = fd ∧
      packet ∈ upOf state.links conn.id ∧
      packetKind (packet.bytes.take recvSize) = .control isAdd ∧
      packetSlot (packet.bytes.take recvSize) = slot ∧
      packetType (packet.bytes.take recvSize) = type := by
  cases label with
  | recv clientFd failed =>
      cases failed with
      | true => cases isKind
      | false =>
          rcases kind_eq_control isKind with ⟨rfl, kind, isSlot, isType⟩
          rcases state.nextPacket_cases clientFd with empty | ⟨conn, packet, watched, first, isNext⟩
          · rw [empty, List.take_nil, (packetKind_eq_disconnect_iff []).mpr rfl] at kind
            cases kind
          · rw [isNext] at kind isSlot isType
            rcases watchedConnection_spec watched with ⟨member, isFd, _⟩
            exact ⟨conn, packet, member, isFd, List.mem_of_mem_head? first, kind, isSlot, isType⟩
  | _ => cases isKind

/-- Each open connection has its application for itself when the server handles a request. -/
theorem dedicated (one : OneName state) (orderly : Orderly state label) :
    state.route.server.Dedicated (state.eventKind label) := by
  have unclaimed := orderly.2
  cases isKind : state.eventKind label with
  | control fd slot type isAdd =>
      rw [isKind] at unclaimed
      rcases eventKind_control isKind with ⟨conn, packet, member, rfl, onLink, kind, rfl, rfl⟩
      refine ⟨one.typed conn.id packet isAdd onLink kind, ?_⟩
      intro other otherMember record recorded isOther
      refine ⟨unclaimed other otherMember record recorded isOther, fun sameFd => ?_⟩
      rw [one.connected.fdsDistinct other otherMember conn member sameFd] at isOther
      exact one.single conn.id _ _ (.handled record recorded isOther) (.sent packet isAdd onLink kind)
  | accept | close | quiet => exact trivial

end Steps

end OneName

end MsgRoute
end V2x
