import V2x.MsgRoute.Answer
import V2x.MsgRoute.Hops
import V2x.MsgRoute.SendOrder
import V2x.MsgRoute.Traffic

namespace V2x
namespace MsgRoute

open Foundations ThreadPool

/-!
# Following a message

`Traced` says where everything under way comes from: a packet for a client, a
packet in a receive buffer and the argument of a callback have been sent by a
job, and a message that has been sent is in its link or has arrived.  `Follows`
goes the other way, for the message of one call of `MsgRouteClientSendMsg` and
one client that keeps its callback: what has been sent to the client's link is
still there, or in a receive buffer of the client, or its callback has been
called.
-/

/-- The call of `MsgRouteClientSendMsg` whose message a job routes. -/
def NetState.messageOf (state : NetState) (serial : Nat) : Option Nat :=
  (state.arrivalOf serial).map Arrival.sent

/-- A receive buffer holds what a job has sent. -/
def Received (deliveries : List Delivery) (serial : Nat) (recvBuf : Memory) (recvByte : Nat) :
    Prop :=
  Exists fun delivery => delivery ∈ deliveries ∧ delivery.serial = serial ∧
    Exists fun old => recvBuf = Memory.storeBytes old 0 (delivery.call.bytes.take recvSize) ∧
      recvByte = (delivery.call.bytes.take recvSize).length

structure Traced (state : NetState) : Prop where
  down : forall link packet, packet ∈ downOf state.links link -> Exists fun delivery =>
    delivery ∈ state.deliveries ∧ delivery.serial = packet.serial ∧
    delivery.call.bytes = packet.bytes
  handled : forall client rx recvByte serial, rx ∈ (state.clients client).rx ->
    rx.pc = .handle recvByte serial -> Received state.deliveries serial rx.recvBuf recvByte
  called : forall record, record ∈ state.callbacks -> Exists fun recvByte =>
    Received state.deliveries record.serial record.msgData recvByte
  sent : forall index msg, state.sent[index]? = some msg ->
    (Exists fun packet => packet ∈ upOf state.links msg.link ∧ packet.sent = index) ∨
    (packetKind (msg.bytes.take recvSize) = .routed ->
      Exists fun arrival => arrival ∈ state.arrivals ∧ arrival.sent = index)

/-! ## The bytes of a delivery -/

section Bytes

variable {state : NetState}

/-- What arrives is the message as it was sent, cut off at the size of the buffer. -/
theorem ArrivalOk.isPacket {id : Nat} {arrival : Arrival} {packet : Packet} {msg : SentMsg}
    (ok : ArrivalOk state id arrival packet msg) :
    packet = ⟨msg.bytes.take recvSize, arrival.conn.fd⟩ := by
  cases packet
  rw [Packet.mk.injEq]
  exact ⟨ok.bytes, ok.fd⟩

/-- A job sends its packet and nothing else. -/
theorem NetInv.delivery_bytes (inv : NetInv state) {delivery : Delivery}
    (member : delivery ∈ state.deliveries) :
    Exists fun id => Exists fun arrival => Exists fun packet => Exists fun msg =>
      state.arrivalOf delivery.serial = some arrival ∧ ArrivalOk state id arrival packet msg ∧
      packetKind packet.bytes = .routed ∧ delivery.call.bytes = packet.routed := by
  rcases (inv.deliveries delivery member).apart with ⟨arrival, isArrival, _⟩
  rcases Option.bind_eq_some_iff.mp isArrival with ⟨id, isId, atId⟩
  rcases inv.arrivals id arrival atId with ⟨packet, msg, ok⟩
  have kind := inv.route.kinds packet (List.mem_of_getElem? ok.received)
  refine ⟨id, arrival, packet, msg, isArrival, ok, kind, ?_⟩
  rcases inv.sends.known delivery member with ⟨run, executed, isSerial⟩
  have isPacket : state.route.packetOf run.serial = some packet := by
    rw [isSerial]
    exact Option.bind_eq_some_iff.mpr ⟨id, isId, ok.received⟩
  have sends : delivery.call ∈ run.sends := by
    rw [← inv.sends.made run executed]
    apply List.mem_map_of_mem
    exact List.mem_filter.mpr ⟨member, decide_eq_true isSerial.symm⟩
  by_cases isAnswer : packet.msg.dataType = MsgRouteDataType.answer.code
  · have answers := inv.route.correct.answers run packet executed isPacket isAnswer
    rw [answers.sends_eq (List.ne_nil_of_mem sends)] at sends
    rw [List.mem_singleton.mp sends]
    exact copy_msg kind
  · have correct := inv.route.correct.correct run packet executed isPacket isAnswer
    exact (correct.calls.calls delivery.call sends).2.trans (copy_msg kind)

end Bytes

/-! ## What is under way has been sent -/

section Tracing

variable {state next : NetState} {label : NetLabel}

theorem mem_upOf {links : List Link} {link : Nat} {packet : UpPacket}
    (member : packet ∈ upOf links link) : Exists fun ends =>
      links[link]? = some ends ∧ packet ∈ ends.uplink := by
  unfold upOf at member
  cases isLink : links[link]? with
  | none =>
      rw [isLink] at member
      exact absurd member List.not_mem_nil
  | some ends =>
      rw [isLink] at member
      exact ⟨ends, rfl, member⟩

/-- What a job sends is added to what is under way. -/
theorem mem_foldl_addTo {made : List Delivery} {down : Nat -> List DownPacket} {link : Nat}
    {packet : DownPacket} :
    packet ∈ made.foldl Delivery.addTo down link <-> packet ∈ down link ∨
      Exists fun delivery => delivery ∈ made ∧ delivery.reached = some link ∧
        packet = ⟨delivery.call.bytes, delivery.serial⟩ := by
  induction made generalizing down with
  | nil => simp
  | cons delivery made inductionHypothesis =>
      rw [List.foldl_cons, inductionHypothesis]
      have front : packet ∈ delivery.addTo down link <-> packet ∈ down link ∨
          delivery.reached = some link ∧ packet = ⟨delivery.call.bytes, delivery.serial⟩ := by
        cases reached : delivery.reached with
        | none => simp [Delivery.addTo, reached]
        | some number =>
            simp only [Delivery.addTo, reached, Option.some.injEq]
            by_cases same : number = link
            · subst same
              rw [Function.update_self, List.mem_append, List.mem_singleton]
              simp
            · rw [Function.update_of_ne (Ne.symm same)]
              simp [same]
      rw [front]
      simp only [List.mem_cons, exists_eq_or_imp, or_assoc]

theorem Received.mono {deliveries later : List Delivery} {serial recvByte : Nat} {recvBuf : Memory}
    (received : Received deliveries serial recvBuf recvByte)
    (grows : forall delivery, delivery ∈ deliveries -> delivery ∈ later) :
    Received later serial recvBuf recvByte := by
  rcases received with ⟨delivery, member, isSerial, holds⟩
  exact ⟨delivery, grows delivery member, isSerial, holds⟩

/-- Records and threads of a step that touches no client. -/
theorem Traced.keep (traced : Traced state) (down : downOf next.links = downOf state.links)
    (deliveries : next.deliveries = state.deliveries) (callbacks : next.callbacks = state.callbacks)
    (handles : forall client rx, next.Handles client rx <-> state.Handles client rx)
    (sent : forall index msg, next.sent[index]? = some msg ->
      (Exists fun packet => packet ∈ upOf next.links msg.link ∧ packet.sent = index) ∨
      (packetKind (msg.bytes.take recvSize) = .routed ->
        Exists fun arrival => arrival ∈ next.arrivals ∧ arrival.sent = index)) :
    Traced next where
  down := by
    rw [down, deliveries]
    exact traced.down
  handled := by
    intro client rx recvByte serial member isPc
    rw [deliveries]
    have busy : rx.pc.isHandle = true := by rw [isPc]; rfl
    exact traced.handled client rx recvByte serial ((handles client rx).mp ⟨member, busy⟩).1 isPc
  called := by
    rw [callbacks, deliveries]
    exact traced.called
  sent := sent

theorem traced_step (inv : NetInv state) (traced : Traced state)
    (move : NetMove state next label) : Traced next := by
  cases move with
  | quiet same handles =>
      have up : upOf next.links = upOf state.links := congrArg Traffic.up same
      have sent : next.sent = state.sent := congrArg Traffic.sent same
      have arrivals : next.arrivals = state.arrivals := congrArg Traffic.arrivals same
      refine traced.keep (congrArg Traffic.down same) (congrArg Traffic.deliveries same)
        (congrArg Traffic.callbacks same) handles ?_
      rw [up, sent, arrivals]
      exact traced.sent
  | sends msg changed handles =>
      have up : upOf next.links = Function.update (upOf state.links) msg.link
          (upOf state.links msg.link ++ [⟨msg.bytes, state.sent.length⟩]) :=
        congrArg Traffic.up changed
      have sent : next.sent = state.sent ++ [msg] := congrArg Traffic.sent changed
      have arrivals : next.arrivals = state.arrivals := congrArg Traffic.arrivals changed
      refine traced.keep (congrArg Traffic.down changed) (congrArg Traffic.deliveries changed)
        (congrArg Traffic.callbacks changed) handles ?_
      intro index other isOther
      rw [sent] at isOther
      rw [up, arrivals]
      by_cases old : index < state.sent.length
      · rw [List.getElem?_append_left old] at isOther
        rcases traced.sent index other isOther with ⟨packet, member, isIndex⟩ | arrived
        · refine Or.inl ⟨packet, ?_, isIndex⟩
          by_cases here : other.link = msg.link
          · rw [here, Function.update_self]
            exact List.mem_append_left _ (here ▸ member)
          · rw [Function.update_of_ne here]
            exact member
        · exact Or.inr arrived
      · have below := (List.getElem?_eq_some_iff.mp isOther).1
        rw [List.length_append, List.length_singleton] at below
        have last : index = state.sent.length := by omega
        rw [last, List.getElem?_concat_length] at isOther
        cases isOther
        refine Or.inl ⟨⟨msg.bytes, state.sent.length⟩, ?_, last.symm⟩
        rw [Function.update_self]
        exact List.mem_append_right _ (List.mem_singleton_self _)
  | takes client link rx packet rest isRx waits first changed kept taken only =>
      have down : downOf next.links = Function.update (downOf state.links) link rest :=
        congrArg Traffic.down changed
      have up : upOf next.links = upOf state.links := congrArg Traffic.up changed
      have sent : next.sent = state.sent := congrArg Traffic.sent changed
      have arrivals : next.arrivals = state.arrivals := congrArg Traffic.arrivals changed
      have deliveries : next.deliveries = state.deliveries := congrArg Traffic.deliveries changed
      have callbacks : next.callbacks = state.callbacks := congrArg Traffic.callbacks changed
      constructor
      · intro other found member
        rw [down] at member
        rw [deliveries]
        by_cases here : other = link
        · rw [here, Function.update_self] at member
          apply traced.down link found
          rw [first]
          exact List.mem_cons_of_mem _ member
        · rw [Function.update_of_ne here] at member
          exact traced.down other found member
      · intro other held recvByte serial member isPc
        rw [deliveries]
        have busy : held.pc.isHandle = true := by rw [isPc]; rfl
        rcases only other held ⟨member, busy⟩ with before | ⟨_, rfl⟩
        · exact traced.handled other held recvByte serial before.1 isPc
        · rcases traced.down link packet (first ▸ List.mem_cons_self) with
            ⟨delivery, isDelivery, isSerial, bytes⟩
          cases isPc
          rw [← bytes]
          exact ⟨delivery, isDelivery, isSerial, rx.recvBuf, by rw [bytes]; rfl, rfl⟩
      · rw [callbacks, deliveries]
        exact traced.called
      · rw [up, sent, arrivals]
        exact traced.sent
  | looks client thread recvByte serial failed rx isLabel isRx isPc changed kept only =>
      have deliveries : next.deliveries = state.deliveries := congrArg Traffic.deliveries changed
      have up : upOf next.links = upOf state.links := congrArg Traffic.up changed
      have down : downOf next.links = downOf state.links := congrArg Traffic.down changed
      have sent : next.sent = state.sent := congrArg Traffic.sent changed
      have arrivals : next.arrivals = state.arrivals := congrArg Traffic.arrivals changed
      have callbacks : next.callbacks = state.callbacks ++ _ := congrArg Traffic.callbacks changed
      constructor
      · rw [down, deliveries]
        exact traced.down
      · intro other held size number member heldPc
        rw [deliveries]
        have busy : held.pc.isHandle = true := by rw [heldPc]; rfl
        exact traced.handled other held size number (only other held ⟨member, busy⟩).1 heldPc
      · intro record member
        rw [callbacks] at member
        rw [deliveries]
        rcases List.mem_append.mp member with old | new
        · exact traced.called record old
        · rcases Option.map_eq_some_iff.mp (Option.mem_toList.mp new) with ⟨rxFunc, _, rfl⟩
          exact ⟨recvByte, traced.handled client rx recvByte serial (List.mem_of_getElem? isRx) isPc⟩
      · rw [up, sent, arrivals]
        exact traced.sent
  | arrives conn packet rest member first changed handles =>
      have up : upOf next.links = Function.update (upOf state.links) conn.id rest :=
        congrArg Traffic.up changed
      have sent : next.sent = state.sent := congrArg Traffic.sent changed
      have arrivals : next.arrivals = state.arrivals ++ _ := congrArg Traffic.arrivals changed
      refine traced.keep (congrArg Traffic.down changed) (congrArg Traffic.deliveries changed)
        (congrArg Traffic.callbacks changed) handles ?_
      intro index msg isMsg
      rw [sent] at isMsg
      rw [up, arrivals]
      have onward : (packetKind (msg.bytes.take recvSize) = .routed -> Exists fun arrival =>
            arrival ∈ state.arrivals ∧ arrival.sent = index) ->
          packetKind (msg.bytes.take recvSize) = .routed -> Exists fun arrival =>
            arrival ∈ state.arrivals ++ (if packetKind (packet.bytes.take recvSize) = .routed then
              [⟨packet.sent, conn, state.route.server.accepted⟩] else []) ∧
            arrival.sent = index := by
        intro arrived routed
        rcases arrived routed with ⟨arrival, isArrival, isIndex⟩
        exact ⟨arrival, List.mem_append_left _ isArrival, isIndex⟩
      rcases traced.sent index msg isMsg with ⟨other, isOther, isIndex⟩ | arrived
      · by_cases here : msg.link = conn.id
        · rw [here, first] at isOther
          rcases List.mem_cons.mp isOther with rfl | behind
          · refine Or.inr (fun routed => ?_)
            rcases mem_upOf (first ▸ List.mem_cons_self : other ∈ upOf state.links conn.id) with
              ⟨ends, isEnds, inside⟩
            rcases (inv.links conn.id ends isEnds).up other inside with ⟨same, isSame, _, bytes⟩
            rw [isIndex, isMsg] at isSame
            cases isSame
            rw [← bytes, if_pos routed]
            exact ⟨_, List.mem_append_right _ (List.mem_singleton_self _), isIndex⟩
          · refine Or.inl ⟨other, ?_, isIndex⟩
            rw [here, Function.update_self]
            exact behind
        · refine Or.inl ⟨other, ?_, isIndex⟩
          rw [Function.update_of_ne here]
          exact isOther
      · exact Or.inr (onward arrived)
  | delivers made opens changed handles =>
      have down : downOf next.links = made.foldl Delivery.addTo (downOf state.links) :=
        congrArg Traffic.down changed
      have up : upOf next.links = upOf state.links := congrArg Traffic.up changed
      have sent : next.sent = state.sent := congrArg Traffic.sent changed
      have arrivals : next.arrivals = state.arrivals := congrArg Traffic.arrivals changed
      have callbacks : next.callbacks = state.callbacks := congrArg Traffic.callbacks changed
      have deliveries : next.deliveries = state.deliveries ++ made :=
        congrArg Traffic.deliveries changed
      constructor
      · intro link packet member
        rw [down, mem_foldl_addTo] at member
        rw [deliveries]
        rcases member with old | ⟨delivery, isMade, _, rfl⟩
        · rcases traced.down link packet old with ⟨delivery, isDelivery, same⟩
          exact ⟨delivery, List.mem_append_left _ isDelivery, same⟩
        · exact ⟨delivery, List.mem_append_right _ isMade, rfl, rfl⟩
      · intro client rx recvByte serial member isPc
        rw [deliveries]
        have busy : rx.pc.isHandle = true := by rw [isPc]; rfl
        have before := ((handles client rx).mp ⟨member, busy⟩).1
        exact (traced.handled client rx recvByte serial before isPc).mono
          (fun delivery old => List.mem_append_left _ old)
      · intro record member
        rw [callbacks] at member
        rw [deliveries]
        rcases traced.called record member with ⟨recvByte, received⟩
        exact ⟨recvByte, received.mono (fun delivery old => List.mem_append_left _ old)⟩
      · rw [up, sent, arrivals]
        exact traced.sent

end Tracing

/-! ## What has been sent to a client reaches it -/

/-- Where a packet is that a job has sent to a link. -/
inductive Place (state : NetState) (client : Nat) (rxFunc : MsgRouteClientCallback)
    (serial link : Nat) : Prop where
  | underWay (packet : DownPacket) (member : packet ∈ downOf state.links link)
      (isSerial : packet.serial = serial)
  | inBuffer (rx : RxThread) (recvByte : Nat) (member : rx ∈ (state.clients client).rx)
      (isPc : rx.pc = .handle recvByte serial)
  | called (record : CallbackCall) (member : record ∈ state.callbacks)
      (isClient : record.client = client) (isFunc : record.rxFunc = rxFunc)
      (isSerial : record.serial = serial)

/-- A look at `g_subscribeInfo`, with what the receive thread has in its buffer. -/
structure Lookup where
  client : Nat
  recvBuf : Memory
  recvByte : Nat
  serial : Nat

def lookupOf (state : NetState) : NetLabel -> Option Lookup
  | .rx client thread _ => (state.clients client).rx[thread]?.bind (fun rx =>
      match rx.pc with
      | .handle recvByte serial => some ⟨client, rx.recvBuf, recvByte, serial⟩
      | _ => none)
  | _ => none

/-- Whenever a receive thread of the client looks up the callback for the message
of this call, it finds the same one. -/
def KeepsCallback (client index : Nat) (rxFunc : MsgRouteClientCallback) (state : NetState)
    (label : NetLabel) : Prop :=
  forall lookup, lookup ∈ lookupOf state label -> lookup.client = client ->
    state.messageOf lookup.serial = some index -> forall msg, msg ∈ state.sent[index]? ->
    (state.clients client).vars.subscribeInfo msg.sendData.typeIndex =
      ⟨msg.sendData.msgType, some rxFunc⟩

instance (client index : Nat) (rxFunc : MsgRouteClientCallback) (state : NetState)
    (label : NetLabel) : Decidable (KeepsCallback client index rxFunc state label) :=
  inferInstanceAs (Decidable (forall lookup, lookup ∈ lookupOf state label -> _))

/-- Every link has one client, and what is sent to this client's link for the
message reaches its callback. -/
structure Follows (client index : Nat) (rxFunc : MsgRouteClientCallback) (owner : Nat -> Nat)
    (state : NetState) : Prop where
  owned : forall other link, state.Uses other link -> owner link = other ∧ link < state.links.length
  reached : forall delivery link, delivery ∈ state.deliveries -> delivery.reached = some link ->
    link < state.links.length
  followed : forall delivery link, delivery ∈ state.deliveries ->
    state.messageOf delivery.serial = some index -> delivery.reached = some link ->
    owner link = client -> Place state client rxFunc delivery.serial link
  called : forall record, record ∈ state.callbacks -> record.client = client ->
    state.messageOf record.serial = some index -> record.rxFunc = rxFunc

section Following

variable {state next : NetState} {label : NetLabel} {client index : Nat}
  {rxFunc : MsgRouteClientCallback} {owner : Nat -> Nat}

theorem messageOf_kept (stepped : netStep state label = some next) (move : NetMove state next label)
    {serial : Nat} (known : (state.arrivalOf serial).isSome) :
    next.messageOf serial = state.messageOf serial := by
  have ids : state.route.ids <+: next.route.ids := by
    rcases netStep_route stepped with same | ⟨moved, taken⟩
    · exact same ▸ List.prefix_rfl
    · exact ids_grow taken
  have arrivals : state.arrivals <+: next.arrivals := by
    cases move with
    | quiet same _ =>
        have kept : next.arrivals = state.arrivals := congrArg Traffic.arrivals same
        exact kept ▸ List.prefix_rfl
    | arrives conn packet rest _ _ changed _ =>
        have more : next.arrivals = state.arrivals ++ _ := congrArg Traffic.arrivals changed
        rw [more]
        exact List.prefix_append _ _
    | sends _ changed _ | takes _ _ _ _ _ _ _ _ changed _ _ _ | looks _ _ _ _ _ _ _ _ _ changed _ _
    | delivers _ _ changed _ =>
        have kept : next.arrivals = state.arrivals := congrArg Traffic.arrivals changed
        exact kept ▸ List.prefix_rfl
  rcases Option.isSome_iff_exists.mp known with ⟨arrival, isArrival⟩
  rcases Option.bind_eq_some_iff.mp isArrival with ⟨id, isId, atId⟩
  have later : next.arrivalOf serial = some arrival := Option.bind_eq_some_iff.mpr
    ⟨id, getElem?_of_prefix ids isId, getElem?_of_prefix arrivals atId⟩
  rw [NetState.messageOf, NetState.messageOf, isArrival, later]

/-- What is in a receive buffer is a message as it was sent, with the descriptor
that the server has for its sender. -/
theorem sees_of_received (inv : NetInv state) {serial recvByte : Nat} {recvBuf : Memory}
    (received : Received state.deliveries serial recvBuf recvByte) :
    Exists fun arrival => Exists fun msg => state.arrivalOf serial = some arrival ∧
      state.sent[arrival.sent]? = some msg ∧ msg.link = arrival.conn.id ∧
      packetKind (receivedPacket msg.fd arrival.conn.fd msg.sendData msg.isBroadcast).bytes =
        .routed ∧
      recvByte = msgRouteHeadSize + msg.sendData.len.toNat ∧
      Sees msg.sendData msg.isBroadcast arrival.conn.fd recvBuf recvByte := by
  rcases received with ⟨delivery, member, isSerial, old, isBuffer, isByte⟩
  rcases inv.delivery_bytes member with ⟨id, arrival, packet, msg, isArrival, ok, kind, bytes⟩
  have isPacket : packet = receivedPacket msg.fd arrival.conn.fd msg.sendData msg.isBroadcast :=
    ok.isPacket
  rw [isPacket] at kind bytes
  rw [bytes] at isBuffer isByte
  have fits : LenFits msg.sendData :=
    receivedPacket_checked_iff.mp (passesLengthChecks_of_routed kind)
  have lengths : HopLengths msg.fd arrival.conn.fd msg.sendData msg.isBroadcast := hopLengths fits
  refine ⟨arrival, msg, isSerial ▸ isArrival, ok.sent, ok.link, kind,
    isByte.trans lengths.clientRecv, ?_⟩
  rw [isBuffer, isByte]
  exact sees_receivedPacket fits old

/-- What a receive thread has in its buffer passes the checks of the client. -/
theorem msgRouteClientRx_received (inv : NetInv state) {serial recvByte : Nat}
    {recvBuf : MsgRouteDataInfo} (received : Received state.deliveries serial recvBuf recvByte)
    (vars : ClientVars) : msgRouteClientRx vars recvBuf recvByte =
      if (vars.subscribeInfo recvBuf.typeIndex).msgType = recvBuf.msgType then
        (vars.subscribeInfo recvBuf.typeIndex).rxFunc
      else none := by
  rcases sees_of_received inv received with ⟨arrival, msg, _, _, _, kind, isByte, sees⟩
  have fits : LenFits msg.sendData :=
    receivedPacket_checked_iff.mp (passesLengthChecks_of_routed kind)
  have isType : isMsgType recvBuf.msgType = true := by
    rw [sees.msgType, isMsgType_iff,
      ← msgType_receivedPacket msg.fd arrival.conn.fd msg.sendData msg.isBroadcast]
    have handled : isMsgRouteValidMsg _ = true :=
      isMsgRouteValidMsg_of_kind arrival.conn.fd (by rw [kind]; simp)
    rw [isMsgRouteValidMsg_packetMsg] at handled
    exact ((isMsgRouteValidMsg_iff _).mp handled).2
  have sizes : ¬ (recvSize < recvByte ∨ recvByte ≤ msgRouteHeadSize) := by
    unfold LenFits at fits
    unfold recvSize
    omega
  unfold msgRouteClientRx
  rw [if_neg sizes, if_neg (by rw [isType]; simp)]

theorem lookupOf_handle {thread recvByte serial : Nat} {failed : Bool} {rx : RxThread}
    (isLabel : label = .rx client thread failed)
    (isRx : (state.clients client).rx[thread]? = some rx) (isPc : rx.pc = .handle recvByte serial) :
    lookupOf state label = some ⟨client, rx.recvBuf, recvByte, serial⟩ := by
  rw [isLabel, lookupOf, isRx, Option.bind_some, isPc]

/-- The callback is called for what the thread has in its buffer. -/
theorem called_of_keeps (inv : NetInv state) (traced : Traced state)
    (keeps : KeepsCallback client index rxFunc state label)
    {thread recvByte serial : Nat} {failed : Bool} {rx : RxThread}
    (isLabel : label = .rx client thread failed)
    (isRx : (state.clients client).rx[thread]? = some rx) (isPc : rx.pc = .handle recvByte serial)
    (isMessage : state.messageOf serial = some index) :
    msgRouteClientRx (state.clients client).vars rx.recvBuf recvByte = some rxFunc := by
  have received := traced.handled client rx recvByte serial (List.mem_of_getElem? isRx) isPc
  rcases sees_of_received inv received with ⟨arrival, msg, isArrival, sent, _, _, _, sees⟩
  have isIndex : arrival.sent = index := by
    rw [NetState.messageOf, isArrival] at isMessage
    exact Option.some.inj isMessage
  have entry := keeps _ (lookupOf_handle isLabel isRx isPc) rfl isMessage msg (isIndex ▸ sent)
  have isTypeIndex : MsgRouteDataInfo.typeIndex rx.recvBuf = msg.sendData.typeIndex := by
    rw [MsgRouteDataInfo.typeIndex, sees.msgType]
    rfl
  rw [msgRouteClientRx_received inv received, isTypeIndex, entry]
  exact if_pos sees.msgType.symm

/-- A thread of the client that holds the packet holds it still. -/
theorem place_of_handles {serial link recvByte : Nat} {rx : RxThread} (handles : next.Handles client rx)
    (isPc : rx.pc = .handle recvByte serial) : Place next client rxFunc serial link :=
  Place.inBuffer rx recvByte handles.1 isPc

/-- A step that moves neither packets for clients nor receive threads. -/
theorem Place.keep {serial link : Nat} (place : Place state client rxFunc serial link)
    (down : downOf next.links = downOf state.links) (callbacks : next.callbacks = state.callbacks)
    (handles : forall client rx, next.Handles client rx <-> state.Handles client rx) :
    Place next client rxFunc serial link := by
  cases place with
  | underWay packet member isSerial => exact Place.underWay packet (down ▸ member) isSerial
  | inBuffer rx recvByte member isPc =>
      have busy : rx.pc.isHandle = true := by rw [isPc]; rfl
      exact place_of_handles ((handles client rx).mpr ⟨member, busy⟩) isPc
  | called record member isClient isFunc isSerial =>
      exact Place.called record (callbacks ▸ member) isClient isFunc isSerial

/-- What has been sent to the link goes on to the callback, if only the client
uses the link. -/
theorem place_step (inv : NetInv state) (traced : Traced state) (move : NetMove state next label)
    (keeps : KeepsCallback client index rxFunc state label) {serial link : Nat}
    (mine : forall other, state.Uses other link -> other = client)
    (isMessage : state.messageOf serial = some index)
    (place : Place state client rxFunc serial link) : Place next client rxFunc serial link := by
  cases move with
  | quiet same handles =>
      exact place.keep (congrArg Traffic.down same) (congrArg Traffic.callbacks same) handles
  | sends msg changed handles =>
      exact place.keep (congrArg Traffic.down changed) (congrArg Traffic.callbacks changed) handles
  | arrives conn packet rest isConn first changed handles =>
      exact place.keep (congrArg Traffic.down changed) (congrArg Traffic.callbacks changed) handles
  | takes taker from_ rx packet rest isRx waits first changed kept taken only =>
      have down : downOf next.links = Function.update (downOf state.links) from_ rest :=
        congrArg Traffic.down changed
      have callbacks : next.callbacks = state.callbacks := congrArg Traffic.callbacks changed
      cases place with
      | underWay found member isSerial =>
          by_cases here : link = from_
          · subst here
            rw [first] at member
            rcases List.mem_cons.mp member with rfl | behind
            · have isTaker : taker = client := mine taker (Or.inr ⟨rx, isRx, waits⟩)
              subst isTaker
              have isPc : (rx.receives found).pc =
                  .handle (found.bytes.take recvSize).length serial := by
                rw [← isSerial]
                rfl
              exact place_of_handles taken isPc
            · refine Place.underWay found ?_ isSerial
              rw [down, Function.update_self]
              exact behind
          · refine Place.underWay found ?_ isSerial
            rw [down, Function.update_of_ne here]
            exact member
      | inBuffer held recvByte member isPc =>
          have busy : held.pc.isHandle = true := by rw [isPc]; rfl
          exact place_of_handles (kept client held ⟨member, busy⟩) isPc
      | called record member isClient isFunc isSerial =>
          exact Place.called record (callbacks ▸ member) isClient isFunc isSerial
  | looks looker thread recvByte number failed rx isLabel isRx isPc changed kept only =>
      have down : downOf next.links = downOf state.links := congrArg Traffic.down changed
      have callbacks : next.callbacks = state.callbacks ++ _ := congrArg Traffic.callbacks changed
      cases place with
      | underWay found member isSerial => exact Place.underWay found (down ▸ member) isSerial
      | inBuffer held size member heldPc =>
          have busy : held.pc.isHandle = true := by rw [heldPc]; rfl
          rcases kept client held ⟨member, busy⟩ with onward | ⟨rfl, rfl⟩
          · exact place_of_handles onward heldPc
          · cases isPc.symm.trans heldPc
            have calls := called_of_keeps inv traced keeps isLabel isRx isPc isMessage
            rw [calls] at callbacks
            refine Place.called ⟨client, rxFunc, held.recvBuf, serial⟩ ?_ rfl rfl rfl
            rw [callbacks]
            exact List.mem_append_right _ (List.mem_singleton_self _)
      | called record member isClient isFunc isSerial =>
          refine Place.called record ?_ isClient isFunc isSerial
          rw [callbacks]
          exact List.mem_append_left _ member
  | delivers made opens changed handles =>
      have down : downOf next.links = made.foldl Delivery.addTo (downOf state.links) :=
        congrArg Traffic.down changed
      have callbacks : next.callbacks = state.callbacks := congrArg Traffic.callbacks changed
      cases place with
      | underWay found member isSerial =>
          refine Place.underWay found ?_ isSerial
          rw [down]
          exact mem_foldl_addTo.mpr (Or.inl member)
      | inBuffer held recvByte member isPc =>
          have busy : held.pc.isHandle = true := by rw [isPc]; rfl
          exact place_of_handles ((handles client held).mpr ⟨member, busy⟩) isPc
      | called record member isClient isFunc isSerial =>
          exact Place.called record (callbacks ▸ member) isClient isFunc isSerial

/-- What a step adds to the deliveries is on its way. -/
theorem deliveries_next (move : NetMove state next label) {delivery : Delivery}
    (member : delivery ∈ next.deliveries) : delivery ∈ state.deliveries ∨
      (delivery.connections = state.route.server.connections ∧
        forall link, delivery.reached = some link -> Exists fun packet =>
          packet ∈ downOf next.links link ∧ packet.serial = delivery.serial) := by
  cases move with
  | quiet same _ =>
      have kept : next.deliveries = state.deliveries := congrArg Traffic.deliveries same
      exact Or.inl (kept ▸ member)
  | sends _ changed _ | takes _ _ _ _ _ _ _ _ changed _ _ _ | looks _ _ _ _ _ _ _ _ _ changed _ _
  | arrives _ _ _ _ _ changed _ =>
      have kept : next.deliveries = state.deliveries := congrArg Traffic.deliveries changed
      exact Or.inl (kept ▸ member)
  | delivers made opens changed handles =>
      have more : next.deliveries = state.deliveries ++ made := congrArg Traffic.deliveries changed
      have down : downOf next.links = made.foldl Delivery.addTo (downOf state.links) :=
        congrArg Traffic.down changed
      rw [more] at member
      rcases List.mem_append.mp member with old | new
      · exact Or.inl old
      · refine Or.inr ⟨opens delivery new, fun link reached => ?_⟩
        refine ⟨⟨delivery.call.bytes, delivery.serial⟩, ?_, rfl⟩
        rw [down]
        exact mem_foldl_addTo.mpr (Or.inr ⟨delivery, new, reached, rfl⟩)

/-- The callback of the client is the one it keeps. -/
theorem callbacks_next (inv : NetInv state) (traced : Traced state) (move : NetMove state next label)
    (keeps : KeepsCallback client index rxFunc state label) {record : CallbackCall}
    (member : record ∈ next.callbacks) : record ∈ state.callbacks ∨
      (state.arrivalOf record.serial).isSome ∧ (record.client = client ->
        state.messageOf record.serial = some index -> record.rxFunc = rxFunc) := by
  cases move with
  | quiet same _ =>
      have kept : next.callbacks = state.callbacks := congrArg Traffic.callbacks same
      exact Or.inl (kept ▸ member)
  | sends _ changed _ | takes _ _ _ _ _ _ _ _ changed _ _ _ | arrives _ _ _ _ _ changed _
  | delivers _ _ changed _ =>
      have kept : next.callbacks = state.callbacks := congrArg Traffic.callbacks changed
      exact Or.inl (kept ▸ member)
  | looks looker thread recvByte serial failed rx isLabel isRx isPc changed kept only =>
      have more : next.callbacks = state.callbacks ++ _ := congrArg Traffic.callbacks changed
      rw [more] at member
      rcases List.mem_append.mp member with old | new
      · exact Or.inl old
      · rcases Option.map_eq_some_iff.mp (Option.mem_toList.mp new) with ⟨found, isFound, rfl⟩
        refine Or.inr ⟨?_, ?_⟩
        · have known := inv.clients looker rx (List.mem_of_getElem? isRx)
          rw [isPc] at known
          exact known
        · rintro rfl isMessage
          have calls := called_of_keeps inv traced keeps isLabel isRx isPc isMessage
          exact Option.some.inj (isFound.symm.trans calls)

theorem follows_step (inv : NetInv state) (cover : state.LinksCover) (traced : Traced state)
    (follows : Follows client index rxFunc owner state)
    (stepped : netStep state label = some next)
    (keeps : KeepsCallback client index rxFunc state label) :
    Exists fun later => Follows client index rxFunc later next := by
  have move := netStep_moves inv cover stepped
  have linkStep := netStep_linkStep stepped
  rcases linkStep.opens with ⟨opener, opens⟩
  have same : forall link, link < state.links.length ->
      Function.update owner state.links.length opener link = owner link :=
    fun link inside => Function.update_of_ne (Nat.ne_of_lt inside) _ _
  refine ⟨Function.update owner state.links.length opener, ?_, ?_, ?_, ?_⟩
  · intro other link uses
    rcases opens other link uses with before | ⟨isOpener, isNew, inside⟩
    · rcases follows.owned other link before with ⟨isOwner, inside⟩
      exact ⟨(same link inside).trans isOwner, inside.trans_le linkStep.grows⟩
    · rw [isNew, isOpener, Function.update_self]
      exact ⟨rfl, isNew ▸ inside⟩
  · intro delivery link member reached
    apply Nat.lt_of_lt_of_le ?_ linkStep.grows
    rcases deliveries_next move member with old | ⟨isOpen, _⟩
    · exact follows.reached delivery link old reached
    · rcases Option.map_eq_some_iff.mp reached with ⟨conn, found, rfl⟩
      have isConn := List.mem_of_find?_eq_some found
      rw [isOpen] at isConn
      exact (inv.connected.idsBelow conn isConn).trans_le cover
  · intro delivery link member isMessage reached isOwner
    rcases deliveries_next move member with old | ⟨_, placed⟩
    · have inside := follows.reached delivery link old reached
      rw [same link inside] at isOwner
      have known : (state.arrivalOf delivery.serial).isSome := by
        rcases (inv.deliveries delivery old).apart with ⟨arrival, isArrival, _⟩
        exact Option.isSome_iff_exists.mpr ⟨arrival, isArrival⟩
      rw [messageOf_kept stepped move known] at isMessage
      apply place_step inv traced move keeps ?_ isMessage
        (follows.followed delivery link old isMessage reached isOwner)
      intro other uses
      exact ((follows.owned other link uses).1.symm.trans isOwner)
    · rcases placed link reached with ⟨packet, isPacket, isSerial⟩
      exact Place.underWay packet isPacket isSerial
  · intro record member isClient isMessage
    rcases callbacks_next inv traced move keeps member with old | ⟨known, isFunc⟩
    · rw [messageOf_kept stepped move (inv.callbacks record old)] at isMessage
      exact follows.called record old isClient isMessage
    · rw [messageOf_kept stepped move known] at isMessage
      exact isFunc isClient isMessage

end Following

/-! ## Runs -/

section Runs

variable {final : NetState}

theorem traced_netInit (start : RoutePool) (memory recvBuf : Memory) :
    Traced (netInit start memory recvBuf) where
  down := fun _ _ member => absurd member List.not_mem_nil
  handled := fun _ _ _ _ member => absurd member List.not_mem_nil
  called := fun _ member => absurd member List.not_mem_nil
  sent := nofun

/-- What the records and the packets under way say holds at the end of a run. -/
structure UnderWay (state : NetState) : Prop where
  inv : NetInv state
  cover : state.LinksCover
  traced : Traced state

theorem UnderWay.step {state next : NetState} {label : NetLabel} (underWay : UnderWay state)
    (stepped : netStep state label = some next) : UnderWay next where
  inv := netInv_step underWay.inv stepped
  cover := linksCover_step underWay.cover stepped
  traced := traced_step underWay.inv underWay.traced
    (netStep_moves underWay.inv underWay.cover stepped)

theorem underWay_netInit {start : RoutePool} (idle : Idle start) (memory recvBuf : Memory) :
    UnderWay (netInit start memory recvBuf) where
  inv := netInv_netInit idle memory recvBuf
  cover := Nat.le_refl _
  traced := traced_netInit start memory recvBuf

theorem underWay_of_run {start : RoutePool} {memory recvBuf : Memory} {labels : List NetLabel}
    (idle : Idle start) (ran : network.run (netInit start memory recvBuf) labels = some final) :
    UnderWay final :=
  network.run_invariant (fun _ _ _ underWay stepped => UnderWay.step underWay stepped)
    (underWay_netInit idle memory recvBuf) ran

theorem follows_netInit (start : RoutePool) (memory recvBuf : Memory) (client index : Nat)
    (rxFunc : MsgRouteClientCallback) (owner : Nat -> Nat) :
    Follows client index rxFunc owner (netInit start memory recvBuf) where
  owned := by
    rintro other link (sends | ⟨rx, member, _⟩)
    · cases sends
    · exact absurd member List.not_mem_nil
  reached := fun _ _ member => absurd member List.not_mem_nil
  followed := fun _ _ member => absurd member List.not_mem_nil
  called := fun _ member => absurd member List.not_mem_nil

theorem follows_of_run {start : RoutePool} {memory recvBuf : Memory} {labels : List NetLabel}
    {client index : Nat} {rxFunc : MsgRouteClientCallback} (idle : Idle start)
    (ran : network.run (netInit start memory recvBuf) labels = some final)
    (keeps : network.AllSteps (KeepsCallback client index rxFunc) (netInit start memory recvBuf)
      labels) :
    UnderWay final ∧ Exists fun owner => Follows client index rxFunc owner final := by
  have kept : forall state label next,
      (UnderWay state ∧ Exists fun owner => Follows client index rxFunc owner state) ->
      KeepsCallback client index rxFunc state label -> network.step state label = some next ->
      UnderWay next ∧ Exists fun owner => Follows client index rxFunc owner next := by
    rintro state label next ⟨underWay, owner, follows⟩ kept stepped
    exact ⟨underWay.step stepped,
      follows_step underWay.inv underWay.cover underWay.traced follows stepped kept⟩
  refine network.run_of_allSteps kept ?_ keeps ran
  exact ⟨underWay_netInit idle memory recvBuf, fun _ => 0,
    follows_netInit start memory recvBuf client index rxFunc _⟩

end Runs

end MsgRoute
end V2x
