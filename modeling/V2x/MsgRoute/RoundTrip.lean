import V2x.MsgRoute.Following

namespace V2x
namespace MsgRoute

open Foundations ThreadPool

/-!
# A message reaches the callback of a subscriber

A program passes a message to `MsgRouteClientSendMsg`, and another client has
subscribed its type and keeps a callback for it.  When nothing of the message is
under way any more, the callback has been called exactly if the payload has one
to `MSG_ROUTE_DATA_SIZE` bytes.
-/

/-- The server has taken the message, its job has run, and the client has taken
what was sent to it. -/
structure Settled (state : NetState) (index client link : Nat) (msg : SentMsg) : Prop where
  taken : forall packet, packet ∈ upOf state.links msg.link -> packet.sent ≠ index
  done : forall id arrival, state.arrivals[id]? = some arrival -> arrival.sent = index ->
    Exists fun serial => state.route.ids[serial]? = some id ∧ state.route.Finished serial
  received : forall packet, packet ∈ downOf state.links link ->
    state.messageOf packet.serial ≠ some index
  handled : forall rx recvByte serial, rx ∈ (state.clients client).rx ->
    rx.pc = .handle recvByte serial -> state.messageOf serial ≠ some index

/-- The client is on the link, and while the job runs a slot that the message is
for has the descriptor of the link and the flag for the message type. -/
structure StaysSubscribed (state : NetState) (index client link : Nat) (msg : SentMsg) : Prop where
  isLink : (state.clients client).link = some link
  target : Exists fun slot => Exists fun fd =>
    slot ∈ targets (msgRouteClientSendMsg msg.fd msg.sendData msg.isBroadcast) ∧ fd ≠ -1 ∧
    forall run, run ∈ state.route.runs -> state.messageOf run.serial = some index ->
      Steady run.tables slot msg.sendData.typeIndex fd true ∧
      forall delivery, delivery ∈ deliveriesOf state.deliveries run.serial -> Exists fun conn =>
        conn ∈ delivery.connections ∧ conn.fd = fd ∧ conn.id = link

/-- A call of a callback gets the message as it was sent, from the connection that
it was sent on, and all lengths on the way are the same. -/
structure Conveyed (state : NetState) (msg : SentMsg) (record : CallbackCall) : Prop where
  received : Exists fun arrival => Exists fun recvByte =>
    state.arrivalOf record.serial = some arrival ∧ arrival.conn.id = msg.link ∧
    Received state.deliveries record.serial record.msgData recvByte ∧
    recvByte = msgRouteHeadSize + msg.sendData.len.toNat ∧
    HopLengths msg.fd arrival.conn.fd msg.sendData msg.isBroadcast ∧
    Sees msg.sendData msg.isBroadcast arrival.conn.fd record.msgData recvByte

/-! ## From the call of the library to the callback -/

section Delivering

variable {state : NetState} {client index link : Nat} {msg : SentMsg}

/-- The argument of a callback is the message that the job has routed. -/
theorem conveyed_of_called (inv : NetInv state) (traced : Traced state)
    (sent : state.sent[index]? = some msg) {record : CallbackCall}
    (member : record ∈ state.callbacks) (isMessage : state.messageOf record.serial = some index) :
    LenFits msg.sendData ∧ Conveyed state msg record := by
  rcases traced.called record member with ⟨recvByte, received⟩
  rcases sees_of_received inv received with
    ⟨arrival, other, isArrival, isOther, isLink, kind, isByte, sees⟩
  have isIndex : arrival.sent = index := by
    rw [NetState.messageOf, isArrival] at isMessage
    exact Option.some.inj isMessage
  rw [isIndex, sent] at isOther
  cases isOther
  have fits : LenFits msg.sendData :=
    receivedPacket_checked_iff.mp (passesLengthChecks_of_routed kind)
  exact ⟨fits, arrival, recvByte, isArrival, isLink.symm, received, isByte, hopLengths fits, sees⟩

/-- A message that fits has been sent to the subscriber when its job is done. -/
theorem delivered_of_fits (inv : NetInv state) (traced : Traced state)
    (sent : state.sent[index]? = some msg) (routable : Routable msg.sendData)
    (settled : Settled state index client link msg)
    (subscribed : StaysSubscribed state index client link msg) (fits : LenFits msg.sendData) :
    Exists fun delivery => delivery ∈ state.deliveries ∧
      state.messageOf delivery.serial = some index ∧ delivery.reached = some link := by
  have routed : packetKind (receivedPacket msg.fd 0 msg.sendData msg.isBroadcast).bytes = .routed :=
    (receivedPacket_routed_iff routable).mpr fits
  rcases traced.sent index msg sent with ⟨packet, member, isIndex⟩ | arrived
  · exact absurd isIndex (settled.taken packet member)
  · rcases arrived routed with ⟨arrival, isArrival, isIndex⟩
    rcases List.mem_iff_getElem?.mp isArrival with ⟨id, atId⟩
    rcases settled.done id arrival atId isIndex with ⟨serial, isId, finished⟩
    rcases inv.arrivals id arrival atId with ⟨packet, other, ok⟩
    have isMsg := ok.sent
    rw [isIndex, sent] at isMsg
    cases isMsg
    have isPacket : packet = receivedPacket msg.fd arrival.conn.fd msg.sendData msg.isBroadcast :=
      ok.isPacket
    have delivered := inv.route.delivered ok.received
    rcases delivered.complete serial isId finished with ⟨run, isRun, returned⟩
    have executed : run ∈ state.route.executions id := by
      rw [isRun]
      exact List.mem_singleton_self _
    rcases mem_executions.mp executed with ⟨isMember, runId⟩
    have isMessage : state.messageOf run.serial = some index := by
      rw [NetState.messageOf, NetState.arrivalOf, runId, Option.bind_some, atId, Option.map_some,
        isIndex]
    have notAnswer : packet.header.dataType ≠ MsgRouteDataType.answer.code := by
      rw [isPacket, dataType_receivedPacket]
      exact routable.notAnswer
    have serves := delivered.serves notAnswer run executed
    rcases subscribed.target with ⟨slot, fd, target, valid, steadily⟩
    rcases steadily run isMember isMessage with ⟨steady, reaches⟩
    have isTarget : slot ∈ targets packet.header := by
      have sameApp : packet.header.appId =
          (msgRouteClientSendMsg msg.fd msg.sendData msg.isBroadcast).appId := by
        rw [isPacket, appId_receivedPacket, appId_sendMsg]
      rw [targets, MsgRouteDataInfo.slotIndex, sameApp]
      exact target
    have isType : packet.header.typeIndex = msg.sendData.typeIndex := by
      rw [MsgRouteDataInfo.typeIndex, isPacket, msgType_receivedPacket]
      rfl
    have typeSteady : Steady run.tables slot packet.header.typeIndex fd true := by
      rw [isType]
      exact steady
    have sends := serves.returned returned slot fd true isTarget typeSteady
    have isCall : fd ∈ sendsTo slot run.sends := by
      rw [sends, slotSends, if_pos ⟨valid, rfl⟩]
      exact List.mem_singleton_self _
    rcases List.mem_filterMap.mp isCall with ⟨call, called, isFd⟩
    rw [← inv.sends.made run isMember] at called
    rcases List.mem_map.mp called with ⟨delivery, isDelivery, rfl⟩
    rcases List.mem_filter.mp isDelivery with ⟨recorded, isSerial⟩
    have sameSerial : delivery.serial = run.serial := of_decide_eq_true isSerial
    refine ⟨delivery, recorded, sameSerial ▸ isMessage, ?_⟩
    apply (reached_eq_some_iff (inv.deliveries delivery recorded).fds).mpr
    rcases reaches delivery isDelivery with ⟨conn, isOpen, connFd, isConn⟩
    refine ⟨conn, isOpen, connFd.trans ?_, isConn⟩
    split at isFd
    · exact (Option.some.inj isFd).symm
    · cases isFd

end Delivering

/-- In every run of clients and server: a message that can be routed calls the
callback of a subscriber exactly if its payload fits, and the callback gets the
message as it was sent. -/
theorem message_roundTrip {pre start : RoutePool} {threadNum : Int} {outcome : InitOutcome}
    (uninitialised : pre.isInit = false) (noWorkers : forall pc, pc ∈ pre.threads -> pc = .exited)
    (initialised : threadPoolInit pre threadNum outcome = some (.returned 0 start))
    {memory recvBuf : Memory} {labels : List NetLabel} {final : NetState}
    (ran : network.run (netInit start memory recvBuf) labels = some final)
    {index client link : Nat} {msg : SentMsg} {rxFunc : MsgRouteClientCallback}
    (sent : final.sent[index]? = some msg) (routable : Routable msg.sendData)
    (settled : Settled final index client link msg)
    (subscribed : StaysSubscribed final index client link msg)
    (keeps : network.AllSteps (KeepsCallback client index rxFunc) (netInit start memory recvBuf)
      labels) :
    ((Exists fun record => record ∈ final.callbacks ∧ record.client = client ∧
        final.messageOf record.serial = some index) <-> LenFits msg.sendData) ∧
    (forall record, record ∈ final.callbacks -> record.client = client ->
      final.messageOf record.serial = some index ->
      record.rxFunc = rxFunc ∧ Conveyed final msg record) ∧
    msg.bytes.length = msgRouteHeadSize + msg.sendData.len.toNat := by
  have idle := idle_of_threadPoolInit uninitialised noWorkers initialised
  rcases follows_of_run idle ran keeps with ⟨⟨inv, _, traced⟩, owner, follows⟩
  refine ⟨⟨?_, ?_⟩, ?_, length_sendBytes_sendMsg _ _ _⟩
  · rintro ⟨record, member, _, isMessage⟩
    exact (conveyed_of_called inv traced sent member isMessage).1
  · intro fits
    rcases delivered_of_fits inv traced sent routable settled subscribed fits with
      ⟨delivery, recorded, isMessage, reached⟩
    have isOwner := (follows.owned client link (Or.inl subscribed.isLink)).1
    cases follows.followed delivery link recorded isMessage reached isOwner with
    | underWay packet member isSerial =>
        exact absurd (isSerial ▸ isMessage) (settled.received packet member)
    | inBuffer rx recvByte member isPc =>
        exact absurd isMessage (settled.handled rx recvByte delivery.serial member isPc)
    | called record member isClient _ isSerial =>
        exact ⟨record, member, isClient, isSerial ▸ isMessage⟩
  · intro record member isClient isMessage
    exact ⟨follows.called record member isClient isMessage,
      (conveyed_of_called inv traced sent member isMessage).2⟩

/-- The second client subscribes, and gets a notification from the first one. -/
def subscriberNotified : List NetLabel :=
  [.init 0 2 3 0 (Memory.ofBytes []), .init 1 1 3 0 (Memory.ofBytes []), .accept 5 true,
    .accept 6 true, .subscribe 1 (Memory.ofBytes []) ⟨3, some 0⟩, .store 1 0, .recv 6 false,
    .send 0 (smallMessage 0 3 0 1) false, .recv 5 false] ++ routeLabels 7 ++
  List.replicate 3 (.rx 1 0 false)

theorem message_roundTrip_subscriberNotified :
    let cell : DoublyLinkedListNode Addr := ⟨none, .jobListHead, .jobListHead⟩
    Exists fun start => Exists fun final => Exists fun msg => Exists fun record =>
      threadPoolInit (poolStatics JobFunc (List UInt8) cell) 1 (.success cell) =
        some (.returned 0 start) ∧
      network.run (netInit start (Memory.ofBytes []) (Memory.ofBytes [])) subscriberNotified =
        some final ∧
      final.sent[1]? = some msg ∧ record ∈ final.callbacks ∧ record.client = 1 ∧
      record.rxFunc = 0 ∧ Conveyed final msg record := by
  intro cell
  have reached : ((threadPoolInit (poolStatics JobFunc (List UInt8) cell) 1 (.success cell)).bind
      InitResult.started).bind (fun start =>
        (network.run (netInit start (Memory.ofBytes []) (Memory.ofBytes []))
          subscriberNotified).map (fun final =>
            (decide (final.sent[1]?.map (fun msg => (msg.link, msg.isBroadcast, msg.sendData.appId,
                msg.sendData.msgType, msg.sendData.dataType, msg.sendData.len)) =
              some (0, false, 1, 3, 0, 1)),
            decide (final.arrivals.map Arrival.sent = [1] ∧ final.route.ids = [0] ∧
              final.route.shared.pool.dequeued.length = 1 ∧
              final.route.shared.pool.threads.map WorkerPc.serial? = [none]),
            decide ((upOf final.links 0).length = 0 ∧ (downOf final.links 1).length = 0 ∧
              (final.clients 1).rx.map RxThread.pc = [.loopTest] ∧
              (final.clients 1).link = some 1),
            decide (final.route.runs.map (fun run => (run.serial,
                run.tables.map (fun table => (table.fd 1, table.msgFlag 1 3)),
                (deliveriesOf final.deliveries run.serial).map (fun delivery =>
                  delivery.connections.map (fun conn => (conn.fd, conn.id))))) =
              [(0, [(6, true)], [[(6, 1), (5, 0)]])]),
            decide (network.AllSteps (KeepsCallback 1 1 0)
              (netInit start (Memory.ofBytes []) (Memory.ofBytes [])) subscriberNotified)))) =
      some (true, true, true, true, true) := by
    decide +kernel
  rcases InitResult.exists_run reached with ⟨start, final, done, ran, observed⟩
  simp only [Prod.mk.injEq, decide_eq_true_eq] at observed
  rcases observed with ⟨isSent, ⟨isArrivals, isIds, isTaken, isThreads⟩,
    ⟨noUp, noDown, isRx, isLink⟩, isRuns, isKept⟩
  rcases Option.map_eq_some_iff.mp isSent with ⟨msg, sent, msgParts⟩
  simp only [Prod.mk.injEq] at msgParts
  rcases msgParts with ⟨msgLink, notBroadcast, isApp, isType, isDataType, isLen⟩
  have routable : Routable msg.sendData := by
    constructor
    · rw [isApp]
      decide
    · rw [isType]
      decide
    · rw [isType]
      decide
    · rw [isType]
      decide
    · rw [isDataType]
      decide
  have settled : Settled final 1 1 1 msg := by
    constructor
    · rw [msgLink, List.length_eq_zero_iff.mp noUp]
      exact fun packet member => absurd member List.not_mem_nil
    · intro id arrival atId isIndex
      have inside := (List.getElem?_eq_some_iff.mp atId).1
      rw [← List.length_map Arrival.sent, isArrivals] at inside
      have first : id = 0 := Nat.lt_one_iff.mp inside
      refine ⟨0, by rw [isIds, first]; rfl, by rw [isTaken]; exact Nat.zero_lt_one, ?_⟩
      intro thread holds
      rcases Option.bind_eq_some_iff.mp holds with ⟨pc, isPc, isSerial⟩
      have isNone := List.mem_map_of_mem (f := WorkerPc.serial?) (List.mem_of_getElem? isPc)
      rw [isThreads, List.mem_singleton, isSerial] at isNone
      cases isNone
    · rw [List.length_eq_zero_iff.mp noDown]
      exact fun packet member => absurd member List.not_mem_nil
    · intro rx recvByte serial member isPc
      have isLoop : rx.pc ∈ (final.clients 1).rx.map RxThread.pc := List.mem_map_of_mem member
      rw [isRx, List.mem_singleton, isPc] at isLoop
      cases isLoop
  have subscribed : StaysSubscribed final 1 1 1 msg := by
    refine ⟨isLink, 1, 6, ?_, by decide, ?_⟩
    · rw [targets, MsgRouteDataInfo.slotIndex, appId_sendMsg, notBroadcast]
      simp only [Bool.false_eq_true, if_false, isApp]
      decide
    · intro run member _
      have isRun := List.mem_map_of_mem (f := fun run => (run.serial,
        run.tables.map (fun table => (table.fd 1, table.msgFlag 1 3)),
        (deliveriesOf final.deliveries run.serial).map (fun delivery =>
          delivery.connections.map (fun conn => (conn.fd, conn.id))))) member
      rw [isRuns, List.mem_singleton] at isRun
      simp only [Prod.mk.injEq] at isRun
      rcases isRun with ⟨_, isTables, isDeliveries⟩
      constructor
      · intro table isTable
        have isRow := List.mem_map_of_mem (f := fun table : ClientInfoTable =>
          (table.fd 1, table.msgFlag 1 3)) isTable
        rw [isTables, List.mem_singleton, Prod.mk.injEq] at isRow
        rw [MsgRouteDataInfo.typeIndex, isType]
        exact isRow
      · intro delivery isDelivery
        have isRow := List.mem_map_of_mem (f := fun delivery : Delivery =>
          delivery.connections.map (fun conn => (conn.fd, conn.id))) isDelivery
        rw [isDeliveries, List.mem_singleton] at isRow
        have both : ((6 : Int32), 1) ∈ delivery.connections.map (fun conn => (conn.fd, conn.id)) := by
          rw [isRow]
          decide
        rcases List.mem_map.mp both with ⟨conn, isConn, same⟩
        rw [Prod.mk.injEq] at same
        exact ⟨conn, isConn, same⟩
  have roundTrip := message_roundTrip rfl (fun pc member => absurd member List.not_mem_nil) done ran
    sent routable settled subscribed isKept
  have fits : LenFits msg.sendData := by
    rw [LenFits, isLen]
    decide
  rcases roundTrip.1.mpr fits with ⟨record, member, isClient, isMessage⟩
  rcases roundTrip.2.1 record member isClient isMessage with ⟨isFunc, conveyed⟩
  exact ⟨start, final, msg, record, done, ran, sent, member, isClient, isFunc, conveyed⟩

end MsgRoute
end V2x
