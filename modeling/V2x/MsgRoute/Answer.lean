import V2x.MsgRoute.Delivery
import V2x.MsgRoute.NetworkRuns

namespace V2x
namespace MsgRoute

open Foundations ThreadPool

/-!
# Where an answer goes

A job sends an answer to the descriptor in `src`.  A client that copies `src`
from a request into its answer names the requester by it, but both
`MsgRouteClientSendCommonMsg` and `MsgRouteServerHandleMsg` overwrite the field,
and what the job reads is the descriptor of the client that answers.  So an
answer returns to the requester exactly if request and answer use the same
connection.
-/

/-- The call of the library that has sent the message which a job routes. -/
def NetState.origin (state : NetState) (serial : Nat) : Option SentMsg :=
  (state.arrivalOf serial).bind (fun arrival => state.sent[arrival.sent]?)

/-- A client's callback gets a request, the client sends an answer with the `src`
of the request, and the job that routes the answer has come past its `send`.  The
requester's connection was open then. -/
structure RoundTrip (state : NetState) (call : CallbackCall) (request answer : SentMsg)
    (run : JobRun) : Prop where
  called : Exists fun index => state.callbacks[index]? = some call ∧ index < answer.calls
  needResp : call.msgData.dataType = MsgRouteDataType.needResp.code
  requested : state.origin call.serial = some request
  sameClient : answer.client = call.client
  isAnswer : answer.sendData.dataType = MsgRouteDataType.answer.code
  copied : answer.sendData.src = call.msgData.src
  routes : state.origin run.serial = some answer
  executed : run ∈ state.route.runs
  passed : run.frame.pc = .release ∨ run.returned = true
  stillOpen : forall delivery, delivery ∈ deliveriesOf state.deliveries run.serial ->
    Exists fun conn => conn ∈ delivery.connections ∧ conn.id = request.link

/-- The job has sent once, on this connection. -/
def SendsOnlyTo (state : NetState) (serial link : Nat) : Prop :=
  Exists fun delivery => deliveriesOf state.deliveries serial = [delivery] ∧
    delivery.reached = some link

/-- With distinct descriptors the call reaches the connection that has its descriptor. -/
theorem reached_eq_some_iff {delivery : Delivery} {link : Nat}
    (fds : forall first, first ∈ delivery.connections -> forall second,
      second ∈ delivery.connections -> first.fd = second.fd -> first = second) :
    delivery.reached = some link <->
      Exists fun conn => conn ∈ delivery.connections ∧ conn.fd = delivery.call.fd ∧
        conn.id = link := by
  constructor
  · intro reached
    rcases Option.map_eq_some_iff.mp reached with ⟨conn, found, isLink⟩
    have sameFd := List.find?_some found
    exact ⟨conn, List.mem_of_find?_eq_some found, beq_iff_eq.mp sameFd, isLink⟩
  · rintro ⟨conn, member, sameFd, rfl⟩
    have some_ : (delivery.connections.find? (fun conn => conn.fd == delivery.call.fd)).isSome := by
      rw [List.find?_isSome]
      exact ⟨conn, member, beq_iff_eq.mpr sameFd⟩
    rcases Option.isSome_iff_exists.mp some_ with ⟨found, isFound⟩
    have foundFd := List.find?_some isFound
    rw [fds conn member found (List.mem_of_find?_eq_some isFound)
      (sameFd.trans (beq_iff_eq.mp foundFd).symm)]
    exact Option.map_eq_some_iff.mpr ⟨found, isFound, rfl⟩

/-- The job of an answer sends once, to the descriptor the answer came from. -/
theorem NetInv.answer_sends {state : NetState} (inv : NetInv state) {run : JobRun} {packet : Packet}
    {answer : SentMsg} (executed : run ∈ state.route.runs)
    (isPacket : state.route.packetOf run.serial = some packet)
    (bytes : packet.bytes = answer.bytes.take recvSize)
    (isAnswer : answer.sendData.dataType = MsgRouteDataType.answer.code)
    (passed : run.frame.pc = .release ∨ run.returned = true) :
    run.sends = [⟨none, packet.fd, packet.routed⟩] := by
  have kind : packetKind packet.bytes = .routed := by
    rcases Option.bind_eq_some_iff.mp isPacket with ⟨id, _, received⟩
    exact inv.route.kinds packet (List.mem_of_getElem? received)
  have long := header_lt_length kind
  have sameType : packet.header.dataType = answer.sendData.dataType := by
    rw [Packet.header, bytes]
    rw [bytes] at long
    exact (dataType_received recvSize long).trans (dataType_sendMsg _ _ _)
  have asks : packet.msg.dataType = MsgRouteDataType.answer.code :=
    (dataType_msg kind).trans (sameType.trans isAnswer)
  have answers := inv.route.correct.answers run packet executed isPacket asks
  have sends : run.sends = [⟨none, packet.msg.src, packet.msg.copy⟩] := by
    rcases passed with release | returned
    · rw [release] at answers
      exact answers
    · rw [show run.frame.pc = .returned from of_decide_eq_true returned] at answers
      exact answers
  rw [sends, src_msg kind, copy_msg kind]

/-- The request came from a connection that was accepted before the answer arrived. -/
theorem ArrivalOk.requester {state : NetState} (inv : NetInv state) {id : Nat} {arrival : Arrival}
    {packet : Packet} {request answer : SentMsg} (ok : ArrivalOk state id arrival packet answer)
    {index : Nat} {call : CallbackCall} (called : state.callbacks[index]? = some call)
    (before : index < answer.calls) (requested : state.origin call.serial = some request) :
    request.link < arrival.accepted := by
  rcases ok.earlier index before with ⟨record, other, isRecord, isOther, older⟩
  rw [called] at isRecord
  cases isRecord
  rcases Option.bind_eq_some_iff.mp requested with ⟨same, isSame, isRequest⟩
  rw [isOther] at isSame
  cases isSame
  rcases Option.bind_eq_some_iff.mp isOther with ⟨otherId, _, isArrival⟩
  rcases inv.arrivals otherId other isArrival with ⟨_, msg, otherOk⟩
  have sameMsg : msg = request := Option.some.inj (otherOk.sent.symm.trans isRequest)
  rw [← sameMsg, otherOk.link]
  exact older

/-- In every run of clients and server: an answer is sent on the requester's
connection, and on no other, exactly if it was sent on this connection itself. -/
theorem answer_returns_iff {pre start : RoutePool} {threadNum : Int} {outcome : InitOutcome}
    (uninitialised : pre.isInit = false) (noWorkers : forall pc, pc ∈ pre.threads -> pc = .exited)
    (initialised : threadPoolInit pre threadNum outcome = some (.returned 0 start))
    {memory recvBuf : Memory} {labels : List NetLabel} {final : NetState}
    (ran : network.run (netInit start memory recvBuf) labels = some final)
    {call : CallbackCall} {request answer : SentMsg} {run : JobRun}
    (trip : RoundTrip final call request answer run) :
    SendsOnlyTo final run.serial request.link <-> request.link = answer.link := by
  have inv := netInv_of_run (idle_of_threadPoolInit uninitialised noWorkers initialised) ran
  rcases Option.bind_eq_some_iff.mp trip.routes with ⟨arrival, isArrival, isAnswer⟩
  rcases Option.bind_eq_some_iff.mp isArrival with ⟨id, isId, atId⟩
  rcases inv.arrivals id arrival atId with ⟨packet, msg, ok⟩
  cases Option.some.inj (ok.sent.symm.trans isAnswer)
  have isPacket : final.route.packetOf run.serial = some packet :=
    Option.bind_eq_some_iff.mpr ⟨id, isId, ok.received⟩
  have sent := inv.answer_sends trip.executed isPacket ok.bytes trip.isAnswer trip.passed
  have made := inv.sends.made run trip.executed
  rw [sent] at made
  rcases List.map_eq_singleton_iff.mp made with ⟨delivery, isDelivery, isCall⟩
  have member : delivery ∈ deliveriesOf final.deliveries run.serial := by
    rw [isDelivery]
    exact List.mem_singleton_self _
  rcases List.mem_filter.mp member with ⟨recorded, isSerial⟩
  have checked := inv.deliveries delivery recorded
  rcases checked.apart with ⟨same, isSame, apart⟩
  rw [of_decide_eq_true isSerial, isArrival] at isSame
  cases isSame
  have isFd : delivery.call.fd = arrival.conn.fd := by
    rw [isCall]
    exact ok.fd
  have old : request.link < arrival.accepted := by
    rcases trip.called with ⟨index, called, before⟩
    exact ok.requester inv called before trip.requested
  have reaches : delivery.reached = some request.link <-> request.link = answer.link := by
    rw [reached_eq_some_iff checked.fds, ok.link]
    constructor
    · rintro ⟨conn, isOpen, sameFd, isLink⟩
      rw [← isLink]
      exact (apart conn isOpen (isLink ▸ old)).mp (sameFd.trans isFd)
    · intro isLink
      rcases trip.stillOpen delivery member with ⟨conn, isOpen, isConn⟩
      refine ⟨conn, isOpen, ?_, isConn⟩
      exact ((apart conn isOpen (isConn ▸ old)).mpr (isConn.trans isLink)).trans isFd.symm
  rw [← reaches]
  constructor
  · rintro ⟨other, isOther, reached⟩
    rw [isDelivery] at isOther
    cases isOther
    exact reached
  · exact fun reached => ⟨delivery, isDelivery, reached⟩

/-- A message with one payload byte. -/
def smallMessage (dataType msgType src appId : UInt8) : MsgRouteDataInfo :=
  Memory.ofBytes [dataType, 0, 0, 0, msgType, 0, 0, 0, src, 0, 0, 0, appId, 0, 0, 0,
    0, 0, 0, 0, 0, 0, 0, 0, 0, 0, 0, 0, 1, 0, 0, 0, 7]

/-- The server routes the packet in its buffer with a job of this many steps. -/
def routeLabels (jobSteps : Nat) : List NetLabel :=
  (enqueueLabels 0 1 2 ++ dequeueLabels (Memory.ofBytes [])).map NetLabel.core ++
  List.replicate jobSteps (.job 0) ++ [.core (.worker 0 (Memory.ofBytes []))]

/-- Two clients: the second one subscribes, gets a request from the first one,
and answers it. -/
def requestAnswered : List NetLabel :=
  [.init 0 2 3 0 (Memory.ofBytes []), .init 1 1 3 0 (Memory.ofBytes []), .accept 5 true,
    .accept 6 true, .subscribe 1 (Memory.ofBytes []) ⟨3, some 0⟩, .store 1 0, .recv 6 false,
    .send 0 (smallMessage 1 3 0 1) false, .recv 5 false] ++ routeLabels 7 ++
  List.replicate 3 (.rx 1 0 false) ++ [.send 1 (smallMessage 2 3 5 2) false, .recv 6 false] ++
  routeLabels 4

/-- A client subscribes, gets a request from itself, and answers it. -/
def selfAnswered : List NetLabel :=
  [.init 0 1 3 0 (Memory.ofBytes []), .accept 5 true, .subscribe 0 (Memory.ofBytes []) ⟨3, some 0⟩,
    .store 0 0, .recv 5 false, .send 0 (smallMessage 1 3 0 1) false, .recv 5 false] ++
  routeLabels 7 ++ List.replicate 3 (.rx 0 0 false) ++
  [.send 0 (smallMessage 2 3 5 2) false, .recv 5 false] ++ routeLabels 4

set_option synthInstance.maxSize 1024 in
/-- A run that ends with a round trip between the connections `asked` and `answered`. -/
theorem exists_roundTrip (labels : List NetLabel) (client asked answered : Nat) (src : Int32)
    (connections : List Nat) (isOpen : asked ∈ connections)
    (reached : let cell : DoublyLinkedListNode Addr := ⟨none, .jobListHead, .jobListHead⟩
      ((threadPoolInit (poolStatics JobFunc (List UInt8) cell) 1 (.success cell)).bind
        InitResult.started).bind (fun start =>
          (network.run (netInit start (Memory.ofBytes []) (Memory.ofBytes [])) labels).map
            (fun final =>
              ((final.callbacks[0]?.map (fun call =>
                  (call.client, call.serial, call.msgData.dataType, call.msgData.src)),
                (final.origin 0).map SentMsg.link,
                (final.origin 1).map (fun answer =>
                  (answer.client, answer.link, answer.sendData.dataType, answer.sendData.src,
                    answer.calls))),
                final.route.runs[1]?.map (fun run => (run.serial, run.returned)),
                (deliveriesOf final.deliveries 1).map (fun delivery =>
                  (delivery.reached, delivery.connections.map Connection.id))))) =
        some ((some (client, 0, 1, src), some asked, some (client, answered, 2, src, 1)),
          some (1, true), [(some answered, connections)])) :
    let cell : DoublyLinkedListNode Addr := ⟨none, .jobListHead, .jobListHead⟩
    Exists fun start => Exists fun final => Exists fun call => Exists fun request =>
      Exists fun answer => Exists fun run =>
        threadPoolInit (poolStatics JobFunc (List UInt8) cell) 1 (.success cell) =
          some (.returned 0 start) ∧
        network.run (netInit start (Memory.ofBytes []) (Memory.ofBytes [])) labels = some final ∧
        RoundTrip final call request answer run ∧ request.link = asked ∧ answer.link = answered ∧
        SendsOnlyTo final run.serial answered := by
  intro cell
  rcases InitResult.exists_run reached with ⟨start, final, done, ran, parts⟩
  simp only [Prod.mk.injEq] at parts
  rcases parts with ⟨⟨isCall, isRequest, isAnswer⟩, isRun, isDelivery⟩
  rcases Option.map_eq_some_iff.mp isCall with ⟨call, called, callParts⟩
  rcases Option.map_eq_some_iff.mp isRequest with ⟨request, requested, requestLink⟩
  rcases Option.map_eq_some_iff.mp isAnswer with ⟨answer, routes, answerParts⟩
  rcases Option.map_eq_some_iff.mp isRun with ⟨run, executed, runParts⟩
  rcases List.map_eq_singleton_iff.mp isDelivery with ⟨delivery, delivered, deliveryParts⟩
  simp only [Prod.mk.injEq] at callParts answerParts runParts deliveryParts
  rcases callParts with ⟨callClient, callSerial, callType, callSrc⟩
  rcases answerParts with ⟨answerClient, answerLink, answerType, answerSrc, answerCalls⟩
  rcases runParts with ⟨runSerial, returned⟩
  rcases deliveryParts with ⟨deliveryLink, deliveryConnections⟩
  refine ⟨start, final, call, request, answer, run, done, ran, ?_, requestLink, answerLink, ?_⟩
  · constructor
    · exact ⟨0, called, answerCalls ▸ Nat.zero_lt_one⟩
    · exact callType
    · exact callSerial ▸ requested
    · exact answerClient.trans callClient.symm
    · exact answerType
    · exact answerSrc.trans callSrc.symm
    · exact runSerial ▸ routes
    · exact List.mem_of_getElem? executed
    · exact Or.inr returned
    · intro other member
      rw [runSerial, delivered] at member
      rw [List.mem_singleton.mp member, requestLink]
      rw [← deliveryConnections] at isOpen
      exact List.mem_map.mp isOpen
  · rw [runSerial]
    exact ⟨delivery, delivered, deliveryLink⟩

set_option synthInstance.maxSize 1024 in
/-- The answer of the second client goes to the second client. -/
theorem requestAnswered_goesBack :
    let cell : DoublyLinkedListNode Addr := ⟨none, .jobListHead, .jobListHead⟩
    Exists fun start => Exists fun final => Exists fun call => Exists fun request =>
      Exists fun answer => Exists fun run =>
        threadPoolInit (poolStatics JobFunc (List UInt8) cell) 1 (.success cell) =
          some (.returned 0 start) ∧
        network.run (netInit start (Memory.ofBytes []) (Memory.ofBytes [])) requestAnswered =
          some final ∧
        RoundTrip final call request answer run ∧ request.link ≠ answer.link ∧
        SendsOnlyTo final run.serial answer.link ∧
        ¬ SendsOnlyTo final run.serial request.link := by
  intro cell
  rcases exists_roundTrip requestAnswered 1 0 1 5 [1, 0] (by decide) (by decide +kernel) with
    ⟨start, final, call, request, answer, run, initialised, ran, trip, isRequest, isAnswer, sent⟩
  refine ⟨start, final, call, request, answer, run, initialised, ran, trip, ?_, ?_, ?_⟩
  · rw [isRequest, isAnswer]
    decide
  · rw [isAnswer]
    exact sent
  · rw [isRequest]
    rintro ⟨first, isFirst, toFirst⟩
    rcases sent with ⟨second, isSecond, toSecond⟩
    cases isFirst.symm.trans isSecond
    cases toFirst.symm.trans toSecond

set_option synthInstance.maxSize 1024 in
/-- The answer of a client to itself returns to the requester. -/
theorem answer_returns_iff_selfAnswered :
    let cell : DoublyLinkedListNode Addr := ⟨none, .jobListHead, .jobListHead⟩
    Exists fun start => Exists fun final => Exists fun call => Exists fun request =>
      Exists fun answer => Exists fun run =>
        threadPoolInit (poolStatics JobFunc (List UInt8) cell) 1 (.success cell) =
          some (.returned 0 start) ∧
        network.run (netInit start (Memory.ofBytes []) (Memory.ofBytes [])) selfAnswered =
          some final ∧
        RoundTrip final call request answer run ∧ SendsOnlyTo final run.serial request.link := by
  intro cell
  rcases exists_roundTrip selfAnswered 0 0 0 5 [0] (by decide) (by decide +kernel) with
    ⟨start, final, call, request, answer, run, initialised, ran, trip, isRequest, isAnswer, _⟩
  refine ⟨start, final, call, request, answer, run, initialised, ran, trip, ?_⟩
  exact (answer_returns_iff rfl (fun pc member => absurd member List.not_mem_nil) initialised ran
    trip).mpr (isRequest.trans isAnswer.symm)

end MsgRoute
end V2x
