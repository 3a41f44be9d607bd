import V2x.MsgRoute.Naming

namespace V2x
namespace MsgRoute

open Foundations ThreadPool

/-!
# The network as a broker

`server_implements_broker` looks at what the server receives.  Here the requests
are the calls of the two subscription functions, in any number of processes.
Every link is a queue of them, so what the server has handled of a link is the
beginning of what was called on it.  For a link that is empty the calls decide
alone who receives what.
-/

/-! ## Requests -/

/-- What a connection asks for with these numbers. -/
def requestOf (conn slot type : Nat) (isAdd : Bool) : Option SubscriberEvent :=
  if isApp : slot < maxAppId then
    if isType : type < msgRouteMaxMsg then some (.request conn ⟨slot, isApp⟩ ⟨type, isType⟩ isAdd)
    else none
  else none

/-- The request in a packet of the connection. -/
def requestIn (conn : Nat) (sent : List UInt8) : Option SubscriberEvent :=
  match packetKind (sent.take recvSize) with
  | .control isAdd =>
      requestOf conn (packetSlot (sent.take recvSize)) (packetType (sent.take recvSize)) isAdd
  | .disconnect | .dropped | .routed => none

/-- What a call asks for on the link of the client. -/
def Client.asks (client : Client) (call : ControlCall) : Option SubscriberEvent :=
  client.link.bind (fun link =>
    requestOf link client.vars.curAppId.toInt.toNat call.index call.entry.rxFunc.isSome)

namespace NetState

variable (state : NetState)

/-- What the call of a step asks for. -/
def asks : NetLabel -> List SubscriberEvent
  | .subscribe client sendBuf subscribeInfo =>
      ((msgRouteClientSubscribeMsg (state.clients client).vars sendBuf subscribeInfo).bind
        (state.clients client).asks).toList
  | .unsubscribe client sendBuf subscribeInfo =>
      ((msgRouteClientUnsubscribeMsg (state.clients client).vars sendBuf subscribeInfo).bind
        (state.clients client).asks).toList
  | _ => []

/-- The requests on their way to the server. -/
def onTheWay (link : Nat) : List SubscriberEvent :=
  (upOf state.links link).filterMap (fun packet => requestIn link packet.bytes)

/-- What the server handles in a step. -/
def handles (label : NetLabel) : List SubscriberEvent :=
  state.route.server.subscriberEvents (state.eventKind label)

end NetState

section Requests

variable {link conn slot type : Nat} {isAdd : Bool}

theorem eq_request_of_requestOf {event : SubscriberEvent}
    (isRequest : requestOf conn slot type isAdd = some event) :
    Exists fun app => Exists fun topic => event = .request conn app topic isAdd := by
  unfold requestOf at isRequest
  split at isRequest
  · split at isRequest
    · exact ⟨_, _, (Option.some.inj isRequest).symm⟩
    · cases isRequest
  · cases isRequest

theorem requestsBy_requestOf : requestsBy link (requestOf conn slot type isAdd).toList =
    if link = conn then (requestOf conn slot type isAdd).toList else [] := by
  cases isRequest : requestOf conn slot type isAdd with
  | none => exact (ite_self _).symm
  | some event =>
      rcases eq_request_of_requestOf isRequest with ⟨app, topic, rfl⟩
      by_cases same : link = conn
      · simp [requestsBy, BrokerEvent.asker?, same]
      · simp [requestsBy, BrokerEvent.asker?, same, Ne.symm same]

theorem requestsBy_requestIn (link conn : Nat) (sent : List UInt8) :
    requestsBy link (requestIn conn sent).toList =
      if link = conn then (requestIn conn sent).toList else [] := by
  unfold requestIn
  split
  next => exact requestsBy_requestOf
  next => exact (ite_self _).symm
  next => exact (ite_self _).symm
  next => exact (ite_self _).symm

variable {state : NetState} {label : NetLabel}

theorem asks_of_noCall (noCall : forall client vars, controlCallOf vars client label = none) :
    state.asks label = [] := by
  cases label with
  | subscribe client sendBuf subscribeInfo | unsubscribe client sendBuf subscribeInfo =>
      have none_ := noCall client (state.clients client).vars
      simp only [controlCallOf, if_true] at none_
      simp only [NetState.asks, none_, Option.bind_none, Option.toList_none]
  | _ => rfl

theorem asks_of_call {client : Nat} {call : ControlCall}
    (isCall : controlCallOf (state.clients client).vars client label = some call) :
    state.asks label = ((state.clients client).asks call).toList := by
  cases label with
  | subscribe other sendBuf subscribeInfo | unsubscribe other sendBuf subscribeInfo =>
      simp only [controlCallOf] at isCall
      split at isCall
      next same =>
        subst same
        simp only [NetState.asks, isCall, Option.bind_some]
      next => cases isCall
  | _ => cases isCall

/-- The packet of a call has the request of the call. -/
theorem requestIn_control {client : Client} {fd : Int32} {caller : Nat} {call : ControlCall}
    (validApp : 0 ≤ client.vars.curAppId.toInt ∧ client.vars.curAppId.toInt < maxAppId)
    (isCall : controlCallOf client.vars caller label = some call) (isLink : client.link = some link) :
    requestIn link (msgRouteClientSendMsg fd call.sendData false).sendBytes = client.asks call := by
  rcases controlCall_received fd isCall validApp with ⟨_, kind, isSlot, isType⟩
  simp only [requestIn, kind, isSlot, isType, Client.asks, isLink, Option.bind_some]

theorem requestIn_of_msgType {fd : Int32} {sendData : MsgRouteDataInfo} {isBroadcast : Bool}
    (noControl : forall isAdd, sendData.msgType ≠ (controlType isAdd).code) :
    requestIn link (msgRouteClientSendMsg fd sendData isBroadcast).sendBytes = none := by
  unfold requestIn
  split
  next isAdd kind => exact absurd kind (not_control_of_msgType noControl isAdd)
  next => rfl
  next => rfl
  next => rfl

section Received

variable {server : ServerState} {conn : Connection}

theorem subscriberEvents_control (connected : server.Connected) (member : conn ∈ server.connections) :
    server.subscriberEvents (.control conn.fd slot type isAdd) =
      (requestOf conn.id slot type isAdd).toList := by
  simp only [ServerState.subscriberEvents, requestOf, connectionOf_eq connected member,
    Option.toList_some, List.map_cons, List.map_nil]
  by_cases isApp : slot < maxAppId
  · by_cases isType : type < msgRouteMaxMsg
    · simp only [isApp, isType, and_self, dif_pos, Option.toList_some]
    · simp only [isApp, isType, and_false, dif_pos, dif_neg, not_false_iff, Option.toList_none]
  · simp only [isApp, false_and, dif_neg, not_false_iff, Option.toList_none]

/-- What the server handles when it receives a packet of an open connection. -/
theorem requestsBy_received (connected : server.Connected) (member : conn ∈ server.connections)
    (sent : List UInt8) (link : Nat) :
    requestsBy link (server.subscriberEvents ((RecvResult.packet sent).kind conn.fd)) =
      if link = conn.id then (requestIn conn.id sent).toList else [] := by
  unfold requestIn
  simp only [RecvResult.kind]
  cases packetKind (sent.take recvSize) with
  | disconnect =>
      simp only [ServerState.subscriberEvents, connectionOf_eq connected member, Option.toList_some,
        List.map_cons, List.map_nil, Option.toList_none, ite_self]
      rfl
  | dropped | routed => exact (ite_self _).symm
  | control isAdd =>
      exact (congrArg (requestsBy link) (subscriberEvents_control connected member)).trans
        requestsBy_requestOf

end Received

end Requests

/-! ## Links as queues -/

section Steps

variable {state next : NetState} {label : NetLabel}

/-- The epoll thread takes the first packet of a link, or finds its end. -/
theorem recv_takes {fd : Int32} (stepped : netStep state (.recv fd false) = some next) :
    Exists fun conn => state.route.server.watchedConnection fd = some conn ∧
      upOf next.links =
        Function.update (upOf state.links) conn.id (upOf state.links conn.id).tail ∧
      ServerChange state.route.server next.route.server (state.eventKind (.recv fd false)) := by
  simp only [netStep, recvNet, Bool.false_eq_true, if_false] at stepped
  rcases Option.bind_eq_some_iff.mp stepped with ⟨conn, watched, rest⟩
  rcases Option.bind_eq_some_iff.mp rest with ⟨ends, isEnds, handled⟩
  refine ⟨conn, watched, ?_⟩
  have isUp := upOf_eq isEnds
  have isNext : state.nextPacket fd = (ends.uplink.head?).elim [] UpPacket.bytes := by
    rw [NetState.nextPacket, watched, Option.bind_some, isUp]
  simp only [NetState.eventKind, isNext]
  split at handled
  next packet others uplink =>
    rcases event_serverChange handled with ⟨links, change⟩
    rw [links, upOf_set isEnds, isUp, uplink]
    exact ⟨rfl, change⟩
  next uplink =>
    split at handled
    · cases handled
    · rcases event_serverChange handled with ⟨links, change⟩
      rw [links, isUp, uplink]
      refine ⟨?_, change⟩
      rw [List.tail_nil, ← uplink, ← isUp, Function.update_eq_self]

theorem netStep_serverChange (stepped : netStep state label = some next) :
    ServerChange state.route.server next.route.server (state.eventKind label) := by
  have quiet : next.route = state.route ->
      ServerChange state.route.server next.route.server .quiet := by
    intro same
    rw [same]
    exact .quiet rfl rfl rfl rfl
  cases label with
  | accept clientFd added =>
      simp only [netStep, acceptNet] at stepped
      split at stepped
      · exact (event_serverChange stepped).2
      · cases stepped
  | recv clientFd failed =>
      cases failed with
      | true =>
          simp only [netStep, recvNet, if_true] at stepped
          exact (event_serverChange stepped).2
      | false =>
          rcases recv_takes stepped with ⟨_, _, _, change⟩
          exact change
  | core moved => exact (core_serverChange stepped).2.2
  | job thread =>
      rcases Option.bind_eq_some_iff.mp stepped with ⟨⟨run, frame, calls⟩, isMove, rest⟩
      rcases Option.bind_eq_some_iff.mp rest with ⟨route, moved, isNext⟩
      cases isNext
      have server := (jobEffect isMove moved).1
      simp only [NetState.eventKind, server]
      exact .quiet rfl rfl rfl rfl
  | init | deinit | send | subscribe | unsubscribe | store | rx =>
      exact quiet (route_clients stepped trivial)

theorem handles_of_not_recv (notRecv : forall fd, label ≠ .recv fd false) :
    state.handles label = [] := by
  cases label with
  | recv fd failed =>
      cases failed with
      | true => rfl
      | false => exact absurd rfl (notRecv fd)
  | _ => rfl

/-- A step puts the request of a call at the end of its link, and the server takes requests from the
front. -/
theorem requests_step (one : OneName state) (orderly : Orderly state label)
    (stepped : netStep state label = some next) (link : Nat) :
    state.onTheWay link ++ requestsBy link (state.asks label) =
      requestsBy link (state.handles label) ++ next.onTheWay link := by
  by_cases isRecv : Exists fun fd => label = .recv fd false
  · rcases isRecv with ⟨fd, rfl⟩
    rcases recv_takes stepped with ⟨conn, watched, up, _⟩
    rcases watchedConnection_spec watched with ⟨member, rfl, _⟩
    have isNext : state.nextPacket conn.fd =
        ((upOf state.links conn.id).head?).elim [] UpPacket.bytes := by
      rw [NetState.nextPacket, watched, Option.bind_some]
    have handled := requestsBy_received one.connected member (state.nextPacket conn.fd) link
    simp only [NetState.asks, NetState.handles, NetState.eventKind, handled, NetState.onTheWay, up,
      Function.update_apply]
    by_cases same : link = conn.id
    · subst same
      rw [if_pos rfl, if_pos rfl, isNext]
      cases upOf state.links conn.id with
      | nil => rfl
      | cons packet rest =>
          simp only [List.head?_cons, Option.elim_some, List.tail_cons, List.filterMap_cons]
          cases requestIn conn.id packet.bytes with
          | none => exact List.append_nil _
          | some request => exact List.append_nil _
    · rw [if_neg same, if_neg same]
      exact List.append_nil _
  · have notRecv : forall fd, label ≠ .recv fd false := fun fd same => isRecv ⟨fd, same⟩
    rw [handles_of_not_recv notRecv]
    cases netStep_controlMove stepped with
    | quiet noCall up _ | accepts _ noCall up _ | ends _ noCall _ _ up _ =>
        rw [asks_of_noCall noCall, NetState.onTheWay, NetState.onTheWay, up]
        exact List.append_nil _
    | receives fd _ _ _ isLabel => exact absurd isLabel (notRecv fd)
    | sends client number sent sendData isBroadcast isSend up _ =>
        rcases isSend with ⟨isLink, isLabel, _⟩
        have isRequest : state.asks label = (requestIn number
            (msgRouteClientSendMsg (state.clients client).vars.fd sendData isBroadcast).sendBytes).toList := by
          rcases isLabel with rfl | ⟨rfl, call, isCall, rfl⟩
          · rw [requestIn_of_msgType orderly.1]
            rfl
          · rw [requestIn_control (one.apps client) isCall isLink, asks_of_call isCall]
        simp only [NetState.onTheWay, up, Function.update_apply, isRequest, requestsBy_requestIn]
        by_cases same : link = number
        · subst same
          rw [if_pos rfl, if_pos rfl, List.filterMap_append]
          rfl
        · rw [if_neg same, if_neg same]
          exact List.append_nil _

/-- The server serves the links that the broker would serve. -/
theorem implements_step {broker : Subscribers} (one : OneName state)
    (implements : Implements state.route.server broker) (orderly : Orderly state label)
    (stepped : netStep state label = some next) :
    Exists fun after => (brokering _ _ _).run broker (state.handles label) = some after ∧
      Implements next.route.server after := by
  have dedicated := one.dedicated orderly
  have change := netStep_serverChange stepped
  apply implements.step dedicated (connected_netStep one.connected stepped)
  refine tableChange_of_serverChange one.connected ?_ change
  intro fd slot type isAdd isKind
  rw [isKind] at dedicated
  exact dedicated.1

/-- A connection that has left is not open and does not come back. -/
def Gone (event : SubscriberEvent) (state : NetState) : Prop :=
  forall id, event = .leave id -> id < state.route.server.accepted ∧
    forall conn, conn ∈ state.route.server.connections -> conn.id ≠ id

theorem gone_step {event : SubscriberEvent} (stepped : netStep state label = some next)
    (gone : Gone event state) : Gone event next := by
  intro id isLeave
  rcases gone id isLeave with ⟨below, absent⟩
  rcases connections_grow (netStep_serverChange stepped) with ⟨grows, old⟩
  refine ⟨below.trans_le grows, fun conn member => ?_⟩
  rcases old conn member with before | new
  · exact absent conn before
  · exact Nat.ne_of_gt (below.trans_le new)

theorem gone_of_handles {event : SubscriberEvent} (connected : state.route.server.Connected)
    (stepped : netStep state label = some next) (member : event ∈ state.handles label) :
    Gone event next := by
  rintro id rfl
  have change := netStep_serverChange stepped
  rw [NetState.handles] at member
  generalize state.eventKind label = kind at change member
  cases change with
  | quiet | accepted => exact absurd member List.not_mem_nil
  | control conn bytes isAdd isConn =>
      rw [subscriberEvents_control connected isConn] at member
      rcases eq_request_of_requestOf (Option.mem_toList.mp member) with ⟨_, _, isRequest⟩
      cases isRequest
  | disconnected conn isConn _ connections accepted _ =>
      simp only [ServerState.subscriberEvents, connectionOf_eq connected isConn, Option.toList_some,
        List.map_cons, List.map_nil, List.mem_singleton, BrokerEvent.leave.injEq] at member
      subst member
      rw [connections, accepted]
      refine ⟨connected.idsBelow conn isConn, fun other remains same => ?_⟩
      rcases List.mem_filter.mp remains with ⟨isOther, differs⟩
      rw [connected.idsDistinct other isOther conn isConn same, bne_self_eq_false] at differs
      cases differs

end Steps

/-! ## Runs -/

section Runs

variable (pool : RoutePool) (memory recvBuf : Memory)

/-- What the processes ask for in a run. -/
def askedIn (labels : List NetLabel) : List SubscriberEvent :=
  network.trace NetState.asks (netInit pool memory recvBuf) labels

/-- What the server handles in a run. -/
def handledIn (labels : List NetLabel) : List SubscriberEvent :=
  network.trace NetState.handles (netInit pool memory recvBuf) labels

theorem OneName.start : OneName (netInit pool memory recvBuf) where
  connected := Connected.start
  cover := Nat.zero_le _
  exclusive := exclusive_netInit pool memory recvBuf
  apps := by
    have zero : (0 : Int) < maxAppId := by decide
    exact fun _ => ⟨Int.le_refl 0, zero⟩
  typed := fun _ _ _ member => absurd member List.not_mem_nil
  single := by
    have silent : forall link slot, ¬ (netInit pool memory recvBuf).SpeaksFor link slot := by
      intro link slot speaks
      cases speaks with
      | handled record member => exact absurd member List.not_mem_nil
      | sent packet isAdd member => exact absurd member List.not_mem_nil
      | client client isLink => cases isLink
    exact fun link first _ speaks => absurd speaks (silent link first)

variable {labels : List NetLabel} {final : NetState}

/-- What the server has handled of a link is the beginning of what was asked for on it. -/
theorem requests_run (orderly : network.AllSteps Orderly (netInit pool memory recvBuf) labels)
    (ran : network.run (netInit pool memory recvBuf) labels = some final) (link : Nat) :
    requestsBy link (askedIn pool memory recvBuf labels) =
      requestsBy link (handledIn pool memory recvBuf labels) ++ final.onTheWay link := by
  have queue := network.trace_queue (fun state label next one orderly stepped => one.step orderly stepped)
    (fun state label next one orderly stepped => requests_step one orderly stepped link)
    (OneName.start pool memory recvBuf) orderly ran
  rw [askedIn, handledIn, requestsBy, requestsBy, ← network.trace_filter, ← network.trace_filter]
  exact queue

theorem implements_run (orderly : network.AllSteps Orderly (netInit pool memory recvBuf) labels)
    (ran : network.run (netInit pool memory recvBuf) labels = some final) :
    Exists fun broker =>
      (brokering _ _ _).run Broker.empty (handledIn pool memory recvBuf labels) = some broker ∧
      Implements final.route.server broker := by
  have follows : forall {state next : NetState} {label : NetLabel} {broker : Subscribers},
      OneName state ∧ Implements state.route.server broker -> Orderly state label ->
      network.step state label = some next -> Exists fun after =>
        (brokering _ _ _).run broker (state.handles label) = some after ∧
        OneName next ∧ Implements next.route.server after := by
    intro state next label broker related orderly stepped
    rcases implements_step related.1 related.2 orderly stepped with ⟨after, moved, implements⟩
    exact ⟨after, moved, related.1.step orderly stepped, implements⟩
  rcases Machine.run_trace_of_allSteps follows
    ⟨OneName.start pool memory recvBuf, implements_serverInit memory recvBuf⟩ orderly ran with
    ⟨broker, moved, _, implements⟩
  exact ⟨broker, moved, implements⟩

/-- The broker has seen no open connection leave. -/
theorem leave_not_mem_handledIn (ran : network.run (netInit pool memory recvBuf) labels = some final)
    {conn : Connection} (member : conn ∈ final.route.server.connections) :
    .leave conn.id ∉ handledIn pool memory recvBuf labels := by
  intro left
  have opening : (netInit pool memory recvBuf).route.server.Connected := Connected.start
  have gone := network.forall_mem_trace (fun state label next connected stepped =>
      connected_netStep connected stepped)
    (fun state label next event connected stepped isHandled =>
      gone_of_handles connected stepped isHandled)
    (fun state label next event _ stepped isGone => gone_step stepped isGone)
    opening ran (.leave conn.id) left
  exact (gone conn.id rfl).2 conn member rfl

theorem leave_not_mem_askedIn (ran : network.run (netInit pool memory recvBuf) labels = some final)
    (link : Nat) : .leave link ∉ askedIn pool memory recvBuf labels := by
  have isRequest : forall (state : NetState) (label : NetLabel) event, event ∈ state.asks label ->
      event ≠ .leave link := by
    rintro state label event member rfl
    have made : forall (client : Client) call, client.asks call ≠ some (.leave link) := by
      intro client call isAsked
      rcases Option.bind_eq_some_iff.mp isAsked with ⟨number, _, isRequested⟩
      rcases eq_request_of_requestOf isRequested with ⟨_, _, isRequest⟩
      cases isRequest
    cases label with
    | subscribe | unsubscribe =>
        rcases Option.bind_eq_some_iff.mp (Option.mem_toList.mp member) with ⟨call, _, isAsked⟩
        exact made _ call isAsked
    | _ => exact absurd member List.not_mem_nil
  intro left
  exact network.forall_mem_trace (fun _ _ _ _ _ => trivial)
    (fun state label next event _ _ isAsked => isRequest state label event isAsked)
    (fun _ _ _ _ _ _ kept => kept) trivial ran (.leave link) left rfl

/-- In a run of orderly processes, from the start of the server and before any client has called the
library, the server routes as a broker does that takes the requests which have arrived.  On each link
these are the first that were made, in the same order. -/
theorem network_implements_broker
    (orderly : network.AllSteps Orderly (netInit pool memory recvBuf) labels)
    (ran : network.run (netInit pool memory recvBuf) labels = some final) :
    Exists fun broker =>
      (brokering _ _ _).run Broker.empty (handledIn pool memory recvBuf labels) = some broker ∧
      (forall link, requestsBy link (askedIn pool memory recvBuf labels) =
        requestsBy link (handledIn pool memory recvBuf labels) ++ final.onTheWay link) ∧
      forall msgData (valid : isMsgRouteValidMsg msgData = true),
        (routingRule final.route.server.clientInfo msgData).Nodup ∧
        forall fd, (fd ∈ routingRule final.route.server.clientInfo msgData <-> Exists fun conn =>
          conn ∈ final.route.server.connections ∧ conn.fd = fd ∧
            broker.Receives (addressee msgData valid) (topicOf msgData valid) conn.id) := by
  rcases implements_run pool memory recvBuf orderly ran with ⟨broker, moved, implements⟩
  refine ⟨broker, moved, requests_run pool memory recvBuf orderly ran, fun msgData valid => ?_⟩
  exact ⟨implements.routingRule_nodup valid, implements.mem_routingRule_iff valid⟩

/-- Two applications ask for the type 3.  The second one no longer wants it, and the server does not
know that yet. -/
def twoSubscribers : List NetLabel :=
  let buffer := Memory.ofBytes []
  [.init 0 1 3 0 buffer, .accept 5 true, .init 1 2 3 0 buffer, .accept 6 true,
    .subscribe 0 buffer ⟨3, some 0⟩, .unsubscribe 0 buffer ⟨3, none⟩, .subscribe 0 buffer ⟨3, some 0⟩,
    .subscribe 1 buffer ⟨3, some 0⟩, .recv 5 false, .recv 6 false, .recv 5 false, .recv 5 false,
    .unsubscribe 1 buffer ⟨3, none⟩]

/-- A message of the type 3 for everybody. -/
def noticeThree : MsgRouteDataInfo := Memory.ofBytes [0, 0, 0, 0, 3]

theorem twoSubscribers_run :
    let cell : DoublyLinkedListNode Addr := ⟨none, .jobListHead, .jobListHead⟩
    let memory := Memory.ofBytes []
    Exists fun start => Exists fun final =>
      threadPoolInit (poolStatics JobFunc (List UInt8) cell) 1 (.success cell) =
        some (.returned 0 start) ∧
      network.run (netInit start memory memory) twoSubscribers = some final ∧
      network.AllSteps Orderly (netInit start memory memory) twoSubscribers ∧
      routingRule final.route.server.clientInfo noticeThree = [5, 6] ∧
      final.route.server.connections.map (fun conn => (conn.id, conn.fd)) = [(1, 6), (0, 5)] ∧
      (final.onTheWay 0).length = 0 ∧ (final.onTheWay 1).length = 1 := by
  intro cell memory
  have reached : ((threadPoolInit (poolStatics JobFunc (List UInt8) cell) 1 (.success cell)).bind
      InitResult.started).bind (fun start =>
        (network.run (netInit start memory memory) twoSubscribers).map (fun final =>
          decide (network.AllSteps Orderly (netInit start memory memory) twoSubscribers ∧
            routingRule final.route.server.clientInfo noticeThree = [5, 6] ∧
            final.route.server.connections.map (fun conn => (conn.id, conn.fd)) = [(1, 6), (0, 5)] ∧
            (final.onTheWay 0).length = 0 ∧ (final.onTheWay 1).length = 1))) = some true := by
    decide +kernel
  rcases InitResult.exists_run reached with ⟨start, final, done, ran, observed⟩
  exact ⟨start, final, done, ran, of_decide_eq_true observed⟩

theorem network_implements_broker_twoSubscribers :
    let cell : DoublyLinkedListNode Addr := ⟨none, .jobListHead, .jobListHead⟩
    let memory := Memory.ofBytes []
    Exists fun start => Exists fun final => Exists fun broker => Exists fun valid =>
      threadPoolInit (poolStatics JobFunc (List UInt8) cell) 1 (.success cell) =
        some (.returned 0 start) ∧
      network.run (netInit start memory memory) twoSubscribers = some final ∧
      (brokering Nat (Fin maxAppId) (Fin msgRouteMaxMsg)).run Broker.empty
        (handledIn start memory memory twoSubscribers) = some broker ∧
      (requestsBy 1 (askedIn start memory memory twoSubscribers)).length =
        (requestsBy 1 (handledIn start memory memory twoSubscribers)).length + 1 ∧
      broker.Receives (addressee noticeThree valid) (topicOf noticeThree valid) 1 := by
  intro cell memory
  have valid : isMsgRouteValidMsg noticeThree = true := by decide
  rcases twoSubscribers_run with ⟨start, final, done, ran, orderly, rule, conns, _, waiting⟩
  rcases network_implements_broker start memory memory orderly ran with
    ⟨broker, moved, queues, routes⟩
  refine ⟨start, final, broker, valid, done, ran, moved, ?_, ?_⟩
  · rw [queues 1, List.length_append, waiting]
  · have isRouted : (6 : Int32) ∈ routingRule final.route.server.clientInfo noticeThree := by
      rw [rule]
      decide
    rcases ((routes noticeThree valid).2 6).mp isRouted with ⟨conn, member, isFd, receives⟩
    have known : (conn.id, conn.fd) ∈ [(1, 6), (0, 5)] := by
      rw [← conns]
      exact List.mem_map_of_mem member
    simp only [isFd, List.mem_cons, Prod.mk.injEq, List.not_mem_nil, or_false, and_true] at known
    rcases known with isId | ⟨_, different⟩
    · exact isId ▸ receives
    · exact absurd different (by decide)

/-- Once the requests on a link have arrived, its connection receives the messages of a type exactly
if the last call about the type was a subscription, and the messages for an application exactly if
it has asked under its number. -/
theorem routed_iff_subscribed
    (orderly : network.AllSteps Orderly (netInit pool memory recvBuf) labels)
    (ran : network.run (netInit pool memory recvBuf) labels = some final) {conn : Connection}
    (member : conn ∈ final.route.server.connections) (arrived : final.onTheWay conn.id = [])
    (msgData : MsgRouteDataInfo) (valid : isMsgRouteValidMsg msgData = true) :
    conn.fd ∈ routingRule final.route.server.clientInfo msgData <->
      lastAsked conn.id (topicOf msgData valid) (askedIn pool memory recvBuf labels) = some true ∧
      forall app, addressee msgData valid = some app -> Exists fun type => Exists fun isAdd =>
        .request conn.id app type isAdd ∈ askedIn pool memory recvBuf labels := by
  rcases implements_run pool memory recvBuf orderly ran with ⟨broker, moved, implements⟩
  have stayed := leave_not_mem_handledIn pool memory recvBuf ran member
  have same := requests_run pool memory recvBuf orderly ran conn.id
  rw [arrived, List.append_nil] at same
  have topics : topicOf msgData valid ∈ broker.topics conn.id <->
      lastAsked conn.id (topicOf msgData valid) (askedIn pool memory recvBuf labels) = some true := by
    rw [mem_topics_run_iff moved, ← lastAsked_requestsBy stayed, ← same,
      lastAsked_requestsBy (leave_not_mem_askedIn pool memory recvBuf ran conn.id)]
  have names : forall app, broker.name conn.id = some app <-> Exists fun type => Exists fun isAdd =>
      .request conn.id app type isAdd ∈ askedIn pool memory recvBuf labels := by
    intro app
    rw [name_run_iff stayed moved]
    refine exists_congr fun type => exists_congr fun isAdd => ?_
    rw [← mem_requestsBy_iff, ← same, mem_requestsBy_iff]
  have receives : conn.fd ∈ routingRule final.route.server.clientInfo msgData <->
      broker.Receives (addressee msgData valid) (topicOf msgData valid) conn.id := by
    rw [implements.mem_routingRule_iff valid]
    constructor
    · rintro ⟨other, otherMember, sameFd, isServed⟩
      rw [implements.connected.fdsDistinct other otherMember conn member sameFd] at isServed
      exact isServed
    · exact fun isServed => ⟨conn, member, rfl, isServed⟩
  rw [receives, Broker.Receives, topics]
  simp only [names]

theorem routed_iff_subscribed_twoSubscribers :
    let cell : DoublyLinkedListNode Addr := ⟨none, .jobListHead, .jobListHead⟩
    let memory := Memory.ofBytes []
    Exists fun start => Exists fun valid =>
      threadPoolInit (poolStatics JobFunc (List UInt8) cell) 1 (.success cell) =
        some (.returned 0 start) ∧
      lastAsked 0 (topicOf noticeThree valid) (askedIn start memory memory twoSubscribers) =
        some true := by
  intro cell memory
  have valid : isMsgRouteValidMsg noticeThree = true := by decide
  rcases twoSubscribers_run with ⟨start, final, done, ran, orderly, rule, conns, arrived, _⟩
  refine ⟨start, valid, done, ?_⟩
  have listed : ((0, 5) : Nat × Int32) ∈
      final.route.server.connections.map (fun conn => (conn.id, conn.fd)) := by
    rw [conns]
    exact List.mem_cons_of_mem _ List.mem_cons_self
  rcases List.mem_map.mp listed with ⟨conn, member, isConn⟩
  rcases Prod.mk.inj isConn with ⟨isId, isFd⟩
  have isRouted : conn.fd ∈ routingRule final.route.server.clientInfo noticeThree := by
    rw [rule, isFd]
    exact List.mem_cons_self
  have taken : final.onTheWay conn.id = [] := by
    rw [isId]
    exact List.length_eq_zero_iff.mp arrived
  have asked := (routed_iff_subscribed start memory memory orderly ran member taken noticeThree
    valid).mp isRouted
  rw [isId] at asked
  exact asked.1

end Runs

end MsgRoute
end V2x
