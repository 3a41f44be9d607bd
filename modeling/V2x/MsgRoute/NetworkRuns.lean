import V2x.MsgRoute.NetworkInvariant

namespace V2x
namespace MsgRoute

open Foundations ThreadPool

/-!
# Every step of the network keeps the records

The steps of the clients leave the server alone, the steps of the server leave
the clients alone, and both meet at the links.
-/

variable {state next : NetState}

/-! ## Steps of the clients -/

/-- A step that leaves the server as it is. -/
theorem grows_of_route (route : next.route = state.route) (arrivals : next.arrivals = state.arrivals)
    (sent : state.sent <+: next.sent) (callbacks : state.callbacks <+: next.callbacks) :
    Grows state next where
  ids := route ▸ List.prefix_rfl
  received := route ▸ List.prefix_rfl
  accepted := route ▸ Nat.le_refl _
  connections := by
    rw [route]
    exact fun conn member => Or.inl member
  sent := sent
  arrivals := arrivals ▸ List.prefix_rfl
  callbacks := callbacks

section Clients

theorem NetInv.clientStep (inv : NetInv state) (route : next.route = state.route)
    (arrivals : next.arrivals = state.arrivals) (deliveries : next.deliveries = state.deliveries)
    {sent : List SentMsg} {callbacks : List CallbackCall}
    (moreSent : next.sent = state.sent ++ sent)
    (moreCallbacks : next.callbacks = state.callbacks ++ callbacks)
    (links : Grows state next -> LinksOk next next.links)
    (clients : Grows state next -> ClientsOk next next.clients)
    (newSent : forall msg, msg ∈ sent -> msg.calls ≤ state.callbacks.length)
    (newCallbacks : forall record, record ∈ callbacks -> (state.arrivalOf record.serial).isSome) :
    NetInv next := by
  have grows : Grows state next :=
    grows_of_route route arrivals ⟨sent, moreSent.symm⟩ ⟨callbacks, moreCallbacks.symm⟩
  apply inv.grow grows
  · exact route ▸ inv.route
  · exact route ▸ inv.connected
  · rw [arrivals, route]
    exact inv.counted
  · intro id arrival isArrival new
    rw [arrivals] at isArrival
    exact absurd (List.getElem?_eq_some_iff.mp isArrival).1 (not_lt.mpr new)
  · exact fun delivery member => Or.inl (deliveries ▸ member)
  · rw [route, deliveries]
    exact inv.sends
  · exact links grows
  · exact clients grows
  · intro record member
    rw [moreCallbacks] at member
    rcases List.mem_append.mp member with old | new
    · exact Or.inl old
    · exact Or.inr (grows.arrivalOf_isSome (newCallbacks record new))
  · intro msg member
    rw [moreSent] at member
    rcases List.mem_append.mp member with old | new
    · exact Or.inl old
    · exact Or.inr ((newSent msg new).trans grows.callbacks.length_le)

/-- A step of a client that sends nothing and calls no callback. -/
theorem NetInv.quietStep (inv : NetInv state) (route : next.route = state.route)
    (arrivals : next.arrivals = state.arrivals) (deliveries : next.deliveries = state.deliveries)
    (sent : next.sent = state.sent) (callbacks : next.callbacks = state.callbacks)
    (links : LinksOk state next.links) (clients : ClientsOk state next.clients) : NetInv next := by
  refine inv.clientStep route arrivals deliveries (sent.trans (List.append_nil _).symm)
    (callbacks.trans (List.append_nil _).symm) links.grows clients.grows ?_ ?_
  · exact fun msg member => absurd member List.not_mem_nil
  · exact fun record member => absurd member List.not_mem_nil

theorem LinksOk.close {links : List Link} (ok : LinksOk state links) (link : Option Nat) :
    LinksOk state (closeLink links link) := by
  cases link with
  | none => exact ok
  | some link => exact ok.modify link (fun ends kept => ⟨kept.up, kept.down⟩)

theorem netInv_init {client : Nat} {appId fd : Int32} {threadRet : Int} {recvBuf : Memory}
    (inv : NetInv state)
    (stepped : initStep state client appId fd threadRet recvBuf = some next) : NetInv next := by
  simp only [initStep] at stepped
  split at stepped
  · cases stepped
  · cases stepped
    refine inv.quietStep rfl rfl rfl rfl rfl ?_ ?_
    · apply inv.links.append
      intro ends member
      split at member
      · rw [List.mem_singleton.mp member]
        exact ⟨rfl, rfl⟩
      · exact absurd member List.not_mem_nil
    · apply inv.clients.update client
      intro rx member
      rcases List.mem_append.mp member with old | new
      · exact inv.clients client rx old
      · split at new
        · rw [List.mem_singleton.mp new]
          trivial
        · exact absurd new List.not_mem_nil

theorem netInv_deinit {client : Nat} (inv : NetInv state)
    (stepped : deinitStep state client = some next) : NetInv next := by
  cases stepped
  exact inv.quietStep rfl rfl rfl rfl rfl (inv.links.close _)
    (inv.clients.update client (inv.clients client))

/-- A message that is sent is put into the link with its record. -/
theorem netInv_send {client : Nat} {sendData : MsgRouteDataInfo} {isBroadcast : Bool}
    (inv : NetInv state) (stepped : sendStep state client sendData isBroadcast = some next) :
    NetInv next := by
  rcases Option.bind_eq_some_iff.mp stepped with ⟨link, isLink, rest⟩
  rcases Option.bind_eq_some_iff.mp rest with ⟨ends, isEnds, isNext⟩
  cases isNext
  refine inv.clientStep rfl rfl rfl rfl (List.append_nil _).symm ?_ inv.clients.grows ?_ ?_
  · intro grows
    apply (inv.links.grows grows).set
    have before := (inv.links link ends isEnds).grows grows
    refine ⟨?_, before.down⟩
    intro packet member
    rcases List.mem_append.mp member with old | new
    · exact before.up packet old
    · rw [List.mem_singleton.mp new]
      exact ⟨_, List.getElem?_concat_length, rfl, rfl⟩
  · intro msg member
    rw [List.mem_singleton.mp member]
  · exact fun record member => absurd member List.not_mem_nil

theorem netInv_control {client : Nat} {call : Option ControlCall} (inv : NetInv state)
    (stepped : controlStep state client call = some next) : NetInv next := by
  rcases Option.bind_eq_some_iff.mp stepped with ⟨made, isMade, rest⟩
  rcases Option.bind_eq_some_iff.mp rest with ⟨middle, sent, isNext⟩
  cases isNext
  have between := netInv_send inv sent
  exact between.quietStep rfl rfl rfl rfl rfl between.links
    (between.clients.update client (between.clients client))

theorem netInv_store {client index : Nat} (inv : NetInv state)
    (stepped : storeStep state client index = some next) : NetInv next := by
  rcases Option.map_eq_some_iff.mp stepped with ⟨call, isCall, rfl⟩
  exact inv.quietStep rfl rfl rfl rfl rfl inv.links
    (inv.clients.update client (inv.clients client))

theorem netInv_rxRecv {client thread : Nat} {rx : RxThread} {link : Option Nat} {failed : Bool}
    (inv : NetInv state) (stepped : rxRecv state client thread rx link failed = some next) :
    NetInv next := by
  unfold rxRecv at stepped
  split at stepped
  · cases stepped
    exact inv.quietStep rfl rfl rfl rfl rfl inv.links
      (inv.clients.update client (inv.clients.setThread trivial))
  · rcases Option.bind_eq_some_iff.mp stepped with ⟨number, isLink, rest⟩
    rcases Option.bind_eq_some_iff.mp rest with ⟨ends, isEnds, taken⟩
    have before := inv.links number ends isEnds
    split at taken
    next packet others downlink =>
      cases taken
      have down := before.down
      rw [downlink] at down
      refine inv.quietStep rfl rfl rfl rfl rfl ?_ ?_
      · apply inv.links.set
        exact ⟨before.up, fun other member => down other (List.mem_cons_of_mem _ member)⟩
      · apply inv.clients.update client
        exact inv.clients.setThread (down packet List.mem_cons_self)
    next =>
      split at taken
      · cases taken
        exact inv.quietStep rfl rfl rfl rfl rfl (inv.links.close _)
          (inv.clients.update client (inv.clients.setThread trivial))
      · cases taken

theorem netInv_rx {client thread : Nat} {failed : Bool} (inv : NetInv state)
    (stepped : rxStep state client thread failed = some next) : NetInv next := by
  rcases Option.bind_eq_some_iff.mp stepped with ⟨rx, isThread, rest⟩
  have ok := inv.clients client rx (List.mem_of_getElem? isThread)
  split at rest
  next =>
    cases rest
    refine inv.quietStep rfl rfl rfl rfl rfl inv.links ?_
    apply inv.clients.update client
    apply inv.clients.setThread
    split <;> trivial
  next link => exact netInv_rxRecv inv rest
  next recvByte serial isPc =>
    cases rest
    rw [isPc] at ok
    refine inv.clientStep rfl rfl rfl (List.append_nil _).symm rfl inv.links.grows ?_ ?_ ?_
    · intro grows
      apply ClientsOk.grows ?_ grows
      apply inv.clients.update client
      exact inv.clients.setThread trivial
    · exact fun msg member => absurd member List.not_mem_nil
    · intro record member
      rcases Option.map_eq_some_iff.mp (Option.mem_toList.mp member) with ⟨rxFunc, _, rfl⟩
      exact ok
  next => cases rest

end Clients

/-! ## Events -/

section Events

/-- What an event means for the parts that the network looks at. -/
structure EventEffect (before after : RouteState) (event : ServerEvent) : Prop where
  server : serverStep before.server event = some after.server
  ids : after.ids = before.ids
  received : after.received = before.received ++ (routedPacket before.server event).toList
  runs : after.runs = before.runs.map (JobRun.observe after.server.clientInfo)

theorem eventEffect {before after : RouteState} {event : ServerEvent}
    (stepped : eventStep before event = some after) : EventEffect before after event := by
  unfold eventStep at stepped
  split at stepped
  next =>
    rcases Option.map_eq_some_iff.mp stepped with ⟨server, taken, rfl⟩
    exact ⟨taken, rfl, rfl, rfl⟩
  next => cases stepped

/-- A connection is new or was there before. -/
theorem connections_grow {before after : ServerState} {kind : EventKind}
    (change : ServerChange before after kind) :
    before.accepted ≤ after.accepted ∧
    forall conn, conn ∈ after.connections ->
      conn ∈ before.connections ∨ before.accepted ≤ conn.id := by
  cases change with
  | quiet clientInfo connections accepted controls =>
      rw [accepted, connections]
      exact ⟨Nat.le_refl _, fun conn member => Or.inl member⟩
  | accepted clientFd added valid fresh clientInfo connections accepted controls =>
      rw [accepted, connections]
      refine ⟨Nat.le_succ _, ?_⟩
      intro conn member
      rcases List.mem_cons.mp member with rfl | old
      · exact Or.inr (Nat.le_refl _)
      · exact Or.inl old
  | control conn bytes isAdd member kind clientInfo connections accepted controls =>
      rw [accepted, connections]
      exact ⟨Nat.le_refl _, fun conn member => Or.inl member⟩
  | disconnected conn member clientInfo connections accepted controls =>
      rw [accepted, connections]
      exact ⟨Nat.le_refl _, fun other kept => Or.inl (List.mem_filter.mp kept).1⟩

/-- The packet comes from an open connection, and its link has carried it. -/
structure Taken (state : NetState) (packet : Packet) (arrival : Arrival) : Prop where
  accepted : arrival.accepted = state.route.server.accepted
  conn : arrival.conn ∈ state.route.server.connections
  fd : packet.fd = arrival.conn.fd
  msg : Exists fun msg => state.sent[arrival.sent]? = some msg ∧ msg.link = arrival.conn.id ∧
    packet.bytes = msg.bytes.take recvSize

theorem Taken.arrivalOk {packet : Packet} {arrival : Arrival} (taken : Taken state packet arrival)
    (inv : NetInv state) (grows : Grows state next) {id : Nat}
    (received : next.route.received[id]? = some packet) :
    Exists fun packet => Exists fun msg => ArrivalOk next id arrival packet msg := by
  rcases taken.msg with ⟨msg, isMsg, sameLink, sameBytes⟩
  have connected := inv.connected
  refine ⟨packet, msg, received, taken.fd, getElem?_of_prefix grows.sent isMsg, sameLink, sameBytes,
    ?_, ?_, ?_, ?_⟩
  · rw [taken.accepted]
    exact connected.idsBelow arrival.conn taken.conn
  · rw [taken.accepted]
    exact grows.accepted
  · intro conn member old
    rw [taken.accepted] at old
    rcases grows.connections conn member with before | new
    · constructor
      · intro sameFd
        rw [connected.fdsDistinct conn before arrival.conn taken.conn sameFd]
      · intro sameId
        rw [connected.idsDistinct conn before arrival.conn taken.conn sameId]
    · exact absurd old (not_lt.mpr new)
  · intro index below
    have inside : index < state.callbacks.length :=
      below.trans_le (inv.sent msg (List.mem_of_getElem? isMsg))
    have isRecord := List.getElem?_eq_getElem inside
    have known := inv.callbacks _ (List.mem_of_getElem? isRecord)
    rcases Option.isSome_iff_exists.mp known with ⟨other, isOther⟩
    rcases Option.bind_eq_some_iff.mp isOther with ⟨otherId, _, isArrival⟩
    rcases inv.arrivals otherId other isArrival with ⟨_, _, ok⟩
    refine ⟨_, other, getElem?_of_prefix grows.callbacks isRecord, grows.arrivalOf isOther, ?_⟩
    rw [taken.accepted]
    exact ok.below.trans_le ok.accepted

theorem SendsOk.observe {runs : List JobRun} {deliveries : List Delivery}
    (ok : SendsOk runs deliveries) (table : ClientInfoTable) :
    SendsOk (runs.map (JobRun.observe table)) deliveries where
  made := by
    intro run member
    rcases List.mem_map.mp member with ⟨before, old, rfl⟩
    rw [serial_observe, sends_observe]
    exact ok.made before old
  known := by
    intro delivery member
    rcases ok.known delivery member with ⟨run, old, isSerial⟩
    exact ⟨_, List.mem_map_of_mem old, (serial_observe table run).trans isSerial⟩

theorem netInv_event {event : ServerEvent} {links : List Link} {arrived : Option Arrival}
    (inv : NetInv state) (stepped : eventNet state event links arrived = some next)
    (linksOk : LinksOk state links)
    (taken : (routedPacket state.route.server event = none ∧ arrived = none) ∨
      Exists fun packet => Exists fun arrival =>
        routedPacket state.route.server event = some packet ∧ arrived = some arrival ∧
        Taken state packet arrival) : NetInv next := by
  rcases Option.map_eq_some_iff.mp stepped with ⟨route, moved, rfl⟩
  have effect := eventEffect moved
  have connections := connections_grow (serverStep_change effect.server)
  have grows : Grows state { state with
      route := route, links := links, arrivals := state.arrivals ++ arrived.toList } := by
    constructor
    · exact effect.ids ▸ List.prefix_rfl
    · exact effect.received ▸ List.prefix_append _ _
    · exact connections.1
    · exact connections.2
    · exact List.prefix_rfl
    · exact List.prefix_append _ _
    · exact List.prefix_rfl
  apply inv.grow grows
  · exact routeInv_step inv.route (show routeStep state.route (.event event) = some route from moved)
  · exact connected_step inv.connected (serverStep_change effect.server)
  · change (state.arrivals ++ arrived.toList).length = route.received.length
    rw [effect.received, List.length_append, List.length_append, inv.counted]
    rcases taken with ⟨noPacket, rfl⟩ | ⟨packet, arrival, isPacket, rfl, _⟩
    · rw [noPacket]
      rfl
    · rw [isPacket]
      rfl
  · intro id arrival isArrival new
    change (state.arrivals ++ arrived.toList)[id]? = some arrival at isArrival
    rw [List.getElem?_append_right new] at isArrival
    rcases taken with ⟨_, rfl⟩ | ⟨packet, last, isPacket, rfl, ok⟩
    · cases isArrival
    · have first := (List.getElem?_eq_some_iff.mp isArrival).1
      have position : id = state.arrivals.length := by
        change id - state.arrivals.length < 1 at first
        omega
      rw [position, Nat.sub_self] at isArrival
      cases isArrival
      apply ok.arrivalOk inv grows
      change route.received[id]? = some packet
      rw [effect.received, isPacket, position, inv.counted]
      exact List.getElem?_concat_length
  · exact fun delivery member => Or.inl member
  · change SendsOk route.runs state.deliveries
    rw [effect.runs]
    exact inv.sends.observe _
  · exact linksOk.grows grows
  · exact inv.clients.grows grows
  · exact fun record member => Or.inl member
  · exact fun msg member => Or.inl member

/-- An event that brings no packet to be routed. -/
theorem netInv_quietEvent {event : ServerEvent} (inv : NetInv state)
    (stepped : eventNet state event state.links none = some next)
    (noPacket : routedPacket state.route.server event = none) : NetInv next :=
  netInv_event inv stepped inv.links (Or.inl ⟨noPacket, rfl⟩)

theorem routedPacket_empty (server : ServerState) (clientFd : Int32) :
    routedPacket server (.recv clientFd (.packet [])) = none := by
  apply Option.eq_none_iff_forall_ne_some.mpr
  intro packet isPacket
  rcases routedPacket_eq_some_iff.mp isPacket with ⟨_, sent, conn, same, _, kind, _⟩
  cases same
  rw [List.take_nil] at kind
  cases kind

theorem netInv_accept {clientFd : Int32} {added : Bool} (inv : NetInv state)
    (stepped : acceptNet state clientFd added = some next) : NetInv next := by
  unfold acceptNet at stepped
  split at stepped
  · exact netInv_quietEvent inv stepped rfl
  · cases stepped

theorem netInv_recv {clientFd : Int32} {failed : Bool} (inv : NetInv state)
    (stepped : recvNet state clientFd failed = some next) : NetInv next := by
  unfold recvNet at stepped
  split at stepped
  · exact netInv_quietEvent inv stepped rfl
  · rcases Option.bind_eq_some_iff.mp stepped with ⟨conn, watched, rest⟩
    rcases Option.bind_eq_some_iff.mp rest with ⟨ends, isEnds, handled⟩
    have before := inv.links conn.id ends isEnds
    split at handled
    next packet others uplink =>
      have up := before.up
      rw [uplink] at up
      rcases up packet List.mem_cons_self with ⟨msg, isMsg, sameLink, sameBytes⟩
      apply netInv_event inv handled
      · apply inv.links.set
        exact ⟨fun other member => up other (List.mem_cons_of_mem _ member), before.down⟩
      · cases isPacket : routedPacket state.route.server (.recv clientFd (.packet packet.bytes)) with
        | none => exact Or.inl ⟨rfl, rfl⟩
        | some routed =>
            refine Or.inr ⟨routed, _, rfl, rfl, ?_⟩
            rcases routedPacket_eq_some_iff.mp isPacket with ⟨_, sent, same, isEvent, again, _, rfl⟩
            cases isEvent
            rw [watched] at again
            cases again
            refine ⟨rfl, (watchedConnection_spec watched).1, rfl, msg, isMsg, sameLink, ?_⟩
            rw [sameBytes]
    next =>
      split at handled
      · cases handled
      · exact netInv_quietEvent inv handled (routedPacket_empty _ _)

end Events

/-! ## Other steps of the server -/

section Server

/-- What the other steps mean for the parts that the network looks at. -/
structure CoreEffect (before after : RouteState) (more : List JobRun) : Prop where
  server : after.server = before.server
  ids : before.ids <+: after.ids
  received : after.received = before.received
  runs : after.runs = before.runs ++ more
  started : forall run, run ∈ more -> run.sends = []

theorem coreEffect_of_same {before after : RouteState} (server : after.server = before.server)
    (ids : before.ids <+: after.ids) (received : after.received = before.received)
    (runs : after.runs = before.runs) : CoreEffect before after [] where
  server := server
  ids := ids
  received := received
  runs := runs.trans (List.append_nil _).symm
  started := fun _ member => absurd member List.not_mem_nil

theorem coreEffect_malloc {before after : RouteState} {block : Option Nat}
    (stepped : mallocStep before block = some after) : CoreEffect before after [] := by
  unfold mallocStep at stepped
  split at stepped
  next =>
    cases stepped
    exact coreEffect_of_same rfl List.prefix_rfl rfl rfl
  next =>
    rcases Option.map_eq_some_iff.mp stepped with ⟨heap, _, rfl⟩
    exact coreEffect_of_same rfl List.prefix_rfl rfl rfl
  next => cases stepped

theorem coreEffect_call {before after : RouteState} (stepped : callStep before = some after) :
    CoreEffect before after [] := by
  unfold callStep at stepped
  split at stepped
  next =>
    rcases Option.map_eq_some_iff.mp stepped with ⟨shared, _, rfl⟩
    exact coreEffect_of_same rfl List.prefix_rfl rfl rfl
  next => cases stepped

theorem coreEffect_add {before after : RouteState} {label : PoolLabel JobFunc (List UInt8)}
    (stepped : addJobStep before label = some after) : CoreEffect before after [] := by
  rcases Option.bind_eq_some_iff.mp stepped with ⟨adder, _, rest⟩
  split at rest
  next id data isEpoll =>
    rcases Option.map_eq_some_iff.mp rest with ⟨shared, _, rfl⟩
    split
    · exact coreEffect_of_same rfl (List.prefix_append _ _) rfl rfl
    · exact coreEffect_of_same rfl List.prefix_rfl rfl rfl
  next isEpoll =>
    rcases Option.map_eq_some_iff.mp rest with ⟨shared, _, rfl⟩
    exact coreEffect_of_same rfl List.prefix_rfl rfl rfl
  next => cases rest

theorem startedRun_sends {pool : RoutePool} {thread : Nat} {stack table : ClientInfoTable}
    {run : JobRun} (started : startedRun pool thread stack table = some run) : run.sends = [] := by
  unfold startedRun at started
  split at started
  · rcases Option.map_eq_some_iff.mp started with ⟨jobInfo, _, rfl⟩
    rfl
  · cases started

theorem coreEffect_worker {before after : RouteState} {thread : Nat} {stack : ClientInfoTable}
    (stepped : routeWorkerStep before thread stack = some after) :
    Exists fun more => CoreEffect before after more := by
  unfold routeWorkerStep at stepped
  split at stepped
  next =>
    rcases Option.map_eq_some_iff.mp stepped with ⟨pool, _, rfl⟩
    refine ⟨_, rfl, List.prefix_rfl, rfl, rfl, ?_⟩
    exact fun run member => startedRun_sends (Option.mem_toList.mp member)
  next => cases stepped

/-- Executions that begin have sent nothing. -/
theorem SendsOk.start {runs more : List JobRun} {deliveries : List Delivery}
    (ok : SendsOk runs deliveries) (distinct : ((runs ++ more).map JobRun.serial).Nodup)
    (started : forall run, run ∈ more -> run.sends = []) : SendsOk (runs ++ more) deliveries where
  made := by
    intro run member
    rcases List.mem_append.mp member with old | new
    · exact ok.made run old
    · rw [started run new]
      have none_ : deliveriesOf deliveries run.serial = [] := by
        apply List.filter_eq_nil_iff.mpr
        intro delivery recorded isSerial
        rcases ok.known delivery recorded with ⟨other, otherMember, otherSerial⟩
        rw [List.map_append] at distinct
        have apart := (List.nodup_append.mp distinct).2.2
        exact apart _ (List.mem_map_of_mem otherMember) _ (List.mem_map_of_mem new)
          (otherSerial.trans (of_decide_eq_true isSerial))
      rw [none_]
      rfl
  known := by
    intro delivery member
    rcases ok.known delivery member with ⟨run, old, isSerial⟩
    exact ⟨run, List.mem_append_left _ old, isSerial⟩

theorem netInv_coreEffect {route : RouteState} {more : List JobRun} (inv : NetInv state)
    (kept : RouteInv route) (effect : CoreEffect state.route route more) :
    NetInv { state with route := route } := by
  have grows : Grows state { state with route := route } := by
    constructor
    · exact effect.ids
    · exact effect.received ▸ List.prefix_rfl
    · exact effect.server ▸ Nat.le_refl _
    · change forall conn, conn ∈ route.server.connections -> _
      rw [effect.server]
      exact fun conn member => Or.inl member
    · exact List.prefix_rfl
    · exact List.prefix_rfl
    · exact List.prefix_rfl
  apply inv.grow grows kept
  · change route.server.Connected
    rw [effect.server]
    exact inv.connected
  · exact inv.counted.trans (congrArg List.length effect.received).symm
  · exact fun id arrival isArrival new =>
      absurd (List.getElem?_eq_some_iff.mp isArrival).1 (not_lt.mpr new)
  · exact fun delivery member => Or.inl member
  · have distinct := kept.runs.distinct
    change SendsOk route.runs state.deliveries
    rw [effect.runs] at distinct ⊢
    exact inv.sends.start distinct effect.started
  · exact inv.links.grows grows
  · exact inv.clients.grows grows
  · exact fun record member => Or.inl member
  · exact fun msg member => Or.inl member

theorem netInv_core {label : RouteLabel} (inv : NetInv state)
    (stepped : coreNet state label = some next) : NetInv next := by
  unfold coreNet at stepped
  split at stepped
  next => exact netInv_quietEvent inv stepped rfl
  next => exact netInv_quietEvent inv stepped rfl
  next => cases stepped
  next => cases stepped
  next notFailed notReadable notEvent notJob =>
    rcases Option.map_eq_some_iff.mp stepped with ⟨route, moved, rfl⟩
    have kept := routeInv_step inv.route moved
    cases label with
    | event event => exact absurd rfl (notEvent event)
    | malloc block => exact netInv_coreEffect inv kept (coreEffect_malloc moved)
    | call => exact netInv_coreEffect inv kept (coreEffect_call moved)
    | add label => exact netInv_coreEffect inv kept (coreEffect_add moved)
    | worker thread stack =>
        rcases coreEffect_worker moved with ⟨more, effect⟩
        exact netInv_coreEffect inv kept effect
    | job thread => exact absurd rfl (notJob thread)

end Server

/-! ## Steps of the jobs -/

section Jobs

theorem LinksOk.deliver {links : List Link} {delivery : Delivery} (ok : LinksOk state links)
    (known : (state.arrivalOf delivery.serial).isSome) :
    LinksOk state (MsgRoute.deliver links delivery) := by
  unfold MsgRoute.deliver
  split
  · exact ok
  · apply ok.modify
    intro ends before
    refine ⟨before.up, ?_⟩
    intro packet member
    rcases List.mem_append.mp member with old | new
    · exact before.down packet old
    · rw [List.mem_singleton.mp new]
      exact known

theorem LinksOk.deliverAll {links : List Link} {made : List Delivery} (ok : LinksOk state links)
    (known : forall delivery, delivery ∈ made -> (state.arrivalOf delivery.serial).isSome) :
    LinksOk state (made.foldl MsgRoute.deliver links) := by
  induction made generalizing links with
  | nil => exact ok
  | cons delivery others inductionHypothesis =>
      apply inductionHypothesis (ok.deliver (known delivery List.mem_cons_self))
      exact fun other member => known other (List.mem_cons_of_mem _ member)

/-- What a job sends is recorded for its own execution. -/
theorem deliveriesOf_append_calls (deliveries : List Delivery) (calls : List SendCall)
    (connections : List Connection) (own serial : Nat) :
    (deliveriesOf (deliveries ++ calls.map (fun call => ⟨own, call, connections⟩)) serial).map
      Delivery.call =
    (deliveriesOf deliveries serial).map Delivery.call ++ (if own = serial then calls else []) := by
  rw [deliveriesOf, List.filter_append, List.map_append]
  congr 1
  by_cases same : own = serial
  · rw [if_pos same, List.filter_eq_self.mpr]
    · rw [List.map_map]
      exact List.map_id _
    · intro delivery member
      rcases List.mem_map.mp member with ⟨call, _, rfl⟩
      exact decide_eq_true same
  · rw [if_neg same, List.filter_eq_nil_iff.mpr]
    · rfl
    · intro delivery member
      rcases List.mem_map.mp member with ⟨call, _, rfl⟩
      exact fun isSerial => same (of_decide_eq_true isSerial)

theorem SendsOk.advance {runs : List JobRun} {deliveries : List Delivery} {run : JobRun}
    {frame : JobFrame} {calls : List SendCall} (ok : SendsOk runs deliveries) (member : run ∈ runs)
    (connections : List Connection) :
    SendsOk (runs.map (JobRun.advance run.serial frame calls))
      (deliveries ++ calls.map (fun call => ⟨run.serial, call, connections⟩)) where
  made := by
    intro other otherMember
    rcases List.mem_map.mp otherMember with ⟨before, old, rfl⟩
    rw [serial_advance, deliveriesOf_append_calls, ok.made before old]
    by_cases same : before.serial = run.serial
    · rw [advance_same same, if_pos same.symm]
    · rw [advance_other same, if_neg (Ne.symm same), List.append_nil]
  known := by
    intro delivery recorded
    rcases List.mem_append.mp recorded with old | new
    · rcases ok.known delivery old with ⟨before, known, isSerial⟩
      exact ⟨_, List.mem_map_of_mem known, (serial_advance _ _ _ before).trans isSerial⟩
    · rcases List.mem_map.mp new with ⟨call, _, rfl⟩
      exact ⟨_, List.mem_map_of_mem member, serial_advance _ _ _ run⟩

theorem jobEffect {before after : RouteState} {thread : Nat} {run : JobRun} {frame : JobFrame}
    {calls : List SendCall} (isMove : jobMove before thread = some (run, frame, calls))
    (stepped : jobStep before thread = some after) :
    after.server = before.server ∧ after.ids = before.ids ∧ after.received = before.received ∧
    after.runs = before.runs.map (JobRun.advance run.serial frame calls) := by
  rcases Option.bind_eq_some_iff.mp stepped with ⟨⟨same, _, _⟩, again, rest⟩
  rw [isMove] at again
  cases again
  rcases Option.bind_eq_some_iff.mp rest with ⟨heap, _, isNext⟩
  cases isNext
  exact ⟨rfl, rfl, rfl, rfl⟩

/-- Every job that has a packet has its arrival. -/
theorem NetInv.arrival (inv : NetInv state) {serial : Nat} {packet : Packet}
    (isPacket : state.route.packetOf serial = some packet) :
    Exists fun id => Exists fun arrival => Exists fun msg =>
      state.arrivalOf serial = some arrival ∧ ArrivalOk state id arrival packet msg := by
  rcases Option.bind_eq_some_iff.mp isPacket with ⟨id, isId, received⟩
  have below := (List.getElem?_eq_some_iff.mp received).1
  rw [← inv.counted] at below
  have isArrival := List.getElem?_eq_getElem below
  rcases inv.arrivals id _ isArrival with ⟨same, msg, ok⟩
  have samePacket : same = packet := Option.some.inj (ok.received.symm.trans received)
  exact ⟨id, _, msg, Option.bind_eq_some_iff.mpr ⟨id, isId, isArrival⟩, samePacket ▸ ok⟩

theorem netInv_job {thread : Nat} (inv : NetInv state)
    (stepped : jobNet state thread = some next) : NetInv next := by
  rcases Option.bind_eq_some_iff.mp stepped with ⟨⟨run, frame, calls⟩, isMove, rest⟩
  rcases Option.bind_eq_some_iff.mp rest with ⟨route, moved, isNext⟩
  rcases inv.route.links.jobMove isMove with ⟨packet, moves⟩
  rcases jobEffect isMove moved with ⟨server, ids, received, runs⟩
  rcases inv.arrival moves.isPacket with ⟨id, arrival, msg, isArrival, ok⟩
  cases isNext
  have grows : Grows state { state with
      route := route
      links := (calls.map (fun call =>
        (⟨run.serial, call, state.route.server.connections⟩ : Delivery))).foldl deliver state.links
      deliveries := state.deliveries ++ calls.map (fun call =>
        (⟨run.serial, call, state.route.server.connections⟩ : Delivery)) } := by
    constructor
    · exact ids ▸ List.prefix_rfl
    · exact received ▸ List.prefix_rfl
    · exact server ▸ Nat.le_refl _
    · change forall conn, conn ∈ route.server.connections -> _
      rw [server]
      exact fun conn member => Or.inl member
    · exact List.prefix_rfl
    · exact List.prefix_rfl
    · exact List.prefix_rfl
  apply inv.grow grows
  · exact routeInv_step inv.route (show routeStep state.route (.job thread) = some route from moved)
  · change route.server.Connected
    rw [server]
    exact inv.connected
  · exact inv.counted.trans (congrArg List.length received).symm
  · exact fun id arrival isArrival new =>
      absurd (List.getElem?_eq_some_iff.mp isArrival).1 (not_lt.mpr new)
  · intro delivery member
    rcases List.mem_append.mp member with old | new
    · exact Or.inl old
    · rcases List.mem_map.mp new with ⟨call, _, rfl⟩
      exact Or.inr ⟨inv.connected.fdsDistinct, arrival, grows.arrivalOf isArrival, ok.apart⟩
  · change SendsOk route.runs _
    rw [runs]
    exact inv.sends.advance moves.member _
  · refine (inv.links.deliverAll ?_).grows grows
    intro delivery member
    rcases List.mem_map.mp member with ⟨call, _, rfl⟩
    exact Option.isSome_iff_exists.mpr ⟨arrival, isArrival⟩
  · exact inv.clients.grows grows
  · exact fun record member => Or.inl member
  · exact fun msg member => Or.inl member

end Jobs

/-! ## Runs of the network -/

theorem netInv_step {label : NetLabel} (inv : NetInv state)
    (stepped : netStep state label = some next) : NetInv next := by
  cases label with
  | init client appId fd threadRet recvBuf => exact netInv_init inv stepped
  | deinit client => exact netInv_deinit inv stepped
  | send client sendData isBroadcast => exact netInv_send inv stepped
  | subscribe client sendBuf subscribeInfo => exact netInv_control inv stepped
  | unsubscribe client sendBuf subscribeInfo => exact netInv_control inv stepped
  | store client index => exact netInv_store inv stepped
  | rx client thread failed => exact netInv_rx inv stepped
  | accept clientFd added => exact netInv_accept inv stepped
  | recv clientFd failed => exact netInv_recv inv stepped
  | core label => exact netInv_core inv stepped
  | job thread => exact netInv_job inv stepped

theorem netInv_netInit {start : RoutePool} (idle : Idle start) (memory recvBuf : Memory) :
    NetInv (netInit start memory recvBuf) where
  route := routeInv_init idle memory recvBuf
  connected := connected_serverInit memory recvBuf
  counted := rfl
  arrivals := nofun
  deliveries := fun _ member => absurd member List.not_mem_nil
  sends := ⟨fun _ member => absurd member List.not_mem_nil,
    fun _ member => absurd member List.not_mem_nil⟩
  links := nofun
  clients := fun _ _ member => absurd member List.not_mem_nil
  callbacks := fun _ member => absurd member List.not_mem_nil
  sent := fun _ member => absurd member List.not_mem_nil

/-- The records are right in every state that clients and server reach. -/
theorem netInv_of_run {start : RoutePool} {memory recvBuf : Memory} {labels : List NetLabel}
    {final : NetState} (idle : Idle start)
    (ran : network.run (netInit start memory recvBuf) labels = some final) : NetInv final :=
  network.run_invariant (fun _ _ _ => netInv_step) (netInv_netInit idle memory recvBuf) ran

end MsgRoute
end V2x
