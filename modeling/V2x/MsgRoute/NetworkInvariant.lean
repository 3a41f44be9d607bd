import V2x.MsgRoute.Network
import V2x.MsgRoute.RouteRuns
import V2x.MsgRoute.ServerView

namespace V2x
namespace MsgRoute

open Foundations ThreadPool

/-!
# Where the packets of the network come from

`ArrivalOk` traces a packet that the server has taken to the call that sent it,
`DeliveryOk` compares what a job sends with the connections at that moment, and
`NetInv` collects what holds of all records and of all packets under way.  The
records only grow, and a connection that is closed does not come back;
`Grows` says so, and whatever a record says stays true.
-/

/-- The packet that a job was made for. -/
def NetState.arrivalOf (state : NetState) (serial : Nat) : Option Arrival :=
  state.route.ids[serial]?.bind (fun id => state.arrivals[id]?)

/-- The packets that a job has sent. -/
def deliveriesOf (deliveries : List Delivery) (serial : Nat) : List Delivery :=
  deliveries.filter (fun delivery => decide (delivery.serial = serial))

/-- Of the connections that are as old as the arrival, only its own one has its
descriptor. -/
def Apart (arrival : Arrival) (connections : List Connection) : Prop :=
  forall conn, conn ∈ connections -> conn.id < arrival.accepted ->
    (conn.fd = arrival.conn.fd <-> conn.id = arrival.conn.id)

/-- A packet that was taken is what a client has sent on this connection.  The
callbacks called before that got packets of connections that were accepted before. -/
structure ArrivalOk (state : NetState) (id : Nat) (arrival : Arrival) (packet : Packet)
    (msg : SentMsg) : Prop where
  received : state.route.received[id]? = some packet
  fd : packet.fd = arrival.conn.fd
  sent : state.sent[arrival.sent]? = some msg
  link : msg.link = arrival.conn.id
  bytes : packet.bytes = msg.bytes.take recvSize
  below : arrival.conn.id < arrival.accepted
  accepted : arrival.accepted ≤ state.route.server.accepted
  apart : Apart arrival state.route.server.connections
  earlier : forall index, index < msg.calls -> Exists fun record => Exists fun other =>
    state.callbacks[index]? = some record ∧ state.arrivalOf record.serial = some other ∧
    other.conn.id < arrival.accepted

/-- The connections that were open when a job sent something. -/
structure DeliveryOk (state : NetState) (delivery : Delivery) : Prop where
  fds : forall first, first ∈ delivery.connections -> forall second,
    second ∈ delivery.connections -> first.fd = second.fd -> first = second
  apart : Exists fun arrival => state.arrivalOf delivery.serial = some arrival ∧
    Apart arrival delivery.connections

/-- The packets on a link. -/
structure LinkOk (state : NetState) (link : Nat) (ends : Link) : Prop where
  up : forall packet, packet ∈ ends.uplink -> Exists fun msg =>
    state.sent[packet.sent]? = some msg ∧ msg.link = link ∧ msg.bytes = packet.bytes
  down : forall packet, packet ∈ ends.downlink -> (state.arrivalOf packet.serial).isSome

def LinksOk (state : NetState) (links : List Link) : Prop :=
  forall (link : Nat) (ends : Link), links[link]? = some ends -> LinkOk state link ends

/-- The packet that a receive thread handles. -/
def RxOk (state : NetState) : RxPc -> Prop
  | .handle _ serial => (state.arrivalOf serial).isSome
  | _ => True

def ClientsOk (state : NetState) (clients : Nat -> Client) : Prop :=
  forall client rx, rx ∈ (clients client).rx -> RxOk state rx.pc

/-- The executions have made the calls that are recorded for them. -/
structure SendsOk (runs : List JobRun) (deliveries : List Delivery) : Prop where
  made : forall run, run ∈ runs ->
    (deliveriesOf deliveries run.serial).map Delivery.call = run.sends
  known : forall delivery, delivery ∈ deliveries ->
    Exists fun run => run ∈ runs ∧ run.serial = delivery.serial

structure NetInv (state : NetState) : Prop where
  route : RouteInv state.route
  connected : state.route.server.Connected
  counted : state.arrivals.length = state.route.received.length
  arrivals : forall id arrival, state.arrivals[id]? = some arrival ->
    Exists fun packet => Exists fun msg => ArrivalOk state id arrival packet msg
  deliveries : forall delivery, delivery ∈ state.deliveries -> DeliveryOk state delivery
  sends : SendsOk state.route.runs state.deliveries
  links : LinksOk state state.links
  clients : ClientsOk state state.clients
  callbacks : forall record, record ∈ state.callbacks -> (state.arrivalOf record.serial).isSome
  sent : forall msg, msg ∈ state.sent -> msg.calls ≤ state.callbacks.length

/-! ## Records only grow -/

structure Grows (state next : NetState) : Prop where
  ids : state.route.ids <+: next.route.ids
  received : state.route.received <+: next.route.received
  accepted : state.route.server.accepted ≤ next.route.server.accepted
  connections : forall conn, conn ∈ next.route.server.connections ->
    conn ∈ state.route.server.connections ∨ state.route.server.accepted ≤ conn.id
  sent : state.sent <+: next.sent
  arrivals : state.arrivals <+: next.arrivals
  callbacks : state.callbacks <+: next.callbacks

theorem getElem?_of_prefix {α : Type} {first second : List α} {index : Nat} {value : α}
    (grows : first <+: second) (found : first[index]? = some value) :
    second[index]? = some value := by
  rcases grows with ⟨more, rfl⟩
  rw [List.getElem?_append_left (List.getElem?_eq_some_iff.mp found).1]
  exact found

section Growth

variable {state next : NetState}

theorem Grows.arrivalOf (grows : Grows state next) {serial : Nat} {arrival : Arrival}
    (found : state.arrivalOf serial = some arrival) : next.arrivalOf serial = some arrival := by
  rcases Option.bind_eq_some_iff.mp found with ⟨id, isId, isArrival⟩
  exact Option.bind_eq_some_iff.mpr
    ⟨id, getElem?_of_prefix grows.ids isId, getElem?_of_prefix grows.arrivals isArrival⟩

theorem Grows.arrivalOf_isSome (grows : Grows state next) {serial : Nat}
    (found : (state.arrivalOf serial).isSome) : (next.arrivalOf serial).isSome := by
  rcases Option.isSome_iff_exists.mp found with ⟨arrival, isArrival⟩
  exact Option.isSome_iff_exists.mpr ⟨arrival, grows.arrivalOf isArrival⟩

theorem ArrivalOk.grows {id : Nat} {arrival : Arrival} {packet : Packet} {msg : SentMsg}
    (ok : ArrivalOk state id arrival packet msg) (grows : Grows state next) :
    ArrivalOk next id arrival packet msg where
  received := getElem?_of_prefix grows.received ok.received
  fd := ok.fd
  sent := getElem?_of_prefix grows.sent ok.sent
  link := ok.link
  bytes := ok.bytes
  below := ok.below
  accepted := ok.accepted.trans grows.accepted
  apart := by
    intro conn member old
    rcases grows.connections conn member with before | new
    · exact ok.apart conn before old
    · exact absurd (old.trans_le ok.accepted) (not_lt.mpr new)
  earlier := by
    intro index below
    rcases ok.earlier index below with ⟨record, other, called, isOther, older⟩
    exact ⟨record, other, getElem?_of_prefix grows.callbacks called, grows.arrivalOf isOther, older⟩

theorem DeliveryOk.grows {delivery : Delivery} (ok : DeliveryOk state delivery)
    (grows : Grows state next) : DeliveryOk next delivery where
  fds := ok.fds
  apart := by
    rcases ok.apart with ⟨arrival, isArrival, apart⟩
    exact ⟨arrival, grows.arrivalOf isArrival, apart⟩

theorem LinkOk.grows {link : Nat} {ends : Link} (ok : LinkOk state link ends)
    (grows : Grows state next) : LinkOk next link ends where
  up := by
    intro packet member
    rcases ok.up packet member with ⟨msg, isMsg, sameLink, sameBytes⟩
    exact ⟨msg, getElem?_of_prefix grows.sent isMsg, sameLink, sameBytes⟩
  down := fun packet member => grows.arrivalOf_isSome (ok.down packet member)

theorem RxOk.grows {pc : RxPc} (ok : RxOk state pc) (grows : Grows state next) : RxOk next pc := by
  cases pc with
  | handle recvByte serial => exact grows.arrivalOf_isSome ok
  | _ => trivial

/-- What a step leaves to show when the records grow. -/
theorem NetInv.grow (inv : NetInv state) (grows : Grows state next) (route : RouteInv next.route)
    (connected : next.route.server.Connected)
    (counted : next.arrivals.length = next.route.received.length)
    (arrivals : forall id arrival, next.arrivals[id]? = some arrival ->
      state.arrivals.length ≤ id ->
      Exists fun packet => Exists fun msg => ArrivalOk next id arrival packet msg)
    (deliveries : forall delivery, delivery ∈ next.deliveries ->
      delivery ∈ state.deliveries ∨ DeliveryOk next delivery)
    (sends : SendsOk next.route.runs next.deliveries) (links : LinksOk next next.links)
    (clients : ClientsOk next next.clients)
    (callbacks : forall record, record ∈ next.callbacks ->
      record ∈ state.callbacks ∨ (next.arrivalOf record.serial).isSome)
    (sent : forall msg, msg ∈ next.sent ->
      msg ∈ state.sent ∨ msg.calls ≤ next.callbacks.length) : NetInv next where
  route := route
  connected := connected
  counted := counted
  arrivals := by
    intro id arrival isArrival
    by_cases old : id < state.arrivals.length
    · have before : state.arrivals[id]? = some arrival := by
        rcases grows.arrivals with ⟨more, isNext⟩
        rw [← isNext, List.getElem?_append_left old] at isArrival
        exact isArrival
      rcases inv.arrivals id arrival before with ⟨packet, msg, ok⟩
      exact ⟨packet, msg, ok.grows grows⟩
    · exact arrivals id arrival isArrival (not_lt.mp old)
  deliveries := by
    intro delivery member
    rcases deliveries delivery member with old | ok
    · exact (inv.deliveries delivery old).grows grows
    · exact ok
  sends := sends
  links := links
  clients := clients
  callbacks := by
    intro record member
    rcases callbacks record member with old | ok
    · exact grows.arrivalOf_isSome (inv.callbacks record old)
    · exact ok
  sent := by
    intro msg member
    rcases sent msg member with old | ok
    · exact (inv.sent msg old).trans grows.callbacks.length_le
    · exact ok

end Growth

/-! ## Links and receive threads -/

section Parts

variable {state next : NetState} {links : List Link} {clients : Nat -> Client}

theorem LinksOk.grows (ok : LinksOk state links) (grows : Grows state next) : LinksOk next links :=
  fun link ends isLink => (ok link ends isLink).grows grows

theorem LinksOk.set (ok : LinksOk state links) {link : Nat} {ends : Link}
    (new : LinkOk state link ends) : LinksOk state (links.set link ends) := by
  intro other found isLink
  by_cases same : link = other
  · subst same
    have inside : link < links.length := by
      have below := (List.getElem?_eq_some_iff.mp isLink).1
      rw [List.length_set] at below
      exact below
    rw [List.getElem?_set_self inside] at isLink
    cases isLink
    exact new
  · rw [List.getElem?_set_ne same] at isLink
    exact ok other found isLink

theorem LinksOk.modify (ok : LinksOk state links) (link : Nat) {change : Link -> Link}
    (kept : forall ends, LinkOk state link ends -> LinkOk state link (change ends)) :
    LinksOk state (links.modify link change) := by
  intro other found isLink
  rw [List.getElem?_modify] at isLink
  rcases Option.map_eq_some_iff.mp isLink with ⟨ends, isEnds, rfl⟩
  have before := ok other ends isEnds
  by_cases same : link = other
  · subst same
    simp only [if_true]
    exact kept ends before
  · simp only [same, if_false]
    exact before

/-- A new link is empty. -/
theorem LinksOk.append (ok : LinksOk state links) {more : List Link}
    (empty : forall ends, ends ∈ more -> ends.uplink = [] ∧ ends.downlink = []) :
    LinksOk state (links ++ more) := by
  intro link ends isLink
  by_cases old : link < links.length
  · rw [List.getElem?_append_left old] at isLink
    exact ok link ends isLink
  · rw [List.getElem?_append_right (not_lt.mp old)] at isLink
    rcases empty ends (List.mem_of_getElem? isLink) with ⟨noUp, noDown⟩
    constructor
    · rw [noUp]
      exact fun packet member => absurd member List.not_mem_nil
    · rw [noDown]
      exact fun packet member => absurd member List.not_mem_nil

theorem ClientsOk.grows (ok : ClientsOk state clients) (grows : Grows state next) :
    ClientsOk next clients :=
  fun client rx member => (ok client rx member).grows grows

theorem ClientsOk.update (ok : ClientsOk state clients) (client : Nat) {value : Client}
    (new : forall rx, rx ∈ value.rx -> RxOk state rx.pc) :
    ClientsOk state (Function.update clients client value) := by
  intro other rx member
  by_cases same : other = client
  · subst same
    rw [Function.update_self] at member
    exact new rx member
  · rw [Function.update_of_ne same] at member
    exact ok other rx member

/-- One thread of a client moves. -/
theorem ClientsOk.setThread (ok : ClientsOk state clients) {client thread : Nat} {rx : RxThread}
    (moved : RxOk state rx.pc) : forall other, other ∈ (clients client).rx.set thread rx ->
      RxOk state other.pc := by
  intro other member
  rcases List.mem_or_eq_of_mem_set member with old | rfl
  · exact ok client other old
  · exact moved

end Parts

end MsgRoute
end V2x
