import V2x.MsgRoute.Client
import V2x.MsgRoute.RouteSystem

namespace V2x
namespace MsgRoute

open Foundations ThreadPool

/-!
# Clients and server

Any number of client processes talk to the server.  A link is a connection that
a client has opened, with the packets that are under way in both directions; it
keeps the packets apart and in order.  Links are numbered as they are opened,
and the server accepts them in this order, so that a link and the connection
that the server accepts for it have the same number.

A client's receive thread reads `g_fd`, waits in `recv`, and handles what it has
received, in three steps.  The threads of a program that call the library are
not told apart.

The run records what the clients send, which of it arrives as a packet to be
routed, what the jobs send to whom, and the calls of the callbacks.
-/

/-- A packet on its way to the server. -/
structure UpPacket where
  bytes : List UInt8
  sent : Nat

/-- A packet on its way to a client, with the job that has sent it. -/
structure DownPacket where
  bytes : List UInt8
  serial : Nat

structure Link where
  uplink : List UpPacket
  downlink : List DownPacket
  clientOpen : Bool

/-- Where a receive thread stands in its loop.  A packet that it handles is
`recvByte` bytes long. -/
inductive RxPc where
  | loopTest
  | recv (link : Option Nat)
  | handle (recvByte : Nat) (serial : Nat)
  | exited
deriving DecidableEq, Repr

structure RxThread where
  recvBuf : Memory
  pc : RxPc

/-- A client process.  `link` is what `g_fd` stands for, and `pending` are the
calls that have sent their control message and have not yet stored their entry. -/
structure Client where
  vars : ClientVars
  link : Option Nat
  rx : List RxThread
  pending : List ControlCall

/-- A message that was sent, by `MsgRouteClientSendMsg` or by one of the two subscription
functions, and how many callbacks had been called before. -/
structure SentMsg where
  client : Nat
  link : Nat
  fd : Int32
  sendData : MsgRouteDataInfo
  isBroadcast : Bool
  calls : Nat

def SentMsg.bytes (msg : SentMsg) : List UInt8 :=
  (msgRouteClientSendMsg msg.fd msg.sendData msg.isBroadcast).sendBytes

/-- A packet that the server takes for routing: what was sent, the connection it
came from, and how many connections had been accepted. -/
structure Arrival where
  sent : Nat
  conn : Connection
  accepted : Nat

/-- A call of `send` by a job, with the connections that were open. -/
structure Delivery where
  serial : Nat
  call : SendCall
  connections : List Connection

/-- The link that the call has reached. -/
def Delivery.reached (delivery : Delivery) : Option Nat :=
  (delivery.connections.find? (fun conn => conn.fd == delivery.call.fd)).map Connection.id

/-- A call of a callback with the message it gets. -/
structure CallbackCall where
  client : Nat
  rxFunc : MsgRouteClientCallback
  msgData : MsgRouteDataInfo
  serial : Nat

structure NetState where
  route : RouteState
  clients : Nat -> Client
  links : List Link
  sent : List SentMsg
  arrivals : List Arrival
  deliveries : List Delivery
  callbacks : List CallbackCall

/-- The steps of the clients, the steps of the epoll thread that touch a link,
the other steps of the server, and the steps of its jobs.  The labels carry the
outcomes of the system calls; a call that fails and changes nothing has no label. -/
inductive NetLabel where
  | init (client : Nat) (appId fd : Int32) (threadRet : Int) (recvBuf : Memory)
  | deinit (client : Nat)
  | send (client : Nat) (sendData : MsgRouteDataInfo) (isBroadcast : Bool)
  | subscribe (client : Nat) (sendBuf : MsgRouteDataInfo)
      (subscribeInfo : MsgRouteClientSubscribeInfo)
  | unsubscribe (client : Nat) (sendBuf : MsgRouteDataInfo)
      (subscribeInfo : MsgRouteClientSubscribeInfo)
  | store (client : Nat) (index : Nat)
  | rx (client thread : Nat) (failed : Bool)
  | accept (clientFd : Int32) (added : Bool)
  | recv (clientFd : Int32) (failed : Bool)
  | core (label : RouteLabel)
  | job (thread : Nat)

namespace NetState

def setClient (state : NetState) (client : Nat) (value : Client) : NetState :=
  { state with clients := Function.update state.clients client value }

def setLink (state : NetState) (link : Nat) (value : Link) : NetState :=
  { state with links := state.links.set link value }

end NetState

/-- The client's end of a link is closed. -/
def closeLink (links : List Link) : Option Nat -> List Link
  | none => links
  | some link => links.modify link (fun ends => { ends with clientOpen := false })

/-! ## Steps of the clients -/

/-- `MsgRouteClientInit`.  A connection that was open before stays open. -/
def initStep (state : NetState) (client : Nat) (appId fd : Int32) (threadRet : Int)
    (recvBuf : Memory) : Option NetState :=
  let old := state.clients client
  let result := msgRouteClientInit old.vars appId (some fd) threadRet
  let links := if result.connected then [⟨[], [], true⟩] else []
  let started := if result.started then [⟨recvBuf, .loopTest⟩] else []
  if fd < 0 then none
  else
    some { state.setClient client { old with
        vars := result.vars
        link := if result.connected then some state.links.length else old.link
        rx := old.rx ++ started } with
      links := state.links ++ links }

/-- `MsgRouteClientDeinit`. -/
def deinitStep (state : NetState) (client : Nat) : Option NetState :=
  let old := state.clients client
  some { state.setClient client { old with vars := msgRouteClientDeinit old.vars, link := none } with
    links := closeLink state.links old.link }

/-- `send(g_fd, ...)` with the message of one of the calls of the library. -/
def sendStep (state : NetState) (client : Nat) (sendData : MsgRouteDataInfo) (isBroadcast : Bool) :
    Option NetState := do
  let link <- (state.clients client).link
  let ends <- state.links[link]?
  let msg : SentMsg :=
    ⟨client, link, (state.clients client).vars.fd, sendData, isBroadcast, state.callbacks.length⟩
  return { state.setLink link { ends with
      uplink := ends.uplink ++ [⟨msg.bytes, state.sent.length⟩] } with
    sent := state.sent ++ [msg] }

/-- The first half of the two subscription functions. -/
def controlStep (state : NetState) (client : Nat) (call : Option ControlCall) :
    Option NetState := do
  let call <- call
  let next <- sendStep state client call.sendData false
  return next.setClient client
    { next.clients client with pending := (next.clients client).pending ++ [call] }

/-- The second half of the two subscription functions. -/
def storeStep (state : NetState) (client index : Nat) : Option NetState :=
  let old := state.clients client
  old.pending[index]?.map (fun call =>
    state.setClient client
      { old with vars := old.vars.store call, pending := old.pending.eraseIdx index })

/-- The end of the connection that `g_fd` stands for: the thread closes it. -/
def rxDisconnect (state : NetState) (client : Nat) (rx : List RxThread) : NetState :=
  let old := state.clients client
  { state.setClient client
      { old with vars := { old.vars with fd := -1 }, link := none, rx := rx } with
    links := closeLink state.links old.link }

/-- `recv` in `MsgRouteClientRxThread`.  It returns 0 when the server has closed
the connection and all packets are taken. -/
def rxRecv (state : NetState) (client thread : Nat) (rx : RxThread) (link : Option Nat)
    (failed : Bool) : Option NetState :=
  let old := state.clients client
  if failed then
    some (state.setClient client { old with rx := old.rx.set thread { rx with pc := .loopTest } })
  else do
    let link <- link
    let ends <- state.links[link]?
    match ends.downlink with
    | packet :: rest =>
        let received := packet.bytes.take recvSize
        let handling : RxThread :=
          ⟨Memory.storeBytes rx.recvBuf 0 received, .handle received.length packet.serial⟩
        some ((state.setLink link { ends with downlink := rest }).setClient client
          { old with rx := old.rx.set thread handling })
    | [] =>
        if link < state.route.server.accepted ∧
            state.route.server.connections.all (fun conn => conn.id != link) then
          some (rxDisconnect state client (old.rx.set thread { rx with pc := .exited }))
        else none

/-- A step of `MsgRouteClientRxThread`. -/
def rxStep (state : NetState) (client thread : Nat) (failed : Bool) : Option NetState := do
  let old := state.clients client
  let rx <- old.rx[thread]?
  match rx.pc with
  | .loopTest =>
      let pc : RxPc := if old.vars.isRunning then .recv old.link else .exited
      some (state.setClient client { old with rx := old.rx.set thread { rx with pc := pc } })
  | .recv link => rxRecv state client thread rx link failed
  | .handle recvByte serial =>
      let called := (msgRouteClientRx old.vars rx.recvBuf recvByte).map (fun rxFunc =>
        ({ client, rxFunc, msgData := rx.recvBuf, serial } : CallbackCall))
      some { state.setClient client
          { old with rx := old.rx.set thread { rx with pc := .loopTest } } with
        callbacks := state.callbacks ++ called.toList }
  | .exited => none

/-! ## Steps of the server -/

/-- The epoll thread handles an event. -/
def eventNet (state : NetState) (event : ServerEvent) (links : List Link)
    (arrived : Option Arrival) : Option NetState :=
  (routeStep state.route (.event event)).map (fun route =>
    { state with route := route, links := links, arrivals := state.arrivals ++ arrived.toList })

/-- A link waits to be accepted. -/
def acceptNet (state : NetState) (clientFd : Int32) (added : Bool) : Option NetState :=
  if state.route.server.accepted < state.links.length then
    eventNet state (.accept clientFd added) state.links none
  else none

/-- `recv` in `MsgRouteServerHandleMsg`.  It returns 0 when the client has closed
the link and all packets are taken. -/
def recvNet (state : NetState) (clientFd : Int32) (failed : Bool) : Option NetState :=
  if failed then eventNet state (.recv clientFd .error) state.links none
  else do
    let conn <- state.route.server.watchedConnection clientFd
    let ends <- state.links[conn.id]?
    match ends.uplink with
    | packet :: rest =>
        let event := ServerEvent.recv clientFd (.packet packet.bytes)
        let arrived := (routedPacket state.route.server event).map (fun _ =>
          (⟨packet.sent, conn, state.route.server.accepted⟩ : Arrival))
        eventNet state event (state.links.set conn.id { ends with uplink := rest }) arrived
    | [] =>
        if ends.clientOpen then none
        else eventNet state (.recv clientFd (.packet [])) state.links none

/-- The other steps of the epoll thread, and the steps of the workers. -/
def coreNet (state : NetState) (label : RouteLabel) : Option NetState :=
  match label with
  | .event .acceptFailed => eventNet state .acceptFailed state.links none
  | .event (.notReadable fd) => eventNet state (.notReadable fd) state.links none
  | .event _ => none
  | .job _ => none
  | label => (routeStep state.route label).map (fun route => { state with route := route })

/-- A packet is put into the link that the call has reached. -/
def deliver (links : List Link) (delivery : Delivery) : List Link :=
  match delivery.reached with
  | none => links
  | some link =>
      links.modify link (fun ends =>
        { ends with downlink := ends.downlink ++ [⟨delivery.call.bytes, delivery.serial⟩] })

/-- A step of a job, with what it sends. -/
def jobNet (state : NetState) (thread : Nat) : Option NetState := do
  let (run, _, calls) <- jobMove state.route thread
  let route <- routeStep state.route (.job thread)
  let made := calls.map (fun call =>
    (⟨run.serial, call, state.route.server.connections⟩ : Delivery))
  return { state with
           route := route
           links := made.foldl deliver state.links
           deliveries := state.deliveries ++ made }

def netStep (state : NetState) : NetLabel -> Option NetState
  | .init client appId fd threadRet recvBuf => initStep state client appId fd threadRet recvBuf
  | .deinit client => deinitStep state client
  | .send client sendData isBroadcast => sendStep state client sendData isBroadcast
  | .subscribe client sendBuf subscribeInfo =>
      controlStep state client
        (msgRouteClientSubscribeMsg (state.clients client).vars sendBuf subscribeInfo)
  | .unsubscribe client sendBuf subscribeInfo =>
      controlStep state client
        (msgRouteClientUnsubscribeMsg (state.clients client).vars sendBuf subscribeInfo)
  | .store client index => storeStep state client index
  | .rx client thread failed => rxStep state client thread failed
  | .accept clientFd added => acceptNet state clientFd added
  | .recv clientFd failed => recvNet state clientFd failed
  | .core label => coreNet state label
  | .job thread => jobNet state thread

def network : Machine NetState NetLabel where
  step := netStep

/-- The server has started, and no client has called the library. -/
def netInit (pool : RoutePool) (memory recvBuf : Memory) : NetState where
  route := routeInit pool memory recvBuf
  clients := fun _ => ⟨clientStatics, none, [], []⟩
  links := []
  sent := []
  arrivals := []
  deliveries := []
  callbacks := []

end MsgRoute
end V2x
