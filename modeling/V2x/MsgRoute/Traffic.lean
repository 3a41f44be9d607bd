import V2x.MsgRoute.ClientSteps
import V2x.MsgRoute.NetworkRuns

namespace V2x
namespace MsgRoute

open Foundations ThreadPool

/-!
# What is on its way

The traffic of the network is what its links carry in both directions, with the
records of what was sent, taken, passed on and looked up.  A step of the network
changes it in one of six ways, or not at all.  Whoever follows a message from
its sender to a callback uses these six cases and no step function.
-/

structure Traffic where
  up : Nat -> List UpPacket
  down : Nat -> List DownPacket
  sent : List SentMsg
  arrivals : List Arrival
  deliveries : List Delivery
  callbacks : List CallbackCall

/-- What the links carry to the server. -/
def upOf (links : List Link) (link : Nat) : List UpPacket := (links[link]?).elim [] Link.uplink

/-- The client's end of the link has not been closed. -/
def isOpen (links : List Link) (link : Nat) : Bool := (links[link]?).elim false Link.clientOpen

/-- What the links carry to the clients. -/
def downOf (links : List Link) (link : Nat) : List DownPacket := (links[link]?).elim [] Link.downlink

def RxPc.isHandle : RxPc -> Bool
  | .handle _ _ => true
  | _ => false

namespace NetState

def traffic (state : NetState) : Traffic where
  up := upOf state.links
  down := downOf state.links
  sent := state.sent
  arrivals := state.arrivals
  deliveries := state.deliveries
  callbacks := state.callbacks

/-- A receive thread of the client has a packet in its hands. -/
def Handles (state : NetState) (client : Nat) (rx : RxThread) : Prop :=
  rx ∈ (state.clients client).rx ∧ rx.pc.isHandle = true

/-- The client sends on the link, or one of its receive threads waits there. -/
def Uses (state : NetState) (client link : Nat) : Prop :=
  (state.clients client).link = some link ∨ Exists fun rx =>
    rx ∈ (state.clients client).rx ∧ rx.pc = .recv (some link)

/-- The server has accepted no link that no client has opened. -/
def LinksCover (state : NetState) : Prop := state.route.server.accepted ≤ state.links.length

end NetState

/-- A packet is put into the link that a call of `send` reaches. -/
def Delivery.addTo (down : Nat -> List DownPacket) (delivery : Delivery) : Nat -> List DownPacket :=
  match delivery.reached with
  | none => down
  | some link =>
      Function.update down link (down link ++ [⟨delivery.call.bytes, delivery.serial⟩])

/-- What a receive thread holds after `recv`. -/
def RxThread.receives (rx : RxThread) (packet : DownPacket) : RxThread :=
  ⟨Memory.storeBytes rx.recvBuf 0 (packet.bytes.take recvSize),
    .handle (packet.bytes.take recvSize).length packet.serial⟩

/-- The call that sends the message: `MsgRouteClientSendMsg`, or a subscription function. -/
def SentBy (state : NetState) (label : NetLabel) (msg : SentMsg) : Prop :=
  label = .send msg.client msg.sendData msg.isBroadcast ∨
  Exists fun call => controlCallOf (state.clients msg.client).vars msg.client label = some call ∧
    msg.sendData = call.sendData

/-- The ways in which a step changes the traffic. -/
inductive NetMove (state next : NetState) (label : NetLabel) : Prop where
  | quiet (same : next.traffic = state.traffic)
      (handles : forall client rx, next.Handles client rx <-> state.Handles client rx)
  | sends (msg : SentMsg)
      (changed : next.traffic = { state.traffic with
        up := Function.update (upOf state.links) msg.link
          (upOf state.links msg.link ++ [⟨msg.bytes, state.sent.length⟩])
        sent := state.sent ++ [msg] })
      (handles : forall client rx, next.Handles client rx <-> state.Handles client rx)
      (cause : SentBy state label msg)
  | takes (client link : Nat) (rx : RxThread) (packet : DownPacket) (rest : List DownPacket)
      (isRx : rx ∈ (state.clients client).rx) (waits : rx.pc = .recv (some link))
      (first : downOf state.links link = packet :: rest)
      (changed : next.traffic = { state.traffic with
        down := Function.update (downOf state.links) link rest })
      (kept : forall other held, state.Handles other held -> next.Handles other held)
      (taken : next.Handles client (rx.receives packet))
      (only : forall other held, next.Handles other held -> state.Handles other held ∨
        other = client ∧ held = rx.receives packet)
  | looks (client thread recvByte serial : Nat) (failed : Bool) (rx : RxThread)
      (isLabel : label = .rx client thread failed)
      (isRx : (state.clients client).rx[thread]? = some rx)
      (isPc : rx.pc = .handle recvByte serial)
      (changed : next.traffic = { state.traffic with
        callbacks := state.callbacks ++
          ((msgRouteClientRx (state.clients client).vars rx.recvBuf recvByte).map (fun rxFunc =>
            (⟨client, rxFunc, rx.recvBuf, serial⟩ : CallbackCall))).toList })
      (kept : forall other held, state.Handles other held -> next.Handles other held ∨
        other = client ∧ held = rx)
      (only : forall other held, next.Handles other held -> state.Handles other held)
  | arrives (conn : Connection) (packet : UpPacket) (rest : List UpPacket)
      (member : conn ∈ state.route.server.connections)
      (first : upOf state.links conn.id = packet :: rest)
      (changed : next.traffic = { state.traffic with
        up := Function.update (upOf state.links) conn.id rest
        arrivals := state.arrivals ++
          (if packetKind (packet.bytes.take recvSize) = .routed then
            [⟨packet.sent, conn, state.route.server.accepted⟩] else []) })
      (handles : forall client rx, next.Handles client rx <-> state.Handles client rx)
  | delivers (made : List Delivery)
      (open_ : forall delivery, delivery ∈ made ->
        delivery.connections = state.route.server.connections)
      (changed : next.traffic = { state.traffic with
        down := made.foldl Delivery.addTo (downOf state.links)
        deliveries := state.deliveries ++ made })
      (handles : forall client rx, next.Handles client rx <-> state.Handles client rx)

/-! ## Links -/

section Links

variable {links : List Link} {link : Nat} {ends : Link}

theorem upOf_eq (isLink : links[link]? = some ends) : upOf links link = ends.uplink := by
  rw [upOf, isLink]
  rfl

theorem downOf_eq (isLink : links[link]? = some ends) : downOf links link = ends.downlink := by
  rw [downOf, isLink]
  rfl

theorem getElem?_set_link (isLink : links[link]? = some ends) (new : Link) (other : Nat) :
    (links.set link new)[other]? = if other = link then some new else links[other]? := by
  have inside := (List.getElem?_eq_some_iff.mp isLink).1
  split
  next same => rw [same, List.getElem?_set_self inside]
  next different => rw [List.getElem?_set_ne (Ne.symm different)]

theorem upOf_set (isLink : links[link]? = some ends) (new : Link) :
    upOf (links.set link new) = Function.update (upOf links) link new.uplink := by
  funext other
  rw [Function.update_apply, upOf, getElem?_set_link isLink]
  split <;> rfl

theorem downOf_set (isLink : links[link]? = some ends) (new : Link) :
    downOf (links.set link new) = Function.update (downOf links) link new.downlink := by
  funext other
  rw [Function.update_apply, downOf, getElem?_set_link isLink]
  split <;> rfl

/-- A new link is empty. -/
theorem upOf_append {more : List Link} (empty : forall ends, ends ∈ more -> ends.uplink = []) :
    upOf (links ++ more) = upOf links := by
  funext other
  by_cases old : other < links.length
  · rw [upOf, upOf, List.getElem?_append_left old]
  · rw [upOf, upOf, List.getElem?_append_right (not_lt.mp old),
      List.getElem?_eq_none (not_lt.mp old)]
    cases isNew : more[other - links.length]? with
    | none => rfl
    | some ends => exact empty ends (List.mem_of_getElem? isNew)

theorem downOf_append {more : List Link} (empty : forall ends, ends ∈ more -> ends.downlink = []) :
    downOf (links ++ more) = downOf links := by
  funext other
  by_cases old : other < links.length
  · rw [downOf, downOf, List.getElem?_append_left old]
  · rw [downOf, downOf, List.getElem?_append_right (not_lt.mp old),
      List.getElem?_eq_none (not_lt.mp old)]
    cases isNew : more[other - links.length]? with
    | none => rfl
    | some ends => exact empty ends (List.mem_of_getElem? isNew)

/-- Closing one end leaves what is under way. -/
theorem upOf_closeLink (links : List Link) (link : Option Nat) :
    upOf (closeLink links link) = upOf links := by
  cases link with
  | none => rfl
  | some link =>
      funext other
      rw [upOf, upOf, closeLink, List.getElem?_modify]
      cases links[other]? with
      | none => rfl
      | some ends =>
          change Link.uplink (if link = other then _ else ends) = ends.uplink
          split <;> rfl

theorem downOf_closeLink (links : List Link) (link : Option Nat) :
    downOf (closeLink links link) = downOf links := by
  cases link with
  | none => rfl
  | some link =>
      funext other
      rw [downOf, downOf, closeLink, List.getElem?_modify]
      cases links[other]? with
      | none => rfl
      | some ends =>
          change Link.downlink (if link = other then _ else ends) = ends.downlink
          split <;> rfl

theorem upOf_deliver (links : List Link) (delivery : Delivery) :
    upOf (deliver links delivery) = upOf links := by
  unfold deliver
  split
  · rfl
  next link reached =>
    funext other
    rw [upOf, upOf, List.getElem?_modify]
    cases links[other]? with
    | none => rfl
    | some ends =>
        change Link.uplink (if link = other then _ else ends) = ends.uplink
        split <;> rfl

theorem length_deliver (links : List Link) (delivery : Delivery) :
    (deliver links delivery).length = links.length := by
  unfold deliver
  split
  · rfl
  · exact List.length_modify ..

theorem length_deliverAll (made : List Delivery) (links : List Link) :
    (made.foldl deliver links).length = links.length := by
  induction made generalizing links with
  | nil => rfl
  | cons delivery made inductionHypothesis =>
      exact (inductionHypothesis _).trans (length_deliver links delivery)

theorem downOf_deliver {delivery : Delivery}
    (covered : forall link, delivery.reached = some link -> link < links.length) :
    downOf (deliver links delivery) = delivery.addTo (downOf links) := by
  cases reached : delivery.reached with
  | none => simp only [deliver, Delivery.addTo, reached]
  | some link =>
      have inside := covered link reached
      simp only [deliver, Delivery.addTo, reached]
      funext other
      rw [Function.update_apply, downOf, List.getElem?_modify]
      by_cases same : other = link
      · rw [same, if_pos rfl, List.getElem?_eq_getElem inside, downOf,
          List.getElem?_eq_getElem inside]
        simp only [if_true]
        rfl
      · rw [if_neg same, downOf]
        cases links[other]? with
        | none => rfl
        | some ends =>
            change Link.downlink (if link = other then _ else ends) = ends.downlink
            rw [if_neg (Ne.symm same)]

/-- What jobs send does not change what is on its way to the server. -/
theorem upOf_deliverAll (made : List Delivery) (links : List Link) :
    upOf (made.foldl deliver links) = upOf links := by
  induction made generalizing links with
  | nil => rfl
  | cons delivery made inductionHypothesis =>
      exact (inductionHypothesis _).trans (upOf_deliver links delivery)

theorem downOf_deliverAll {made : List Delivery}
    (covered : forall delivery, delivery ∈ made ->
      forall link, delivery.reached = some link -> link < links.length) :
    downOf (made.foldl deliver links) = made.foldl Delivery.addTo (downOf links) := by
  induction made generalizing links with
  | nil => rfl
  | cons delivery made inductionHypothesis =>
      have rest : forall other, other ∈ made -> forall link, other.reached = some link ->
          link < (deliver links delivery).length := by
        intro other member link reached
        rw [length_deliver]
        exact covered other (List.mem_cons_of_mem _ member) link reached
      rw [List.foldl_cons, List.foldl_cons, inductionHypothesis rest,
        downOf_deliver (covered delivery List.mem_cons_self)]

/-! ### Ends that are open -/

theorem isOpen_set (isLink : links[link]? = some ends) {new : Link}
    (same : new.clientOpen = ends.clientOpen) : isOpen (links.set link new) = isOpen links := by
  funext other
  rw [isOpen, isOpen, getElem?_set_link isLink]
  split
  next here =>
    rw [here, isLink]
    exact same
  next => rfl

theorem isOpen_append (more : List Link) {link : Nat} (opened : isOpen links link = true) :
    isOpen (links ++ more) link = true := by
  unfold isOpen at *
  cases isLink : links[link]? with
  | none =>
      rw [isLink] at opened
      cases opened
  | some ends =>
      rw [List.getElem?_append_left (List.getElem?_eq_some_iff.mp isLink).1, isLink]
      rw [isLink] at opened
      exact opened

/-- Only the end that is closed is not open afterwards. -/
theorem isOpen_closeLink {closed : Option Nat} {link : Nat} (opened : isOpen links link = true) :
    isOpen (closeLink links closed) link = true ∨ closed = some link := by
  cases closed with
  | none => exact Or.inl opened
  | some number =>
      by_cases here : number = link
      · exact Or.inr (congrArg some here)
      · refine Or.inl ?_
        unfold isOpen at opened
        rw [isOpen, closeLink, List.getElem?_modify]
        cases isLink : links[link]? with
        | none =>
            rw [isLink] at opened
            cases opened
        | some ends =>
            rw [isLink] at opened
            change Link.clientOpen (if number = link then _ else ends) = true
            rw [if_neg here]
            exact opened

theorem isOpen_deliver (links : List Link) (delivery : Delivery) :
    isOpen (deliver links delivery) = isOpen links := by
  unfold deliver
  split
  · rfl
  next link reached =>
    funext other
    rw [isOpen, isOpen, List.getElem?_modify]
    cases links[other]? with
    | none => rfl
    | some ends =>
        change Link.clientOpen (if link = other then _ else ends) = ends.clientOpen
        split <;> rfl

theorem isOpen_deliverAll (made : List Delivery) (links : List Link) :
    isOpen (made.foldl deliver links) = isOpen links := by
  induction made generalizing links with
  | nil => rfl
  | cons delivery made inductionHypothesis =>
      exact (inductionHypothesis _).trans (isOpen_deliver links delivery)

end Links

/-! ## Receive threads -/

section Threads

variable {state next : NetState} {client : Nat} {value : Client}

/-- A client changes, and its threads handle what they handled before. -/
theorem handles_update (clients : next.clients = Function.update state.clients client value)
    (same : forall rx, rx.pc.isHandle = true ->
      (rx ∈ value.rx <-> rx ∈ (state.clients client).rx)) (other : Nat) (rx : RxThread) :
    next.Handles other rx <-> state.Handles other rx := by
  rw [NetState.Handles, NetState.Handles, clients]
  by_cases here : other = client
  · subst here
    rw [Function.update_self]
    exact and_congr_left (same rx)
  · rw [Function.update_of_ne here]

/-- The other threads stay when one thread moves. -/
theorem mem_set_of_ne {threads : List RxThread} {thread : Nat} {old rx : RxThread}
    (isOld : threads[thread]? = some old) (member : rx ∈ threads) (different : rx ≠ old)
    (new : RxThread) : rx ∈ threads.set thread new := by
  rcases List.mem_iff_getElem?.mp member with ⟨index, isRx⟩
  have apart : thread ≠ index := by
    rintro rfl
    exact different (Option.some.inj (isRx.symm.trans isOld))
  rw [← List.getElem?_set_ne apart] at isRx
  exact List.mem_of_getElem? isRx

/-- A thread moves that has no packet before or afterwards. -/
theorem mem_set_iff {threads : List RxThread} {thread : Nat} {old new rx : RxThread}
    (isOld : threads[thread]? = some old) (oldFree : old.pc.isHandle = false)
    (newFree : new.pc.isHandle = false) (busy : rx.pc.isHandle = true) :
    rx ∈ threads.set thread new <-> rx ∈ threads := by
  constructor
  · intro member
    rcases List.mem_or_eq_of_mem_set member with before | rfl
    · exact before
    · exact absurd busy (newFree ▸ Bool.false_ne_true)
  · intro member
    apply mem_set_of_ne isOld member
    rintro rfl
    exact absurd busy (oldFree ▸ Bool.false_ne_true)

/-- A step that leaves links, records and threads alone. -/
theorem NetMove.ofSame {label : NetLabel} (up : upOf next.links = upOf state.links)
    (down : downOf next.links = downOf state.links) (sent : next.sent = state.sent)
    (arrivals : next.arrivals = state.arrivals) (deliveries : next.deliveries = state.deliveries)
    (callbacks : next.callbacks = state.callbacks)
    (handles : forall client rx, next.Handles client rx <-> state.Handles client rx) :
    NetMove state next label := by
  refine NetMove.quiet ?_ handles
  rw [NetState.traffic, NetState.traffic, up, down, sent, arrivals, deliveries, callbacks]

end Threads

/-! ## Steps of the clients -/

section ClientSteps

variable {state next : NetState} {client : Nat} {label : NetLabel}

theorem init_moves {appId fd : Int32} {threadRet : Int} {recvBuf : Memory}
    (stepped : initStep state client appId fd threadRet recvBuf = some next) :
    NetMove state next label := by
  simp only [initStep] at stepped
  split at stepped
  · cases stepped
  · cases stepped
    have empty : forall ends, ends ∈
        (if (msgRouteClientInit (state.clients client).vars appId (some fd) threadRet).connected
          then [(⟨[], [], true⟩ : Link)] else []) -> ends.uplink = [] ∧ ends.downlink = [] := by
      intro ends member
      split at member
      · rw [List.mem_singleton.mp member]
        exact ⟨rfl, rfl⟩
      · exact absurd member List.not_mem_nil
    refine NetMove.ofSame (upOf_append fun ends member => (empty ends member).1)
      (downOf_append fun ends member => (empty ends member).2) rfl rfl rfl rfl ?_
    refine handles_update rfl ?_
    intro rx busy
    rw [List.mem_append]
    refine ⟨fun member => member.elim id ?_, Or.inl⟩
    intro new
    split at new
    · rw [List.mem_singleton.mp new] at busy
      cases busy
    · exact absurd new List.not_mem_nil

theorem deinit_moves (stepped : deinitStep state client = some next) :
    NetMove state next label := by
  cases stepped
  exact NetMove.ofSame (upOf_closeLink _ _) (downOf_closeLink _ _) rfl rfl rfl rfl
    (handles_update rfl fun _ _ => Iff.rfl)

/-- A call of `send` by a client, whatever else the step changes in its variables. -/
theorem send_moves {sendData : MsgRouteDataInfo} {isBroadcast : Bool} {middle : NetState}
    (stepped : sendStep state client sendData isBroadcast = some middle)
    (same : next.traffic = middle.traffic)
    (handles : forall other rx, next.Handles other rx <-> middle.Handles other rx)
    (cause : forall msg : SentMsg, msg.client = client -> msg.sendData = sendData ->
      msg.isBroadcast = isBroadcast -> SentBy state label msg) :
    NetMove state next label := by
  rcases Option.bind_eq_some_iff.mp stepped with ⟨link, isLink, rest⟩
  rcases Option.bind_eq_some_iff.mp rest with ⟨ends, isEnds, isMiddle⟩
  cases isMiddle
  refine NetMove.sends
    ⟨client, link, (state.clients client).vars.fd, sendData, isBroadcast, state.callbacks.length⟩
    (same.trans ?_) handles (cause _ rfl rfl rfl)
  simp only [NetState.traffic, NetState.setLink, upOf_set isEnds, downOf_set isEnds,
    upOf_eq isEnds]
  rw [← downOf_eq isEnds, Function.update_eq_self]

theorem control_moves (stepped : controlStep state client
    (controlCallOf (state.clients client).vars client label) = some next) :
    NetMove state next label := by
  rcases Option.bind_eq_some_iff.mp stepped with ⟨made, isCall, rest⟩
  rcases Option.bind_eq_some_iff.mp rest with ⟨middle, sent, isNext⟩
  cases isNext
  refine send_moves sent rfl (handles_update rfl fun _ _ => Iff.rfl) ?_
  rintro msg rfl isData _
  exact Or.inr ⟨made, isCall, isData⟩

theorem store_moves {index : Nat} (stepped : storeStep state client index = some next) :
    NetMove state next label := by
  rcases Option.map_eq_some_iff.mp stepped with ⟨call, _, rfl⟩
  exact NetMove.ofSame rfl rfl rfl rfl rfl rfl (handles_update rfl fun _ _ => Iff.rfl)

/-- A receive thread leaves `recv`. -/
theorem rxRecv_moves {thread : Nat} {rx : RxThread} {link : Option Nat} {failed : Bool}
    (isRx : (state.clients client).rx[thread]? = some rx) (isPc : rx.pc = .recv link)
    (stepped : rxRecv state client thread rx link failed = some next) :
    NetMove state next label := by
  have idle : rx.pc.isHandle = false := by rw [isPc]; rfl
  unfold rxRecv at stepped
  split at stepped
  · cases stepped
    exact NetMove.ofSame rfl rfl rfl rfl rfl rfl
      (handles_update rfl fun other busy => mem_set_iff isRx idle rfl busy)
  · rcases Option.bind_eq_some_iff.mp stepped with ⟨number, rfl, rest⟩
    rcases Option.bind_eq_some_iff.mp rest with ⟨ends, isEnds, taken⟩
    split at taken
    next packet others downlink =>
      cases taken
      have inside := (List.getElem?_eq_some_iff.mp isRx).1
      refine NetMove.takes client number rx packet others (List.mem_of_getElem? isRx) isPc
        ((downOf_eq isEnds).trans downlink) ?_ ?_ ?_ ?_
      · simp only [NetState.traffic, NetState.setClient, NetState.setLink, upOf_set isEnds,
          downOf_set isEnds]
        rw [← upOf_eq isEnds, Function.update_eq_self]
      · rintro other held ⟨member, busy⟩
        refine ⟨?_, busy⟩
        change held ∈ (Function.update state.clients client _ other).rx
        by_cases here : other = client
        · subst here
          rw [Function.update_self]
          apply mem_set_of_ne isRx member
          rintro rfl
          rw [idle] at busy
          cases busy
        · rw [Function.update_of_ne here]
          exact member
      · refine ⟨?_, rfl⟩
        change rx.receives packet ∈ (Function.update state.clients client _ client).rx
        rw [Function.update_self]
        exact List.mem_of_getElem? (List.getElem?_set_self inside)
      · rintro other held ⟨member, busy⟩
        change held ∈ (Function.update state.clients client _ other).rx at member
        by_cases here : other = client
        · subst here
          rw [Function.update_self] at member
          rcases List.mem_or_eq_of_mem_set member with before | rfl
          · exact Or.inl ⟨before, busy⟩
          · exact Or.inr ⟨rfl, rfl⟩
        · rw [Function.update_of_ne here] at member
          exact Or.inl ⟨member, busy⟩
    next =>
      split at taken
      · cases taken
        exact NetMove.ofSame (upOf_closeLink _ _) (downOf_closeLink _ _) rfl rfl rfl rfl
          (handles_update rfl fun other busy => mem_set_iff isRx idle rfl busy)
      · cases taken

theorem rx_moves {thread : Nat} {failed : Bool}
    (stepped : rxStep state client thread failed = some next) :
    NetMove state next (.rx client thread failed) := by
  rcases Option.bind_eq_some_iff.mp stepped with ⟨rx, isRx, rest⟩
  split at rest
  next isPc =>
    cases rest
    have idle : rx.pc.isHandle = false := by rw [isPc]; rfl
    refine NetMove.ofSame rfl rfl rfl rfl rfl rfl (handles_update rfl fun other busy =>
      mem_set_iff isRx idle ?_ busy)
    split <;> rfl
  next link isPc => exact rxRecv_moves isRx isPc rest
  next recvByte serial isPc =>
    cases rest
    refine NetMove.looks client thread recvByte serial failed rx rfl isRx isPc rfl ?_ ?_
    · rintro other held ⟨member, busy⟩
      by_cases here : other = client
      · subst here
        by_cases same : held = rx
        · exact Or.inr ⟨rfl, same⟩
        · refine Or.inl ⟨?_, busy⟩
          change held ∈ (Function.update state.clients other _ other).rx
          rw [Function.update_self]
          exact mem_set_of_ne isRx member same _
      · refine Or.inl ⟨?_, busy⟩
        change held ∈ (Function.update state.clients client _ other).rx
        rw [Function.update_of_ne here]
        exact member
    · rintro other held ⟨member, busy⟩
      refine ⟨?_, busy⟩
      change held ∈ (Function.update state.clients client _ other).rx at member
      by_cases here : other = client
      · subst here
        rw [Function.update_self] at member
        rcases List.mem_or_eq_of_mem_set member with before | rfl
        · exact before
        · cases busy
      · rw [Function.update_of_ne here] at member
        exact member
  next => cases rest

end ClientSteps

/-! ## Steps of the server -/

section ServerSteps

variable {state next : NetState} {label : NetLabel}

theorem quietEvent_moves {event : ServerEvent}
    (stepped : eventNet state event state.links none = some next) : NetMove state next label := by
  rcases Option.map_eq_some_iff.mp stepped with ⟨route, _, rfl⟩
  exact NetMove.ofSame rfl rfl rfl (List.append_nil _) rfl rfl (fun _ _ => Iff.rfl)

/-- The epoll thread takes a packet from a link. -/
theorem recv_moves {clientFd : Int32} {failed : Bool}
    (stepped : recvNet state clientFd failed = some next) : NetMove state next label := by
  unfold recvNet at stepped
  split at stepped
  · exact quietEvent_moves stepped
  · rcases Option.bind_eq_some_iff.mp stepped with ⟨conn, watched, rest⟩
    rcases Option.bind_eq_some_iff.mp rest with ⟨ends, isEnds, handled⟩
    split at handled
    next packet others uplink =>
      rcases Option.map_eq_some_iff.mp handled with ⟨route, _, rfl⟩
      refine NetMove.arrives conn packet others (watchedConnection_spec watched).1
        ((upOf_eq isEnds).trans uplink) ?_ (fun _ _ => Iff.rfl)
      simp only [NetState.traffic, upOf_set isEnds, downOf_set isEnds]
      rw [← downOf_eq isEnds, Function.update_eq_self]
      congr 1
      cases isPacket : routedPacket state.route.server (.recv clientFd (.packet packet.bytes)) with
      | none =>
          rw [if_neg]
          · rfl
          · intro kind
            have routed := routedPacket_eq_some_iff.mpr
              ⟨clientFd, packet.bytes, conn, rfl, watched, kind, rfl⟩
            rw [isPacket] at routed
            cases routed
      | some routed =>
          rcases routedPacket_eq_some_iff.mp isPacket with ⟨_, sent, _, isEvent, _, kind, _⟩
          cases isEvent
          rw [if_pos kind]
          rfl
    next =>
      split at handled
      · cases handled
      · exact quietEvent_moves handled

theorem core_moves {moved : RouteLabel} (stepped : coreNet state moved = some next) :
    NetMove state next label := by
  unfold coreNet at stepped
  split at stepped
  next => exact quietEvent_moves stepped
  next => exact quietEvent_moves stepped
  next => cases stepped
  next => cases stepped
  next =>
    rcases Option.map_eq_some_iff.mp stepped with ⟨route, _, rfl⟩
    exact NetMove.ofSame rfl rfl rfl rfl rfl rfl (fun _ _ => Iff.rfl)

/-- What a job sends reaches links that exist. -/
theorem job_moves {thread : Nat} (connected : state.route.server.Connected)
    (cover : state.LinksCover) (stepped : jobNet state thread = some next) :
    NetMove state next label := by
  rcases Option.bind_eq_some_iff.mp stepped with ⟨⟨run, frame, calls⟩, _, rest⟩
  rcases Option.bind_eq_some_iff.mp rest with ⟨route, _, isNext⟩
  cases isNext
  have opens : forall delivery, delivery ∈ calls.map (fun call =>
      (⟨run.serial, call, state.route.server.connections⟩ : Delivery)) ->
      delivery.connections = state.route.server.connections := by
    intro delivery member
    rcases List.mem_map.mp member with ⟨call, _, rfl⟩
    rfl
  have covered : forall delivery, delivery ∈ calls.map (fun call =>
      (⟨run.serial, call, state.route.server.connections⟩ : Delivery)) ->
      forall link, delivery.reached = some link -> link < state.links.length := by
    intro delivery member link reached
    rcases Option.map_eq_some_iff.mp reached with ⟨conn, found, rfl⟩
    have isOpen := List.mem_of_find?_eq_some found
    rw [opens delivery member] at isOpen
    exact (connected.idsBelow conn isOpen).trans_le cover
  refine NetMove.delivers _ opens ?_ (fun _ _ => Iff.rfl)
  simp only [NetState.traffic, upOf_deliverAll, downOf_deliverAll covered]

end ServerSteps

/-- Every step changes the traffic in one of the ways. -/
theorem netStep_moves {state next : NetState} {label : NetLabel} (inv : NetInv state)
    (cover : state.LinksCover) (stepped : netStep state label = some next) :
    NetMove state next label := by
  cases label with
  | init client appId fd threadRet recvBuf => exact init_moves stepped
  | deinit client => exact deinit_moves stepped
  | send client sendData isBroadcast =>
      refine send_moves stepped rfl (fun _ _ => Iff.rfl) ?_
      rintro msg rfl rfl rfl
      exact Or.inl rfl
  | subscribe client sendBuf subscribeInfo =>
      have sent : controlStep state client (controlCallOf (state.clients client).vars client
          (.subscribe client sendBuf subscribeInfo)) = some next := by
        rw [controlCallOf, if_pos rfl]
        exact stepped
      exact control_moves sent
  | unsubscribe client sendBuf subscribeInfo =>
      have sent : controlStep state client (controlCallOf (state.clients client).vars client
          (.unsubscribe client sendBuf subscribeInfo)) = some next := by
        rw [controlCallOf, if_pos rfl]
        exact stepped
      exact control_moves sent
  | store client index => exact store_moves stepped
  | rx client thread failed => exact rx_moves stepped
  | accept clientFd added =>
      change acceptNet state clientFd added = some next at stepped
      unfold acceptNet at stepped
      split at stepped
      · exact quietEvent_moves stepped
      · cases stepped
  | recv clientFd failed => exact recv_moves stepped
  | core label => exact core_moves stepped
  | job thread => exact job_moves inv.connected cover stepped

/-! ## The server in the network -/

section Route

variable {state next : NetState}

theorem event_route {event : ServerEvent} {links : List Link} {arrived : Option Arrival}
    (stepped : eventNet state event links arrived = some next) :
    routeStep state.route (.event event) = some next.route := by
  rcases Option.map_eq_some_iff.mp stepped with ⟨route, moved, rfl⟩
  exact moved

theorem route_send {client : Nat} {sendData : MsgRouteDataInfo} {isBroadcast : Bool}
    (stepped : sendStep state client sendData isBroadcast = some next) :
    next.route = state.route := by
  rcases Option.bind_eq_some_iff.mp stepped with ⟨link, _, rest⟩
  rcases Option.bind_eq_some_iff.mp rest with ⟨ends, _, isNext⟩
  cases isNext
  rfl

theorem route_control {client : Nat} {call : Option ControlCall}
    (stepped : controlStep state client call = some next) : next.route = state.route := by
  rcases Option.bind_eq_some_iff.mp stepped with ⟨made, _, rest⟩
  rcases Option.bind_eq_some_iff.mp rest with ⟨middle, sent, isNext⟩
  cases isNext
  have kept : middle.route = state.route := route_send sent
  exact kept

/-- A receive thread leaves the server alone and what is on its way to it. -/
theorem rx_keeps {client thread : Nat} {failed : Bool}
    (stepped : rxStep state client thread failed = some next) :
    next.route = state.route ∧ upOf next.links = upOf state.links := by
  rcases Option.bind_eq_some_iff.mp stepped with ⟨rx, _, rest⟩
  split at rest
  next =>
    cases rest
    exact ⟨rfl, rfl⟩
  next =>
    unfold rxRecv at rest
    split at rest
    · cases rest
      exact ⟨rfl, rfl⟩
    · rcases Option.bind_eq_some_iff.mp rest with ⟨number, _, isEnds⟩
      rcases Option.bind_eq_some_iff.mp isEnds with ⟨ends, ends_, taken⟩
      split at taken
      next =>
        cases taken
        refine ⟨rfl, (upOf_set ends_ _).trans ?_⟩
        rw [← upOf_eq ends_, Function.update_eq_self]
      next =>
        split at taken
        · cases taken
          exact ⟨rfl, upOf_closeLink _ _⟩
        · cases taken
  next =>
    cases rest
    exact ⟨rfl, rfl⟩
  next => cases rest

/-- The steps of the clients are none of the server. -/
theorem route_clients {label : NetLabel} (stepped : netStep state label = some next)
    (isClient : match label with
      | .accept _ _ | .recv _ _ | .core _ | .job _ => False
      | _ => True) : next.route = state.route := by
  cases label with
  | init client appId fd threadRet recvBuf =>
      simp only [netStep, initStep] at stepped
      split at stepped
      · cases stepped
      · cases stepped
        rfl
  | deinit client =>
      cases stepped
      rfl
  | send client sendData isBroadcast => exact route_send stepped
  | subscribe client sendBuf subscribeInfo => exact route_control stepped
  | unsubscribe client sendBuf subscribeInfo => exact route_control stepped
  | store client index =>
      rcases Option.map_eq_some_iff.mp stepped with ⟨call, _, rfl⟩
      rfl
  | rx client thread failed => exact (rx_keeps stepped).1
  | accept | recv | core | job => cases isClient

/-- A step of the network is a step of the server or leaves the server alone. -/
theorem netStep_route {label : NetLabel} (stepped : netStep state label = some next) :
    next.route = state.route ∨
      Exists fun moved => routeStep state.route moved = some next.route := by
  cases label with
  | accept clientFd added =>
      simp only [netStep, acceptNet] at stepped
      split at stepped
      · exact Or.inr ⟨_, event_route stepped⟩
      · cases stepped
  | recv clientFd failed =>
      simp only [netStep, recvNet] at stepped
      split at stepped
      · exact Or.inr ⟨_, event_route stepped⟩
      · rcases Option.bind_eq_some_iff.mp stepped with ⟨conn, _, rest⟩
        rcases Option.bind_eq_some_iff.mp rest with ⟨ends, _, handled⟩
        split at handled
        next => exact Or.inr ⟨_, event_route handled⟩
        next =>
          split at handled
          · cases handled
          · exact Or.inr ⟨_, event_route handled⟩
  | core label =>
      simp only [netStep, coreNet] at stepped
      split at stepped
      next => exact Or.inr ⟨_, event_route stepped⟩
      next => exact Or.inr ⟨_, event_route stepped⟩
      next => cases stepped
      next => cases stepped
      next =>
        rcases Option.map_eq_some_iff.mp stepped with ⟨route, moved, rfl⟩
        exact Or.inr ⟨_, moved⟩
  | job thread =>
      rcases Option.bind_eq_some_iff.mp stepped with ⟨⟨run, frame, calls⟩, _, rest⟩
      rcases Option.bind_eq_some_iff.mp rest with ⟨route, moved, isNext⟩
      cases isNext
      exact Or.inr ⟨.job thread, moved⟩
  | _ => exact Or.inl (route_clients stepped trivial)

/-- What an event means for the server. -/
theorem event_serverChange {event : ServerEvent} {links : List Link} {arrived : Option Arrival}
    (stepped : eventNet state event links arrived = some next) :
    next.links = links ∧ ServerChange state.route.server next.route.server event.kind := by
  rcases Option.map_eq_some_iff.mp stepped with ⟨route, moved, rfl⟩
  exact ⟨rfl, serverStep_change (eventEffect moved).server⟩

/-- The other steps of the epoll thread and of the workers change no connection. -/
theorem core_serverChange {label : RouteLabel} (stepped : coreNet state label = some next) :
    next.links = state.links ∧ next.clients = state.clients ∧
      ServerChange state.route.server next.route.server .quiet := by
  have same : forall route : RouteState, route.server = state.route.server ->
      ServerChange state.route.server route.server .quiet := by
    intro route server
    rw [server]
    exact .quiet rfl rfl rfl rfl
  unfold coreNet at stepped
  split at stepped
  next => exact ⟨(event_serverChange stepped).1, clients_event stepped, (event_serverChange stepped).2⟩
  next => exact ⟨(event_serverChange stepped).1, clients_event stepped, (event_serverChange stepped).2⟩
  next => cases stepped
  next => cases stepped
  next notFailed notReadable notEvent notJob =>
    rcases Option.map_eq_some_iff.mp stepped with ⟨route, moved, rfl⟩
    refine ⟨rfl, rfl, same route ?_⟩
    cases label with
    | event event => exact absurd rfl (notEvent event)
    | malloc block => exact (coreEffect_malloc moved).server
    | call => exact (coreEffect_call moved).server
    | add label => exact (coreEffect_add moved).server
    | worker thread stack =>
        rcases coreEffect_worker moved with ⟨more, effect⟩
        exact effect.server
    | job thread => exact absurd rfl (notJob thread)

end Route

/-! ## Who uses a link -/

/-- What a step does to the links.  A client begins to use a link by opening it,
and the client that sends on a link is the one to close it. -/
structure LinkStep (state next : NetState) : Prop where
  grows : state.links.length ≤ next.links.length
  accepted : next.route.server.accepted ≤ state.route.server.accepted ∨
    next.route.server.accepted ≤ next.links.length
  opens : Exists fun opener => forall client link, next.Uses client link ->
    state.Uses client link ∨
      client = opener ∧ link = state.links.length ∧ link < next.links.length
  keeps : forall link, isOpen state.links link = true -> isOpen next.links link = true ∨
    Exists fun other => (state.clients other).link = some link ∧ (next.clients other).link = none

section Users

variable {state next : NetState} {client : Nat} {value : Client}

theorem uses_update (clients : next.clients = Function.update state.clients client value)
    (links : forall link, value.link = some link -> state.Uses client link)
    (waits : forall rx link, rx ∈ value.rx -> rx.pc = .recv (some link) -> state.Uses client link)
    (other link : Nat) (uses : next.Uses other link) : state.Uses other link := by
  unfold NetState.Uses at uses
  rw [clients] at uses
  by_cases here : other = client
  · subst here
    rw [Function.update_self] at uses
    rcases uses with sends | ⟨rx, member, isPc⟩
    · exact links link sends
    · exact waits rx link member isPc
  · rw [Function.update_of_ne here] at uses
    exact uses

/-- A thread moves, and it waits only where its client sends. -/
theorem uses_thread {thread : Nat} {new : RxThread} {vars : ClientVars} {last : Option Nat}
    {pending : List ControlCall} (kept : last = none ∨ last = (state.clients client).link)
    (newWaits : forall link, new.pc = .recv (some link) -> state.Uses client link)
    (clients : next.clients = Function.update state.clients client
      ⟨vars, last, (state.clients client).rx.set thread new, pending⟩)
    (other link : Nat) (uses : next.Uses other link) : state.Uses other link := by
  refine uses_update clients ?_ ?_ other link uses
  · intro number isLast
    rcases kept with isNone | same
    · rw [isNone] at isLast
      cases isLast
    · exact Or.inl (same ▸ isLast)
  · intro rx number member isPc
    rcases List.mem_or_eq_of_mem_set member with before | rfl
    · exact Or.inr ⟨rx, before, isPc⟩
    · exact newWaits number isPc

theorem LinkStep.ofKept (grows : state.links.length ≤ next.links.length)
    (accepted : next.route.server.accepted = state.route.server.accepted)
    (kept : forall other link, next.Uses other link -> state.Uses other link)
    (same : isOpen next.links = isOpen state.links) : LinkStep state next where
  grows := grows
  accepted := Or.inl accepted.le
  opens := ⟨0, fun other link uses => Or.inl (kept other link uses)⟩
  keeps := fun _ opened => Or.inl (same ▸ opened)

/-- A client closes its end of its link. -/
theorem LinkStep.ofClosed (length : state.links.length ≤ next.links.length)
    (accepted : next.route.server.accepted = state.route.server.accepted)
    (kept : forall other link, next.Uses other link -> state.Uses other link)
    (links : next.links = closeLink state.links (state.clients client).link)
    (left : (next.clients client).link = none) : LinkStep state next where
  grows := length
  accepted := Or.inl accepted.le
  opens := ⟨0, fun other link uses => Or.inl (kept other link uses)⟩
  keeps := by
    intro link opened
    rw [links]
    rcases isOpen_closeLink opened with still | closed
    · exact Or.inl still
    · exact Or.inr ⟨client, closed, left⟩

theorem length_closeLink (links : List Link) (link : Option Nat) :
    (closeLink links link).length = links.length := by
  cases link with
  | none => rfl
  | some link => exact List.length_modify ..

/-- A call of `send`, whatever else the step changes in the variables of the client. -/
theorem send_linkStep {sendData : MsgRouteDataInfo} {isBroadcast : Bool} {middle : NetState}
    (stepped : sendStep state client sendData isBroadcast = some middle)
    (links : next.links = middle.links) (route : next.route = middle.route)
    (kept : forall other link, next.Uses other link -> middle.Uses other link) :
    LinkStep state next := by
  rcases Option.bind_eq_some_iff.mp stepped with ⟨link, _, rest⟩
  rcases Option.bind_eq_some_iff.mp rest with ⟨ends, isEnds, isMiddle⟩
  cases isMiddle
  refine LinkStep.ofKept ?_ (route ▸ rfl) kept ?_
  · rw [links]
    exact (List.length_set ..).ge
  · rw [links]
    exact isOpen_set isEnds rfl

theorem control_linkStep {call : Option ControlCall}
    (stepped : controlStep state client call = some next) : LinkStep state next := by
  rcases Option.bind_eq_some_iff.mp stepped with ⟨made, _, rest⟩
  rcases Option.bind_eq_some_iff.mp rest with ⟨middle, sent, isNext⟩
  cases isNext
  refine send_linkStep sent rfl rfl (uses_update rfl (fun link => Or.inl) ?_)
  exact fun rx link member isPc => Or.inr ⟨rx, member, isPc⟩

theorem init_linkStep {appId fd : Int32} {threadRet : Int} {recvBuf : Memory}
    (stepped : initStep state client appId fd threadRet recvBuf = some next) :
    LinkStep state next := by
  simp only [initStep] at stepped
  split at stepped
  · cases stepped
  · cases stepped
    refine ⟨?_, Or.inl (Nat.le_refl _), ⟨client, ?_⟩, fun link opened =>
      Or.inl (isOpen_append _ opened)⟩
    · rw [List.length_append]
      exact Nat.le_add_right _ _
    · rintro other link (sends | ⟨rx, member, isPc⟩)
      · change (Function.update state.clients client _ other).link = some link at sends
        by_cases here : other = client
        · subst here
          rw [Function.update_self] at sends
          simp only at sends
          split at sends
          next connected =>
            cases sends
            refine Or.inr ⟨rfl, rfl, ?_⟩
            simp only [connected, if_true, List.length_append, List.length_singleton]
            exact Nat.lt_succ_self _
          next => exact Or.inl (Or.inl sends)
        · rw [Function.update_of_ne here] at sends
          exact Or.inl (Or.inl sends)
      · change rx ∈ (Function.update state.clients client _ other).rx at member
        by_cases here : other = client
        · subst here
          rw [Function.update_self] at member
          rcases List.mem_append.mp member with old | new
          · exact Or.inl (Or.inr ⟨rx, old, isPc⟩)
          · split at new
            · rw [List.mem_singleton.mp new] at isPc
              cases isPc
            · exact absurd new List.not_mem_nil
        · rw [Function.update_of_ne here] at member
          exact Or.inl (Or.inr ⟨rx, member, isPc⟩)

theorem rx_linkStep {thread : Nat} {failed : Bool}
    (stepped : rxStep state client thread failed = some next) : LinkStep state next := by
  rcases Option.bind_eq_some_iff.mp stepped with ⟨rx, isRx, rest⟩
  split at rest
  next isPc =>
    cases rest
    refine LinkStep.ofKept (Nat.le_refl _) rfl (uses_thread (Or.inr rfl) ?_ rfl) rfl
    intro link waits
    split at waits
    · exact Or.inl (RxPc.recv.inj waits)
    · cases waits
  next link isPc =>
    unfold rxRecv at rest
    split at rest
    · cases rest
      exact LinkStep.ofKept (Nat.le_refl _) rfl (uses_thread (Or.inr rfl) (by simp) rfl) rfl
    · rcases Option.bind_eq_some_iff.mp rest with ⟨number, _, isEnds⟩
      rcases Option.bind_eq_some_iff.mp isEnds with ⟨ends, ends_, taken⟩
      split at taken
      next =>
        cases taken
        exact LinkStep.ofKept (List.length_set ..).ge rfl (uses_thread (Or.inr rfl) (by simp) rfl)
          (isOpen_set ends_ rfl)
      next =>
        split at taken
        · cases taken
          refine LinkStep.ofClosed (length_closeLink _ _).ge rfl
            (uses_thread (Or.inl rfl) (by simp) rfl) rfl ?_
          exact congrArg Client.link (Function.update_self client _ state.clients)
        · cases taken
  next =>
    cases rest
    exact LinkStep.ofKept (Nat.le_refl _) rfl (uses_thread (Or.inr rfl) (by simp) rfl) rfl
  next => cases rest

/-- The server leaves the clients alone, and accepts links that are there. -/
theorem event_linkStep {event : ServerEvent} {links : List Link} {arrived : Option Arrival}
    (length : links.length = state.links.length) (same : isOpen links = isOpen state.links)
    (room : forall fd, event.kind = .accept fd ->
      state.route.server.accepted < state.links.length)
    (stepped : eventNet state event links arrived = some next) : LinkStep state next := by
  rcases event_serverChange stepped with ⟨isNext, change⟩
  have clients := clients_event stepped
  rw [← isNext] at length same
  have kept : forall other link, next.Uses other link -> state.Uses other link := by
    intro other link uses
    rw [NetState.Uses, clients] at uses
    exact uses
  refine ⟨length.ge, ?_, ⟨0, fun other link uses => Or.inl (kept other link uses)⟩,
    fun link opened => Or.inl (same ▸ opened)⟩
  generalize event.kind = kind at change room
  cases change with
  | quiet _ _ accepted _ | control _ _ _ _ _ _ _ accepted _ | disconnected _ _ _ _ accepted _ =>
      exact Or.inl accepted.le
  | accepted clientFd added _ _ _ _ accepted _ =>
      refine Or.inr (accepted.le.trans ?_)
      exact (room clientFd rfl).trans_le length.ge

theorem recv_linkStep {clientFd : Int32} {failed : Bool}
    (stepped : recvNet state clientFd failed = some next) : LinkStep state next := by
  have notAccept : forall result fd, (ServerEvent.recv clientFd result).kind = .accept fd ->
      state.route.server.accepted < state.links.length := by
    intro result fd isKind
    cases result with
    | error => cases isKind
    | packet sent =>
        simp only [ServerEvent.kind, RecvResult.kind] at isKind
        split at isKind <;> cases isKind
  unfold recvNet at stepped
  split at stepped
  · exact event_linkStep rfl rfl (notAccept _) stepped
  · rcases Option.bind_eq_some_iff.mp stepped with ⟨conn, _, rest⟩
    rcases Option.bind_eq_some_iff.mp rest with ⟨ends, isEnds, handled⟩
    split at handled
    next =>
      refine event_linkStep (List.length_set ..) ?_ (notAccept _) handled
      exact isOpen_set isEnds rfl
    next =>
      split at handled
      · cases handled
      · exact event_linkStep rfl rfl (notAccept _) handled

theorem core_linkStep {label : RouteLabel} (stepped : coreNet state label = some next) :
    LinkStep state next := by
  rcases core_serverChange stepped with ⟨links, clients, change⟩
  cases change with
  | quiet _ _ accepted _ =>
      refine LinkStep.ofKept (links ▸ Nat.le_refl _) accepted ?_ (links ▸ rfl)
      intro other link uses
      rw [NetState.Uses, clients] at uses
      exact uses

theorem job_linkStep {thread : Nat} (stepped : jobNet state thread = some next) :
    LinkStep state next := by
  rcases Option.bind_eq_some_iff.mp stepped with ⟨⟨run, frame, calls⟩, isMove, rest⟩
  rcases Option.bind_eq_some_iff.mp rest with ⟨route, moved, isNext⟩
  cases isNext
  exact LinkStep.ofKept (length_deliverAll _ _).ge
    (congrArg ServerState.accepted (jobEffect isMove moved).1) (fun other link uses => uses)
    (isOpen_deliverAll _ _)

theorem netStep_linkStep {label : NetLabel} (stepped : netStep state label = some next) :
    LinkStep state next := by
  cases label with
  | init client appId fd threadRet recvBuf => exact init_linkStep stepped
  | deinit client =>
      cases stepped
      refine LinkStep.ofClosed (length_closeLink _ _).ge rfl
        (uses_update rfl (by simp) fun rx link member isPc => Or.inr ⟨rx, member, isPc⟩) rfl ?_
      exact congrArg Client.link (Function.update_self client _ state.clients)
  | send client sendData isBroadcast => exact send_linkStep stepped rfl rfl (fun _ _ uses => uses)
  | subscribe client sendBuf subscribeInfo => exact control_linkStep stepped
  | unsubscribe client sendBuf subscribeInfo => exact control_linkStep stepped
  | store client index =>
      rcases Option.map_eq_some_iff.mp stepped with ⟨call, _, rfl⟩
      exact LinkStep.ofKept (Nat.le_refl _) rfl (uses_update rfl (fun link => Or.inl)
        fun rx link member isPc => Or.inr ⟨rx, member, isPc⟩) rfl
  | rx client thread failed => exact rx_linkStep stepped
  | accept clientFd added =>
      change acceptNet state clientFd added = some next at stepped
      unfold acceptNet at stepped
      split at stepped
      next room => exact event_linkStep rfl rfl (fun _ _ => room) stepped
      next => cases stepped
  | recv clientFd failed => exact recv_linkStep stepped
  | core label => exact core_linkStep stepped
  | job thread => exact job_linkStep stepped

theorem linksCover_step {label : NetLabel} (cover : state.LinksCover)
    (stepped : netStep state label = some next) : next.LinksCover := by
  have linkStep := netStep_linkStep stepped
  rcases linkStep.accepted with notMore | covered
  · exact notMore.trans (cover.trans linkStep.grows)
  · exact covered

/-- No two clients use the same link, and the links they use are there. -/
structure Exclusive (state : NetState) : Prop where
  inside : forall client link, state.Uses client link -> link < state.links.length
  single : forall first second link, state.Uses first link -> state.Uses second link ->
    first = second

theorem exclusive_netInit (pool : RoutePool) (memory recvBuf : Memory) :
    Exclusive (netInit pool memory recvBuf) := by
  have unused : forall client link, ¬ (netInit pool memory recvBuf).Uses client link := by
    rintro client link (sends | ⟨rx, member, _⟩)
    · cases sends
    · exact List.not_mem_nil member
  exact ⟨fun client link uses => absurd uses (unused client link),
    fun first _ link uses _ => absurd uses (unused first link)⟩

theorem exclusive_step {label : NetLabel} (exclusive : Exclusive state)
    (stepped : netStep state label = some next) : Exclusive next := by
  have linkStep := netStep_linkStep stepped
  rcases linkStep.opens with ⟨opener, opens⟩
  constructor
  · intro client link uses
    rcases opens client link uses with before | ⟨_, _, inside⟩
    · exact (exclusive.inside client link before).trans_le linkStep.grows
    · exact inside
  · intro first second link firstUses secondUses
    rcases opens first link firstUses with firstOld | ⟨rfl, isNew, _⟩
    · rcases opens second link secondUses with secondOld | ⟨_, isNew, _⟩
      · exact exclusive.single first second link firstOld secondOld
      · exact absurd isNew (Nat.ne_of_lt (exclusive.inside first link firstOld))
    · rcases opens second link secondUses with secondOld | ⟨same, _, _⟩
      · exact absurd isNew (Nat.ne_of_lt (exclusive.inside second link secondOld))
      · exact same.symm

end Users

end MsgRoute
end V2x
