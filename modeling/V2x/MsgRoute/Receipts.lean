import V2x.MsgRoute.Following

namespace V2x
namespace MsgRoute

open Foundations ThreadPool

/-!
# Packets are handled one by one

A receive thread takes a packet from its link, and handles it before it takes
the next one.  The run is kept with notes of both.  They balance: what has been
taken from a link and what is still there is what the jobs have sent there, in
this order; and what a thread has taken it has handled, except for the packet in
its hands.
-/

/-- A thread has taken a packet of this job from this link. -/
structure Receipt where
  client : Nat
  thread : Nat
  serial : Nat
  link : Nat
deriving DecidableEq, Repr

/-- A thread has handled a packet of this job. -/
structure Handling where
  client : Nat
  thread : Nat
  serial : Nat
deriving DecidableEq, Repr

structure Receipts where
  taken : List Receipt
  handled : List Handling

def Receipt.handling (receipt : Receipt) : Handling :=
  ⟨receipt.client, receipt.thread, receipt.serial⟩

/-- The job whose packet the thread handles. -/
def RxPc.serial? : RxPc -> Option Nat
  | .handle _ serial => some serial
  | _ => none

namespace NetState

/-- Where a receive thread of a client stands. -/
def rxPc (state : NetState) (client thread : Nat) : Option RxPc :=
  ((state.clients client).rx[thread]?).map RxThread.pc

/-- The packet that the thread has in its hands. -/
def inHand (state : NetState) (client thread : Nat) : Option Nat :=
  (state.rxPc client thread).bind RxPc.serial?

end NetState

/-- The notes after a step. -/
def noteReceipt (state : NetState) (label : NetLabel) (notes : Receipts) : Receipts :=
  match label with
  | .rx client thread failed =>
      match state.rxPc client thread with
      | some (.recv (some link)) =>
          if failed then notes
          else
            { notes with taken := notes.taken ++ ((downOf state.links link).head?.map (fun packet =>
              (⟨client, thread, packet.serial, link⟩ : Receipt))).toList }
      | some (.handle _ serial) =>
          { notes with handled := notes.handled ++ [⟨client, thread, serial⟩] }
      | _ => notes
  | _ => notes

/-! ## What a step does to the packets for the clients -/

/-- The ways in which a step moves packets for clients. -/
inductive ReceiptMove (state next : NetState) (label : NetLabel) : Prop where
  | calm (down : downOf next.links = downOf state.links) (deliveries : next.deliveries = state.deliveries)
      (callbacks : next.callbacks = state.callbacks) (hands : next.inHand = state.inHand)
      (notes : noteReceipt state label = id)
  | delivers (made : List Delivery) (down : downOf next.links = made.foldl Delivery.addTo (downOf state.links))
      (deliveries : next.deliveries = state.deliveries ++ made) (callbacks : next.callbacks = state.callbacks)
      (hands : next.inHand = state.inHand) (notes : noteReceipt state label = id)
  | takes (client thread link : Nat) (packet : DownPacket) (rest : List DownPacket)
      (first : downOf state.links link = packet :: rest)
      (down : downOf next.links = Function.update (downOf state.links) link rest)
      (deliveries : next.deliveries = state.deliveries) (callbacks : next.callbacks = state.callbacks)
      (free : state.inHand client thread = none)
      (hands : forall other otherThread, next.inHand other otherThread =
        if other = client ∧ otherThread = thread then some packet.serial
        else state.inHand other otherThread)
      (notes : forall notes, noteReceipt state label notes =
        { notes with taken := notes.taken ++ [⟨client, thread, packet.serial, link⟩] })
  | handles (client thread serial : Nat) (made : Option CallbackCall)
      (down : downOf next.links = downOf state.links) (deliveries : next.deliveries = state.deliveries)
      (callbacks : next.callbacks = state.callbacks ++ made.toList)
      (isSerial : forall call, made = some call -> call.serial = serial)
      (busy : state.inHand client thread = some serial)
      (hands : forall other otherThread, next.inHand other otherThread =
        if other = client ∧ otherThread = thread then none else state.inHand other otherThread)
      (notes : forall notes, noteReceipt state label notes =
        { notes with handled := notes.handled ++ [⟨client, thread, serial⟩] })

section Moves

variable {state next : NetState} {client : Nat}

/-- A step that changes the threads of one client. -/
theorem inHand_update {value : Client} {other thread : Nat}
    (clients : next.clients = Function.update state.clients client value) :
    next.inHand other thread =
      if other = client then ((value.rx[thread]?).map RxThread.pc).bind RxPc.serial?
      else state.inHand other thread := by
  unfold NetState.inHand NetState.rxPc
  rw [clients]
  split
  next same => rw [same, Function.update_self]
  next different => rw [Function.update_of_ne different]

/-- What the threads of the client hold has not changed. -/
theorem inHand_same {value : Client} (clients : next.clients = Function.update state.clients client value)
    (threads : forall thread : Nat, ((value.rx[thread]?).map RxThread.pc).bind RxPc.serial? =
      state.inHand client thread) : next.inHand = state.inHand := by
  funext other thread
  rw [inHand_update clients]
  split
  next same => rw [threads, same]
  next => rfl

/-- One thread of the client has moved. -/
theorem inHand_set {value : Client} {thread : Nat} {before after : RxThread}
    (clients : next.clients = Function.update state.clients client value)
    (isThread : (state.clients client).rx[thread]? = some before)
    (threads : value.rx = (state.clients client).rx.set thread after) {held : Option Nat}
    (isHeld : after.pc.serial? = held) (other otherThread : Nat) :
    next.inHand other otherThread =
      if other = client ∧ otherThread = thread then held else state.inHand other otherThread := by
  have inside := (List.getElem?_eq_some_iff.mp isThread).1
  rw [inHand_update clients, threads, ← isHeld]
  by_cases here : other = client
  · subst here
    rw [if_pos rfl]
    by_cases same : otherThread = thread
    · subst same
      rw [if_pos ⟨rfl, rfl⟩, List.getElem?_set_self inside]
      rfl
    · rw [if_neg (fun both => same both.2), List.getElem?_set_ne (Ne.symm same)]
      rfl
  · rw [if_neg here, if_neg (fun both => here both.1)]

theorem inHand_of_pc {thread : Nat} {rx : RxThread} (isThread : (state.clients client).rx[thread]? = some rx) :
    state.inHand client thread = rx.pc.serial? := by
  unfold NetState.inHand NetState.rxPc
  rw [isThread]
  rfl

/-- The thread has moved and holds nothing, as before. -/
theorem inHand_idle {value : Client} {thread : Nat} {before after : RxThread}
    (clients : next.clients = Function.update state.clients client value)
    (isThread : (state.clients client).rx[thread]? = some before)
    (threads : value.rx = (state.clients client).rx.set thread after)
    (idleBefore : before.pc.serial? = none) (idleAfter : after.pc.serial? = none) :
    next.inHand = state.inHand := by
  funext other otherThread
  rw [inHand_set clients isThread threads idleAfter]
  split
  next same => rw [same.1, same.2, inHand_of_pc isThread, idleBefore]
  next => rfl

/-! ### Clients -/

theorem init_receipts {label : NetLabel} {appId fd : Int32} {threadRet : Int} {recvBuf : Memory}
    (stepped : initStep state client appId fd threadRet recvBuf = some next)
    (notes : noteReceipt state label = id) : ReceiptMove state next label := by
  simp only [initStep] at stepped
  split at stepped
  · cases stepped
  · cases stepped
    refine .calm (downOf_append ?_) rfl rfl (inHand_same rfl ?_) notes
    · intro ends member
      split at member
      · rw [List.mem_singleton.mp member]
      · exact absurd member List.not_mem_nil
    · intro thread
      change _ = ((((state.clients client).rx[thread]?).map RxThread.pc).bind RxPc.serial?)
      by_cases old : thread < (state.clients client).rx.length
      · rw [List.getElem?_append_left old]
      · rw [List.getElem?_append_right (not_lt.mp old), List.getElem?_eq_none (not_lt.mp old)]
        split
        · cases thread - (state.clients client).rx.length with
          | zero => rfl
          | succ _ => rfl
        · rfl

theorem send_receipts {label : NetLabel} {sendData : MsgRouteDataInfo} {isBroadcast : Bool}
    {middle : NetState} (stepped : sendStep state client sendData isBroadcast = some middle)
    (links : next.links = middle.links) (deliveries : next.deliveries = middle.deliveries)
    (callbacks : next.callbacks = middle.callbacks) (hands : next.inHand = middle.inHand)
    (notes : noteReceipt state label = id) : ReceiptMove state next label := by
  rcases Option.bind_eq_some_iff.mp stepped with ⟨link, isLink, rest⟩
  rcases Option.bind_eq_some_iff.mp rest with ⟨ends, isEnds, isMiddle⟩
  cases isMiddle
  refine .calm ?_ deliveries callbacks hands notes
  rw [links]
  change downOf (state.links.set link _) = downOf state.links
  rw [downOf_set isEnds, ← downOf_eq isEnds, Function.update_eq_self]

theorem control_receipts {label : NetLabel} {call : Option ControlCall}
    (stepped : controlStep state client call = some next) (notes : noteReceipt state label = id) :
    ReceiptMove state next label := by
  rcases Option.bind_eq_some_iff.mp stepped with ⟨made, _, rest⟩
  rcases Option.bind_eq_some_iff.mp rest with ⟨middle, sent, isNext⟩
  cases isNext
  exact send_receipts sent rfl rfl rfl (inHand_same rfl (fun _ => rfl)) notes

/-- A receive thread leaves `recv`. -/
theorem rxRecv_receipts {thread : Nat} {rx : RxThread} {link : Option Nat} {failed : Bool}
    (isRx : (state.clients client).rx[thread]? = some rx) (isPc : rx.pc = .recv link)
    (stepped : rxRecv state client thread rx link failed = some next) :
    ReceiptMove state next (.rx client thread failed) := by
  have at_ : state.rxPc client thread = some (.recv link) := by
    rw [NetState.rxPc, isRx, ← isPc]
    rfl
  have idle : rx.pc.serial? = none := by
    rw [isPc]
    rfl
  unfold rxRecv at stepped
  split at stepped
  next isFailed =>
    cases stepped
    refine .calm rfl rfl rfl (inHand_idle rfl isRx rfl idle rfl) ?_
    funext notes
    simp only [noteReceipt, at_]
    cases link with
    | none => rfl
    | some link => exact if_pos isFailed
  next notFailed =>
    rcases Option.bind_eq_some_iff.mp stepped with ⟨number, rfl, rest⟩
    rcases Option.bind_eq_some_iff.mp rest with ⟨ends, isEnds, taken⟩
    split at taken
    next packet others downlink =>
      cases taken
      have first : downOf state.links number = packet :: others := (downOf_eq isEnds).trans downlink
      refine .takes client thread number packet others first (downOf_set isEnds _) rfl rfl
        ((inHand_of_pc isRx).trans idle) (inHand_set rfl isRx rfl rfl) ?_
      intro notes
      simp only [noteReceipt, at_, first, List.head?_cons, Option.map_some, Option.toList_some]
      exact if_neg notFailed
    next downlink =>
      split at taken
      · cases taken
        refine .calm (downOf_closeLink _ _) rfl rfl (inHand_idle rfl isRx rfl idle rfl) ?_
        funext notes
        have nothing : downOf state.links number = [] := (downOf_eq isEnds).trans downlink
        simp only [noteReceipt, at_, nothing, List.head?_nil, Option.map_none, Option.toList_none,
          List.append_nil]
        exact if_neg notFailed
      · cases taken

theorem rx_receipts {thread : Nat} {failed : Bool} (stepped : rxStep state client thread failed = some next) :
    ReceiptMove state next (.rx client thread failed) := by
  rcases Option.bind_eq_some_iff.mp stepped with ⟨rx, isRx, rest⟩
  have at_ : state.rxPc client thread = some rx.pc := by
    rw [NetState.rxPc, isRx]
    rfl
  split at rest
  next isPc =>
    cases rest
    have idle : rx.pc.serial? = none := by
      rw [isPc]
      rfl
    refine .calm rfl rfl rfl (inHand_idle rfl isRx rfl idle ?_) ?_
    · split <;> rfl
    · funext notes
      simp only [noteReceipt, at_, isPc]
      rfl
  next link isPc => exact rxRecv_receipts isRx isPc rest
  next recvByte serial isPc =>
    cases rest
    refine .handles client thread serial _ rfl rfl rfl ?_ ?_ (inHand_set rfl isRx rfl rfl) ?_
    · intro call isCall
      rcases Option.map_eq_some_iff.mp isCall with ⟨rxFunc, _, rfl⟩
      rfl
    · rw [inHand_of_pc isRx, isPc]
      rfl
    · intro notes
      simp only [noteReceipt, at_, isPc]
  next => cases rest

/-! ### The server -/

theorem event_receipts {label : NetLabel} {event : ServerEvent} {links : List Link}
    {arrived : Option Arrival} (stepped : eventNet state event links arrived = some next)
    (down : downOf links = downOf state.links) (notes : noteReceipt state label = id) :
    ReceiptMove state next label := by
  rcases Option.map_eq_some_iff.mp stepped with ⟨route, _, rfl⟩
  exact .calm down rfl rfl rfl notes

theorem recv_receipts {label : NetLabel} {clientFd : Int32} {failed : Bool}
    (stepped : recvNet state clientFd failed = some next) (notes : noteReceipt state label = id) :
    ReceiptMove state next label := by
  unfold recvNet at stepped
  split at stepped
  · exact event_receipts stepped rfl notes
  · rcases Option.bind_eq_some_iff.mp stepped with ⟨conn, _, rest⟩
    rcases Option.bind_eq_some_iff.mp rest with ⟨ends, isEnds, handled⟩
    split at handled
    next packet others uplink =>
      refine event_receipts handled ?_ notes
      rw [downOf_set isEnds, ← downOf_eq isEnds, Function.update_eq_self]
    next =>
      split at handled
      · cases handled
      · exact event_receipts handled rfl notes

theorem core_receipts {label : NetLabel} {moved : RouteLabel} (stepped : coreNet state moved = some next)
    (notes : noteReceipt state label = id) : ReceiptMove state next label := by
  unfold coreNet at stepped
  split at stepped
  next => exact event_receipts stepped rfl notes
  next => exact event_receipts stepped rfl notes
  next => cases stepped
  next => cases stepped
  next =>
    rcases Option.map_eq_some_iff.mp stepped with ⟨route, _, rfl⟩
    exact .calm rfl rfl rfl rfl notes

theorem job_receipts {label : NetLabel} {thread : Nat} (connected : state.route.server.Connected)
    (cover : state.LinksCover) (stepped : jobNet state thread = some next)
    (notes : noteReceipt state label = id) : ReceiptMove state next label := by
  rcases Option.bind_eq_some_iff.mp stepped with ⟨⟨run, frame, calls⟩, _, rest⟩
  rcases Option.bind_eq_some_iff.mp rest with ⟨route, _, isNext⟩
  cases isNext
  refine .delivers _ (downOf_deliverAll ?_) rfl rfl rfl notes
  intro delivery member link reached
  rcases List.mem_map.mp member with ⟨call, _, rfl⟩
  rcases Option.map_eq_some_iff.mp reached with ⟨conn, found, rfl⟩
  exact (connected.idsBelow conn (List.mem_of_find?_eq_some found)).trans_le cover

theorem netStep_receipts {label : NetLabel} (underWay : UnderWay state)
    (stepped : netStep state label = some next) : ReceiptMove state next label := by
  cases label with
  | init client appId fd threadRet recvBuf => exact init_receipts stepped rfl
  | deinit client =>
      cases stepped
      exact .calm (downOf_closeLink _ _) rfl rfl (inHand_same rfl (fun _ => rfl)) rfl
  | send client sendData isBroadcast => exact send_receipts stepped rfl rfl rfl rfl rfl
  | subscribe client sendBuf subscribeInfo => exact control_receipts stepped rfl
  | unsubscribe client sendBuf subscribeInfo => exact control_receipts stepped rfl
  | store client index =>
      rcases Option.map_eq_some_iff.mp stepped with ⟨call, _, rfl⟩
      exact .calm rfl rfl rfl (inHand_same rfl (fun _ => rfl)) rfl
  | rx client thread failed => exact rx_receipts stepped
  | accept clientFd added =>
      simp only [netStep, acceptNet] at stepped
      split at stepped
      · exact event_receipts stepped rfl rfl
      · cases stepped
  | recv clientFd failed => exact recv_receipts stepped rfl
  | core label => exact core_receipts stepped rfl
  | job thread => exact job_receipts underWay.inv.connected underWay.cover stepped rfl

end Moves

/-! ## The balance -/

structure ReceiptsOk (state : NetState) (notes : Receipts) : Prop where
  order : forall link,
    (state.deliveries.filter (fun delivery => decide (delivery.reached = some link))).map Delivery.serial =
      (notes.taken.filter (fun receipt => decide (receipt.link = link))).map Receipt.serial ++
        (downOf state.links link).map DownPacket.serial
  hands : forall handling : Handling, (notes.taken.map Receipt.handling).count handling =
    notes.handled.count handling +
      (if state.inHand handling.client handling.thread = some handling.serial then 1 else 0)
  called : (state.callbacks.map CallbackCall.serial).Sublist (notes.handled.map Handling.serial)

/-- What the jobs send is put behind what is under way. -/
theorem foldl_addTo_serials (made : List Delivery) (down : Nat -> List DownPacket) (link : Nat) :
    (made.foldl Delivery.addTo down link).map DownPacket.serial =
      (down link).map DownPacket.serial ++
        (made.filter (fun delivery => decide (delivery.reached = some link))).map Delivery.serial := by
  induction made generalizing down with
  | nil => exact (List.append_nil _).symm
  | cons delivery made inductionHypothesis =>
      rw [List.foldl_cons, inductionHypothesis, List.filter_cons]
      cases reached : delivery.reached with
      | none => simp [Delivery.addTo, reached]
      | some number =>
          by_cases here : number = link
          · subst here
            simp [Delivery.addTo, reached]
          · simp [Delivery.addTo, reached, here, Function.update_of_ne (Ne.symm here)]

section Balance

variable {state next : NetState} {label : NetLabel} {notes : Receipts}

theorem ReceiptsOk.step (ok : ReceiptsOk state notes) (move : ReceiptMove state next label) :
    ReceiptsOk next (noteReceipt state label notes) := by
  cases move with
  | calm down deliveries callbacks hands noted =>
      rw [noted]
      constructor
      · rw [deliveries, down]
        exact ok.order
      · rw [hands]
        exact ok.hands
      · rw [callbacks]
        exact ok.called
  | delivers made down deliveries callbacks hands noted =>
      rw [noted]
      constructor
      · intro link
        rw [deliveries, down, foldl_addTo_serials, List.filter_append, List.map_append, ok.order,
          List.append_assoc]
        rfl
      · rw [hands]
        exact ok.hands
      · rw [callbacks]
        exact ok.called
  | takes client thread link packet rest first down deliveries callbacks free hands noted =>
      rw [noted]
      constructor
      · intro other
        rw [deliveries, ok.order, down, List.filter_append, List.map_append, List.append_assoc]
        by_cases here : other = link
        · subst here
          rw [Function.update_self, first]
          simp
        · rw [Function.update_of_ne here]
          simp [Ne.symm here]
      · intro handling
        rw [List.map_append, List.count_append, ok.hands, hands]
        by_cases own : handling.client = client ∧ handling.thread = thread
        · rw [if_pos own, own.1, own.2, free]
          rcases handling with ⟨_, _, serial⟩
          rcases own with ⟨rfl, rfl⟩
          by_cases same : packet.serial = serial
          · simp [Receipt.handling, same]
          · simp [Receipt.handling, same]
        · rw [if_neg own]
          have other : (⟨client, thread, packet.serial⟩ : Handling) ≠ handling := by
            rintro rfl
            exact own ⟨rfl, rfl⟩
          simp [Receipt.handling, other]
      · rw [callbacks]
        exact ok.called
  | handles client thread serial made down deliveries callbacks isSerial busy hands noted =>
      rw [noted]
      constructor
      · rw [deliveries, down]
        exact ok.order
      · intro handling
        change (notes.taken.map Receipt.handling).count handling = _
        rw [ok.hands, hands, List.count_append]
        by_cases own : handling.client = client ∧ handling.thread = thread
        · rw [if_pos own, own.1, own.2, busy]
          rcases handling with ⟨_, _, other⟩
          rcases own with ⟨rfl, rfl⟩
          by_cases same : serial = other
          · simp [same]
          · simp [same]
        · rw [if_neg own]
          have other : (⟨client, thread, serial⟩ : Handling) ≠ handling := by
            rintro rfl
            exact own ⟨rfl, rfl⟩
          simp [other]
      · rw [callbacks, List.map_append, List.map_append]
        apply ok.called.append
        cases made with
        | none => exact List.nil_sublist _
        | some call =>
            rw [Option.toList_some, List.map_singleton, List.map_singleton, isSerial call rfl]

theorem receiptsOk_netInit (start : RoutePool) (memory recvBuf : Memory) :
    ReceiptsOk (netInit start memory recvBuf) ⟨[], []⟩ where
  order := fun _ => rfl
  hands := fun _ => rfl
  called := List.Sublist.slnil

/-- No job's packets are given to callbacks more often than the job has sent them. -/
theorem ReceiptsOk.count_le (ok : ReceiptsOk state notes) (serial : Nat) :
    (state.callbacks.map CallbackCall.serial).count serial ≤
      (state.deliveries.map Delivery.serial).count serial := by
  have called := ok.called.count_le serial
  have handled : (notes.handled.map Handling.serial).count serial ≤
      ((notes.taken.map Receipt.handling).map Handling.serial).count serial := by
    have part : notes.handled.Subperm (notes.taken.map Receipt.handling) := by
      apply List.subperm_ext_iff.mpr
      intro handling _
      rw [ok.hands]
      exact Nat.le_add_right _ _
    rw [List.count, List.countP_map, List.countP_map]
    exact part.countP_le _
  have taken : ((notes.taken.map Receipt.handling).map Handling.serial).count serial ≤
      (state.deliveries.map Delivery.serial).count serial := by
    have within : forall link : Option Nat,
        (notes.taken.filter (fun receipt => decide (some receipt.link = link))).countP
            (fun receipt => receipt.serial == serial) ≤
          (state.deliveries.filter (fun delivery => decide (delivery.reached = link))).countP
            (fun delivery => delivery.serial == serial) := by
      intro link
      cases link with
      | none => simp
      | some link =>
          have same := congrArg (List.count serial) (ok.order link)
          rw [List.count_append, List.count, List.countP_map, List.countP_map] at same
          simp only [Option.some.injEq]
          exact (Nat.le_add_right _ _).trans_eq same.symm
    rw [List.map_map, List.count, List.countP_map, List.countP_map]
    exact countP_le_of_keys within
  exact called.trans (handled.trans taken)

end Balance

end MsgRoute
end V2x
