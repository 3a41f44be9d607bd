import V2x.Foundations.History
import V2x.MsgRoute.ClientSteps
import V2x.MsgRoute.RoundTrip

namespace V2x
namespace MsgRoute

open Foundations ThreadPool

/-!
# Which callback a message finds

`MsgRouteClientSubscribeMsg` sends its control message first and stores the
callback afterwards.  As soon as the server has handled the control message it
may send messages of the type, and a receive thread that looks up the callback
before the entry is stored drops them.  What a receive thread finds is what the
last call that has stored its entry has left, whatever the server has done.
-/

/-- The entries that the calls of a client store, one after the other. -/
def storesOf (client : Nat) (state : NetState) : NetLabel -> List ControlCall
  | .store other index =>
      if other = client then ((state.clients client).pending[index]?).toList else []
  | _ => []

/-- Of the calls for this message type, the last one to store its entry is
`MsgRouteClientSubscribeMsg` with this callback. -/
def LastSubscribes (stores : List ControlCall) (msgType : Int32) (rxFunc : MsgRouteClientCallback) :
    Prop :=
  Exists fun index => Exists fun call =>
    LastMatch stores (fun call => call.index = msgType.toInt.toNat) index call ∧
    call.entry = ⟨msgType, some rxFunc⟩

/-- The step calls this callback once, with the message in the receive buffer, and
no other one. -/
def CallsOnce (state next : NetState) (client : Nat) (rxFunc : MsgRouteClientCallback)
    (recvBuf : MsgRouteDataInfo) (serial : Nat) : Prop :=
  next.callbacks = state.callbacks ++ [⟨client, rxFunc, recvBuf, serial⟩]

section Stores

variable {state next : NetState} {client : Nat} {label : NetLabel}

/-- Nothing but a store changes the table of the client. -/
theorem subscribeInfo_next (client : Nat) (stepped : netStep state label = some next) :
    (next.clients client).vars.subscribeInfo =
      (storesOf client state label).foldl
        (fun table call => Function.update table call.index call.entry)
        (state.clients client).vars.subscribeInfo := by
  have silent : (forall index, label ≠ .store client index) ->
      storesOf client state label = [] := by
    intro noStore
    cases label with
    | store other index =>
        refine if_neg ?_
        rintro rfl
        exact noStore index rfl
    | _ => rfl
  have isStep := clientStep client stepped
  generalize next.clients client = new at isStep
  cases isStep with
  | same _ noStore _ => rw [silent noStore, List.foldl_nil]
  | init appId fd threadRet recvBuf link started isLabel =>
      rw [silent (by rw [isLabel]; simp), List.foldl_nil]
      simp only [msgRouteClientInit]
      split
      · rfl
      · split
        · rfl
        · split <;> rfl
  | deinit isLabel =>
      rw [silent (by rw [isLabel]; simp), List.foldl_nil]
      rfl
  | control call isCall =>
      rw [silent (by rintro index rfl; cases isCall), List.foldl_nil]
  | store index call isLabel isCall =>
      rw [isLabel, storesOf, if_pos rfl, isCall]
      rfl
  | moves thread failed before after isLabel isThread waits =>
      rw [silent (by rw [isLabel]; simp), List.foldl_nil]
  | disconnected thread failed before after link isLabel isThread isPc ended closed =>
      rw [silent (by rw [isLabel]; simp), List.foldl_nil]

/-- The receive thread finds the callback exactly if the last store has left it. -/
theorem subscribeInfo_eq_iff {start : RoutePool} {memory recvBuf : Memory} {labels : List NetLabel}
    (ran : network.run (netInit start memory recvBuf) labels = some state) (client : Nat)
    (msgType : Int32) (rxFunc : MsgRouteClientCallback) :
    (state.clients client).vars.subscribeInfo msgType.toInt.toNat = ⟨msgType, some rxFunc⟩ <->
      LastSubscribes (network.trace (storesOf client) (netInit start memory recvBuf) labels) msgType
        rxFunc := by
  have table := network.foldl_trace (fun _ _ _ stepped => subscribeInfo_next client stepped) ran
  have found := foldl_update_cases ControlCall.index ControlCall.entry
    (network.trace (storesOf client) (netInit start memory recvBuf) labels)
    (fun _ => ⟨0, none⟩) msgType.toInt.toNat
  rw [table]
  rcases found with ⟨index, call, isLast, isEntry⟩ | ⟨none_, isEmpty⟩
  · refine (Eq.congr_left isEntry).trans ?_
    constructor
    · exact fun isCall => ⟨index, call, isLast, isCall⟩
    · rintro ⟨other, same, isOther, isCall⟩
      rw [(isLast.unique isOther).2]
      exact isCall
  · refine (Eq.congr_left isEmpty).trans ?_
    constructor
    · intro impossible
      cases impossible
    · rintro ⟨index, call, isLast, _⟩
      exact absurd isLast.matching (none_ call isLast.mem)

end Stores

/-- In every run of clients and server: a receive thread that has taken a message
calls the callback for it once exactly if the last call for the message type to
store its entry is the one that subscribes this callback. -/
theorem lookup_callsOnce_iff {pre start : RoutePool} {threadNum : Int} {outcome : InitOutcome}
    (uninitialised : pre.isInit = false) (noWorkers : forall pc, pc ∈ pre.threads -> pc = .exited)
    (initialised : threadPoolInit pre threadNum outcome = some (.returned 0 start))
    {memory recvBuf : Memory} {labels : List NetLabel} {state next : NetState}
    (ran : network.run (netInit start memory recvBuf) labels = some state)
    {client thread recvByte serial : Nat} {failed : Bool} {rx : RxThread}
    (isRx : (state.clients client).rx[thread]? = some rx) (isPc : rx.pc = .handle recvByte serial)
    (stepped : netStep state (.rx client thread failed) = some next)
    (rxFunc : MsgRouteClientCallback) :
    CallsOnce state next client rxFunc rx.recvBuf serial <->
      LastSubscribes (network.trace (storesOf client) (netInit start memory recvBuf) labels)
        (MsgRouteDataInfo.msgType rx.recvBuf) rxFunc := by
  have idle := idle_of_threadPoolInit uninitialised noWorkers initialised
  have underWay := underWay_of_run idle ran
  have received := underWay.traced.handled client rx recvByte serial (List.mem_of_getElem? isRx) isPc
  have callbacks : next.callbacks = state.callbacks ++
      ((msgRouteClientRx (state.clients client).vars rx.recvBuf recvByte).map (fun rxFunc =>
        (⟨client, rxFunc, rx.recvBuf, serial⟩ : CallbackCall))).toList := by
    rcases Option.bind_eq_some_iff.mp stepped with ⟨same, isSame, rest⟩
    rw [isRx] at isSame
    cases isSame
    rw [isPc] at rest
    cases rest
    rfl
  rw [CallsOnce, callbacks, msgRouteClientRx_received underWay.inv received,
    ← subscribeInfo_eq_iff ran client (MsgRouteDataInfo.msgType rx.recvBuf) rxFunc]
  change _ <-> (state.clients client).vars.subscribeInfo (MsgRouteDataInfo.typeIndex rx.recvBuf) = _
  rw [List.append_cancel_left_eq]
  rcases (state.clients client).vars.subscribeInfo (MsgRouteDataInfo.typeIndex rx.recvBuf) with
    ⟨stored, found⟩
  rw [MsgRouteClientSubscribeInfo.mk.injEq]
  constructor
  · intro called
    split at called
    next sameType =>
      cases found with
      | none => cases called
      | some other =>
          refine ⟨sameType, ?_⟩
          cases called
          rfl
    next => cases called
  · rintro ⟨sameType, rfl⟩
    rw [if_pos sameType]
    rfl

/-- The steps up to the point where a receive thread of the second client has
taken a notification.  The first client has sent it to a subscriber that the
server knows. -/
def notificationTaken : List NetLabel :=
  [.send 0 (smallMessage 0 3 0 1) false, .recv 5 false] ++ routeLabels 7 ++
  List.replicate 2 (.rx 1 0 false)

/-- Two clients are connected, and the second one has sent its subscription,
which the server has handled. -/
def subscriptionHandled : List NetLabel :=
  [.init 0 2 3 0 (Memory.ofBytes []), .init 1 1 3 0 (Memory.ofBytes []), .accept 5 true,
    .accept 6 true, .subscribe 1 (Memory.ofBytes []) ⟨3, some 0⟩, .recv 6 false]

theorem lookup_callsOnce_iff_storedBefore :
    let cell : DoublyLinkedListNode Addr := ⟨none, .jobListHead, .jobListHead⟩
    Exists fun start => Exists fun state => Exists fun rx => Exists fun next =>
      threadPoolInit (poolStatics JobFunc (List UInt8) cell) 1 (.success cell) =
        some (.returned 0 start) ∧
      network.run (netInit start (Memory.ofBytes []) (Memory.ofBytes []))
        (subscriptionHandled ++ [.store 1 0] ++ notificationTaken) = some state ∧
      (state.clients 1).rx[0]? = some rx ∧
      netStep state (.rx 1 0 false) = some next ∧
      (CallsOnce state next 1 0 (RxThread.recvBuf rx) 0 <->
        LastSubscribes (network.trace (storesOf 1)
          (netInit start (Memory.ofBytes []) (Memory.ofBytes []))
          (subscriptionHandled ++ [.store 1 0] ++ notificationTaken))
          (MsgRouteDataInfo.msgType rx.recvBuf) 0) := by
  intro cell
  have reached : ((threadPoolInit (poolStatics JobFunc (List UInt8) cell) 1 (.success cell)).bind
      InitResult.started).bind (fun start =>
        (network.run (netInit start (Memory.ofBytes []) (Memory.ofBytes []))
          (subscriptionHandled ++ [.store 1 0] ++ notificationTaken)).map (fun state =>
            ((state.clients 1).rx[0]?.map RxThread.pc, (netStep state (.rx 1 0 false)).isSome))) =
      some (some (.handle 33 0), true) := by
    decide +kernel
  rcases InitResult.exists_run reached with ⟨start, state, done, ran, parts⟩
  rw [Prod.mk.injEq] at parts
  rcases Option.map_eq_some_iff.mp parts.1 with ⟨rx, isRx, isPc⟩
  rcases Option.isSome_iff_exists.mp parts.2 with ⟨next, stepped⟩
  exact ⟨start, state, rx, next, done, ran, isRx, stepped, lookup_callsOnce_iff rfl
    (fun pc member => absurd member List.not_mem_nil) done ran isRx isPc stepped 0⟩

set_option synthInstance.maxSize 1024 in
/-- The server has handled the subscription before it sends the notification, and
the receive thread takes the notification and looks it up before the call that
subscribes has stored its entry: the callback is not called. -/
theorem lookupBeforeStore_drops :
    let cell : DoublyLinkedListNode Addr := ⟨none, .jobListHead, .jobListHead⟩
    Exists fun start => Exists fun handled => Exists fun taken => Exists fun rx =>
      Exists fun looked => Exists fun final =>
      threadPoolInit (poolStatics JobFunc (List UInt8) cell) 1 (.success cell) =
        some (.returned 0 start) ∧
      network.run (netInit start (Memory.ofBytes []) (Memory.ofBytes [])) subscriptionHandled =
        some handled ∧
      handled.route.server.controls = [⟨1, 6, 1, 3, true, -1⟩] ∧ handled.deliveries.length = 0 ∧
      network.run handled notificationTaken = some taken ∧
      taken.deliveries.map Delivery.reached = [some 1] ∧
      (taken.clients 1).rx[0]? = some rx ∧ rx.pc = .handle 33 0 ∧
      MsgRouteDataInfo.msgType rx.recvBuf = 3 ∧
      netStep taken (.rx 1 0 false) = some looked ∧ ¬ CallsOnce taken looked 1 0 rx.recvBuf 0 ∧
      netStep looked (.store 1 0) = some final ∧
      (final.clients 1).vars.subscribeInfo 3 = ⟨3, some 0⟩ ∧ final.callbacks.length = 0 := by
  intro cell
  have reached : ((threadPoolInit (poolStatics JobFunc (List UInt8) cell) 1 (.success cell)).bind
      InitResult.started).bind (fun start =>
        (network.run (netInit start (Memory.ofBytes []) (Memory.ofBytes []))
          subscriptionHandled).map (fun handled =>
            (decide (handled.route.server.controls = [⟨1, 6, 1, 3, true, -1⟩] ∧
                handled.deliveries.length = 0),
              (network.run handled notificationTaken).map (fun taken =>
                (decide (taken.deliveries.map Delivery.reached = [some 1]),
                  (taken.clients 1).rx[0]?.map (fun rx =>
                    (rx.pc, MsgRouteDataInfo.msgType rx.recvBuf)),
                  (netStep taken (.rx 1 0 false)).map (fun looked =>
                    (looked.callbacks.length, (netStep looked (.store 1 0)).map (fun final =>
                      ((final.clients 1).vars.subscribeInfo 3, final.callbacks.length))))))))) =
      some (true, some (true, some (.handle 33 0, 3), some (0, some (⟨3, some 0⟩, 0)))) := by
    decide +kernel
  rcases InitResult.exists_run reached with ⟨start, handled, done, ran, observed⟩
  simp only [Prod.mk.injEq, decide_eq_true_eq] at observed
  rcases observed with ⟨⟨controls, noDelivery⟩, observed⟩
  rcases Option.map_eq_some_iff.mp observed with ⟨taken, ranOn, observed⟩
  simp only [Prod.mk.injEq, decide_eq_true_eq] at observed
  rcases observed with ⟨delivered, isRx, observed⟩
  rcases Option.map_eq_some_iff.mp isRx with ⟨rx, isThread, rxParts⟩
  rw [Prod.mk.injEq] at rxParts
  rcases Option.map_eq_some_iff.mp observed with ⟨looked, stepped, observed⟩
  rw [Prod.mk.injEq] at observed
  rcases observed with ⟨noCall, observed⟩
  rcases Option.map_eq_some_iff.mp observed with ⟨final, stored, observed⟩
  rw [Prod.mk.injEq] at observed
  refine ⟨start, handled, taken, rx, looked, final, done, ran, controls, noDelivery, ranOn,
    delivered, isThread, rxParts.1, rxParts.2, stepped, ?_, stored, observed.1, observed.2⟩
  intro called
  have length := congrArg List.length called
  rw [noCall, List.length_append, List.length_singleton] at length
  omega

end MsgRoute
end V2x
