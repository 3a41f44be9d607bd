import V2x.MsgRoute.Receipts
import V2x.MsgRoute.RoundTrip
import V2x.MsgRoute.SendLimit

namespace V2x
namespace MsgRoute

open Foundations ThreadPool

/-!
# A message is delivered at most once

From the call of `MsgRouteClientSendMsg` to the callbacks a message is taken
from a link once, gets at most one job, is sent by this job at most once for
each of its target slots, and each packet that was sent is handled at most once.
So the callbacks of all clients together are called for it at most as often as
it has target slots.
-/

/-! ## A message has at most one job -/

/-- What is on its way to the server is newer than what the server has taken from the link. -/
structure UplinkOk (state : NetState) : Prop where
  below : forall link packet, packet ∈ upOf state.links link -> packet.sent < state.sent.length
  sorted : forall link, (upOf state.links link).Pairwise (fun first second => first.sent < second.sent)
  arrived : forall arrival, arrival ∈ state.arrivals -> arrival.sent < state.sent.length
  ahead : forall arrival packet, arrival ∈ state.arrivals -> packet ∈ upOf state.links arrival.conn.id ->
    arrival.sent < packet.sent
  ordered : state.arrivals.Pairwise (fun first second =>
    first.conn.id = second.conn.id -> first.sent < second.sent)

section Uplinks

variable {state next : NetState} {label : NetLabel}

theorem UplinkOk.congr (ok : UplinkOk state) (up : upOf next.links = upOf state.links)
    (sent : next.sent = state.sent) (arrivals : next.arrivals = state.arrivals) : UplinkOk next where
  below := by
    rw [up, sent]
    exact ok.below
  sorted := by
    rw [up]
    exact ok.sorted
  arrived := by
    rw [arrivals, sent]
    exact ok.arrived
  ahead := by
    rw [arrivals, up]
    exact ok.ahead
  ordered := by
    rw [arrivals]
    exact ok.ordered

/-- A client puts a message into its link. -/
theorem UplinkOk.send (ok : UplinkOk state) {link : Nat} {msg : SentMsg} {bytes : List UInt8}
    (up : upOf next.links = Function.update (upOf state.links) link
      (upOf state.links link ++ [⟨bytes, state.sent.length⟩]))
    (sent : next.sent = state.sent ++ [msg]) (arrivals : next.arrivals = state.arrivals) :
    UplinkOk next := by
  have longer : next.sent.length = state.sent.length + 1 := by
    rw [sent, List.length_append, List.length_singleton]
  have among : forall other packet, packet ∈ upOf next.links other -> packet ∈ upOf state.links other ∨
      packet.sent = state.sent.length := by
    intro other packet member
    rw [up, Function.update_apply] at member
    split at member
    next same =>
      rcases List.mem_append.mp member with old | new
      · exact Or.inl (same ▸ old)
      · rw [List.mem_singleton.mp new]
        exact Or.inr rfl
    next => exact Or.inl member
  constructor
  · intro other packet member
    rw [longer]
    rcases among other packet member with old | new
    · exact Nat.lt_succ_of_lt (ok.below other packet old)
    · rw [new]
      exact Nat.lt_succ_self _
  · intro other
    rw [up, Function.update_apply]
    split
    · refine List.pairwise_append.mpr ⟨ok.sorted link, List.pairwise_singleton _ _, ?_⟩
      intro packet old last new
      rw [List.mem_singleton.mp new]
      exact ok.below link packet old
    · exact ok.sorted other
  · intro arrival member
    rw [arrivals] at member
    rw [longer]
    exact Nat.lt_succ_of_lt (ok.arrived arrival member)
  · intro arrival packet member onLink
    rw [arrivals] at member
    rcases among _ packet onLink with old | new
    · exact ok.ahead arrival packet member old
    · rw [new]
      exact ok.arrived arrival member
  · rw [arrivals]
    exact ok.ordered

/-- The server takes the first packet of a link. -/
theorem UplinkOk.arrive (ok : UplinkOk state) {conn : Connection} {packet : UpPacket}
    {rest : List UpPacket} {accepted : Nat} (routed : Bool)
    (first : upOf state.links conn.id = packet :: rest)
    (up : upOf next.links = Function.update (upOf state.links) conn.id rest)
    (sent : next.sent = state.sent)
    (arrivals : next.arrivals = state.arrivals ++
      if routed then [⟨packet.sent, conn, accepted⟩] else []) : UplinkOk next := by
  have onLink : packet ∈ upOf state.links conn.id := by
    rw [first]
    exact List.mem_cons_self
  have sorted := ok.sorted conn.id
  rw [first] at sorted
  rcases List.pairwise_cons.mp sorted with ⟨before, sortedRest⟩
  have among : forall other left, left ∈ upOf next.links other -> left ∈ upOf state.links other := by
    intro other left member
    rw [up, Function.update_apply] at member
    split at member
    next same =>
      rw [same, first]
      exact List.mem_cons_of_mem _ member
    next => exact member
  have isNew : forall arrival, arrival ∈ next.arrivals -> arrival ∈ state.arrivals ∨
      arrival = ⟨packet.sent, conn, accepted⟩ := by
    intro arrival member
    rw [arrivals] at member
    rcases List.mem_append.mp member with old | new
    · exact Or.inl old
    · split at new
      · exact Or.inr (List.mem_singleton.mp new)
      · exact absurd new List.not_mem_nil
  constructor
  · intro other left member
    rw [sent]
    exact ok.below other left (among other left member)
  · intro other
    rw [up, Function.update_apply]
    split
    · exact sortedRest
    · exact ok.sorted other
  · intro arrival member
    rw [sent]
    rcases isNew arrival member with old | rfl
    · exact ok.arrived arrival old
    · exact ok.below _ packet onLink
  · intro arrival left member waiting
    rcases isNew arrival member with old | rfl
    · exact ok.ahead arrival left old (among _ left waiting)
    · rw [up, Function.update_self] at waiting
      exact before left waiting
  · rw [arrivals]
    refine List.pairwise_append.mpr ⟨ok.ordered, ?_, ?_⟩
    · split
      · exact List.pairwise_singleton _ _
      · exact List.Pairwise.nil
    · intro arrival old last new
      split at new
      · rw [List.mem_singleton.mp new]
        intro sameLink
        exact ok.ahead arrival packet old (sameLink ▸ onLink)
      · exact absurd new List.not_mem_nil

theorem UplinkOk.step (ok : UplinkOk state) (move : NetMove state next label) : UplinkOk next := by
  cases move with
  | sends msg changed handles =>
      exact ok.send (congrArg Traffic.up changed) (congrArg Traffic.sent changed)
        (congrArg Traffic.arrivals changed)
  | arrives conn packet rest member first changed handles =>
      apply ok.arrive (decide (packetKind (packet.bytes.take recvSize) = .routed)) first
        (congrArg Traffic.up changed) (congrArg Traffic.sent changed)
      simp only [decide_eq_true_eq]
      exact congrArg Traffic.arrivals changed
  | quiet changed _ | takes _ _ _ _ _ _ _ _ changed _ _ _ | looks _ _ _ _ _ _ _ _ _ changed _ _
  | delivers _ _ changed _ =>
      exact ok.congr (congrArg Traffic.up changed) (congrArg Traffic.sent changed)
        (congrArg Traffic.arrivals changed)

theorem uplinkOk_netInit (start : RoutePool) (memory recvBuf : Memory) :
    UplinkOk (netInit start memory recvBuf) where
  below := fun _ _ member => absurd member List.not_mem_nil
  sorted := fun _ => List.Pairwise.nil
  arrived := fun _ member => absurd member List.not_mem_nil
  ahead := fun _ _ member => absurd member List.not_mem_nil
  ordered := List.Pairwise.nil

/-- A message is taken from its link once. -/
theorem arrival_eq_of_sent (inv : NetInv state) (ok : UplinkOk state) {first second : Nat}
    {arrival other : Arrival} (isFirst : state.arrivals[first]? = some arrival)
    (isSecond : state.arrivals[second]? = some other) (same : arrival.sent = other.sent) :
    first = second := by
  rcases inv.arrivals first arrival isFirst with ⟨_, msg, firstOk⟩
  rcases inv.arrivals second other isSecond with ⟨_, otherMsg, secondOk⟩
  have sameMsg : msg = otherMsg :=
    Option.some.inj (firstOk.sent.symm.trans (same ▸ secondOk.sent))
  have sameLink : arrival.conn.id = other.conn.id := by
    rw [← firstOk.link, ← secondOk.link, sameMsg]
  rcases List.getElem?_eq_some_iff.mp isFirst with ⟨firstBelow, firstIs⟩
  rcases List.getElem?_eq_some_iff.mp isSecond with ⟨secondBelow, secondIs⟩
  have ordered := List.pairwise_iff_getElem.mp ok.ordered
  rcases Nat.lt_trichotomy first second with sooner | equal | later
  · have less := ordered first second firstBelow secondBelow sooner
    rw [firstIs, secondIs] at less
    exact absurd same (Nat.ne_of_lt (less sameLink))
  · exact equal
  · have less := ordered second first secondBelow firstBelow later
    rw [firstIs, secondIs] at less
    exact absurd same.symm (Nat.ne_of_lt (less sameLink.symm))

/-- A message has at most one job. -/
theorem serial_eq_of_messageOf (inv : NetInv state) (ok : UplinkOk state) {first second index : Nat}
    (isFirst : state.messageOf first = some index) (isSecond : state.messageOf second = some index) :
    first = second := by
  rcases Option.map_eq_some_iff.mp isFirst with ⟨arrival, ofFirst, firstSent⟩
  rcases Option.map_eq_some_iff.mp isSecond with ⟨other, ofSecond, secondSent⟩
  rcases Option.bind_eq_some_iff.mp ofFirst with ⟨firstId, isFirstId, atFirst⟩
  rcases Option.bind_eq_some_iff.mp ofSecond with ⟨secondId, isSecondId, atSecond⟩
  have sameId : firstId = secondId :=
    arrival_eq_of_sent inv ok atFirst atSecond (firstSent.trans secondSent.symm)
  subst sameId
  rcases List.getElem?_eq_some_iff.mp isFirstId with ⟨firstBelow, firstIs⟩
  rcases List.getElem?_eq_some_iff.mp isSecondId with ⟨secondBelow, secondIs⟩
  exact (List.Nodup.getElem_inj_iff inv.route.idsDistinct).mp (firstIs.trans secondIs.symm)

end Uplinks

/-! ## A job sends a message to its targets -/

theorem sendLimit_congr {first second : MsgRouteDataInfo} (dataType : first.dataType = second.dataType)
    (isTargets : targets first = targets second) : sendLimit first = sendLimit second := by
  rw [sendLimit, sendLimit, dataType, isTargets]

/-- The limit of the packet is that of the message. -/
theorem sendLimit_receivedPacket {fd connFd : Int32} {sendData : MsgRouteDataInfo} {isBroadcast : Bool}
    (kind : packetKind (receivedPacket fd connFd sendData isBroadcast).bytes = .routed) :
    sendLimit (receivedPacket fd connFd sendData isBroadcast).msg =
      sendLimit (msgRouteClientSendMsg fd sendData isBroadcast) := by
  apply sendLimit_congr
  · rw [dataType_msg kind, dataType_receivedPacket, dataType_sendMsg]
  · have sameApp : (receivedPacket fd connFd sendData isBroadcast).header.appId =
        (msgRouteClientSendMsg fd sendData isBroadcast).appId := by
      rw [appId_receivedPacket, appId_sendMsg]
    rw [targets_msg kind, targets, targets, MsgRouteDataInfo.slotIndex, MsgRouteDataInfo.slotIndex, sameApp]

/-- The records and the packets under way, with the executions within their limits. -/
structure Counted (state : NetState) : Prop where
  underWay : UnderWay state
  uplink : UplinkOk state
  within : WithinLimit state.route.packetOf state.route.runs

section Counting

variable {state next : NetState} {label : NetLabel}

theorem Counted.step (counted : Counted state) (stepped : netStep state label = some next) :
    Counted next where
  underWay := counted.underWay.step stepped
  uplink := counted.uplink.step (netStep_moves counted.underWay.inv counted.underWay.cover stepped)
  within := by
    rcases netStep_route stepped with same | ⟨moved, taken⟩
    · exact same ▸ counted.within
    · exact withinLimit_step counted.underWay.inv.route.links counted.within taken

theorem counted_netInit {start : RoutePool} (idle : Idle start) (memory recvBuf : Memory) :
    Counted (netInit start memory recvBuf) where
  underWay := underWay_netInit idle memory recvBuf
  uplink := uplinkOk_netInit start memory recvBuf
  within := fun _ _ member => absurd member List.not_mem_nil

/-- The job of a message has sent it at most as often as the message has targets. -/
theorem Counted.deliveries_le (counted : Counted state) {serial index : Nat} {msg : SentMsg}
    (isMessage : state.messageOf serial = some index) (sent : state.sent[index]? = some msg) :
    (state.deliveries.map Delivery.serial).count serial ≤
      sendLimit (msgRouteClientSendMsg msg.fd msg.sendData msg.isBroadcast) := by
  have inv := counted.underWay.inv
  have counts : (state.deliveries.map Delivery.serial).count serial =
      (deliveriesOf state.deliveries serial).length := by
    rw [List.count, List.countP_map, List.countP_eq_length_filter]
    rfl
  rw [counts]
  by_cases none_ : deliveriesOf state.deliveries serial = []
  · rw [none_]
    exact Nat.zero_le _
  · rcases List.exists_mem_of_ne_nil _ none_ with ⟨delivery, isDelivery⟩
    rcases List.mem_filter.mp isDelivery with ⟨recorded, isSerial⟩
    have sameSerial : delivery.serial = serial := of_decide_eq_true isSerial
    rcases inv.sends.known delivery recorded with ⟨run, executed, runSerial⟩
    rcases inv.delivery_bytes recorded with ⟨_, arrival, _, _, isArrival, _⟩
    rcases Option.bind_eq_some_iff.mp isArrival with ⟨id, isId, atId⟩
    rcases inv.arrivals id arrival atId with ⟨packet, other, ok⟩
    have isIndex : arrival.sent = index := by
      rw [← sameSerial, NetState.messageOf, isArrival] at isMessage
      exact Option.some.inj isMessage
    have isMsg := ok.sent
    rw [isIndex, sent] at isMsg
    cases isMsg
    have isPacket : packet = receivedPacket msg.fd arrival.conn.fd msg.sendData msg.isBroadcast :=
      ok.isPacket
    have kind := inv.route.kinds packet (List.mem_of_getElem? ok.received)
    have ofRun : state.route.packetOf run.serial = some packet := by
      rw [runSerial]
      exact Option.bind_eq_some_iff.mpr ⟨id, isId, ok.received⟩
    have made := congrArg List.length (inv.sends.made run executed)
    rw [List.length_map, runSerial, sameSerial] at made
    have limited := counted.within run packet executed ofRun
    rw [isPacket] at kind limited
    rw [made, ← sendLimit_receivedPacket kind]
    exact (Nat.le_add_right _ _).trans limited

end Counting

/-! ## Runs -/

/-- In every run of clients and server: the callbacks are called for a message at most as often as
the message has target slots, and once if it is an answer. -/
theorem message_atMostOnce {pre start : RoutePool} {threadNum : Int} {outcome : InitOutcome}
    (uninitialised : pre.isInit = false) (noWorkers : forall pc, pc ∈ pre.threads -> pc = .exited)
    (initialised : threadPoolInit pre threadNum outcome = some (.returned 0 start))
    {memory recvBuf : Memory} {labels : List NetLabel} {final : NetState}
    (ran : network.run (netInit start memory recvBuf) labels = some final)
    {index : Nat} {msg : SentMsg} (sent : final.sent[index]? = some msg) :
    (final.callbacks.filter (fun record => decide (final.messageOf record.serial = some index))).length ≤
      sendLimit (msgRouteClientSendMsg msg.fd msg.sendData msg.isBroadcast) := by
  have idle := idle_of_threadPoolInit uninitialised noWorkers initialised
  rcases network.exists_run_noting noteReceipt ran ⟨[], []⟩ with ⟨notes, noted⟩
  have kept : forall (state : NetState × Receipts) label next,
      (Counted state.1 ∧ ReceiptsOk state.1 state.2) -> (network.noting noteReceipt).step state label = some next ->
      Counted next.1 ∧ ReceiptsOk next.1 next.2 := by
    rintro state label next ⟨counted, ok⟩ stepped
    rcases (network.noting_step_iff noteReceipt).mp stepped with ⟨taken, isNotes⟩
    refine ⟨counted.step taken, ?_⟩
    rw [isNotes]
    exact ok.step (netStep_receipts counted.underWay taken)
  rcases (network.noting noteReceipt).run_invariant kept
    ⟨counted_netInit idle memory recvBuf, receiptsOk_netInit start memory recvBuf⟩ noted with ⟨counted, ok⟩
  by_cases none_ : final.callbacks.filter (fun record =>
      decide (final.messageOf record.serial = some index)) = []
  · rw [none_]
    exact Nat.zero_le _
  · rcases List.exists_mem_of_ne_nil _ none_ with ⟨call, isCall⟩
    have isMessage : final.messageOf call.serial = some index :=
      of_decide_eq_true (List.mem_filter.mp isCall).2
    have same : (final.callbacks.filter (fun record =>
        decide (final.messageOf record.serial = some index))).length ≤
          (final.callbacks.map CallbackCall.serial).count call.serial := by
      rw [List.count, List.countP_map, ← List.countP_eq_length_filter]
      apply List.countP_mono_left
      intro record _ ofIndex
      exact beq_iff_eq.mpr (serial_eq_of_messageOf counted.underWay.inv counted.uplink
        (of_decide_eq_true ofIndex) isMessage)
    exact same.trans ((ok.count_le call.serial).trans (counted.deliveries_le isMessage sent))

theorem message_atMostOnce_subscriberNotified :
    let cell : DoublyLinkedListNode Addr := ⟨none, .jobListHead, .jobListHead⟩
    Exists fun start => Exists fun final => Exists fun msg =>
      threadPoolInit (poolStatics JobFunc (List UInt8) cell) 1 (.success cell) =
        some (.returned 0 start) ∧
      network.run (netInit start (Memory.ofBytes []) (Memory.ofBytes [])) subscriberNotified =
        some final ∧
      final.sent[1]? = some msg ∧
      sendLimit (msgRouteClientSendMsg msg.fd msg.sendData msg.isBroadcast) = 1 ∧
      (final.callbacks.filter (fun record => decide (final.messageOf record.serial = some 1))).length =
        1 := by
  intro cell
  have reached : ((threadPoolInit (poolStatics JobFunc (List UInt8) cell) 1 (.success cell)).bind
      InitResult.started).bind (fun start =>
        (network.run (netInit start (Memory.ofBytes []) (Memory.ofBytes []))
          subscriberNotified).map (fun final =>
            (final.sent[1]?.map (fun msg =>
              sendLimit (msgRouteClientSendMsg msg.fd msg.sendData msg.isBroadcast)),
            decide (0 < (final.callbacks.filter
              (fun record => decide (final.messageOf record.serial = some 1))).length)))) =
      some (some 1, true) := by
    decide +kernel
  rcases InitResult.exists_run reached with ⟨start, final, done, ran, observed⟩
  simp only [Prod.mk.injEq, decide_eq_true_eq] at observed
  rcases observed with ⟨isLimit, called⟩
  rcases Option.map_eq_some_iff.mp isLimit with ⟨msg, sent, limit⟩
  have atMost := message_atMostOnce rfl (fun pc member => absurd member List.not_mem_nil) done ran sent
  rw [limit] at atMost
  exact ⟨start, final, msg, done, ran, sent, limit, Nat.le_antisymm atMost called⟩

end MsgRoute
end V2x
