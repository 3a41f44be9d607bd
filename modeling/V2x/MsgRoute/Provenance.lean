import V2x.MsgRoute.ControlPlane
import V2x.MsgRoute.RoundTrip

namespace V2x
namespace MsgRoute

open Foundations ThreadPool

/-!
# What a callback may be called with

The receive thread of a client checks the type of a message and the number of
bytes it got, but not that the length in the header fits this number, nor where
the message comes from.  Whatever the programs do, no callback sees a message
for which this matters: the server lets nothing through that a client has not
sent, and the entry that the thread finds was stored for this type.
-/

/-- Some thread of the client has passed `rxFunc` to `MsgRouteClientSubscribeMsg` for the type. -/
def Registers (labels : List NetLabel) (client : Nat) (msgType : Int32)
    (rxFunc : MsgRouteClientCallback) : Prop :=
  Exists fun sendBuf => NetLabel.subscribe client sendBuf ⟨msgType, some rxFunc⟩ ∈ labels

/-- A type that the server routes. -/
structure RoutedType (msgType : Int32) : Prop where
  isMsgType : isMsgType msgType = true
  notSubscribe : msgType ≠ MsgRouteMsgType.subscribe.code
  notUnsubscribe : msgType ≠ MsgRouteMsgType.unsubscribe.code

/-- Some thread of the client has passed the message to `MsgRouteClientSendMsg`. -/
def Requested (labels : List NetLabel) (msg : SentMsg) : Prop :=
  NetLabel.send msg.client msg.sendData msg.isBroadcast ∈ labels

/-- A program has sent the message of the call, and the callback was registered for it. -/
structure Justified (labels : List NetLabel) (state : NetState) (record : CallbackCall) : Prop where
  message : Exists fun index => Exists fun msg => state.sent[index]? = some msg ∧
    Requested labels msg ∧ state.messageOf record.serial = some index ∧ LenFits msg.sendData ∧ Conveyed state msg record
  routed : RoutedType record.msgData.msgType
  registered : Registers labels record.client record.msgData.msgType record.rxFunc

/-! ## The entries of the clients -/

/-- Every entry with a callback, stored or about to be stored, was registered. -/
structure EntriesOk (labels : List NetLabel) (client : Nat) (value : Client) : Prop where
  stored : forall index rxFunc, (value.vars.subscribeInfo index).rxFunc = some rxFunc ->
    Registers labels client (value.vars.subscribeInfo index).msgType rxFunc
  pending : forall call rxFunc, call ∈ value.pending -> call.entry.rxFunc = some rxFunc ->
    Registers labels client call.entry.msgType rxFunc

section Entries

variable {labels : List NetLabel} {client : Nat} {label : NetLabel} {value : Client}

/-- The entry that a call of the library will store. -/
theorem registers_of_controlCall {vars : ClientVars} {call : ControlCall} (member : label ∈ labels)
    (isCall : controlCallOf vars client label = some call) {rxFunc : MsgRouteClientCallback}
    (isFunc : call.entry.rxFunc = some rxFunc) :
    Registers labels client call.entry.msgType rxFunc := by
  cases label with
  | subscribe other sendBuf subscribeInfo =>
      simp only [controlCallOf] at isCall
      split at isCall
      next same =>
        unfold msgRouteClientSubscribeMsg at isCall
        split at isCall
        · cases isCall
        · split at isCall
          · cases isCall
          · cases isCall
            cases subscribeInfo
            cases same
            cases isFunc
            exact ⟨sendBuf, member⟩
      next => cases isCall
  | unsubscribe other sendBuf subscribeInfo =>
      simp only [controlCallOf] at isCall
      split at isCall
      next =>
        unfold msgRouteClientUnsubscribeMsg at isCall
        split at isCall
        · cases isCall
        · cases isCall
          cases isFunc
      next => cases isCall
  | _ => cases isCall

/-- Opening a connection leaves the entries. -/
theorem subscribeInfo_init (vars : ClientVars) (appId : Int32) (created : Option Int32) (threadRet : Int) :
    (msgRouteClientInit vars appId created threadRet).vars.subscribeInfo = vars.subscribeInfo := by
  unfold msgRouteClientInit
  split
  · rfl
  · split
    · rfl
    · split
      · rfl
      · split <;> rfl

theorem EntriesOk.step {server : ServerState} {old : Client} (ok : EntriesOk labels client old)
    (member : label ∈ labels) (move : ClientStep server old client label value) :
    EntriesOk labels client value := by
  cases move with
  | same => exact ok
  | init appId fd threadRet recvBuf link started isLabel =>
      refine ⟨?_, ok.pending⟩
      rw [subscribeInfo_init]
      exact ok.stored
  | deinit => exact ⟨ok.stored, ok.pending⟩
  | control call isCall =>
      refine ⟨ok.stored, fun other rxFunc among isFunc => ?_⟩
      rcases List.mem_append.mp among with before | new
      · exact ok.pending other rxFunc before isFunc
      · cases List.mem_singleton.mp new
        exact registers_of_controlCall member isCall isFunc
  | store index call isLabel isCall =>
      refine ⟨fun other rxFunc isFunc => ?_, fun other rxFunc among isFunc =>
        ok.pending other rxFunc (List.mem_of_mem_eraseIdx among) isFunc⟩
      by_cases same : other = call.index
      · subst same
        simp only [ClientVars.store, Function.update_self] at isFunc ⊢
        exact ok.pending call rxFunc (List.mem_of_getElem? isCall) isFunc
      · simp only [ClientVars.store, Function.update_of_ne same] at isFunc ⊢
        exact ok.stored other rxFunc isFunc
  | moves => exact ⟨ok.stored, ok.pending⟩
  | disconnected => exact ⟨ok.stored, ok.pending⟩

/-- The receive thread calls what is stored for the type of the message. -/
theorem entry_of_msgRouteClientRx {vars : ClientVars} {msgData : MsgRouteDataInfo} {recvByte : Nat}
    {rxFunc : MsgRouteClientCallback} (called : msgRouteClientRx vars msgData recvByte = some rxFunc) :
    Exists fun index => (vars.subscribeInfo index).msgType = msgData.msgType ∧
      (vars.subscribeInfo index).rxFunc = some rxFunc := by
  unfold msgRouteClientRx at called
  split at called
  · cases called
  · split at called
    · cases called
    · dsimp only at called
      split at called
      next sameType => exact ⟨_, sameType, called⟩
      next => cases called

end Entries

/-! ## The messages of the programs -/

/-- A message of one of the two subscription functions. -/
def SentMsg.IsControl (msg : SentMsg) : Prop :=
  msg.sendData.msgType = MsgRouteMsgType.subscribe.code ∨
    msg.sendData.msgType = MsgRouteMsgType.unsubscribe.code

theorem msgType_controlCall {vars : ClientVars} {client : Nat} {label : NetLabel} {call : ControlCall}
    (isCall : controlCallOf vars client label = some call) :
    call.sendData.msgType = MsgRouteMsgType.subscribe.code ∨
      call.sendData.msgType = MsgRouteMsgType.unsubscribe.code := by
  cases label with
  | subscribe other sendBuf subscribeInfo =>
      simp only [controlCallOf] at isCall
      split at isCall
      · unfold msgRouteClientSubscribeMsg at isCall
        split at isCall
        · cases isCall
        · split at isCall
          · cases isCall
          · cases isCall
            exact Or.inl (msgType_controlMessage _ _ _ _)
      · cases isCall
  | unsubscribe other sendBuf subscribeInfo =>
      simp only [controlCallOf] at isCall
      split at isCall
      · unfold msgRouteClientUnsubscribeMsg at isCall
        split at isCall
        · cases isCall
        · cases isCall
          exact Or.inr (msgType_controlMessage _ _ _ _)
      · cases isCall
  | _ => cases isCall

/-- A message that is sent comes from a program, or from a subscription function. -/
theorem SentBy.requested_or_isControl {labels : List NetLabel} {state : NetState} {label : NetLabel}
    {msg : SentMsg} (cause : SentBy state label msg) (member : label ∈ labels) :
    Requested labels msg ∨ msg.IsControl := by
  rcases cause with isSend | ⟨call, isCall, isData⟩
  · left
    rw [Requested, ← isSend]
    exact member
  · rw [SentMsg.IsControl, isData]
    exact Or.inr (msgType_controlCall isCall)

/-! ## Runs -/

/-- Every entry was registered, and so was every callback that has been called.  What is no control
message was sent by a program. -/
structure RegistryOk (labels : List NetLabel) (state : NetState) : Prop where
  entries : forall client, EntriesOk labels client (state.clients client)
  sent : forall msg, msg ∈ state.sent -> Requested labels msg ∨ msg.IsControl
  called : forall record, record ∈ state.callbacks ->
    Registers labels record.client record.msgData.msgType record.rxFunc

theorem RegistryOk.step {labels : List NetLabel} {state next : NetState} {label : NetLabel}
    (ok : RegistryOk labels state) (underWay : UnderWay state) (member : label ∈ labels)
    (stepped : netStep state label = some next) : RegistryOk labels next := by
  have moved := netStep_moves underWay.inv underWay.cover stepped
  refine ⟨fun client => (ok.entries client).step member (clientStep client stepped), ?_, ?_⟩
  · cases moved with
    | sends msg changed handles cause =>
        have isNext : next.sent = state.sent ++ [msg] := congrArg Traffic.sent changed
        intro other among
        rw [isNext] at among
        rcases List.mem_append.mp among with before | new
        · exact ok.sent other before
        · cases List.mem_singleton.mp new
          exact cause.requested_or_isControl member
    | quiet same _ =>
        have isNext : next.sent = state.sent := congrArg Traffic.sent same
        rw [isNext]
        exact ok.sent
    | takes _ _ _ _ _ _ _ _ changed _ _ _ | looks _ _ _ _ _ _ _ _ _ changed _ _
    | arrives _ _ _ _ _ changed _ | delivers _ _ changed _ =>
        have isNext : next.sent = state.sent := congrArg Traffic.sent changed
        rw [isNext]
        exact ok.sent
  · cases moved with
    | looks client thread recvByte serial failed rx isLabel isRx isPc changed kept only =>
        have isNext : next.callbacks = state.callbacks ++ _ := congrArg Traffic.callbacks changed
        intro record among
        rw [isNext] at among
        rcases List.mem_append.mp among with before | new
        · exact ok.called record before
        · rcases Option.map_eq_some_iff.mp (Option.mem_toList.mp new) with ⟨rxFunc, isFunc, rfl⟩
          rcases entry_of_msgRouteClientRx isFunc with ⟨index, sameType, isEntry⟩
          exact sameType ▸ (ok.entries client).stored index rxFunc isEntry
    | quiet same _ =>
        have isNext : next.callbacks = state.callbacks := congrArg Traffic.callbacks same
        rw [isNext]
        exact ok.called
    | sends _ changed _ | takes _ _ _ _ _ _ _ _ changed _ _ _ | arrives _ _ _ _ _ changed _
    | delivers _ _ changed _ =>
        have isNext : next.callbacks = state.callbacks := congrArg Traffic.callbacks changed
        rw [isNext]
        exact ok.called

theorem registryOk_netInit (labels : List NetLabel) (start : RoutePool) (memory recvBuf : Memory) :
    RegistryOk labels (netInit start memory recvBuf) where
  entries := by
    intro client
    constructor
    · intro index rxFunc isFunc
      cases isFunc
    · exact fun call rxFunc among => absurd among List.not_mem_nil
  sent := fun _ among => absurd among List.not_mem_nil
  called := fun _ among => absurd among List.not_mem_nil

/-- A packet that the server routes has the type of a data message. -/
theorem routedType_of_kind {bytes : List UInt8} (kind : packetKind bytes = .routed) :
    RoutedType (MsgRouteDataInfo.msgType (Memory.ofBytes bytes)) := by
  unfold packetKind at kind
  split at kind
  · cases kind
  · split at kind
    · cases kind
    · split at kind
      · cases kind
      next valid =>
        split at kind
        · cases kind
        next notSubscribe =>
          split at kind
          · cases kind
          next notUnsubscribe =>
            refine ⟨?_, notSubscribe, notUnsubscribe⟩
            exact (isMsgType_iff _).mpr ((isMsgRouteValidMsg_iff _).mp (not_not.mp valid)).2

/-- In every run of clients and server each call of a callback is justified: some program has passed
the message to `MsgRouteClientSendMsg`, with a length that fits, the callback sees what was sent, the
type is one that the server routes, and this client has subscribed the callback for it. -/
theorem callbacks_justified {pre start : RoutePool} {threadNum : Int} {outcome : InitOutcome}
    (uninitialised : pre.isInit = false) (noWorkers : forall pc, pc ∈ pre.threads -> pc = .exited)
    (initialised : threadPoolInit pre threadNum outcome = some (.returned 0 start))
    {memory recvBuf : Memory} {labels : List NetLabel} {final : NetState}
    (ran : network.run (netInit start memory recvBuf) labels = some final) :
    forall record, record ∈ final.callbacks -> Justified labels final record := by
  have idle := idle_of_threadPoolInit uninitialised noWorkers initialised
  have kept : forall state label next, (UnderWay state ∧ RegistryOk labels state) -> label ∈ labels ->
      network.step state label = some next -> UnderWay next ∧ RegistryOk labels next := by
    rintro state label next ⟨underWay, ok⟩ member stepped
    exact ⟨underWay.step stepped, ok.step underWay member stepped⟩
  rcases network.run_of_allSteps kept
    ⟨underWay_netInit idle memory recvBuf, registryOk_netInit labels start memory recvBuf⟩
    (network.allSteps_of_labels (fun _ member => member) _) ran with ⟨underWay, ok⟩
  intro record member
  rcases underWay.traced.called record member with ⟨recvByte, received⟩
  rcases sees_of_received underWay.inv received with
    ⟨arrival, msg, isArrival, sent, isLink, kind, isByte, sees⟩
  have isMessage : final.messageOf record.serial = some arrival.sent := by
    rw [NetState.messageOf, isArrival]
    rfl
  rcases conveyed_of_called underWay.inv underWay.traced sent member isMessage with ⟨fits, conveyed⟩
  have routed : RoutedType msg.sendData.msgType :=
    msgType_receivedPacket msg.fd arrival.conn.fd msg.sendData msg.isBroadcast ▸
      routedType_of_kind kind
  have requested : Requested labels msg := by
    rcases ok.sent msg (List.mem_of_getElem? sent) with requested | subscribes | unsubscribes
    · exact requested
    · exact absurd subscribes routed.notSubscribe
    · exact absurd unsubscribes routed.notUnsubscribe
  exact ⟨⟨arrival.sent, msg, sent, requested, isMessage, fits, conveyed⟩,
    sees.msgType.symm ▸ routed, ok.called record member⟩

/-- The subscriber's callback 0 has been called, and it was registered for the type 3. -/
theorem callbacks_justified_subscriberNotified :
    let cell : DoublyLinkedListNode Addr := ⟨none, .jobListHead, .jobListHead⟩
    Exists fun start => Exists fun final => Exists fun record =>
      threadPoolInit (poolStatics JobFunc (List UInt8) cell) 1 (.success cell) =
        some (.returned 0 start) ∧
      network.run (netInit start (Memory.ofBytes []) (Memory.ofBytes [])) subscriberNotified =
        some final ∧
      record ∈ final.callbacks ∧ record.client = 1 ∧ record.rxFunc = 0 ∧
      Justified subscriberNotified final record := by
  intro cell
  have reached : ((threadPoolInit (poolStatics JobFunc (List UInt8) cell) 1 (.success cell)).bind
      InitResult.started).bind (fun start =>
        (network.run (netInit start (Memory.ofBytes []) (Memory.ofBytes []))
          subscriberNotified).map (fun final =>
            final.callbacks.map (fun record => (record.client, record.rxFunc)))) = some [(1, 0)] := by
    decide +kernel
  rcases InitResult.exists_run reached with ⟨start, final, done, ran, observed⟩
  rcases List.map_eq_singleton_iff.mp observed with ⟨record, isRecord, parts⟩
  have member : record ∈ final.callbacks := by
    rw [isRecord]
    exact List.mem_singleton_self _
  have justified := callbacks_justified rfl (fun pc member => absurd member List.not_mem_nil) done ran
    record member
  exact ⟨start, final, record, done, ran, member, (Prod.mk.inj parts).1, (Prod.mk.inj parts).2, justified⟩

end MsgRoute
end V2x
