import Mathlib.Data.List.InsertIdx
import V2x.Foundations.Replicas
import V2x.MsgRoute.ControlPlane

namespace V2x
namespace MsgRoute

open Foundations ThreadPool

/-!
# Client and server on subscriptions

What a client has subscribed to is in two tables: the flags of its slot in the
server, and the callbacks in the client.  Both subscription functions write to
both of them, to the flags through the connection, and to the callbacks in a
second step that another thread may overtake.  For a client that has its
connection and its slot for itself this is a pair of `Replicas`.
-/

instance : NeZero msgRouteMaxMsg := ⟨by decide⟩

/-- What the server writes to the flags of the slot when it receives this packet. -/
def flagWrite (app : Fin maxAppId) (sent : List UInt8) : Option (Fin msgRouteMaxMsg × Bool) :=
  match packetKind (sent.take recvSize) with
  | .control isAdd =>
      if packetSlot (sent.take recvSize) = app then
        some (Fin.ofNat msgRouteMaxMsg (packetType (sent.take recvSize)), isAdd)
      else none
  | _ => none

/-- Whether a call leaves a callback behind, and for which type. -/
def callWrite (call : ControlCall) : Fin msgRouteMaxMsg × Bool :=
  (Fin.ofNat msgRouteMaxMsg call.index, call.entry.rxFunc.isSome)

/-- The subscriptions of the client: the callbacks it has and the flags that the
server has for it, with the writes that are still to be made. -/
def NetState.subscriptions (state : NetState) (client link : Nat) (app : Fin maxAppId) :
    Replicas (Fin msgRouteMaxMsg) Bool where
  near := fun type => ((state.clients client).vars.subscribeInfo type).rxFunc.isSome
  stores := (state.clients client).pending.map callWrite
  far := (state.route.server.table app).msgFlag
  queue := (upOf state.links link).filterMap (fun packet => flagWrite app packet.bytes)

/-- The client has one open connection, which it uses with this application, and
the slot of the application belongs to no other connection. -/
structure Attached (client link : Nat) (app : Fin maxAppId) (state : NetState) : Prop where
  isLink : (state.clients client).link = some link
  appId : (state.clients client).vars.curAppId.toInt = app
  waits : forall rx number, rx ∈ (state.clients client).rx -> rx.pc = .recv (some number) ->
    number = link
  opened : isOpen state.links link = true
  accepted : link < state.route.server.accepted -> Exists fun conn =>
    conn ∈ state.route.server.connections ∧ conn.id = link
  slot : (state.route.server.table app).fd = -1 ∨ Exists fun conn =>
    conn ∈ state.route.server.connections ∧ conn.id = link ∧
      conn.fd = (state.route.server.table app).fd

/-- No subscription is recorded on either side, and none is under way. -/
structure Unsubscribed (client link : Nat) (app : Fin maxAppId) (state : NetState) : Prop where
  callbacks : forall type : Fin msgRouteMaxMsg,
    ((state.clients client).vars.subscribeInfo type).rxFunc = none
  flags : forall type, (state.route.server.table app).msgFlag type = false
  calls : (state.clients client).pending = []
  packets : upOf state.links link = []

/-- The client stays connected, it subscribes with the two functions only, and
what the server receives from others spares the slot. -/
def OneUser (client link : Nat) (app : Fin maxAppId) (state : NetState) : NetLabel -> Prop
  | .init other _ _ _ _ => other ≠ client
  | .deinit other => other ≠ client
  | .send other sendData isBroadcast => other = client -> Spares app
      (msgRouteClientSendMsg (state.clients client).vars.fd sendData isBroadcast).sendBytes
  | .recv fd false => forall conn, conn ∈ state.route.server.watchedConnection fd ->
      conn.id ≠ link -> forall packet, packet ∈ (upOf state.links conn.id).head? ->
      Spares app packet.bytes
  | _ => True

instance (client link : Nat) (app : Fin maxAppId) (state : NetState) :
    DecidablePred (OneUser client link app state)
  | .init other _ _ _ _ => inferInstanceAs (Decidable (other ≠ client))
  | .deinit other => inferInstanceAs (Decidable (other ≠ client))
  | .send other _ _ =>
      inferInstanceAs (Decidable (other = client -> Spares app (MsgRouteDataInfo.sendBytes _)))
  | .recv fd false => inferInstanceAs (Decidable (forall conn,
      conn ∈ state.route.server.watchedConnection fd -> conn.id ≠ link -> forall packet,
      packet ∈ (upOf state.links conn.id).head? -> Spares app packet.bytes))
  | .recv _ true | .subscribe _ _ _ | .unsubscribe _ _ _ | .store _ _ | .rx _ _ _ | .accept _ _
  | .core _ | .job _ => isTrue trivial

/-- No entry is stored before that of a call for the same type that has sent its
control message earlier and does the opposite. -/
def StoresInOrder (client : Nat) (state : NetState) : NetLabel -> Prop
  | .store other index => other = client ->
      InOrder ((state.clients client).pending.map callWrite) index
  | _ => True

instance (client : Nat) (state : NetState) : DecidablePred (StoresInOrder client state)
  | .store other index => inferInstanceAs (Decidable (other = client -> InOrder _ index))
  | .init _ _ _ _ _ | .deinit _ | .send _ _ _ | .subscribe _ _ _ | .unsubscribe _ _ _ | .rx _ _ _
  | .accept _ _ | .recv _ _ | .core _ | .job _ => isTrue trivial

/-- Once all calls have returned and the server has handled all packets of the
client, the server has the flag of a type set exactly if the client has a callback
for it. -/
def SubscriptionsAgree (client link : Nat) (app : Fin maxAppId) (state : NetState) : Prop :=
  (state.clients client).pending = [] -> upOf state.links link = [] ->
    forall type : Fin msgRouteMaxMsg, (state.route.server.table app).msgFlag type = true <->
      ((state.clients client).vars.subscribeInfo type).rxFunc ≠ none

/-- The writes that are under way come from calls of the two functions. -/
structure Private (client link : Nat) (app : Fin maxAppId) (state : NetState) : Prop
    extends Attached client link app state where
  calls : forall call, call ∈ (state.clients client).pending -> call.index < msgRouteMaxMsg
  packets : forall packet, packet ∈ upOf state.links link -> packet.bytes ≠ [] ∧
    (Spares app packet.bytes ∨ Exists fun type => Exists fun isAdd =>
      type < msgRouteMaxMsg ∧ IsControlFor app type isAdd packet.bytes)

/-! ## The writes of a packet -/

section Writes

variable {app : Fin maxAppId} {sent : List UInt8} {type : Nat} {isAdd : Bool}

theorem flagWrite_of_control (isControl : IsControlFor app type isAdd sent) :
    flagWrite app sent = some (Fin.ofNat msgRouteMaxMsg type, isAdd) := by
  rcases isControl with ⟨kind, isSlot, isType⟩
  simp only [flagWrite, kind, isSlot, isType, if_true]

theorem flagWrite_of_spares (spares : Spares app sent) : flagWrite app sent = none := by
  unfold Spares at spares
  unfold flagWrite
  split
  next isAdd kind =>
    rw [kind] at spares
    exact if_neg spares.1
  next => rfl

theorem ofNat_of_lt (small : type < msgRouteMaxMsg) :
    Fin.ofNat msgRouteMaxMsg type = ⟨type, small⟩ :=
  Fin.ext (Nat.mod_eq_of_lt small)

end Writes

/-! ## One step -/

/-- What a step does to the callbacks of the client. -/
inductive NearMove (client : Nat) (state next : NetState) (label : NetLabel) : Prop where
  | same (noCall : controlCallOf (state.clients client).vars client label = none)
      (info : (next.clients client).vars.subscribeInfo =
        (state.clients client).vars.subscribeInfo)
      (pending : (next.clients client).pending = (state.clients client).pending)
  | call (call : ControlCall)
      (isCall : controlCallOf (state.clients client).vars client label = some call)
      (info : (next.clients client).vars.subscribeInfo =
        (state.clients client).vars.subscribeInfo)
      (pending : (next.clients client).pending = (state.clients client).pending ++ [call])
  | store (index : Nat) (call : ControlCall) (isLabel : label = .store client index)
      (isCall : (state.clients client).pending[index]? = some call)
      (info : (next.clients client).vars.subscribeInfo =
        Function.update (state.clients client).vars.subscribeInfo call.index call.entry)
      (pending : (next.clients client).pending = (state.clients client).pending.eraseIdx index)

/-- What a step does to the slot of the application, and to what the client has
sent to the server. -/
inductive FarMove (client link : Nat) (app : Fin maxAppId) (state next : NetState)
    (label : NetLabel) : Prop where
  | same (noCall : controlCallOf (state.clients client).vars client label = none)
      (slot : next.route.server.table app = state.route.server.table app)
      (queue : (next.subscriptions client link app).queue =
        (state.subscriptions client link app).queue)
      (packets : forall packet, packet ∈ upOf next.links link -> packet ∈ upOf state.links link ∨
        packet.bytes ≠ [] ∧ Spares app packet.bytes)
  | call (call : ControlCall) (packet : UpPacket)
      (isCall : controlCallOf (state.clients client).vars client label = some call)
      (isControl : call.index < msgRouteMaxMsg ∧
        IsControlFor app call.index call.entry.rxFunc.isSome packet.bytes)
      (slot : next.route.server.table app = state.route.server.table app)
      (up : upOf next.links link = upOf state.links link ++ [packet])
  | receive (fd : Int32) (conn : Connection) (packet : UpPacket) (rest : List UpPacket)
      (type : Fin msgRouteMaxMsg) (isAdd : Bool)
      (isLabel : label = .recv fd false) (member : conn ∈ state.route.server.connections)
      (own : conn.id = link) (isControl : IsControlFor app type isAdd packet.bytes)
      (first : upOf state.links link = packet :: rest)
      (slot : next.route.server.table app =
        (state.route.server.table app).control conn.fd type isAdd)
      (up : upOf next.links link = rest)

section Steps

variable {client link : Nat} {app : Fin maxAppId} {state next : NetState} {label : NetLabel}

-- the bytes are known by their lemmas only, and evaluating them takes seconds
attribute [local irreducible] MsgRouteDataInfo.sendBytes

theorem sendBytes_ne_nil (fd : Int32) (sendData : MsgRouteDataInfo) (isBroadcast : Bool) :
    (msgRouteClientSendMsg fd sendData isBroadcast).sendBytes ≠ [] := by
  intro empty
  have length := length_sendBytes_sendMsg fd sendData isBroadcast
  rw [empty, List.length_nil] at length
  unfold msgRouteHeadSize at length
  omega

/-- The client's own steps leave it connected. -/
theorem Attached.clientMoves (attached : Attached client link app state)
    (one : OneUser client link app state label) (stepped : netStep state label = some next) :
    NearMove client state next label ∧ (next.clients client).link = some link ∧
      (next.clients client).vars.curAppId = (state.clients client).vars.curAppId ∧
      forall rx number, rx ∈ (next.clients client).rx -> rx.pc = .recv (some number) ->
        number = link := by
  have isStep := clientStep client stepped
  generalize isNew : next.clients client = new at isStep
  cases isStep with
  | same noCall noStore noRx =>
      exact ⟨NearMove.same noCall (by rw [isNew]) (by rw [isNew]), attached.isLink, rfl,
        attached.waits⟩
  | init appId fd threadRet recvBuf number started isLabel =>
      rw [isLabel] at one
      exact absurd rfl one
  | deinit isLabel =>
      rw [isLabel] at one
      exact absurd rfl one
  | control call isCall =>
      exact ⟨NearMove.call call isCall (by rw [isNew]) (by rw [isNew]), attached.isLink, rfl,
        attached.waits⟩
  | store index call isLabel isCall =>
      exact ⟨NearMove.store index call isLabel isCall (by rw [isNew]; rfl) (by rw [isNew]),
        attached.isLink, rfl, attached.waits⟩
  | moves thread failed before after isLabel isThread waits =>
      refine ⟨NearMove.same (by rw [isLabel]; rfl) (by rw [isNew]) (by rw [isNew]),
        attached.isLink, rfl, ?_⟩
      intro rx number member isPc
      rcases List.mem_or_eq_of_mem_set member with old | rfl
      · exact attached.waits rx number old isPc
      · rcases waits with onLink | noWait
        · rw [isPc, attached.isLink] at onLink
          exact Option.some.inj (RxPc.recv.inj onLink)
        · exact absurd isPc (noWait _)
  | disconnected thread failed before after number isLabel isThread isPc ended closed =>
      -- The server keeps the connection of the only link that a thread waits on.
      have own := attached.waits before number (List.mem_of_getElem? isThread) isPc
      rw [own] at closed
      rcases attached.accepted closed.1 with ⟨conn, member, isId⟩
      exact absurd isId (closed.2 conn member)

/-- The server does not close the connection of the client. -/
theorem Private.serverChange (alone : Private client link app state)
    (move : ControlMove state next label) : Exists fun kind =>
      ServerChange state.route.server next.route.server kind ∧
      forall fd, kind = .close fd -> Exists fun conn =>
        conn ∈ state.route.server.connections ∧ conn.fd = fd ∧ conn.id ≠ link := by
  cases move with
  | quiet noCall up change => exact ⟨_, change, by simp⟩
  | sends other number sent sendData isBroadcast isSend up server =>
      refine ⟨.quiet, ?_, by simp⟩
      rw [server]
      exact .quiet rfl rfl rfl rfl
  | accepts fd noCall up change => exact ⟨_, change, by simp⟩
  | receives fd conn packet rest isLabel watched first up change =>
      refine ⟨_, change, ?_⟩
      intro other isClose
      rcases watchedConnection_spec watched with ⟨member, isFd, _⟩
      simp only [RecvResult.kind] at isClose
      split at isClose
      next kind =>
        refine ⟨conn, member, isFd.trans (EventKind.close.inj isClose), ?_⟩
        rintro own
        rw [own] at first
        have received := alone.packets packet (first ▸ List.mem_cons_self)
        exact received.1 (take_recvSize_eq_nil ((packetKind_eq_disconnect_iff _).mp kind))
      all_goals cases isClose
  | ends conn noCall member closed up change =>
      refine ⟨_, change, ?_⟩
      intro fd isClose
      refine ⟨conn, member, EventKind.close.inj isClose, ?_⟩
      rintro own
      rw [own, alone.opened] at closed
      cases closed

/-- The connection of the client stays, and it is there as soon as the server has
accepted its link. -/
theorem Private.connection (alone : Private client link app state)
    (connected : state.route.server.Connected) (move : ControlMove state next label) :
    (forall conn, conn ∈ state.route.server.connections -> conn.id = link ->
      conn ∈ next.route.server.connections) ∧
    (link < next.route.server.accepted -> Exists fun conn =>
      conn ∈ next.route.server.connections ∧ conn.id = link) := by
  rcases alone.serverChange move with ⟨kind, change, closes⟩
  cases change with
  | quiet _ connections accepted _ | control _ _ _ _ _ _ connections accepted _ =>
      rw [connections, accepted]
      exact ⟨fun conn member _ => member, alone.accepted⟩
  | accepted fd added valid fresh _ connections accepted _ =>
      rw [connections, accepted]
      refine ⟨fun conn member _ => List.mem_cons_of_mem _ member, fun below => ?_⟩
      rcases Nat.lt_succ_iff_lt_or_eq.mp below with before | same
      · rcases alone.accepted before with ⟨conn, member, isId⟩
        exact ⟨conn, List.mem_cons_of_mem _ member, isId⟩
      · exact ⟨_, List.mem_cons_self, same.symm⟩
  | disconnected closed member _ connections accepted _ =>
      rcases closes closed.fd rfl with ⟨conn, isConn, sameFd, notOwn⟩
      have kept : forall other, other ∈ state.route.server.connections -> other.id = link ->
          other ∈ next.route.server.connections := by
        intro other isOther own
        rw [connections]
        refine List.mem_filter.mpr ⟨isOther, bne_iff_ne.mpr ?_⟩
        intro isClosed
        have same := connected.fdsDistinct other isOther conn isConn (isClosed.trans sameFd.symm)
        exact notOwn (same ▸ own)
      rw [accepted]
      refine ⟨kept, fun below => ?_⟩
      rcases alone.accepted below with ⟨own, isOwn, isId⟩
      exact ⟨own, kept own isOwn isId, isId⟩

/-- The slot of the application does not belong to another connection. -/
theorem Attached.fd_ne (attached : Attached client link app state)
    (connected : state.route.server.Connected) {conn : Connection}
    (member : conn ∈ state.route.server.connections) (notOwn : conn.id ≠ link) :
    (state.route.server.table app).fd ≠ conn.fd := by
  rcases attached.slot with free | ⟨own, isOwn, isId, isFd⟩
  · rw [free]
    exact (ne_neg_one_of_valid (connected.fdsValid conn member)).symm
  · rw [← isFd]
    intro sameFd
    have same := connected.fdsDistinct own isOwn conn member sameFd
    exact notOwn (same ▸ isId)

/-- The client sends something that spares the slot. -/
theorem FarMove.of_sent {bytes : List UInt8} {number : Nat}
    (noCall : controlCallOf (state.clients client).vars client label = none)
    (slot : next.route.server.table app = state.route.server.table app)
    (up : upOf next.links link = upOf state.links link ++ [⟨bytes, number⟩]) (nonempty : bytes ≠ [])
    (spares : Spares app bytes) : FarMove client link app state next label := by
  refine FarMove.same noCall slot ?_ ?_
  · simp only [NetState.subscriptions, up, List.filterMap_append, List.filterMap_cons,
      flagWrite_of_spares spares, List.filterMap_nil, List.append_nil]
  · intro packet member
    rw [up] at member
    rcases List.mem_append.mp member with old | new
    · exact Or.inl old
    · rw [List.mem_singleton.mp new]
      exact Or.inr ⟨nonempty, spares⟩

/-- The connection on which a packet for the slot arrives is the client's own. -/
theorem Private.farMove (alone : Private client link app state)
    (connected : state.route.server.Connected) (exclusive : Exclusive state)
    (validApp : 0 ≤ (state.clients client).vars.curAppId.toInt ∧
      (state.clients client).vars.curAppId.toInt < maxAppId)
    (one : OneUser client link app state label) (move : ControlMove state next label) :
    FarMove client link app state next label := by
  have unchanged : controlCallOf (state.clients client).vars client label = none ->
      next.route.server.table app = state.route.server.table app ->
      upOf next.links link = upOf state.links link ->
      FarMove client link app state next label := by
    intro noCall slot up
    refine FarMove.same noCall slot ?_ fun packet member => Or.inl (up ▸ member)
    simp only [NetState.subscriptions, up]
  cases move with
  | quiet noCall up change =>
      exact unchanged (noCall _ _) (congrFun (table_quiet change) app) (congrFun up link)
  | sends other number sent sendData isBroadcast isSend up server =>
      have slot : next.route.server.table app = state.route.server.table app :=
        congrArg (fun server => ServerState.table server app) server
      by_cases here : other = client
      · subst here
        have isLink : number = link :=
          Option.some.inj (isSend.isLink.symm.trans alone.isLink)
        subst isLink
        have isUp := (congrFun up number).trans (Function.update_self ..)
        rcases isSend.isLabel with rfl | ⟨rfl, call, isCall, rfl⟩
        · exact FarMove.of_sent rfl slot isUp (sendBytes_ne_nil _ _ _) (one rfl)
        · refine FarMove.call call _ isCall ?_ slot isUp
          have isControl := controlCall_received (state.clients other).vars.fd isCall
            validApp
          rw [alone.appId, Int.toNat_natCast] at isControl
          exact isControl
      · have different : link ≠ number := by
          rintro rfl
          exact here (exclusive.single other client link (Or.inl isSend.isLink)
            (Or.inl alone.isLink))
        exact unchanged (isSend.others client _ (Ne.symm here)) slot
          ((congrFun up link).trans (Function.update_of_ne different ..))
  | accepts fd noCall up change =>
      exact unchanged (noCall _ _) (congrFun (table_accept change) app) (congrFun up link)
  | receives fd conn packet rest isLabel watched first up change =>
      rcases watchedConnection_spec watched with ⟨member, isFd, _⟩
      by_cases own : conn.id = link
      · rw [own] at first up
        have isUp := (congrFun up link).trans (Function.update_self ..)
        rcases alone.packets packet (first ▸ List.mem_cons_self) with
          ⟨nonempty, spares | ⟨type, isAdd, small, isControl⟩⟩
        · refine FarMove.same (by rw [isLabel]; rfl)
            (table_spared connected change spares (Or.inl nonempty)) ?_ ?_
          · simp only [NetState.subscriptions, isUp, first, List.filterMap_cons,
              flagWrite_of_spares spares]
          · intro other isOther
            rw [first]
            exact Or.inl (List.mem_cons_of_mem _ (isUp ▸ isOther))
        · have slot := table_received isControl small change
          rw [← isFd] at slot
          exact FarMove.receive fd conn packet rest ⟨type, small⟩ isAdd isLabel member own isControl
            first slot isUp
      · have spares : Spares app packet.bytes := by
          rw [isLabel] at one
          exact one conn watched own packet (by rw [first]; rfl)
        have notOwn := alone.fd_ne connected member own
        rw [isFd] at notOwn
        exact unchanged (by rw [isLabel]; rfl) (table_spared connected change spares (Or.inr notOwn))
          ((congrFun up link).trans (Function.update_of_ne (Ne.symm own) ..))
  | ends conn noCall member closed up change =>
      have notOwn : conn.id ≠ link := by
        rintro own
        rw [own, alone.opened] at closed
        cases closed
      exact unchanged (noCall _ _)
        (table_close_other connected change (alone.fd_ne connected member notOwn)) (congrFun up link)

theorem Attached.validApp (attached : Attached client link app state) :
    0 ≤ (state.clients client).vars.curAppId.toInt ∧
      (state.clients client).vars.curAppId.toInt < maxAppId := by
  have inside := app.isLt
  rw [attached.appId]
  omega

/-- A step on one side is a step of the two copies. -/
theorem Private.copies_step (alone : Private client link app state)
    (inOrder : StoresInOrder client state label) (near : NearMove client state next label)
    (far : FarMove client link app state next label) :
    Replicas.Step (state.subscriptions client link app) (next.subscriptions client link app) := by
  cases near with
  | same noCall info pending =>
      have isNear : (next.subscriptions client link app).near =
          (state.subscriptions client link app).near := by
        simp only [NetState.subscriptions, info]
      have isStores : (next.subscriptions client link app).stores =
          (state.subscriptions client link app).stores := by
        simp only [NetState.subscriptions, pending]
      cases far with
      | same _ slot queue _ =>
          exact Replicas.Step.idle.ofEq isNear isStores (congrArg MsgRouteClientInfo.msgFlag slot)
            queue
      | call call packet isCall isControl slot up =>
          rw [noCall] at isCall
          cases isCall
      | receive fd conn packet rest type isAdd isLabel member own isControl first slot up =>
          have write := flagWrite_of_control isControl
          rw [ofNat_of_lt type.isLt] at write
          have isQueue : (state.subscriptions client link app).queue =
              (type, isAdd) :: (next.subscriptions client link app).queue := by
            simp only [NetState.subscriptions, first, up, List.filterMap_cons, write]
          exact (Replicas.Step.receive _ _ isQueue).ofEq isNear isStores
            (congrArg MsgRouteClientInfo.msgFlag slot) rfl
  | call call isCall info pending =>
      cases far with
      | same noCall slot queue _ =>
          rw [isCall] at noCall
          cases noCall
      | call other packet isOther isControl slot up =>
          cases isCall.symm.trans isOther
          have write : flagWrite app packet.bytes = some (callWrite call) :=
            flagWrite_of_control isControl.2
          apply (Replicas.Step.send (callWrite call)).ofEq
          · simp only [NetState.subscriptions, info]
          · simp only [NetState.subscriptions, pending, List.map_append, List.map_cons, List.map_nil]
          · exact congrArg MsgRouteClientInfo.msgFlag slot
          · simp only [NetState.subscriptions, up, List.filterMap_append, List.filterMap_cons,
              write, List.filterMap_nil]
      | receive fd conn packet rest type isAdd isLabel member own isControl first slot up =>
          rw [isLabel] at isCall
          cases isCall
  | store index call isLabel isCall info pending =>
      cases far with
      | same noCall slot queue _ =>
          have small := alone.calls call (List.mem_of_getElem? isCall)
          have isWrite : (state.subscriptions client link app).stores[index]? =
              some (callWrite call) := by
            simp only [NetState.subscriptions, List.getElem?_map, isCall, Option.map_some]
          rw [isLabel] at inOrder
          refine (Replicas.Step.store index _ isWrite (inOrder rfl)).ofEq ?_ ?_
            (congrArg MsgRouteClientInfo.msgFlag slot) queue
          · funext type
            simp only [NetState.subscriptions, info, callWrite, ofNat_of_lt small,
              Function.update_apply, Fin.ext_iff]
            split <;> rfl
          · simp only [NetState.subscriptions, pending, List.eraseIdx_map]
      | call other packet isOther isControl slot up =>
          rw [isLabel] at isOther
          cases isOther
      | receive fd conn packet rest type isAdd received member own isControl first slot up =>
          rw [isLabel] at received
          cases received

/-- The client keeps its connection and its slot. -/
theorem Private.step (alone : Private client link app state)
    (connected : state.route.server.Connected) (exclusive : Exclusive state) (one : OneUser client link app state label)
    (stepped : netStep state label = some next) (far : FarMove client link app state next label) :
    Private client link app next := by
  have move := netStep_controlMove stepped
  rcases alone.clientMoves one stepped with ⟨near, isLink, appId, waits⟩
  rcases alone.connection connected move with ⟨kept, accepted⟩
  have opened : isOpen next.links link = true := by
    rcases (netStep_linkStep stepped).keeps link alone.opened with still | ⟨other, before, after⟩
    · exact still
    · have same : other = client :=
        exclusive.single other client link (Or.inl before) (Or.inl alone.isLink)
      rw [same, isLink] at after
      cases after
  refine ⟨⟨isLink, by rw [appId, alone.appId], waits, opened, accepted, ?_⟩, ?_, ?_⟩
  · have slotKept : next.route.server.table app = state.route.server.table app ->
        (next.route.server.table app).fd = -1 ∨ Exists fun conn =>
          conn ∈ next.route.server.connections ∧ conn.id = link ∧
            conn.fd = (next.route.server.table app).fd := by
      intro same
      rw [same]
      rcases alone.slot with free | ⟨conn, member, isId, isFd⟩
      · exact Or.inl free
      · exact Or.inr ⟨conn, kept conn member isId, isId, isFd⟩
    cases far with
    | same _ slot _ _ => exact slotKept slot
    | call _ _ _ _ slot _ => exact slotKept slot
    | receive fd conn packet rest type isAdd _ member own _ _ slot _ =>
        rw [slot]
        rcases alone.slot with free | ⟨other, isOther, isId, isFd⟩
        · exact Or.inr ⟨conn, kept conn member own, own, (if_pos free).symm⟩
        · have taken := ne_neg_one_of_valid (connected.fdsValid other isOther)
          rw [isFd] at taken
          exact Or.inr ⟨other, kept other isOther isId, isId, isFd.trans (if_neg taken).symm⟩
  · cases near with
    | same _ _ pending =>
        rw [pending]
        exact alone.calls
    | call call isCall _ pending =>
        intro made member
        rw [pending] at member
        rcases List.mem_append.mp member with old | new
        · exact alone.calls made old
        · rw [List.mem_singleton.mp new]
          exact (controlCall_received 0 isCall alone.validApp).1
    | store index call _ _ _ pending =>
        intro made member
        rw [pending] at member
        exact alone.calls made (List.mem_of_mem_eraseIdx member)
  · cases far with
    | same _ _ _ packets =>
        intro packet member
        rcases packets packet member with old | ⟨nonempty, spares⟩
        · exact alone.packets packet old
        · exact ⟨nonempty, Or.inl spares⟩
    | call call sent _ isControl _ up =>
        intro packet member
        rw [up] at member
        rcases List.mem_append.mp member with old | new
        · exact alone.packets packet old
        · rw [List.mem_singleton.mp new]
          refine ⟨?_, Or.inr ⟨call.index, _, isControl⟩⟩
          intro empty
          have kind := isControl.2.1
          rw [empty] at kind
          cases kind
    | receive fd conn sent rest _ _ _ _ _ _ first _ up =>
        intro packet member
        rw [up] at member
        exact alone.packets packet (first ▸ List.mem_cons_of_mem _ member)

end Steps

/-! ## Runs -/

/-- The server keeps its books in every step of the network. -/
theorem connected_netStep {state next : NetState} {label : NetLabel}
    (connected : state.route.server.Connected) (stepped : netStep state label = some next) :
    next.route.server.Connected := by
  cases netStep_controlMove stepped with
  | sends other number sent sendData isBroadcast isSend up server =>
      rw [server]
      exact connected
  | quiet _ _ change | accepts _ _ _ change | receives _ _ _ _ _ _ _ _ change
  | ends _ _ _ _ _ change => exact connected_step connected change

/-- The client is alone on its connection, and its subscriptions will agree. -/
structure Agreeing (client link : Nat) (app : Fin maxAppId) (state : NetState) : Prop where
  connected : state.route.server.Connected
  exclusive : Exclusive state
  alone : Private client link app state
  copies : (state.subscriptions client link app).Agree

section Runs

variable {client link : Nat} {app : Fin maxAppId} {state next : NetState} {label : NetLabel}

theorem Agreeing.step (agreeing : Agreeing client link app state)
    (one : OneUser client link app state label) (inOrder : StoresInOrder client state label)
    (stepped : netStep state label = some next) : Agreeing client link app next := by
  have near := (agreeing.alone.clientMoves one stepped).1
  have far := agreeing.alone.farMove agreeing.connected agreeing.exclusive
    agreeing.alone.validApp one (netStep_controlMove stepped)
  exact ⟨connected_netStep agreeing.connected stepped, exclusive_step agreeing.exclusive stepped,
    agreeing.alone.step agreeing.connected agreeing.exclusive one stepped far,
    agreeing.copies.step (agreeing.alone.copies_step inOrder near far)⟩

theorem Agreeing.start (connected : state.route.server.Connected) (exclusive : Exclusive state)
    (attached : Attached client link app state) (free : Unsubscribed client link app state) :
    Agreeing client link app state := by
  refine ⟨connected, exclusive, ⟨attached, ?_, ?_⟩, ?_⟩
  · rw [free.calls]
    exact fun call member => absurd member List.not_mem_nil
  · rw [free.packets]
    exact fun packet member => absurd member List.not_mem_nil
  · unfold Replicas.Agree
    simp only [NetState.subscriptions, free.calls, free.packets, List.map_nil, List.filterMap_nil,
      settle_nil]
    funext type
    rw [free.callbacks, free.flags]
    rfl

theorem Agreeing.agree (agreeing : Agreeing client link app state) :
    SubscriptionsAgree client link app state := by
  intro returned handled type
  have same : (state.subscriptions client link app).near =
      (state.subscriptions client link app).far := by
    apply agreeing.copies.same
    · simp only [NetState.subscriptions, returned, List.map_nil]
    · simp only [NetState.subscriptions, handled, List.filterMap_nil]
  rw [← Option.isSome_iff_ne_none]
  exact (congrArg (· = true) (congrFun same type)).symm.to_iff

end Runs

/-- In every run in which the client is alone on its connection and its slot, and in
which no store overtakes one that does the opposite, the two tables agree in every
state in which nothing is under way. -/
theorem subscriptions_agree {start : RoutePool} {memory recvBuf : Memory}
    {before labels : List NetLabel} {state : NetState} {client link : Nat} {app : Fin maxAppId}
    (reached : network.run (netInit start memory recvBuf) before = some state)
    (attached : Attached client link app state) (free : Unsubscribed client link app state)
    (one : network.AllSteps (OneUser client link app) state labels)
    (inOrder : network.AllSteps (StoresInOrder client) state labels) :
    network.EveryState (SubscriptionsAgree client link app) state labels := by
  have kept : forall (old : NetState) label next, old.route.server.Connected ->
      network.step old label = some next -> next.route.server.Connected :=
    fun _ _ _ => connected_netStep
  have opening : (netInit start memory recvBuf).route.server.Connected := Connected.start
  have connected := network.run_invariant kept opening reached
  have exclusive : Exclusive state := network.run_invariant (fun _ _ _ => exclusive_step)
    (exclusive_netInit start memory recvBuf) reached
  apply network.everyState_imp (fun _ agreeing => Agreeing.agree agreeing)
  exact network.everyState_of_allSteps
    (fun _ _ _ agreeing conditions stepped => agreeing.step conditions.1 conditions.2 stepped)
    (Agreeing.start connected exclusive attached free) (network.allSteps_and one inOrder)

/-- A client that has just opened the only connection of the server. -/
def JustConnected (client link : Nat) (app : Fin maxAppId) (state : NetState) : Prop :=
  ((state.clients client).link = some link ∧ (state.clients client).vars.curAppId.toInt = app ∧
    (state.clients client).rx.map RxThread.pc = [.loopTest] ∧ isOpen state.links link = true ∧
    state.route.server.connections.map Connection.id = [link] ∧
    (state.route.server.table app).fd = -1) ∧
  (forall type : Fin msgRouteMaxMsg,
    ((state.clients client).vars.subscribeInfo type).rxFunc = none) ∧
  (forall type, (state.route.server.table app).msgFlag type = false) ∧
  (state.clients client).pending.length = 0 ∧ (upOf state.links link).length = 0

instance (client link : Nat) (app : Fin maxAppId) (state : NetState) :
    Decidable (JustConnected client link app state) :=
  inferInstanceAs (Decidable ((_ ∧ _) ∧ _))

theorem JustConnected.attached {client link : Nat} {app : Fin maxAppId} {state : NetState}
    (just : JustConnected client link app state) : Attached client link app state := by
  rcases just with ⟨⟨isLink, appId, threads, opened, connections, slot⟩, _⟩
  refine ⟨isLink, appId, ?_, opened, fun _ => ?_, Or.inl slot⟩
  · intro rx number member isPc
    have listed := List.mem_map_of_mem (f := RxThread.pc) member
    rw [threads, isPc] at listed
    cases List.mem_singleton.mp listed
  · have listed : link ∈ state.route.server.connections.map Connection.id := by
      rw [connections]
      exact List.mem_singleton_self link
    exact List.mem_map.mp listed

theorem JustConnected.unsubscribed {client link : Nat} {app : Fin maxAppId} {state : NetState}
    (just : JustConnected client link app state) : Unsubscribed client link app state :=
  ⟨just.2.1, just.2.2.1, List.length_eq_zero_iff.mp just.2.2.2.1,
    List.length_eq_zero_iff.mp just.2.2.2.2⟩

/-- A client opens its connection. -/
def clientConnected : List NetLabel := [.init 0 1 3 0 (Memory.ofBytes []), .accept 5 true]

/-- One thread of the client subscribes to a type, and another one unsubscribes from
it.  The call at this index stores its entry first. -/
def twoCalls (first : Nat) : List NetLabel :=
  [.subscribe 0 (Memory.ofBytes []) ⟨3, some 0⟩, .unsubscribe 0 (Memory.ofBytes []) ⟨3, none⟩,
    .store 0 first, .store 0 0, .recv 5 false, .recv 5 false]

theorem subscriptions_agree_inOrder :
    let cell : DoublyLinkedListNode Addr := ⟨none, .jobListHead, .jobListHead⟩
    Exists fun start => Exists fun state =>
      threadPoolInit (poolStatics JobFunc (List UInt8) cell) 1 (.success cell) =
        some (.returned 0 start) ∧
      network.run (netInit start (Memory.ofBytes []) (Memory.ofBytes [])) clientConnected =
        some state ∧
      (network.run state (twoCalls 0)).isSome = true ∧
      network.EveryState (SubscriptionsAgree 0 0 v2xSlot) state (twoCalls 0) := by
  intro cell
  have reached : ((threadPoolInit (poolStatics JobFunc (List UInt8) cell) 1 (.success cell)).bind
      InitResult.started).bind (fun start =>
        (network.run (netInit start (Memory.ofBytes []) (Memory.ofBytes [])) clientConnected).map
          (fun state =>
            (decide (JustConnected 0 0 v2xSlot state),
              decide (network.AllSteps (OneUser 0 0 v2xSlot) state (twoCalls 0)),
              decide (network.AllSteps (StoresInOrder 0) state (twoCalls 0)),
              (network.run state (twoCalls 0)).isSome))) =
      some (true, true, true, true) := by
    decide +kernel
  rcases InitResult.exists_run reached with ⟨start, state, done, ran, observed⟩
  simp only [Prod.mk.injEq, decide_eq_true_eq] at observed
  rcases observed with ⟨just, one, inOrder, further⟩
  exact ⟨start, state, done, ran, further,
    subscriptions_agree ran just.attached just.unsubscribed one inOrder⟩

/-- The server handles the subscription first and the unsubscription afterwards, and
the two threads store their entries the other way round: the callback stays, and the
flag is gone. -/
theorem storesCrossed_disagree :
    let cell : DoublyLinkedListNode Addr := ⟨none, .jobListHead, .jobListHead⟩
    Exists fun start => Exists fun state => Exists fun final =>
      threadPoolInit (poolStatics JobFunc (List UInt8) cell) 1 (.success cell) =
        some (.returned 0 start) ∧
      network.run (netInit start (Memory.ofBytes []) (Memory.ofBytes [])) clientConnected =
        some state ∧
      Attached 0 0 v2xSlot state ∧ Unsubscribed 0 0 v2xSlot state ∧
      network.AllSteps (OneUser 0 0 v2xSlot) state (twoCalls 1) ∧
      network.run state (twoCalls 1) = some final ∧
      (final.clients 0).pending.length = 0 ∧ (upOf final.links 0).length = 0 ∧
      (final.route.server.table v2xSlot).msgFlag 3 = false ∧
      ((final.clients 0).vars.subscribeInfo 3).rxFunc = some 0 ∧
      ¬ SubscriptionsAgree 0 0 v2xSlot final := by
  intro cell
  have reached : ((threadPoolInit (poolStatics JobFunc (List UInt8) cell) 1 (.success cell)).bind
      InitResult.started).bind (fun start =>
        (network.run (netInit start (Memory.ofBytes []) (Memory.ofBytes [])) clientConnected).map
          (fun state =>
            (decide (JustConnected 0 0 v2xSlot state),
              decide (network.AllSteps (OneUser 0 0 v2xSlot) state (twoCalls 1)),
              (network.run state (twoCalls 1)).map (fun final =>
                decide ((final.clients 0).pending.length = 0 ∧ (upOf final.links 0).length = 0 ∧
                  (final.route.server.table v2xSlot).msgFlag 3 = false ∧
                  ((final.clients 0).vars.subscribeInfo 3).rxFunc = some 0))))) =
      some (true, true, some true) := by
    decide +kernel
  rcases InitResult.exists_run reached with ⟨start, state, done, ran, observed⟩
  simp only [Prod.mk.injEq, decide_eq_true_eq] at observed
  rcases observed with ⟨just, one, observed⟩
  rcases Option.map_eq_some_iff.mp observed with ⟨final, further, parts⟩
  rcases of_decide_eq_true parts with ⟨calls, packets, flag, callback⟩
  refine ⟨start, state, final, done, ran, just.attached, just.unsubscribed, one, further, calls,
    packets, flag, callback, ?_⟩
  intro agree
  have same := agree (List.length_eq_zero_iff.mp calls) (List.length_eq_zero_iff.mp packets) 3
  have subscribed : ((final.clients 0).vars.subscribeInfo 3).rxFunc ≠ none := by
    rw [callback]
    exact Option.some_ne_none 0
  rw [same.mpr subscribed] at flag
  cases flag

end MsgRoute
end V2x
