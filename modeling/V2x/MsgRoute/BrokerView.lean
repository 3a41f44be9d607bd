import V2x.Foundations.Broker
import V2x.Foundations.Simulation
import V2x.MsgRoute.RoutingJob
import V2x.MsgRoute.ServerView

namespace V2x
namespace MsgRoute

open Foundations

/-!
# The table as a broker of subscriptions

The program is a broker between connections.  Its table has one slot for each
application and knows connections by their descriptors, which are used again.
As long as every connection speaks for one application, and for one that no
other open connection speaks for, nothing of this can be seen: the server does
what a broker does whose parties are the connections themselves.
-/

abbrev Subscribers := Broker Nat (Fin maxAppId) (Fin msgRouteMaxMsg)
abbrev SubscriberEvent := BrokerEvent Nat (Fin maxAppId) (Fin msgRouteMaxMsg)

/-- The open connection with this descriptor. -/
def ServerState.connectionOf (state : ServerState) (fd : Int32) : Option Connection :=
  state.connections.find? (fun conn => conn.fd == fd)

/-- What an event is to the broker.  A connection is known by its number. -/
def ServerState.subscriberEvents (state : ServerState) : EventKind -> List SubscriberEvent
  | .control fd slot type isAdd =>
      if inRange : slot < maxAppId ∧ type < msgRouteMaxMsg then
        (state.connectionOf fd).toList.map (fun conn =>
          .request conn.id ⟨slot, inRange.1⟩ ⟨type, inRange.2⟩ isAdd)
      else []
  | .close fd => (state.connectionOf fd).toList.map (fun conn => .leave conn.id)
  | .accept _ | .quiet => []

/-- The earlier control packets of the open connections were for this application exactly if they
came from the same connection. -/
def ServerState.Dedicated (state : ServerState) : EventKind -> Prop
  | .control fd slot type _ => type < msgRouteMaxMsg ∧
      forall conn, conn ∈ state.connections -> forall record, record ∈ state.controls ->
        record.conn = conn.id -> (record.slot = slot <-> conn.fd = fd)
  | .accept _ | .close _ | .quiet => True

instance (state : ServerState) : DecidablePred state.Dedicated
  | .control _ _ _ _ => inferInstanceAs (Decidable (_ ∧ _))
  | .accept _ | .close _ | .quiet => inferInstanceAs (Decidable True)

/-- The slots are the names and the topics of the open connections. -/
structure Implements (state : ServerState) (broker : Subscribers) : Prop where
  connected : state.Connected
  clear : FreeSlotsClear state
  held : forall conn, conn ∈ state.connections -> forall app,
    ((state.table app).fd = conn.fd <-> broker.name conn.id = some app)
  alive : forall app, (state.table app).fd ≠ -1 ->
    Exists fun conn => conn ∈ state.connections ∧ (state.table app).fd = conn.fd
  flags : forall conn, conn ∈ state.connections -> forall app, (state.table app).fd = conn.fd ->
    forall type, ((state.table app).msgFlag type = true <-> type ∈ broker.topics conn.id)
  members : forall id app, broker.name id = some app ->
    Exists fun conn => conn ∈ state.connections ∧ conn.id = id
  spoke : forall conn, conn ∈ state.connections -> forall app,
    (broker.name conn.id = some app <->
      Exists fun record => record ∈ state.controls ∧ record.conn = conn.id ∧ record.slot = app)

section Steps

variable {state next : ServerState} {broker : Subscribers}

theorem connectionOf_eq (connected : state.Connected) {conn : Connection}
    (member : conn ∈ state.connections) : state.connectionOf conn.fd = some conn := by
  cases found : state.connectionOf conn.fd with
  | none =>
      have different := List.find?_eq_none.mp found conn member
      rw [beq_self_eq_true] at different
      exact absurd rfl different
  | some other =>
      have same := List.find?_some found
      rw [connected.fdsDistinct other (List.mem_of_find?_eq_some found) conn member (beq_iff_eq.mp same)]

namespace Implements

/-- A connection that has not spoken has no name. -/
theorem name_accepted (implements : Implements state broker) : broker.name state.accepted = none := by
  cases isName : broker.name state.accepted with
  | none => rfl
  | some app =>
      rcases implements.members _ app isName with ⟨conn, member, same⟩
      exact absurd same (Nat.ne_of_lt (implements.connected.idsBelow conn member))

theorem quiet (implements : Implements state broker) (connected : next.Connected)
    (table : next.table = state.table) (connections : next.connections = state.connections)
    (controls : next.controls = state.controls) : Implements next broker where
  connected := connected
  clear := by
    intro app free type
    rw [table] at free ⊢
    exact implements.clear app free type
  held := by
    rw [table, connections]
    exact implements.held
  alive := by
    rw [table, connections]
    exact implements.alive
  flags := by
    rw [table, connections]
    exact implements.flags
  members := by
    rw [connections]
    exact implements.members
  spoke := by
    rw [connections, controls]
    exact implements.spoke

theorem accept (implements : Implements state broker) (connected : next.Connected) {fd : Int32}
    {watched : Bool} (valid : 0 ≤ fd.toInt)
    (fresh : forall conn, conn ∈ state.connections -> conn.fd ≠ fd) (table : next.table = state.table)
    (connections : next.connections =
      ⟨state.accepted, fd, watched, state.controls.length⟩ :: state.connections)
    (controls : next.controls = state.controls) : Implements next broker := by
  have unnamed := implements.name_accepted
  have notHeld : forall app, (state.table app).fd ≠ fd := by
    intro app same
    rcases implements.alive app (same ▸ ne_neg_one_of_valid valid) with ⟨conn, member, isFd⟩
    exact fresh conn member (isFd.symm.trans same)
  constructor
  · exact connected
  · intro app free type
    rw [table] at free ⊢
    exact implements.clear app free type
  · intro conn member app
    rw [connections] at member
    rw [table]
    rcases List.mem_cons.mp member with rfl | old
    · rw [unnamed]
      exact iff_of_false (notHeld app) nofun
    · exact implements.held conn old app
  · intro app taken
    rw [table] at taken ⊢
    rcases implements.alive app taken with ⟨conn, member, isFd⟩
    exact ⟨conn, connections ▸ List.mem_cons_of_mem _ member, isFd⟩
  · intro conn member app
    rw [connections] at member
    rw [table]
    rcases List.mem_cons.mp member with rfl | old
    · exact fun same => absurd same (notHeld app)
    · exact implements.flags conn old app
  · intro id app isName
    rcases implements.members id app isName with ⟨conn, member, same⟩
    exact ⟨conn, connections ▸ List.mem_cons_of_mem _ member, same⟩
  · intro conn member app
    rw [connections] at member
    rw [controls]
    rcases List.mem_cons.mp member with rfl | old
    · rw [unnamed]
      refine iff_of_false nofun ?_
      rintro ⟨record, recorded, same, _⟩
      exact absurd same (Nat.ne_of_lt (implements.connected.recordsBelow record recorded))
    · exact implements.spoke conn old app

section Control

variable {conn : Connection} {app : Fin maxAppId} {type : Fin msgRouteMaxMsg} {isAdd : Bool}

/-- The broker takes the request of a connection that speaks for one application. -/
theorem admits (implements : Implements state broker) (member : conn ∈ state.connections)
    (dedicated : forall other, other ∈ state.connections -> forall record, record ∈ state.controls ->
      record.conn = other.id -> (record.slot = app.val <-> other.fd = conn.fd)) :
    broker.Admits conn.id app where
  own := by
    intro known isName
    rcases (implements.spoke conn member known).mp isName with ⟨record, recorded, same, isSlot⟩
    exact Fin.ext (isSlot.symm.trans ((dedicated conn member record recorded same).mpr rfl))
  free := by
    intro id isName
    rcases implements.members id app isName with ⟨other, otherMember, rfl⟩
    rcases (implements.spoke other otherMember app).mp isName with ⟨record, recorded, same, isSlot⟩
    have sameFd := (dedicated other otherMember record recorded same).mp isSlot
    rw [implements.connected.fdsDistinct other otherMember conn member sameFd]

/-- The slot is free, or it is the sender's. -/
theorem free_or_own (implements : Implements state broker) (member : conn ∈ state.connections)
    (admits : broker.Admits conn.id app) :
    (state.table app).fd = -1 ∨ (state.table app).fd = conn.fd := by
  by_cases free : (state.table app).fd = -1
  · exact Or.inl free
  · rcases implements.alive app free with ⟨other, otherMember, isFd⟩
    have same := admits.free other.id ((implements.held other otherMember app).mp isFd)
    rw [isFd, implements.connected.idsDistinct other otherMember conn member same]
    exact Or.inr rfl

/-- Before the request the flags of the slot are the topics of the sender. -/
theorem flags_of_admits (implements : Implements state broker) (member : conn ∈ state.connections)
    (admits : broker.Admits conn.id app) (asked : Fin msgRouteMaxMsg) :
    (state.table app).msgFlag asked = true <-> asked ∈ broker.topics conn.id := by
  rcases implements.free_or_own member admits with free | own
  · have unnamed : broker.name conn.id = none := by
      cases isName : broker.name conn.id with
      | none => rfl
      | some known =>
          have held := (implements.held conn member known).mpr isName
          rw [admits.own known isName, free] at held
          exact absurd held.symm (ne_neg_one_of_valid (implements.connected.fdsValid conn member))
    rw [implements.clear app free asked, broker.silent conn.id unnamed]
    exact iff_of_false Bool.false_ne_true (Set.notMem_empty asked)
  · exact implements.flags conn member app own asked

/-- The slot after the request. -/
theorem control_slot (implements : Implements state broker) (member : conn ∈ state.connections)
    (admits : broker.Admits conn.id app) (type : Fin msgRouteMaxMsg) (isAdd : Bool) :
    ((state.table app).control conn.fd type isAdd).fd = conn.fd ∧
    forall asked, (((state.table app).control conn.fd type isAdd).msgFlag asked = true <->
      asked ∈ Broker.requested (broker.topics conn.id) type isAdd) := by
  constructor
  · unfold MsgRouteClientInfo.control
    rcases implements.free_or_own member admits with free | own
    · exact if_pos free
    · rw [own]
      exact ite_self _
  · intro asked
    have before := implements.flags_of_admits member admits asked
    change Function.update (state.table app).msgFlag type isAdd asked = true <-> _
    rw [Function.update_apply]
    by_cases same : asked = type
    · rw [if_pos same]
      exact ⟨fun set => ⟨fun _ => set, fun different => absurd same different⟩, fun isIn => isIn.1 same⟩
    · rw [if_neg same, before]
      exact ⟨fun isIn => ⟨fun equal => absurd equal same, fun _ => isIn⟩, fun isIn => isIn.2 same⟩

theorem control (implements : Implements state broker) (connected : next.Connected)
    (member : conn ∈ state.connections) (admits : broker.Admits conn.id app)
    (clear : FreeSlotsClear next)
    (table : next.table = Function.update state.table app
      ((state.table app).control conn.fd type isAdd))
    (connections : next.connections = state.connections)
    (controls : next.controls = state.controls ++
      [⟨conn.id, conn.fd, app, type, isAdd, (state.table app).fd⟩]) :
    Implements next (broker.request conn.id app type isAdd admits) := by
  rcases implements.control_slot member admits type isAdd with ⟨isFd, isFlag⟩
  have sameConn : forall other, other ∈ state.connections -> other.id = conn.id -> other = conn :=
    fun other otherMember same => implements.connected.idsDistinct other otherMember conn member same
  constructor
  · exact connected
  · exact clear
  · intro other otherMember slot
    rw [connections] at otherMember
    rw [table, Function.update_apply, Broker.name_request]
    by_cases sameSlot : slot = app
    · subst sameSlot
      rw [if_pos rfl, isFd]
      by_cases same : other.id = conn.id
      · rw [if_pos same, sameConn other otherMember same]
        exact iff_of_true rfl rfl
      · rw [if_neg same]
        refine iff_of_false (fun sameFd => same ?_) (fun isName => same (admits.free other.id isName))
        rw [implements.connected.fdsDistinct conn member other otherMember sameFd]
    · rw [if_neg sameSlot]
      by_cases same : other.id = conn.id
      · rw [if_pos same, implements.held other otherMember slot, same]
        refine iff_of_false (fun isName => sameSlot (admits.own slot isName)) ?_
        exact fun isName => sameSlot (Option.some.inj isName).symm
      · rw [if_neg same]
        exact implements.held other otherMember slot
  · intro slot taken
    rw [connections]
    rw [table, Function.update_apply] at taken ⊢
    split at taken
    next sameSlot =>
      rw [if_pos sameSlot]
      exact ⟨conn, member, isFd⟩
    next different =>
      rw [if_neg different]
      exact implements.alive slot taken
  · intro other otherMember slot sameFd asked
    rw [connections] at otherMember
    rw [table, Function.update_apply] at sameFd ⊢
    rw [Broker.topics_request]
    by_cases sameSlot : slot = app
    · subst sameSlot
      rw [if_pos rfl] at sameFd ⊢
      have same := implements.connected.fdsDistinct other otherMember conn member
        (sameFd.symm.trans isFd)
      rw [same, if_pos rfl]
      exact isFlag asked
    · rw [if_neg sameSlot] at sameFd ⊢
      have different : other.id ≠ conn.id := by
        intro same
        have isName := (implements.held other otherMember slot).mp sameFd
        rw [same] at isName
        exact sameSlot (admits.own slot isName)
      rw [if_neg different]
      exact implements.flags other otherMember slot sameFd asked
  · intro id slot isName
    rw [connections]
    rw [Broker.name_request] at isName
    split at isName
    next same => exact ⟨conn, member, same.symm⟩
    next => exact implements.members id slot isName
  · intro other otherMember slot
    rw [connections] at otherMember
    rw [controls, Broker.name_request]
    by_cases same : other.id = conn.id
    · rw [if_pos same]
      constructor
      · intro isName
        refine ⟨_, List.mem_append_right _ (List.mem_singleton_self _), same.symm, ?_⟩
        rw [Option.some.inj isName]
      · rintro ⟨record, recorded, ofOther, isSlot⟩
        rcases List.mem_append.mp recorded with old | new
        · have isName := (implements.spoke other otherMember slot).mpr ⟨record, old, ofOther, isSlot⟩
          rw [same] at isName
          rw [admits.own slot isName]
        · rw [List.mem_singleton.mp new] at isSlot
          exact congrArg some (Fin.ext isSlot)
    · rw [if_neg same, implements.spoke other otherMember slot]
      constructor
      · rintro ⟨record, recorded, rest⟩
        exact ⟨record, List.mem_append_left _ recorded, rest⟩
      · rintro ⟨record, recorded, ofOther, isSlot⟩
        rcases List.mem_append.mp recorded with old | new
        · exact ⟨record, old, ofOther, isSlot⟩
        · rw [List.mem_singleton.mp new] at ofOther
          exact absurd ofOther.symm same

end Control

section Disconnected

variable {conn : Connection}

/-- A disconnection frees the slots of its connection. -/
theorem released_slots (implements : Implements state broker) (member : conn ∈ state.connections)
    (table : ((forall app, (state.table app).fd ≠ conn.fd) ∧ next.table = state.table) ∨
      Exists fun app => IsFirstSlot state.table conn.fd app ∧
        next.table = Function.update state.table app MsgRouteClientInfo.released)
    (app : Fin maxAppId) : next.table app =
      if (state.table app).fd = conn.fd then MsgRouteClientInfo.released else state.table app := by
  rcases table with ⟨absent, same⟩ | ⟨held, first, updated⟩
  · rw [same, if_neg (absent app)]
  · rw [updated, Function.update_apply]
    have isHeld := (implements.held conn member held).mp first.1
    have isHeld_iff : app = held <-> (state.table app).fd = conn.fd := by
      rw [implements.held conn member app, isHeld, Option.some.injEq]
      exact eq_comm
    simp only [isHeld_iff]

theorem close (implements : Implements state broker) (connected : next.Connected)
    (clear : FreeSlotsClear next) (member : conn ∈ state.connections)
    (table : forall app, next.table app =
      if (state.table app).fd = conn.fd then MsgRouteClientInfo.released else state.table app)
    (connections : next.connections = state.connections.filter (fun other => other.fd != conn.fd))
    (controls : next.controls = state.controls) : Implements next (broker.leave conn.id) := by
  have stays : forall other, other ∈ next.connections <->
      other ∈ state.connections ∧ other.fd ≠ conn.fd := by
    intro other
    rw [connections, List.mem_filter, bne_iff_ne]
  have apart : forall other, other ∈ state.connections -> other.fd ≠ conn.fd -> other.id ≠ conn.id := by
    intro other otherMember different same
    rw [implements.connected.idsDistinct other otherMember conn member same] at different
    exact different rfl
  have notFree : forall other, other ∈ state.connections -> (-1 : Int32) ≠ other.fd :=
    fun other otherMember =>
      (ne_neg_one_of_valid (implements.connected.fdsValid other otherMember)).symm
  constructor
  · exact connected
  · exact clear
  · intro other isOther app
    rcases (stays other).mp isOther with ⟨otherMember, different⟩
    rw [table app, Broker.name_leave, if_neg (apart other otherMember different),
      ← implements.held other otherMember app]
    split
    next held =>
      refine iff_of_false (notFree other otherMember) ?_
      exact fun same => different (same.symm.trans held)
    next => exact Iff.rfl
  · intro app taken
    rw [table app] at taken ⊢
    split at taken
    · exact absurd rfl taken
    next notHeld =>
      rcases implements.alive app taken with ⟨other, otherMember, isFd⟩
      rw [if_neg notHeld]
      exact ⟨other, (stays other).mpr ⟨otherMember, fun same => notHeld (isFd.trans same)⟩, isFd⟩
  · intro other isOther app sameFd asked
    rcases (stays other).mp isOther with ⟨otherMember, different⟩
    rw [table app] at sameFd ⊢
    rw [Broker.topics_leave, if_neg (apart other otherMember different)]
    split at sameFd
    · exact absurd sameFd (notFree other otherMember)
    next notHeld =>
      rw [if_neg notHeld]
      exact implements.flags other otherMember app sameFd asked
  · intro id app isName
    rw [Broker.name_leave] at isName
    split at isName
    · cases isName
    next different =>
      rcases implements.members id app isName with ⟨other, otherMember, same⟩
      refine ⟨other, (stays other).mpr ⟨otherMember, fun sameFd => different ?_⟩, same⟩
      rw [← same, implements.connected.fdsDistinct other otherMember conn member sameFd]
  · intro other isOther app
    rcases (stays other).mp isOther with ⟨otherMember, different⟩
    rw [controls, Broker.name_leave, if_neg (apart other otherMember different)]
    exact implements.spoke other otherMember app

end Disconnected

/-- The broker does what each step of the server means. -/
theorem step (implements : Implements state broker) {kind : EventKind} (dedicated : state.Dedicated kind)
    (connected : next.Connected) (change : TableChange state next kind) :
    Exists fun after => (brokering _ _ _).run broker (state.subscriberEvents kind) = some after ∧
      Implements next after := by
  have clear := freeSlotsClear_change implements.connected implements.clear change
  cases change with
  | quiet table connections controls =>
      exact ⟨broker, rfl, implements.quiet connected table connections controls⟩
  | accepted fd added valid fresh table connections controls =>
      exact ⟨broker, rfl, implements.accept connected valid fresh table connections controls⟩
  | control conn app type isAdd member table connections controls =>
      have admits := implements.admits member dedicated.2
      refine ⟨broker.request conn.id app type isAdd admits, ?_,
        implements.control connected member admits clear table connections controls⟩
      simp only [ServerState.subscriberEvents, app.isLt, type.isLt, and_self, dif_pos,
        connectionOf_eq implements.connected member, Option.toList_some, List.map_cons, List.map_nil]
      exact (Machine.run_cons_iff _ broker _ _ []).mpr ⟨_, dif_pos admits, rfl⟩
  | disconnected conn member table connections controls =>
      refine ⟨broker.leave conn.id, ?_, implements.close connected clear member
        (implements.released_slots member table) connections controls⟩
      simp only [ServerState.subscriberEvents, connectionOf_eq implements.connected member,
        Option.toList_some, List.map_cons, List.map_nil]
      rfl

end Implements

theorem implements_serverInit (memory recvBuf : Memory) :
    Implements (serverInit memory recvBuf) Broker.empty where
  connected := connected_serverInit memory recvBuf
  clear := freeSlotsClear_serverInit memory recvBuf
  held := fun _ member => absurd member List.not_mem_nil
  alive := by
    intro app taken
    rw [table_serverInit] at taken
    exact absurd rfl taken
  flags := fun _ member => absurd member List.not_mem_nil
  members := fun _ _ isName => nomatch isName
  spoke := fun _ member => absurd member List.not_mem_nil

end Steps

/-! ## Routing -/

/-- Whom a message is for. -/
def addressee (msgData : MsgRouteDataInfo) (valid : isMsgRouteValidMsg msgData = true) :
    Option (Fin maxAppId) :=
  if msgData.appId = MsgRouteClientId.allAppId.code then none
  else some ⟨msgData.slotIndex, slotIndex_lt_of_valid valid⟩

/-- The type of a message as a topic. -/
def topicOf (msgData : MsgRouteDataInfo) (valid : isMsgRouteValidMsg msgData = true) :
    Fin msgRouteMaxMsg :=
  ⟨msgData.typeIndex, typeIndex_lt_of_valid valid⟩

section Routing

variable {state : ServerState} {broker : Subscribers} {msgData : MsgRouteDataInfo}

theorem mem_targets_iff (valid : isMsgRouteValidMsg msgData = true) (app : Fin maxAppId) :
    app.val ∈ targets msgData <-> forall asked, addressee msgData valid = some asked -> asked = app := by
  unfold targets addressee
  split
  · exact iff_of_true (List.mem_range.mpr app.isLt) nofun
  · rw [List.mem_singleton]
    constructor
    · rintro same _ ⟨⟩
      exact Fin.ext same.symm
    · intro all
      rw [← all _ rfl]

theorem routeOf_eq_some_iff {slot : Nat} {fd : Int32} : routeOf state.clientInfo msgData slot = some fd <->
    state.clientInfo.fd slot = fd ∧ fd ≠ -1 ∧ state.clientInfo.msgFlag slot msgData.typeIndex = true := by
  unfold routeOf
  constructor
  · intro routed
    split at routed
    next holds =>
      rw [← Option.some.inj routed]
      exact ⟨rfl, holds⟩
    next => cases routed
  · rintro ⟨rfl, holds⟩
    exact if_pos holds

/-- The slots of a valid message yield the connections that the broker would serve. -/
theorem Implements.mem_routingRule_iff (implements : Implements state broker)
    (valid : isMsgRouteValidMsg msgData = true) (fd : Int32) :
    fd ∈ routingRule state.clientInfo msgData <-> Exists fun conn => conn ∈ state.connections ∧
      conn.fd = fd ∧ broker.Receives (addressee msgData valid) (topicOf msgData valid) conn.id := by
  rw [routingRule, List.mem_filterMap]
  constructor
  · rintro ⟨slot, target, routed⟩
    rcases routeOf_eq_some_iff.mp routed with ⟨held, taken, flag⟩
    let app : Fin maxAppId := ⟨slot, targets_lt valid target⟩
    have atApp : (state.table app).fd = fd := held
    rcases implements.alive app (fun free => taken (atApp.symm.trans free)) with ⟨conn, member, isFd⟩
    refine ⟨conn, member, isFd.symm.trans atApp, ?_, fun asked isAsked => ?_⟩
    · exact (implements.flags conn member app isFd (topicOf msgData valid)).mp flag
    · rw [(mem_targets_iff valid app).mp target asked isAsked]
      exact (implements.held conn member app).mp isFd
  · rintro ⟨conn, member, rfl, receives⟩
    rcases Broker.exists_name_of_receives receives with ⟨app, isName⟩
    have isFd := (implements.held conn member app).mpr isName
    refine ⟨app, (mem_targets_iff valid app).mpr fun asked isAsked => ?_, routeOf_eq_some_iff.mpr ?_⟩
    · exact Option.some.inj ((receives.2 asked isAsked).symm.trans isName)
    · refine ⟨isFd, ne_neg_one_of_valid (implements.connected.fdsValid conn member), ?_⟩
      exact (implements.flags conn member app isFd (topicOf msgData valid)).mpr receives.1

/-- No descriptor comes twice. -/
theorem Implements.routingRule_nodup (implements : Implements state broker)
    (valid : isMsgRouteValidMsg msgData = true) : (routingRule state.clientInfo msgData).Nodup := by
  rw [routingRule, List.Nodup, List.pairwise_filterMap]
  refine (targets_nodup msgData).imp_of_mem ?_
  rintro first second isFirst isSecond different fd fdFirst other fdSecond same
  rcases routeOf_eq_some_iff.mp fdFirst with ⟨heldFirst, taken, _⟩
  rcases routeOf_eq_some_iff.mp fdSecond with ⟨heldSecond, _⟩
  let firstApp : Fin maxAppId := ⟨first, targets_lt valid isFirst⟩
  let secondApp : Fin maxAppId := ⟨second, targets_lt valid isSecond⟩
  have atFirst : (state.table firstApp).fd = fd := heldFirst
  have atSecond : (state.table secondApp).fd = other := heldSecond
  rcases implements.alive firstApp (fun free => taken (atFirst.symm.trans free)) with ⟨conn, member, isFd⟩
  have nameFirst := (implements.held conn member firstApp).mp isFd
  have nameSecond := (implements.held conn member secondApp).mp
    (atSecond.trans (same.symm.trans (atFirst.symm.trans isFd)))
  exact different (congrArg Fin.val (Option.some.inj (nameFirst.symm.trans nameSecond)))

end Routing

/-! ## Runs -/

/-- What the connections ask the broker for during a run. -/
def requestsOf (memory recvBuf : Memory) (events : List ServerEvent) : List SubscriberEvent :=
  server.trace (fun state event => state.subscriberEvents event.kind) (serverInit memory recvBuf) events

/-- As long as each connection speaks for one application, and no two open connections for the same
one, the server routes as the broker does. -/
theorem server_implements_broker (memory recvBuf : Memory) {events : List ServerEvent} {final : ServerState}
    (dedicated : server.AllSteps (fun state event => state.Dedicated event.kind)
      (serverInit memory recvBuf) events)
    (ran : server.run (serverInit memory recvBuf) events = some final) :
    Exists fun broker =>
      (brokering _ _ _).run Broker.empty (requestsOf memory recvBuf events) = some broker ∧
      forall msgData (valid : isMsgRouteValidMsg msgData = true),
        (routingRule final.clientInfo msgData).Nodup ∧
        forall fd, (fd ∈ routingRule final.clientInfo msgData <-> Exists fun conn =>
          conn ∈ final.connections ∧ conn.fd = fd ∧
            broker.Receives (addressee msgData valid) (topicOf msgData valid) conn.id) := by
  have follows : forall {state next : ServerState} {event : ServerEvent} {broker : Subscribers},
      Implements state broker -> state.Dedicated event.kind -> server.step state event = some next ->
      Exists fun after =>
        (brokering _ _ _).run broker (state.subscriberEvents event.kind) = some after ∧
        Implements next after := by
    intro state next event broker implements condition stepped
    have typed : WellTyped state event := by
      unfold WellTyped
      cases isKind : event.kind with
      | control fd slot type isAdd => exact (isKind ▸ condition).1
      | accept | close | quiet => exact trivial
    exact implements.step condition (connected_server implements.connected stepped)
      (serverStep_tableChange implements.connected typed stepped)
  rcases Machine.run_trace_of_allSteps follows (implements_serverInit memory recvBuf) dedicated ran with
    ⟨broker, ranBroker, implements⟩
  exact ⟨broker, ranBroker, fun msgData valid =>
    ⟨implements.routingRule_nodup valid, implements.mem_routingRule_iff valid⟩⟩

/-- Application 1 asks for the type 3 on descriptor 5 and leaves.  Its next connection gets the
number 5 again and asks for the type 4.  Application 2 asks for the type 3. -/
def renumberedSubscriber : List ServerEvent :=
  [.accept 5 true, .accept 6 true, .recv 5 (.packet (controlPacket 1 1 3)),
    .recv 6 (.packet (controlPacket 1 2 3)), .recv 5 (.packet []), .accept 5 true,
    .recv 5 (.packet (controlPacket 1 1 4))]

/-- The third connection has the descriptor of the first and receives nothing for it. -/
theorem server_implements_broker_renumberedSubscriber :
    let memory := Memory.ofBytes []
    let notice : MsgRouteDataInfo := Memory.ofBytes [0, 0, 0, 0, 3]
    Exists fun final => Exists fun broker =>
      server.run (serverInit memory memory) renumberedSubscriber = some final ∧
      (brokering Nat (Fin maxAppId) (Fin msgRouteMaxMsg)).run Broker.empty
        (requestsOf memory memory renumberedSubscriber) = some broker ∧
      routingRule final.clientInfo notice = [6] ∧ Exists fun valid =>
      broker.Receives (addressee notice valid) (topicOf notice valid) 1 ∧
      ¬ broker.Receives (addressee notice valid) (topicOf notice valid) 2 := by
  intro memory notice
  have valid : isMsgRouteValidMsg notice = true := by decide
  have reached : (server.run (serverInit memory memory) renumberedSubscriber).map (fun final =>
      (routingRule final.clientInfo notice, final.connections.map (fun conn => (conn.id, conn.fd)))) =
      some ([6], [(2, 5), (1, 6)]) := by
    decide +kernel
  rcases Option.map_eq_some_iff.mp reached with ⟨final, ran, observed⟩
  rcases Prod.mk.inj observed with ⟨rule, isConns⟩
  rcases server_implements_broker memory memory (by decide +kernel) ran with ⟨broker, ranBroker, routes⟩
  rcases routes notice valid with ⟨_, serves⟩
  refine ⟨final, broker, ran, ranBroker, rule, valid, ?_, fun receives => ?_⟩
  · have isRouted : (6 : Int32) ∈ routingRule final.clientInfo notice := rule ▸ List.mem_singleton_self _
    rcases (serves 6).mp isRouted with ⟨conn, member, isFd, receives⟩
    have known : (conn.id, conn.fd) ∈ [(2, 5), (1, 6)] := by
      rw [← isConns]
      exact List.mem_map_of_mem member
    simp only [isFd, List.mem_cons, Prod.mk.injEq, List.not_mem_nil, or_false, and_true] at known
    rcases known with ⟨_, different⟩ | isId
    · exact absurd different (by decide)
    · exact isId ▸ receives
  · have third : ((2, 5) : Nat × Int32) ∈ final.connections.map (fun conn => (conn.id, conn.fd)) := by
      rw [isConns]
      exact List.mem_cons_self
    rcases List.mem_map.mp third with ⟨conn, member, isConn⟩
    rcases Prod.mk.inj isConn with ⟨isId, isFd⟩
    have isRouted := (serves 5).mpr ⟨conn, member, isFd, isId ▸ receives⟩
    rw [rule] at isRouted
    exact absurd isRouted (by decide)

end MsgRoute
end V2x
