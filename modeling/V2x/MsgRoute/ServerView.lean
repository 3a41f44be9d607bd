import V2x.Foundations.History
import V2x.MsgRoute.TableAccess

namespace V2x
namespace MsgRoute

open Foundations

/-!
# The server seen through the table it means

As long as the payload bytes of control packets are types, the bytes of
`g_clientInfo` are three slots and nothing else.  `TableChange` says what an
event does to these slots.  The results about subscriptions rest on it and do
not look at bytes or at packets any more.
-/

/-- The slots of `V2X_APP_ID` and `GNSS_APP_ID`. -/
def v2xSlot : Fin maxAppId := ⟨1, by decide⟩
def gnssSlot : Fin maxAppId := ⟨2, by decide⟩

/-- The slots of the table. -/
def ServerState.table (state : ServerState) : Fin maxAppId -> MsgRouteClientInfo :=
  state.clientInfo.view

def EventKind.WellTyped : EventKind -> Prop
  | .control _ _ type _ => type < msgRouteMaxMsg
  | .accept _ => True
  | .close _ => True
  | .quiet => True

instance : DecidablePred EventKind.WellTyped
  | .control _ _ type _ => inferInstanceAs (Decidable (type < msgRouteMaxMsg))
  | .accept _ => isTrue trivial
  | .close _ => isTrue trivial
  | .quiet => isTrue trivial

/-- A control packet carries a type below `MSG_ROUTE_MAX_MSG`. -/
def WellTyped (_ : ServerState) (event : ServerEvent) : Prop :=
  event.kind.WellTyped

instance (state : ServerState) (event : ServerEvent) : Decidable (WellTyped state event) :=
  inferInstanceAs (Decidable event.kind.WellTyped)

/-- What an event does to the slots. -/
inductive TableChange (state next : ServerState) : EventKind -> Prop where
  | quiet
      (table : next.table = state.table)
      (connections : next.connections = state.connections)
      (controls : next.controls = state.controls) :
      TableChange state next .quiet
  | accepted (clientFd : Int32) (added : Bool)
      (valid : 0 ≤ clientFd.toInt)
      (fresh : forall conn, conn ∈ state.connections -> conn.fd ≠ clientFd)
      (table : next.table = state.table)
      (connections : next.connections =
        ⟨state.accepted, clientFd, added, state.controls.length⟩ :: state.connections)
      (controls : next.controls = state.controls) :
      TableChange state next (.accept clientFd)
  | control (conn : Connection) (app : Fin maxAppId) (type : Fin msgRouteMaxMsg) (isAdd : Bool)
      (member : conn ∈ state.connections)
      (table : next.table = Function.update state.table app
        ((state.table app).control conn.fd type isAdd))
      (connections : next.connections = state.connections)
      (controls : next.controls = state.controls ++
        [⟨conn.id, conn.fd, app, type, isAdd, (state.table app).fd⟩]) :
      TableChange state next (.control conn.fd app type isAdd)
  | disconnected (conn : Connection)
      (member : conn ∈ state.connections)
      (table : ((forall app, (state.table app).fd ≠ conn.fd) ∧ next.table = state.table) ∨
        Exists fun app => IsFirstSlot state.table conn.fd app ∧
          next.table = Function.update state.table app MsgRouteClientInfo.released)
      (connections : next.connections =
        state.connections.filter (fun other => other.fd != conn.fd))
      (controls : next.controls = state.controls) :
      TableChange state next (.close conn.fd)

theorem tableChange_of_serverChange {state next : ServerState} {kind : EventKind}
    (connected : state.Connected)
    (typed : forall fd slot type isAdd, kind = .control fd slot type isAdd -> type < msgRouteMaxMsg)
    (change : ServerChange state next kind) : TableChange state next kind := by
  cases change with
  | quiet clientInfo connections accepted controls =>
      exact .quiet (congrArg ClientInfoTable.view clientInfo) connections controls
  | accepted clientFd added valid fresh clientInfo connections accepted controls =>
      exact .accepted clientFd added valid fresh (congrArg ClientInfoTable.view clientInfo)
        connections controls
  | control conn bytes isAdd member kind clientInfo connections accepted controls =>
      have valid := isMsgRouteValidMsg_of_kind conn.fd
        (by rw [kind]; exact ⟨nofun, nofun⟩)
      have inside := slotIndex_lt_of_valid valid
      rw [packetSlot_eq] at inside
      have small := typed conn.fd (packetSlot bytes) (packetType bytes) isAdd rfl
      refine .control conn ⟨packetSlot bytes, inside⟩ ⟨packetType bytes, small⟩ isAdd member ?_
        connections controls
      have updated := view_msgRouteCoreUpdateClientSubscribeInfo state.clientInfo
        (packetMsg bytes conn.fd) isAdd ⟨packetSlot bytes, inside⟩ ⟨packetType bytes, small⟩
        (packetSlot_eq bytes conn.fd) (packetType_eq bytes conn.fd)
      have sender : (packetMsg bytes conn.fd).src = conn.fd := MsgRouteDataInfo.src_setSrc _ _
      rw [ServerState.table, clientInfo, updated, sender]
      rfl
  | disconnected conn member clientInfo connections accepted controls =>
      refine .disconnected conn member ?_ connections controls
      have erased : next.table = (msgRouteCoreEraseClientInfo state.clientInfo conn.fd).view :=
        congrArg ClientInfoTable.view clientInfo
      rw [erased]
      rcases firstSlot_cases state.table conn.fd with absent | ⟨app, first⟩
      · left
        refine ⟨absent, ?_⟩
        rw [view_msgRouteCoreEraseClientInfo_absent state.clientInfo conn.fd absent]
        rfl
      · right
        refine ⟨app, first, ?_⟩
        exact view_msgRouteCoreEraseClientInfo_found state.clientInfo conn.fd app
          (ne_neg_one_of_valid (connected.fdsValid conn member)) first

/-- A well-typed step of the server on the slots. -/
theorem serverStep_tableChange {state next : ServerState} {event : ServerEvent}
    (connected : state.Connected) (typed : WellTyped state event)
    (stepped : server.step state event = some next) : TableChange state next event.kind := by
  apply tableChange_of_serverChange connected _ (serverStep_change stepped)
  intro fd slot type isAdd isControl
  unfold WellTyped at typed
  rw [isControl] at typed
  exact typed

theorem connected_server {state next : ServerState} {event : ServerEvent}
    (connected : state.Connected) (stepped : server.step state event = some next) :
    next.Connected :=
  connected_step connected (serverStep_change stepped)

theorem table_serverInit (memory recvBuf : Memory) :
    (serverInit memory recvBuf).table = fun _ => MsgRouteClientInfo.released :=
  view_msgRouteClientInfoInit memory

/-! ## Free slots have no flags -/

def FreeSlotsClear (state : ServerState) : Prop :=
  forall app, (state.table app).fd = -1 -> forall type, (state.table app).msgFlag type = false

theorem freeSlotsClear_serverInit (memory recvBuf : Memory) :
    FreeSlotsClear (serverInit memory recvBuf) := by
  intro app _ type
  rw [table_serverInit]
  rfl

/-- A control message leaves an owned slot behind. -/
theorem control_fd_ne {info : MsgRouteClientInfo} {src : Int32} (valid : src ≠ -1)
    (type : Fin msgRouteMaxMsg) (isAdd : Bool) : (info.control src type isAdd).fd ≠ -1 := by
  unfold MsgRouteClientInfo.control
  by_cases free : info.fd = -1
  · rw [if_pos free]
    exact valid
  · rw [if_neg free]
    exact free

theorem freeSlotsClear_change {state next : ServerState} {kind : EventKind}
    (connected : state.Connected) (clear : FreeSlotsClear state)
    (change : TableChange state next kind) : FreeSlotsClear next := by
  intro app free type
  cases change with
  | quiet table connections controls =>
      rw [table] at free ⊢
      exact clear app free type
  | accepted clientFd added valid fresh table connections controls =>
      rw [table] at free ⊢
      exact clear app free type
  | control conn target written isAdd member table connections controls =>
      rw [table] at free ⊢
      by_cases same : app = target
      · subst same
        rw [Function.update_self] at free
        exact absurd free (control_fd_ne (ne_neg_one_of_valid (connected.fdsValid conn member)) _ _)
      · rw [Function.update_of_ne same] at free ⊢
        exact clear app free type
  | disconnected conn member table connections controls =>
      rcases table with ⟨_, table⟩ | ⟨target, first, table⟩
      · rw [table] at free ⊢
        exact clear app free type
      · rw [table] at free ⊢
        by_cases same : app = target
        · subst same
          rw [Function.update_self]
          rfl
        · rw [Function.update_of_ne same] at free ⊢
          exact clear app free type

end MsgRoute
end V2x
