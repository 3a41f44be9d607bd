import V2x.MsgRoute.Ownership

namespace V2x
namespace MsgRoute

open Foundations

/-!
# A client that connects again

A client that is restarted gets a second connection while the first one is
still dying.  Whether its subscription survives depends on what the slot held
when its packet was handled.  The invariant `Explained` traces every flag back
to the last control packet for its application and type, and says when that
packet's effect can be lost: only if the connection that it served was closed.
-/

/-- The last control packet for the application and the type, from any
connection. -/
def LastControl (controls : List ControlRecord) (slot type index : Nat) (record : ControlRecord) :
    Prop :=
  LastMatch controls (fun other => other.slot = slot ∧ other.type = type) index record

/-- The descriptor of the slot right after the packet. -/
def ControlRecord.ownerAfter (record : ControlRecord) : Int32 :=
  if record.owner = -1 then record.fd else record.owner

/-- The connection is open, its own last packet for the application and the
type subscribes, and every other connection that ever sent a control packet for
the application is closed. -/
structure Reconnected (state : ServerState) (conn : Connection) (app : Fin maxAppId)
    (type : Fin msgRouteMaxMsg) : Prop where
  isOpen : conn ∈ state.connections
  subscribed : Subscribed state.controls conn.id app type
  othersClosed : forall record, record ∈ state.controls -> record.slot = app ->
    record.conn ≠ conn.id -> forall other, other ∈ state.connections -> other.id ≠ record.conn

/-- The slot serves the connection. -/
def KeepsSubscription (state : ServerState) (conn : Connection) (app : Fin maxAppId)
    (type : Fin msgRouteMaxMsg) : Prop :=
  (state.table app).fd = conn.fd ∧ (state.table app).msgFlag type = true

/-- The last control packet for the application and the type subscribes, and
when it was handled the slot held the connection's descriptor, or it was free
and the packet came from that descriptor. -/
def LastPacketServes (state : ServerState) (conn : Connection) (app : Fin maxAppId)
    (type : Fin msgRouteMaxMsg) : Prop :=
  Exists fun index => Exists fun record =>
    LastControl state.controls app type index record ∧ record.isAdd = true ∧
    (record.owner = conn.fd ∨ (record.owner = -1 ∧ record.fd = conn.fd))

/-- Every flag comes from the last control packet for it, and that packet's
effect stays as long as a connection is open that it may have served. -/
structure Explained (state : ServerState) : Prop where
  flags : forall app type, (state.table app).msgFlag type = true ->
    Exists fun index => Exists fun record =>
      LastControl state.controls app type index record ∧ record.isAdd = true ∧
      record.ownerAfter = (state.table app).fd
  effects : forall (app : Fin maxAppId) (type : Fin msgRouteMaxMsg) index record,
    LastControl state.controls app type index record -> record.isAdd = true ->
      ((state.table app).fd = record.ownerAfter ∧ (state.table app).msgFlag type = true) ∨
      forall conn, conn ∈ state.connections -> conn.fd = record.ownerAfter -> index < conn.born
  born : forall conn, conn ∈ state.connections -> forall index record,
    state.controls[index]? = some record -> record.conn = conn.id -> conn.born ≤ index

theorem explained_serverInit (memory recvBuf : Memory) :
    Explained (serverInit memory recvBuf) where
  flags := by
    intro app type set
    rw [table_serverInit] at set
    cases set
  effects := fun _ _ index record isLast => absurd isLast (not_lastMatch_nil index record)
  born := fun _ member => absurd member List.not_mem_nil

section Control

variable {state next : ServerState} {conn : Connection} {app : Fin maxAppId}
  {type : Fin msgRouteMaxMsg} {isAdd : Bool}

/-- The packet that arrives is the last one for what it names. -/
theorem lastControl_snoc_same (controls : List ControlRecord) {record last : ControlRecord}
    {index : Nat} :
    LastControl (controls ++ [record]) record.slot record.type index last <->
      index = controls.length ∧ last = record := by
  refine (lastMatch_snoc_iff _ _ _ _).trans ?_
  constructor
  · rintro (⟨_, position, same⟩ | ⟨different, _⟩)
    · exact ⟨position, same⟩
    · exact absurd ⟨rfl, rfl⟩ different
  · rintro ⟨position, same⟩
    exact Or.inl ⟨⟨rfl, rfl⟩, position, same⟩

theorem lastControl_snoc_other (controls : List ControlRecord) {record last : ControlRecord}
    {slot type index : Nat} (different : ¬ (record.slot = slot ∧ record.type = type)) :
    LastControl (controls ++ [record]) slot type index last <->
      LastControl controls slot type index last := by
  refine (lastMatch_snoc_iff _ _ _ _).trans ?_
  constructor
  · rintro (⟨matching, _⟩ | ⟨_, before⟩)
    · exact absurd matching different
    · exact before
  · intro before
    exact Or.inr ⟨different, before⟩

/-- A slot with a flag is owned, so a packet for another type keeps its owner. -/
theorem control_keeps (conn : Connection) (isAdd : Bool) {slot : Fin maxAppId}
    {asked : Fin msgRouteMaxMsg} (clear : FreeSlotsClear state) (set : (state.table slot).msgFlag asked = true)
    (different : ¬ (app.val = slot.val ∧ type.val = asked.val)) :
    (Function.update state.table app ((state.table app).control conn.fd type isAdd) slot).fd =
      (state.table slot).fd ∧
    (Function.update state.table app ((state.table app).control conn.fd type isAdd) slot).msgFlag
      asked = true := by
  by_cases same : slot = app
  · subst same
    have owned : (state.table slot).fd ≠ -1 := by
      intro free
      rw [clear slot free asked] at set
      cases set
    have otherType : asked ≠ type := fun equal => different ⟨rfl, congrArg Fin.val equal.symm⟩
    rw [Function.update_self]
    refine ⟨if_neg owned, ?_⟩
    change Function.update (state.table slot).msgFlag type isAdd asked = true
    rw [Function.update_of_ne otherType]
    exact set
  · rw [Function.update_of_ne same]
    exact ⟨rfl, set⟩

theorem explained_control (connected : state.Connected) (clear : FreeSlotsClear state)
    (explained : Explained state)
    (table : next.table = Function.update state.table app
      ((state.table app).control conn.fd type isAdd))
    (connections : next.connections = state.connections)
    (controls : next.controls = state.controls ++
      [⟨conn.id, conn.fd, app, type, isAdd, (state.table app).fd⟩]) : Explained next where
  flags := by
    intro slot asked set
    rw [table] at set ⊢
    rw [controls]
    by_cases same : app.val = slot.val ∧ type.val = asked.val
    · rcases same with ⟨sameApp, sameType⟩
      cases Fin.ext sameApp
      cases Fin.ext sameType
      rw [Function.update_self] at set ⊢
      refine ⟨state.controls.length, _, (lastControl_snoc_same _).mpr ⟨rfl, rfl⟩, ?_, rfl⟩
      change Function.update (state.table app).msgFlag type isAdd type = true at set
      rw [Function.update_self] at set
      exact set
    · have before : (state.table slot).msgFlag asked = true := by
        by_cases sameSlot : slot = app
        · subst sameSlot
          have otherType : asked ≠ type := fun equal => same ⟨rfl, congrArg Fin.val equal.symm⟩
          rw [Function.update_self] at set
          change Function.update (state.table slot).msgFlag type isAdd asked = true at set
          rw [Function.update_of_ne otherType] at set
          exact set
        · rw [Function.update_of_ne sameSlot] at set
          exact set
      rcases explained.flags slot asked before with ⟨index, record, isLast, added, owner⟩
      refine ⟨index, record, (lastControl_snoc_other _ same).mpr isLast, added, ?_⟩
      rw [(control_keeps conn isAdd clear before same).1]
      exact owner
  effects := by
    intro slot asked index record isLast added
    rw [table, connections]
    rw [controls] at isLast
    by_cases same : app.val = slot.val ∧ type.val = asked.val
    · rcases same with ⟨sameApp, sameType⟩
      cases Fin.ext sameApp
      cases Fin.ext sameType
      rcases (lastControl_snoc_same _).mp isLast with ⟨_, rfl⟩
      left
      rw [Function.update_self]
      refine ⟨rfl, ?_⟩
      change Function.update (state.table app).msgFlag type isAdd type = true
      rw [Function.update_self]
      exact added
    · have before := (lastControl_snoc_other _ same).mp isLast
      rcases explained.effects slot asked index record before added with ⟨owner, set⟩ | later
      · have kept := control_keeps conn isAdd clear set same
        exact Or.inl ⟨kept.1.trans owner, kept.2⟩
      · exact Or.inr later
  born := by
    intro other otherMember index record found same
    rw [connections] at otherMember
    rw [controls] at found
    by_cases old : index < state.controls.length
    · rw [List.getElem?_append_left old] at found
      exact explained.born other otherMember index record found same
    · exact Nat.le_trans (connected.bornBelow other otherMember) (Nat.le_of_not_lt old)

end Control

theorem explained_change {state next : ServerState} {kind : EventKind}
    (connected : state.Connected) (clear : FreeSlotsClear state) (explained : Explained state)
    (change : TableChange state next kind) : Explained next := by
  cases change with
  | quiet table connections controls =>
      constructor
      · rw [table, controls]
        exact explained.flags
      · rw [table, controls, connections]
        exact explained.effects
      · rw [controls, connections]
        exact explained.born
  | accepted clientFd added valid fresh table connections controls =>
      constructor
      · rw [table, controls]
        exact explained.flags
      · rw [table, controls, connections]
        intro app type index record isLast isAdd
        rcases explained.effects app type index record isLast isAdd with holds | later
        · exact Or.inl holds
        · right
          intro conn member sameFd
          rcases List.mem_cons.mp member with rfl | old
          · exact isLast.index_lt
          · exact later conn old sameFd
      · rw [controls, connections]
        intro conn member index record found same
        rcases List.mem_cons.mp member with rfl | old
        · exact absurd same
            (Nat.ne_of_lt (connected.recordsBelow record (List.mem_of_getElem? found)))
        · exact explained.born conn old index record found same
  | control conn app type isAdd member table connections controls =>
      exact explained_control connected clear explained table connections controls
  | disconnected conn member table connections controls =>
      constructor
      · rw [controls]
        intro app type set
        rcases table with ⟨_, table⟩ | ⟨target, first, table⟩
        · rw [table] at set ⊢
          exact explained.flags app type set
        · rw [table] at set ⊢
          by_cases same : app = target
          · subst same
            rw [Function.update_self] at set
            cases set
          · rw [Function.update_of_ne same] at set ⊢
            exact explained.flags app type set
      · rw [controls, connections]
        intro app type index record isLast isAdd
        rcases explained.effects app type index record isLast isAdd with ⟨owner, set⟩ | later
        · rcases table with ⟨_, table⟩ | ⟨target, first, table⟩
          · rw [table]
            exact Or.inl ⟨owner, set⟩
          · rw [table]
            by_cases same : app = target
            · subst same
              right
              intro other otherMember sameFd
              have differs := (List.mem_filter.mp otherMember).2
              rw [bne_iff_ne] at differs
              exact absurd (sameFd.trans (owner.symm.trans first.1)) differs
            · rw [Function.update_of_ne same]
              exact Or.inl ⟨owner, set⟩
        · right
          intro other otherMember sameFd
          exact later other (List.mem_filter.mp otherMember).1 sameFd
      · rw [controls, connections]
        intro other otherMember
        exact explained.born other (List.mem_filter.mp otherMember).1

/-- In a state that a well-typed run reaches, the slot serves an open
subscriber exactly if the last control packet for the application and the type
does. -/
theorem keepsSubscription_iff (memory recvBuf : Memory) (events : List ServerEvent)
    (final : ServerState) (conn : Connection) (app : Fin maxAppId) (type : Fin msgRouteMaxMsg)
    (typed : server.AllSteps WellTyped (serverInit memory recvBuf) events)
    (ran : server.run (serverInit memory recvBuf) events = some final)
    (reconnected : Reconnected final conn app type) :
    KeepsSubscription final conn app type <-> LastPacketServes final conn app type := by
  let Reached : ServerState -> Prop := fun state =>
    state.Connected ∧ FreeSlotsClear state ∧ Explained state
  have start : Reached (serverInit memory recvBuf) :=
    ⟨connected_serverInit memory recvBuf, freeSlotsClear_serverInit memory recvBuf,
      explained_serverInit memory recvBuf⟩
  have kept : forall state event next, Reached state -> WellTyped state event ->
      server.step state event = some next -> Reached next := by
    intro state event next reached wellTyped stepped
    have change := serverStep_tableChange reached.1 wellTyped stepped
    exact ⟨connected_server reached.1 stepped, freeSlotsClear_change reached.1 reached.2.1 change,
      explained_change reached.1 reached.2.1 reached.2.2 change⟩
  have reached : Reached final := server.run_of_allSteps kept start typed ran
  rcases reached with ⟨connected, _, explained⟩
  have valid := ne_neg_one_of_valid (connected.fdsValid conn reconnected.isOpen)
  constructor
  · rintro ⟨held, set⟩
    rcases explained.flags app type set with ⟨index, record, isLast, added, owner⟩
    refine ⟨index, record, isLast, added, ?_⟩
    rw [held] at owner
    by_cases free : record.owner = -1
    · right
      exact ⟨free, (if_pos free).symm.trans owner⟩
    · left
      exact (if_neg free).symm.trans owner
  · rintro ⟨index, record, isLast, added, served⟩
    have owner : record.ownerAfter = conn.fd := by
      rcases served with held | ⟨free, sender⟩
      · exact (if_neg (fun free => valid (held.symm.trans free))).trans held
      · exact (if_pos free).trans sender
    rcases explained.effects app type index record isLast added with ⟨held, set⟩ | later
    · exact ⟨held.trans owner, set⟩
    · rcases reconnected.subscribed with ⟨ownIndex, ownRecord, ownLast, _⟩
      have before := later conn reconnected.isOpen owner.symm
      have after := explained.born conn reconnected.isOpen ownIndex ownRecord ownLast.found
        ownLast.matching.1
      exact absurd ownLast.matching.2
        (isLast.last ownIndex (Nat.lt_of_lt_of_le before after) ownRecord ownLast.found)

/-- A client subscribes on a second connection before the end of its first one
is seen. -/
def subscribeBeforeDisconnect : List ServerEvent :=
  [.accept 5 true, .recv 5 (.packet (controlPacket 1 1 3)), .accept 6 true,
    .recv 6 (.packet (controlPacket 1 1 3)), .recv 5 (.packet [])]

theorem subscribeBeforeDisconnect_typed :
    server.AllSteps WellTyped (serverInit (Memory.ofBytes []) (Memory.ofBytes []))
      subscribeBeforeDisconnect :=
  by decide

/-- The state the run ends in: the new connection is a reconnected subscriber,
and its slot is free. -/
theorem subscribeBeforeDisconnect_final :
    Exists fun final =>
      server.run (serverInit (Memory.ofBytes []) (Memory.ofBytes [])) subscribeBeforeDisconnect =
        some final ∧
      Reconnected final ⟨1, 6, true, 1⟩ v2xSlot ⟨3, by decide⟩ ∧
      (final.table v2xSlot).fd = -1 := by
  have observed : (server.run (serverInit (Memory.ofBytes []) (Memory.ofBytes []))
      subscribeBeforeDisconnect).map (fun state => (state.connections, state.controls,
        (state.table v2xSlot).fd)) =
      some ([⟨1, 6, true, 1⟩], [⟨0, 5, 1, 3, true, -1⟩] ++ [⟨1, 6, 1, 3, true, 5⟩], -1) := by
    decide
  rcases Option.map_eq_some_iff.mp observed with ⟨final, ran, parts⟩
  simp only [Prod.mk.injEq] at parts
  rcases parts with ⟨connections, controls, free⟩
  refine ⟨final, ran, ⟨?_, ?_, ?_⟩, free⟩
  · rw [connections]
    decide
  · rw [controls]
    exact (subscribed_snoc_same _ ⟨1, 6, 1, 3, true, 5⟩).mpr rfl
  · rw [connections, controls]
    decide

/-- The reconnected subscriber has lost its slot. -/
theorem subscribeBeforeDisconnect_loses :
    server.AllSteps WellTyped (serverInit (Memory.ofBytes []) (Memory.ofBytes []))
      subscribeBeforeDisconnect ∧
    Exists fun final =>
      server.run (serverInit (Memory.ofBytes []) (Memory.ofBytes [])) subscribeBeforeDisconnect =
        some final ∧
      Reconnected final ⟨1, 6, true, 1⟩ v2xSlot ⟨3, by decide⟩ ∧
      ¬ KeepsSubscription final ⟨1, 6, true, 1⟩ v2xSlot ⟨3, by decide⟩ := by
  rcases subscribeBeforeDisconnect_final with ⟨final, ran, reconnected, free⟩
  refine ⟨subscribeBeforeDisconnect_typed, final, ran, reconnected, ?_⟩
  rintro ⟨held, _⟩
  exact absurd (free.symm.trans held) (by decide)

theorem keepsSubscription_iff_subscribeBeforeDisconnect :
    Exists fun final =>
      server.run (serverInit (Memory.ofBytes []) (Memory.ofBytes [])) subscribeBeforeDisconnect =
        some final ∧
      (KeepsSubscription final ⟨1, 6, true, 1⟩ v2xSlot ⟨3, by decide⟩ <->
        LastPacketServes final ⟨1, 6, true, 1⟩ v2xSlot ⟨3, by decide⟩) := by
  rcases subscribeBeforeDisconnect_final with ⟨final, ran, reconnected, _⟩
  exact ⟨final, ran, keepsSubscription_iff _ _ subscribeBeforeDisconnect final ⟨1, 6, true, 1⟩
    v2xSlot ⟨3, by decide⟩ subscribeBeforeDisconnect_typed ran reconnected⟩

end MsgRoute
end V2x
