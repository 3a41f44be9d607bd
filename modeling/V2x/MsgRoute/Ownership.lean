import V2x.MsgRoute.ServerView

namespace V2x
namespace MsgRoute

open Foundations

/-!
# Flags and the connection that asked for them

A slot belongs to the connection whose descriptor it holds, and
`MsgRouteCoreEraseClientInfo` clears the flags together with the descriptor, so
the flags are meant to be that connection's subscriptions.  The update guards
the descriptor and not the flag.  The conditions below name the three kinds of
steps at which flag and owner come apart, and no other step separates them.
-/

/-- The connection's own last control packet for the application and the type
is a `SUBSCRIBE`. -/
def Subscribed (controls : List ControlRecord) (conn slot type : Nat) : Prop :=
  Exists fun index => Exists fun record =>
    LastMatch controls
      (fun record => record.conn = conn ∧ record.slot = slot ∧ record.type = type) index record ∧
    record.isAdd = true

/-- The flags of a slot that an open connection owns are its subscriptions. -/
def OwnFlags (state : ServerState) : Prop :=
  forall conn, conn ∈ state.connections -> forall app, (state.table app).fd = conn.fd ->
    forall type, ((state.table app).msgFlag type = true <->
      Subscribed state.controls conn.id app type)

/-- A control packet leaves the flags of slots alone that belong to other open
connections. -/
def NoForeignWrite (state : ServerState) (event : ServerEvent) : Prop :=
  match event.kind with
  | .control fd _ _ _ => forall next, server.step state event = some next ->
      forall conn, conn ∈ state.connections -> conn.fd ≠ fd ->
      forall app, (state.table app).fd = conn.fd -> (next.table app).msgFlag = (state.table app).msgFlag
  | _ => True

/-- The step keeps flags and owners together: a control packet meets its
sender's slot, or a free slot of whose application the sender has no other
subscription, or it leaves the flag as it is, or the slot's owner is gone; and
a new connection gets a descriptor under which no slot has a flag. -/
def Undisturbed (state : ServerState) (event : ServerEvent) : Prop :=
  match event.kind with
  | .control fd slot type isAdd => forall app : Fin maxAppId, app.val = slot ->
      (state.table app).fd = fd ∨
      ((state.table app).fd = -1 ∧ forall conn, conn ∈ state.connections -> conn.fd = fd ->
        forall other : Fin msgRouteMaxMsg, other.val ≠ type ->
          ¬ Subscribed state.controls conn.id app other) ∨
      ((state.table app).fd ≠ -1 ∧
        ((forall conn, conn ∈ state.connections -> conn.fd ≠ (state.table app).fd) ∨
          forall written : Fin msgRouteMaxMsg, written.val = type ->
            (state.table app).msgFlag written = isAdd))
  | .accept fd => forall app, (state.table app).fd = fd -> forall type,
      (state.table app).msgFlag type = false
  | _ => True

/-! ## Own packets and the history -/

/-- A packet decides its own subscription. -/
theorem subscribed_snoc_same (controls : List ControlRecord) (record : ControlRecord) :
    Subscribed (controls ++ [record]) record.conn record.slot record.type <->
      record.isAdd = true := by
  constructor
  · rintro ⟨index, last, isLast, added⟩
    rcases (lastMatch_snoc_iff _ _ _ _).mp isLast with ⟨_, _, same⟩ | ⟨different, _⟩
    · exact same ▸ added
    · exact absurd ⟨rfl, rfl, rfl⟩ different
  · intro added
    exact ⟨controls.length, record,
      (lastMatch_snoc_iff _ _ _ _).mpr (Or.inl ⟨⟨rfl, rfl, rfl⟩, rfl, rfl⟩), added⟩

/-- A packet changes no other subscription. -/
theorem subscribed_snoc_other (controls : List ControlRecord) (record : ControlRecord)
    {conn slot type : Nat}
    (different : ¬ (record.conn = conn ∧ record.slot = slot ∧ record.type = type)) :
    Subscribed (controls ++ [record]) conn slot type <-> Subscribed controls conn slot type := by
  constructor
  · rintro ⟨index, last, isLast, added⟩
    rcases (lastMatch_snoc_iff _ _ _ _).mp isLast with ⟨matching, _⟩ | ⟨_, before⟩
    · exact absurd matching different
    · exact ⟨index, last, before, added⟩
  · rintro ⟨index, last, isLast, added⟩
    exact ⟨index, last, (lastMatch_snoc_iff _ _ _ _).mpr (Or.inr ⟨different, isLast⟩), added⟩

/-- A connection without packets has no subscription. -/
theorem not_subscribed_of_fresh {state : ServerState} (connected : state.Connected)
    (slot type : Nat) : ¬ Subscribed state.controls state.accepted slot type := by
  rintro ⟨index, record, isLast, _⟩
  exact absurd isLast.matching.1 (Nat.ne_of_lt (connected.recordsBelow record isLast.mem))

/-! ## One step -/

theorem ownFlags_serverInit (memory recvBuf : Memory) : OwnFlags (serverInit memory recvBuf) :=
  fun _ member => absurd member List.not_mem_nil

section Control

variable {state next : ServerState} {conn : Connection} {app : Fin maxAppId}
  {type : Fin msgRouteMaxMsg} {isAdd : Bool}

/-- A control packet concerns the slot it names only. -/
theorem ownFlags_control_iff (good : OwnFlags state)
    (table : next.table = Function.update state.table app
      ((state.table app).control conn.fd type isAdd))
    (connections : next.connections = state.connections)
    (controls : next.controls = state.controls ++
      [⟨conn.id, conn.fd, app, type, isAdd, (state.table app).fd⟩]) :
    OwnFlags next <->
      forall other, other ∈ state.connections ->
        ((state.table app).control conn.fd type isAdd).fd = other.fd -> forall asked,
          (Function.update (state.table app).msgFlag type isAdd asked = true <->
            Subscribed next.controls other.id app asked) := by
  unfold OwnFlags
  rw [connections, table]
  constructor
  · intro own other member held asked
    have atApp := own other member app (by rw [Function.update_self]; exact held) asked
    rw [Function.update_self] at atApp
    exact atApp
  · intro atApp other member slot held asked
    by_cases same : slot = app
    · subst same
      rw [Function.update_self] at held ⊢
      exact atApp other member held asked
    · rw [Function.update_of_ne same] at held ⊢
      rw [controls, subscribed_snoc_other]
      · exact good other member slot held asked
      · rintro ⟨_, sameSlot, _⟩
        exact same (Fin.ext sameSlot.symm)

/-- The sender writes to its own slot. -/
theorem own_slot (good : OwnFlags state)
    (member : conn ∈ state.connections) (held : (state.table app).fd = conn.fd)
    (controls : next.controls = state.controls ++
      [⟨conn.id, conn.fd, app, type, isAdd, (state.table app).fd⟩])
    (asked : Fin msgRouteMaxMsg) :
    Function.update (state.table app).msgFlag type isAdd asked = true <->
      Subscribed next.controls conn.id app asked := by
  rw [controls]
  by_cases same : asked = type
  · subst same
    rw [Function.update_self]
    exact (subscribed_snoc_same state.controls
      ⟨conn.id, conn.fd, app, asked, isAdd, (state.table app).fd⟩).symm
  · rw [Function.update_of_ne same, subscribed_snoc_other]
    · exact good conn member app held asked
    · rintro ⟨_, _, sameType⟩
      exact same (Fin.ext sameType.symm)

/-- The sender takes a free slot.  Types it asked for while the slot belonged
to another connection are missing. -/
theorem free_slot_iff (clear : FreeSlotsClear state) (free : (state.table app).fd = -1)
    (controls : next.controls = state.controls ++
      [⟨conn.id, conn.fd, app, type, isAdd, (state.table app).fd⟩]) :
    (forall asked, (Function.update (state.table app).msgFlag type isAdd asked = true <->
        Subscribed next.controls conn.id app asked)) <->
      forall asked : Fin msgRouteMaxMsg, asked.val ≠ type.val ->
        ¬ Subscribed state.controls conn.id app asked := by
  have elsewhere : forall asked : Fin msgRouteMaxMsg, asked.val ≠ type.val ->
      (Subscribed next.controls conn.id app asked <->
        Subscribed state.controls conn.id app asked) := by
    intro asked different
    rw [controls, subscribed_snoc_other]
    rintro ⟨_, _, sameType⟩
    exact different sameType.symm
  constructor
  · intro agrees asked different subscribed
    have flag := (agrees asked).mpr ((elsewhere asked different).mpr subscribed)
    rw [Function.update_of_ne (fun same => different (congrArg Fin.val same)),
      clear app free asked] at flag
    cases flag
  · intro none_ asked
    by_cases same : asked = type
    · subst same
      rw [Function.update_self, controls]
      exact (subscribed_snoc_same state.controls
      ⟨conn.id, conn.fd, app, asked, isAdd, (state.table app).fd⟩).symm
    · have different : asked.val ≠ type.val := fun equal => same (Fin.ext equal)
      rw [Function.update_of_ne same, clear app free asked, elsewhere asked different]
      exact iff_of_false Bool.false_ne_true (none_ asked different)

/-- The sender writes into the slot of another connection. -/
theorem foreign_slot_iff (good : OwnFlags state) {owner : Connection}
    (ownerMember : owner ∈ state.connections) (held : (state.table app).fd = owner.fd)
    (foreign : owner.id ≠ conn.id)
    (controls : next.controls = state.controls ++
      [⟨conn.id, conn.fd, app, type, isAdd, (state.table app).fd⟩]) :
    (forall asked, (Function.update (state.table app).msgFlag type isAdd asked = true <->
        Subscribed next.controls owner.id app asked)) <->
      (state.table app).msgFlag type = isAdd := by
  have unchanged : forall asked : Fin msgRouteMaxMsg,
      (Subscribed next.controls owner.id app asked <->
        (state.table app).msgFlag asked = true) := by
    intro asked
    rw [controls, subscribed_snoc_other, good owner ownerMember app held asked]
    rintro ⟨sameConn, _⟩
    exact foreign sameConn.symm
  constructor
  · intro agrees
    have atType := agrees type
    rw [Function.update_self, unchanged type] at atType
    exact (Bool.eq_iff_iff.mpr atType).symm
  · intro already asked
    rw [unchanged asked]
    by_cases same : asked = type
    · subst same
      rw [Function.update_self, already]
    · rw [Function.update_of_ne same]

/-- A connection that takes a free slot becomes its only owner. -/
theorem takes_slot_iff (connected : state.Connected) (clear : FreeSlotsClear state)
    (member : conn ∈ state.connections) (free : (state.table app).fd = -1)
    (controls : next.controls = state.controls ++
      [⟨conn.id, conn.fd, app, type, isAdd, (state.table app).fd⟩]) :
    (forall other, other ∈ state.connections ->
        ((state.table app).control conn.fd type isAdd).fd = other.fd -> forall asked,
          (Function.update (state.table app).msgFlag type isAdd asked = true <->
            Subscribed next.controls other.id app asked)) <->
      forall other, other ∈ state.connections -> other.fd = conn.fd ->
        forall asked : Fin msgRouteMaxMsg, asked.val ≠ type.val ->
          ¬ Subscribed state.controls other.id app asked := by
  have taken : ((state.table app).control conn.fd type isAdd).fd = conn.fd := if_pos free
  have decided := free_slot_iff clear free controls
  rw [taken]
  constructor
  · intro own other otherMember sameFd
    rw [connected.fdsDistinct other otherMember conn member sameFd]
    exact decided.mp (own conn member rfl)
  · intro none_ other otherMember sameFd
    rw [connected.fdsDistinct other otherMember conn member sameFd.symm]
    exact decided.mpr (none_ conn member rfl)

/-- A packet for a slot that is neither free nor the sender's. -/
theorem foreign_owners_iff (connected : state.Connected) (good : OwnFlags state)
    (member : conn ∈ state.connections) (free : ¬ (state.table app).fd = -1)
    (mine : ¬ (state.table app).fd = conn.fd)
    (controls : next.controls = state.controls ++
      [⟨conn.id, conn.fd, app, type, isAdd, (state.table app).fd⟩]) :
    (forall other, other ∈ state.connections ->
        ((state.table app).control conn.fd type isAdd).fd = other.fd -> forall asked,
          (Function.update (state.table app).msgFlag type isAdd asked = true <->
            Subscribed next.controls other.id app asked)) <->
      ((forall owner, owner ∈ state.connections -> owner.fd ≠ (state.table app).fd) ∨
        (state.table app).msgFlag type = isAdd) := by
  have kept : ((state.table app).control conn.fd type isAdd).fd = (state.table app).fd :=
    if_neg free
  have foreign : forall owner, owner ∈ state.connections ->
      (state.table app).fd = owner.fd -> owner.id ≠ conn.id := by
    intro owner ownerMember held sameId
    rw [connected.idsDistinct owner ownerMember conn member sameId] at held
    exact mine held
  rw [kept]
  constructor
  · intro own
    by_cases present : Exists fun owner =>
        owner ∈ state.connections ∧ (state.table app).fd = owner.fd
    · rcases present with ⟨owner, ownerMember, held⟩
      right
      exact (foreign_slot_iff good ownerMember held (foreign owner ownerMember held)
        controls).mp (own owner ownerMember held)
    · left
      intro owner ownerMember held
      exact present ⟨owner, ownerMember, held.symm⟩
  · intro harmless owner ownerMember held
    rw [foreign_slot_iff good ownerMember held (foreign owner ownerMember held) controls]
    rcases harmless with gone | already
    · exact absurd held.symm (gone owner ownerMember)
    · exact already

end Control

/-- Flags and owners come apart at a disturbed step and at no other. -/
theorem ownFlags_change_iff {state next : ServerState} {event : ServerEvent}
    (connected : state.Connected) (clear : FreeSlotsClear state) (good : OwnFlags state)
    (change : TableChange state next event.kind) :
    OwnFlags next <-> Undisturbed state event := by
  unfold Undisturbed
  generalize event.kind = kind at change
  cases change with
  | quiet table connections controls =>
      refine iff_of_true ?_ trivial
      unfold OwnFlags
      rw [table, connections, controls]
      exact good
  | accepted clientFd added valid fresh table connections controls =>
      unfold OwnFlags
      rw [table, connections, controls]
      constructor
      · intro own app held type
        by_contra set
        rw [Bool.not_eq_false] at set
        exact not_subscribed_of_fresh connected app type
          ((own _ List.mem_cons_self app held type).mp set)
      · intro none_ conn member app held type
        rcases List.mem_cons.mp member with rfl | old
        · rw [none_ app held type]
          exact iff_of_false Bool.false_ne_true (not_subscribed_of_fresh connected app type)
        · exact good conn old app held type
  | control conn app type isAdd member table connections controls =>
      have validFd := ne_neg_one_of_valid (connected.fdsValid conn member)
      rw [ownFlags_control_iff good table connections controls]
      simp only [Fin.val_inj, forall_eq]
      by_cases free : (state.table app).fd = -1
      · rw [takes_slot_iff connected clear member free controls]
        simp only [free, validFd.symm, not_true_eq_false, ne_eq, false_and, or_false, false_or,
          true_and]
      · by_cases mine : (state.table app).fd = conn.fd
        · have kept : ((state.table app).control conn.fd type isAdd).fd = conn.fd :=
            (if_neg free).trans mine
          refine iff_of_true ?_ (Or.inl mine)
          intro other otherMember sameFd
          rw [connected.fdsDistinct other otherMember conn member (sameFd.symm.trans kept)]
          exact own_slot good member mine controls
        · rw [foreign_owners_iff connected good member free mine controls]
          simp only [mine, free, not_false_eq_true, ne_eq, false_and, false_or, true_and]
  | disconnected conn member table connections controls =>
      refine iff_of_true ?_ trivial
      intro other otherMember app held type
      rw [connections] at otherMember
      have stillOpen := (List.mem_filter.mp otherMember).1
      rw [controls]
      rcases table with ⟨_, table⟩ | ⟨target, first, table⟩
      · rw [table] at held ⊢
        exact good other stillOpen app held type
      · rw [table] at held ⊢
        by_cases same : app = target
        · subst same
          rw [Function.update_self] at held
          exact absurd held.symm (ne_neg_one_of_valid (connected.fdsValid other stillOpen))
        · rw [Function.update_of_ne same] at held ⊢
          exact good other stillOpen app held type

/-- If flags and owners agree before and after a packet, it wrote to no slot of
another open connection. -/
theorem noForeignWrite_of_ownFlags {state next : ServerState} {event : ServerEvent}
    (connected : state.Connected) (good : OwnFlags state)
    (change : TableChange state next event.kind) (stepped : server.step state event = some next)
    (own : OwnFlags next) : NoForeignWrite state event := by
  unfold NoForeignWrite
  generalize event.kind = kind at change
  cases change with
  | quiet table connections controls => exact trivial
  | accepted clientFd added valid fresh table connections controls => exact trivial
  | disconnected conn member table connections controls => exact trivial
  | control conn app type isAdd member table connections controls =>
      intro reached taken owner ownerMember foreign slot held
      rw [stepped] at taken
      cases taken
      have heldAfter : (next.table slot).fd = owner.fd := by
        rw [table]
        by_cases same : slot = app
        · subst same
          rw [Function.update_self, ← held]
          apply if_neg
          rw [held]
          exact ne_neg_one_of_valid (connected.fdsValid owner ownerMember)
        · rw [Function.update_of_ne same]
          exact held
      funext asked
      have before := good owner ownerMember slot held asked
      have after := own owner (connections ▸ ownerMember) slot heldAfter asked
      rw [controls, subscribed_snoc_other] at after
      · exact Bool.eq_iff_iff.mpr (after.trans before.symm)
      · rintro ⟨sameConn, _⟩
        exact foreign (congrArg Connection.fd
          (connected.idsDistinct conn member owner ownerMember sameConn)).symm

/-- In a well-typed run the flags of every owned slot are the subscriptions of
its owner, and no packet writes to another connection's slot, exactly if no
step is disturbed. -/
theorem ownFlags_iff (memory recvBuf : Memory) (events : List ServerEvent) (final : ServerState)
    (typed : server.AllSteps WellTyped (serverInit memory recvBuf) events)
    (ran : server.run (serverInit memory recvBuf) events = some final) :
    (server.EveryState OwnFlags (serverInit memory recvBuf) events ∧
      server.AllSteps NoForeignWrite (serverInit memory recvBuf) events) <->
      server.AllSteps Undisturbed (serverInit memory recvBuf) events := by
  let Inv : ServerState -> Prop := fun state => state.Connected ∧ FreeSlotsClear state
  have start : Inv (serverInit memory recvBuf) :=
    ⟨connected_serverInit memory recvBuf, freeSlotsClear_serverInit memory recvBuf⟩
  have kept : forall state event next, Inv state -> WellTyped state event ->
      server.step state event = some next -> Inv next :=
    fun state event next inv wellTyped stepped =>
      ⟨connected_server inv.1 stepped,
        freeSlotsClear_change inv.1 inv.2 (serverStep_tableChange inv.1 wellTyped stepped)⟩
  have decided := server.everyState_iff_allSteps kept
    (fun state event next inv good wellTyped stepped =>
      ownFlags_change_iff inv.1 inv.2 good (serverStep_tableChange inv.1 wellTyped stepped))
    start (ownFlags_serverInit memory recvBuf) typed ran
  have private_ := server.allSteps_of_everyState kept
    (fun state event next inv good wellTyped stepped own =>
      noForeignWrite_of_ownFlags inv.1 good
        (serverStep_tableChange inv.1 wellTyped stepped) stepped own)
    start typed ran
  constructor
  · intro both
    exact decided.mp both.1
  · intro undisturbed
    have every := decided.mpr undisturbed
    exact ⟨every, private_ every⟩

/-- One client subscribes, another one unsubscribes for the same application. -/
def foreignUnsubscribe : List ServerEvent :=
  [.accept 5 true, .accept 6 true, .recv 5 (.packet (controlPacket 1 1 3)),
    .recv 6 (.packet (controlPacket 2 1 3))]

theorem foreignUnsubscribe_typed :
    server.AllSteps WellTyped (serverInit (Memory.ofBytes []) (Memory.ofBytes []))
      foreignUnsubscribe :=
  by decide

/-- The subscriber's flag is gone although its own last packet subscribes. -/
theorem foreignUnsubscribe_clears :
    server.AllSteps WellTyped (serverInit (Memory.ofBytes []) (Memory.ofBytes []))
      foreignUnsubscribe ∧
    Exists fun final =>
      server.run (serverInit (Memory.ofBytes []) (Memory.ofBytes [])) foreignUnsubscribe =
        some final ∧ ¬ OwnFlags final := by
  refine ⟨foreignUnsubscribe_typed, ?_⟩
  have observed : (server.run (serverInit (Memory.ofBytes []) (Memory.ofBytes []))
      foreignUnsubscribe).map (fun state => (state.connections, state.controls,
        (state.table v2xSlot).fd, (state.table v2xSlot).msgFlag ⟨3, by decide⟩)) =
      some ([⟨1, 6, true, 0⟩, ⟨0, 5, true, 0⟩],
        [⟨0, 5, 1, 3, true, -1⟩] ++ [⟨1, 6, 1, 3, false, 5⟩], 5, false) := by decide
  rcases Option.map_eq_some_iff.mp observed with ⟨final, ran, parts⟩
  simp only [Prod.mk.injEq] at parts
  rcases parts with ⟨connections, controls, held, cleared⟩
  refine ⟨final, ran, ?_⟩
  intro own
  have member : (⟨0, 5, true, 0⟩ : Connection) ∈ final.connections := by
    rw [connections]
    decide
  have subscribed : Subscribed final.controls 0 1 3 := by
    rw [controls, subscribed_snoc_other _ _ (by decide)]
    exact (subscribed_snoc_same [] ⟨0, 5, 1, 3, true, -1⟩).mpr rfl
  have flag := (own _ member v2xSlot held ⟨3, by decide⟩).mpr subscribed
  rw [cleared] at flag
  cases flag

theorem ownFlags_iff_foreignUnsubscribe :
    (server.EveryState OwnFlags (serverInit (Memory.ofBytes []) (Memory.ofBytes []))
        foreignUnsubscribe ∧
      server.AllSteps NoForeignWrite (serverInit (Memory.ofBytes []) (Memory.ofBytes []))
        foreignUnsubscribe) <->
      server.AllSteps Undisturbed (serverInit (Memory.ofBytes []) (Memory.ofBytes []))
        foreignUnsubscribe := by
  have runs : (server.run (serverInit (Memory.ofBytes []) (Memory.ofBytes []))
      foreignUnsubscribe).isSome := by decide
  rcases Option.isSome_iff_exists.mp runs with ⟨final, ran⟩
  exact ownFlags_iff _ _ foreignUnsubscribe final foreignUnsubscribe_typed ran

end MsgRoute
end V2x
