import V2x.MsgRoute.ServerView

namespace V2x
namespace MsgRoute

open Foundations

/-!
# Descriptors in the table and open connections

A slot gets its descriptor from a packet of an open connection and loses it
when the connection is closed, because `MsgRouteCoreEraseClientInfo` resets the
slot.  The loop stops at the first slot with the descriptor.  The table is thus
free of closed descriptors in a run exactly if no connection is closed while it
holds two slots.
-/

/-- Every descriptor in the table belongs to an open connection. -/
def NoDangling (state : ServerState) : Prop :=
  forall app, (state.table app).fd = -1 ∨
    Exists fun conn => conn ∈ state.connections ∧ conn.fd = (state.table app).fd

/-- No slot mentions a descriptor right after it was closed or when it is given
to a new connection. -/
def LeavesNoTrace (state : ServerState) (event : ServerEvent) : Prop :=
  match event.kind with
  | .accept fd => forall app, (state.table app).fd ≠ fd
  | .close fd => forall next, server.step state event = some next ->
      forall app, (next.table app).fd ≠ fd
  | _ => True

/-- A connection that is closed holds at most one slot. -/
def ClosesOneSlot (state : ServerState) (event : ServerEvent) : Prop :=
  match event.kind with
  | .close fd => forall first second, (state.table first).fd = fd -> (state.table second).fd = fd ->
      first = second
  | _ => True

theorem noDangling_serverInit (memory recvBuf : Memory) :
    NoDangling (serverInit memory recvBuf) := by
  intro app
  rw [table_serverInit]
  exact Or.inl rfl

/-- Only the closing of a connection with several slots leaves a descriptor behind. -/
theorem noDangling_change_iff {state next : ServerState} {event : ServerEvent}
    (connected : state.Connected) (good : NoDangling state)
    (change : TableChange state next event.kind) :
    NoDangling next <-> ClosesOneSlot state event := by
  unfold ClosesOneSlot
  generalize event.kind = kind at change
  cases change with
  | quiet table connections controls =>
      refine iff_of_true ?_ trivial
      unfold NoDangling
      rw [table, connections]
      exact good
  | accepted clientFd added valid fresh table connections controls =>
      refine iff_of_true ?_ trivial
      intro app
      rw [table, connections]
      rcases good app with free | ⟨conn, member, same⟩
      · exact Or.inl free
      · exact Or.inr ⟨conn, List.mem_cons_of_mem _ member, same⟩
  | control conn target type isAdd member table connections controls =>
      refine iff_of_true ?_ trivial
      intro app
      rw [table, connections]
      by_cases same : app = target
      · subst same
        rw [Function.update_self]
        unfold MsgRouteClientInfo.control
        by_cases free : (state.table app).fd = -1
        · right
          exact ⟨conn, member, (if_pos free).symm⟩
        · rcases good app with isFree | ⟨owner, ownerMember, ownerFd⟩
          · exact absurd isFree free
          · right
            exact ⟨owner, ownerMember, ownerFd.trans (if_neg free).symm⟩
      · rw [Function.update_of_ne same]
        exact good app
  | disconnected conn member table connections controls =>
      have otherConnection : forall app, (state.table app).fd ≠ conn.fd ->
          (state.table app).fd = -1 ∨ Exists fun other =>
            other ∈ next.connections ∧ other.fd = (state.table app).fd := by
        intro app different
        rcases good app with free | ⟨other, otherMember, otherFd⟩
        · exact Or.inl free
        · right
          refine ⟨other, ?_, otherFd⟩
          rw [connections]
          apply List.mem_filter.mpr
          refine ⟨otherMember, ?_⟩
          rw [bne_iff_ne, otherFd]
          exact different
      rcases table with ⟨absent, table⟩ | ⟨target, first, table⟩
      · refine iff_of_true ?_ (fun slot _ held _ => absurd held (absent slot))
        intro app
        rw [table]
        exact otherConnection app (absent app)
      · constructor
        · intro clean
          have unique : forall app, (state.table app).fd = conn.fd -> app = target := by
            intro app held
            by_contra different
            have kept := clean app
            rw [table, Function.update_of_ne different, held] at kept
            rcases kept with free | ⟨other, otherMember, otherFd⟩
            · exact ne_neg_one_of_valid (connected.fdsValid conn member) free
            · rw [connections] at otherMember
              have differs := (List.mem_filter.mp otherMember).2
              rw [bne_iff_ne] at differs
              exact differs otherFd
          intro slot other held otherHeld
          exact (unique slot held).trans (unique other otherHeld).symm
        · intro oneSlot app
          rw [table]
          by_cases same : app = target
          · subst same
            rw [Function.update_self]
            exact Or.inl rfl
          · rw [Function.update_of_ne same]
            exact otherConnection app (fun held => same (oneSlot app target held first.1))

/-- States without closed descriptors leave no trace of a connection. -/
theorem leavesNoTrace_of_noDangling {state next : ServerState} {event : ServerEvent}
    (connected : state.Connected) (good : NoDangling state)
    (change : TableChange state next event.kind) (stepped : server.step state event = some next)
    (clean : NoDangling next) : LeavesNoTrace state event := by
  unfold LeavesNoTrace
  generalize event.kind = kind at change
  cases change with
  | quiet table connections controls => exact trivial
  | accepted clientFd added valid fresh table connections controls =>
      intro app held
      rcases good app with free | ⟨other, otherMember, otherFd⟩
      · exact ne_neg_one_of_valid valid (held.symm.trans free)
      · exact fresh other otherMember (otherFd.trans held)
  | control conn target type isAdd member table connections controls => exact trivial
  | disconnected conn member table connections controls =>
      intro reached taken app held
      rw [stepped] at taken
      cases taken
      rcases clean app with free | ⟨other, otherMember, otherFd⟩
      · exact ne_neg_one_of_valid (connected.fdsValid conn member) (held.symm.trans free)
      · rw [connections] at otherMember
        have differs := (List.mem_filter.mp otherMember).2
        rw [bne_iff_ne] at differs
        exact differs (otherFd.trans held)

/-- In a well-typed run no slot ever mentions a closed descriptor exactly if
every connection that is closed holds at most one slot at that moment. -/
theorem noDangling_iff (memory recvBuf : Memory) (events : List ServerEvent) (final : ServerState)
    (typed : server.AllSteps WellTyped (serverInit memory recvBuf) events)
    (ran : server.run (serverInit memory recvBuf) events = some final) :
    (server.EveryState NoDangling (serverInit memory recvBuf) events ∧
      server.AllSteps LeavesNoTrace (serverInit memory recvBuf) events) <->
      server.AllSteps ClosesOneSlot (serverInit memory recvBuf) events := by
  have start : (serverInit memory recvBuf).Connected := connected_serverInit memory recvBuf
  have kept : forall state event next, state.Connected -> WellTyped state event ->
      server.step state event = some next -> next.Connected :=
    fun state event next connected _ stepped => connected_server connected stepped
  have decided := server.everyState_iff_allSteps kept
    (fun state event next connected good wellTyped stepped =>
      noDangling_change_iff connected good (serverStep_tableChange connected wellTyped stepped))
    start (noDangling_serverInit memory recvBuf) typed ran
  have traceless := server.allSteps_of_everyState kept
    (fun state event next connected good wellTyped stepped clean =>
      leavesNoTrace_of_noDangling connected good
        (serverStep_tableChange connected wellTyped stepped) stepped clean)
    start typed ran
  constructor
  · intro both
    exact decided.mp both.1
  · intro oneSlot
    have every := decided.mpr oneSlot
    exact ⟨every, traceless every⟩

/-- A client subscribes for two applications and disconnects. -/
def twoApplications : List ServerEvent :=
  [.accept 5 true, .recv 5 (.packet (controlPacket 1 1 3)),
    .recv 5 (.packet (controlPacket 1 2 3)), .recv 5 (.packet [])]

theorem twoApplications_typed :
    server.AllSteps WellTyped (serverInit (Memory.ofBytes []) (Memory.ofBytes [])) twoApplications :=
  by decide

/-- The third slot still mentions descriptor 5 when no connection is left. -/
theorem twoApplications_dangles :
    server.AllSteps WellTyped (serverInit (Memory.ofBytes []) (Memory.ofBytes []))
      twoApplications ∧
    Exists fun final =>
      server.run (serverInit (Memory.ofBytes []) (Memory.ofBytes [])) twoApplications =
        some final ∧ ¬ NoDangling final := by
  refine ⟨twoApplications_typed, ?_⟩
  have observed : (server.run (serverInit (Memory.ofBytes []) (Memory.ofBytes []))
      twoApplications).map (fun state => (state.connections, (state.table gnssSlot).fd)) =
        some ([], 5) := by decide
  rcases Option.map_eq_some_iff.mp observed with ⟨final, ran, parts⟩
  rcases Prod.mk.injEq _ _ _ _ ▸ parts with ⟨connections, held⟩
  refine ⟨final, ran, ?_⟩
  intro clean
  rcases clean gnssSlot with free | ⟨conn, member, _⟩
  · rw [held] at free
    exact absurd free (by decide)
  · rw [connections] at member
    cases member

theorem noDangling_iff_twoApplications :
    (server.EveryState NoDangling (serverInit (Memory.ofBytes []) (Memory.ofBytes []))
        twoApplications ∧
      server.AllSteps LeavesNoTrace (serverInit (Memory.ofBytes []) (Memory.ofBytes []))
        twoApplications) <->
      server.AllSteps ClosesOneSlot (serverInit (Memory.ofBytes []) (Memory.ofBytes []))
        twoApplications := by
  have runs : (server.run (serverInit (Memory.ofBytes []) (Memory.ofBytes []))
      twoApplications).isSome := by decide
  rcases Option.isSome_iff_exists.mp runs with ⟨final, ran⟩
  exact noDangling_iff _ _ twoApplications final twoApplications_typed ran

end MsgRoute
end V2x
