import V2x.MsgRoute.Network

namespace V2x
namespace MsgRoute

open Foundations ThreadPool

/-!
# What a step of the network does to one client

Most steps leave a client as it is.  The others are its own: it opens or closes
its connection, one of its threads sends a control message or stores the entry
afterwards, or one of its receive threads moves.
-/

/-- The first half of one of the two subscription functions. -/
def controlCallOf (vars : ClientVars) (client : Nat) : NetLabel -> Option ControlCall
  | .subscribe other sendBuf subscribeInfo =>
      if other = client then msgRouteClientSubscribeMsg vars sendBuf subscribeInfo else none
  | .unsubscribe other sendBuf subscribeInfo =>
      if other = client then msgRouteClientUnsubscribeMsg vars sendBuf subscribeInfo else none
  | _ => none

/-- The changes that a step can make to a client. -/
inductive ClientStep (server : ServerState) (old : Client) (client : Nat) (label : NetLabel) :
    Client -> Prop where
  | same (noCall : controlCallOf old.vars client label = none)
      (noStore : forall index, label ≠ .store client index)
      (noRx : forall thread failed, label ≠ .rx client thread failed) :
      ClientStep server old client label old
  | init (appId fd : Int32) (threadRet : Int) (recvBuf : Memory) (link : Option Nat)
      (started : List RxThread) (isLabel : label = .init client appId fd threadRet recvBuf) :
      ClientStep server old client label
        ⟨(msgRouteClientInit old.vars appId (some fd) threadRet).vars, link, old.rx ++ started,
          old.pending⟩
  | deinit (isLabel : label = .deinit client) :
      ClientStep server old client label
        { old with vars := msgRouteClientDeinit old.vars, link := none }
  | control (call : ControlCall) (isCall : controlCallOf old.vars client label = some call) :
      ClientStep server old client label { old with pending := old.pending ++ [call] }
  | store (index : Nat) (call : ControlCall) (isLabel : label = .store client index)
      (isCall : old.pending[index]? = some call) :
      ClientStep server old client label
        { old with vars := old.vars.store call, pending := old.pending.eraseIdx index }
  | moves (thread : Nat) (failed : Bool) (before after : RxThread)
      (isLabel : label = .rx client thread failed) (isThread : old.rx[thread]? = some before)
      (waits : after.pc = .recv old.link ∨ forall link, after.pc ≠ .recv link) :
      ClientStep server old client label { old with rx := old.rx.set thread after }
  | disconnected (thread : Nat) (failed : Bool) (before after : RxThread) (link : Nat)
      (isLabel : label = .rx client thread failed) (isThread : old.rx[thread]? = some before)
      (isPc : before.pc = .recv (some link)) (ended : after.pc = .exited)
      (closed : link < server.accepted ∧
        forall conn, conn ∈ server.connections -> conn.id ≠ link) :
      ClientStep server old client label
        { old with vars := { old.vars with fd := -1 }, link := none, rx := old.rx.set thread after }

section Steps

variable {state next : NetState} {client : Nat} {label : NetLabel}

/-- A step that changes another client only. -/
theorem clientStep_other {other : Nat} {value : Client}
    (clients : next.clients = Function.update state.clients other value) (different : other ≠ client)
    (noCall : controlCallOf (state.clients client).vars client label = none)
    (noStore : forall index, label ≠ .store client index)
    (noRx : forall thread failed, label ≠ .rx client thread failed) :
    ClientStep state.route.server (state.clients client) client label (next.clients client) := by
  rw [clients, Function.update_of_ne (Ne.symm different)]
  exact ClientStep.same noCall noStore noRx

theorem clients_send {sendData : MsgRouteDataInfo} {isBroadcast : Bool}
    (stepped : sendStep state client sendData isBroadcast = some next) :
    next.clients = state.clients := by
  rcases Option.bind_eq_some_iff.mp stepped with ⟨link, _, rest⟩
  rcases Option.bind_eq_some_iff.mp rest with ⟨ends, _, isNext⟩
  cases isNext
  rfl

theorem clients_control {call : Option ControlCall}
    (stepped : controlStep state client call = some next) : Exists fun made =>
      call = some made ∧ next.clients = Function.update state.clients client
        { state.clients client with pending := (state.clients client).pending ++ [made] } := by
  rcases Option.bind_eq_some_iff.mp stepped with ⟨made, isMade, rest⟩
  rcases Option.bind_eq_some_iff.mp rest with ⟨middle, sent, isNext⟩
  cases isNext
  refine ⟨made, isMade, ?_⟩
  have kept := clients_send sent
  change Function.update middle.clients client
    { middle.clients client with pending := (middle.clients client).pending ++ [made] } = _
  rw [kept]

theorem clients_event {event : ServerEvent} {links : List Link} {arrived : Option Arrival}
    (stepped : eventNet state event links arrived = some next) : next.clients = state.clients := by
  rcases Option.map_eq_some_iff.mp stepped with ⟨route, _, rfl⟩
  rfl

/-- The server leaves the clients alone. -/
theorem clients_server (stepped : netStep state label = some next)
    (isServer : match label with
      | .accept _ _ | .recv _ _ | .core _ | .job _ => True
      | _ => False) : next.clients = state.clients := by
  cases label with
  | accept clientFd added =>
      simp only [netStep, acceptNet] at stepped
      split at stepped
      · exact clients_event stepped
      · cases stepped
  | recv clientFd failed =>
      simp only [netStep, recvNet] at stepped
      split at stepped
      · exact clients_event stepped
      · rcases Option.bind_eq_some_iff.mp stepped with ⟨conn, _, rest⟩
        rcases Option.bind_eq_some_iff.mp rest with ⟨ends, _, handled⟩
        split at handled
        next => exact clients_event handled
        next =>
          split at handled
          · cases handled
          · exact clients_event handled
  | core label =>
      simp only [netStep, coreNet] at stepped
      split at stepped
      next => exact clients_event stepped
      next => exact clients_event stepped
      next => cases stepped
      next => cases stepped
      next =>
        rcases Option.map_eq_some_iff.mp stepped with ⟨route, _, rfl⟩
        rfl
  | job thread =>
      rcases Option.bind_eq_some_iff.mp stepped with ⟨⟨run, frame, calls⟩, _, rest⟩
      rcases Option.bind_eq_some_iff.mp rest with ⟨route, _, isNext⟩
      cases isNext
      rfl
  | _ => cases isServer

/-- A receive thread of a client moves. -/
theorem clients_rx {thread : Nat} {failed : Bool}
    (stepped : rxStep state client thread failed = some next) : Exists fun value =>
      next.clients = Function.update state.clients client value ∧
      ClientStep state.route.server (state.clients client) client (.rx client thread failed) value := by
  rcases Option.bind_eq_some_iff.mp stepped with ⟨rx, isRx, rest⟩
  split at rest
  next =>
    cases rest
    refine ⟨_, rfl, ClientStep.moves thread failed rx _ rfl isRx ?_⟩
    split
    · exact Or.inl rfl
    · exact Or.inr (by simp)
  next link isPc =>
    unfold rxRecv at rest
    split at rest
    · cases rest
      exact ⟨_, rfl, ClientStep.moves thread failed rx _ rfl isRx (Or.inr (by simp))⟩
    · rcases Option.bind_eq_some_iff.mp rest with ⟨number, rfl, isEnds⟩
      rcases Option.bind_eq_some_iff.mp isEnds with ⟨ends, _, taken⟩
      split at taken
      next =>
        cases taken
        exact ⟨_, rfl, ClientStep.moves thread failed rx _ rfl isRx (Or.inr (by simp))⟩
      next =>
        split at taken
        next closed =>
          cases taken
          refine ⟨_, rfl, ClientStep.disconnected thread failed rx _ number rfl isRx isPc rfl
            ⟨closed.1, fun conn member => ?_⟩⟩
          exact bne_iff_ne.mp (List.all_eq_true.mp closed.2 conn member)
        next => cases taken
  next =>
    cases rest
    exact ⟨_, rfl, ClientStep.moves thread failed rx _ rfl isRx (Or.inr (by simp))⟩
  next => cases rest

theorem clientStep (client : Nat) (stepped : netStep state label = some next) :
    ClientStep state.route.server (state.clients client) client label (next.clients client) := by
  cases label with
  | init other appId fd threadRet recvBuf =>
      simp only [netStep, initStep] at stepped
      split at stepped
      · cases stepped
      · cases stepped
        by_cases here : other = client
        · subst here
          change ClientStep _ _ _ _ (Function.update state.clients other _ other)
          rw [Function.update_self]
          exact ClientStep.init appId fd threadRet recvBuf _ _ rfl
        · exact clientStep_other rfl here rfl (by simp) (by simp)
  | deinit other =>
      cases stepped
      by_cases here : other = client
      · subst here
        change ClientStep _ _ _ _ (Function.update state.clients other _ other)
        rw [Function.update_self]
        exact ClientStep.deinit rfl
      · exact clientStep_other rfl here rfl (by simp) (by simp)
  | send other sendData isBroadcast =>
      rw [clients_send stepped]
      exact ClientStep.same rfl (by simp) (by simp)
  | subscribe other sendBuf subscribeInfo | unsubscribe other sendBuf subscribeInfo =>
      rcases clients_control stepped with ⟨call, isCall, clients⟩
      by_cases here : other = client
      · subst here
        rw [clients, Function.update_self]
        exact ClientStep.control call ((if_pos rfl).trans isCall)
      · exact clientStep_other clients here (if_neg here) (by simp) (by simp)
  | store other index =>
      rcases Option.map_eq_some_iff.mp stepped with ⟨call, isCall, rfl⟩
      by_cases here : other = client
      · subst here
        change ClientStep _ _ _ _ (Function.update state.clients other _ other)
        rw [Function.update_self]
        exact ClientStep.store index call rfl isCall
      · exact clientStep_other rfl here rfl (by simp [here]) (by simp)
  | rx other thread failed =>
      rcases clients_rx stepped with ⟨value, clients, isStep⟩
      by_cases here : other = client
      · subst here
        rw [clients, Function.update_self]
        exact isStep
      · exact clientStep_other clients here rfl (by simp) (by simp [here])
  | accept clientFd added | recv clientFd failed | core label | job thread =>
      rw [clients_server stepped trivial]
      exact ClientStep.same rfl (by simp) (by simp)

end Steps

end MsgRoute
end V2x
