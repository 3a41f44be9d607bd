import V2x.Foundations.TransitionSystem
import V2x.MsgRoute.Client

namespace V2x
namespace MsgRoute

open Foundations

/-!
# The calls of `MsgRouteClientInit` and `MsgRouteClientDeinit`

One process calls the two functions in any order.  Beside the variables of the
library the machine keeps the sockets that the library has opened and not
closed, and the receive threads that were started since the last
`MsgRouteClientDeinit`.  A call takes the results of `socket`, `connect` and
`pthread_create` from its label; `socket` returns a descriptor that is not open.

The receive threads do not appear as parties.  They write no variable as long
as the server stays connected.
-/

structure ClientProcess where
  vars : ClientVars
  openSockets : List Int32
  startedThreads : Nat
  isUp : Bool

/-- A call with the results of the system calls that it may make.  `none` is a
`socket` that failed. -/
inductive LifecycleCall where
  | init (appId : Int32) (socket : Option Int32) (connect threadRet : Int)
  | deinit
deriving DecidableEq, Repr

/-- `MsgRouteClientCreate` without the assignment to `g_fd`: the descriptor that
is connected, and the descriptors that are open when it returns. -/
def msgRouteClientCreate (openSockets : List Int32) (socket : Option Int32) (connect : Int) :
    Option Int32 × List Int32 :=
  match socket with
  | none => (none, openSockets)
  | some fd =>
      if connect < 0 then (none, (fd :: openSockets).erase fd)
      else (some fd, fd :: openSockets)

/-- The application ids that `MsgRouteClientInit` accepts. -/
def isAppId (appId : Int32) : Bool :=
  decide (MsgRouteClientId.allAppId.code < appId ∧ appId < Int32.ofNat maxAppId)

namespace ClientProcess

/-- Before the first call. -/
def fresh : ClientProcess := ⟨clientStatics, [], 0, false⟩

/-- `MsgRouteClientInit` with its return value.  The sockets change if the call
passes its two checks. -/
def init (process : ClientProcess) (appId : Int32) (socket : Option Int32)
    (connect threadRet : Int) : Int × ClientProcess :=
  let created := msgRouteClientCreate process.openSockets socket connect
  let result := msgRouteClientInit process.vars appId created.1 threadRet
  (result.ret,
    { vars := result.vars
      openSockets :=
        if isAppId appId && !process.vars.isInit then created.2 else process.openSockets
      startedThreads := process.startedThreads + if result.started then 1 else 0
      isUp := process.isUp || decide (result.ret = 0) })

/-- `MsgRouteClientDeinit`. -/
def deinit (process : ClientProcess) : ClientProcess where
  vars := msgRouteClientDeinit process.vars
  openSockets := process.openSockets.erase process.vars.fd
  startedThreads := 0
  isUp := false

/-- The return value is `0` for the function that has none. -/
def call (process : ClientProcess) : LifecycleCall -> Int × ClientProcess
  | .init appId socket connect threadRet => process.init appId socket connect threadRet
  | .deinit => (0, process.deinit)

end ClientProcess

/-- What the kernel can return. -/
def Possible (process : ClientProcess) : LifecycleCall -> Prop
  | .init _ (some fd) _ _ => 0 ≤ fd ∧ fd ∉ process.openSockets
  | _ => True

instance (process : ClientProcess) : (made : LifecycleCall) -> Decidable (Possible process made)
  | .init _ (some fd) _ _ => inferInstanceAs (Decidable (0 ≤ fd ∧ fd ∉ process.openSockets))
  | .init _ none _ _ => isTrue trivial
  | .deinit => isTrue trivial

def lifecycleMachine : Machine ClientProcess LifecycleCall where
  step process made := if Possible process made then some (process.call made).2 else none

/-! ## What the client library promises -/

/-- Up with one socket and one thread, or down without a socket. -/
def UpOrDown (process : ClientProcess) : Prop :=
  if process.isUp then
    process.vars.fd ≠ -1 ∧ process.openSockets = [process.vars.fd] ∧ process.startedThreads = 1
  else process.openSockets = [] ∧ process.vars.fd = -1

/-- A call leaves the client up or down.  A failing `MsgRouteClientInit` changes
nothing while the client is down, and one with a valid id changes nothing while
it is up. -/
def KeepsLifecycle (process : ClientProcess) (made : LifecycleCall) : Prop :=
  UpOrDown (process.call made).2 ∧
  match made with
  | .init appId _ _ _ =>
      (process.isUp = false -> (process.call made).1 ≠ 0 -> (process.call made).2 = process) ∧
      (process.isUp -> isAppId appId -> (process.call made).1 = 0 ∧
        (process.call made).2.vars.fd = process.vars.fd ∧
        (process.call made).2.vars.curAppId = process.vars.curAppId ∧
        (process.call made).2.openSockets = process.openSockets)
  | .deinit => True

/-- The client is down when `MsgRouteClientInit` is called with a valid id, and
if the connection comes up then so does the thread. -/
def InitWhenDown (process : ClientProcess) : LifecycleCall -> Prop
  | .init appId socket connect threadRet =>
      isAppId appId -> process.isUp = false ∧
        (socket.isSome -> 0 ≤ connect -> threadRet = 0)
  | .deinit => True

/-! ## The cases of a call -/

section Cases

variable {process : ClientProcess} {appId fd : Int32} {socket : Option Int32}
  {connect threadRet : Int}

theorem isAppId_eq_false (invalid : isAppId appId = false) :
    appId ≤ MsgRouteClientId.allAppId.code ∨ Int32.ofNat maxAppId ≤ appId := by
  by_contra inside
  push Not at inside
  rw [isAppId, decide_eq_false_iff_not] at invalid
  exact invalid ⟨Int32.not_le.mp inside.1, Int32.not_le.mp inside.2⟩

theorem not_outside_of_isAppId (valid : isAppId appId = true) :
    ¬ (appId ≤ MsgRouteClientId.allAppId.code ∨ Int32.ofNat maxAppId ≤ appId) := by
  rw [isAppId, decide_eq_true_iff] at valid
  rintro (low | high)
  · exact Int32.not_le.mpr valid.1 low
  · exact Int32.not_le.mpr valid.2 high

/-- An invalid id is rejected at once. -/
theorem init_invalid (invalid : isAppId appId = false) :
    process.init appId socket connect threadRet = (-1, process) := by
  simp only [ClientProcess.init, msgRouteClientInit, if_pos (isAppId_eq_false invalid), invalid]
  simp

/-- Without a connection the call fails, and the socket is closed again. -/
theorem init_unconnected (valid : isAppId appId = true) (notInit : process.vars.isInit = false)
    (unconnected : socket.isSome -> connect < 0) :
    process.init appId socket connect threadRet = (-1, process) := by
  have nothing : msgRouteClientCreate process.openSockets socket connect =
      (none, process.openSockets) := by
    cases socket with
    | none => rfl
    | some fd => simp only [msgRouteClientCreate, if_pos (unconnected rfl), List.erase_cons_head]
  simp only [ClientProcess.init, msgRouteClientInit, if_neg (not_outside_of_isAppId valid), notInit,
    nothing]
  simp

/-- With a connection the descriptor is stored whether or not the thread can
be created. -/
theorem init_connected (valid : isAppId appId = true) (notInit : process.vars.isInit = false)
    (connected : 0 ≤ connect) :
    process.init appId (some fd) connect threadRet =
      if threadRet = 0 then
        (0, { vars := { process.vars with fd := fd, isRunning := true, curAppId := appId }
              openSockets := fd :: process.openSockets
              startedThreads := process.startedThreads + 1
              isUp := true })
      else
        (threadRet, { process with
              vars := { process.vars with fd := fd, isRunning := true }
              openSockets := fd :: process.openSockets }) := by
  have made : msgRouteClientCreate process.openSockets (some fd) connect =
      (some fd, fd :: process.openSockets) := by
    simp only [msgRouteClientCreate, if_neg (not_lt.mpr connected)]
  simp only [ClientProcess.init, msgRouteClientInit, if_neg (not_outside_of_isAppId valid), notInit,
    made, valid]
  by_cases started : threadRet = 0
  · simp [started]
  · simp [started]

end Cases

/-! ## Runs -/

/-- The invariant of the runs that keep the promise: `g_isInit` is never set. -/
structure LifecycleInv (process : ClientProcess) : Prop where
  upOrDown : UpOrDown process
  notInit : process.vars.isInit = false
  idle : process.isUp = false -> process.startedThreads = 0

theorem lifecycleInv_fresh : LifecycleInv ClientProcess.fresh :=
  ⟨⟨rfl, rfl⟩, rfl, fun _ => rfl⟩

theorem LifecycleInv.deinit {process : ClientProcess} (inv : LifecycleInv process) :
    LifecycleInv process.deinit := by
  refine ⟨⟨?_, rfl⟩, rfl, fun _ => rfl⟩
  have upOrDown := inv.upOrDown
  unfold UpOrDown at upOrDown
  change process.openSockets.erase process.vars.fd = []
  split at upOrDown
  · rw [upOrDown.2.1, List.erase_cons_head]
  · rw [upOrDown.1, List.erase_nil]

/-- A call that connects keeps the promise exactly if the client was down and
the thread was created. -/
theorem keepsLifecycle_connected_iff {process : ClientProcess} {appId fd : Int32}
    {connect threadRet : Int} (inv : LifecycleInv process) (valid : isAppId appId = true)
    (connected : 0 ≤ connect) (nonnegative : 0 ≤ fd) :
    KeepsLifecycle process (.init appId (some fd) connect threadRet) <->
      process.isUp = false ∧ threadRet = 0 := by
  have result : process.init appId (some fd) connect threadRet = _ :=
    init_connected valid inv.notInit connected
  have grows : fd :: process.openSockets ≠ process.openSockets := List.cons_ne_self _ _
  simp only [KeepsLifecycle, ClientProcess.call]
  constructor
  · rintro ⟨_, down, up⟩
    have isDown : process.isUp = false := by
      by_contra notDown
      have sockets := (up (by simpa using notDown) valid).2.2.2
      rw [result] at sockets
      split at sockets
      · exact grows sockets
      · exact grows sockets
    refine ⟨isDown, ?_⟩
    by_contra failed
    rw [result, if_neg failed] at down
    exact grows (congrArg ClientProcess.openSockets (down isDown failed))
  · rintro ⟨isDown, started⟩
    have upOrDown := inv.upOrDown
    rw [UpOrDown, isDown] at upOrDown
    rw [result, if_pos started]
    refine ⟨?_, fun _ failed => absurd rfl failed, fun isUp => ?_⟩
    · refine ⟨?_, ?_, ?_⟩
      · rintro rfl
        exact absurd nonnegative (by decide)
      · rw [upOrDown.1]
      · rw [inv.idle isDown]
    · rw [isDown] at isUp
      cases isUp

/-- A call without a connection keeps the promise exactly if the id is invalid
or the client was down. -/
theorem keepsLifecycle_unconnected_iff {process : ClientProcess} {appId : Int32}
    {socket : Option Int32} {connect threadRet : Int} (inv : LifecycleInv process)
    (unconnected : isAppId appId = true -> socket.isSome -> connect < 0) :
    KeepsLifecycle process (.init appId socket connect threadRet) <->
      (isAppId appId -> process.isUp = false) := by
  have result : process.init appId socket connect threadRet = (-1, process) := by
    cases valid : isAppId appId with
    | false => exact init_invalid valid
    | true => exact init_unconnected valid inv.notInit (unconnected valid)
  simp only [KeepsLifecycle, ClientProcess.call, result]
  constructor
  · rintro ⟨_, _, up⟩ valid
    by_contra notDown
    have succeeds := (up (by simpa using notDown) valid).1
    cases succeeds
  · intro down
    refine ⟨inv.upOrDown, fun _ _ => trivial, fun isUp valid => ?_⟩
    rw [down valid] at isUp
    cases isUp

theorem keepsLifecycle_iff {process : ClientProcess} {made : LifecycleCall}
    (inv : LifecycleInv process) (possible : Possible process made) :
    KeepsLifecycle process made <-> InitWhenDown process made := by
  cases made with
  | deinit => exact iff_of_true ⟨inv.deinit.upOrDown, trivial⟩ trivial
  | init appId socket connect threadRet =>
      by_cases connects : isAppId appId = true ∧ socket.isSome ∧ 0 ≤ connect
      · rcases connects with ⟨valid, isSocket, connected⟩
        rcases Option.isSome_iff_exists.mp isSocket with ⟨fd, rfl⟩
        rw [keepsLifecycle_connected_iff inv valid connected possible.1]
        exact ⟨fun keeps _ => ⟨keeps.1, fun _ _ => keeps.2⟩,
          fun whenDown => ⟨(whenDown valid).1, (whenDown valid).2 (by simp) connected⟩⟩
      · have unconnected : isAppId appId = true -> socket.isSome -> connect < 0 := by
          intro valid isSocket
          by_contra connected
          exact connects ⟨valid, isSocket, by omega⟩
        rw [keepsLifecycle_unconnected_iff inv unconnected]
        constructor
        · intro down valid
          exact ⟨down valid, fun isSocket connected =>
            absurd ⟨valid, isSocket, connected⟩ connects⟩
        · exact fun whenDown valid => (whenDown valid).1

/-- A call that keeps the promise keeps the invariant. -/
theorem LifecycleInv.call {process : ClientProcess} {made : LifecycleCall}
    (inv : LifecycleInv process) (keeps : KeepsLifecycle process made) :
    LifecycleInv (process.call made).2 := by
  cases made with
  | deinit => exact inv.deinit
  | init appId socket connect threadRet =>
      refine ⟨keeps.1, ?_, ?_⟩
      · simp only [ClientProcess.call, ClientProcess.init, msgRouteClientInit, inv.notInit]
        split
        · exact inv.notInit
        · simp only [Bool.false_eq_true, if_false]
          split
          · exact inv.notInit
          · split <;> rfl
      · intro staysDown
        have wasDown : process.isUp = false := by
          simp only [ClientProcess.call, ClientProcess.init, Bool.or_eq_false_iff] at staysDown
          exact staysDown.1
        have failed : (process.call (.init appId socket connect threadRet)).1 ≠ 0 := by
          simp only [ClientProcess.call, ClientProcess.init, Bool.or_eq_false_iff,
            decide_eq_false_iff_not] at staysDown ⊢
          exact staysDown.2
        rw [keeps.2.1 wasDown failed]
        exact inv.idle wasDown

/-- In every sequence of calls, each call keeps the promise if and only if
each finds the client down when it could connect, with its thread created. -/
theorem lifecycle_iff_initWhenDown (calls : List LifecycleCall)
    (possible : lifecycleMachine.AllSteps Possible ClientProcess.fresh calls) :
    lifecycleMachine.AllSteps KeepsLifecycle ClientProcess.fresh calls <->
      lifecycleMachine.AllSteps InitWhenDown ClientProcess.fresh calls := by
  apply lifecycleMachine.allSteps_iff _ _ lifecycleInv_fresh possible
  · exact fun process made inv isPossible => keepsLifecycle_iff inv isPossible
  · intro process made next inv isPossible whenDown stepped
    have keeps := (keepsLifecycle_iff inv isPossible).mpr whenDown
    simp only [lifecycleMachine, if_pos isPossible, Option.some.injEq] at stepped
    exact stepped ▸ inv.call keeps

/-- Two lives of a client, with an attempt that cannot connect in between and
an invalid id while it is up. -/
def twoLives : List LifecycleCall :=
  [.init 1 (some 3) 0 0, .init 0 none 0 0, .deinit, .init 2 (some 3) (-1) 0, .init 2 (some 3) 0 0,
    .deinit]

theorem lifecycle_iff_initWhenDown_twoLives :
    lifecycleMachine.AllSteps KeepsLifecycle ClientProcess.fresh twoLives <->
      lifecycleMachine.AllSteps InitWhenDown ClientProcess.fresh twoLives :=
  lifecycle_iff_initWhenDown twoLives (by decide +kernel)

/-- A second `MsgRouteClientInit` while the client is up opens another socket. -/
theorem secondInit_breaks_lifecycle :
    lifecycleMachine.AllSteps Possible ClientProcess.fresh
        [.init 1 (some 3) 0 0, .init 1 (some 4) 0 0] ∧
      ¬ lifecycleMachine.AllSteps KeepsLifecycle ClientProcess.fresh
        [.init 1 (some 3) 0 0, .init 1 (some 4) 0 0] := by
  refine ⟨by decide +kernel, fun keeps => ?_⟩
  have second := (keeps.2 _ rfl).1.2.2 rfl (by decide)
  exact absurd second.2.1 (by decide)

end MsgRoute
end V2x
