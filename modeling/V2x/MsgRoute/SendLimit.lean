import V2x.MsgRoute.Delivery

namespace V2x
namespace MsgRoute

open Foundations ThreadPool

/-!
# How often a job calls `send`

The loop of `MsgRouteCoreJobFunc` visits each target slot once, and the branch
for an answer calls `send` once.  So the number of calls is bounded by the
message alone, whatever the epoll thread does to the table meanwhile.
-/

/-- The calls of `send` that a message may cause. -/
def sendLimit (msgData : MsgRouteDataInfo) : Nat :=
  if msgData.dataType = MsgRouteDataType.answer.code then 1 else (targets msgData).length

/-- The calls that a job may still make. -/
def JobPc.sendsLeft (msgData : MsgRouteDataInfo) : JobPc -> Nat
  | .copyTable | .chooseBranch => sendLimit msgData
  | .sendAnswer => 1
  | .testFd _ rest | .testFlag _ rest | .loadFd _ rest | .send _ _ rest => rest.length + 1
  | .release | .returned => 0

/-- No execution has called `send` more often, counting the calls that are left. -/
def WithinLimit (packetOf : Nat -> Option Packet) (runs : List JobRun) : Prop :=
  forall run packet, run ∈ runs -> packetOf run.serial = some packet ->
    run.sends.length + run.frame.pc.sendsLeft packet.msg ≤ sendLimit packet.msg

theorem sendsLeft_next (msgData : MsgRouteDataInfo) (rest : List Nat) :
    (JobPc.next rest).sendsLeft msgData = rest.length := by
  cases rest <;> rfl

/-- A step pays for its calls out of those that are left. -/
theorem msgRouteCoreJobFunc_pays {table : ClientInfoTable} {msgData : MsgRouteDataInfo}
    {frame after : JobFrame} {calls : List SendCall}
    (moved : msgRouteCoreJobFunc table msgData frame = some (after, calls)) :
    calls.length + after.pc.sendsLeft msgData ≤ frame.pc.sendsLeft msgData := by
  rcases frame with ⟨stack, pc⟩
  rcases after with ⟨stackAfter, pcAfter⟩
  cases msgRouteCoreJobFunc_cases moved with
  | copies => exact Nat.le_of_eq (Nat.zero_add _)
  | answers isAnswer =>
      change 0 + 1 ≤ sendLimit msgData
      rw [sendLimit, if_pos isAnswer]
  | routes notAnswer =>
      change 0 + (JobPc.next (targets msgData)).sendsLeft msgData ≤ sendLimit msgData
      rw [sendsLeft_next, sendLimit, if_neg notAnswer, Nat.zero_add]
  | sendsAnswer => exact Nat.le_refl 1
  | skipsFree slot rest | skipsUnset slot rest =>
      change 0 + (JobPc.next rest).sendsLeft msgData ≤ rest.length + 1
      rw [sendsLeft_next]
      omega
  | findsTaken | findsSet | loads => exact Nat.le_of_eq (Nat.zero_add _)
  | sends slot fd rest =>
      change 1 + (JobPc.next rest).sendsLeft msgData ≤ rest.length + 1
      rw [sendsLeft_next, Nat.add_comm]
  | releases => exact Nat.le_refl 0

section Runs

variable {state next : RouteState} {packetOf : Nat -> Option Packet} {runs : List JobRun}

theorem WithinLimit.observe (within : WithinLimit packetOf runs) (table : ClientInfoTable) :
    WithinLimit packetOf (runs.map (JobRun.observe table)) := by
  intro run packet member isPacket
  rcases List.mem_map.mp member with ⟨before, old, rfl⟩
  rw [serial_observe] at isPacket
  rw [sends_observe, frame_observe]
  exact within before packet old isPacket

/-- An execution that begins may still make all of its calls. -/
theorem WithinLimit.start (within : WithinLimit packetOf runs) {pool : RoutePool} {thread : Nat}
    {stack table : ClientInfoTable} :
    WithinLimit packetOf (runs ++ (startedRun pool thread stack table).toList) := by
  intro run packet member isPacket
  rcases List.mem_append.mp member with old | new
  · exact within run packet old isPacket
  · have started := Option.mem_toList.mp new
    unfold startedRun at started
    split at started
    · rcases Option.map_eq_some_iff.mp started with ⟨jobInfo, _, rfl⟩
      simp [JobFrame.start, JobPc.sendsLeft]
    · cases started

theorem WithinLimit.advance (within : WithinLimit packetOf runs) {run : JobRun} {frame : JobFrame}
    {calls : List SendCall}
    (alone : forall other, other ∈ runs -> other.serial = run.serial -> other = run)
    {packet : Packet} (isPacket : packetOf run.serial = some packet) {table : ClientInfoTable}
    (moved : msgRouteCoreJobFunc table packet.msg run.frame = some (frame, calls)) :
    WithinLimit packetOf (runs.map (JobRun.advance run.serial frame calls)) := by
  intro other otherPacket member isOther
  rcases List.mem_map.mp member with ⟨before, old, rfl⟩
  by_cases same : before.serial = run.serial
  · rw [advance_same same] at isOther ⊢
    have isRun := alone before old same
    subst isRun
    cases isPacket.symm.trans isOther
    have paid := msgRouteCoreJobFunc_pays moved
    have bounded := within before packet old isPacket
    change (before.sends ++ calls).length + frame.pc.sendsLeft packet.msg ≤ _
    rw [List.length_append]
    omega
  · rw [advance_other same] at isOther ⊢
    exact within before otherPacket old isOther

theorem WithinLimit.congr (within : WithinLimit packetOf runs) {later : Nat -> Option Packet}
    (same : forall run, run ∈ runs -> later run.serial = packetOf run.serial) :
    WithinLimit later runs := by
  intro run packet member isPacket
  rw [same run member] at isPacket
  exact within run packet member isPacket

/-- Every job keeps its packet. -/
theorem packetOf_next {label : RouteLabel} (links : RouteLinks state)
    (stepped : routeStep state label = some next) {run : JobRun} (member : run ∈ state.runs) :
    next.packetOf run.serial = state.packetOf run.serial := by
  rcases links.owned with ⟨nodes, datas, jobs, owned⟩
  rcases links.runs.job run member with ⟨jobInfo, taken, _⟩
  have below := (List.getElem?_eq_some_iff.mp (owned.accepted_of_dequeued taken)).1
  rw [← links.counted] at below
  cases routeStep_cases stepped with
  | hears => exact packetOf_append links.idsBelow _ _
  | inserts => simp only [RouteState.packetOf, List.getElem?_append_left below]
  | _ => rfl

theorem withinLimit_step {label : RouteLabel} (links : RouteLinks state)
    (within : WithinLimit state.packetOf state.runs) (stepped : routeStep state label = some next) :
    WithinLimit next.packetOf next.runs := by
  have kept := within.congr (fun run member => packetOf_next links stepped member)
  cases routeStep_cases stepped with
  | hears event server isEpoll taken => exact kept.observe server.clientInfo
  | works thread stack pool may taken => exact kept.start
  | runs thread run frame calls heap isMove freed =>
      rcases links.jobMove isMove with ⟨packet, moves⟩
      exact kept.advance (fun _ member same => links.runs.eq_of_serial member moves.member same)
        moves.isPacket moves.moved
  | _ => exact kept

end Runs

end MsgRoute
end V2x
