import V2x.MsgRoute.RoutingJob

namespace V2x
namespace MsgRoute

open Foundations

/-!
# What one routing job sends to one slot

`RoutingJob` compares all that a job sends with one state of the table.  Here a
single slot is followed, whatever happens to the others: as long as its
descriptor and its flag stay as they are, the job sends to it once or not at
all, as these two fields say.
-/

/-- The descriptors that were sent to on account of a slot. -/
def sendsTo (slot : Nat) (sends : List SendCall) : List Int32 :=
  sends.filterMap (fun call => if call.slot = some slot then some call.fd else none)

theorem sendsTo_append (slot : Nat) (first second : List SendCall) :
    sendsTo slot (first ++ second) = sendsTo slot first ++ sendsTo slot second :=
  List.filterMap_append

/-- What a slot gets that has this descriptor and this flag. -/
def slotSends (fd : Int32) (flag : Bool) : List Int32 :=
  if fd ≠ -1 ∧ flag = true then [fd] else []

/-- The descriptor that was read for the slot and is not yet sent to. -/
def JobPc.inFlightTo (slot : Nat) : JobPc -> List Int32
  | .send current fd _ => if current = slot then [fd] else []
  | _ => []

@[simp] theorem inFlightTo_next (slot : Nat) (rest : List Nat) :
    (JobPc.next rest).inFlightTo slot = [] := by
  cases rest <;> rfl

/-! ## The calls of `send` -/

/-- Every call is for a target, and it sends the whole message. -/
structure CallsOk (msgData : MsgRouteDataInfo) (pc : JobPc) (sends : List SendCall) : Prop where
  calls : forall call, call ∈ sends ->
    (Exists fun slot => slot ∈ targets msgData ∧ call.slot = some slot) ∧
    call.bytes = msgData.copy
  ahead : Exists fun finished => targets msgData = finished ++ pc.unfinished msgData
  sending : forall slot fd rest, pc = .send slot fd rest ->
    slot ∈ targets msgData ∧ slot ∉ rest
  notAnswer : pc ≠ .sendAnswer

section Calls

variable {msgData : MsgRouteDataInfo} {pc : JobPc} {sends : List SendCall}

theorem CallsOk.start : CallsOk msgData .copyTable [] where
  calls := fun _ member => absurd member List.not_mem_nil
  ahead := ⟨[], rfl⟩
  sending := nofun
  notAnswer := nofun

/-- A step that sends nothing and finishes no slot. -/
theorem CallsOk.stay (ok : CallsOk msgData pc sends) {later : JobPc}
    (same : later.unfinished msgData = pc.unfinished msgData)
    (notSending : forall slot fd rest, later ≠ .send slot fd rest)
    (notAnswer : later ≠ .sendAnswer) : CallsOk msgData later sends where
  calls := ok.calls
  ahead := same ▸ ok.ahead
  sending := fun slot fd rest isSend => absurd isSend (notSending slot fd rest)
  notAnswer := notAnswer

theorem next_ne_send (rest : List Nat) (slot : Nat) (fd : Int32) (others : List Nat) :
    JobPc.next rest ≠ .send slot fd others := by
  cases rest <;> nofun

theorem next_ne_sendAnswer (rest : List Nat) : JobPc.next rest ≠ .sendAnswer := by
  cases rest <;> nofun

/-- The loop goes on with the slots behind the current one. -/
theorem CallsOk.next (ok : CallsOk msgData pc sends) {before rest : List Nat}
    (unfinished : pc.unfinished msgData = before ++ rest) :
    CallsOk msgData (JobPc.next rest) sends := by
  rcases ok.ahead with ⟨finished, split⟩
  refine ⟨ok.calls, ⟨finished ++ before, ?_⟩, ?_, next_ne_sendAnswer rest⟩
  · rw [unfinished_next, split, unfinished, List.append_assoc]
  · exact fun slot fd others isSend => absurd isSend (next_ne_send rest slot fd others)

/-- Every step keeps the calls in order. -/
theorem CallsOk.step {table : ClientInfoTable} {frame after : JobFrame} {calls : List SendCall}
    (notAnswer : msgData.dataType ≠ MsgRouteDataType.answer.code)
    (ok : CallsOk msgData frame.pc sends)
    (moved : msgRouteCoreJobFunc table msgData frame = some (after, calls)) :
    CallsOk msgData after.pc (sends ++ calls) := by
  rcases frame with ⟨stack, pc⟩
  rcases after with ⟨stackAfter, pcAfter⟩
  cases msgRouteCoreJobFunc_cases moved with
  | answers isAnswer => exact absurd isAnswer notAnswer
  | sendsAnswer => exact absurd rfl ok.notAnswer
  | routes _ =>
      rw [List.append_nil]
      exact ok.next (List.nil_append _).symm
  | skipsFree slot rest | skipsUnset slot rest =>
      rw [List.append_nil]
      exact ok.next (List.singleton_append).symm
  | copies | findsTaken | findsSet | releases =>
      rw [List.append_nil]
      exact ok.stay rfl (by simp) (by simp)
  | loads slot rest =>
      rw [List.append_nil]
      rcases ok.ahead with ⟨finished, split⟩
      refine ⟨ok.calls, ⟨finished ++ [slot], ?_⟩, ?_, by simp⟩
      · rw [split, List.append_assoc]
        rfl
      · rintro current fd others same
        cases same
        exact target_of_front split
  | sends slot fd rest =>
      have onward := ok.next (List.nil_append rest).symm
      refine ⟨?_, onward.ahead, onward.sending, onward.notAnswer⟩
      intro call member
      rcases List.mem_append.mp member with old | new
      · exact ok.calls call old
      · rw [List.mem_singleton.mp new]
        exact ⟨⟨slot, (ok.sending slot fd rest rfl).1, rfl⟩, rfl⟩

end Calls

/-! ## One slot -/

/-- What the tests passed so far say about the slot, if it is the current one. -/
def JobPc.TestedFor (slot : Nat) (fd : Int32) (flag : Bool) : JobPc -> Prop
  | .testFlag current _ => current = slot -> fd ≠ -1
  | .loadFd current _ => current = slot -> fd ≠ -1 ∧ flag = true
  | _ => True

/-- The slot has got nothing while it is ahead, and all it gets once it is
behind. -/
structure SlotServed (msgData : MsgRouteDataInfo) (slot : Nat) (fd : Int32) (flag : Bool)
    (pc : JobPc) (sends : List SendCall) : Prop where
  waiting : slot ∈ pc.unfinished msgData -> sendsTo slot sends = []
  served : slot ∉ pc.unfinished msgData ->
    sendsTo slot sends ++ pc.inFlightTo slot = slotSends fd flag
  tested : pc.TestedFor slot fd flag

section Slot

variable {msgData : MsgRouteDataInfo} {slot : Nat} {fd : Int32} {flag : Bool} {pc later : JobPc}
  {sends : List SendCall} {current : Nat} {rest : List Nat}

theorem SlotServed.start (target : slot ∈ targets msgData) :
    SlotServed msgData slot fd flag .copyTable [] where
  waiting := fun _ => rfl
  served := fun notAhead => absurd target notAhead
  tested := trivial

theorem testedFor_next (slot : Nat) (fd : Int32) (flag : Bool) (rest : List Nat) :
    (JobPc.next rest).TestedFor slot fd flag := by
  cases rest <;> exact trivial

/-- A step that finishes no slot. -/
theorem SlotServed.stay (serves : SlotServed msgData slot fd flag pc sends)
    (same : later.unfinished msgData = pc.unfinished msgData)
    (sameFlight : later.inFlightTo slot = pc.inFlightTo slot)
    (tested : later.TestedFor slot fd flag) : SlotServed msgData slot fd flag later sends where
  waiting := same ▸ serves.waiting
  served := by
    rw [same, sameFlight]
    exact serves.served
  tested := tested

/-- The current slot gets nothing, and the loop goes on. -/
theorem SlotServed.skip (serves : SlotServed msgData slot fd flag pc sends)
    (unfinished : pc.unfinished msgData = current :: rest) (noFlight : pc.inFlightTo slot = [])
    (nothing : current = slot -> slotSends fd flag = []) :
    SlotServed msgData slot fd flag (JobPc.next rest) sends := by
  constructor
  · intro ahead
    rw [unfinished_next] at ahead
    exact serves.waiting (unfinished ▸ List.mem_cons_of_mem _ ahead)
  · intro behind
    rw [unfinished_next] at behind
    rw [inFlightTo_next, List.append_nil]
    by_cases here : current = slot
    · rw [nothing here]
      exact serves.waiting (by rw [unfinished, here]; exact List.mem_cons_self)
    · have before := serves.served (by
        rw [unfinished]
        exact fun member => (List.mem_cons.mp member).elim (fun same => here same.symm) behind)
      rw [noFlight, List.append_nil] at before
      exact before
  · exact testedFor_next slot fd flag rest

/-- The descriptor of the current slot is read. -/
theorem SlotServed.load (serves : SlotServed msgData slot fd flag (.loadFd current rest) sends)
    {found : Int32} (isFound : current = slot -> found = fd) :
    SlotServed msgData slot fd flag (.send current found rest) sends := by
  constructor
  · exact fun ahead => serves.waiting (List.mem_cons_of_mem _ ahead)
  · intro behind
    change sendsTo slot sends ++ (if current = slot then [found] else []) = slotSends fd flag
    by_cases here : current = slot
    · rw [if_pos here, isFound here, serves.waiting (here ▸ List.mem_cons_self), List.nil_append]
      exact (if_pos (serves.tested here)).symm
    · rw [if_neg here]
      exact serves.served (fun member =>
        (List.mem_cons.mp member).elim (fun same => here same.symm) behind)
  · exact trivial

/-- The descriptor that was read is sent to. -/
theorem SlotServed.deliver {found : Int32} {bytes : List UInt8}
    (serves : SlotServed msgData slot fd flag (.send current found rest) sends)
    (notLater : current ∉ rest) :
    SlotServed msgData slot fd flag (JobPc.next rest)
      (sends ++ [⟨some current, found, bytes⟩]) := by
  have added : sendsTo slot [⟨some current, found, bytes⟩] =
      if current = slot then [found] else [] := by
    by_cases here : current = slot
    · simp only [sendsTo, List.filterMap_cons, here, if_true, List.filterMap_nil]
    · have different : ¬ some current = some slot := fun same => here (Option.some.inj same)
      simp only [sendsTo, List.filterMap_cons, different, here, if_false, List.filterMap_nil]
  constructor
  · intro ahead
    rw [unfinished_next] at ahead
    have away : current ≠ slot := fun here => notLater (here ▸ ahead)
    rw [sendsTo_append, added, if_neg away, List.append_nil]
    exact serves.waiting ahead
  · intro behind
    rw [unfinished_next] at behind
    rw [inFlightTo_next, List.append_nil, sendsTo_append, added]
    exact serves.served behind
  · exact testedFor_next slot fd flag rest

/-- Every step serves the slot as its two fields say. -/
theorem SlotServed.step {table : ClientInfoTable} {frame after : JobFrame} {calls : List SendCall}
    (notAnswer : msgData.dataType ≠ MsgRouteDataType.answer.code)
    (ok : CallsOk msgData frame.pc sends)
    (serves : SlotServed msgData slot fd flag frame.pc sends)
    (isFd : table.fd slot = fd) (isFlag : table.msgFlag slot msgData.typeIndex = flag)
    (moved : msgRouteCoreJobFunc table msgData frame = some (after, calls)) :
    SlotServed msgData slot fd flag after.pc (sends ++ calls) := by
  rcases frame with ⟨stack, pc⟩
  rcases after with ⟨stackAfter, pcAfter⟩
  cases msgRouteCoreJobFunc_cases moved with
  | answers isAnswer => exact absurd isAnswer notAnswer
  | sendsAnswer => exact absurd rfl ok.notAnswer
  | copies | releases =>
      rw [List.append_nil]
      exact serves.stay rfl rfl trivial
  | routes _ =>
      rw [List.append_nil]
      exact serves.stay (unfinished_next msgData _) (inFlightTo_next slot _)
        (testedFor_next slot fd flag _)
  | skipsFree current rest free =>
      rw [List.append_nil]
      apply serves.skip rfl rfl
      rintro rfl
      exact if_neg (fun routed => routed.1 (isFd.symm.trans free))
  | findsTaken current rest taken =>
      rw [List.append_nil]
      refine serves.stay rfl rfl ?_
      rintro rfl
      exact fun free => taken (isFd.trans free)
  | findsSet current rest set =>
      rw [List.append_nil]
      refine serves.stay rfl rfl ?_
      intro here
      exact ⟨serves.tested here, by rw [← isFlag, ← here]; exact set⟩
  | skipsUnset current rest unset =>
      rw [List.append_nil]
      apply serves.skip rfl rfl
      intro here
      apply if_neg
      exact fun routed => unset (by rw [here, isFlag]; exact routed.2)
  | loads current rest =>
      rw [List.append_nil]
      exact serves.load (fun here => here ▸ isFd)
  | sends current found rest => exact serves.deliver (ok.sending current found rest rfl).2

end Slot

/-! ## Answers -/

/-- What the job of an answer has sent where it stands. -/
def AnswerOk (msgData : MsgRouteDataInfo) (sends : List SendCall) : JobPc -> Prop
  | .copyTable => sends = []
  | .chooseBranch => sends = []
  | .sendAnswer => sends = []
  | .release => sends = [⟨none, msgData.src, msgData.copy⟩]
  | .returned => sends = [⟨none, msgData.src, msgData.copy⟩]
  | _ => False

/-- An answer goes to `src`, and nowhere else. -/
theorem AnswerOk.step {msgData : MsgRouteDataInfo} {sends : List SendCall} {table : ClientInfoTable}
    {frame after : JobFrame} {calls : List SendCall}
    (isAnswer : msgData.dataType = MsgRouteDataType.answer.code)
    (ok : AnswerOk msgData sends frame.pc)
    (moved : msgRouteCoreJobFunc table msgData frame = some (after, calls)) :
    AnswerOk msgData (sends ++ calls) after.pc := by
  rcases frame with ⟨stack, pc⟩
  rcases after with ⟨stackAfter, pcAfter⟩
  cases msgRouteCoreJobFunc_cases moved with
  | copies | answers | releases => exact (List.append_nil _).trans ok
  | routes notAnswer => exact absurd isAnswer notAnswer
  | sendsAnswer =>
      change sends = [] at ok
      rw [ok]
      rfl
  | _ => exact ok.elim

/-- An answer that is sent at all is sent once. -/
theorem AnswerOk.sends_eq {msgData : MsgRouteDataInfo} {sends : List SendCall} {pc : JobPc}
    (ok : AnswerOk msgData sends pc) (sent : sends ≠ []) :
    sends = [⟨none, msgData.src, msgData.copy⟩] := by
  cases pc with
  | copyTable => exact absurd ok sent
  | chooseBranch => exact absurd ok sent
  | sendAnswer => exact absurd ok sent
  | release => exact ok
  | returned => exact ok
  | _ => exact ok.elim

end MsgRoute
end V2x
