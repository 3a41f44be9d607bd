import V2x.Foundations.TransitionSystem
import V2x.MsgRoute.Core
import Mathlib.Data.List.Nodup

namespace V2x
namespace MsgRoute

open Foundations

/-!
# The routing job `MsgRouteCoreJobFunc`

The job runs on a pool worker while the epoll thread goes on changing the
table.  Each of its reads of `g_clientInfo` is a step of its own, and so is each
`send`.  The copy that the job takes under the lock is part of its frame; no
later step looks at it.

`routingRule` says to which descriptors a message goes in one state of the
table.  The second half of the module compares the job with it.
-/

/-- Where the job stands.  The list holds the slots the loop has still to visit. -/
inductive JobPc where
  | copyTable
  | chooseBranch
  | sendAnswer
  | testFd (slot : Nat) (rest : List Nat)
  | testFlag (slot : Nat) (rest : List Nat)
  | loadFd (slot : Nat) (rest : List Nat)
  | send (slot : Nat) (fd : Int32) (rest : List Nat)
  | release
  | returned
deriving DecidableEq, Repr

/-- The local variables of the job. -/
structure JobFrame where
  clientInfo : ClientInfoTable
  pc : JobPc

/-- A call of `send`.  An answer is sent without looking at a slot. -/
structure SendCall where
  slot : Option Nat
  fd : Int32
  bytes : List UInt8
deriving DecidableEq, Repr

/-- A job that has just been called. -/
def JobFrame.start (stack : ClientInfoTable) : JobFrame where
  clientInfo := stack
  pc := .copyTable

/-- The head of the loop over the slots. -/
def JobPc.next : List Nat -> JobPc
  | [] => .release
  | slot :: rest => .testFd slot rest

def JobFrame.goto (frame : JobFrame) (pc : JobPc) : JobFrame :=
  { frame with pc := pc }

/-- One step of `MsgRouteCoreJobFunc` on the message at `arg`.  The reads that
only feed a log line are left out. -/
def msgRouteCoreJobFunc (table : ClientInfoTable) (msgData : MsgRouteDataInfo) (frame : JobFrame) :
    Option (JobFrame × List SendCall) :=
  match frame.pc with
  | .copyTable => some ({ clientInfo := table, pc := .chooseBranch }, [])
  | .chooseBranch =>
      if msgData.dataType = MsgRouteDataType.answer.code then some (frame.goto .sendAnswer, [])
      else some (frame.goto (JobPc.next (targets msgData)), [])
  | .sendAnswer => some (frame.goto .release, [⟨none, msgData.src, msgData.copy⟩])
  | .testFd slot rest =>
      if table.fd slot = -1 then some (frame.goto (JobPc.next rest), [])
      else some (frame.goto (.testFlag slot rest), [])
  | .testFlag slot rest =>
      if table.msgFlag slot msgData.typeIndex then some (frame.goto (.loadFd slot rest), [])
      else some (frame.goto (JobPc.next rest), [])
  | .loadFd slot rest => some (frame.goto (.send slot (table.fd slot) rest), [])
  | .send slot fd rest =>
      some (frame.goto (JobPc.next rest), [⟨some slot, fd, msgData.copy⟩])
  | .release => some (frame.goto .returned, [])
  | .returned => none

/-- The steps of a job: where it stands before and after, and what it sends. -/
inductive JobMove (table : ClientInfoTable) (msgData : MsgRouteDataInfo) :
    JobPc -> JobPc -> List SendCall -> Prop where
  | copies : JobMove table msgData .copyTable .chooseBranch []
  | answers (isAnswer : msgData.dataType = MsgRouteDataType.answer.code) :
      JobMove table msgData .chooseBranch .sendAnswer []
  | routes (notAnswer : msgData.dataType ≠ MsgRouteDataType.answer.code) :
      JobMove table msgData .chooseBranch (JobPc.next (targets msgData)) []
  | sendsAnswer :
      JobMove table msgData .sendAnswer .release [⟨none, msgData.src, msgData.copy⟩]
  | skipsFree (slot : Nat) (rest : List Nat) (free : table.fd slot = -1) :
      JobMove table msgData (.testFd slot rest) (JobPc.next rest) []
  | findsTaken (slot : Nat) (rest : List Nat) (taken : table.fd slot ≠ -1) :
      JobMove table msgData (.testFd slot rest) (.testFlag slot rest) []
  | skipsUnset (slot : Nat) (rest : List Nat)
      (unset : ¬ table.msgFlag slot msgData.typeIndex = true) :
      JobMove table msgData (.testFlag slot rest) (JobPc.next rest) []
  | findsSet (slot : Nat) (rest : List Nat) (set : table.msgFlag slot msgData.typeIndex = true) :
      JobMove table msgData (.testFlag slot rest) (.loadFd slot rest) []
  | loads (slot : Nat) (rest : List Nat) :
      JobMove table msgData (.loadFd slot rest) (.send slot (table.fd slot) rest) []
  | sends (slot : Nat) (fd : Int32) (rest : List Nat) :
      JobMove table msgData (.send slot fd rest) (JobPc.next rest) [⟨some slot, fd, msgData.copy⟩]
  | releases : JobMove table msgData .release .returned []

theorem msgRouteCoreJobFunc_cases {table : ClientInfoTable} {msgData : MsgRouteDataInfo}
    {frame after : JobFrame} {calls : List SendCall}
    (moved : msgRouteCoreJobFunc table msgData frame = some (after, calls)) :
    JobMove table msgData frame.pc after.pc calls := by
  rcases frame with ⟨stack, pc⟩
  cases pc with
  | copyTable =>
      cases moved
      exact .copies
  | chooseBranch =>
      simp only [msgRouteCoreJobFunc] at moved
      split at moved
      next isAnswer =>
        cases moved
        exact .answers isAnswer
      next notAnswer =>
        cases moved
        exact .routes notAnswer
  | sendAnswer =>
      cases moved
      exact .sendsAnswer
  | testFd slot rest =>
      simp only [msgRouteCoreJobFunc] at moved
      split at moved
      next free =>
        cases moved
        exact .skipsFree slot rest free
      next taken =>
        cases moved
        exact .findsTaken slot rest taken
  | testFlag slot rest =>
      simp only [msgRouteCoreJobFunc] at moved
      split at moved
      next set =>
        cases moved
        exact .findsSet slot rest set
      next unset =>
        cases moved
        exact .skipsUnset slot rest unset
  | loadFd slot rest =>
      cases moved
      exact .loads slot rest
  | send slot fd rest =>
      cases moved
      exact .sends slot fd rest
  | release =>
      cases moved
      exact .releases
  | returned => cases moved

/-! ## The routing rule -/

/-- What a slot contributes to the descriptors a message is sent to. -/
def routeOf (table : ClientInfoTable) (msgData : MsgRouteDataInfo) (slot : Nat) : Option Int32 :=
  if table.fd slot ≠ -1 ∧ table.msgFlag slot msgData.typeIndex = true then some (table.fd slot)
  else none

/-- The descriptors a message goes to in one state of the table. -/
def routingRule (table : ClientInfoTable) (msgData : MsgRouteDataInfo) : List Int32 :=
  (targets msgData).filterMap (routeOf table msgData)

theorem routeOf_ne {table : ClientInfoTable} {msgData : MsgRouteDataInfo} {slot : Nat} {fd : Int32}
    (routed : routeOf table msgData slot = some fd) : fd ≠ -1 := by
  unfold routeOf at routed
  split at routed
  next holds => exact Option.some.inj routed ▸ holds.1
  next => cases routed

/-- The rule looks at a slot's descriptor and at one of its flags. -/
theorem routeOf_congr {first second : ClientInfoTable} {msgData : MsgRouteDataInfo} {slot : Nat}
    (sameFd : first.fd slot = second.fd slot)
    (sameFlag : first.msgFlag slot msgData.typeIndex = second.msgFlag slot msgData.typeIndex) :
    routeOf first msgData slot = routeOf second msgData slot := by
  unfold routeOf
  rw [sameFd, sameFlag]

theorem targets_nodup (msgData : MsgRouteDataInfo) : (targets msgData).Nodup := by
  unfold targets
  split
  · exact List.nodup_range
  · exact List.nodup_singleton _

/-! ## The job among updates of the table -/

/-- An update that the epoll thread makes in one section of `g_clientInfoLock`. -/
inductive TableUpdate where
  | control (msgData : MsgRouteDataInfo) (isAdd : Bool)
  | erase (fd : Int32)

def TableUpdate.apply (table : ClientInfoTable) : TableUpdate -> ClientInfoTable
  | .control msgData isAdd => msgRouteCoreUpdateClientSubscribeInfo table msgData isAdd
  | .erase fd => msgRouteCoreEraseClientInfo table fd

/-- One job and the table.  `tables` are the states the table went through while
the job ran.  `overtaken` says that an update changed a field which the job had
already read, and `anchor` is the table before the first such update. -/
structure RoutingState where
  table : ClientInfoTable
  frame : JobFrame
  sends : List SendCall
  tables : List ClientInfoTable
  anchor : ClientInfoTable
  overtaken : Bool

inductive RoutingLabel where
  | job
  | epoll (update : TableUpdate)

/-- The slots whose descriptor the job has not read at all. -/
def JobPc.notBegun (msgData : MsgRouteDataInfo) : JobPc -> List Nat
  | .copyTable => targets msgData
  | .chooseBranch => targets msgData
  | .testFd slot rest => slot :: rest
  | .testFlag _ rest => rest
  | .loadFd _ rest => rest
  | .send _ _ rest => rest
  | .sendAnswer => []
  | .release => []
  | .returned => []

/-- The slots whose flag the job has still to read.  It reads a flag once. -/
def JobPc.flagPending (msgData : MsgRouteDataInfo) : JobPc -> List Nat
  | .copyTable => targets msgData
  | .chooseBranch => targets msgData
  | .testFd slot rest => slot :: rest
  | .testFlag slot rest => slot :: rest
  | .loadFd _ rest => rest
  | .send _ _ rest => rest
  | .sendAnswer => []
  | .release => []
  | .returned => []

/-- The slots whose descriptor the job has still to read, perhaps once more. -/
def JobPc.unfinished (msgData : MsgRouteDataInfo) : JobPc -> List Nat
  | .copyTable => targets msgData
  | .chooseBranch => targets msgData
  | .testFd slot rest => slot :: rest
  | .testFlag slot rest => slot :: rest
  | .loadFd slot rest => slot :: rest
  | .send _ _ rest => rest
  | .sendAnswer => []
  | .release => []
  | .returned => []

/-- An update changes a field that the job has already read. -/
def overtakes (msgData : MsgRouteDataInfo) (pc : JobPc) (before after : ClientInfoTable) : Bool :=
  (targets msgData).any (fun slot =>
    (!(pc.notBegun msgData).contains slot && before.fd slot != after.fd slot) ||
    (!(pc.flagPending msgData).contains slot &&
      before.msgFlag slot msgData.typeIndex != after.msgFlag slot msgData.typeIndex))

/-- The two tables agree in the fields that the job has still to read. -/
structure AgreesAhead (msgData : MsgRouteDataInfo) (pc : JobPc) (first second : ClientInfoTable) :
    Prop where
  sameFd : forall slot, slot ∈ pc.unfinished msgData -> first.fd slot = second.fd slot
  sameFlag : forall slot, slot ∈ pc.flagPending msgData ->
    first.msgFlag slot msgData.typeIndex = second.msgFlag slot msgData.typeIndex

def routingStep (msgData : MsgRouteDataInfo) (state : RoutingState) :
    RoutingLabel -> Option RoutingState
  | .job =>
      (msgRouteCoreJobFunc state.table msgData state.frame).map (fun moved =>
        { state with frame := moved.1, sends := state.sends ++ moved.2 })
  | .epoll update =>
      let after := update.apply state.table
      let passed := state.overtaken || overtakes msgData state.frame.pc state.table after
      if state.frame.pc = .returned then some { state with table := after }
      else
        some { state with
          table := after
          tables := state.tables ++ [after]
          anchor := if passed then state.anchor else after
          overtaken := passed }

def routing (msgData : MsgRouteDataInfo) : Machine RoutingState RoutingLabel where
  step := routingStep msgData

/-- The job is called on a table. -/
def routingInit (table stack : ClientInfoTable) : RoutingState where
  table := table
  frame := JobFrame.start stack
  sends := []
  tables := [table]
  anchor := table
  overtaken := false

/-- No descriptor -1 is sent to, and the descriptors a finished job has sent to
are those of the routing rule on one table it ran on. -/
structure SeesOneTable (msgData : MsgRouteDataInfo) (state : RoutingState) : Prop where
  valid : forall call, call ∈ state.sends -> call.fd ≠ -1
  explained : state.frame.pc = .returned ->
    Exists fun table => table ∈ state.tables ∧
      state.sends.map SendCall.fd = routingRule table msgData

/-- Once a field has changed that the job had already read, the fields it has
still to read stay as they are. -/
def KeepsAhead (msgData : MsgRouteDataInfo) (state : RoutingState) : RoutingLabel -> Prop
  | .job => True
  | .epoll update =>
      state.overtaken = true ∨
        overtakes msgData state.frame.pc state.table (update.apply state.table) = true ->
      AgreesAhead msgData state.frame.pc state.table (update.apply state.table)

instance (msgData : MsgRouteDataInfo) (pc : JobPc) (first second : ClientInfoTable) :
    Decidable (AgreesAhead msgData pc first second) :=
  decidable_of_iff
    ((forall slot, slot ∈ pc.unfinished msgData -> first.fd slot = second.fd slot) ∧
      (forall slot, slot ∈ pc.flagPending msgData ->
        first.msgFlag slot msgData.typeIndex = second.msgFlag slot msgData.typeIndex))
    ⟨fun both => ⟨both.1, both.2⟩, fun agrees => ⟨agrees.sameFd, agrees.sameFlag⟩⟩

instance (msgData : MsgRouteDataInfo) (state : RoutingState) :
    (label : RoutingLabel) -> Decidable (KeepsAhead msgData state label)
  | .job => isTrue trivial
  | .epoll update =>
      inferInstanceAs (Decidable (state.overtaken = true ∨
        overtakes msgData state.frame.pc state.table (update.apply state.table) = true ->
        AgreesAhead msgData state.frame.pc state.table (update.apply state.table)))

/-! ## The explaining table -/

theorem AgreesAhead.refl (msgData : MsgRouteDataInfo) (pc : JobPc) (table : ClientInfoTable) :
    AgreesAhead msgData pc table table where
  sameFd := fun _ _ => rfl
  sameFlag := fun _ _ => rfl

theorem AgreesAhead.trans {msgData : MsgRouteDataInfo} {pc : JobPc}
    {first second third : ClientInfoTable} (left : AgreesAhead msgData pc first second)
    (right : AgreesAhead msgData pc second third) : AgreesAhead msgData pc first third where
  sameFd := fun slot member => (left.sameFd slot member).trans (right.sameFd slot member)
  sameFlag := fun slot member => (left.sameFlag slot member).trans (right.sameFlag slot member)

/-- A job that has less to read needs less agreement. -/
theorem AgreesAhead.mono {msgData : MsgRouteDataInfo} {pc later : JobPc}
    {first second : ClientInfoTable} (agrees : AgreesAhead msgData pc first second)
    (fewerFds : later.unfinished msgData ⊆ pc.unfinished msgData)
    (fewerFlags : later.flagPending msgData ⊆ pc.flagPending msgData) :
    AgreesAhead msgData later first second where
  sameFd := fun slot member => agrees.sameFd slot (fewerFds member)
  sameFlag := fun slot member => agrees.sameFlag slot (fewerFlags member)

/-- An update that does not overtake leaves the fields alone that were read. -/
theorem same_of_not_overtakes {msgData : MsgRouteDataInfo} {pc : JobPc}
    {before after : ClientInfoTable} (behind : overtakes msgData pc before after = false)
    {slot : Nat} (target : slot ∈ targets msgData) :
    (slot ∉ pc.notBegun msgData -> before.fd slot = after.fd slot) ∧
    (slot ∉ pc.flagPending msgData ->
      before.msgFlag slot msgData.typeIndex = after.msgFlag slot msgData.typeIndex) := by
  have quiet := List.any_eq_false.mp behind slot target
  simp only [Bool.or_eq_true, Bool.and_eq_true, Bool.not_eq_true', List.contains_eq_mem,
    decide_eq_false_iff_not, bne_iff_ne, not_or, not_and, not_not] at quiet
  exact quiet

/-- The descriptor that has been read and not yet been sent to. -/
def JobPc.inFlight : JobPc -> List Int32
  | .send _ fd _ => [fd]
  | _ => []

/-- What the tests passed so far say about the slot being read. -/
def JobPc.Tested (msgData : MsgRouteDataInfo) (table : ClientInfoTable) : JobPc -> Prop
  | .testFlag slot _ => table.fd slot ≠ -1
  | .loadFd slot _ => table.fd slot ≠ -1 ∧ table.msgFlag slot msgData.typeIndex = true
  | .sendAnswer => False
  | _ => True

/-- What has been sent, and what is about to be sent, is the rule on the
finished slots. -/
def Progress (msgData : MsgRouteDataInfo) (anchor : ClientInfoTable) (sent : List Int32)
    (pc : JobPc) : Prop :=
  Exists fun finished =>
    targets msgData = finished ++ pc.unfinished msgData ∧
    sent ++ pc.inFlight = finished.filterMap (routeOf anchor msgData)

/-- The job has done so far what the routing rule does on the anchor, and the
fields it has still to read are those of the anchor. -/
structure FollowsAnchor (msgData : MsgRouteDataInfo) (state : RoutingState) : Prop where
  held : state.anchor ∈ state.tables
  current : state.frame.pc ≠ .returned -> state.overtaken = false -> state.anchor = state.table
  ahead : AgreesAhead msgData state.frame.pc state.anchor state.table
  progress : Progress msgData state.anchor (state.sends.map SendCall.fd) state.frame.pc
  tested : state.frame.pc.Tested msgData state.anchor

@[simp] theorem unfinished_next (msgData : MsgRouteDataInfo) (rest : List Nat) :
    (JobPc.next rest).unfinished msgData = rest := by
  cases rest <;> rfl

@[simp] theorem inFlight_next (rest : List Nat) : (JobPc.next rest).inFlight = [] := by
  cases rest <;> rfl

@[simp] theorem flagPending_next (msgData : MsgRouteDataInfo) (rest : List Nat) :
    (JobPc.next rest).flagPending msgData = rest := by
  cases rest <;> rfl

/-- The next slot of the loop, or its end. -/
theorem AgreesAhead.next {msgData : MsgRouteDataInfo} {pc : JobPc} {first second : ClientInfoTable}
    {rest : List Nat} (agrees : AgreesAhead msgData pc first second)
    (fewerFds : rest ⊆ pc.unfinished msgData) (fewerFlags : rest ⊆ pc.flagPending msgData) :
    AgreesAhead msgData (JobPc.next rest) first second := by
  apply agrees.mono
  · rw [unfinished_next]
    exact fewerFds
  · rw [flagPending_next]
    exact fewerFlags

theorem tested_next (msgData : MsgRouteDataInfo) (table : ClientInfoTable) (rest : List Nat) :
    (JobPc.next rest).Tested msgData table := by
  cases rest <;> exact trivial

section Progress

variable {msgData : MsgRouteDataInfo} {anchor : ClientInfoTable} {sent : List Int32}
  {pc after : JobPc} {slot : Nat} {rest : List Nat} {fd : Int32}

/-- A step that finishes no slot. -/
theorem Progress.stay (progress : Progress msgData anchor sent pc)
    (unfinished : after.unfinished msgData = pc.unfinished msgData)
    (inFlight : after.inFlight = pc.inFlight) : Progress msgData anchor sent after := by
  unfold Progress
  rw [unfinished, inFlight]
  exact progress

/-- The slot being read contributes nothing. -/
theorem Progress.skip (progress : Progress msgData anchor sent pc)
    (unfinished : pc.unfinished msgData = slot :: rest) (inFlight : pc.inFlight = [])
    (route : routeOf anchor msgData slot = none) :
    Progress msgData anchor sent (JobPc.next rest) := by
  rcases progress with ⟨finished, split, sentIs⟩
  refine ⟨finished ++ [slot], ?_, ?_⟩
  · rw [split, unfinished, unfinished_next, List.append_assoc, List.singleton_append]
  · rw [inFlight_next, ← inFlight, sentIs, List.filterMap_append, List.filterMap_cons, route]
    exact (List.append_nil _).symm

/-- The slot being read contributes its descriptor. -/
theorem Progress.load (progress : Progress msgData anchor sent pc)
    (unfinished : pc.unfinished msgData = slot :: rest) (inFlight : pc.inFlight = [])
    (route : routeOf anchor msgData slot = some fd) :
    Progress msgData anchor sent (.send slot fd rest) := by
  rcases progress with ⟨finished, split, sentIs⟩
  refine ⟨finished ++ [slot], ?_, ?_⟩
  · rw [split, unfinished, List.append_assoc, List.singleton_append]
    rfl
  · rw [inFlight, List.append_nil] at sentIs
    rw [sentIs, List.filterMap_append, List.filterMap_cons, route]
    rfl

/-- The descriptor that was read is sent to. -/
theorem Progress.deliver (progress : Progress msgData anchor sent (.send slot fd rest)) :
    Progress msgData anchor (sent ++ [fd]) (JobPc.next rest) := by
  rcases progress with ⟨finished, split, sentIs⟩
  refine ⟨finished, ?_, ?_⟩
  · rw [unfinished_next]
    exact split
  · rw [inFlight_next, List.append_nil]
    exact sentIs

end Progress

/-- A job that does not answer stays with the rule on every table that agrees
with the live one in the fields ahead. -/
theorem msgRouteCoreJobFunc_progress {msgData : MsgRouteDataInfo}
    (notAnswer : msgData.dataType ≠ MsgRouteDataType.answer.code)
    {table anchor : ClientInfoTable} {sent : List Int32} {frame after : JobFrame}
    {calls : List SendCall} (ahead : AgreesAhead msgData frame.pc anchor table)
    (progress : Progress msgData anchor sent frame.pc) (tested : frame.pc.Tested msgData anchor)
    (moved : msgRouteCoreJobFunc table msgData frame = some (after, calls)) :
    AgreesAhead msgData after.pc anchor table ∧
    Progress msgData anchor (sent ++ calls.map SendCall.fd) after.pc ∧
    after.pc.Tested msgData anchor := by
  rcases frame with ⟨stack, pc⟩
  rcases after with ⟨stackAfter, pcAfter⟩
  cases msgRouteCoreJobFunc_cases moved with
  | copies =>
      refine ⟨ahead.mono (fun _ member => member) (fun _ member => member), ?_, trivial⟩
      rw [List.map_nil, List.append_nil]
      exact progress.stay rfl rfl
  | answers isAnswer => exact absurd isAnswer notAnswer
  | routes _ =>
      refine ⟨?_, ?_, tested_next msgData _ _⟩
      · exact ahead.next (fun _ member => member) (fun _ member => member)
      · rw [List.map_nil, List.append_nil]
        exact progress.stay (unfinished_next msgData _) (inFlight_next _)
  | sendsAnswer => exact False.elim tested
  | skipsFree slot rest free =>
      have sameFd := ahead.sameFd slot List.mem_cons_self
      refine ⟨?_, ?_, tested_next msgData _ _⟩
      · exact ahead.next (List.subset_cons_self slot rest) (List.subset_cons_self slot rest)
      · rw [List.map_nil, List.append_nil]
        exact progress.skip rfl rfl (if_neg (fun routed => routed.1 (sameFd.trans free)))
  | findsTaken slot rest taken =>
      have sameFd := ahead.sameFd slot List.mem_cons_self
      refine ⟨?_, ?_, fun anchorFree => taken (sameFd.symm.trans anchorFree)⟩
      · exact ahead.mono (fun _ member => member) (fun _ member => member)
      · rw [List.map_nil, List.append_nil]
        exact progress.stay rfl rfl
  | findsSet slot rest set =>
      have sameFlag := ahead.sameFlag slot List.mem_cons_self
      refine ⟨?_, ?_, tested, sameFlag.trans set⟩
      · exact ahead.mono (fun _ member => member) (List.subset_cons_self slot rest)
      · rw [List.map_nil, List.append_nil]
        exact progress.stay rfl rfl
  | skipsUnset slot rest unset =>
      have sameFlag := ahead.sameFlag slot List.mem_cons_self
      refine ⟨?_, ?_, tested_next msgData _ _⟩
      · exact ahead.next (List.subset_cons_self slot rest) (List.subset_cons_self slot rest)
      · rw [List.map_nil, List.append_nil]
        exact progress.skip rfl rfl (if_neg (fun routed => unset (sameFlag.symm.trans routed.2)))
  | loads slot rest =>
      have sameFd := ahead.sameFd slot List.mem_cons_self
      refine ⟨?_, ?_, trivial⟩
      · exact ahead.mono (List.subset_cons_self slot rest) (fun _ member => member)
      · rw [List.map_nil, List.append_nil, ← sameFd]
        exact progress.load rfl rfl (if_pos tested)
  | sends slot fd rest =>
      refine ⟨?_, progress.deliver, tested_next msgData _ _⟩
      exact ahead.next (fun _ member => member) (fun _ member => member)
  | releases =>
      refine ⟨ahead.mono (fun _ member => member) (fun _ member => member), ?_, trivial⟩
      rw [List.map_nil, List.append_nil]
      exact progress.stay rfl rfl

theorem mem_unfinished_of_notBegun {msgData : MsgRouteDataInfo} {pc : JobPc} {slot : Nat}
    (member : slot ∈ pc.notBegun msgData) : slot ∈ pc.unfinished msgData := by
  cases pc <;> first | exact member | exact List.mem_cons_of_mem _ member

theorem mem_unfinished_of_flagPending {msgData : MsgRouteDataInfo} {pc : JobPc} {slot : Nat}
    (member : slot ∈ pc.flagPending msgData) : slot ∈ pc.unfinished msgData := by
  cases pc <;> first | exact member | exact List.mem_cons_of_mem _ member

/-- A finished slot is a target that comes no more. -/
theorem target_of_finished {msgData : MsgRouteDataInfo} {finished later : List Nat}
    (split : targets msgData = finished ++ later) {slot : Nat} (member : slot ∈ finished) :
    slot ∈ targets msgData ∧ slot ∉ later := by
  refine ⟨split ▸ List.mem_append_left _ member, fun again => ?_⟩
  have distinct := targets_nodup msgData
  rw [split] at distinct
  exact (List.nodup_append.mp distinct).2.2 slot member slot again rfl

/-- The slot at the front of the unfinished ones is a target that does not come
again. -/
theorem target_of_front {msgData : MsgRouteDataInfo} {finished rest : List Nat} {slot : Nat}
    (split : targets msgData = finished ++ slot :: rest) :
    slot ∈ targets msgData ∧ slot ∉ rest := by
  have shape : targets msgData = (finished ++ [slot]) ++ rest := by
    rw [split, List.append_assoc, List.singleton_append]
  exact target_of_finished shape (List.mem_append_right _ List.mem_cons_self)

section Behind

variable {msgData : MsgRouteDataInfo} {before after : ClientInfoTable} {sent : List Int32}
  {pc : JobPc}

/-- What was read before an update that does not overtake holds after it. -/
theorem tested_of_not_overtakes (behind : overtakes msgData pc before after = false)
    (tested : pc.Tested msgData before) (progress : Progress msgData before sent pc) :
    pc.Tested msgData after := by
  rcases progress with ⟨finished, split, _⟩
  cases pc with
  | testFlag slot rest =>
      rcases target_of_front split with ⟨target, notLater⟩
      have sameFd := (same_of_not_overtakes behind target).1 notLater
      exact fun free => tested (sameFd.trans free)
  | loadFd slot rest =>
      rcases target_of_front split with ⟨target, notLater⟩
      have same := same_of_not_overtakes behind target
      exact ⟨fun free => tested.1 ((same.1 notLater).trans free),
        (same.2 notLater).symm.trans tested.2⟩
  | sendAnswer => exact tested
  | copyTable => exact trivial
  | chooseBranch => exact trivial
  | testFd slot rest => exact trivial
  | send slot fd rest => exact trivial
  | release => exact trivial
  | returned => exact trivial

theorem progress_of_not_overtakes (behind : overtakes msgData pc before after = false)
    (progress : Progress msgData before sent pc) : Progress msgData after sent pc := by
  rcases progress with ⟨finished, split, sentIs⟩
  refine ⟨finished, split, sentIs.trans ?_⟩
  apply List.filterMap_congr
  intro slot member
  rcases target_of_finished split member with ⟨target, notLater⟩
  have same := same_of_not_overtakes behind target
  exact routeOf_congr (same.1 (fun later => notLater (mem_unfinished_of_notBegun later)))
    (same.2 (fun later => notLater (mem_unfinished_of_flagPending later)))

end Behind

/-- An update keeps the job on its anchor, or moves the anchor along. -/
theorem followsAnchor_epoll {msgData : MsgRouteDataInfo} {state next : RoutingState}
    {update : TableUpdate} (follows : FollowsAnchor msgData state)
    (keeps : KeepsAhead msgData state (.epoll update))
    (stepped : routingStep msgData state (.epoll update) = some next) :
    FollowsAnchor msgData next := by
  rcases follows with ⟨held, current, ahead, progress, tested⟩
  simp only [routingStep] at stepped
  by_cases finished : state.frame.pc = .returned
  · rw [if_pos finished] at stepped
    cases stepped
    refine ⟨held, fun running => absurd finished running, ?_, progress, tested⟩
    rw [finished]
    exact ⟨fun _ member => absurd member List.not_mem_nil,
      fun _ member => absurd member List.not_mem_nil⟩
  · rw [if_neg finished] at stepped
    cases stepped
    cases overtaken : state.overtaken ||
        overtakes msgData state.frame.pc state.table (update.apply state.table) with
    | true =>
        refine ⟨List.mem_append_left _ held, ?_, ?_, progress, tested⟩
        · exact fun _ behind => absurd behind (by simp)
        · exact ahead.trans (keeps (Bool.or_eq_true_iff.mp overtaken))
    | false =>
        rcases Bool.or_eq_false_iff.mp overtaken with ⟨notYet, behind⟩
        have here := current finished notYet
        rw [here] at progress tested
        exact ⟨List.mem_append_right _ List.mem_cons_self, fun _ _ => rfl, AgreesAhead.refl _ _ _,
          progress_of_not_overtakes behind progress, tested_of_not_overtakes behind tested progress⟩

theorem followsAnchor_step {msgData : MsgRouteDataInfo}
    (notAnswer : msgData.dataType ≠ MsgRouteDataType.answer.code) (state : RoutingState)
    (label : RoutingLabel) (next : RoutingState) (follows : FollowsAnchor msgData state)
    (keeps : KeepsAhead msgData state label)
    (stepped : (routing msgData).step state label = some next) : FollowsAnchor msgData next := by
  cases label with
  | job =>
      rcases Option.map_eq_some_iff.mp stepped with ⟨⟨frame, calls⟩, moved, rfl⟩
      have running : state.frame.pc ≠ .returned := by
        intro finished
        simp only [msgRouteCoreJobFunc, finished] at moved
        cases moved
      rcases follows with ⟨held, current, ahead, progress, tested⟩
      rcases msgRouteCoreJobFunc_progress notAnswer ahead progress tested moved with
        ⟨aheadAfter, onward, testedAfter⟩
      refine ⟨held, fun _ => current running, aheadAfter, ?_, testedAfter⟩
      rw [List.map_append]
      exact onward
  | epoll update => exact followsAnchor_epoll follows keeps stepped

theorem followsAnchor_routingInit (msgData : MsgRouteDataInfo) (table stack : ClientInfoTable) :
    FollowsAnchor msgData (routingInit table stack) where
  held := List.mem_cons_self
  current := fun _ _ => rfl
  ahead := AgreesAhead.refl _ _ _
  progress := ⟨[], rfl, rfl⟩
  tested := trivial

theorem seesOneTable_of_followsAnchor {msgData : MsgRouteDataInfo} {state : RoutingState}
    (follows : FollowsAnchor msgData state) : SeesOneTable msgData state := by
  rcases follows.progress with ⟨finished, split, sentIs⟩
  constructor
  · intro call member
    have sentFd : call.fd ∈ finished.filterMap (routeOf state.anchor msgData) :=
      sentIs ▸ List.mem_append_left _ (List.mem_map_of_mem member)
    rcases List.mem_filterMap.mp sentFd with ⟨slot, _, routed⟩
    exact routeOf_ne routed
  · intro returned
    rw [returned] at split sentIs
    refine ⟨state.anchor, follows.held, ?_⟩
    have all : targets msgData = finished := split.trans (List.append_nil _)
    rw [routingRule, all, ← sentIs]
    exact (List.append_nil _).symm

/-- A job that does not answer sees one table, in every state of a run in which
no update changes a field ahead of the job once one behind it has changed. -/
theorem routing_seesOneTable (msgData : MsgRouteDataInfo) (table stack : ClientInfoTable)
    (labels : List RoutingLabel) (notAnswer : msgData.dataType ≠ MsgRouteDataType.answer.code)
    (keeps : (routing msgData).AllSteps (KeepsAhead msgData) (routingInit table stack) labels) :
    (routing msgData).EveryState (SeesOneTable msgData) (routingInit table stack) labels := by
  have follows := (routing msgData).everyState_of_allSteps (followsAnchor_step notAnswer)
    (followsAnchor_routingInit msgData table stack) keeps
  exact (routing msgData).everyState_imp (fun _ => seesOneTable_of_followsAnchor) follows

/-- A notification of type 3 for application 1, from descriptor 6. -/
def notifyThree : MsgRouteDataInfo :=
  Memory.ofBytes [0, 0, 0, 0, 3, 0, 0, 0, 6, 0, 0, 0, 1, 0, 0, 0, 0, 0, 0, 0, 0, 0, 0, 0,
    0, 0, 0, 0, 1, 0, 0, 0, 7]

/-- A table on which descriptor 5 subscribes to type 3 of application 1. -/
def tableOfFive : ClientInfoTable :=
  ((msgRouteClientInfoInit (Memory.ofBytes [])).setFd 1 5).setMsgFlag 1 3 true

/-- Descriptor 5 disconnects between the tests of the job and its last read. -/
def eraseAfterTests : List RoutingLabel :=
  [.job, .job, .job, .job, .epoll (.erase 5), .job, .job, .job]

/-- The job sends to descriptor -1. -/
theorem eraseAfterTests_sends :
    notifyThree.dataType ≠ MsgRouteDataType.answer.code ∧
    Exists fun final =>
      (routing notifyThree).run (routingInit tableOfFive (Memory.ofBytes [])) eraseAfterTests =
        some final ∧
      final.frame.pc = .returned ∧ ¬ SeesOneTable notifyThree final := by
  refine ⟨by decide, ?_⟩
  have observed : ((routing notifyThree).run (routingInit tableOfFive (Memory.ofBytes []))
      eraseAfterTests).map (fun state => (state.frame.pc, state.sends.map SendCall.fd)) =
      some (.returned, [-1]) := by decide
  rcases Option.map_eq_some_iff.mp observed with ⟨final, ran, parts⟩
  simp only [Prod.mk.injEq] at parts
  rcases parts with ⟨returned, sent⟩
  refine ⟨final, ran, returned, ?_⟩
  intro sees
  have member : (-1 : Int32) ∈ final.sends.map SendCall.fd := by
    rw [sent]
    exact List.mem_singleton_self _
  rcases List.mem_map.mp member with ⟨call, called, invalid⟩
  exact sees.valid call called invalid

/-- Descriptor 5 disconnects before the job looks at its slot. -/
def eraseBeforeTests : List RoutingLabel :=
  [.job, .job, .epoll (.erase 5), .job, .job]

theorem routing_seesOneTable_eraseBeforeTests :
    (routing notifyThree).EveryState (SeesOneTable notifyThree)
      (routingInit tableOfFive (Memory.ofBytes [])) eraseBeforeTests :=
  routing_seesOneTable notifyThree tableOfFive (Memory.ofBytes []) eraseBeforeTests (by decide)
    (by decide)

end MsgRoute
end V2x
