import Mathlib.Data.Finset.Card
import Mathlib.Order.Interval.Finset.Nat
import V2x.Timer.Consistency
import V2x.Timer.Locks

namespace V2x
namespace Timer

open Foundations

/-!
# The heartbeat and the capacity

`InitTimerEventManage` puts a timer of its own into slot 0 and leaves room for
`maxEventNum` more.  The table therefore has the requested capacity as long as
the heartbeat timer is in its slot; the other functions search the table from
slot 0, and `DeleteTimerEvent` takes any descriptor.
-/

/-- The timer of the module is in slot 0, with its callback. -/
structure HeartbeatKept (state : TimerState) (heartbeat : Int32) (timer : Nat) : Prop where
  slot : state.eventInfo 0 = ⟨heartbeat, some .timerEventManageHeartbeatCb⟩
  file : state.fds.file heartbeat = some timer

/-- The slots that hold another timer than the one of the module: one that `AddTimerEvent` has
added. -/
def TimerState.addedSlots (state : TimerState) (timer : Nat) : Finset Nat :=
  (Finset.range slotCount).filter (fun i => state.timerFd i ≠ -1 ∧
    state.fds.file (state.timerFd i) ≠ some timer)

/-- Room for `capacity` timers beside the heartbeat. -/
structure CapacityKept (state : TimerState) (capacity timer : Nat) : Prop where
  atMost : (state.addedSlots timer).card ≤ capacity
  admits : forall cb timerFd, CanCreate state timerFd ->
    (0 ≤ (addTimerEvent state (some cb) (some timerFd)).1 <->
      (state.addedSlots timer).card < capacity)

/-- What the calls after `InitTimerEventManage` are promised. -/
def Promised (state : TimerState) (capacity : Nat) (heartbeat : Int32) (timer : Nat) : Prop :=
  HeartbeatKept state heartbeat timer ∧ CapacityKept state capacity timer

section Table

variable {state : TimerState} {capacity timer : Nat} {heartbeat timerFd : Int32}

/-- `AddTimerEvent` returns a descriptor exactly if its loop finds a free slot. -/
theorem addTimerEvent_succeeds_iff (up : Up state) (cb : TimerEventProcCb)
    (canCreate : CanCreate state timerFd) :
    0 ≤ (addTimerEvent state (some cb) (some timerFd)).1 <->
      state.findSlot (-1) < state.maxEventNum := by
  simp only [addTimerEvent, up.isInit, not_true_eq_false, if_false]
  by_cases hasRoom : state.findSlot (-1) < state.maxEventNum
  · rw [addTimerEventLocked_fill hasRoom]
    have notFull : state.findSlot (-1) ≠
        (state.fill (state.findSlot (-1)) timerFd cb).maxEventNum := Nat.ne_of_lt hasRoom
    simp only [addTimerEventUnlocked, if_neg notFull]
    exact iff_of_true canCreate.1 hasRoom
  · have atEnd : state.findSlot (-1) = state.maxEventNum :=
      Nat.le_antisymm TimerState.findSlot_le (Nat.not_lt.mp hasRoom)
    rw [addTimerEventLocked_full hasRoom]
    simp only [addTimerEventUnlocked, if_pos atEnd]
    have negative : ¬ (0 : Int32) ≤ -1 := by decide
    exact iff_of_false negative hasRoom

theorem findSlot_lt_iff : state.findSlot timerFd < state.maxEventNum <->
    Exists fun i => i < state.maxEventNum ∧ state.timerFd i = timerFd := by
  constructor
  · exact fun found => ⟨_, found, TimerState.findSlot_found found⟩
  · rintro ⟨i, inside, holds⟩
    have isThere : Exists fun j => j ∈ List.range state.maxEventNum ∧
        decide (state.timerFd j = timerFd) = true :=
      ⟨i, List.mem_range.mpr inside, decide_eq_true holds⟩
    have found := List.findIdx_lt_length_of_exists isThere
    rwa [List.length_range] at found

/-- With the heartbeat in slot 0 the added timers have the slots from 1 on. -/
theorem mem_addedSlots (up : Up state) (numbered : state.fds.WellNumbered)
    (size : state.maxEventNum = capacity + 1) (kept : HeartbeatKept state heartbeat timer) {i : Nat} :
    i ∈ state.addedSlots timer <-> (0 < i ∧ i ≤ capacity) ∧ state.timerFd i ≠ -1 := by
  have first : 0 < slotCount := by decide
  have isHeartbeat : state.timerFd 0 = heartbeat := by rw [TimerState.timerFd, kept.slot]
  simp only [TimerState.addedSlots, Finset.mem_filter, Finset.mem_range]
  constructor
  · rintro ⟨inside, used, notTimer⟩
    have below := up.slots.below i inside used
    rw [size] at below
    refine ⟨⟨Nat.pos_of_ne_zero ?_, Nat.le_of_lt_succ below⟩, used⟩
    rintro rfl
    rw [isHeartbeat] at notTimer
    exact notTimer kept.file
  · rintro ⟨⟨positive, le⟩, used⟩
    have inside : i < slotCount := by
      have bound := up.slots.bound
      omega
    refine ⟨inside, used, fun isTimer => ?_⟩
    have same := numbered.injective (state.timerFd i) heartbeat timer isTimer kept.file
    have isFirst := up.slots.distinct i 0 inside first used (same.trans isHeartbeat.symm)
    exact Nat.ne_of_gt positive isFirst

/-- The capacity follows from the heartbeat. -/
theorem HeartbeatKept.capacityKept (kept : HeartbeatKept state heartbeat timer) (up : Up state)
    (numbered : state.fds.WellNumbered) (size : state.maxEventNum = capacity + 1) :
    CapacityKept state capacity timer := by
  have members := fun {i} => mem_addedSlots (i := i) up numbered size kept
  have inside : state.addedSlots timer ⊆ Finset.Ioc 0 capacity := by
    intro i member
    exact Finset.mem_Ioc.mpr (members.mp member).1
  have slots : (Finset.Ioc 0 capacity).card = capacity := by
    rw [Nat.card_Ioc, Nat.sub_zero]
  refine ⟨?_, fun cb timerFd canCreate => ?_⟩
  · calc
      (state.addedSlots timer).card ≤ (Finset.Ioc 0 capacity).card := Finset.card_le_card inside
      _ = capacity := slots
  · rw [addTimerEvent_succeeds_iff up cb canCreate, findSlot_lt_iff]
    constructor
    · rintro ⟨i, below, isFree⟩
      have notFirst : i ≠ 0 := by
        rintro rfl
        rw [TimerState.timerFd, kept.slot] at isFree
        have nonnegative := up.nonnegative (Option.isSome_iff_exists.mpr ⟨timer, kept.file⟩)
        have isNone : heartbeat = -1 := isFree
        rw [isNone] at nonnegative
        exact absurd nonnegative (by decide)
      have smaller : state.addedSlots timer ⊂ Finset.Ioc 0 capacity := by
        refine Finset.ssubset_iff_subset_ne.mpr ⟨inside, fun same => ?_⟩
        have isSlot : i ∈ Finset.Ioc 0 capacity := Finset.mem_Ioc.mpr (by omega)
        rw [← same] at isSlot
        exact (members.mp isSlot).2 isFree
      exact slots ▸ Finset.card_lt_card smaller
    · intro hasRoom
      by_contra noneFree
      apply Nat.ne_of_lt hasRoom
      rw [← slots]
      congr 1
      apply Finset.Subset.antisymm inside
      intro i isSlot
      rcases Finset.mem_Ioc.mp isSlot with ⟨positive, le⟩
      exact members.mpr ⟨⟨positive, le⟩, fun isFree => noneFree ⟨i, by omega, isFree⟩⟩

/-! ## One call -/

/-- A call between `InitTimerEventManage` and `DeinitTimerEventManage`; `timerfd_create` succeeds. -/
def ClientCall : TimerCall -> Prop
  | .add _ timerfdCreate => timerfdCreate.isSome = true
  | .delete _ | .set _ _ _ _ => True
  | .init _ _ | .deinit => False

instance : (made : TimerCall) -> Decidable (ClientCall made)
  | .add _ timerfdCreate => inferInstanceAs (Decidable (timerfdCreate.isSome = true))
  | .delete _ | .set _ _ _ _ => isTrue trivial
  | .init _ _ | .deinit => isFalse id

/-- The call does not delete the timer of the module. -/
def SparesHeartbeat (heartbeat : Int32) (made : TimerCall) : Prop :=
  made ≠ .delete heartbeat

/-- What holds from `InitTimerEventManage` on, whatever is called. -/
structure Running (state : TimerState) (capacity : Nat) : Prop where
  up : Up state
  numbered : state.fds.WellNumbered
  size : state.maxEventNum = capacity + 1

theorem Running.promised_iff (running : Running state capacity) :
    Promised state capacity heartbeat timer <-> HeartbeatKept state heartbeat timer :=
  ⟨And.left, fun kept => ⟨kept, kept.capacityKept running.up running.numbered running.size⟩⟩

theorem maxEventNum_call {made : TimerCall} (client : ClientCall made) :
    (state.call made).maxEventNum = state.maxEventNum := by
  cases made with
  | init | deinit => cases client
  | set => rfl
  | delete timerFd =>
      simp only [TimerState.call, deleteTimerEvent]
      split
      · rfl
      · split
        · rfl
        · simp only [deleteTimerEventLocked]
          split <;> rfl
  | add cb timerfdCreate =>
      cases cb with
      | none => rfl
      | some cb =>
          simp only [TimerState.call, addTimerEvent]
          split
          · rfl
          · cases timerfdCreate with
            | none => rfl
            | some timerFd =>
                by_cases hasRoom : state.findSlot (-1) < state.maxEventNum
                · rw [addTimerEventLocked_fill hasRoom]
                  simp only [addTimerEventUnlocked]
                  split <;> rfl
                · rw [addTimerEventLocked_full hasRoom]
                  simp only [addTimerEventUnlocked]
                  split <;> rfl

theorem Running.call (running : Running state capacity) {made : TimerCall}
    (possible : PossibleCall state made) (client : ClientCall made) :
    Running (state.call made) capacity := by
  refine ⟨?_, wellNumbered_call running.numbered, (maxEventNum_call client).trans running.size⟩
  rcases running.up.call possible with up | down
  · exact up
  · have size := (maxEventNum_call client).trans running.size
    rw [down.maxEventNum] at size
    cases size

theorem HeartbeatKept.notNone (kept : HeartbeatKept state heartbeat timer) (up : Up state) :
    heartbeat ≠ -1 := by
  rintro rfl
  have nonnegative := up.nonnegative (Option.isSome_iff_exists.mpr ⟨timer, kept.file⟩)
  exact absurd nonnegative (by decide)

theorem HeartbeatKept.first (kept : HeartbeatKept state heartbeat timer) :
    state.timerFd 0 = heartbeat := by
  rw [TimerState.timerFd, kept.slot]

theorem HeartbeatKept.add (kept : HeartbeatKept state heartbeat timer) (up : Up state)
    {cb : Option TimerEventProcCb} (canCreate : CanCreate state timerFd) :
    HeartbeatKept (addTimerEvent state cb (some timerFd)).2 heartbeat timer := by
  have different : heartbeat ≠ timerFd := by
    rintro rfl
    have isFile := kept.file
    rw [canCreate.2] at isFile
    cases isFile
  have created : (state.fds.create timerFd).file heartbeat = some timer := by
    rw [Descriptors.file_create, if_neg different]
    exact kept.file
  cases cb with
  | none => exact kept
  | some cb =>
      simp only [addTimerEvent, up.isInit, not_true_eq_false, if_false]
      by_cases hasRoom : state.findSlot (-1) < state.maxEventNum
      · have notFirst : 0 ≠ state.findSlot (-1) := by
          intro isFirst
          have isFree := TimerState.findSlot_found hasRoom
          rw [← isFirst, kept.first] at isFree
          exact kept.notNone up isFree
        have notFull : state.findSlot (-1) ≠
            (state.fill (state.findSlot (-1)) timerFd cb).maxEventNum := Nat.ne_of_lt hasRoom
        rw [addTimerEventLocked_fill hasRoom]
        simp only [addTimerEventUnlocked, if_neg notFull]
        refine ⟨?_, created⟩
        exact (TimerState.eventInfo_setSlot.trans (if_neg notFirst)).trans kept.slot
      · have atEnd : state.findSlot (-1) = state.maxEventNum :=
          Nat.le_antisymm TimerState.findSlot_le (Nat.not_lt.mp hasRoom)
        rw [addTimerEventLocked_full hasRoom]
        simp only [addTimerEventUnlocked, if_pos atEnd]
        refine ⟨kept.slot, ?_⟩
        rw [Descriptors.file_close, if_neg different]
        exact created

/-- `DeleteTimerEvent` leaves the heartbeat alone exactly if it gets another descriptor. -/
theorem HeartbeatKept.delete_iff (kept : HeartbeatKept state heartbeat timer) (up : Up state)
    (size : 0 < state.maxEventNum) :
    HeartbeatKept (deleteTimerEvent state timerFd).2 heartbeat timer <-> timerFd ≠ heartbeat := by
  have nonnegative : ¬ heartbeat < 0 :=
    Int32.not_lt.mpr (up.nonnegative (Option.isSome_iff_exists.mpr ⟨timer, kept.file⟩))
  constructor
  · rintro still rfl
    have found : state.findSlot timerFd < state.maxEventNum :=
      findSlot_lt_iff.mpr ⟨0, size, kept.first⟩
    have isFile := still.file
    simp only [deleteTimerEvent, if_neg nonnegative, up.isInit, not_true_eq_false, if_false,
      deleteTimerEventLocked, if_pos found, file_release, TimerState.findSlot_found found,
      if_true] at isFile
    cases isFile
  · intro different
    simp only [deleteTimerEvent]
    split
    · exact kept
    · simp only [up.isInit, not_true_eq_false, if_false, deleteTimerEventLocked]
      split
      next found =>
        have isFd := TimerState.findSlot_found found
        have notFirst : 0 ≠ state.findSlot timerFd := by
          intro isFirst
          rw [← isFirst, kept.first] at isFd
          exact different isFd.symm
        refine ⟨(TimerState.eventInfo_setSlot.trans (if_neg notFirst)).trans kept.slot, ?_⟩
        rw [file_release, isFd, if_neg different.symm]
        exact kept.file
      next => exact kept

/-- One call keeps the promise exactly if it spares the heartbeat. -/
theorem Running.promised_call_iff (running : Running state capacity)
    (promised : Promised state capacity heartbeat timer) {made : TimerCall}
    (possible : PossibleCall state made) (client : ClientCall made) :
    Promised (state.call made) capacity heartbeat timer <-> SparesHeartbeat heartbeat made := by
  rw [(running.call possible client).promised_iff]
  have kept := promised.1
  cases made with
  | init | deinit => cases client
  | set => exact iff_of_true kept (by simp [SparesHeartbeat])
  | delete timerFd =>
      have size : 0 < state.maxEventNum := running.size ▸ Nat.succ_pos _
      rw [SparesHeartbeat, ne_eq, TimerCall.delete.injEq]
      exact kept.delete_iff running.up size
  | add cb timerfdCreate =>
      refine iff_of_true ?_ (by simp [SparesHeartbeat])
      rcases Option.isSome_iff_exists.mp client with ⟨timerFd, rfl⟩
      exact kept.add running.up (possible timerFd rfl)

/-! ## The start -/

/-- What a successful `InitTimerEventManage` has done. -/
theorem initTimerEventManageFresh_started {maxEventNum : Int32} {outcome : InitOutcome}
    (started : (initTimerEventManageFresh state maxEventNum outcome).1 = 0) :
    Exists fun epollfd => Exists fun timerFd => outcome.epollCreate = some epollfd ∧
      outcome.timerfdCreate = some timerFd ∧
      (initTimerEventManageFresh state maxEventNum outcome).2 =
        { (state.polling maxEventNum epollfd).fill 0 timerFd .timerEventManageHeartbeatCb with
          fds := ((state.fds.create epollfd).create timerFd).watch epollfd timerFd
          isInit := true } := by
  have negative : ¬ (-1 : Int32) = 0 := by decide
  rcases outcome with ⟨epollCreate, timerfdCreate, epollCtl, threadCreate⟩
  unfold initTimerEventManageFresh at started ⊢
  split at started
  · exact absurd started negative
  next allowed =>
    rw [if_neg allowed]
    cases epollCreate with
    | none => exact absurd started negative
    | some epollfd =>
        cases timerfdCreate with
        | none => exact absurd started negative
        | some timerFd =>
            simp only at started ⊢
            split at started
            next fails => exact absurd started fails
            next watched =>
              rw [if_neg watched]
              split at started
              next fails => exact absurd started fails
              next created =>
                rw [if_neg created]
                exact ⟨epollfd, timerFd, rfl, rfl, rfl⟩

/-- A module that is not initialised has nothing open. -/
theorem blank_of_run {calls : List TimerCall}
    (ran : timerCallMachine.run timerStatics calls = some state) (notInit : state.isInit = false) :
    Blank state := by
  have settled := settled_of_run calls state ran
  split at settled
  next =>
    rcases settled with up | down
    · rw [up.isInit] at notInit
      cases notInit
    · exact down.blank
  next =>
    rw [settled]
    exact blank_timerStatics

theorem running_started {calls : List TimerCall} {maxEventNum : Int32} {outcome : InitOutcome}
    (ran : timerCallMachine.run timerStatics calls = some state) (notInit : state.isInit = false)
    (possible : PossibleCall state (.init maxEventNum outcome))
    (started : (initTimerEventManage state maxEventNum outcome).1 = 0)
    (created : outcome.timerfdCreate = some heartbeat) :
    Running (state.call (.init maxEventNum outcome)) maxEventNum.toInt.toNat ∧
    HeartbeatKept (state.call (.init maxEventNum outcome)) heartbeat (state.fds.created + 1) := by
  have numbered : (state.call (.init maxEventNum outcome)).fds.WellNumbered :=
    wellNumbered_call (wellNumbered_of_run ran)
  have upOrDown := init_upOrDown (blank_of_run ran notInit) possible
  have isInit := isInit_initTimerEventManageFresh state maxEventNum outcome
  simp only [initTimerEventManage, notInit, Bool.false_eq_true, if_false] at started
  simp only [TimerState.call, initTimerEventManage, notInit, Bool.false_eq_true, if_false] at numbered ⊢
  rw [started, decide_eq_true rfl] at isInit
  rcases initTimerEventManageFresh_started started with ⟨epollfd, timerFd, _, isTimer, after⟩
  cases isTimer.symm.trans created
  have up : Up (initTimerEventManageFresh state maxEventNum outcome).2 := by
    rcases upOrDown with ⟨up, _⟩ | down
    · exact up
    · rw [down.notInit] at isInit
      cases isInit
  refine ⟨⟨up, numbered, ?_⟩, ?_⟩
  · rw [after]
    rfl
  · rw [after]
    have slot : ((state.polling maxEventNum epollfd).fill 0 heartbeat
        .timerEventManageHeartbeatCb).eventInfo 0 =
          ⟨heartbeat, some .timerEventManageHeartbeatCb⟩ := by
      simp only [TimerState.fill, TimerState.setSlot, Function.update_self]
    refine ⟨slot, ?_⟩
    exact (Descriptors.file_create).trans (if_pos rfl)

end Table

/-! ## All calls -/

/-- After a successful `InitTimerEventManage` slot 0 keeps the heartbeat and the table the
requested capacity, through all calls up to `DeinitTimerEventManage`, exactly if no
`DeleteTimerEvent` gets the descriptor of the heartbeat. -/
theorem timerCapacity_kept_iff {calls : List TimerCall} {state final : TimerState}
    {maxEventNum : Int32} {outcome : InitOutcome} {heartbeat : Int32}
    (ran : timerCallMachine.run timerStatics calls = some state) (notInit : state.isInit = false)
    (possible : PossibleCall state (.init maxEventNum outcome))
    (started : (initTimerEventManage state maxEventNum outcome).1 = 0)
    (created : outcome.timerfdCreate = some heartbeat) {later : List TimerCall}
    (laterRan : timerCallMachine.run (state.call (.init maxEventNum outcome)) later = some final)
    (client : forall made, made ∈ later -> ClientCall made) :
    timerCallMachine.EveryState
        (fun reached => Promised reached maxEventNum.toInt.toNat heartbeat (state.fds.created + 1))
        (state.call (.init maxEventNum outcome)) later <->
      forall made, made ∈ later -> SparesHeartbeat heartbeat made := by
  rcases running_started ran notInit possible started created with ⟨running, kept⟩
  rw [← timerCallMachine.allSteps_labels_iff laterRan]
  have stepped : forall {before : TimerState} {made : TimerCall} {after : TimerState},
      timerCallMachine.step before made = some after ->
      PossibleCall before made ∧ after = before.call made := by
    intro before made after taken
    simp only [timerCallMachine] at taken
    split at taken
    next isPossible => exact ⟨isPossible, (Option.some.inj taken).symm⟩
    next => cases taken
  have runs : forall before made after, Running before maxEventNum.toInt.toNat -> ClientCall made ->
      timerCallMachine.step before made = some after -> Running after maxEventNum.toInt.toNat := by
    rintro before made after isRunning isClient taken
    rcases stepped taken with ⟨isPossible, rfl⟩
    exact isRunning.call isPossible isClient
  refine timerCallMachine.everyState_iff_allSteps runs ?_ running (running.promised_iff.mpr kept)
    ((timerCallMachine.allSteps_labels_iff laterRan).mpr client) laterRan
  rintro before made after isRunning promised isClient taken
  rcases stepped taken with ⟨isPossible, rfl⟩
  exact isRunning.promised_call_iff promised isPossible isClient

/-- Two timers fill the table, and a third one is refused. -/
def fullTable : List TimerCall :=
  [.add (some (.client 0)) (some 5), .add (some (.client 1)) (some 6),
    .add (some (.client 2)) (some 7), .delete 6, .delete 3, .set 5 100 1000 0,
    .add (some (.client 2)) (some 6), .add none (some 7)]

theorem timerCapacity_kept_iff_fullTable :
    timerCallMachine.EveryState (fun reached => Promised reached 2 4 1)
        (timerStatics.call (.init 2 ⟨some 3, some 4, 0, 0⟩)) fullTable <->
      forall made, made ∈ fullTable -> SparesHeartbeat 4 made := by
  have ran : (timerCallMachine.run (timerStatics.call (.init 2 ⟨some 3, some 4, 0, 0⟩))
      fullTable).isSome := by decide +kernel
  rcases Option.isSome_iff_exists.mp ran with ⟨final, same⟩
  have before : timerCallMachine.run timerStatics [] = some timerStatics := rfl
  exact timerCapacity_kept_iff before rfl (by decide) (by decide +kernel) rfl same (by decide)

/-- The descriptor of the heartbeat is deleted, and three timers are added. -/
def deletedHeartbeat : List TimerCall :=
  [.delete 4, .add (some (.client 0)) (some 5), .add (some (.client 1)) (some 6),
    .add (some (.client 2)) (some 7)]

/-- The heartbeat is gone, and there is one timer more than was asked for. -/
theorem deletedHeartbeat_breaksPromise : Exists fun final =>
    timerCallMachine.run (timerStatics.call (.init 2 ⟨some 3, some 4, 0, 0⟩)) deletedHeartbeat =
        some final ∧
      ¬ HeartbeatKept final 4 1 ∧ ¬ CapacityKept final 2 1 := by
  have ran : (timerCallMachine.run (timerStatics.call (.init 2 ⟨some 3, some 4, 0, 0⟩))
      deletedHeartbeat).any (fun final => decide (final.timerFd 0 = 5) &&
        decide ((final.addedSlots 1).card = 3)) = true := by decide +kernel
  rcases (Option.any_eq_true _ _).mp ran with ⟨final, same, holds⟩
  simp only [Bool.and_eq_true, decide_eq_true_eq] at holds
  refine ⟨final, same, fun kept => ?_, fun kept => ?_⟩
  · have first := kept.first
    rw [holds.1] at first
    exact absurd first (by decide)
  · have atMost := kept.atMost
    rw [holds.2] at atMost
    exact absurd atMost (by decide)

end Timer
end V2x
