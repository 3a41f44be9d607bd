import V2x.Foundations.TransitionSystem
import V2x.Timer.SlotTable

namespace V2x
namespace Timer

open Foundations

/-!
# The table, the epoll set and the open descriptors

One caller makes the calls of the module one after the other.  The module is
either down, with nothing open and no timer in the table, or up, with the slot
table, the epoll set and the open descriptors in agreement.

Before the first `InitTimerEventManage` the table consists of zeros, which are
descriptors by their sign.  Nothing reads them: every other function returns at
its test of `g_isInit`.
-/

/-- A call with its arguments and with the results of its system calls. -/
inductive TimerCall where
  | init (maxEventNum : Int32) (outcome : InitOutcome)
  | add (cb : Option TimerEventProcCb) (timerfdCreate : Option Int32)
  | delete (timerFd : Int32)
  | set (timerFd : Int32) (startTime period : UInt16) (timerfdSettime : Int32)
  | deinit
deriving DecidableEq, Repr

/-- The state after a call.  `SetTimerEvent` changes neither a variable nor a
descriptor. -/
def TimerState.call (state : TimerState) : TimerCall -> TimerState
  | .init maxEventNum outcome => (initTimerEventManage state maxEventNum outcome).2
  | .add cb timerfdCreate => (addTimerEvent state cb timerfdCreate).2
  | .delete timerFd => (deleteTimerEvent state timerFd).2
  | .set _ _ _ _ => state
  | .deinit => deinitTimerEventManage state

/-- A descriptor that the system creates is not open. -/
def CanCreate (state : TimerState) (fd : Int32) : Prop :=
  0 ≤ fd ∧ state.fds.file fd = none

instance (state : TimerState) (fd : Int32) : Decidable (CanCreate state fd) :=
  inferInstanceAs (Decidable (0 ≤ fd ∧ state.fds.file fd = none))

/-- The system calls return what they can return. -/
def PossibleCall (state : TimerState) : TimerCall -> Prop
  | .init _ outcome => forall epollfd, epollfd ∈ outcome.epollCreate -> CanCreate state epollfd ∧
      forall timerFd, timerFd ∈ outcome.timerfdCreate -> CanCreate state timerFd ∧ timerFd ≠ epollfd
  | .add _ timerfdCreate => forall timerFd, timerFd ∈ timerfdCreate -> CanCreate state timerFd
  | _ => True

instance (state : TimerState) : (made : TimerCall) -> Decidable (PossibleCall state made)
  | .init _ outcome =>
      haveI : forall epollfd, Decidable (forall timerFd, timerFd ∈ outcome.timerfdCreate ->
          CanCreate state timerFd ∧ timerFd ≠ epollfd) := fun _ => Option.decidableForallMem _
      Option.decidableForallMem outcome.epollCreate
  | .add _ timerfdCreate => Option.decidableForallMem timerfdCreate
  | .delete _ | .set _ _ _ _ | .deinit => isTrue trivial

def timerCallMachine : Machine TimerState TimerCall where
  step state made := if PossibleCall state made then some (state.call made) else none

/-! ## Up and down -/

/-- The descriptor of a timer in the table. -/
def TimerState.Registered (state : TimerState) (fd : Int32) : Prop :=
  0 ≤ fd ∧ Exists fun i => i < slotCount ∧ state.timerFd i = fd

/-- The three views of the timers agree. -/
structure Consistent (state : TimerState) : Prop where
  distinct : forall i j, i < slotCount -> j < slotCount -> 0 ≤ state.timerFd i ->
    state.timerFd i = state.timerFd j -> i = j
  below : forall i, i < slotCount -> 0 ≤ state.timerFd i -> i < state.maxEventNum
  callbacks : state.isInit -> forall i, i < slotCount -> 0 ≤ state.timerFd i ->
    (state.eventInfo i).cb ≠ none
  descriptors : forall fd, (state.fds.file fd).isSome <->
    state.Registered fd ∨ fd = state.epollfd ∧ state.epollfd ≠ -1
  closedOnce : state.fds.strayCloses = 0
  interest : forall watcher fd, state.fds.watches watcher fd <->
    watcher = state.epollfd ∧ state.Registered fd
  down : state.isInit = false ->
    (forall fd, ¬ state.Registered fd) ∧ state.epollfd = -1 ∧ state.maxEventNum = 0

/-- No descriptor is open and none was closed in vain. -/
structure Blank (state : TimerState) : Prop where
  closed : forall fd, state.fds.file fd = none
  unwatched : forall watcher fd, state.fds.watches watcher fd = false
  noStray : state.fds.strayCloses = 0
  epollfd : state.epollfd = -1

structure Down (state : TimerState) : Prop where
  blank : Blank state
  notInit : state.isInit = false
  maxEventNum : state.maxEventNum = 0
  isFree : forall i, i < slotCount -> state.timerFd i = -1

structure Up (state : TimerState) : Prop where
  isInit : state.isInit = true
  epollfd : 0 ≤ state.epollfd
  slots : SlotInv state
  complete : Complete state
  watched : AllWatched state

theorem Up.hasEpoll {state : TimerState} (up : Up state) : state.epollfd ≠ -1 := by
  intro isNone
  have nonnegative := up.epollfd
  rw [isNone] at nonnegative
  exact absurd nonnegative (by decide)

/-- Every open descriptor is a non-negative number. -/
theorem Up.nonnegative {state : TimerState} (up : Up state) {fd : Int32}
    (isOpen : (state.fds.file fd).isSome) : 0 ≤ fd := by
  rcases up.complete.only fd isOpen with ⟨rfl, _⟩ | ⟨i, inside, used, rfl⟩
  · exact up.epollfd
  · exact (up.slots.regular i inside).resolve_left used

theorem registered_iff_of_slots {state : TimerState} (slots : SlotInv state) {fd : Int32} :
    state.Registered fd <->
      fd ≠ -1 ∧ Exists fun i => i < slotCount ∧ state.timerFd i = fd := by
  have negative : ¬ (0 : Int32) ≤ -1 := by decide
  constructor
  · rintro ⟨nonnegative, registered⟩
    exact ⟨fun same => negative (same ▸ nonnegative), registered⟩
  · rintro ⟨notNone, i, inside, rfl⟩
    exact ⟨(slots.regular i inside).resolve_left notNone, i, inside, rfl⟩

theorem Up.consistent {state : TimerState} (up : Up state) : Consistent state := by
  have used : forall i, 0 ≤ state.timerFd i -> state.timerFd i ≠ -1 := by
    intro i nonnegative isNone
    rw [isNone] at nonnegative
    exact absurd nonnegative (by decide)
  refine ⟨?_, ?_, ?_, ?_, up.complete.noStray, ?_, ?_⟩
  · exact fun i j iInside jInside nonnegative =>
      up.slots.distinct i j iInside jInside (used i nonnegative)
  · exact fun i inside nonnegative => up.slots.below i inside (used i nonnegative)
  · exact fun _ i inside nonnegative => up.slots.callbacks i inside (used i nonnegative)
  · intro fd
    rw [registered_iff_of_slots up.slots]
    constructor
    · intro isOpen
      rcases up.complete.only fd isOpen with isEpoll | ⟨i, inside, isUsed, rfl⟩
      · exact Or.inr isEpoll
      · exact Or.inl ⟨isUsed, i, inside, rfl⟩
    · rintro (⟨isUsed, i, inside, rfl⟩ | ⟨rfl, isUsed⟩)
      · exact up.slots.opened i inside isUsed
      · exact up.complete.epoll isUsed
  · intro watcher fd
    rw [registered_iff_of_slots up.slots]
    constructor
    · exact up.slots.watched watcher fd
    · rintro ⟨rfl, isUsed, i, inside, rfl⟩
      exact up.watched i inside isUsed
  · intro notInit
    rw [up.isInit] at notInit
    cases notInit

theorem Down.consistent {state : TimerState} (down : Down state) : Consistent state := by
  have negative : ¬ (0 : Int32) ≤ -1 := by decide
  have noTimer : forall i, i < slotCount -> ¬ 0 ≤ state.timerFd i := by
    intro i inside
    rw [down.isFree i inside]
    exact negative
  have unregistered : forall fd, ¬ state.Registered fd := by
    rintro fd ⟨nonnegative, i, inside, rfl⟩
    exact noTimer i inside nonnegative
  refine ⟨?_, ?_, ?_, ?_, down.blank.noStray, ?_, ?_⟩
  · exact fun i _ inside _ nonnegative => absurd nonnegative (noTimer i inside)
  · exact fun i inside nonnegative => absurd nonnegative (noTimer i inside)
  · exact fun _ i inside nonnegative => absurd nonnegative (noTimer i inside)
  · intro fd
    rw [down.blank.closed fd]
    constructor
    · intro isOpen
      cases isOpen
    · rintro (registered | ⟨_, notNone⟩)
      · exact absurd registered (unregistered fd)
      · exact absurd down.blank.epollfd notNone
  · intro watcher fd
    rw [down.blank.unwatched watcher fd]
    constructor
    · intro isWatched
      cases isWatched
    · exact fun both => absurd both.2 (unregistered fd)
  · exact fun _ => ⟨unregistered, down.blank.epollfd, down.maxEventNum⟩

/-! ## Going down -/

/-- The last part of `DeinitTimerEventManageCore`, when slot 0 is free. -/
def TimerState.closeEpoll (state : TimerState) : TimerState :=
  let state :=
    if state.epollfd ≠ -1 then
      { state with fds := state.fds.close state.epollfd, epollfd := -1 }
    else state
  { state with maxEventNum := 0, isInit := false }

theorem core_eq (state : TimerState) : deinitTimerEventManageCore state =
    (if state.timerFd 0 ≠ -1 then state.release 0 else state).closeEpoll :=
  rfl

theorem closeEpoll_down {state : TimerState} (slots : SlotInv state) (complete : Complete state)
    (isFree : forall i, i < slotCount -> state.timerFd i = -1) : Down state.closeEpoll := by
  have unwatched : forall watcher fd, state.fds.watches watcher fd = false := by
    intro watcher fd
    by_contra isWatched
    rcases slots.watched watcher fd (by simpa using isWatched) with ⟨_, notNone, i, inside, rfl⟩
    exact notNone (isFree i inside)
  have onlyEpoll : forall fd, (state.fds.file fd).isSome -> fd = state.epollfd := by
    intro fd isOpen
    rcases complete.only fd isOpen with isEpoll | ⟨i, inside, used, _⟩
    · exact isEpoll.1
    · exact absurd (isFree i inside) used
  by_cases hasEpoll : state.epollfd ≠ -1
  · have epollOpen := complete.epoll hasEpoll
    simp only [TimerState.closeEpoll, if_pos hasEpoll]
    refine ⟨⟨?_, ?_, ?_, rfl⟩, rfl, rfl, isFree⟩
    · intro fd
      simp only [Descriptors.file_close]
      split
      · rfl
      next isNot => exact Option.not_isSome_iff_eq_none.mp fun isOpen => isNot (onlyEpoll fd isOpen)
    · intro watcher fd
      simp only [Descriptors.watches_close epollOpen, unwatched, Bool.and_false]
    · simp only [Descriptors.strayCloses_close epollOpen, complete.noStray]
  · simp only [TimerState.closeEpoll, if_neg hasEpoll]
    have isNone := not_not.mp hasEpoll
    refine ⟨⟨?_, unwatched, complete.noStray, isNone⟩, rfl, rfl, isFree⟩
    intro fd
    apply Option.not_isSome_iff_eq_none.mp
    intro isOpen
    rcases complete.only fd isOpen with ⟨_, notNone⟩ | ⟨i, inside, used, _⟩
    · exact notNone isNone
    · exact used (isFree i inside)

/-- `DeinitTimerEventManageCore` with at most the heartbeat timer in the table. -/
theorem core_down {state : TimerState} (slots : SlotInv state) (complete : Complete state)
    (onlyFirst : forall i, i < slotCount -> i ≠ 0 -> state.timerFd i = -1) :
    Down (deinitTimerEventManageCore state) := by
  have first : 0 < slotCount := by decide
  rw [core_eq]
  split
  next used =>
    apply closeEpoll_down (slots.release first used) (complete.release slots first used)
    intro i inside
    rw [timerFd_release]
    split
    · rfl
    next isNot => exact onlyFirst i inside isNot
  next isFree =>
    apply closeEpoll_down slots complete
    intro i inside
    by_cases isFirst : i = 0
    · rw [isFirst]
      exact not_not.mp isFree
    · exact onlyFirst i inside isFirst

/-! ## The loop of `DeinitTimerEventManage` -/

/-- A round leaves its slot free and the others as they are. -/
theorem timerFd_deinitSlot {state : TimerState} {i j : Nat} :
    (deinitSlot state i).timerFd j = if j = i then -1 else state.timerFd j := by
  unfold deinitSlot
  split
  · exact timerFd_release
  · exact TimerState.timerFd_setSlot

/-- A free slot stays one when its callback is cleared. -/
theorem slotInv_setSlot_free {state : TimerState} {i : Nat} {cb : Option TimerEventProcCb}
    (slots : SlotInv state) (isFree : state.timerFd i = -1) :
    SlotInv (state.setSlot i ⟨-1, cb⟩) := by
  have same : (state.setSlot i ⟨-1, cb⟩).timerFd = state.timerFd := by
    funext j
    rw [TimerState.timerFd_setSlot]
    split
    next isSlot => rw [isSlot, isFree]
    · rfl
  refine ⟨slots.bound, ?_, ?_, ?_, ?_, ?_, ?_, ?_⟩
  · rw [same]
    exact slots.regular
  · rw [same]
    exact slots.below
  · rw [same]
    exact slots.distinct
  · intro j inside used
    rw [same] at used
    rw [TimerState.eventInfo_setSlot, if_neg]
    · exact slots.callbacks j inside used
    · rintro rfl
      exact used isFree
  · rw [same]
    exact slots.opened
  · rw [same]
    exact slots.apart
  · rw [same]
    exact slots.watched

theorem complete_setSlot_free {state : TimerState} {i : Nat} {cb : Option TimerEventProcCb}
    (complete : Complete state) (isFree : state.timerFd i = -1) :
    Complete (state.setSlot i ⟨-1, cb⟩) where
  only := by
    intro fd isOpen
    rcases complete.only fd isOpen with isEpoll | ⟨j, inside, used, holds⟩
    · exact Or.inl isEpoll
    · have isNot : j ≠ i := by
        rintro rfl
        exact used isFree
      refine Or.inr ⟨j, inside, ?_, ?_⟩
      · rw [TimerState.timerFd_setSlot, if_neg isNot]
        exact used
      · rw [TimerState.timerFd_setSlot, if_neg isNot]
        exact holds
  epoll := complete.epoll
  noStray := complete.noStray

theorem deinitSlot_keeps {state : TimerState} {i : Nat} (slots : SlotInv state)
    (complete : Complete state) (inside : i < slotCount) :
    SlotInv (deinitSlot state i) ∧ Complete (deinitSlot state i) := by
  unfold deinitSlot
  split
  next used => exact ⟨slots.release inside used, complete.release slots inside used⟩
  next isFree =>
    have free := not_not.mp isFree
    exact ⟨slotInv_setSlot_free slots free, complete_setSlot_free complete free⟩

/-- The loop frees the slots it visits. -/
theorem timerFd_deinitLoop (indices : List Nat) {state : TimerState} {j : Nat} :
    (indices.foldl deinitSlot state).timerFd j = if j ∈ indices then -1 else state.timerFd j := by
  induction indices generalizing state with
  | nil => exact (if_neg List.not_mem_nil).symm
  | cons i indices inductionHypothesis =>
      rw [List.foldl_cons, inductionHypothesis, timerFd_deinitSlot]
      by_cases later : j ∈ indices
      · rw [if_pos later, if_pos (List.mem_cons_of_mem _ later)]
      · rw [if_neg later]
        by_cases same : j = i
        · rw [if_pos same, if_pos (List.mem_cons.mpr (Or.inl same))]
        · rw [if_neg same, if_neg (List.not_mem_cons_of_ne_of_not_mem same later)]

theorem deinitLoop_keeps (indices : List Nat) {state : TimerState} (slots : SlotInv state)
    (complete : Complete state) (inside : forall i, i ∈ indices -> i < slotCount) :
    SlotInv (indices.foldl deinitSlot state) ∧ Complete (indices.foldl deinitSlot state) := by
  induction indices generalizing state with
  | nil => exact ⟨slots, complete⟩
  | cons i indices inductionHypothesis =>
      have kept := deinitSlot_keeps slots complete (inside i List.mem_cons_self)
      exact inductionHypothesis kept.1 kept.2 (fun j member => inside j (List.mem_cons_of_mem _ member))

theorem deinit_down {state : TimerState} (slots : SlotInv state) (complete : Complete state) :
    Down (deinitTimerEventManageLocked state) := by
  have inside : forall i, i ∈ List.range state.maxEventNum -> i < slotCount := fun i member =>
    Nat.lt_of_lt_of_le (List.mem_range.mp member) slots.bound
  rcases deinitLoop_keeps _ slots complete inside with ⟨loopSlots, loopComplete⟩
  apply core_down loopSlots loopComplete
  intro i isSlot _
  rw [timerFd_deinitLoop]
  split
  · rfl
  next outside =>
    by_contra used
    exact outside (List.mem_range.mpr (slots.below i isSlot used))

/-! ## Coming up -/

/-- A table without timers, whatever its size. -/
theorem slotInv_of_free {state : TimerState} (bound : state.maxEventNum ≤ slotCount)
    (isFree : forall i, i < slotCount -> state.timerFd i = -1)
    (unwatched : forall watcher fd, state.fds.watches watcher fd = false) : SlotInv state where
  bound := bound
  regular := fun i inside => Or.inl (isFree i inside)
  below := fun i inside used => absurd (isFree i inside) used
  distinct := fun i _ inside _ used => absurd (isFree i inside) used
  callbacks := fun i inside used => absurd (isFree i inside) used
  opened := fun i inside used => absurd (isFree i inside) used
  apart := fun i inside used => absurd (isFree i inside) used
  watched := by
    intro watcher fd isWatched
    rw [unwatched watcher fd] at isWatched
    cases isWatched

theorem timerFd_initData {state : TimerState} {i : Nat} (inside : i < slotCount) :
    (initTimerEventManageData state).timerFd i = -1 := by
  have isSlot : i < timerEventNumMax + 1 := inside
  simp only [TimerState.timerFd, initTimerEventManageData, if_pos isSlot]

/-- The table is cleared and has room for `maxEventNum` timers and the heartbeat. -/
def TimerState.sized (state : TimerState) (maxEventNum : Int32) : TimerState :=
  { initTimerEventManageData state with maxEventNum := maxEventNum.toInt.toNat + 1 }

/-- The same with an epoll descriptor. -/
def TimerState.polling (state : TimerState) (maxEventNum epollfd : Int32) : TimerState :=
  { state.sized maxEventNum with epollfd := epollfd, fds := state.fds.create epollfd }

section Init

variable {state : TimerState} {maxEventNum epollfd timerFd : Int32}

theorem maxEventNum_bound (allowed : ¬ (maxEventNum ≤ 0 ∨ Int32.ofNat timerEventNumMax < maxEventNum)) :
    maxEventNum.toInt.toNat + 1 ≤ slotCount := by
  push Not at allowed
  have upper := Int32.le_iff_toInt_le.mp (Int32.not_lt.mp allowed.2)
  have ten : (Int32.ofNat timerEventNumMax).toInt = 10 := by decide
  rw [ten] at upper
  simp only [slotCount, timerEventNumMax]
  omega

/-- Until the epoll descriptor exists a failure has nothing to release. -/
theorem core_down_of_blank (blank : Blank state) (bound : state.maxEventNum ≤ slotCount)
    (isFree : forall i, i < slotCount -> state.timerFd i = -1) :
    Down (deinitTimerEventManageCore state) := by
  apply core_down (slotInv_of_free bound isFree blank.unwatched)
  · refine ⟨?_, ?_, blank.noStray⟩
    · intro fd isOpen
      rw [blank.closed fd] at isOpen
      cases isOpen
    · exact fun notNone => absurd blank.epollfd notNone
  · exact fun i inside _ => isFree i inside

theorem slotInv_polling (blank : Blank state) (bound : maxEventNum.toInt.toNat + 1 ≤ slotCount) :
    SlotInv (state.polling maxEventNum epollfd) :=
  slotInv_of_free bound (fun _ inside => timerFd_initData inside) blank.unwatched

theorem complete_polling (blank : Blank state) (nonnegative : 0 ≤ epollfd) :
    Complete (state.polling maxEventNum epollfd) where
  only := by
    intro fd isOpen
    simp only [TimerState.polling, Descriptors.file_create, blank.closed fd] at isOpen
    split at isOpen
    next same =>
      refine Or.inl ⟨same, ?_⟩
      rintro isNone
      have isEpoll : epollfd = -1 := isNone
      rw [isEpoll] at nonnegative
      exact absurd nonnegative (by decide)
    next => cases isOpen
  epoll := by
    intro _
    simp only [TimerState.polling, Descriptors.file_create, if_true]
    rfl
  noStray := blank.noStray

/-- The heartbeat timer takes slot 0. -/
theorem heartbeat_keeps (blank : Blank state) (bound : maxEventNum.toInt.toNat + 1 ≤ slotCount)
    (epollNonnegative : 0 ≤ epollfd) (nonnegative : 0 ≤ timerFd) (notEpoll : timerFd ≠ epollfd) :
    SlotInv ((state.polling maxEventNum epollfd).fill 0 timerFd .timerEventManageHeartbeatCb) ∧
    Complete ((state.polling maxEventNum epollfd).fill 0 timerFd .timerEventManageHeartbeatCb) := by
  have first : 0 < slotCount := by decide
  have isFree : (state.polling maxEventNum epollfd).timerFd 0 = -1 := timerFd_initData first
  have unused : (state.polling maxEventNum epollfd).fds.file timerFd = none := by
    simp only [TimerState.polling, Descriptors.file_create, if_neg notEpoll, blank.closed timerFd]
  exact ⟨(slotInv_polling blank bound).fill (Nat.succ_pos _) isFree nonnegative unused notEpoll,
    (complete_polling blank epollNonnegative).fill first isFree nonnegative⟩

theorem onlyHeartbeat {i : Nat} (inside : i < slotCount) (isNot : i ≠ 0) :
    ((state.polling maxEventNum epollfd).fill 0 timerFd .timerEventManageHeartbeatCb).timerFd i =
      -1 := by
  rw [timerFd_fill, if_neg isNot]
  exact timerFd_initData inside

/-- With the heartbeat timer in the epoll set the module is up. -/
theorem heartbeat_up (blank : Blank state) (bound : maxEventNum.toInt.toNat + 1 ≤ slotCount)
    (epollNonnegative : 0 ≤ epollfd) (nonnegative : 0 ≤ timerFd) (notEpoll : timerFd ≠ epollfd) :
    Up { (state.polling maxEventNum epollfd).fill 0 timerFd .timerEventManageHeartbeatCb with
      fds := ((state.fds.create epollfd).create timerFd).watch epollfd timerFd
      isInit := true } := by
  have first : 0 < slotCount := by decide
  rcases heartbeat_keeps blank bound epollNonnegative nonnegative notEpoll with ⟨slots, complete⟩
  have notNone : timerFd ≠ -1 := by
    rintro rfl
    exact absurd nonnegative (by decide)
  have firstIs : ((state.polling maxEventNum epollfd).fill 0 timerFd
      .timerEventManageHeartbeatCb).timerFd 0 = timerFd := by
    rw [timerFd_fill, if_pos rfl]
  have watchedSlots := slots.watch first (by rw [firstIs]; exact notNone)
  rw [firstIs] at watchedSlots
  refine ⟨rfl, epollNonnegative, ⟨watchedSlots.bound, watchedSlots.regular, watchedSlots.below,
    watchedSlots.distinct, watchedSlots.callbacks, watchedSlots.opened, watchedSlots.apart,
    watchedSlots.watched⟩, ⟨complete.only, complete.epoll, complete.noStray⟩, ?_⟩
  · intro i inside used
    by_cases isFirst : i = 0
    · subst isFirst
      change (((state.fds.create epollfd).create timerFd).watch epollfd timerFd).watches epollfd
        (((state.polling maxEventNum epollfd).fill 0 timerFd
          .timerEventManageHeartbeatCb).timerFd 0) = true
      rw [firstIs]
      simp [Descriptors.watch]
    · exact absurd (onlyHeartbeat inside isFirst) used

end Init

/-- `InitTimerEventManage` on a module without open descriptors brings it up
or leaves it down. -/
theorem init_upOrDown {state : TimerState} {maxEventNum : Int32} {outcome : InitOutcome}
    (blank : Blank state) (possible : PossibleCall state (.init maxEventNum outcome)) :
    Up (initTimerEventManageFresh state maxEventNum outcome).2 ∧
      (initTimerEventManageFresh state maxEventNum outcome).1 = 0 ∨
    Down (initTimerEventManageFresh state maxEventNum outcome).2 := by
  have cleared : Blank (initTimerEventManageData state) :=
    ⟨blank.closed, blank.unwatched, blank.noStray, blank.epollfd⟩
  unfold initTimerEventManageFresh
  split
  · exact Or.inr (core_down_of_blank cleared (Nat.zero_le _) (fun _ => timerFd_initData))
  next allowed =>
    have bound := maxEventNum_bound allowed
    rcases outcome with ⟨epollCreate, timerfdCreate, epollCtl, threadCreate⟩
    cases epollCreate with
    | none =>
        have sized : Blank { state.sized maxEventNum with epollfd := -1 } :=
          ⟨blank.closed, blank.unwatched, blank.noStray, rfl⟩
        exact Or.inr (core_down_of_blank sized bound (fun _ => timerFd_initData))
    | some epollfd =>
        have epollNonnegative := (possible epollfd rfl).1.1
        cases timerfdCreate with
        | none =>
            have isFree : (state.polling maxEventNum epollfd).timerFd 0 = -1 :=
              timerFd_initData (by decide)
            refine Or.inr (core_down (slotInv_setSlot_free (slotInv_polling blank bound) isFree)
              (complete_setSlot_free (complete_polling blank epollNonnegative) isFree) ?_)
            intro i inside isNot
            rw [TimerState.timerFd_setSlot, if_neg isNot]
            exact timerFd_initData inside
        | some timerFd =>
            rcases (possible epollfd rfl).2 timerFd rfl with ⟨canCreate, notEpoll⟩
            have kept := heartbeat_keeps blank bound epollNonnegative canCreate.1 notEpoll
            have up := heartbeat_up blank bound epollNonnegative canCreate.1 notEpoll
            simp only
            split
            · exact Or.inr (core_down kept.1 kept.2 (fun _ => onlyHeartbeat))
            · split
              · refine Or.inr (core_down ?_ ?_ (fun _ => onlyHeartbeat))
                · exact ⟨up.slots.bound, up.slots.regular, up.slots.below, up.slots.distinct,
                    up.slots.callbacks, up.slots.opened, up.slots.apart, up.slots.watched⟩
                · exact ⟨up.complete.only, up.complete.epoll, up.complete.noStray⟩
              · exact Or.inl ⟨up, rfl⟩

/-! ## Calls while the module is up -/

section Running

variable {state : TimerState} {timerFd : Int32} {cb : TimerEventProcCb}

theorem CanCreate.notNone (canCreate : CanCreate state timerFd) : timerFd ≠ -1 := by
  rintro rfl
  exact absurd canCreate.1 (by decide)

theorem Up.notEpoll (up : Up state) (canCreate : CanCreate state timerFd) :
    timerFd ≠ state.epollfd := by
  rintro rfl
  have isOpen := up.complete.epoll up.hasEpoll
  rw [canCreate.2] at isOpen
  cases isOpen

/-- A new timer in a free slot and in the epoll set. -/
theorem Up.add (up : Up state) {i : Nat} (isSlot : i < state.maxEventNum)
    (isFree : state.timerFd i = -1) (canCreate : CanCreate state timerFd) :
    Up { state.fill i timerFd cb with
      fds := (state.fds.create timerFd).watch state.epollfd timerFd } := by
  have inside : i < slotCount := Nat.lt_of_lt_of_le isSlot up.slots.bound
  have slots : SlotInv (state.fill i timerFd cb) :=
    up.slots.fill isSlot isFree canCreate.1 canCreate.2 (up.notEpoll canCreate)
  have complete : Complete (state.fill i timerFd cb) :=
    up.complete.fill inside isFree canCreate.1
  have slotIs : (state.fill i timerFd cb).timerFd i = timerFd := by
    rw [timerFd_fill, if_pos rfl]
  have watchedSlots := slots.watch inside (by rw [slotIs]; exact canCreate.notNone)
  rw [slotIs] at watchedSlots
  refine ⟨up.isInit, up.epollfd, watchedSlots, ⟨complete.only, complete.epoll, complete.noStray⟩, ?_⟩
  intro j jInside used
  have shape : forall k, TimerState.timerFd { state.fill i timerFd cb with
      fds := (state.fds.create timerFd).watch state.epollfd timerFd } k =
        if k = i then timerFd else state.timerFd k := fun k => timerFd_fill
  change ((state.fds.create timerFd).watch state.epollfd timerFd).watches state.epollfd _ = true
  rw [shape] at used ⊢
  simp only [Descriptors.watch, Bool.or_eq_true, decide_eq_true_eq, true_and]
  split
  · exact Or.inl rfl
  next isNot =>
    rw [if_neg isNot] at used
    exact Or.inr (up.watched j jInside used)

/-- A new timer that is closed again leaves no trace. -/
theorem Up.discard (up : Up state) (canCreate : CanCreate state timerFd) :
    Up { state with fds := (state.fds.create timerFd).close timerFd } := by
  have isOpen : ((state.fds.create timerFd).file timerFd).isSome := by
    rw [Descriptors.file_create, if_pos rfl]
    rfl
  have files : ((state.fds.create timerFd).close timerFd).file = state.fds.file := by
    funext fd
    rw [Descriptors.file_close, Descriptors.file_create]
    split
    next same => rw [same, canCreate.2]
    · rfl
  have watches : ((state.fds.create timerFd).close timerFd).watches = state.fds.watches := by
    funext watcher fd
    rw [Descriptors.watches_close isOpen, Descriptors.watches_create]
    cases isWatched : state.fds.watches watcher fd with
    | false => exact Bool.and_false _
    | true =>
        rcases up.slots.watched watcher fd isWatched with ⟨rfl, notNone, i, inside, rfl⟩
        have slotOpen := up.slots.opened i inside notNone
        have different : state.timerFd i ≠ timerFd := by
          rintro rfl
          rw [canCreate.2] at slotOpen
          cases slotOpen
        rw [Bool.and_true, decide_eq_true_eq]
        exact ⟨(up.notEpoll canCreate).symm, different⟩
  have noStray := Descriptors.strayCloses_close isOpen
  refine ⟨up.isInit, up.epollfd, ⟨up.slots.bound, up.slots.regular, up.slots.below,
    up.slots.distinct, up.slots.callbacks, ?_, up.slots.apart, ?_⟩, ⟨?_, ?_, ?_⟩, ?_⟩
  · rw [files]
    exact up.slots.opened
  · rw [watches]
    exact up.slots.watched
  · rw [files]
    exact up.complete.only
  · rw [files]
    exact up.complete.epoll
  · exact noStray.trans up.complete.noStray
  · intro i inside used
    rw [watches]
    exact up.watched i inside used

theorem Up.addTimerEvent (up : Up state) {cb : Option TimerEventProcCb}
    {timerfdCreate : Option Int32}
    (possible : forall timerFd, timerFd ∈ timerfdCreate -> CanCreate state timerFd) :
    Up (addTimerEvent state cb timerfdCreate).2 := by
  cases cb with
  | none => exact up
  | some cb =>
      simp only [Timer.addTimerEvent, up.isInit, not_true_eq_false, if_false]
      cases timerfdCreate with
      | none => exact up
      | some timerFd =>
          have canCreate := possible timerFd rfl
          by_cases hasRoom : state.findSlot (-1) < state.maxEventNum
          · rw [addTimerEventLocked_fill hasRoom]
            have notFull : state.findSlot (-1) ≠ (state.fill (state.findSlot (-1)) timerFd
                cb).maxEventNum := Nat.ne_of_lt hasRoom
            simp only [addTimerEventUnlocked, if_neg notFull]
            exact up.add hasRoom (TimerState.findSlot_found hasRoom) canCreate
          · have atEnd : state.findSlot (-1) = state.maxEventNum :=
              Nat.le_antisymm TimerState.findSlot_le (Nat.not_lt.mp hasRoom)
            rw [addTimerEventLocked_full hasRoom]
            simp only [addTimerEventUnlocked, if_pos atEnd]
            exact up.discard canCreate

theorem Up.deleteTimerEvent (up : Up state) : Up (deleteTimerEvent state timerFd).2 := by
  unfold Timer.deleteTimerEvent
  split
  · exact up
  next nonnegative =>
    simp only [up.isInit, not_true_eq_false, if_false, deleteTimerEventLocked]
    split
    next found =>
      have inside := Nat.lt_of_lt_of_le found up.slots.bound
      have used : state.timerFd (state.findSlot timerFd) ≠ -1 := by
        rw [TimerState.findSlot_found found]
        rintro rfl
        exact nonnegative (by decide)
      exact ⟨up.isInit, up.epollfd, up.slots.release inside used,
        up.complete.release up.slots inside used, up.watched.release up.slots inside used⟩
    · exact up

end Running

/-! ## Sequences of calls -/

/-- A call on a module that is up. -/
theorem Up.call {state : TimerState} (up : Up state) {made : TimerCall}
    (possible : PossibleCall state made) : Up (state.call made) ∨ Down (state.call made) := by
  cases made with
  | init maxEventNum outcome =>
      refine Or.inl ?_
      simp only [TimerState.call, initTimerEventManage, up.isInit, if_true]
      exact up
  | add cb timerfdCreate => exact Or.inl (up.addTimerEvent possible)
  | delete timerFd => exact Or.inl up.deleteTimerEvent
  | set timerFd startTime period timerfdSettime => exact Or.inl up
  | deinit =>
      refine Or.inr ?_
      simp only [TimerState.call, deinitTimerEventManage, up.isInit, not_true_eq_false, if_false]
      exact deinit_down
        ⟨up.slots.bound, up.slots.regular, up.slots.below, up.slots.distinct, up.slots.callbacks,
          up.slots.opened, up.slots.apart, up.slots.watched⟩
        ⟨up.complete.only, up.complete.epoll, up.complete.noStray⟩

/-- A module that is not initialised changes only by `InitTimerEventManage`. -/
theorem call_notInit {state : TimerState} (notInit : state.isInit = false) {made : TimerCall}
    (notInitCall : forall maxEventNum outcome, made ≠ .init maxEventNum outcome) :
    state.call made = state := by
  cases made with
  | init maxEventNum outcome => exact absurd rfl (notInitCall maxEventNum outcome)
  | add cb timerfdCreate =>
      simp only [TimerState.call, addTimerEvent, notInit]
      cases cb with
      | none => rfl
      | some cb => rfl
  | delete timerFd =>
      simp only [TimerState.call, deleteTimerEvent, notInit]
      split <;> rfl
  | set timerFd startTime period timerfdSettime => rfl
  | deinit =>
      simp only [TimerState.call, deinitTimerEventManage, notInit]
      rfl

theorem Blank.init {state : TimerState} (blank : Blank state) (notInit : state.isInit = false)
    {maxEventNum : Int32} {outcome : InitOutcome}
    (possible : PossibleCall state (.init maxEventNum outcome)) :
    Up (state.call (.init maxEventNum outcome)) ∨ Down (state.call (.init maxEventNum outcome)) := by
  simp only [TimerState.call, initTimerEventManage, notInit, Bool.false_eq_true, if_false]
  rcases init_upOrDown blank possible with ⟨up, _⟩ | down
  · exact Or.inl up
  · exact Or.inr down

theorem Down.call {state : TimerState} (down : Down state) {made : TimerCall}
    (possible : PossibleCall state made) : Up (state.call made) ∨ Down (state.call made) := by
  by_cases isInitCall : Exists fun maxEventNum => Exists fun outcome =>
      made = .init maxEventNum outcome
  · rcases isInitCall with ⟨maxEventNum, outcome, rfl⟩
    exact down.blank.init down.notInit possible
  · rw [call_notInit down.notInit]
    · exact Or.inr down
    · exact fun maxEventNum outcome same => isInitCall ⟨maxEventNum, outcome, same⟩

theorem blank_timerStatics : Blank timerStatics :=
  ⟨fun _ => rfl, fun _ _ => rfl, rfl, rfl⟩

def TimerCall.isInitCall : TimerCall -> Bool
  | .init _ _ => true
  | _ => false

theorem call_statics {made : TimerCall} (possible : PossibleCall timerStatics made) :
    if made.isInitCall then Up (timerStatics.call made) ∨ Down (timerStatics.call made)
    else timerStatics.call made = timerStatics := by
  cases made with
  | init maxEventNum outcome => exact blank_timerStatics.init rfl possible
  | add cb timerfdCreate => exact call_notInit rfl (by simp)
  | delete timerFd => exact call_notInit rfl (by simp)
  | set timerFd startTime period timerfdSettime => rfl
  | deinit => rfl

/-- What every call keeps once `InitTimerEventManage` has been called. -/
def Settled (state : TimerState) : Prop :=
  Up state ∨ Down state

theorem settled_step (before : TimerState) (made : TimerCall) (after : TimerState)
    (settled : Settled before) (stepped : timerCallMachine.step before made = some after) :
    Settled after := by
  simp only [timerCallMachine] at stepped
  split at stepped
  next possible =>
    cases stepped
    exact settled.elim (fun up => up.call possible) (fun down => down.call possible)
  next => cases stepped

theorem settled_of_run (calls : List TimerCall) (final : TimerState)
    (ran : timerCallMachine.run timerStatics calls = some final) :
    if calls.any TimerCall.isInitCall then Settled final else final = timerStatics := by
  induction calls with
  | nil => exact (Option.some.inj ran).symm
  | cons made calls inductionHypothesis =>
      rcases (timerCallMachine.run_cons_iff timerStatics final made calls).mp ran with
        ⟨next, stepped, rest⟩
      simp only [timerCallMachine] at stepped
      split at stepped
      next possible =>
        have first := call_statics possible
        cases stepped
        by_cases isInitCall : made.isInitCall = true
        · rw [if_pos isInitCall] at first
          rw [List.any_cons, isInitCall, Bool.true_or, if_pos rfl]
          exact timerCallMachine.run_invariant settled_step first rest
        · rw [if_neg isInitCall] at first
          rw [List.any_cons, Bool.eq_false_iff.mpr isInitCall, Bool.false_or]
          exact inductionHypothesis (first ▸ rest)
      next => cases stepped

/-- A module that is initialised is up. -/
theorem up_of_run {calls : List TimerCall} {final : TimerState}
    (ran : timerCallMachine.run timerStatics calls = some final) (isInit : final.isInit = true) :
    Up final := by
  have settled := settled_of_run calls final ran
  split at settled
  next =>
    rcases settled with up | down
    · exact up
    · rw [down.notInit] at isInit
      cases isInit
  next =>
    rw [settled] at isInit
    cases isInit

/-- After every sequence of calls, with any results of the system calls, the three
views of the timers agree once `InitTimerEventManage` has been called, and before
that no call has changed anything. -/
theorem timerCalls_consistent (calls : List TimerCall) (final : TimerState)
    (ran : timerCallMachine.run timerStatics calls = some final) :
    if calls.any TimerCall.isInitCall then Consistent final else final = timerStatics := by
  have settled := settled_of_run calls final ran
  split
  next called =>
    rw [if_pos called] at settled
    exact settled.elim Up.consistent Down.consistent
  next notCalled =>
    rw [if_neg notCalled] at settled
    exact settled

/-- A start that fails at its thread, then two lives; descriptors and slots are
used again, also the slot of the heartbeat. -/
def secondLife : List TimerCall :=
  [.add (some (.client 0)) none, .init 2 ⟨some 3, some 4, 0, 11⟩, .init 2 ⟨some 3, some 4, 0, 0⟩,
    .add (some (.client 0)) (some 5), .add (some (.client 1)) (some 6),
    .add (some (.client 2)) (some 7), .delete 4, .add (some (.client 2)) (some 4), .delete 9,
    .set 5 100 1000 0, .deinit, .init 10 ⟨some 4, some 3, 0, 0⟩, .delete 3]

theorem timerCalls_consistent_secondLife : Exists fun final =>
    timerCallMachine.run timerStatics secondLife = some final ∧ Consistent final := by
  have ran : (timerCallMachine.run timerStatics secondLife).isSome := by decide +kernel
  rcases Option.isSome_iff_exists.mp ran with ⟨final, same⟩
  have consistent := timerCalls_consistent secondLife final same
  exact ⟨final, same, consistent⟩

/-- The zeros in the table before the first `InitTimerEventManage` are equal
descriptors in different slots. -/
theorem statics_not_consistent : Exists fun final =>
    timerCallMachine.run timerStatics [.add (some (.client 0)) none] = some final ∧
      ¬ Consistent final := by
  refine ⟨timerStatics, rfl, fun consistent => ?_⟩
  have same := consistent.distinct 0 1 (by decide) (by decide) (by decide) rfl
  cases same

/-! ## The numbers of the timers -/

section Numbers

variable {state : TimerState}

theorem wellNumbered_release {i : Nat} (numbered : state.fds.WellNumbered) :
    (state.release i).fds.WellNumbered :=
  (Descriptors.moves_close _ _).wellNumbered ⟨numbered.below, numbered.injective⟩

theorem wellNumbered_deinitSlot {i : Nat} (numbered : state.fds.WellNumbered) :
    (deinitSlot state i).fds.WellNumbered := by
  unfold deinitSlot
  split
  · exact wellNumbered_release numbered
  · exact numbered

theorem wellNumbered_deinitLoop (indices : List Nat) (numbered : state.fds.WellNumbered) :
    (indices.foldl deinitSlot state).fds.WellNumbered := by
  induction indices generalizing state with
  | nil => exact numbered
  | cons i indices inductionHypothesis => exact inductionHypothesis (wellNumbered_deinitSlot numbered)

theorem wellNumbered_closeEpoll (numbered : state.fds.WellNumbered) :
    state.closeEpoll.fds.WellNumbered := by
  unfold TimerState.closeEpoll
  by_cases hasEpoll : state.epollfd ≠ -1
  · simp only [if_pos hasEpoll]
    exact (Descriptors.moves_close _ _).wellNumbered numbered
  · simp only [if_neg hasEpoll]
    exact numbered

theorem wellNumbered_core (numbered : state.fds.WellNumbered) :
    (deinitTimerEventManageCore state).fds.WellNumbered := by
  rw [core_eq]
  apply wellNumbered_closeEpoll
  split
  · exact wellNumbered_release numbered
  · exact numbered

theorem wellNumbered_create {fd : Int32} (numbered : state.fds.WellNumbered) :
    (state.fds.create fd).WellNumbered :=
  (Descriptors.moves_create _ _).wellNumbered numbered

theorem wellNumbered_initFresh {maxEventNum : Int32} {outcome : InitOutcome}
    (numbered : state.fds.WellNumbered) :
    (initTimerEventManageFresh state maxEventNum outcome).2.fds.WellNumbered := by
  have two : forall epollfd timerFd,
      ((state.fds.create epollfd).create timerFd).WellNumbered := fun _ timerFd =>
    (Descriptors.moves_create _ timerFd).wellNumbered (wellNumbered_create numbered)
  rcases outcome with ⟨epollCreate, timerfdCreate, epollCtl, threadCreate⟩
  unfold initTimerEventManageFresh
  split
  · exact wellNumbered_core numbered
  · cases epollCreate with
    | none => exact wellNumbered_core numbered
    | some epollfd =>
        cases timerfdCreate with
        | none => exact wellNumbered_core (wellNumbered_create numbered)
        | some timerFd =>
            have watched : (((state.fds.create epollfd).create timerFd).watch epollfd
                timerFd).WellNumbered := ⟨(two epollfd timerFd).below, (two epollfd timerFd).injective⟩
            simp only
            split
            · exact wellNumbered_core (two epollfd timerFd)
            · split
              · exact wellNumbered_core watched
              · exact watched

theorem wellNumbered_add {cb : Option TimerEventProcCb} {timerfdCreate : Option Int32}
    (numbered : state.fds.WellNumbered) :
    (addTimerEvent state cb timerfdCreate).2.fds.WellNumbered := by
  cases cb with
  | none => exact numbered
  | some cb =>
      simp only [addTimerEvent]
      split
      · exact numbered
      · cases timerfdCreate with
        | none => exact numbered
        | some timerFd =>
            have created : (state.fds.create timerFd).WellNumbered := wellNumbered_create numbered
            have after : forall (reached : TimerState) (i : Nat), reached.fds.WellNumbered ->
                (addTimerEventUnlocked reached timerFd i).2.fds.WellNumbered := by
              intro reached i isNumbered
              unfold addTimerEventUnlocked
              split
              · exact (Descriptors.moves_close _ _).wellNumbered isNumbered
              · exact isNumbered
            by_cases hasRoom : state.findSlot (-1) < state.maxEventNum
            · rw [addTimerEventLocked_fill hasRoom]
              exact after _ _ ⟨created.below, created.injective⟩
            · rw [addTimerEventLocked_full hasRoom]
              exact after _ _ created

theorem wellNumbered_call {made : TimerCall} (numbered : state.fds.WellNumbered) :
    (state.call made).fds.WellNumbered := by
  cases made with
  | init maxEventNum outcome =>
      simp only [TimerState.call, initTimerEventManage]
      split
      · exact numbered
      · exact wellNumbered_initFresh numbered
  | add cb timerfdCreate => exact wellNumbered_add numbered
  | delete timerFd =>
      simp only [TimerState.call, deleteTimerEvent]
      split
      · exact numbered
      · split
        · exact numbered
        · simp only [deleteTimerEventLocked]
          split
          · exact wellNumbered_release numbered
          · exact numbered
  | set timerFd startTime period timerfdSettime => exact numbered
  | deinit =>
      simp only [TimerState.call, deinitTimerEventManage]
      split
      · exact numbered
      · exact wellNumbered_core (wellNumbered_deinitLoop _ numbered)

theorem wellNumbered_of_run {calls : List TimerCall} {final : TimerState}
    (ran : timerCallMachine.run timerStatics calls = some final) : final.fds.WellNumbered := by
  have kept : forall (before : TimerState) (made : TimerCall) (after : TimerState),
      before.fds.WellNumbered -> timerCallMachine.step before made = some after ->
      after.fds.WellNumbered := by
    intro before made after numbered stepped
    simp only [timerCallMachine] at stepped
    split at stepped
    · cases stepped
      exact wellNumbered_call numbered
    · cases stepped
  have start : timerStatics.fds.WellNumbered := Descriptors.wellNumbered_empty
  exact timerCallMachine.run_invariant kept start ran

end Numbers
end Timer
end V2x
