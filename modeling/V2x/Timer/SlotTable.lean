import V2x.Timer.EventManage

namespace V2x
namespace Timer

open Foundations

/-!
# The slot table and the descriptors

The invariant of `g_eventInfo`: every slot is free or holds the descriptor of
an open timer, no two slots hold the same one, and the epoll set has no other
member.  A slot is filled and released by one definition each, so every function
of the module keeps it.
-/

/-- The size of `g_eventInfo`. -/
def slotCount : Nat := timerEventNumMax + 1

structure SlotInv (state : TimerState) : Prop where
  bound : state.maxEventNum ≤ slotCount
  regular : forall i, i < slotCount -> state.timerFd i = -1 ∨ 0 ≤ state.timerFd i
  below : forall i, i < slotCount -> state.timerFd i ≠ -1 -> i < state.maxEventNum
  distinct : forall i j, i < slotCount -> j < slotCount -> state.timerFd i ≠ -1 ->
    state.timerFd i = state.timerFd j -> i = j
  callbacks : forall i, i < slotCount -> state.timerFd i ≠ -1 -> (state.eventInfo i).cb ≠ none
  opened : forall i, i < slotCount -> state.timerFd i ≠ -1 ->
    (state.fds.file (state.timerFd i)).isSome
  apart : forall i, i < slotCount -> state.timerFd i ≠ -1 -> state.timerFd i ≠ state.epollfd
  watched : forall watcher fd, state.fds.watches watcher fd ->
    watcher = state.epollfd ∧ fd ≠ -1 ∧ Exists fun i => i < slotCount ∧ state.timerFd i = fd

/-- No descriptor is open but those of the slots and of the epoll set, and every
timer in a slot is in the epoll set. -/
structure Complete (state : TimerState) : Prop where
  only : forall fd, (state.fds.file fd).isSome -> fd = state.epollfd ∧ state.epollfd ≠ -1 ∨
    Exists fun i => i < slotCount ∧ state.timerFd i ≠ -1 ∧ state.timerFd i = fd
  epoll : state.epollfd ≠ -1 -> (state.fds.file state.epollfd).isSome
  noStray : state.fds.strayCloses = 0

def AllWatched (state : TimerState) : Prop :=
  forall i, i < slotCount -> state.timerFd i ≠ -1 ->
    state.fds.watches state.epollfd (state.timerFd i) = true

namespace TimerState

variable {state : TimerState} {i j : Nat} {info : TimerEventManageInfo} {timerFd : Int32}

theorem timerFd_setSlot :
    (state.setSlot i info).timerFd j = if j = i then info.timerFd else state.timerFd j := by
  simp only [TimerState.timerFd, setSlot, Function.update_apply]
  split <;> rfl

theorem eventInfo_setSlot :
    (state.setSlot i info).eventInfo j = if j = i then info else state.eventInfo j := by
  simp only [setSlot, Function.update_apply]

/-! ## The loops over the table -/

theorem findSlot_found (found : state.findSlot timerFd < state.maxEventNum) :
    state.timerFd (state.findSlot timerFd) = timerFd := by
  have inside : (List.range state.maxEventNum).findIdx
      (fun i => decide (state.timerFd i = timerFd)) < (List.range state.maxEventNum).length := by
    rwa [List.length_range]
  have holds := List.findIdx_getElem (w := inside)
  rw [List.getElem_range] at holds
  exact of_decide_eq_true holds

theorem findSlot_le : state.findSlot timerFd ≤ state.maxEventNum := by
  have inside : state.findSlot timerFd ≤ (List.range state.maxEventNum).length :=
    List.findIdx_le_length
  rwa [List.length_range] at inside

end TimerState

/-! ## Filling a slot -/

section Fill

variable {state : TimerState} {i : Nat} {timerFd : Int32} {cb : TimerEventProcCb}

/-- A free slot receives the descriptor of a new timer. -/
def TimerState.fill (state : TimerState) (i : Nat) (timerFd : Int32) (cb : TimerEventProcCb) :
    TimerState :=
  { state.setSlot i ⟨timerFd, some cb⟩ with fds := state.fds.create timerFd }

theorem timerFd_fill {j : Nat} :
    (state.fill i timerFd cb).timerFd j = if j = i then timerFd else state.timerFd j :=
  TimerState.timerFd_setSlot

/-- `AddTimerEvent` fills the first free slot and watches the new timer. -/
theorem addTimerEventLocked_fill (hasRoom : state.findSlot (-1) < state.maxEventNum) :
    addTimerEventLocked state cb (some timerFd) =
      (some (timerFd, state.findSlot (-1)),
        { state.fill (state.findSlot (-1)) timerFd cb with
          fds := (state.fds.create timerFd).watch state.epollfd timerFd }) :=
  if_pos hasRoom

theorem addTimerEventLocked_full (full : ¬ state.findSlot (-1) < state.maxEventNum) :
    addTimerEventLocked state cb (some timerFd) =
      (some (timerFd, state.findSlot (-1)), { state with fds := state.fds.create timerFd }) :=
  if_neg full

theorem SlotInv.fill (inv : SlotInv state) (isSlot : i < state.maxEventNum)
    (isFree : state.timerFd i = -1) (nonnegative : 0 ≤ timerFd)
    (unused : state.fds.file timerFd = none) (notEpoll : timerFd ≠ state.epollfd) :
    SlotInv (state.fill i timerFd cb) where
  bound := inv.bound
  regular := by
    intro j inside
    rw [timerFd_fill]
    split
    · exact Or.inr nonnegative
    · exact inv.regular j inside
  below := by
    intro j inside used
    rw [timerFd_fill] at used
    split at used
    next same => exact same ▸ isSlot
    next => exact inv.below j inside used
  distinct := by
    intro j k jInside kInside used same
    have fresh : forall m, m < slotCount -> state.timerFd m ≠ timerFd := by
      rintro m inside rfl
      have notNone : state.timerFd m ≠ -1 := by
        intro isNone
        rw [isNone] at nonnegative
        exact absurd nonnegative (by decide)
      have isOpen := inv.opened m inside notNone
      rw [unused] at isOpen
      cases isOpen
    simp only [timerFd_fill] at used same
    split at same
    next jIs =>
      split at same
      next kIs => rw [jIs, kIs]
      next => exact absurd same.symm (fresh k kInside)
    next jIsNot =>
      split at same
      next => exact absurd same (fresh j jInside)
      next =>
        rw [if_neg jIsNot] at used
        exact inv.distinct j k jInside kInside used same
  callbacks := by
    intro j inside used
    change ((state.setSlot i ⟨timerFd, some cb⟩).eventInfo j).cb ≠ none
    rw [TimerState.eventInfo_setSlot]
    rw [timerFd_fill] at used
    split
    · exact Option.some_ne_none cb
    next isNot =>
      rw [if_neg isNot] at used
      exact inv.callbacks j inside used
  opened := by
    intro j inside used
    rw [timerFd_fill] at used ⊢
    simp only [TimerState.fill, Descriptors.file_create]
    split
    · rw [if_pos rfl]
      rfl
    next isNot =>
      rw [if_neg isNot] at used
      split
      · rfl
      · exact inv.opened j inside used
  apart := by
    intro j inside used
    rw [timerFd_fill] at used ⊢
    split
    · exact notEpoll
    next isNot =>
      rw [if_neg isNot] at used
      exact inv.apart j inside used
  watched := by
    intro watcher fd isWatched
    rcases inv.watched watcher fd isWatched with ⟨isEpoll, notNone, j, inside, holds⟩
    refine ⟨isEpoll, notNone, j, inside, ?_⟩
    rw [timerFd_fill, if_neg]
    · exact holds
    · rintro rfl
      exact notNone (holds.symm.trans isFree)

theorem Complete.fill (complete : Complete state) (isSlot : i < slotCount)
    (isFree : state.timerFd i = -1) (nonnegative : 0 ≤ timerFd) :
    Complete (state.fill i timerFd cb) where
  only := by
    intro fd isOpen
    simp only [TimerState.fill, Descriptors.file_create] at isOpen
    have notNone : timerFd ≠ -1 := by
      rintro rfl
      exact absurd nonnegative (by decide)
    split at isOpen
    next same =>
      refine Or.inr ⟨i, isSlot, ?_, ?_⟩
      · rw [timerFd_fill, if_pos rfl]
        exact notNone
      · rw [timerFd_fill, if_pos rfl]
        exact same.symm
    next =>
      rcases complete.only fd isOpen with isEpoll | ⟨j, inside, used, holds⟩
      · exact Or.inl isEpoll
      · have isNot : j ≠ i := by
          rintro rfl
          exact used isFree
        refine Or.inr ⟨j, inside, ?_, ?_⟩
        · rw [timerFd_fill, if_neg isNot]
          exact used
        · rw [timerFd_fill, if_neg isNot]
          exact holds
  epoll := by
    intro isOpen
    simp only [TimerState.fill, Descriptors.file_create, TimerState.setSlot]
    split
    · rfl
    · exact complete.epoll isOpen
  noStray := complete.noStray

/-- A timer in a slot may be put into the epoll set. -/
theorem SlotInv.watch (inv : SlotInv state) (inside : i < slotCount)
    (used : state.timerFd i ≠ -1) :
    SlotInv { state with fds := state.fds.watch state.epollfd (state.timerFd i) } where
  bound := inv.bound
  regular := inv.regular
  below := inv.below
  distinct := inv.distinct
  callbacks := inv.callbacks
  opened := inv.opened
  apart := inv.apart
  watched := by
    intro watcher fd isWatched
    rcases Bool.or_eq_true_iff.mp isWatched with isNew | wasWatched
    · rcases of_decide_eq_true isNew with ⟨rfl, rfl⟩
      exact ⟨rfl, used, i, inside, rfl⟩
    · exact inv.watched watcher fd wasWatched

end Fill

/-! ## Releasing a slot -/

section Release

variable {state : TimerState} {i : Nat}

theorem timerFd_release {j : Nat} :
    (state.release i).timerFd j = if j = i then -1 else state.timerFd j :=
  TimerState.timerFd_setSlot

theorem file_release {fd : Int32} : (state.release i).fds.file fd =
    if fd = state.timerFd i then none else state.fds.file fd := by
  simp only [TimerState.release, Descriptors.file_close, Descriptors.file_unwatch]

theorem watches_release (isOpen : (state.fds.file (state.timerFd i)).isSome)
    {watcher fd : Int32} : (state.release i).fds.watches watcher fd <->
      watcher ≠ state.timerFd i ∧ fd ≠ state.timerFd i ∧ state.fds.watches watcher fd := by
  have stillOpen : ((state.fds.unwatch state.epollfd (state.timerFd i)).file
      (state.timerFd i)).isSome := isOpen
  simp only [TimerState.release, Descriptors.watches_close stillOpen]
  simp only [Descriptors.unwatch, Bool.and_eq_true, decide_eq_true_eq]
  tauto

theorem SlotInv.release (inv : SlotInv state) (inside : i < slotCount)
    (used : state.timerFd i ≠ -1) : SlotInv (state.release i) where
  bound := inv.bound
  regular := by
    intro j jInside
    rw [timerFd_release]
    split
    · exact Or.inl rfl
    · exact inv.regular j jInside
  below := by
    intro j jInside jUsed
    rw [timerFd_release] at jUsed
    split at jUsed
    · exact absurd rfl jUsed
    · exact inv.below j jInside jUsed
  distinct := by
    intro j k jInside kInside jUsed same
    simp only [timerFd_release] at jUsed same
    split at same
    next jIs =>
      rw [if_pos jIs] at jUsed
      exact absurd rfl jUsed
    next jIsNot =>
      rw [if_neg jIsNot] at jUsed
      split at same
      · exact absurd same jUsed
      · exact inv.distinct j k jInside kInside jUsed same
  callbacks := by
    intro j jInside jUsed
    change ((state.setSlot i ⟨-1, none⟩).eventInfo j).cb ≠ none
    rw [TimerState.eventInfo_setSlot]
    rw [timerFd_release] at jUsed
    split
    next same =>
      rw [if_pos same] at jUsed
      exact absurd rfl jUsed
    next isNot =>
      rw [if_neg isNot] at jUsed
      exact inv.callbacks j jInside jUsed
  opened := by
    intro j jInside jUsed
    rw [timerFd_release] at jUsed ⊢
    split
    next same =>
      rw [if_pos same] at jUsed
      exact absurd rfl jUsed
    next isNot =>
      rw [if_neg isNot] at jUsed
      rw [file_release, if_neg]
      · exact inv.opened j jInside jUsed
      · exact fun same => isNot (inv.distinct j i jInside inside jUsed same)
  apart := by
    intro j jInside jUsed
    rw [timerFd_release] at jUsed ⊢
    split
    next same =>
      rw [if_pos same] at jUsed
      exact absurd rfl jUsed
    next isNot =>
      rw [if_neg isNot] at jUsed
      exact inv.apart j jInside jUsed
  watched := by
    intro watcher fd isWatched
    rcases (watches_release (inv.opened i inside used)).mp isWatched with ⟨_, isNot, wasWatched⟩
    rcases inv.watched watcher fd wasWatched with ⟨isEpoll, notNone, j, jInside, holds⟩
    refine ⟨isEpoll, notNone, j, jInside, ?_⟩
    rw [timerFd_release, if_neg]
    · exact holds
    · rintro rfl
      exact isNot holds.symm

theorem Complete.release (complete : Complete state) (inv : SlotInv state) (inside : i < slotCount)
    (used : state.timerFd i ≠ -1) : Complete (state.release i) where
  only := by
    intro fd isOpen
    rw [file_release] at isOpen
    split at isOpen
    · cases isOpen
    next isNot =>
      rcases complete.only fd isOpen with isEpoll | ⟨j, jInside, jUsed, holds⟩
      · exact Or.inl isEpoll
      · have other : j ≠ i := by
          rintro rfl
          exact isNot holds.symm
        refine Or.inr ⟨j, jInside, ?_, ?_⟩
        · rw [timerFd_release, if_neg other]
          exact jUsed
        · rw [timerFd_release, if_neg other]
          exact holds
  epoll := by
    intro isOpen
    rw [file_release, if_neg]
    · exact complete.epoll isOpen
    · exact (inv.apart i inside used).symm
  noStray := by
    have stillOpen : ((state.fds.unwatch state.epollfd (state.timerFd i)).file
        (state.timerFd i)).isSome := inv.opened i inside used
    simp only [TimerState.release, Descriptors.strayCloses_close stillOpen,
      Descriptors.strayCloses_unwatch]
    exact complete.noStray

theorem AllWatched.release (all : AllWatched state) (inv : SlotInv state) (inside : i < slotCount)
    (used : state.timerFd i ≠ -1) : AllWatched (state.release i) := by
  intro j jInside jUsed
  rw [timerFd_release] at jUsed ⊢
  split
  next same =>
    rw [if_pos same] at jUsed
    exact absurd rfl jUsed
  next isNot =>
    rw [if_neg isNot] at jUsed
    exact (watches_release (inv.opened i inside used)).mpr
      ⟨(inv.apart i inside used).symm,
        fun same => isNot (inv.distinct j i jInside inside jUsed same), all j jInside jUsed⟩

end Release
end Timer
end V2x
