import V2x.Timer.Consistency

namespace V2x
namespace Timer

open Foundations

/-!
# Descriptors that are in no slot

`AddTimerEvent` leaves `g_eventInfoMutex` with a descriptor that is in no slot
when the table is full, and closes it later.  In the meantime the other
functions of the module work on the table.  They close the descriptors of the
slots and of the epoll set, and what they create is not open yet; a descriptor
that is in no slot is left alone.
-/

/-- The slot is in use and holds this descriptor. -/
def TimerState.Has (state : TimerState) (i : Nat) (fd : Int32) : Prop :=
  i < state.maxEventNum ∧ state.timerFd i = fd ∧ fd ≠ -1

structure Tidy (state : TimerState) : Prop where
  opened : forall i fd, state.Has i fd -> (state.fds.file fd).isSome
  distinct : forall i j fd, state.Has i fd -> state.Has j fd -> i = j
  apart : forall i fd, state.Has i fd -> fd ≠ state.epollfd
  epoll : state.epollfd ≠ -1 -> (state.fds.file state.epollfd).isSome
  watched : forall watcher fd, state.fds.watches watcher fd = true ->
    watcher = state.epollfd ∧ Exists fun i => state.Has i fd

/-- The sizes of the table before `InitTimerEventManage` and after it. -/
structure Sized (state : TimerState) : Prop where
  down : state.isInit = false -> state.maxEventNum = 0 ∧ state.epollfd = -1
  running : state.isInit = true -> 0 < state.maxEventNum

/-- An open descriptor that neither a slot nor the epoll set has. -/
structure Stray (state : TimerState) (fd : Int32) : Prop where
  notNone : fd ≠ -1
  isOpen : (state.fds.file fd).isSome
  notEpoll : fd ≠ state.epollfd
  outside : forall i, ¬ state.Has i fd

/-- What is in no slot stays so, and stands for the same file. -/
structure Keeps (state after : TimerState) : Prop where
  tidy : Tidy after
  stray : forall fd, Stray state fd -> Stray after fd
  file : forall fd, Stray state fd -> after.fds.file fd = state.fds.file fd

section Operations

variable {state middle after : TimerState} {i j : Nat} {fd timerFd : Int32}

theorem Tidy.keeps_refl (tidy : Tidy state) : Keeps state state :=
  ⟨tidy, fun _ stray => stray, fun _ _ => rfl⟩

theorem Keeps.trans (first : Keeps state middle) (second : Keeps middle after) : Keeps state after :=
  ⟨second.tidy, fun fd stray => second.stray fd (first.stray fd stray), fun fd stray =>
    (second.file fd (first.stray fd stray)).trans (first.file fd stray)⟩

/-- A stray descriptor is in no interest set and has none. -/
theorem Stray.unwatched (stray : Stray state fd) (tidy : Tidy state) {watcher watched : Int32}
    (isWatched : state.fds.watches watcher watched = true) : watcher ≠ fd ∧ watched ≠ fd := by
  rcases tidy.watched watcher watched isWatched with ⟨rfl, i, has⟩
  exact ⟨stray.notEpoll.symm, fun same => stray.outside i (same ▸ has)⟩

/-! ## Emptying a slot -/

theorem has_release : (state.release i).Has j fd <-> j ≠ i ∧ state.Has j fd := by
  simp only [TimerState.Has, timerFd_release]
  by_cases same : j = i
  · simp only [same, ne_eq, not_true_eq_false, false_and, iff_false]
    rintro ⟨_, isFd, notNone⟩
    exact notNone isFd.symm
  · simp only [ne_eq, same, not_false_eq_true, true_and]
    exact Iff.rfl

theorem Tidy.release (tidy : Tidy state) (has : state.Has i fd) : Keeps state (state.release i) := by
  have isFd : state.timerFd i = fd := has.2.1
  have isOpen : (state.fds.file (state.timerFd i)).isSome := isFd ▸ tidy.opened i fd has
  have kept : forall other, other ≠ fd -> (state.release i).fds.file other = state.fds.file other := by
    intro other different
    rw [file_release, isFd, if_neg different]
  refine ⟨⟨?_, ?_, ?_, ?_, ?_⟩, ?_, ?_⟩
  · intro j other holds
    rcases has_release.mp holds with ⟨isNot, wasHeld⟩
    rw [kept other fun same => isNot (tidy.distinct j i other wasHeld (same ▸ has))]
    exact tidy.opened j other wasHeld
  · intro j k other first second
    exact tidy.distinct j k other (has_release.mp first).2 (has_release.mp second).2
  · exact fun j other holds => tidy.apart j other (has_release.mp holds).2
  · intro hasEpoll
    change ((state.release i).fds.file state.epollfd).isSome
    rw [kept _ (tidy.apart i fd has).symm]
    exact tidy.epoll hasEpoll
  · intro watcher other isWatched
    rcases (watches_release isOpen).mp isWatched with ⟨_, notSlot, wasWatched⟩
    rcases tidy.watched watcher other wasWatched with ⟨isEpoll, j, wasHeld⟩
    refine ⟨isEpoll, j, has_release.mpr ⟨?_, wasHeld⟩⟩
    rintro rfl
    exact notSlot wasHeld.2.1.symm
  · intro other stray
    have different : other ≠ fd := fun same => stray.outside i (same ▸ has)
    refine ⟨stray.notNone, ?_, stray.notEpoll, fun j holds =>
      stray.outside j (has_release.mp holds).2⟩
    rw [kept other different]
    exact stray.isOpen
  · exact fun other stray => kept other fun same => stray.outside i (same ▸ has)

/-- `DeleteTimerEvent` under `g_eventInfoMutex`. -/
theorem Tidy.deleteLocked (tidy : Tidy state) (notNone : timerFd ≠ -1) :
    Keeps state (deleteTimerEventLocked state timerFd) := by
  simp only [deleteTimerEventLocked]
  split
  next found => exact tidy.release ⟨found, TimerState.findSlot_found found, notNone⟩
  next => exact tidy.keeps_refl

theorem has_setSlot_free {stored : Option TimerEventProcCb} (isFree : state.timerFd i = -1) :
    (state.setSlot i ⟨-1, stored⟩).Has j fd <-> state.Has j fd := by
  simp only [TimerState.Has, TimerState.timerFd_setSlot]
  split
  next same => rw [same, isFree]; exact Iff.rfl
  next => exact Iff.rfl

theorem Tidy.deinitSlot (tidy : Tidy state) (inside : i < state.maxEventNum) :
    Keeps state (deinitSlot state i) := by
  unfold Timer.deinitSlot
  split
  next used => exact tidy.release ⟨inside, rfl, used⟩
  next free =>
    have isFree := not_not.mp free
    refine ⟨⟨?_, ?_, ?_, tidy.epoll, ?_⟩, ?_, fun _ _ => rfl⟩
    · exact fun j fd has => tidy.opened j fd ((has_setSlot_free isFree).mp has)
    · exact fun j k fd first second =>
        tidy.distinct j k fd ((has_setSlot_free isFree).mp first) ((has_setSlot_free isFree).mp second)
    · exact fun j fd has => tidy.apart j fd ((has_setSlot_free isFree).mp has)
    · intro watcher fd isWatched
      rcases tidy.watched watcher fd isWatched with ⟨isEpoll, j, has⟩
      exact ⟨isEpoll, j, (has_setSlot_free isFree).mpr has⟩
    · exact fun fd stray => ⟨stray.notNone, stray.isOpen, stray.notEpoll, fun j has =>
        stray.outside j ((has_setSlot_free isFree).mp has)⟩

theorem maxEventNum_deinitSlot : (deinitSlot state i).maxEventNum = state.maxEventNum := by
  unfold deinitSlot
  split <;> rfl

theorem Tidy.deinitLoop (indices : List Nat) (tidy : Tidy state)
    (inside : forall i, i ∈ indices -> i < state.maxEventNum) :
    Keeps state (indices.foldl Timer.deinitSlot state) := by
  induction indices generalizing state with
  | nil => exact tidy.keeps_refl
  | cons i indices inductionHypothesis =>
      have first := tidy.deinitSlot (inside i List.mem_cons_self)
      apply first.trans (inductionHypothesis first.tidy _)
      intro j member
      rw [maxEventNum_deinitSlot]
      exact inside j (List.mem_cons_of_mem i member)

/-! ## Going down -/

/-- A table without timers and without an interest set. -/
theorem tidy_of_empty (noTimer : forall i fd, ¬ state.Has i fd)
    (epoll : state.epollfd ≠ -1 -> (state.fds.file state.epollfd).isSome)
    (unwatched : forall watcher fd, state.fds.watches watcher fd = false) : Tidy state where
  opened := fun i fd has => absurd has (noTimer i fd)
  distinct := fun i _ fd has => absurd has (noTimer i fd)
  apart := fun i fd has => absurd has (noTimer i fd)
  epoll := epoll
  watched := by
    intro watcher fd isWatched
    rw [unwatched watcher fd] at isWatched
    cases isWatched

theorem Tidy.unwatched (tidy : Tidy state) (noTimer : forall i fd, ¬ state.Has i fd)
    (watcher fd : Int32) : state.fds.watches watcher fd = false := by
  by_contra isWatched
  rcases tidy.watched watcher fd (by simpa using isWatched) with ⟨_, i, has⟩
  exact noTimer i fd has

theorem not_has_of_size (size : state.maxEventNum = 0) : ¬ state.Has i fd := by
  rintro ⟨inside, _⟩
  rw [size] at inside
  cases inside

/-- The module is down, and what was in no slot is left. -/
structure Downs (state after : TimerState) : Prop where
  keeps : Keeps state after
  isInit : after.isInit = false
  maxEventNum : after.maxEventNum = 0
  epollfd : after.epollfd = -1

theorem Downs.sized (downs : Downs state after) : Sized after :=
  ⟨fun _ => ⟨downs.maxEventNum, downs.epollfd⟩, fun isInit => absurd (downs.isInit.symm.trans isInit)
    Bool.false_ne_true⟩

theorem Tidy.closeEpoll (tidy : Tidy state) (noTimer : forall i fd, ¬ state.Has i fd) :
    Downs state state.closeEpoll := by
  have unwatched := tidy.unwatched noTimer
  by_cases hasEpoll : state.epollfd ≠ -1
  · simp only [TimerState.closeEpoll, if_pos hasEpoll]
    have kept : forall fd, Stray state fd ->
        (state.fds.close state.epollfd).file fd = state.fds.file fd := fun fd stray => by
      rw [Descriptors.file_close, if_neg stray.notEpoll]
    refine ⟨⟨tidy_of_empty (fun i fd => not_has_of_size rfl) (fun notNone => absurd rfl notNone) ?_,
      ?_, kept⟩, rfl, rfl, rfl⟩
    · intro watcher fd
      simp only [Descriptors.watches_close (tidy.epoll hasEpoll), unwatched, Bool.and_false]
    · intro fd stray
      refine ⟨stray.notNone, ?_, stray.notNone, fun i => not_has_of_size rfl⟩
      rw [kept fd stray]
      exact stray.isOpen
  · simp only [TimerState.closeEpoll, if_neg hasEpoll]
    have isNone := not_not.mp hasEpoll
    refine ⟨⟨tidy_of_empty (fun i fd => not_has_of_size rfl) tidy.epoll unwatched, ?_,
      fun _ _ => rfl⟩, rfl, rfl, isNone⟩
    exact fun fd stray =>
      ⟨stray.notNone, stray.isOpen, stray.notEpoll, fun i => not_has_of_size rfl⟩

theorem Keeps.downs (keeps : Keeps state middle) (downs : Downs middle after) : Downs state after :=
  ⟨keeps.trans downs.keeps, downs.isInit, downs.maxEventNum, downs.epollfd⟩

/-- `DeinitTimerEventManageCore` with at most the heartbeat timer in the table. -/
theorem Tidy.core (tidy : Tidy state) (onlyFirst : forall i fd, state.Has i fd -> i = 0)
    (first : state.timerFd 0 ≠ -1 -> 0 < state.maxEventNum) :
    Downs state (deinitTimerEventManageCore state) := by
  rw [core_eq]
  split
  next used =>
    have released := tidy.release ⟨first used, rfl, used⟩
    apply released.downs (released.tidy.closeEpoll _)
    intro i fd has
    rcases has_release.mp has with ⟨isNot, wasHeld⟩
    exact isNot (onlyFirst i fd wasHeld)
  next free =>
    apply tidy.closeEpoll
    intro i fd has
    cases onlyFirst i fd has
    exact has.2.2 (has.2.1.symm.trans (not_not.mp free))

theorem Tidy.deinitLocked (tidy : Tidy state) (size : 0 < state.maxEventNum) :
    Downs state (deinitTimerEventManageLocked state) := by
  have loop := tidy.deinitLoop (List.range state.maxEventNum) (fun i => List.mem_range.mp)
  have first : ((List.range state.maxEventNum).foldl Timer.deinitSlot state).timerFd 0 = -1 := by
    rw [timerFd_deinitLoop, if_pos (List.mem_range.mpr size)]
  apply loop.downs (loop.tidy.core _ (fun used => absurd first used))
  rintro i fd ⟨inside, isFd, notNone⟩
  rw [timerFd_deinitLoop, if_pos] at isFd
  · exact absurd isFd.symm notNone
  · have sameSize : forall (indices : List Nat) (start : TimerState),
        (indices.foldl Timer.deinitSlot start).maxEventNum = start.maxEventNum := by
      intro indices
      induction indices with
      | nil => exact fun _ => rfl
      | cons j indices inductionHypothesis =>
          exact fun start => (inductionHypothesis _).trans maxEventNum_deinitSlot
    rw [sameSize] at inside
    exact List.mem_range.mpr inside

/-! ## New timers -/

theorem Stray.not_created (stray : Stray state fd) (canCreate : CanCreate state timerFd) :
    fd ≠ timerFd := by
  rintro rfl
  have isOpen := stray.isOpen
  rw [canCreate.2] at isOpen
  cases isOpen

theorem Tidy.not_has_created (tidy : Tidy state) (canCreate : CanCreate state timerFd) :
    ¬ state.Has i timerFd := by
  intro has
  have isOpen := tidy.opened i timerFd has
  rw [canCreate.2] at isOpen
  cases isOpen

theorem Tidy.created_notEpoll (tidy : Tidy state) (canCreate : CanCreate state timerFd) :
    timerFd ≠ state.epollfd := by
  rintro rfl
  have isOpen := tidy.epoll canCreate.notNone
  rw [canCreate.2] at isOpen
  cases isOpen

/-- A new descriptor that goes into no slot. -/
theorem Tidy.create (tidy : Tidy state) (canCreate : CanCreate state timerFd) :
    Keeps state { state with fds := state.fds.create timerFd } ∧
    Stray { state with fds := state.fds.create timerFd } timerFd := by
  have kept : forall fd, fd ≠ timerFd -> (state.fds.create timerFd).file fd = state.fds.file fd :=
    fun fd different => by rw [Descriptors.file_create, if_neg different]
  have isOpen : ((state.fds.create timerFd).file timerFd).isSome := by
    rw [Descriptors.file_create, if_pos rfl]
    rfl
  refine ⟨⟨⟨?_, tidy.distinct, tidy.apart, ?_, tidy.watched⟩, ?_, ?_⟩, canCreate.notNone, isOpen,
    tidy.created_notEpoll canCreate, fun i => tidy.not_has_created canCreate⟩
  · intro i fd has
    change ((state.fds.create timerFd).file fd).isSome
    rw [kept fd fun same => tidy.not_has_created canCreate (same ▸ has)]
    exact tidy.opened i fd has
  · intro hasEpoll
    change ((state.fds.create timerFd).file state.epollfd).isSome
    rw [kept _ (tidy.created_notEpoll canCreate).symm]
    exact tidy.epoll hasEpoll
  · intro fd stray
    refine ⟨stray.notNone, ?_, stray.notEpoll, stray.outside⟩
    rw [kept fd (stray.not_created canCreate)]
    exact stray.isOpen
  · exact fun fd stray => kept fd (stray.not_created canCreate)

theorem has_setSlot {info : TimerEventManageInfo} : (state.setSlot i info).Has j fd <->
    j < state.maxEventNum ∧ (if j = i then info.timerFd else state.timerFd j) = fd ∧ fd ≠ -1 := by
  simp only [TimerState.Has, TimerState.timerFd_setSlot]
  exact Iff.rfl

/-- A descriptor that is in no slot goes into a free one. -/
theorem Tidy.store (cb : TimerEventProcCb) (tidy : Tidy state) (stray : Stray state timerFd)
    (isFree : state.timerFd i = -1) : Tidy (state.setSlot i ⟨timerFd, some cb⟩) ∧
    forall fd, fd ≠ timerFd -> Stray state fd -> Stray (state.setSlot i ⟨timerFd, some cb⟩) fd := by
  have cases : forall {j fd}, (state.setSlot i ⟨timerFd, some cb⟩).Has j fd ->
      j = i ∧ fd = timerFd ∨ j ≠ i ∧ state.Has j fd := by
    intro j fd has
    rcases has_setSlot.mp has with ⟨inside, isFd, notNone⟩
    split at isFd
    next same => exact Or.inl ⟨same, isFd.symm⟩
    next isNot => exact Or.inr ⟨isNot, inside, isFd, notNone⟩
  refine ⟨⟨?_, ?_, ?_, tidy.epoll, ?_⟩, ?_⟩
  · intro j fd has
    rcases cases has with ⟨_, rfl⟩ | ⟨_, wasHeld⟩
    · exact stray.isOpen
    · exact tidy.opened j fd wasHeld
  · intro j k fd first second
    rcases cases first with ⟨rfl, rfl⟩ | ⟨_, firstHeld⟩
    · rcases cases second with ⟨rfl, _⟩ | ⟨_, secondHeld⟩
      · rfl
      · exact absurd secondHeld (stray.outside k)
    · rcases cases second with ⟨rfl, rfl⟩ | ⟨_, secondHeld⟩
      · exact absurd firstHeld (stray.outside j)
      · exact tidy.distinct j k fd firstHeld secondHeld
  · intro j fd has
    rcases cases has with ⟨_, rfl⟩ | ⟨_, wasHeld⟩
    · exact stray.notEpoll
    · exact tidy.apart j fd wasHeld
  · intro watcher fd isWatched
    rcases tidy.watched watcher fd isWatched with ⟨isEpoll, j, inside, isFd, notNone⟩
    refine ⟨isEpoll, j, has_setSlot.mpr ⟨inside, ?_, notNone⟩⟩
    rw [if_neg]
    · exact isFd
    · rintro rfl
      exact notNone (isFd.symm.trans isFree)
  · intro fd different other
    refine ⟨other.notNone, other.isOpen, other.notEpoll, fun j has => ?_⟩
    rcases cases has with ⟨_, rfl⟩ | ⟨_, wasHeld⟩
    · exact different rfl
    · exact other.outside j wasHeld

/-- A timer of a slot goes into the epoll set. -/
theorem Tidy.watch (tidy : Tidy state) (has : state.Has i timerFd) :
    Keeps state { state with fds := state.fds.watch state.epollfd timerFd } := by
  refine ⟨⟨tidy.opened, tidy.distinct, tidy.apart, tidy.epoll, ?_⟩, ?_, fun _ _ => rfl⟩
  · intro watcher fd isWatched
    rcases Bool.or_eq_true_iff.mp isWatched with isNew | wasWatched
    · rcases of_decide_eq_true isNew with ⟨rfl, rfl⟩
      exact ⟨rfl, i, has⟩
    · exact tidy.watched watcher fd wasWatched
  · exact fun fd stray => ⟨stray.notNone, stray.isOpen, stray.notEpoll, stray.outside⟩

/-- A descriptor that is in no slot is closed. -/
theorem Tidy.closeStray (tidy : Tidy state) (stray : Stray state timerFd) :
    Tidy { state with fds := state.fds.close timerFd } ∧
    (state.fds.close timerFd).watches = state.fds.watches ∧
    forall fd, fd ≠ timerFd -> Stray state fd ->
      Stray { state with fds := state.fds.close timerFd } fd ∧
      (state.fds.close timerFd).file fd = state.fds.file fd := by
  have kept : forall fd, fd ≠ timerFd -> (state.fds.close timerFd).file fd = state.fds.file fd :=
    fun fd different => by rw [Descriptors.file_close, if_neg different]
  have watches : (state.fds.close timerFd).watches = state.fds.watches := by
    funext watcher fd
    rw [Descriptors.watches_close stray.isOpen]
    cases isWatched : state.fds.watches watcher fd with
    | false => exact Bool.and_false _
    | true => rw [decide_eq_true (stray.unwatched tidy isWatched), Bool.and_true]
  refine ⟨⟨?_, tidy.distinct, tidy.apart, ?_, ?_⟩, watches, ?_⟩
  · intro i fd has
    change ((state.fds.close timerFd).file fd).isSome
    rw [kept fd fun same => stray.outside i (same ▸ has)]
    exact tidy.opened i fd has
  · intro hasEpoll
    change ((state.fds.close timerFd).file state.epollfd).isSome
    rw [kept _ stray.notEpoll.symm]
    exact tidy.epoll hasEpoll
  · intro watcher fd isWatched
    change (state.fds.close timerFd).watches watcher fd = true at isWatched
    rw [watches] at isWatched
    exact tidy.watched watcher fd isWatched
  · intro fd different other
    refine ⟨⟨other.notNone, ?_, other.notEpoll, other.outside⟩, kept fd different⟩
    rw [kept fd different]
    exact other.isOpen

/-! ## Coming up -/

/-- A table that is cleared, with its old or a new epoll descriptor. -/
theorem Tidy.keeps_empty (tidy : Tidy state) (size : state.maxEventNum = 0)
    (noTimer : forall i fd, ¬ after.Has i fd) (watches : after.fds.watches = state.fds.watches)
    (epoll : after.epollfd ≠ -1 -> (after.fds.file after.epollfd).isSome)
    (kept : forall fd, Stray state fd -> fd ≠ after.epollfd ∧
      after.fds.file fd = state.fds.file fd) : Keeps state after := by
  refine ⟨tidy_of_empty noTimer epoll ?_, ?_, fun fd stray => (kept fd stray).2⟩
  · intro watcher fd
    rw [watches]
    exact tidy.unwatched (fun i fd => not_has_of_size size) watcher fd
  · intro fd stray
    refine ⟨stray.notNone, ?_, (kept fd stray).1, fun i => noTimer i fd⟩
    rw [(kept fd stray).2]
    exact stray.isOpen

/-- The heartbeat timer goes into an empty table. -/
theorem Keeps.heartbeat (cb : TimerEventProcCb) (keeps : Keeps state after)
    (possible : CanCreate after timerFd) (size : 0 < after.maxEventNum) (noTimer : forall i fd, ¬ after.Has i fd)
    (isFree : after.timerFd 0 = -1) :
    Keeps state (after.fill 0 timerFd cb) ∧
    (forall i fd, (after.fill 0 timerFd cb).Has i fd -> i = 0) ∧
    (after.fill 0 timerFd cb).Has 0 timerFd := by
  rcases keeps.tidy.create possible with ⟨created, isStray⟩
  rcases created.tidy.store cb isStray isFree with ⟨tidy, strays⟩
  refine ⟨⟨tidy, fun fd stray => ?_, fun fd stray => ?_⟩, ?_, ?_⟩
  · have wasStray := keeps.stray fd stray
    exact strays fd (wasStray.not_created possible) (created.stray fd wasStray)
  · have wasStray := keeps.stray fd stray
    exact (created.file fd wasStray).trans (keeps.file fd stray)
  · intro i fd has
    by_contra isNot
    rcases has with ⟨inside, isFd, notNone⟩
    rw [timerFd_fill, if_neg isNot] at isFd
    exact noTimer i fd ⟨inside, isFd, notNone⟩
  · exact ⟨size, timerFd_fill.trans (if_pos rfl), possible.notNone⟩

/-- What `InitTimerEventManage` leaves. -/
structure Starts (state after : TimerState) : Prop where
  keeps : Keeps state after
  sized : Sized after

theorem Downs.starts (downs : Downs state after) : Starts state after :=
  ⟨downs.keeps, downs.sized⟩

theorem Tidy.initFresh (tidy : Tidy state) (sized : Sized state) (notInit : state.isInit = false)
    {maxEventNum : Int32} {outcome : InitOutcome}
    (possible : PossibleCall state (.init maxEventNum outcome)) :
    Starts state (initTimerEventManageFresh state maxEventNum outcome).2 := by
  rcases sized.down notInit with ⟨size, noEpoll⟩
  unfold initTimerEventManageFresh
  split
  · have cleared : Keeps state (initTimerEventManageData state) :=
      tidy.keeps_empty size (fun i fd => not_has_of_size rfl) rfl (fun notNone => absurd noEpoll notNone)
        (fun fd stray => ⟨stray.notEpoll, rfl⟩)
    apply (cleared.downs (cleared.tidy.core _ _)).starts
    · exact fun i fd has => absurd has (not_has_of_size rfl)
    · exact fun used => absurd (timerFd_initData (by decide)) used
  next allowed =>
    have bound := maxEventNum_bound allowed
    have isFree : forall i, i < maxEventNum.toInt.toNat + 1 ->
        (initTimerEventManageData state).timerFd i = -1 :=
      fun i inside => timerFd_initData (Nat.lt_of_lt_of_le inside bound)
    rcases outcome with ⟨epollCreate, timerfdCreate, epollCtl, threadCreate⟩
    cases epollCreate with
    | none =>
        have noTimer : forall i fd, ¬ TimerState.Has { state.sized maxEventNum with epollfd := -1 } i fd :=
          fun i fd has => has.2.2 (has.2.1.symm.trans (isFree i has.1))
        have cleared : Keeps state { state.sized maxEventNum with epollfd := -1 } :=
          tidy.keeps_empty size noTimer rfl (fun notNone => absurd rfl notNone)
            (fun fd stray => ⟨stray.notNone, rfl⟩)
        apply (cleared.downs (cleared.tidy.core _ _)).starts
        · exact fun i fd has => absurd has (noTimer i fd)
        · exact fun used => absurd (isFree 0 (Nat.succ_pos _)) used
    | some epollfd =>
        have canEpoll := (possible epollfd rfl).1
        have noTimer : forall i fd, ¬ (state.polling maxEventNum epollfd).Has i fd :=
          fun i fd has => has.2.2 (has.2.1.symm.trans (isFree i has.1))
        have epollOpen : ((state.fds.create epollfd).file epollfd).isSome := by
          rw [Descriptors.file_create, if_pos rfl]
          rfl
        have polling : Keeps state (state.polling maxEventNum epollfd) :=
          tidy.keeps_empty size noTimer rfl (fun _ => epollOpen) (fun fd stray =>
            ⟨stray.not_created canEpoll, by
              simp only [TimerState.polling, Descriptors.file_create, if_neg (stray.not_created canEpoll)]⟩)
        cases timerfdCreate with
        | none =>
            have isFirst : (state.polling maxEventNum epollfd).timerFd 0 = -1 :=
              isFree 0 (Nat.succ_pos _)
            have stillNone : forall i fd, ¬ ((state.polling maxEventNum epollfd).setSlot 0
                ⟨-1, some .timerEventManageHeartbeatCb⟩).Has i fd :=
              fun i fd has => noTimer i fd ((has_setSlot_free isFirst).mp has)
            have cleared : Keeps state ((state.polling maxEventNum epollfd).setSlot 0
                ⟨-1, some .timerEventManageHeartbeatCb⟩) :=
              tidy.keeps_empty size stillNone rfl (fun _ => epollOpen)
                (fun fd stray => ⟨(polling.stray fd stray).notEpoll, polling.file fd stray⟩)
            apply (cleared.downs (cleared.tidy.core _ _)).starts
            · exact fun i fd has => absurd has (stillNone i fd)
            · intro used
              simp only [TimerState.timerFd_setSlot, if_true] at used
              exact absurd rfl used
        | some timerFd =>
            rcases (possible epollfd rfl).2 timerFd rfl with ⟨canTimer, notEpoll⟩
            have canCreate : CanCreate (state.polling maxEventNum epollfd) timerFd := by
              refine ⟨canTimer.1, ?_⟩
              simp only [TimerState.polling, Descriptors.file_create, if_neg notEpoll, canTimer.2]
            rcases polling.heartbeat .timerEventManageHeartbeatCb canCreate (Nat.succ_pos _)
              noTimer (isFree 0 (Nat.succ_pos _)) with ⟨filled, onlyFirst, first⟩
            have watched := filled.trans (filled.tidy.watch first)
            simp only
            split
            · exact (filled.downs (filled.tidy.core onlyFirst (fun _ => Nat.succ_pos _))).starts
            · split
              · exact (watched.downs (watched.tidy.core onlyFirst (fun _ => Nat.succ_pos _))).starts
              · refine ⟨⟨⟨watched.tidy.opened, watched.tidy.distinct, watched.tidy.apart,
                  watched.tidy.epoll, watched.tidy.watched⟩, ?_, watched.file⟩, ?_⟩
                · intro fd stray
                  have isStray := watched.stray fd stray
                  exact ⟨isStray.notNone, isStray.isOpen, isStray.notEpoll, isStray.outside⟩
                · exact ⟨fun isFalse => absurd isFalse.symm Bool.false_ne_true, fun _ => Nat.succ_pos _⟩

end Operations
end Timer
end V2x
