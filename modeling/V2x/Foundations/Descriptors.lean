import Mathlib.Logic.Function.Basic

namespace Foundations

/-!
# Descriptors of a process

A descriptor is a number that stands for an open file.  Numbers are used
again after a `close`, so every file carries a number of its own as well, which
is never used again.  An interest set belongs to a descriptor that watches
others; a descriptor that is closed is watched by nobody and watches nothing.

The table holds the descriptors of one component.  Closing a number that is
not in the table is counted.
-/

structure Descriptors (Fd : Type) where
  file : Fd -> Option Nat
  created : Nat
  watches : Fd -> Fd -> Bool
  strayCloses : Nat

namespace Descriptors

variable {Fd : Type} [DecidableEq Fd]

/-- Nothing is open. -/
def empty : Descriptors Fd where
  file := fun _ => none
  created := 0
  watches := fun _ _ => false
  strayCloses := 0

/-- A new file was given this descriptor. -/
def create (table : Descriptors Fd) (fd : Fd) : Descriptors Fd :=
  { table with
    file := Function.update table.file fd (some table.created)
    created := table.created + 1 }

def close (table : Descriptors Fd) (fd : Fd) : Descriptors Fd :=
  if (table.file fd).isSome then
    { table with
      file := Function.update table.file fd none
      watches := fun watcher watched =>
        decide (watcher ≠ fd ∧ watched ≠ fd) && table.watches watcher watched }
  else { table with strayCloses := table.strayCloses + 1 }

/-- Put a descriptor into the interest set of a watcher. -/
def watch (table : Descriptors Fd) (watcher fd : Fd) : Descriptors Fd :=
  { table with
    watches := fun other watched =>
      decide (other = watcher ∧ watched = fd) || table.watches other watched }

/-- Take a descriptor out of the interest set of a watcher. -/
def unwatch (table : Descriptors Fd) (watcher fd : Fd) : Descriptors Fd :=
  { table with
    watches := fun other watched =>
      decide (¬ (other = watcher ∧ watched = fd)) && table.watches other watched }

/-! ## What the operations leave -/

variable {table : Descriptors Fd} {watcher fd other watched : Fd}

theorem file_create : (table.create fd).file other =
    if other = fd then some table.created else table.file other := by
  simp only [create, Function.update_apply]

@[simp] theorem watches_create : (table.create fd).watches = table.watches :=
  rfl

@[simp] theorem strayCloses_create : (table.create fd).strayCloses = table.strayCloses :=
  rfl

theorem file_close : (table.close fd).file other =
    if other = fd then none else table.file other := by
  unfold close
  split
  · simp only [Function.update_apply]
  next closed =>
    split
    next same =>
      rw [same]
      exact Option.not_isSome_iff_eq_none.mp closed
    · rfl

theorem created_close : (table.close fd).created = table.created := by
  unfold close
  split <;> rfl

theorem strayCloses_close (isOpen : (table.file fd).isSome) :
    (table.close fd).strayCloses = table.strayCloses := by
  rw [close, if_pos isOpen]

theorem watches_close (isOpen : (table.file fd).isSome) :
    (table.close fd).watches watcher watched =
      (decide (watcher ≠ fd ∧ watched ≠ fd) && table.watches watcher watched) := by
  rw [close, if_pos isOpen]

/-- A descriptor that is closed need not be taken out of an interest set before. -/
theorem close_unwatch (isOpen : (table.file fd).isSome) :
    (table.unwatch watcher fd).close fd = table.close fd := by
  have stillOpen : ((table.unwatch watcher fd).file fd).isSome := isOpen
  unfold close
  rw [if_pos isOpen, if_pos stillOpen]
  simp only [unwatch, Descriptors.mk.injEq, true_and, and_true]
  funext other watched
  by_cases same : watched = fd <;> simp [same]

theorem watches_watch : (table.watch watcher fd).watches other watched =
    (decide (other = watcher ∧ watched = fd) || table.watches other watched) :=
  rfl

@[simp] theorem file_watch : (table.watch watcher fd).file = table.file :=
  rfl

@[simp] theorem created_watch : (table.watch watcher fd).created = table.created :=
  rfl

@[simp] theorem strayCloses_watch : (table.watch watcher fd).strayCloses = table.strayCloses :=
  rfl

@[simp] theorem file_unwatch : (table.unwatch watcher fd).file = table.file :=
  rfl

@[simp] theorem created_unwatch : (table.unwatch watcher fd).created = table.created :=
  rfl

@[simp] theorem strayCloses_unwatch : (table.unwatch watcher fd).strayCloses = table.strayCloses :=
  rfl

/-! ## The descriptors that are open -/

/-- Exactly these descriptors are open, and no other number was ever closed. -/
structure Holds (table : Descriptors Fd) (fds : List Fd) : Prop where
  isOpen : forall fd, (table.file fd).isSome <-> fd ∈ fds
  noStray : table.strayCloses = 0

omit [DecidableEq Fd] in
theorem holds_empty : Holds (empty : Descriptors Fd) [] :=
  ⟨fun _ => iff_of_false nofun List.not_mem_nil, rfl⟩

variable {fds : List Fd}

theorem Holds.create (holds : table.Holds fds) (fd : Fd) : (table.create fd).Holds (fd :: fds) := by
  refine ⟨fun other => ?_, holds.noStray⟩
  rw [file_create, List.mem_cons]
  split
  next same => exact iff_of_true rfl (Or.inl same)
  next different => rw [holds.isOpen, or_iff_right different]

theorem Holds.close (holds : table.Holds (fd :: fds)) (once : fd ∉ fds) : (table.close fd).Holds fds := by
  refine ⟨fun other => ?_, ?_⟩
  · rw [file_close]
    split
    next same => exact iff_of_false nofun (same ▸ once)
    next different => rw [holds.isOpen, List.mem_cons, or_iff_right different]
  · rw [strayCloses_close ((holds.isOpen fd).mpr List.mem_cons_self)]
    exact holds.noStray

omit [DecidableEq Fd] in
theorem Holds.of_mem_iff (holds : table.Holds fds) {others : List Fd}
    (same : forall fd, fd ∈ others <-> fd ∈ fds) : table.Holds others :=
  ⟨fun fd => (holds.isOpen fd).trans (same fd).symm, holds.noStray⟩

/-- One of the open descriptors is closed. -/
theorem Holds.remove (holds : table.Holds fds) (member : fd ∈ fds) {rest : List Fd}
    (others : forall other, other ∈ rest <-> other ∈ fds ∧ other ≠ fd) : (table.close fd).Holds rest := by
  refine ⟨fun other => ?_, ?_⟩
  · rw [file_close, others]
    split
    next same => exact iff_of_false nofun (fun stays => stays.2 same)
    next different => rw [holds.isOpen, and_iff_left different]
  · rw [strayCloses_close ((holds.isOpen fd).mpr member)]
    exact holds.noStray

omit [DecidableEq Fd] in
/-- One more descriptor is open. -/
theorem Holds.not_cons (holds : table.Holds (fd :: fds)) (once : fd ∉ fds) : ¬ table.Holds fds :=
  fun fewer => once ((fewer.isOpen fd).mp ((holds.isOpen fd).mpr List.mem_cons_self))

/-! ## The numbers of the files -/

/-- Files have the numbers below `created`, and no file has two descriptors. -/
structure WellNumbered (table : Descriptors Fd) : Prop where
  below : forall fd number, table.file fd = some number -> number < table.created
  injective : forall fd other number, table.file fd = some number ->
    table.file other = some number -> fd = other

/-- A file that was closed and will not come back. -/
def Gone (table : Descriptors Fd) (number : Nat) : Prop :=
  number < table.created ∧ forall fd, table.file fd ≠ some number

/-- The files after some descriptors were closed, and `new` was opened. -/
structure Moves (table after : Descriptors Fd) (new : Option Fd) : Prop where
  files : forall fd number, after.file fd = some number ->
    table.file fd = some number ∨ new = some fd ∧ number = table.created
  created : table.created ≤ after.created
  counted : new ≠ none -> table.created < after.created

omit [DecidableEq Fd] in
theorem moves_refl (table : Descriptors Fd) : Moves table table none :=
  ⟨fun _ _ isFile => Or.inl isFile, Nat.le_refl _, fun isSome => absurd rfl isSome⟩

theorem moves_create (table : Descriptors Fd) (fd : Fd) :
    Moves table (table.create fd) (some fd) := by
  refine ⟨fun other number isFile => ?_, Nat.le_succ _, fun _ => Nat.lt_succ_self _⟩
  rw [file_create] at isFile
  split at isFile
  next same => exact Or.inr ⟨congrArg some same.symm, (Option.some.inj isFile).symm⟩
  next => exact Or.inl isFile

theorem moves_close (table : Descriptors Fd) (fd : Fd) : Moves table (table.close fd) none := by
  refine ⟨fun other number isFile => ?_, Nat.le_of_eq created_close.symm,
    fun isSome => absurd rfl isSome⟩
  rw [file_close] at isFile
  split at isFile
  · cases isFile
  · exact Or.inl isFile

omit [DecidableEq Fd] in
theorem Moves.wellNumbered {after : Descriptors Fd} {new : Option Fd} (moves : Moves table after new)
    (numbered : table.WellNumbered) : after.WellNumbered where
  below := by
    intro fd number isFile
    rcases moves.files fd number isFile with wasFile | ⟨isNew, rfl⟩
    · exact Nat.lt_of_lt_of_le (numbered.below fd number wasFile) moves.created
    · exact moves.counted (by rw [isNew]; simp)
  injective := by
    intro fd other number isFile isOther
    have notNew : forall old, table.file old = some number -> number ≠ table.created :=
      fun old wasFile same => Nat.ne_of_lt (numbered.below old number wasFile) same
    rcases moves.files fd number isFile with wasFile | ⟨isNew, isCreated⟩
    · rcases moves.files other number isOther with wasOther | ⟨_, isCreated⟩
      · exact numbered.injective fd other number wasFile wasOther
      · exact absurd isCreated (notNew fd wasFile)
    · rcases moves.files other number isOther with wasOther | ⟨otherNew, _⟩
      · exact absurd isCreated (notNew other wasOther)
      · exact Option.some.inj (isNew.symm.trans otherNew)

omit [DecidableEq Fd] in
theorem Moves.gone {after : Descriptors Fd} {new : Option Fd} (moves : Moves table after new)
    {number : Nat} (gone : table.Gone number) : after.Gone number := by
  refine ⟨Nat.lt_of_lt_of_le gone.1 moves.created, fun fd isFile => ?_⟩
  rcases moves.files fd number isFile with wasFile | ⟨_, isCreated⟩
  · exact gone.2 fd wasFile
  · exact Nat.ne_of_lt gone.1 isCreated

/-- The file behind a descriptor is gone when the descriptor is closed. -/
theorem gone_close (numbered : table.WellNumbered) {number : Nat}
    (isFile : table.file fd = some number) : (table.close fd).Gone number := by
  refine ⟨?_, fun other isOther => ?_⟩
  · rw [created_close]
    exact numbered.below fd number isFile
  · rw [file_close] at isOther
    split at isOther
    next => cases isOther
    next different => exact different (numbered.injective other fd number isOther isFile)

omit [DecidableEq Fd] in
theorem wellNumbered_empty : WellNumbered (empty : Descriptors Fd) where
  below := by
    intro fd number isFile
    cases isFile
  injective := by
    intro fd other number isFile
    cases isFile

end Descriptors
end Foundations
