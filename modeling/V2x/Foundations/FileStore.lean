import Mathlib.Logic.Function.Basic

namespace Foundations

/-!
# Files, names and open files

A file is a sequence of bytes with a number of its own.  A name is the entry of
a directory for a file, and a descriptor stands for an open file: a file and a
position in it.  A file whose name is removed or taken by another file goes on
existing for whoever has it open.

There is one name for a file at most.  Descriptors are not used again, which
nobody can observe who does not use a descriptor after closing it.
-/

/-- How a file is opened. -/
structure OpenFlags where
  create : Bool
  truncate : Bool
  append : Bool
deriving DecidableEq, Repr

/-- What a descriptor stands for.  The path is the name by which the file was opened. -/
structure OpenFile (Path : Type) where
  path : Path
  inode : Nat
  append : Bool
  position : Nat
deriving DecidableEq, Repr

structure FileStore (Path : Type) where
  entry : Path -> Option Nat
  content : Nat -> List UInt8
  created : Nat
  openFile : Nat -> Option (OpenFile Path)
  opened : Nat

/-- Replace the bytes from a position on.  A gap is filled with zero bytes. -/
def overwrite (old : List UInt8) (position : Nat) (bytes : List UInt8) : List UInt8 :=
  old.take position ++ List.replicate (position - old.length) 0 ++ bytes ++
    old.drop (position + bytes.length)

namespace FileStore

variable {Path : Type}

def empty : FileStore Path where
  entry := fun _ => none
  content := fun _ => []
  created := 0
  openFile := fun _ => none
  opened := 0

/-- The bytes of the file with this name. -/
def dataAt (store : FileStore Path) (path : Path) : Option (List UInt8) :=
  (store.entry path).map store.content

def setContent (store : FileStore Path) (inode : Nat) (bytes : List UInt8) : FileStore Path :=
  { store with content := Function.update store.content inode bytes }

/-- A new descriptor for a file. -/
def attach (store : FileStore Path) (path : Path) (inode : Nat) (append : Bool) :
    Option Nat × FileStore Path :=
  (some store.opened, { store with
    openFile := Function.update store.openFile store.opened (some ⟨path, inode, append, 0⟩)
    opened := store.opened + 1 })

def close (store : FileStore Path) (fd : Nat) : FileStore Path :=
  { store with openFile := Function.update store.openFile fd none }

def write (store : FileStore Path) (fd : Nat) (bytes : List UInt8) : FileStore Path :=
  match store.openFile fd with
  | none => store
  | some file =>
      let old := store.content file.inode
      let start := if file.append then old.length else file.position
      { store with
        content := Function.update store.content file.inode (overwrite old start bytes)
        openFile := Function.update store.openFile fd
          (some { file with position := start + bytes.length }) }

def read (store : FileStore Path) (fd count : Nat) : List UInt8 × FileStore Path :=
  match store.openFile fd with
  | none => ([], store)
  | some file =>
      let bytes := ((store.content file.inode).drop file.position).take count
      (bytes, { store with
        openFile := Function.update store.openFile fd
          (some { file with position := file.position + bytes.length }) })

/-- The size of an open file. -/
def size (store : FileStore Path) (fd : Nat) : Nat :=
  match store.openFile fd with
  | none => 0
  | some file => (store.content file.inode).length

variable [DecidableEq Path]

def setEntry (store : FileStore Path) (path : Path) (entry : Option Nat) : FileStore Path :=
  { store with entry := Function.update store.entry path entry }

/-- A new file with this name. -/
def create (store : FileStore Path) (path : Path) (bytes : List UInt8) : FileStore Path :=
  { store with
    entry := Function.update store.entry path (some store.created)
    content := Function.update store.content store.created bytes
    created := store.created + 1 }

def openPath (store : FileStore Path) (path : Path) (flags : OpenFlags) :
    Option Nat × FileStore Path :=
  match store.entry path with
  | some inode =>
      (if flags.truncate then store.setContent inode [] else store).attach path inode flags.append
  | none =>
      if flags.create then (store.create path []).attach path store.created flags.append
      else (none, store)

/-- Give the file a new name.  A file that had the new name loses it. -/
def rename (store : FileStore Path) (source target : Path) : Bool × FileStore Path :=
  match store.entry source with
  | none => (false, store)
  | some inode => (true, (store.setEntry source none).setEntry target (some inode))

def remove (store : FileStore Path) (path : Path) : Bool × FileStore Path :=
  match store.entry path with
  | none => (false, store)
  | some _ => (true, store.setEntry path none)

/-- Write a whole file, which is created if there is none with this name. -/
def put (store : FileStore Path) (path : Path) (bytes : List UInt8) : FileStore Path :=
  match store.entry path with
  | some inode => store.setContent inode bytes
  | none => store.create path bytes

/-! ## What the operations leave -/

section Effects

variable {store : FileStore Path} {path other source target : Path} {fd : Nat}

omit [DecidableEq Path] in
@[simp] theorem entry_close : (store.close fd).entry = store.entry :=
  rfl

omit [DecidableEq Path] in
@[simp] theorem entry_setContent (inode : Nat) (bytes : List UInt8) :
    (store.setContent inode bytes).entry = store.entry :=
  rfl

omit [DecidableEq Path] in
@[simp] theorem entry_write (bytes : List UInt8) : (store.write fd bytes).entry = store.entry := by
  unfold write
  split <;> rfl

omit [DecidableEq Path] in
@[simp] theorem entry_read (count : Nat) : (store.read fd count).2.entry = store.entry := by
  unfold read
  split <;> rfl

omit [DecidableEq Path] in
theorem openFile_write {file : OpenFile Path} (isFile : store.openFile fd = some file)
    (bytes : List UInt8) :
    Exists fun after => (store.write fd bytes).openFile fd = some after ∧ after.path = file.path ∧
      after.inode = file.inode := by
  simp only [write, isFile, Function.update_self]
  exact ⟨_, rfl, rfl, rfl⟩

theorem entry_setEntry (entry : Option Nat) : (store.setEntry path entry).entry other =
    if other = path then entry else store.entry other := by
  simp only [setEntry, Function.update_apply]

theorem entry_create (bytes : List UInt8) : (store.create path bytes).entry other =
    if other = path then some store.created else store.entry other := by
  simp only [create, Function.update_apply]

/-- Opening a file that may be created. -/
theorem openPath_creates (store : FileStore Path) (path : Path) {flags : OpenFlags} (creates : flags.create = true) :
    Exists fun file =>
      (store.openPath path flags).1 = some store.opened ∧
      (store.openPath path flags).2.openFile store.opened = some file ∧ file.path = path ∧
      ((store.openPath path flags).2.entry path).isSome ∧
      forall other, (store.entry other).isSome -> ((store.openPath path flags).2.entry other).isSome := by
  unfold openPath
  split
  next inode isEntry =>
    refine ⟨⟨path, inode, flags.append, 0⟩, ?_⟩
    cases flags.truncate with
    | true =>
        refine ⟨rfl, Function.update_self .., rfl, ?_, fun _ present => present⟩
        exact Option.isSome_iff_exists.mpr ⟨inode, isEntry⟩
    | false =>
        refine ⟨rfl, Function.update_self .., rfl, ?_, fun _ present => present⟩
        exact Option.isSome_iff_exists.mpr ⟨inode, isEntry⟩
  next isEntry =>
    rw [if_pos creates]
    refine ⟨⟨path, store.created, flags.append, 0⟩, rfl, Function.update_self .., rfl, ?_, ?_⟩
    · change ((store.create path []).entry path).isSome
      rw [entry_create, if_pos rfl]
      rfl
    · intro other present
      change ((store.create path []).entry other).isSome
      rw [entry_create]
      split
      · rfl
      · exact present

/-- Opening one name leaves the others alone. -/
theorem entry_openPath (store : FileStore Path) (flags : OpenFlags) (different : other ≠ path) :
    (store.openPath path flags).2.entry other = store.entry other := by
  unfold openPath
  split
  · split <;> rfl
  · split
    · exact (entry_create []).trans (if_neg different)
    · rfl

/-- A file that is there is opened, and a new one is the last that was created. -/
theorem entry_openPath_self {flags : OpenFlags} (creates : flags.create = true) :
    (store.openPath path flags).2.entry path = store.entry path ∨
      store.entry path = none ∧ (store.openPath path flags).2.entry path = some store.created ∧
        store.created < (store.openPath path flags).2.created := by
  unfold openPath
  split
  next inode isEntry => exact Or.inl (by split <;> rfl)
  next isEntry =>
    rw [if_pos creates]
    exact Or.inr ⟨isEntry, (entry_create []).trans (if_pos rfl), Nat.lt_succ_self _⟩

theorem created_openPath (flags : OpenFlags) :
    store.created ≤ (store.openPath path flags).2.created := by
  unfold openPath
  split
  · split <;> exact Nat.le_refl _
  · split
    · exact Nat.le_succ _
    · exact Nat.le_refl _

theorem rename_absent (absent : store.entry source = none) : store.rename source target = (false, store) := by
  simp only [rename, absent]

theorem entry_rename {inode : Nat} (isEntry : store.entry source = some inode) :
    (store.rename source target).2.entry other =
      if other = target then some inode else if other = source then none else store.entry other := by
  simp only [rename, isEntry, entry_setEntry]

theorem created_rename : (store.rename source target).2.created = store.created := by
  unfold rename
  split <;> rfl

theorem entry_remove :
    (store.remove path).2.entry other = if other = path then none else store.entry other := by
  unfold remove
  split
  next absent =>
    split
    next same => exact same ▸ absent
    next => rfl
  · exact entry_setEntry none

theorem created_remove : (store.remove path).2.created = store.created := by
  unfold remove
  split <;> rfl

theorem entry_put (store : FileStore Path) (bytes : List UInt8) (different : other ≠ path) :
    (store.put path bytes).entry other = store.entry other := by
  unfold put
  split
  · rfl
  · exact (entry_create bytes).trans (if_neg different)

theorem created_put (bytes : List UInt8) : store.created ≤ (store.put path bytes).created := by
  unfold put
  split
  · exact Nat.le_refl _
  · exact Nat.le_succ _

omit [DecidableEq Path] in
theorem created_write (bytes : List UInt8) : (store.write fd bytes).created = store.created := by
  unfold write
  split <;> rfl

/-- Only the first name goes away. -/
theorem entry_rename_isSome (different : other ≠ source)
    (present : (store.entry other).isSome) :
    ((store.rename source target).2.entry other).isSome := by
  unfold rename
  split
  · exact present
  · simp only [entry_setEntry, if_neg different]
    split
    · rfl
    · exact present

theorem entry_remove_isSome (different : other ≠ path) (present : (store.entry other).isSome) :
    ((store.remove path).2.entry other).isSome := by
  unfold remove
  split
  · exact present
  · simp only [entry_setEntry, if_neg different]
    exact present

theorem entry_put_isSome (bytes : List UInt8) (present : (store.entry other).isSome) :
    ((store.put path bytes).entry other).isSome := by
  unfold put
  split
  · exact present
  · rw [entry_create]
    split
    · rfl
    · exact present

end Effects

/-! ## Names and files -/

variable {store : FileStore Path} {path other source target : Path}

/-- The files that have names or descriptors are among the created ones, and no file has two
names. -/
structure Linked (store : FileStore Path) : Prop where
  below : forall path inode, store.entry path = some inode -> inode < store.created
  injective : forall path other inode, store.entry path = some inode ->
    store.entry other = some inode -> path = other

omit [DecidableEq Path] in
theorem linked_empty : Linked (empty : FileStore Path) where
  below := nofun
  injective := nofun

omit [DecidableEq Path] in
/-- Only the names and the number of files count. -/
theorem Linked.of_entries {after : FileStore Path} (linked : Linked store)
    (entry : after.entry = store.entry) (created : after.created = store.created) : Linked after where
  below := by
    rw [entry, created]
    exact linked.below
  injective := by
    rw [entry]
    exact linked.injective

theorem Linked.create (linked : Linked store) (path : Path) (bytes : List UInt8)  :
    Linked (store.create path bytes) where
  below := by
    intro other inode isEntry
    rw [entry_create] at isEntry
    split at isEntry
    · cases isEntry
      exact Nat.lt_succ_self _
    · exact Nat.lt_succ_of_lt (linked.below other inode isEntry)
  injective := by
    intro first second inode isFirst isSecond
    have old : forall name, store.entry name ≠ some store.created :=
      fun name isEntry => Nat.lt_irrefl _ (linked.below name _ isEntry)
    rw [entry_create] at isFirst isSecond
    split at isFirst
    next isPath =>
      split at isSecond
      next alsoPath => exact isPath.trans alsoPath.symm
      next => exact absurd (isSecond.trans isFirst.symm) (old second)
    next =>
      split at isSecond
      next => exact absurd (isFirst.trans isSecond.symm) (old first)
      next => exact linked.injective first second inode isFirst isSecond

theorem Linked.rename (linked : Linked store) (source target : Path) :
    Linked (store.rename source target).2 := by
  unfold FileStore.rename
  split
  · exact linked
  next moved isMoved =>
    have entries : forall name inode,
        ((store.setEntry source none).setEntry target (some moved)).entry name = some inode ->
        (name = target ∧ inode = moved) ∨ (name ≠ source ∧ store.entry name = some inode) := by
      intro name inode isEntry
      simp only [entry_setEntry] at isEntry
      split at isEntry
      next isTarget => exact Or.inl ⟨isTarget, (Option.some.inj isEntry).symm⟩
      next =>
        split at isEntry
        · cases isEntry
        next notSource => exact Or.inr ⟨notSource, isEntry⟩
    constructor
    · intro name inode isEntry
      rcases entries name inode isEntry with ⟨_, rfl⟩ | ⟨_, before⟩
      · exact linked.below source _ isMoved
      · exact linked.below name inode before
    · intro first second inode isFirst isSecond
      rcases entries first inode isFirst with ⟨rfl, rfl⟩ | ⟨notSource, before⟩
      · rcases entries second _ isSecond with ⟨rfl, _⟩ | ⟨alsoNot, before⟩
        · rfl
        · exact absurd (linked.injective second source _ before isMoved) alsoNot
      · rcases entries second inode isSecond with ⟨rfl, rfl⟩ | ⟨_, alsoBefore⟩
        · exact absurd (linked.injective first source _ before isMoved) notSource
        · exact linked.injective first second inode before alsoBefore

theorem Linked.remove (linked : Linked store) (path : Path) : Linked (store.remove path).2 := by
  unfold FileStore.remove
  split
  · exact linked
  · have entries : forall name inode, (store.setEntry path none).entry name = some inode ->
        store.entry name = some inode := by
      intro name inode isEntry
      rw [entry_setEntry] at isEntry
      split at isEntry
      · cases isEntry
      · exact isEntry
    exact ⟨fun name inode isEntry => linked.below name inode (entries name inode isEntry),
      fun first second inode isFirst isSecond =>
        linked.injective first second inode (entries first inode isFirst) (entries second inode isSecond)⟩

theorem Linked.put (linked : Linked store) (path : Path) (bytes : List UInt8) :
    Linked (store.put path bytes) := by
  unfold FileStore.put
  split
  · exact linked.of_entries rfl rfl
  · exact linked.create path bytes

theorem Linked.openPath (linked : Linked store) (path : Path) (flags : OpenFlags) :
    Linked (store.openPath path flags).2 := by
  unfold FileStore.openPath
  split
  · split <;> exact linked.of_entries rfl rfl
  · split
    · exact (linked.create path []).of_entries rfl rfl
    · exact linked

omit [DecidableEq Path] in
theorem Linked.write (linked : Linked store) (fd : Nat) (bytes : List UInt8) :
    Linked (store.write fd bytes) := by
  unfold FileStore.write
  split <;> exact linked.of_entries rfl rfl

omit [DecidableEq Path] in
theorem Linked.read (linked : Linked store) (fd count : Nat) : Linked (store.read fd count).2 := by
  unfold FileStore.read
  split
  · exact linked
  · exact linked.of_entries rfl rfl

/-! ## The bytes under a name -/

omit [DecidableEq Path] in
/-- A change of one file shows under its own name only. -/
theorem dataAt_setContent {inode : Nat} (bytes : List UInt8)
    (different : store.entry other ≠ some inode) :
    (store.setContent inode bytes).dataAt other = store.dataAt other := by
  unfold dataAt
  rw [entry_setContent]
  cases isEntry : store.entry other with
  | none => rfl
  | some file =>
      have notSame : file ≠ inode := fun same => different (same ▸ isEntry)
      simp only [Option.map_some, setContent, Function.update_of_ne notSame]

theorem dataAt_create (linked : Linked store) (bytes : List UInt8) :
    (store.create path bytes).dataAt other =
      if other = path then some bytes else store.dataAt other := by
  unfold dataAt
  rw [entry_create]
  split
  · simp only [Option.map_some, create, Function.update_self]
  · cases isEntry : store.entry other with
    | none => rfl
    | some file =>
        have notNew := Nat.ne_of_lt (linked.below other file isEntry)
        simp only [Option.map_some, create, Function.update_of_ne notNew]

theorem dataAt_put (linked : Linked store) (bytes : List UInt8) :
    (store.put path bytes).dataAt other =
      if other = path then some bytes else store.dataAt other := by
  unfold put
  split
  next inode isEntry =>
    split
    next same =>
      rw [same, dataAt, entry_setContent, isEntry]
      simp only [Option.map_some, setContent, Function.update_self]
    next different =>
      apply dataAt_setContent
      exact fun alsoEntry => different (linked.injective other path inode alsoEntry isEntry)
  · exact dataAt_create linked bytes

theorem rename_present (present : (store.entry source).isSome) :
    (store.rename source target).1 = true := by
  rcases Option.isSome_iff_exists.mp present with ⟨inode, isEntry⟩
  simp only [rename, isEntry]

theorem dataAt_rename (present : (store.entry source).isSome) :
    (store.rename source target).2.dataAt other =
      if other = target then store.dataAt source
      else if other = source then none else store.dataAt other := by
  rcases Option.isSome_iff_exists.mp present with ⟨inode, isEntry⟩
  simp only [rename, isEntry, dataAt, entry_setEntry]
  split
  · rfl
  · split <;> rfl

theorem dataAt_remove (different : other ≠ path) :
    (store.remove path).2.dataAt other = store.dataAt other := by
  unfold remove
  split
  · rfl
  · simp only [dataAt, entry_setEntry, if_neg different]
    rfl

theorem dataAt_openPath (linked : Linked store) (flags : OpenFlags) (different : other ≠ path) :
    (store.openPath path flags).2.dataAt other = store.dataAt other := by
  unfold openPath
  split
  next inode isEntry =>
    split
    · exact dataAt_setContent [] (fun alsoEntry =>
        different (linked.injective other path inode alsoEntry isEntry))
    · rfl
  · split
    · exact (dataAt_create linked []).trans (if_neg different)
    · rfl

omit [DecidableEq Path] in
theorem dataAt_write {fd : Nat} {file : OpenFile Path} (isFile : store.openFile fd = some file)
    (bytes : List UInt8) (different : store.entry other ≠ some file.inode) :
    (store.write fd bytes).dataAt other = store.dataAt other := by
  simp only [write, isFile]
  exact dataAt_setContent _ different

omit [DecidableEq Path] in
theorem dataAt_read (fd count : Nat) : (store.read fd count).2.dataAt other = store.dataAt other := by
  unfold read
  split <;> rfl

omit [DecidableEq Path] in
theorem dataAt_close (fd : Nat) : (store.close fd).dataAt other = store.dataAt other :=
  rfl

/-- There is nothing to read in a file that was truncated as it was opened. -/
theorem read_openPath {flags : OpenFlags} (creates : flags.create = true)
    (truncates : flags.truncate = true) (count : Nat) :
    ((store.openPath path flags).2.read store.opened count).1 = [] := by
  unfold openPath
  split
  · rw [if_pos truncates]
    simp only [read, attach, setContent, Function.update_self, List.drop_nil, List.take_nil]
  · rw [if_pos creates]
    simp only [read, attach, create, Function.update_self, List.drop_nil, List.take_nil]

/-- A descriptor of a file that is there. -/
theorem openPath_existing {inode : Nat} (isEntry : store.entry path = some inode) (flags : OpenFlags) :
    (store.openPath path flags).1 = some store.opened ∧
      (store.openPath path flags).2.openFile store.opened = some ⟨path, inode, flags.append, 0⟩ ∧
      (store.openPath path flags).2.entry = store.entry := by
  simp only [openPath, isEntry]
  cases flags.truncate <;> exact ⟨rfl, Function.update_self .., rfl⟩

/-! ## The bytes of one file -/

section Contents

variable {fd inode : Nat}

omit [DecidableEq Path] in
theorem overwrite_end (old bytes : List UInt8) : overwrite old old.length bytes = old ++ bytes := by
  have beyond : old.length ≤ old.length + bytes.length := Nat.le_add_right _ _
  rw [overwrite, List.take_length, Nat.sub_self, List.replicate_zero, List.append_nil,
    List.drop_eq_nil_of_le beyond, List.append_nil]

theorem content_openPath {flags : OpenFlags} (keeps : flags.truncate = false) (old : inode < store.created) :
    (store.openPath path flags).2.content inode = store.content inode := by
  unfold openPath
  split
  · rw [keeps]
    rfl
  · split
    · exact Function.update_of_ne (Nat.ne_of_lt old) ..
    · rfl

/-- Without `O_TRUNC` a file that is opened keeps its bytes, and a new one has none. -/
theorem dataAt_openPath_self {flags : OpenFlags} (keeps : flags.truncate = false) :
    ((store.openPath path flags).2.dataAt path).getD [] = (store.dataAt path).getD [] := by
  unfold openPath
  split
  · rw [keeps]
    rfl
  next isEntry =>
    split
    · change (((store.create path []).entry path).map (store.create path []).content).getD [] = _
      rw [entry_create, if_pos rfl, Option.map_some, dataAt, isEntry]
      exact Function.update_self ..
    · rfl

theorem content_rename : (store.rename source target).2.content = store.content := by
  unfold rename
  split <;> rfl

theorem content_remove : (store.remove path).2.content = store.content := by
  unfold remove
  split <;> rfl

theorem content_put (bytes : List UInt8) (old : inode < store.created)
    (different : store.entry path ≠ some inode) : (store.put path bytes).content inode = store.content inode := by
  unfold put
  split
  next other isEntry =>
    have apart : inode ≠ other := fun same => different (same ▸ isEntry)
    exact Function.update_of_ne apart ..
  · exact Function.update_of_ne (Nat.ne_of_lt old) ..

/-- The descriptor stands for the file that has this name. -/
structure OpenOn (store : FileStore Path) (fd : Nat) (path : Path) (append : Bool) : Prop where
  old : fd < store.opened
  isFile : Exists fun file => store.openFile fd = some file ∧ file.append = append ∧
    store.entry path = some file.inode

section OpenFiles

variable {after : FileStore Path} {append : Bool}

omit [DecidableEq Path] in
/-- Only the descriptor and the name count. -/
theorem OpenOn.frame (openOn : OpenOn store fd path append) (opened : store.opened ≤ after.opened)
    (openFile : after.openFile fd = store.openFile fd) (entry : after.entry path = store.entry path) :
    OpenOn after fd path append where
  old := Nat.lt_of_lt_of_le openOn.old opened
  isFile := by
    rw [openFile, entry]
    exact openOn.isFile

omit [DecidableEq Path] in
theorem OpenOn.ne (openOn : OpenOn store fd path append) {second : Nat} {otherAppend : Bool}
    (alsoOpen : OpenOn store second other otherAppend) (linked : Linked store) (different : path ≠ other) :
    fd ≠ second := by
  rintro rfl
  rcases openOn.isFile with ⟨file, isFile, _, isEntry⟩
  rcases alsoOpen.isFile with ⟨same, alsoFile, _, alsoEntry⟩
  rw [Option.some.inj (alsoFile.symm.trans isFile)] at alsoEntry
  exact different (linked.injective path other file.inode isEntry alsoEntry)

omit [DecidableEq Path] in
theorem OpenOn.size (openOn : OpenOn store fd path append) :
    store.size fd = ((store.dataAt path).getD []).length := by
  rcases openOn.isFile with ⟨file, isFile, _, isEntry⟩
  simp only [FileStore.size, isFile, dataAt, isEntry, Option.map_some, Option.getD_some]

omit [DecidableEq Path] in
theorem OpenOn.write (openOn : OpenOn store fd path append) (second : Nat) (bytes : List UInt8) :
    OpenOn (store.write second bytes) fd path append := by
  rcases openOn with ⟨old, file, isFile, isAppend, isEntry⟩
  unfold FileStore.write
  split
  · exact ⟨old, file, isFile, isAppend, isEntry⟩
  next other isOther =>
    by_cases same : fd = second
    · subst same
      rw [isFile] at isOther
      cases isOther
      exact ⟨old, _, Function.update_self .., isAppend, isEntry⟩
    · exact ⟨old, file, (Function.update_of_ne same ..).trans isFile, isAppend, isEntry⟩

/-- Opening another name. -/
theorem OpenOn.openPath (openOn : OpenOn store fd path append) (flags : OpenFlags) (different : path ≠ other) :
    OpenOn (store.openPath other flags).2 fd path append := by
  have entry := store.entry_openPath flags different
  have notNew : fd ≠ store.opened := Nat.ne_of_lt openOn.old
  refine openOn.frame ?_ ?_ entry <;> unfold FileStore.openPath <;> split
  · split <;> exact Nat.le_succ _
  · split
    · exact Nat.le_succ _
    · exact Nat.le_refl _
  · split <;> exact Function.update_of_ne notNew ..
  · split
    · exact Function.update_of_ne notNew ..
    · rfl

omit [DecidableEq Path] in
theorem OpenOn.close (openOn : OpenOn store fd path append) {second : Nat} (different : fd ≠ second) :
    OpenOn (store.close second) fd path append :=
  openOn.frame (Nat.le_refl _) (Function.update_of_ne different ..) rfl

/-- A file that keeps its name. -/
theorem OpenOn.rename (openOn : OpenOn store fd path append) (notSource : path ≠ source)
    (notTarget : path ≠ target) : OpenOn (store.rename source target).2 fd path append := by
  unfold FileStore.rename
  split
  · exact openOn
  · refine openOn.frame (Nat.le_refl _) rfl ?_
    rw [entry_setEntry, if_neg notTarget, entry_setEntry, if_neg notSource]

theorem OpenOn.remove (openOn : OpenOn store fd path append) (different : path ≠ other) :
    OpenOn (store.remove other).2 fd path append := by
  unfold FileStore.remove
  split
  · exact openOn
  · exact openOn.frame (Nat.le_refl _) rfl ((entry_setEntry none).trans (if_neg different))

theorem OpenOn.put (openOn : OpenOn store fd path append) (bytes : List UInt8) (different : path ≠ other) :
    OpenOn (store.put other bytes) fd path append := by
  have entry := store.entry_put bytes different
  refine openOn.frame ?_ ?_ entry <;> unfold FileStore.put <;> split
  · exact Nat.le_refl _
  · exact Nat.le_refl _
  · rfl
  · rfl

theorem openOn_openPath (store : FileStore Path) (path : Path) (flags : OpenFlags)
    (available : flags.create = true ∨ (store.entry path).isSome) :
    (store.openPath path flags).1 = some store.opened ∧
      OpenOn (store.openPath path flags).2 store.opened path flags.append := by
  unfold FileStore.openPath
  split
  next inode isEntry =>
    cases flags.truncate with
    | true => exact ⟨rfl, Nat.lt_succ_self _, _, Function.update_self .., rfl, isEntry⟩
    | false => exact ⟨rfl, Nat.lt_succ_self _, _, Function.update_self .., rfl, isEntry⟩
  next isEntry =>
    have creates : flags.create = true := by
      rcases available with creates | present
      · exact creates
      · rw [isEntry] at present
        cases present
    rw [if_pos creates]
    exact ⟨rfl, Nat.lt_succ_self _, _, Function.update_self .., rfl, (entry_create []).trans (if_pos rfl)⟩

omit [DecidableEq Path] in
/-- What is written with `O_APPEND` comes to the end of the file. -/
theorem OpenOn.dataAt_write (openOn : OpenOn store fd path true) (bytes : List UInt8) :
    (store.write fd bytes).dataAt path = some ((store.dataAt path).getD [] ++ bytes) := by
  rcases openOn.isFile with ⟨file, isFile, isAppend, isEntry⟩
  simp only [FileStore.write, isFile, isAppend, if_true, overwrite_end, dataAt, isEntry, Option.map_some,
    Option.getD_some, Function.update_self]

omit [DecidableEq Path] in
theorem OpenOn.content_write (openOn : OpenOn store fd path append) (bytes : List UInt8)
    (different : store.entry path ≠ some inode) : (store.write fd bytes).content inode = store.content inode := by
  rcases openOn.isFile with ⟨file, isFile, _, isEntry⟩
  have apart : inode ≠ file.inode := fun same => different (same ▸ isEntry)
  simp only [FileStore.write, isFile, Function.update_of_ne apart]

end OpenFiles
end Contents

end FileStore
end Foundations
