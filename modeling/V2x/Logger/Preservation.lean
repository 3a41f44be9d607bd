import V2x.Logger.LogJournal

namespace V2x
namespace Logger

open Foundations

/-!
# From the records to the archives without a loss

A byte that was accepted waits in the cache, stands in the log file or in the
backup, is moved to a name with the time, or was given to `tar`.  In this order
the places hold the newest bytes first.  Only a rotation can break the chain,
where it finds a file under the backup name that the archiver has not fetched.
-/

variable {archive : List UInt8 -> Option (List UInt8) -> List UInt8} {text : List UInt8}
  {base cfg : LogCfgInfo}

/-! ## What is asked -/

/-- The bytes that are in the places, the oldest ones first. -/
def PipelineState.bytes (state : PipelineState) (cfg : LogCfgInfo) : List UInt8 :=
  state.packed.flatten ++ state.rotation.packs.flatten ++
    ((state.rotation.files.store.dataAt cfg.logBakName).getD [] ++
      (cfg.logData state.rotation.files.store ++
        if state.rotation.flushed then [] else state.cache.text))

/-- Where the log file is renamed to the backup name, there is no file with that name. -/
def rotatesFreely (cfg : LogCfgInfo) (state : PipelineState) : PipelineLabel -> Prop
  | .writerCall => bakIsFree cfg state.rotation .writerCall
  | _ => True

instance (cfg : LogCfgInfo) (state : PipelineState) :
    (label : PipelineLabel) -> Decidable (rotatesFreely cfg state label)
  | .writerCall => inferInstanceAs (Decidable (bakIsFree cfg state.rotation .writerCall))
  | .record _ _ | .timeout | .tick _ | .writerReturn | .wake _ | .archiverCall | .archiverReturn =>
      inferInstanceAs (Decidable True)

/-! ## What the archiver packs -/

section Packing

variable {rotation later : RotationState} {writer : WriterPhase} {archiver : ArchiverPhase}

theorem Threads.packing_eq (threads : Threads cfg rotation writer archiver) :
    rotation.packing = underWay cfg rotation.files.store archiver := by
  have follows := threads.archiverAt
  unfold RotationState.packing
  cases isArchiver : rotation.archiver with
  | archiving rest =>
      rw [isArchiver] at follows
      cases rest with
      | done index =>
          rw [show archiver = .storing from follows.1]
          rfl
      | call op rest =>
          have allowed := follows.1
          cases archiver with
          | moved tm =>
              cases op with
              | tar target source =>
                  rw [show source = timeLogFile cfg tm from allowed.1]
                  rfl
              | _ => cases allowed
          | _ => cases op <;> first | rfl | cases allowed
  | _ =>
      rw [isArchiver] at follows
      rw [show archiver = .resting from follows]
      rfl

theorem archived_packs (stepped : rotationStep archive cfg rotation .archiverCall = some later) :
    later.history.archived = rotation.history.archived ++ rotation.packing := by
  simp only [rotationStep] at stepped
  split at stepped
  next op rest isCall =>
    simp only [RotationState.call, Option.map_map, Option.map_eq_some_iff] at stepped
    rcases stepped with ⟨⟨answer, after⟩, _, rfl⟩
    unfold RotationState.packing
    rw [isCall]
    cases op with
    | rename source target =>
        simp only [Function.comp, RotationHistory.observe, List.append_nil]
        split
        · split <;> rfl
        · rfl
    | tar target source => rfl
    | _ => exact (List.append_nil _).symm
  next => cases stepped

/-- Only the archiver packs. -/
theorem archived_kept (threads : AnyThreads cfg rotation) {move : RotationLabel}
    (stepped : rotationStep archive cfg rotation move = some later) (other : move ≠ .archiverCall) :
    later.history.archived = rotation.history.archived := by
  cases move with
  | archiverCall => exact absurd rfl other
  | writerCall =>
      rcases threads with ⟨writer, archiver, threads⟩
      have writerAt := threads.writerAt
      simp only [rotationStep] at stepped
      split at stepped
      next op rest isCall =>
        rw [isCall] at writerAt
        simp only [RotationState.call, Option.map_map, Option.map_eq_some_iff] at stepped
        rcases stepped with ⟨⟨answer, after⟩, _, rfl⟩
        have allowed := writerAt.1
        cases op with
        | rename source target =>
            simp only [Function.comp, RotationHistory.observe]
            split
            · split <;> rfl
            · rfl
        | tar target source => cases allowed
        | _ => rfl
      next => cases stepped
  | _ =>
      simp only [rotationStep] at stepped
      split at stepped
      · cases stepped
        rfl
      · cases stepped

end Packing

/-! ## Where nothing is lost -/

/-- Everything is accounted for, and what was packed are the bytes of the archived generations. -/
structure Conserved (cfg : LogCfgInfo) (store : FileStore (List UInt8)) (state : PipelineState) : Prop where
  journal : HoldsJournal cfg store state
  accounts : AllAccounted cfg state.rotation
  packed : state.packed = state.rotation.history.archived.map state.rotation.files.store.content

section Conserved

variable {store : FileStore (List UInt8)} {state next : PipelineState} {label : PipelineLabel}
  {rotation later : RotationState}

/-- The generations in the order of their rotation. -/
theorem AllAccounted.rotated_eq (accounts : AllAccounted cfg rotation) :
    rotation.history.rotated = rotation.history.archived ++ rotation.packing ++ rotation.pending cfg := by
  rcases accounts with ⟨writer, archiver, threads, accounted⟩
  rw [accounted.kept, accounted.working, threads.packing_eq]

/-- What a step packs. -/
theorem packed_effect (threads : AnyThreads cfg state.rotation)
    (idled : forall {returned : RotationState},
      rotationStep archive cfg state.rotation .writerReturn = some returned -> AnyThreads cfg returned)
    (effect : PipelineEffect archive cfg state label next) :
    Exists fun generations => next.packed =
        state.packed ++ generations.map state.rotation.files.store.content ∧
      next.rotation.history.archived = state.rotation.history.archived ++ generations ∧
      (generations = [] ∨ generations = state.rotation.packing) := by
  have none : forall {packed : List (List UInt8)} {archived : List Nat},
      packed = state.packed -> archived = state.rotation.history.archived ->
      Exists fun generations => packed = state.packed ++ generations.map state.rotation.files.store.content ∧
        archived = state.rotation.history.archived ++ generations ∧
        (generations = [] ∨ generations = state.rotation.packing) := by
    rintro _ _ rfl rfl
    exact ⟨[], (List.append_nil _).symm, (List.append_nil _).symm, Or.inl rfl⟩
  cases effect with
  | keeps held rotation idle holds leaves =>
      cases leaves with
      | stays same => exact none rfl (same ▸ rfl)
      | ticked stepped => exact none rfl (archived_kept threads stepped nofun)
  | begins held call rotation idle holds stepped =>
      exact none rfl (archived_kept threads stepped nofun)
  | writes rotation stepped => exact none rfl (archived_kept threads stepped nofun)
  | returns held returned rotation holds stepped leaves =>
      have first := archived_kept threads stepped nofun
      cases leaves with
      | stays same => exact none rfl (same ▸ first)
      | ticked ticks => exact none rfl ((archived_kept (idled stepped) ticks nofun).trans first)
  | moves quiet rotation stepped =>
      refine none rfl (archived_kept threads stepped ?_)
      cases quiet <;> nofun
  | packs rotation stepped =>
      exact ⟨state.rotation.packing, rfl, archived_packs stepped, Or.inr rfl⟩

section Step

variable (paths : PathsCreated text base cfg) (positive : 0 < cfg.maxFileNum.toNat)
  (most : cfg.maxFileNum.toNat ≤ 20)

include paths positive most

/-- Only the writer rotates. -/
theorem allAccounted_other (accounts : AllAccounted cfg rotation) {move : RotationLabel}
    (stepped : rotationStep archive cfg rotation move = some later) (other : move ≠ .writerCall) :
    AllAccounted cfg later := by
  have free : bakIsFree cfg rotation move := by
    cases move with
    | writerCall => exact absurd rfl other
    | _ => trivial
  exact allAccounted_step paths positive most accounts free stepped

theorem allAccounted_leaves (accounts : AllAccounted cfg rotation)
    (leaves : Leaves archive cfg rotation later) : AllAccounted cfg later := by
  cases leaves with
  | stays same => exact same ▸ accounts
  | ticked stepped => exact allAccounted_other paths positive most accounts stepped nofun

theorem allAccounted_effect (accounts : AllAccounted cfg state.rotation)
    (free : rotatesFreely cfg state label) (effect : PipelineEffect archive cfg state label next) :
    AllAccounted cfg next.rotation := by
  cases effect with
  | keeps held rotation idle holds leaves => exact allAccounted_leaves paths positive most accounts leaves
  | begins held call rotation idle holds stepped =>
      exact allAccounted_other paths positive most accounts stepped nofun
  | writes rotation stepped =>
      have isFree : bakIsFree cfg state.rotation .writerCall := free
      exact allAccounted_step paths positive most accounts isFree stepped
  | returns held returned rotation holds stepped leaves =>
      have first := allAccounted_other paths positive most accounts stepped nofun
      exact allAccounted_leaves paths positive most first leaves
  | moves quiet rotation stepped =>
      refine allAccounted_other paths positive most accounts stepped ?_
      cases quiet <;> nofun
  | packs rotation stepped => exact allAccounted_other paths positive most accounts stepped nofun

theorem Conserved.step (conserved : Conserved cfg store state) (free : rotatesFreely cfg state label)
    (taken : pipelineStep archive cfg state label = some next) : Conserved cfg store next := by
  rcases conserved with ⟨⟨journal, flush, journaled⟩, accounts, packed⟩
  have effect := pipelineStep_effect journaled.cache taken
  have sizes : cfg.size.toNat ≤ sizeBound cfg store := Nat.le_max_left _ _
  rcases journaled.step paths positive most sizes taken with ⟨after, _, ⟨flushNext, kept⟩, grows⟩
  refine ⟨⟨after, flushNext, kept⟩, allAccounted_effect paths positive most accounts free effect, ?_⟩
  rcases packed_effect journaled.threads
    (fun stepped => anyThreads_step paths positive most journaled.threads stepped) effect with
    ⟨generations, packs, archived, isPacking⟩
  have earlier : forall generation, generation ∈ next.rotation.history.archived ->
      generation ∈ state.rotation.history.rotated := by
    intro generation member
    rw [archived] at member
    rw [accounts.rotated_eq]
    apply List.mem_append_left
    rcases isPacking with rfl | rfl
    · rw [List.append_nil] at member
      exact List.mem_append_left _ member
    · exact member
  rw [packs, packed, ← List.map_append, ← archived]
  exact List.map_congr_left fun generation member => (grows.contents generation (earlier generation member)).symm

end Step
end Conserved

/-! ## Where something is lost -/

/-- The files hold a journal, and the backup is one of its segments. -/
structure HoldsBackup (cfg : LogCfgInfo) (store : FileStore (List UInt8)) (state : PipelineState) : Prop where
  journal : HoldsJournal cfg store state
  bak : forall generation, state.rotation.files.store.entry cfg.logBakName = some generation ->
    generation ∈ state.rotation.history.rotated

section Lost

variable {store : FileStore (List UInt8)} {state next : PipelineState} {label : PipelineLabel}
  {rotation : RotationState} {bound : Nat}

variable (paths : PathsCreated text base cfg) (positive : 0 < cfg.maxFileNum.toNat)
  (most : cfg.maxFileNum.toNat ≤ 20)

include paths positive most

theorem HoldsBackup.step (holds : HoldsBackup cfg store state)
    (taken : pipelineStep archive cfg state label = some next) : HoldsBackup cfg store next := by
  rcases holds with ⟨⟨journal, flush, journaled⟩, bak⟩
  have sizes : cfg.size.toNat ≤ sizeBound cfg store := Nat.le_max_left _ _
  rcases journaled.step paths positive most sizes taken with ⟨after, _, ⟨flushNext, kept⟩, grows⟩
  refine ⟨⟨after, flushNext, kept⟩, fun generation isBak => ?_⟩
  rcases grows.bak generation isBak with before | member
  · exact grows.rotated.subset (bak generation before)
  · exact member

end Lost

end Logger
end V2x
