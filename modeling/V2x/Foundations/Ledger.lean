import Mathlib.Data.List.Nodup
import Mathlib.Data.List.Perm.Basic

namespace Foundations

/-!
# A ledger of allocations

The ledger follows objects that are allocated one after the other, each under a
name of its own and at a place in memory.  It looks at the memory only through a
test of places: an object is released by whatever makes its place dead.  A
balanced ledger has every name once, as a live object or as a released one, and
no two live objects at one place.
-/

universe u v

structure Ledger (Id : Type u) (Place : Type v) where
  allocated : List Id
  live : List (Id × Place)
  freed : List Id

namespace Ledger

variable {Id : Type u} {Place : Type v}

def empty : Ledger Id Place where
  allocated := []
  live := []
  freed := []

/-- A new object. -/
def allocate (ledger : Ledger Id Place) (id : Id) (place : Place) : Ledger Id Place where
  allocated := ledger.allocated ++ [id]
  live := ledger.live ++ [(id, place)]
  freed := ledger.freed

/-- The objects whose places are dead have been released. -/
def settle (ledger : Ledger Id Place) (alive : Place -> Bool) : Ledger Id Place where
  allocated := ledger.allocated
  live := ledger.live.filter (fun entry => alive entry.2)
  freed := ledger.freed ++ (ledger.live.filter (fun entry => !alive entry.2)).map Prod.fst

/-- What a step has allocated, if anything. -/
def record (ledger : Ledger Id Place) : Option (Id × Place) -> Ledger Id Place
  | some (id, place) => ledger.allocate id place
  | none => ledger

section Members

variable {ledger : Ledger Id Place} {alive : Place -> Bool} {id : Id} {place : Place}

theorem mem_live_settle :
    (id, place) ∈ (ledger.settle alive).live <-> (id, place) ∈ ledger.live ∧ alive place = true :=
  List.mem_filter

theorem mem_freed_settle :
    id ∈ (ledger.settle alive).freed <->
      id ∈ ledger.freed ∨ Exists fun place => (id, place) ∈ ledger.live ∧ alive place = false := by
  simp only [settle, List.mem_append, List.mem_map, List.mem_filter, Bool.not_eq_true', Prod.exists,
    exists_and_right, exists_eq_right]

theorem mem_live_allocate {new : Id} {newPlace : Place} :
    (id, place) ∈ (ledger.allocate new newPlace).live <->
      (id, place) ∈ ledger.live ∨ (id = new ∧ place = newPlace) := by
  simp only [allocate, List.mem_append, List.mem_singleton, Prod.mk.injEq]

theorem freed_record (allocation : Option (Id × Place)) :
    (ledger.record allocation).freed = ledger.freed := by
  cases allocation <;> rfl

theorem mem_live_record {allocation : Option (Id × Place)} :
    (id, place) ∈ (ledger.record allocation).live <->
      (id, place) ∈ ledger.live ∨ allocation = some (id, place) := by
  cases allocation with
  | none => simp only [record, reduceCtorEq, or_false]
  | some entry =>
      rw [record, mem_live_allocate, Option.some.injEq, ← Prod.mk.injEq, eq_comm]

theorem mem_allocated_allocate {new : Id} {newPlace : Place} :
    id ∈ (ledger.allocate new newPlace).allocated <-> id ∈ ledger.allocated ∨ id = new := by
  simp only [allocate, List.mem_append, List.mem_singleton]

theorem mem_allocated_record {allocation : Option (Id × Place)} :
    id ∈ (ledger.record allocation).allocated <->
      id ∈ ledger.allocated ∨ Exists fun place => allocation = some (id, place) := by
  cases allocation with
  | none => simp only [record, reduceCtorEq, exists_false, or_false]
  | some entry =>
      rw [record, mem_allocated_allocate]
      constructor
      · rintro (known | rfl)
        · exact Or.inl known
        · exact Or.inr ⟨entry.2, rfl⟩
      · rintro (known | ⟨place, isEntry⟩)
        · exact Or.inl known
        · exact Or.inr (congrArg Prod.fst (Option.some.inj isEntry)).symm

end Members

structure Balanced (ledger : Ledger Id Place) : Prop where
  distinct : ledger.allocated.Nodup
  perm : (ledger.live.map Prod.fst ++ ledger.freed).Perm ledger.allocated
  places : (ledger.live.map Prod.snd).Nodup

namespace Balanced

theorem empty : Balanced (Ledger.empty : Ledger Id Place) :=
  ⟨List.nodup_nil, List.Perm.refl _, List.nodup_nil⟩

variable {ledger : Ledger Id Place} {alive : Place -> Bool} {id : Id} {place : Place}

theorem allocate (balanced : Balanced ledger) (newName : id ∉ ledger.allocated)
    (newPlace : forall other, (other, place) ∉ ledger.live) :
    Balanced (ledger.allocate id place) where
  distinct := List.nodup_append.mpr ⟨balanced.distinct, List.nodup_singleton _, by
    rintro known member last isLast rfl
    exact newName (List.mem_singleton.mp isLast ▸ member)⟩
  perm := by
    have moved : (ledger.live.map Prod.fst ++ [id] ++ ledger.freed).Perm
        (ledger.live.map Prod.fst ++ ledger.freed ++ [id]) := by
      rw [List.append_assoc, List.append_assoc]
      exact List.perm_append_comm.append_left _
    simp only [Ledger.allocate, List.map_append, List.map_cons, List.map_nil]
    exact moved.trans (balanced.perm.append_right _)
  places := by
    simp only [Ledger.allocate, List.map_append, List.map_cons, List.map_nil]
    apply List.nodup_append.mpr
    refine ⟨balanced.places, List.nodup_singleton _, ?_⟩
    rintro known member last isLast rfl
    rcases List.mem_map.mp member with ⟨⟨other, otherPlace⟩, isLive, rfl⟩
    have atPlace : otherPlace = place := List.mem_singleton.mp isLast
    exact newPlace other (atPlace ▸ isLive)

theorem settle (balanced : Balanced ledger) (alive : Place -> Bool) :
    Balanced (ledger.settle alive) where
  distinct := balanced.distinct
  perm := by
    let kept := ledger.live.filter (fun entry => alive entry.2)
    let dead := ledger.live.filter (fun entry => !alive entry.2)
    have parts : (kept ++ dead).Perm ledger.live := List.filter_append_perm _ ledger.live
    have names : (kept.map Prod.fst ++ dead.map Prod.fst).Perm (ledger.live.map Prod.fst) := by
      rw [← List.map_append]
      exact parts.map Prod.fst
    have swapped : (ledger.freed ++ dead.map Prod.fst).Perm (dead.map Prod.fst ++ ledger.freed) :=
      List.perm_append_comm
    have moved : (kept.map Prod.fst ++ (ledger.freed ++ dead.map Prod.fst)).Perm
        (kept.map Prod.fst ++ dead.map Prod.fst ++ ledger.freed) := by
      rw [List.append_assoc]
      exact swapped.append_left _
    exact (moved.trans (names.append_right ledger.freed)).trans balanced.perm
  places := balanced.places.sublist (List.Sublist.map _ List.filter_sublist)

/-- Every allocated name is live or released. -/
theorem mem_allocated (balanced : Balanced ledger) :
    id ∈ ledger.allocated <->
      (Exists fun place => (id, place) ∈ ledger.live) ∨ id ∈ ledger.freed := by
  rw [← balanced.perm.mem_iff, List.mem_append, List.mem_map]
  simp only [Prod.exists, exists_and_right, exists_eq_right]

theorem names (balanced : Balanced ledger) :
    (ledger.live.map Prod.fst ++ ledger.freed).Nodup :=
  balanced.perm.nodup_iff.mpr balanced.distinct

theorem not_freed (balanced : Balanced ledger) (isLive : (id, place) ∈ ledger.live) :
    id ∉ ledger.freed := by
  intro released
  exact (List.nodup_append.mp balanced.names).2.2 id (List.mem_map.mpr ⟨_, isLive, rfl⟩) id
    released rfl

/-- At one place there is one live object. -/
theorem sameName (balanced : Balanced ledger) {other : Id} (isLive : (id, place) ∈ ledger.live)
    (alsoLive : (other, place) ∈ ledger.live) : id = other :=
  congrArg Prod.fst (List.inj_on_of_nodup_map balanced.places isLive alsoLive rfl)

/-- No name is released twice. -/
theorem count_freed [DecidableEq Id] (balanced : Balanced ledger) :
    ledger.freed.count id = 1 <-> id ∈ ledger.freed := by
  constructor
  · intro once
    exact List.count_pos_iff.mp (by omega)
  · intro released
    exact List.count_eq_one_of_mem (List.nodup_append.mp balanced.names).2.1 released

end Balanced
end Ledger
end Foundations
