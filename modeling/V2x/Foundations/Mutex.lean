import Mathlib.Logic.Basic

namespace Foundations

/-!
# The owner of a mutex

A mutex records the party that holds it.  A development says in terms of its
program counters which parties hold the mutex; the two agree as long as every
step takes the mutex when it is free, keeps it, or gives it back.

The party inside may have done a part of what the others see as one step.  What
is missing is what the owner owes, and it owes nothing outside.
-/

variable {Party : Type} {owner owner' : Option Party} {holds holds' : Party -> Prop} {party : Party}

/-- The owner is the one party that holds the mutex. -/
def Owns (owner : Option Party) (holds : Party -> Prop) : Prop :=
  forall other, owner = some other <-> holds other

/-- A step of one party keeps the mutex as it is, takes it, or gives it back. -/
inductive MutexMove (party : Party) : (held held' : Bool) -> (owner owner' : Option Party) -> Prop where
  | keeps {held : Bool} {owner : Option Party} : MutexMove party held held owner owner
  | takes : MutexMove party false true none (some party)
  | gives {owner : Option Party} : MutexMove party true false owner none

theorem Owns.unique (owns : Owns owner holds) {first second : Party} (firstHolds : holds first)
    (secondHolds : holds second) : first = second := by
  have firstIs := (owns first).mpr firstHolds
  have secondIs := (owns second).mpr secondHolds
  exact Option.some.inj (firstIs.symm.trans secondIs)

theorem Owns.congr (owns : Owns owner holds) (same : forall other, holds' other <-> holds other) :
    Owns owner holds' :=
  fun other => (owns other).trans (same other).symm

/-- The owner is right after the step if the other parties hold what they held. -/
theorem Owns.move (owns : Owns owner holds) {held held' : Bool}
    (move : MutexMove party held held' owner owner') (before : holds party <-> held = true)
    (after : holds' party <-> held' = true)
    (others : forall other, other ≠ party -> (holds' other <-> holds other)) : Owns owner' holds' := by
  intro other
  cases move with
  | keeps =>
      by_cases same : other = party
      · rw [same, after, ← before]
        exact owns party
      · rw [others other same]
        exact owns other
  | takes =>
      by_cases same : other = party
      · rw [same]
        exact iff_of_true rfl (after.mpr rfl)
      · rw [others other same, ← owns other]
        constructor
        · intro isOwner
          exact absurd (Option.some.inj isOwner).symm same
        · intro isOwner
          cases isOwner
  | gives =>
      have partyOwns := (owns party).mpr (before.mpr rfl)
      constructor
      · intro isOwner
        cases isOwner
      · intro stillHolds
        by_cases same : other = party
        · rw [same, after] at stillHolds
          cases stillHolds
        · have isOwner := (owns other).mpr ((others other same).mp stillHolds)
          rw [partyOwns] at isOwner
          exact absurd (Option.some.inj isOwner).symm same

/-! ## What the owner owes -/

def owed (owner : Option Party) (owes : Party -> Int) : Int :=
  owner.elim 0 owes

/-- A step of one party changes the debt by what that party owes. -/
theorem owed_move {held held' : Bool} {owes owes' : Party -> Int}
    (move : MutexMove party held held' owner owner') (isOwner : owner = some party <-> held = true)
    (before : held = false -> owes party = 0) (after : held' = false -> owes' party = 0)
    (others : forall other, other ≠ party -> owes' other = owes other) :
    owed owner' owes' - owes' party = owed owner owes - owes party := by
  cases move with
  | keeps =>
      by_cases mine : owner = some party
      · subst mine
        simp only [owed, Option.elim_some, Int.sub_self]
      · have outside := Bool.eq_false_iff.mpr (fun inside => mine (isOwner.mpr inside))
        rw [before outside, after outside]
        cases owner with
        | none => rfl
        | some other =>
            have different : other ≠ party := fun same => mine (congrArg some same)
            simp only [owed, Option.elim_some, others other different]
  | takes =>
      rw [before rfl]
      simp only [owed, Option.elim_some, Option.elim_none, Int.sub_self]
  | gives =>
      rw [isOwner.mpr rfl, after rfl]
      simp only [owed, Option.elim_some, Option.elim_none, Int.sub_self]

end Foundations
