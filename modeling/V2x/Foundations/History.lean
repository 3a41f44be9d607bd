import Mathlib.Data.List.Induction
import Mathlib.Data.List.Perm.Subperm

namespace Foundations

/-!
# The last matching entry of a history

A history grows at its end.  What a later state remembers of it is often the
last entry of some kind: the last write to a cell, or the last request of a
client.  The rule `lastMatch_snoc_iff` says how a new entry replaces it, and it
is the only rule an invariant about last entries needs.
-/

universe u

variable {Entry : Type u} {kind : Entry -> Prop}

/-- The entry at this index is of the kind and no later one is. -/
structure LastMatch (history : List Entry) (kind : Entry -> Prop) (index : Nat) (entry : Entry) :
    Prop where
  found : history[index]? = some entry
  matching : kind entry
  last : forall later, index < later -> forall other, history[later]? = some other -> ¬ kind other

theorem LastMatch.index_lt {history : List Entry} {index : Nat} {entry : Entry}
    (isLast : LastMatch history kind index entry) : index < history.length :=
  (List.getElem?_eq_some_iff.mp isLast.found).1

theorem LastMatch.mem {history : List Entry} {index : Nat} {entry : Entry}
    (isLast : LastMatch history kind index entry) : entry ∈ history :=
  List.mem_of_getElem? isLast.found

theorem not_lastMatch_nil (index : Nat) (entry : Entry) : ¬ LastMatch [] kind index entry :=
  fun isLast => absurd isLast.mem List.not_mem_nil

theorem LastMatch.unique {history : List Entry} {first second : Nat} {entry other : Entry}
    (isFirst : LastMatch history kind first entry) (isSecond : LastMatch history kind second other) :
    first = second ∧ entry = other := by
  have same : first = second := by
    rcases Nat.lt_trichotomy first second with before | equal | behind
    · exact absurd isSecond.matching (isFirst.last second before other isSecond.found)
    · exact equal
    · exact absurd isFirst.matching (isSecond.last first behind entry isFirst.found)
  subst same
  exact ⟨rfl, Option.some.inj (isFirst.found.symm.trans isSecond.found)⟩

/-- A new entry of the kind is the last one, any other entry changes nothing. -/
theorem lastMatch_snoc_iff (history : List Entry) (new : Entry) (index : Nat) (entry : Entry) :
    LastMatch (history ++ [new]) kind index entry <->
      (kind new ∧ index = history.length ∧ entry = new) ∨
      (¬ kind new ∧ LastMatch history kind index entry) := by
  have atEnd : (history ++ [new])[history.length]? = some new := by simp
  have before : forall position, position < history.length ->
      (history ++ [new])[position]? = history[position]? :=
    fun position inside => List.getElem?_append_left inside
  constructor
  · intro isLast
    have inside := isLast.index_lt
    rw [List.length_append, List.length_singleton] at inside
    by_cases old : index < history.length
    · refine Or.inr ⟨isLast.last history.length old new atEnd, ?_, isLast.matching, ?_⟩
      · rw [← before index old]
        exact isLast.found
      · intro later after other found
        apply isLast.last later after other
        rw [before later (List.getElem?_eq_some_iff.mp found).1]
        exact found
    · have position : index = history.length := by omega
      have same : entry = new := by
        have found := isLast.found
        rw [position, atEnd] at found
        exact (Option.some.inj found).symm
      exact Or.inl ⟨same ▸ isLast.matching, position, same⟩
  · rintro (⟨matching, rfl, rfl⟩ | ⟨different, isLast⟩)
    · refine ⟨atEnd, matching, ?_⟩
      intro later after other found
      have inside := (List.getElem?_eq_some_iff.mp found).1
      rw [List.length_append, List.length_singleton] at inside
      omega
    · refine ⟨(before index isLast.index_lt).trans isLast.found, isLast.matching, ?_⟩
      intro later after other found
      by_cases old : later < history.length
      · rw [before later old] at found
        exact isLast.last later after other found
      · have inside := (List.getElem?_eq_some_iff.mp found).1
        rw [List.length_append, List.length_singleton] at inside
        have position : later = history.length := by omega
        rw [position, atEnd] at found
        exact Option.some.inj found ▸ different

/-- A table that every entry of the history writes at its own key has at each key
what the last entry for it has written. -/
theorem foldl_update_cases {Key Value : Type u} [DecidableEq Key] (key : Entry -> Key)
    (value : Entry -> Value) (history : List Entry) (table : Key -> Value) (position : Key) :
    let written := history.foldl (fun table entry => Function.update table (key entry) (value entry))
      table
    (Exists fun index => Exists fun entry =>
      LastMatch history (fun entry => key entry = position) index entry ∧
      written position = value entry) ∨
    (forall entry, entry ∈ history -> key entry ≠ position) ∧ written position = table position := by
  induction history using List.reverseRecOn with
  | nil => exact Or.inr ⟨fun entry member => absurd member List.not_mem_nil, rfl⟩
  | append_singleton history new inductionHypothesis =>
      simp only [List.foldl_append, List.foldl_cons, List.foldl_nil]
      by_cases here : key new = position
      · refine Or.inl ⟨history.length, new, ?_, ?_⟩
        · exact (lastMatch_snoc_iff history new _ _).mpr (Or.inl ⟨here, rfl, rfl⟩)
        · rw [← here, Function.update_self]
      · rw [Function.update_of_ne (Ne.symm here)]
        rcases inductionHypothesis with ⟨index, entry, isLast, isValue⟩ | ⟨none_, isTable⟩
        · refine Or.inl ⟨index, entry, ?_, isValue⟩
          exact (lastMatch_snoc_iff history new _ _).mpr (Or.inr ⟨here, isLast⟩)
        · refine Or.inr ⟨?_, isTable⟩
          intro entry member
          rcases List.mem_append.mp member with old | last
          · exact none_ entry old
          · rw [List.mem_singleton.mp last]
            exact here

/-! ## Two histories compared key by key -/

section Keys

variable {Other : Type u} {Key : Type u} [DecidableEq Key]

/-- The entries of some kind that have this key. -/
theorem count_map_filter (history : List Entry) (key : Entry -> Key) (matching : Entry -> Bool) (value : Key) :
    ((history.filter matching).map key).count value =
      (history.filter (fun entry => decide (key entry = value))).countP matching := by
  rw [List.count, List.countP_map, List.countP_filter, List.countP_filter]
  apply List.countP_congr
  intro entry _
  simp only [Function.comp_apply, Bool.and_eq_true, beq_iff_eq, decide_eq_true_eq, and_comm]

/-- If a history has no more entries of a kind than another under each key, it has no more of them. -/
theorem countP_le_of_keys {history : List Entry} {other : List Other} {key : Entry -> Key}
    {otherKey : Other -> Key} {matching : Entry -> Bool} {otherMatching : Other -> Bool}
    (within : forall value, (history.filter (fun entry => decide (key entry = value))).countP matching ≤
      (other.filter (fun entry => decide (otherKey entry = value))).countP otherMatching) :
    history.countP matching ≤ other.countP otherMatching := by
  have part : ((history.filter matching).map key).Subperm ((other.filter otherMatching).map otherKey) := by
    apply List.subperm_ext_iff.mpr
    intro value _
    rw [count_map_filter, count_map_filter]
    exact within value
  have lengths := part.length_le
  rw [List.length_map, List.length_map, ← List.countP_eq_length_filter, ← List.countP_eq_length_filter] at lengths
  exact lengths

end Keys

end Foundations
