import Mathlib.Data.List.Basic
import Mathlib.Logic.Function.Basic

namespace Foundations

/-!
# Two copies of one table

The same writes go to two copies of a table.  The far copy receives them through
a queue, in the order in which they were made.  At the near copy each write is
made by whoever has sent it, some time later, so that writes may overtake each
other there.  The copies agree once all writes are made, provided that no write
overtakes one with another value for the same key.
-/

universe u v

variable {Key : Type u} {Value : Type v} [DecidableEq Key]

/-- Make the writes one after the other. -/
def settle (table : Key -> Value) (writes : List (Key × Value)) : Key -> Value :=
  writes.foldl (fun table write => Function.update table write.1 write.2) table

@[simp] theorem settle_nil (table : Key -> Value) : settle table [] = table := rfl

@[simp] theorem settle_cons (table : Key -> Value) (write : Key × Value)
    (writes : List (Key × Value)) :
    settle table (write :: writes) = settle (Function.update table write.1 write.2) writes := rfl

theorem settle_append (table : Key -> Value) (before after : List (Key × Value)) :
    settle table (before ++ after) = settle (settle table before) after :=
  List.foldl_append ..

/-- No earlier write has another value for the key of the write at this index. -/
def InOrder (writes : List (Key × Value)) (index : Nat) : Prop :=
  forall write, write ∈ writes[index]? -> forall earlier, earlier ∈ writes.take index ->
    earlier.1 = write.1 -> earlier.2 = write.2

instance [DecidableEq Value] (writes : List (Key × Value)) (index : Nat) :
    Decidable (InOrder writes index) :=
  inferInstanceAs (Decidable (forall write, write ∈ writes[index]? -> forall earlier,
    earlier ∈ writes.take index -> earlier.1 = write.1 -> earlier.2 = write.2))

/-- Two writes change places if they do not write different values to one key. -/
theorem update_comm_of_agree (table : Key -> Value) {first second : Key × Value}
    (agree : first.1 = second.1 -> first.2 = second.2) :
    Function.update (Function.update table first.1 first.2) second.1 second.2 =
      Function.update (Function.update table second.1 second.2) first.1 first.2 := by
  by_cases same : first.1 = second.1
  · rw [same, agree same, Function.update_idem]
  · exact Function.update_comm same first.2 second.2 table

/-- A write that is in order may be made before the others. -/
theorem settle_eraseIdx {writes : List (Key × Value)} {index : Nat} {write : Key × Value}
    (isWrite : writes[index]? = some write) (inOrder : InOrder writes index)
    (table : Key -> Value) :
    settle (Function.update table write.1 write.2) (writes.eraseIdx index) =
      settle table writes := by
  induction writes generalizing index table with
  | nil => cases isWrite
  | cons first writes inductionHypothesis =>
      cases index with
      | zero =>
          cases isWrite
          rfl
      | succ index =>
          have later : InOrder writes index := fun write isWrite earlier before =>
            inOrder write isWrite earlier (List.mem_cons_of_mem first before)
          have agree : write.1 = first.1 -> write.2 = first.2 := fun same =>
            (inOrder write isWrite first List.mem_cons_self same.symm).symm
          rw [List.eraseIdx_cons_succ, settle_cons, settle_cons, update_comm_of_agree table agree]
          exact inductionHypothesis isWrite later _

/-- The two copies, with the writes that each of them has still to receive. -/
@[ext] structure Replicas (Key : Type u) (Value : Type v) where
  near : Key -> Value
  stores : List (Key × Value)
  far : Key -> Value
  queue : List (Key × Value)

namespace Replicas

variable {copies next : Replicas Key Value}

/-- A write is sent, made at the near copy, or received by the far one. -/
inductive Step (copies : Replicas Key Value) : Replicas Key Value -> Prop where
  | idle : Step copies copies
  | send (write : Key × Value) :
      Step copies { copies with
        stores := copies.stores ++ [write]
        queue := copies.queue ++ [write] }
  | store (index : Nat) (write : Key × Value) (isWrite : copies.stores[index]? = some write)
      (inOrder : InOrder copies.stores index) :
      Step copies { copies with
        near := Function.update copies.near write.1 write.2
        stores := copies.stores.eraseIdx index }
  | receive (write : Key × Value) (rest : List (Key × Value))
      (first : copies.queue = write :: rest) :
      Step copies { copies with
        far := Function.update copies.far write.1 write.2
        queue := rest }

theorem Step.ofEq {other : Replicas Key Value} (step : Step copies other)
    (near : next.near = other.near) (stores : next.stores = other.stores)
    (far : next.far = other.far) (queue : next.queue = other.queue) : Step copies next := by
  rw [Replicas.ext near stores far queue]
  exact step

/-- The copies will be the same. -/
def Agree (copies : Replicas Key Value) : Prop :=
  settle copies.near copies.stores = settle copies.far copies.queue

theorem Agree.step (agree : copies.Agree) (step : Step copies next) : next.Agree := by
  unfold Agree at *
  cases step with
  | idle => exact agree
  | send write => rw [settle_append, settle_append, agree]
  | store index write isWrite inOrder =>
      exact (settle_eraseIdx isWrite inOrder copies.near).trans agree
  | receive write rest first =>
      rw [agree, first, settle_cons]

/-- The copies are the same when all writes are made. -/
theorem Agree.same (agree : copies.Agree) (stored : copies.stores = [])
    (received : copies.queue = []) : copies.near = copies.far := by
  unfold Agree at agree
  rw [stored, received] at agree
  exact agree

end Replicas

end Foundations
