import Mathlib.Data.List.GetD
import Mathlib.Algebra.Order.Ring.Nat
import Mathlib.Tactic.Ring

namespace Foundations

/-!
# Byte memories and little-endian words

A memory maps offsets from a base address to bytes.  It has no end of its
own: an object of `n` bytes occupies the offsets below `n`, and what lies
beyond belongs to something else.  A write past the end of an object is thus
visible as a change outside it instead of being cut off.

Reads and writes of words are reads and writes of their little-endian bytes.
The lemmas say what a write leaves behind inside and outside its range; no
later proof looks at single bytes of a word again.
-/

/-- Bytes at the offsets from a base address. -/
abbrev Memory := Nat -> UInt8

/-- The `width` low bytes of a number, least significant first. -/
def leBytes : Nat -> Nat -> List UInt8
  | 0, _ => []
  | width + 1, value => UInt8.ofNat value :: leBytes width (value / 256)

/-- The number with the given bytes, least significant first. -/
def leValue : List UInt8 -> Nat
  | [] => 0
  | byte :: bytes => byte.toNat + 256 * leValue bytes

@[simp] theorem leBytes_length (width value : Nat) : (leBytes width value).length = width := by
  induction width generalizing value with
  | zero => rfl
  | succ width inductionHypothesis =>
      simp only [leBytes, List.length_cons, inductionHypothesis]

theorem leValue_leBytes (width value : Nat) :
    leValue (leBytes width value) = value % 256 ^ width := by
  induction width generalizing value with
  | zero => simp only [leBytes, leValue, pow_zero, Nat.mod_one]
  | succ width inductionHypothesis =>
      have low : (2 : Nat) ^ 8 = 256 := rfl
      rw [leBytes, leValue, inductionHypothesis, UInt8.toNat_ofNat', low, Nat.pow_succ',
        Nat.mod_mul]

namespace Memory

/-- The `count` bytes from an offset on. -/
def loadBytes (memory : Memory) (offset count : Nat) : List UInt8 :=
  (List.range count).map (fun index => memory (offset + index))

/-- Overwrite the bytes from an offset on. -/
def storeBytes (memory : Memory) (offset : Nat) (bytes : List UInt8) : Memory :=
  fun address =>
    if offset ≤ address ∧ address < offset + bytes.length then bytes.getD (address - offset) 0
    else memory address

/-- A memory that starts with the given bytes. -/
def ofBytes (bytes : List UInt8) : Memory :=
  fun address => bytes.getD address 0

@[simp] theorem loadBytes_length (memory : Memory) (offset count : Nat) :
    (memory.loadBytes offset count).length = count := by
  simp only [loadBytes, List.length_map, List.length_range]

theorem storeBytes_inside (memory : Memory) (offset index : Nat) (bytes : List UInt8)
    (inside : index < bytes.length) :
    memory.storeBytes offset bytes (offset + index) = bytes.getD index 0 := by
  have within : offset ≤ offset + index ∧ offset + index < offset + bytes.length := by omega
  simp only [storeBytes, if_pos within, Nat.add_sub_cancel_left]

theorem storeBytes_outside (memory : Memory) (offset address : Nat) (bytes : List UInt8)
    (outside : address < offset ∨ offset + bytes.length ≤ address) :
    memory.storeBytes offset bytes address = memory address := by
  have beyond : ¬ (offset ≤ address ∧ address < offset + bytes.length) := by omega
  simp only [storeBytes, if_neg beyond]

/-- A write leaves memories alike that were alike. -/
theorem storeBytes_congr {first second : Memory} (offset : Nat) (bytes : List UInt8) {address : Nat}
    (same : first address = second address) :
    first.storeBytes offset bytes address = second.storeBytes offset bytes address := by
  simp only [storeBytes, same]

theorem loadBytes_congr (first second : Memory) (offset count : Nat)
    (same : forall address, offset ≤ address -> address < offset + count ->
      first address = second address) :
    first.loadBytes offset count = second.loadBytes offset count := by
  apply List.map_congr_left
  intro index member
  exact same (offset + index) (Nat.le_add_right _ _)
    (Nat.add_lt_add_left (List.mem_range.mp member) offset)

theorem loadBytes_storeBytes_same (memory : Memory) (offset : Nat) (bytes : List UInt8) :
    (memory.storeBytes offset bytes).loadBytes offset bytes.length = bytes := by
  apply List.ext_getElem
  · exact loadBytes_length _ _ _
  · intro index inLoaded inBytes
    simp only [loadBytes, List.getElem_map, List.getElem_range]
    rw [storeBytes_inside memory offset index bytes inBytes]
    exact List.getD_eq_getElem bytes 0 inBytes

/-- The bytes stored at the front are the bytes read from the front. -/
theorem storeBytes_zero_eq_ofBytes (memory : Memory) (bytes : List UInt8) (address : Nat)
    (inside : address < bytes.length) :
    memory.storeBytes 0 bytes address = ofBytes bytes address := by
  have stored := storeBytes_inside memory 0 address bytes inside
  rw [Nat.zero_add] at stored
  exact stored

/-- Reading back a memory laid out from its own first bytes. -/
theorem ofBytes_loadBytes (memory : Memory) (count address : Nat) (inside : address < count) :
    ofBytes (memory.loadBytes 0 count) address = memory address := by
  have position : address < (memory.loadBytes 0 count).length := by
    rw [loadBytes_length]
    exact inside
  rw [ofBytes, List.getD_eq_getElem _ 0 position]
  simp only [loadBytes, List.getElem_map, List.getElem_range, Nat.zero_add]

/-! ## Words -/

def loadUInt32 (memory : Memory) (offset : Nat) : UInt32 :=
  UInt32.ofNat (leValue (memory.loadBytes offset 4))

def storeUInt32 (memory : Memory) (offset : Nat) (value : UInt32) : Memory :=
  memory.storeBytes offset (leBytes 4 value.toNat)

def loadUInt64 (memory : Memory) (offset : Nat) : UInt64 :=
  UInt64.ofNat (leValue (memory.loadBytes offset 8))

def storeUInt64 (memory : Memory) (offset : Nat) (value : UInt64) : Memory :=
  memory.storeBytes offset (leBytes 8 value.toNat)

def loadInt32 (memory : Memory) (offset : Nat) : Int32 :=
  (memory.loadUInt32 offset).toInt32

def storeInt32 (memory : Memory) (offset : Nat) (value : Int32) : Memory :=
  memory.storeUInt32 offset value.toUInt32

theorem loadUInt32_congr (first second : Memory) (offset : Nat)
    (same : forall address, offset ≤ address -> address < offset + 4 ->
      first address = second address) :
    first.loadUInt32 offset = second.loadUInt32 offset := by
  rw [loadUInt32, loadUInt32, loadBytes_congr first second offset 4 same]

theorem loadInt32_congr (first second : Memory) (offset : Nat)
    (same : forall address, offset ≤ address -> address < offset + 4 ->
      first address = second address) :
    first.loadInt32 offset = second.loadInt32 offset := by
  rw [loadInt32, loadInt32, loadUInt32_congr first second offset same]

theorem loadUInt64_congr (first second : Memory) (offset : Nat)
    (same : forall address, offset ≤ address -> address < offset + 8 ->
      first address = second address) :
    first.loadUInt64 offset = second.loadUInt64 offset := by
  rw [loadUInt64, loadUInt64, loadBytes_congr first second offset 8 same]

@[simp] theorem loadUInt32_storeUInt32_same (memory : Memory) (offset : Nat) (value : UInt32) :
    (memory.storeUInt32 offset value).loadUInt32 offset = value := by
  have bytes := loadBytes_storeBytes_same memory offset (leBytes 4 value.toNat)
  rw [leBytes_length] at bytes
  have small : value.toNat < 256 ^ 4 := value.toNat_lt
  rw [loadUInt32, storeUInt32, bytes, leValue_leBytes, Nat.mod_eq_of_lt small,
    UInt32.ofNat_toNat]

@[simp] theorem loadUInt64_storeUInt64_same (memory : Memory) (offset : Nat) (value : UInt64) :
    (memory.storeUInt64 offset value).loadUInt64 offset = value := by
  have bytes := loadBytes_storeBytes_same memory offset (leBytes 8 value.toNat)
  rw [leBytes_length] at bytes
  have small : value.toNat < 256 ^ 8 := value.toNat_lt
  rw [loadUInt64, storeUInt64, bytes, leValue_leBytes, Nat.mod_eq_of_lt small,
    UInt64.ofNat_toNat]

@[simp] theorem loadInt32_storeInt32_same (memory : Memory) (offset : Nat) (value : Int32) :
    (memory.storeInt32 offset value).loadInt32 offset = value := by
  rw [loadInt32, storeInt32, loadUInt32_storeUInt32_same]
  rfl

theorem storeUInt32_outside (memory : Memory) (offset address : Nat) (value : UInt32)
    (outside : address < offset ∨ offset + 4 ≤ address) :
    memory.storeUInt32 offset value address = memory address := by
  apply storeBytes_outside
  rw [leBytes_length]
  exact outside

theorem storeInt32_outside (memory : Memory) (offset address : Nat) (value : Int32)
    (outside : address < offset ∨ offset + 4 ≤ address) :
    memory.storeInt32 offset value address = memory address := by
  apply storeBytes_outside
  rw [leBytes_length]
  exact outside

theorem storeUInt64_outside (memory : Memory) (offset address : Nat) (value : UInt64)
    (outside : address < offset ∨ offset + 8 ≤ address) :
    memory.storeUInt64 offset value address = memory address := by
  apply storeBytes_outside
  rw [leBytes_length]
  exact outside

end Memory
end Foundations
