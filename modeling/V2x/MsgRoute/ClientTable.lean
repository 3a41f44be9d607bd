import V2x.MsgRoute.Wire
import Mathlib.Logic.Function.Basic
import Mathlib.Data.Nat.Find

namespace V2x
namespace MsgRoute

open Foundations

/-!
# The subscription table `g_clientInfo`

The table is an array of three structures of twelve bytes: a descriptor of
four bytes, seven flags of one byte, and one byte of padding.  It is modelled
as the bytes from `&g_clientInfo` on.  An index into `msgFlag` that is too
large is thus an address like any other: it falls on the padding byte, on the
descriptor or the flags of a later slot, or behind the table.

`view` is what the table is for: one descriptor and one set of flags for each
application.  The theorems about `view` say that the functions of
`msg_route_core.c` act on one slot of it.  They are the interface of this
module, and hold for all indices that lie inside the arrays.
-/

/-- `MsgRouteClientInfo`, one slot of the table. -/
@[ext] structure MsgRouteClientInfo where
  fd : Int32
  msgFlag : Fin msgRouteMaxMsg -> Bool

/-- The bytes from `&g_clientInfo` on. -/
abbrev ClientInfoTable := Memory

/-- `sizeof(MsgRouteClientInfo)`. -/
def clientInfoSize : Nat := 12

namespace ClientInfoTable

def fdOffset (slot : Nat) : Nat := clientInfoSize * slot
def msgFlagOffset (slot type : Nat) : Nat := clientInfoSize * slot + 4 + type

def fd (table : ClientInfoTable) (slot : Nat) : Int32 :=
  Memory.loadInt32 table (fdOffset slot)

def msgFlag (table : ClientInfoTable) (slot type : Nat) : Bool :=
  table (msgFlagOffset slot type) != 0

def setFd (table : ClientInfoTable) (slot : Nat) (value : Int32) : ClientInfoTable :=
  Memory.storeInt32 table (fdOffset slot) value

def setMsgFlag (table : ClientInfoTable) (slot type : Nat) (value : Bool) : ClientInfoTable :=
  Memory.storeBytes table (msgFlagOffset slot type) [if value then 1 else 0]

/-- `memset(msgFlag, 0, sizeof(msgFlag))`. -/
def clearMsgFlag (table : ClientInfoTable) (slot : Nat) : ClientInfoTable :=
  Memory.storeBytes table (msgFlagOffset slot 0) (List.replicate msgRouteMaxMsg 0)

/-- Descriptor and flags of a slot at once. -/
def slot (table : ClientInfoTable) (index : Nat) : MsgRouteClientInfo where
  fd := table.fd index
  msgFlag := fun type => table.msgFlag index type

/-- The table as the program means it. -/
def view (table : ClientInfoTable) : Fin maxAppId -> MsgRouteClientInfo :=
  fun app => table.slot app

/-! ## Reading after a write -/

/-- A slot depends on its own eleven bytes only. -/
theorem slot_congr {first second : ClientInfoTable} {index : Nat}
    (same : forall address, fdOffset index ≤ address ->
      address < msgFlagOffset index msgRouteMaxMsg -> first address = second address) :
    first.slot index = second.slot index := by
  unfold msgFlagOffset fdOffset clientInfoSize msgRouteMaxMsg at same
  apply MsgRouteClientInfo.ext
  · apply Memory.loadInt32_congr
    intro address lower upper
    unfold fdOffset clientInfoSize at lower upper
    exact same address lower (by omega)
  · funext type
    have small : type.val < 7 := type.isLt
    change (first (msgFlagOffset index type) != 0) = (second (msgFlagOffset index type) != 0)
    unfold msgFlagOffset clientInfoSize
    rw [same (12 * index + 4 + type.val) (by omega) (by omega)]

theorem setFd_outside (table : ClientInfoTable) (index address : Nat) (value : Int32)
    (outside : address < fdOffset index ∨ fdOffset index + 4 ≤ address) :
    table.setFd index value address = table address :=
  Memory.storeInt32_outside table (fdOffset index) address value outside

theorem setMsgFlag_outside (table : ClientInfoTable) (index type address : Nat) (value : Bool)
    (outside : address ≠ msgFlagOffset index type) :
    table.setMsgFlag index type value address = table address := by
  apply Memory.storeBytes_outside
  rw [List.length_singleton]
  omega

theorem clearMsgFlag_outside (table : ClientInfoTable) (index address : Nat)
    (outside : address < msgFlagOffset index 0 ∨ msgFlagOffset index msgRouteMaxMsg ≤ address) :
    table.clearMsgFlag index address = table address := by
  apply Memory.storeBytes_outside
  rw [List.length_replicate]
  exact outside

@[simp] theorem fd_setFd_same (table : ClientInfoTable) (index : Nat) (value : Int32) :
    (table.setFd index value).fd index = value :=
  Memory.loadInt32_storeInt32_same table (fdOffset index) value

theorem slot_setFd_same (table : ClientInfoTable) (index : Nat) (value : Int32) :
    (table.setFd index value).slot index = { table.slot index with fd := value } := by
  apply MsgRouteClientInfo.ext
  · exact fd_setFd_same table index value
  · funext type
    change (table.setFd index value (msgFlagOffset index type) != 0) = _
    rw [setFd_outside table index _ value (by unfold msgFlagOffset fdOffset; omega)]
    rfl

theorem slot_setFd_other (table : ClientInfoTable) {index other : Nat} (value : Int32)
    (different : other ≠ index) : (table.setFd index value).slot other = table.slot other := by
  apply slot_congr
  intro address lower upper
  apply setFd_outside
  unfold msgFlagOffset fdOffset clientInfoSize msgRouteMaxMsg at *
  omega

theorem slot_setMsgFlag_same (table : ClientInfoTable) (index : Nat)
    (type : Fin msgRouteMaxMsg) (value : Bool) :
    (table.setMsgFlag index type value).slot index =
      { table.slot index with
        msgFlag := Function.update (table.slot index).msgFlag type value } := by
  have small : type.val < 7 := type.isLt
  apply MsgRouteClientInfo.ext
  · apply Memory.loadInt32_congr
    intro address lower upper
    apply setMsgFlag_outside
    unfold msgFlagOffset fdOffset clientInfoSize at *
    omega
  · funext other
    change (table.setMsgFlag index type value (msgFlagOffset index other) != 0) = _
    by_cases same : other = type
    · subst other
      have stored := Memory.storeBytes_inside table (msgFlagOffset index type) 0
        [if value then 1 else 0] Nat.zero_lt_one
      rw [Nat.add_zero] at stored
      simp only [setMsgFlag, Function.update_self, stored]
      cases value <;> rfl
    · have apart : other.val ≠ type.val := fun equal => same (Fin.ext equal)
      simp only [Function.update_of_ne same]
      rw [setMsgFlag_outside table index type _ value (by unfold msgFlagOffset; omega)]
      rfl

theorem slot_setMsgFlag_other (table : ClientInfoTable) {index other : Nat}
    (type : Fin msgRouteMaxMsg) (value : Bool) (different : other ≠ index) :
    (table.setMsgFlag index type value).slot other = table.slot other := by
  have small : type.val < 7 := type.isLt
  apply slot_congr
  intro address lower upper
  apply setMsgFlag_outside
  unfold msgFlagOffset fdOffset clientInfoSize msgRouteMaxMsg at *
  omega

theorem slot_clearMsgFlag_same (table : ClientInfoTable) (index : Nat) :
    (table.clearMsgFlag index).slot index =
      { table.slot index with msgFlag := fun _ => false } := by
  apply MsgRouteClientInfo.ext
  · apply Memory.loadInt32_congr
    intro address lower upper
    apply clearMsgFlag_outside
    unfold msgFlagOffset fdOffset clientInfoSize at *
    omega
  · funext type
    have stored := Memory.storeBytes_inside table (msgFlagOffset index 0) type
      (List.replicate msgRouteMaxMsg 0) (by rw [List.length_replicate]; exact type.isLt)
    change (Memory.storeBytes table (msgFlagOffset index 0) (List.replicate msgRouteMaxMsg 0)
      (msgFlagOffset index 0 + type) != 0) = false
    rw [stored, List.getD_replicate _ type.isLt]
    rfl

theorem slot_clearMsgFlag_other (table : ClientInfoTable) {index other : Nat}
    (different : other ≠ index) : (table.clearMsgFlag index).slot other = table.slot other := by
  apply slot_congr
  intro address lower upper
  apply clearMsgFlag_outside
  unfold msgFlagOffset fdOffset clientInfoSize msgRouteMaxMsg at *
  omega

end ClientInfoTable

/-! ## The table functions of `msg_route_core.c` -/

/-- A slot that belongs to no connection. -/
def MsgRouteClientInfo.released : MsgRouteClientInfo where
  fd := -1
  msgFlag := fun _ => false

/-- One round of the loops that empty slots. -/
def resetSlot (table : ClientInfoTable) (index : Nat) : ClientInfoTable :=
  (table.setFd index (-1)).clearMsgFlag index

/-- `MsgRouteClientInfoInit`. -/
def msgRouteClientInfoInit (table : ClientInfoTable) : ClientInfoTable :=
  (List.range maxAppId).foldl resetSlot table

/-- `MsgRouteCoreUpdateClientSubscribeInfo`. -/
def msgRouteCoreUpdateClientSubscribeInfo (table : ClientInfoTable) (msgData : MsgRouteDataInfo)
    (isAdd : Bool) : ClientInfoTable :=
  let owned :=
    if table.fd msgData.slotIndex = -1 then table.setFd msgData.slotIndex msgData.src else table
  owned.setMsgFlag msgData.slotIndex (msgData.data 0).toNat isAdd

/-- The loop of `MsgRouteCoreEraseClientInfo` over the slots that remain.  It
stops at the first slot with the descriptor. -/
def eraseFirst (fd : Int32) (table : ClientInfoTable) : List Nat -> ClientInfoTable
  | [] => table
  | index :: rest => if table.fd index = fd then resetSlot table index else eraseFirst fd table rest

/-- `MsgRouteCoreEraseClientInfo`. -/
def msgRouteCoreEraseClientInfo (table : ClientInfoTable) (fd : Int32) : ClientInfoTable :=
  if fd = -1 then table else eraseFirst fd table (List.range maxAppId)

/-! ## The table functions act on one slot -/

theorem slot_resetSlot_same (table : ClientInfoTable) (index : Nat) :
    (resetSlot table index).slot index = MsgRouteClientInfo.released := by
  rw [resetSlot, ClientInfoTable.slot_clearMsgFlag_same, ClientInfoTable.slot_setFd_same]
  rfl

theorem slot_resetSlot_other (table : ClientInfoTable) {index other : Nat}
    (different : other ≠ index) : (resetSlot table index).slot other = table.slot other := by
  rw [resetSlot, ClientInfoTable.slot_clearMsgFlag_other _ different,
    ClientInfoTable.slot_setFd_other _ _ different]

theorem resetSlot_outside (table : ClientInfoTable) (index address : Nat)
    (outside : address < ClientInfoTable.fdOffset index ∨
      ClientInfoTable.msgFlagOffset index msgRouteMaxMsg ≤ address) :
    resetSlot table index address = table address := by
  unfold resetSlot
  rw [ClientInfoTable.clearMsgFlag_outside, ClientInfoTable.setFd_outside]
  · unfold ClientInfoTable.msgFlagOffset ClientInfoTable.fdOffset at *
    omega
  · unfold ClientInfoTable.msgFlagOffset ClientInfoTable.fdOffset at *
    omega

theorem slot_foldl_resetSlot (slots : List Nat) (table : ClientInfoTable) (index : Nat)
    (emptied : index ∈ slots ∨ table.slot index = MsgRouteClientInfo.released) :
    (slots.foldl resetSlot table).slot index = MsgRouteClientInfo.released := by
  induction slots generalizing table with
  | nil => exact emptied.resolve_left List.not_mem_nil
  | cons first rest inductionHypothesis =>
      apply inductionHypothesis
      by_cases same : index = first
      · subst first
        exact Or.inr (slot_resetSlot_same table index)
      · rcases emptied with member | already
        · exact Or.inl ((List.mem_cons.mp member).resolve_left same)
        · exact Or.inr ((slot_resetSlot_other table same).trans already)

theorem view_msgRouteClientInfoInit (table : ClientInfoTable) :
    (msgRouteClientInfoInit table).view = fun _ => MsgRouteClientInfo.released := by
  funext app
  exact slot_foldl_resetSlot _ table app (Or.inl (List.mem_range.mpr app.isLt))

/-- What a control message for a type inside the array makes of the slot. -/
def MsgRouteClientInfo.control (info : MsgRouteClientInfo) (src : Int32)
    (type : Fin msgRouteMaxMsg) (isAdd : Bool) : MsgRouteClientInfo where
  fd := if info.fd = -1 then src else info.fd
  msgFlag := Function.update info.msgFlag type isAdd

theorem view_msgRouteCoreUpdateClientSubscribeInfo (table : ClientInfoTable)
    (msgData : MsgRouteDataInfo) (isAdd : Bool) (app : Fin maxAppId) (type : Fin msgRouteMaxMsg)
    (atApp : msgData.slotIndex = app) (atType : (msgData.data 0).toNat = type) :
    (msgRouteCoreUpdateClientSubscribeInfo table msgData isAdd).view =
      Function.update table.view app ((table.view app).control msgData.src type isAdd) := by
  funext other
  unfold msgRouteCoreUpdateClientSubscribeInfo
  rw [atApp, atType]
  by_cases same : other = app
  · subst other
    rw [Function.update_self]
    change (ClientInfoTable.setMsgFlag _ app type isAdd).slot app = _
    rw [ClientInfoTable.slot_setMsgFlag_same]
    by_cases free : table.fd app = -1
    · rw [if_pos free, ClientInfoTable.slot_setFd_same]
      apply MsgRouteClientInfo.ext
      · exact (if_pos free).symm
      · rfl
    · rw [if_neg free]
      apply MsgRouteClientInfo.ext
      · exact (if_neg free).symm
      · rfl
  · have apart : other.val ≠ app.val := fun equal => same (Fin.ext equal)
    rw [Function.update_of_ne same]
    change (ClientInfoTable.setMsgFlag _ app type isAdd).slot other = table.slot other
    rw [ClientInfoTable.slot_setMsgFlag_other _ type isAdd apart]
    by_cases free : table.fd app = -1
    · rw [if_pos free, ClientInfoTable.slot_setFd_other _ _ apart]
    · rw [if_neg free]

/-- The slot the erasing loop resets: the first one with the descriptor. -/
def IsFirstSlot (table : Fin maxAppId -> MsgRouteClientInfo) (fd : Int32) (app : Fin maxAppId) :
    Prop :=
  (table app).fd = fd ∧ forall earlier, earlier < app -> (table earlier).fd ≠ fd

theorem eraseFirst_absent (fd : Int32) (table : ClientInfoTable) (slots : List Nat)
    (absent : forall index, index ∈ slots -> table.fd index ≠ fd) :
    eraseFirst fd table slots = table := by
  induction slots with
  | nil => rfl
  | cons first rest inductionHypothesis =>
      rw [eraseFirst, if_neg (absent first List.mem_cons_self)]
      exact inductionHypothesis (fun index member => absent index (List.mem_cons_of_mem _ member))

theorem eraseFirst_found (fd : Int32) (table : ClientInfoTable) (before after : List Nat)
    (index : Nat) (absent : forall earlier, earlier ∈ before -> table.fd earlier ≠ fd)
    (found : table.fd index = fd) :
    eraseFirst fd table (before ++ index :: after) = resetSlot table index := by
  induction before with
  | nil => rw [List.nil_append, eraseFirst, if_pos found]
  | cons first rest inductionHypothesis =>
      rw [List.cons_append, eraseFirst, if_neg (absent first List.mem_cons_self)]
      exact inductionHypothesis
        (fun earlier member => absent earlier (List.mem_cons_of_mem _ member))

theorem view_msgRouteCoreEraseClientInfo_absent (table : ClientInfoTable) (fd : Int32)
    (absent : forall app, (table.view app).fd ≠ fd) :
    msgRouteCoreEraseClientInfo table fd = table := by
  unfold msgRouteCoreEraseClientInfo
  split
  · rfl
  · apply eraseFirst_absent
    intro index member
    exact absent ⟨index, List.mem_range.mp member⟩

theorem range_split (index size : Nat) (inside : index < size) :
    List.range size =
      List.range index ++ index :: (List.range (size - index - 1)).map (index + 1 + ·) := by
  have whole : size = index + (1 + (size - index - 1)) := by omega
  conv => lhs; rw [whole]
  rw [List.range_add, List.range_add, List.range_one, List.map_append, List.map_singleton,
    List.map_map, List.singleton_append, Nat.add_zero]
  congr 2
  apply List.map_congr_left
  intro step _
  simp only [Function.comp_apply, Nat.add_assoc]

theorem msgRouteCoreEraseClientInfo_found (table : ClientInfoTable) (fd : Int32)
    (app : Fin maxAppId) (open_ : fd ≠ -1) (first : IsFirstSlot table.view fd app) :
    msgRouteCoreEraseClientInfo table fd = resetSlot table app := by
  rw [msgRouteCoreEraseClientInfo, if_neg open_, range_split app maxAppId app.isLt]
  apply eraseFirst_found
  · intro earlier member
    have below := List.mem_range.mp member
    exact first.2 ⟨earlier, Nat.lt_trans below app.isLt⟩ below
  · exact first.1

theorem view_msgRouteCoreEraseClientInfo_found (table : ClientInfoTable) (fd : Int32)
    (app : Fin maxAppId) (open_ : fd ≠ -1) (first : IsFirstSlot table.view fd app) :
    (msgRouteCoreEraseClientInfo table fd).view =
      Function.update table.view app MsgRouteClientInfo.released := by
  funext other
  rw [msgRouteCoreEraseClientInfo_found table fd app open_ first]
  by_cases same : other = app
  · subst other
    rw [Function.update_self]
    exact slot_resetSlot_same table app
  · rw [Function.update_of_ne same]
    exact slot_resetSlot_other table (fun equal => same (Fin.ext equal))

/-- Either no slot has the descriptor, or there is a first one. -/
theorem firstSlot_cases (table : Fin maxAppId -> MsgRouteClientInfo) (fd : Int32) :
    (forall app, (table app).fd ≠ fd) ∨ Exists fun app => IsFirstSlot table fd app := by
  by_cases present : Exists fun index : Nat =>
      Exists fun inside : index < maxAppId => (table ⟨index, inside⟩).fd = fd
  · right
    classical
    rcases Nat.find_spec present with ⟨inside, found⟩
    refine ⟨⟨Nat.find present, inside⟩, found, ?_⟩
    intro earlier below sameFd
    exact Nat.find_min present below ⟨earlier.isLt, sameFd⟩
  · left
    intro app found
    exact present ⟨app, app.isLt, found⟩

end MsgRoute
end V2x
