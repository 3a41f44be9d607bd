import V2x.MsgRoute.ClientTable

namespace V2x
namespace MsgRoute

open Foundations

/-!
# Dispatch of a message in `msg_route_core.c`

A message that passes `IsMsgRouteValidMsg` is either a control message, which
updates the subscription table, or it is copied and handed to the thread pool.
Handing over is a call that takes several steps of the system, so the function
here stops at the bytes of the copy.
-/

/-- `IsMsgRouteValidMsg`. -/
def isMsgRouteValidMsg (msgData : MsgRouteDataInfo) : Bool :=
  if msgData.appId < MsgRouteClientId.allAppId.code ∨ Int32.ofNat maxAppId ≤ msgData.appId then
    false
  else if msgData.msgType < MsgRouteMsgType.base.code ∨
      Int32.ofNat msgRouteMaxMsg ≤ msgData.msgType then
    false
  else
    true

/-- `MSG_ROUTE_HEAD_SIZE + msgData->len`, as it is stored in `dataLen`. -/
def MsgRouteDataInfo.dataLen (msgData : MsgRouteDataInfo) : UInt32 :=
  UInt32.ofNat msgRouteHeadSize + msgData.len

/-- `memcpy(data, msgData, dataLen)` into a block of `dataLen` bytes. -/
def MsgRouteDataInfo.copy (msgData : MsgRouteDataInfo) : List UInt8 :=
  Memory.loadBytes msgData 0 msgData.dataLen.toNat

/-- `MsgRouteCoreHandleMsg`: the table it leaves, and the block it passes to
`ThreadPoolAddJob`, if there is one. -/
def msgRouteCoreHandleMsg (table : ClientInfoTable) (msgData : MsgRouteDataInfo) :
    ClientInfoTable × Option (List UInt8) :=
  if ¬ isMsgRouteValidMsg msgData then
    (table, none)
  else if msgData.msgType = MsgRouteMsgType.subscribe.code then
    (msgRouteCoreUpdateClientSubscribeInfo table msgData true, none)
  else if msgData.msgType = MsgRouteMsgType.unsubscribe.code then
    (msgRouteCoreUpdateClientSubscribeInfo table msgData false, none)
  else
    (table, some msgData.copy)

/-! ## What the checks establish -/

theorem isMsgRouteValidMsg_iff (msgData : MsgRouteDataInfo) :
    isMsgRouteValidMsg msgData = true <->
      (0 ≤ msgData.appId.toInt ∧ msgData.appId.toInt < 3) ∧
      (0 ≤ msgData.msgType.toInt ∧ msgData.msgType.toInt < 7) := by
  have zero : (0 : Int32).toInt = 0 := rfl
  have three : (Int32.ofNat 3).toInt = 3 := rfl
  have seven : (Int32.ofNat 7).toInt = 7 := rfl
  unfold isMsgRouteValidMsg MsgRouteClientId.code MsgRouteMsgType.code maxAppId msgRouteMaxMsg
  simp only [Int32.lt_iff_toInt_lt, Int32.le_iff_toInt_le, zero, three, seven]
  split
  · simp only [Bool.false_eq_true, false_iff]
    omega
  · split
    · simp only [Bool.false_eq_true, false_iff]
      omega
    · simp only [true_iff]
      omega

theorem slotIndex_lt_of_valid {msgData : MsgRouteDataInfo}
    (valid : isMsgRouteValidMsg msgData = true) : msgData.slotIndex < maxAppId := by
  have bounds := (isMsgRouteValidMsg_iff msgData).mp valid
  unfold MsgRouteDataInfo.slotIndex maxAppId
  omega

theorem typeIndex_lt_of_valid {msgData : MsgRouteDataInfo}
    (valid : isMsgRouteValidMsg msgData = true) : msgData.typeIndex < msgRouteMaxMsg := by
  have bounds := (isMsgRouteValidMsg_iff msgData).mp valid
  unfold MsgRouteDataInfo.typeIndex msgRouteMaxMsg
  omega

/-- The sum does not wrap for a message that fits the receive buffer. -/
theorem dataLen_toNat {msgData : MsgRouteDataInfo}
    (small : msgData.len.toNat ≤ msgRouteDataSize) :
    msgData.dataLen.toNat = msgRouteHeadSize + msgData.len.toNat := by
  unfold MsgRouteDataInfo.dataLen msgRouteHeadSize
  unfold msgRouteDataSize at small
  rw [UInt32.toNat_add]
  have head : (UInt32.ofNat 32).toNat = 32 := rfl
  rw [head]
  exact Nat.mod_eq_of_lt (by omega)

/-- Handling reads a message through its header, its first payload byte and the
bytes its length field covers. -/
theorem msgRouteCoreHandleMsg_congr (table : ClientInfoTable) {first second : MsgRouteDataInfo}
    {size : Nat} (same : forall address, address < size -> first address = second address)
    (payload : msgRouteHeadSize < size) (covered : second.dataLen.toNat ≤ size) :
    msgRouteCoreHandleMsg table first = msgRouteCoreHandleMsg table second := by
  unfold msgRouteHeadSize at payload
  have sameApp : first.appId = second.appId :=
    MsgRouteDataInfo.appId_congr same (by omega)
  have sameType : first.msgType = second.msgType :=
    MsgRouteDataInfo.msgType_congr same (by omega)
  have sameSrc : first.src = second.src :=
    MsgRouteDataInfo.src_congr same (by omega)
  have sameLen : first.len = second.len :=
    MsgRouteDataInfo.len_congr same (by omega)
  have sameData : first.data 0 = second.data 0 := same msgRouteHeadSize payload
  have sameValid : isMsgRouteValidMsg first = isMsgRouteValidMsg second := by
    unfold isMsgRouteValidMsg
    rw [sameApp, sameType]
  have sameUpdate : msgRouteCoreUpdateClientSubscribeInfo table first =
      msgRouteCoreUpdateClientSubscribeInfo table second := by
    funext isAdd
    unfold msgRouteCoreUpdateClientSubscribeInfo MsgRouteDataInfo.slotIndex
    rw [sameApp, sameSrc, sameData]
  have sameCopy : first.copy = second.copy := by
    have sameDataLen : first.dataLen = second.dataLen := by
      rw [MsgRouteDataInfo.dataLen, MsgRouteDataInfo.dataLen, sameLen]
    rw [MsgRouteDataInfo.copy, MsgRouteDataInfo.copy, sameDataLen]
    apply Memory.loadBytes_congr
    intro address _ upper
    exact same address (by omega)
  unfold msgRouteCoreHandleMsg
  rw [sameValid, sameType, sameUpdate, sameCopy]

/-- The slots a routing job looks at. -/
def targets (msgData : MsgRouteDataInfo) : List Nat :=
  if msgData.appId = MsgRouteClientId.allAppId.code then List.range maxAppId
  else [msgData.slotIndex]

theorem targets_lt {msgData : MsgRouteDataInfo} (valid : isMsgRouteValidMsg msgData = true)
    {slot : Nat} (member : slot ∈ targets msgData) : slot < maxAppId := by
  unfold targets at member
  split at member
  · exact List.mem_range.mp member
  · rw [List.mem_singleton.mp member]
    exact slotIndex_lt_of_valid valid

end MsgRoute
end V2x
