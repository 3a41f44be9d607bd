import V2x.MsgRoute.Server

namespace V2x
namespace MsgRoute

open Foundations

/-!
# The client library `msg_route_client.c`

A process has one copy of the library's static variables.  The functions here
say what the library does between its system calls: what it passes to `send`,
what it stores in `g_subscribeInfo` afterwards, and which callback the receive
thread calls for the bytes in its buffer.
-/

/-- `MsgRouteClientCallback`.  What a callback does is up to the program; here
it only matters which one is called. -/
abbrev MsgRouteClientCallback := Nat

structure MsgRouteClientSubscribeInfo where
  msgType : Int32
  rxFunc : Option MsgRouteClientCallback
deriving DecidableEq, Repr

/-- The static variables of the library. -/
structure ClientVars where
  subscribeInfo : Nat -> MsgRouteClientSubscribeInfo
  isInit : Bool
  fd : Int32
  isRunning : Bool
  curAppId : Int32

/-- The variables before the first call. -/
def clientStatics : ClientVars where
  subscribeInfo := fun _ => ⟨0, none⟩
  isInit := false
  fd := -1
  isRunning := false
  curAppId := MsgRouteClientId.allAppId.code

/-! ## Opening and closing the connection -/

/-- What a call of `MsgRouteClientInit` leaves.  `connected` stands for a new
connection, `started` for a new receive thread. -/
structure ClientInitResult where
  vars : ClientVars
  ret : Int
  connected : Bool
  started : Bool

/-- `MsgRouteClientInit`.  `created` is the descriptor that `MsgRouteClientCreate`
has connected, and `threadRet` the value of `pthread_create`. -/
def msgRouteClientInit (vars : ClientVars) (appId : Int32) (created : Option Int32)
    (threadRet : Int) : ClientInitResult :=
  if appId ≤ MsgRouteClientId.allAppId.code ∨ Int32.ofNat maxAppId ≤ appId then
    ⟨vars, -1, false, false⟩
  else if vars.isInit then ⟨vars, 0, false, false⟩
  else
    match created with
    | none => ⟨vars, -1, false, false⟩
    | some fd =>
        let vars := { vars with fd := fd, isRunning := true }
        if threadRet ≠ 0 then ⟨vars, threadRet, true, false⟩
        else ⟨{ vars with curAppId := appId }, 0, true, true⟩

/-- `MsgRouteClientDeinit`, after `close(g_fd)`. -/
def msgRouteClientDeinit (vars : ClientVars) : ClientVars :=
  { vars with
    isRunning := false
    fd := -1
    isInit := false
    curAppId := MsgRouteClientId.allAppId.code }

/-! ## Sending -/

/-- `MsgRouteClientSendCommonMsg`: the message as it is passed to `send`. -/
def msgRouteClientSendCommonMsg (fd : Int32) (sendData : MsgRouteDataInfo) : MsgRouteDataInfo :=
  ((sendData.setSrc fd).setTimestamp 0).setSeq 0

/-- `MsgRouteClientSendMsg`. -/
def msgRouteClientSendMsg (fd : Int32) (sendData : MsgRouteDataInfo) (isBroadcast : Bool) :
    MsgRouteDataInfo :=
  if isBroadcast then
    msgRouteClientSendCommonMsg fd (sendData.setAppId MsgRouteClientId.allAppId.code)
  else msgRouteClientSendCommonMsg fd sendData

/-- The `MSG_ROUTE_HEAD_SIZE + sendData->len` bytes that `send` takes.  The sum
is computed in `size_t`. -/
def MsgRouteDataInfo.sendBytes (sendData : MsgRouteDataInfo) : List UInt8 :=
  Memory.loadBytes sendData 0 (msgRouteHeadSize + sendData.len.toNat)

/-- A call of `MsgRouteClientSubscribeMsg` or `MsgRouteClientUnsubscribeMsg` that
passes its checks: the message it sends and the entry it stores afterwards. -/
structure ControlCall where
  sendData : MsgRouteDataInfo
  index : Nat
  entry : MsgRouteClientSubscribeInfo

/-- The message that both functions build in `sendBuf`. -/
def controlMessage (sendBuf : MsgRouteDataInfo) (curAppId : Int32) (control : MsgRouteMsgType)
    (msgType : Int32) : MsgRouteDataInfo :=
  ((((sendBuf.setDataType MsgRouteDataType.notify.code).setMsgType control.code).setAppId
    curAppId).setLen 1).setData 0 msgType.toUInt32.toUInt8

/-- The range check on message types. -/
def isMsgType (msgType : Int32) : Bool :=
  MsgRouteMsgType.base.code ≤ msgType && msgType < Int32.ofNat msgRouteMaxMsg

/-- `MsgRouteClientSubscribeMsg`. -/
def msgRouteClientSubscribeMsg (vars : ClientVars) (sendBuf : MsgRouteDataInfo)
    (subscribeInfo : MsgRouteClientSubscribeInfo) : Option ControlCall :=
  if ¬ isMsgType subscribeInfo.msgType then none
  else if subscribeInfo.rxFunc.isNone then none
  else
    some {
      sendData := controlMessage sendBuf vars.curAppId .subscribe subscribeInfo.msgType
      index := subscribeInfo.msgType.toInt.toNat
      entry := ⟨subscribeInfo.msgType, subscribeInfo.rxFunc⟩ }

/-- `MsgRouteClientUnsubscribeMsg`. -/
def msgRouteClientUnsubscribeMsg (vars : ClientVars) (sendBuf : MsgRouteDataInfo)
    (subscribeInfo : MsgRouteClientSubscribeInfo) : Option ControlCall :=
  if ¬ isMsgType subscribeInfo.msgType then none
  else
    some {
      sendData := controlMessage sendBuf vars.curAppId .unsubscribe subscribeInfo.msgType
      index := subscribeInfo.msgType.toInt.toNat
      entry := ⟨MsgRouteMsgType.base.code, none⟩ }

/-- The section under `g_subscribeInfoLock` after the `send`. -/
def ClientVars.store (vars : ClientVars) (call : ControlCall) : ClientVars :=
  { vars with subscribeInfo := Function.update vars.subscribeInfo call.index call.entry }

/-! ## Receiving -/

/-- The callback that `MsgRouteClientRxThread` calls for the `recvByte` bytes in
its buffer. -/
def msgRouteClientRx (vars : ClientVars) (msgData : MsgRouteDataInfo) (recvByte : Nat) :
    Option MsgRouteClientCallback :=
  if recvSize < recvByte ∨ recvByte ≤ msgRouteHeadSize then none
  else if ¬ isMsgType msgData.msgType then none
  else
    let subscribeInfo := vars.subscribeInfo msgData.typeIndex
    if subscribeInfo.msgType = msgData.msgType then subscribeInfo.rxFunc else none

theorem isMsgType_iff (msgType : Int32) :
    isMsgType msgType = true <-> 0 ≤ msgType.toInt ∧ msgType.toInt < 7 := by
  have zero : (0 : Int32).toInt = 0 := rfl
  have seven : (Int32.ofNat 7).toInt = 7 := rfl
  unfold isMsgType MsgRouteMsgType.code msgRouteMaxMsg
  rw [Bool.and_eq_true, decide_eq_true_iff, decide_eq_true_iff, Int32.le_iff_toInt_le,
    Int32.lt_iff_toInt_lt, zero, seven]

/-! ## What is sent on the wire -/

theorem sendCommonMsg_outside (fd : Int32) (sendData : MsgRouteDataInfo) (address : Nat)
    (outside : address < 8 ∨ 12 ≤ address ∧ address < 16 ∨ 28 ≤ address) :
    msgRouteClientSendCommonMsg fd sendData address = sendData address := by
  unfold msgRouteClientSendCommonMsg MsgRouteDataInfo.setSeq MsgRouteDataInfo.setTimestamp
  rw [Memory.storeInt32_outside _ _ _ _ (by omega), Memory.storeUInt64_outside _ _ _ _ (by omega),
    MsgRouteDataInfo.setSrc_outside _ _ _ (by omega)]

/-- The library leaves types, length and payload to the program. -/
theorem sendMsg_outside (fd : Int32) (sendData : MsgRouteDataInfo) (isBroadcast : Bool)
    (address : Nat) (outside : address < 8 ∨ 28 ≤ address) :
    msgRouteClientSendMsg fd sendData isBroadcast address = sendData address := by
  unfold msgRouteClientSendMsg
  split
  · rw [sendCommonMsg_outside _ _ _ (by omega)]
    exact Memory.storeInt32_outside _ _ _ _ (by omega)
  · exact sendCommonMsg_outside _ _ _ (by omega)

@[simp] theorem dataType_sendMsg (fd : Int32) (sendData : MsgRouteDataInfo) (isBroadcast : Bool) :
    (msgRouteClientSendMsg fd sendData isBroadcast).dataType = sendData.dataType :=
  Memory.loadInt32_congr _ _ 0
    (fun address _ _ => sendMsg_outside fd sendData isBroadcast address (by omega))

/-- A packet that is longer than its header keeps the data type. -/
theorem dataType_received {sendData : MsgRouteDataInfo} (size : Nat)
    (long : msgRouteHeadSize < (sendData.sendBytes.take size).length) :
    MsgRouteDataInfo.dataType (Memory.ofBytes (sendData.sendBytes.take size)) =
      sendData.dataType := by
  rw [List.length_take] at long
  have whole : sendData.sendBytes.length = msgRouteHeadSize + sendData.len.toNat :=
    Memory.loadBytes_length _ _ _
  have header : 4 ≤ msgRouteHeadSize := by decide
  apply MsgRouteDataInfo.dataType_congr ?_ header
  intro address below
  have short : address < size := by omega
  have inside : address < sendData.sendBytes.length := by omega
  have same : Memory.ofBytes (sendData.sendBytes.take size) address =
      Memory.ofBytes sendData.sendBytes address := by
    rw [Memory.ofBytes, Memory.ofBytes, List.getD_eq_getElem?_getD, List.getD_eq_getElem?_getD,
      List.getElem?_take_of_lt short]
  rw [same]
  exact Memory.ofBytes_loadBytes _ _ _ (whole ▸ inside)

end MsgRoute
end V2x
