import V2x.MsgRoute.Client
import V2x.MsgRoute.Delivery

namespace V2x
namespace MsgRoute

open Foundations ThreadPool

/-!
# What becomes of a message on its way

A message is `sendData` for the program that sends it, the bytes of one packet
for the socket, the receive buffer of the server, the block of a job, and again
a packet and a receive buffer.  Five places compute its length.  Here they are
compared for every `len`, and the message in the last buffer is compared with
the first one.
-/

/-- What a program may pass to `MsgRouteClientSendMsg` to have it routed. -/
structure Routable (sendData : MsgRouteDataInfo) : Prop where
  appId : 0 ≤ sendData.appId.toInt ∧ sendData.appId.toInt < maxAppId
  msgType : 0 ≤ sendData.msgType.toInt ∧ sendData.msgType.toInt < msgRouteMaxMsg
  notSubscribe : sendData.msgType ≠ MsgRouteMsgType.subscribe.code
  notUnsubscribe : sendData.msgType ≠ MsgRouteMsgType.unsubscribe.code
  notAnswer : sendData.dataType ≠ MsgRouteDataType.answer.code

/-- The payload fits into a message. -/
def LenFits (sendData : MsgRouteDataInfo) : Prop :=
  1 ≤ sendData.len.toNat ∧ sendData.len.toNat ≤ msgRouteDataSize

/-- What the server has in its buffer, and the descriptor it came from. -/
def receivedPacket (fd connFd : Int32) (sendData : MsgRouteDataInfo) (isBroadcast : Bool) : Packet :=
  ⟨(msgRouteClientSendMsg fd sendData isBroadcast).sendBytes.take recvSize, connFd⟩

/-- The lengths that are computed on the way: what the client sends, what the
server's `recv` returns, the size of the job's block, what the job sends, and
what the client's `recv` returns. -/
structure HopLengths (fd connFd : Int32) (sendData : MsgRouteDataInfo) (isBroadcast : Bool) :
    Prop where
  clientSend : (msgRouteClientSendMsg fd sendData isBroadcast).sendBytes.length =
    msgRouteHeadSize + sendData.len.toNat
  serverRecv : (receivedPacket fd connFd sendData isBroadcast).bytes.length =
    msgRouteHeadSize + sendData.len.toNat
  jobCopy : (packetMsg (receivedPacket fd connFd sendData isBroadcast).bytes connFd).dataLen.toNat =
    msgRouteHeadSize + sendData.len.toNat
  jobSend : (receivedPacket fd connFd sendData isBroadcast).msg.dataLen.toNat =
    msgRouteHeadSize + sendData.len.toNat
  clientRecv : ((receivedPacket fd connFd sendData isBroadcast).routed.take recvSize).length =
    msgRouteHeadSize + sendData.len.toNat

/-- The message that a callback gets for `sendData`. -/
structure Sees (sendData : MsgRouteDataInfo) (isBroadcast : Bool) (connFd : Int32)
    (msgData : MsgRouteDataInfo) (recvByte : Nat) : Prop where
  dataType : msgData.dataType = sendData.dataType
  msgType : msgData.msgType = sendData.msgType
  len : msgData.len = sendData.len
  data : forall index, index < sendData.len.toNat -> msgData.data index = sendData.data index
  timestamp : msgData.timestamp = 0
  seq : msgData.seq = 0
  src : msgData.src = connFd
  appId : msgData.appId =
    if isBroadcast then MsgRouteClientId.allAppId.code else sendData.appId
  count : msgData.len.toNat = recvByte - msgRouteHeadSize

/-! ## The message that is sent -/

section Sent

variable (fd : Int32) (sendData : MsgRouteDataInfo) (isBroadcast : Bool)

@[simp] theorem msgType_sendMsg :
    (msgRouteClientSendMsg fd sendData isBroadcast).msgType = sendData.msgType :=
  Memory.loadInt32_congr _ _ 4
    (fun address _ _ => sendMsg_outside fd sendData isBroadcast address (by omega))

@[simp] theorem len_sendMsg :
    (msgRouteClientSendMsg fd sendData isBroadcast).len = sendData.len :=
  Memory.loadUInt32_congr _ _ 28
    (fun address _ _ => sendMsg_outside fd sendData isBroadcast address (by omega))

@[simp] theorem data_sendMsg (index : Nat) :
    (msgRouteClientSendMsg fd sendData isBroadcast).data index = sendData.data index :=
  sendMsg_outside fd sendData isBroadcast _ (by unfold msgRouteHeadSize; omega)

@[simp] theorem seq_sendCommonMsg : (msgRouteClientSendCommonMsg fd sendData).seq = 0 :=
  Memory.loadInt32_storeInt32_same _ 24 0

@[simp] theorem timestamp_sendCommonMsg : (msgRouteClientSendCommonMsg fd sendData).timestamp = 0 := by
  have behind : forall address, 16 ≤ address -> address < 16 + 8 ->
      msgRouteClientSendCommonMsg fd sendData address =
        ((sendData.setSrc fd).setTimestamp 0) address :=
    fun address _ _ => Memory.storeInt32_outside _ 24 address 0 (by omega)
  exact (Memory.loadUInt64_congr _ _ 16 behind).trans
    (Memory.loadUInt64_storeUInt64_same _ 16 0)

@[simp] theorem appId_sendCommonMsg :
    (msgRouteClientSendCommonMsg fd sendData).appId = sendData.appId :=
  Memory.loadInt32_congr _ _ 12
    (fun address _ _ => sendCommonMsg_outside fd sendData address (by omega))

@[simp] theorem seq_sendMsg : (msgRouteClientSendMsg fd sendData isBroadcast).seq = 0 := by
  cases isBroadcast with
  | true => exact seq_sendCommonMsg _ _
  | false => exact seq_sendCommonMsg _ _

@[simp] theorem timestamp_sendMsg :
    (msgRouteClientSendMsg fd sendData isBroadcast).timestamp = 0 := by
  cases isBroadcast with
  | true => exact timestamp_sendCommonMsg _ _
  | false => exact timestamp_sendCommonMsg _ _

@[simp] theorem appId_sendMsg :
    (msgRouteClientSendMsg fd sendData isBroadcast).appId =
      if isBroadcast then MsgRouteClientId.allAppId.code else sendData.appId := by
  cases isBroadcast with
  | true => exact (appId_sendCommonMsg _ _).trans (Memory.loadInt32_storeInt32_same _ 12 _)
  | false => exact appId_sendCommonMsg _ _

/-- The sum is computed without wrap-around, whatever `len` is. -/
theorem length_sendBytes_sendMsg :
    (msgRouteClientSendMsg fd sendData isBroadcast).sendBytes.length =
      msgRouteHeadSize + sendData.len.toNat := by
  rw [MsgRouteDataInfo.sendBytes, Memory.loadBytes_length, len_sendMsg]

end Sent

/-! ## The packet that is received -/

section Received

variable {fd connFd : Int32} {sendData : MsgRouteDataInfo} {isBroadcast : Bool}

/-- `recv` cuts off what its buffer does not hold. -/
theorem length_receivedPacket (fd connFd : Int32) (sendData : MsgRouteDataInfo) (isBroadcast : Bool) :
    (receivedPacket fd connFd sendData isBroadcast).bytes.length =
      min recvSize (msgRouteHeadSize + sendData.len.toNat) := by
  rw [receivedPacket, List.length_take, length_sendBytes_sendMsg]

/-- What arrives starts like what was sent. -/
theorem header_receivedPacket (fd connFd : Int32) (sendData : MsgRouteDataInfo)
    (isBroadcast : Bool) (address : Nat)
    (inside : address < (receivedPacket fd connFd sendData isBroadcast).bytes.length) :
    (receivedPacket fd connFd sendData isBroadcast).header address =
      msgRouteClientSendMsg fd sendData isBroadcast address := by
  rw [length_receivedPacket] at inside
  have kept : address < recvSize := by omega
  have sent : address < msgRouteHeadSize +
      (msgRouteClientSendMsg fd sendData isBroadcast).len.toNat := by
    rw [len_sendMsg]
    omega
  rw [← Memory.ofBytes_loadBytes (msgRouteClientSendMsg fd sendData isBroadcast) _ address sent]
  change (List.take recvSize _).getD address 0 = List.getD _ address 0
  rw [List.getD_eq_getElem?_getD, List.getD_eq_getElem?_getD, List.getElem?_take_of_lt kept]
  rfl

theorem header_inside (fd connFd : Int32) (sendData : MsgRouteDataInfo) (isBroadcast : Bool) :
    32 ≤ (receivedPacket fd connFd sendData isBroadcast).bytes.length := by
  rw [length_receivedPacket]
  unfold recvSize msgRouteHeadSize
  omega

theorem len_receivedPacket (fd connFd : Int32) (sendData : MsgRouteDataInfo) (isBroadcast : Bool) :
    (receivedPacket fd connFd sendData isBroadcast).header.len = sendData.len :=
  (MsgRouteDataInfo.len_congr (header_receivedPacket fd connFd sendData isBroadcast)
    (header_inside fd connFd sendData isBroadcast)).trans (len_sendMsg _ _ _)

theorem msgType_receivedPacket (fd connFd : Int32) (sendData : MsgRouteDataInfo)
    (isBroadcast : Bool) :
    (receivedPacket fd connFd sendData isBroadcast).header.msgType = sendData.msgType := by
  have inside := header_inside fd connFd sendData isBroadcast
  exact (MsgRouteDataInfo.msgType_congr (header_receivedPacket fd connFd sendData isBroadcast)
    (by omega)).trans (msgType_sendMsg _ _ _)

theorem appId_receivedPacket (fd connFd : Int32) (sendData : MsgRouteDataInfo)
    (isBroadcast : Bool) :
    (receivedPacket fd connFd sendData isBroadcast).header.appId =
      if isBroadcast then MsgRouteClientId.allAppId.code else sendData.appId := by
  have inside := header_inside fd connFd sendData isBroadcast
  exact (MsgRouteDataInfo.appId_congr (header_receivedPacket fd connFd sendData isBroadcast)
    (by omega)).trans (appId_sendMsg _ _ _)

theorem dataType_receivedPacket (fd connFd : Int32) (sendData : MsgRouteDataInfo)
    (isBroadcast : Bool) :
    (receivedPacket fd connFd sendData isBroadcast).header.dataType = sendData.dataType := by
  have inside := header_inside fd connFd sendData isBroadcast
  exact (MsgRouteDataInfo.dataType_congr (header_receivedPacket fd connFd sendData isBroadcast)
    (by omega)).trans (dataType_sendMsg _ _ _)

theorem data_receivedPacket (fd connFd : Int32) (sendData : MsgRouteDataInfo)
    (isBroadcast : Bool) (index : Nat)
    (inside : msgRouteHeadSize + index <
      (receivedPacket fd connFd sendData isBroadcast).bytes.length) :
    (receivedPacket fd connFd sendData isBroadcast).header.data index = sendData.data index :=
  (header_receivedPacket fd connFd sendData isBroadcast _ inside).trans (data_sendMsg _ _ _ index)

/-- A payload that is too long is cut off, and the length in the header shows it. -/
theorem receivedPacket_checked_iff :
    passesLengthChecks (receivedPacket fd connFd sendData isBroadcast).bytes = true <->
      LenFits sendData := by
  have len : MsgRouteDataInfo.len
      (Memory.ofBytes (receivedPacket fd connFd sendData isBroadcast).bytes) = sendData.len :=
    len_receivedPacket fd connFd sendData isBroadcast
  rw [passesLengthChecks_iff, len, length_receivedPacket]
  unfold LenFits recvSize msgRouteHeadSize msgRouteDataSize
  omega

/-- The server routes the message exactly if its payload fits. -/
theorem receivedPacket_routed_iff (routable : Routable sendData) :
    packetKind (receivedPacket fd connFd sendData isBroadcast).bytes = .routed <->
      LenFits sendData := by
  have inside := header_inside fd connFd sendData isBroadcast
  have isType := msgType_receivedPacket fd connFd sendData isBroadcast
  have valid : isMsgRouteValidMsg (receivedPacket fd connFd sendData isBroadcast).header = true := by
    rw [isMsgRouteValidMsg_iff, isType, appId_receivedPacket]
    refine ⟨?_, routable.msgType⟩
    split
    · exact ⟨Int.le_refl 0, by decide⟩
    · exact routable.appId
  have checks : passesLengthChecks (receivedPacket fd connFd sendData isBroadcast).bytes = true <->
      LenFits sendData := receivedPacket_checked_iff
  rw [← checks]
  constructor
  · exact passesLengthChecks_of_routed
  · intro checked
    unfold Packet.header at isType valid
    unfold packetKind
    rw [if_neg (by omega), if_neg (not_not.mpr checked), if_neg (not_not.mpr valid), isType,
      if_neg routable.notSubscribe, if_neg routable.notUnsubscribe]

/-- All five lengths are the same if the payload fits. -/
theorem hopLengths (fits : LenFits sendData) : HopLengths fd connFd sendData isBroadcast := by
  have checked : passesLengthChecks (receivedPacket fd connFd sendData isBroadcast).bytes = true :=
    receivedPacket_checked_iff.mpr fits
  have inside := header_inside fd connFd sendData isBroadcast
  have received : (receivedPacket fd connFd sendData isBroadcast).bytes.length =
      msgRouteHeadSize + sendData.len.toNat := by
    rw [length_receivedPacket]
    unfold LenFits msgRouteDataSize at fits
    unfold recvSize msgRouteHeadSize msgRouteDataSize
    omega
  have copied := dataLen_packetMsg connFd checked
  constructor
  · exact length_sendBytes_sendMsg _ _ _
  · exact received
  · exact copied.trans received
  · have sameLen : (receivedPacket fd connFd sendData isBroadcast).msg.len =
        (packetMsg (receivedPacket fd connFd sendData isBroadcast).bytes connFd).len :=
      MsgRouteDataInfo.len_congr (msg_agrees _) inside
    rw [MsgRouteDataInfo.dataLen, sameLen]
    exact copied.trans received
  · have whole : (receivedPacket fd connFd sendData isBroadcast).routed.length =
        (receivedPacket fd connFd sendData isBroadcast).bytes.length := Memory.loadBytes_length _ _ _
    rw [List.length_take, whole, length_receivedPacket]
    rw [length_receivedPacket] at received
    omega

/-- The receive buffer of the client holds the message with its sender in `src`. -/
theorem buffer_receivedPacket (fits : LenFits sendData) (recvBuf : Memory) (address : Nat)
    (inside : address < msgRouteHeadSize + sendData.len.toNat) :
    recvBuf.storeBytes 0 ((receivedPacket fd connFd sendData isBroadcast).routed.take recvSize)
        address =
      (msgRouteClientSendMsg fd sendData isBroadcast).setSrc connFd address := by
  have lengths : HopLengths fd connFd sendData isBroadcast := hopLengths fits
  have within : address < (receivedPacket fd connFd sendData isBroadcast).bytes.length :=
    lengths.serverRecv ▸ inside
  have whole : (receivedPacket fd connFd sendData isBroadcast).routed.take recvSize =
      (receivedPacket fd connFd sendData isBroadcast).routed := by
    apply List.take_of_length_le
    rw [Packet.routed, routedBytes, Memory.loadBytes_length, length_receivedPacket]
    exact Nat.min_le_left _ _
  have stored := Memory.storeBytes_zero_eq_ofBytes recvBuf
    ((receivedPacket fd connFd sendData isBroadcast).routed.take recvSize) address
    (lengths.clientRecv ▸ inside)
  rw [stored, whole]
  refine (msg_agrees _ address within).trans ?_
  exact Memory.storeBytes_congr 8 _ (header_receivedPacket fd connFd sendData isBroadcast address
    within)

/-- What the callback gets is what was sent, with the fields that the library and
the server fill in. -/
theorem sees_receivedPacket (fits : LenFits sendData) (recvBuf : Memory) :
    let received := (receivedPacket fd connFd sendData isBroadcast).routed.take recvSize
    Sees sendData isBroadcast connFd (recvBuf.storeBytes 0 received) received.length := by
  intro received
  have lengths : HopLengths fd connFd sendData isBroadcast := hopLengths fits
  have agrees : forall address, address < msgRouteHeadSize + sendData.len.toNat ->
      recvBuf.storeBytes 0 received address =
        (msgRouteClientSendMsg fd sendData isBroadcast).setSrc connFd address :=
    buffer_receivedPacket fits recvBuf
  have header : 32 ≤ msgRouteHeadSize + sendData.len.toNat := Nat.le_add_right 32 _
  have len : MsgRouteDataInfo.len (recvBuf.storeBytes 0 received) = sendData.len := by
    rw [MsgRouteDataInfo.len_congr agrees header, MsgRouteDataInfo.len_setSrc, len_sendMsg]
  constructor
  · rw [MsgRouteDataInfo.dataType_congr agrees (by omega), MsgRouteDataInfo.dataType_setSrc,
      dataType_sendMsg]
  · rw [MsgRouteDataInfo.msgType_congr agrees (by omega), MsgRouteDataInfo.msgType_setSrc,
      msgType_sendMsg]
  · exact len
  · intro index inside
    refine (agrees _ (Nat.add_lt_add_left inside _)).trans ?_
    exact (MsgRouteDataInfo.data_setSrc _ _ index).trans (data_sendMsg _ _ _ index)
  · rw [MsgRouteDataInfo.timestamp_congr agrees (by omega), MsgRouteDataInfo.timestamp_setSrc,
      timestamp_sendMsg]
  · rw [MsgRouteDataInfo.seq_congr agrees (by omega), MsgRouteDataInfo.seq_setSrc, seq_sendMsg]
  · rw [MsgRouteDataInfo.src_congr agrees (by omega), MsgRouteDataInfo.src_setSrc]
  · rw [MsgRouteDataInfo.appId_congr agrees (by omega), MsgRouteDataInfo.appId_setSrc, appId_sendMsg]
  · rw [len, lengths.clientRecv, Nat.add_sub_cancel_left]

end Received

end MsgRoute
end V2x
