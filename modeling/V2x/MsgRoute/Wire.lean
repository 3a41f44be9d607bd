import V2x.Foundations.ByteMemory

namespace V2x
namespace MsgRoute

open Foundations

/-!
# Messages on the wire

`msg_route_comm.h` fixes the identifiers of applications, data types and
message types, and the layout of a message: a header of 32 bytes followed by
`len` payload bytes.  The programs cast a byte buffer to `MsgRouteDataInfo *`
and read the fields in place, so a message is a byte memory here and a field
is the word at its offset.  Offsets and byte order are those of the 64-bit
little-endian target the makefiles build for.

An enumerator has a constructor and the code that is stored in a header.  A
header field itself is an arbitrary 32-bit integer.
-/

/-- `MsgRouteClientId` without its end marker. -/
inductive MsgRouteClientId where
  | allAppId
  | v2xAppId
  | gnssAppId
deriving DecidableEq, Repr

def MsgRouteClientId.code : MsgRouteClientId -> Int32
  | allAppId => 0
  | v2xAppId => 1
  | gnssAppId => 2

/-- `MAX_APP_ID`. -/
def maxAppId : Nat := 3

inductive MsgRouteDataType where
  | notify
  | needResp
  | answer
deriving DecidableEq, Repr

def MsgRouteDataType.code : MsgRouteDataType -> Int32
  | notify => 0
  | needResp => 1
  | answer => 2

/-- `MsgRouteMsgType` without its end marker. -/
inductive MsgRouteMsgType where
  | base
  | subscribe
  | unsubscribe
  | v2xHv
  | v2xRv
  | v2xTa
  | gnss
deriving DecidableEq, Repr

def MsgRouteMsgType.code : MsgRouteMsgType -> Int32
  | base => 0
  | subscribe => 1
  | unsubscribe => 2
  | v2xHv => 3
  | v2xRv => 4
  | v2xTa => 5
  | gnss => 6

/-- `MSG_ROUTE_MAX_MSG`. -/
def msgRouteMaxMsg : Nat := 7

/-- `MSG_ROUTE_HEAD_SIZE`, the size of `MsgRouteDataInfo`. -/
def msgRouteHeadSize : Nat := 32

/-- `MSG_ROUTE_DATA_SIZE`. -/
def msgRouteDataSize : Nat := 4096

/-- The bytes a `MsgRouteDataInfo *` points to. -/
abbrev MsgRouteDataInfo := Memory

namespace MsgRouteDataInfo

def dataType (msg : MsgRouteDataInfo) : Int32 := Memory.loadInt32 msg 0
def msgType (msg : MsgRouteDataInfo) : Int32 := Memory.loadInt32 msg 4
def src (msg : MsgRouteDataInfo) : Int32 := Memory.loadInt32 msg 8
def appId (msg : MsgRouteDataInfo) : Int32 := Memory.loadInt32 msg 12
def timestamp (msg : MsgRouteDataInfo) : UInt64 := Memory.loadUInt64 msg 16
def seq (msg : MsgRouteDataInfo) : Int32 := Memory.loadInt32 msg 24
def len (msg : MsgRouteDataInfo) : UInt32 := Memory.loadUInt32 msg 28
def data (msg : MsgRouteDataInfo) (index : Nat) : UInt8 := msg (msgRouteHeadSize + index)

def setDataType (msg : MsgRouteDataInfo) (value : Int32) : MsgRouteDataInfo :=
  Memory.storeInt32 msg 0 value

def setMsgType (msg : MsgRouteDataInfo) (value : Int32) : MsgRouteDataInfo :=
  Memory.storeInt32 msg 4 value

def setSrc (msg : MsgRouteDataInfo) (value : Int32) : MsgRouteDataInfo :=
  Memory.storeInt32 msg 8 value

def setAppId (msg : MsgRouteDataInfo) (value : Int32) : MsgRouteDataInfo :=
  Memory.storeInt32 msg 12 value

def setTimestamp (msg : MsgRouteDataInfo) (value : UInt64) : MsgRouteDataInfo :=
  Memory.storeUInt64 msg 16 value

def setSeq (msg : MsgRouteDataInfo) (value : Int32) : MsgRouteDataInfo :=
  Memory.storeInt32 msg 24 value

def setLen (msg : MsgRouteDataInfo) (value : UInt32) : MsgRouteDataInfo :=
  Memory.storeUInt32 msg 28 value

def setData (msg : MsgRouteDataInfo) (index : Nat) (value : UInt8) : MsgRouteDataInfo :=
  Memory.storeBytes msg (msgRouteHeadSize + index) [value]

/-- The array index a valid `appId` stands for. -/
def slotIndex (msg : MsgRouteDataInfo) : Nat := msg.appId.toInt.toNat

/-- The array index a valid `msgType` stands for. -/
def typeIndex (msg : MsgRouteDataInfo) : Nat := msg.msgType.toInt.toNat

/-! ## Fields of messages that agree -/

section Agreement

variable {first second : MsgRouteDataInfo} {size : Nat}

theorem dataType_congr (same : forall address, address < size -> first address = second address)
    (header : 4 ≤ size) : first.dataType = second.dataType :=
  Memory.loadInt32_congr first second 0 (fun address _ upper => same address (by omega))

theorem msgType_congr (same : forall address, address < size -> first address = second address)
    (header : 8 ≤ size) : first.msgType = second.msgType :=
  Memory.loadInt32_congr first second 4 (fun address _ upper => same address (by omega))

theorem src_congr (same : forall address, address < size -> first address = second address)
    (header : 12 ≤ size) : first.src = second.src :=
  Memory.loadInt32_congr first second 8 (fun address _ upper => same address (by omega))

theorem appId_congr (same : forall address, address < size -> first address = second address)
    (header : 16 ≤ size) : first.appId = second.appId :=
  Memory.loadInt32_congr first second 12 (fun address _ upper => same address (by omega))

theorem timestamp_congr (same : forall address, address < size -> first address = second address)
    (header : 24 ≤ size) : first.timestamp = second.timestamp :=
  Memory.loadUInt64_congr first second 16 (fun address _ upper => same address (by omega))

theorem seq_congr (same : forall address, address < size -> first address = second address)
    (header : 28 ≤ size) : first.seq = second.seq :=
  Memory.loadInt32_congr first second 24 (fun address _ upper => same address (by omega))

theorem len_congr (same : forall address, address < size -> first address = second address)
    (header : 32 ≤ size) : first.len = second.len :=
  Memory.loadUInt32_congr first second 28 (fun address _ upper => same address (by omega))

end Agreement

/-! ## Writing one header field -/

theorem setSrc_outside (msg : MsgRouteDataInfo) (value : Int32) (address : Nat)
    (outside : address < 8 ∨ 12 ≤ address) : msg.setSrc value address = msg address :=
  Memory.storeInt32_outside msg 8 address value outside

@[simp] theorem src_setSrc (msg : MsgRouteDataInfo) (value : Int32) :
    (msg.setSrc value).src = value :=
  Memory.loadInt32_storeInt32_same msg 8 value

@[simp] theorem dataType_setSrc (msg : MsgRouteDataInfo) (value : Int32) :
    (msg.setSrc value).dataType = msg.dataType :=
  Memory.loadInt32_congr _ _ 0 (fun address _ _ => setSrc_outside msg value address (by omega))

@[simp] theorem msgType_setSrc (msg : MsgRouteDataInfo) (value : Int32) :
    (msg.setSrc value).msgType = msg.msgType :=
  Memory.loadInt32_congr _ _ 4 (fun address _ _ => setSrc_outside msg value address (by omega))

@[simp] theorem appId_setSrc (msg : MsgRouteDataInfo) (value : Int32) :
    (msg.setSrc value).appId = msg.appId :=
  Memory.loadInt32_congr _ _ 12 (fun address _ _ => setSrc_outside msg value address (by omega))

@[simp] theorem timestamp_setSrc (msg : MsgRouteDataInfo) (value : Int32) :
    (msg.setSrc value).timestamp = msg.timestamp :=
  Memory.loadUInt64_congr _ _ 16 (fun address _ _ => setSrc_outside msg value address (by omega))

@[simp] theorem seq_setSrc (msg : MsgRouteDataInfo) (value : Int32) :
    (msg.setSrc value).seq = msg.seq :=
  Memory.loadInt32_congr _ _ 24 (fun address _ _ => setSrc_outside msg value address (by omega))

@[simp] theorem len_setSrc (msg : MsgRouteDataInfo) (value : Int32) :
    (msg.setSrc value).len = msg.len :=
  Memory.loadUInt32_congr _ _ 28 (fun address _ _ => setSrc_outside msg value address (by omega))

@[simp] theorem data_setSrc (msg : MsgRouteDataInfo) (value : Int32) (index : Nat) :
    (msg.setSrc value).data index = msg.data index :=
  setSrc_outside msg value _ (by unfold msgRouteHeadSize; omega)

end MsgRouteDataInfo
end MsgRoute
end V2x
