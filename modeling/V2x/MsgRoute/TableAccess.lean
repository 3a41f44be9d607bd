import V2x.MsgRoute.Server

namespace V2x
namespace MsgRoute

open Foundations

/-!
# Which elements of the table a packet touches

`TableAccess` names one element of `g_clientInfo` that a function reads or
writes.  The lists of accesses say nothing about values.  They are tied to the
functions by `packet_writes`: every byte of the table that a packet changes
belongs to an element that its list writes.

The indices come from the sender.  `appId` and `msgType` are checked, the
payload byte of a control packet is not.
-/

/-- One element of the table that a function reads or writes. -/
inductive TableAccess where
  | readFd (slot : Nat)
  | writeFd (slot : Nat)
  | readMsgFlag (slot type : Nat)
  | writeMsgFlag (slot type : Nat)
deriving DecidableEq, Repr

/-- The indices lie inside the declared arrays. -/
def TableAccess.InBounds : TableAccess -> Prop
  | .readFd slot => slot < maxAppId
  | .writeFd slot => slot < maxAppId
  | .readMsgFlag slot type => slot < maxAppId ∧ type < msgRouteMaxMsg
  | .writeMsgFlag slot type => slot < maxAppId ∧ type < msgRouteMaxMsg

/-- The bytes an access may write. -/
def TableAccess.Writes : TableAccess -> Nat -> Prop
  | .readFd _, _ => False
  | .writeFd slot, address =>
      ClientInfoTable.fdOffset slot ≤ address ∧ address < ClientInfoTable.fdOffset slot + 4
  | .readMsgFlag _ _, _ => False
  | .writeMsgFlag slot type, address => address = ClientInfoTable.msgFlagOffset slot type

/-- The accesses of `MsgRouteCoreUpdateClientSubscribeInfo`. -/
def updateAccesses (table : ClientInfoTable) (msgData : MsgRouteDataInfo) : List TableAccess :=
  .readFd msgData.slotIndex ::
    ((if table.fd msgData.slotIndex = -1 then [.writeFd msgData.slotIndex] else []) ++
      [.writeMsgFlag msgData.slotIndex (msgData.data 0).toNat])

/-- The accesses of `MsgRouteCoreJobFunc`.  A reply is sent to the descriptor in
the message and looks at no slot. -/
def jobAccesses (msgData : MsgRouteDataInfo) : List TableAccess :=
  if msgData.dataType = MsgRouteDataType.answer.code then []
  else (targets msgData).flatMap (fun slot =>
    [.readFd slot, .readMsgFlag slot msgData.typeIndex, .readFd slot])

/-- The accesses of the erasing loop. -/
def eraseFirstAccesses (fd : Int32) (table : ClientInfoTable) : List Nat -> List TableAccess
  | [] => []
  | index :: rest =>
      .readFd index ::
        (if table.fd index = fd then
          .writeFd index :: (List.range msgRouteMaxMsg).map (.writeMsgFlag index)
        else eraseFirstAccesses fd table rest)

/-- The accesses of `MsgRouteCoreEraseClientInfo`. -/
def eraseAccesses (table : ClientInfoTable) (fd : Int32) : List TableAccess :=
  if fd = -1 then [] else eraseFirstAccesses fd table (List.range maxAppId)

/-- The accesses that handling a packet makes, its routing job included. -/
def packetAccesses (table : ClientInfoTable) (bytes : List UInt8) (clientFd : Int32) :
    List TableAccess :=
  match packetKind bytes with
  | .disconnect => eraseAccesses table clientFd
  | .dropped => []
  | .control _ => updateAccesses table (packetMsg bytes clientFd)
  | .routed => jobAccesses (packetMsg bytes clientFd)

/-! ## The lists are complete for writes -/

/-- The list of accesses of an update is complete for writes. -/
theorem update_writes (table : ClientInfoTable) (msgData : MsgRouteDataInfo) (isAdd : Bool)
    (address : Nat)
    (changed : msgRouteCoreUpdateClientSubscribeInfo table msgData isAdd address ≠ table address) :
    Exists fun access => access ∈ updateAccesses table msgData ∧ access.Writes address := by
  by_cases atFlag : address =
      ClientInfoTable.msgFlagOffset msgData.slotIndex (msgData.data 0).toNat
  · refine ⟨_, List.mem_cons_of_mem _ (List.mem_append_right _ List.mem_cons_self), atFlag⟩
  · unfold msgRouteCoreUpdateClientSubscribeInfo at changed
    rw [ClientInfoTable.setMsgFlag_outside _ _ _ _ _ atFlag] at changed
    by_cases free : table.fd msgData.slotIndex = -1
    · rw [if_pos free] at changed
      refine ⟨.writeFd msgData.slotIndex, ?_, ?_⟩
      · unfold updateAccesses
        rw [if_pos free]
        exact List.mem_cons_of_mem _ List.mem_cons_self
      · by_contra outside
        apply changed
        apply ClientInfoTable.setFd_outside
        unfold TableAccess.Writes at outside
        omega
    · rw [if_neg free] at changed
      exact absurd rfl changed

/-- The list of accesses of a slot's reset is complete for writes. -/
theorem resetSlot_writes (table : ClientInfoTable) (index address : Nat)
    (changed : resetSlot table index address ≠ table address) :
    Exists fun access =>
      access ∈ TableAccess.writeFd index ::
        (List.range msgRouteMaxMsg).map (TableAccess.writeMsgFlag index) ∧
      access.Writes address := by
  have inside : ¬ (address < ClientInfoTable.fdOffset index ∨
      ClientInfoTable.msgFlagOffset index msgRouteMaxMsg ≤ address) :=
    fun outside => changed (resetSlot_outside table index address outside)
  unfold ClientInfoTable.msgFlagOffset ClientInfoTable.fdOffset at inside
  by_cases atFd : address < clientInfoSize * index + 4
  · refine ⟨.writeFd index, List.mem_cons_self, ?_⟩
    unfold TableAccess.Writes ClientInfoTable.fdOffset
    omega
  · refine ⟨.writeMsgFlag index (address - (clientInfoSize * index + 4)), ?_, ?_⟩
    · apply List.mem_cons_of_mem
      apply List.mem_map_of_mem
      exact List.mem_range.mpr (by omega)
    · unfold TableAccess.Writes ClientInfoTable.msgFlagOffset
      omega

theorem eraseFirst_writes (fd : Int32) (table : ClientInfoTable) (slots : List Nat) (address : Nat)
    (changed : eraseFirst fd table slots address ≠ table address) :
    Exists fun access => access ∈ eraseFirstAccesses fd table slots ∧ access.Writes address := by
  induction slots with
  | nil => exact absurd rfl changed
  | cons index rest inductionHypothesis =>
      rw [eraseFirst] at changed
      rw [eraseFirstAccesses]
      by_cases found : table.fd index = fd
      · rw [if_pos found] at changed ⊢
        rcases resetSlot_writes table index address changed with ⟨access, member, writes⟩
        exact ⟨access, List.mem_cons_of_mem _ member, writes⟩
      · rw [if_neg found] at changed ⊢
        rcases inductionHypothesis changed with ⟨access, member, writes⟩
        exact ⟨access, List.mem_cons_of_mem _ member, writes⟩

/-- Every byte of the table that a packet changes belongs to an element that
its list of accesses writes. -/
theorem packet_writes (table : ClientInfoTable) (bytes : List UInt8) (clientFd : Int32)
    (address : Nat)
    (changed : (packetKind bytes).table table bytes clientFd address ≠ table address) :
    Exists fun access => access ∈ packetAccesses table bytes clientFd ∧ access.Writes address := by
  unfold packetAccesses
  cases kind : packetKind bytes with
  | disconnect =>
      rw [kind] at changed
      change msgRouteCoreEraseClientInfo table clientFd address ≠ _ at changed
      change Exists fun access => access ∈ eraseAccesses table clientFd ∧ access.Writes address
      unfold msgRouteCoreEraseClientInfo at changed
      unfold eraseAccesses
      by_cases invalid : clientFd = -1
      · rw [if_pos invalid] at changed
        exact absurd rfl changed
      · rw [if_neg invalid] at changed ⊢
        exact eraseFirst_writes clientFd table _ address changed
  | dropped =>
      rw [kind] at changed
      exact absurd rfl changed
  | control isAdd =>
      rw [kind] at changed
      exact update_writes table (packetMsg bytes clientFd) isAdd address changed
  | routed =>
      rw [kind] at changed
      exact absurd rfl changed

/-! ## Bounds -/

/-- A routing job stays inside the table. -/
theorem jobAccesses_inBounds {msgData : MsgRouteDataInfo}
    (valid : isMsgRouteValidMsg msgData = true) {access : TableAccess}
    (member : access ∈ jobAccesses msgData) : access.InBounds := by
  unfold jobAccesses at member
  split at member
  · cases member
  · rcases List.mem_flatMap.mp member with ⟨slot, target, one⟩
    have inside := targets_lt valid target
    simp only [List.mem_cons, List.not_mem_nil, or_false] at one
    rcases one with rfl | rfl | rfl
    · exact inside
    · exact ⟨inside, typeIndex_lt_of_valid valid⟩
    · exact inside

/-- An update stays inside the table exactly if its payload byte does. -/
theorem updateAccesses_inBounds_iff (table : ClientInfoTable) {msgData : MsgRouteDataInfo}
    (valid : isMsgRouteValidMsg msgData = true) :
    (forall access, access ∈ updateAccesses table msgData -> access.InBounds) <->
      (msgData.data 0).toNat < msgRouteMaxMsg := by
  have inside := slotIndex_lt_of_valid valid
  constructor
  · intro all
    exact (all _ (List.mem_cons_of_mem _ (List.mem_append_right _ List.mem_cons_self))).2
  · intro small access member
    unfold updateAccesses at member
    simp only [List.mem_cons, List.mem_append, List.not_mem_nil, or_false] at member
    rcases member with rfl | conditional | rfl
    · exact inside
    · split at conditional
      · rw [List.mem_singleton.mp conditional]
        exact inside
      · cases conditional
    · exact ⟨inside, small⟩

theorem eraseFirstAccesses_inBounds (fd : Int32) (table : ClientInfoTable) (slots : List Nat)
    (inside : forall index, index ∈ slots -> index < maxAppId) {access : TableAccess}
    (member : access ∈ eraseFirstAccesses fd table slots) : access.InBounds := by
  induction slots with
  | nil => cases member
  | cons index rest inductionHypothesis =>
      have here := inside index List.mem_cons_self
      rw [eraseFirstAccesses] at member
      rcases List.mem_cons.mp member with rfl | later
      · exact here
      · split at later
        · rcases List.mem_cons.mp later with rfl | flag
          · exact here
          · rcases List.mem_map.mp flag with ⟨type, small, rfl⟩
            exact ⟨here, List.mem_range.mp small⟩
        · exact inductionHypothesis
            (fun other rests => inside other (List.mem_cons_of_mem _ rests)) later

/-- The payload byte of a control packet is a type. -/
def ControlTypeInRange (bytes : List UInt8) : Prop :=
  forall isAdd, packetKind bytes = .control isAdd -> packetType bytes < msgRouteMaxMsg

theorem packetAccesses_inBounds_iff (table : ClientInfoTable) (bytes : List UInt8)
    (clientFd : Int32) :
    (forall access, access ∈ packetAccesses table bytes clientFd -> access.InBounds) <->
      ControlTypeInRange bytes := by
  unfold packetAccesses ControlTypeInRange
  cases kind : packetKind bytes with
  | disconnect =>
      refine iff_of_true ?_ (fun isAdd control => by cases control)
      intro access member
      change access ∈ eraseAccesses table clientFd at member
      unfold eraseAccesses at member
      split at member
      · cases member
      · exact eraseFirstAccesses_inBounds clientFd table _ (fun _ => List.mem_range.mp) member
  | dropped =>
      exact iff_of_true (fun _ member => absurd member List.not_mem_nil)
        (fun isAdd control => by cases control)
  | control isAdd =>
      have valid := isMsgRouteValidMsg_of_kind clientFd (by rw [kind]; exact ⟨nofun, nofun⟩)
      have decided := updateAccesses_inBounds_iff table valid
      rw [packetType_eq] at decided
      refine decided.trans ⟨fun small _ _ => small, fun small => small isAdd rfl⟩
  | routed =>
      have valid := isMsgRouteValidMsg_of_kind clientFd (by rw [kind]; exact ⟨nofun, nofun⟩)
      exact iff_of_true (fun _ member => jobAccesses_inBounds valid member)
        (fun isAdd control => by cases control)

/-! ## Only the named slot changes -/

/-- Nothing outside a slot of the table changed. -/
def ChangesOnlySlot (before after : ClientInfoTable) (slot : Nat) : Prop :=
  slot < maxAppId ∧ forall address,
    address < ClientInfoTable.fdOffset slot ∨
      ClientInfoTable.msgFlagOffset slot msgRouteMaxMsg ≤ address ->
    after address = before address

/-- Handling what `recv` returned leaves the table alone or changes one slot of
it, the one the packet names, and touches no element outside the arrays. -/
structure StaysInTable (clientInfo : ClientInfoTable) (recvBuf : Memory) (clientFd : Int32)
    (sent : List UInt8) : Prop where
  oneSlot :
    (msgRouteServerHandleMsg clientInfo recvBuf clientFd (.packet sent)).clientInfo = clientInfo ∨
    Exists fun slot =>
      ChangesOnlySlot clientInfo
        (msgRouteServerHandleMsg clientInfo recvBuf clientFd (.packet sent)).clientInfo slot ∧
      (sent ≠ [] -> slot = packetSlot (sent.take recvSize))
  inBounds : forall access, access ∈ packetAccesses clientInfo (sent.take recvSize) clientFd ->
    access.InBounds

theorem erase_changesOnlySlot (table : ClientInfoTable) (fd : Int32) :
    msgRouteCoreEraseClientInfo table fd = table ∨
      Exists fun slot => ChangesOnlySlot table (msgRouteCoreEraseClientInfo table fd) slot := by
  by_cases invalid : fd = -1
  · exact Or.inl (if_pos invalid)
  · rcases firstSlot_cases table.view fd with absent | ⟨app, first⟩
    · exact Or.inl (view_msgRouteCoreEraseClientInfo_absent table fd absent)
    · refine Or.inr ⟨app, app.isLt, ?_⟩
      rw [msgRouteCoreEraseClientInfo_found table fd app invalid first]
      exact resetSlot_outside table app

theorem update_changesOnlySlot (table : ClientInfoTable) {msgData : MsgRouteDataInfo} (isAdd : Bool)
    (valid : isMsgRouteValidMsg msgData = true) (small : (msgData.data 0).toNat < msgRouteMaxMsg) :
    ChangesOnlySlot table (msgRouteCoreUpdateClientSubscribeInfo table msgData isAdd)
      msgData.slotIndex := by
  refine ⟨slotIndex_lt_of_valid valid, ?_⟩
  intro address outside
  by_contra changed
  rcases update_writes table msgData isAdd address changed with ⟨access, member, writes⟩
  unfold updateAccesses at member
  simp only [List.mem_cons, List.mem_append, List.not_mem_nil, or_false] at member
  unfold ClientInfoTable.msgFlagOffset ClientInfoTable.fdOffset at outside
  rcases member with rfl | conditional | rfl
  · exact writes
  · split at conditional
    · rw [List.mem_singleton.mp conditional] at writes
      unfold TableAccess.Writes ClientInfoTable.fdOffset at writes
      omega
    · cases conditional
  · unfold TableAccess.Writes ClientInfoTable.msgFlagOffset at writes
    omega

/-- For every delivered byte string and every table, handling stays in the
table exactly if it is not a control packet whose payload byte is too large. -/
theorem staysInTable_iff (clientInfo : ClientInfoTable) (recvBuf : Memory) (clientFd : Int32)
    (sent : List UInt8) :
    StaysInTable clientInfo recvBuf clientFd sent <-> ControlTypeInRange (sent.take recvSize) := by
  have bounds := packetAccesses_inBounds_iff clientInfo (sent.take recvSize) clientFd
  constructor
  · intro stays
    exact bounds.mp stays.inBounds
  · intro inRange
    refine ⟨?_, bounds.mpr inRange⟩
    have effect := msgRouteServerHandleMsg_packet clientInfo recvBuf clientFd sent
    dsimp only at effect
    rw [effect.1]
    cases kind : packetKind (sent.take recvSize) with
    | disconnect =>
        have empty := take_recvSize_eq_nil ((packetKind_eq_disconnect_iff _).mp kind)
        rcases erase_changesOnlySlot clientInfo clientFd with same | ⟨slot, only⟩
        · exact Or.inl same
        · exact Or.inr ⟨slot, only, fun nonempty => absurd empty nonempty⟩
    | dropped => exact Or.inl rfl
    | control isAdd =>
        have valid := isMsgRouteValidMsg_of_kind clientFd
          (by rw [kind]; exact ⟨nofun, nofun⟩)
        have small := inRange isAdd kind
        rw [← packetType_eq (sent.take recvSize) clientFd] at small
        have only := update_changesOnlySlot clientInfo isAdd valid small
        rw [packetSlot_eq] at only
        exact Or.inr ⟨_, only, fun _ => rfl⟩
    | routed => exact Or.inl rfl

/-- A table whose third slot belongs to descriptor 9. -/
def tableOfNine : ClientInfoTable :=
  (msgRouteClientInfoInit (Memory.ofBytes [])).setFd 2 9

/-- A packet with one payload byte, as the client library sends it for a subscription. -/
def controlPacket (msgType appId payload : UInt8) : List UInt8 :=
  [0, 0, 0, 0, msgType, 0, 0, 0, 0, 0, 0, 0, appId, 0, 0, 0, 0, 0, 0, 0, 0, 0, 0, 0,
    0, 0, 0, 0, 1, 0, 0, 0, payload]

/-- `SUBSCRIBE` for application 1 with the payload byte 8. -/
def subscribeEight : List UInt8 :=
  controlPacket 1 1 8

/-- The packet turns the third slot's descriptor 9 into descriptor 1. -/
theorem subscribeEight_overwrites :
    tableOfNine.fd 2 = 9 ∧
    (msgRouteServerHandleMsg tableOfNine (Memory.ofBytes []) 5
      (.packet subscribeEight)).clientInfo.fd 2 = 1 ∧
    ¬ StaysInTable tableOfNine (Memory.ofBytes []) 5 subscribeEight := by
  refine ⟨by decide, by decide, ?_⟩
  intro stays
  have written := stays.inBounds (.writeMsgFlag 1 8) (by decide)
  exact absurd written.2 (by decide)

end MsgRoute
end V2x
