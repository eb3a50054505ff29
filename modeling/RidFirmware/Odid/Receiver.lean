import RidFirmware.Lib.SlotTable
import RidFirmware.Odid.Decoder

/-! The receiving side of the Open Drone ID core library: the data of an aircraft, filled from one message after
the other. A buffer holds the whole of the message or pack that is in it. -/

namespace RidFirmware.Odid
open Lib Lib.Ieee Lib.Wire

def ODID_IDTYPE_NONE : Nat := 0

/-- One of the structures of `ODID_UAS_Data` with its flag. -/
structure Entry (Data : Type) where
  data : Data
  valid : Bool := false

structure UasData (K : Type) where
  basicId : List (Entry BasicIdData)
  location : Entry (LocationData K)
  auth : List (Entry AuthData)
  selfId : Entry SelfIdData
  system : Entry (SystemData K)
  operatorId : Entry OperatorIdData

def initBasicIdData : BasicIdData where
  uaType := 0
  idType := ODID_IDTYPE_NONE
  uasId := List.replicate (ODID_ID_SIZE + 1) 0

def initAuthData : AuthData where
  dataPage := 0
  authType := 0
  lastPageIndex := 0
  length := 0
  timestamp := 0
  authData := List.replicate (ODID_AUTH_PAGE_NONZERO_DATA_SIZE + 1) 0

def initSelfIdData : SelfIdData where
  descType := 0
  desc := List.replicate (ODID_STR_SIZE + 1) 0

def initOperatorIdData : OperatorIdData where
  operatorIdType := 0
  operatorId := List.replicate (ODID_ID_SIZE + 1) 0

section
variable {K : Type} [Field K]

def INV_ALT : Datum K := MIN_ALT

def initLocationData : LocationData K where
  status := 0
  direction := INV_DIR
  speedHorizontal := INV_SPEED_H
  speedVertical := INV_SPEED_V
  latitude := .finite 0
  longitude := .finite 0
  altitudeBaro := INV_ALT
  altitudeGeo := INV_ALT
  heightType := 0
  height := INV_ALT
  horizAccuracy := 0
  vertAccuracy := 0
  baroAccuracy := 0
  speedAccuracy := 0
  tsAccuracy := 0
  timeStamp := .finite 0

def initSystemData : SystemData K where
  operatorLocationType := 0
  classificationType := 0
  operatorLatitude := .finite 0
  operatorLongitude := .finite 0
  areaCount := 1
  areaRadius := 0
  areaCeiling := INV_ALT
  areaFloor := INV_ALT
  categoryEu := 0
  classEu := 0
  operatorAltitudeGeo := INV_ALT
  timestamp := 0

def initUasData : UasData K where
  basicId := List.replicate ODID_BASIC_ID_MAX_MESSAGES ⟨initBasicIdData, false⟩
  location := ⟨initLocationData, false⟩
  auth := List.replicate ODID_AUTH_MAX_PAGES ⟨initAuthData, false⟩
  selfId := ⟨initSelfIdData, false⟩
  system := ⟨initSystemData, false⟩
  operatorId := ⟨initOperatorIdData, false⟩

/-- A free slot is taken, or the slot of the same type overwritten. -/
def storeBasicId (idType : Nat) (message : Bytes) : List (Entry BasicIdData) → Option (List (Entry BasicIdData))
  | [] => none
  | slot :: rest =>
      if slot.data.idType = ODID_IDTYPE_NONE ∨ slot.data.idType = idType then
        match decodeBasicIdMessage message with
        | some data => some (⟨data, true⟩ :: rest)
        | none => (storeBasicId idType message rest).map (slot :: ·)
      else (storeBasicId idType message rest).map (slot :: ·)

/-- `decodeOpenDroneID` of a message that is not a pack. -/
def decodeContent (uas : UasData K) (message : Bytes) : Nat × UasData K :=
  let type := decodeMessageType (message.getD 0 0)
  if type = ODID_MESSAGETYPE_BASIC_ID then
    match (getBasicIdType message).bind fun idType => storeBasicId idType message uas.basicId with
    | some slots => (type, { uas with basicId := slots })
    | none => (ODID_MESSAGETYPE_INVALID, uas)
  else if type = ODID_MESSAGETYPE_LOCATION then
    match decodeLocationMessage message with
    | some data => (type, { uas with location := ⟨data, true⟩ })
    | none => (ODID_MESSAGETYPE_INVALID, uas)
  else if type = ODID_MESSAGETYPE_AUTH then
    match getAuthPageNum message, decodeAuthMessage message with
    | some page, some data => (type, { uas with auth := uas.auth.set page ⟨data, true⟩ })
    | _, _ => (ODID_MESSAGETYPE_INVALID, uas)
  else if type = ODID_MESSAGETYPE_SELF_ID then
    match decodeSelfIdMessage message with
    | some data => (type, { uas with selfId := ⟨data, true⟩ })
    | none => (ODID_MESSAGETYPE_INVALID, uas)
  else if type = ODID_MESSAGETYPE_SYSTEM then
    match decodeSystemMessage message with
    | some data => (type, { uas with system := ⟨data, true⟩ })
    | none => (ODID_MESSAGETYPE_INVALID, uas)
  else if type = ODID_MESSAGETYPE_OPERATOR_ID then
    match decodeOperatorIdMessage message with
    | some data => (type, { uas with operatorId := ⟨data, true⟩ })
    | none => (ODID_MESSAGETYPE_INVALID, uas)
  else (ODID_MESSAGETYPE_INVALID, uas)

def packMessages (pack : Bytes) : List Bytes :=
  (List.range (byteAt pack 2)).map fun index => bytesAt pack (3 + index * ODID_MESSAGE_SIZE) ODID_MESSAGE_SIZE

/-- The check of its content keeps packs out of a pack. -/
def decodeMessagePack (uas : UasData K) (pack : Bytes) : Option (UasData K) :=
  if upperAt pack 0 ≠ ODID_MESSAGETYPE_PACKED then none
  else if byteAt pack 1 ≠ ODID_MESSAGE_SIZE then none
  else if !checkPackContent (packMessages pack) then none
  else some ((packMessages pack).foldl (fun uas message => (decodeContent uas message).2) uas)

def decodeOpenDroneId (uas : UasData K) (message : Bytes) : Nat × UasData K :=
  if decodeMessageType (message.getD 0 0) = ODID_MESSAGETYPE_PACKED then
    match decodeMessagePack uas message with
    | some uas => (ODID_MESSAGETYPE_PACKED, uas)
    | none => (ODID_MESSAGETYPE_INVALID, uas)
  else decodeContent uas message

/-- A receiver decodes what it hears into one structure. -/
def receive (uas : UasData K) (heard : List Bytes) : UasData K :=
  heard.foldl (fun uas message => (decodeOpenDroneId uas message).2) uas

/-! ## What one message changes -/

/-- The entry after a message has been decoded for it. -/
def Entry.update {Data : Type} (entry : Entry Data) : Option Data → Entry Data
  | some data => ⟨data, true⟩
  | none => entry

def entryType (entry : Entry BasicIdData) : Nat := entry.data.idType

def UasData.update (uas : UasData K) (message : Bytes) : UasData K where
  basicId :=
    match decodeBasicIdMessage message with
    | some data => SlotTable.offer entryType ODID_IDTYPE_NONE uas.basicId ⟨data, true⟩
    | none => uas.basicId
  location := uas.location.update (decodeLocationMessage message)
  auth :=
    match decodeAuthMessage message with
    | some data => uas.auth.set 0 ⟨data, true⟩
    | none => uas.auth
  selfId := uas.selfId.update (decodeSelfIdMessage message)
  system := uas.system.update (decodeSystemMessage message)
  operatorId := uas.operatorId.update (decodeOperatorIdMessage message)

theorem storeBasicId_eq {message : Bytes} {data : BasicIdData} (decoded : decodeBasicIdMessage message = some data)
    (slots : List (Entry BasicIdData)) :
    storeBasicId data.idType message slots = SlotTable.put entryType ODID_IDTYPE_NONE slots ⟨data, true⟩ := by
  induction slots with
  | nil => rfl
  | cons slot rest ih =>
    rw [storeBasicId, SlotTable.put, decoded, ih]
    rfl

theorem decodeMessageType_eq_iff {message : Bytes} {type : Nat} (known : type ≤ ODID_MESSAGETYPE_OPERATOR_ID) :
    decodeMessageType (message.getD 0 0) = type ↔ upperAt message 0 = type := by
  unfold decodeMessageType upperAt byteAt
  dsimp only
  split_ifs with listed
  · exact Iff.rfl
  · unfold ODID_MESSAGETYPE_OPERATOR_ID at known listed
    unfold ODID_MESSAGETYPE_INVALID
    omega

theorem decode_other {message : Bytes} :
    (upperAt message 0 ≠ ODID_MESSAGETYPE_BASIC_ID → decodeBasicIdMessage message = none) ∧
      (upperAt message 0 ≠ ODID_MESSAGETYPE_LOCATION → decodeLocationMessage (K := K) message = none) ∧
      (upperAt message 0 ≠ ODID_MESSAGETYPE_AUTH → decodeAuthMessage message = none) ∧
      (upperAt message 0 ≠ ODID_MESSAGETYPE_SELF_ID → decodeSelfIdMessage message = none) ∧
      (upperAt message 0 ≠ ODID_MESSAGETYPE_SYSTEM → decodeSystemMessage (K := K) message = none) ∧
      (upperAt message 0 ≠ ODID_MESSAGETYPE_OPERATOR_ID → decodeOperatorIdMessage message = none) :=
  ⟨fun other => if_pos (.inl other), fun other => if_pos (.inl other), fun other => if_pos (.inl other),
    fun other => if_pos other, fun other => if_pos other, fun other => if_pos other⟩

theorem getBasicIdType_eq {message : Bytes} {data : BasicIdData}
    (decoded : decodeBasicIdMessage message = some data) : getBasicIdType message = some data.idType := by
  by_cases refused : upperAt message 0 ≠ ODID_MESSAGETYPE_BASIC_ID ∨ 15 < upperAt message 1 ∨ 15 < lowerAt message 1
  · cases (if_pos refused).symm.trans decoded
  · have same := Option.some.inj ((if_neg refused).symm.trans decoded)
    rw [not_or] at refused
    rw [getBasicIdType, if_neg refused.1, ← same]

theorem decodeBasicIdMessage_isSome {message : Bytes} (type : upperAt message 0 = ODID_MESSAGETYPE_BASIC_ID) :
    (decodeBasicIdMessage message).isSome := by
  have upper : upperAt message 1 ≤ 15 := by
    have small := (message.getD 1 0).toNat_lt
    unfold upperAt byteAt
    omega
  have lower : lowerAt message 1 ≤ 15 := by
    unfold lowerAt
    omega
  unfold decodeBasicIdMessage
  rw [if_neg]
  · rfl
  · rw [type]
    omega

theorem getAuthPageNum_eq {message : Bytes} {data : AuthData} (decoded : decodeAuthMessage message = some data) :
    getAuthPageNum message = some 0 := by
  unfold decodeAuthMessage at decoded
  split_ifs at decoded with refused
  unfold getAuthPageNum
  rw [if_neg refused]
  simp only [ODID_AUTH_MAX_PAGES] at refused
  congr 1
  omega

theorem decodeContent_eq (uas : UasData K) (message : Bytes) :
    (decodeContent uas message).2 = uas.update message := by
  obtain ⟨basicOther, locationOther, authOther, selfOther, systemOther, operatorOther⟩ :=
    @decode_other K _ message
  have typed : ∀ type ≤ ODID_MESSAGETYPE_OPERATOR_ID,
      decodeMessageType (message.getD 0 0) = type ↔ upperAt message 0 = type :=
    fun type known => decodeMessageType_eq_iff known
  unfold decodeContent UasData.update
  dsimp only
  split_ifs with basic location auth self system operator
  · rw [typed _ (by decide)] at basic
    obtain ⟨data, decoded⟩ := Option.isSome_iff_exists.mp (decodeBasicIdMessage_isSome basic)
    rw [locationOther (by rw [basic]; decide), authOther (by rw [basic]; decide),
      selfOther (by rw [basic]; decide), systemOther (by rw [basic]; decide),
      operatorOther (by rw [basic]; decide), getBasicIdType_eq decoded, Option.bind_some,
      storeBasicId_eq decoded, decoded]
    dsimp only
    rw [SlotTable.offer]
    cases SlotTable.put entryType ODID_IDTYPE_NONE uas.basicId ⟨data, true⟩ <;> rfl
  · rw [typed _ (by decide)] at location
    rw [basicOther (by rw [location]; decide), authOther (by rw [location]; decide),
      selfOther (by rw [location]; decide), systemOther (by rw [location]; decide),
      operatorOther (by rw [location]; decide)]
    cases decodeLocationMessage (K := K) message <;> rfl
  · rw [typed _ (by decide)] at auth
    rw [basicOther (by rw [auth]; decide), locationOther (by rw [auth]; decide),
      selfOther (by rw [auth]; decide), systemOther (by rw [auth]; decide),
      operatorOther (by rw [auth]; decide)]
    cases decoded : decodeAuthMessage message with
    | none => cases getAuthPageNum message <;> rfl
    | some data =>
      rw [getAuthPageNum_eq decoded]
      rfl
  · rw [typed _ (by decide)] at self
    rw [basicOther (by rw [self]; decide), locationOther (by rw [self]; decide),
      authOther (by rw [self]; decide), systemOther (by rw [self]; decide),
      operatorOther (by rw [self]; decide)]
    cases decodeSelfIdMessage message <;> rfl
  · rw [typed _ (by decide)] at system
    rw [basicOther (by rw [system]; decide), locationOther (by rw [system]; decide),
      authOther (by rw [system]; decide), selfOther (by rw [system]; decide),
      operatorOther (by rw [system]; decide)]
    cases decodeSystemMessage (K := K) message <;> rfl
  · rw [typed _ (by decide)] at operator
    rw [basicOther (by rw [operator]; decide), locationOther (by rw [operator]; decide),
      authOther (by rw [operator]; decide), selfOther (by rw [operator]; decide),
      systemOther (by rw [operator]; decide)]
    cases decodeOperatorIdMessage message <;> rfl
  · rw [typed _ (by decide)] at basic location auth self system operator
    rw [basicOther basic, locationOther location, authOther auth, selfOther self, systemOther system,
      operatorOther operator]
    rfl

/-! ## What a receiver holds after all it has heard -/

/-- The messages that are decoded for what is heard: of a pack those it holds, and none if it is refused. -/
def contents (message : Bytes) : List Bytes :=
  if decodeMessageType (message.getD 0 0) = ODID_MESSAGETYPE_PACKED then
    if byteAt message 1 = ODID_MESSAGE_SIZE ∧ checkPackContent (packMessages message) = true then
      packMessages message
    else []
  else [message]

theorem upperAt_of_packed {message : Bytes}
    (packed : decodeMessageType (message.getD 0 0) = ODID_MESSAGETYPE_PACKED) :
    upperAt message 0 = ODID_MESSAGETYPE_PACKED := by
  unfold decodeMessageType at packed
  dsimp only at packed
  split_ifs at packed
  · exact packed
  · cases packed

theorem foldl_decodeContent (uas : UasData K) (messages : List Bytes) :
    messages.foldl (fun uas message => (decodeContent uas message).2) uas =
      messages.foldl UasData.update uas := by
  congr 1
  funext uas message
  exact decodeContent_eq uas message

theorem decodeOpenDroneId_eq (uas : UasData K) (message : Bytes) :
    (decodeOpenDroneId uas message).2 = (contents message).foldl UasData.update uas := by
  unfold decodeOpenDroneId contents
  by_cases packed : decodeMessageType (message.getD 0 0) = ODID_MESSAGETYPE_PACKED
  · rw [if_pos packed, if_pos packed]
    unfold decodeMessagePack
    rw [if_neg (not_not.mpr (upperAt_of_packed packed))]
    by_cases size : byteAt message 1 = ODID_MESSAGE_SIZE
    · rw [if_neg (not_not.mpr size)]
      cases content : checkPackContent (packMessages message) with
      | false =>
        rw [if_neg (c := _ ∧ _) fun parts => Bool.false_ne_true parts.2]
        rfl
      | true =>
        rw [if_pos (c := _ ∧ _) ⟨size, rfl⟩, ← foldl_decodeContent]
        rfl
    · rw [if_pos size, if_neg (c := _ ∧ _) fun parts => size parts.1]
      rfl
  · rw [if_neg packed, if_neg packed]
    exact decodeContent_eq uas message

theorem receive_eq (uas : UasData K) (heard : List Bytes) :
    receive uas heard = (heard.flatMap contents).foldl UasData.update uas := by
  induction heard generalizing uas with
  | nil => rfl
  | cons message rest ih =>
    rw [List.flatMap_cons, List.foldl_append, ← decodeOpenDroneId_eq]
    exact ih _

theorem update_foldl {Data : Type} {part : UasData K → Entry Data} {decode : Bytes → Option Data}
    (step : ∀ uas message, part (UasData.update uas message) = (part uas).update (decode message))
    (messages : List Bytes) (uas : UasData K) :
    part (messages.foldl UasData.update uas) = (part uas).update (messages.filterMap decode).getLast? := by
  induction messages using List.reverseRecOn with
  | nil => rfl
  | append_singleton messages message ih =>
    rw [List.foldl_append, List.foldl_cons, List.foldl_nil, step, ih, List.filterMap_append]
    cases decoded : decode message with
    | none => simp [decoded, Entry.update]
    | some data => simp [decoded, Entry.update]

theorem basicId_foldl (messages : List Bytes) (uas : UasData K) :
    (messages.foldl UasData.update uas).basicId =
      ((messages.filterMap decodeBasicIdMessage).map (Entry.mk · true)).foldl
        (SlotTable.offer entryType ODID_IDTYPE_NONE) uas.basicId := by
  induction messages generalizing uas with
  | nil => rfl
  | cons message rest ih =>
    rw [List.foldl_cons, ih]
    cases decoded : decodeBasicIdMessage message with
    | none => simp [decoded, UasData.update]
    | some data => simp [decoded, UasData.update]

theorem auth_foldl (messages : List Bytes) {uas : UasData K} {entry : Entry AuthData}
    (single : uas.auth = [entry]) :
    (messages.foldl UasData.update uas).auth =
      [entry.update (messages.filterMap decodeAuthMessage).getLast?] := by
  induction messages using List.reverseRecOn with
  | nil => exact single
  | append_singleton messages message ih =>
    rw [List.foldl_append, List.foldl_cons, List.foldl_nil, List.filterMap_append]
    cases decoded : decodeAuthMessage message with
    | none => simp [decoded, UasData.update, ih]
    | some data => simp [decoded, UasData.update, ih, Entry.update]

theorem basicId_length (messages : List Bytes) (uas : UasData K) :
    (messages.foldl UasData.update uas).basicId.length = uas.basicId.length := by
  rw [basicId_foldl]
  generalize (messages.filterMap decodeBasicIdMessage).map (Entry.mk · true) = entries
  induction entries using List.reverseRecOn with
  | nil => rfl
  | append_singleton entries entry ih =>
    rw [List.foldl_append, List.foldl_cons, List.foldl_nil, SlotTable.offer_length, ih]

/-- The data of an aircraft, if these messages have been decoded for it since it was initialised: of every
kind the last message, and of the basic identifications the last one of each of the types that came first. One
of type NONE does not keep its slot: the first slot that no type has taken holds the last of them since the last
new type. -/
structure Latest (messages : List Bytes) (uas : UasData K) : Prop where
  basicId : ∃ occupied vacant,
    SlotTable.Holds entryType ODID_IDTYPE_NONE ((messages.filterMap decodeBasicIdMessage).map (Entry.mk · true))
      uas.basicId occupied vacant
  basicIdNone : ∃ before since,
    SlotTable.Vacant entryType ODID_IDTYPE_NONE (initUasData : UasData K).basicId
      ((messages.filterMap decodeBasicIdMessage).map (Entry.mk · true)) uas.basicId before since
  basicIdSlots : uas.basicId.length = ODID_BASIC_ID_MAX_MESSAGES
  location : uas.location =
    Entry.update ⟨initLocationData, false⟩ (messages.filterMap decodeLocationMessage).getLast?
  auth : uas.auth = [Entry.update ⟨initAuthData, false⟩ (messages.filterMap decodeAuthMessage).getLast?]
  selfId : uas.selfId = Entry.update ⟨initSelfIdData, false⟩ (messages.filterMap decodeSelfIdMessage).getLast?
  system : uas.system = Entry.update ⟨initSystemData, false⟩ (messages.filterMap decodeSystemMessage).getLast?
  operatorId : uas.operatorId =
    Entry.update ⟨initOperatorIdData, false⟩ (messages.filterMap decodeOperatorIdMessage).getLast?

theorem latest_foldl (messages : List Bytes) :
    Latest messages (messages.foldl UasData.update (initUasData : UasData K)) where
  basicId := by
    rw [basicId_foldl]
    exact SlotTable.exists_holds (by simp [initUasData, entryType, initBasicIdData]) _
  basicIdNone := by
    rw [basicId_foldl]
    exact SlotTable.exists_vacant (by simp [initUasData, entryType, initBasicIdData]) _
  basicIdSlots := basicId_length messages initUasData
  location := update_foldl (fun _ _ => rfl) messages initUasData
  auth := auth_foldl messages rfl
  selfId := update_foldl (fun _ _ => rfl) messages initUasData
  system := update_foldl (fun _ _ => rfl) messages initUasData
  operatorId := update_foldl (fun _ _ => rfl) messages initUasData

theorem decodeContent_refused {uas : UasData K} {message : Bytes}
    (refused : (decodeContent uas message).1 = ODID_MESSAGETYPE_INVALID) : (decodeContent uas message).2 = uas := by
  unfold decodeContent at refused ⊢
  dsimp only at refused ⊢
  split_ifs at refused ⊢ with basic location auth self system operator
  · have known : decodeMessageType (message.getD 0 0) ≠ ODID_MESSAGETYPE_INVALID := by rw [basic]; decide
    cases decoded : (getBasicIdType message).bind fun idType => storeBasicId idType message uas.basicId with
    | none => rfl
    | some slots =>
      rw [decoded] at refused
      exact absurd refused known
  · have known : decodeMessageType (message.getD 0 0) ≠ ODID_MESSAGETYPE_INVALID := by rw [location]; decide
    cases decoded : decodeLocationMessage (K := K) message with
    | none => rfl
    | some data =>
      rw [decoded] at refused
      exact absurd refused known
  · have known : decodeMessageType (message.getD 0 0) ≠ ODID_MESSAGETYPE_INVALID := by rw [auth]; decide
    cases paged : getAuthPageNum message with
    | none => rfl
    | some page =>
      cases decoded : decodeAuthMessage message with
      | none => rfl
      | some data =>
        rw [paged, decoded] at refused
        exact absurd refused known
  · have known : decodeMessageType (message.getD 0 0) ≠ ODID_MESSAGETYPE_INVALID := by rw [self]; decide
    cases decoded : decodeSelfIdMessage message with
    | none => rfl
    | some data =>
      rw [decoded] at refused
      exact absurd refused known
  · have known : decodeMessageType (message.getD 0 0) ≠ ODID_MESSAGETYPE_INVALID := by rw [system]; decide
    cases decoded : decodeSystemMessage (K := K) message with
    | none => rfl
    | some data =>
      rw [decoded] at refused
      exact absurd refused known
  · have known : decodeMessageType (message.getD 0 0) ≠ ODID_MESSAGETYPE_INVALID := by rw [operator]; decide
    cases decoded : decodeOperatorIdMessage message with
    | none => rfl
    | some data =>
      rw [decoded] at refused
      exact absurd refused known
  · rfl

theorem decodeOpenDroneId_refused {uas : UasData K} {message : Bytes}
    (refused : (decodeOpenDroneId uas message).1 = ODID_MESSAGETYPE_INVALID) :
    (decodeOpenDroneId uas message).2 = uas := by
  unfold decodeOpenDroneId at refused ⊢
  split_ifs at refused ⊢ with packed
  · cases decoded : decodeMessagePack uas message with
    | none => rfl
    | some later =>
      rw [decoded] at refused
      cases refused
  · exact decodeContent_refused refused

/-! ## Whole messages -/

/-- How far the decoder reads: all of a message, and of a pack whose header it accepts all the messages. -/
def extent (message : Bytes) : Nat :=
  if decodeMessageType (message.getD 0 0) ≠ ODID_MESSAGETYPE_PACKED then ODID_MESSAGE_SIZE
  else if byteAt message 1 ≠ ODID_MESSAGE_SIZE ∨ byteAt message 2 = 0 ∨ ODID_PACK_MAX_MESSAGES < byteAt message 2 then
    3
  else 3 + byteAt message 2 * ODID_MESSAGE_SIZE

/-- A buffer that holds all bytes of the message or pack in it, as the decoder assumes. -/
def Whole (message : Bytes) : Prop := extent message ≤ message.length

instance (message : Bytes) : Decidable (Whole message) := Nat.decLe _ _

theorem Whole.header {message : Bytes} (whole : Whole message) : 3 ≤ message.length := by
  refine le_trans ?_ whole
  unfold extent ODID_MESSAGE_SIZE
  split_ifs <;> omega

theorem getD_zero_inside {message behind : Bytes} (inside : 0 < message.length) :
    (message ++ behind).getD 0 0 = message.getD 0 0 := by
  rw [List.getD_eq_getElem?_getD, List.getD_eq_getElem?_getD, List.getElem?_append_left inside]

section
variable {message behind : Bytes} (full : ODID_MESSAGE_SIZE ≤ message.length)
include full

theorem decode_behind : getBasicIdType (message ++ behind) = getBasicIdType message ∧
    decodeBasicIdMessage (message ++ behind) = decodeBasicIdMessage message ∧
    decodeLocationMessage (K := K) (message ++ behind) = decodeLocationMessage message ∧
    getAuthPageNum (message ++ behind) = getAuthPageNum message ∧
    decodeAuthMessage (message ++ behind) = decodeAuthMessage message ∧
    decodeSelfIdMessage (message ++ behind) = decodeSelfIdMessage message ∧
    decodeSystemMessage (K := K) (message ++ behind) = decodeSystemMessage message ∧
    decodeOperatorIdMessage (message ++ behind) = decodeOperatorIdMessage message := by
  have byte : ∀ offset < 25, byteAt (message ++ behind) offset = byteAt message offset :=
    fun offset small => byteAt_inside (small.trans_le full)
  have bytes : ∀ offset size, offset + size ≤ 25 →
      bytesAt (message ++ behind) offset size = bytesAt message offset size :=
    fun offset size small => bytesAt_inside (small.trans full)
  have upper : ∀ offset < 25, upperAt (message ++ behind) offset = upperAt message offset :=
    fun offset small => congrArg (· / 16) (byte offset small)
  have lower : ∀ offset < 25, lowerAt (message ++ behind) offset = lowerAt message offset :=
    fun offset small => congrArg (· % 16) (byte offset small)
  refine ⟨?_, ?_, ?_, ?_, ?_, ?_, ?_, ?_⟩
  · simp (disch := decide) only [getBasicIdType, upper]
  · simp (disch := decide) only [decodeBasicIdMessage, upper, lower, bytes]
  · simp (disch := decide) only [decodeLocationMessage, byte, upper, lower, bytes]
  · simp (disch := decide) only [getAuthPageNum, upper, lower]
  · simp (disch := decide) only [decodeAuthMessage, byte, upper, lower, bytes]
  · simp (disch := decide) only [decodeSelfIdMessage, byte, upper, bytes]
  · simp (disch := decide) only [decodeSystemMessage, byte, upper, lower, bytes]
  · simp (disch := decide) only [decodeOperatorIdMessage, byte, upper, bytes]

theorem storeBasicId_behind (idType : Nat) (slots : List (Entry BasicIdData)) :
    storeBasicId idType (message ++ behind) slots = storeBasicId idType message slots := by
  have decoded := (@decode_behind ℚ _ message behind full).2.1
  induction slots with
  | nil => rfl
  | cons slot rest ih =>
    rw [storeBasicId, storeBasicId, decoded, ih]

theorem decodeContent_behind (uas : UasData K) :
    decodeContent uas (message ++ behind) = decodeContent uas message := by
  obtain ⟨type, _, location, page, auth, selfId, system, operatorId⟩ :=
    @decode_behind K _ message behind full
  have first := @getD_zero_inside message behind (lt_of_lt_of_le (by decide) full)
  unfold decodeContent
  dsimp only
  rw [first, type, location, page, auth, selfId, system, operatorId]
  simp only [storeBasicId_behind full]

end

theorem packMessages_behind {message behind : Bytes} (header : 3 ≤ message.length)
    (room : 3 + byteAt message 2 * ODID_MESSAGE_SIZE ≤ message.length) :
    packMessages (message ++ behind) = packMessages message := by
  unfold packMessages
  rw [byteAt_inside header]
  apply List.map_congr_left
  intro index listed
  have inside := Nat.mul_le_mul_right ODID_MESSAGE_SIZE (List.mem_range.mp listed)
  rw [Nat.succ_mul] at inside
  exact bytesAt_inside (by omega)

theorem checkPackContent_count {pack : Bytes}
    (count : byteAt pack 2 = 0 ∨ ODID_PACK_MAX_MESSAGES < byteAt pack 2) :
    checkPackContent (packMessages pack) = false := by
  have length : (packMessages pack).length = byteAt pack 2 := by
    unfold packMessages
    rw [List.length_map, List.length_range]
  have wrong : ¬(0 < (packMessages pack).length ∧ (packMessages pack).length ≤ ODID_PACK_MAX_MESSAGES) := by
    rw [length]
    omega
  unfold checkPackContent
  dsimp only
  rw [decide_eq_false wrong, Bool.false_and, Bool.false_and]

theorem decodeOpenDroneId_behind {message : Bytes} (whole : Whole message) (behind : Bytes) (uas : UasData K) :
    decodeOpenDroneId uas (message ++ behind) = decodeOpenDroneId uas message := by
  have header := whole.header
  have first := @getD_zero_inside message behind (by omega)
  have byte : ∀ offset < 3, byteAt (message ++ behind) offset = byteAt message offset :=
    fun offset small => byteAt_inside (small.trans_le header)
  unfold Whole extent at whole
  unfold decodeOpenDroneId
  rw [first]
  by_cases packed : decodeMessageType (message.getD 0 0) = ODID_MESSAGETYPE_PACKED
  · rw [if_neg (not_not.mpr packed)] at whole
    have same : decodeMessagePack uas (message ++ behind) = decodeMessagePack uas message := by
      unfold decodeMessagePack upperAt
      rw [byte 0 (by decide), byte 1 (by decide)]
      by_cases size : byteAt message 1 = ODID_MESSAGE_SIZE
      · by_cases count : byteAt message 2 = 0 ∨ ODID_PACK_MAX_MESSAGES < byteAt message 2
        · rw [checkPackContent_count count, checkPackContent_count (by rw [byte 2 (by decide)]; exact count)]
          rfl
        · rw [if_neg (not_or.mpr ⟨not_not.mpr size, count⟩)] at whole
          rw [packMessages_behind header whole]
      · rw [if_pos size, if_pos size]
    rw [if_pos packed, if_pos packed, same]
  · rw [if_pos packed] at whole
    rw [if_neg packed, if_neg packed, decodeContent_behind whole]

/-- Whatever whole messages and packs a receiver has heard, in whatever order, it holds the latest of each kind,
what it refuses is as if it had not been heard, and nothing behind them has been read. -/
theorem receive_latest (heard : List Bytes) (whole : ∀ message ∈ heard, Whole message) :
    Latest (heard.flatMap contents) (receive (initUasData : UasData K) heard) ∧
      (∀ message, Whole message → (decodeOpenDroneId (receive (initUasData : UasData K) heard) message).1 =
          ODID_MESSAGETYPE_INVALID →
        receive (initUasData : UasData K) (heard ++ [message]) = receive initUasData heard) ∧
      ∀ behind : Bytes → Bytes, receive (initUasData : UasData K) (heard.map fun message => message ++ behind message) =
        receive initUasData heard := by
  refine ⟨?_, ?_, ?_⟩
  · rw [receive_eq]
    exact latest_foldl _
  · intro message _ refused
    have later : receive (initUasData : UasData K) (heard ++ [message]) =
        (decodeOpenDroneId (receive initUasData heard) message).2 := by
      unfold receive
      rw [List.foldl_append]
      rfl
    rw [later]
    exact decodeOpenDroneId_refused refused
  · intro behind
    unfold receive
    generalize (initUasData : UasData K) = uas
    induction heard generalizing uas with
    | nil => rfl
    | cons message rest ih =>
      rw [List.map_cons, List.foldl_cons, List.foldl_cons, decodeOpenDroneId_behind (whole message List.mem_cons_self)]
      exact ih (fun other member => whole other (List.mem_cons_of_mem _ member)) _

end

/-- Identifications of the types NONE, serial number and CAA registration, after each other: the first does not
keep its slot. -/
theorem receive_latest_none :
    let identification : Nat → Bytes := fun idType => header 0 :: nibbles idType 2 :: List.replicate 23 0x41
    let heard := [identification 0, identification 1, identification 2]
    Latest (heard.flatMap contents) (receive (initUasData : UasData ℚ) heard) ∧
      (∀ message, Whole message → (decodeOpenDroneId (receive (initUasData : UasData ℚ) heard) message).1 =
          ODID_MESSAGETYPE_INVALID →
        receive (initUasData : UasData ℚ) (heard ++ [message]) = receive initUasData heard) ∧
      ∀ behind : Bytes → Bytes, receive (initUasData : UasData ℚ) (heard.map fun message => message ++ behind message) =
        receive initUasData heard :=
  receive_latest _ (by decide)

end RidFirmware.Odid
