import RidFirmware.Odid.Accuracy
import RidFirmware.Odid.Receiver

/-! Packs built from the data of an aircraft, and what a receiver makes of them. -/

namespace RidFirmware.Odid
open Lib Lib.Ieee Lib.Wire

/-- The negative results of `odid_message_build_pack`. -/
inductive PackError where
  | einval
  | enomem
  deriving DecidableEq

/-- One more message for the pack, unless it is full or the message could not be encoded. -/
def appendMessage (messages : List Bytes) (encoded : Option Bytes) : Except PackError (List Bytes) :=
  if ODID_PACK_MAX_MESSAGES ≤ messages.length then .error .einval
  else match encoded with
    | none => .error .einval
    | some message => .ok (messages ++ [message])

def validData {Data : Type} (entries : List (Entry Data)) : List Data :=
  (entries.filter (·.valid)).map (·.data)

section
variable {K : Type} [Field K] [LinearOrder K] [FloorRing K]

/-- The messages of a pack in their order, before any of them is known to be encoded. -/
def UasData.encodings (uas : UasData K) : List (Option Bytes) :=
  (validData uas.basicId).map encodeBasicIdMessage ++ (validData [uas.location]).map encodeLocationMessage ++
    (validData uas.auth).map encodeAuthMessage ++ (validData [uas.selfId]).map encodeSelfIdMessage ++
    (validData [uas.system]).map encodeSystemMessage ++
    (validData [uas.operatorId]).map encodeOperatorIdMessage

def odidMessageBuildPack (uas : UasData K) (buflen : Nat) : Except PackError Bytes :=
  match uas.encodings.foldlM appendMessage [] with
  | .error error => .error error
  | .ok messages =>
      if messages.length = 0 then .error .einval
      else if buflen < 3 + messages.length * ODID_MESSAGE_SIZE then .error .enomem
      else match encodeMessagePack messages with
        | none => .error .einval
        | some pack => .ok pack

/-- The arrays have their sizes, and what is to be encoded is a number. -/
structure UasData.WellFormed (uas : UasData K) : Prop where
  basicId : uas.basicId.length = ODID_BASIC_ID_MAX_MESSAGES
  auth : uas.auth.length = ODID_AUTH_MAX_PAGES
  uasId : ∀ entry ∈ uas.basicId, entry.data.uasId.length = ODID_ID_SIZE + 1
  authData : ∀ entry ∈ uas.auth, entry.data.authData.length = ODID_AUTH_PAGE_NONZERO_DATA_SIZE + 1
  location : uas.location.valid = true → uas.location.data.isFinite = true
  system : uas.system.valid = true → uas.system.data.isFinite = true

end

theorem foldlM_appendMessage (encodings : List (Option Bytes)) (messages result : List Bytes) :
    encodings.foldlM appendMessage messages = .ok result ↔
      ∃ later : List Bytes, encodings = later.map some ∧ result = messages ++ later ∧
        (later = [] ∨ messages.length + later.length ≤ ODID_PACK_MAX_MESSAGES) := by
  induction encodings generalizing messages with
  | nil =>
    constructor
    · intro same
      exact ⟨[], rfl, by rw [List.append_nil]; exact (Except.ok.inj same).symm, .inl rfl⟩
    · rintro ⟨later, nothing, rfl, _⟩
      rw [List.map_eq_nil_iff.mp nothing.symm, List.append_nil]
      rfl
  | cons encoded encodings ih =>
    rw [List.foldlM_cons]
    by_cases full : ODID_PACK_MAX_MESSAGES ≤ messages.length
    · have refused : appendMessage messages encoded = .error .einval := if_pos full
      rw [refused]
      apply iff_of_false nofun
      rintro ⟨later, same, rfl, room⟩
      cases later with
      | nil => cases same
      | cons message later =>
        have small := room.resolve_left (List.cons_ne_nil _ _)
        rw [List.length_cons] at small
        omega
    · cases encoded with
      | none =>
        have refused : appendMessage messages none = .error .einval := if_neg full
        rw [refused]
        apply iff_of_false nofun
        rintro ⟨later, same, _⟩
        cases later <;> cases same
      | some message =>
        have taken : appendMessage messages (some message) = .ok (messages ++ [message]) := if_neg full
        rw [taken]
        show encodings.foldlM appendMessage (messages ++ [message]) = .ok result ↔ _
        rw [ih, List.length_append, List.length_singleton]
        constructor
        · rintro ⟨later, rfl, rfl, room⟩
          refine ⟨message :: later, rfl, by rw [List.append_assoc]; rfl, .inr ?_⟩
          rw [List.length_cons]
          rcases room with rfl | room
          · rw [List.length_nil]
            omega
          · omega
        · rintro ⟨later, same, rfl, room⟩
          cases later with
          | nil => cases same
          | cons head later =>
            obtain ⟨first, rfl⟩ := List.cons.inj same
            rw [Option.some.inj first]
            refine ⟨later, rfl, by rw [List.append_assoc]; rfl, ?_⟩
            have small := room.resolve_left (List.cons_ne_nil _ _)
            rw [List.length_cons] at small
            exact .inr (by omega)

/-! Whatever is encoded is a message of its type. -/

theorem IsMessage.of_some {encoded : Option Bytes} {type : Nat} {message : Bytes}
    (same : encoded = some message) (shaped : ∃ whole, encoded = some whole ∧ IsMessage type whole) :
    IsMessage type message := by
  obtain ⟨whole, equal, isMessage⟩ := shaped
  rw [same, Option.some.injEq] at equal
  exact equal ▸ isMessage

theorem encodeBasicIdMessage_isMessage {data : BasicIdData} {message : Bytes}
    (encoded : encodeBasicIdMessage data = some message) (sized : ODID_ID_SIZE ≤ data.uasId.length) :
    IsMessage ODID_MESSAGETYPE_BASIC_ID message := by
  by_cases range : 15 < data.idType ∨ 15 < data.uaType
  · cases (if_pos range).symm.trans encoded
  · rw [not_or, not_lt, not_lt] at range
    exact .of_some encoded (encodeBasicIdMessage_some range.1 range.2 sized)

theorem encodeAuthMessage_isMessage {data : AuthData} {message : Bytes}
    (encoded : encodeAuthMessage data = some message)
    (sized : ODID_AUTH_PAGE_ZERO_DATA_SIZE ≤ data.authData.length) : IsMessage ODID_MESSAGETYPE_AUTH message := by
  have taken := encoded
  unfold encodeAuthMessage at taken
  split_ifs at taken with type page pages
  simp only [ODID_AUTH_MAX_PAGES, not_or, not_le, not_lt, Nat.lt_one_iff] at page pages
  refine .of_some encoded (encodeAuthMessage_some (not_lt.mp type) page pages.1 ?_ sized)
  rw [pages.1] at pages
  exact pages.2.2

theorem encodeSelfIdMessage_isMessage {data : SelfIdData} {message : Bytes}
    (encoded : encodeSelfIdMessage data = some message) : IsMessage ODID_MESSAGETYPE_SELF_ID message := by
  by_cases range : 255 < data.descType
  · cases (if_pos range).symm.trans encoded
  · exact .of_some encoded (encodeSelfIdMessage_some (not_lt.mp range))

theorem encodeOperatorIdMessage_isMessage {data : OperatorIdData} {message : Bytes}
    (encoded : encodeOperatorIdMessage data = some message) :
    IsMessage ODID_MESSAGETYPE_OPERATOR_ID message := by
  by_cases range : 255 < data.operatorIdType
  · cases (if_pos range).symm.trans encoded
  · exact .of_some encoded (encodeOperatorIdMessage_some (not_lt.mp range))

section
variable {K : Type} [Field K] [LinearOrder K] [FloorRing K]

theorem encodeLocationMessage_eq_some {data : LocationData K} :
    (∃ message, encodeLocationMessage data = some message) ↔
      data.enumsInRange = true ∧ data.inRange = true := by
  constructor
  · rintro ⟨message, encoded⟩
    unfold encodeLocationMessage at encoded
    split_ifs at encoded with enums range
    rw [Bool.not_eq_true, Bool.not_eq_false'] at enums range
    exact ⟨enums, range⟩
  · rintro ⟨enums, range⟩
    obtain ⟨message, encoded, _⟩ := encodeLocationMessage_some enums range
    exact ⟨message, encoded⟩

theorem encodeLocationMessage_isMessage {data : LocationData K} {message : Bytes}
    (encoded : encodeLocationMessage data = some message) : IsMessage ODID_MESSAGETYPE_LOCATION message := by
  obtain ⟨enums, range⟩ := encodeLocationMessage_eq_some.mp ⟨message, encoded⟩
  exact .of_some encoded (encodeLocationMessage_some enums range)

theorem encodeSystemMessage_eq_some {data : SystemData K} :
    (∃ message, encodeSystemMessage data = some message) ↔ data.inRange = true := by
  constructor
  · rintro ⟨message, encoded⟩
    unfold encodeSystemMessage at encoded
    split_ifs at encoded with range
    simpa using range
  · intro range
    obtain ⟨message, encoded, _⟩ := encodeSystemMessage_some range
    exact ⟨message, encoded⟩

theorem encodeSystemMessage_isMessage {data : SystemData K} {message : Bytes}
    (encoded : encodeSystemMessage data = some message) : IsMessage ODID_MESSAGETYPE_SYSTEM message :=
  .of_some encoded (encodeSystemMessage_some (encodeSystemMessage_eq_some.mp ⟨message, encoded⟩))

/-- The messages of a pack, kind by kind. -/
structure PackGroups where
  basicId : List Bytes
  location : List Bytes
  auth : List Bytes
  selfId : List Bytes
  system : List Bytes
  operatorId : List Bytes

def PackGroups.messages (groups : PackGroups) : List Bytes :=
  groups.basicId ++ groups.location ++ groups.auth ++ groups.selfId ++ groups.system ++ groups.operatorId

structure UasData.Packs (uas : UasData K) (groups : PackGroups) : Prop where
  basicId : (validData uas.basicId).map encodeBasicIdMessage = groups.basicId.map some
  location : (validData [uas.location]).map encodeLocationMessage = groups.location.map some
  auth : (validData uas.auth).map encodeAuthMessage = groups.auth.map some
  selfId : (validData [uas.selfId]).map encodeSelfIdMessage = groups.selfId.map some
  system : (validData [uas.system]).map encodeSystemMessage = groups.system.map some
  operatorId : (validData [uas.operatorId]).map encodeOperatorIdMessage = groups.operatorId.map some

theorem encodings_eq_iff {uas : UasData K} {messages : List Bytes} :
    uas.encodings = messages.map some ↔ ∃ groups : PackGroups, uas.Packs groups ∧ messages = groups.messages := by
  unfold UasData.encodings PackGroups.messages
  constructor
  · intro same
    obtain ⟨fifth, operatorId, rfl, same, operator⟩ := List.map_eq_append_iff.mp same.symm
    obtain ⟨fourth, system, rfl, same, system'⟩ := List.map_eq_append_iff.mp same
    obtain ⟨third, selfId, rfl, same, self'⟩ := List.map_eq_append_iff.mp same
    obtain ⟨second, auth, rfl, same, auth'⟩ := List.map_eq_append_iff.mp same
    obtain ⟨basicId, location, rfl, basic', location'⟩ := List.map_eq_append_iff.mp same
    exact ⟨⟨basicId, location, auth, selfId, system, operatorId⟩,
      ⟨basic'.symm, location'.symm, auth'.symm, self'.symm, system'.symm, operator.symm⟩, rfl⟩
  · rintro ⟨groups, packs, rfl⟩
    rw [packs.basicId, packs.location, packs.auth, packs.selfId, packs.system, packs.operatorId]
    simp only [List.map_append]

end

/-! A group of messages of one kind. -/

section
variable {Data Result : Type} {encode : Data → Option Bytes} {datas : List Data} {messages : List Bytes}

theorem group_length (encoded : datas.map encode = messages.map some) : messages.length = datas.length := by
  simpa using congrArg List.length encoded.symm

theorem group_mem (encoded : datas.map encode = messages.map some) {message : Bytes} (member : message ∈ messages) :
    ∃ data ∈ datas, encode data = some message := by
  have listed : some message ∈ datas.map encode := encoded ▸ List.mem_map_of_mem member
  obtain ⟨data, inside, same⟩ := List.mem_map.mp listed
  exact ⟨data, inside, same⟩

theorem group_decode {decode : Bytes → Option Result} {received : Data → Result}
    (decoded : ∀ data ∈ datas, ∀ message, encode data = some message → decode message = some (received data))
    (encoded : datas.map encode = messages.map some) : messages.filterMap decode = datas.map received := by
  induction datas generalizing messages with
  | nil =>
    rw [List.map_eq_nil_iff.mp encoded.symm]
    rfl
  | cons data datas ih =>
    cases messages with
    | nil => cases encoded
    | cons message messages =>
      obtain ⟨first, later⟩ := List.cons.inj encoded
      rw [List.filterMap_cons, decoded data List.mem_cons_self message first, List.map_cons,
        ih (fun data member => decoded data (List.mem_cons_of_mem _ member)) later]

theorem group_other {decode : Bytes → Option Result} {type : Nat}
    (shaped : ∀ message ∈ messages, IsMessage type message) (known : type ≤ ODID_MESSAGETYPE_OPERATOR_ID)
    {other : Nat} (differ : type ≠ other) (refuse : ∀ message, upperAt message 0 ≠ other → decode message = none) :
    messages.filterMap decode = [] := by
  rw [List.filterMap_eq_nil_iff]
  intro message member
  apply refuse
  rw [(decodeMessageType_eq_iff known).mp (shaped message member).type]
  exact differ

theorem group_types {type : Nat} (shaped : ∀ message ∈ messages, IsMessage type message) :
    (messages.map fun message => decodeMessageType (message.getD 0 0)) = List.replicate messages.length type := by
  rw [List.eq_replicate_iff]
  refine ⟨List.length_map _, ?_⟩
  intro other member
  obtain ⟨message, inside, rfl⟩ := List.mem_map.mp member
  exact (shaped message inside).type

end

structure PackGroups.Shaped (groups : PackGroups) : Prop where
  basicId : ∀ message ∈ groups.basicId, IsMessage ODID_MESSAGETYPE_BASIC_ID message
  location : ∀ message ∈ groups.location, IsMessage ODID_MESSAGETYPE_LOCATION message
  auth : ∀ message ∈ groups.auth, IsMessage ODID_MESSAGETYPE_AUTH message
  selfId : ∀ message ∈ groups.selfId, IsMessage ODID_MESSAGETYPE_SELF_ID message
  system : ∀ message ∈ groups.system, IsMessage ODID_MESSAGETYPE_SYSTEM message
  operatorId : ∀ message ∈ groups.operatorId, IsMessage ODID_MESSAGETYPE_OPERATOR_ID message
  counts : groups.basicId.length ≤ 2 ∧ groups.location.length ≤ 1 ∧ groups.auth.length ≤ 1 ∧
    groups.selfId.length ≤ 1 ∧ groups.system.length ≤ 1 ∧ groups.operatorId.length ≤ 1

theorem mem_validData {Data : Type} {entries : List (Entry Data)} {data : Data} (member : data ∈ validData entries) :
    ∃ entry ∈ entries, entry.data = data := by
  obtain ⟨entry, inside, same⟩ := List.mem_map.mp member
  exact ⟨entry, (List.mem_filter.mp inside).1, same⟩

theorem validData_length_le {Data : Type} (entries : List (Entry Data)) :
    (validData entries).length ≤ entries.length := by
  unfold validData
  rw [List.length_map]
  exact List.length_filter_le _ _

section
variable {K : Type} [Field K] [LinearOrder K] [FloorRing K]

theorem UasData.Packs.shaped {uas : UasData K} (wellFormed : uas.WellFormed) {groups : PackGroups}
    (packs : uas.Packs groups) :
    groups.Shaped where
  basicId message member := by
    obtain ⟨data, valid, encoded⟩ := group_mem packs.basicId member
    obtain ⟨entry, inside, rfl⟩ := mem_validData valid
    exact encodeBasicIdMessage_isMessage encoded (by rw [wellFormed.uasId entry inside]; exact Nat.le_succ _)
  location message member := by
    obtain ⟨data, _, encoded⟩ := group_mem packs.location member
    exact encodeLocationMessage_isMessage encoded
  auth message member := by
    obtain ⟨data, valid, encoded⟩ := group_mem packs.auth member
    obtain ⟨entry, inside, rfl⟩ := mem_validData valid
    exact encodeAuthMessage_isMessage encoded (by rw [wellFormed.authData entry inside]; decide)
  selfId message member := by
    obtain ⟨data, _, encoded⟩ := group_mem packs.selfId member
    exact encodeSelfIdMessage_isMessage encoded
  system message member := by
    obtain ⟨data, _, encoded⟩ := group_mem packs.system member
    exact encodeSystemMessage_isMessage encoded
  operatorId message member := by
    obtain ⟨data, _, encoded⟩ := group_mem packs.operatorId member
    exact encodeOperatorIdMessage_isMessage encoded
  counts := by
    have basicIds := validData_length_le uas.basicId
    have auths := validData_length_le uas.auth
    rw [wellFormed.basicId] at basicIds
    rw [wellFormed.auth] at auths
    rw [group_length packs.basicId, group_length packs.location, group_length packs.auth,
      group_length packs.selfId, group_length packs.system, group_length packs.operatorId]
    exact ⟨basicIds, validData_length_le _, auths, validData_length_le _, validData_length_le _,
      validData_length_le _⟩

end

theorem PackGroups.Shaped.length_le {groups : PackGroups} (shaped : groups.Shaped) :
    groups.messages.length ≤ 7 := by
  obtain ⟨basicId, location, auth, selfId, system, operatorId⟩ := shaped.counts
  simp only [PackGroups.messages, List.length_append]
  omega

theorem PackGroups.Shaped.message_length {groups : PackGroups} (shaped : groups.Shaped) {message : Bytes}
    (member : message ∈ groups.messages) : message.length = ODID_MESSAGE_SIZE := by
  simp only [PackGroups.messages, List.mem_append] at member
  rcases member with ((((basicId | location) | auth) | selfId) | system) | operatorId
  · exact (shaped.basicId message basicId).length
  · exact (shaped.location message location).length
  · exact (shaped.auth message auth).length
  · exact (shaped.selfId message selfId).length
  · exact (shaped.system message system).length
  · exact (shaped.operatorId message operatorId).length

theorem PackGroups.Shaped.content {groups : PackGroups} (shaped : groups.Shaped) (some : groups.messages ≠ []) :
    checkPackContent groups.messages = true := by
  have positive := List.length_pos_iff.mpr some
  have most := shaped.length_le
  obtain ⟨basicId, location, auth, selfId, system, operatorId⟩ := shaped.counts
  have types : (groups.messages.map fun message => decodeMessageType (message.getD 0 0)) =
      List.replicate groups.basicId.length ODID_MESSAGETYPE_BASIC_ID ++
        List.replicate groups.location.length ODID_MESSAGETYPE_LOCATION ++
        List.replicate groups.auth.length ODID_MESSAGETYPE_AUTH ++
        List.replicate groups.selfId.length ODID_MESSAGETYPE_SELF_ID ++
        List.replicate groups.system.length ODID_MESSAGETYPE_SYSTEM ++
        List.replicate groups.operatorId.length ODID_MESSAGETYPE_OPERATOR_ID := by
    rw [← group_types shaped.basicId, ← group_types shaped.location, ← group_types shaped.auth,
      ← group_types shaped.selfId, ← group_types shaped.system, ← group_types shaped.operatorId]
    simp only [PackGroups.messages, List.map_append]
  unfold checkPackContent
  dsimp only
  rw [types]
  simp [List.count_replicate, ODID_MESSAGETYPE_BASIC_ID, ODID_MESSAGETYPE_LOCATION, ODID_MESSAGETYPE_AUTH,
    ODID_MESSAGETYPE_SELF_ID, ODID_MESSAGETYPE_SYSTEM, ODID_MESSAGETYPE_OPERATOR_ID, ODID_PACK_MAX_MESSAGES,
    ODID_BASIC_ID_MAX_MESSAGES, ODID_AUTH_MAX_PAGES]
  exact ⟨decide_eq_true ⟨positive, by omega⟩, basicId, location, auth, selfId, system, operatorId⟩

theorem PackGroups.Shaped.others {groups : PackGroups} (shaped : groups.Shaped) {Result : Type}
    {decode : Bytes → Option Result} {type : Nat}
    (refuse : ∀ message, upperAt message 0 ≠ type → decode message = none) :
    (ODID_MESSAGETYPE_BASIC_ID ≠ type → groups.basicId.filterMap decode = []) ∧
      (ODID_MESSAGETYPE_LOCATION ≠ type → groups.location.filterMap decode = []) ∧
      (ODID_MESSAGETYPE_AUTH ≠ type → groups.auth.filterMap decode = []) ∧
      (ODID_MESSAGETYPE_SELF_ID ≠ type → groups.selfId.filterMap decode = []) ∧
      (ODID_MESSAGETYPE_SYSTEM ≠ type → groups.system.filterMap decode = []) ∧
      (ODID_MESSAGETYPE_OPERATOR_ID ≠ type → groups.operatorId.filterMap decode = []) :=
  ⟨fun differ => group_other shaped.basicId (by decide) differ refuse,
    fun differ => group_other shaped.location (by decide) differ refuse,
    fun differ => group_other shaped.auth (by decide) differ refuse,
    fun differ => group_other shaped.selfId (by decide) differ refuse,
    fun differ => group_other shaped.system (by decide) differ refuse,
    fun differ => group_other shaped.operatorId (by decide) differ refuse⟩

theorem PackGroups.filterMap_messages (groups : PackGroups) {Result : Type} (decode : Bytes → Option Result) :
    groups.messages.filterMap decode = groups.basicId.filterMap decode ++ groups.location.filterMap decode ++
      groups.auth.filterMap decode ++ groups.selfId.filterMap decode ++ groups.system.filterMap decode ++
      groups.operatorId.filterMap decode := by
  simp only [PackGroups.messages, List.filterMap_append]

/-! Packs of messages of one size. -/

def packOf (messages : List Bytes) : Bytes :=
  [header ODID_MESSAGETYPE_PACKED, UInt8.ofNat ODID_MESSAGE_SIZE, UInt8.ofNat messages.length] ++ messages.flatten

theorem bytesAt_flatten {messages : List Bytes} {size : Nat}
    (sized : ∀ message ∈ messages, message.length = size) (index : Nat) :
    bytesAt messages.flatten (index * size) size = messages.getD index [] := by
  induction messages generalizing index with
  | nil => simp [bytesAt]
  | cons message messages ih =>
    have first := sized message List.mem_cons_self
    rw [List.flatten_cons]
    cases index with
    | zero =>
      rw [Nat.zero_mul, bytesAt_append_left first]
      rfl
    | succ index =>
      have behind : message.length ≤ (index + 1) * size := by
        rw [first, Nat.succ_mul]
        omega
      rw [bytesAt_append behind, first, Nat.succ_mul, Nat.add_sub_cancel,
        ih fun message member => sized message (List.mem_cons_of_mem _ member)]
      rfl

/-- A pack is taken apart into the messages it was made of. -/
theorem packMessages_packOf {messages : List Bytes} (few : messages.length < 256)
    (sized : ∀ message ∈ messages, message.length = ODID_MESSAGE_SIZE) :
    packMessages (packOf messages) = messages := by
  have amount : byteAt (packOf messages) 2 = messages.length := by
    show (UInt8.ofNat messages.length).toNat = messages.length
    rw [UInt8.toNat_ofNat', Nat.mod_eq_of_lt few]
  unfold packMessages
  rw [amount]
  apply List.ext_getElem
  · rw [List.length_map, List.length_range]
  · intro index inside within
    have content : bytesAt (packOf messages) (3 + index * ODID_MESSAGE_SIZE) ODID_MESSAGE_SIZE =
        bytesAt messages.flatten (index * ODID_MESSAGE_SIZE) ODID_MESSAGE_SIZE := by
      unfold packOf
      rw [bytesAt_append (Nat.le_add_right 3 _)]
      congr 1
      exact Nat.add_sub_cancel_left 3 _
    rw [List.getElem_map, List.getElem_range, content, bytesAt_flatten sized, List.getD_eq_getElem?_getD,
      List.getElem?_eq_getElem within, Option.getD_some]

/-- What is decoded of a pack that the library made. -/
theorem contents_packOf {groups : PackGroups} (shaped : groups.Shaped) (some : groups.messages ≠ []) :
    contents (packOf groups.messages) = groups.messages := by
  have few := shaped.length_le
  have messages := @packMessages_packOf groups.messages (by omega) fun _ => shaped.message_length
  have packed : decodeMessageType ((packOf groups.messages).getD 0 0) = ODID_MESSAGETYPE_PACKED := by
    show decodeMessageType (header ODID_MESSAGETYPE_PACKED) = ODID_MESSAGETYPE_PACKED
    decide
  have size : byteAt (packOf groups.messages) 1 = ODID_MESSAGE_SIZE := rfl
  unfold contents
  rw [if_pos packed, messages, if_pos ⟨size, shaped.content some⟩]

section
variable {K : Type} [Field K] [LinearOrder K] [FloorRing K]

/-- A pack is built exactly if some entry is valid, all valid ones can be encoded and the buffer is large
enough. -/
theorem odidMessageBuildPack_eq_ok {uas : UasData K} (wellFormed : uas.WellFormed) {buflen : Nat} {pack : Bytes} :
    odidMessageBuildPack uas buflen = .ok pack ↔ ∃ groups : PackGroups, uas.Packs groups ∧
      groups.messages ≠ [] ∧ 3 + groups.messages.length * ODID_MESSAGE_SIZE ≤ buflen ∧
      pack = packOf groups.messages := by
  have built : ∀ {groups : PackGroups}, groups.Shaped → groups.messages ≠ [] →
      encodeMessagePack groups.messages = some (packOf groups.messages) := by
    intro groups shaped some
    unfold encodeMessagePack
    rw [shaped.content some]
    rfl
  constructor
  · intro made
    unfold odidMessageBuildPack at made
    cases looped : uas.encodings.foldlM appendMessage [] with
    | error error =>
      rw [looped] at made
      cases made
    | ok messages =>
      obtain ⟨later, encoded, rfl, _⟩ := (foldlM_appendMessage _ _ _).mp looped
      obtain ⟨groups, packs, rfl⟩ := encodings_eq_iff.mp encoded
      rw [looped] at made
      dsimp only [List.nil_append] at made
      split_ifs at made with none small
      have some : groups.messages ≠ [] := List.length_pos_iff.mp (Nat.pos_of_ne_zero none)
      rw [built (packs.shaped wellFormed) some] at made
      exact ⟨groups, packs, some, Nat.not_lt.mp small, (Except.ok.inj made).symm⟩
  · rintro ⟨groups, packs, some, room, rfl⟩
    have shaped := packs.shaped wellFormed
    have few := shaped.length_le
    have looped : uas.encodings.foldlM appendMessage [] = .ok groups.messages :=
      (foldlM_appendMessage _ _ _).mpr ⟨groups.messages, encodings_eq_iff.mpr ⟨groups, packs, rfl⟩, rfl,
        .inr (by unfold ODID_PACK_MAX_MESSAGES; rw [List.length_nil]; omega)⟩
    have positive : groups.messages.length ≠ 0 := (List.length_pos_iff.mpr some).ne'
    unfold odidMessageBuildPack
    rw [looped]
    dsimp only
    rw [if_neg positive, if_neg (Nat.not_lt.mpr room), built shaped some]

end

/-! ## What a receiver makes of a pack -/

/-- The entry of a receiver that was initialised before it decoded the pack. -/
def Entry.received {Data : Type} (received : Data → Data) (initial : Data) (entry : Entry Data) : Entry Data :=
  if entry.valid then ⟨received entry.data, true⟩ else ⟨initial, false⟩

theorem update_received {Data : Type} (received : Data → Data) (initial : Data) (entry : Entry Data) :
    Entry.update ⟨initial, false⟩ ((validData [entry]).map received).getLast? = entry.received received initial := by
  obtain ⟨data, valid⟩ := entry
  cases valid <;> rfl

section
variable {K : Type} [Field K] [LinearOrder K] [IsStrictOrderedRing K] [FloorRing K]

/-- The slots that the valid identifications come to. -/
def receivedBasicIds (entries : List (Entry BasicIdData)) : List (Entry BasicIdData) :=
  ((validData entries).map fun data => ⟨data.received, true⟩).foldl
    (SlotTable.offer entryType ODID_IDTYPE_NONE)
    (List.replicate ODID_BASIC_ID_MAX_MESSAGES ⟨initBasicIdData, false⟩)

def UasData.received (uas : UasData K) : UasData K where
  basicId := receivedBasicIds uas.basicId
  location := uas.location.received LocationData.received initLocationData
  auth := uas.auth.map (Entry.received AuthData.received initAuthData)
  selfId := uas.selfId.received SelfIdData.received initSelfIdData
  system := uas.system.received SystemData.received initSystemData
  operatorId := uas.operatorId.received OperatorIdData.received initOperatorIdData

/-- Each decoder finds its own group in a pack, as it was encoded. -/
structure PackGroups.Decoded (groups : PackGroups) (uas : UasData K) : Prop where
  basicId : groups.messages.filterMap decodeBasicIdMessage = (validData uas.basicId).map BasicIdData.received
  location : groups.messages.filterMap decodeLocationMessage =
    (validData [uas.location]).map LocationData.received
  auth : groups.messages.filterMap decodeAuthMessage = (validData uas.auth).map AuthData.received
  selfId : groups.messages.filterMap decodeSelfIdMessage = (validData [uas.selfId]).map SelfIdData.received
  system : groups.messages.filterMap decodeSystemMessage = (validData [uas.system]).map SystemData.received
  operatorId : groups.messages.filterMap decodeOperatorIdMessage =
    (validData [uas.operatorId]).map OperatorIdData.received

theorem UasData.Packs.decoded {uas : UasData K} (wellFormed : uas.WellFormed) {groups : PackGroups}
    (packs : uas.Packs groups) : groups.Decoded uas where
  basicId := by
    obtain ⟨_, location, auth, selfId, system, operatorId⟩ :=
      (packs.shaped wellFormed).others fun message => (@decode_other K _ message).1
    have own := @group_decode _ _ _ _ _ decodeBasicIdMessage BasicIdData.received
      (fun data valid message encoded => by
        obtain ⟨entry, inside, rfl⟩ := mem_validData valid
        exact decodeBasicIdMessage_encode encoded (by rw [wellFormed.uasId entry inside]; exact Nat.le_succ _))
      packs.basicId
    rw [groups.filterMap_messages, own, location (by decide), auth (by decide), selfId (by decide),
      system (by decide), operatorId (by decide)]
    simp
  location := by
    obtain ⟨basicId, _, auth, selfId, system, operatorId⟩ :=
      (packs.shaped wellFormed).others fun message => (@decode_other K _ message).2.1
    have own := group_decode (fun _ _ _ encoded => decodeLocationMessage_encode encoded) packs.location
    rw [groups.filterMap_messages, own, basicId (by decide), auth (by decide), selfId (by decide),
      system (by decide), operatorId (by decide)]
    simp
  auth := by
    obtain ⟨basicId, location, _, selfId, system, operatorId⟩ :=
      (packs.shaped wellFormed).others fun message => (@decode_other K _ message).2.2.1
    have own := @group_decode _ _ _ _ _ decodeAuthMessage AuthData.received
      (fun data valid message encoded => by
        obtain ⟨entry, inside, rfl⟩ := mem_validData valid
        exact decodeAuthMessage_encode encoded (by rw [wellFormed.authData entry inside]; decide))
      packs.auth
    rw [groups.filterMap_messages, own, basicId (by decide), location (by decide), selfId (by decide),
      system (by decide), operatorId (by decide)]
    simp
  selfId := by
    obtain ⟨basicId, location, auth, _, system, operatorId⟩ :=
      (packs.shaped wellFormed).others fun message => (@decode_other K _ message).2.2.2.1
    have own := group_decode (fun _ _ _ encoded => decodeSelfIdMessage_encode encoded) packs.selfId
    rw [groups.filterMap_messages, own, basicId (by decide), location (by decide), auth (by decide),
      system (by decide), operatorId (by decide)]
    simp
  system := by
    obtain ⟨basicId, location, auth, selfId, _, operatorId⟩ :=
      (packs.shaped wellFormed).others fun message => (@decode_other K _ message).2.2.2.2.1
    have own := group_decode (fun _ _ _ encoded => decodeSystemMessage_encode encoded) packs.system
    rw [groups.filterMap_messages, own, basicId (by decide), location (by decide), auth (by decide),
      selfId (by decide), operatorId (by decide)]
    simp
  operatorId := by
    obtain ⟨basicId, location, auth, selfId, system, _⟩ :=
      (packs.shaped wellFormed).others fun message => (@decode_other K _ message).2.2.2.2.2
    have own := group_decode (fun _ _ _ encoded => decodeOperatorIdMessage_encode encoded) packs.operatorId
    rw [groups.filterMap_messages, own, basicId (by decide), location (by decide), auth (by decide),
      selfId (by decide), system (by decide)]
    simp

theorem foldl_update_groups {uas : UasData K} (wellFormed : uas.WellFormed) {groups : PackGroups}
    (packs : uas.Packs groups) : groups.messages.foldl UasData.update initUasData = uas.received := by
  have decoded := packs.decoded wellFormed
  have latest : Latest groups.messages (groups.messages.foldl UasData.update (initUasData : UasData K)) :=
    latest_foldl groups.messages
  have basicId := basicId_foldl groups.messages (initUasData : UasData K)
  obtain ⟨entry, single⟩ := List.length_eq_one_iff.mp wellFormed.auth
  have auth := latest.auth
  have location := latest.location
  have selfId := latest.selfId
  have system := latest.system
  have operatorId := latest.operatorId
  rw [decoded.basicId] at basicId
  rw [decoded.location, update_received] at location
  rw [decoded.auth, single, update_received] at auth
  rw [decoded.selfId, update_received] at selfId
  rw [decoded.system, update_received] at system
  rw [decoded.operatorId, update_received] at operatorId
  generalize groups.messages.foldl UasData.update (initUasData : UasData K) = uas' at *
  obtain ⟨_, _, _, _, _, _⟩ := uas'
  dsimp only at basicId location auth selfId system operatorId
  rw [List.map_map] at basicId
  rw [basicId, location, auth, selfId, system, operatorId, UasData.received, single]
  rfl

theorem decode_built {uas : UasData K} (wellFormed : uas.WellFormed) {buflen : Nat} {pack : Bytes}
    (built : odidMessageBuildPack uas buflen = .ok pack) :
    decodeOpenDroneId initUasData pack = (ODID_MESSAGETYPE_PACKED, uas.received) := by
  obtain ⟨groups, packs, some, _, rfl⟩ := (odidMessageBuildPack_eq_ok wellFormed).mp built
  have shaped := packs.shaped wellFormed
  have decoded := decodeOpenDroneId_eq (initUasData : UasData K) (packOf groups.messages)
  rw [contents_packOf shaped some, foldl_update_groups wellFormed packs] at decoded
  have accepted : (decodeOpenDroneId (initUasData : UasData K) (packOf groups.messages)).1 =
      ODID_MESSAGETYPE_PACKED := by
    have messages := @packMessages_packOf groups.messages
      (Nat.lt_of_le_of_lt shaped.length_le (by decide)) fun _ => shaped.message_length
    have packed : decodeMessageType ((packOf groups.messages).getD 0 0) = ODID_MESSAGETYPE_PACKED := by
      show decodeMessageType (header ODID_MESSAGETYPE_PACKED) = ODID_MESSAGETYPE_PACKED
      decide
    have size : byteAt (packOf groups.messages) 1 = ODID_MESSAGE_SIZE := rfl
    unfold decodeOpenDroneId decodeMessagePack
    rw [if_pos packed, if_neg (not_not.mpr (upperAt_of_packed packed)), if_neg (not_not.mpr size), messages,
      shaped.content some]
    rfl
  exact Prod.ext accepted decoded

end

end RidFirmware.Odid
