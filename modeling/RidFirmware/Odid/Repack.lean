import RidFirmware.Odid.MessagePack

/-! What a decoded pack says about the data it was built from, and the pack that is built of it again. -/

namespace RidFirmware.Odid
open Lib Lib.Ieee Lib.Wire

/-! Identifications. -/

theorem mem_offer {slots : List (Entry BasicIdData)} {item slot : Entry BasicIdData}
    (member : slot ∈ SlotTable.offer entryType ODID_IDTYPE_NONE slots item) : slot ∈ slots ∨ slot = item := by
  have stored : ∀ {slots after : List (Entry BasicIdData)},
      SlotTable.put entryType ODID_IDTYPE_NONE slots item = some after → slot ∈ after → slot ∈ slots ∨ slot = item := by
    intro slots
    induction slots with
    | nil => nofun
    | cons first rest ih =>
      intro after put member
      rw [SlotTable.put] at put
      split_ifs at put
      · rw [← Option.some.inj put, List.mem_cons] at member
        rcases member with same | later
        · exact .inr same
        · exact .inl (List.mem_cons_of_mem _ later)
      · obtain ⟨later, inner, rfl⟩ := Option.map_eq_some_iff.mp put
        rcases List.mem_cons.mp member with rfl | inside
        · exact .inl List.mem_cons_self
        · exact (ih inner inside).imp_left (List.mem_cons_of_mem _)
  unfold SlotTable.offer at member
  cases put : SlotTable.put entryType ODID_IDTYPE_NONE slots item with
  | none =>
    rw [put] at member
    exact .inl member
  | some after =>
    rw [put] at member
    exact stored put member

theorem mem_receivedBasicIds {entries : List (Entry BasicIdData)} {slot : Entry BasicIdData}
    (member : slot ∈ receivedBasicIds entries) :
    slot = ⟨initBasicIdData, false⟩ ∨ ∃ data ∈ validData entries, slot = ⟨data.received, true⟩ := by
  unfold receivedBasicIds at member
  generalize validData entries = datas at member ⊢
  induction datas using List.reverseRecOn with
  | nil => exact .inl (List.eq_of_mem_replicate member)
  | append_singleton datas data ih =>
    rw [List.map_append, List.foldl_append] at member
    rcases mem_offer member with early | last
    · exact (ih early).imp_right fun parts => by
        obtain ⟨data, inside, same⟩ := parts
        exact ⟨data, List.mem_append_left _ inside, same⟩
    · exact .inr ⟨data, List.mem_append_right _ List.mem_cons_self, last⟩

def emptySlot : Entry BasicIdData := ⟨initBasicIdData, false⟩

/-- The second identification takes the place of the first one. -/
def Collides (first second : BasicIdData) : Prop :=
  first.idType = ODID_IDTYPE_NONE ∨ first.idType = second.idType

instance (first second : BasicIdData) : Decidable (Collides first second) := instDecidableOr

theorem receivedBasicIds_none {entries : List (Entry BasicIdData)} (valid : validData entries = []) :
    receivedBasicIds entries = [emptySlot, emptySlot] := by
  unfold receivedBasicIds
  rw [valid]
  rfl

theorem receivedBasicIds_one {entries : List (Entry BasicIdData)} {data : BasicIdData}
    (valid : validData entries = [data]) :
    receivedBasicIds entries = [⟨data.received, true⟩, emptySlot] := by
  unfold receivedBasicIds
  rw [valid]
  rfl

theorem receivedBasicIds_two {entries : List (Entry BasicIdData)} {first second : BasicIdData}
    (valid : validData entries = [first, second]) :
    receivedBasicIds entries =
      if Collides first second then [⟨second.received, true⟩, emptySlot]
      else [⟨first.received, true⟩, ⟨second.received, true⟩] := by
  have offered : SlotTable.offer entryType ODID_IDTYPE_NONE [emptySlot, emptySlot] ⟨first.received, true⟩ =
      [⟨first.received, true⟩, emptySlot] := rfl
  unfold receivedBasicIds
  rw [valid]
  show SlotTable.offer entryType ODID_IDTYPE_NONE (SlotTable.offer entryType ODID_IDTYPE_NONE
    [emptySlot, emptySlot] ⟨first.received, true⟩) ⟨second.received, true⟩ = _
  rw [offered, SlotTable.offer, SlotTable.put]
  by_cases collides : Collides first second
  · have same : entryType ⟨first.received, true⟩ = ODID_IDTYPE_NONE ∨
        entryType ⟨first.received, true⟩ = entryType ⟨second.received, true⟩ := collides
    rw [if_pos collides, if_pos same]
    rfl
  · have apart : ¬(entryType ⟨first.received, true⟩ = ODID_IDTYPE_NONE ∨
        entryType ⟨first.received, true⟩ = entryType ⟨second.received, true⟩) := collides
    rw [if_neg collides, if_neg apart]
    rfl

theorem validData_cases {entries : List (Entry BasicIdData)}
    (sized : entries.length = ODID_BASIC_ID_MAX_MESSAGES) :
    validData entries = [] ∨ (∃ data, validData entries = [data]) ∨
      ∃ first second, validData entries = [first, second] := by
  have most := validData_length_le entries
  rw [sized, ODID_BASIC_ID_MAX_MESSAGES] at most
  generalize validData entries = datas at most ⊢
  rcases datas with _ | ⟨first, _ | ⟨second, _ | ⟨third, rest⟩⟩⟩
  · exact .inl rfl
  · exact .inr (.inl ⟨first, rfl⟩)
  · exact .inr (.inr ⟨first, second, rfl⟩)
  · simp only [List.length_cons] at most
    omega

theorem validData_receivedBasicIds {entries : List (Entry BasicIdData)}
    (sized : entries.length = ODID_BASIC_ID_MAX_MESSAGES) :
    validData (receivedBasicIds entries) = (validData entries).map BasicIdData.received ↔
      ∀ first second, validData entries = [first, second] → ¬Collides first second := by
  rcases validData_cases sized with none | ⟨data, one⟩ | ⟨first, second, two⟩
  · rw [receivedBasicIds_none none, none]
    exact iff_of_true rfl nofun
  · rw [receivedBasicIds_one one, one]
    exact iff_of_true rfl nofun
  · rw [receivedBasicIds_two two, two]
    by_cases collides : Collides first second
    · rw [if_pos collides]
      apply iff_of_false
      · intro same
        cases congrArg List.length same
      · intro apart
        exact apart first second rfl collides
    · rw [if_neg collides]
      refine iff_of_true rfl ?_
      intro first' second' same
      obtain ⟨rfl, tail⟩ := List.cons.inj same
      obtain ⟨rfl, _⟩ := List.cons.inj tail
      exact collides

theorem validData_receivedBasicIds_length {entries : List (Entry BasicIdData)}
    (sized : entries.length = ODID_BASIC_ID_MAX_MESSAGES) :
    (validData (receivedBasicIds entries)).length ≤ (validData entries).length ∧
      (0 < (validData entries).length → 0 < (validData (receivedBasicIds entries)).length) := by
  rcases validData_cases sized with none | ⟨data, one⟩ | ⟨first, second, two⟩
  · rw [none]
    exact ⟨by rw [receivedBasicIds_none none]; exact le_refl 0, fun positive => absurd positive (Nat.lt_irrefl 0)⟩
  · rw [receivedBasicIds_one one, one]
    exact ⟨le_refl 1, fun _ => Nat.one_pos⟩
  · rw [receivedBasicIds_two two, two]
    split_ifs
    · exact ⟨Nat.le_succ 1, fun _ => Nat.one_pos⟩
    · exact ⟨le_refl 2, fun _ => Nat.two_pos⟩

theorem receivedBasicIds_receivedBasicIds {entries : List (Entry BasicIdData)}
    (sized : entries.length = ODID_BASIC_ID_MAX_MESSAGES)
    (uasId : ∀ data ∈ validData entries, ODID_ID_SIZE ≤ data.uasId.length) :
    receivedBasicIds (receivedBasicIds entries) = receivedBasicIds entries := by
  have again : ∀ data ∈ validData entries, data.received.received = data.received :=
    fun data member => data.received_received (uasId data member)
  rcases validData_cases sized with none | ⟨data, one⟩ | ⟨first, second, two⟩
  · rw [receivedBasicIds_none none, receivedBasicIds_none rfl]
  · rw [receivedBasicIds_one one, receivedBasicIds_one rfl, again data (by rw [one]; exact List.mem_cons_self)]
  · rw [two] at again
    rw [receivedBasicIds_two two]
    have first' := again first List.mem_cons_self
    have second' := again second (List.mem_cons_of_mem _ List.mem_cons_self)
    split_ifs with collides
    · rw [receivedBasicIds_one rfl, second']
    · have apart : ¬Collides first.received second.received := collides
      rw [receivedBasicIds_two rfl, if_neg apart, first', second']

theorem receivedBasicIds_length (entries : List (Entry BasicIdData)) :
    (receivedBasicIds entries).length = ODID_BASIC_ID_MAX_MESSAGES := by
  unfold receivedBasicIds
  generalize (validData entries).map (fun data => (⟨data.received, true⟩ : Entry BasicIdData)) = items
  induction items using List.reverseRecOn with
  | nil => rfl
  | append_singleton items item ih =>
    rw [List.foldl_append, List.foldl_cons, List.foldl_nil, SlotTable.offer_length, ih]

/-! Entries of the other kinds. -/

section
variable {Data : Type} {received : Data → Data} {initial : Data}

theorem validData_received (entry : Entry Data) :
    validData [entry.received received initial] = (validData [entry]).map received := by
  obtain ⟨data, valid⟩ := entry
  cases valid <;> rfl

theorem Entry.received_received (again : ∀ data, received (received data) = received data) (entry : Entry Data) :
    (entry.received received initial).received received initial = entry.received received initial := by
  obtain ⟨data, valid⟩ := entry
  cases valid with
  | false => rfl
  | true => exact congrArg (Entry.mk · true) (again data)

theorem group_received {encode : Data → Option Bytes} {datas later : List Data} {messages : List Bytes}
    (keeps : ∀ data ∈ datas, (∃ message, encode data = some message) →
      ∃ message, encode (received data) = some message)
    (origin : ∀ data ∈ later, ∃ source ∈ datas, data = received source)
    (encoded : datas.map encode = messages.map some) :
    ∃ again : List Bytes, later.map encode = again.map some := by
  induction later with
  | nil => exact ⟨[], rfl⟩
  | cons data later ih =>
    obtain ⟨again, rest⟩ := ih fun data member => origin data (List.mem_cons_of_mem _ member)
    obtain ⟨source, inside, rfl⟩ := origin data List.mem_cons_self
    have listed : encode source ∈ messages.map some := encoded ▸ List.mem_map_of_mem inside
    obtain ⟨message, _, same⟩ := List.mem_map.mp listed
    obtain ⟨new, taken⟩ := keeps source inside ⟨message, same.symm⟩
    exact ⟨new :: again, by rw [List.map_cons, List.map_cons, taken, rest]⟩

end

/-! What is decoded can be encoded. -/

theorem encodeBasicIdMessage_received {data : BasicIdData}
    (encoded : ∃ message, encodeBasicIdMessage data = some message) :
    ∃ message, encodeBasicIdMessage data.received = some message := by
  obtain ⟨message, taken⟩ := encoded
  by_cases range : 15 < data.idType ∨ 15 < data.uaType
  · cases (if_pos range).symm.trans taken
  · exact ⟨_, if_neg range⟩

theorem encodeAuthMessage_received {data : AuthData}
    (encoded : ∃ message, encodeAuthMessage data = some message) :
    ∃ message, encodeAuthMessage data.received = some message := by
  obtain ⟨message, taken⟩ := encoded
  unfold encodeAuthMessage at taken
  split_ifs at taken with type page pages
  exact ⟨_, (if_neg type).trans ((if_neg page).trans (if_neg pages))⟩

theorem encodeSelfIdMessage_received {data : SelfIdData}
    (encoded : ∃ message, encodeSelfIdMessage data = some message) :
    ∃ message, encodeSelfIdMessage data.received = some message := by
  obtain ⟨message, taken⟩ := encoded
  by_cases range : 255 < data.descType
  · cases (if_pos range).symm.trans taken
  · exact ⟨_, if_neg range⟩

theorem encodeOperatorIdMessage_received {data : OperatorIdData}
    (encoded : ∃ message, encodeOperatorIdMessage data = some message) :
    ∃ message, encodeOperatorIdMessage data.received = some message := by
  obtain ⟨message, taken⟩ := encoded
  by_cases range : 255 < data.operatorIdType
  · cases (if_pos range).symm.trans taken
  · exact ⟨_, if_neg range⟩

section
variable {K : Type} [Field K] [LinearOrder K] [IsStrictOrderedRing K] [FloorRing K]

theorem encodeLocationMessage_received {data : LocationData K}
    (encoded : ∃ message, encodeLocationMessage data = some message) :
    ∃ message, encodeLocationMessage data.received = some message := by
  obtain ⟨enums, range⟩ := encodeLocationMessage_eq_some.mp encoded
  exact encodeLocationMessage_eq_some.mpr ⟨enums, LocationData.inRange_received range⟩

theorem encodeSystemMessage_received {data : SystemData K}
    (encoded : ∃ message, encodeSystemMessage data = some message) :
    ∃ message, encodeSystemMessage data.received = some message :=
  encodeSystemMessage_eq_some.mpr (SystemData.inRange_received (encodeSystemMessage_eq_some.mp encoded))

theorem mem_validData_receivedBasicIds {entries : List (Entry BasicIdData)} {data : BasicIdData}
    (member : data ∈ validData (receivedBasicIds entries)) :
    ∃ source ∈ validData entries, data = source.received := by
  obtain ⟨slot, kept, rfl⟩ := List.mem_map.mp member
  obtain ⟨inside, valid⟩ := List.mem_filter.mp kept
  rcases mem_receivedBasicIds inside with rfl | ⟨source, listed, rfl⟩
  · cases valid
  · exact ⟨source, listed, rfl⟩

theorem UasData.WellFormed.received {uas : UasData K} (wellFormed : uas.WellFormed) : uas.received.WellFormed where
  basicId := receivedBasicIds_length uas.basicId
  auth := (List.length_map _).trans wellFormed.auth
  uasId entry member := by
    rcases mem_receivedBasicIds member with rfl | ⟨source, listed, rfl⟩
    · rfl
    · obtain ⟨origin, inside, rfl⟩ := mem_validData listed
      have sized := wellFormed.uasId origin inside
      show (if _ then _ else _ : Bytes).length = _
      split_ifs
      · rw [List.length_append, strncpy_length]
        rfl
      · rw [List.length_append, List.length_take_of_le (by rw [sized]; exact Nat.le_succ _)]
        rfl
  authData entry member := by
    obtain ⟨origin, inside, rfl⟩ := List.mem_map.mp member
    have sized := wellFormed.authData origin inside
    unfold Entry.received
    split_ifs
    · show (origin.data.authData.take _ ++ _).length = _
      rw [List.length_append, List.length_take_of_le (by rw [sized]; decide), List.length_replicate]
      rfl
    · rfl
  location valid := by
    show (uas.location.received LocationData.received initLocationData).data.isFinite = true
    unfold Entry.received
    split_ifs <;> rfl
  system valid := by
    show (uas.system.received SystemData.received initSystemData).data.isFinite = true
    unfold Entry.received
    split_ifs <;> rfl

/-- The second time nothing changes. -/
theorem UasData.received_received {uas : UasData K} (wellFormed : uas.WellFormed) :
    uas.received.received = uas.received := by
  obtain ⟨entry, single⟩ := List.length_eq_one_iff.mp wellFormed.auth
  have authData := wellFormed.authData entry (by rw [single]; exact List.mem_cons_self)
  have auth : (entry.received AuthData.received initAuthData).received AuthData.received initAuthData =
      entry.received AuthData.received initAuthData := by
    obtain ⟨data, valid⟩ := entry
    cases valid with
    | false => rfl
    | true => exact congrArg (Entry.mk · true) (data.received_received (by rw [authData]; decide))
  have basicId := receivedBasicIds_receivedBasicIds wellFormed.basicId fun data valid => by
    obtain ⟨origin, inside, rfl⟩ := mem_validData valid
    rw [wellFormed.uasId origin inside]
    exact Nat.le_succ _
  unfold UasData.received
  dsimp only
  rw [single, List.map_singleton, List.map_singleton, auth, basicId,
    Entry.received_received LocationData.received_received,
    Entry.received_received SelfIdData.received_received, Entry.received_received SystemData.received_received,
    Entry.received_received OperatorIdData.received_received]

/-! ## Packs of what has been decoded -/

theorem packOf_length {messages : List Bytes} (sized : ∀ message ∈ messages, message.length = ODID_MESSAGE_SIZE) :
    (packOf messages).length = 3 + messages.length * ODID_MESSAGE_SIZE := by
  unfold packOf
  rw [List.length_append, List.length_flatten, List.map_congr_left sized, List.map_const', List.sum_replicate_nat]
  rfl

omit [IsStrictOrderedRing K] in
theorem UasData.Packs.length {uas : UasData K} {groups : PackGroups} (packs : uas.Packs groups) :
    groups.messages.length = (validData uas.basicId).length + (validData [uas.location]).length +
      (validData uas.auth).length + (validData [uas.selfId]).length + (validData [uas.system]).length +
      (validData [uas.operatorId]).length := by
  unfold PackGroups.messages
  simp only [List.length_append]
  rw [group_length packs.basicId, group_length packs.location, group_length packs.auth,
    group_length packs.selfId, group_length packs.system, group_length packs.operatorId]

theorem UasData.validData_auth {uas : UasData K} (wellFormed : uas.WellFormed) :
    validData uas.received.auth = (validData uas.auth).map AuthData.received := by
  obtain ⟨entry, single⟩ := List.length_eq_one_iff.mp wellFormed.auth
  show validData (uas.auth.map _) = _
  rw [single]
  exact validData_received entry

theorem UasData.Packs.again {uas : UasData K} (wellFormed : uas.WellFormed) {groups : PackGroups}
    (packs : uas.Packs groups) : ∃ later : PackGroups, uas.received.Packs later := by
  have own : ∀ {Data : Type} {received : Data → Data} {initial : Data} (entry : Entry Data),
      ∀ data ∈ validData [entry.received received initial], ∃ source ∈ validData [entry], data = received source := by
    intro Data received initial entry data member
    rw [validData_received, List.mem_map] at member
    obtain ⟨source, inside, same⟩ := member
    exact ⟨source, inside, same.symm⟩
  obtain ⟨basicId, basicId'⟩ := @group_received _ BasicIdData.received encodeBasicIdMessage _
    (validData uas.received.basicId) _ (fun _ _ => encodeBasicIdMessage_received)
    (fun _ => mem_validData_receivedBasicIds) packs.basicId
  obtain ⟨location, location'⟩ := @group_received _ LocationData.received encodeLocationMessage _
    (validData [uas.received.location]) _ (fun _ _ => encodeLocationMessage_received)
    (own uas.location) packs.location
  obtain ⟨auth, auth'⟩ := @group_received _ AuthData.received encodeAuthMessage _ (validData uas.received.auth) _
    (fun _ _ => encodeAuthMessage_received)
    (fun data member => by
      rw [uas.validData_auth wellFormed, List.mem_map] at member
      obtain ⟨source, inside, same⟩ := member
      exact ⟨source, inside, same.symm⟩) packs.auth
  obtain ⟨selfId, selfId'⟩ := @group_received _ SelfIdData.received encodeSelfIdMessage _
    (validData [uas.received.selfId]) _ (fun _ _ => encodeSelfIdMessage_received)
    (own uas.selfId) packs.selfId
  obtain ⟨system, system'⟩ := @group_received _ SystemData.received encodeSystemMessage _
    (validData [uas.received.system]) _ (fun _ _ => encodeSystemMessage_received)
    (own uas.system) packs.system
  obtain ⟨operatorId, operatorId'⟩ := @group_received _ OperatorIdData.received encodeOperatorIdMessage _
    (validData [uas.received.operatorId]) _ (fun _ _ => encodeOperatorIdMessage_received)
    (own uas.operatorId) packs.operatorId
  exact ⟨⟨basicId, location, auth, selfId, system, operatorId⟩, basicId', location', auth', selfId', system',
    operatorId'⟩

theorem UasData.Packs.again_length {uas : UasData K} (wellFormed : uas.WellFormed) {groups later : PackGroups}
    (packs : uas.Packs groups) (again : uas.received.Packs later) :
    later.messages.length ≤ groups.messages.length ∧ (groups.messages ≠ [] → later.messages ≠ []) := by
  have fewer := validData_receivedBasicIds_length wellFormed.basicId
  have basicId : uas.received.basicId = receivedBasicIds uas.basicId := rfl
  have location := congrArg List.length
    (@validData_received _ LocationData.received initLocationData uas.location)
  have auth := congrArg List.length (uas.validData_auth wellFormed)
  have selfId := congrArg List.length (@validData_received _ SelfIdData.received initSelfIdData uas.selfId)
  have system := congrArg List.length (@validData_received _ SystemData.received initSystemData uas.system)
  have operatorId := congrArg List.length
    (@validData_received _ OperatorIdData.received initOperatorIdData uas.operatorId)
  rw [List.length_map] at location auth selfId system operatorId
  have before := packs.length
  have after := again.length
  rw [basicId] at after
  unfold UasData.received at after auth
  dsimp only at after auth
  rw [location, auth, selfId, system, operatorId] at after
  constructor
  · omega
  · intro some
    have positive := List.length_pos_iff.mpr some
    exact List.length_pos_iff.mp (by omega)

/-! ## What the data says -/

/-- What received data says about the data it was sent from. Both identifications are kept exactly if the
second one does not take the place of the first. -/
structure UasData.Reports (sent received : UasData K) : Prop where
  basicId : validData received.basicId = (validData sent.basicId).map BasicIdData.received ↔
    ∀ first second, validData sent.basicId = [first, second] → ¬Collides first second
  location : received.location.valid = sent.location.valid
  locationNear : sent.location.valid = true → sent.location.data.Near received.location.data
  auth : validData received.auth = (validData sent.auth).map AuthData.received
  selfId : validData [received.selfId] = (validData [sent.selfId]).map SelfIdData.received
  system : received.system.valid = sent.system.valid
  systemNear : sent.system.valid = true → sent.system.data.Near received.system.data
  operatorId : validData [received.operatorId] = (validData [sent.operatorId]).map OperatorIdData.received

theorem Entry.received_valid {Data : Type} (received : Data → Data) (initial : Data) (entry : Entry Data) :
    (entry.received received initial).valid = entry.valid ∧
      (entry.valid = true → (entry.received received initial).data = received entry.data) := by
  obtain ⟨data, valid⟩ := entry
  cases valid with
  | false => exact ⟨rfl, nofun⟩
  | true => exact ⟨rfl, fun _ => rfl⟩

omit [Field K] [LinearOrder K] [IsStrictOrderedRing K] [FloorRing K] in
theorem group_of_valid {Data : Type} {entry : Entry Data} (valid : entry.valid = true)
    {encode : Data → Option Bytes} {messages : List Bytes}
    (encoded : (validData [entry]).map encode = messages.map some) :
    ∃ message, encode entry.data = some message := by
  have listed : validData [entry] = [entry.data] := by
    unfold validData
    rw [List.filter_singleton, valid]
    rfl
  rw [listed] at encoded
  have mapped : encode entry.data ∈ messages.map some := by
    rw [← encoded]
    exact List.mem_singleton_self _
  obtain ⟨message, _, same⟩ := List.mem_map.mp mapped
  exact ⟨message, same.symm⟩

/-! ## Built packs and what they are decoded to -/

/-- What was encoded is reported, each quantity within half a unit of its scale. -/
theorem decode_reports {uas : UasData K} (wellFormed : uas.WellFormed) {buflen : Nat} {pack : Bytes}
    (built : odidMessageBuildPack uas buflen = .ok pack) :
    (decodeOpenDroneId (initUasData : UasData K) pack).1 = ODID_MESSAGETYPE_PACKED ∧
      uas.Reports (decodeOpenDroneId initUasData pack).2 := by
  rw [decode_built wellFormed built]
  obtain ⟨groups, packs, _⟩ := (odidMessageBuildPack_eq_ok wellFormed).mp built
  have location := Entry.received_valid LocationData.received initLocationData uas.location
  have system := Entry.received_valid SystemData.received initSystemData uas.system
  refine ⟨rfl, ?_⟩
  constructor
  case basicId => exact validData_receivedBasicIds wellFormed.basicId
  case location => exact location.1
  case locationNear =>
    intro valid
    obtain ⟨_, range⟩ := encodeLocationMessage_eq_some.mp (group_of_valid valid packs.location)
    show uas.location.data.Near (uas.location.received LocationData.received initLocationData).data
    rw [location.2 valid]
    exact LocationData.near_received range
  case auth => exact uas.validData_auth wellFormed
  case selfId => exact validData_received uas.selfId
  case system => exact system.1
  case systemNear =>
    intro valid
    have range := encodeSystemMessage_eq_some.mp (group_of_valid valid packs.system)
    show uas.system.data.Near (uas.system.received SystemData.received initSystemData).data
    rw [system.2 valid]
    exact SystemData.near_received range
  case operatorId => exact validData_received uas.operatorId

theorem odidMessageBuildPack_decoded {uas : UasData K} (wellFormed : uas.WellFormed) {buflen : Nat} {pack : Bytes}
    (built : odidMessageBuildPack uas buflen = .ok pack) :
    (decodeOpenDroneId (initUasData : UasData K) pack).2.WellFormed ∧
      ∃ again : Bytes, odidMessageBuildPack (decodeOpenDroneId (initUasData : UasData K) pack).2 buflen = .ok again ∧
        again.length ≤ pack.length ∧
        decodeOpenDroneId (initUasData : UasData K) again = decodeOpenDroneId initUasData pack := by
  rw [decode_built wellFormed built]
  obtain ⟨groups, packs, some, room, rfl⟩ := (odidMessageBuildPack_eq_ok wellFormed).mp built
  obtain ⟨later, again⟩ := packs.again wellFormed
  obtain ⟨fewer, others⟩ := packs.again_length wellFormed again
  have received := wellFormed.received
  have shorter := Nat.mul_le_mul_right ODID_MESSAGE_SIZE fewer
  have remade : odidMessageBuildPack uas.received buflen = .ok (packOf later.messages) :=
    (odidMessageBuildPack_eq_ok received).mpr
      ⟨later, again, others some, (Nat.add_le_add_left shorter 3).trans room, rfl⟩
  refine ⟨received, packOf later.messages, remade, ?_, ?_⟩
  · rw [packOf_length fun _ => (again.shaped received).message_length,
      packOf_length fun _ => (packs.shaped wellFormed).message_length]
    exact Nat.add_le_add_left shorter 3
  · rw [decode_built received remade, UasData.received_received wellFormed]

/-- A pack that the library builds is decoded to a report of the data it was built from, and that data is
settled: a pack built of it again, in the same buffer and no longer, is decoded to the same data. -/
theorem built_pack_settles {uas : UasData K} (wellFormed : uas.WellFormed) {buflen : Nat} {pack : Bytes}
    (built : odidMessageBuildPack uas buflen = .ok pack) :
    ((decodeOpenDroneId (initUasData : UasData K) pack).1 = ODID_MESSAGETYPE_PACKED ∧
        uas.Reports (decodeOpenDroneId initUasData pack).2) ∧
      (decodeOpenDroneId (initUasData : UasData K) pack).2.WellFormed ∧
      ∃ again : Bytes, odidMessageBuildPack (decodeOpenDroneId (initUasData : UasData K) pack).2 buflen = .ok again ∧
        again.length ≤ pack.length ∧
        decodeOpenDroneId (initUasData : UasData K) again = decodeOpenDroneId initUasData pack :=
  ⟨decode_reports wellFormed built, odidMessageBuildPack_decoded wellFormed built⟩

end

/-- A position on the ground, two identifications and a text. -/
def sampleUasData : UasData ℚ where
  basicId := [⟨⟨2, 1, ascii "RIDTESTSERIAL0000001" ++ [0]⟩, true⟩, ⟨⟨2, 3, List.replicate 21 7⟩, true⟩]
  location := ⟨{ (initLocationData : LocationData ℚ) with
    latitude := .finite (313 / 10), speedHorizontal := .finite 70 }, true⟩
  auth := [⟨initAuthData, false⟩]
  selfId := ⟨⟨0, ascii "RID test flight"⟩, true⟩
  system := ⟨initSystemData, false⟩
  operatorId := ⟨initOperatorIdData, false⟩

theorem sampleUasData_wellFormed : sampleUasData.WellFormed where
  basicId := rfl
  auth := rfl
  uasId := by decide
  authData := by decide
  location := fun _ => rfl
  system := fun _ => rfl

theorem sampleUasData_built : ∃ pack, odidMessageBuildPack sampleUasData 103 = .ok pack := by
  have made : (odidMessageBuildPack sampleUasData 103).toOption.isSome = true := by decide +kernel
  cases built : odidMessageBuildPack sampleUasData 103 with
  | ok pack => exact ⟨pack, rfl⟩
  | error error =>
    rw [built] at made
    cases made

theorem built_pack_settles_sample : ∃ pack, odidMessageBuildPack sampleUasData 103 = .ok pack ∧
    ((decodeOpenDroneId (initUasData : UasData ℚ) pack).1 = ODID_MESSAGETYPE_PACKED ∧
        sampleUasData.Reports (decodeOpenDroneId initUasData pack).2) ∧
      (decodeOpenDroneId (initUasData : UasData ℚ) pack).2.WellFormed ∧
      ∃ again : Bytes, odidMessageBuildPack (decodeOpenDroneId (initUasData : UasData ℚ) pack).2 103 = .ok again ∧
        again.length ≤ pack.length ∧
        decodeOpenDroneId (initUasData : UasData ℚ) again = decodeOpenDroneId initUasData pack := by
  obtain ⟨pack, built⟩ := sampleUasData_built
  exact ⟨pack, built, built_pack_settles sampleUasData_wellFormed built⟩

end RidFirmware.Odid
