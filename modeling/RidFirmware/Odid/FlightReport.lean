import RidFirmware.Odid.Encoder
import RidFirmware.Odid.Repack

/-! The packs of the encoder are those the library builds of the same data, and report a flight to a receiver. -/

namespace RidFirmware.OdidEncoder
open Lib Lib.Ieee Lib.Wire Odid

section
variable {K : Type} [Field K] [LinearOrder K] {state : FlightState (Datum K)} {identity : TestIdentity}
  {options : OdidOptions K}

/-- The data of an aircraft with every message, as it stands before the library builds a pack of it. -/
def uasData (state : FlightState (Datum K)) (identity : TestIdentity) (options : OdidOptions K) : UasData K where
  basicId := [⟨basicIdData identity options, true⟩, emptySlot]
  location := ⟨locationData state options, true⟩
  auth := [⟨authData options, true⟩]
  selfId := ⟨selfIdData options, true⟩
  system := ⟨systemData state options, true⟩
  operatorId := ⟨operatorIdData options, true⟩

structure Inputs (state : FlightState (Datum K)) (identity : TestIdentity) (options : OdidOptions K) : Prop where
  identified : identity.value.length = ODID_ID_SIZE
  location : (locationData state options).isFinite = true
  system : (systemData state options).isFinite = true
  authentication : options.authenticationData.length ≤ kMaxAuthenticationBytes
  description : options.selfDescription.length ≤ ODID_STR_SIZE
  operatorId : options.operatorId.length ≤ ODID_ID_SIZE

theorem inputs_of_valid (checked : validateInputs state identity options = .ok ()) :
    Inputs state identity options := by
  unfold validateInputs at checked
  split_ifs at checked with identified valid finite long texts
  rw [Bool.not_eq_true, Bool.not_eq_false'] at valid
  rw [not_or] at texts
  simp only [Bool.or_eq_true, not_or, Bool.not_eq_true, Bool.not_eq_false'] at finite
  unfold FlightState.valid at valid
  simp only [Bool.and_eq_true] at valid
  obtain ⟨⟨⟨⟨⟨⟨⟨⟨⟨⟨⟨⟨⟨latitude, _⟩, _⟩, longitude⟩, _⟩, _⟩, altitude⟩, height⟩, speed⟩, _⟩, climb⟩, heading⟩,
    _⟩, _⟩ := valid
  obtain ⟨⟨⟨⟨⟨⟨⟨⟨⟨barometric, _⟩, _⟩, _⟩, _⟩, _⟩, ceiling⟩, floor⟩, operatorAltitude⟩, position⟩ := finite
  have baro : (options.barometricAltitudeM.getD state.altitudeMslM).isFinite = true := by
    cases own : options.barometricAltitudeM with
    | none => exact altitude
    | some measured => simpa [own] using barometric
  have operator : (options.operatorPosition.getD ⟨state.latitudeDeg, state.longitudeDeg⟩).latitudeDeg.isFinite =
        true ∧
      (options.operatorPosition.getD ⟨state.latitudeDeg, state.longitudeDeg⟩).longitudeDeg.isFinite = true := by
    cases own : options.operatorPosition with
    | none => exact ⟨latitude, longitude⟩
    | some point =>
      rw [own, Option.any_some, Bool.not_eq_false'] at position
      unfold GeoPoint.valid at position
      simp only [Bool.and_eq_true] at position
      exact ⟨position.1.1.1.1.1, position.1.1.2⟩
  constructor
  case identified => exact not_not.mp identified
  case location =>
    unfold LocationData.isFinite locationData
    dsimp only
    rw [heading, speed, climb, latitude, longitude, baro, altitude, height]
    rfl
  case system =>
    unfold SystemData.isFinite systemData
    dsimp only
    rw [operator.1, operator.2, ceiling, floor, operatorAltitude]
    rfl
  case authentication => exact Nat.not_lt.mp long
  case description => exact Nat.not_lt.mp texts.1
  case operatorId => exact Nat.not_lt.mp texts.2

theorem uasData_wellFormed (inputs : Inputs state identity options) :
    (uasData state identity options).WellFormed where
  basicId := rfl
  auth := rfl
  uasId := by
    intro entry member
    rcases List.mem_cons.mp member with rfl | later
    · exact copyText_length _ (Nat.succ_pos _)
    · rw [List.mem_singleton.mp later]
      rfl
  authData := by
    intro entry member
    rw [List.mem_singleton.mp member]
    have short := inputs.authentication
    unfold kMaxAuthenticationBytes ODID_AUTH_PAGE_ZERO_DATA_SIZE at short
    simp only [authData, List.length_append, List.length_replicate, ODID_AUTH_PAGE_NONZERO_DATA_SIZE]
    omega
  location _ := inputs.location
  system _ := inputs.system

variable [FloorRing K]

theorem uasData_packs {groups : PackGroups} : (uasData state identity options).Packs groups ↔
    ∃ message : MessageKind → Bytes,
      (encodeBasicIdMessage (basicIdData identity options) = some (message .basicId) ∧
        encodeLocationMessage (locationData state options) = some (message .location) ∧
        encodeAuthMessage (authData options) = some (message .authentication) ∧
        encodeSelfIdMessage (selfIdData options) = some (message .selfId) ∧
        encodeSystemMessage (systemData state options) = some (message .system) ∧
        encodeOperatorIdMessage (operatorIdData options) = some (message .operatorId)) ∧
      groups = ⟨[message .basicId], [message .location], [message .authentication], [message .selfId],
        [message .system], [message .operatorId]⟩ := by
  have single : ∀ {encoded : Option Bytes} {messages : List Bytes}, [encoded] = messages.map some →
      ∃ message, encoded = some message ∧ messages = [message] := by
    intro encoded messages same
    obtain ⟨message, rest, rfl, first, none⟩ := List.map_eq_cons_iff.mp same.symm
    rw [List.map_eq_nil_iff.mp none]
    exact ⟨message, first.symm, rfl⟩
  constructor
  · intro packs
    obtain ⟨basicId, basicId', one⟩ := single packs.basicId
    obtain ⟨location, location', two⟩ := single packs.location
    obtain ⟨auth, auth', three⟩ := single packs.auth
    obtain ⟨selfId, selfId', four⟩ := single packs.selfId
    obtain ⟨system, system', five⟩ := single packs.system
    obtain ⟨operatorId, operatorId', six⟩ := single packs.operatorId
    obtain ⟨_, _, _, _, _, _⟩ := groups
    refine ⟨fun kind => [basicId, location, auth, selfId, system, operatorId].getD kind.index [],
      ⟨basicId', location', auth', selfId', system', operatorId'⟩, ?_⟩
    dsimp only at one two three four five six
    rw [one, two, three, four, five, six]
    rfl
  · rintro ⟨message, ⟨basicId, location, auth, selfId, system, operatorId⟩, rfl⟩
    exact ⟨congrArg ([·]) basicId, congrArg ([·]) location, congrArg ([·]) auth, congrArg ([·]) selfId,
      congrArg ([·]) system, congrArg ([·]) operatorId⟩

theorem encodedResult_eq_ok {encoded : Option Bytes} {message : Bytes} :
    encodedResult encoded = .ok message ↔ encoded = some message :=
  ⟨of_encodedResult, fun same => by rw [same]; rfl⟩

theorem encode_kinds (checked : validateInputs state identity options = .ok ()) (message : MessageKind → Bytes) :
    (∀ kind, encode kind state identity options = .ok (message kind)) ↔
      encodeBasicIdMessage (basicIdData identity options) = some (message .basicId) ∧
        encodeLocationMessage (locationData state options) = some (message .location) ∧
        encodeAuthMessage (authData options) = some (message .authentication) ∧
        encodeSelfIdMessage (selfIdData options) = some (message .selfId) ∧
        encodeSystemMessage (systemData state options) = some (message .system) ∧
        encodeOperatorIdMessage (operatorIdData options) = some (message .operatorId) := by
  simp only [← encodedResult_eq_ok]
  unfold encode
  rw [checked]
  constructor
  · intro all
    exact ⟨all .basicId, all .location, all .authentication, all .selfId, all .system, all .operatorId⟩
  · rintro ⟨basicId, location, auth, selfId, system, operatorId⟩ kind
    cases kind with
    | basicId => exact basicId
    | location => exact location
    | authentication => exact auth
    | selfId => exact selfId
    | system => exact system
    | operatorId => exact operatorId

theorem encode_checked {kind : MessageKind} {message : Bytes}
    (encoded : encode kind state identity options = .ok message) :
    validateInputs state identity options = .ok () := by
  unfold encode at encoded
  cases checked : validateInputs state identity options with
  | error error =>
    rw [checked] at encoded
    cases encoded
  | ok _ => rfl

theorem encodePack_checked {pack : Bytes} (encoded : encodePack state identity options = .ok pack) :
    validateInputs state identity options = .ok () := by
  obtain ⟨message, single, _⟩ := encodePack_eq_ok.mp encoded
  exact encode_checked (single .basicId)

/-- The encoder makes the packs that the library builds of the same data in a buffer of at least 153 bytes, and
no others: only its own check of the inputs comes before. -/
theorem encodePack_eq_build (state : FlightState (Datum K)) (identity : TestIdentity) (options : OdidOptions K)
    (buflen : Nat) (pack : Bytes) :
    153 ≤ buflen ∧ encodePack state identity options = .ok pack ↔ validateInputs state identity options = .ok () ∧
      odidMessageBuildPack (uasData state identity options) buflen = .ok pack := by
  have pair : ∀ message : MessageKind → Bytes, packOf (PackGroups.messages ⟨[message .basicId],
      [message .location], [message .authentication], [message .selfId], [message .system],
      [message .operatorId]⟩) = [0xf2, 25, 6] ++ (kKinds.map message).flatten := fun _ => rfl
  constructor
  · rintro ⟨room, encoded⟩
    have checked := encodePack_checked encoded
    obtain ⟨message, single, rfl⟩ := encodePack_eq_ok.mp encoded
    refine ⟨checked, (odidMessageBuildPack_eq_ok (uasData_wellFormed (inputs_of_valid checked))).mpr ?_⟩
    refine ⟨_, uasData_packs.mpr ⟨message, (encode_kinds checked message).mp single, rfl⟩, nofun, room, ?_⟩
    exact (pair message).symm
  · rintro ⟨checked, built⟩
    obtain ⟨groups, packs, _, room, rfl⟩ :=
      (odidMessageBuildPack_eq_ok (uasData_wellFormed (inputs_of_valid checked))).mp built
    obtain ⟨message, all, rfl⟩ := uasData_packs.mp packs
    exact ⟨room, encodePack_eq_ok.mpr ⟨message, (encode_kinds checked message).mpr all, pair message⟩⟩

end

/-! ## What a receiver learns of a flight -/

theorem copyText_short {source : Bytes} {size : Nat} (short : source.length ≤ size) :
    copyText source (size + 1) = source ++ List.replicate (size + 1 - source.length) 0 := by
  unfold copyText
  rw [Nat.add_sub_cancel, List.take_of_length_le short]

theorem strncpy_copyText {source : Bytes} {size : Nat} (short : source.length ≤ size) (text : 0 ∉ source) :
    strncpy (copyText source (size + 1)) size ++ [0] = copyText source (size + 1) := by
  have nonzero : ∀ byte ∈ source, decide (byte ≠ 0) = true := by
    intro byte member
    exact decide_eq_true fun zero => text (zero ▸ member)
  have room : size + 1 - source.length = size - source.length + 1 := by omega
  have whole : textOf (copyText source (size + 1)) size = source := by
    rw [copyText_short short, room, List.replicate_succ]
    unfold textOf
    rw [List.takeWhile_append_of_pos nonzero, List.takeWhile_cons_of_neg (by decide), List.append_nil,
      List.take_of_length_le short]
  rw [strncpy_eq, whole, copyText_short short, room, List.append_assoc, List.replicate_succ']

section
variable {K : Type} [Field K] [LinearOrder K] [IsStrictOrderedRing K]

/-- The entry of one kind says what was encoded: quantities within half a unit of their scales, and texts whole
if they have no zero byte. -/
def Reported (state : FlightState (Datum K)) (identity : TestIdentity) (options : OdidOptions K)
    (uas : UasData K) : MessageKind → Prop
  | .basicId => ∃ data, uas.basicId = [⟨data, true⟩, emptySlot] ∧ data.uaType = 2 ∧
      data.idType = options.idType.toRaw.toNat ∧ (0 ∉ identity.value → data.uasId = identity.value ++ [0])
  | .location => ∃ data, uas.location = ⟨data, true⟩ ∧ (locationData state options).Near data
  | .authentication => uas.auth = [⟨authData options, true⟩] ∧
      (authData options).length = options.authenticationData.length
  | .selfId => ∃ data, uas.selfId = ⟨data, true⟩ ∧ data.descType = 0 ∧
      (0 ∉ options.selfDescription → data.desc = copyText options.selfDescription (ODID_STR_SIZE + 1))
  | .system => ∃ data, uas.system = ⟨data, true⟩ ∧ (systemData state options).Near data
  | .operatorId => ∃ data, uas.operatorId = ⟨data, true⟩ ∧ data.operatorIdType = 0 ∧
      (0 ∉ options.operatorId → data.operatorId = copyText options.operatorId (ODID_ID_SIZE + 1))

/-- The entry of one kind is as it was initialised. -/
def Silent (uas : UasData K) : MessageKind → Prop
  | .basicId => uas.basicId = [emptySlot, emptySlot]
  | .location => uas.location = ⟨initLocationData, false⟩
  | .authentication => uas.auth = [⟨initAuthData, false⟩]
  | .selfId => uas.selfId = ⟨initSelfIdData, false⟩
  | .system => uas.system = ⟨initSystemData, false⟩
  | .operatorId => uas.operatorId = ⟨initOperatorIdData, false⟩

variable [FloorRing K]

/-- What is heard of a flight: a message of one kind, or a pack. -/
structure Heard (K : Type) where
  content : Option MessageKind
  state : FlightState (Datum K)
  bytes : Bytes

def Heard.Encoded (identity : TestIdentity) (options : OdidOptions K) (heard : Heard K) : Prop :=
  match heard.content with
  | none => encodePack heard.state identity options = .ok heard.bytes
  | some kind => encode kind heard.state identity options = .ok heard.bytes

omit [Field K] [LinearOrder K] [IsStrictOrderedRing K] [FloorRing K] in
def Heard.carries (kind : MessageKind) (heard : Heard K) : Bool :=
  decide (heard.content = none ∨ heard.content = some kind)

variable {state : FlightState (Datum K)} {identity : TestIdentity} {options : OdidOptions K}

omit [IsStrictOrderedRing K] [FloorRing K] in
theorem basicIdData_received (inputs : Inputs state identity options) (text : 0 ∉ identity.value) :
    (basicIdData identity options).received.uasId = identity.value ++ [0] := by
  have whole : copyText identity.value (ODID_ID_SIZE + 1) = identity.value ++ [0] := by
    rw [copyText_short inputs.identified.le, inputs.identified]
    rfl
  unfold BasicIdData.received basicIdData
  dsimp only
  split_ifs
  · rw [strncpy_copyText inputs.identified.le text, whole]
  · rw [whole, List.take_left' inputs.identified]

omit [IsStrictOrderedRing K] [FloorRing K] in
theorem authData_received (inputs : Inputs state identity options) :
    (authData options).received = authData options ∧
      (authData options).length = options.authenticationData.length := by
  have short : options.authenticationData.length ≤ 17 := inputs.authentication
  constructor
  · have zeros : List.replicate (24 - options.authenticationData.length) (0 : UInt8) =
        List.replicate (17 - options.authenticationData.length) 0 ++ List.replicate 7 0 := by
      rw [List.replicate_append_replicate]
      congr 1
      omega
    have kept : (options.authenticationData ++
        List.replicate (17 - options.authenticationData.length) (0 : UInt8)).length = 17 := by
      rw [List.length_append, List.length_replicate]
      omega
    unfold AuthData.received authData
    simp only [ODID_AUTH_PAGE_ZERO_DATA_SIZE, ODID_AUTH_PAGE_NONZERO_DATA_SIZE, Nat.reduceAdd, Nat.reduceSub]
    rw [zeros, ← List.append_assoc, List.take_left' kept]
  · exact Nat.mod_eq_of_lt (by omega)

/-- What the encoders of the kinds make, as a receiver has it. -/
structure Decodes (identity : TestIdentity) (options : OdidOptions K) (heard : Heard K) : Prop where
  basicId : (contents heard.bytes).filterMap decodeBasicIdMessage =
    if heard.carries .basicId then [(basicIdData identity options).received] else []
  location : (contents heard.bytes).filterMap decodeLocationMessage =
    if heard.carries .location then [(locationData heard.state options).received] else []
  authentication : (contents heard.bytes).filterMap decodeAuthMessage =
    if heard.carries .authentication then [(authData options).received] else []
  selfId : (contents heard.bytes).filterMap decodeSelfIdMessage =
    if heard.carries .selfId then [(selfIdData options).received] else []
  system : (contents heard.bytes).filterMap decodeSystemMessage =
    if heard.carries .system then [(systemData heard.state options).received] else []
  operatorId : (contents heard.bytes).filterMap decodeOperatorIdMessage =
    if heard.carries .operatorId then [(operatorIdData options).received] else []

theorem decodes_pack {heard : Heard K} (packed : heard.content = none)
    (encoded : heard.Encoded identity options) : Decodes identity options heard := by
  have carries : ∀ kind, heard.carries kind = true := fun kind => decide_eq_true (.inl packed)
  unfold Heard.Encoded at encoded
  rw [packed] at encoded
  have wellFormed := uasData_wellFormed (inputs_of_valid (encodePack_checked encoded))
  obtain ⟨_, built⟩ := (encodePack_eq_build heard.state identity options 153 heard.bytes).mp ⟨le_refl 153, encoded⟩
  obtain ⟨groups, packs, some, _, same⟩ := (odidMessageBuildPack_eq_ok wellFormed).mp built
  have decoded := packs.decoded wellFormed
  have messages : contents heard.bytes = groups.messages := by
    rw [same]
    exact contents_packOf (packs.shaped wellFormed) some
  constructor
  · rw [messages, decoded.basicId, if_pos (carries _)]
    rfl
  · rw [messages, decoded.location, if_pos (carries _)]
    rfl
  · rw [messages, decoded.auth, if_pos (carries _)]
    rfl
  · rw [messages, decoded.selfId, if_pos (carries _)]
    rfl
  · rw [messages, decoded.system, if_pos (carries _)]
    rfl
  · rw [messages, decoded.operatorId, if_pos (carries _)]
    rfl

omit [Field K] [LinearOrder K] [IsStrictOrderedRing K] [FloorRing K] in
theorem kind_index (kind : MessageKind) : kind.index ≤ ODID_MESSAGETYPE_OPERATOR_ID ∧
    ∀ other : MessageKind, kind.index = other.index ↔ kind = other := by
  constructor
  · cases kind <;> decide
  · intro other
    cases kind <;> cases other <;> decide

theorem decodes_single {heard : Heard K} {kind : MessageKind} (single : heard.content = some kind)
    (encoded : heard.Encoded identity options) : Decodes identity options heard := by
  unfold Heard.Encoded at encoded
  rw [single] at encoded
  have isMessage := encode_isMessage encoded
  have type : upperAt heard.bytes 0 = kind.index := (decodeMessageType_eq_iff (kind_index kind).1).mp isMessage.type
  have alone : contents heard.bytes = [heard.bytes] := by
    refine if_neg ?_
    rw [isMessage.type]
    exact ((kind_index kind).1.trans_lt (by decide)).ne
  have carries : ∀ other, heard.carries other = decide (kind = other) := by
    intro other
    unfold Heard.carries
    rw [single, decide_eq_decide]
    exact ⟨fun either => either.elim nofun Option.some.inj, fun same => .inr (congrArg some same)⟩
  have checked := encode_checked encoded
  -- the decoder of another kind refuses, that of its own has what was encoded
  have decoded : ∀ {Data : Type} {decode : Bytes → Option Data} {own : MessageKind} {data : Data},
      (upperAt heard.bytes 0 ≠ own.index → decode heard.bytes = none) →
      (kind = own → decode heard.bytes = some data) →
      (contents heard.bytes).filterMap decode = if heard.carries own then [data] else [] := by
    intro Data decode own data refuses takes
    rw [alone, carries]
    by_cases same : kind = own
    · rw [if_pos (decide_eq_true same), List.filterMap_cons, takes same]
      rfl
    · have other : upperAt heard.bytes 0 ≠ own.index := by
        rw [type]
        exact mt ((kind_index kind).2 own).mp same
      rw [if_neg (mt of_decide_eq_true same), List.filterMap_cons, refuses other]
      rfl
  unfold encode at encoded
  rw [checked] at encoded
  obtain ⟨basicOther, locationOther, authOther, selfOther, systemOther, operatorOther⟩ :=
    @decode_other K _ heard.bytes
  constructor
  · refine decoded basicOther fun same => ?_
    subst same
    refine decodeBasicIdMessage_encode (of_encodedResult encoded) ?_
    unfold basicIdData
    rw [copyText_length _ (Nat.succ_pos _)]
    exact Nat.le_succ _
  · refine decoded locationOther fun same => ?_
    subst same
    exact decodeLocationMessage_encode (of_encodedResult encoded)
  · refine decoded authOther fun same => ?_
    subst same
    refine decodeAuthMessage_encode (of_encodedResult encoded) ?_
    have sized := (uasData_wellFormed (inputs_of_valid checked)).authData _ (List.mem_singleton_self _)
    rw [sized]
    decide
  · refine decoded selfOther fun same => ?_
    subst same
    exact decodeSelfIdMessage_encode (of_encodedResult encoded)
  · refine decoded systemOther fun same => ?_
    subst same
    exact decodeSystemMessage_encode (of_encodedResult encoded)
  · refine decoded operatorOther fun same => ?_
    subst same
    exact decodeOperatorIdMessage_encode (of_encodedResult encoded)

theorem Heard.Encoded.decodes {heard : Heard K} (encoded : heard.Encoded identity options) :
    Decodes identity options heard := by
  cases content : heard.content with
  | none => exact decodes_pack content encoded
  | some kind => exact decodes_single content encoded

omit [Field K] [LinearOrder K] [IsStrictOrderedRing K] [FloorRing K] in
theorem filterMap_heard {Data : Type} {decode : Bytes → Option Data} {kind : MessageKind} {data : Heard K → Data}
    (heard : List (Heard K)) (single : ∀ item ∈ heard, (contents item.bytes).filterMap decode =
      if item.carries kind then [data item] else []) :
    ((heard.map Heard.bytes).flatMap contents).filterMap decode = (heard.filter (Heard.carries kind)).map data := by
  induction heard with
  | nil => rfl
  | cons item rest ih =>
    have later := ih fun other member => single other (List.mem_cons_of_mem _ member)
    rw [List.map_cons, List.flatMap_cons, List.filterMap_append, single item List.mem_cons_self, later,
      List.filter_cons]
    split_ifs <;> rfl

omit [IsStrictOrderedRing K] in
theorem Heard.Encoded.kind {heard : Heard K} (encoded : heard.Encoded identity options) {kind : MessageKind}
    (carries : heard.carries kind = true) : ∃ message, encode kind heard.state identity options = .ok message := by
  unfold Heard.Encoded at encoded
  rcases of_decide_eq_true carries with packed | single
  · rw [packed] at encoded
    obtain ⟨message, all, _⟩ := encodePack_eq_ok.mp encoded
    exact ⟨message kind, all kind⟩
  · rw [single] at encoded
    exact ⟨heard.bytes, encoded⟩

omit [IsStrictOrderedRing K] in
theorem encode_ranges {message : Bytes} :
    (encode .location state identity options = .ok message → (locationData state options).inRange = true) ∧
      (encode .system state identity options = .ok message → (systemData state options).inRange = true) := by
  constructor
  · intro encoded
    have checked := encode_checked encoded
    unfold encode at encoded
    rw [checked] at encoded
    exact (encodeLocationMessage_eq_some.mp ⟨message, of_encodedResult encoded⟩).2
  · intro encoded
    have checked := encode_checked encoded
    unfold encode at encoded
    rw [checked] at encoded
    exact encodeSystemMessage_eq_some.mp ⟨message, of_encodedResult encoded⟩

omit [Field K] [LinearOrder K] [IsStrictOrderedRing K] [FloorRing K] in
theorem foldl_offer_same (data : BasicIdData) {Item : Type} (items : List Item) (some : items ≠ []) :
    (items.map fun _ => (⟨data, true⟩ : Entry BasicIdData)).foldl (SlotTable.offer entryType ODID_IDTYPE_NONE)
      [emptySlot, emptySlot] = [⟨data, true⟩, emptySlot] := by
  have again : SlotTable.offer entryType ODID_IDTYPE_NONE [⟨data, true⟩, emptySlot] ⟨data, true⟩ =
      [⟨data, true⟩, emptySlot] := by
    have taken : entryType ⟨data, true⟩ = ODID_IDTYPE_NONE ∨ entryType ⟨data, true⟩ = entryType ⟨data, true⟩ :=
      .inr rfl
    rw [SlotTable.offer, SlotTable.put, if_pos taken]
    rfl
  induction items using List.reverseRecOn with
  | nil => exact absurd rfl some
  | append_singleton items item ih =>
    rw [List.map_append, List.foldl_append, List.map_singleton, List.foldl_cons, List.foldl_nil]
    by_cases first : items = []
    · rw [first]
      rfl
    · rw [ih first, again]

/-- Whatever a receiver hears of a flight, it has of each kind the report of the last message or pack with it,
and nothing of a kind it has not heard. -/
theorem receive_reports {heard : List (Heard K)} (encoded : ∀ item ∈ heard, item.Encoded identity options)
    (kind : MessageKind) :
    (∀ last, (heard.filter (Heard.carries kind)).getLast? = some last →
        Reported last.state identity options (receive initUasData (heard.map Heard.bytes)) kind) ∧
      (heard.filter (Heard.carries kind) = [] →
        Silent (receive (initUasData : UasData K) (heard.map Heard.bytes)) kind) := by
  rw [receive_eq]
  have latest := latest_foldl (K := K) ((heard.map Heard.bytes).flatMap contents)
  have slots := basicId_foldl ((heard.map Heard.bytes).flatMap contents) (initUasData : UasData K)
  generalize ((heard.map Heard.bytes).flatMap contents).foldl UasData.update (initUasData : UasData K) = uas
    at latest slots
  -- the last of a kind has been encoded
  have last_encoded : ∀ {kind last}, (heard.filter (Heard.carries kind)).getLast? = some last →
      last.Encoded identity options ∧ ∃ message, encode kind last.state identity options = .ok message := by
    intro kind last found
    obtain ⟨inside, carries⟩ := List.mem_filter.mp (List.mem_of_getLast? found)
    exact ⟨encoded last inside, (encoded last inside).kind carries⟩
  cases kind with
  | basicId =>
    rw [@filterMap_heard K _ _ _ (fun _ => (basicIdData identity options).received) heard
      fun item member => (encoded item member).decodes.basicId, List.map_map] at slots
    constructor
    · intro last found
      obtain ⟨_, message, single⟩ := last_encoded found
      have some : heard.filter (Heard.carries .basicId) ≠ [] := by
        intro none
        rw [none] at found
        cases found
      refine ⟨_, slots.trans (foldl_offer_same _ _ some), rfl, rfl, ?_⟩
      exact basicIdData_received (inputs_of_valid (encode_checked single))
    · intro none
      rw [none] at slots
      exact slots
  | location =>
    have entry := latest.location
    rw [@filterMap_heard K _ _ _ (fun item => (locationData item.state options).received) heard
      fun item member => (encoded item member).decodes.location, List.getLast?_map] at entry
    constructor
    · intro last found
      obtain ⟨_, message, single⟩ := last_encoded found
      rw [found] at entry
      exact ⟨_, entry, LocationData.near_received (encode_ranges.1 single)⟩
    · intro none
      rw [none] at entry
      exact entry
  | authentication =>
    have entry := latest.auth
    rw [@filterMap_heard K _ _ _ (fun _ => (authData options).received) heard
      fun item member => (encoded item member).decodes.authentication, List.getLast?_map] at entry
    constructor
    · intro last found
      obtain ⟨_, message, single⟩ := last_encoded found
      obtain ⟨same, length⟩ := authData_received (inputs_of_valid (encode_checked single))
      rw [found, Option.map_some, same] at entry
      exact ⟨entry, length⟩
    · intro none
      rw [none] at entry
      exact entry
  | selfId =>
    have entry := latest.selfId
    rw [@filterMap_heard K _ _ _ (fun _ => (selfIdData options).received) heard
      fun item member => (encoded item member).decodes.selfId, List.getLast?_map] at entry
    constructor
    · intro last found
      obtain ⟨_, message, single⟩ := last_encoded found
      rw [found] at entry
      exact ⟨_, entry, rfl, strncpy_copyText (inputs_of_valid (encode_checked single)).description⟩
    · intro none
      rw [none] at entry
      exact entry
  | system =>
    have entry := latest.system
    rw [@filterMap_heard K _ _ _ (fun item => (systemData item.state options).received) heard
      fun item member => (encoded item member).decodes.system, List.getLast?_map] at entry
    constructor
    · intro last found
      obtain ⟨_, message, single⟩ := last_encoded found
      rw [found] at entry
      exact ⟨_, entry, SystemData.near_received (encode_ranges.2 single)⟩
    · intro none
      rw [none] at entry
      exact entry
  | operatorId =>
    have entry := latest.operatorId
    rw [@filterMap_heard K _ _ _ (fun _ => (operatorIdData options).received) heard
      fun item member => (encoded item member).decodes.operatorId, List.getLast?_map] at entry
    constructor
    · intro last found
      obtain ⟨_, message, single⟩ := last_encoded found
      rw [found] at entry
      exact ⟨_, entry, rfl, strncpy_copyText (inputs_of_valid (encode_checked single)).operatorId⟩
    · intro none
      rw [none] at entry
      exact entry

end

end RidFirmware.OdidEncoder
