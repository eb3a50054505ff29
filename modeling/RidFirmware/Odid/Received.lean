import Mathlib.Data.List.TakeWhile
import RidFirmware.Odid.Decoder

/-! What a receiver has of the data of a message: texts end at their first zero byte, quantities are those
their codes stand for, and everything else is unchanged. -/

namespace RidFirmware.Odid
open Lib Lib.Ieee Lib.Wire

/-! Texts. -/

/-- The text an array holds, if it is cut after `size` bytes. -/
def textOf (source : Bytes) (size : Nat) : Bytes := (source.takeWhile (· ≠ 0)).take size

theorem strncpy_eq (source : Bytes) (size : Nat) :
    strncpy source size = textOf source size ++ List.replicate (size - (textOf source size).length) 0 := rfl

theorem takeWhile_text (source : Bytes) (size zeros : Nat) :
    (textOf source size ++ List.replicate zeros 0).takeWhile (· ≠ 0) = textOf source size := by
  have nonzero : ∀ byte ∈ textOf source size, decide (byte ≠ 0) = true := by
    intro byte member
    have early : byte ∈ source.takeWhile (· ≠ 0) := List.mem_of_mem_take member
    simpa using List.mem_takeWhile_imp early
  rw [List.takeWhile_append_of_pos nonzero]
  cases zeros with
  | zero => simp
  | succ zeros => simp [List.replicate_succ]

theorem strncpy_padded (source : Bytes) (size zeros : Nat) :
    strncpy (strncpy source size ++ List.replicate zeros 0) size = strncpy source size := by
  have again : textOf (strncpy source size ++ List.replicate zeros 0) size = textOf source size := by
    have padded : strncpy source size ++ List.replicate zeros 0 =
        textOf source size ++ List.replicate (size - (textOf source size).length + zeros) 0 := by
      rw [List.replicate_add, ← List.append_assoc, ← strncpy_eq]
    rw [padded, textOf, takeWhile_text, textOf, List.take_take, Nat.min_self]
  rw [strncpy_eq, again, ← strncpy_eq]

theorem strncpy_strncpy (source : Bytes) (size : Nat) :
    strncpy (strncpy source size) size = strncpy source size := by
  simpa using strncpy_padded source size 0

/-! Quantities within the ranges of the encoders. -/

section
variable {K : Type} [Field K] [LinearOrder K]

theorem value_within {low high : K} {x : Datum K} (least : low ≤ 0) (most : 0 ≤ high)
    (inside : within (.finite low) (.finite high) x = true) : low ≤ x.value ∧ x.value ≤ high := by
  cases x with
  | finite x => exact (within_finite low high x).mp inside
  | infinite negative => exact ⟨least, most⟩
  | nan => exact ⟨least, most⟩

theorem value_withinOr {low high unknown : K} {x : Datum K} (least : low ≤ 0) (most : 0 ≤ high)
    (above : high < unknown) (inside : withinOr (.finite low) (.finite high) (.finite unknown) x = true) :
    low ≤ x.value ∧ (x.value ≤ high ∨ x.value = unknown) := by
  cases x with
  | finite x => exact (withinOr_finite above x).mp inside
  | infinite negative => exact ⟨least, .inl most⟩
  | nan => exact ⟨least, .inl most⟩

theorem within_of_value {low high : K} {x : Datum K} (finite : x.isFinite = true)
    (inside : low ≤ x.value ∧ x.value ≤ high) : within (.finite low) (.finite high) x = true := by
  rw [Datum.eq_finite_of_isFinite finite, within_finite]
  exact inside

theorem withinOr_of_value {low high unknown : K} {x : Datum K} (finite : x.isFinite = true)
    (above : high < unknown) (inside : low ≤ x.value ∧ (x.value ≤ high ∨ x.value = unknown)) :
    withinOr (.finite low) (.finite high) (.finite unknown) x = true := by
  rw [Datum.eq_finite_of_isFinite finite, withinOr_finite above]
  exact inside

def LocationData.isFinite (data : LocationData K) : Bool :=
  data.direction.isFinite && data.speedHorizontal.isFinite && data.speedVertical.isFinite &&
    data.latitude.isFinite && data.longitude.isFinite && data.altitudeBaro.isFinite &&
    data.altitudeGeo.isFinite && data.height.isFinite && data.timeStamp.isFinite

def SystemData.isFinite (data : SystemData K) : Bool :=
  data.operatorLatitude.isFinite && data.operatorLongitude.isFinite && data.areaCeiling.isFinite &&
    data.areaFloor.isFinite && data.operatorAltitudeGeo.isFinite

/-- What the checks on the quantities of a location make sure of. -/
structure LocationData.Ranged (data : LocationData K) : Prop where
  direction : 0 ≤ data.direction.value ∧ (data.direction.value ≤ 360 ∨ data.direction.value = 361)
  speedHorizontal : 0 ≤ data.speedHorizontal.value ∧
    (data.speedHorizontal.value ≤ 1017 / 4 ∨ data.speedHorizontal.value = 255)
  speedVertical : -62 ≤ data.speedVertical.value ∧
    (data.speedVertical.value ≤ 62 ∨ data.speedVertical.value = 63)
  latitude : -90 ≤ data.latitude.value ∧ data.latitude.value ≤ 90
  longitude : -180 ≤ data.longitude.value ∧ data.longitude.value ≤ 180
  altitudeBaro : -1000 ≤ data.altitudeBaro.value ∧ data.altitudeBaro.value ≤ 63535 / 2
  altitudeGeo : -1000 ≤ data.altitudeGeo.value ∧ data.altitudeGeo.value ≤ 63535 / 2
  height : -1000 ≤ data.height.value ∧ data.height.value ≤ 63535 / 2
  timeStamp : 0 ≤ data.timeStamp.value ∧ (data.timeStamp.value ≤ 3600 ∨ data.timeStamp.value = 0xffff)

variable [IsStrictOrderedRing K]

theorem LocationData.ranged {data : LocationData K} (range : data.inRange = true) : data.Ranged := by
  unfold LocationData.inRange at range
  simp only [Bool.and_eq_true] at range
  obtain ⟨⟨⟨⟨⟨⟨⟨⟨⟨direction, horizontal⟩, vertical⟩, latitude⟩, longitude⟩, baro⟩, geo⟩, height⟩, started⟩,
    ended⟩ := range
  constructor
  · exact value_withinOr (le_refl _) (by norm_num) (by norm_num) direction
  · exact value_withinOr (le_refl _) (by norm_num) (by norm_num) horizontal
  · exact value_withinOr (by norm_num) (by norm_num) (by norm_num) vertical
  · exact value_within (by norm_num) (by norm_num) latitude
  · exact value_within (by norm_num) (by norm_num) longitude
  · exact value_within (by norm_num) (by norm_num) baro
  · exact value_within (by norm_num) (by norm_num) geo
  · exact value_within (by norm_num) (by norm_num) height
  · cases seconds : data.timeStamp with
    | finite seconds' =>
      rw [seconds] at started ended
      simp only [Datum.less_finite, Datum.same_finite, MAX_TIMESTAMP, INV_TIMESTAMP, Bool.not_eq_true',
        decide_eq_false_iff_not, not_lt, Bool.and_eq_false_iff, Bool.not_eq_false', decide_eq_true_eq]
        at started ended
      exact ⟨started, ended⟩
    | infinite negative => exact ⟨le_refl _, .inl (Nat.ofNat_nonneg 3600)⟩
    | nan => exact ⟨le_refl _, .inl (Nat.ofNat_nonneg 3600)⟩

theorem LocationData.inRange_of_ranged {data : LocationData K} (finite : data.isFinite = true)
    (ranged : data.Ranged) : data.inRange = true := by
  unfold LocationData.isFinite at finite
  simp only [Bool.and_eq_true] at finite
  obtain ⟨⟨⟨⟨⟨⟨⟨⟨direction, horizontal⟩, vertical⟩, latitude⟩, longitude⟩, baro⟩, geo⟩, height⟩, seconds⟩ := finite
  unfold LocationData.inRange
  simp only [Bool.and_eq_true]
  refine ⟨⟨⟨⟨⟨⟨⟨⟨⟨?_, ?_⟩, ?_⟩, ?_⟩, ?_⟩, ?_⟩, ?_⟩, ?_⟩, ?_⟩, ?_⟩
  · exact withinOr_of_value direction (by norm_num) ranged.direction
  · exact withinOr_of_value horizontal (by norm_num) ranged.speedHorizontal
  · exact withinOr_of_value vertical (by norm_num) ranged.speedVertical
  · exact within_of_value latitude ranged.latitude
  · exact within_of_value longitude ranged.longitude
  · exact within_of_value baro ranged.altitudeBaro
  · exact within_of_value geo ranged.altitudeGeo
  · exact within_of_value height ranged.height
  · rw [Datum.eq_finite_of_isFinite seconds, Datum.less_finite, Bool.not_eq_true', decide_eq_false_iff_not, not_lt]
    exact ranged.timeStamp.1
  · rw [Datum.eq_finite_of_isFinite seconds]
    simp only [MAX_TIMESTAMP, INV_TIMESTAMP, Datum.less_finite, Datum.same_finite, Bool.not_eq_true',
      Bool.and_eq_false_iff, Bool.not_eq_false', decide_eq_false_iff_not, not_lt, decide_eq_true_eq]
    exact ranged.timeStamp.2

end

section
variable {K : Type} [Field K] [LinearOrder K] [IsStrictOrderedRing K] [FloorRing K]

def LocationData.received (data : LocationData K) : LocationData K :=
  { data with
    direction := .finite (receivedDirection data.direction.value)
    speedHorizontal := .finite (receivedSpeed data.speedHorizontal.value)
    speedVertical := .finite (verticalScale.received data.speedVertical.value)
    latitude := .finite (degreeScale.received data.latitude.value)
    longitude := .finite (degreeScale.received data.longitude.value)
    altitudeBaro := .finite (altitudeScale.received data.altitudeBaro.value)
    altitudeGeo := .finite (altitudeScale.received data.altitudeGeo.value)
    height := .finite (altitudeScale.received data.height.value)
    timeStamp := .finite (receivedTime data.timeStamp.value) }

omit [IsStrictOrderedRing K] in
theorem encodeDirection_flag (direction : K) : (encodeDirection direction).2 ≤ 1 := by
  unfold encodeDirection
  dsimp only
  generalize (if (lround direction).toNat = 360 then 0 else (lround direction).toNat) = degrees
  split_ifs
  · exact Nat.zero_le 1
  · exact le_refl 1

omit [IsStrictOrderedRing K] in
theorem encodeSpeedHorizontal_flag (speed : K) : (encodeSpeedHorizontal speed).2 ≤ 1 := by
  unfold encodeSpeedHorizontal
  split_ifs
  · exact Nat.zero_le 1
  · exact le_refl 1

theorem toNat_flags (status : Nat) {height westward multiplier : Nat} (above : height ≤ 1) (west : westward ≤ 1)
    (fast : multiplier ≤ 1) :
    (nibbles status (height * 4 + westward * 2 + multiplier)).toNat % 2 = multiplier ∧
      (nibbles status (height * 4 + westward * 2 + multiplier)).toNat / 2 % 2 = westward ∧
      (nibbles status (height * 4 + westward * 2 + multiplier)).toNat / 4 % 2 = height := by
  rw [toNat_nibbles]
  omega

theorem nibble_eq {field : Nat} (small : field ≤ 15) : field % 16 = field := Nat.mod_eq_of_lt (by omega)

theorem LocationData.Ranged.wholeDegrees {data : LocationData K} (ranged : data.Ranged) :
    0 ≤ lround data.direction.value ∧ lround data.direction.value ≤ 361 := by
  constructor
  · exact le_lround (by exact_mod_cast ranged.direction.1)
  · apply lround_le
    rcases ranged.direction.2 with known | unknown
    · exact known.trans (by norm_num)
    · rw [unknown]
      norm_num

theorem decodeLocationMessage_encode {data : LocationData K} {message : Bytes}
    (encoded : encodeLocationMessage data = some message) :
    decodeLocationMessage message = some data.received := by
  unfold encodeLocationMessage at encoded
  split_ifs at encoded with enums range
  rw [Option.some.injEq] at encoded
  subst encoded
  rw [Bool.not_eq_true, Bool.not_eq_false'] at enums range
  have ranged := LocationData.ranged range
  obtain ⟨low, high⟩ := ranged.wholeDegrees
  obtain ⟨status, height, horizontal, vertical, barometric, speed, timestamp⟩ := of_decide_eq_true enums
  obtain ⟨multiplier, westward, heightType⟩ := toNat_flags data.status height
    (encodeDirection_flag data.direction.value) (encodeSpeedHorizontal_flag data.speedHorizontal.value)
  have header : (header ODID_MESSAGETYPE_LOCATION).toNat / 16 = ODID_MESSAGETYPE_LOCATION := by decide
  unfold decodeLocationMessage upperAt lowerAt LocationData.received
  simp [bytesAt_append, bytesAt_append_left, byteAt_append, encodeTimeStamp_length, header, multiplier,
    westward, heightType, nibble_eq, status, horizontal, vertical, barometric, speed, timestamp,
    decodeDirection_encode low high, decodeSpeedHorizontal_encode ranged.speedHorizontal.1,
    decodeSpeedVertical_encode, decodeLatLon_encode, decodeAltitude_encode, decodeTimeStamp_encode]

def SystemData.received (data : SystemData K) : SystemData K :=
  { data with
    operatorLatitude := .finite (degreeScale.received data.operatorLatitude.value)
    operatorLongitude := .finite (degreeScale.received data.operatorLongitude.value)
    areaRadius := UInt16.ofNat (data.areaRadius.toNat / 10 * 10)
    areaCeiling := .finite (altitudeScale.received data.areaCeiling.value)
    areaFloor := .finite (altitudeScale.received data.areaFloor.value)
    operatorAltitudeGeo := .finite (altitudeScale.received data.operatorAltitudeGeo.value) }

omit [IsStrictOrderedRing K] [FloorRing K] in
theorem decodeAreaRadius_encode {radius : UInt16} (small : radius.toNat ≤ MAX_AREA_RADIUS) :
    encodeAreaRadius radius = [UInt8.ofNat (radius.toNat / 10)] ∧
      decodeAreaRadius (radius.toNat / 10 % 256) = UInt16.ofNat (radius.toNat / 10 * 10) := by
  unfold MAX_AREA_RADIUS at small
  have byte : radius.toNat / 10 < 256 := by omega
  constructor
  · have clamped : intRangeMax (radius.toNat / 10 : Nat) 0 255 = (radius.toNat / 10 : Nat) := by
      rw [intRangeMax_eq (by decide)]
      omega
    unfold encodeAreaRadius
    rw [clamped, putInt, Int.emod_eq_of_lt (by omega) (by omega)]
    rfl
  · rw [Nat.mod_eq_of_lt byte]
    rfl

omit [Field K] [LinearOrder K] [IsStrictOrderedRing K] [FloorRing K] in
theorem ofNat_getLe_putLe (count : UInt16) (timestamp : UInt32) :
    UInt16.ofNat (getLe (putLe 2 count.toNat)) = count ∧
      UInt32.ofNat (getLe (putLe 4 timestamp.toNat)) = timestamp := by
  rw [getLe_putLe 2 _ count.toNat_lt, getLe_putLe 4 _ timestamp.toNat_lt]
  simp

theorem decodeSystemMessage_encode {data : SystemData K} {message : Bytes}
    (encoded : encodeSystemMessage data = some message) :
    decodeSystemMessage message = some data.received := by
  unfold encodeSystemMessage at encoded
  split_ifs at encoded with range
  rw [Option.some.injEq] at encoded
  subst encoded
  rw [Bool.not_eq_true, Bool.not_eq_false'] at range
  unfold SystemData.inRange at range
  simp only [Bool.and_eq_true, decide_eq_true_eq] at range
  obtain ⟨⟨⟨⟨⟨⟨⟨location, classification, category, classEu⟩, latitude⟩, longitude⟩, radius⟩, ceiling⟩,
    floor⟩, altitude⟩ := range
  obtain ⟨sent, read⟩ := decodeAreaRadius_encode radius
  obtain ⟨count, timestamp⟩ := ofNat_getLe_putLe data.areaCount data.timestamp
  have header : (header ODID_MESSAGETYPE_SYSTEM).toNat / 16 = ODID_MESSAGETYPE_SYSTEM := by decide
  unfold decodeSystemMessage upperAt lowerAt SystemData.received
  simp [bytesAt_append, bytesAt_append_left, byteAt_append, header, nibble_eq, category, classEu, sent, read,
    count, timestamp, decodeLatLon_encode, decodeAltitude_encode]
  omega

end

/-! The other messages. -/

/-- Texts are cut at their first zero byte; other identifications are taken whole. -/
def BasicIdData.received (data : BasicIdData) : BasicIdData :=
  { data with
    uasId :=
      if data.idType = 1 ∨ data.idType = 2 then strncpy data.uasId ODID_ID_SIZE ++ [0]
      else data.uasId.take ODID_ID_SIZE ++ [0] }

def AuthData.received (data : AuthData) : AuthData :=
  { data with
    authData := data.authData.take ODID_AUTH_PAGE_ZERO_DATA_SIZE ++
      List.replicate (ODID_AUTH_PAGE_NONZERO_DATA_SIZE + 1 - ODID_AUTH_PAGE_ZERO_DATA_SIZE) 0 }

def SelfIdData.received (data : SelfIdData) : SelfIdData :=
  { data with desc := strncpy data.desc ODID_STR_SIZE ++ [0] }

def OperatorIdData.received (data : OperatorIdData) : OperatorIdData :=
  { data with operatorId := strncpy data.operatorId ODID_ID_SIZE ++ [0] }

theorem safeDecCopyfill_strncpy (source : Bytes) (size : Nat) :
    safeDecCopyfill (strncpy source size) (size + 1) = strncpy source size ++ [0] := by
  unfold safeDecCopyfill
  rw [Nat.add_sub_cancel, strncpy_strncpy]

theorem bytesAt_append_one {part rest : Bytes} {byte : UInt8} {size : Nat} (length : part.length = size) :
    bytesAt (part ++ byte :: rest) 0 (size + 1) = part ++ [byte] := by
  unfold bytesAt
  rw [List.drop_zero, ← length, List.take_length_add_append, List.take_succ_cons, List.take_zero]

theorem decodeBasicIdMessage_encode {data : BasicIdData} {message : Bytes}
    (encoded : encodeBasicIdMessage data = some message) (sized : ODID_ID_SIZE ≤ data.uasId.length) :
    decodeBasicIdMessage message = some data.received := by
  unfold encodeBasicIdMessage at encoded
  split_ifs at encoded with range text
  all_goals
    rw [Option.some.injEq] at encoded
    subst encoded
    rw [not_or, not_lt, not_lt] at range
    have header : (header ODID_MESSAGETYPE_BASIC_ID).toNat / 16 = ODID_MESSAGETYPE_BASIC_ID := by decide
    unfold decodeBasicIdMessage upperAt lowerAt BasicIdData.received
  · simp [header, text, nibble_eq, range, bytesAt_append_left, safeDecCopyfill_strncpy]
  · have length : (data.uasId.take ODID_ID_SIZE).length = ODID_ID_SIZE := List.length_take_of_le sized
    simp [header, text, nibble_eq, range, bytesAt_append_one length]

theorem decodeAuthMessage_encode {data : AuthData} {message : Bytes}
    (encoded : encodeAuthMessage data = some message)
    (sized : ODID_AUTH_PAGE_ZERO_DATA_SIZE ≤ data.authData.length) :
    decodeAuthMessage message = some data.received := by
  unfold encodeAuthMessage at encoded
  split_ifs at encoded with type page pages
  rw [Option.some.injEq] at encoded
  subst encoded
  have content : (data.authData.take ODID_AUTH_PAGE_ZERO_DATA_SIZE).length = ODID_AUTH_PAGE_ZERO_DATA_SIZE :=
    List.length_take_of_le sized
  have last : data.lastPageIndex = 0 := by
    simp only [ODID_AUTH_MAX_PAGES] at pages
    omega
  have dataPage : data.dataPage = 0 := by
    simp only [ODID_AUTH_MAX_PAGES] at page
    omega
  have length : data.length ≤ ODID_AUTH_PAGE_ZERO_DATA_SIZE := by
    rw [last] at pages
    omega
  have room : data.length ≤ MAX_AUTH_LENGTH := length
  have small : data.length < 256 := Nat.lt_of_le_of_lt length (by decide)
  have timestamp := (ofNat_getLe_putLe 0 data.timestamp).2
  have header : (header ODID_MESSAGETYPE_AUTH).toNat / 16 = ODID_MESSAGETYPE_AUTH := by decide
  unfold decodeAuthMessage upperAt lowerAt AuthData.received
  simp [header, last, dataPage, nibble_eq, Nat.not_lt.mp type, Nat.mod_eq_of_lt small, length, room,
    bytesAt_append, bytesAt_append_left, bytesAt_self content, timestamp]
  decide

theorem decodeSelfIdMessage_encode {data : SelfIdData} {message : Bytes}
    (encoded : encodeSelfIdMessage data = some message) :
    decodeSelfIdMessage message = some data.received := by
  unfold encodeSelfIdMessage at encoded
  split_ifs at encoded with range
  rw [Option.some.injEq] at encoded
  subst encoded
  have header : (header ODID_MESSAGETYPE_SELF_ID).toNat / 16 = ODID_MESSAGETYPE_SELF_ID := by decide
  unfold decodeSelfIdMessage upperAt SelfIdData.received
  simp [header, bytesAt_self (strncpy_length data.desc ODID_STR_SIZE), safeDecCopyfill_strncpy]
  omega

theorem decodeOperatorIdMessage_encode {data : OperatorIdData} {message : Bytes}
    (encoded : encodeOperatorIdMessage data = some message) :
    decodeOperatorIdMessage message = some data.received := by
  unfold encodeOperatorIdMessage at encoded
  split_ifs at encoded with range
  rw [Option.some.injEq] at encoded
  subst encoded
  have header : (header ODID_MESSAGETYPE_OPERATOR_ID).toNat / 16 = ODID_MESSAGETYPE_OPERATOR_ID := by decide
  unfold decodeOperatorIdMessage upperAt OperatorIdData.received
  simp [header, bytesAt_append_left, safeDecCopyfill_strncpy]
  omega

end RidFirmware.Odid
