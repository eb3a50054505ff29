import RidFirmware.Model

/-! The encoders of the Open Drone ID core library. An encoded message is the 25 bytes of its packed
structure; a message the library does not encode is `none`. -/

namespace RidFirmware.Odid
open Lib Lib.Ieee Lib.Wire

def ODID_MESSAGE_SIZE : Nat := 25
def ODID_ID_SIZE : Nat := 20
def ODID_STR_SIZE : Nat := 23
def ODID_PROTOCOL_VERSION : Nat := 2
def ODID_AUTH_MAX_PAGES : Nat := 1
def ODID_AUTH_PAGE_ZERO_DATA_SIZE : Nat := 17
def ODID_AUTH_PAGE_NONZERO_DATA_SIZE : Nat := 23
def MAX_AUTH_LENGTH : Nat :=
  ODID_AUTH_PAGE_ZERO_DATA_SIZE + ODID_AUTH_PAGE_NONZERO_DATA_SIZE * (ODID_AUTH_MAX_PAGES - 1)
def ODID_BASIC_ID_MAX_MESSAGES : Nat := 2
def ODID_PACK_MAX_MESSAGES : Nat := 9
def MAX_AREA_RADIUS : Nat := 2550

def ODID_MESSAGETYPE_BASIC_ID : Nat := 0
def ODID_MESSAGETYPE_LOCATION : Nat := 1
def ODID_MESSAGETYPE_AUTH : Nat := 2
def ODID_MESSAGETYPE_SELF_ID : Nat := 3
def ODID_MESSAGETYPE_SYSTEM : Nat := 4
def ODID_MESSAGETYPE_OPERATOR_ID : Nat := 5
def ODID_MESSAGETYPE_PACKED : Nat := 0xf
def ODID_MESSAGETYPE_INVALID : Nat := 0xff

section
variable {K : Type} [Field K] [LinearOrder K]

def MIN_DIR : Datum K := .finite 0
def MAX_DIR : Datum K := .finite 360
def INV_DIR : Datum K := .finite 361
def MIN_SPEED_H : Datum K := .finite 0
def MAX_SPEED_H : Datum K := .finite (1017 / 4)
def INV_SPEED_H : Datum K := .finite 255
def MIN_SPEED_V : Datum K := .finite (-62)
def MAX_SPEED_V : Datum K := .finite 62
def INV_SPEED_V : Datum K := .finite 63
def MIN_LAT : Datum K := .finite (-90)
def MAX_LAT : Datum K := .finite 90
def MIN_LON : Datum K := .finite (-180)
def MAX_LON : Datum K := .finite 180
def MIN_ALT : Datum K := .finite (-1000)
def MAX_ALT : Datum K := .finite (63535 / 2)
def MAX_TIMESTAMP : Datum K := .finite 3600
def INV_TIMESTAMP : Datum K := .finite 0xffff

/-- Not below `low` and not above `high`. -/
def within (low high x : Datum K) : Bool := !x.less low && !high.less x

/-- Within the range, or the one value above it that stands for an unknown quantity. -/
def withinOr (low high unknown x : Datum K) : Bool :=
  within low unknown x && !(high.less x && x.less unknown)

end

/-! The range checks of exact numbers. -/

section
variable {K : Type} [LinearOrder K]

theorem within_finite (low high x : K) :
    within (.finite low) (.finite high) (.finite x) = true ↔ low ≤ x ∧ x ≤ high := by
  simp [within]

theorem withinOr_finite {low high unknown : K} (above : high < unknown) (x : K) :
    withinOr (.finite low) (.finite high) (.finite unknown) (.finite x) = true ↔
      low ≤ x ∧ (x ≤ high ∨ x = unknown) := by
  unfold withinOr
  rw [Bool.and_eq_true, within_finite, Bool.not_eq_true', Bool.and_eq_false_iff]
  simp only [Datum.less_finite, decide_eq_false_iff_not, not_lt]
  apply Iff.intro
  · intro parts
    obtain ⟨⟨reached, below⟩, inside | outside⟩ := parts
    · exact ⟨reached, .inl inside⟩
    · exact ⟨reached, .inr (le_antisymm below outside)⟩
  · intro parts
    obtain ⟨reached, inside | rfl⟩ := parts
    · exact ⟨⟨reached, inside.trans above.le⟩, .inl inside⟩
    · exact ⟨⟨reached, le_refl x⟩, .inr (le_refl x)⟩

end

theorem within_of_atMost {K : Type} [LinearOrder K] {low high : K} {x : Datum K}
    (above : Datum.atMost (.finite low) x = true) (below : x.atMost (.finite high) = true) :
    within (.finite low) (.finite high) x = true := by
  cases x with
  | finite value =>
    rw [Datum.atMost_finite, decide_eq_true_eq] at above below
    simp [within, above, below]
  | infinite negative => cases negative <;> simp_all [Datum.atMost, Datum.less, Datum.same]
  | nan => cases above

/-- Two fields of four bits, the first in the upper half of the byte. -/
def nibbles (upper lower : Nat) : UInt8 := UInt8.ofNat (upper % 16 * 16 + lower % 16)

/-- The first byte of every message. -/
def header (messageType : Nat) : UInt8 := nibbles messageType ODID_PROTOCOL_VERSION

def intRangeMax (value low high : Int) : Int :=
  if value < low then low else if high < value then high else value

/-- `strncpy`: up to the first zero byte, then zero bytes up to the size. -/
def strncpy (source : Bytes) (size : Nat) : Bytes :=
  let text := (source.takeWhile (· ≠ 0)).take size
  text ++ List.replicate (size - text.length) 0

@[simp] theorem strncpy_length (source : Bytes) (size : Nat) : (strncpy source size).length = size := by
  unfold strncpy
  simp only [List.length_append, List.length_take, List.length_replicate]
  omega

/-! Quantities on the wire. -/

section
variable {K : Type} [Field K] [LinearOrder K] [FloorRing K]

/-- The direction in one byte, and whether it points west. -/
def encodeDirection (direction : K) : Nat × Nat :=
  let degrees := (lround direction).toNat
  let degrees := if degrees = 360 then 0 else degrees
  if degrees < 180 then ((intRangeMax degrees 0 255).toNat, 0)
  else ((intRangeMax (degrees - 180 : Nat) 0 255).toNat, 1)

/-- The speed in one byte, and whether it is in the larger unit. -/
def encodeSpeedHorizontal (speed : K) : Nat × Nat :=
  if speed ≤ 255 / 4 then ((lround (speed * 4)).toNat % 256, 0)
  else ((intRangeMax (lround ((speed - 255 / 4) * 4 / 3)) 0 255).toNat, 1)

def encodeSpeedVertical (speed : K) : Bytes := putInt 1 (intRangeMax (lround (speed * 2)) (-128) 127)

def encodeLatLon (degrees : K) : Bytes :=
  putInt 4 (intRangeMax (lround (degrees * 10 ^ 7)) (-1800000000) 1800000000)

def encodeAltitude (altitude : K) : Bytes :=
  putInt 2 (intRangeMax (lround ((altitude + 1000) * 2)) 0 65535)

def encodeTimeStamp (seconds : K) : Bytes :=
  if seconds = 0xffff then putInt 2 0xffff
  else putInt 2 (intRangeMax (lround (seconds * 10)) 0 36000)

def encodeAreaRadius (radius : UInt16) : Bytes := putInt 1 (intRangeMax (radius.toNat / 10 : Nat) 0 255)

end

/-! Accuracies are sent as the number of a class. -/

section
variable {K : Type} [Field K] [LinearOrder K]

/-- The class of the first lower bound an accuracy reaches. `least` is for what is positive, and
zero says that the accuracy is unknown. -/
def createEnum (bounds : List (K × Nat)) (least : Nat) (accuracy : Datum K) : Nat :=
  match bounds.find? fun bound => Datum.atMost (.finite bound.1) accuracy with
  | some bound => bound.2
  | none => if Datum.less (.finite 0) accuracy then least else 0

def createEnumHorizontalAccuracy : Datum K → Nat :=
  createEnum [(18520, 0), (7408, 1), (3704, 2), (1852, 3), (926, 4), (2778 / 5, 5), (926 / 5, 6),
    (463 / 5, 7), (30, 8), (10, 9), (3, 10), (1, 11)] 12

def createEnumVerticalAccuracy : Datum K → Nat :=
  createEnum [(150, 0), (45, 1), (25, 2), (10, 3), (3, 4), (1, 5)] 6

def createEnumSpeedAccuracy : Datum K → Nat :=
  createEnum [(10, 0), (3, 1), (1, 2), (3 / 10, 3)] 4

/-- Here a class starts above its bound. -/
def createEnumTimestampAccuracy (accuracy : Datum K) : Nat :=
  if Datum.less (.finite (3 / 2)) accuracy then 0
  else match (List.range 15).reverse.find? fun (tenths : Nat) =>
      Datum.less (.finite ((tenths : K) / 10)) accuracy with
    | some tenths => tenths + 1
    | none => 0

theorem createEnum_le (bounds : List (K × Nat)) (least : Nat) (accuracy : Datum K) {limit : Nat}
    (listed : ∀ bound ∈ bounds, bound.2 ≤ limit) (last : least ≤ limit) :
    createEnum bounds least accuracy ≤ limit := by
  unfold createEnum
  cases found : bounds.find? (fun bound => Datum.atMost (.finite bound.1) accuracy) with
  | none =>
    dsimp only
    split_ifs <;> omega
  | some bound => exact listed bound (List.mem_of_find?_eq_some found)

theorem createEnumTimestampAccuracy_le (accuracy : Datum K) :
    createEnumTimestampAccuracy accuracy ≤ 15 := by
  unfold createEnumTimestampAccuracy
  split_ifs
  · exact Nat.zero_le _
  · split
    · rename_i tenths found
      have listed := List.mem_of_find?_eq_some found
      simp only [List.mem_reverse, List.mem_range] at listed
      omega
    · exact Nat.zero_le _

end

/-! The normative form of the messages. Enumerated fields are their numbers. -/

structure BasicIdData where
  uaType : Nat
  idType : Nat
  uasId : Bytes

structure LocationData (K : Type) where
  status : Nat
  direction : Datum K
  speedHorizontal : Datum K
  speedVertical : Datum K
  latitude : Datum K
  longitude : Datum K
  altitudeBaro : Datum K
  altitudeGeo : Datum K
  heightType : Nat
  height : Datum K
  horizAccuracy : Nat
  vertAccuracy : Nat
  baroAccuracy : Nat
  speedAccuracy : Nat
  tsAccuracy : Nat
  timeStamp : Datum K

structure AuthData where
  dataPage : Nat
  authType : Nat
  lastPageIndex : Nat
  length : Nat
  timestamp : UInt32
  authData : Bytes

structure SelfIdData where
  descType : Nat
  desc : Bytes

structure SystemData (K : Type) where
  operatorLocationType : Nat
  classificationType : Nat
  operatorLatitude : Datum K
  operatorLongitude : Datum K
  areaCount : UInt16
  areaRadius : UInt16
  areaCeiling : Datum K
  areaFloor : Datum K
  categoryEu : Nat
  classEu : Nat
  operatorAltitudeGeo : Datum K
  timestamp : UInt32

structure OperatorIdData where
  operatorIdType : Nat
  operatorId : Bytes

/-! The messages. -/

def encodeBasicIdMessage (data : BasicIdData) : Option Bytes :=
  if 15 < data.idType ∨ 15 < data.uaType then none
  else some ([header ODID_MESSAGETYPE_BASIC_ID, nibbles data.idType data.uaType] ++
    (if data.idType = 1 ∨ data.idType = 2 then strncpy data.uasId ODID_ID_SIZE
      else data.uasId.take ODID_ID_SIZE) ++ [0, 0, 0])

section
variable {K : Type} [Field K] [LinearOrder K]

/-- The checks on the enumerated fields of a location. -/
def LocationData.enumsInRange (data : LocationData K) : Bool :=
  decide (data.status ≤ 15 ∧ data.heightType ≤ 1 ∧ data.horizAccuracy ≤ 15 ∧ data.vertAccuracy ≤ 15 ∧
    data.baroAccuracy ≤ 15 ∧ data.speedAccuracy ≤ 15 ∧ data.tsAccuracy ≤ 15)

def LocationData.inRange (data : LocationData K) : Bool :=
  withinOr MIN_DIR MAX_DIR INV_DIR data.direction &&
    withinOr MIN_SPEED_H MAX_SPEED_H INV_SPEED_H data.speedHorizontal &&
    withinOr MIN_SPEED_V MAX_SPEED_V INV_SPEED_V data.speedVertical &&
    within MIN_LAT MAX_LAT data.latitude && within MIN_LON MAX_LON data.longitude &&
    within MIN_ALT MAX_ALT data.altitudeBaro && within MIN_ALT MAX_ALT data.altitudeGeo &&
    within MIN_ALT MAX_ALT data.height &&
    !data.timeStamp.less (.finite 0) &&
    !(MAX_TIMESTAMP.less data.timeStamp && !data.timeStamp.same INV_TIMESTAMP)

variable [FloorRing K]

def encodeLocationMessage (data : LocationData K) : Option Bytes :=
  if !data.enumsInRange then none
  else if !data.inRange then none
  else
    let direction := encodeDirection data.direction.value
    let speed := encodeSpeedHorizontal data.speedHorizontal.value
    some ([header ODID_MESSAGETYPE_LOCATION,
        nibbles data.status (data.heightType * 4 + direction.2 * 2 + speed.2),
        UInt8.ofNat direction.1, UInt8.ofNat speed.1] ++
      encodeSpeedVertical data.speedVertical.value ++ encodeLatLon data.latitude.value ++
      encodeLatLon data.longitude.value ++ encodeAltitude data.altitudeBaro.value ++
      encodeAltitude data.altitudeGeo.value ++ encodeAltitude data.height.value ++
      [nibbles data.vertAccuracy data.horizAccuracy, nibbles data.baroAccuracy data.speedAccuracy] ++
      encodeTimeStamp data.timeStamp.value ++ [nibbles 0 data.tsAccuracy, 0])

end

/-- Only page zero exists. -/
def encodeAuthMessage (data : AuthData) : Option Bytes :=
  if 15 < data.authType then none
  else if ODID_AUTH_MAX_PAGES ≤ data.dataPage then none
  else if ODID_AUTH_MAX_PAGES ≤ data.lastPageIndex ∨ MAX_AUTH_LENGTH < data.length ∨
      ODID_AUTH_PAGE_ZERO_DATA_SIZE + data.lastPageIndex * ODID_AUTH_PAGE_NONZERO_DATA_SIZE <
        data.length then none
  else some ([header ODID_MESSAGETYPE_AUTH, nibbles data.authType data.dataPage,
      UInt8.ofNat data.lastPageIndex, UInt8.ofNat data.length] ++
    putLe 4 data.timestamp.toNat ++ data.authData.take ODID_AUTH_PAGE_ZERO_DATA_SIZE)

def encodeSelfIdMessage (data : SelfIdData) : Option Bytes :=
  if 255 < data.descType then none
  else some ([header ODID_MESSAGETYPE_SELF_ID, UInt8.ofNat data.descType] ++
    strncpy data.desc ODID_STR_SIZE)

section
variable {K : Type} [Field K] [LinearOrder K]

/-- The checks of `encodeSystemMessage`, in their order. -/
def SystemData.inRange (data : SystemData K) : Bool :=
  decide (data.operatorLocationType ≤ 3 ∧ data.classificationType ≤ 7 ∧ data.categoryEu ≤ 15 ∧
      data.classEu ≤ 15) &&
    within MIN_LAT MAX_LAT data.operatorLatitude && within MIN_LON MAX_LON data.operatorLongitude &&
    decide (data.areaRadius.toNat ≤ MAX_AREA_RADIUS) &&
    within MIN_ALT MAX_ALT data.areaCeiling && within MIN_ALT MAX_ALT data.areaFloor &&
    within MIN_ALT MAX_ALT data.operatorAltitudeGeo

variable [FloorRing K]

def encodeSystemMessage (data : SystemData K) : Option Bytes :=
  if !data.inRange then none
  else some ([header ODID_MESSAGETYPE_SYSTEM,
      UInt8.ofNat (data.classificationType % 8 * 4 + data.operatorLocationType % 4)] ++
    encodeLatLon data.operatorLatitude.value ++ encodeLatLon data.operatorLongitude.value ++
    putLe 2 data.areaCount.toNat ++ encodeAreaRadius data.areaRadius ++
    encodeAltitude data.areaCeiling.value ++ encodeAltitude data.areaFloor.value ++
    [nibbles data.categoryEu data.classEu] ++ encodeAltitude data.operatorAltitudeGeo.value ++
    putLe 4 data.timestamp.toNat ++ [0])

end

def encodeOperatorIdMessage (data : OperatorIdData) : Option Bytes :=
  if 255 < data.operatorIdType then none
  else some ([header ODID_MESSAGETYPE_OPERATOR_ID, UInt8.ofNat data.operatorIdType] ++
    strncpy data.operatorId ODID_ID_SIZE ++ [0, 0, 0])

/-! Packs. -/

def decodeMessageType (byte : UInt8) : Nat :=
  let type := byte.toNat / 16
  if type ≤ ODID_MESSAGETYPE_OPERATOR_ID ∨ type = ODID_MESSAGETYPE_PACKED then type
  else ODID_MESSAGETYPE_INVALID

/-- At most one message of each type, or as many as the library keeps of it. -/
def checkPackContent (messages : List Bytes) : Bool :=
  let types := messages.map fun message => decodeMessageType (message.getD 0 0)
  decide (0 < messages.length ∧ messages.length ≤ ODID_PACK_MAX_MESSAGES) &&
    types.all (fun type => decide (type ≤ ODID_MESSAGETYPE_OPERATOR_ID)) &&
    decide (types.count ODID_MESSAGETYPE_BASIC_ID ≤ ODID_BASIC_ID_MAX_MESSAGES ∧
      types.count ODID_MESSAGETYPE_LOCATION ≤ 1 ∧
      types.count ODID_MESSAGETYPE_AUTH ≤ ODID_AUTH_MAX_PAGES ∧
      types.count ODID_MESSAGETYPE_SELF_ID ≤ 1 ∧ types.count ODID_MESSAGETYPE_SYSTEM ≤ 1 ∧
      types.count ODID_MESSAGETYPE_OPERATOR_ID ≤ 1)

def encodeMessagePack (messages : List Bytes) : Option Bytes :=
  if !checkPackContent messages then none
  else some ([header ODID_MESSAGETYPE_PACKED, UInt8.ofNat ODID_MESSAGE_SIZE,
    UInt8.ofNat messages.length] ++ messages.flatten)

/-! What the encoders produce. -/

/-- An encoded message is as long as every message and starts with its type. -/
structure IsMessage (type : Nat) (message : Bytes) : Prop where
  length : message.length = ODID_MESSAGE_SIZE
  type : decodeMessageType (message.getD 0 0) = type

theorem isMessage_cons {type : Nat} (known : type ≤ ODID_MESSAGETYPE_OPERATOR_ID) {rest : Bytes}
    (length : rest.length = 24) : IsMessage type (header type :: rest) where
  length := by rw [List.length_cons, length]; rfl
  type := by
    rw [List.getD_cons_zero]
    have types : ∀ type ≤ ODID_MESSAGETYPE_OPERATOR_ID, decodeMessageType (header type) = type := by
      decide
    exact types type known

theorem encodeBasicIdMessage_some {data : BasicIdData} (idType : data.idType ≤ 15)
    (uaType : data.uaType ≤ 15) (uasId : ODID_ID_SIZE ≤ data.uasId.length) :
    ∃ message, encodeBasicIdMessage data = some message ∧
      IsMessage ODID_MESSAGETYPE_BASIC_ID message := by
  refine ⟨_, if_neg (by omega), ?_⟩
  simp only [List.cons_append]
  apply isMessage_cons (by decide)
  simp only [List.length_cons, List.length_append, List.length_nil]
  split_ifs
  · rw [strncpy_length]
    rfl
  · rw [List.length_take, Nat.min_eq_left uasId]
    rfl

theorem encodeAuthMessage_some {data : AuthData} (authType : data.authType ≤ 15)
    (page : data.dataPage = 0) (last : data.lastPageIndex = 0)
    (length : data.length ≤ ODID_AUTH_PAGE_ZERO_DATA_SIZE)
    (authData : ODID_AUTH_PAGE_ZERO_DATA_SIZE ≤ data.authData.length) :
    ∃ message, encodeAuthMessage data = some message ∧ IsMessage ODID_MESSAGETYPE_AUTH message := by
  unfold encodeAuthMessage
  rw [page, last]
  refine ⟨_, (if_neg (by omega)).trans ((if_neg (by decide)).trans (if_neg ?_)), ?_⟩
  · simp only [MAX_AUTH_LENGTH, ODID_AUTH_MAX_PAGES]
    omega
  · simp only [List.cons_append]
    apply isMessage_cons (by decide)
    simp only [List.length_cons, List.length_append, List.length_nil, putLe_length, List.length_take,
      Nat.min_eq_left authData]
    rfl

theorem encodeSelfIdMessage_some {data : SelfIdData} (descType : data.descType ≤ 255) :
    ∃ message, encodeSelfIdMessage data = some message ∧
      IsMessage ODID_MESSAGETYPE_SELF_ID message := by
  refine ⟨_, if_neg (by omega), isMessage_cons (by decide) ?_⟩
  simp [ODID_STR_SIZE]

theorem encodeOperatorIdMessage_some {data : OperatorIdData} (idType : data.operatorIdType ≤ 255) :
    ∃ message, encodeOperatorIdMessage data = some message ∧
      IsMessage ODID_MESSAGETYPE_OPERATOR_ID message := by
  refine ⟨_, if_neg (by omega), isMessage_cons (by decide) ?_⟩
  simp [ODID_ID_SIZE]

section
variable {K : Type} [Field K] [LinearOrder K] [FloorRing K]

theorem encodeTimeStamp_length (seconds : K) : (encodeTimeStamp seconds).length = 2 := by
  unfold encodeTimeStamp
  split_ifs <;> exact putInt_length 2 _

theorem encodeLocationMessage_some {data : LocationData K} (enums : data.enumsInRange = true)
    (range : data.inRange = true) :
    ∃ message, encodeLocationMessage data = some message ∧
      IsMessage ODID_MESSAGETYPE_LOCATION message := by
  unfold encodeLocationMessage
  rw [enums, range]
  refine ⟨_, rfl, isMessage_cons (by decide) ?_⟩
  simp [encodeSpeedVertical, encodeLatLon, encodeAltitude, encodeTimeStamp_length]

theorem encodeSystemMessage_some {data : SystemData K} (range : data.inRange = true) :
    ∃ message, encodeSystemMessage data = some message ∧
      IsMessage ODID_MESSAGETYPE_SYSTEM message := by
  unfold encodeSystemMessage
  rw [range]
  refine ⟨_, rfl, isMessage_cons (by decide) ?_⟩
  simp [encodeLatLon, encodeAltitude, encodeAreaRadius]

end

end RidFirmware.Odid
