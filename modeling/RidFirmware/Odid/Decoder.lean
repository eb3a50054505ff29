import RidFirmware.Lib.Presence
import RidFirmware.Lib.Quantizer
import RidFirmware.Odid.Core

/-! The decoders of the Open Drone ID core library, and what is left of a message's data once it has been
encoded and decoded. Arithmetic is exact, as in the encoders. -/

namespace RidFirmware.Odid
open Lib Lib.Ieee Lib.Wire

/-! Fields of packed structures. -/

def bytesAt (message : Bytes) (offset size : Nat) : Bytes := (message.drop offset).take size

def byteAt (message : Bytes) (offset : Nat) : Nat := (message.getD offset 0).toNat

def upperAt (message : Bytes) (offset : Nat) : Nat := byteAt message offset / 16

def lowerAt (message : Bytes) (offset : Nat) : Nat := byteAt message offset % 16

/-- The text with at least one zero byte behind it. -/
def safeDecCopyfill (source : Bytes) (size : Nat) : Bytes := strncpy source (size - 1) ++ [0]

/-! Quantities. -/

section
variable {K : Type} [Field K]

def decodeDirection (direction westward : Nat) : K :=
  if westward ≠ 0 then direction + 180 else direction

def decodeSpeedHorizontal (speed multiplier : Nat) : K :=
  if multiplier ≠ 0 then speed * (3 / 4) + 255 / 4 else speed * (1 / 4)

def decodeSpeedVertical (speed : Int) : K := speed * (1 / 2)

def decodeLatLon (degrees : Int) : K := degrees / 10 ^ 7

def decodeAltitude (altitude : Nat) : K := altitude * (1 / 2) - 1000

def decodeTimeStamp (seconds : Nat) : K := if seconds = 0xffff then 0xffff else seconds / 10

end

def decodeAreaRadius (radius : Nat) : UInt16 := UInt16.ofNat (radius * 10)

/-! Messages. -/

def getBasicIdType (message : Bytes) : Option Nat :=
  if upperAt message 0 ≠ ODID_MESSAGETYPE_BASIC_ID then none else some (upperAt message 1)

/-- A text stops at its first zero byte. Anything else is copied in the size of the destination, which takes
the first reserved byte along. -/
def decodeBasicIdMessage (message : Bytes) : Option BasicIdData :=
  if upperAt message 0 ≠ ODID_MESSAGETYPE_BASIC_ID ∨ 15 < upperAt message 1 ∨ 15 < lowerAt message 1 then none
  else some
    { uaType := lowerAt message 1
      idType := upperAt message 1
      uasId :=
        if upperAt message 1 = 1 ∨ upperAt message 1 = 2 then
          safeDecCopyfill (bytesAt message 2 ODID_ID_SIZE) (ODID_ID_SIZE + 1)
        else bytesAt message 2 (ODID_ID_SIZE + 1) }

def getAuthPageNum (message : Bytes) : Option Nat :=
  if upperAt message 0 ≠ ODID_MESSAGETYPE_AUTH ∨ 15 < upperAt message 1 ∨
      ODID_AUTH_MAX_PAGES - 1 < lowerAt message 1 then none
  else some (lowerAt message 1)

/-- Only page zero exists. -/
def decodeAuthMessage (message : Bytes) : Option AuthData :=
  if upperAt message 0 ≠ ODID_MESSAGETYPE_AUTH ∨ 15 < upperAt message 1 ∨
      ODID_AUTH_MAX_PAGES - 1 < lowerAt message 1 then none
  else if ODID_AUTH_MAX_PAGES ≤ byteAt message 2 ∨ MAX_AUTH_LENGTH < byteAt message 3 ∨
      ODID_AUTH_PAGE_ZERO_DATA_SIZE + byteAt message 2 * ODID_AUTH_PAGE_NONZERO_DATA_SIZE <
        byteAt message 3 then none
  else some
    { dataPage := lowerAt message 1
      authType := upperAt message 1
      lastPageIndex := byteAt message 2
      length := byteAt message 3
      timestamp := UInt32.ofNat (getLe (bytesAt message 4 4))
      authData := bytesAt message 8 ODID_AUTH_PAGE_ZERO_DATA_SIZE ++
        List.replicate (ODID_AUTH_PAGE_NONZERO_DATA_SIZE + 1 - ODID_AUTH_PAGE_ZERO_DATA_SIZE) 0 }

def decodeSelfIdMessage (message : Bytes) : Option SelfIdData :=
  if upperAt message 0 ≠ ODID_MESSAGETYPE_SELF_ID then none
  else some
    { descType := byteAt message 1
      desc := safeDecCopyfill (bytesAt message 2 ODID_STR_SIZE) (ODID_STR_SIZE + 1) }

def decodeOperatorIdMessage (message : Bytes) : Option OperatorIdData :=
  if upperAt message 0 ≠ ODID_MESSAGETYPE_OPERATOR_ID then none
  else some
    { operatorIdType := byteAt message 1
      operatorId := safeDecCopyfill (bytesAt message 2 ODID_ID_SIZE) (ODID_ID_SIZE + 1) }

section
variable {K : Type} [Field K]

def decodeLocationMessage (message : Bytes) : Option (LocationData K) :=
  if upperAt message 0 ≠ ODID_MESSAGETYPE_LOCATION ∨ 15 < upperAt message 1 then none
  else some
    { status := upperAt message 1
      direction := .finite (decodeDirection (byteAt message 2) (byteAt message 1 / 2 % 2))
      speedHorizontal := .finite (decodeSpeedHorizontal (byteAt message 3) (byteAt message 1 % 2))
      speedVertical := .finite (decodeSpeedVertical (getInt (bytesAt message 4 1)))
      latitude := .finite (decodeLatLon (getInt (bytesAt message 5 4)))
      longitude := .finite (decodeLatLon (getInt (bytesAt message 9 4)))
      altitudeBaro := .finite (decodeAltitude (getLe (bytesAt message 13 2)))
      altitudeGeo := .finite (decodeAltitude (getLe (bytesAt message 15 2)))
      heightType := byteAt message 1 / 4 % 2
      height := .finite (decodeAltitude (getLe (bytesAt message 17 2)))
      horizAccuracy := lowerAt message 19
      vertAccuracy := upperAt message 19
      baroAccuracy := upperAt message 20
      speedAccuracy := lowerAt message 20
      tsAccuracy := lowerAt message 23
      timeStamp := .finite (decodeTimeStamp (getLe (bytesAt message 21 2))) }

def decodeSystemMessage (message : Bytes) : Option (SystemData K) :=
  if upperAt message 0 ≠ ODID_MESSAGETYPE_SYSTEM then none
  else some
    { operatorLocationType := byteAt message 1 % 4
      classificationType := byteAt message 1 / 4 % 8
      operatorLatitude := .finite (decodeLatLon (getInt (bytesAt message 2 4)))
      operatorLongitude := .finite (decodeLatLon (getInt (bytesAt message 6 4)))
      areaCount := UInt16.ofNat (getLe (bytesAt message 10 2))
      areaRadius := decodeAreaRadius (byteAt message 12)
      areaCeiling := .finite (decodeAltitude (getLe (bytesAt message 13 2)))
      areaFloor := .finite (decodeAltitude (getLe (bytesAt message 15 2)))
      categoryEu := upperAt message 17
      classEu := lowerAt message 17
      operatorAltitudeGeo := .finite (decodeAltitude (getLe (bytesAt message 18 2)))
      timestamp := UInt32.ofNat (getLe (bytesAt message 20 4)) }

end

/-! Fields are found where they were written. -/

@[simp] theorem byteAt_cons_zero (byte : UInt8) (rest : Bytes) : byteAt (byte :: rest) 0 = byte.toNat := rfl

@[simp] theorem byteAt_cons_succ (byte : UInt8) (rest : Bytes) (offset : Nat) :
    byteAt (byte :: rest) (offset + 1) = byteAt rest offset := rfl

@[simp] theorem bytesAt_cons_succ (byte : UInt8) (rest : Bytes) (offset size : Nat) :
    bytesAt (byte :: rest) (offset + 1) size = bytesAt rest offset size := rfl

theorem byteAt_append {part rest : Bytes} {offset : Nat} (behind : part.length ≤ offset) :
    byteAt (part ++ rest) offset = byteAt rest (offset - part.length) := by
  unfold byteAt
  rw [List.getD_eq_getElem?_getD, List.getD_eq_getElem?_getD, List.getElem?_append_right behind]

theorem bytesAt_append {part rest : Bytes} {offset size : Nat} (behind : part.length ≤ offset) :
    bytesAt (part ++ rest) offset size = bytesAt rest (offset - part.length) size := by
  unfold bytesAt
  rw [List.drop_append, List.drop_eq_nil_of_le behind, List.nil_append]

theorem bytesAt_append_left {part rest : Bytes} {size : Nat} (length : part.length = size) :
    bytesAt (part ++ rest) 0 size = part := by
  unfold bytesAt
  rw [List.drop_zero, ← length, List.take_left]

theorem bytesAt_self {part : Bytes} {size : Nat} (length : part.length = size) : bytesAt part 0 size = part := by
  unfold bytesAt
  rw [List.drop_zero, ← length, List.take_length]

theorem byteAt_inside {message behind : Bytes} {offset : Nat} (inside : offset < message.length) :
    byteAt (message ++ behind) offset = byteAt message offset := by
  unfold byteAt
  rw [List.getD_eq_getElem?_getD, List.getD_eq_getElem?_getD, List.getElem?_append_left inside]

theorem bytesAt_inside {message behind : Bytes} {offset size : Nat} (inside : offset + size ≤ message.length) :
    bytesAt (message ++ behind) offset size = bytesAt message offset size := by
  unfold bytesAt
  rw [List.drop_append_of_le_length (by omega), List.take_append_of_le_length (by rw [List.length_drop]; omega)]

theorem toNat_nibbles (upper lower : Nat) : (nibbles upper lower).toNat = upper % 16 * 16 + lower % 16 := by
  unfold nibbles
  rw [UInt8.toNat_ofNat']
  omega

@[simp] theorem toNat_nibbles_div (upper lower : Nat) : (nibbles upper lower).toNat / 16 = upper % 16 := by
  rw [toNat_nibbles]
  omega

@[simp] theorem toNat_nibbles_mod (upper lower : Nat) : (nibbles upper lower).toNat % 16 = lower % 16 := by
  rw [toNat_nibbles]
  omega

/-! The quantities as they are received. -/

theorem intRangeMax_eq {low high : Int} (ordered : low ≤ high) (value : Int) :
    intRangeMax value low high = max low (min high value) := by
  unfold intRangeMax
  split_ifs <;> omega

section
variable {K : Type} [Field K] [LinearOrder K] [IsStrictOrderedRing K]

def slowScale : Quantizer K := ⟨4, 0, 0, 255, by norm_num, by decide⟩

def fastScale : Quantizer K := ⟨4 / 3, -(255 / 4), 0, 255, by norm_num, by decide⟩

def verticalScale : Quantizer K := ⟨2, 0, -128, 127, by norm_num, by decide⟩

def degreeScale : Quantizer K := ⟨10 ^ 7, 0, -1800000000, 1800000000, by norm_num, by decide⟩

def altitudeScale : Quantizer K := ⟨2, 1000, 0, 65535, by norm_num, by decide⟩

def secondScale : Quantizer K := ⟨10, 0, 0, 36000, by norm_num, by decide⟩

variable [FloorRing K]

omit [IsStrictOrderedRing K] in
@[simp] theorem encodeSpeedVertical_length (speed : K) : (encodeSpeedVertical speed).length = 1 :=
  putInt_length 1 _

omit [IsStrictOrderedRing K] in
@[simp] theorem encodeLatLon_length (degrees : K) : (encodeLatLon degrees).length = 4 := putInt_length 4 _

omit [IsStrictOrderedRing K] in
@[simp] theorem encodeAltitude_length (altitude : K) : (encodeAltitude altitude).length = 2 := putInt_length 2 _

theorem encodeSpeedVertical_eq (speed : K) :
    encodeSpeedVertical speed = putInt 1 (verticalScale.code speed) := by
  unfold encodeSpeedVertical Quantizer.code verticalScale
  rw [intRangeMax_eq (by decide), add_zero]

theorem encodeLatLon_eq (degrees : K) : encodeLatLon degrees = putInt 4 (degreeScale.code degrees) := by
  unfold encodeLatLon Quantizer.code degreeScale
  rw [intRangeMax_eq (by decide), add_zero]

theorem encodeAltitude_eq (altitude : K) :
    encodeAltitude altitude = putInt 2 (altitudeScale.code altitude) := by
  unfold encodeAltitude Quantizer.code altitudeScale
  rw [intRangeMax_eq (by decide)]

omit [IsStrictOrderedRing K] in
theorem getInt_putInt_code (quantizer : Quantizer K) {width : Nat}
    (low : -(256 ^ width) ≤ 2 * quantizer.least) (high : 2 * quantizer.most < 256 ^ width) (x : K) :
    getInt (putInt width (quantizer.code x)) = quantizer.code x := by
  obtain ⟨above, below⟩ := quantizer.sent_code x
  exact getInt_putInt (by omega) (by omega)

omit [IsStrictOrderedRing K] in
theorem getLe_putInt_code (quantizer : Quantizer K) {width : Nat}
    (low : 0 ≤ quantizer.least) (high : quantizer.most < 256 ^ width) (x : K) :
    (getLe (putInt width (quantizer.code x)) : K) = quantizer.code x := by
  obtain ⟨above, below⟩ := quantizer.sent_code x
  rw [← Int.cast_natCast, getLe_putInt (by omega) (by omega)]

theorem decodeSpeedVertical_encode (speed : K) :
    decodeSpeedVertical (getInt (encodeSpeedVertical speed)) =
      verticalScale.received speed := by
  rw [encodeSpeedVertical_eq, getInt_putInt_code verticalScale (by norm_num [verticalScale])
    (by norm_num [verticalScale])]
  simp only [decodeSpeedVertical, Quantizer.received, Quantizer.value, verticalScale]
  ring

theorem decodeLatLon_encode (degrees : K) :
    decodeLatLon (getInt (encodeLatLon degrees)) = degreeScale.received degrees := by
  rw [encodeLatLon_eq, getInt_putInt_code degreeScale (by norm_num [degreeScale]) (by norm_num [degreeScale])]
  simp only [decodeLatLon, Quantizer.received, Quantizer.value, degreeScale]
  ring

theorem decodeAltitude_encode (altitude : K) :
    decodeAltitude (getLe (encodeAltitude altitude)) = altitudeScale.received altitude := by
  rw [encodeAltitude_eq, decodeAltitude,
    getLe_putInt_code altitudeScale (by norm_num [altitudeScale]) (by norm_num [altitudeScale])]
  simp only [Quantizer.received, Quantizer.value, altitudeScale]
  ring

def receivedTime (seconds : K) : K :=
  if seconds = 0xffff then 0xffff else secondScale.received seconds

theorem decodeTimeStamp_encode (seconds : K) :
    decodeTimeStamp (getLe (encodeTimeStamp seconds)) = receivedTime seconds := by
  unfold encodeTimeStamp receivedTime
  split_ifs with unknown
  · rfl
  · have same : putInt 2 (intRangeMax (lround (seconds * 10)) 0 36000) =
        putInt 2 (secondScale.code seconds) := by
      unfold Quantizer.code secondScale
      rw [intRangeMax_eq (by decide), add_zero]
    have known : getLe (putInt 2 (secondScale.code seconds)) ≠ 0xffff := by
      have least : 0 ≤ secondScale.code seconds := (secondScale.sent_code seconds).1
      have most : secondScale.code seconds ≤ 36000 := (secondScale.sent_code seconds).2
      have read := @getLe_putInt 2 _ least (by omega)
      omega
    rw [same, decodeTimeStamp, if_neg known,
      getLe_putInt_code secondScale (by norm_num [secondScale]) (by norm_num [secondScale])]
    simp only [Quantizer.received, Quantizer.value, secondScale]
    ring

def receivedDirection (direction : K) : Int :=
  if lround direction = 360 then 0 else lround direction

omit [IsStrictOrderedRing K] in
theorem receivedDirection_bounds {direction : K} (low : 0 ≤ lround direction)
    (high : lround direction ≤ 361) :
    0 ≤ receivedDirection direction ∧ receivedDirection direction ≤ 361 := by
  unfold receivedDirection
  split_ifs
  · exact ⟨le_refl _, by decide⟩
  · exact ⟨low, high⟩

omit [IsStrictOrderedRing K] in
theorem encodeDirection_eq {direction : K} (low : 0 ≤ lround direction) (high : lround direction ≤ 361) :
    encodeDirection direction =
      if receivedDirection direction < 180 then ((receivedDirection direction).toNat, 0)
      else ((receivedDirection direction - 180).toNat, 1) := by
  unfold encodeDirection receivedDirection
  by_cases turn : lround direction = 360
  · rw [turn]
    decide
  · have other : (lround direction).toNat ≠ 360 := by omega
    dsimp only
    rw [if_neg turn, if_neg other]
    by_cases east : lround direction < 180
    · have near : (lround direction).toNat < 180 := by omega
      rw [if_pos near, if_pos east, intRangeMax_eq (by decide), Prod.mk.injEq]
      exact ⟨by omega, rfl⟩
    · have far : ¬(lround direction).toNat < 180 := by omega
      rw [if_neg far, if_neg east, intRangeMax_eq (by decide), Prod.mk.injEq]
      exact ⟨by omega, rfl⟩

omit [LinearOrder K] [IsStrictOrderedRing K] [FloorRing K] in
theorem cast_toNat_mod {n : Int} (low : 0 ≤ n) (high : n ≤ 255) : ((n.toNat % 256 : Nat) : K) = n := by
  have whole : ((n.toNat % 256 : Nat) : Int) = n := by omega
  rw [← Int.cast_natCast, whole]

omit [IsStrictOrderedRing K] in
theorem decodeDirection_encode {direction : K} (low : 0 ≤ lround direction) (high : lround direction ≤ 361) :
    decodeDirection ((encodeDirection direction).1 % 256) (encodeDirection direction).2 =
      (receivedDirection direction : K) := by
  obtain ⟨least, most⟩ := receivedDirection_bounds low high
  rw [encodeDirection_eq low high]
  split_ifs with east
  · rw [decodeDirection, if_neg (not_not.mpr rfl), cast_toNat_mod least (by omega)]
  · rw [decodeDirection, if_pos Nat.one_ne_zero, cast_toNat_mod (by omega) (by omega), Int.cast_sub,
      Int.cast_ofNat]
    exact sub_add_cancel _ _

def receivedSpeed (speed : K) : K :=
  if speed ≤ 255 / 4 then slowScale.received speed else fastScale.received speed

omit [FloorRing K] in
theorem slowScale_covers {speed : K} (forward : 0 ≤ speed) (slow : speed ≤ 255 / 4) :
    slowScale.Covers speed := by
  constructor
  · simpa [Quantizer.value, slowScale] using forward
  · simpa [Quantizer.value, slowScale] using slow

theorem encodeSpeedHorizontal_eq {speed : K} (forward : 0 ≤ speed) :
    encodeSpeedHorizontal speed =
      if speed ≤ 255 / 4 then ((slowScale.code speed).toNat, 0) else ((fastScale.code speed).toNat, 1) := by
  unfold encodeSpeedHorizontal
  split_ifs with slow
  · have least : 0 ≤ slowScale.code speed := (slowScale.sent_code speed).1
    have most : slowScale.code speed ≤ 255 := (slowScale.sent_code speed).2
    have whole : slowScale.code speed = lround (speed * 4) := by
      rw [Quantizer.code_eq_lround (slowScale_covers forward slow)]
      simp only [slowScale, add_zero]
    rw [← whole, Nat.mod_eq_of_lt (by omega)]
  · have whole : intRangeMax (lround ((speed - 255 / 4) * 4 / 3)) 0 255 = fastScale.code speed := by
      rw [intRangeMax_eq (by decide)]
      unfold Quantizer.code fastScale
      rw [mul_div_assoc, sub_eq_add_neg]
    rw [whole]

theorem decodeSpeedHorizontal_encode {speed : K} (forward : 0 ≤ speed) :
    decodeSpeedHorizontal ((encodeSpeedHorizontal speed).1 % 256) (encodeSpeedHorizontal speed).2 =
      receivedSpeed speed := by
  rw [encodeSpeedHorizontal_eq forward]
  unfold receivedSpeed
  split_ifs with slow
  · obtain ⟨least, most⟩ := slowScale.sent_code speed
    rw [decodeSpeedHorizontal, if_neg (not_not.mpr rfl), cast_toNat_mod least most]
    simp only [Quantizer.received, Quantizer.value, slowScale]
    ring
  · obtain ⟨least, most⟩ := fastScale.sent_code speed
    rw [decodeSpeedHorizontal, if_pos Nat.one_ne_zero, cast_toNat_mod least most]
    simp only [Quantizer.received, Quantizer.value, fastScale]
    ring

end

end RidFirmware.Odid
