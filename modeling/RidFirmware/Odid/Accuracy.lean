import RidFirmware.Odid.Received

/-! How far what is received may be from what was sent, and what a second encoding changes. -/

namespace RidFirmware.Odid
open Lib Lib.Ieee Lib.Wire

section
variable {K : Type} [Field K] [LinearOrder K] [IsStrictOrderedRing K] [FloorRing K]

theorem abs_received_le (quantizer : Quantizer K) {x bound : K}
    (low : quantizer.value quantizer.least ≤ x) (high : x ≤ quantizer.value quantizer.most)
    (unit : 1 / 2 / quantizer.scale ≤ bound) : |quantizer.received x - x| ≤ bound :=
  (Quantizer.abs_received_sub_le ⟨low, high⟩).trans unit

theorem abs_receivedDirection_le {direction : K} :
    ∃ turns : Nat, turns ≤ 1 ∧ |(receivedDirection direction : K) + 360 * turns - direction| ≤ 1 / 2 := by
  have rounded := abs_lround_sub_le direction
  unfold receivedDirection
  split_ifs with turn
  · rw [turn] at rounded
    exact ⟨1, le_refl 1, by simpa using rounded⟩
  · exact ⟨0, Nat.zero_le 1, by simpa using rounded⟩

theorem abs_receivedSpeed_le {speed : K} (forward : 0 ≤ speed) (range : speed ≤ 255) :
    |receivedSpeed speed - speed| ≤ if speed ≤ 255 / 4 then 1 / 8 else 3 / 8 := by
  unfold receivedSpeed
  split_ifs with slow
  · apply abs_received_le slowScale
    · simpa [Quantizer.value, slowScale] using forward
    · simpa [Quantizer.value, slowScale] using slow
    · norm_num [slowScale]
  · rw [not_le] at slow
    apply abs_received_le fastScale
    · simpa [Quantizer.value, fastScale] using slow.le
    · refine range.trans (le_of_eq ?_)
      norm_num [Quantizer.value, fastScale]
    · norm_num [fastScale]

theorem abs_receivedTime_le {seconds : K} (started : 0 ≤ seconds)
    (ended : seconds ≤ 3600 ∨ seconds = 0xffff) : |receivedTime seconds - seconds| ≤ 1 / 20 := by
  unfold receivedTime
  split_ifs with unknown
  · rw [unknown, sub_self, abs_zero]
    norm_num
  · apply abs_received_le secondScale
    · simpa [Quantizer.value, secondScale] using started
    · refine (ended.resolve_right unknown).trans (le_of_eq ?_)
      norm_num [Quantizer.value, secondScale]
    · norm_num [secondScale]

theorem abs_receivedAltitude_le {altitude : K} (low : -1000 ≤ altitude) (high : altitude ≤ 63535 / 2) :
    |altitudeScale.received altitude - altitude| ≤ 1 / 4 := by
  apply abs_received_le altitudeScale
  · refine le_of_eq_of_le ?_ low
    norm_num [Quantizer.value, altitudeScale]
  · refine high.trans (le_of_eq ?_)
    norm_num [Quantizer.value, altitudeScale]
  · norm_num [altitudeScale]

theorem abs_receivedDegrees_le {degrees : K} (low : -180 ≤ degrees) (high : degrees ≤ 180) :
    |degreeScale.received degrees - degrees| ≤ 1 / (2 * 10 ^ 7) := by
  apply abs_received_le degreeScale
  · refine le_of_eq_of_le ?_ low
    norm_num [Quantizer.value, degreeScale]
  · refine high.trans (le_of_eq ?_)
    norm_num [Quantizer.value, degreeScale]
  · norm_num [degreeScale]

theorem abs_receivedClimb_le {speed : K} (low : -62 ≤ speed) (high : speed ≤ 63) :
    |verticalScale.received speed - speed| ≤ 1 / 4 := by
  apply abs_received_le verticalScale
  · refine le_trans ?_ low
    norm_num [Quantizer.value, verticalScale]
  · refine high.trans ?_
    norm_num [Quantizer.value, verticalScale]
  · norm_num [verticalScale]

/-- What a receiver may rely on: enumerated fields as they were sent, and quantities within half a unit of
their scale. A direction is one modulo a full turn. -/
structure LocationData.Near (sent received : LocationData K) : Prop where
  status : received.status = sent.status
  direction : ∃ turns : Nat, turns ≤ 1 ∧
    |received.direction.value + 360 * turns - sent.direction.value| ≤ 1 / 2
  speedHorizontal : |received.speedHorizontal.value - sent.speedHorizontal.value| ≤
    if sent.speedHorizontal.value ≤ 255 / 4 then 1 / 8 else 3 / 8
  speedVertical : |received.speedVertical.value - sent.speedVertical.value| ≤ 1 / 4
  latitude : |received.latitude.value - sent.latitude.value| ≤ 1 / (2 * 10 ^ 7)
  longitude : |received.longitude.value - sent.longitude.value| ≤ 1 / (2 * 10 ^ 7)
  altitudeBaro : |received.altitudeBaro.value - sent.altitudeBaro.value| ≤ 1 / 4
  altitudeGeo : |received.altitudeGeo.value - sent.altitudeGeo.value| ≤ 1 / 4
  heightType : received.heightType = sent.heightType
  height : |received.height.value - sent.height.value| ≤ 1 / 4
  horizAccuracy : received.horizAccuracy = sent.horizAccuracy
  vertAccuracy : received.vertAccuracy = sent.vertAccuracy
  baroAccuracy : received.baroAccuracy = sent.baroAccuracy
  speedAccuracy : received.speedAccuracy = sent.speedAccuracy
  tsAccuracy : received.tsAccuracy = sent.tsAccuracy
  timeStamp : |received.timeStamp.value - sent.timeStamp.value| ≤ 1 / 20

theorem LocationData.near_received {data : LocationData K} (range : data.inRange = true) :
    data.Near data.received := by
  have ranged := LocationData.ranged range
  have speed : data.speedHorizontal.value ≤ 255 := by
    rcases ranged.speedHorizontal.2 with known | unknown
    · exact known.trans (by norm_num)
    · exact unknown.le
  have climb : data.speedVertical.value ≤ 63 := by
    rcases ranged.speedVertical.2 with known | unknown
    · exact known.trans (by norm_num)
    · exact unknown.le
  constructor
  case direction => exact abs_receivedDirection_le
  case speedHorizontal => exact abs_receivedSpeed_le ranged.speedHorizontal.1 speed
  case speedVertical => exact abs_receivedClimb_le ranged.speedVertical.1 climb
  case latitude =>
    exact abs_receivedDegrees_le (le_trans (by norm_num) ranged.latitude.1)
      (ranged.latitude.2.trans (by norm_num))
  case longitude => exact abs_receivedDegrees_le ranged.longitude.1 ranged.longitude.2
  case altitudeBaro => exact abs_receivedAltitude_le ranged.altitudeBaro.1 ranged.altitudeBaro.2
  case altitudeGeo => exact abs_receivedAltitude_le ranged.altitudeGeo.1 ranged.altitudeGeo.2
  case height => exact abs_receivedAltitude_le ranged.height.1 ranged.height.2
  case timeStamp => exact abs_receivedTime_le ranged.timeStamp.1 ranged.timeStamp.2
  all_goals rfl

structure SystemData.Near (sent received : SystemData K) : Prop where
  operatorLocationType : received.operatorLocationType = sent.operatorLocationType
  classificationType : received.classificationType = sent.classificationType
  operatorLatitude : |received.operatorLatitude.value - sent.operatorLatitude.value| ≤ 1 / (2 * 10 ^ 7)
  operatorLongitude : |received.operatorLongitude.value - sent.operatorLongitude.value| ≤ 1 / (2 * 10 ^ 7)
  areaCount : received.areaCount = sent.areaCount
  areaRadius : received.areaRadius.toNat = sent.areaRadius.toNat / 10 * 10
  areaCeiling : |received.areaCeiling.value - sent.areaCeiling.value| ≤ 1 / 4
  areaFloor : |received.areaFloor.value - sent.areaFloor.value| ≤ 1 / 4
  categoryEu : received.categoryEu = sent.categoryEu
  classEu : received.classEu = sent.classEu
  operatorAltitudeGeo : |received.operatorAltitudeGeo.value - sent.operatorAltitudeGeo.value| ≤ 1 / 4
  timestamp : received.timestamp = sent.timestamp

theorem SystemData.near_received {data : SystemData K} (range : data.inRange = true) :
    data.Near data.received := by
  unfold SystemData.inRange at range
  simp only [Bool.and_eq_true, decide_eq_true_eq] at range
  obtain ⟨⟨⟨⟨⟨⟨enums, latitude⟩, longitude⟩, radius⟩, ceiling⟩, floor⟩, altitude⟩ := range
  have latitude := value_within (by norm_num) (by norm_num) latitude
  have longitude := value_within (by norm_num) (by norm_num) longitude
  have ceiling := value_within (by norm_num) (by norm_num) ceiling
  have floor := value_within (by norm_num) (by norm_num) floor
  have altitude := value_within (by norm_num) (by norm_num) altitude
  constructor
  case operatorLatitude =>
    exact abs_receivedDegrees_le (le_trans (by norm_num) latitude.1) (latitude.2.trans (by norm_num))
  case operatorLongitude => exact abs_receivedDegrees_le longitude.1 longitude.2
  case areaRadius =>
    have small := data.areaRadius.toNat_lt
    show (UInt16.ofNat (data.areaRadius.toNat / 10 * 10)).toNat = _
    rw [UInt16.toNat_ofNat', Nat.mod_eq_of_lt (by omega)]
  case areaCeiling => exact abs_receivedAltitude_le ceiling.1 ceiling.2
  case areaFloor => exact abs_receivedAltitude_le floor.1 floor.2
  case operatorAltitudeGeo => exact abs_receivedAltitude_le altitude.1 altitude.2
  all_goals rfl

/-! The second time. -/

theorem receivedSpeed_receivedSpeed (speed : K) : receivedSpeed (receivedSpeed speed) = receivedSpeed speed := by
  have limit : (slowScale (K := K)).value 255 = 255 / 4 := by norm_num [Quantizer.value, slowScale]
  unfold receivedSpeed
  split_ifs with slow below below
  · exact Quantizer.received_received speed
  · exact absurd (limit ▸ Quantizer.value_le_value (slowScale.sent_code speed).2) below
  · have least : (fastScale (K := K)).value 0 = 255 / 4 := by norm_num [Quantizer.value, fastScale]
    have above : 255 / 4 ≤ fastScale.received speed := by
      rw [← least]
      exact Quantizer.value_le_value (fastScale.sent_code speed).1
    have top : (slowScale (K := K)).Sent 255 := ⟨Int.zero_le_ofNat 255, le_refl _⟩
    rw [le_antisymm below above, ← limit, Quantizer.received, Quantizer.code_value top]
  · exact Quantizer.received_received speed

theorem receivedTime_receivedTime (seconds : K) : receivedTime (receivedTime seconds) = receivedTime seconds := by
  by_cases unknown : seconds = 0xffff
  · have kept : receivedTime seconds = seconds := by rw [receivedTime, if_pos unknown, unknown]
    rw [kept, kept]
  · have scaled : receivedTime seconds = secondScale.received seconds := if_neg unknown
    rw [scaled, receivedTime]
    split_ifs with again
    · exact again.symm
    · exact Quantizer.received_received seconds

theorem receivedDirection_receivedDirection (direction : K) :
    receivedDirection (receivedDirection direction : K) = receivedDirection direction := by
  have whole : receivedDirection direction ≠ 360 := by
    unfold receivedDirection
    split_ifs with turn
    · decide
    · exact turn
  rw [receivedDirection, lround_intCast, if_neg whole]

theorem LocationData.received_received (data : LocationData K) : data.received.received = data.received := by
  unfold LocationData.received
  simp only [Datum.value_finite, receivedDirection_receivedDirection, receivedSpeed_receivedSpeed,
    Quantizer.received_received, receivedTime_receivedTime]

/-! What is received is accepted again. -/

theorem receivedDirection_range {direction : K} (range : 0 ≤ direction ∧ (direction ≤ 360 ∨ direction = 361)) :
    0 ≤ (receivedDirection direction : K) ∧
      ((receivedDirection direction : K) ≤ 360 ∨ (receivedDirection direction : K) = 361) := by
  obtain ⟨low, known | unknown⟩ := range
  · have least : 0 ≤ lround direction := le_lround (by exact_mod_cast low)
    have most : lround direction ≤ 360 := lround_le (by exact_mod_cast known)
    have bounds : 0 ≤ receivedDirection direction ∧ receivedDirection direction ≤ 360 := by
      unfold receivedDirection
      split_ifs <;> omega
    exact ⟨by exact_mod_cast bounds.1, .inl (by exact_mod_cast bounds.2)⟩
  · have whole : lround direction = 361 := by
      rw [unknown]
      exact_mod_cast lround_intCast (K := K) 361
    have kept : receivedDirection direction = 361 := by
      rw [receivedDirection, whole]
      rfl
    rw [kept]
    norm_num

theorem receivedSpeed_range {speed : K} (range : 0 ≤ speed ∧ (speed ≤ 1017 / 4 ∨ speed = 255)) :
    0 ≤ receivedSpeed speed ∧ (receivedSpeed speed ≤ 1017 / 4 ∨ receivedSpeed speed = 255) := by
  unfold receivedSpeed
  split_ifs with slow
  · have low : (slowScale (K := K)).value 0 = 0 := by norm_num [Quantizer.value, slowScale]
    have high : (slowScale (K := K)).value 255 = 255 / 4 := by norm_num [Quantizer.value, slowScale]
    have kept : slowScale.value 0 ≤ slowScale.received speed ∧ slowScale.received speed ≤ slowScale.value 255 := by
      apply Quantizer.received_mem (by norm_num [slowScale]) (by norm_num [slowScale])
      rw [low, high]
      exact ⟨range.1, slow⟩
    rw [low, high] at kept
    exact ⟨kept.1, .inl (kept.2.trans (by norm_num))⟩
  · have low : (fastScale (K := K)).value 0 = 255 / 4 := by norm_num [Quantizer.value, fastScale]
    have high : (fastScale (K := K)).value 254 = 1017 / 4 := by norm_num [Quantizer.value, fastScale]
    have unknown : (fastScale (K := K)).value 255 = 255 := by norm_num [Quantizer.value, fastScale]
    rw [← high, ← unknown] at range ⊢
    have kept := Quantizer.received_mem_or (Int.zero_le_ofNat 254) (Int.zero_le_ofNat 255)
      ⟨Int.zero_le_ofNat 255, le_refl _⟩ ⟨low ▸ (not_le.mp slow).le, range.2⟩
    exact ⟨(by norm_num : (0 : K) ≤ 255 / 4).trans (low ▸ kept.1), kept.2⟩

theorem receivedClimb_range {speed : K} (range : -62 ≤ speed ∧ (speed ≤ 62 ∨ speed = 63)) :
    -62 ≤ verticalScale.received speed ∧
      (verticalScale.received speed ≤ 62 ∨ verticalScale.received speed = 63) := by
  have low : (verticalScale (K := K)).value (-124) = -62 := by norm_num [Quantizer.value, verticalScale]
  have high : (verticalScale (K := K)).value 124 = 62 := by norm_num [Quantizer.value, verticalScale]
  have unknown : (verticalScale (K := K)).value 126 = 63 := by norm_num [Quantizer.value, verticalScale]
  rw [← low, ← high, ← unknown] at range ⊢
  exact Quantizer.received_mem_or (by norm_num [verticalScale]) (by norm_num [verticalScale])
    (by norm_num [Quantizer.Sent, verticalScale]) range

theorem receivedTime_range {seconds : K} (range : 0 ≤ seconds ∧ (seconds ≤ 3600 ∨ seconds = 0xffff)) :
    0 ≤ receivedTime seconds ∧ (receivedTime seconds ≤ 3600 ∨ receivedTime seconds = 0xffff) := by
  unfold receivedTime
  split_ifs with unknown
  · norm_num
  · have low : (secondScale (K := K)).value 0 = 0 := by norm_num [Quantizer.value, secondScale]
    have high : (secondScale (K := K)).value 36000 = 3600 := by norm_num [Quantizer.value, secondScale]
    have kept : secondScale.value 0 ≤ secondScale.received seconds ∧
        secondScale.received seconds ≤ secondScale.value 36000 := by
      apply Quantizer.received_mem (by norm_num [secondScale]) (by norm_num [secondScale])
      rw [low, high]
      exact ⟨range.1, range.2.resolve_right unknown⟩
    rw [low, high] at kept
    exact ⟨kept.1, .inl kept.2⟩

theorem receivedDegrees_range {degrees : K} (bound : Nat) (small : bound ≤ 180)
    (range : -(bound : K) ≤ degrees ∧ degrees ≤ bound) :
    -(bound : K) ≤ degreeScale.received degrees ∧ degreeScale.received degrees ≤ bound := by
  have low : (degreeScale (K := K)).value (-(bound * 10000000)) = -bound := by
    simp only [Quantizer.value, degreeScale]
    push_cast
    ring
  have high : (degreeScale (K := K)).value (bound * 10000000) = bound := by
    simp only [Quantizer.value, degreeScale]
    push_cast
    ring
  rw [← low, ← high] at range ⊢
  apply Quantizer.received_mem _ _ range
  · simp only [degreeScale]
    omega
  · simp only [degreeScale]
    omega

theorem receivedAltitude_range (altitude : K) :
    -1000 ≤ altitudeScale.received altitude ∧ altitudeScale.received altitude ≤ 63535 / 2 := by
  have low : (altitudeScale (K := K)).value 0 = -1000 := by norm_num [Quantizer.value, altitudeScale]
  have high : (altitudeScale (K := K)).value 65535 = 63535 / 2 := by norm_num [Quantizer.value, altitudeScale]
  obtain ⟨least, most⟩ := altitudeScale.sent_code altitude
  rw [← low, ← high]
  exact ⟨Quantizer.value_le_value least, Quantizer.value_le_value most⟩

theorem LocationData.inRange_received {data : LocationData K} (range : data.inRange = true) :
    data.received.inRange = true := by
  have ranged := LocationData.ranged range
  apply LocationData.inRange_of_ranged rfl
  constructor
  · exact receivedDirection_range ranged.direction
  · exact receivedSpeed_range ranged.speedHorizontal
  · exact receivedClimb_range ranged.speedVertical
  · exact receivedDegrees_range 90 (by decide) (by exact_mod_cast ranged.latitude)
  · exact receivedDegrees_range 180 (by decide) (by exact_mod_cast ranged.longitude)
  · exact receivedAltitude_range _
  · exact receivedAltitude_range _
  · exact receivedAltitude_range _
  · exact receivedTime_range ranged.timeStamp

theorem SystemData.inRange_received {data : SystemData K} (range : data.inRange = true) :
    data.received.inRange = true := by
  unfold SystemData.inRange at range ⊢
  simp only [Bool.and_eq_true, decide_eq_true_eq] at range ⊢
  obtain ⟨⟨⟨⟨⟨⟨enums, latitude⟩, longitude⟩, radius⟩, ceiling⟩, floor⟩, altitude⟩ := range
  have latitude := value_within (by norm_num) (by norm_num) latitude
  have longitude := value_within (by norm_num) (by norm_num) longitude
  refine ⟨⟨⟨⟨⟨⟨enums, ?_⟩, ?_⟩, ?_⟩, ?_⟩, ?_⟩, ?_⟩
  · exact within_of_value rfl (receivedDegrees_range 90 (by decide) (by exact_mod_cast latitude))
  · exact within_of_value rfl (receivedDegrees_range 180 (by decide) (by exact_mod_cast longitude))
  · show (UInt16.ofNat (data.areaRadius.toNat / 10 * 10)).toNat ≤ MAX_AREA_RADIUS
    have small := data.areaRadius.toNat_lt
    rw [UInt16.toNat_ofNat', Nat.mod_eq_of_lt (by omega)]
    omega
  · exact within_of_value rfl (receivedAltitude_range _)
  · exact within_of_value rfl (receivedAltitude_range _)
  · exact within_of_value rfl (receivedAltitude_range _)

theorem SystemData.received_received (data : SystemData K) : data.received.received = data.received := by
  have radius : UInt16.ofNat ((UInt16.ofNat (data.areaRadius.toNat / 10 * 10)).toNat / 10 * 10) =
      UInt16.ofNat (data.areaRadius.toNat / 10 * 10) := by
    have small := data.areaRadius.toNat_lt
    rw [UInt16.toNat_ofNat', Nat.mod_eq_of_lt (by omega), Nat.mul_div_cancel _ (by decide)]
  unfold SystemData.received
  simp only [Datum.value_finite, Quantizer.received_received, radius]

end

/-! Texts and bytes. -/

theorem strncpy_terminated (source : Bytes) (size : Nat) :
    strncpy (strncpy source size ++ [0]) size = strncpy source size := strncpy_padded source size 1

theorem BasicIdData.received_received (data : BasicIdData) (sized : ODID_ID_SIZE ≤ data.uasId.length) :
    data.received.received = data.received := by
  have length : (data.uasId.take ODID_ID_SIZE).length = ODID_ID_SIZE := List.length_take_of_le sized
  have whole : (data.uasId.take ODID_ID_SIZE ++ [0]).take ODID_ID_SIZE = data.uasId.take ODID_ID_SIZE := by
    rw [List.take_append_of_le_length length.ge, List.take_take, Nat.min_self]
  unfold BasicIdData.received
  dsimp only
  split_ifs with text
  · rw [strncpy_terminated]
  · rw [whole]

theorem AuthData.received_received (data : AuthData)
    (sized : ODID_AUTH_PAGE_ZERO_DATA_SIZE ≤ data.authData.length) : data.received.received = data.received := by
  have length : (data.authData.take ODID_AUTH_PAGE_ZERO_DATA_SIZE).length = ODID_AUTH_PAGE_ZERO_DATA_SIZE :=
    List.length_take_of_le sized
  unfold AuthData.received
  dsimp only
  rw [List.take_append_of_le_length length.ge, List.take_take, Nat.min_self]

theorem SelfIdData.received_received (data : SelfIdData) : data.received.received = data.received := by
  unfold SelfIdData.received
  dsimp only
  rw [strncpy_terminated]

theorem OperatorIdData.received_received (data : OperatorIdData) : data.received.received = data.received := by
  unfold OperatorIdData.received
  dsimp only
  rw [strncpy_terminated]

end RidFirmware.Odid
