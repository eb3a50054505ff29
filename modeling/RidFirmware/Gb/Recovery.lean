import Mathlib.Algebra.Order.AbsoluteValue.Basic
import RidFirmware.Gb.Decoder

/-! What a receiver recovers of a GB 46750 message. The ranges the encoder checks keep every number
within its field, and rounding costs half a unit at most. -/

namespace RidFirmware
open Lib Lib.Ieee Lib.Wire

section
variable {K : Type} [Field K] [LinearOrder K]

/-! The ranges. -/

structure GeoPoint.InDegrees (point : GeoPoint (Datum K)) : Prop where
  south : -90 ≤ point.latitudeDeg.value
  north : point.latitudeDeg.value ≤ 90
  west : -180 ≤ point.longitudeDeg.value
  east : point.longitudeDeg.value ≤ 180

theorem GeoPoint.inDegrees {point : GeoPoint (Datum K)} (valid : point.valid = true) :
    point.InDegrees := by
  unfold GeoPoint.valid at valid
  simp only [Bool.and_eq_true] at valid
  obtain ⟨⟨⟨⟨⟨finite, south⟩, north⟩, finite'⟩, west⟩, east⟩ := valid
  exact ⟨Datum.le_value finite south, Datum.value_le finite north, Datum.le_value finite' west,
    Datum.value_le finite' east⟩

/-- What `valid(const FlightState &)` makes sure of. -/
structure FlightState.InLimits (state : FlightState (Datum K)) : Prop where
  position : GeoPoint.valid ⟨state.latitudeDeg, state.longitudeDeg⟩ = true
  height : state.heightAglM.isFinite = true
  speed : state.horizontalSpeedMps.isFinite = true
  forward : 0 ≤ state.horizontalSpeedMps.value
  vertical : state.verticalSpeedMps.isFinite = true
  heading : 0 ≤ state.headingDeg.value ∧ state.headingDeg.value < 360

theorem FlightState.inLimits {state : FlightState (Datum K)} (valid : state.valid = true) :
    state.InLimits := by
  unfold FlightState.valid at valid
  simp only [Bool.and_eq_true] at valid
  obtain ⟨⟨⟨⟨⟨⟨⟨⟨position, _⟩, height⟩, speed⟩, forward⟩, vertical⟩, heading⟩, least⟩, most⟩ := valid
  constructor
  · unfold GeoPoint.valid
    simp only [Bool.and_eq_true]
    exact position
  · exact height
  · exact speed
  · exact Datum.le_value speed forward
  · exact vertical
  · exact ⟨Datum.le_value heading least, (Datum.less_iff_value_lt heading).mp most⟩

namespace GbEncoder

theorem validAltitude_iff {altitude : Datum K} (valid : validAltitude altitude = true) :
    -1000 < altitude.value ∧ altitude.value ≤ 63535 / 2 := by
  unfold validAltitude kMinAltitudeM kMaxAltitudeM at valid
  simp only [Bool.and_eq_true] at valid
  obtain ⟨⟨finite, above⟩, below⟩ := valid
  exact ⟨(Datum.less_iff_lt_value finite).mp above, Datum.value_le finite below⟩

/-- What the range checks of a `Location` make sure of. -/
structure LocationRange (state : FlightState (Datum K)) (barometric : Datum K) : Prop where
  msl : -1000 < state.altitudeMslM.value ∧ state.altitudeMslM.value ≤ 63535 / 2
  relative : -9000 < state.heightAglM.value ∧ state.heightAglM.value ≤ 47535 / 2
  speed : state.horizontalSpeedMps.value ≤ 32767 / 5
  vertical : -63 ≤ state.verticalSpeedMps.value ∧ state.verticalSpeedMps.value ≤ 127 / 2
  barometric : -1000 < barometric.value ∧ barometric.value ≤ 63535 / 2

theorem locationRange {state : FlightState (Datum K)} (limits : state.InLimits)
    {barometric : Datum K} (range : locationInRange state barometric = true) :
    LocationRange state barometric := by
  unfold locationInRange kMinRelativeAltitudeM kMaxRelativeAltitudeM kMaxGroundSpeedMps at range
  simp only [Bool.and_eq_true, Bool.not_eq_true'] at range
  obtain ⟨⟨⟨⟨⟨⟨msl, low⟩, high⟩, fast⟩, sinking⟩, climbing⟩, barometric⟩ := range
  constructor
  · exact validAltitude_iff msl
  · constructor
    · by_contra deep
      rw [Datum.eq_finite_of_isFinite limits.height, Datum.atMost_finite, decide_eq_false_iff_not]
        at low
      exact low (not_lt.mp deep)
    · rw [← not_lt, ← Datum.less_iff_lt_value limits.height, high]
      exact Bool.false_ne_true
  · rw [← not_lt, ← Datum.less_iff_lt_value limits.speed, fast]
    exact Bool.false_ne_true
  · constructor
    · rw [← not_lt, ← Datum.less_iff_value_lt limits.vertical, sinking]
      exact Bool.false_ne_true
    · rw [← not_lt, ← Datum.less_iff_lt_value limits.vertical, climbing]
      exact Bool.false_ne_true
  · exact validAltitude_iff barometric

end GbEncoder

end

/-! The numbers on the wire. -/

section
variable {K : Type} [Field K] [LinearOrder K] [IsStrictOrderedRing K] [FloorRing K]

/-- A number the encoder narrows, with the range it has to be in. -/
structure Narrowing where
  value : Int
  least : Int
  most : Int

def Narrowing.Lossless (narrowing : Narrowing) : Prop :=
  narrowing.least ≤ narrowing.value ∧ narrowing.value ≤ narrowing.most

/-- The conversion to `int32_t` of a coordinate. -/
def narrowCoordinate (degrees : K) : Narrowing := ⟨lround (degrees * 10 ^ 7), -(2 ^ 31), 2 ^ 31 - 1⟩

/-- A conversion to `uint16_t`. -/
def narrow16 (scaled : K) : Narrowing := ⟨lround scaled, 0, 2 ^ 16 - 1⟩

theorem narrowCoordinate_lossless {degrees : K} (west : -180 ≤ degrees) (east : degrees ≤ 180) :
    (narrowCoordinate degrees).Lossless := by
  have low : -1800000000 ≤ lround (degrees * 10 ^ 7) := by
    apply le_lround
    push_cast
    linarith
  have high : lround (degrees * 10 ^ 7) ≤ 1800000000 := by
    apply lround_le
    push_cast
    linarith
  unfold narrowCoordinate Narrowing.Lossless
  dsimp only
  omega

theorem narrow16_lossless {scaled : K} (low : 0 ≤ scaled) (high : scaled ≤ 65535) :
    (narrow16 scaled).Lossless := by
  have least : 0 ≤ lround scaled := le_lround (by push_cast; exact low)
  have most : lround scaled ≤ 65535 := lround_le (by push_cast; exact high)
  unfold narrow16 Narrowing.Lossless
  dsimp only
  omega

omit [IsStrictOrderedRing K] in
theorem getInt_coordinate {degrees : K} (lossless : (narrowCoordinate degrees).Lossless) :
    getInt (putInt 4 (lround (degrees * 10 ^ 7))) = lround (degrees * 10 ^ 7) := by
  unfold narrowCoordinate Narrowing.Lossless at lossless
  dsimp only at lossless
  apply getInt_putInt
  · omega
  · omega

omit [IsStrictOrderedRing K] in
theorem getLe_narrow16 {scaled : K} (lossless : (narrow16 scaled).Lossless) :
    (getLe (putInt 2 (lround scaled)) : Int) = lround scaled := by
  unfold narrow16 Narrowing.Lossless at lossless
  dsimp only at lossless
  apply getLe_putInt
  · omega
  · omega

/-! What is decoded is near what was encoded. -/

structure NearPoint (decoded : GeoPoint K) (point : GeoPoint (Datum K)) : Prop where
  latitude : |decoded.latitudeDeg - point.latitudeDeg.value| ≤ 1 / 2 / 10 ^ 7
  longitude : |decoded.longitudeDeg - point.longitudeDeg.value| ≤ 1 / 2 / 10 ^ 7

theorem coordinates_near {point : GeoPoint (Datum K)} (inDegrees : point.InDegrees) :
    NearPoint (GbReport.coordinates (GbEncoder.putCoordinate point)) point := by
  have latitude := narrowCoordinate_lossless
    (le_trans (by norm_num) inDegrees.south) (le_trans inDegrees.north (by norm_num))
  have longitude := narrowCoordinate_lossless inDegrees.west inDegrees.east
  have first : (GbEncoder.putCoordinate point).take 4 =
      putInt 4 (lround (point.longitudeDeg.value * 10 ^ 7)) := List.take_left' (putInt_length 4 _)
  have second : (GbEncoder.putCoordinate point).drop 4 =
      putInt 4 (lround (point.latitudeDeg.value * 10 ^ 7)) := List.drop_left' (putInt_length 4 _)
  unfold GbReport.coordinates
  rw [first, second, getInt_coordinate latitude, getInt_coordinate longitude]
  constructor
  · exact abs_lround_div_sub_le (by positivity) _
  · exact abs_lround_div_sub_le (by positivity) _

theorem quantity_near {scale offset x : K} (positive : 0 < scale) (low : 0 ≤ (x + offset) * scale)
    (high : (x + offset) * scale ≤ 65535) :
    |(getLe (putInt 2 (lround ((x + offset) * scale))) : K) / scale - offset - x| ≤ 1 / 2 / scale := by
  have read := getLe_narrow16 (narrow16_lossless low high)
  have cast : (getLe (putInt 2 (lround ((x + offset) * scale))) : K) =
      (lround ((x + offset) * scale) : K) := by
    have embedded := congrArg (Int.cast : Int → K) read
    rwa [Int.cast_natCast] at embedded
  have near := abs_lround_div_sub_le positive (x + offset)
  rw [cast, sub_sub, add_comm offset x]
  exact near

theorem altitude_near {altitude : Datum K} (low : -1000 < altitude.value)
    (high : altitude.value ≤ 63535 / 2) :
    |GbReport.altitude 1000 (GbEncoder.encodeAltitude altitude) - altitude.value| ≤ 1 / 4 := by
  have near := @quantity_near K _ _ _ _ 2 1000 altitude.value (by norm_num) (by linarith) (by linarith)
  exact near.trans (by norm_num)

theorem relativeAltitude_near {altitude : Datum K} (low : -9000 < altitude.value)
    (high : altitude.value ≤ 47535 / 2) :
    |GbReport.altitude 9000 (GbEncoder.encodeRelativeAltitude altitude) - altitude.value| ≤ 1 / 4 := by
  have near := @quantity_near K _ _ _ _ 2 9000 altitude.value (by norm_num) (by linarith) (by linarith)
  exact near.trans (by norm_num)

theorem tenths_near {x : K} (low : 0 ≤ x) (high : x ≤ 32767 / 5) :
    |GbReport.tenths (putInt 2 (lround (x * 10))) - x| ≤ 1 / 20 := by
  have near := @quantity_near K _ _ _ _ 10 0 x (by norm_num) (by linarith) (by linarith)
  rw [add_zero, sub_zero] at near
  exact near.trans (by norm_num)

theorem magnitude_bounds {speed : K} (low : -63 ≤ speed) (high : speed ≤ 127 / 2) :
    0 ≤ lround (|speed| * 2) ∧ lround (|speed| * 2) ≤ 127 := by
  have size : |speed| ≤ 127 / 2 := abs_le.mpr ⟨by linarith, high⟩
  have least : (0 : K) ≤ |speed| := abs_nonneg speed
  constructor
  · apply le_lround
    push_cast
    linarith
  · apply lround_le
    push_cast
    linarith

theorem verticalSpeedByte_parts {speed : Datum K} (finite : speed.isFinite = true)
    (low : -63 ≤ speed.value) (high : speed.value ≤ 127 / 2) :
    (GbEncoder.verticalSpeedByte speed).toNat.testBit 7 = decide (speed.value < 0) ∧
      ((GbEncoder.verticalSpeedByte speed).toNat % 128 : Nat) = lround (|speed.value| * 2) := by
  obtain ⟨nonneg, small⟩ := magnitude_bounds low high
  obtain ⟨magnitude, same⟩ := Int.eq_ofNat_of_zero_le nonneg
  have bits : ∀ magnitude < 128, (UInt8.ofNat magnitude).toNat.testBit 7 = false ∧
      (UInt8.ofNat magnitude).toNat % 128 = magnitude ∧
      (UInt8.ofNat magnitude ||| 0x80).toNat.testBit 7 = true ∧
      (UInt8.ofNat magnitude ||| 0x80).toNat % 128 = magnitude := by decide +kernel
  obtain ⟨plain, value, signed, value'⟩ := bits magnitude (by omega)
  have byte : UInt8.ofInt (magnitude : Int) = UInt8.ofNat magnitude := by
    unfold UInt8.ofInt
    rw [Int.emod_eq_of_lt (by omega) (by omega), Int.toNat_natCast]
  unfold GbEncoder.verticalSpeedByte
  dsimp only
  rw [same, byte]
  by_cases sinking : speed.value < 0
  · rw [if_pos ((Datum.less_iff_value_lt finite).mpr sinking), decide_eq_true sinking, value']
    exact ⟨signed, rfl⟩
  · rw [if_neg (mt (Datum.less_iff_value_lt finite).mp sinking), decide_eq_false sinking, value]
    exact ⟨plain, rfl⟩

theorem signedSpeed_near {speed : Datum K} (finite : speed.isFinite = true)
    (low : -63 ≤ speed.value) (high : speed.value ≤ 127 / 2) :
    let decoded : GbSignedSpeed K := GbReport.signedSpeed (GbEncoder.verticalSpeedByte speed)
    decoded.negative = decide (speed.value < 0) ∧ |decoded.value - speed.value| ≤ 1 / 4 := by
  obtain ⟨sign, magnitude⟩ := verticalSpeedByte_parts finite low high
  have read : (((GbEncoder.verticalSpeedByte speed).toNat % 128 : Nat) : K) =
      (lround (|speed.value| * 2) : K) := by
    have embedded := congrArg (Int.cast : Int → K) magnitude
    rwa [Int.cast_natCast] at embedded
  have near := abs_lround_div_sub_le (two_pos : (0 : K) < 2) |speed.value|
  have half : (1 : K) / 2 / 2 = 1 / 4 := by norm_num
  rw [half] at near
  unfold GbReport.signedSpeed GbSignedSpeed.value
  dsimp only
  rw [sign, read]
  refine ⟨rfl, ?_⟩
  by_cases sinking : speed.value < 0
  · rw [decide_eq_true sinking, if_pos rfl]
    rw [abs_of_neg sinking] at near ⊢
    rw [← abs_neg]
    have mirrored : -(-((lround (-speed.value * 2) : K) / 2) - speed.value) =
        (lround (-speed.value * 2) : K) / 2 - -speed.value := by ring
    rw [mirrored]
    exact near
  · rw [decide_eq_false sinking, if_neg Bool.false_ne_true]
    rw [abs_of_nonneg (not_lt.mp sinking)] at near ⊢
    exact near

/-! Messages. -/

/-- What a receiver has to learn from a message. -/
def Recovers (kind : MessageKind) (state : FlightState (Datum K)) (identity : TestIdentity)
    (options : GbOptions K) (report : GbReport K) : Prop :=
  match kind with
  | .basicId => report = { productId := some identity.value }
  | .operatorId => report = { registrationMark := some (options.registrationMark ++
      List.replicate (8 - options.registrationMark.length) 0) }
  | .system =>
      ∃ gcsPosition gcsAltitudeM,
        report = {
          operationCategory := some options.operationCategory
          uaClassification := some options.uaClassification
          gcsPositionType := some options.gcsPositionType
          gcsPosition := some gcsPosition
          gcsAltitudeM := some gcsAltitudeM } ∧
        NearPoint gcsPosition (options.gcsPosition.getD ⟨state.latitudeDeg, state.longitudeDeg⟩) ∧
        |gcsAltitudeM - (options.gcsAltitudeM.getD state.altitudeMslM).value| ≤ 1 / 4
  | .location =>
      ∃ position headingDeg groundSpeedMps relativeAltitudeM verticalSpeed mslAltitudeM
          barometricAltitudeM,
        report = {
          position := some position
          headingDeg := some headingDeg
          groundSpeedMps := some groundSpeedMps
          relativeAltitudeM := some relativeAltitudeM
          verticalSpeed := some verticalSpeed
          mslAltitudeM := some mslAltitudeM
          barometricAltitudeM := some barometricAltitudeM
          status := some (if state.airborne then 1 else 0)
          coordinateSystem := some 0
          horizontalAccuracy := some options.horizontalAccuracy
          verticalAccuracy := some options.verticalAccuracy
          speedAccuracy := some options.speedAccuracy
          timestampMs := some options.timestampMs.toNat
          timestampAccuracy := some options.timestampAccuracy } ∧
        NearPoint position ⟨state.latitudeDeg, state.longitudeDeg⟩ ∧
        |headingDeg - state.headingDeg.value| ≤ 1 / 20 ∧
        |groundSpeedMps - state.horizontalSpeedMps.value| ≤ 1 / 20 ∧
        |relativeAltitudeM - state.heightAglM.value| ≤ 1 / 4 ∧
        verticalSpeed.negative = decide (state.verticalSpeedMps.value < 0) ∧
        |verticalSpeed.value - state.verticalSpeedMps.value| ≤ 1 / 4 ∧
        |mslAltitudeM - state.altitudeMslM.value| ≤ 1 / 4 ∧
        |barometricAltitudeM - (options.barometricAltitudeM.getD state.altitudeMslM).value| ≤ 1 / 4
  | _ => False

/-- The narrowing conversions of a message: its coordinates, its numbers of two bytes, the magnitude of
the vertical speed below the sign bit, and the length of the content. -/
def narrowings (kind : MessageKind) (state : FlightState (Datum K)) (identity : TestIdentity)
    (options : GbOptions K) : List Narrowing :=
  let length : Narrowing :=
    ⟨((GbEncoder.fieldsOf kind state identity options).flatMap Prod.snd).length, 0, 2 ^ 8 - 1⟩
  match kind with
  | .system =>
      let position := options.gcsPosition.getD ⟨state.latitudeDeg, state.longitudeDeg⟩
      [narrowCoordinate position.longitudeDeg.value, narrowCoordinate position.latitudeDeg.value,
        narrow16 (((options.gcsAltitudeM.getD state.altitudeMslM).value + 1000) * 2), length]
  | .location =>
      [narrowCoordinate state.longitudeDeg.value, narrowCoordinate state.latitudeDeg.value,
        narrow16 (state.headingDeg.value * 10), narrow16 (state.horizontalSpeedMps.value * 10),
        narrow16 ((state.heightAglM.value + 9000) * 2),
        ⟨lround (|state.verticalSpeedMps.value| * 2), 0, 2 ^ 7 - 1⟩,
        narrow16 ((state.altitudeMslM.value + 1000) * 2),
        narrow16 (((options.barometricAltitudeM.getD state.altitudeMslM).value + 1000) * 2), length]
  | _ => [length]

namespace GbEncoder

variable {kind : MessageKind} {state : FlightState (Datum K)} {identity : TestIdentity}
  {options : GbOptions K}

omit [IsStrictOrderedRing K] [FloorRing K] in
theorem validateInputs_state (checked : validateInputs state identity options = .ok ()) :
    state.valid = true := by
  unfold validateInputs at checked
  split_ifs at checked with _ stated
  simpa using stated

omit [IsStrictOrderedRing K] [FloorRing K] in
theorem validateInputs_position (checked : validateInputs state identity options = .ok ()) :
    (options.gcsPosition.getD ⟨state.latitudeDeg, state.longitudeDeg⟩).valid = true := by
  have limits := FlightState.inLimits (validateInputs_state checked)
  unfold validateInputs at checked
  split_ifs at checked with _ _ optioned
  simp only [not_or, Bool.not_eq_true] at optioned
  have known := optioned.2.1
  cases given : options.gcsPosition with
  | none => exact limits.position
  | some position =>
    rw [given] at known
    simpa using known

omit [IsStrictOrderedRing K] in
theorem announces_of (present : hasMessage kind = true) :
    Announces (identifiersOf kind) ((fieldsOf kind state identity options).map Prod.fst) := by
  rw [fieldsOf_items]
  cases kind with
  | basicId => exact announces_single (by decide) (by decide +kernel)
  | operatorId => exact announces_single (by decide) (by decide +kernel)
  | system => exact announces_single (by decide) (by decide +kernel)
  | location => exact announces_location
  | authentication => cases present
  | selfId => cases present

omit [IsStrictOrderedRing K] in
theorem fields_sized (checked : validateInputs state identity options = .ok ()) :
    ∀ field ∈ fieldsOf kind state identity options, field.2.length = field.1.width := by
  obtain ⟨identified, registered, _⟩ := validateInputs_checks checked
  cases kind with
  | basicId => simp [fieldsOf, basicIdFields, putFixedText, kProductIdSize, identified, GbItem.width]
  | operatorId =>
    simp only [fieldsOf, operatorIdFields, putFixedText, kRegistrationMarkSize, GbItem.width,
      List.mem_singleton, forall_eq, List.length_append, List.length_replicate]
    omega
  | system => simp [fieldsOf, systemFields, putCoordinate, encodeAltitude, GbItem.width]
  | location =>
    simp [fieldsOf, locationFields, putCoordinate, encodeAltitude, encodeRelativeAltitude, GbItem.width]
  | authentication => simp [fieldsOf]
  | selfId => simp [fieldsOf]

omit [IsStrictOrderedRing K] in
theorem content_length (checked : validateInputs state identity options = .ok ()) :
    ((fieldsOf kind state identity options).flatMap Prod.snd).length ≤ 31 := by
  have sized := @fields_sized K _ _ _ kind state identity options checked
  have widths : ((itemsOf kind).map GbItem.width).sum ≤ 31 := by cases kind <;> decide
  calc ((fieldsOf kind state identity options).flatMap Prod.snd).length
      = ((fieldsOf kind state identity options).map fun field => field.1.width).sum := by
        rw [List.length_flatMap, List.map_congr_left sized]
    _ = ((itemsOf kind).map GbItem.width).sum := by
        rw [← fieldsOf_items kind state identity options, List.map_map]
        rfl
    _ ≤ 31 := widths

omit [IsStrictOrderedRing K] in
theorem length_lossless (checked : validateInputs state identity options = .ok ()) :
    Narrowing.Lossless
      ⟨((fieldsOf kind state identity options).flatMap Prod.snd).length, 0, 2 ^ 8 - 1⟩ := by
  have short := @content_length K _ _ _ kind state identity options checked
  unfold Narrowing.Lossless
  dsimp only
  omega

def frameOf (kind : MessageKind) (state : FlightState (Datum K)) (identity : TestIdentity)
    (options : GbOptions K) : GbFrame where
  dataLength := ((fieldsOf kind state identity options).flatMap Prod.snd).length
  identifiers := identifiersOf kind
  fields := fieldsOf kind state identity options

omit [IsStrictOrderedRing K] in
/-- An encoded message is read back as its fields. -/
theorem read_encoded {bytes : Bytes} (encoded : encode kind state identity options = .ok bytes)
    (rest : Bytes) :
    GbFrame.read (bytes ++ rest) = some (frameOf kind state identity options, rest) := by
  obtain ⟨present, checked, same⟩ := encode_payload encoded
  have short := @content_length K _ _ _ kind state identity options checked
  rw [same]
  exact read_payload (announces_of present) (fields_sized checked) (by omega) rest

omit [IsStrictOrderedRing K] in
theorem basicId_recovers (checked : validateInputs state identity options = .ok ()) {frame : GbFrame}
    (fields : frame.fields = fieldsOf .basicId state identity options) :
    Recovers .basicId state identity options frame.report := by
  have identified := (validateInputs_checks checked).1
  have padded : putFixedText identity.value kProductIdSize = identity.value := by
    unfold putFixedText kProductIdSize
    rw [identified]
    exact List.append_nil _
  unfold GbFrame.report
  rw [fields]
  show ({ productId := some (putFixedText identity.value kProductIdSize) } : GbReport K) = _
  rw [padded]

omit [IsStrictOrderedRing K] in
theorem operatorId_recovers {frame : GbFrame}
    (fields : frame.fields = fieldsOf .operatorId state identity options) :
    Recovers .operatorId state identity options frame.report := by
  unfold GbFrame.report
  rw [fields]
  rfl

theorem system_recovers (checked : validateInputs state identity options = .ok ())
    (altitude : validAltitude (options.gcsAltitudeM.getD state.altitudeMslM) = true) {frame : GbFrame}
    (fields : frame.fields = fieldsOf .system state identity options) :
    Recovers .system state identity options frame.report := by
  have position := GeoPoint.inDegrees (validateInputs_position checked)
  obtain ⟨low, high⟩ := validAltitude_iff altitude
  unfold GbFrame.report
  rw [fields]
  exact ⟨_, _, rfl, coordinates_near position, altitude_near low high⟩

theorem location_recovers (checked : validateInputs state identity options = .ok ())
    (range : locationInRange state (options.barometricAltitudeM.getD state.altitudeMslM) = true)
    {frame : GbFrame} (fields : frame.fields = fieldsOf .location state identity options) :
    Recovers .location state identity options frame.report := by
  have limits := FlightState.inLimits (validateInputs_state checked)
  have ranges := locationRange limits range
  have position := GeoPoint.inDegrees limits.position
  have timestamp : getLe (putLe 6 options.timestampMs.toNat) = options.timestampMs.toNat := by
    apply getLe_putLe
    unfold validateInputs at checked
    split_ifs at checked with _ _ optioned
    simp only [not_or, not_lt] at optioned
    exact Nat.lt_of_le_of_lt optioned.2.2.2.2 (by decide)
  obtain ⟨sign, vertical⟩ := signedSpeed_near limits.vertical ranges.vertical.1 ranges.vertical.2
  unfold GbFrame.report
  rw [fields]
  refine ⟨_, _, _, _, _, _, _, ?_, coordinates_near position,
    tenths_near limits.heading.1 (by linarith [limits.heading.2]),
    tenths_near limits.forward ranges.speed,
    relativeAltitude_near ranges.relative.1 ranges.relative.2, sign, vertical,
    altitude_near ranges.msl.1 ranges.msl.2, altitude_near ranges.barometric.1 ranges.barometric.2⟩
  rw [← timestamp]
  rfl

theorem narrowings_lossless {bytes : Bytes} (encoded : encode kind state identity options = .ok bytes) :
    ∀ narrowing ∈ narrowings kind state identity options, narrowing.Lossless := by
  obtain ⟨present, checked, _⟩ := encode_payload encoded
  have limits := FlightState.inLimits (validateInputs_state checked)
  have length := @length_lossless K _ _ _ kind state identity options checked
  unfold encode at encoded
  rw [checked] at encoded
  cases kind with
  | basicId => simpa [narrowings] using length
  | operatorId => simpa [narrowings] using length
  | system =>
    have position := GeoPoint.inDegrees (validateInputs_position checked)
    obtain ⟨low, high⟩ := validAltitude_iff (encodeSystem_ok_iff.mp encoded).1
    unfold narrowings
    simp only [List.forall_mem_cons]
    exact ⟨narrowCoordinate_lossless position.west position.east,
      narrowCoordinate_lossless (le_trans (by norm_num) position.south)
        (le_trans position.north (by norm_num)),
      narrow16_lossless (by linarith) (by linarith), length, nofun⟩
  | location =>
    have ranges := locationRange limits (encodeLocation_ok_iff.mp encoded).1
    have position := GeoPoint.inDegrees limits.position
    have magnitude := magnitude_bounds ranges.vertical.1 ranges.vertical.2
    obtain ⟨msl, relative, speed, vertical, barometric⟩ := ranges
    have heading := limits.heading
    have forward := limits.forward
    unfold narrowings
    simp only [List.forall_mem_cons]
    refine ⟨narrowCoordinate_lossless position.west position.east,
      narrowCoordinate_lossless (le_trans (by norm_num) position.south)
        (le_trans position.north (by norm_num)),
      narrow16_lossless (by linarith) (by linarith), narrow16_lossless (by linarith) (by linarith),
      narrow16_lossless (by linarith) (by linarith), magnitude,
      narrow16_lossless (by linarith) (by linarith), narrow16_lossless (by linarith) (by linarith),
      length, nofun⟩
  | authentication => cases present
  | selfId => cases present

/-- Decoding recovers the input: of every encoded message the decoder reads all of the payload and
nothing after it, as many bytes of content as the payload announces, and reports the identity, the text,
the bytes and the time exactly and every quantity within half a unit; no conversion of the encoder has
lost a bit. -/
theorem decode_recovers (kind : MessageKind) (state : FlightState (Datum K)) (identity : TestIdentity)
    (options : GbOptions K) (bytes : Bytes) (encoded : encode kind state identity options = .ok bytes) :
    ∃ frame : GbFrame, (∀ rest, GbFrame.read (bytes ++ rest) = some (frame, rest)) ∧
      bytes.length = 3 + frame.identifiers.length + frame.dataLength ∧
      Recovers kind state identity options frame.report ∧
      ∀ narrowing ∈ narrowings kind state identity options, narrowing.Lossless := by
  obtain ⟨present, checked, same⟩ := encode_payload encoded
  have recovers : ∀ frame : GbFrame, frame.fields = fieldsOf kind state identity options →
      Recovers kind state identity options frame.report := by
    intro frame fields
    unfold encode at encoded
    rw [checked] at encoded
    cases kind with
    | basicId => exact basicId_recovers checked fields
    | operatorId => exact operatorId_recovers fields
    | system => exact system_recovers checked (encodeSystem_ok_iff.mp encoded).1 fields
    | location => exact location_recovers checked (encodeLocation_ok_iff.mp encoded).1 fields
    | authentication => cases present
    | selfId => cases present
  refine ⟨frameOf kind state identity options, read_encoded encoded, ?_, recovers _ rfl,
    narrowings_lossless encoded⟩
  rw [same]
  unfold payload frameOf
  simp only [List.length_append, List.length_cons, List.length_nil]

end GbEncoder

end

def vectorState : FlightState (Datum ℚ) where
  latitudeDeg := .finite (312304 / 10000)
  longitudeDeg := .finite (1214737 / 10000)
  altitudeMslM := .finite (247 / 2)
  heightAglM := .finite 50
  horizontalSpeedMps := .finite (123 / 10)
  verticalSpeedMps := .finite (-5 / 2)
  headingDeg := .finite (876 / 10)
  airborne := true
  relativeTimeMs := 1000

def vectorOptions : GbOptions ℚ where
  registrationMark := ascii "TEST0001"
  barometricAltitudeM := some (.finite 120)
  horizontalAccuracy := 3
  verticalAccuracy := 2
  speedAccuracy := 1
  timestampMs := 0x010203040506
  timestampAccuracy := 4

/-- The vector of the encoder's own tests. -/
theorem decode_recovers_vector :
    let bytes : Bytes := [0xff, 0x20, 0x1f, 0x01, 0xff, 0xfe, 0x68, 0x6a, 0x67, 0x48, 0x80, 0x61, 0x9d,
      0x12, 0x6c, 0x03, 0x7b, 0x00, 0xb4, 0x46, 0x85, 0xc7, 0x08, 0xc0, 0x08, 0x01, 0x00, 0x03, 0x02,
      0x01, 0x06, 0x05, 0x04, 0x03, 0x02, 0x01, 0x04]
    let identity : TestIdentity := ⟨ascii "TEST307A069CCC8AFFEF"⟩
    ∃ frame : GbFrame, (∀ rest, GbFrame.read (bytes ++ rest) = some (frame, rest)) ∧
      bytes.length = 3 + frame.identifiers.length + frame.dataLength ∧
      Recovers .location vectorState identity vectorOptions frame.report ∧
      ∀ narrowing ∈ narrowings .location vectorState identity vectorOptions, narrowing.Lossless :=
  GbEncoder.decode_recovers .location vectorState _ vectorOptions _ (by decide +kernel)

end RidFirmware
