import RidFirmware.Gb.Recovery

/-! The raw values that mean "invalid". The range checks are on the numbers before they are rounded, so
a number within half a unit of a marker becomes the marker. -/

namespace RidFirmware
open Lib Lib.Ieee Lib.Wire

/-- The raw value the table of data items reserves for an invalid value. -/
def GbItem.invalid : GbItem → Bytes → Bool
  | gcsPosition, raw | position, raw => raw.take 4 == [0xff, 0xff, 0xff, 0xff] ||
      raw.drop 4 == [0xff, 0xff, 0xff, 0xff]
  | heading, raw | groundSpeed, raw => raw == [0xff, 0xff]
  | gcsAltitude, raw | relativeAltitude, raw | mslAltitude, raw | barometricAltitude, raw =>
      raw == [0, 0]
  | verticalSpeed, raw => raw == [0xff]
  | _, _ => false

def kHeadingTurn : Nat := 3600

/-- A field a receiver takes for a value: not the marker of its item, and a heading less than a turn. -/
def GbItem.Reads (field : GbItem × Bytes) : Prop :=
  field.1.invalid field.2 = false ∧ (field.1 = .heading → getLe field.2 < kHeadingTurn)

def GbFrame.AllRead (frame : GbFrame) : Prop := ∀ field ∈ frame.fields, GbItem.Reads field

section
variable {K : Type} [Field K] [LinearOrder K]

/-! The numbers that do not round to a marker. -/

/-- Not rounded to minus one, the coordinate `0xffffffff`. -/
def coordinateReads (degrees : K) : Prop := ¬(-3 / 2 < degrees * 10 ^ 7 ∧ degrees * 10 ^ 7 ≤ -1 / 2)

def GeoPoint.reads (point : GeoPoint (Datum K)) : Prop :=
  coordinateReads point.longitudeDeg.value ∧ coordinateReads point.latitudeDeg.value

/-- Not rounded to `-offset`, the raw value zero. -/
def altitudeReads (offset : K) (altitude : Datum K) : Prop := 1 / 4 - offset ≤ altitude.value

/-- The numbers of a message are none of those that round to a marker. -/
def ReadsBack (kind : MessageKind) (state : FlightState (Datum K)) (options : GbOptions K) : Prop :=
  match kind with
  | .system =>
      (options.gcsPosition.getD ⟨state.latitudeDeg, state.longitudeDeg⟩).reads ∧
        altitudeReads 1000 (options.gcsAltitudeM.getD state.altitudeMslM)
  | .location =>
      GeoPoint.reads ⟨state.latitudeDeg, state.longitudeDeg⟩ ∧ state.headingDeg.value < 7199 / 20 ∧
        altitudeReads 9000 state.heightAglM ∧ altitudeReads 1000 state.altitudeMslM ∧
        altitudeReads 1000 (options.barometricAltitudeM.getD state.altitudeMslM)
  | _ => True

end

section
variable {K : Type} [Field K] [LinearOrder K] [IsStrictOrderedRing K] [FloorRing K]

theorem lround_eq_neg_one_iff (x : K) : lround x = -1 ↔ -3 / 2 < x ∧ x ≤ -1 / 2 := by
  have low : -1 ≤ lround x ↔ -3 / 2 < x := by
    rw [le_lround_of_nonpos (by decide)]
    norm_num
  have high : lround x < 0 ↔ x ≤ -1 / 2 := by
    rw [← not_le, le_lround_of_nonpos (le_refl 0), not_lt]
    norm_num
  rw [← low, ← high]
  omega

theorem coordinate_reads_iff {degrees : K} (west : -180 ≤ degrees) (east : degrees ≤ 180) :
    putInt 4 (lround (degrees * 10 ^ 7)) ≠ [0xff, 0xff, 0xff, 0xff] ↔ coordinateReads degrees := by
  have read := getInt_coordinate (narrowCoordinate_lossless west east)
  unfold coordinateReads
  rw [← lround_eq_neg_one_iff, not_iff_not]
  constructor
  · intro marker
    rw [marker] at read
    rw [← read]
    decide
  · intro rounded
    rw [rounded]
    decide

theorem point_reads_iff {point : GeoPoint (Datum K)} (inDegrees : point.InDegrees) (item : GbItem)
    (positional : item = .gcsPosition ∨ item = .position) :
    GbItem.Reads (item, GbEncoder.putCoordinate point) ↔ point.reads := by
  have first : (GbEncoder.putCoordinate point).take 4 =
      putInt 4 (lround (point.longitudeDeg.value * 10 ^ 7)) := List.take_left' (putInt_length 4 _)
  have second : (GbEncoder.putCoordinate point).drop 4 =
      putInt 4 (lround (point.latitudeDeg.value * 10 ^ 7)) := List.drop_left' (putInt_length 4 _)
  have unmarked : item.invalid (GbEncoder.putCoordinate point) = false ↔
      (GbEncoder.putCoordinate point).take 4 ≠ [0xff, 0xff, 0xff, 0xff] ∧
        (GbEncoder.putCoordinate point).drop 4 ≠ [0xff, 0xff, 0xff, 0xff] := by
    rcases positional with rfl | rfl
    · simp only [GbItem.invalid, Bool.or_eq_false_iff, beq_eq_false_iff_ne]
    · simp only [GbItem.invalid, Bool.or_eq_false_iff, beq_eq_false_iff_ne]
  have other : item ≠ .heading := by
    rcases positional with rfl | rfl
    · decide
    · decide
  unfold GbItem.Reads GeoPoint.reads
  rw [unmarked, first, second, coordinate_reads_iff inDegrees.west inDegrees.east,
    coordinate_reads_iff (le_trans (by norm_num) inDegrees.south) (le_trans inDegrees.north (by norm_num))]
  simp only [other, false_implies, and_true]

omit [IsStrictOrderedRing K] in
theorem marker16_iff {scaled : K} (lossless : (narrow16 scaled).Lossless) {raw : Bytes}
    (wide : raw.length = 2) : putInt 2 (lround scaled) = raw ↔ lround scaled = getLe raw := by
  have read := getLe_narrow16 lossless
  constructor
  · intro marker
    rw [← read, marker]
  · intro rounded
    have written := putLe_getLe raw
    rw [wide] at written
    have bound := getLe_lt raw
    rw [wide] at bound
    unfold putInt
    rw [rounded, Int.emod_eq_of_lt (by omega) (by exact_mod_cast bound), Int.toNat_natCast, written]

theorem altitude_reads_iff {altitude : Datum K} {offset : K}
    (lossless : (narrow16 ((altitude.value + offset) * 2)).Lossless) (item : GbItem)
    (vertical : item ∈ [.gcsAltitude, .relativeAltitude, .mslAltitude, .barometricAltitude]) :
    GbItem.Reads (item, putInt 2 (lround ((altitude.value + offset) * 2))) ↔
      altitudeReads offset altitude := by
  have unmarked : GbItem.Reads (item, putInt 2 (lround ((altitude.value + offset) * 2))) ↔
      putInt 2 (lround ((altitude.value + offset) * 2)) ≠ [0, 0] := by
    simp only [List.mem_cons, List.not_mem_nil, or_false] at vertical
    rcases vertical with rfl | rfl | rfl | rfl <;>
      simp only [GbItem.Reads, GbItem.invalid, beq_eq_false_iff_ne, reduceCtorEq, false_implies, and_true]
  have zero : (getLe [0, 0] : Int) = 0 := by decide
  have positive : ¬lround ((altitude.value + offset) * 2) = 0 ↔
      1 ≤ lround ((altitude.value + offset) * 2) := by
    have nonneg : 0 ≤ lround ((altitude.value + offset) * 2) := lossless.1
    omega
  rw [unmarked, Ne, marker16_iff lossless rfl, zero, positive, le_lround_of_pos Int.one_pos, Int.cast_one]
  unfold altitudeReads
  constructor
  · intro above
    linarith
  · intro above
    linarith

theorem heading_reads_iff {degrees : K} (low : 0 ≤ degrees) (high : degrees < 360) :
    GbItem.Reads (.heading, putInt 2 (lround (degrees * 10))) ↔ degrees < 7199 / 20 := by
  have lossless : (narrow16 (degrees * 10)).Lossless := narrow16_lossless (by linarith) (by linarith)
  have read := getLe_narrow16 lossless
  have most : lround (degrees * 10) ≤ 3600 := lround_le (by push_cast; linarith)
  have unmarked : putInt 2 (lround (degrees * 10)) ≠ [0xff, 0xff] := by
    have marker : (getLe [0xff, 0xff] : Int) = 65535 := by decide
    rw [Ne, marker16_iff lossless rfl, marker]
    omega
  have turn : lround (degrees * 10) < 3600 ↔ degrees < 7199 / 20 := by
    rw [← not_le, le_lround_of_pos (by decide), not_le]
    push_cast
    constructor
    · intro below
      linarith
    · intro below
      linarith
  unfold GbItem.Reads
  simp only [GbItem.invalid, beq_eq_false_iff_ne, forall_const]
  rw [and_iff_right unmarked, ← turn]
  unfold kHeadingTurn
  omega

theorem groundSpeed_reads {speed : K} (low : 0 ≤ speed) (high : speed ≤ 32767 / 5) :
    GbItem.Reads (.groundSpeed, putInt 2 (lround (speed * 10))) := by
  have lossless : (narrow16 (speed * 10)).Lossless := narrow16_lossless (by linarith) (by linarith)
  have most : lround (speed * 10) ≤ 65534 := lround_le (by push_cast; linarith)
  have marker : (getLe [0xff, 0xff] : Int) = 65535 := by decide
  have unmarked : putInt 2 (lround (speed * 10)) ≠ [0xff, 0xff] := by
    rw [Ne, marker16_iff lossless rfl, marker]
    omega
  simp [GbItem.Reads, GbItem.invalid, unmarked]

theorem verticalSpeed_reads {speed : Datum K} (finite : speed.isFinite = true)
    (low : -63 ≤ speed.value) (high : speed.value ≤ 127 / 2) :
    GbItem.Reads (.verticalSpeed, [GbEncoder.verticalSpeedByte speed]) := by
  obtain ⟨sign, magnitude⟩ := verticalSpeedByte_parts finite low high
  have unmarked : GbEncoder.verticalSpeedByte speed ≠ 0xff := by
    intro marker
    rw [marker] at sign magnitude
    have sinking : speed.value < 0 := of_decide_eq_true sign.symm
    have most : lround (|speed.value| * 2) ≤ 126 := by
      apply lround_le
      rw [abs_of_neg sinking]
      push_cast
      linarith
    rw [← magnitude] at most
    exact absurd most (by decide)
  simp [GbItem.Reads, GbItem.invalid, unmarked]

namespace GbEncoder
variable {kind : MessageKind} {state : FlightState (Datum K)} {identity : TestIdentity}
  {options : GbOptions K}

theorem validAltitude_reads_iff {altitude : Datum K} (valid : validAltitude altitude = true)
    (item : GbItem) (vertical : item ∈ [.gcsAltitude, .relativeAltitude, .mslAltitude, .barometricAltitude]) :
    GbItem.Reads (item, encodeAltitude altitude) ↔ altitudeReads 1000 altitude := by
  obtain ⟨low, high⟩ := validAltitude_iff valid
  have lossless : (narrow16 ((altitude.value + 1000) * 2)).Lossless :=
    narrow16_lossless (by linarith) (by linarith)
  exact altitude_reads_iff lossless item vertical

omit [Field K] [LinearOrder K] [IsStrictOrderedRing K] [FloorRing K] in
theorem reads_of_unmarked {item : GbItem}
    (unmarked : item ∈ [.productId, .registrationMark, .operationCategory, .uaClassification,
      .gcsPositionType, .status, .coordinateSystem, .horizontalAccuracy, .verticalAccuracy, .speedAccuracy,
      .timestamp, .timestampAccuracy]) (raw : Bytes) : GbItem.Reads (item, raw) := by
  simp only [List.mem_cons, List.not_mem_nil, or_false] at unmarked
  rcases unmarked with rfl | rfl | rfl | rfl | rfl | rfl | rfl | rfl | rfl | rfl | rfl | rfl <;>
    exact ⟨rfl, nofun⟩

theorem system_reads_iff (checked : validateInputs state identity options = .ok ())
    (altitude : validAltitude (options.gcsAltitudeM.getD state.altitudeMslM) = true) :
    (∀ field ∈ systemFields state options, GbItem.Reads field) ↔
      ReadsBack .system state options := by
  have position := point_reads_iff (GeoPoint.inDegrees (validateInputs_position checked)) .gcsPosition
    (Or.inl rfl)
  unfold systemFields ReadsBack
  simp only [List.forall_mem_cons, List.not_mem_nil, false_implies, implies_true, and_true]
  rw [position, validAltitude_reads_iff altitude .gcsAltitude (by decide),
    and_iff_right (reads_of_unmarked (by decide) _), and_iff_right (reads_of_unmarked (by decide) _),
    and_iff_right (reads_of_unmarked (by decide) _)]

theorem location_reads_iff (checked : validateInputs state identity options = .ok ())
    (range : locationInRange state (options.barometricAltitudeM.getD state.altitudeMslM) = true) :
    (∀ field ∈ locationFields state options, GbItem.Reads field) ↔
      ReadsBack .location state options := by
  have limits := FlightState.inLimits (validateInputs_state checked)
  have ranges := locationRange limits range
  obtain ⟨low, high⟩ := ranges.relative
  have position := point_reads_iff (GeoPoint.inDegrees limits.position) .position (Or.inr rfl)
  have heading := heading_reads_iff limits.heading.1 limits.heading.2
  have relative : GbItem.Reads (.relativeAltitude, encodeRelativeAltitude state.heightAglM) ↔
      altitudeReads 9000 state.heightAglM :=
    altitude_reads_iff (narrow16_lossless (by linarith) (by linarith)) .relativeAltitude (by decide)
  have speed := groundSpeed_reads limits.forward ranges.speed
  have vertical := verticalSpeed_reads limits.vertical ranges.vertical.1 ranges.vertical.2
  unfold locationInRange at range
  simp only [Bool.and_eq_true] at range
  have msl := validAltitude_reads_iff range.1.1.1.1.1.1 .mslAltitude (by decide)
  have barometric := validAltitude_reads_iff range.2 .barometricAltitude (by decide)
  have plain : ∀ item ∈ [GbItem.status, .coordinateSystem, .horizontalAccuracy, .verticalAccuracy,
      .speedAccuracy, .timestamp, .timestampAccuracy], ∀ raw, GbItem.Reads (item, raw) := by
    intro item member raw
    exact reads_of_unmarked (List.mem_of_mem_drop (i := 5) member) raw
  simp only [List.forall_mem_cons, List.not_mem_nil, false_implies, implies_true, and_true] at plain
  unfold locationFields ReadsBack
  simp only [List.forall_mem_cons, List.not_mem_nil, false_implies, implies_true, and_true, plain, speed,
    vertical, true_and]
  rw [position, heading, relative, msl, barometric]

/-- When a message is read back: of every encoded message no field is the marker of its item, and the
heading is less than a turn, exactly when its numbers are none of those that round to a marker. -/
theorem reads_iff (kind : MessageKind) (state : FlightState (Datum K)) (identity : TestIdentity)
    (options : GbOptions K) (bytes : Bytes) (encoded : encode kind state identity options = .ok bytes) :
    (∃ frame, GbFrame.read bytes = some (frame, []) ∧ frame.AllRead) ↔
      ReadsBack kind state options := by
  obtain ⟨present, checked, _⟩ := encode_payload encoded
  have read := read_encoded encoded []
  rw [List.append_nil] at read
  have fields : (∃ frame, GbFrame.read bytes = some (frame, []) ∧ frame.AllRead) ↔
      ∀ field ∈ fieldsOf kind state identity options, GbItem.Reads field := by
    constructor
    · intro given
      obtain ⟨frame, same, reads⟩ := given
      rw [read, Option.some.injEq, Prod.mk.injEq] at same
      rw [← same.1] at reads
      exact reads
    · intro reads
      exact ⟨_, read, reads⟩
  rw [fields]
  unfold encode at encoded
  rw [checked] at encoded
  cases kind with
  | basicId => simp [fieldsOf, basicIdFields, reads_of_unmarked, ReadsBack]
  | operatorId => simp [fieldsOf, operatorIdFields, reads_of_unmarked, ReadsBack]
  | system => exact system_reads_iff checked (encodeSystem_ok_iff.mp encoded).1
  | location => exact location_reads_iff checked (encodeLocation_ok_iff.mp encoded).1
  | authentication => cases present
  | selfId => cases present

end GbEncoder

end

/-- The vector of the encoder's tests reads back. -/
theorem reads_iff_vector :
    let bytes : Bytes := [0xff, 0x20, 0x1f, 0x01, 0xff, 0xfe, 0x68, 0x6a, 0x67, 0x48, 0x80, 0x61, 0x9d,
      0x12, 0x6c, 0x03, 0x7b, 0x00, 0xb4, 0x46, 0x85, 0xc7, 0x08, 0xc0, 0x08, 0x01, 0x00, 0x03, 0x02,
      0x01, 0x06, 0x05, 0x04, 0x03, 0x02, 0x01, 0x04]
    (∃ frame, GbFrame.read bytes = some (frame, []) ∧ frame.AllRead) ↔
      ReadsBack .location vectorState vectorOptions :=
  GbEncoder.reads_iff .location vectorState ⟨ascii "TEST307A069CCC8AFFEF"⟩ vectorOptions _
    (by decide +kernel)

/-- Just west of the prime meridian, just above the lowest altitude, heading almost north. -/
def markedState : FlightState (Datum ℚ) :=
  { vectorState with
    longitudeDeg := .finite (-1 / 2 ^ 23)
    altitudeMslM := .finite (-7999 / 8)
    headingDeg := .finite (11519 / 32) }

/-- Of that message the longitude and two altitudes are markers, and the heading is a whole turn. -/
theorem marked_not_read :
    ∃ bytes, GbEncoder.encode .location markedState ⟨ascii "TEST307A069CCC8AFFEF"⟩ {} = .ok bytes ∧
      ¬∃ frame, GbFrame.read bytes = some (frame, []) ∧ frame.AllRead := by
  let bytes : Bytes := [0xff, 0x20, 0x1f, 0x01, 0xff, 0xfe, 0xff, 0xff, 0xff, 0xff, 0x80, 0x61, 0x9d,
    0x12, 0x10, 0x0e, 0x7b, 0x00, 0xb4, 0x46, 0x85, 0x00, 0x00, 0x00, 0x00, 0x01, 0x00, 0x00, 0x00,
    0x00, 0x00, 0x00, 0x00, 0x00, 0x00, 0x00, 0x00]
  have encoded : GbEncoder.encode .location markedState ⟨ascii "TEST307A069CCC8AFFEF"⟩ {} = .ok bytes := by
    decide +kernel
  have marked : (GbFrame.read bytes).any fun result =>
      result.1.fields.any fun field => field.1.invalid field.2 := by
    decide +kernel
  refine ⟨bytes, encoded, ?_⟩
  intro given
  obtain ⟨frame, read, reads⟩ := given
  rw [read, Option.any_some, List.any_eq_true] at marked
  obtain ⟨field, member, invalid⟩ := marked
  rw [(reads field member).1] at invalid
  cases invalid

end RidFirmware
