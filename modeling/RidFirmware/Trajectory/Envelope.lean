import Mathlib.Analysis.Real.Pi.Bounds
import Mathlib.Analysis.SpecialFunctions.Complex.Arg
import Mathlib.Analysis.SpecialFunctions.Pow.Real
import RidFirmware.Runtime.Encoding
import RidFirmware.Trajectory.Flight

/-! The limits within which every message of a flight can be encoded. `validate` does not check them. -/

namespace RidFirmware
open Lib Lib.Ieee Lib.Path

section
variable {K : Type} [Field K] [LinearOrder K]

/-- The greatest altitude that the encoder of a protocol takes. -/
def altitudeCeiling (protocol : Protocol) : K :=
  if protocol = .openDroneId then 63535 / 2 else 47535 / 2

/-- Open Drone ID has one value above its range, which stands for an unknown speed. -/
def SpeedInRange (protocol : Protocol) (speed : K) : Prop :=
  if protocol = .openDroneId then speed ≤ 1017 / 4 ∨ speed = 255 else speed ≤ 32767 / 5

def ClimbInRange (protocol : Protocol) (speed : K) : Prop :=
  if protocol = .openDroneId then -62 ≤ speed ∧ (speed ≤ 62 ∨ speed = 63)
  else -63 ≤ speed ∧ speed ≤ 127 / 2

variable (math : Libm K)

/-- The encoder of a protocol takes what an aircraft does. -/
@[mk_iff]
structure Motion.Admissible (site : GeoPoint K) (protocol : Protocol) (motion : Motion K) : Prop where
  onMap : OnMap math site motion.eastM motion.northM
  altitude : motion.altitudeM ≤ altitudeCeiling protocol
  speed : SpeedInRange protocol motion.horizontalSpeedMps
  climb : ClimbInRange protocol motion.verticalSpeedMps

/-- The parameters of a trajectory, at a site, are within the limits of a protocol: altitudes, speeds
on the map and up and down, and the outermost points of the way. -/
def TrajectoryConfig.WithinLimits (site : GeoPoint K) (protocol : Protocol) (config : TrajectoryConfig) :
    Prop :=
  let level := config.altitudeM.number ≤ (altitudeCeiling protocol : K) ∧
    SpeedInRange protocol (config.speedMps.number : K)
  let size : K := config.primarySizeM.number
  match config.type with
  | .hover => config.altitudeM.number ≤ (altitudeCeiling protocol : K)
  | .line =>
      let headingRad : K := config.headingDeg.number * kPi / 180
      level ∧ OnMap math site (size * math.sin headingRad) (size * math.cos headingRad)
  | .circle => level ∧ OnMap math site (-size) (-size) ∧ OnMap math site size size
  | .rectangle =>
      let height : K := config.secondarySizeM.number
      level ∧ OnMap math site (-size / 2) (-height / 2) ∧ OnMap math site (size / 2) (height / 2)
  | .waypointLoop =>
      SpeedInRange protocol (config.speedMps.number : K) ∧
        ∀ leg ∈ config.legs, 0 < segmentLength math leg →
          (∀ point ∈ [leg.1, leg.2], OnMap math site point.eastM.number point.northM.number ∧
            point.upM.number ≤ (altitudeCeiling protocol : K)) ∧
          ClimbInRange protocol ((leg.2.upM.number - leg.1.upM.number) * config.speedMps.number /
            segmentLength math leg)
  | .takeoffCruiseLand =>
      config.altitudeM.number ≤ (altitudeCeiling protocol : K) ∧
        ClimbInRange protocol (config.verticalSpeedMps.number : K) ∧
        ClimbInRange protocol (-config.verticalSpeedMps.number : K)
  | .other _ _ => True

/-- Not below the ground and not backwards. -/
def Motion.Forward (motion : Motion K) : Prop := 0 ≤ motion.altitudeM ∧ 0 ≤ motion.horizontalSpeedMps

variable {math}

section
variable [IsStrictOrderedRing K]

theorem timeStamp_mem (elapsedMs : UInt32) :
    ((elapsedMs.toNat % 3600000 : Nat) / 1000 : K) ∈ Set.Icc 0 3600 := by
  have small : elapsedMs.toNat % 3600000 ≤ 3600000 := by omega
  have cast : ((elapsedMs.toNat % 3600000 : Nat) : K) ≤ 3600000 := by exact_mod_cast small
  apply And.intro
  · exact seconds_nonneg _
  · rw [div_le_iff₀ (by norm_num)]
    linarith

variable [FloorRing K] {site : GeoPoint K} {motion : Motion K}

theorem flightState_valid_iff (ahead : 0 ≤ motion.horizontalSpeedMps) (elapsedMs : UInt32) :
    (flightState math site motion elapsedMs).valid = true ↔
      OnMap math site motion.eastM motion.northM := by
  have heading := normalizeHeading_mem motion.headingDeg
  unfold FlightState.valid flightState OnMap GeoPoint.OnGlobe
  dsimp only
  simp only [Datum.isFinite_finite, Datum.atMost_finite, Datum.less_finite, Bool.and_eq_true,
    Bool.and_true, Bool.true_and, decide_eq_true_eq, Set.mem_Icc, ahead, heading.1, heading.2]
  tauto

theorem odid_inRange_iff (ground : 0 ≤ motion.altitudeM) (ahead : 0 ≤ motion.horizontalSpeedMps)
    (onMap : OnMap math site motion.eastM motion.northM) (elapsedMs : UInt32) :
    (OdidEncoder.locationData (flightState math site motion elapsedMs) {}).inRange = true ↔
      motion.altitudeM ≤ 63535 / 2 ∧
        (motion.horizontalSpeedMps ≤ 1017 / 4 ∨ motion.horizontalSpeedMps = 255) ∧
        -62 ≤ motion.verticalSpeedMps ∧
          (motion.verticalSpeedMps ≤ 62 ∨ motion.verticalSpeedMps = 63) := by
  have heading := normalizeHeading_mem motion.headingDeg
  have time := @timeStamp_mem K _ _ _ elapsedMs
  have low : (-1000 : K) ≤ motion.altitudeM := by linarith
  obtain ⟨latitude, longitude⟩ := onMap
  have direction : (360 : K) < 361 := by norm_num
  have speed : (1017 / 4 : K) < 255 := by norm_num
  have climb : (62 : K) < 63 := by norm_num
  unfold Odid.LocationData.inRange OdidEncoder.locationData flightState
  simp only [Odid.MIN_DIR, Odid.MAX_DIR, Odid.INV_DIR, Odid.MIN_SPEED_H, Odid.MAX_SPEED_H,
    Odid.INV_SPEED_H, Odid.MIN_SPEED_V, Odid.MAX_SPEED_V, Odid.INV_SPEED_V, Odid.MIN_LAT, Odid.MAX_LAT,
    Odid.MIN_LON, Odid.MAX_LON, Odid.MIN_ALT, Odid.MAX_ALT, Odid.MAX_TIMESTAMP, Option.getD_none,
    Bool.and_eq_true, Odid.withinOr_finite direction, Odid.withinOr_finite speed,
    Odid.withinOr_finite climb, Odid.within_finite, Datum.less_finite, Bool.not_eq_true',
    Bool.and_eq_false_iff, decide_eq_false_iff_not, not_lt]
  simp only [heading.1, heading.2.le, ahead, low, latitude.1, latitude.2, longitude.1, longitude.2,
    time.1, time.2, true_and, and_true, true_or]
  tauto

theorem gb_inRange_iff (ground : 0 ≤ motion.altitudeM) (elapsedMs : UInt32) :
    GbEncoder.locationInRange (flightState math site motion elapsedMs)
        (flightState math site motion elapsedMs).altitudeMslM = true ↔
      motion.altitudeM ≤ 47535 / 2 ∧ motion.horizontalSpeedMps ≤ 32767 / 5 ∧
        -63 ≤ motion.verticalSpeedMps ∧ motion.verticalSpeedMps ≤ 127 / 2 := by
  have low : (-1000 : K) < motion.altitudeM := by linarith
  have lowest : (-9000 : K) < motion.altitudeM := by linarith
  unfold GbEncoder.locationInRange GbEncoder.validAltitude flightState
  simp only [GbEncoder.kMinAltitudeM, GbEncoder.kMaxAltitudeM, GbEncoder.kMinRelativeAltitudeM,
    GbEncoder.kMaxRelativeAltitudeM, GbEncoder.kMaxGroundSpeedMps, Bool.and_eq_true,
    Bool.not_eq_true', Datum.less_finite, Datum.atMost_finite, Datum.isFinite_finite,
    decide_eq_true_eq, decide_eq_false_iff_not, not_lt, not_le, low, lowest, true_and, and_true]
  apply Iff.intro
  · intro parts
    obtain ⟨⟨⟨⟨⟨_, height⟩, speed⟩, falling⟩, rising⟩, _⟩ := parts
    exact ⟨height, speed, falling, rising⟩
  · intro parts
    obtain ⟨height, speed, falling, rising⟩ := parts
    have altitude : motion.altitudeM ≤ 63535 / 2 := height.trans (by norm_num)
    exact ⟨⟨⟨⟨⟨altitude, height⟩, speed⟩, falling⟩, rising⟩, altitude⟩

theorem encodable_iff_admissible (forward : motion.Forward) (protocol : Protocol) (elapsedMs : UInt32) :
    encodable protocol (flightState math site motion elapsedMs) = true ↔
      motion.Admissible math site protocol := by
  obtain ⟨ground, ahead⟩ := forward
  have valid := @flightState_valid_iff K _ _ math _ _ site motion ahead elapsedMs
  unfold encodable
  rw [Bool.and_eq_true, valid]
  by_cases drone : protocol = .openDroneId
  · rw [if_pos drone]
    apply Iff.intro
    · intro parts
      obtain ⟨onMap, inRange⟩ := parts
      obtain ⟨altitude, speed, climb⟩ := (odid_inRange_iff ground ahead onMap elapsedMs).mp inRange
      exact ⟨onMap, by rwa [altitudeCeiling, if_pos drone], by rwa [SpeedInRange, if_pos drone],
        by rwa [ClimbInRange, if_pos drone]⟩
    · intro admissible
      have altitude := admissible.altitude
      have speed := admissible.speed
      have climb := admissible.climb
      rw [altitudeCeiling, if_pos drone] at altitude
      rw [SpeedInRange, if_pos drone] at speed
      rw [ClimbInRange, if_pos drone] at climb
      exact ⟨admissible.onMap,
        (odid_inRange_iff ground ahead admissible.onMap elapsedMs).mpr ⟨altitude, speed, climb⟩⟩
  · rw [if_neg drone, gb_inRange_iff ground elapsedMs]
    apply Iff.intro
    · intro parts
      obtain ⟨onMap, altitude, speed, climb⟩ := parts
      exact ⟨onMap, by rwa [altitudeCeiling, if_neg drone], by rwa [SpeedInRange, if_neg drone],
        by rwa [ClimbInRange, if_neg drone]⟩
    · intro admissible
      have altitude := admissible.altitude
      have speed := admissible.speed
      have climb := admissible.climb
      rw [altitudeCeiling, if_neg drone] at altitude
      rw [SpeedInRange, if_neg drone] at speed
      rw [ClimbInRange, if_neg drone] at climb
      exact ⟨admissible.onMap, altitude, speed, climb⟩

end

end

/-! Over the real numbers. -/

/-- The functions of `<cmath>`, exactly. -/
noncomputable def realLibm : Libm ℝ where
  sin := Real.sin
  cos := Real.cos
  sqrt := Real.sqrt
  pow := fun base exponent => base ^ exponent
  hypot := fun x y => Real.sqrt (x ^ 2 + y ^ 2)
  atan2 := fun y x => Complex.arg ⟨x, y⟩

theorem kPi_bounds : (0 : ℝ) < kPi ∧ Real.pi < 2 * kPi ∧ 3 * Real.pi / 2 < 2 * kPi := by
  have pi := Real.pi_lt_d2
  unfold kPi
  exact ⟨by norm_num, by linarith, by linarith⟩

theorem segmentLength_nonneg (leg : EnuPoint × EnuPoint) : 0 ≤ segmentLength realLibm leg :=
  Real.sqrt_nonneg _

section
variable {config : TrajectoryConfig}

theorem sampleCircle_between (seconds : ℝ) (instanceIndex : UInt16)
    (size : finitePositive config.primarySizeM = true) :
    (sampleCircle realLibm config seconds instanceIndex).eastM ∈
        Set.uIcc (-config.primarySizeM.number) config.primarySizeM.number ∧
      (sampleCircle realLibm config seconds instanceIndex).northM ∈
        Set.uIcc (-config.primarySizeM.number) config.primarySizeM.number := by
  have radius : (0 : ℝ) < config.primarySizeM.number := finitePositive_number size
  have scaled : ∀ factor : ℝ, -1 ≤ factor → factor ≤ 1 → config.primarySizeM.number * factor ∈
      Set.uIcc (-config.primarySizeM.number) (config.primarySizeM.number : ℝ) := by
    intro factor low high
    apply Set.Icc_subset_uIcc
    exact ⟨by nlinarith, by nlinarith⟩
  exact ⟨scaled _ (Real.neg_one_le_cos _) (Real.cos_le_one _),
    scaled _ (Real.neg_one_le_sin _) (Real.sin_le_one _)⟩

theorem sampleCircle_reaches (speed : finitePositive config.speedMps = true)
    (size : finitePositive config.primarySizeM = true) {angle : ℝ}
    (turn : angle ∈ Set.Ico 0 (2 * kPi)) (instanceIndex : UInt16) :
    ∃ seconds, 0 ≤ seconds ∧
      (sampleCircle realLibm config seconds instanceIndex).eastM =
        config.primarySizeM.number * Real.cos angle ∧
      (sampleCircle realLibm config seconds instanceIndex).northM =
        config.primarySizeM.number * Real.sin angle := by
  have fast : (0 : ℝ) < config.speedMps.number := finitePositive_number speed
  have radius : (0 : ℝ) < config.primarySizeM.number := finitePositive_number size
  have circle := kPi_bounds.1
  have period : 0 < 2 * kPi * config.primarySizeM.number / (config.speedMps.number : ℝ) :=
    div_pos (mul_pos (mul_pos two_pos circle) radius) fast
  have inside : angle * config.primarySizeM.number / config.speedMps.number ∈
      Set.Ico (0 : ℝ) (2 * kPi * config.primarySizeM.number / config.speedMps.number) := by
    apply And.intro
    · exact div_nonneg (mul_nonneg turn.1 radius.le) fast.le
    · exact div_lt_div_of_pos_right (mul_lt_mul_of_pos_right turn.2 radius) fast
  have back : angle * config.primarySizeM.number / config.speedMps.number * 2 * kPi /
      (2 * kPi * config.primarySizeM.number / config.speedMps.number) = angle := by
    field_simp
  obtain ⟨seconds, later, reached⟩ := exists_positivePhase inside instanceIndex
  refine ⟨seconds, later, ?_⟩
  unfold sampleCircle
  dsimp only
  rw [if_pos fast, if_pos period, reached, back]
  exact ⟨rfl, rfl⟩

end

end RidFirmware
