import Mathlib.Analysis.Real.Pi.Bounds
import Mathlib.Analysis.SpecialFunctions.Trigonometric.Bounds
import Mathlib.Analysis.SpecialFunctions.Trigonometric.Deriv
import RidFirmware.Lib.Rates
import RidFirmware.Trajectory.Loops

/-! The velocity of a flight. The speed, the heading and the vertical speed which a sample reports are the
rate at which the sampled position changes. -/

namespace RidFirmware
open Lib Lib.Ieee Lib.Path
open Filter Topology

/-- The velocity that a motion reports, the heading clockwise from the north. -/
noncomputable def Motion.velocity (motion : Motion ℝ) : Axis → ℝ
  | .east => motion.horizontalSpeedMps * Real.sin (motion.headingDeg * Real.pi / 180)
  | .north => motion.horizontalSpeedMps * Real.cos (motion.headingDeg * Real.pi / 180)
  | .up => motion.verticalSpeedMps

/-- What `kPi` lacks of the circle number turns a direction by less than this. Nothing is lacking upward. -/
noncomputable def Axis.slack : Axis → ℝ
  | .up => 0
  | _ => 1e-18

/-- On arrival at the time or on departure from it, each coordinate changes as the motion reports. -/
def Flies (motion : ℝ → Motion ℝ) (seconds : ℝ) : Prop :=
  ∃ side : Side, ∀ axis, ∃ rate, side.Rate (fun time => (motion time).place axis) rate seconds ∧
    |rate - (motion seconds).velocity axis| ≤ (motion seconds).horizontalSpeedMps * axis.slack

/-! Headings. -/

theorem exists_normalizeHeading (headingDeg : ℝ) :
    ∃ turns : Int, normalizeHeading headingDeg = headingDeg + turns * 360 := by
  unfold normalizeHeading fmod
  dsimp only
  split_ifs
  · refine ⟨1 - trunc (headingDeg / 360), ?_⟩
    push_cast
    ring
  · refine ⟨-trunc (headingDeg / 360), ?_⟩
    push_cast
    ring

theorem normalizeHeading_direction (headingDeg : ℝ) :
    Real.sin (normalizeHeading headingDeg * Real.pi / 180) = Real.sin (headingDeg * Real.pi / 180) ∧
      Real.cos (normalizeHeading headingDeg * Real.pi / 180) = Real.cos (headingDeg * Real.pi / 180) := by
  obtain ⟨turns, whole⟩ := exists_normalizeHeading headingDeg
  have turned : normalizeHeading headingDeg * Real.pi / 180 =
      headingDeg * Real.pi / 180 + turns * (2 * Real.pi) := by
    rw [whole]
    ring
  rw [turned]
  exact ⟨Real.sin_add_int_mul_two_pi _ _, Real.cos_add_int_mul_two_pi _ _⟩

theorem kPi_lacks : |Real.pi - kPi| ≤ 1e-20 := by
  have below := Real.pi_gt_d20
  have above := Real.pi_lt_d20
  unfold kPi
  rw [abs_le]
  exact ⟨by linarith, by linarith⟩

/-- A motion which reports the heading of an angle, give or take what `kPi` lacks. -/
def Motion.Toward (motion : Motion ℝ) (angle : ℝ) : Prop :=
  |Real.sin angle - Real.sin (motion.headingDeg * Real.pi / 180)| ≤ 1e-18 ∧
    |Real.cos angle - Real.cos (motion.headingDeg * Real.pi / 180)| ≤ 1e-18

theorem toward_of_near {motion : Motion ℝ} {angle headingDeg : ℝ}
    (reported : motion.headingDeg = normalizeHeading headingDeg)
    (near : |angle - headingDeg * Real.pi / 180| ≤ 1e-18) : motion.Toward angle := by
  obtain ⟨sin, cos⟩ := normalizeHeading_direction headingDeg
  unfold Motion.Toward
  rw [reported, sin, cos]
  exact ⟨(Real.abs_sin_sub_sin_le _ _).trans near, (Real.abs_cos_sub_cos_le _ _).trans near⟩

theorem toward_reported (motion : Motion ℝ) : motion.Toward (motion.headingDeg * Real.pi / 180) := by
  unfold Motion.Toward
  rw [sub_self, sub_self, abs_zero]
  exact ⟨by norm_num, by norm_num⟩

theorem angle_near {angle : ℝ} (small : |angle| ≤ 7) :
    |angle - angle * 180 / kPi * Real.pi / 180| ≤ 1e-18 := by
  have lacks := kPi_lacks
  have constant : (1 : ℝ) ≤ kPi := by
    unfold kPi
    norm_num
  have positive : (0 : ℝ) < kPi := one_pos.trans_le constant
  have difference : angle - angle * 180 / kPi * Real.pi / 180 = angle / kPi * (kPi - Real.pi) := by
    field_simp
  have shrunk : |angle / kPi| ≤ 7 := by
    rw [abs_div, abs_of_pos positive, div_le_iff₀ positive]
    linarith
  rw [difference, abs_mul, abs_sub_comm kPi]
  calc
    _ ≤ 7 * (1e-20 : ℝ) := mul_le_mul shrunk lacks (abs_nonneg _) (by norm_num)
    _ ≤ 1e-18 := by norm_num

theorem flies_toward {motion : ℝ → Motion ℝ} {seconds angle : ℝ} (side : Side)
    (forward : 0 ≤ (motion seconds).horizontalSpeedMps) (toward : (motion seconds).Toward angle)
    (east : side.Rate (fun time => (motion time).eastM)
      ((motion seconds).horizontalSpeedMps * Real.sin angle) seconds)
    (north : side.Rate (fun time => (motion time).northM)
      ((motion seconds).horizontalSpeedMps * Real.cos angle) seconds)
    (up : side.Rate (fun time => (motion time).altitudeM) (motion seconds).verticalSpeedMps seconds) :
    Flies motion seconds := by
  have scaled : ∀ x y : ℝ, |x - y| ≤ 1e-18 →
      |(motion seconds).horizontalSpeedMps * x - (motion seconds).horizontalSpeedMps * y| ≤
        (motion seconds).horizontalSpeedMps * 1e-18 := by
    intro x y near
    rw [← mul_sub, abs_mul, abs_of_nonneg forward]
    exact mul_le_mul_of_nonneg_left near forward
  refine ⟨side, ?_⟩
  intro axis
  cases axis with
  | east => exact ⟨_, east, scaled _ _ toward.1⟩
  | north => exact ⟨_, north, scaled _ _ toward.2⟩
  | up =>
    refine ⟨_, up, ?_⟩
    unfold Motion.velocity Axis.slack
    rw [sub_self, abs_zero, mul_zero]

theorem flies_still {motion : Motion ℝ} (horizontal : motion.horizontalSpeedMps = 0)
    (vertical : motion.verticalSpeedMps = 0) (seconds : ℝ) : Flies (fun _ => motion) seconds := by
  have still : ∀ value : ℝ, Side.departing.Rate (fun _ => value) 0 seconds :=
    fun _ => Side.Rate.of_constant (Eventually.of_forall (fun _ => rfl))
  apply flies_toward .departing
  · exact horizontal.ge
  · exact toward_reported motion
  · rw [horizontal, zero_mul]
    exact still motion.eastM
  · rw [horizontal, zero_mul]
    exact still motion.northM
  · rw [vertical]
    exact still motion.altitudeM

/-! Rates by the phase and by the way behind the aircraft. -/

section
variable {config : TrajectoryConfig} {seconds : ℝ} (later : 0 ≤ seconds) (instanceIndex : UInt16)
include later

theorem phase_rate {period rate : ℝ} {f : ℝ → ℝ} (positive : 0 < period) {side : Side}
    (begun : side = .arriving → 0 < positivePhase seconds period instanceIndex)
    (changes : side.Rate f rate (positivePhase seconds period instanceIndex)) :
    side.Rate (fun time => f (positivePhase time period instanceIndex)) rate seconds := by
  obtain ⟨offset, ahead, phase⟩ := exists_offset positive instanceIndex
  simp only [phase] at begun changes ⊢
  exact Side.Rate.fmod positive (add_nonneg later ahead) begun changes

theorem travelled_rate {length speed rate : ℝ} {f : ℝ → ℝ} (long : 0 < length) (fast : 0 < speed)
    {side : Side}
    (begun : side = .arriving → 0 < positivePhase seconds (length / speed) instanceIndex * speed)
    (changes : side.Rate f rate (positivePhase seconds (length / speed) instanceIndex * speed)) :
    side.Rate (fun time => f (positivePhase time (length / speed) instanceIndex * speed)) (rate * speed)
      seconds := by
  apply phase_rate later instanceIndex (div_pos long fast) _ (changes.comp_mul fast.le)
  intro arriving
  exact pos_of_mul_pos_left (begun arriving) fast.le

/-! Lines. -/

omit later in
theorem lineDistance_rate {length travelled : ℝ} (long : 0 < length) :
    ∃ side : Side, (side = .arriving → 0 < travelled) ∧
      side.Rate (lineDistance length) (if length < travelled then -1 else 1) travelled := by
  unfold lineDistance
  rcases lt_trichotomy travelled length with before | turning | after
  · refine ⟨.departing, nofun, Side.Rate.of_affine _ ?_⟩
    filter_upwards [near_departing before] with x hx
    rw [if_neg (not_lt.mpr hx.2.le), if_neg (not_lt.mpr before.le), if_neg (not_lt.mpr before.le)]
    ring
  · rw [turning]
    refine ⟨.arriving, fun _ => long, Side.Rate.of_affine _ ?_⟩
    filter_upwards [near_arriving long] with x hx
    rw [if_neg (not_lt.mpr hx.2), if_neg (lt_irrefl _), if_neg (lt_irrefl _)]
    ring
  · refine ⟨.departing, nofun, Side.Rate.of_affine _ ?_⟩
    filter_upwards [near_departing (lt_add_one travelled)] with x hx
    rw [if_pos (after.trans_le hx.1), if_pos after, if_pos after]
    ring

theorem sampleLine_flies (speed : finitePositive config.speedMps = true)
    (size : finitePositive config.primarySizeM = true)
    (heading : (config.headingDeg.number : ℝ) ∈ Set.Ico 0 360) :
    Flies (fun time => sampleLine realLibm config time instanceIndex) seconds := by
  have fast : (0 : ℝ) < config.speedMps.number := finitePositive_number speed
  have long : (0 : ℝ) < config.primarySizeM.number := finitePositive_number size
  have east := fun time => (sampleLine_eq realLibm speed time instanceIndex).1
  have north := fun time => (sampleLine_eq realLibm speed time instanceIndex).2
  have reported : (sampleLine realLibm config seconds instanceIndex).headingDeg =
      normalizeHeading (config.headingDeg.number + if config.primarySizeM.number <
        positivePhase seconds (2 * config.primarySizeM.number / config.speedMps.number) instanceIndex *
          config.speedMps.number then 180 else 0) := by
    unfold sampleLine
    dsimp only
    rw [if_pos fast]
    simp only [decide_eq_true_eq]
  obtain ⟨side, begun, changes⟩ := @lineDistance_rate config.primarySizeM.number
    (positivePhase seconds (2 * config.primarySizeM.number / config.speedMps.number) instanceIndex *
      config.speedMps.number) long
  have moves := travelled_rate later instanceIndex (mul_pos two_pos long) fast begun changes
  generalize positivePhase seconds (2 * config.primarySizeM.number / config.speedMps.number) instanceIndex *
    config.speedMps.number = travelled at reported moves
  have forward : (sampleLine realLibm config seconds instanceIndex).horizontalSpeedMps =
      config.speedMps.number := rfl
  have turned : ∀ angle : ℝ,
      Real.sin (angle + if config.primarySizeM.number < travelled then Real.pi else 0) =
          (if config.primarySizeM.number < travelled then -1 else 1) * Real.sin angle ∧
        Real.cos (angle + if config.primarySizeM.number < travelled then Real.pi else 0) =
          (if config.primarySizeM.number < travelled then -1 else 1) * Real.cos angle := by
    intro angle
    split_ifs
    · rw [Real.sin_add_pi, Real.cos_add_pi, neg_one_mul, neg_one_mul]
      exact ⟨rfl, rfl⟩
    · rw [add_zero, one_mul, one_mul]
      exact ⟨rfl, rfl⟩
  obtain ⟨sin, cos⟩ := turned (config.headingDeg.number * kPi / 180)
  apply flies_toward side
  · rw [forward]
    exact fast.le
  · apply toward_of_near reported
    have difference : config.headingDeg.number * kPi / 180 +
        (if config.primarySizeM.number < travelled then Real.pi else 0) -
        (config.headingDeg.number + if config.primarySizeM.number < travelled then 180 else 0) *
          Real.pi / 180 = config.headingDeg.number / 180 * (kPi - Real.pi) := by
      split_ifs <;> ring
    rw [difference, abs_mul, abs_sub_comm kPi, abs_of_nonneg (div_nonneg heading.1 (by norm_num))]
    calc
      _ ≤ 2 * (1e-20 : ℝ) := mul_le_mul (by linarith [heading.2]) kPi_lacks (abs_nonneg _) (by norm_num)
      _ ≤ 1e-18 := by norm_num
  · rw [forward, sin]
    simp only [east]
    have scaled := moves.mul_const (Real.sin (config.headingDeg.number * kPi / 180))
    rwa [mul_comm _ (config.speedMps.number : ℝ), mul_assoc] at scaled
  · rw [forward, cos]
    simp only [north]
    have scaled := moves.mul_const (Real.cos (config.headingDeg.number * kPi / 180))
    rwa [mul_comm _ (config.speedMps.number : ℝ), mul_assoc] at scaled
  · apply Side.Rate.of_constant
    exact Eventually.of_forall (fun _ => rfl)

/-! Circles. -/

omit later in
theorem sampleCircle_eq (speed : finitePositive config.speedMps = true)
    (size : finitePositive config.primarySizeM = true) (time : ℝ) :
    let angle := positivePhase time (2 * kPi * config.primarySizeM.number / config.speedMps.number)
      instanceIndex * (config.speedMps.number / config.primarySizeM.number)
    (sampleCircle realLibm config time instanceIndex).eastM =
        config.primarySizeM.number * Real.cos angle ∧
      (sampleCircle realLibm config time instanceIndex).northM =
        config.primarySizeM.number * Real.sin angle ∧
      (sampleCircle realLibm config time instanceIndex).headingDeg =
        normalizeHeading (-angle * 180 / kPi) := by
  have fast : (0 : ℝ) < config.speedMps.number := finitePositive_number speed
  have radius : (0 : ℝ) < config.primarySizeM.number := finitePositive_number size
  have circle := kPi_bounds.1
  have period : 0 < 2 * kPi * config.primarySizeM.number / (config.speedMps.number : ℝ) :=
    div_pos (mul_pos (mul_pos two_pos circle) radius) fast
  have by_speed : ∀ phase : ℝ,
      phase * 2 * kPi / (2 * kPi * config.primarySizeM.number / config.speedMps.number) =
        phase * (config.speedMps.number / config.primarySizeM.number) := by
    intro phase
    field_simp
  unfold sampleCircle
  dsimp only
  rw [if_pos fast, if_pos period, by_speed]
  exact ⟨rfl, rfl, rfl⟩

theorem sampleCircle_flies (speed : finitePositive config.speedMps = true)
    (size : finitePositive config.primarySizeM = true) :
    Flies (fun time => sampleCircle realLibm config time instanceIndex) seconds := by
  have fast : (0 : ℝ) < config.speedMps.number := finitePositive_number speed
  have radius : (0 : ℝ) < config.primarySizeM.number := finitePositive_number size
  have circle := kPi_bounds.1
  have period : 0 < 2 * kPi * config.primarySizeM.number / (config.speedMps.number : ℝ) :=
    div_pos (mul_pos (mul_pos two_pos circle) radius) fast
  have positions := sampleCircle_eq instanceIndex speed size
  have inside := positivePhase_mem later period instanceIndex
  have follows : ∀ {f : ℝ → ℝ} {rate : ℝ},
      HasDerivAt f rate (positivePhase seconds
        (2 * kPi * config.primarySizeM.number / config.speedMps.number) instanceIndex) →
      Side.departing.Rate (fun time => f (positivePhase time
        (2 * kPi * config.primarySizeM.number / config.speedMps.number) instanceIndex)) rate seconds :=
    fun changes => phase_rate later instanceIndex period Side.departs changes.hasDerivWithinAt
  have reported := (positions seconds).2.2
  have forward : (sampleCircle realLibm config seconds instanceIndex).horizontalSpeedMps =
      config.speedMps.number := rfl
  generalize positivePhase seconds (2 * kPi * config.primarySizeM.number / config.speedMps.number)
    instanceIndex = phase at reported follows inside
  have turning : HasDerivAt (fun phase : ℝ =>
      phase * (config.speedMps.number / config.primarySizeM.number))
      (config.speedMps.number / config.primarySizeM.number) phase := by
    simpa using (hasDerivAt_id phase).mul_const
      (config.speedMps.number / config.primarySizeM.number : ℝ)
  have around : ∀ direction : ℝ, config.speedMps.number * direction =
      config.primarySizeM.number * (direction * (config.speedMps.number / config.primarySizeM.number)) := by
    intro direction
    field_simp
  have small : |-(phase * (config.speedMps.number / config.primarySizeM.number) : ℝ)| ≤ 7 := by
    have turned : phase * (config.speedMps.number / config.primarySizeM.number) ≤ 2 * kPi := by
      calc
        _ ≤ 2 * kPi * config.primarySizeM.number / config.speedMps.number *
            (config.speedMps.number / config.primarySizeM.number) :=
          mul_le_mul_of_nonneg_right inside.2.le (div_pos fast radius).le
        _ = 2 * kPi := by field_simp
    rw [abs_neg, abs_of_nonneg (mul_nonneg inside.1 (div_pos fast radius).le)]
    apply turned.trans
    unfold kPi
    norm_num
  have toward := toward_of_near reported (angle_near small)
  apply flies_toward .departing
  · rw [forward]
    exact fast.le
  · exact toward
  · rw [forward, Real.sin_neg, around]
    simp only [positions]
    exact follows (turning.cos.const_mul (config.primarySizeM.number : ℝ))
  · rw [forward, Real.cos_neg, around]
    simp only [positions]
    exact follows (turning.sin.const_mul (config.primarySizeM.number : ℝ))
  · apply Side.Rate.of_constant
    exact Eventually.of_forall (fun _ => rfl)

/-! Rectangles. -/

omit later in
theorem sampleRectangle_rate (width height distance : ℝ) :
    ∃ heading : ℝ,
      heading = (if distance < width then 90 else if distance - width < height then 0
        else if distance - width - height < width then 270 else 180) ∧
      Side.departing.Rate (rectangleEast width height) (Real.sin (heading * Real.pi / 180)) distance ∧
      Side.departing.Rate (rectangleNorth width height) (Real.cos (heading * Real.pi / 180)) distance := by
  have east : (90 : ℝ) * Real.pi / 180 = Real.pi / 2 := by ring
  have west : (270 : ℝ) * Real.pi / 180 = Real.pi / 2 + Real.pi := by ring
  have south : (180 : ℝ) * Real.pi / 180 = Real.pi := by ring
  refine ⟨_, rfl, ?_⟩
  unfold rectangleEast rectangleNorth
  split_ifs with first second third
  · rw [east, Real.sin_pi_div_two, Real.cos_pi_div_two]
    apply And.intro
    · apply Side.Rate.of_affine
      filter_upwards [near_departing first] with x hx
      rw [if_pos hx.2, if_pos first]
      ring
    · apply Side.Rate.of_constant
      filter_upwards [near_departing first] with x hx
      rw [if_pos hx.2, if_pos first]
  · rw [zero_mul, zero_div, Real.sin_zero, Real.cos_zero]
    have room : distance < width + height := by linarith
    apply And.intro
    · apply Side.Rate.of_constant
      filter_upwards [near_departing room] with x hx
      rw [if_neg (by linarith [hx.1]), if_pos (by linarith [hx.2]), if_neg first, if_pos second]
    · apply Side.Rate.of_affine
      filter_upwards [near_departing room] with x hx
      rw [if_neg (by linarith [hx.1]), if_pos (by linarith [hx.2]), if_neg first, if_pos second]
      ring
  · rw [west, Real.sin_add_pi, Real.cos_add_pi, Real.sin_pi_div_two, Real.cos_pi_div_two, neg_zero]
    have room : distance < width + height + width := by linarith
    apply And.intro
    · apply Side.Rate.of_affine
      filter_upwards [near_departing room] with x hx
      rw [if_neg (by linarith [hx.1]), if_neg (by linarith [hx.1]), if_pos (by linarith [hx.2]),
        if_neg first, if_neg second, if_pos third]
      ring
    · apply Side.Rate.of_constant
      filter_upwards [near_departing room] with x hx
      rw [if_neg (by linarith [hx.1]), if_neg (by linarith [hx.1]), if_pos (by linarith [hx.2]),
        if_neg first, if_neg second, if_pos third]
  · rw [south, Real.sin_pi, Real.cos_pi]
    apply And.intro
    · apply Side.Rate.of_constant
      filter_upwards [near_departing (lt_add_one distance)] with x hx
      rw [if_neg (by linarith [hx.1]), if_neg (by linarith [hx.1]), if_neg (by linarith [hx.1]),
        if_neg first, if_neg second, if_neg third]
    · apply Side.Rate.of_affine
      filter_upwards [near_departing (lt_add_one distance)] with x hx
      rw [if_neg (by linarith [hx.1]), if_neg (by linarith [hx.1]), if_neg (by linarith [hx.1]),
        if_neg first, if_neg second, if_neg third]
      ring

theorem sampleRectangle_flies (speed : finitePositive config.speedMps = true)
    (width : finitePositive config.primarySizeM = true)
    (height : finitePositive config.secondarySizeM = true) :
    Flies (fun time => sampleRectangle config time instanceIndex) seconds := by
  have fast : (0 : ℝ) < config.speedMps.number := finitePositive_number speed
  have wide : (0 : ℝ) < config.primarySizeM.number := finitePositive_number width
  have high : (0 : ℝ) < config.secondarySizeM.number := finitePositive_number height
  have around : (0 : ℝ) < 2 * (config.primarySizeM.number + config.secondarySizeM.number) := by linarith
  obtain ⟨heading, side, east, north⟩ := sampleRectangle_rate config.primarySizeM.number
    config.secondarySizeM.number (positivePhase seconds
      (2 * (config.primarySizeM.number + config.secondarySizeM.number) / config.speedMps.number)
      instanceIndex * config.speedMps.number)
  have reported : (sampleRectangle config seconds instanceIndex : Motion ℝ).headingDeg = heading := by
    rw [side]
    unfold sampleRectangle
    dsimp only
    rw [if_pos fast]
    split_ifs <;> rfl
  have eastward := travelled_rate later instanceIndex around fast Side.departs east
  have northward := travelled_rate later instanceIndex around fast Side.departs north
  have positions := fun time => @sampleRectangle_eq ℝ _ _ _ _ config speed time instanceIndex
  obtain ⟨_, forward, level⟩ := sampleRectangle_level config seconds instanceIndex
  apply flies_toward .departing
  · rw [forward]
    exact fast.le
  · exact toward_reported _
  · rw [forward, reported, mul_comm]
    simp only [positions]
    exact eastward
  · rw [forward, reported, mul_comm]
    simp only [positions]
    exact northward
  · rw [level]
    apply Side.Rate.of_constant
    simp only [(sampleRectangle_level config _ instanceIndex).1, Eventually.of_forall, implies_true]

/-! Missions. -/

omit later in
theorem missionAltitude_rate (altitude verticalSpeed climbTime cruiseTime phase : ℝ) :
    Side.departing.Rate (missionAltitude altitude verticalSpeed climbTime cruiseTime)
      (if phase < climbTime then verticalSpeed else if phase < climbTime + cruiseTime then 0
        else -verticalSpeed) phase := by
  unfold missionAltitude
  split_ifs with climbing cruising
  · apply Side.Rate.of_affine
    filter_upwards [near_departing climbing] with x hx
    rw [if_pos hx.2, if_pos climbing]
    ring
  · apply Side.Rate.of_constant
    filter_upwards [near_departing cruising] with x hx
    rw [if_neg (by linarith [hx.1]), if_pos hx.2, if_neg climbing, if_pos cruising]
  · apply Side.Rate.of_affine
    filter_upwards [near_departing (lt_add_one phase)] with x hx
    rw [if_neg (by linarith [hx.1]), if_neg (by linarith [hx.1]), if_neg climbing, if_neg cruising]
    ring

theorem sampleMission_flies (altitude : finitePositive config.altitudeM = true)
    (climbs : finitePositive config.verticalSpeedMps = true)
    (airborne : (sampleMission config seconds instanceIndex : Motion ℝ).airborne = true) :
    Flies (fun time => sampleMission config time instanceIndex) seconds := by
  have period := @missionPeriod_pos ℝ _ _ _ config altitude climbs
  have inside := positivePhase_mem later period instanceIndex
  have climb : (0 : ℝ) < config.altitudeM.number / config.verticalSpeedMps.number :=
    climbTime_pos altitude climbs
  obtain ⟨height, rate⟩ := @sampleMission_eq ℝ _ _ _ _ config altitude climbs _ later instanceIndex
  rw [sampleMission_airborne, height] at airborne
  have changes := phase_rate later instanceIndex period Side.departs
    (missionAltitude_rate config.altitudeM.number config.verticalSpeedMps.number
      (config.altitudeM.number / config.verticalSpeedMps.number)
      ((config.cruiseTimeMs.toNat : ℝ) / 1000) _)
  have still : ∀ time : ℝ, (sampleMission config time instanceIndex).eastM = 0 ∧
      (sampleMission config time instanceIndex).northM = 0 ∧
      (sampleMission config time instanceIndex).horizontalSpeedMps = 0 := by
    intro time
    unfold sampleMission
    dsimp only
    split_ifs <;> exact ⟨rfl, rfl, rfl⟩
  -- on the ground, at the start of the period, the altitude would be zero
  have started : ¬positivePhase seconds (2 * (config.altitudeM.number / config.verticalSpeedMps.number) +
      (config.cruiseTimeMs.toNat : ℝ) / 1000) instanceIndex ≤ 0 := by
    intro landed
    rw [le_antisymm landed inside.1] at airborne
    unfold missionAltitude at airborne
    rw [if_pos climb, zero_mul] at airborne
    exact lt_irrefl _ airborne
  apply flies_toward .departing
  · exact (still seconds).2.2.ge
  · exact toward_reported _
  · rw [(still seconds).2.2, zero_mul]
    simp only [still]
    exact Side.Rate.of_constant (Eventually.of_forall (fun _ => rfl))
  · rw [(still seconds).2.2, zero_mul]
    simp only [still]
    exact Side.Rate.of_constant (Eventually.of_forall (fun _ => rfl))
  · rw [rate, if_neg started]
    apply changes.congr
    filter_upwards [self_mem_nhdsWithin] with time after
    exact (sampleMission_eq altitude climbs (later.trans after) instanceIndex).1

/-! Waypoints. -/

omit later in
theorem walkLegs_near {math : Libm ℝ} {speed : ℝ} {legs : List (EnuPoint × EnuPoint)} {distance : ℝ}
    (nonneg : 0 ≤ distance) (inside : distance < (legs.map (segmentLength math)).sum) :
    ∃ leg ∈ legs, 0 < segmentLength math leg ∧ ∃ along,
      (∃ stop, distance < stop ∧ ∀ x ∈ Set.Ico distance stop,
        walkLegs math speed legs x = some (alongLeg math speed leg (along + (x - distance)))) ∨
      (∃ start, 0 ≤ start ∧ start < distance ∧ ∀ x ∈ Set.Ioc start distance,
        walkLegs math speed legs x = some (alongLeg math speed leg (along + (x - distance)))) := by
  induction legs generalizing distance with
  | nil => exact absurd inside (not_lt.mpr nonneg)
  | cons leg rest ih =>
    rw [List.map_cons, List.sum_cons] at inside
    unfold walkLegs
    dsimp only
    by_cases flat : segmentLength math leg ≤ 0
    · simp only [if_pos flat]
      obtain ⟨found, member, located⟩ := ih nonneg (by linarith)
      exact ⟨found, List.mem_cons_of_mem leg member, located⟩
    · simp only [if_neg flat]
      rcases lt_trichotomy distance (segmentLength math leg) with within | turning | past
      · refine ⟨leg, List.mem_cons_self, not_le.mp flat, distance, .inl ⟨_, within, ?_⟩⟩
        intro x hx
        rw [if_pos hx.2.le, add_sub_cancel]
      · refine ⟨leg, List.mem_cons_self, not_le.mp flat, distance, .inr ⟨0, le_refl 0, ?_, ?_⟩⟩
        · linarith
        · intro x hx
          rw [if_pos (hx.2.trans turning.le), add_sub_cancel]
      · obtain ⟨found, member, extent, along, near⟩ :=
          @ih (distance - segmentLength math leg) (by linarith) (by linarith)
        refine ⟨found, List.mem_cons_of_mem leg member, extent, along, ?_⟩
        have moved : ∀ x, x - segmentLength math leg - (distance - segmentLength math leg) =
            x - distance := by
          intro x
          ring
        rcases near with ⟨stop, room, walked⟩ | ⟨start, begun, room, walked⟩
        · refine .inl ⟨stop + segmentLength math leg, by linarith, ?_⟩
          intro x hx
          rw [if_neg (by linarith [hx.1]), walked _ ⟨by linarith [hx.1], by linarith [hx.2]⟩, moved]
        · refine .inr ⟨start + segmentLength math leg, by linarith, by linarith, ?_⟩
          intro x hx
          rw [if_neg (by linarith [hx.1]), walked _ ⟨by linarith [hx.1], by linarith [hx.2]⟩, moved]

omit later in
theorem walkLegs_rate {math : Libm ℝ} {speed : ℝ} {legs : List (EnuPoint × EnuPoint)} {distance : ℝ}
    (nonneg : 0 ≤ distance) (inside : distance < (legs.map (segmentLength math)).sum) (beyond : Motion ℝ) :
    ∃ leg ∈ legs, 0 < segmentLength math leg ∧ ∃ along,
      walkLegs math speed legs distance = some (alongLeg math speed leg along) ∧
      ∃ side : Side, (side = .arriving → 0 < distance) ∧
        ∀ axis, side.Rate (fun x => ((walkLegs math speed legs x).getD beyond).place axis)
          (legOn math axis leg).slope distance := by
  obtain ⟨leg, member, extent, along, near⟩ := @walkLegs_near math speed legs distance nonneg inside
  have found : ∃ side : Side, (side = .arriving → 0 < distance) ∧
      ∀ᶠ x in 𝓝[side.times distance] distance,
        walkLegs math speed legs x = some (alongLeg math speed leg (along + (x - distance))) := by
    rcases near with ⟨stop, room, walked⟩ | ⟨start, begun, room, walked⟩
    · exact ⟨.departing, Side.departs, eventually_of_mem (near_departing room) walked⟩
    · exact ⟨.arriving, fun _ => begun.trans_lt room, eventually_of_mem (near_arriving room) walked⟩
  obtain ⟨side, begun, walked⟩ := found
  have here := walked.self_of_nhdsWithin (side.mem_times distance)
  rw [sub_self, add_zero] at here
  refine ⟨leg, member, extent, along, here, side, begun, ?_⟩
  intro axis
  apply Side.Rate.of_affine
  filter_upwards [walked] with x onward
  rw [here, onward, Option.getD_some, Option.getD_some, alongLeg_place, alongLeg_place, Piece.value_eq,
    Piece.value_eq]
  ring

omit later in
theorem legOn_slope (leg : EnuPoint × EnuPoint) (extent : 0 < segmentLength realLibm leg) :
    (legOn realLibm .east leg).slope = Real.sin (realLibm.atan2
        (leg.2.eastM.number - leg.1.eastM.number) (leg.2.northM.number - leg.1.northM.number)) ∧
      (legOn realLibm .north leg).slope = Real.cos (realLibm.atan2
        (leg.2.eastM.number - leg.1.eastM.number) (leg.2.northM.number - leg.1.northM.number)) := by
  have norm : ‖(⟨leg.2.northM.number - leg.1.northM.number,
      leg.2.eastM.number - leg.1.eastM.number⟩ : ℂ)‖ = segmentLength realLibm leg := by
    rw [Complex.norm_eq_sqrt_sq_add_sq, add_comm]
    rfl
  have apart : (⟨leg.2.northM.number - leg.1.northM.number,
      leg.2.eastM.number - leg.1.eastM.number⟩ : ℂ) ≠ 0 := by
    rw [← norm_pos_iff, norm]
    exact extent
  unfold realLibm
  dsimp only
  rw [Complex.sin_arg, Complex.cos_arg apart, norm]
  exact ⟨rfl, rfl⟩

theorem sampleWaypoints_flies (valid : ValidLoop config) :
    Flies (fun time => sampleWaypoints realLibm config time instanceIndex) seconds := by
  have fast : (0 : ℝ) < config.speedMps.number := finitePositive_number valid.speed
  have loop := valid.length_pos
  have inside := travelled_mem loop fast later instanceIndex
  obtain ⟨front, sampled⟩ := sampleWaypoints_eq realLibm valid.speed valid.enough loop
  obtain ⟨leg, _, extent, along, here, side, begun, changes⟩ :=
    @walkLegs_rate realLibm config.speedMps.number _ _ inside.1 inside.2
      (front.hold config.speedMps.number)
  have current : sampleWaypoints realLibm config seconds instanceIndex =
      alongLeg realLibm config.speedMps.number leg along := by
    rw [sampled, here, Option.getD_some]
  have moves : ∀ axis, side.Rate
      (fun time => (sampleWaypoints realLibm config time instanceIndex).place axis)
      ((legOn realLibm axis leg).slope * config.speedMps.number) seconds := by
    intro axis
    simp only [sampled]
    exact travelled_rate later instanceIndex loop fast begun (changes axis)
  obtain ⟨east, north⟩ := legOn_slope leg extent
  have small : |realLibm.atan2 (leg.2.eastM.number - leg.1.eastM.number)
      (leg.2.northM.number - leg.1.northM.number)| ≤ 7 := by
    have turn := Complex.abs_arg_le_pi (⟨leg.2.northM.number - leg.1.northM.number,
      leg.2.eastM.number - leg.1.eastM.number⟩ : ℂ)
    have pi := Real.pi_lt_d2
    unfold realLibm
    dsimp only
    linarith
  have toward : (alongLeg realLibm config.speedMps.number leg along).Toward _ :=
    toward_of_near rfl (angle_near small)
  apply flies_toward side
  · rw [current]
    exact fast.le
  · rw [current]
    exact toward
  · rw [current, ← east, mul_comm]
    exact moves .east
  · rw [current, ← north, mul_comm]
    exact moves .north
  · have climbs : (alongLeg realLibm config.speedMps.number leg along).verticalSpeedMps =
        (legOn realLibm .up leg).slope * config.speedMps.number := by
      unfold alongLeg Piece.slope legOn EnuPoint.place
      ring
    rw [current, climbs]
    exact moves .up

/-! All kinds of trajectory. -/

theorem motionAt_flies (valid : config.valid = true)
    (airborne : config.type = .takeoffCruiseLand →
      (motionAt realLibm config seconds instanceIndex).airborne = true) :
    Flies (fun time => motionAt realLibm config time instanceIndex) seconds := by
  have checks := valid
  unfold TrajectoryConfig.valid at checks
  unfold motionAt at airborne ⊢
  cases kind : config.type with
  | hover => exact flies_still rfl rfl seconds
  | line =>
    rw [kind] at checks
    simp only [Bool.and_eq_true] at checks
    obtain ⟨⟨⟨⟨⟨size, speed⟩, _⟩, finite⟩, above⟩, below⟩ := checks
    have heading : (config.headingDeg.number : ℝ) ∈ Set.Ico 0 360 := by
      rw [Datum.eq_finite_of_isFinite finite] at above below
      rw [Datum.atMost_finite, decide_eq_true_eq] at above
      rw [Datum.less_finite, decide_eq_true_eq] at below
      unfold Float32Bits.number
      exact ⟨by exact_mod_cast above, by exact_mod_cast below⟩
    exact sampleLine_flies later instanceIndex speed size heading
  | circle =>
    rw [kind] at checks
    simp only [Bool.and_eq_true] at checks
    exact sampleCircle_flies later instanceIndex checks.1.2 checks.1.1
  | rectangle =>
    rw [kind] at checks
    simp only [Bool.and_eq_true] at checks
    exact sampleRectangle_flies later instanceIndex checks.1.2 checks.1.1.1 checks.1.1.2
  | waypointLoop => exact sampleWaypoints_flies later instanceIndex (validLoop kind valid)
  | takeoffCruiseLand =>
    rw [kind] at checks airborne
    simp only [Bool.and_eq_true] at checks
    exact sampleMission_flies later instanceIndex checks.1 checks.2 (airborne rfl)
  | other raw unknown =>
    rw [kind] at checks
    exact absurd checks Bool.false_ne_true

end

/-- The velocity that a report gives, the heading clockwise from the north. -/
noncomputable def FlightState.velocity (state : FlightState (Datum ℝ)) : Axis → ℝ
  | .east => state.horizontalSpeedMps.value * Real.sin (state.headingDeg.value * Real.pi / 180)
  | .north => state.horizontalSpeedMps.value * Real.cos (state.headingDeg.value * Real.pi / 180)
  | .up => state.verticalSpeedMps.value

theorem flightState_velocity (site : GeoPoint ℝ) (motion : Motion ℝ) (elapsedMs : UInt32) :
    (flightState realLibm site motion elapsedMs).velocity = motion.velocity := by
  obtain ⟨sin, cos⟩ := normalizeHeading_direction motion.headingDeg
  funext axis
  cases axis with
  | east => exact congrArg (motion.horizontalSpeedMps * ·) sin
  | north => exact congrArg (motion.horizontalSpeedMps * ·) cos
  | up => rfl

/-- The velocity in a sample is that of the flight whose position it gives: on arrival at its time or on
departure from it, the position changes so. A mission waits on the ground for a moment, where it reports no
speed. -/
theorem samples_fly {config : TrajectoryConfig} (valid : config.valid = true)
    (engine : TrajectoryEngine ℝ) (instanceIndex : UInt16) (elapsedMs : UInt32)
    (airborne : config.type = .takeoffCruiseLand →
      (engine.sample realLibm config instanceIndex elapsedMs).1.airborne = true) :
    let state := (engine.sample realLibm config instanceIndex elapsedMs).1
    let seconds : ℝ := (engine.extendElapsed instanceIndex elapsedMs).1.toNat / 1000
    let flight : ℝ → Motion ℝ := fun time => motionAt realLibm config time instanceIndex
    state = flightState realLibm engine.siteCenter (flight seconds) elapsedMs ∧
      ∃ side : Side, ∀ axis, ∃ rate,
        side.Rate (fun time => (flight time).place axis) rate seconds ∧
          |rate - state.velocity axis| ≤ state.horizontalSpeedMps.value * axis.slack := by
  have flies := motionAt_flies (seconds_nonneg (engine.extendElapsed instanceIndex elapsedMs).1.toNat)
    instanceIndex valid airborne
  obtain ⟨side, changes⟩ := flies
  refine ⟨engine.sample_state realLibm config instanceIndex elapsedMs, side, ?_⟩
  intro axis
  dsimp only
  rw [TrajectoryEngine.sample_state, flightState_velocity]
  exact changes axis

/-- Up 20 m at 5 m/s, two seconds there, and down again. -/
def shortMission : TrajectoryConfig where
  type := .takeoffCruiseLand
  altitudeM := ⟨0x41a00000⟩
  verticalSpeedMps := ⟨0x40a00000⟩
  cruiseTimeMs := 2000

theorem shortMission_climbs : (sampleMission shortMission (2 : ℝ) 0).airborne = true := by
  have high : (shortMission.altitudeM.number : ℝ) = 20 := by
    have value : shortMission.altitudeM.datum.value = 20 := by decide +kernel
    unfold Float32Bits.number
    rw [value]
    norm_num
  have speed : (shortMission.verticalSpeedMps.number : ℝ) = 5 := by
    have value : shortMission.verticalSpeedMps.datum.value = 5 := by decide +kernel
    unfold Float32Bits.number
    rw [value]
    norm_num
  have phase : positivePhase (2 : ℝ) (2 * 4 + 2) 0 = 2 := by
    have turned := @fmod_turns ℝ _ _ _ _ 2 (2 * 4 + 2) 0 ⟨by norm_num, by norm_num⟩
    unfold positivePhase
    rw [if_neg (by norm_num)]
    convert turned using 2
    norm_num
  have climb : (shortMission.altitudeM.number : ℝ) / shortMission.verticalSpeedMps.number = 4 := by
    rw [high, speed]
    norm_num
  have cruise : (shortMission.cruiseTimeMs.toNat : ℝ) / 1000 = 2 := by
    have time : shortMission.cruiseTimeMs.toNat = 2000 := rfl
    rw [time]
    norm_num
  have altitude := ((sampleMission_at (by decide +kernel) (by decide +kernel) two_pos.le climb cruise phase
    two_pos).1 (by norm_num)).1
  rw [sampleMission_airborne, altitude, speed]
  norm_num

def freshEngine : TrajectoryEngine ℝ where
  siteCenter := ⟨0, 0⟩

theorem samples_fly_shortMission :
    let state := (freshEngine.sample realLibm shortMission 0 2000).1
    ∃ side : Side, ∀ axis, ∃ rate,
      side.Rate (fun time => (motionAt realLibm shortMission time 0).place axis) rate ((2000 : Nat) / 1000) ∧
        |rate - state.velocity axis| ≤ state.horizontalSpeedMps.value * axis.slack := by
  have climbing : (freshEngine.sample realLibm shortMission 0 2000).1.airborne = true := by
    have time : ((2000 : Nat) : ℝ) / 1000 = 2 := by norm_num
    show (sampleMission shortMission (((2000 : Nat) : ℝ) / 1000) 0).airborne = true
    rw [time]
    exact shortMission_climbs
  exact (samples_fly (by decide +kernel) freshEngine 0 2000 (fun _ => climbing)).2

end RidFirmware
