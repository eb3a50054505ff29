import RidFirmware.Lib.Steady
import RidFirmware.Trajectory.Envelope

/-! Lines, rectangles and missions stay within their bounds, and no turn, corner or new period is a jump. -/

namespace RidFirmware
open Lib Lib.Ieee Lib.Path

section
variable {K : Type} [Field K] [LinearOrder K] [IsStrictOrderedRing K]

/-- The distance of an aircraft from the site, on the ground. -/
def Motion.AtDistance (motion : Motion K) (distance : K) : Prop :=
  0 ≤ distance ∧ distance ^ 2 = motion.eastM ^ 2 + motion.northM ^ 2

theorem lineDistance_steady (length : K) :
    SteadyOn (Set.Icc 0 (2 * length)) 1 (lineDistance length) := by
  apply @SteadyOn.join K _ _ _ _ _ 0 length
  · apply SteadyOn.of_affine 0 1 abs_one.le
    intro x hx
    unfold lineDistance
    rw [if_neg (not_lt.mpr hx.2)]
    ring
  · apply SteadyOn.of_affine (2 * length) (-1) (by rw [abs_neg, abs_one])
    intro x hx
    unfold lineDistance
    split_ifs <;> linarith [hx.1]

section
variable {width height : K} (wide : 0 < width) (high : 0 < height)
include wide high

theorem rectangleEast_steady :
    SteadyOn (Set.Icc 0 (2 * (width + height))) 1 (rectangleEast width height) := by
  have south : SteadyOn (Set.Icc 0 width) 1 (rectangleEast width height) := by
    apply SteadyOn.of_affine (-width / 2) 1 abs_one.le
    intro x hx
    unfold rectangleEast
    split_ifs <;> linarith [hx.2]
  have east : SteadyOn (Set.Icc width (width + height)) 1 (rectangleEast width height) := by
    apply SteadyOn.of_constant (width / 2) zero_le_one
    intro x hx
    unfold rectangleEast
    split_ifs <;> linarith [hx.1, hx.2]
  have north : SteadyOn (Set.Icc (width + height) (2 * width + height)) 1 (rectangleEast width height) := by
    apply SteadyOn.of_affine (width / 2 + width + height) (-1) (by rw [abs_neg, abs_one])
    intro x hx
    unfold rectangleEast
    split_ifs <;> linarith [hx.1, hx.2]
  have west : SteadyOn (Set.Icc (2 * width + height) (2 * (width + height))) 1
      (rectangleEast width height) := by
    apply SteadyOn.of_constant (-width / 2) zero_le_one
    intro x hx
    unfold rectangleEast
    split_ifs <;> linarith [hx.1]
  exact ((south.join east).join north).join west

theorem rectangleNorth_steady :
    SteadyOn (Set.Icc 0 (2 * (width + height))) 1 (rectangleNorth width height) := by
  have south : SteadyOn (Set.Icc 0 width) 1 (rectangleNorth width height) := by
    apply SteadyOn.of_constant (-height / 2) zero_le_one
    intro x hx
    unfold rectangleNorth
    split_ifs <;> linarith [hx.2]
  have east : SteadyOn (Set.Icc width (width + height)) 1 (rectangleNorth width height) := by
    apply SteadyOn.of_affine (-height / 2 - width) 1 abs_one.le
    intro x hx
    unfold rectangleNorth
    split_ifs <;> linarith [hx.1, hx.2]
  have north : SteadyOn (Set.Icc (width + height) (2 * width + height)) 1 (rectangleNorth width height) := by
    apply SteadyOn.of_constant (height / 2) zero_le_one
    intro x hx
    unfold rectangleNorth
    split_ifs <;> linarith [hx.1, hx.2]
  have west : SteadyOn (Set.Icc (2 * width + height) (2 * (width + height))) 1
      (rectangleNorth width height) := by
    apply SteadyOn.of_affine (height / 2 + 2 * width + height) (-1) (by rw [abs_neg, abs_one])
    intro x hx
    unfold rectangleNorth
    split_ifs <;> linarith [hx.1]
  exact ((south.join east).join north).join west

end

theorem missionAltitude_steady {altitude verticalSpeed climbTime cruiseTime : K} (fast : 0 ≤ verticalSpeed)
    (cruise : 0 ≤ cruiseTime) (top : climbTime * verticalSpeed = altitude) :
    SteadyOn (Set.Icc 0 (2 * climbTime + cruiseTime)) verticalSpeed
      (missionAltitude altitude verticalSpeed climbTime cruiseTime) := by
  have up : SteadyOn (Set.Icc 0 climbTime) verticalSpeed
      (missionAltitude altitude verticalSpeed climbTime cruiseTime) := by
    apply SteadyOn.of_affine 0 verticalSpeed (abs_of_nonneg fast).le
    intro x hx
    unfold missionAltitude
    by_cases climbing : x < climbTime
    · rw [if_pos climbing, zero_add]
    · have reached : x = climbTime := le_antisymm hx.2 (not_lt.mp climbing)
      rw [if_neg climbing, reached, top]
      split_ifs with cruising
      · rw [zero_add]
      · have none : cruiseTime = 0 := by linarith
        rw [none]
        ring
  have level : SteadyOn (Set.Icc climbTime (climbTime + cruiseTime)) verticalSpeed
      (missionAltitude altitude verticalSpeed climbTime cruiseTime) := by
    apply SteadyOn.of_constant altitude fast
    intro x hx
    unfold missionAltitude
    rw [if_neg (not_lt.mpr hx.1)]
    split_ifs with cruising
    · rfl
    · have gone : x - climbTime - cruiseTime = 0 := by linarith [hx.2]
      rw [gone, zero_mul, sub_zero]
  have down : SteadyOn (Set.Icc (climbTime + cruiseTime) (2 * climbTime + cruiseTime)) verticalSpeed
      (missionAltitude altitude verticalSpeed climbTime cruiseTime) := by
    apply SteadyOn.of_affine (altitude + (climbTime + cruiseTime) * verticalSpeed) (-verticalSpeed)
      (by rw [abs_neg, abs_of_nonneg fast])
    intro x hx
    unfold missionAltitude
    rw [if_neg (not_lt.mpr (by linarith [hx.1])), if_neg (not_lt.mpr hx.1)]
    ring
  exact (up.join level).join down

/-! Each ends where it began. -/

theorem lineDistance_closed {length : K} (long : 0 < length) :
    lineDistance length (2 * length) = lineDistance length 0 := by
  unfold lineDistance
  rw [if_pos (by linarith), if_neg (by linarith), sub_self]

theorem rectangle_closed {width height : K} (wide : 0 < width) (high : 0 < height) :
    rectangleEast width height (2 * (width + height)) = rectangleEast width height 0 ∧
      rectangleNorth width height (2 * (width + height)) = rectangleNorth width height 0 := by
  unfold rectangleEast rectangleNorth
  rw [if_neg (by linarith), if_neg (by linarith), if_neg (by linarith), if_pos wide,
    if_neg (by linarith), if_neg (by linarith), if_neg (by linarith), if_pos wide]
  exact ⟨by ring, by ring⟩

theorem missionAltitude_closed {altitude verticalSpeed climbTime cruiseTime : K} (climb : 0 < climbTime)
    (cruise : 0 ≤ cruiseTime) (top : climbTime * verticalSpeed = altitude) :
    missionAltitude altitude verticalSpeed climbTime cruiseTime (2 * climbTime + cruiseTime) =
      missionAltitude altitude verticalSpeed climbTime cruiseTime 0 := by
  unfold missionAltitude
  rw [if_neg (by linarith), if_neg (by linarith), if_pos climb, zero_mul, ← top]
  ring

/-! The flights. -/

section
variable [FloorRing K]

theorem positivePhase_steady {period rate : K} {f : K → K} (positive : 0 < period)
    (steady : SteadyOn (Set.Icc 0 period) rate f) (closed : f period = f 0) (instanceIndex : UInt16) :
    SteadyOn (Set.Ici 0) rate (fun seconds => f (positivePhase seconds period instanceIndex)) := by
  obtain ⟨offset, ahead, phase⟩ := exists_offset positive instanceIndex
  simp only [phase]
  exact steady.periodic positive ahead closed

theorem travelled_steady {length speed rate : K} {f : K → K} (long : 0 < length) (fast : 0 < speed)
    (steady : SteadyOn (Set.Icc 0 length) rate f) (closed : f length = f 0) (instanceIndex : UInt16) :
    SteadyOn (Set.Ici 0) (rate * speed)
      (fun seconds => f (positivePhase seconds (length / speed) instanceIndex * speed)) := by
  have whole : length / speed * speed = length := div_mul_cancel₀ _ fast.ne'
  have scaled : SteadyOn (Set.Icc 0 (length / speed)) (rate * speed) (fun x => f (x * speed)) := by
    apply SteadyOn.comp_mul fast.le
    rwa [whole, zero_mul]
  apply positivePhase_steady (div_pos long fast) scaled
  rw [whole, zero_mul, closed]

theorem steady_of_travelled {length speed rate near slope : K} {f : K → K} (fast : 0 < speed)
    {instanceIndex : UInt16}
    (steady : SteadyOn (Set.Ici 0) rate
      (fun seconds => f (positivePhase seconds (length / speed) instanceIndex * speed)))
    (started : 0 ≤ near) (ends : near < length) (ending : SteadyOn (Set.Icc near length) slope f) :
    ∃ rate, SteadyOn (Set.Icc 0 length) rate f ∧ f length = f 0 := by
  have cancel : ∀ x, x / speed * speed = x := fun x => div_mul_cancel₀ x fast.ne'
  obtain ⟨offset, ahead, phase⟩ :=
    exists_offset (div_pos (started.trans_lt ends) fast) instanceIndex
  simp only [phase] at steady
  have timed : SteadyOn (Set.Icc (near / speed) (length / speed)) (slope * speed) (fun x => f (x * speed)) := by
    apply SteadyOn.comp_mul fast.le
    rwa [cancel, cancel]
  obtain ⟨within, closed⟩ := SteadyOn.of_periodic ahead steady (div_nonneg started fast.le)
    (div_lt_div_of_pos_right ends fast) timed
  rw [cancel, zero_mul] at closed
  refine ⟨rate * speed⁻¹, ?_, closed⟩
  have back : SteadyOn (Set.Icc 0 length) (rate * speed⁻¹) (fun x => f (x * speed⁻¹ * speed)) := by
    apply @SteadyOn.comp_mul K _ _ rate (fun x => f (x * speed)) _ 0 length _ (inv_nonneg.mpr fast.le)
    rwa [zero_mul, ← div_eq_mul_inv]
  apply back.congr
  intro x _
  rw [inv_mul_cancel_right₀ fast.ne']

variable (math : Libm K) {config : TrajectoryConfig}

theorem sampleLine_steady (circle : ∀ angle, math.sin angle ^ 2 + math.cos angle ^ 2 = 1)
    (speed : finitePositive config.speedMps = true) (size : finitePositive config.primarySizeM = true)
    (instanceIndex : UInt16) :
    ∃ distance : K → K, SteadyOn (Set.Ici 0) config.speedMps.number distance ∧ ∀ seconds, 0 ≤ seconds →
      (sampleLine math config seconds instanceIndex).AtDistance (distance seconds) ∧
        distance seconds ≤ config.primarySizeM.number := by
  have fast : (0 : K) < config.speedMps.number := finitePositive_number speed
  have long : (0 : K) < 2 * config.primarySizeM.number := mul_pos two_pos (finitePositive_number size)
  have closed := lineDistance_closed (finitePositive_number size : (0 : K) < config.primarySizeM.number)
  have steady := travelled_steady long fast (lineDistance_steady config.primarySizeM.number) closed
    instanceIndex
  rw [one_mul] at steady
  refine ⟨_, steady, ?_⟩
  intro seconds later
  have inside := lineDistance_mem (Set.Ico_subset_Icc_self (travelled_mem long fast later instanceIndex))
  refine ⟨⟨inside.1, ?_⟩, inside.2⟩
  obtain ⟨east, north⟩ := sampleLine_eq math speed seconds instanceIndex
  rw [east, north, mul_pow, mul_pow, ← mul_add, circle, mul_one]

theorem sampleRectangle_steady (speed : finitePositive config.speedMps = true)
    (width : finitePositive config.primarySizeM = true)
    (height : finitePositive config.secondarySizeM = true) (instanceIndex : UInt16) :
    SteadyOn (Set.Ici (0 : K)) config.speedMps.number
        (fun seconds => (sampleRectangle config seconds instanceIndex).eastM) ∧
      SteadyOn (Set.Ici (0 : K)) config.speedMps.number
        (fun seconds => (sampleRectangle config seconds instanceIndex).northM) := by
  have fast : (0 : K) < config.speedMps.number := finitePositive_number speed
  have wide : (0 : K) < config.primarySizeM.number := finitePositive_number width
  have high : (0 : K) < config.secondarySizeM.number := finitePositive_number height
  have around : (0 : K) < 2 * (config.primarySizeM.number + config.secondarySizeM.number) := by linarith
  obtain ⟨east, north⟩ := rectangle_closed wide high
  have eastSteady := travelled_steady around fast (rectangleEast_steady wide high) east instanceIndex
  have northSteady := travelled_steady around fast (rectangleNorth_steady wide high) north instanceIndex
  rw [one_mul] at eastSteady northSteady
  apply And.intro
  · apply eastSteady.congr
    intro seconds _
    exact (sampleRectangle_eq speed seconds instanceIndex).1
  · apply northSteady.congr
    intro seconds _
    exact (sampleRectangle_eq speed seconds instanceIndex).2

theorem sampleMission_steady (altitude : finitePositive config.altitudeM = true)
    (climbs : finitePositive config.verticalSpeedMps = true) (instanceIndex : UInt16) :
    SteadyOn (Set.Ici (0 : K)) config.verticalSpeedMps.number
      (fun seconds => (sampleMission config seconds instanceIndex).altitudeM) := by
  have fast : (0 : K) < config.verticalSpeedMps.number := finitePositive_number climbs
  have climb : (0 : K) < config.altitudeM.number / config.verticalSpeedMps.number :=
    climbTime_pos altitude climbs
  have cruise : (0 : K) ≤ (config.cruiseTimeMs.toNat : K) / 1000 := seconds_nonneg _
  have top : config.altitudeM.number / config.verticalSpeedMps.number * config.verticalSpeedMps.number =
      (config.altitudeM.number : K) := div_mul_cancel₀ _ fast.ne'
  have steady := positivePhase_steady (missionPeriod_pos altitude climbs)
    (missionAltitude_steady fast.le cruise top) (missionAltitude_closed climb cruise top) instanceIndex
  apply steady.congr
  intro seconds later
  exact (sampleMission_eq altitude climbs later instanceIndex).1

omit [IsStrictOrderedRing K] in
theorem sampleMission_airborne (seconds : K) (instanceIndex : UInt16) :
    (sampleMission config seconds instanceIndex).airborne = true ↔
      0 < (sampleMission config seconds instanceIndex).altitudeM := by
  unfold sampleMission
  dsimp only
  split_ifs <;> simp [Motion.rest]

/-- Lines, rectangles and missions stay within their bounds and never jump: at all times and for all
instances a line keeps to its length, a rectangle to its sides and a mission to its altitude, and none
moves faster than its speed. -/
theorem flights_unbroken (circle : ∀ angle, math.sin angle ^ 2 + math.cos angle ^ 2 = 1)
    (accepted : config.valid = true) (instanceIndex : UInt16) :
    (config.type = .line → ∃ distance : K → K,
      SteadyOn (Set.Ici 0) config.speedMps.number distance ∧
      ∀ seconds, 0 ≤ seconds →
        (motionAt math config seconds instanceIndex).AtDistance (distance seconds) ∧
          distance seconds ≤ config.primarySizeM.number) ∧
    (config.type = .rectangle →
      SteadyOn (Set.Ici 0) config.speedMps.number
        (fun seconds => (motionAt math config seconds instanceIndex).eastM) ∧
      SteadyOn (Set.Ici 0) config.speedMps.number
        (fun seconds => (motionAt math config seconds instanceIndex).northM) ∧
      ∀ seconds, 0 ≤ seconds → (motionAt math config seconds instanceIndex).OnSides
        config.primarySizeM.number config.secondarySizeM.number) ∧
    (config.type = .takeoffCruiseLand →
      SteadyOn (Set.Ici 0) config.verticalSpeedMps.number
        (fun seconds => (motionAt math config seconds instanceIndex).altitudeM) ∧
      ∀ seconds, 0 ≤ seconds →
        (motionAt math config seconds instanceIndex).altitudeM ∈ Set.Icc 0 config.altitudeM.number ∧
          ((motionAt math config seconds instanceIndex).airborne = true ↔
            0 < (motionAt math config seconds instanceIndex).altitudeM)) := by
  unfold TrajectoryConfig.valid at accepted
  unfold motionAt
  refine ⟨?line, ?rectangle, ?mission⟩
  case line =>
    intro kind
    rw [kind] at accepted ⊢
    simp only [Bool.and_eq_true] at accepted
    exact sampleLine_steady math circle accepted.1.1.1.1.2 accepted.1.1.1.1.1 instanceIndex
  case rectangle =>
    intro kind
    rw [kind] at accepted ⊢
    simp only [Bool.and_eq_true] at accepted
    obtain ⟨⟨⟨width, height⟩, speed⟩, _⟩ := accepted
    obtain ⟨east, north⟩ := @sampleRectangle_steady K _ _ _ _ config speed width height instanceIndex
    exact ⟨east, north, fun seconds later =>
      sampleRectangle_onSides speed width height later instanceIndex⟩
  case mission =>
    intro kind
    rw [kind] at accepted ⊢
    simp only [Bool.and_eq_true] at accepted
    obtain ⟨altitude, climbs⟩ := accepted
    apply And.intro (sampleMission_steady altitude climbs instanceIndex)
    intro seconds later
    obtain ⟨_, _, _, between, _⟩ := sampleMission_between altitude climbs later instanceIndex
    exact ⟨between, sampleMission_airborne seconds instanceIndex⟩

end

end

/-- A line of 100 m to the east, flown at 10 m/s and at a height of 50 m. -/
def eastLine : TrajectoryConfig where
  type := .line
  primarySizeM := ⟨0x42c80000⟩
  speedMps := ⟨0x41200000⟩
  headingDeg := ⟨0x42b40000⟩
  altitudeM := ⟨0x42480000⟩

theorem flights_unbroken_eastLine :
    ∃ distance : ℝ → ℝ, SteadyOn (Set.Ici 0) eastLine.speedMps.number distance ∧
      ∀ seconds, 0 ≤ seconds →
        (motionAt realLibm eastLine seconds 7).AtDistance (distance seconds) ∧
          distance seconds ≤ eastLine.primarySizeM.number :=
  (flights_unbroken realLibm Real.sin_sq_add_cos_sq (by decide +kernel) 7).1 rfl

end RidFirmware
