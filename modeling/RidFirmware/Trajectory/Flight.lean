import RidFirmware.Trajectory.Motion

/-! Where the flights of each kind of trajectory lead, and which of their extremes they reach. -/

namespace RidFirmware
open Lib Lib.Ieee Lib.Path

section
variable {K : Type} [Field K] [LinearOrder K] [IsStrictOrderedRing K]

theorem finitePositive_number {x : Float32Bits} (positive : finitePositive x = true) :
    (0 : K) < x.number := by
  unfold finitePositive at positive
  rw [Bool.and_eq_true] at positive
  obtain ⟨finite, above⟩ := positive
  rw [Datum.eq_finite_of_isFinite finite, Datum.less_finite, decide_eq_true_eq] at above
  exact Rat.cast_pos.mpr above

theorem finiteNonnegative_number {x : Float32Bits} (nonneg : finiteNonnegative x = true) :
    (0 : K) ≤ x.number := by
  unfold finiteNonnegative at nonneg
  rw [Bool.and_eq_true] at nonneg
  obtain ⟨finite, above⟩ := nonneg
  rw [Datum.eq_finite_of_isFinite finite, Datum.atMost_finite, decide_eq_true_eq] at above
  exact Rat.cast_nonneg.mpr above

theorem mul_mem_uIcc {x length : K} (inside : x ∈ Set.Icc 0 length) (factor : K) :
    x * factor ∈ Set.uIcc 0 (length * factor) := by
  have scaled := affine_mem_uIcc 0 factor (Set.Icc_subset_uIcc inside)
  simpa only [zero_add, zero_mul] using scaled

variable [FloorRing K] (math : Libm K) {config : TrajectoryConfig}

theorem travelled_mem {length speed seconds : K} (long : 0 < length) (fast : 0 < speed) (later : 0 ≤ seconds)
    (instanceIndex : UInt16) :
    positivePhase seconds (length / speed) instanceIndex * speed ∈ Set.Ico 0 length := by
  have inside := positivePhase_mem later (div_pos long fast) instanceIndex
  exact ⟨mul_nonneg inside.1 fast.le, (lt_div_iff₀ fast).mp inside.2⟩

theorem exists_travelled {distance length speed : K} (inside : distance ∈ Set.Ico 0 length)
    (fast : 0 < speed) (instanceIndex : UInt16) :
    ∃ seconds, 0 ≤ seconds ∧ positivePhase seconds (length / speed) instanceIndex * speed = distance := by
  have phase : distance / speed ∈ Set.Ico 0 (length / speed) :=
    ⟨div_nonneg inside.1 fast.le, div_lt_div_of_pos_right inside.2 fast⟩
  obtain ⟨seconds, later, reached⟩ := exists_positivePhase phase instanceIndex
  refine ⟨seconds, later, ?_⟩
  rw [reached, div_mul_cancel₀ _ fast.ne']

/-! Lines. -/

/-- How far out a line is, by the way behind the aircraft. -/
def lineDistance (length travelled : K) : K :=
  if length < travelled then 2 * length - travelled else travelled

omit [FloorRing K] in
theorem lineDistance_mem {length travelled : K} (inside : travelled ∈ Set.Icc 0 (2 * length)) :
    lineDistance length travelled ∈ Set.Icc 0 length := by
  unfold lineDistance
  split_ifs with returning
  · exact ⟨by linarith [inside.2], by linarith⟩
  · exact ⟨inside.1, not_lt.mp returning⟩

section
variable (speed : finitePositive config.speedMps = true) (size : finitePositive config.primarySizeM = true)
include speed

theorem sampleLine_eq (seconds : K) (instanceIndex : UInt16) :
    let distance := lineDistance config.primarySizeM.number (positivePhase seconds
      (2 * config.primarySizeM.number / config.speedMps.number) instanceIndex * config.speedMps.number)
    (sampleLine math config seconds instanceIndex).eastM =
        distance * math.sin (config.headingDeg.number * kPi / 180) ∧
      (sampleLine math config seconds instanceIndex).northM =
        distance * math.cos (config.headingDeg.number * kPi / 180) := by
  unfold sampleLine lineDistance
  dsimp only
  rw [if_pos (finitePositive_number speed)]
  simp only [decide_eq_true_eq, and_self]

include size

theorem sampleLine_between {seconds : K} (later : 0 ≤ seconds) (instanceIndex : UInt16) :
    (sampleLine math config seconds instanceIndex).eastM ∈
        Set.uIcc 0 (config.primarySizeM.number * math.sin (config.headingDeg.number * kPi / 180)) ∧
      (sampleLine math config seconds instanceIndex).northM ∈
        Set.uIcc 0 (config.primarySizeM.number * math.cos (config.headingDeg.number * kPi / 180)) := by
  have fast : (0 : K) < config.speedMps.number := finitePositive_number speed
  have long : (0 : K) < 2 * config.primarySizeM.number := mul_pos two_pos (finitePositive_number size)
  obtain ⟨east, north⟩ := sampleLine_eq math speed seconds instanceIndex
  have position := lineDistance_mem (Set.Ico_subset_Icc_self (travelled_mem long fast later instanceIndex))
  rw [east, north]
  exact ⟨mul_mem_uIcc position _, mul_mem_uIcc position _⟩

theorem sampleLine_turns (instanceIndex : UInt16) :
    ∃ seconds : K, 0 ≤ seconds ∧
      (sampleLine math config seconds instanceIndex).eastM =
        config.primarySizeM.number * math.sin (config.headingDeg.number * kPi / 180) ∧
      (sampleLine math config seconds instanceIndex).northM =
        config.primarySizeM.number * math.cos (config.headingDeg.number * kPi / 180) := by
  have fast : (0 : K) < config.speedMps.number := finitePositive_number speed
  have long : (0 : K) < config.primarySizeM.number := finitePositive_number size
  have inside : config.primarySizeM.number ∈ Set.Ico (0 : K) (2 * config.primarySizeM.number) :=
    ⟨long.le, by linarith⟩
  obtain ⟨seconds, later, reached⟩ := exists_travelled inside fast instanceIndex
  obtain ⟨east, north⟩ := sampleLine_eq math speed seconds instanceIndex
  refine ⟨seconds, later, ?_⟩
  rw [east, north, reached]
  unfold lineDistance
  rw [if_neg (lt_irrefl _)]
  exact ⟨rfl, rfl⟩

end

/-! Rectangles. -/

/-- Where on a rectangle an aircraft is, by the way behind it. -/
def rectangleEast (width height distance : K) : K :=
  if distance < width then -width / 2 + distance
  else if distance - width < height then width / 2
  else if distance - width - height < width then width / 2 - (distance - width - height)
  else -width / 2

def rectangleNorth (width height distance : K) : K :=
  if distance < width then -height / 2
  else if distance - width < height then -height / 2 + (distance - width)
  else if distance - width - height < width then height / 2
  else height / 2 - (distance - width - height - width)

def Motion.OnSides (motion : Motion K) (width height : K) : Prop :=
  |motion.eastM| = width / 2 ∧ |motion.northM| ≤ height / 2 ∨
    |motion.eastM| ≤ width / 2 ∧ |motion.northM| = height / 2

section
variable {width height : K} (wide : 0 < width) (high : 0 < height)
include wide high

omit [FloorRing K] in
theorem rectangle_onSides {motion : Motion K} {distance : K}
    (inside : distance ∈ Set.Icc 0 (2 * (width + height)))
    (east : motion.eastM = rectangleEast width height distance)
    (north : motion.northM = rectangleNorth width height distance) : motion.OnSides width height := by
  have west : |-width / 2| = width / 2 := by rw [neg_div, abs_neg, abs_of_pos (half_pos wide)]
  have south : |-height / 2| = height / 2 := by rw [neg_div, abs_neg, abs_of_pos (half_pos high)]
  unfold Motion.OnSides
  rw [east, north]
  unfold rectangleEast rectangleNorth
  split_ifs with first second third
  · exact .inr ⟨abs_le.mpr ⟨by linarith [inside.1], by linarith⟩, south⟩
  · exact .inl ⟨abs_of_pos (half_pos wide), abs_le.mpr ⟨by linarith, by linarith⟩⟩
  · exact .inr ⟨abs_le.mpr ⟨by linarith, by linarith⟩, abs_of_pos (half_pos high)⟩
  · exact .inl ⟨west, abs_le.mpr ⟨by linarith [inside.2], by linarith⟩⟩

end

section
variable (speed : finitePositive config.speedMps = true) (width : finitePositive config.primarySizeM = true)
  (height : finitePositive config.secondarySizeM = true)
include speed

theorem sampleRectangle_eq (seconds : K) (instanceIndex : UInt16) :
    let distance := positivePhase seconds
      (2 * (config.primarySizeM.number + config.secondarySizeM.number) / config.speedMps.number)
      instanceIndex * config.speedMps.number
    (sampleRectangle config seconds instanceIndex).eastM =
        rectangleEast config.primarySizeM.number config.secondarySizeM.number distance ∧
      (sampleRectangle config seconds instanceIndex).northM =
        rectangleNorth config.primarySizeM.number config.secondarySizeM.number distance := by
  unfold sampleRectangle rectangleEast rectangleNorth
  dsimp only
  rw [if_pos (finitePositive_number speed)]
  split_ifs with south east north <;> exact ⟨rfl, rfl⟩

include width height

theorem sampleRectangle_onSides {seconds : K} (later : 0 ≤ seconds) (instanceIndex : UInt16) :
    (sampleRectangle config seconds instanceIndex).OnSides
      config.primarySizeM.number config.secondarySizeM.number := by
  have fast : (0 : K) < config.speedMps.number := finitePositive_number speed
  have wide : (0 : K) < config.primarySizeM.number := finitePositive_number width
  have high : (0 : K) < config.secondarySizeM.number := finitePositive_number height
  have around : (0 : K) < 2 * (config.primarySizeM.number + config.secondarySizeM.number) := by linarith
  obtain ⟨east, north⟩ := sampleRectangle_eq speed seconds instanceIndex
  exact rectangle_onSides wide high
    (Set.Ico_subset_Icc_self (travelled_mem around fast later instanceIndex)) east north

theorem sampleRectangle_between {seconds : K} (later : 0 ≤ seconds) (instanceIndex : UInt16) :
    (sampleRectangle config seconds instanceIndex).eastM ∈
        Set.uIcc (-config.primarySizeM.number / 2) (config.primarySizeM.number / 2) ∧
      (sampleRectangle config seconds instanceIndex).northM ∈
        Set.uIcc (-config.secondarySizeM.number / 2) (config.secondarySizeM.number / 2) := by
  have within : ∀ {x bound : K}, |x| ≤ bound / 2 → x ∈ Set.uIcc (-bound / 2) (bound / 2) := by
    intro x bound near
    rw [neg_div]
    exact Set.Icc_subset_uIcc (abs_le.mp near)
  rcases sampleRectangle_onSides speed width height later instanceIndex with ⟨side, along⟩ | ⟨along, side⟩
  · exact ⟨within side.le, within along⟩
  · exact ⟨within along, within side.le⟩

theorem sampleRectangle_corners (instanceIndex : UInt16) :
    (∃ seconds : K, 0 ≤ seconds ∧
      (sampleRectangle config seconds instanceIndex).eastM = -config.primarySizeM.number / 2 ∧
      (sampleRectangle config seconds instanceIndex).northM = -config.secondarySizeM.number / 2) ∧
    ∃ seconds : K, 0 ≤ seconds ∧
      (sampleRectangle config seconds instanceIndex).eastM = config.primarySizeM.number / 2 ∧
      (sampleRectangle config seconds instanceIndex).northM = config.secondarySizeM.number / 2 := by
  have fast : (0 : K) < config.speedMps.number := finitePositive_number speed
  have wide : (0 : K) < config.primarySizeM.number := finitePositive_number width
  have high : (0 : K) < config.secondarySizeM.number := finitePositive_number height
  apply And.intro
  · have inside : 0 ∈ Set.Ico (0 : K) (2 * (config.primarySizeM.number + config.secondarySizeM.number)) :=
      ⟨le_refl 0, by linarith⟩
    obtain ⟨seconds, later, reached⟩ := exists_travelled inside fast instanceIndex
    obtain ⟨east, north⟩ := sampleRectangle_eq speed seconds instanceIndex
    refine ⟨seconds, later, ?_⟩
    rw [east, north, reached]
    unfold rectangleEast rectangleNorth
    rw [if_pos wide, if_pos wide, add_zero]
    exact ⟨rfl, rfl⟩
  · have inside : config.primarySizeM.number + config.secondarySizeM.number ∈
        Set.Ico (0 : K) (2 * (config.primarySizeM.number + config.secondarySizeM.number)) :=
      ⟨by linarith, by linarith⟩
    obtain ⟨seconds, later, reached⟩ := exists_travelled inside fast instanceIndex
    obtain ⟨east, north⟩ := sampleRectangle_eq speed seconds instanceIndex
    refine ⟨seconds, later, ?_⟩
    rw [east, north, reached]
    unfold rectangleEast rectangleNorth
    rw [if_neg (by linarith), if_neg (by linarith), if_pos (by linarith), if_neg (by linarith),
      if_neg (by linarith), if_pos (by linarith)]
    exact ⟨by ring, rfl⟩

end

/-! Missions. -/

/-- The altitude of a mission, by the time since it began. -/
def missionAltitude (altitude verticalSpeed climbTime cruiseTime phase : K) : K :=
  if phase < climbTime then phase * verticalSpeed
  else if phase < climbTime + cruiseTime then altitude
  else altitude - (phase - climbTime - cruiseTime) * verticalSpeed

omit [FloorRing K] in
theorem missionAltitude_mem {altitude verticalSpeed climbTime cruiseTime phase : K} (high : 0 ≤ altitude)
    (fast : 0 ≤ verticalSpeed) (top : climbTime * verticalSpeed = altitude)
    (inside : phase ∈ Set.Icc 0 (2 * climbTime + cruiseTime)) :
    missionAltitude altitude verticalSpeed climbTime cruiseTime phase ∈ Set.Icc 0 altitude := by
  unfold missionAltitude
  split_ifs with climbing cruising
  · rw [← top]
    exact ⟨mul_nonneg inside.1 fast, mul_le_mul_of_nonneg_right climbing.le fast⟩
  · exact ⟨high, le_refl _⟩
  · have fallen : 0 ≤ (phase - climbTime - cruiseTime) * verticalSpeed :=
      mul_nonneg (by linarith) fast
    have above : (phase - climbTime - cruiseTime) * verticalSpeed ≤ climbTime * verticalSpeed :=
      mul_le_mul_of_nonneg_right (by linarith [inside.2]) fast
    exact ⟨by linarith, by linarith⟩

section
variable (altitude : finitePositive config.altitudeM = true)
  (climbs : finitePositive config.verticalSpeedMps = true)
include altitude climbs

omit [FloorRing K] in
theorem climbTime_pos : (0 : K) < config.altitudeM.number / config.verticalSpeedMps.number :=
  div_pos (finitePositive_number altitude) (finitePositive_number climbs)

omit [FloorRing K] in
theorem missionPeriod_pos : (0 : K) < 2 * (config.altitudeM.number / config.verticalSpeedMps.number) +
    (config.cruiseTimeMs.toNat : K) / 1000 := by
  have climb : (0 : K) < config.altitudeM.number / config.verticalSpeedMps.number :=
    climbTime_pos altitude climbs
  have cruise : (0 : K) ≤ (config.cruiseTimeMs.toNat : K) / 1000 := seconds_nonneg _
  linarith

theorem sampleMission_eq {seconds : K} (later : 0 ≤ seconds) (instanceIndex : UInt16) :
    let climbTime : K := config.altitudeM.number / config.verticalSpeedMps.number
    let cruiseTime : K := (config.cruiseTimeMs.toNat : K) / 1000
    let phase := positivePhase seconds (2 * climbTime + cruiseTime) instanceIndex
    (sampleMission config seconds instanceIndex).altitudeM =
        missionAltitude config.altitudeM.number config.verticalSpeedMps.number climbTime cruiseTime phase ∧
      (sampleMission config seconds instanceIndex).verticalSpeedMps =
        if phase ≤ 0 then 0
        else if phase < climbTime then config.verticalSpeedMps.number
        else if phase < climbTime + cruiseTime then 0
        else -config.verticalSpeedMps.number := by
  have fast : (0 : K) < config.verticalSpeedMps.number := finitePositive_number climbs
  have climb : (0 : K) < config.altitudeM.number / config.verticalSpeedMps.number :=
    climbTime_pos altitude climbs
  have period := @missionPeriod_pos K _ _ _ config altitude climbs
  have inside := positivePhase_mem later period instanceIndex
  unfold sampleMission missionAltitude
  dsimp only
  rw [if_pos fast]
  generalize positivePhase seconds _ instanceIndex = phase at inside
  generalize (config.cruiseTimeMs.toNat : K) / 1000 = cruiseTime at inside period
  generalize (config.altitudeM.number / config.verticalSpeedMps.number : K) = climbTime at *
  by_cases landed : phase ≤ 0
  · have start : phase = 0 := le_antisymm landed inside.1
    rw [if_pos (.inl landed), if_pos landed, start, if_pos climb, zero_mul]
    exact ⟨rfl, rfl⟩
  · rw [if_neg (not_or.mpr ⟨landed, not_le.mpr period⟩), if_neg landed]
    split_ifs <;> exact ⟨rfl, rfl⟩

theorem sampleMission_between {seconds : K} (later : 0 ≤ seconds) (instanceIndex : UInt16) :
    (sampleMission config seconds instanceIndex).eastM = 0 ∧
      (sampleMission config seconds instanceIndex).northM = 0 ∧
      (sampleMission config seconds instanceIndex).horizontalSpeedMps = 0 ∧
      (sampleMission config seconds instanceIndex).altitudeM ∈ Set.Icc 0 (config.altitudeM.number : K) ∧
      ((sampleMission config seconds instanceIndex).verticalSpeedMps = 0 ∨
        (sampleMission config seconds instanceIndex).verticalSpeedMps = config.verticalSpeedMps.number ∨
        (sampleMission config seconds instanceIndex).verticalSpeedMps =
          -config.verticalSpeedMps.number) := by
  have high : (0 : K) < config.altitudeM.number := finitePositive_number altitude
  have fast : (0 : K) < config.verticalSpeedMps.number := finitePositive_number climbs
  have inside := positivePhase_mem later (missionPeriod_pos altitude climbs) instanceIndex
  obtain ⟨height, rate⟩ := sampleMission_eq altitude climbs later instanceIndex
  have still : (sampleMission config seconds instanceIndex).eastM = 0 ∧
      (sampleMission config seconds instanceIndex).northM = 0 ∧
      (sampleMission config seconds instanceIndex).horizontalSpeedMps = 0 := by
    unfold sampleMission
    dsimp only
    split_ifs <;> exact ⟨rfl, rfl, rfl⟩
  refine ⟨still.1, still.2.1, still.2.2, ?_, ?_⟩
  · rw [height]
    exact missionAltitude_mem high.le fast.le (div_mul_cancel₀ _ fast.ne') (Set.Ico_subset_Icc_self inside)
  · rw [rate]
    split_ifs
    · exact .inl rfl
    · exact .inr (.inl rfl)
    · exact .inl rfl
    · exact .inr (.inr rfl)

theorem sampleMission_at {seconds climbTime cruiseTime phase : K} {instanceIndex : UInt16}
    (later : 0 ≤ seconds)
    (climbing : config.altitudeM.number / config.verticalSpeedMps.number = climbTime)
    (cruising : (config.cruiseTimeMs.toNat : K) / 1000 = cruiseTime)
    (reached : positivePhase seconds (2 * climbTime + cruiseTime) instanceIndex = phase)
    (started : 0 < phase) :
    (phase < climbTime →
      (sampleMission config seconds instanceIndex).altitudeM = phase * config.verticalSpeedMps.number ∧
        (sampleMission config seconds instanceIndex).verticalSpeedMps = config.verticalSpeedMps.number) ∧
      (climbTime ≤ phase → phase < climbTime + cruiseTime →
        (sampleMission config seconds instanceIndex).altitudeM = config.altitudeM.number) ∧
      (climbTime ≤ phase → climbTime + cruiseTime ≤ phase →
        (sampleMission config seconds instanceIndex).altitudeM =
            config.altitudeM.number - (phase - climbTime - cruiseTime) * config.verticalSpeedMps.number ∧
          (sampleMission config seconds instanceIndex).verticalSpeedMps =
            -config.verticalSpeedMps.number) := by
  obtain ⟨height, rate⟩ := sampleMission_eq altitude climbs later instanceIndex
  rw [climbing, cruising, reached] at height rate
  rw [height, rate, if_neg (not_le.mpr started)]
  unfold missionAltitude
  refine ⟨?_, ?_, ?_⟩
  · intro below
    rw [if_pos below, if_pos below]
    exact ⟨rfl, rfl⟩
  · intro above below
    rw [if_neg (not_lt.mpr above), if_pos below]
  · intro above past
    rw [if_neg (not_lt.mpr above), if_neg (not_lt.mpr past), if_neg (not_lt.mpr above),
      if_neg (not_lt.mpr past)]
    exact ⟨rfl, rfl⟩

theorem sampleMission_extremes (instanceIndex : UInt16) :
    (∃ seconds : K, 0 ≤ seconds ∧
      (sampleMission config seconds instanceIndex).verticalSpeedMps = config.verticalSpeedMps.number) ∧
    ∃ seconds : K, 0 ≤ seconds ∧
      (sampleMission config seconds instanceIndex).altitudeM = config.altitudeM.number ∧
      (sampleMission config seconds instanceIndex).verticalSpeedMps =
        -config.verticalSpeedMps.number := by
  have climb : (0 : K) < config.altitudeM.number / config.verticalSpeedMps.number :=
    climbTime_pos altitude climbs
  have cruise : (0 : K) ≤ (config.cruiseTimeMs.toNat : K) / 1000 := seconds_nonneg _
  have early : config.altitudeM.number / config.verticalSpeedMps.number / 2 ∈
      Set.Ico (0 : K) (2 * (config.altitudeM.number / config.verticalSpeedMps.number) +
        (config.cruiseTimeMs.toNat : K) / 1000) := ⟨by linarith, by linarith⟩
  have late : config.altitudeM.number / config.verticalSpeedMps.number +
      (config.cruiseTimeMs.toNat : K) / 1000 ∈
      Set.Ico (0 : K) (2 * (config.altitudeM.number / config.verticalSpeedMps.number) +
        (config.cruiseTimeMs.toNat : K) / 1000) := ⟨by linarith, by linarith⟩
  apply And.intro
  · obtain ⟨seconds, later, reached⟩ := exists_positivePhase early instanceIndex
    obtain ⟨up, _, _⟩ := sampleMission_at altitude climbs later rfl rfl reached (by linarith)
    exact ⟨seconds, later, (up (by linarith)).2⟩
  · obtain ⟨seconds, later, reached⟩ := exists_positivePhase late instanceIndex
    obtain ⟨_, _, down⟩ := sampleMission_at altitude climbs later rfl rfl reached (by linarith)
    obtain ⟨top, falling⟩ := down (by linarith) (le_refl _)
    refine ⟨seconds, later, ?_, falling⟩
    rw [top]
    ring

end

/-! Waypoints. -/

section
variable (speed : finitePositive config.speedMps = true) (enough : 2 ≤ config.waypoints.length)
  (loop : 0 < (config.legs.map (segmentLength math)).sum)
include speed enough loop

theorem sampleWaypoints_eq :
    ∃ front : EnuPoint, ∀ seconds instanceIndex, sampleWaypoints math config seconds instanceIndex =
      (walkLegs math config.speedMps.number config.legs (positivePhase seconds
        ((config.legs.map (segmentLength math)).sum / config.speedMps.number) instanceIndex *
          config.speedMps.number)).getD (front.hold config.speedMps.number) := by
  have fast : (0 : K) < config.speedMps.number := finitePositive_number speed
  unfold sampleWaypoints
  generalize hlegs : config.legs = legs at loop
  cases points : config.waypoints with
  | nil =>
    rw [points] at enough
    exact absurd enough (by decide)
  | cons front others =>
    have several : others ≠ [] := by
      rw [points, List.length_cons] at enough
      exact List.ne_nil_of_length_pos (by omega)
    refine ⟨front, ?_⟩
    intro seconds instanceIndex
    dsimp only
    rw [if_neg (not_or.mpr ⟨several, not_le.mpr fast⟩), if_neg (not_le.mpr loop)]

theorem sampleWaypoints_along {seconds : K} (later : 0 ≤ seconds) (instanceIndex : UInt16) :
    ∃ leg ∈ config.legs, 0 < segmentLength math leg ∧
      ∃ along, 0 ≤ along ∧ along ≤ segmentLength math leg ∧
        sampleWaypoints math config seconds instanceIndex =
          alongLeg math config.speedMps.number leg along := by
  have fast : (0 : K) < config.speedMps.number := finitePositive_number speed
  obtain ⟨front, sampled⟩ := sampleWaypoints_eq math speed enough loop
  have inside := positivePhase_mem later (div_pos loop fast) instanceIndex
  obtain ⟨leg, member, extent, along, started, within, located⟩ :=
    @walkLegs_mem K _ _ _ _ math config.speedMps.number _ _ (mul_nonneg inside.1 fast.le)
      ((lt_div_iff₀ fast).mp inside.2)
  refine ⟨leg, member, extent, along, started, within, ?_⟩
  rw [sampled, located, Option.getD_some]

theorem sampleWaypoints_reaches (nonneg : ∀ leg : EnuPoint × EnuPoint, 0 ≤ segmentLength math leg)
    {leg : EnuPoint × EnuPoint} (member : leg ∈ config.legs) {along : K} (started : 0 < along)
    (within : along < segmentLength math leg) {start : K} (late : 0 ≤ start) (instanceIndex : UInt16) :
    ∃ seconds ∈ Set.Ico start (start +
        (config.legs.map (segmentLength math)).sum / config.speedMps.number),
      sampleWaypoints math config seconds instanceIndex =
        alongLeg math config.speedMps.number leg along := by
  have fast : (0 : K) < config.speedMps.number := finitePositive_number speed
  obtain ⟨before, after, split⟩ := List.append_of_mem member
  have lengthBefore := sum_segmentLength_nonneg nonneg before
  have lengthAfter := sum_segmentLength_nonneg nonneg after
  have whole : (config.legs.map (segmentLength math)).sum = (before.map (segmentLength math)).sum +
      (segmentLength math leg + (after.map (segmentLength math)).sum) := by
    rw [split, List.map_append, List.sum_append, List.map_cons, List.sum_cons]
  have inside : ((before.map (segmentLength math)).sum + along) / config.speedMps.number ∈
      Set.Ico (0 : K) ((config.legs.map (segmentLength math)).sum / config.speedMps.number) := by
    apply And.intro
    · exact div_nonneg (add_nonneg lengthBefore started.le) fast.le
    · apply div_lt_div_of_pos_right _ fast
      linarith
  obtain ⟨seconds, window, reached⟩ := exists_positivePhase_from inside late instanceIndex
  obtain ⟨front, sampled⟩ := sampleWaypoints_eq math speed enough loop
  refine ⟨seconds, window, ?_⟩
  rw [sampled, reached, div_mul_cancel₀ _ fast.ne', split, walkLegs_append nonneg started within.le,
    Option.getD_some]

end

end

end RidFirmware
