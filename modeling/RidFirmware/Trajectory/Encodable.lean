import RidFirmware.Trajectory.Envelope
import RidFirmware.Trajectory.Legs

/-! A flight can be encoded at each of its instants exactly if its parameters are within the limits. -/

namespace RidFirmware
open Lib Lib.Ieee Lib.Path

theorem climbInRange_zero (protocol : Protocol) : ClimbInRange protocol (0 : ℝ) := by
  unfold ClimbInRange
  split_ifs
  · exact ⟨by norm_num, .inl (by norm_num)⟩
  · exact ⟨by norm_num, by norm_num⟩

theorem speedInRange_zero (protocol : Protocol) : SpeedInRange protocol (0 : ℝ) := by
  unfold SpeedInRange
  split_ifs
  · exact .inl (by norm_num)
  · norm_num

theorem realLibm_measures : realLibm.MeasuresLegs := by
  apply Libm.MeasuresLegs.mk
  · intro x y
    exact Real.sqrt_nonneg _
  · intro x y
    show Real.sqrt (x ^ 2 + y ^ 2) = 0 ↔ x = 0 ∧ y = 0
    rw [Real.sqrt_eq_zero (add_nonneg (sq_nonneg x) (sq_nonneg y)),
      add_eq_zero_iff_of_nonneg (sq_nonneg x) (sq_nonneg y), sq_eq_zero_iff, sq_eq_zero_iff]

theorem ValidLoop.length_pos {config : TrajectoryConfig} (valid : ValidLoop config) :
    0 < (config.legs.map (segmentLength realLibm)).sum :=
  loopLength_pos realLibm_measures valid

theorem ValidLoop.up_nonneg {config : TrajectoryConfig} (valid : ValidLoop config) {point : EnuPoint}
    (member : point ∈ config.waypoints) : (0 : ℝ) ≤ point.upM.number :=
  finiteNonnegative_number (valid.finite point member).2.2

/-! Each kind of trajectory. -/

section
variable {config : TrajectoryConfig} {site : GeoPoint ℝ} (protocol : Protocol) (instanceIndex : UInt16)

theorem line_admissible_iff (onGlobe : site.OnGlobe) (speed : finitePositive config.speedMps = true)
    (size : finitePositive config.primarySizeM = true) :
    (∀ seconds, 0 ≤ seconds →
      (sampleLine realLibm config seconds instanceIndex).Admissible realLibm site protocol) ↔
      (config.altitudeM.number ≤ (altitudeCeiling protocol : ℝ) ∧
        SpeedInRange protocol (config.speedMps.number : ℝ)) ∧
      OnMap realLibm site
        (config.primarySizeM.number * realLibm.sin (config.headingDeg.number * kPi / 180))
        (config.primarySizeM.number * realLibm.cos (config.headingDeg.number * kPi / 180)) := by
  apply Iff.intro
  · intro always
    have start := always 0 (le_refl 0)
    obtain ⟨seconds, later, east, north⟩ := sampleLine_turns realLibm speed size instanceIndex
    have turn := (always seconds later).onMap
    rw [east, north] at turn
    exact ⟨⟨start.altitude, start.speed⟩, turn⟩
  · intro limits seconds later
    obtain ⟨⟨altitude, fast⟩, turn⟩ := limits
    have between := sampleLine_between realLibm speed size later instanceIndex
    exact ⟨onMap_between (onMap_site onGlobe) turn between.1 between.2, altitude, fast,
      climbInRange_zero protocol⟩

theorem circle_admissible_iff (speed : finitePositive config.speedMps = true)
    (size : finitePositive config.primarySizeM = true) :
    (∀ seconds, 0 ≤ seconds →
      (sampleCircle realLibm config seconds instanceIndex).Admissible realLibm site protocol) ↔
      (config.altitudeM.number ≤ (altitudeCeiling protocol : ℝ) ∧
        SpeedInRange protocol (config.speedMps.number : ℝ)) ∧
      OnMap realLibm site (-config.primarySizeM.number) (-config.primarySizeM.number) ∧
      OnMap realLibm site config.primarySizeM.number config.primarySizeM.number := by
  apply Iff.intro
  · intro always
    have start := always 0 (le_refl 0)
    obtain ⟨circle, half, threeQuarters⟩ := kPi_bounds
    have pi := Real.pi_pos
    have at_angle : ∀ angle ∈ Set.Ico 0 (2 * kPi), OnMap realLibm site
        (config.primarySizeM.number * Real.cos angle) (config.primarySizeM.number * Real.sin angle) := by
      intro angle turn
      obtain ⟨seconds, later, east, north⟩ := sampleCircle_reaches speed size turn instanceIndex
      have reached := (always seconds later).onMap
      rwa [east, north] at reached
    have east := at_angle 0 ⟨le_refl 0, by linarith⟩
    have north := at_angle (Real.pi / 2) ⟨by linarith, by linarith⟩
    have west := at_angle Real.pi ⟨by linarith, by linarith⟩
    have south := at_angle (Real.pi / 2 + Real.pi) ⟨by linarith, by linarith⟩
    rw [Real.cos_zero, mul_one] at east
    rw [Real.sin_pi_div_two, mul_one] at north
    rw [Real.cos_pi, mul_neg_one] at west
    rw [Real.sin_add_pi, Real.sin_pi_div_two, mul_neg_one] at south
    exact ⟨⟨start.altitude, start.speed⟩, onMap_exchange west south, onMap_exchange east north⟩
  · intro limits seconds later
    obtain ⟨⟨altitude, fast⟩, southWest, northEast⟩ := limits
    have between := @sampleCircle_between config seconds instanceIndex size
    exact ⟨onMap_between southWest northEast between.1 between.2, altitude, fast,
      climbInRange_zero protocol⟩

theorem sampleRectangle_level (config : TrajectoryConfig) (seconds : ℝ) (instanceIndex : UInt16) :
    (sampleRectangle config seconds instanceIndex).altitudeM = config.altitudeM.number ∧
      (sampleRectangle config seconds instanceIndex).horizontalSpeedMps = config.speedMps.number ∧
      (sampleRectangle config seconds instanceIndex).verticalSpeedMps = 0 := by
  unfold sampleRectangle
  dsimp only
  split_ifs <;> exact ⟨rfl, rfl, rfl⟩

theorem rectangle_admissible_iff (speed : finitePositive config.speedMps = true)
    (width : finitePositive config.primarySizeM = true)
    (height : finitePositive config.secondarySizeM = true) :
    (∀ seconds, 0 ≤ seconds →
      (sampleRectangle config seconds instanceIndex).Admissible realLibm site protocol) ↔
      (config.altitudeM.number ≤ (altitudeCeiling protocol : ℝ) ∧
        SpeedInRange protocol (config.speedMps.number : ℝ)) ∧
      OnMap realLibm site (-config.primarySizeM.number / 2) (-config.secondarySizeM.number / 2) ∧
      OnMap realLibm site (config.primarySizeM.number / 2) (config.secondarySizeM.number / 2) := by
  have level := fun seconds => sampleRectangle_level config seconds instanceIndex
  apply Iff.intro
  · intro always
    have start := always 0 (le_refl 0)
    obtain ⟨⟨first, later, west, south⟩, second, later', east, north⟩ :=
      @sampleRectangle_corners ℝ _ _ _ _ config speed width height instanceIndex
    have southWest := (always first later).onMap
    have northEast := (always second later').onMap
    rw [west, south] at southWest
    rw [east, north] at northEast
    have altitude := start.altitude
    have fast := start.speed
    rw [(level 0).1] at altitude
    rw [(level 0).2.1] at fast
    exact ⟨⟨altitude, fast⟩, southWest, northEast⟩
  · intro limits seconds later
    obtain ⟨⟨altitude, fast⟩, southWest, northEast⟩ := limits
    have between := sampleRectangle_between speed width height later instanceIndex
    obtain ⟨flown, moving, steady⟩ := level seconds
    constructor
    · exact onMap_between southWest northEast between.1 between.2
    · rwa [flown]
    · rwa [moving]
    · rw [steady]
      exact climbInRange_zero protocol

theorem waypoints_admissible_iff (valid : ValidLoop config) :
    (∀ seconds, 0 ≤ seconds →
      (sampleWaypoints realLibm config seconds instanceIndex).Admissible realLibm site protocol) ↔
      SpeedInRange protocol (config.speedMps.number : ℝ) ∧
        ∀ leg ∈ config.legs, 0 < segmentLength realLibm leg →
          (∀ point ∈ [leg.1, leg.2], OnMap realLibm site point.eastM.number point.northM.number ∧
            point.upM.number ≤ (altitudeCeiling protocol : ℝ)) ∧
          ClimbInRange protocol ((leg.2.upM.number - leg.1.upM.number) * config.speedMps.number /
            segmentLength realLibm leg) := by
  have loop := valid.length_pos
  apply Iff.intro
  · intro always
    apply And.intro
    · obtain ⟨leg, _, _, along, _, _, sampled⟩ := sampleWaypoints_along realLibm valid.speed valid.enough
        loop (le_refl 0) instanceIndex
      have start := (always 0 (le_refl 0)).speed
      rwa [sampled] at start
    · intro leg member extent
      have inside : ∀ ratio, 0 < ratio → ratio < 1 → (alongLeg realLibm config.speedMps.number leg
          (ratio * segmentLength realLibm leg)).Admissible realLibm site protocol := by
        intro ratio positive below
        have within : ratio * segmentLength realLibm leg < segmentLength realLibm leg := by
          calc
            _ < 1 * segmentLength realLibm leg := mul_lt_mul_of_pos_right below extent
            _ = segmentLength realLibm leg := one_mul _
        obtain ⟨seconds, window, sampled⟩ := sampleWaypoints_reaches realLibm valid.speed valid.enough loop
          segmentLength_nonneg member (mul_pos positive extent) within (le_refl 0) instanceIndex
        have here := always seconds window.1
        rwa [sampled] at here
      have ratio_eq : ∀ ratio : ℝ, ratio * segmentLength realLibm leg / segmentLength realLibm leg = ratio :=
        fun ratio => mul_div_cancel_right₀ ratio extent.ne'
      have places := onMap_ends (fun ratio positive below => by
        have here := (inside ratio positive below).onMap
        unfold alongLeg at here
        dsimp only at here
        rwa [ratio_eq] at here)
      have heights := ends_le_of_lerp_le (fun ratio positive below => by
        have here := (inside ratio positive below).altitude
        unfold alongLeg at here
        dsimp only at here
        rwa [ratio_eq] at here)
      have middle := inside (1 / 2) (by norm_num) (by norm_num)
      refine ⟨?_, middle.climb⟩
      intro point isEnd
      rcases List.mem_pair.mp isEnd with rfl | rfl
      · exact ⟨places.1, heights.1⟩
      · exact ⟨places.2, heights.2⟩
  · intro limits seconds later
    obtain ⟨leg, member, extent, along, started, within, sampled⟩ := sampleWaypoints_along realLibm
      valid.speed valid.enough loop later instanceIndex
    obtain ⟨ends, climb⟩ := limits.2 leg member extent
    have start := ends leg.1 (List.mem_pair.mpr (.inl rfl))
    have finish := ends leg.2 (List.mem_pair.mpr (.inr rfl))
    have nonneg : 0 ≤ along / segmentLength realLibm leg := div_nonneg started extent.le
    have atMostOne : along / segmentLength realLibm leg ≤ 1 := (div_le_one extent).mpr within
    rw [sampled]
    constructor
    · exact onMap_between start.1 finish.1 (lerp_mem_uIcc _ _ nonneg atMostOne)
        (lerp_mem_uIcc _ _ nonneg atMostOne)
    · have between := lerp_mem_uIcc (leg.1.upM.number : ℝ) leg.2.upM.number nonneg atMostOne
      exact between.2.trans (sup_le start.2 finish.2)
    · exact limits.1
    · exact climb

theorem mission_admissible_iff (onGlobe : site.OnGlobe) (altitude : finitePositive config.altitudeM = true)
    (climbs : finitePositive config.verticalSpeedMps = true) :
    (∀ seconds, 0 ≤ seconds →
      (sampleMission config seconds instanceIndex).Admissible realLibm site protocol) ↔
      config.altitudeM.number ≤ (altitudeCeiling protocol : ℝ) ∧
        ClimbInRange protocol (config.verticalSpeedMps.number : ℝ) ∧
        ClimbInRange protocol (-config.verticalSpeedMps.number : ℝ) := by
  apply Iff.intro
  · intro always
    obtain ⟨⟨first, later, rising⟩, second, later', top, falling⟩ :=
      @sampleMission_extremes ℝ _ _ _ _ config altitude climbs instanceIndex
    have up := (always first later).climb
    have high := (always second later').altitude
    have down := (always second later').climb
    rw [rising] at up
    rw [top] at high
    rw [falling] at down
    exact ⟨high, up, down⟩
  · intro limits seconds later
    obtain ⟨high, up, down⟩ := limits
    obtain ⟨east, north, still, between, climb⟩ :=
      sampleMission_between altitude climbs later instanceIndex
    constructor
    · rw [east, north]
      exact onMap_site onGlobe
    · exact between.2.trans high
    · rw [still]
      exact speedInRange_zero protocol
    · rcases climb with steady | rising | falling
      · rw [steady]
        exact climbInRange_zero protocol
      · rwa [rising]
      · rwa [falling]

end

/-! All kinds. -/

theorem validSite_onGlobe {site : GeoPoint Float64Bits} (valid : validSite site = true) :
    (site.number : GeoPoint ℝ).OnGlobe := by
  unfold validSite at valid
  simp only [Bool.and_eq_true] at valid
  obtain ⟨⟨⟨⟨⟨finite, south⟩, north⟩, finite'⟩, west⟩, east⟩ := valid
  rw [Datum.eq_finite_of_isFinite finite, Datum.atMost_finite, decide_eq_true_eq] at south north
  rw [Datum.eq_finite_of_isFinite finite', Datum.atMost_finite, decide_eq_true_eq] at west east
  have latitude : site.number.latitudeDeg = ((site.latitudeDeg.datum.value : ℚ) : ℝ) := rfl
  have longitude : site.number.longitudeDeg = ((site.longitudeDeg.datum.value : ℚ) : ℝ) := rfl
  have bounds := And.intro (And.intro south north) (And.intro west east)
  unfold GeoPoint.OnGlobe
  rw [latitude, longitude, Set.mem_Icc, Set.mem_Icc]
  exact_mod_cast bounds

section
variable {config : TrajectoryConfig} {site : GeoPoint ℝ}

theorem motionAt_forward (valid : config.valid = true) {seconds : ℝ} (later : 0 ≤ seconds)
    (instanceIndex : UInt16) : (motionAt realLibm config seconds instanceIndex).Forward := by
  have checks := valid
  unfold TrajectoryConfig.valid at checks
  unfold motionAt
  cases kind : config.type with
  | hover =>
    rw [kind] at checks
    exact ⟨finiteNonnegative_number checks, le_refl 0⟩
  | line =>
    rw [kind] at checks
    simp only [Bool.and_eq_true] at checks
    exact ⟨finiteNonnegative_number checks.1.1.1.2, (finitePositive_number checks.1.1.1.1.2).le⟩
  | circle =>
    rw [kind] at checks
    simp only [Bool.and_eq_true] at checks
    exact ⟨finiteNonnegative_number checks.2, (finitePositive_number checks.1.2).le⟩
  | rectangle =>
    rw [kind] at checks
    simp only [Bool.and_eq_true] at checks
    obtain ⟨flown, moving, _⟩ := sampleRectangle_level config seconds instanceIndex
    unfold Motion.Forward
    dsimp only
    rw [flown, moving]
    exact ⟨finiteNonnegative_number checks.2, (finitePositive_number checks.1.2).le⟩
  | waypointLoop =>
    have loop := validLoop kind valid
    obtain ⟨leg, member, extent, along, started, within, sampled⟩ := sampleWaypoints_along realLibm
      loop.speed loop.enough loop.length_pos later instanceIndex
    obtain ⟨start, finish⟩ := TrajectoryConfig.ends_mem member
    have between := lerp_mem_uIcc (leg.1.upM.number : ℝ) leg.2.upM.number
      (div_nonneg started extent.le) ((div_le_one extent).mpr within)
    dsimp only
    rw [sampled]
    exact ⟨(le_inf (loop.up_nonneg start) (loop.up_nonneg finish)).trans between.1,
      (finitePositive_number loop.speed).le⟩
  | takeoffCruiseLand =>
    rw [kind] at checks
    simp only [Bool.and_eq_true] at checks
    obtain ⟨_, _, still, between, _⟩ := sampleMission_between checks.1 checks.2 later instanceIndex
    exact ⟨between.1, still.ge⟩
  | other raw unknown => exact ⟨le_refl 0, le_refl 0⟩

theorem motionAt_admissible_iff (onGlobe : site.OnGlobe) (valid : config.valid = true)
    (protocol : Protocol) (instanceIndex : UInt16) :
    (∀ seconds, 0 ≤ seconds →
      (motionAt realLibm config seconds instanceIndex).Admissible realLibm site protocol) ↔
      config.WithinLimits realLibm site protocol := by
  have checks := valid
  unfold TrajectoryConfig.valid at checks
  unfold motionAt TrajectoryConfig.WithinLimits
  cases kind : config.type with
  | hover =>
    dsimp only
    apply Iff.intro
    · exact fun always => (always 0 (le_refl 0)).altitude
    · exact fun altitude _ _ => ⟨onMap_site onGlobe, altitude, speedInRange_zero protocol,
        climbInRange_zero protocol⟩
  | line =>
    rw [kind] at checks
    simp only [Bool.and_eq_true] at checks
    exact line_admissible_iff protocol instanceIndex onGlobe checks.1.1.1.1.2 checks.1.1.1.1.1
  | circle =>
    rw [kind] at checks
    simp only [Bool.and_eq_true] at checks
    exact circle_admissible_iff protocol instanceIndex checks.1.2 checks.1.1
  | rectangle =>
    rw [kind] at checks
    simp only [Bool.and_eq_true] at checks
    exact rectangle_admissible_iff protocol instanceIndex checks.1.2 checks.1.1.1 checks.1.1.2
  | waypointLoop => exact waypoints_admissible_iff protocol instanceIndex (validLoop kind valid)
  | takeoffCruiseLand =>
    rw [kind] at checks
    simp only [Bool.and_eq_true] at checks
    exact mission_admissible_iff protocol instanceIndex onGlobe checks.1 checks.2
  | other raw unknown =>
    rw [kind] at checks
    exact absurd checks Bool.false_ne_true

end

end RidFirmware
