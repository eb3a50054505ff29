import RidFirmware.Trajectory.Encodable

/-! What the samples of a flight, taken at whole milliseconds, say about its parameters. -/

namespace RidFirmware
open Lib Lib.Ieee Lib.Path

section
variable {K : Type} [Field K] [LinearOrder K] [FloorRing K] (math : Libm K)

def TrajectoryConfig.period (config : TrajectoryConfig) : K :=
  match config.type with
  | .line => 2 * config.primarySizeM.number / config.speedMps.number
  | .circle => 2 * kPi * config.primarySizeM.number / config.speedMps.number
  | .rectangle => 2 * (config.primarySizeM.number + config.secondarySizeM.number) / config.speedMps.number
  | .waypointLoop => (config.legs.map (segmentLength math)).sum / config.speedMps.number
  | .takeoffCruiseLand =>
      2 * (config.altitudeM.number / config.verticalSpeedMps.number) +
        (config.cruiseTimeMs.toNat : K) / 1000
  | .hover | .other _ _ => 0

/-- The limits on the way and on climbs as far as whole milliseconds show them: up to what the aircraft
moves in one. -/
def TrajectoryConfig.NearlyWithinLimits (site : GeoPoint K) (protocol : Protocol)
    (config : TrajectoryConfig) : Prop :=
  let step : K := config.speedMps.number / 1000
  let size : K := config.primarySizeM.number
  match config.type with
  | .line =>
      let headingRad : K := config.headingDeg.number * kPi / 180
      step ≤ size → OnMap math site ((size - step) * math.sin headingRad)
        ((size - step) * math.cos headingRad)
  | .circle =>
      step ≤ size → OnMap math site (step - size) (step - size) ∧
        OnMap math site (size - step) (size - step)
  | .rectangle =>
      let height : K := config.secondarySizeM.number
      step ≤ size / 2 → step ≤ height / 2 →
        OnMap math site (step - size / 2) (step - height / 2) ∧
        OnMap math site (size / 2 - step) (height / 2 - step)
  | .waypointLoop =>
      ∀ leg ∈ config.legs, ∀ along, step < along → along + step ≤ segmentLength math leg →
        (alongLeg math config.speedMps.number leg along).Admissible math site protocol
  | .takeoffCruiseLand =>
      let climb : K := config.verticalSpeedMps.number
      (climb / 1000 < config.altitudeM.number →
        config.altitudeM.number - climb / 1000 ≤ (altitudeCeiling protocol : K) ∧
          ClimbInRange protocol climb ∧ ClimbInRange protocol (-climb)) ∧
      (config.cruiseTimeMs ≠ 0 → config.altitudeM.number ≤ (altitudeCeiling protocol : K))
  | .hover | .other _ _ => True

end

theorem TrajectoryEngine.exists_extendElapsed {K : Type} (site : GeoPoint K) (instanceIndex : UInt16)
    (elapsedMs : UInt64) :
    ∃ (engine : TrajectoryEngine K) (asked : UInt32), engine.siteCenter = site ∧
      (engine.extendElapsed instanceIndex asked).1 = elapsedMs := by
  refine ⟨{ siteCenter := site
            wrapOffset := Vector.replicate 50 (elapsedMs - elapsedMs.toUInt32.toUInt64) },
    elapsedMs.toUInt32, rfl, ?_⟩
  unfold TrajectoryEngine.extendElapsed
  simp

/-- On a way that is flown again and again, every place is passed by within the millisecond before one
of the samples. -/
theorem exists_distance_ms {distance length speed : ℝ} (fast : 0 < speed) (nonneg : 0 ≤ distance)
    (room : distance + speed / 1000 ≤ length) (short : length / speed ≤ 2 ^ 53) (instanceIndex : UInt16) :
    ∃ elapsedMs : UInt64,
      positivePhase ((elapsedMs.toNat : ℝ) / 1000) (length / speed) instanceIndex * speed ∈
        Set.Ico distance (distance + speed / 1000) := by
  have fits : distance / speed + 1 / 1000 ≤ length / speed := by
    rw [le_div_iff₀ fast, add_mul, div_mul_cancel₀ _ fast.ne']
    linarith
  obtain ⟨elapsedMs, inside⟩ :=
    exists_positivePhase_ms (div_nonneg nonneg fast.le) fits short instanceIndex
  refine ⟨elapsedMs, (div_le_iff₀ fast).mp inside.1, ?_⟩
  calc
    _ < (distance / speed + 1 / 1000) * speed := mul_lt_mul_of_pos_right inside.2 fast
    _ = distance + speed / 1000 := by field_simp

section
variable {config : TrajectoryConfig} {site : GeoPoint ℝ} {protocol : Protocol} {instanceIndex : UInt16}

theorem line_of_samples (onGlobe : site.OnGlobe) (speed : finitePositive config.speedMps = true)
    (short : 2 * config.primarySizeM.number / config.speedMps.number ≤ (2 : ℝ) ^ 53)
    (samples : ∀ elapsedMs : UInt64, (sampleLine realLibm config ((elapsedMs.toNat : ℝ) / 1000)
      instanceIndex).Admissible realLibm site protocol)
    (room : (config.speedMps.number : ℝ) / 1000 ≤ config.primarySizeM.number) :
    OnMap realLibm site
      ((config.primarySizeM.number - config.speedMps.number / 1000) *
        realLibm.sin (config.headingDeg.number * kPi / 180))
      ((config.primarySizeM.number - config.speedMps.number / 1000) *
        realLibm.cos (config.headingDeg.number * kPi / 180)) := by
  have fast : (0 : ℝ) < config.speedMps.number := finitePositive_number speed
  have early : (0 : ℝ) ≤ config.primarySizeM.number - config.speedMps.number / 1000 := sub_nonneg.mpr room
  obtain ⟨elapsedMs, inside⟩ :=
    @exists_distance_ms _ (2 * config.primarySizeM.number) _ fast early (by linarith) short instanceIndex
  have here := (samples elapsedMs).onMap
  obtain ⟨east, north⟩ := sampleLine_eq realLibm speed ((elapsedMs.toNat : ℝ) / 1000) instanceIndex
  rw [east, north] at here
  generalize positivePhase _ (2 * (config.primarySizeM.number : ℝ) / _) instanceIndex *
    (config.speedMps.number : ℝ) = distance at inside here
  rw [sub_add_cancel] at inside
  unfold lineDistance at here
  rw [if_neg (not_lt.mpr inside.2.le)] at here
  have between : (config.primarySizeM.number - config.speedMps.number / 1000 : ℝ) ∈
      Set.Icc 0 distance := ⟨early, inside.1⟩
  exact onMap_between (onMap_site onGlobe) here (mul_mem_uIcc between _) (mul_mem_uIcc between _)

theorem rectangle_of_samples (speed : finitePositive config.speedMps = true)
    (short : 2 * (config.primarySizeM.number + config.secondarySizeM.number) / config.speedMps.number ≤
      (2 : ℝ) ^ 53)
    (samples : ∀ elapsedMs : UInt64, (sampleRectangle config ((elapsedMs.toNat : ℝ) / 1000)
      instanceIndex).Admissible realLibm site protocol)
    (wide : (config.speedMps.number : ℝ) / 1000 ≤ config.primarySizeM.number / 2)
    (high : (config.speedMps.number : ℝ) / 1000 ≤ config.secondarySizeM.number / 2) :
    OnMap realLibm site (config.speedMps.number / 1000 - config.primarySizeM.number / 2)
        (config.speedMps.number / 1000 - config.secondarySizeM.number / 2) ∧
      OnMap realLibm site (config.primarySizeM.number / 2 - config.speedMps.number / 1000)
        (config.secondarySizeM.number / 2 - config.speedMps.number / 1000) := by
  have fast : (0 : ℝ) < config.speedMps.number := finitePositive_number speed
  obtain ⟨east, north, southWest, west, south⟩ : ∃ east north, OnMap realLibm site east north ∧
      east ≤ config.speedMps.number / 1000 - config.primarySizeM.number / 2 ∧
      north ≤ config.speedMps.number / 1000 - config.secondarySizeM.number / 2 := by
    obtain ⟨elapsedMs, inside⟩ := @exists_distance_ms 0
      (2 * (config.primarySizeM.number + config.secondarySizeM.number)) _ fast (le_refl 0) (by linarith)
      short instanceIndex
    have here := (samples elapsedMs).onMap
    obtain ⟨eastward, northward⟩ := sampleRectangle_eq speed ((elapsedMs.toNat : ℝ) / 1000) instanceIndex
    rw [eastward, northward] at here
    generalize positivePhase _ (2 * (config.primarySizeM.number + config.secondarySizeM.number : ℝ) / _)
      instanceIndex * (config.speedMps.number : ℝ) = distance at inside here
    obtain ⟨started, near⟩ := inside
    unfold rectangleEast rectangleNorth at here
    rw [if_pos (by linarith), if_pos (by linarith)] at here
    exact ⟨_, _, here, by linarith, by linarith⟩
  obtain ⟨east', north', northEast, farEast, farNorth⟩ : ∃ east north, OnMap realLibm site east north ∧
      config.primarySizeM.number / 2 - config.speedMps.number / 1000 ≤ east ∧
      config.secondarySizeM.number / 2 - config.speedMps.number / 1000 ≤ north := by
    obtain ⟨elapsedMs, inside⟩ := @exists_distance_ms
      (config.primarySizeM.number + config.secondarySizeM.number)
      (2 * (config.primarySizeM.number + config.secondarySizeM.number)) _ fast (by linarith) (by linarith)
      short instanceIndex
    have here := (samples elapsedMs).onMap
    obtain ⟨eastward, northward⟩ := sampleRectangle_eq speed ((elapsedMs.toNat : ℝ) / 1000) instanceIndex
    rw [eastward, northward] at here
    generalize positivePhase _ (2 * (config.primarySizeM.number + config.secondarySizeM.number : ℝ) / _)
      instanceIndex * (config.speedMps.number : ℝ) = distance at inside here
    obtain ⟨started, near⟩ := inside
    unfold rectangleEast rectangleNorth at here
    rw [if_neg (by linarith), if_neg (by linarith), if_pos (by linarith), if_neg (by linarith),
      if_neg (by linarith), if_pos (by linarith)] at here
    exact ⟨_, _, here, by linarith, by linarith⟩
  apply And.intro
  · exact onMap_between southWest northEast (Set.Icc_subset_uIcc ⟨west, by linarith⟩)
      (Set.Icc_subset_uIcc ⟨south, by linarith⟩)
  · exact onMap_between southWest northEast (Set.Icc_subset_uIcc ⟨by linarith, farEast⟩)
      (Set.Icc_subset_uIcc ⟨by linarith, farNorth⟩)

theorem sub_le_mul_cos {radius angle bound : ℝ} (positive : 0 < radius) (nonneg : 0 ≤ angle)
    (small : angle ≤ 1) (near : angle * radius ≤ bound) : radius - bound ≤ radius * Real.cos angle := by
  have lower := @Real.one_sub_sq_div_two_le_cos angle
  have square : angle ^ 2 / 2 ≤ angle := by nlinarith
  calc
    _ ≤ radius * (1 - angle) := by linarith
    _ ≤ radius * Real.cos angle := mul_le_mul_of_nonneg_left (by linarith) positive.le

theorem circle_near (speed : finitePositive config.speedMps = true)
    (size : finitePositive config.primarySizeM = true)
    (short : 2 * kPi * config.primarySizeM.number / config.speedMps.number ≤ (2 : ℝ) ^ 53)
    (samples : ∀ elapsedMs : UInt64, (sampleCircle realLibm config ((elapsedMs.toNat : ℝ) / 1000)
      instanceIndex).Admissible realLibm site protocol)
    (room : (config.speedMps.number : ℝ) / 1000 ≤ config.primarySizeM.number) {angle : ℝ}
    (nonneg : 0 ≤ angle) (turn : angle + 1 ≤ 2 * kPi) :
    ∃ more, config.primarySizeM.number - config.speedMps.number / 1000 ≤
        config.primarySizeM.number * Real.cos more ∧
      OnMap realLibm site (config.primarySizeM.number * Real.cos (more + angle))
        (config.primarySizeM.number * Real.sin (more + angle)) := by
  have fast : (0 : ℝ) < config.speedMps.number := finitePositive_number speed
  have radius : (0 : ℝ) < config.primarySizeM.number := finitePositive_number size
  have period : 0 < 2 * kPi * config.primarySizeM.number / (config.speedMps.number : ℝ) :=
    div_pos (mul_pos (mul_pos two_pos kPi_bounds.1) radius) fast
  have fits : angle * config.primarySizeM.number + config.speedMps.number / 1000 ≤
      2 * kPi * (config.primarySizeM.number : ℝ) := by
    calc
      _ ≤ (angle + 1) * (config.primarySizeM.number : ℝ) := by linarith
      _ ≤ 2 * kPi * config.primarySizeM.number := mul_le_mul_of_nonneg_right turn radius.le
  obtain ⟨elapsedMs, inside⟩ :=
    exists_distance_ms fast (mul_nonneg nonneg radius.le) fits short instanceIndex
  have here := (samples elapsedMs).onMap
  unfold sampleCircle at here
  dsimp only at here
  rw [if_pos fast, if_pos period] at here
  generalize positivePhase _ (2 * kPi * (config.primarySizeM.number : ℝ) / _) instanceIndex = phase
    at inside here
  have turned : phase * 2 * kPi / (2 * kPi * config.primarySizeM.number / config.speedMps.number) =
      (phase * config.speedMps.number - angle * config.primarySizeM.number) /
        config.primarySizeM.number + angle := by
    have circle := kPi_bounds.1
    field_simp
    ring
  rw [turned] at here
  have ahead : 0 ≤ phase * config.speedMps.number - angle * (config.primarySizeM.number : ℝ) :=
    sub_nonneg.mpr inside.1
  have close : phase * config.speedMps.number - angle * (config.primarySizeM.number : ℝ) ≤
      config.speedMps.number / 1000 := by linarith [inside.2]
  refine ⟨_, ?_, here⟩
  apply sub_le_mul_cos radius (div_nonneg ahead radius.le)
  · rw [div_le_one radius]
    exact close.trans room
  · rwa [div_mul_cancel₀ _ radius.ne']

theorem circle_of_samples (speed : finitePositive config.speedMps = true)
    (size : finitePositive config.primarySizeM = true)
    (short : 2 * kPi * config.primarySizeM.number / config.speedMps.number ≤ (2 : ℝ) ^ 53)
    (samples : ∀ elapsedMs : UInt64, (sampleCircle realLibm config ((elapsedMs.toNat : ℝ) / 1000)
      instanceIndex).Admissible realLibm site protocol)
    (room : (config.speedMps.number : ℝ) / 1000 ≤ config.primarySizeM.number) :
    OnMap realLibm site (config.speedMps.number / 1000 - config.primarySizeM.number)
        (config.speedMps.number / 1000 - config.primarySizeM.number) ∧
      OnMap realLibm site (config.primarySizeM.number - config.speedMps.number / 1000)
        (config.primarySizeM.number - config.speedMps.number / 1000) := by
  have whole : Real.pi / 2 + Real.pi + 1 ≤ 2 * kPi := by
    have pi := Real.pi_lt_d2
    unfold kPi
    linarith
  have pi := Real.pi_pos
  have near := @circle_near config site protocol instanceIndex speed size short samples room
  obtain ⟨first, farEast, east⟩ := @near 0 (le_refl 0) (by linarith)
  obtain ⟨second, farNorth, north⟩ := @near (Real.pi / 2) (by linarith) (by linarith)
  obtain ⟨third, farWest, west⟩ := @near Real.pi (by linarith) (by linarith)
  obtain ⟨fourth, farSouth, south⟩ := @near (Real.pi / 2 + Real.pi) (by linarith) whole
  rw [add_zero] at east
  rw [Real.sin_add_pi_div_two] at north
  rw [Real.cos_add_pi, mul_neg] at west
  rw [← add_assoc, Real.sin_add_pi, Real.sin_add_pi_div_two, mul_neg] at south
  have northEast := onMap_exchange east north
  have southWest := onMap_exchange west south
  apply And.intro
  · exact onMap_between southWest northEast (Set.Icc_subset_uIcc ⟨by linarith, by linarith⟩)
      (Set.Icc_subset_uIcc ⟨by linarith, by linarith⟩)
  · exact onMap_between southWest northEast (Set.Icc_subset_uIcc ⟨by linarith, by linarith⟩)
      (Set.Icc_subset_uIcc ⟨by linarith, by linarith⟩)

theorem waypoints_near (valid : ValidLoop config)
    (short : (config.legs.map (segmentLength realLibm)).sum / config.speedMps.number ≤ (2 : ℝ) ^ 53)
    {leg : EnuPoint × EnuPoint} (member : leg ∈ config.legs) {along : ℝ} (started : 0 < along)
    (within : along + config.speedMps.number / 1000 ≤ segmentLength realLibm leg)
    (instanceIndex : UInt16) :
    ∃ elapsedMs : UInt64, ∃ near ∈ Set.Ico along (along + config.speedMps.number / 1000),
      sampleWaypoints realLibm config ((elapsedMs.toNat : ℝ) / 1000) instanceIndex =
        alongLeg realLibm config.speedMps.number leg near := by
  have fast : (0 : ℝ) < config.speedMps.number := finitePositive_number valid.speed
  obtain ⟨before, after, split⟩ := List.append_of_mem member
  have lengthBefore := sum_segmentLength_nonneg segmentLength_nonneg before
  have lengthAfter := sum_segmentLength_nonneg segmentLength_nonneg after
  have whole : (config.legs.map (segmentLength realLibm)).sum =
      (before.map (segmentLength realLibm)).sum +
        (segmentLength realLibm leg + (after.map (segmentLength realLibm)).sum) := by
    rw [split, List.map_append, List.sum_append, List.map_cons, List.sum_cons]
  obtain ⟨elapsedMs, inside⟩ := @exists_distance_ms
    ((before.map (segmentLength realLibm)).sum + along) _ _ fast (by linarith) (by linarith) short
    instanceIndex
  obtain ⟨front, samples⟩ := sampleWaypoints_eq realLibm valid.speed valid.enough valid.length_pos
  have sampled := samples ((elapsedMs.toNat : ℝ) / 1000) instanceIndex
  generalize positivePhase _ _ instanceIndex * (config.speedMps.number : ℝ) = distance at inside sampled
  obtain ⟨near, passed⟩ : ∃ near, distance = (before.map (segmentLength realLibm)).sum + near :=
    ⟨distance - (before.map (segmentLength realLibm)).sum, by ring⟩
  rw [passed] at inside sampled
  have close : near ∈ Set.Ico along (along + config.speedMps.number / 1000) :=
    ⟨by linarith [inside.1], by linarith [inside.2]⟩
  refine ⟨elapsedMs, near, close, ?_⟩
  rw [sampled, split, walkLegs_append segmentLength_nonneg (started.trans_le close.1)
    (close.2.le.trans within), Option.getD_some]

theorem waypoints_of_samples (valid : ValidLoop config)
    (short : (config.legs.map (segmentLength realLibm)).sum / config.speedMps.number ≤ (2 : ℝ) ^ 53)
    (samples : ∀ elapsedMs : UInt64, (sampleWaypoints realLibm config ((elapsedMs.toNat : ℝ) / 1000)
      instanceIndex).Admissible realLibm site protocol)
    {leg : EnuPoint × EnuPoint} (member : leg ∈ config.legs) {along : ℝ}
    (started : config.speedMps.number / 1000 < along)
    (within : along + config.speedMps.number / 1000 ≤ segmentLength realLibm leg) :
    (alongLeg realLibm config.speedMps.number leg along).Admissible realLibm site protocol := by
  have fast : (0 : ℝ) < config.speedMps.number := finitePositive_number valid.speed
  have extent : 0 < segmentLength realLibm leg := by linarith
  obtain ⟨firstMs, first, before, sampled⟩ := waypoints_near valid short member
    (sub_pos.mpr started) (by linarith) instanceIndex
  obtain ⟨secondMs, second, after, sampled'⟩ := @waypoints_near config valid short leg member along
    (by linarith) within instanceIndex
  have earlier := samples firstMs
  have later := samples secondMs
  rw [sampled] at earlier
  rw [sampled'] at later
  rw [sub_add_cancel] at before
  have between : along ∈ Set.uIcc first second := Set.Icc_subset_uIcc ⟨before.2.le, after.1⟩
  have moved : ∀ start finish : ℝ, start + (finish - start) * (along / segmentLength realLibm leg) ∈
      Set.uIcc (start + (finish - start) * (first / segmentLength realLibm leg))
        (start + (finish - start) * (second / segmentLength realLibm leg)) := by
    intro start finish
    have affine := affine_mem_uIcc start ((finish - start) / segmentLength realLibm leg) between
    have turned : ∀ x, x * ((finish - start) / segmentLength realLibm leg) =
        (finish - start) * (x / segmentLength realLibm leg) := by
      intro x
      ring
    rwa [turned, turned, turned] at affine
  constructor
  · exact onMap_between earlier.onMap later.onMap (moved _ _) (moved _ _)
  · exact (moved _ _).2.trans (sup_le earlier.altitude later.altitude)
  · exact earlier.speed
  · exact earlier.climb

theorem mission_of_samples (altitude : finitePositive config.altitudeM = true)
    (climbs : finitePositive config.verticalSpeedMps = true)
    (short : 2 * (config.altitudeM.number / config.verticalSpeedMps.number) +
      (config.cruiseTimeMs.toNat : ℝ) / 1000 ≤ (2 : ℝ) ^ 53)
    (samples : ∀ elapsedMs : UInt64, (sampleMission config ((elapsedMs.toNat : ℝ) / 1000)
      instanceIndex).Admissible realLibm site protocol) :
    (config.verticalSpeedMps.number / 1000 < (config.altitudeM.number : ℝ) →
      config.altitudeM.number - config.verticalSpeedMps.number / 1000 ≤ (altitudeCeiling protocol : ℝ) ∧
        ClimbInRange protocol (config.verticalSpeedMps.number : ℝ) ∧
        ClimbInRange protocol (-config.verticalSpeedMps.number : ℝ)) ∧
      (config.cruiseTimeMs ≠ 0 → config.altitudeM.number ≤ (altitudeCeiling protocol : ℝ)) := by
  have fast : (0 : ℝ) < config.verticalSpeedMps.number := finitePositive_number climbs
  generalize climbing : (config.altitudeM.number / config.verticalSpeedMps.number : ℝ) = climbTime at short
  generalize cruising : (config.cruiseTimeMs.toNat : ℝ) / 1000 = cruiseTime at short
  have climb : 0 < climbTime := by
    rw [← climbing]
    exact climbTime_pos altitude climbs
  have cruise : 0 ≤ cruiseTime := by
    rw [← cruising]
    exact seconds_nonneg _
  have parts : ∀ elapsedMs : UInt64,
      0 < positivePhase ((elapsedMs.toNat : ℝ) / 1000) (2 * climbTime + cruiseTime) instanceIndex → _ :=
    fun elapsedMs started =>
      sampleMission_at altitude climbs (seconds_nonneg _) climbing cruising rfl started
  apply And.intro
  · intro lasting
    have millisecond : 1 / 1000 < climbTime := by
      rw [← climbing, lt_div_iff₀ fast]
      linarith
    obtain ⟨upMs, late⟩ := exists_positivePhase_ms (sub_nonneg.mpr millisecond.le) (by linarith) short
      instanceIndex
    obtain ⟨downMs, after⟩ := @exists_positivePhase_ms ℝ _ _ _ _ (climbTime + cruiseTime) _
      (by linarith) (by linarith) short instanceIndex
    rw [sub_add_cancel] at late
    obtain ⟨height, rising⟩ := (parts upMs (by linarith [late.1])).1 late.2
    obtain ⟨_, falling⟩ :=
      (parts downMs (by linarith [after.1])).2.2 (by linarith [after.1]) after.1
    have up := samples upMs
    have down := samples downMs
    refine ⟨?_, ?_, ?_⟩
    · have altitude := up.altitude
      have reached := mul_le_mul_of_nonneg_right late.1 fast.le
      have top : climbTime * config.verticalSpeedMps.number = config.altitudeM.number := by
        rw [← climbing, div_mul_cancel₀ _ fast.ne']
      rw [height] at altitude
      rw [sub_mul, top] at reached
      linarith
    · rw [← rising]
      exact up.climb
    · rw [← falling]
      exact down.climb
  · intro present
    have lasting : 1 / 1000 ≤ cruiseTime := by
      have one : 1 ≤ config.cruiseTimeMs.toNat := by
        rw [Nat.one_le_iff_ne_zero]
        exact fun zero => present (UInt32.toNat_inj.mp zero)
      have cast : (1 : ℝ) ≤ (config.cruiseTimeMs.toNat : ℝ) := by exact_mod_cast one
      rw [← cruising]
      linarith
    obtain ⟨topMs, inside⟩ := exists_positivePhase_ms climb.le (by linarith) short instanceIndex
    have top := (parts topMs (climb.trans_le inside.1)).2.1 inside.1 (by linarith [inside.2])
    rw [← top]
    exact (samples topMs).altitude

theorem nearly_of_samples (onGlobe : site.OnGlobe) (valid : config.valid = true)
    (short : config.period realLibm ≤ (2 : ℝ) ^ 53)
    (samples : ∀ elapsedMs : UInt64, (motionAt realLibm config ((elapsedMs.toNat : ℝ) / 1000)
      instanceIndex).Admissible realLibm site protocol) :
    config.NearlyWithinLimits realLibm site protocol := by
  have checks := valid
  unfold TrajectoryConfig.valid at checks
  unfold TrajectoryConfig.period at short
  unfold motionAt at samples
  unfold TrajectoryConfig.NearlyWithinLimits
  cases kind : config.type with
  | hover => trivial
  | line =>
    rw [kind] at checks short samples
    simp only [Bool.and_eq_true] at checks
    exact line_of_samples onGlobe checks.1.1.1.1.2 short samples
  | circle =>
    rw [kind] at checks short samples
    simp only [Bool.and_eq_true] at checks
    exact circle_of_samples checks.1.2 checks.1.1 short samples
  | rectangle =>
    rw [kind] at checks short samples
    simp only [Bool.and_eq_true] at checks
    exact rectangle_of_samples checks.1.2 short samples
  | waypointLoop =>
    rw [kind] at short samples
    dsimp only
    intro leg member along started within
    exact waypoints_of_samples (validLoop kind valid) short samples member started within
  | takeoffCruiseLand =>
    rw [kind] at checks short samples
    simp only [Bool.and_eq_true] at checks
    exact mission_of_samples checks.1 checks.2 short samples
  | other raw unknown => trivial

end

end RidFirmware
