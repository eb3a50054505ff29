import RidFirmware.Trajectory.Engine

/-! What a whole flight passes through: every phase of its period, and on the map the straight lines
between the points of its trajectory. -/

namespace RidFirmware
open Lib Lib.Ieee Lib.Path

section
variable {K : Type} [Field K] [LinearOrder K] [IsStrictOrderedRing K]

theorem seconds_nonneg (milliseconds : Nat) : (0 : K) ≤ milliseconds / 1000 :=
  div_nonneg (Nat.cast_nonneg _) (by norm_num)

/-! Phases. -/

section
variable [FloorRing K]

theorem normalizeHeading_mem (headingDeg : K) : normalizeHeading headingDeg ∈ Set.Ico 0 360 := by
  have full : (0 : K) < 360 := by norm_num
  unfold normalizeHeading
  dsimp only
  by_cases nonneg : 0 ≤ headingDeg
  · have low := fmod_nonneg nonneg full
    rw [if_neg (not_lt.mpr low)]
    exact ⟨low, fmod_lt nonneg full⟩
  · have positive : 0 ≤ -headingDeg := by linarith
    have low := fmod_nonneg positive full
    have high := fmod_lt positive full
    have mirrored := fmod_neg (-headingDeg) 360
    rw [neg_neg] at mirrored
    rw [mirrored]
    split_ifs with negative
    · exact ⟨by linarith, by linarith⟩
    · exact ⟨not_lt.mp negative, by linarith⟩

theorem exists_offset {period : K} (positive : 0 < period) (instanceIndex : UInt16) :
    ∃ offset, 0 ≤ offset ∧ ∀ seconds : K,
      positivePhase seconds period instanceIndex = fmod (seconds + offset) period := by
  refine ⟨period * ((instanceIndex.toNat % 50 : Nat) / 50 : K),
    mul_nonneg positive.le (div_nonneg (Nat.cast_nonneg _) (by norm_num)), ?_⟩
  intro seconds
  unfold positivePhase
  rw [if_neg (not_le.mpr positive)]

theorem positivePhase_mem {seconds period : K} (later : 0 ≤ seconds) (positive : 0 < period)
    (instanceIndex : UInt16) : positivePhase seconds period instanceIndex ∈ Set.Ico 0 period := by
  obtain ⟨offset, ahead, phase⟩ := exists_offset positive instanceIndex
  rw [phase]
  exact ⟨fmod_nonneg (add_nonneg later ahead) positive, fmod_lt (add_nonneg later ahead) positive⟩

theorem exists_start {period : K} (positive : 0 < period) (instanceIndex : UInt16) :
    ∃ start, 0 ≤ start ∧ start ≤ period ∧
      ∀ phase ∈ Set.Ico 0 period, positivePhase (start + phase) period instanceIndex = phase := by
  obtain ⟨offset, ahead, phases⟩ := exists_offset positive instanceIndex
  obtain ⟨turn, inside, reached⟩ := exists_turn positive ahead
  refine ⟨turn, inside.1, inside.2.le, ?_⟩
  intro phase hphase
  rw [phases]
  simpa using reached 0 phase hphase

theorem exists_positivePhase_from {phase period start : K} (inside : phase ∈ Set.Ico 0 period)
    (late : 0 ≤ start) (instanceIndex : UInt16) :
    ∃ seconds ∈ Set.Ico start (start + period), positivePhase seconds period instanceIndex = phase := by
  obtain ⟨offset, ahead, phases⟩ := exists_offset (inside.1.trans_lt inside.2) instanceIndex
  obtain ⟨seconds, window, reached⟩ := exists_fmod_eq inside late ahead
  exact ⟨seconds, window, (phases seconds).trans reached⟩

theorem exists_positivePhase {phase period : K} (inside : phase ∈ Set.Ico 0 period)
    (instanceIndex : UInt16) :
    ∃ seconds, 0 ≤ seconds ∧ positivePhase seconds period instanceIndex = phase := by
  obtain ⟨seconds, window, reached⟩ := exists_positivePhase_from inside (le_refl 0) instanceIndex
  exact ⟨seconds, window.1, reached⟩

/-- Every phase comes up at a whole millisecond, or at most a millisecond after it. A period of 2^53
seconds is over before the 64 bits of the time are. -/
theorem exists_positivePhase_ms {phase period : K} (nonneg : 0 ≤ phase)
    (room : phase + 1 / 1000 ≤ period) (short : period ≤ 2 ^ 53) (instanceIndex : UInt16) :
    ∃ elapsedMs : UInt64, positivePhase ((elapsedMs.toNat : K) / 1000) period instanceIndex ∈
      Set.Ico phase (phase + 1 / 1000) := by
  obtain ⟨start, later, within, phases⟩ := @exists_start K _ _ _ _ period (by linarith) instanceIndex
  have whole : 0 ≤ 1000 * (start + phase) := by linarith
  have low := Nat.le_ceil (1000 * (start + phase))
  have high := Nat.ceil_lt_add_one whole
  generalize ⌈1000 * (start + phase)⌉₊ = count at low high
  have small : count < 2 ^ 64 := by
    have bound : (count : K) < 2 ^ 64 := by linarith
    exact_mod_cast bound
  have time : (count : K) / 1000 = start + (count / 1000 - start) := by ring
  have inside : (count : K) / 1000 - start ∈ Set.Ico phase (phase + 1 / 1000) :=
    ⟨by linarith, by linarith⟩
  refine ⟨UInt64.ofNat count, ?_⟩
  rw [UInt64.toNat_ofNat_of_lt' small, time, phases _ ⟨nonneg.trans inside.1, inside.2.trans_le room⟩]
  exact inside

end

/-! The map. -/

def GeoPoint.OnGlobe (point : GeoPoint K) : Prop :=
  point.latitudeDeg ∈ Set.Icc (-90) 90 ∧ point.longitudeDeg ∈ Set.Icc (-180) 180

variable (math : Libm K)

/-- The place which is so far east and north of the site has coordinates. -/
def OnMap (site : GeoPoint K) (eastM northM : K) : Prop := (enuToWgs84 math site eastM northM).OnGlobe

variable {math} {site : GeoPoint K}

omit [LinearOrder K] [IsStrictOrderedRing K] in
theorem enuToWgs84_affine (math : Libm K) (site : GeoPoint K) :
    ∃ perNorth perEast : K, ∀ eastM northM, enuToWgs84 math site eastM northM =
      ⟨site.latitudeDeg + northM * perNorth, site.longitudeDeg + eastM * perEast⟩ := by
  have scaled : ∀ radius metres : K, metres / radius * 180 / kPi = metres * (180 / kPi / radius) := by
    intro radius metres
    ring
  obtain ⟨meridional, prime, position⟩ : ∃ meridional prime : K, ∀ eastM northM,
      enuToWgs84 math site eastM northM = ⟨site.latitudeDeg + northM / meridional * 180 / kPi,
        site.longitudeDeg + eastM / prime * 180 / kPi⟩ := ⟨_, _, fun _ _ => rfl⟩
  refine ⟨180 / kPi / meridional, 180 / kPi / prime, ?_⟩
  intro eastM northM
  rw [position, scaled, scaled]

theorem onMap_between {east₁ north₁ east₂ north₂ east north : K} (first : OnMap math site east₁ north₁)
    (second : OnMap math site east₂ north₂) (eastInside : east ∈ Set.uIcc east₁ east₂)
    (northInside : north ∈ Set.uIcc north₁ north₂) : OnMap math site east north := by
  obtain ⟨perNorth, perEast, affine⟩ := enuToWgs84_affine math site
  unfold OnMap at first second ⊢
  rw [affine] at first second ⊢
  exact ⟨Set.uIcc_subset_Icc first.1 second.1 (affine_mem_uIcc _ _ northInside),
    Set.uIcc_subset_Icc first.2 second.2 (affine_mem_uIcc _ _ eastInside)⟩

omit [IsStrictOrderedRing K] in
theorem onMap_exchange {east₁ north₁ east₂ north₂ : K} (first : OnMap math site east₁ north₁)
    (second : OnMap math site east₂ north₂) : OnMap math site east₁ north₂ := by
  obtain ⟨perNorth, perEast, affine⟩ := enuToWgs84_affine math site
  unfold OnMap at first second ⊢
  rw [affine] at first second ⊢
  exact ⟨second.1, first.2⟩

theorem onMap_ends {east₁ north₁ east₂ north₂ : K}
    (onTheWay : ∀ ratio, 0 < ratio → ratio < 1 →
      OnMap math site (east₁ + (east₂ - east₁) * ratio) (north₁ + (north₂ - north₁) * ratio)) :
    OnMap math site east₁ north₁ ∧ OnMap math site east₂ north₂ := by
  obtain ⟨perNorth, perEast, affine⟩ := enuToWgs84_affine math site
  have moved : ∀ offset first second ratio slope : K,
      offset + (first + (second - first) * ratio) * slope =
        (offset + first * slope) + ((offset + second * slope) - (offset + first * slope)) * ratio := by
    intro offset first second ratio slope
    ring
  unfold OnMap at onTheWay ⊢
  simp only [affine, moved] at onTheWay
  simp only [affine]
  have south := le_ends_of_le_lerp (fun ratio late early => (onTheWay ratio late early).1.1)
  have north := ends_le_of_lerp_le (fun ratio late early => (onTheWay ratio late early).1.2)
  have west := le_ends_of_le_lerp (fun ratio late early => (onTheWay ratio late early).2.1)
  have east := ends_le_of_lerp_le (fun ratio late early => (onTheWay ratio late early).2.2)
  exact ⟨⟨⟨south.1, north.1⟩, west.1, east.1⟩, ⟨south.2, north.2⟩, west.2, east.2⟩

omit [IsStrictOrderedRing K] in
theorem onMap_site (onGlobe : site.OnGlobe) : OnMap math site 0 0 := by
  obtain ⟨perNorth, perEast, affine⟩ := enuToWgs84_affine math site
  unfold OnMap
  rw [affine]
  simpa using onGlobe

end

/-! Legs. -/

section
variable {K : Type} [Field K] [LinearOrder K] [IsStrictOrderedRing K] [FloorRing K]
variable {math : Libm K} {speed : K}

theorem walkLegs_mem {legs : List (EnuPoint × EnuPoint)} {distance : K} (nonneg : 0 ≤ distance)
    (inside : distance < (legs.map (segmentLength math)).sum) :
    ∃ leg ∈ legs, 0 < segmentLength math leg ∧ ∃ along, 0 ≤ along ∧ along ≤ segmentLength math leg ∧
      walkLegs math speed legs distance = some (alongLeg math speed leg along) := by
  induction legs generalizing distance with
  | nil => exact absurd inside (not_lt.mpr nonneg)
  | cons leg rest ih =>
    rw [List.map_cons, List.sum_cons] at inside
    unfold walkLegs
    dsimp only
    by_cases flat : segmentLength math leg ≤ 0
    · rw [if_pos flat]
      obtain ⟨found, member, located⟩ := ih nonneg (by linarith)
      exact ⟨found, List.mem_cons_of_mem leg member, located⟩
    · rw [if_neg flat]
      by_cases here : distance ≤ segmentLength math leg
      · rw [if_pos here]
        exact ⟨leg, List.mem_cons_self, not_le.mp flat, distance, nonneg, here, rfl⟩
      · rw [if_neg here]
        obtain ⟨found, member, located⟩ :=
          @ih (distance - segmentLength math leg) (by linarith) (by linarith)
        exact ⟨found, List.mem_cons_of_mem leg member, located⟩

omit [FloorRing K] in
theorem sum_segmentLength_nonneg (nonneg : ∀ leg : EnuPoint × EnuPoint, 0 ≤ segmentLength math leg)
    (legs : List (EnuPoint × EnuPoint)) : 0 ≤ (legs.map (segmentLength math)).sum := by
  apply List.sum_nonneg
  intro length member
  obtain ⟨leg, _, rfl⟩ := List.mem_map.mp member
  exact nonneg leg

theorem walkLegs_append {before after : List (EnuPoint × EnuPoint)} {leg : EnuPoint × EnuPoint}
    {along : K} (nonneg : ∀ leg : EnuPoint × EnuPoint, 0 ≤ segmentLength math leg) (started : 0 < along)
    (within : along ≤ segmentLength math leg) :
    walkLegs math speed (before ++ leg :: after) ((before.map (segmentLength math)).sum + along) =
      some (alongLeg math speed leg along) := by
  induction before with
  | nil =>
    rw [List.map_nil, List.sum_nil, zero_add, List.nil_append]
    unfold walkLegs
    dsimp only
    rw [if_neg (by linarith), if_pos within]
  | cons first rest ih =>
    have covered : 0 ≤ (rest.map (segmentLength math)).sum := sum_segmentLength_nonneg nonneg rest
    rw [List.map_cons, List.sum_cons, List.cons_append]
    unfold walkLegs
    dsimp only
    by_cases flat : segmentLength math first ≤ 0
    · have zero : segmentLength math first = 0 := le_antisymm flat (nonneg first)
      rw [if_pos flat, zero, zero_add]
      exact ih
    · rw [if_neg flat, if_neg (by linarith)]
      have rest_distance : segmentLength math first + (rest.map (segmentLength math)).sum + along -
          segmentLength math first = (rest.map (segmentLength math)).sum + along := by ring
      rw [rest_distance]
      exact ih

end

end RidFirmware
