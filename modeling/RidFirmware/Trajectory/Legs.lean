import RidFirmware.Trajectory.Flight

/-! The legs of a loop of waypoints that `valid` accepts. Those with a horizontal extent are the ones that have a
length, and there are some. -/

namespace RidFirmware
open Lib Lib.Ieee Lib.Path

section
variable {config : TrajectoryConfig}

theorem TrajectoryConfig.legs_starts : config.legs.map Prod.fst = config.waypoints := by
  apply List.map_fst_zip
  rw [List.length_rotate]

theorem TrajectoryConfig.legs_ends : config.legs.map Prod.snd = config.waypoints.rotate 1 := by
  apply List.map_snd_zip
  rw [List.length_rotate]

theorem TrajectoryConfig.ends_mem {leg : EnuPoint × EnuPoint} (member : leg ∈ config.legs) :
    leg.1 ∈ config.waypoints ∧ leg.2 ∈ config.waypoints := by
  have ends := List.of_mem_zip member
  exact ⟨ends.1, List.mem_rotate.mp ends.2⟩

theorem TrajectoryConfig.starts_leg {point : EnuPoint} (member : point ∈ config.waypoints) :
    ∃ leg ∈ config.legs, leg.1 = point := by
  rw [← TrajectoryConfig.legs_starts] at member
  exact List.mem_map.mp member

/-- What `valid` asks of a loop of waypoints. -/
structure ValidLoop (config : TrajectoryConfig) : Prop where
  speed : finitePositive config.speedMps = true
  enough : 2 ≤ config.waypoints.length
  finite : ∀ point ∈ config.waypoints, point.eastM.datum.isFinite = true ∧
    point.northM.datum.isFinite = true ∧ finiteNonnegative point.upM = true
  horizontal : ∃ leg ∈ config.legs, leg.1.eastM.datum.same leg.2.eastM.datum = false ∨
    leg.1.northM.datum.same leg.2.northM.datum = false

theorem validLoop (loop : config.type = .waypointLoop) (valid : config.valid = true) :
    ValidLoop config := by
  unfold TrajectoryConfig.valid at valid
  rw [loop] at valid
  simp only [Bool.and_eq_true, decide_eq_true_eq, List.all_eq_true, List.any_eq_true, Bool.or_eq_true,
    Bool.not_eq_true'] at valid
  obtain ⟨⟨⟨speed, enough⟩, finite⟩, horizontal⟩ := valid
  refine ⟨speed, enough, ?_, horizontal⟩
  intro point member
  obtain ⟨leg, isLeg, rfl⟩ := TrajectoryConfig.starts_leg member
  exact and_assoc.mp (finite leg isLeg)

/-- The part of `valid` for one leg: its ends are at different places on the ground. -/
def hasExtent (leg : EnuPoint × EnuPoint) : Bool :=
  !leg.1.eastM.datum.same leg.2.eastM.datum || !leg.1.northM.datum.same leg.2.northM.datum

/-- The legs with a horizontal extent, in the order of the loop. -/
def TrajectoryConfig.flown (config : TrajectoryConfig) : List (EnuPoint × EnuPoint) :=
  config.legs.filter hasExtent

theorem flown_ne (valid : ValidLoop config) : config.flown ≠ [] := by
  obtain ⟨leg, member, apart⟩ := valid.horizontal
  have extent : hasExtent leg = true := by
    unfold hasExtent
    rcases apart with east | north
    · simp [east]
    · simp [north]
  exact List.ne_nil_of_mem (List.mem_filter.mpr ⟨member, extent⟩)

variable {K : Type} [Field K] [LinearOrder K]

/-- What is relied on of `hypot`: a length, which is zero only without any extent. -/
structure Libm.MeasuresLegs (math : Libm K) : Prop where
  nonneg : ∀ x y, 0 ≤ math.hypot x y
  zero_iff : ∀ x y, math.hypot x y = 0 ↔ x = 0 ∧ y = 0

variable [IsStrictOrderedRing K] {math : Libm K}

theorem same_iff_number {x y : Float32Bits} (finite : x.datum.isFinite = true)
    (finite' : y.datum.isFinite = true) :
    x.datum.same y.datum = true ↔ (x.number : K) = y.number := by
  rw [Datum.eq_finite_of_isFinite finite, Datum.eq_finite_of_isFinite finite', Datum.same_finite,
    decide_eq_true_eq]
  exact Rat.cast_inj.symm

theorem hasExtent_eq_false_iff (valid : ValidLoop config) {leg : EnuPoint × EnuPoint}
    (member : leg ∈ config.legs) :
    hasExtent leg = false ↔
      (leg.1.eastM.number : K) = leg.2.eastM.number ∧ (leg.1.northM.number : K) = leg.2.northM.number := by
  obtain ⟨start, finish⟩ := TrajectoryConfig.ends_mem member
  obtain ⟨east, north, _⟩ := valid.finite leg.1 start
  obtain ⟨east', north', _⟩ := valid.finite leg.2 finish
  unfold hasExtent
  rw [Bool.or_eq_false_iff, Bool.not_eq_false', Bool.not_eq_false', @same_iff_number K _ _ _ _ _ east east',
    @same_iff_number K _ _ _ _ _ north north']

theorem hasExtent_iff (measures : math.MeasuresLegs) (valid : ValidLoop config)
    {leg : EnuPoint × EnuPoint} (member : leg ∈ config.legs) :
    hasExtent leg = true ↔ 0 < segmentLength math leg := by
  have flat : hasExtent leg = false ↔ segmentLength math leg = 0 := by
    have ground : hasExtent leg = false ↔ (leg.1.eastM.number : K) = leg.2.eastM.number ∧
        (leg.1.northM.number : K) = leg.2.northM.number := hasExtent_eq_false_iff valid member
    unfold segmentLength
    rw [ground, measures.zero_iff, sub_eq_zero, sub_eq_zero]
    exact and_congr eq_comm eq_comm
  have nonneg : 0 ≤ segmentLength math leg := measures.nonneg _ _
  rw [nonneg.lt_iff_ne', ne_eq, ← flat, Bool.not_eq_false]

theorem loopLength_pos (measures : math.MeasuresLegs) (valid : ValidLoop config) :
    0 < (config.legs.map (segmentLength math)).sum := by
  obtain ⟨leg, flies⟩ := List.exists_mem_of_ne_nil _ (flown_ne valid)
  obtain ⟨member, long⟩ := List.mem_filter.mp flies
  have part : segmentLength math leg ≤ (config.legs.map (segmentLength math)).sum := by
    apply List.single_le_sum
    · intro length isLength
      obtain ⟨other, _, rfl⟩ := List.mem_map.mp isLength
      exact measures.nonneg _ _
    · exact List.mem_map_of_mem member
  exact ((hasExtent_iff measures valid member).mp long).trans_le part

end

end RidFirmware
