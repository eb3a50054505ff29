import RidFirmware.Lib.Polyline
import RidFirmware.Trajectory.Sampling
import RidFirmware.Trajectory.Unbroken

/-! When a loop of waypoints makes no jump. A leg that only climbs is skipped, so an aircraft may leave a place
at another altitude than the one at which it came. -/

namespace RidFirmware
open Lib Lib.Ieee Lib.Path

section
variable {K : Type} [Field K]

inductive Axis where
  | east
  | north
  | up

def EnuPoint.place (point : EnuPoint) : Axis → K
  | .east => point.eastM.number
  | .north => point.northM.number
  | .up => point.upM.number

def Motion.place (motion : Motion K) : Axis → K
  | .east => motion.eastM
  | .north => motion.northM
  | .up => motion.altitudeM

def legOn (math : Libm K) (axis : Axis) (leg : EnuPoint × EnuPoint) : Piece K :=
  ⟨leg.1.place axis, leg.2.place axis, segmentLength math leg⟩

theorem exists_legs_linked {β : Type} [Inhabited β] (config : TrajectoryConfig) (view : EnuPoint → β) :
    ∃ first, Linked (fun leg => view leg.1) (fun leg => view leg.2) first config.legs first := by
  have finishes : config.legs.map (fun leg => view leg.2) = (config.waypoints.rotate 1).map view := by
    rw [← TrajectoryConfig.legs_ends, List.map_map]
    rfl
  have begins : config.legs.map (fun leg => view leg.1) = config.waypoints.map view := by
    rw [← TrajectoryConfig.legs_starts, List.map_map]
    rfl
  unfold Linked
  rw [finishes, begins]
  cases config.waypoints with
  | nil => exact ⟨default, rfl⟩
  | cons front others => exact ⟨view front, by simp⟩

theorem flown_linked {β : Type} [Inhabited β] {config : TrajectoryConfig} (view : EnuPoint → β)
    (resting : ∀ leg ∈ config.legs, hasExtent leg = false → view leg.1 = view leg.2) :
    config.flown.map (fun leg => view leg.2) = (config.flown.map (fun leg => view leg.1)).rotate 1 := by
  obtain ⟨first, linked⟩ := exists_legs_linked config view
  exact (linked_filter linked resting).loop

variable [LinearOrder K] [IsStrictOrderedRing K] {math : Libm K} {config : TrajectoryConfig}

omit [IsStrictOrderedRing K] in
theorem totalLength_flown (measures : math.MeasuresLegs) {legs : List (EnuPoint × EnuPoint)}
    (extents : ∀ leg ∈ legs, hasExtent leg = true ↔ 0 < segmentLength math leg) (axis : Axis) :
    totalLength ((legs.filter hasExtent).map (legOn math axis)) = (legs.map (segmentLength math)).sum := by
  induction legs with
  | nil => rfl
  | cons leg rest ih =>
    have onward := ih (fun other member => extents other (List.mem_cons_of_mem leg member))
    rw [List.map_cons, List.sum_cons, ← onward]
    by_cases long : hasExtent leg = true
    · rw [List.filter_cons_of_pos long, List.map_cons, totalLength_cons]
      rfl
    · have flat : segmentLength math leg = 0 := by
        apply le_antisymm _ (measures.nonneg _ _)
        exact not_lt.mp (fun positive => long ((extents leg List.mem_cons_self).mpr positive))
      rw [List.filter_cons_of_neg long, flat, zero_add]

variable [FloorRing K]

omit [IsStrictOrderedRing K] in
theorem alongLeg_place (speed : K) (leg : EnuPoint × EnuPoint) (distance : K) (axis : Axis) :
    (alongLeg math speed leg distance).place axis = (legOn math axis leg).value distance := by
  cases axis <;> rfl

omit [IsStrictOrderedRing K] in
theorem walkLegs_place {legs : List (EnuPoint × EnuPoint)}
    (extents : ∀ leg ∈ legs, hasExtent leg = true ↔ 0 < segmentLength math leg) (speed distance : K)
    (beyond : Motion K) (axis : Axis) :
    ((walkLegs math speed legs distance).getD beyond).place axis =
      walk (beyond.place axis) ((legs.filter hasExtent).map (legOn math axis)) distance := by
  induction legs generalizing distance with
  | nil => rfl
  | cons leg rest ih =>
    have onward := ih (fun other member => extents other (List.mem_cons_of_mem leg member))
    have extent := extents leg List.mem_cons_self
    unfold walkLegs
    dsimp only
    by_cases long : hasExtent leg = true
    · rw [if_neg (not_le.mpr (extent.mp long)), List.filter_cons_of_pos long, List.map_cons]
      unfold walk legOn
      dsimp only
      by_cases within : distance ≤ segmentLength math leg
      · rw [if_pos within, if_pos within, Option.getD_some, alongLeg_place]
        rfl
      · rw [if_neg within, if_neg within]
        exact onward _
    · rw [if_pos (not_lt.mp (fun positive => long (extent.mpr positive))), List.filter_cons_of_neg long]
      exact onward _

section
variable (measures : math.MeasuresLegs) (valid : ValidLoop config)
include measures valid

omit [FloorRing K] in
theorem legOn_length_pos (axis : Axis) : ∀ piece ∈ config.flown.map (legOn math axis), 0 < piece.length := by
  intro piece member
  obtain ⟨leg, flies, rfl⟩ := List.mem_map.mp member
  obtain ⟨isLeg, long⟩ := List.mem_filter.mp flies
  exact (hasExtent_iff measures valid isLeg).mp long

omit [FloorRing K] in
theorem loopLength_eq (axis : Axis) :
    (config.legs.map (segmentLength math)).sum = totalLength (config.flown.map (legOn math axis)) :=
  (totalLength_flown measures (fun _ member => hasExtent_iff measures valid member) axis).symm

theorem sampleWaypoints_place :
    ∃ beyond : Motion K, ∀ seconds instanceIndex axis,
      (sampleWaypoints math config seconds instanceIndex).place axis =
        walk (beyond.place axis) (config.flown.map (legOn math axis)) (positivePhase seconds
          (totalLength (config.flown.map (legOn math axis)) / config.speedMps.number) instanceIndex *
            config.speedMps.number) := by
  obtain ⟨front, sampled⟩ :=
    sampleWaypoints_eq math valid.speed valid.enough (loopLength_pos measures valid)
  refine ⟨front.hold config.speedMps.number, ?_⟩
  intro seconds instanceIndex axis
  rw [sampled, walkLegs_place (fun _ member => hasExtent_iff measures valid member),
    loopLength_eq measures valid axis]
  rfl

/-- On an axis a loop makes no jump exactly if each leg with an extent starts where the one before it
ended. -/
theorem axis_steady_iff (axis : Axis) :
    (∃ rate, ∀ instanceIndex, SteadyOn (Set.Ici (0 : K)) rate
      (fun seconds => (sampleWaypoints math config seconds instanceIndex).place axis)) ↔
      config.flown.map (fun leg => (leg.2.place axis : K)) =
        (config.flown.map (fun leg => leg.1.place axis)).rotate 1 := by
  have fast : (0 : K) < config.speedMps.number := finitePositive_number valid.speed
  have long := legOn_length_pos measures valid axis
  have pieces_ne : config.flown.map (legOn math axis) ≠ [] := by simpa using flown_ne valid
  obtain ⟨beyond, sampled⟩ := sampleWaypoints_place measures valid
  simp only [sampled]
  have joints := @walk_steady_iff K _ _ _ (beyond.place axis) _ long pieces_ne
  rw [List.map_map, List.map_map] at joints
  refine Iff.trans ?_ joints
  apply Iff.intro
  · rintro ⟨rate, steady⟩
    obtain ⟨near, slope, started, ends, ending⟩ := @walk_ending K _ _ _ (beyond.place axis) _ long pieces_ne
    exact steady_of_travelled fast (steady 0) started ends ending
  · rintro ⟨rate, steady, closed⟩
    refine ⟨rate * config.speedMps.number, ?_⟩
    intro instanceIndex
    exact travelled_steady (totalLength_pos long pieces_ne) fast steady closed instanceIndex

end

end

/-! Over the real numbers, where limits are. -/

section
variable {math : Libm ℝ} {config : TrajectoryConfig}

/-- A flight without jumps, for all instances at one rate on each axis, which in every loop comes as near as
one likes to each waypoint at its altitude. -/
def TrajectoryConfig.Unbroken (math : Libm ℝ) (config : TrajectoryConfig) : Prop :=
  (∃ rate, ∀ instanceIndex axis, SteadyOn (Set.Ici 0) rate
    (fun seconds => (motionAt math config seconds instanceIndex).place axis)) ∧
  ∀ instanceIndex, ∀ point ∈ config.waypoints, ∀ start, 0 ≤ start →
    point.place ∈ closure ((fun seconds => (motionAt math config seconds instanceIndex).place) ''
      Set.Ico start (start + config.period math))

/-- Legs without extent do not matter: around the loop each leg with an extent starts at the altitude at
which the one before it ended, and every waypoint is on the straight line of such a leg. -/
structure TrajectoryConfig.Connected (config : TrajectoryConfig) : Prop where
  level : config.flown.map (fun leg => (leg.2.upM.number : ℝ)) =
    (config.flown.map (fun leg => leg.1.upM.number)).rotate 1
  passed : ∀ point ∈ config.waypoints, ∃ leg ∈ config.flown,
    (point.place : Axis → ℝ) ∈ segment ℝ leg.1.place leg.2.place

theorem alongLeg_place_ratio {leg : EnuPoint × EnuPoint} (extent : 0 < segmentLength math leg)
    (speed ratio : ℝ) :
    (alongLeg math speed leg (ratio * segmentLength math leg)).place =
      leg.1.place + ratio • (leg.2.place - leg.1.place) := by
  funext axis
  rw [alongLeg_place]
  unfold legOn Piece.value
  dsimp only
  rw [mul_div_cancel_right₀ _ extent.ne']
  simp [mul_comm]

theorem loop_period (loop : config.type = .waypointLoop) :
    config.period math = (config.legs.map (segmentLength math)).sum / config.speedMps.number := by
  unfold TrajectoryConfig.period
  rw [loop]

section
variable (measures : math.MeasuresLegs) (valid : ValidLoop config)
include measures valid

theorem near_loop_iff (kind : config.type = .waypointLoop) {start : ℝ} (late : 0 ≤ start)
    (instanceIndex : UInt16) (point : Axis → ℝ) :
    point ∈ closure ((fun seconds => (sampleWaypoints math config seconds instanceIndex).place) ''
        Set.Ico start (start + config.period math)) ↔
      ∃ leg ∈ config.flown, point ∈ segment ℝ leg.1.place leg.2.place := by
  have loop := loopLength_pos measures valid
  rw [loop_period kind]
  generalize lasting : (config.legs.map (segmentLength math)).sum / config.speedMps.number = period
  have inside : ∀ x ∈ (fun seconds => (sampleWaypoints math config seconds instanceIndex).place) ''
      Set.Ico start (start + period),
      ∃ leg ∈ config.flown.map (fun leg => (leg.1.place, leg.2.place)), x ∈ segment ℝ leg.1 leg.2 := by
    rintro _ ⟨seconds, window, rfl⟩
    obtain ⟨leg, member, extent, along, started, within, sampled⟩ := sampleWaypoints_along math valid.speed
      valid.enough loop (late.trans window.1) instanceIndex
    have flies : leg ∈ config.flown :=
      List.mem_filter.mpr ⟨member, (hasExtent_iff measures valid member).mpr extent⟩
    refine ⟨(leg.1.place, leg.2.place), List.mem_map_of_mem flies, ?_⟩
    have ratio : along = along / segmentLength math leg * segmentLength math leg :=
      (div_mul_cancel₀ along extent.ne').symm
    dsimp only
    rw [sampled, ratio, alongLeg_place_ratio extent, segment_eq_image']
    exact ⟨_, ⟨div_nonneg started extent.le, (div_le_one extent).mpr within⟩, rfl⟩
  have reached : ∀ leg ∈ config.flown.map (fun leg => ((leg.1.place : Axis → ℝ), leg.2.place)),
      openSegment ℝ leg.1 leg.2 ⊆
        (fun seconds => (sampleWaypoints math config seconds instanceIndex).place) ''
          Set.Ico start (start + period) := by
    intro ends isEnds
    obtain ⟨leg, flies, rfl⟩ := List.mem_map.mp isEnds
    obtain ⟨member, long⟩ := List.mem_filter.mp flies
    have extent := (hasExtent_iff measures valid member).mp long
    rw [openSegment_eq_image']
    rintro _ ⟨ratio, ⟨positive, below⟩, rfl⟩
    obtain ⟨seconds, window, sampled⟩ := sampleWaypoints_reaches math valid.speed valid.enough loop
      (fun other => measures.nonneg _ _) member (mul_pos positive extent)
      ((mul_lt_iff_lt_one_left extent).mpr below) late instanceIndex
    rw [lasting] at window
    refine ⟨seconds, window, ?_⟩
    dsimp only
    rw [sampled, alongLeg_place_ratio extent]
  rw [mem_closure_iff_mem_segment inside reached]
  simp

theorem level_of_unbroken (loop : config.type = .waypointLoop) (unbroken : config.Unbroken math) :
    config.flown.map (fun leg => (leg.2.upM.number : ℝ)) =
      (config.flown.map (fun leg => leg.1.upM.number)).rotate 1 := by
  obtain ⟨⟨rate, steady⟩, _⟩ := unbroken
  unfold motionAt at steady
  simp only [loop] at steady
  exact (axis_steady_iff measures valid .up).mp ⟨rate, fun instanceIndex => steady instanceIndex .up⟩

theorem connected_of_unbroken (loop : config.type = .waypointLoop) (unbroken : config.Unbroken math) :
    config.Connected := by
  refine ⟨level_of_unbroken measures valid loop unbroken, ?_⟩
  intro point member
  have near := unbroken.2 0 point member 0 (le_refl 0)
  unfold motionAt at near
  simp only [loop] at near
  exact (near_loop_iff measures valid loop (le_refl 0) 0 point.place).mp near

theorem unbroken_of_connected (loop : config.type = .waypointLoop) (connected : config.Connected) :
    config.Unbroken math := by
  unfold TrajectoryConfig.Unbroken motionAt
  simp only [loop]
  apply And.intro
  · -- on the ground the legs that are flown always follow each other
    have eastward := flown_linked (fun point => (point.place .east : ℝ)) (fun leg member flat =>
      ((hasExtent_eq_false_iff valid member).mp flat).1)
    have northward := flown_linked (fun point => (point.place .north : ℝ)) (fun leg member flat =>
      ((hasExtent_eq_false_iff valid member).mp flat).2)
    obtain ⟨east, eastSteady⟩ := (axis_steady_iff measures valid .east).mpr eastward
    obtain ⟨north, northSteady⟩ := (axis_steady_iff measures valid .north).mpr northward
    obtain ⟨up, upSteady⟩ := (axis_steady_iff measures valid .up).mpr connected.level
    refine ⟨max east (max north up), ?_⟩
    intro instanceIndex axis
    cases axis with
    | east => exact (eastSteady instanceIndex).faster (le_max_left _ _)
    | north => exact (northSteady instanceIndex).faster ((le_max_left _ _).trans (le_max_right _ _))
    | up => exact (upSteady instanceIndex).faster ((le_max_right _ _).trans (le_max_right _ _))
  · intro instanceIndex point member start late
    exact (near_loop_iff measures valid loop late instanceIndex point.place).mpr (connected.passed point member)

omit measures in
theorem connected_of_resting
    (resting : ∀ leg ∈ config.legs, hasExtent leg = false → (leg.1.upM.number : ℝ) = leg.2.upM.number) :
    config.Connected := by
  refine ⟨flown_linked (fun point => (point.upM.number : ℝ)) resting, ?_⟩
  have places : ∀ leg ∈ config.legs, hasExtent leg = false → (leg.1.place : Axis → ℝ) = leg.2.place := by
    intro leg member flat
    have ground : (leg.1.eastM.number : ℝ) = leg.2.eastM.number ∧
        (leg.1.northM.number : ℝ) = leg.2.northM.number := (hasExtent_eq_false_iff valid member).mp flat
    funext axis
    cases axis with
    | east => exact ground.1
    | north => exact ground.2
    | up => exact resting leg member flat
  intro point member
  obtain ⟨leg, isLeg, rfl⟩ := TrajectoryConfig.starts_leg member
  obtain ⟨first, linked⟩ := exists_legs_linked config (fun point => (point.place : Axis → ℝ))
  obtain ⟨kept, flies, same⟩ := linked.exists_kept places (flown_ne valid) leg isLeg
  refine ⟨kept, flies, ?_⟩
  rw [← same]
  exact left_mem_segment ℝ _ _

end

def pausedLoop : TrajectoryConfig where
  type := .waypointLoop
  speedMps := ⟨0x41200000⟩
  waypoints := [⟨⟨0⟩, ⟨0⟩, ⟨0x41200000⟩⟩, ⟨⟨0x42c80000⟩, ⟨0⟩, ⟨0x41200000⟩⟩,
    ⟨⟨0x42c80000⟩, ⟨0⟩, ⟨0x41200000⟩⟩, ⟨⟨0x42c80000⟩, ⟨0x42c80000⟩, ⟨0x42480000⟩⟩]

/-- A tower of 40 m at the first of two places: climbed in no time, and left out on the way down. -/
def towerLoop : TrajectoryConfig where
  type := .waypointLoop
  speedMps := ⟨0x41200000⟩
  waypoints := [⟨⟨0⟩, ⟨0⟩, ⟨0x41200000⟩⟩, ⟨⟨0⟩, ⟨0⟩, ⟨0x42480000⟩⟩, ⟨⟨0x42c80000⟩, ⟨0⟩, ⟨0x42480000⟩⟩]

/-- A loop of waypoints makes no jump exactly if its legs with an extent follow each other in altitude and
pass every waypoint. -/
theorem loop_unbroken_iff (measures : math.MeasuresLegs) (loop : config.type = .waypointLoop)
    (accepted : config.valid = true) : config.Unbroken math ↔ config.Connected :=
  ⟨connected_of_unbroken measures (validLoop loop accepted) loop,
    unbroken_of_connected measures (validLoop loop accepted) loop⟩

theorem loop_unbroken_iff_pausedLoop : pausedLoop.Unbroken realLibm := by
  have accepted : pausedLoop.valid = true := by decide +kernel
  apply (loop_unbroken_iff realLibm_measures rfl accepted).mpr
  apply connected_of_resting (validLoop rfl accepted)
  have level : ∀ leg ∈ pausedLoop.legs, hasExtent leg = false → leg.1.upM = leg.2.upM := by decide +kernel
  intro leg member flat
  rw [level leg member flat]

/-- The aircraft comes down at 10 m to the place that it leaves at 50 m. -/
theorem towerLoop_jumps : towerLoop.valid = true ∧ ¬towerLoop.Unbroken realLibm := by
  have accepted : towerLoop.valid = true := by decide +kernel
  apply And.intro accepted
  intro unbroken
  have level := level_of_unbroken realLibm_measures (validLoop rfl accepted) rfl unbroken
  have flown : towerLoop.flown = towerLoop.legs.tail := by decide +kernel
  rw [flown] at level
  have ends : (Float32Bits.number ⟨0x41200000⟩ : ℝ) = Float32Bits.number ⟨0x42480000⟩ := by
    simpa [towerLoop, TrajectoryConfig.legs] using level
  exact absurd (Rat.cast_injective ends) (by decide +kernel)

end

end RidFirmware
