import RidFirmware.Runtime.EncodeErrors
import RidFirmware.Trajectory.Sampling

/-! The fleets whose every message can be encoded. -/

namespace RidFirmware
open Lib Lib.Ieee

/-- The trajectory of every group is within the limits of its protocol. -/
def SystemConfig.WithinLimits (config : SystemConfig) : Prop :=
  ∀ site ∈ config.site, ∀ group ∈ config.groups,
    group.trajectory.WithinLimits realLibm site.number group.protocol

/-- The altitude and the speed that a trajectory holds all the way. -/
def TrajectoryConfig.Level (protocol : Protocol) (config : TrajectoryConfig) : Prop :=
  match config.type with
  | .hover => config.altitudeM.number ≤ (altitudeCeiling protocol : ℝ)
  | .line | .circle | .rectangle =>
      config.altitudeM.number ≤ (altitudeCeiling protocol : ℝ) ∧
        SpeedInRange protocol (config.speedMps.number : ℝ)
  | .waypointLoop => SpeedInRange protocol (config.speedMps.number : ℝ)
  | .takeoffCruiseLand | .other _ _ => True

/-- Every flight state which an engine of the site samples for an aircraft is in the ranges of its
encoder, whatever the engine has sampled before. -/
def SamplesEncodable (config : SystemConfig) (aircraft : List AircraftConfig) : Prop :=
  ∀ site ∈ config.site, ∀ item ∈ aircraft, ∀ engine : TrajectoryEngine ℝ,
    engine.siteCenter = site.number → ∀ elapsedMs,
      encodable item.protocol (engine.sample realLibm (config.groupOf item).trajectory
        item.instanceIndex elapsedMs).1 = true

/-- The same at every instant, also between the milliseconds. -/
def InstantsEncodable (config : SystemConfig) (aircraft : List AircraftConfig) : Prop :=
  ∀ site ∈ config.site, ∀ item ∈ aircraft, ∀ seconds : ℝ, 0 ≤ seconds → ∀ elapsedMs,
    encodable item.protocol (flightState realLibm site.number
      (motionAt realLibm (config.groupOf item).trajectory seconds item.instanceIndex) elapsedMs) = true

theorem groupOf_of_found {config : SystemConfig} {item : AircraftConfig} {group : GroupConfig}
    (found : config.groups[item.groupIndex.toNat]? = some group) : config.groupOf item = group := by
  unfold SystemConfig.groupOf
  rw [List.getD_eq_getElem?_getD, found, Option.getD_some]

theorem samples_of_instants {config : SystemConfig} {aircraft : List AircraftConfig}
    (instants : InstantsEncodable config aircraft) : SamplesEncodable config aircraft := by
  intro site sited item member engine centred elapsedMs
  have later : (0 : ℝ) ≤ ((engine.extendElapsed item.instanceIndex elapsedMs).1.toNat : ℝ) / 1000 :=
    seconds_nonneg _
  rw [TrajectoryEngine.sample_state, centred]
  exact instants site sited item member _ later elapsedMs

section
variable {sha256 : Sha256} {config : SystemConfig} {device : DeviceId} {aircraft : List AircraftConfig}

theorem instants_iff_limits (expanded : validateAndExpand sha256 config device = .ok aircraft) :
    InstantsEncodable config aircraft ↔ config.WithinLimits := by
  have accepted := accepted_of_expand expanded
  have same : ∀ site ∈ config.site, ∀ item group,
      config.groups[item.groupIndex.toNat]? = some group → item.protocol = group.protocol →
      ((∀ seconds : ℝ, 0 ≤ seconds → ∀ elapsedMs, encodable item.protocol (flightState realLibm site.number
        (motionAt realLibm (config.groupOf item).trajectory seconds item.instanceIndex) elapsedMs) = true) ↔
        group.trajectory.WithinLimits realLibm site.number group.protocol) := by
    intro site sited item group found protocol
    have onGlobe := validSite_onGlobe (accepted.site_valid sited)
    have valid := (accepted.groups group (List.mem_of_getElem? found)).trajectory
    rw [groupOf_of_found found, protocol, ← motionAt_admissible_iff onGlobe valid group.protocol
      item.instanceIndex]
    apply forall_congr'
    intro seconds
    apply forall_congr'
    intro later
    have forward := motionAt_forward valid later item.instanceIndex
    apply Iff.intro
    · exact fun always => (encodable_iff_admissible forward group.protocol 0).mp (always 0)
    · exact fun admissible elapsedMs =>
        (encodable_iff_admissible forward group.protocol elapsedMs).mpr admissible
  apply Iff.intro
  · intro instants site sited group member
    obtain ⟨item, present, found, protocol⟩ := exists_expanded expanded member
    exact (same site sited item group found protocol).mp (instants site sited item present)
  · intro limits site sited item member
    obtain ⟨group, isMember⟩ := expanded_of_mem expanded member
    exact (same site sited item group isMember.found isMember.protocol).mpr
      (limits site sited group (List.mem_of_getElem? isMember.found))

theorem admissible_of_samples (expanded : validateAndExpand sha256 config device = .ok aircraft)
    (samples : SamplesEncodable config aircraft) {group : GroupConfig} (member : group ∈ config.groups) :
    ∃ instanceIndex, ∀ site ∈ config.site, ∀ elapsedMs : UInt64,
      (motionAt realLibm group.trajectory ((elapsedMs.toNat : ℝ) / 1000) instanceIndex).Admissible
        realLibm site.number group.protocol := by
  obtain ⟨item, present, found, protocol⟩ := exists_expanded expanded member
  have valid := ((accepted_of_expand expanded).groups group member).trajectory
  refine ⟨item.instanceIndex, ?_⟩
  intro site sited elapsedMs
  obtain ⟨engine, asked, centred, extended⟩ :=
    TrajectoryEngine.exists_extendElapsed (site.number : GeoPoint ℝ) item.instanceIndex elapsedMs
  have sampled := samples site sited item present engine centred asked
  rw [TrajectoryEngine.sample_state, centred, extended, groupOf_of_found found, protocol] at sampled
  have later : (0 : ℝ) ≤ (elapsedMs.toNat : ℝ) / 1000 := seconds_nonneg _
  exact (encodable_iff_admissible (motionAt_forward valid later item.instanceIndex) group.protocol
    asked).mp sampled

theorem level_of_samples (expanded : validateAndExpand sha256 config device = .ok aircraft)
    (samples : SamplesEncodable config aircraft) {group : GroupConfig} (member : group ∈ config.groups) :
    group.trajectory.Level group.protocol := by
  have accepted := accepted_of_expand expanded
  obtain ⟨site, sited, _⟩ := accepted.site
  have valid := (accepted.groups group member).trajectory
  obtain ⟨instanceIndex, admissible⟩ := admissible_of_samples expanded samples member
  have altitude := (admissible site sited 0).altitude
  have speed := (admissible site sited 0).speed
  have later : (0 : ℝ) ≤ ((0 : UInt64).toNat : ℝ) / 1000 := seconds_nonneg _
  unfold motionAt at altitude speed
  unfold TrajectoryConfig.Level
  cases kind : group.trajectory.type with
  | hover =>
    rw [kind] at altitude
    exact altitude
  | line =>
    rw [kind] at altitude speed
    exact ⟨altitude, speed⟩
  | circle =>
    rw [kind] at altitude speed
    exact ⟨altitude, speed⟩
  | rectangle =>
    rw [kind] at altitude speed
    obtain ⟨flown, moving, _⟩ := sampleRectangle_level group.trajectory
      (((0 : UInt64).toNat : ℝ) / 1000) instanceIndex
    dsimp only at altitude speed
    rw [flown] at altitude
    rw [moving] at speed
    exact ⟨altitude, speed⟩
  | waypointLoop =>
    have loop := validLoop kind valid
    obtain ⟨leg, _, _, along, _, _, sampled⟩ := sampleWaypoints_along realLibm loop.speed loop.enough
      loop.length_pos later instanceIndex
    rw [kind] at speed
    dsimp only at speed
    rw [sampled] at speed
    exact speed
  | takeoffCruiseLand => trivial
  | other raw unknown => trivial

/-! A runtime with the trajectory engine. -/

theorem apply_engine {Number Engine Sink : Type} {env : RuntimeEnv Number Engine Sink}
    {runtime : Runtime Engine} {config : SystemConfig} {startMs : Nat} {fleet : Fleet Engine}
    (running : (runtime.apply env config startMs).2.fleet = some fleet)
    (applied : (runtime.apply env config startMs).1 = .none) :
    fleet.engine = env.newEngine fleet.site := by
  obtain ⟨other, started, running'⟩ := apply_started applied
  rw [running, Option.some.injEq] at running'
  rw [running']
  exact started.engine

noncomputable def RuntimeEnv.withTrajectories {Sink : Type}
    (env : RuntimeEnv (Datum ℝ) (TrajectoryEngine ℝ) Sink) :
    RuntimeEnv (Datum ℝ) (TrajectoryEngine ℝ) Sink :=
  { env with
    newEngine := fun site => { siteCenter := site.number }
    sample := fun engine config instanceIndex elapsedMs =>
      engine.sample realLibm config instanceIndex elapsedMs }

section
variable {Sink : Type} {env : RuntimeEnv (Datum ℝ) (TrajectoryEngine ℝ) Sink}

theorem withTrajectories_sample (engine : TrajectoryEngine ℝ) (trajectory : TrajectoryConfig)
    (instanceIndex : UInt16) (elapsedMs : UInt32) :
    env.withTrajectories.sample engine trajectory instanceIndex elapsedMs =
      engine.sample realLibm trajectory instanceIndex elapsedMs := rfl

theorem sampledStates_encodable {aircraft : List AircraftConfig}
    (samples : SamplesEncodable config aircraft) {site : GeoPoint Float64Bits}
    (sited : config.site = some site) {engine : TrajectoryEngine ℝ}
    (centred : engine.siteCenter = site.number) (startedMs nowMs : Nat) :
    ∀ sample ∈ sampledStates env.withTrajectories config startedMs nowMs engine aircraft,
      encodable sample.1.protocol sample.2 = true := by
  induction aircraft generalizing engine with
  | nil =>
    unfold sampledStates
    exact List.forall_mem_nil _
  | cons item rest ih =>
    have others : SamplesEncodable config rest :=
      fun site sited other member => samples site sited other (List.mem_cons_of_mem item member)
    have first := samples site sited item List.mem_cons_self engine centred (elapsed32 nowMs startedMs)
    have later := @ih others (engine.sample realLibm (config.groupOf item).trajectory item.instanceIndex
      (elapsed32 nowMs startedMs)).2 ((engine.sample_siteCenter realLibm _ _ _).trans centred)
    unfold sampledStates
    rw [withTrajectories_sample, List.forall_mem_cons]
    exact ⟨first, later⟩

theorem foldl_centred (nowMs : Nat) (items : List (AircraftConfig × Nat))
    (progress : Progress (TrajectoryEngine ℝ) Sink) :
    (items.foldl (tickAircraft env.withTrajectories.withEncoders nowMs) progress).fleet.engine.siteCenter =
      progress.fleet.engine.siteCenter := by
  induction items generalizing progress with
  | nil => rfl
  | cons item rest ih =>
    rw [List.foldl_cons, ih, tickAircraft_engine]
    exact TrajectoryEngine.sample_siteCenter realLibm progress.fleet.engine _ _ _

/-- The fleet that an `apply` has started keeps its configuration, and its engine keeps the site. -/
theorem run_centred {runtime : Runtime (TrajectoryEngine ℝ)} {sink : Sink} {startMs : Nat}
    (applied : (runtime.apply env.withTrajectories.withEncoders config startMs).1 = .none)
    (expanded : validateAndExpand env.sha256 config runtime.device = .ok aircraft)
    {site : GeoPoint Float64Bits} (sited : config.site = some site) (before : List Nat) :
    ∃ fleet, (afterTicks env.withTrajectories.withEncoders runtime sink config startMs before).1.fleet =
        some fleet ∧ fleet.config = config ∧ fleet.aircraft = aircraft ∧
      fleet.engine.siteCenter = site.number := by
  induction before using List.reverseRecOn with
  | nil =>
    obtain ⟨fleet, running, same, expanded', _, _⟩ := apply_clean env.withTrajectories.withEncoders applied
    have members : Except.ok fleet.aircraft = Except.ok aircraft := expanded'.symm.trans expanded
    have engine := apply_engine running applied
    have found : fleet.site = site := by
      unfold Fleet.site
      apply Option.get_of_eq_some
      rw [same, sited]
    refine ⟨fleet, running, same, Except.ok.inj members, ?_⟩
    rw [engine, found]
    rfl
  | append_singleton before nowMs ih =>
    obtain ⟨fleet, running, same, members, centred⟩ := ih
    rw [afterTicks_snoc]
    by_cases late : nowMs < fleet.startedMs
    · rw [tick_early env.withTrajectories.withEncoders running late]
      exact ⟨fleet, running, same, members, centred⟩
    · rw [tick_late env.withTrajectories.withEncoders running late]
      have ticked := @tick_ticked _ _ _ env.withTrajectories.withEncoders fleet
        (afterTicks env.withTrajectories.withEncoders runtime sink config startMs before).2 nowMs
      refine ⟨_, rfl, ticked.config.trans same, ticked.members.trans members, ?_⟩
      unfold Fleet.tick
      rw [foldl_centred]
      exact centred

theorem sampledInRange_of_limits {runtime : Runtime (TrajectoryEngine ℝ)} {sink : Sink} {startMs : Nat}
    (applied : (runtime.apply env.withTrajectories.withEncoders config startMs).1 = .none)
    (expanded : validateAndExpand env.sha256 config runtime.device = .ok aircraft)
    (limits : config.WithinLimits) (ticks : List Nat) :
    SampledInRange env.withTrajectories runtime sink config startMs ticks := by
  have samples := samples_of_instants ((instants_iff_limits expanded).mpr limits)
  obtain ⟨site, sited, _⟩ := (accepted_of_expand expanded).site
  intro before nowMs _
  obtain ⟨fleet, running, same, members, centred⟩ := run_centred applied expanded sited before
  by_cases late : nowMs < fleet.startedMs
  · rw [sampled_early running late]
    exact List.forall_mem_nil _
  · rw [sampled_running running late, same, members]
    exact sampledStates_encodable samples sited centred fleet.startedMs nowMs

end

/-- Within the limits all samples of a fleet can be encoded. The limits are exact for the flights
themselves, at every instant of which a state could be sampled. Where all samples can be encoded, the
altitudes and speeds that are held all the way are within the limits, and so is the rest up to what
happens in one millisecond. -/
theorem samples_encodable (expanded : validateAndExpand sha256 config device = .ok aircraft) :
    (config.WithinLimits → SamplesEncodable config aircraft) ∧
      (InstantsEncodable config aircraft ↔ config.WithinLimits) ∧
      (SamplesEncodable config aircraft → ∀ group ∈ config.groups,
        group.trajectory.Level group.protocol ∧
        ∀ site ∈ config.site, group.trajectory.period realLibm ≤ (2 : ℝ) ^ 53 →
          group.trajectory.NearlyWithinLimits realLibm site.number group.protocol) := by
  have exact_limits := instants_iff_limits expanded
  have accepted := accepted_of_expand expanded
  refine ⟨?_, exact_limits, ?_⟩
  · exact fun limits => samples_of_instants (exact_limits.mpr limits)
  · intro samples group member
    refine ⟨level_of_samples expanded samples member, ?_⟩
    intro site sited short
    obtain ⟨instanceIndex, admissible⟩ := admissible_of_samples expanded samples member
    exact nearly_of_samples (validSite_onGlobe (accepted.site_valid sited))
      (accepted.groups group member).trajectory short (admissible site sited)

end

/-- One aircraft that climbs to 100 m at 5 m/s, stays there for ten seconds and comes down. -/
def oneTakeoff : SystemConfig where
  site := some { latitudeDeg := ⟨0⟩, longitudeDeg := ⟨0⟩ }
  groups := [{
    name := [65], count := 1
    trajectory := {
      type := .takeoffCruiseLand, altitudeM := ⟨0x42c80000⟩, verticalSpeedMps := ⟨0x40a00000⟩
      cruiseTimeMs := 10000 } }]

theorem oneTakeoff_withinLimits : oneTakeoff.WithinLimits := by
  intro site sited group member
  cases List.mem_singleton.mp member
  have height : (⟨0x42c80000⟩ : Float32Bits).datum.value = 100 := by decide +kernel
  have climb : (⟨0x40a00000⟩ : Float32Bits).datum.value = 5 := by decide +kernel
  show ((((⟨0x42c80000⟩ : Float32Bits).datum.value : ℚ) : ℝ) ≤ altitudeCeiling Protocol.openDroneId ∧
    ClimbInRange Protocol.openDroneId (((⟨0x40a00000⟩ : Float32Bits).datum.value : ℚ) : ℝ) ∧
    ClimbInRange Protocol.openDroneId (-(((⟨0x40a00000⟩ : Float32Bits).datum.value : ℚ) : ℝ)))
  rw [height, climb, altitudeCeiling, if_pos rfl]
  unfold ClimbInRange
  rw [if_pos rfl, if_pos rfl]
  norm_num

/-- All its samples can be encoded, on the ground, on the way up, above and on the way down. -/
theorem samples_encodable_takeoff : ∃ aircraft,
    validateAndExpand oneHoverSha256 oneTakeoff (Vector.replicate 6 0) = .ok aircraft ∧
      SamplesEncodable oneTakeoff aircraft := by
  have accepted : (validateAndExpand oneHoverSha256 oneTakeoff (Vector.replicate 6 0)).isOk = true := by
    decide +kernel
  cases expanded : validateAndExpand oneHoverSha256 oneTakeoff (Vector.replicate 6 0) with
  | error error =>
    rw [expanded] at accepted
    cases accepted
  | ok aircraft => exact ⟨aircraft, rfl, (samples_encodable expanded).1 oneTakeoff_withinLimits⟩

def highHover : SystemConfig where
  site := some { latitudeDeg := ⟨0⟩, longitudeDeg := ⟨0⟩ }
  groups := [{ name := [65], count := 1, trajectory := { altitudeM := ⟨0x471c4000⟩ } }]

def highHoverAircraft : AircraftConfig where
  identity := ⟨ascii "TESTF20E40215FA2FDC1"⟩
  groupIndex := 0
  instanceIndex := 0
  protocol := .openDroneId
  transport := .ble4
  wifiMode := .beacon

theorem high_hover_refused (engine : TrajectoryEngine ℝ) (elapsedMs : UInt32) :
    encodable highHoverAircraft.protocol (engine.sample realLibm
      (highHover.groupOf highHoverAircraft).trajectory highHoverAircraft.instanceIndex elapsedMs).1 =
        false := by
  have flown : ∀ seconds : ℝ, (motionAt realLibm (highHover.groupOf highHoverAircraft).trajectory seconds
      highHoverAircraft.instanceIndex).altitudeM = 40000 := by
    intro seconds
    have altitude : (⟨0x471c4000⟩ : Float32Bits).datum.value = 40000 := by decide +kernel
    show (((⟨0x471c4000⟩ : Float32Bits).datum.value : ℚ) : ℝ) = 40000
    rw [altitude]
    norm_num
  rw [TrajectoryEngine.sample_state, ← Bool.not_eq_true, encodable_iff_admissible]
  · intro admissible
    have altitude := admissible.altitude
    have openDroneId : highHoverAircraft.protocol = .openDroneId := rfl
    rw [flown, altitudeCeiling, if_pos openDroneId] at altitude
    norm_num at altitude
  · apply And.intro
    · rw [flown]
      norm_num
    · exact le_refl 0

/-- It is accepted, and every flight state that is sampled of it is out of the range of its encoder. -/
theorem high_hover_never_encodable :
    validateAndExpand oneHoverSha256 highHover (Vector.replicate 6 0) = .ok [highHoverAircraft] ∧
      ¬SamplesEncodable highHover [highHoverAircraft] ∧
      ∀ (engine : TrajectoryEngine ℝ) elapsedMs, encodable highHoverAircraft.protocol (engine.sample
        realLibm (highHover.groupOf highHoverAircraft).trajectory highHoverAircraft.instanceIndex
        elapsedMs).1 = false := by
  refine ⟨by decide +kernel, ?_, high_hover_refused⟩
  intro samples
  have start := samples ⟨⟨0⟩, ⟨0⟩⟩ rfl highHoverAircraft List.mem_cons_self
    { siteCenter := GeoPoint.number ⟨⟨0⟩, ⟨0⟩⟩ } rfl 0
  rw [high_hover_refused] at start
  cases start

end RidFirmware
