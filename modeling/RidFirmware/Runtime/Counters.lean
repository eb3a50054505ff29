import RidFirmware.Runtime.Numbered

/-! The message counter over whole runs. One counter numbers the messages of all aircraft and kinds, so a
receiver of one kind of one aircraft sees the same number again after 256 messages, whatever has changed. -/

namespace RidFirmware
open Lib Lib.Ieee

section
variable {Number Engine Sink : Type} {env : RuntimeEnv Number Engine Sink}

theorem foldl_tickAircraft_hands {nowMs : Nat} {config : SystemConfig} {site : GeoPoint Float64Bits}
    {startMs : Nat} {nextDue : Nat → MessageKind → Nat} (located : config.site = some site)
    (items : List AircraftConfig) (readable : ∀ item ∈ items, Readable env item) (offset : Nat)
    (few : offset + items.length ≤ 2 ^ 16) (progress : Progress Engine Sink)
    (same : progress.fleet.config = config) (started : progress.fleet.startedMs = startMs)
    (waiting : ∀ index, offset ≤ index → progress.fleet.nextDue index = nextDue index) :
    Hands progress ((items.zipIdx offset).foldl (tickAircraft env nowMs) progress)
        (((sampledStates env config startMs nowMs progress.fleet.engine items).zipIdx offset).flatMap
          fun sample => dueMessages env nowMs site (nextDue sample.2) sample.2 sample.1.1 sample.1.2) ∧
      ((items.zipIdx offset).foldl (tickAircraft env nowMs) progress).fleet.engine =
        sampledEngine env config startMs nowMs progress.fleet.engine items := by
  induction items generalizing offset progress with
  | nil => exact ⟨Hands.none rfl rfl, rfl⟩
  | cons item rest ih =>
    rw [List.length_cons] at few
    have served := @tickAircraft_served _ _ _ env progress nowMs (item, offset)
    have engine := @tickAircraft_engine _ _ _ env progress nowMs (item, offset)
    have first := @tickAircraft_hands _ _ _ env progress nowMs (item, offset)
      (readable item List.mem_cons_self) (by dsimp only; omega)
    have sited : progress.fleet.site = site := by
      have known := progress.fleet.site_found
      rw [same, located, Option.some.injEq] at known
      exact known.symm
    have untouched : ∀ index, offset + 1 ≤ index →
        (tickAircraft env nowMs progress (item, offset)).fleet.nextDue index = nextDue index := by
      intro index later
      funext kind
      have apart : ¬(index = offset ∧ kind ∈ kKinds) := fun both => by omega
      rw [served.nextDue, if_neg apart, waiting index (by omega)]
    have later := ih (fun other member => readable other (List.mem_cons_of_mem item member)) (offset + 1)
      (by omega) (tickAircraft env nowMs progress (item, offset)) (served.config.trans same)
      (served.startedMs.trans started) untouched
    rw [sited, waiting offset (le_refl offset), same, started] at first
    rw [engine, same, started] at later
    rw [List.zipIdx_cons, List.foldl_cons, sampledStates, List.zipIdx_cons, List.flatMap_cons]
    exact ⟨first.trans later.1, later.2⟩

/-- A fleet and its plan. -/
structure Follows (config : SystemConfig) (aircraft : List AircraftConfig) (startMs : Nat)
    (plan : Plan Engine) (fleet : Fleet Engine) : Prop where
  config : fleet.config = config
  aircraft : fleet.aircraft = aircraft
  startedMs : fleet.startedMs = startMs
  nextDue : fleet.nextDue = plan.nextDue
  engine : fleet.engine = plan.engine

theorem Follows.tick {config : SystemConfig} {aircraft : List AircraftConfig}
    {site : GeoPoint Float64Bits} {startMs : Nat} {plan : Plan Engine} {fleet : Fleet Engine}
    (follows : Follows config aircraft startMs plan fleet) (located : config.site = some site)
    (readable : ∀ item ∈ aircraft, Readable env item) (few : aircraft.length ≤ 2 ^ 16) (sink : Sink)
    {nowMs : Nat} (late : ¬nowMs < startMs) :
    let planned := (planMachine env config aircraft site startMs).step plan nowMs
    Follows config aircraft startMs planned.1 (fleet.tick env sink nowMs).fleet ∧
      Hands { fleet, sink } (fleet.tick env sink nowMs) planned.2 := by
  have ticked := @tick_ticked _ _ _ env fleet sink nowMs
  have hands := @foldl_tickAircraft_hands _ _ _ env nowMs config site startMs plan.nextDue located aircraft
    readable 0 (by omega) { fleet, sink } follows.config follows.startedMs
    (fun index _ => congrFun follows.nextDue index)
  rw [follows.aircraft] at ticked
  have run : fleet.tick env sink nowMs =
      aircraft.zipIdx.foldl (tickAircraft env nowMs) { fleet, sink } := by
    unfold Fleet.tick
    rw [follows.aircraft]
  dsimp only [planMachine]
  rw [if_neg late]
  dsimp only at hands
  rw [← run, follows.engine] at hands
  refine ⟨⟨ticked.config.trans follows.config, ticked.members.trans follows.aircraft,
    ticked.startedMs.trans follows.startedMs, ?_, hands.2⟩, hands.1⟩
  funext index kind
  dsimp only
  cases found : aircraft[index]? with
  | none =>
    have outside : index ∉ aircraft.zipIdx.map Prod.snd := by
      intro member
      obtain ⟨item, inside, same⟩ := List.mem_map.mp member
      have known := List.mem_zipIdx_iff_getElem?.mp inside
      rw [same, found] at known
      cases known
    rw [ticked.others index outside]
    exact congrFun (congrFun follows.nextDue index) kind
  | some item =>
    have due := ticked.nextDue (item, index) (List.mem_zipIdx_iff_getElem?.mpr found) kind
    rw [due]
    dsimp only
    rw [follows.config, follows.nextDue]

theorem apply_follows {runtime : Runtime Engine} {config : SystemConfig} {startMs : Nat}
    {aircraft : List AircraftConfig}
    (expanded : validateAndExpand env.sha256 config runtime.device = .ok aircraft)
    {site : GeoPoint Float64Bits} (located : config.site = some site) :
    ∃ fleet, (runtime.apply env config startMs).2.fleet = some fleet ∧
      Follows config aircraft startMs (Plan.start env config aircraft site startMs) fleet ∧
      fleet.counter = 0 := by
  rcases apply_cases env runtime config startMs with refused | started
  · obtain ⟨⟨error, failed⟩, _⟩ := refused
    rw [expanded] at failed
    cases failed
  · obtain ⟨fleet, started, same⟩ := started
    rw [same]
    have members : fleet.aircraft = aircraft := Except.ok.inj (started.expanded.symm.trans expanded)
    have sited : fleet.site = site := by
      have found := fleet.site_found
      rw [started.config, located, Option.some.injEq] at found
      exact found.symm
    refine ⟨fleet, rfl, ⟨started.config, members, started.startedMs, ?_, ?_⟩, started.counter⟩
    · rw [started.nextDue, members]
      rfl
    · rw [started.engine, sited]
      rfl

/-- The runtime refines the plan: in every run of ticks after an `apply`, what has been handed to the sink
are the messages planned, numbered from zero on. -/
theorem run_numbered {runtime : Runtime Engine} {sink : Sink} {config : SystemConfig} {startMs : Nat}
    {aircraft : List AircraftConfig}
    (expanded : validateAndExpand env.sha256 config runtime.device = .ok aircraft)
    {site : GeoPoint Float64Bits} (located : config.site = some site)
    (readable : ∀ item ∈ aircraft, Readable env item) (few : aircraft.length ≤ 2 ^ 16) (ticks : List Nat) :
    let planned := (planMachine env config aircraft site startMs).run
      (Plan.start env config aircraft site startMs) ticks
    let run := (runtimeMachine env).run (runtime, sink) (.apply config startMs :: ticks.map .tick)
    ∃ fleet, run.1.1.fleet = some fleet ∧ Follows config aircraft startMs planned.1 fleet ∧
      fleet.counter = (· + 1)^[planned.2.length] 0 ∧
      (handed run.2).map ScheduledPayload.message = numberedFrom (· + 1) 0 planned.2 := by
  induction ticks using List.reverseRecOn with
  | nil =>
    obtain ⟨fleet, running, follows, counter⟩ := apply_follows expanded located
    exact ⟨fleet, running, follows, counter, rfl⟩
  | append_singleton before nowMs ih =>
    obtain ⟨fleet, running, follows, counter, numbered⟩ := ih
    dsimp only
    rw [List.map_append, List.map_singleton, ← List.cons_append, Machine.run_snoc, Machine.run_snoc]
    generalize (planMachine env config aircraft site startMs).run
      (Plan.start env config aircraft site startMs) before = planned at *
    generalize (runtimeMachine env).run (runtime, sink) (.apply config startMs :: before.map .tick) =
      run at *
    dsimp only [runtimeMachine]
    by_cases late : nowMs < startMs
    · have refused : nowMs < fleet.startedMs := by
        rw [follows.startedMs]
        exact late
      rw [tick_early env running refused]
      dsimp only [planMachine]
      rw [if_pos late, List.append_nil, List.append_nil]
      exact ⟨fleet, running, follows, counter, numbered⟩
    · have taken : ¬nowMs < fleet.startedMs := by
        rw [follows.startedMs]
        exact late
      obtain ⟨after, hands⟩ := follows.tick located readable few run.1.2 late
      rw [tick_late env running taken]
      refine ⟨_, rfl, after, ?_, ?_⟩
      · rw [hands.counter, counter, ← Function.iterate_add_apply, List.length_append, Nat.add_comm]
      · have first : (handed ([] : List RuntimeEvent)).map ScheduledPayload.message = [] := rfl
        rw [handed_append, List.map_append, numbered, hands.handed, first, List.nil_append, counter,
          ← numberedFrom_append]

end

/-- Whenever two payloads in a row of the same aircraft and kind carry different messages, they carry
different counters. -/
def CountersAdvance (payloads : List ScheduledPayload) : Prop :=
  NumbersChange (fun payload => (payload.aircraftIndex, payload.kind)) ScheduledPayload.encoded
    ScheduledPayload.counter payloads

theorem iterate_toNat (counter : UInt8) (steps : Nat) :
    ((· + 1)^[steps] counter).toNat = (counter.toNat + steps) % 256 := by
  induction steps with
  | zero =>
    have small := counter.toNat_lt
    exact (Nat.mod_eq_of_lt small).symm
  | succ steps ih =>
    rw [Function.iterate_succ_apply', UInt8.toNat_add, ih]
    have one : (1 : UInt8).toNat = 1 := rfl
    omega

theorem counter_cycle (counter : UInt8) (steps : Nat) :
    (· + 1)^[steps] counter = counter ↔ 256 ∣ steps := by
  have small := counter.toNat_lt
  rw [← UInt8.toNat_inj, iterate_toNat, Nat.dvd_iff_mod_eq_zero]
  omega

section
variable {K : Type} [Field K] [LinearOrder K] [FloorRing K]
variable {Engine Sink : Type} {env : RuntimeEnv (Datum K) Engine Sink}

theorem readable_of_expanded {config : SystemConfig} {device : DeviceId} {aircraft : List AircraftConfig}
    (expanded : validateAndExpand env.sha256 config device = .ok aircraft) :
    ∀ item ∈ aircraft, Readable env.withEncoders item := by
  intro item member
  obtain ⟨group, isMember⟩ := expanded_of_mem expanded member
  have dispatched := isMember.dispatched (accepted_of_expand expanded)
  constructor
  · intro single kind site state encoded encodes
    exact readsAs_message dispatched isMember.identity_length single encodes
  · intro packed site state encoded encodes
    exact readsAs_pack dispatched isMember.identity_length packed encodes

/-- The counters of a run against its plan. -/
theorem countersAdvance_iff {runtime : Runtime Engine} {sink : Sink} {config : SystemConfig}
    {startMs : Nat} {aircraft : List AircraftConfig}
    (expanded : validateAndExpand env.sha256 config runtime.device = .ok aircraft)
    {site : GeoPoint Float64Bits} (located : config.site = some site) (ticks : List Nat) :
    CountersAdvance (handed ((runtimeMachine env.withEncoders).run (runtime, sink)
        (.apply config startMs :: ticks.map .tick)).2) ↔
      OutOfPhase 256 PlannedMessage.stream PlannedMessage.encoded
        (plannedMessages env.withEncoders config aircraft site startMs ticks) := by
  have few : aircraft.length ≤ 2 ^ 16 := by
    rw [expand_length expanded]
    exact (accepted_of_expand expanded).bounded.trans (by decide)
  obtain ⟨_, _, _, _, numbered⟩ := @run_numbered _ _ _ env.withEncoders runtime sink config startMs
    aircraft expanded site located (readable_of_expanded expanded) few ticks
  exact numbersChange_iff counter_cycle numbered PlannedMessage.stream PlannedMessage.encoded

/-- When counters advance with content: in every run of ticks after an `apply`, they do exactly if no
message of an aircraft and kind comes a multiple of 256 messages after one of different content, in the
order in which the due messages that can be encoded are sent. -/
theorem counters_advance_iff (env : RuntimeEnv (Datum K) Engine Sink) (runtime : Runtime Engine)
    (sink : Sink) (config : SystemConfig) (startMs : Nat)
    (applied : (runtime.apply env.withEncoders config startMs).1 = .none) (ticks : List Nat) :
    ∃ aircraft site, validateAndExpand env.sha256 config runtime.device = .ok aircraft ∧
      config.site = some site ∧
      (CountersAdvance (handed ((runtimeMachine env.withEncoders).run (runtime, sink)
          (.apply config startMs :: ticks.map .tick)).2) ↔
        OutOfPhase 256 PlannedMessage.stream PlannedMessage.encoded
          (plannedMessages env.withEncoders config aircraft site startMs ticks)) := by
  obtain ⟨fleet, _, _, expanded, _, _⟩ := apply_clean env.withEncoders applied
  obtain ⟨site, located, _⟩ := (accepted_of_expand expanded).site
  exact ⟨fleet.aircraft, site, expanded, located, countersAdvance_iff expanded located ticks⟩

end

/-- Two periods of a hovering aircraft that speaks GB 46750: three `Location` messages, and others between. -/
theorem counters_advance_iff_hover :
    (((handed ((runtimeMachine hoverEnv.withEncoders).run (idleRuntime, ())
        (.apply oneGb 0 :: [1000, 2000, 3000].map .tick)).2).filter
      fun payload => payload.kind = .location).map ScheduledPayload.counter = [1, 5, 9]) ∧
    ∃ aircraft site, validateAndExpand hoverEnv.sha256 oneGb idleRuntime.device = .ok aircraft ∧
      oneGb.site = some site ∧
      (CountersAdvance (handed ((runtimeMachine hoverEnv.withEncoders).run (idleRuntime, ())
          (.apply oneGb 0 :: [1000, 2000, 3000].map .tick)).2) ↔
        OutOfPhase 256 PlannedMessage.stream PlannedMessage.encoded
          (plannedMessages hoverEnv.withEncoders oneGb aircraft site 0 [1000, 2000, 3000])) :=
  ⟨by decide +kernel, counters_advance_iff hoverEnv idleRuntime () oneGb 0 (by decide +kernel)
    [1000, 2000, 3000]⟩

/-- A hovering aircraft that sends its `Location` once for every 51 times it sends anything else. -/
def slowLocation : SystemConfig where
  site := some { latitudeDeg := ⟨0⟩, longitudeDeg := ⟨0⟩ }
  defaultPeriod := 100
  groups := [{ name := [65], count := 1
               periodOverrides := fun kind => if kind = .location then some 5100 else none }]

def slowEnv : RuntimeEnv (Datum ℚ) Unit Unit := { hoverEnv with sha256 := oneHoverSha256 }

/-- From the first `Location` to the second. -/
def slowTicks : List Nat := (List.range 52).map fun tick => 900 + 100 * tick

def slowAircraft : List AircraftConfig :=
  (validateAndExpand slowEnv.sha256 slowLocation idleRuntime.device).toOption.getD []

def slowMessages : List PlannedMessage :=
  plannedMessages slowEnv.withEncoders slowLocation slowAircraft { latitudeDeg := ⟨0⟩, longitudeDeg := ⟨0⟩ } 0
    slowTicks

/-- An accepted configuration of which a receiver misses an update: both `Location` messages carry the
counter 1. -/
theorem counter_repeats :
    validate slowLocation = .ok () ∧
      (idleRuntime.apply slowEnv.withEncoders slowLocation 0).1 = .none ∧
      ¬CountersAdvance (handed ((runtimeMachine slowEnv.withEncoders).run (idleRuntime, ())
        (.apply slowLocation 0 :: slowTicks.map .tick)).2) := by
  have expanded : validateAndExpand slowEnv.sha256 slowLocation idleRuntime.device = .ok slowAircraft := by
    have accepted : (validateAndExpand slowEnv.sha256 slowLocation idleRuntime.device).toOption.isSome =
        true := by
      decide +kernel
    unfold slowAircraft
    cases result : validateAndExpand slowEnv.sha256 slowLocation idleRuntime.device with
    | error error =>
      rw [result] at accepted
      cases accepted
    | ok aircraft => rfl
  refine ⟨by decide +kernel, by decide +kernel, ?_⟩
  -- The two `Location` messages differ in their time, and 255 messages come between them.
  have slips : slipsAt PlannedMessage.stream PlannedMessage.encoded slowMessages 1 255 = true := by
    decide +kernel
  rw [countersAdvance_iff expanded rfl slowTicks]
  exact not_outOfPhase slips (by decide)

end RidFirmware
