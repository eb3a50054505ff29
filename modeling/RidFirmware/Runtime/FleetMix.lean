import RidFirmware.Lib.Rounds
import RidFirmware.Runtime.Bursts
import RidFirmware.Runtime.Counters

/-! Fleets and periods with which the counters advance: a tick is a round of the fleet's timers, and between two
messages of one kind of one aircraft there are too few others to bring the counter round. -/

namespace RidFirmware
open Lib Lib.Ieee

/-- The kinds of message that an aircraft sends. -/
def sentKinds (aircraft : AircraftConfig) : List MessageKind :=
  if aircraft.packed then [.location] else kKinds.filter (producible aircraft.protocol)

/-- What receivers follow of a fleet, in the order in which a tick sends it. -/
def streams (aircraft : List AircraftConfig) : List (Nat × MessageKind) :=
  aircraft.zipIdx.flatMap fun item => (sentKinds item.1).map (item.2, ·)

def streamPeriod (config : SystemConfig) (aircraft : List AircraftConfig) (stream : Nat × MessageKind) : Nat :=
  match aircraft[stream.1]? with
  | some item => config.periodOf item stream.2
  | none => 0

/-- All kinds of a pack have one period. -/
def PacksEven (config : SystemConfig) (aircraft : List AircraftConfig) : Prop :=
  ∀ item ∈ aircraft, item.packed = true → ∀ kind, config.periodOf item kind = config.periodOf item .location

theorem mem_streams {aircraft : List AircraftConfig} {stream : Nat × MessageKind}
    (member : stream ∈ streams aircraft) : ∃ item, aircraft[stream.1]? = some item := by
  obtain ⟨item, inside, made⟩ := List.mem_flatMap.mp member
  obtain ⟨kind, _, rfl⟩ := List.mem_map.mp made
  exact ⟨item.1, List.mem_zipIdx_iff_getElem?.mp inside⟩

theorem streams_nodup (aircraft : List AircraftConfig) : (streams aircraft).Nodup := by
  unfold streams
  rw [List.nodup_flatMap]
  constructor
  · intro item _
    have once : (sentKinds item.1).Nodup := by
      unfold sentKinds
      split_ifs
      · exact List.nodup_singleton _
      · exact kKinds_nodup.filter _
    exact once.map fun _ _ same => (Prod.mk.inj same).2
  · have indices : (aircraft.zipIdx.map Prod.snd).Nodup := by
      rw [List.zipIdx_map_snd]
      exact List.nodup_range'
    refine (List.pairwise_map.mp indices).imp ?_
    intro left right apart stream first second
    obtain ⟨_, _, rfl⟩ := List.mem_map.mp first
    obtain ⟨_, _, same⟩ := List.mem_map.mp second
    exact apart (Prod.mk.inj same).1.symm

theorem streamPeriod_pos {config : SystemConfig} (accepted : Accepted config) (aircraft : List AircraftConfig) :
    ∀ stream ∈ streams aircraft, 0 < streamPeriod config aircraft stream := by
  intro stream member
  obtain ⟨item, found⟩ := mem_streams member
  unfold streamPeriod
  rw [found]
  exact accepted.periodOf_pos item stream.2

/-- The kinds of every pack are due together. -/
def PacksTogether {Engine : Type} (aircraft : List AircraftConfig) (plan : Plan Engine) : Prop :=
  ∀ index item, aircraft[index]? = some item → item.packed = true →
    ∀ kind, plan.nextDue index kind = plan.nextDue index .location

section
variable {Number Engine Sink : Type} {env : RuntimeEnv Number Engine Sink} {config : SystemConfig}
  {aircraft : List AircraftConfig} {site : GeoPoint Float64Bits} {startMs nowMs : Nat} {plan : Plan Engine}

theorem packsTogether_start (even : PacksEven config aircraft)
    (agreed : ∀ item ∈ aircraft, item.packedAtApply = item.packed) :
    PacksTogether aircraft (Plan.start env config aircraft site startMs) := by
  intro index item found packed kind
  have member := List.mem_of_getElem? found
  show firstDue config aircraft startMs index kind = firstDue config aircraft startMs index .location
  rw [firstDue_spread found (agreed item member), firstDue_spread found (agreed item member),
    even item member packed, emissionSlot_packed found packed kind .location]

theorem planMachine_nextDue (late : ¬nowMs < startMs) {index : Nat} {item : AircraftConfig}
    (found : aircraft[index]? = some item) (kind : MessageKind) :
    ((planMachine env config aircraft site startMs).step plan nowMs).1.nextDue index kind =
      dueAfter config item nowMs kind (plan.nextDue index kind) := by
  unfold planMachine
  dsimp only
  rw [if_neg late]
  dsimp only
  rw [found]

theorem PacksTogether.step (together : PacksTogether aircraft plan) (even : PacksEven config aircraft)
    (late : ¬nowMs < startMs) :
    PacksTogether aircraft ((planMachine env config aircraft site startMs).step plan nowMs).1 := by
  intro index item found packed kind
  rw [planMachine_nextDue late found, planMachine_nextDue late found, together index item found packed kind]
  unfold dueAfter
  rw [even item (List.mem_of_getElem? found) packed kind]

theorem planMachine_afterRound (late : ¬nowMs < startMs) {stream : Nat × MessageKind}
    (member : stream ∈ streams aircraft) :
    ((planMachine env config aircraft site startMs).step plan nowMs).1.nextDue stream.1 stream.2 =
      afterRound (streamPeriod config aircraft) nowMs (fun stream => plan.nextDue stream.1 stream.2) stream := by
  obtain ⟨item, found⟩ := mem_streams member
  rw [planMachine_nextDue late found]
  unfold dueAfter afterRound streamPeriod
  rw [found]

end

section
variable {K : Type} [Field K] [LinearOrder K] [IsStrictOrderedRing K] [FloorRing K]
variable {Engine Sink : Type} {env : RuntimeEnv (Datum K) Engine Sink} {config : SystemConfig}
  {aircraft : List AircraftConfig} {site : GeoPoint Float64Bits} {startMs : Nat}

theorem encodeAttempt_isSome (onGlobe : validSite site = true) {item : AircraftConfig}
    (derived : item.identity.value.length = 20) {state : FlightState (Datum K)}
    (inRange : encodable item.protocol state = true) (kind : MessageKind) :
    (encodeAttempt env.withEncoders item kind site state).isSome =
      (item.packed || producible item.protocol kind) := by
  unfold encodeAttempt encodeMessage producible
  by_cases packed : item.packed = true
  · have odid : item.protocol = .openDroneId := (of_decide_eq_true packed).1
    rw [odid] at inRange
    obtain ⟨bytes, _, encoded, _⟩ := encodePack_some env onGlobe inRange item derived 0
    rw [if_pos packed, packed, encoded]
    rfl
  · rw [if_neg packed, Bool.eq_false_iff.mpr packed, Bool.false_or]
    by_cases odid : item.protocol = .openDroneId
    · rw [odid] at inRange
      obtain ⟨bytes, _, encoded, _⟩ := encodeOdid_some env onGlobe inRange derived kind 0
      rw [if_pos odid, decide_eq_true odid, encoded]
      rfl
    · rw [if_neg odid, decide_eq_false odid, Bool.false_or]
      cases present : GbEncoder.hasMessage kind with
      | true =>
        obtain ⟨bytes, _, encoded, _⟩ := encodeGb_some env onGlobe odid inRange derived present 0
        rw [encoded]
        rfl
      | false =>
        rw [encodeGb_none env present]
        rfl

theorem attemptedKinds_sent {item : AircraftConfig} {due : MessageKind → Nat}
    (together : item.packed = true → ∀ kind, due kind = due .location) (nowMs : Nat) :
    (attemptedKinds item nowMs due).filter (fun kind => item.packed || producible item.protocol kind) =
      (sentKinds item).filter fun kind => due kind ≤ nowMs := by
  unfold attemptedKinds sentKinds
  by_cases packed : item.packed = true
  · have any : kKinds.any (fun kind => due kind ≤ nowMs) = decide (due .location ≤ nowMs) := by
      simp only [together packed]
      cases decide (due .location ≤ nowMs) <;> rfl
    simp only [packed, any, if_true, Bool.true_or, List.filter_true]
    by_cases fired : due .location ≤ nowMs
    · simp [fired]
    · simp [fired]
  · rw [if_neg packed, if_neg packed, List.filter_filter, List.filter_filter]
    apply List.filter_congr
    intro kind _
    rw [Bool.eq_false_iff.mpr packed, Bool.false_or, Bool.and_comm]

/-- What an aircraft sends in a tick: all its streams that are due. -/
theorem dueMessages_streams (onGlobe : validSite site = true) {item : AircraftConfig}
    (derived : item.identity.value.length = 20) {state : FlightState (Datum K)}
    (inRange : encodable item.protocol state = true) {due : MessageKind → Nat}
    (together : item.packed = true → ∀ kind, due kind = due .location) (nowMs index : Nat) :
    (dueMessages env.withEncoders nowMs site due index item state).map PlannedMessage.stream =
      ((sentKinds item).filter fun kind => due kind ≤ nowMs).map (index, ·) := by
  have made : ∀ kinds : List MessageKind,
      (kinds.filterMap fun kind => (encodeAttempt env.withEncoders item kind site state).map
        (PlannedMessage.mk index kind)).map PlannedMessage.stream =
      (kinds.filter fun kind => item.packed || producible item.protocol kind).map (index, ·) := by
    intro kinds
    induction kinds with
    | nil => rfl
    | cons kind rest ih =>
      have some := @encodeAttempt_isSome K _ _ _ _ Engine Sink env site onGlobe item derived state inRange kind
      rw [List.filterMap_cons, List.filter_cons, ← some]
      cases encodeAttempt env.withEncoders item kind site state with
      | none => exact ih
      | some bytes =>
        rw [Option.map_some, Option.isSome_some, if_pos rfl, List.map_cons, List.map_cons]
        exact congrArg _ ih
  unfold dueMessages
  rw [made, attemptedKinds_sent together]

/-- What can be encoded in every tick of a plan. -/
def PlanInRange (env : RuntimeEnv (Datum K) Engine Sink) (config : SystemConfig)
    (aircraft : List AircraftConfig) (startMs nowMs : Nat) (plan : Plan Engine) : Prop :=
  ∀ sample ∈ sampledStates env config startMs nowMs plan.engine aircraft,
    encodable sample.1.protocol sample.2 = true

theorem planMachine_streams (onGlobe : validSite site = true)
    (derived : ∀ item ∈ aircraft, item.identity.value.length = 20) {plan : Plan Engine} {nowMs : Nat}
    (together : PacksTogether aircraft plan) (late : ¬nowMs < startMs)
    (inRange : PlanInRange env.withEncoders config aircraft startMs nowMs plan) :
    ((planMachine env.withEncoders config aircraft site startMs).step plan nowMs).2.map PlannedMessage.stream =
      (streams aircraft).filter fun stream => plan.nextDue stream.1 stream.2 ≤ nowMs := by
  have fleet := @sampledStates_fst _ _ _ env.withEncoders config startMs nowMs plan.engine aircraft
  unfold PlanInRange at inRange
  unfold planMachine streams
  dsimp only
  rw [if_neg late, List.map_flatMap, List.filter_flatMap]
  generalize sampledStates env.withEncoders config startMs nowMs plan.engine aircraft = samples at *
  have each : ∀ sample ∈ samples.zipIdx,
      (dueMessages env.withEncoders nowMs site (plan.nextDue sample.2) sample.2 sample.1.1 sample.1.2).map
        PlannedMessage.stream =
      ((sentKinds sample.1.1).map (sample.2, ·)).filter fun stream => plan.nextDue stream.1 stream.2 ≤ nowMs := by
    intro sample member
    have place := List.mem_zipIdx_iff_getElem?.mp member
    have found : aircraft[sample.2]? = some sample.1.1 := by
      rw [← fleet, List.getElem?_map, place]
      rfl
    rw [dueMessages_streams onGlobe (derived _ (List.mem_of_getElem? found))
      (inRange _ (List.mem_of_getElem? place)) (together _ _ found), List.filter_map]
    rfl
  rw [← fleet, List.zipIdx_map, List.flatMap_map]
  exact List.flatMap_congr each

/-- A run of the plan serves the streams in rounds. -/
theorem run_streams (onGlobe : validSite site = true)
    (derived : ∀ item ∈ aircraft, item.identity.value.length = 20) (even : PacksEven config aircraft)
    {plan : Plan Engine} (together : PacksTogether aircraft plan) (ticks : List Nat)
    (inRange : ∀ before nowMs, before ++ [nowMs] <+: ticks → ¬nowMs < startMs →
      PlanInRange env.withEncoders config aircraft startMs nowMs
        ((planMachine env.withEncoders config aircraft site startMs).run plan before).1) :
    ((planMachine env.withEncoders config aircraft site startMs).run plan ticks).2.map PlannedMessage.stream =
      (rounds (streamPeriod config aircraft) (streams aircraft)
        (fun stream => plan.nextDue stream.1 stream.2) (ticks.filter (startMs ≤ ·))).flatten := by
  induction ticks generalizing plan with
  | nil => rfl
  | cons nowMs rest ih =>
    have now := inRange [] nowMs (List.prefix_append [nowMs] rest)
    have later : ∀ before next, before ++ [next] <+: rest → ¬next < startMs →
        PlanInRange env.withEncoders config aircraft startMs next
          ((planMachine env.withEncoders config aircraft site startMs).run
            ((planMachine env.withEncoders config aircraft site startMs).step plan nowMs).1 before).1 :=
      fun before next within =>
        inRange (nowMs :: before) next (List.cons_prefix_cons.mpr ⟨rfl, within⟩)
    rw [List.filter_cons]
    unfold Machine.run
    dsimp only
    rw [List.map_append]
    by_cases late : nowMs < startMs
    · have refused : (planMachine env.withEncoders config aircraft site startMs).step plan nowMs =
          (plan, []) := if_pos late
      rw [refused] at later ⊢
      rw [if_neg (by simpa using late)]
      exact ih together later
    · have still : PacksTogether aircraft
          ((planMachine env.withEncoders config aircraft site startMs).step plan nowMs).1 :=
        together.step even late
      rw [if_pos (by simpa using late), rounds, List.flatten_cons,
        planMachine_streams onGlobe derived together late (now late), ih still later]
      congr 2
      exact rounds_congr (fun stream member => planMachine_afterRound late member) _

variable {runtime : Runtime Engine} {sink : Sink} {ticks : List Nat}

omit [IsStrictOrderedRing K] in
/-- What is sampled in a run is what its plan samples. -/
theorem SampledInRange.plan (sampled : SampledInRange env runtime sink config startMs ticks)
    (expanded : validateAndExpand env.sha256 config runtime.device = .ok aircraft)
    (located : config.site = some site) {before : List Nat} {nowMs : Nat} (within : before ++ [nowMs] <+: ticks)
    (late : ¬nowMs < startMs) :
    PlanInRange env.withEncoders config aircraft startMs nowMs
      ((planMachine env.withEncoders config aircraft site startMs).run
        (Plan.start env.withEncoders config aircraft site startMs) before).1 := by
  have few : aircraft.length ≤ 2 ^ 16 := by
    rw [expand_length expanded]
    exact (accepted_of_expand expanded).bounded.trans (by decide)
  obtain ⟨fleet, running, follows, _, _⟩ := @run_numbered _ _ _ env.withEncoders runtime sink config startMs
    aircraft expanded site located (readable_of_expanded expanded) few before
  have inRange := sampled before nowMs within
  unfold afterTicks Runtime.sampled at inRange
  simp only [running, follows.config, follows.aircraft, follows.startedMs, follows.engine] at inRange
  rw [if_neg late] at inRange
  exact inRange

/-- The counters of a fleet advance with content if between two messages of any of its streams there are less
than 255 others: those which the periods allow, whatever the times of the ticks. -/
theorem counters_advance_mix (expanded : validateAndExpand env.sha256 config runtime.device = .ok aircraft)
    (sampled : SampledInRange env runtime sink config startMs ticks) (even : PacksEven config aircraft)
    (few : ∀ stream ∈ streams aircraft,
      othersBetween (streamPeriod config aircraft) (streams aircraft) stream < 255) :
    CountersAdvance (handed ((runtimeMachine env.withEncoders).run (runtime, sink)
      (.apply config startMs :: ticks.map .tick)).2) := by
  have accepted := accepted_of_expand expanded
  obtain ⟨site, located, onGlobe⟩ := accepted.site
  have agreed : ∀ item ∈ aircraft, item.packedAtApply = item.packed := by
    intro item member
    obtain ⟨group, isMember⟩ := expanded_of_mem expanded member
    exact (isMember.dispatched accepted).packedAtApply_eq
  have together : PacksTogether aircraft (Plan.start env.withEncoders config aircraft site startMs) :=
    packsTogether_start even agreed
  have served := run_streams onGlobe (identities_derived expanded) even together ticks
    (fun _ _ within late => sampled.plan expanded located within late)
  rw [countersAdvance_iff expanded located ticks]
  intro first between second neighbours _ comesRound
  obtain ⟨before, after, split⟩ := neighbours.within
  unfold plannedMessages at split
  rw [split, List.map_append, List.map_cons, List.map_append, List.map_cons, neighbours.same] at served
  have apart : first.stream ∉ between.map PlannedMessage.stream := by
    intro member
    obtain ⟨message, inside, same⟩ := List.mem_map.mp member
    exact neighbours.apart message inside same
  have bounded := between_rounds_le (streamPeriod_pos accepted aircraft) (streams_nodup aircraft) served.symm
    apart
  have member : first.stream ∈ streams aircraft := by
    apply mem_rounds
    rw [← served]
    exact List.mem_append_right _ List.mem_cons_self
  have short := few first.stream member
  rw [List.length_map] at bounded
  have whole := Nat.le_of_dvd (Nat.succ_pos _) comesRound
  omega

/-- With one period for all messages, the counters of a fleet of at most 128 streams advance. A pack is one
stream; an aircraft without packs has six if it speaks OpenDroneID, and four if it speaks GB 46750. -/
theorem counters_advance_even (expanded : validateAndExpand env.sha256 config runtime.device = .ok aircraft)
    (sampled : SampledInRange env runtime sink config startMs ticks) {period : Nat}
    (one : ∀ item ∈ aircraft, ∀ kind, config.periodOf item kind = period)
    (few : (streams aircraft).length ≤ 128) :
    CountersAdvance (handed ((runtimeMachine env.withEncoders).run (runtime, sink)
      (.apply config startMs :: ticks.map .tick)).2) := by
  have even : ∀ stream ∈ streams aircraft, streamPeriod config aircraft stream = period := by
    intro stream member
    obtain ⟨item, found⟩ := mem_streams member
    unfold streamPeriod
    rw [found]
    exact one item (List.mem_of_getElem? found) stream.2
  apply counters_advance_mix expanded sampled
  · intro item member _ kind
    rw [one item member, one item member]
  · intro stream member
    have positive := streamPeriod_pos (accepted_of_expand expanded) aircraft stream member
    rw [even stream member] at positive
    rw [othersBetween_even positive member even]
    omega

end

end RidFirmware
