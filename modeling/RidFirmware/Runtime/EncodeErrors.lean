import RidFirmware.Runtime.Encoding
import RidFirmware.Runtime.Schedule

/-! Which attempts end in an encoding error, over whole runs: those that the encoder of the aircraft
has no message for. -/

namespace RidFirmware
open Lib Lib.Ieee

/-! A tick. -/

section
variable {Number Engine Sink : Type} {env : RuntimeEnv Number Engine Sink}

/-- Every message attempted is one the encoder of its aircraft has. -/
def AllProducible (aircraft : List AircraftConfig) (events : List RuntimeEvent) : Prop :=
  ∀ index kind, (index, kind) ∈ attempts events → ∀ item, aircraft[index]? = some item →
    producible item.protocol kind = true

/-- The errors counted in a tick tell whether it has attempted what cannot be encoded. -/
structure Honest (progress : Progress Engine Sink) : Prop where
  errors : progress.fleet.stats.encodeErrors = 0 ↔
    AllProducible progress.fleet.aircraft progress.events
  result : progress.result = .encodeFailed →
    ¬AllProducible progress.fleet.aircraft progress.events

/-- How an attempt has to end for the count to stay honest. -/
def EndsHonestly (before after : Progress Engine Sink) (known : Bool) : Prop :=
  if known then after.fleet.stats.encodeErrors = before.fleet.stats.encodeErrors ∧
    (after.result = .encodeFailed → before.result = .encodeFailed)
  else after.fleet.stats.encodeErrors ≠ 0

theorem EndsHonestly.congr {before middle after : Progress Engine Sink} {known : Bool}
    (stats : middle.fleet.stats = before.fleet.stats) (result : middle.result = before.result)
    (ends : EndsHonestly middle after known) : EndsHonestly before after known := by
  unfold EndsHonestly at *
  rw [← stats, ← result]
  exact ends

theorem allProducible_append {aircraft : List AircraftConfig} {before after : List RuntimeEvent}
    {index : Nat} {kind : MessageKind} {item : AircraftConfig} (found : aircraft[index]? = some item)
    (attempted : attempts after = attempts before ++ [(index, kind)]) :
    AllProducible aircraft after ↔
      AllProducible aircraft before ∧ producible item.protocol kind = true := by
  unfold AllProducible
  rw [attempted]
  apply Iff.intro
  · intro all
    exact ⟨fun other kind' member => all other kind' (List.mem_append_left _ member),
      all index kind (List.mem_append_right _ (List.mem_singleton.mpr rfl)) item found⟩
  · intro parts other kind' member item' found'
    obtain ⟨all, new⟩ := parts
    rcases List.mem_append.mp member with old | last
    · exact all other kind' old item' found'
    · obtain ⟨rfl, rfl⟩ := Prod.mk.inj (List.mem_singleton.mp last)
      rw [found, Option.some.injEq] at found'
      rw [← found']
      exact new

theorem Honest.attempt {before after : Progress Engine Sink} (honest : Honest before) {index : Nat}
    {kind : MessageKind} {item : AircraftConfig}
    (found : before.fleet.aircraft[index]? = some item)
    (aircraft : after.fleet.aircraft = before.fleet.aircraft)
    (attempted : attempts after.events = attempts before.events ++ [(index, kind)])
    (ends : EndsHonestly before after (producible item.protocol kind)) : Honest after := by
  have all := allProducible_append found attempted
  unfold EndsHonestly at ends
  cases known : producible item.protocol kind with
  | true =>
    rw [known, if_pos rfl] at ends
    rw [known] at all
    constructor
    · rw [ends.1, aircraft, all, honest.errors]
      exact (and_iff_left rfl).symm
    · rw [aircraft, all]
      exact fun failed both => honest.result (ends.2 failed) both.1
  | false =>
    rw [known, if_neg Bool.false_ne_true] at ends
    rw [known] at all
    have unknown : ¬AllProducible before.fleet.aircraft after.events :=
      fun both => Bool.false_ne_true (all.mp both).2
    constructor
    · rw [aircraft]
      exact iff_of_false ends unknown
    · rw [aircraft]
      exact fun _ => unknown

theorem Honest.congr {before after : Progress Engine Sink} (honest : Honest before)
    (aircraft : after.fleet.aircraft = before.fleet.aircraft)
    (attempted : attempts after.events = attempts before.events)
    (errors : after.fleet.stats.encodeErrors = before.fleet.stats.encodeErrors)
    (result : after.result = before.result) : Honest after := by
  have same : AllProducible after.fleet.aircraft after.events ↔
      AllProducible before.fleet.aircraft before.events := by
    unfold AllProducible
    rw [aircraft, attempted]
  constructor
  · rw [errors, same, honest.errors]
  · rw [result, same]
    exact honest.result

theorem saturatingIncrement_ne_zero (value : Nat) : saturatingIncrement value ≠ 0 := by
  unfold saturatingIncrement kCounterMax
  split_ifs <;> omega

theorem submit_ends (progress : Progress Engine Sink) (payload : ScheduledPayload) :
    EndsHonestly progress (progress.submit env payload) true := by
  unfold EndsHonestly Progress.submit
  rw [if_pos rfl]
  dsimp only
  split_ifs
  · exact ⟨rfl, id⟩
  · refine ⟨rfl, ?_⟩
    intro failed
    cases failed

theorem finish_some (progress : Progress Engine Sink) (index : Nat) (kind : MessageKind)
    (payload : ScheduledPayload) {frame : Bytes} (fits : frame.length ≤ kMaxScheduledPayloadSize) :
    progress.finish env index kind payload (some frame) =
      progress.submit env (payload.withContent frame) := by
  have copied : payload.tryCopyFrom (.bytes frame) = (.none, payload.withContent frame) :=
    if_neg (Nat.not_lt.mpr fits)
  unfold Progress.finish
  rw [Option.map_some, copied]

theorem advanceKinds_kept (progress : Progress Engine Sink) (nowMs index : Nat)
    (aircraft : AircraftConfig) :
    (progress.advanceKinds nowMs index aircraft).fleet.stats = progress.fleet.stats ∧
      (progress.advanceKinds nowMs index aircraft).fleet.engine = progress.fleet.engine ∧
      (progress.advanceKinds nowMs index aircraft).result = progress.result := by
  obtain ⟨nextDue, moved⟩ := advanceKinds_eq progress nowMs index aircraft
  rw [moved]
  exact ⟨rfl, rfl, rfl⟩

theorem finish_none (progress : Progress Engine Sink) (index : Nat) (kind : MessageKind)
    (payload : ScheduledPayload) : EndsHonestly progress (progress.finish env index kind payload none)
      false :=
  saturatingIncrement_ne_zero _

end

theorem Fleet.site_valid {Engine : Type} (fleet : Fleet Engine) : validSite fleet.site = true := by
  obtain ⟨site, found, valid⟩ := fleet.accepted.site
  have same : fleet.site = site := by
    unfold Fleet.site
    simp only [found, Option.get_some]
  rw [same]
  exact valid

section
variable {K : Type} [Field K] [LinearOrder K] [IsStrictOrderedRing K] [FloorRing K]
variable {Engine Sink : Type} {env : RuntimeEnv (Datum K) Engine Sink}

theorem tickMessage_honest {progress : Progress Engine Sink} (honest : Honest progress)
    (nowMs index : Nat) {item : AircraftConfig} (found : progress.fleet.aircraft[index]? = some item)
    (derived : item.identity.value.length = 20) {state : FlightState (Datum K)}
    (inRange : encodable item.protocol state = true) (kind : MessageKind) :
    Honest (tickMessage env.withEncoders nowMs index item state progress kind) := by
  by_cases waits : nowMs < progress.fleet.nextDue index kind
  · unfold tickMessage
    rw [if_pos waits]
    exact honest
  · have served := @tickMessage_served _ _ _ env.withEncoders progress nowMs index item state kind
    rw [if_pos (Nat.not_lt.mp waits)] at served
    refine honest.attempt found served.members served.attempts ?_
    unfold tickMessage
    rw [if_neg waits]
    dsimp only
    by_cases odid : item.protocol = .openDroneId
    · rw [if_pos odid, odid]
      rw [odid] at inRange
      obtain ⟨bytes, frame, encoded, framed, fits⟩ :=
        encodeOdid_some env progress.fleet.site_valid inRange derived kind progress.fleet.counter
      rw [encoded]
      unfold Progress.frame
      dsimp only [Progress.attempt, Fleet.advance]
      rw [framed, finish_some _ _ _ _ fits]
      exact submit_ends _ _
    · rw [if_neg odid]
      cases present : GbEncoder.hasMessage kind with
      | true =>
        obtain ⟨bytes, frame, encoded, framed, fits⟩ :=
          encodeGb_some env progress.fleet.site_valid odid inRange derived present
            progress.fleet.counter
        rw [encoded]
        unfold Progress.frame
        dsimp only [Progress.attempt, Fleet.advance]
        rw [framed, finish_some _ _ _ _ fits]
        have known : producible item.protocol kind = true := by
          unfold producible
          rw [present, Bool.or_true]
        rw [known]
        exact submit_ends _ _
      | false =>
        have known : producible item.protocol kind = false := by
          unfold producible
          rw [present, decide_eq_false odid]
          rfl
        rw [encodeGb_none env present, known]
        exact finish_none _ _ _ _

theorem tickPack_honest {progress : Progress Engine Sink} (honest : Honest progress)
    (nowMs index : Nat) {item : AircraftConfig} (found : progress.fleet.aircraft[index]? = some item)
    (derived : item.identity.value.length = 20) (odid : item.protocol = .openDroneId)
    {state : FlightState (Datum K)} (inRange : encodable item.protocol state = true) :
    Honest (tickPack env.withEncoders nowMs index item state progress) := by
  have served := @tickPack_served _ _ _ env.withEncoders progress nowMs index item state
  obtain ⟨stats, _, result⟩ := advanceKinds_kept progress nowMs index item
  by_cases due : kKinds.any (fun kind => progress.fleet.nextDue index kind ≤ nowMs) = true
  · rw [due, if_pos rfl] at served
    refine honest.attempt found served.members served.attempts ?_
    rw [odid] at inRange ⊢
    obtain ⟨bytes, frame, encoded, framed, fits⟩ := encodePack_some env progress.fleet.site_valid inRange
      item derived (progress.advanceKinds nowMs index item).fleet.counter
    unfold tickPack
    dsimp only
    rw [due, if_neg (by decide), encoded]
    generalize progress.advanceKinds nowMs index item = advanced at *
    unfold Progress.frame
    dsimp only [Progress.attempt]
    rw [framed, finish_some _ _ _ _ fits]
    have known : producible .openDroneId .location = true := rfl
    rw [known]
    refine EndsHonestly.congr ?_ ?_ (submit_ends _ _)
    · exact stats
    · exact result
  · rw [Bool.eq_false_iff.mpr due, if_neg Bool.false_ne_true] at served
    refine honest.congr served.members (served.attempts.trans (List.append_nil _)) ?_ ?_
    · unfold tickPack
      dsimp only
      rw [Bool.eq_false_iff.mpr due, if_pos Bool.not_false, stats]
    · unfold tickPack
      dsimp only
      rw [Bool.eq_false_iff.mpr due, if_pos Bool.not_false, result]

end

/-! The engine is only touched by sampling. -/

section
variable {Number Engine Sink : Type} {env : RuntimeEnv Number Engine Sink}

theorem finish_engine (progress : Progress Engine Sink) (index : Nat) (kind : MessageKind)
    (payload : ScheduledPayload) (frame : Option Bytes) :
    (progress.finish env index kind payload frame).fleet.engine = progress.fleet.engine := by
  unfold Progress.finish
  split
  · unfold Progress.submit
    dsimp only
    split_ifs <;> rfl
  · rfl

theorem frame_engine (progress : Progress Engine Sink) (build : UInt8 → Bytes → Option Bytes)
    (encoded : Option Bytes) :
    (progress.frame build encoded).2.fleet.engine = progress.fleet.engine := by
  unfold Progress.frame
  cases encoded <;> rfl

theorem tickMessage_engine (progress : Progress Engine Sink) (nowMs index : Nat)
    (aircraft : AircraftConfig) (state : FlightState Number) (kind : MessageKind) :
    (tickMessage env nowMs index aircraft state progress kind).fleet.engine = progress.fleet.engine := by
  unfold tickMessage
  dsimp only
  split_ifs
  · rfl
  · rw [finish_engine, frame_engine]
    rfl
  · rw [finish_engine, frame_engine]
    rfl

theorem tickPack_engine (progress : Progress Engine Sink) (nowMs index : Nat)
    (aircraft : AircraftConfig) (state : FlightState Number) :
    (tickPack env nowMs index aircraft state progress).fleet.engine = progress.fleet.engine := by
  have kept := (advanceKinds_kept progress nowMs index aircraft).2.1
  unfold tickPack
  dsimp only
  generalize progress.advanceKinds nowMs index aircraft = middle at *
  by_cases due : kKinds.any (fun kind => progress.fleet.nextDue index kind ≤ nowMs) = true
  · rw [due, if_neg (by decide), finish_engine, frame_engine]
    exact kept
  · rw [Bool.eq_false_iff.mpr due, if_pos Bool.not_false]
    exact kept

theorem foldl_tickMessage_engine (nowMs index : Nat) (aircraft : AircraftConfig)
    (state : FlightState Number) (kinds : List MessageKind) (progress : Progress Engine Sink) :
    (kinds.foldl (tickMessage env nowMs index aircraft state) progress).fleet.engine =
      progress.fleet.engine := by
  induction kinds generalizing progress with
  | nil => rfl
  | cons kind rest ih => rw [List.foldl_cons, ih, tickMessage_engine]

theorem tickAircraft_engine (progress : Progress Engine Sink) (nowMs : Nat)
    (item : AircraftConfig × Nat) :
    (tickAircraft env nowMs progress item).fleet.engine = (env.sample progress.fleet.engine
      (progress.fleet.config.groupOf item.1).trajectory item.1.instanceIndex
      (elapsed32 nowMs progress.fleet.startedMs)).2 := by
  unfold tickAircraft
  dsimp only
  split_ifs
  · rw [tickPack_engine]
  · rw [foldl_tickMessage_engine]

/-- The flight states a tick samples, in the order of the aircraft. -/
def sampledStates (env : RuntimeEnv Number Engine Sink) (config : SystemConfig) (startedMs nowMs : Nat) :
    Engine → List AircraftConfig → List (AircraftConfig × FlightState Number)
  | _, [] => []
  | engine, aircraft :: rest =>
      let sampled := env.sample engine (config.groupOf aircraft).trajectory aircraft.instanceIndex
        (elapsed32 nowMs startedMs)
      (aircraft, sampled.1) :: sampledStates env config startedMs nowMs sampled.2 rest

theorem sampledStates_fst (config : SystemConfig) (startedMs nowMs : Nat) (engine : Engine)
    (items : List AircraftConfig) :
    (sampledStates env config startedMs nowMs engine items).map Prod.fst = items := by
  induction items generalizing engine with
  | nil => rfl
  | cons item rest ih => rw [sampledStates, List.map_cons, ih]

/-- The flight states a call of `tick` samples. -/
def Runtime.sampled (env : RuntimeEnv Number Engine Sink) (runtime : Runtime Engine) (nowMs : Nat) :
    List (AircraftConfig × FlightState Number) :=
  match runtime.fleet with
  | none => []
  | some fleet =>
      if nowMs < fleet.startedMs then []
      else sampledStates env fleet.config fleet.startedMs nowMs fleet.engine fleet.aircraft

end

section
variable {K : Type} [Field K] [LinearOrder K] [IsStrictOrderedRing K] [FloorRing K]
variable {Engine Sink : Type} {env : RuntimeEnv (Datum K) Engine Sink}

theorem tickAircraft_honest {progress : Progress Engine Sink} (honest : Honest progress)
    (nowMs : Nat) {item : AircraftConfig × Nat}
    (found : progress.fleet.aircraft[item.2]? = some item.1)
    (derived : item.1.identity.value.length = 20)
    (inRange : encodable item.1.protocol (env.sample progress.fleet.engine
      (progress.fleet.config.groupOf item.1).trajectory item.1.instanceIndex
      (elapsed32 nowMs progress.fleet.startedMs)).1 = true) :
    Honest (tickAircraft env.withEncoders nowMs progress item) := by
  unfold tickAircraft
  dsimp only [RuntimeEnv.withEncoders]
  generalize env.sample _ _ _ _ = sampled at *
  have start : Honest { progress with fleet := { progress.fleet with engine := sampled.2 } } :=
    honest.congr rfl rfl rfl rfl
  split_ifs with packed
  · have odid : item.1.protocol = .openDroneId := (of_decide_eq_true packed).1
    exact tickPack_honest start nowMs item.2 found derived odid inRange
  · have each : ∀ kinds : List MessageKind, ∀ progress : Progress Engine Sink, Honest progress →
        progress.fleet.aircraft[item.2]? = some item.1 →
        Honest (kinds.foldl (tickMessage env.withEncoders nowMs item.2 item.1 sampled.1) progress) := by
      intro kinds
      induction kinds with
      | nil => exact fun _ honest _ => honest
      | cons kind rest ih =>
        intro progress honest found
        refine ih _ (tickMessage_honest honest nowMs item.2 found derived inRange kind) ?_
        have served := @tickMessage_served _ _ _ env.withEncoders progress nowMs item.2 item.1 sampled.1
          kind
        rw [served.members]
        exact found
    exact each kKinds _ start found

theorem foldl_honest (nowMs : Nat) (items : List (AircraftConfig × Nat))
    (derived : ∀ item ∈ items, item.1.identity.value.length = 20) (progress : Progress Engine Sink)
    (honest : Honest progress) (found : ∀ item ∈ items, progress.fleet.aircraft[item.2]? = some item.1)
    (inRange : ∀ sample ∈ sampledStates env progress.fleet.config progress.fleet.startedMs nowMs
      progress.fleet.engine (items.map Prod.fst), encodable sample.1.protocol sample.2 = true) :
    Honest (items.foldl (tickAircraft env.withEncoders nowMs) progress) := by
  induction items generalizing progress with
  | nil => exact honest
  | cons item rest ih =>
    have served := @tickAircraft_served _ _ _ env.withEncoders progress nowMs item
    have engine := @tickAircraft_engine _ _ _ env.withEncoders progress nowMs item
    rw [List.map_cons, sampledStates, List.forall_mem_cons] at inRange
    have first := tickAircraft_honest honest nowMs (found item List.mem_cons_self)
      (derived item List.mem_cons_self) inRange.1
    refine ih (fun other member => derived other (List.mem_cons_of_mem _ member)) _ first ?_ ?_
    · intro other member
      rw [served.members]
      exact found other (List.mem_cons_of_mem _ member)
    · rw [served.config, served.startedMs, engine]
      exact inRange.2

theorem tick_honest {fleet : Fleet Engine} (clean : fleet.stats.encodeErrors = 0) (sink : Sink)
    (nowMs : Nat) (derived : ∀ item ∈ fleet.aircraft, item.identity.value.length = 20)
    (inRange : ∀ sample ∈ sampledStates env fleet.config fleet.startedMs nowMs fleet.engine
      fleet.aircraft, encodable sample.1.protocol sample.2 = true) :
    Honest (fleet.tick env.withEncoders sink nowMs) := by
  apply foldl_honest
  · intro item member
    exact derived item.1 (List.mem_of_getElem? (List.mem_zipIdx_iff_getElem?.mp member))
  · constructor
    · exact iff_of_true clean (fun _ _ member => absurd member List.not_mem_nil)
    · exact nofun
  · exact fun item member => List.mem_zipIdx_iff_getElem?.mp member
  · rw [List.zipIdx_map_fst]
    exact inRange

/-- No tick so far has attempted what cannot be encoded: the count is zero, and what cannot be encoded
is still due at its first time. -/
structure Clean (fleet : Fleet Engine) : Prop where
  errors : fleet.stats.encodeErrors = 0
  waiting : ∀ index item, fleet.aircraft[index]? = some item → ∀ kind,
    producible item.protocol kind = false →
    fleet.nextDue index kind = firstDue fleet.config fleet.aircraft fleet.startedMs index kind

/-- The time is before every first due time of what cannot be encoded. -/
def BeforeUnproducible (config : SystemConfig) (aircraft : List AircraftConfig) (startMs nowMs : Nat) :
    Prop :=
  ∀ index item, aircraft[index]? = some item → ∀ kind, producible item.protocol kind = false →
    nowMs < firstDue config aircraft startMs index kind

theorem mem_attempts_iff {Number : Type} {env : RuntimeEnv Number Engine Sink} {fleet : Fleet Engine}
    {index : Nat} {item : AircraftConfig} (found : fleet.aircraft[index]? = some item) (sink : Sink)
    (nowMs : Nat) (kind : MessageKind) :
    (index, kind) ∈ attempts (fleet.tick env sink nowMs).events ↔
      kind ∈ attemptedKinds item nowMs (fleet.nextDue index) := by
  have ticked := @tick_ticked _ _ _ env fleet sink nowMs
  have member : (item, index) ∈ fleet.aircraft.zipIdx := List.mem_zipIdx_iff_getElem?.mpr found
  have counted := ticked.counted _ member kind
  rw [← List.count_pos_iff, ← List.count_pos_iff, counted]
  simp [attempts]

theorem unproducible_attempted {item : AircraftConfig} {kind : MessageKind}
    (missing : producible item.protocol kind = false) (nowMs : Nat) (due : MessageKind → Nat) :
    kind ∈ attemptedKinds item nowMs due ↔ due kind ≤ nowMs := by
  have single : ¬item.packed = true := by
    intro packed
    have odid : item.protocol = .openDroneId := (of_decide_eq_true packed).1
    rw [producible, odid] at missing
    cases missing
  unfold attemptedKinds
  rw [if_neg single]
  simp

theorem Clean.tick {fleet : Fleet Engine} (clean : Clean fleet) (sink : Sink) (nowMs : Nat)
    (derived : ∀ item ∈ fleet.aircraft, item.identity.value.length = 20)
    (inRange : ∀ sample ∈ sampledStates env fleet.config fleet.startedMs nowMs fleet.engine
      fleet.aircraft, encodable sample.1.protocol sample.2 = true) :
    ((fleet.tick env.withEncoders sink nowMs).fleet.stats.encodeErrors = 0 ↔
        BeforeUnproducible fleet.config fleet.aircraft fleet.startedMs nowMs) ∧
      (BeforeUnproducible fleet.config fleet.aircraft fleet.startedMs nowMs →
        (fleet.tick env.withEncoders sink nowMs).result ≠ .encodeFailed ∧
        AllProducible fleet.aircraft (fleet.tick env.withEncoders sink nowMs).events ∧
        Clean (fleet.tick env.withEncoders sink nowMs).fleet) := by
  have ticked := @tick_ticked _ _ _ env.withEncoders fleet sink nowMs
  have honest := tick_honest clean.errors sink nowMs derived inRange
  have errors := honest.errors
  have result := honest.result
  rw [ticked.members] at errors result
  have before : AllProducible fleet.aircraft (fleet.tick env.withEncoders sink nowMs).events ↔
      BeforeUnproducible fleet.config fleet.aircraft fleet.startedMs nowMs := by
    apply Iff.intro
    · intro all index item found kind missing
      rw [← clean.waiting index item found kind missing]
      by_contra fired
      have attempted : (index, kind) ∈ attempts (fleet.tick env.withEncoders sink nowMs).events :=
        (mem_attempts_iff found sink nowMs kind).mpr
          ((unproducible_attempted missing nowMs (fleet.nextDue index)).mpr (Nat.not_lt.mp fired))
      rw [all index kind attempted item found] at missing
      cases missing
    · intro early index kind attempted item found
      by_contra missing
      rw [Bool.not_eq_true] at missing
      have fired := (unproducible_attempted missing nowMs (fleet.nextDue index)).mp
        ((mem_attempts_iff found sink nowMs kind).mp attempted)
      rw [clean.waiting index item found kind missing] at fired
      exact Nat.not_lt.mpr fired (early index item found kind missing)
  refine ⟨errors.trans before, fun early => ⟨fun failed => result failed (before.mpr early),
    before.mpr early, (errors.trans before).mpr early, ?_⟩⟩
  intro index item found kind missing
  rw [ticked.members] at found
  have due := ticked.nextDue (item, index) (List.mem_zipIdx_iff_getElem?.mpr found) kind
  have waits := early index item found kind missing
  rw [← clean.waiting index item found kind missing] at waits
  rw [ticked.config, ticked.members, ticked.startedMs, due, dueAfter, if_neg (Nat.not_le.mpr waits)]
  exact clean.waiting index item found kind missing

end

/-! Whole runs. -/

section
variable {Number Engine Sink : Type} (env : RuntimeEnv Number Engine Sink)

/-- The runtime and its sink after an `apply` and some ticks. -/
def afterTicks (runtime : Runtime Engine) (sink : Sink) (config : SystemConfig) (startMs : Nat)
    (before : List Nat) : Runtime Engine × Sink :=
  ((runtimeMachine env).run (runtime, sink) (.apply config startMs :: before.map .tick)).1

/-- Every tick of a run encodes whatever it attempts, and attempts only what can be encoded. -/
structure EncodesAll (runtime : Runtime Engine) (sink : Sink) (config : SystemConfig) (startMs : Nat)
    (ticks : List Nat) (aircraft : List AircraftConfig) : Prop where
  noFailure : ∀ before nowMs, before ++ [nowMs] <+: ticks →
    let state := afterTicks env runtime sink config startMs before
    (state.1.tick env state.2 nowMs).1 ≠ .encodeFailed
  noErrors : ∀ before, before <+: ticks →
    (afterTicks env runtime sink config startMs before).1.stats.encodeErrors = 0
  producible : ∀ before nowMs, before ++ [nowMs] <+: ticks →
    let state := afterTicks env runtime sink config startMs before
    AllProducible aircraft (state.1.tick env state.2 nowMs).2.2.2

theorem afterTicks_snoc (runtime : Runtime Engine) (sink : Sink) (config : SystemConfig)
    (startMs : Nat) (before : List Nat) (nowMs : Nat) :
    (afterTicks env runtime sink config startMs (before ++ [nowMs])).1 =
      ((afterTicks env runtime sink config startMs before).1.tick env
        (afterTicks env runtime sink config startMs before).2 nowMs).2.1 := by
  unfold afterTicks
  rw [List.map_append, List.map_singleton, ← List.cons_append, Machine.run_snoc]
  rfl

theorem le_firstDue {config : SystemConfig} {aircraft : List AircraftConfig} {index : Nat}
    {item : AircraftConfig} (found : aircraft[index]? = some item) (startMs : Nat) (kind : MessageKind) :
    startMs ≤ firstDue config aircraft startMs index kind := by
  unfold firstDue
  rw [found]
  exact Nat.le_add_right _ _

theorem tick_early {runtime : Runtime Engine} {fleet : Fleet Engine}
    (running : runtime.fleet = some fleet) {nowMs : Nat} (early : nowMs < fleet.startedMs) (sink : Sink) :
    runtime.tick env sink nowMs = (.invalidConfig, runtime, sink, []) := by
  unfold Runtime.tick
  simp only [running]
  rw [if_pos early]

theorem tick_late {runtime : Runtime Engine} {fleet : Fleet Engine}
    (running : runtime.fleet = some fleet) {nowMs : Nat} (late : ¬nowMs < fleet.startedMs) (sink : Sink) :
    runtime.tick env sink nowMs = ((fleet.tick env sink nowMs).result,
      { runtime with fleet := some (fleet.tick env sink nowMs).fleet },
      (fleet.tick env sink nowMs).sink, (fleet.tick env sink nowMs).events) := by
  unfold Runtime.tick
  simp only [running]
  rw [if_neg late]

theorem apply_clean {runtime : Runtime Engine} {config : SystemConfig} {startMs : Nat}
    (applied : (runtime.apply env config startMs).1 = .none) :
    ∃ fleet, (runtime.apply env config startMs).2.fleet = some fleet ∧ fleet.config = config ∧
      validateAndExpand env.sha256 config runtime.device = .ok fleet.aircraft ∧
      fleet.startedMs = startMs ∧ Clean fleet := by
  obtain ⟨fleet, started, running⟩ := apply_started applied
  refine ⟨fleet, running, started.config, started.expanded, started.startedMs, ?_, ?_⟩
  · rw [started.stats]
  · intro index item _ kind _
    rw [started.nextDue, started.config, started.startedMs]

end

section
variable {K : Type} [Field K] [LinearOrder K] [IsStrictOrderedRing K] [FloorRing K]
variable {Engine Sink : Type} (env : RuntimeEnv (Datum K) Engine Sink)

/-- Every flight state sampled in the run is in the ranges of its aircraft's encoder. -/
def SampledInRange (runtime : Runtime Engine) (sink : Sink) (config : SystemConfig) (startMs : Nat)
    (ticks : List Nat) : Prop :=
  ∀ before nowMs, before ++ [nowMs] <+: ticks →
    ∀ sample ∈ (afterTicks env.withEncoders runtime sink config startMs before).1.sampled
      env.withEncoders nowMs, encodable sample.1.protocol sample.2 = true

variable {env} {runtime : Runtime Engine} {sink : Sink} {config : SystemConfig} {startMs : Nat}

omit [IsStrictOrderedRing K] in
theorem sampled_running {fleet : Fleet Engine} (running : runtime.fleet = some fleet) {nowMs : Nat}
    (late : ¬nowMs < fleet.startedMs) :
    runtime.sampled env.withEncoders nowMs =
      sampledStates env fleet.config fleet.startedMs nowMs fleet.engine fleet.aircraft := by
  have same : ∀ engine aircraft,
      sampledStates env.withEncoders fleet.config fleet.startedMs nowMs engine aircraft =
        sampledStates env fleet.config fleet.startedMs nowMs engine aircraft := by
    intro engine aircraft
    induction aircraft generalizing engine with
    | nil => rfl
    | cons item rest ih =>
      rw [sampledStates, sampledStates, ih]
      rfl
  unfold Runtime.sampled
  simp only [running]
  rw [if_neg late, same]

omit [IsStrictOrderedRing K] in
theorem sampled_early {fleet : Fleet Engine} (running : runtime.fleet = some fleet) {nowMs : Nat}
    (early : nowMs < fleet.startedMs) : runtime.sampled env.withEncoders nowMs = [] := by
  unfold Runtime.sampled
  simp only [running]
  rw [if_pos early]

/-- While no tick comes late enough for what cannot be encoded, the runtime stays clean. -/
theorem run_clean (applied : (runtime.apply env.withEncoders config startMs).1 = .none)
    {aircraft : List AircraftConfig}
    (expanded : validateAndExpand env.sha256 config runtime.device = .ok aircraft) (before : List Nat)
    (sampled : SampledInRange env runtime sink config startMs before)
    (early : ∀ nowMs ∈ before, BeforeUnproducible config aircraft startMs nowMs) :
    ∃ fleet, (afterTicks env.withEncoders runtime sink config startMs before).1.fleet = some fleet ∧
      fleet.config = config ∧ fleet.aircraft = aircraft ∧ fleet.startedMs = startMs ∧ Clean fleet := by
  induction before using List.reverseRecOn with
  | nil =>
    obtain ⟨fleet, running, same, expanded', started, clean⟩ := apply_clean env.withEncoders applied
    have members : Except.ok fleet.aircraft = Except.ok aircraft := expanded'.symm.trans expanded
    exact ⟨fleet, running, same, Except.ok.inj members, started, clean⟩
  | append_singleton before nowMs ih =>
    have shorter : SampledInRange env runtime sink config startMs before :=
      fun first next within => sampled first next (within.trans (List.prefix_append before [nowMs]))
    obtain ⟨fleet, running, rfl, rfl, rfl, clean⟩ :=
      ih shorter (fun earlier member => early earlier (List.mem_append_left _ member))
    rw [afterTicks_snoc]
    by_cases late : nowMs < fleet.startedMs
    · rw [tick_early env.withEncoders running late]
      exact ⟨fleet, running, rfl, rfl, rfl, clean⟩
    · rw [tick_late env.withEncoders running late]
      have inRange := sampled before nowMs List.prefix_rfl
      rw [sampled_running running late] at inRange
      have now := early nowMs (List.mem_append_right _ (List.mem_singleton.mpr rfl))
      have ticked := @tick_ticked _ _ _ env.withEncoders fleet
        (afterTicks env.withEncoders runtime sink fleet.config fleet.startedMs before).2 nowMs
      exact ⟨_, rfl, ticked.config, ticked.members, ticked.startedMs,
        ((clean.tick _ nowMs (identities_derived expanded) inRange).2 now).2.2⟩

/-- One more tick keeps the count at zero exactly if it is early enough. -/
theorem run_clean_snoc (applied : (runtime.apply env.withEncoders config startMs).1 = .none)
    {aircraft : List AircraftConfig}
    (expanded : validateAndExpand env.sha256 config runtime.device = .ok aircraft) (before : List Nat)
    (nowMs : Nat) (sampled : SampledInRange env runtime sink config startMs (before ++ [nowMs]))
    (early : ∀ nowMs ∈ before, BeforeUnproducible config aircraft startMs nowMs) :
    let state := afterTicks env.withEncoders runtime sink config startMs before
    let ticked := state.1.tick env.withEncoders state.2 nowMs
    (ticked.2.1.stats.encodeErrors = 0 ↔ BeforeUnproducible config aircraft startMs nowMs) ∧
      (BeforeUnproducible config aircraft startMs nowMs →
        ticked.1 ≠ .encodeFailed ∧ AllProducible aircraft ticked.2.2.2) := by
  have shorter : SampledInRange env runtime sink config startMs before :=
    fun first next within => sampled first next (within.trans (List.prefix_append before [nowMs]))
  obtain ⟨fleet, running, rfl, rfl, rfl, clean⟩ := run_clean applied expanded before shorter early
  dsimp only
  by_cases late : nowMs < fleet.startedMs
  · rw [tick_early env.withEncoders running late]
    have waits : BeforeUnproducible fleet.config fleet.aircraft fleet.startedMs nowMs :=
      fun index item found kind _ => late.trans_le (le_firstDue found fleet.startedMs kind)
    refine ⟨iff_of_true ?_ waits, fun _ => ⟨nofun, fun _ _ member => absurd member List.not_mem_nil⟩⟩
    unfold Runtime.stats
    rw [running]
    exact clean.errors
  · rw [tick_late env.withEncoders running late]
    have inRange := sampled before nowMs List.prefix_rfl
    rw [sampled_running running late] at inRange
    have tick := clean.tick (afterTicks env.withEncoders runtime sink fleet.config fleet.startedMs
      before).2 nowMs (identities_derived expanded) inRange
    exact ⟨tick.1, fun now => ⟨(tick.2 now).1, (tick.2 now).2.1⟩⟩

theorem beforeUnproducible_iff {sha256 : Sha256} {device : DeviceId} {aircraft : List AircraftConfig}
    (expanded : validateAndExpand sha256 config device = .ok aircraft) (startMs nowMs : Nat) :
    BeforeUnproducible config aircraft startMs nowMs ↔
      ∀ index item, aircraft[index]? = some item → item.protocol = .gb46750 → ∀ kind,
        kind = .authentication ∨ kind = .selfId →
        nowMs < firstDue config aircraft startMs index kind := by
  have missing : ∀ item ∈ aircraft, ∀ kind, producible item.protocol kind = false ↔
      item.protocol = .gb46750 ∧ (kind = .authentication ∨ kind = .selfId) := by
    intro item member kind
    obtain ⟨group, isMember⟩ := expanded_of_mem expanded member
    have accepted := (accepted_of_expand expanded).groups group (List.mem_of_getElem? isMember.found)
    have known : item.protocol = .gb46750 ∨ item.protocol = .openDroneId := by
      rw [isMember.protocol]
      have supported := accepted.supported
      unfold RidFirmware.supported at supported
      by_contra neither
      rw [not_or] at neither
      simp [neither.1, neither.2] at supported
    rcases known with gb | odid
    · rw [gb]
      cases kind <;> decide
    · rw [odid]
      cases kind <;> decide
  apply Iff.intro
  · intro early index item found gb kind lacking
    exact early index item found kind
      ((missing item (List.mem_of_getElem? found) kind).mpr ⟨gb, lacking⟩)
  · intro early index item found kind lacking
    obtain ⟨gb, kinds⟩ := (missing item (List.mem_of_getElem? found) kind).mp lacking
    exact early index item found gb kind kinds

/-- In a run whose sampled flight states are all in range, every message is encoded, and none is
scheduled which cannot be, exactly if no tick comes at or after the first due time of an
`Authentication` or `SelfId` message of a GB 46750 aircraft. -/
theorem encodes_all_iff (env : RuntimeEnv (Datum K) Engine Sink) (runtime : Runtime Engine) (sink : Sink)
    (config : SystemConfig) (startMs : Nat)
    (applied : (runtime.apply env.withEncoders config startMs).1 = .none) (ticks : List Nat)
    (sampled : SampledInRange env runtime sink config startMs ticks) :
    ∃ aircraft, validateAndExpand env.sha256 config runtime.device = .ok aircraft ∧
      (EncodesAll env.withEncoders runtime sink config startMs ticks aircraft ↔
        ∀ nowMs ∈ ticks, ∀ index item, aircraft[index]? = some item → item.protocol = .gb46750 →
          ∀ kind, kind = .authentication ∨ kind = .selfId →
          nowMs < firstDue config aircraft startMs index kind) := by
  obtain ⟨fleet, _, _, expanded, _, _⟩ := apply_clean env.withEncoders applied
  refine ⟨fleet.aircraft, expanded, ?_⟩
  simp only [← beforeUnproducible_iff expanded startMs]
  have shorter : ∀ before, before <+: ticks → SampledInRange env runtime sink config startMs before :=
    fun before isPrefix first next within => sampled first next (within.trans isPrefix)
  apply Iff.intro
  · intro encodes
    have early : ∀ before, before <+: ticks →
        ∀ nowMs ∈ before, BeforeUnproducible config fleet.aircraft startMs nowMs := by
      intro before
      induction before using List.reverseRecOn with
      | nil => exact fun _ _ member => absurd member List.not_mem_nil
      | append_singleton before nowMs ih =>
        intro isPrefix
        have earlier := ih ((List.prefix_append before [nowMs]).trans isPrefix)
        have last := run_clean_snoc applied expanded before nowMs (shorter _ isPrefix) earlier
        have none := encodes.noErrors _ isPrefix
        rw [afterTicks_snoc] at none
        intro other member
        rcases List.mem_append.mp member with old | new
        · exact earlier other old
        · rw [List.mem_singleton.mp new]
          exact last.1.mp none
    exact early ticks List.prefix_rfl
  · intro early
    have step : ∀ before nowMs, before ++ [nowMs] <+: ticks →
        let state := afterTicks env.withEncoders runtime sink config startMs before
        let ticked := state.1.tick env.withEncoders state.2 nowMs
        ticked.1 ≠ .encodeFailed ∧ AllProducible fleet.aircraft ticked.2.2.2 := by
      intro before nowMs isPrefix
      have inside := fun other member => early other (isPrefix.subset member)
      refine (run_clean_snoc applied expanded before nowMs (shorter _ isPrefix)
        (fun other member => inside other (List.mem_append_left _ member))).2 ?_
      exact inside nowMs (List.mem_append_right _ (List.mem_singleton.mpr rfl))
    constructor
    · exact fun before nowMs isPrefix => (step before nowMs isPrefix).1
    · intro before isPrefix
      obtain ⟨later, running, _, _, _, clean⟩ := run_clean applied expanded before
        (shorter before isPrefix) (fun nowMs member => early nowMs (isPrefix.subset member))
      unfold Runtime.stats
      rw [running]
      exact clean.errors
    · exact fun before nowMs isPrefix => (step before nowMs isPrefix).2

end

def oneGb : SystemConfig where
  site := some { latitudeDeg := ⟨0⟩, longitudeDeg := ⟨0⟩ }
  groups := [{ name := [65], count := 1, protocol := .gb46750, transport := .wifi24 }]

def oneGbSha256 : Sha256 := fun input =>
  if input = [0, 0, 0, 0, 0, 0, 65, 0, 0, 0, 0, 0] then some #v[
    0x74, 0x0e, 0xa6, 0xd5, 0xf6, 0x5a, 0x14, 0x8e, 0xc6, 0xad, 0x2f, 0xad, 0xf5, 0x67, 0x00, 0xda,
    0x7b, 0xe0, 0x47, 0x10, 0x2c, 0x4e, 0x9e, 0x75, 0x68, 0xba, 0x67, 0xcc, 0x1a, 0x3a, 0x8a, 0xe8]
  else none

/-- What is sampled of an aircraft that hovers on the ground at the origin, and a sink that takes
everything. The encoders are put in by `withEncoders`. -/
def hoverEnv : RuntimeEnv (Datum ℚ) Unit Unit where
  sha256 := oneGbSha256
  newEngine _ := ()
  sample engine _ _ elapsedMs := (⟨.finite 0, .finite 0, .finite 0, .finite 0, .finite 0, .finite 0,
    .finite 0, false, elapsedMs⟩, engine)
  encodePack _ _ _ := none
  encodeOdid _ _ _ _ := none
  encodeGb _ _ _ _ := none
  submit sink _ := (true, sink)

theorem sampledInRange_hover (tickMs : Nat)
    (single : ∀ sample ∈ (afterTicks hoverEnv.withEncoders idleRuntime () oneGb 0 []).1.sampled
      hoverEnv.withEncoders tickMs, encodable sample.1.protocol sample.2 = true) :
    SampledInRange hoverEnv idleRuntime () oneGb 0 [tickMs] := by
  intro before nowMs isPrefix
  have length := isPrefix.length_le
  rw [List.length_append, List.length_singleton, List.length_singleton] at length
  have empty : before = [] := List.length_eq_zero_iff.mp (by omega)
  subst empty
  have same : nowMs = tickMs := by simpa using isPrefix
  rw [same]
  exact single

/-- A first tick that comes before anything which cannot be encoded is due. -/
theorem encodes_all_iff_early :
    ∃ aircraft, validateAndExpand hoverEnv.sha256 oneGb idleRuntime.device = .ok aircraft ∧
      (EncodesAll hoverEnv.withEncoders idleRuntime () oneGb 0 [200] aircraft ↔
        ∀ nowMs ∈ [200], ∀ index item, aircraft[index]? = some item → item.protocol = .gb46750 →
          ∀ kind, kind = .authentication ∨ kind = .selfId →
          nowMs < firstDue oneGb aircraft 0 index kind) :=
  encodes_all_iff hoverEnv idleRuntime () oneGb 0 (by decide +kernel) [200]
    (sampledInRange_hover 200 (by decide +kernel))

/-- An accepted configuration whose first tick fails, though everything it samples is in range. -/
theorem gb_fleet_fails_to_encode :
    validate oneGb = .ok () ∧
      (idleRuntime.apply hoverEnv.withEncoders oneGb 0).1 = .none ∧
      SampledInRange hoverEnv idleRuntime () oneGb 0 [1000] ∧
      let state := afterTicks hoverEnv.withEncoders idleRuntime () oneGb 0 []
      let ticked := state.1.tick hoverEnv.withEncoders state.2 1000
      ticked.1 = .encodeFailed ∧ ticked.2.1.stats.encodeErrors = 2 :=
  ⟨by decide +kernel, by decide +kernel, sampledInRange_hover 1000 (by decide +kernel),
    by decide +kernel, by decide +kernel⟩

end RidFirmware
