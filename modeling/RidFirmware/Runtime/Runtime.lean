import Mathlib.Data.List.GetD
import RidFirmware.Config.Accepted
import RidFirmware.Radio.Framing

/-! The runtime: `apply` lays out when each message of each aircraft is due, `tick` encodes and
submits what is due. The trajectory engine, the encoders and the sink are parameters. -/

namespace RidFirmware
open Lib

inductive RuntimeError where
  | none
  | invalidConfig
  | encodeFailed
  | submitFailed
  deriving DecidableEq

structure RuntimeStats where
  expected : Nat := 0
  submitted : Nat := 0
  encodeErrors : Nat := 0
  submitErrors : Nat := 0
  deriving DecidableEq

/-- What the runtime calls: the hash, `TrajectoryEngine`, the two encoders with their default
options and the site as the position of the operator, and `RuntimeSink::submit`. An encoder that is
not `ok` yields nothing. -/
structure RuntimeEnv (Number Engine Sink : Type) where
  sha256 : Sha256
  newEngine : GeoPoint Float64Bits → Engine
  sample : Engine → TrajectoryConfig → UInt16 → UInt32 → FlightState Number × Engine
  encodePack : GeoPoint Float64Bits → FlightState Number → TestIdentity → Option Bytes
  encodeOdid : MessageKind → GeoPoint Float64Bits → FlightState Number → TestIdentity → Option Bytes
  encodeGb : MessageKind → GeoPoint Float64Bits → FlightState Number → TestIdentity → Option Bytes
  submit : Sink → ScheduledPayload → Bool × Sink

/-- What `tick` does for an aircraft: a sequence number is taken for a message (of a pack, for its
`Location`), and the message ends in an encoding error or in the hands of the sink. -/
inductive RuntimeEvent where
  | attempt (aircraft : Nat) (kind : MessageKind) (sequence : Nat)
  | encodeFailed (aircraft : Nat) (kind : MessageKind)
  | submitted (payload : ScheduledPayload) (taken : Bool)
  deriving DecidableEq

/-- What `apply` sets. The configuration has passed `validate`. -/
structure Fleet (Engine : Type) where
  config : SystemConfig
  accepted : Accepted config
  aircraft : List AircraftConfig
  engine : Engine
  nextDue : Nat → MessageKind → Nat
  startedMs : Nat
  stats : RuntimeStats := {}
  sequence : Nat := 0
  counter : UInt8 := 0

/-- Before the first successful `apply` there is no fleet, and nothing runs. -/
structure Runtime (Engine : Type) where
  device : DeviceId
  fleet : Option (Fleet Engine) := none

namespace Runtime

variable {Engine : Type} (runtime : Runtime Engine)

def running : Bool := runtime.fleet.isSome

def config : SystemConfig := runtime.fleet.elim defaultConfig Fleet.config

def stats : RuntimeStats := runtime.fleet.elim {} Fleet.stats

end Runtime

def SystemConfig.groupOf (config : SystemConfig) (aircraft : AircraftConfig) : GroupConfig :=
  config.groups.getD aircraft.groupIndex.toNat {}

/-- `effective_period(...).count()` of a message of an aircraft. -/
def SystemConfig.periodOf (config : SystemConfig) (aircraft : AircraftConfig) (kind : MessageKind) :
    Nat := (effectivePeriod config (config.groupOf aircraft) kind).toNat

theorem Accepted.periodOf_bounds {config : SystemConfig} (accepted : Accepted config)
    (aircraft : AircraftConfig) (kind : MessageKind) :
    100 ≤ config.periodOf aircraft kind ∧ config.periodOf aircraft kind ≤ 60000 := by
  have valid : validPeriod (effectivePeriod config (config.groupOf aircraft) kind) = true := by
    unfold SystemConfig.groupOf
    by_cases inside : aircraft.groupIndex.toNat < config.groups.length
    · rw [List.getD_eq_getElem _ _ inside]
      exact accepted.effectivePeriod_valid (List.getElem_mem inside) kind
    · rw [List.getD_eq_default _ _ (Nat.not_lt.mp inside)]
      exact accepted.defaultPeriod
  have bounds := (validPeriod_iff _).mp valid
  unfold SystemConfig.periodOf
  omega

theorem Accepted.periodOf_pos {config : SystemConfig} (accepted : Accepted config)
    (aircraft : AircraftConfig) (kind : MessageKind) : 0 < config.periodOf aircraft kind :=
  Nat.lt_of_lt_of_le (by decide) (accepted.periodOf_bounds aircraft kind).1

/-- All messages of the aircraft go out in one pack. `apply` and `tick` word this differently. -/
def AircraftConfig.packedAtApply (aircraft : AircraftConfig) : Bool :=
  decide (aircraft.protocol = .openDroneId ∧ aircraft.transport ≠ .ble4)

def AircraftConfig.wifi (aircraft : AircraftConfig) : Bool :=
  decide (aircraft.transport = .wifi24 ∨ aircraft.transport = .wifi58)

def AircraftConfig.packed (aircraft : AircraftConfig) : Bool :=
  decide (aircraft.protocol = .openDroneId ∧ (aircraft.wifi ∨ aircraft.transport = .ble5))

/-- The first due time of a message: the period is divided into as many slots as there are messages. -/
def firstDue (config : SystemConfig) (aircraft : List AircraftConfig) (nowMs index : Nat)
    (kind : MessageKind) : Nat :=
  match aircraft[index]? with
  | none => 0
  | some item =>
      let slots := if item.packedAtApply then aircraft.length else aircraft.length * kMessageKindCount
      let slot := if item.packedAtApply then index else index * kMessageKindCount + kind.index
      nowMs + config.periodOf item kind * slot / slots

/-- The `do` loop of `advance_due`. -/
def advanceDue (period : Nat) (positive : 0 < period) (nowMs due : Nat) : Nat :=
  let due := due + period
  if due ≤ nowMs then advanceDue period positive nowMs due else due
termination_by nowMs - due
decreasing_by omega

def addressFor (identity : TestIdentity) (index : UInt16) : Vector UInt8 6 :=
  let start : Vector UInt8 6 := #v[0x02, 0, 0, 0, 0, index.toUInt8]
  let mixed := identity.value.zipIdx.foldl (fun address item =>
    address.setIfInBounds (1 + item.2 % 5) (address.getD (1 + item.2 % 5) 0 ^^^ item.1)) start
  mixed.set 0 ((mixed[0] ||| 0x02) &&& 0xfe)

def elapsed32 (nowMs startedMs : Nat) : UInt32 := UInt32.ofNat (sub64 nowMs startedMs)

section
variable {Number Engine Sink : Type} (env : RuntimeEnv Number Engine Sink)

def Runtime.apply (runtime : Runtime Engine) (config : SystemConfig) (nowMs : Nat) :
    RuntimeError × Runtime Engine :=
  match expanded : validateAndExpand env.sha256 config runtime.device with
  | .error _ => (.invalidConfig, runtime)
  | .ok aircraft =>
      have accepted := accepted_of_expand expanded
      (.none, { runtime with fleet := some {
        config, accepted, aircraft
        engine := env.newEngine (config.site.get accepted.site_isSome)
        nextDue := firstDue config aircraft nowMs
        startedMs := nowMs } })

/-- A tick under way. -/
structure Progress (Engine Sink : Type) where
  fleet : Fleet Engine
  sink : Sink
  result : RuntimeError := .none
  events : List RuntimeEvent := []

def Fleet.advance (fleet : Fleet Engine) (index : Nat) (aircraft : AircraftConfig)
    (kind : MessageKind) (nowMs : Nat) : Fleet Engine :=
  { fleet with
    nextDue := Function.update fleet.nextDue index (Function.update (fleet.nextDue index) kind
      (advanceDue (fleet.config.periodOf aircraft kind) (fleet.accepted.periodOf_pos aircraft kind)
        nowMs (fleet.nextDue index kind))) }

namespace Progress

variable (progress : Progress Engine Sink)

/-- `Runtime::submit`, and what `tick` makes of its result. -/
def submit (payload : ScheduledPayload) : Progress Engine Sink :=
  let answer := env.submit progress.sink payload
  let stats := progress.fleet.stats
  if answer.1 then
    { progress with
      fleet := { progress.fleet with stats := { stats with
        expected := saturatingIncrement stats.expected
        submitted := saturatingIncrement stats.submitted } }
      sink := answer.2
      events := progress.events ++ [.submitted payload true] }
  else
    { fleet := { progress.fleet with stats := { stats with
        expected := saturatingIncrement stats.expected
        submitErrors := saturatingIncrement stats.submitErrors } }
      sink := answer.2
      result := .submitFailed
      events := progress.events ++ [.submitted payload false] }

/-- Take a sequence number for a message of an aircraft. -/
def attempt (index : Nat) (kind : MessageKind) : Progress Engine Sink :=
  { progress with
    fleet := { progress.fleet with sequence := (progress.fleet.sequence + 1) % 2 ^ 32 }
    events := progress.events ++ [.attempt index kind progress.fleet.sequence] }

/-- The end of an attempt: what the framer left is copied into the payload and submitted. -/
def finish (index : Nat) (kind : MessageKind) (payload : ScheduledPayload) (frame : Option Bytes) :
    Progress Engine Sink :=
  match frame.map fun frame => payload.tryCopyFrom (.bytes frame) with
  | some (.none, payload) => progress.submit env payload
  | _ =>
      { progress with
        fleet := { progress.fleet with stats := { progress.fleet.stats with
          encodeErrors := saturatingIncrement progress.fleet.stats.encodeErrors } }
        result := .encodeFailed
        events := progress.events ++ [.encodeFailed index kind] }

/-- The frame of encoded bytes; the counter goes up when there is something to frame. -/
def frame (build : UInt8 → Bytes → Option Bytes) (encoded : Option Bytes) :
    Option Bytes × Progress Engine Sink :=
  match encoded with
  | none => (none, progress)
  | some bytes =>
      (build progress.fleet.counter bytes,
        { progress with fleet := { progress.fleet with counter := progress.fleet.counter + 1 } })

end Progress

def serviceData (counter : UInt8) (encoded : Bytes) : Option Bytes :=
  match buildOpendroneidServiceData (.bytes encoded) counter with
  | (.none, frame) => some frame
  | _ => none

def opendroneidBeacon (aircraft : AircraftConfig) (counter : UInt8) (encoded : Bytes) : Option Bytes :=
  match buildOpendroneidBeacon (some (addressFor aircraft.identity aircraft.instanceIndex))
      (.bytes aircraft.identity.value) counter (.bytes encoded) with
  | (.none, frame) => some frame
  | _ => none

def gbBeacon (aircraft : AircraftConfig) (counter : UInt8) (encoded : Bytes) : Option Bytes :=
  match buildGbBeacon (some (addressFor aircraft.identity aircraft.instanceIndex))
      (.bytes aircraft.identity.value) counter (.bytes encoded) with
  | (.none, frame) => some frame
  | _ => none

/-- The site `validate` has found. -/
def Fleet.site (fleet : Fleet Engine) : GeoPoint Float64Bits :=
  fleet.config.site.get fleet.accepted.site_isSome

/-- One due message of an aircraft whose messages go out one by one. -/
def tickMessage (nowMs index : Nat) (aircraft : AircraftConfig) (state : FlightState Number)
    (progress : Progress Engine Sink) (kind : MessageKind) : Progress Engine Sink :=
  if nowMs < progress.fleet.nextDue index kind then progress
  else
    let site := progress.fleet.site
    let due := { progress with fleet := progress.fleet.advance index aircraft kind nowMs }
    let payload : ScheduledPayload := {
      sequence := due.fleet.sequence
      aircraftIndex := index % 2 ^ 16
      transport := aircraft.transport
      kind
      deadlineMs := nowMs
      expiresAtMs := nowMs + due.fleet.config.periodOf aircraft kind }
    let framed :=
      if aircraft.protocol = .openDroneId then
        (due.attempt index kind).frame serviceData (env.encodeOdid kind site state aircraft.identity)
      else
        (due.attempt index kind).frame (gbBeacon aircraft) (env.encodeGb kind site state aircraft.identity)
    framed.2.finish env index kind payload framed.1

/-- The kinds of an aircraft that are due, which `tick` moves on to their next due time. -/
def Progress.advanceKinds (progress : Progress Engine Sink) (nowMs index : Nat)
    (aircraft : AircraftConfig) : Progress Engine Sink :=
  kKinds.foldl (fun progress kind =>
    if progress.fleet.nextDue index kind ≤ nowMs then
      { progress with fleet := progress.fleet.advance index aircraft kind nowMs }
    else progress) progress

/-- The pack of an aircraft whose messages go out together. -/
def tickPack (nowMs index : Nat) (aircraft : AircraftConfig) (state : FlightState Number)
    (progress : Progress Engine Sink) : Progress Engine Sink :=
  let due := kKinds.any fun kind => progress.fleet.nextDue index kind ≤ nowMs
  let advanced := progress.advanceKinds nowMs index aircraft
  if !due then advanced
  else
    let payload : ScheduledPayload := {
      sequence := advanced.fleet.sequence
      aircraftIndex := index % 2 ^ 16
      transport := aircraft.transport
      kind := .location
      deadlineMs := nowMs
      expiresAtMs := nowMs + advanced.fleet.config.defaultPeriod.toNat }
    let framed := (advanced.attempt index .location).frame
      (if aircraft.wifi then opendroneidBeacon aircraft else serviceData)
      (env.encodePack progress.fleet.site state aircraft.identity)
    framed.2.finish env index .location payload framed.1

def tickAircraft (nowMs : Nat) (progress : Progress Engine Sink) (item : AircraftConfig × Nat) :
    Progress Engine Sink :=
  let fleet := progress.fleet
  let sampled := env.sample fleet.engine (fleet.config.groupOf item.1).trajectory
    item.1.instanceIndex (elapsed32 nowMs fleet.startedMs)
  let progress := { progress with fleet := { fleet with engine := sampled.2 } }
  if item.1.packed then tickPack env nowMs item.2 item.1 sampled.1 progress
  else kKinds.foldl (tickMessage env nowMs item.2 item.1 sampled.1) progress

def Fleet.tick (fleet : Fleet Engine) (sink : Sink) (nowMs : Nat) : Progress Engine Sink :=
  fleet.aircraft.zipIdx.foldl (tickAircraft env nowMs) { fleet, sink }

def Runtime.tick (runtime : Runtime Engine) (sink : Sink) (nowMs : Nat) :
    RuntimeError × Runtime Engine × Sink × List RuntimeEvent :=
  match runtime.fleet with
  | none => (.invalidConfig, runtime, sink, [])
  | some fleet =>
      if nowMs < fleet.startedMs then (.invalidConfig, runtime, sink, [])
      else
        let ticked := fleet.tick env sink nowMs
        (ticked.result, { runtime with fleet := some ticked.fleet }, ticked.sink, ticked.events)

end

/-- The fleet an `apply` starts. -/
structure Started {Number Engine Sink : Type} (env : RuntimeEnv Number Engine Sink)
    (runtime : Runtime Engine) (config : SystemConfig) (startMs : Nat) (fleet : Fleet Engine) : Prop where
  expanded : validateAndExpand env.sha256 config runtime.device = .ok fleet.aircraft
  engine : fleet.engine = env.newEngine fleet.site
  nextDue : fleet.nextDue = firstDue config fleet.aircraft startMs
  startedMs : fleet.startedMs = startMs
  stats : fleet.stats = {}
  counter : fleet.counter = 0
  config : fleet.config = config

theorem apply_cases {Number Engine Sink : Type} (env : RuntimeEnv Number Engine Sink)
    (runtime : Runtime Engine) (config : SystemConfig) (nowMs : Nat) :
    (∃ error, validateAndExpand env.sha256 config runtime.device = .error error) ∧
        runtime.apply env config nowMs = (.invalidConfig, runtime) ∨
      ∃ fleet, Started env runtime config nowMs fleet ∧
        runtime.apply env config nowMs = (.none, { runtime with fleet := some fleet }) := by
  unfold Runtime.apply
  split
  · rename_i error refused
    exact .inl ⟨⟨error, refused⟩, rfl⟩
  · rename_i aircraft expanded
    exact .inr ⟨_, ⟨expanded, rfl, rfl, rfl, rfl, rfl, rfl⟩, rfl⟩

theorem apply_started {Number Engine Sink : Type} {env : RuntimeEnv Number Engine Sink}
    {runtime : Runtime Engine} {config : SystemConfig} {nowMs : Nat}
    (applied : (runtime.apply env config nowMs).1 = .none) :
    ∃ fleet, Started env runtime config nowMs fleet ∧
      (runtime.apply env config nowMs).2.fleet = some fleet := by
  rcases apply_cases env runtime config nowMs with refused | started
  · rw [refused.2] at applied
    cases applied
  · obtain ⟨fleet, started, same⟩ := started
    rw [same]
    exact ⟨fleet, started, rfl⟩

theorem tick_cases {Number Engine Sink : Type} (env : RuntimeEnv Number Engine Sink)
    (runtime : Runtime Engine) (sink : Sink) (nowMs : Nat) :
    runtime.tick env sink nowMs = (.invalidConfig, runtime, sink, []) ∨
      ∃ fleet, runtime.fleet = some fleet ∧ fleet.startedMs ≤ nowMs ∧
        runtime.tick env sink nowMs = ((fleet.tick env sink nowMs).result,
          { runtime with fleet := some (fleet.tick env sink nowMs).fleet },
          (fleet.tick env sink nowMs).sink, (fleet.tick env sink nowMs).events) := by
  unfold Runtime.tick
  cases running : runtime.fleet with
  | none => exact .inl rfl
  | some fleet =>
    dsimp only
    by_cases early : nowMs < fleet.startedMs
    · rw [if_pos early]
      exact .inl rfl
    · rw [if_neg early]
      exact .inr ⟨fleet, rfl, Nat.not_lt.mp early, rfl⟩

theorem advanceKinds_eq {Engine Sink : Type} (progress : Progress Engine Sink) (nowMs index : Nat)
    (aircraft : AircraftConfig) :
    ∃ nextDue, progress.advanceKinds nowMs index aircraft =
      { progress with fleet := { progress.fleet with nextDue } } := by
  unfold Progress.advanceKinds
  generalize kKinds = kinds
  induction kinds generalizing progress with
  | nil => exact ⟨progress.fleet.nextDue, rfl⟩
  | cons kind rest ih =>
    rw [List.foldl_cons]
    split_ifs
    · exact ih { progress with fleet := progress.fleet.advance index aircraft kind nowMs }
    · exact ih progress

end RidFirmware
