import RidFirmware.Runtime.Payloads

/-! How long a payload stays valid: a message sent on its own for the period of its kind, a pack for the
default period of the whole system. -/

namespace RidFirmware
open Lib Lib.Ieee

/-- A payload is valid for the period with which its kind is sent. -/
def FollowsPeriod (config : SystemConfig) (aircraft : AircraftConfig) (payload : ScheduledPayload) :
    Prop :=
  payload.expiresAtMs - payload.deadlineMs = config.periodOf aircraft payload.kind

instance (config : SystemConfig) (aircraft : AircraftConfig) (payload : ScheduledPayload) :
    Decidable (FollowsPeriod config aircraft payload) := inferInstanceAs (Decidable (_ = _))

/-- For how long the payloads of an aircraft are valid. -/
structure ValidFor (config : SystemConfig) (aircraft : AircraftConfig) (payload : ScheduledPayload) :
    Prop where
  single : aircraft.packed = false →
    payload.expiresAtMs = payload.deadlineMs + config.periodOf aircraft payload.kind
  pack : aircraft.packed = true →
    payload.kind = .location ∧ payload.expiresAtMs = payload.deadlineMs + config.defaultPeriod.toNat

theorem ValidFor.follows_iff {config : SystemConfig} {aircraft : AircraftConfig}
    {payload : ScheduledPayload} (valid : ValidFor config aircraft payload) :
    FollowsPeriod config aircraft payload ↔
      (aircraft.packed = true → config.periodOf aircraft .location = config.defaultPeriod.toNat) := by
  unfold FollowsPeriod
  by_cases packed : aircraft.packed = true
  · obtain ⟨kind, expires⟩ := valid.pack packed
    rw [kind, expires, Nat.add_sub_cancel_left]
    exact ⟨fun same _ => same.symm, fun same => (same packed).symm⟩
  · have expires := valid.single (Bool.eq_false_iff.mpr packed)
    rw [expires, Nat.add_sub_cancel_left]
    exact iff_of_true rfl fun impossible => absurd impossible packed

section
variable {Number Engine Sink : Type} {env : RuntimeEnv Number Engine Sink}

/-- What a tick has handed over so far is valid as long as `validFor` says. -/
structure AllValidFor (config : SystemConfig) (aircraft : List AircraftConfig)
    (progress : Progress Engine Sink) : Prop where
  current : progress.fleet.config = config
  payloads : ∀ payload taken, .submitted payload taken ∈ progress.events →
    ∃ item, aircraft[payload.aircraftIndex]? = some item ∧ ValidFor config item payload

theorem Progress.send_config (progress : Progress Engine Sink) (index : Nat) (kind : MessageKind)
    (payload : ScheduledPayload) (build : UInt8 → Bytes → Option Bytes) (encoded : Option Bytes) :
    (progress.send env index kind payload build encoded).fleet.config = progress.fleet.config := by
  have attempted : SamePlan (progress.attempt index kind)
      (progress.send env index kind payload build encoded) :=
    (frame_samePlan _ build encoded).trans (finish_samePlan _ index kind payload _)
  exact attempted.config

theorem AllValidFor.send {config : SystemConfig} {aircraft : List AircraftConfig}
    {progress : Progress Engine Sink} (all : AllValidFor config aircraft progress) (index : Nat)
    (kind : MessageKind) {header : ScheduledPayload} (build : UInt8 → Bytes → Option Bytes)
    (encoded : Option Bytes)
    (next : ∀ frame : Bytes, ∃ item, aircraft[header.aircraftIndex]? = some item ∧
      ValidFor config item (header.withContent frame)) :
    AllValidFor config aircraft (progress.send env index kind header build encoded) := by
  constructor
  · rw [Progress.send_config]
    exact all.current
  · intro payload taken seen
    rcases Progress.send_submitted seen with old | new
    · exact all.payloads payload taken old
    · obtain ⟨_, frame, _, _, _, same⟩ := new
      rw [same]
      exact next frame

theorem validFor_rule {config : SystemConfig} {aircraft : List AircraftConfig}
    (few : aircraft.length ≤ 2 ^ 16) (nowMs : Nat) :
    TickRule env nowMs aircraft.zipIdx (AllValidFor config aircraft) := by
  constructor
  · exact fun _ _ before => ⟨before.current, before.payloads⟩
  · exact fun _ _ _ _ before => ⟨before.current, before.payloads⟩
  · intro progress state kind item member single before
    apply before.send
    intro frame
    refine ⟨item.1, index_fits few member, ?_, fun packed => ?_⟩
    · intro _
      rw [← before.current]
      rfl
    · rw [single] at packed
      cases packed
  · intro progress state item member packed before
    apply before.send
    intro frame
    refine ⟨item.1, index_fits few member, fun single => ?_, fun _ => ⟨rfl, ?_⟩⟩
    · rw [packed] at single
      cases single
    · rw [← before.current]
      rfl

/-- Payload expiry: in every run of the runtime, a payload that a tick hands to the sink is valid for the
effective period of its kind exactly if it is no pack, or the effective period of the `Location` of its
aircraft is the default period of the system. -/
theorem expiry_follows_period_iff (env : RuntimeEnv Number Engine Sink) (device : DeviceId) (sink : Sink)
    (inputs : List RuntimeInput) (nowMs : Nat) :
    let state := ((runtimeMachine env).run ({ device }, sink) inputs).1
    ∀ payload taken, .submitted payload taken ∈ (state.1.tick env state.2 nowMs).2.2.2 →
      ∃ fleet aircraft, state.1.fleet = some fleet ∧
        validateAndExpand env.sha256 fleet.config device = .ok fleet.aircraft ∧
        fleet.aircraft[payload.aircraftIndex]? = some aircraft ∧
        (FollowsPeriod fleet.config aircraft payload ↔ (aircraft.packed = true →
          fleet.config.periodOf aircraft .location = fleet.config.defaultPeriod.toNat)) := by
  intro state payload taken seen
  have deployed := @run_deployed _ _ _ env device sink inputs
  rcases tick_cases env state.1 state.2 nowMs with refused | ticked
  · rw [refused] at seen
    cases seen
  · obtain ⟨fleet, running, _, same⟩ := ticked
    rw [same] at seen
    have expanded := deployed.expanded fleet running
    have few : fleet.aircraft.length ≤ 2 ^ 16 := by
      rw [expand_length expanded]
      exact (accepted_of_expand expanded).bounded.trans (by decide)
    have all : AllValidFor fleet.config fleet.aircraft (fleet.tick env state.2 nowMs) :=
      (validFor_rule few nowMs).tick fleet ⟨rfl, fun _ _ member => absurd member List.not_mem_nil⟩
    obtain ⟨aircraft, found, valid⟩ := all.payloads payload taken seen
    exact ⟨fleet, aircraft, running, expanded, found, valid.follows_iff⟩

end

/-- An aircraft on Bluetooth 5 in a group that sends every 200 ms, in a system that sends every second. -/
def quickPacks : SystemConfig where
  site := some { latitudeDeg := ⟨0⟩, longitudeDeg := ⟨0⟩ }
  groups := [{ name := [65], count := 1, transport := .ble5, defaultPeriod := some 200 }]

def packEnv : RuntimeEnv (Datum ℚ) Unit Unit :=
  ({ hoverEnv with sha256 := oneHoverSha256 } : RuntimeEnv (Datum ℚ) Unit Unit).withEncoders

/-- The fleet of `quickPacks` at its start. -/
def quickStart : Runtime Unit × Unit :=
  ((runtimeMachine packEnv).run ({ device := Vector.replicate 6 0 }, ()) [.apply quickPacks 0]).1

def quickPayload : Option ScheduledPayload :=
  (quickStart.1.tick packEnv quickStart.2 0).2.2.2.findSome? fun event => match event with
    | .submitted payload true => some payload
    | _ => none

theorem quickPayload_submitted {payload : ScheduledPayload} (found : quickPayload = some payload) :
    .submitted payload true ∈ (quickStart.1.tick packEnv quickStart.2 0).2.2.2 := by
  obtain ⟨event, member, same⟩ := List.exists_of_findSome?_eq_some found
  cases event with
  | submitted other taken =>
    cases taken with
    | false => cases same
    | true =>
      cases same
      exact member
  | attempt index kind sequence => cases same
  | encodeFailed index kind => cases same

theorem quickPayload_isSome : quickPayload.isSome = true := by decide +kernel

theorem expiry_follows_period_iff_quick :
    ∃ payload fleet aircraft, .submitted payload true ∈
        (quickStart.1.tick packEnv quickStart.2 0).2.2.2 ∧
      quickStart.1.fleet = some fleet ∧
      validateAndExpand packEnv.sha256 fleet.config (Vector.replicate 6 0) = .ok fleet.aircraft ∧
      fleet.aircraft[payload.aircraftIndex]? = some aircraft ∧
      (FollowsPeriod fleet.config aircraft payload ↔ (aircraft.packed = true →
        fleet.config.periodOf aircraft .location = fleet.config.defaultPeriod.toNat)) := by
  obtain ⟨payload, found⟩ := Option.isSome_iff_exists.mp quickPayload_isSome
  have handed := quickPayload_submitted found
  have follows := expiry_follows_period_iff packEnv (Vector.replicate 6 0) () [.apply quickPacks 0] 0
  dsimp only at follows
  have start : ((runtimeMachine packEnv).run ({ device := Vector.replicate 6 0 }, ())
      [.apply quickPacks 0]).1 = quickStart := rfl
  rw [start] at follows
  generalize quickStart = state at *
  obtain ⟨fleet, aircraft, rest⟩ := follows payload true handed
  exact ⟨payload, fleet, aircraft, handed, rest⟩

/-- The pack of an aircraft that sends every 200 ms is valid for a second. -/
theorem pack_outlives_period :
    validate quickPacks = .ok () ∧
      ∃ payload fleet aircraft, .submitted payload true ∈
          (quickStart.1.tick packEnv quickStart.2 0).2.2.2 ∧
        quickStart.1.fleet = some fleet ∧ fleet.aircraft[payload.aircraftIndex]? = some aircraft ∧
        ¬FollowsPeriod fleet.config aircraft payload := by
  refine ⟨by decide +kernel, ?_⟩
  have apart : (quickPayload.any fun payload => quickStart.1.fleet.any fun fleet =>
      fleet.aircraft[payload.aircraftIndex]?.any fun aircraft =>
        !decide (FollowsPeriod fleet.config aircraft payload)) = true := by
    decide +kernel
  obtain ⟨payload, found, apart⟩ := (Option.any_eq_true _ _).mp apart
  obtain ⟨fleet, running, apart⟩ := (Option.any_eq_true _ _).mp apart
  obtain ⟨aircraft, item, apart⟩ := (Option.any_eq_true _ _).mp apart
  rw [Bool.not_eq_true', decide_eq_false_iff_not] at apart
  exact ⟨payload, fleet, aircraft, quickPayload_submitted found, running, item, apart⟩

end RidFirmware
