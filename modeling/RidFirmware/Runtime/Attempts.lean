import RidFirmware.Runtime.Sending

/-! What a tick attempts. The schedule says when; every attempt takes the next sequence number and ends in one
call of the sink, with the frame of what was encoded, or in an encoding error. -/

namespace RidFirmware
open Lib

def frameAttempt (aircraft : AircraftConfig) : UInt8 → Bytes → Option Bytes :=
  if aircraft.packed then framePack aircraft else frameMessage aircraft

/-- The payload of an attempt; a pack lives for the period of the system. -/
def attemptHeader (config : SystemConfig) (nowMs : Nat) (item : AircraftConfig × Nat) (kind : MessageKind)
    (sequence : Nat) : ScheduledPayload :=
  payloadHeader nowMs item.2 item.1 kind sequence
    (if item.1.packed then config.defaultPeriod.toNat else config.periodOf item.1 kind)

/-- The frame there is to send: something is encoded and framed, and the frame fits a payload. -/
def attemptFrame (build : UInt8 → Bytes → Option Bytes) (counter : UInt8) (encoded : Option Bytes) :
    Option Bytes :=
  (encoded.bind (build counter)).filter fun frame => frame.length ≤ kMaxScheduledPayloadSize

section
variable {Number Engine Sink : Type} (env : RuntimeEnv Number Engine Sink)

/-- The attempts of a tick in the order of its log, with the next sequence number and the sink after them. -/
inductive Attempts (fleet : Fleet Engine) (sink : Sink) (nowMs : Nat) :
    Nat → Sink → List RuntimeEvent → Prop
  | start : Attempts fleet sink nowMs fleet.sequence sink []
  | submitted {sequence : Nat} {called : Sink} {events : List RuntimeEvent} (item : AircraftConfig × Nat)
      (kind : MessageKind) (state : FlightState Number) (counter : UInt8) (frame : Bytes)
      (member : item ∈ fleet.aircraft.zipIdx)
      (framed : attemptFrame (frameAttempt item.1) counter
        (encodeAttempt env item.1 kind fleet.site state) = some frame)
      {payload : ScheduledPayload}
      (sent : payload = (attemptHeader fleet.config nowMs item kind sequence).withContent frame)
      (before : Attempts fleet sink nowMs sequence called events) :
      Attempts fleet sink nowMs ((sequence + 1) % 2 ^ 32) (env.submit called payload).2
        (events ++ [.attempt item.2 kind sequence, .submitted payload (env.submit called payload).1])
  | encodeFailed {sequence : Nat} {called : Sink} {events : List RuntimeEvent}
      (item : AircraftConfig × Nat) (kind : MessageKind) (state : FlightState Number) (counter : UInt8)
      (member : item ∈ fleet.aircraft.zipIdx)
      (refused : attemptFrame (frameAttempt item.1) counter
        (encodeAttempt env item.1 kind fleet.site state) = none)
      (before : Attempts fleet sink nowMs sequence called events) :
      Attempts fleet sink nowMs ((sequence + 1) % 2 ^ 32) called
        (events ++ [.attempt item.2 kind sequence, .encodeFailed item.2 kind])

variable {env}

theorem attemptFrame_some {build : UInt8 → Bytes → Option Bytes} {counter : UInt8} {bytes frame : Bytes}
    (framed : build counter bytes = some frame) (fits : frame.length ≤ kMaxScheduledPayloadSize) :
    attemptFrame build counter (some bytes) = some frame := by
  unfold attemptFrame
  rw [Option.bind_some, framed]
  exact Option.filter_some_pos (decide_eq_true fits)

theorem attemptFrame_none {build : UInt8 → Bytes → Option Bytes} {counter : UInt8} {encoded : Option Bytes}
    (refused : ∀ bytes frame, encoded = some bytes → build counter bytes = some frame →
      kMaxScheduledPayloadSize < frame.length) : attemptFrame build counter encoded = none := by
  unfold attemptFrame
  rw [Option.filter_eq_none_iff]
  intro frame built
  obtain ⟨bytes, encodes, framed⟩ := Option.bind_eq_some_iff.mp built
  rw [decide_eq_true_eq]
  exact Nat.not_le.mpr (refused bytes frame encodes framed)

def Attempting (env : RuntimeEnv Number Engine Sink) (fleet : Fleet Engine) (sink : Sink) (nowMs : Nat)
    (progress : Progress Engine Sink) : Prop :=
  progress.fleet.config = fleet.config ∧
    Attempts env fleet sink nowMs progress.fleet.sequence progress.sink progress.events

section
variable {fleet : Fleet Engine} {sink : Sink} {nowMs : Nat} {progress : Progress Engine Sink}

theorem Attempting.send (attempting : Attempting env fleet sink nowMs progress)
    {item : AircraftConfig × Nat} (member : item ∈ fleet.aircraft.zipIdx) (kind : MessageKind)
    (state : FlightState Number) :
    Attempting env fleet sink nowMs (progress.send env item.2 kind
      (attemptHeader progress.fleet.config nowMs item kind progress.fleet.sequence)
      (frameAttempt item.1) (encodeAttempt env item.1 kind progress.fleet.site state)) := by
  obtain ⟨config, before⟩ := attempting
  rw [site_congr config, config]
  generalize encodes : encodeAttempt env item.1 kind fleet.site state = encoded
  rcases @Progress.send_cases _ _ _ env progress item.2 kind
    (attemptHeader fleet.config nowMs item kind progress.fleet.sequence) (frameAttempt item.1) encoded with
    handed | ⟨refused, counter, sent⟩
  · obtain ⟨bytes, frame, same, framed, fits, sent⟩ := handed
    rw [sent]
    refine ⟨(submit_samePlan _ _).config.trans config, ?_⟩
    rw [Progress.submit_sink, Progress.submit_events, Progress.submit_sequence]
    have logged := Attempts.submitted item kind state progress.fleet.counter frame member
      (by rw [encodes, same]; exact attemptFrame_some framed fits) rfl before
    rw [← List.singleton_append, ← List.append_assoc] at logged
    exact logged
  · rw [sent]
    refine ⟨config, ?_⟩
    have logged := Attempts.encodeFailed item kind state progress.fleet.counter member
      (by rw [encodes]; exact attemptFrame_none refused) before
    rw [← List.singleton_append, ← List.append_assoc] at logged
    exact logged

theorem attempting_rule (fleet : Fleet Engine) (sink : Sink) (nowMs : Nat) :
    TickRule env nowMs fleet.aircraft.zipIdx (Attempting env fleet sink nowMs) := by
  constructor
  · exact fun _ _ before => before
  · exact fun _ _ _ _ before => before
  · intro progress state kind item member single before
    have sent := before.send member kind state
    unfold attemptHeader frameAttempt encodeAttempt at sent
    rw [single] at sent
    exact sent
  · intro progress state item member packed before
    have sent := before.send member .location state
    unfold attemptHeader frameAttempt encodeAttempt at sent
    rw [packed] at sent
    exact sent

theorem tick_attempts (fleet : Fleet Engine) (sink : Sink) (nowMs : Nat) :
    let ticked := fleet.tick env sink nowMs
    Attempts env fleet sink nowMs ticked.fleet.sequence ticked.sink ticked.events :=
  ((attempting_rule fleet sink nowMs).tick fleet ⟨rfl, .start⟩).2

end

/-- The emission schedule is exact: whatever the engine, the encoders and the sink answer, a tick
attempts a message, or a pack, once if it has come due since the last tick and not at all otherwise. What
it logs are these attempts, numbered in a row, each with the call of the sink or the error it ends in. -/
theorem emission_schedule (env : RuntimeEnv Number Engine Sink) (runtime : Runtime Engine) (sink : Sink)
    (config : SystemConfig) (startMs : Nat) (applied : (runtime.apply env config startMs).1 = .none)
    (before : List Nat) (nowMs : Nat) (ordered : (startMs :: (before ++ [nowMs])).Pairwise (· ≤ ·)) :
    ∃ aircraft later, validateAndExpand env.sha256 config runtime.device = .ok aircraft ∧
      let state := ((runtimeMachine env).run (runtime, sink)
        (.apply config startMs :: before.map .tick)).1
      let ticked := state.1.tick env state.2 nowMs
      ticked.2.1.fleet = some later ∧
        EmitsExactly config aircraft startMs (windowStart startMs before) nowMs ticked.2.2.2 later ∧
        ∃ fleet, state.1.fleet = some fleet ∧
          Attempts env fleet state.2 nowMs later.sequence ticked.2.2.1 ticked.2.2.2 := by
  obtain ⟨sorted, began, window⟩ := ordered_window ordered
  obtain ⟨fleet, running, rfl, expanded, rfl, onSchedule⟩ := run_onSchedule applied before sorted
  obtain ⟨after, called, events⟩ := tick_running running began
  refine ⟨fleet.aircraft, _, expanded, after, ?_, fleet, running, ?_⟩
  · rw [events]
    exact tick_emits onSchedule window _
  · rw [called, events]
    exact tick_attempts fleet _ nowMs

end

/-- The third tick of a hovering aircraft, after a gap of several periods. -/
theorem emission_schedule_after_gap :
    ∃ aircraft later, validateAndExpand refusingEnv.sha256 oneHover idleRuntime.device = .ok aircraft ∧
      let state := ((runtimeMachine refusingEnv).run (idleRuntime, ())
        (.apply oneHover 7 :: [7, 40].map .tick)).1
      let ticked := state.1.tick refusingEnv state.2 9000
      ticked.2.1.fleet = some later ∧
        EmitsExactly oneHover aircraft 7 (windowStart 7 [7, 40]) 9000 ticked.2.2.2 later ∧
        ∃ fleet, state.1.fleet = some fleet ∧
          Attempts refusingEnv fleet state.2 9000 later.sequence ticked.2.2.1 ticked.2.2.2 :=
  emission_schedule refusingEnv idleRuntime () oneHover 7 (by decide +kernel) [7, 40] 9000 (by decide)

end RidFirmware
