import RidFirmware.Runtime.EncodeErrors

/-! What a tick does, attempt by attempt. A property of the tick so far holds at its end if it is kept by
sampling, by moving a due time on, and by every attempt the tick can make. -/

namespace RidFirmware
open Lib

/-- The payload of an attempt, before there is something to send. -/
def payloadHeader (nowMs index : Nat) (aircraft : AircraftConfig) (kind : MessageKind)
    (sequence periodMs : Nat) : ScheduledPayload where
  sequence
  aircraftIndex := index % 2 ^ 16
  transport := aircraft.transport
  kind
  deadlineMs := nowMs
  expiresAtMs := nowMs + periodMs

/-- How the single messages of an aircraft are framed. -/
def frameMessage (aircraft : AircraftConfig) : UInt8 → Bytes → Option Bytes :=
  if aircraft.protocol = .openDroneId then serviceData else gbBeacon aircraft

def framePack (aircraft : AircraftConfig) : UInt8 → Bytes → Option Bytes :=
  if aircraft.wifi then opendroneidBeacon aircraft else serviceData

section
variable {Number Engine Sink : Type} (env : RuntimeEnv Number Engine Sink)

/-- The message of the encoder of an aircraft's protocol. -/
def encodeMessage (aircraft : AircraftConfig) (kind : MessageKind) (site : GeoPoint Float64Bits)
    (state : FlightState Number) : Option Bytes :=
  if aircraft.protocol = .openDroneId then env.encodeOdid kind site state aircraft.identity
  else env.encodeGb kind site state aircraft.identity

/-- The encoding of a message of an aircraft, or of its pack. -/
def encodeAttempt (aircraft : AircraftConfig) (kind : MessageKind) (site : GeoPoint Float64Bits)
    (state : FlightState Number) : Option Bytes :=
  if aircraft.packed then env.encodePack site state aircraft.identity
  else encodeMessage env aircraft kind site state

def Progress.send (progress : Progress Engine Sink) (index : Nat) (kind : MessageKind)
    (payload : ScheduledPayload) (build : UInt8 → Bytes → Option Bytes) (encoded : Option Bytes) :
    Progress Engine Sink :=
  let framed := (progress.attempt index kind).frame build encoded
  framed.2.finish env index kind payload framed.1

def Progress.sendMessage (progress : Progress Engine Sink) (nowMs : Nat) (item : AircraftConfig × Nat)
    (state : FlightState Number) (kind : MessageKind) : Progress Engine Sink :=
  progress.send env item.2 kind
    (payloadHeader nowMs item.2 item.1 kind progress.fleet.sequence
      (progress.fleet.config.periodOf item.1 kind))
    (frameMessage item.1) (encodeMessage env item.1 kind progress.fleet.site state)

def Progress.sendPack (progress : Progress Engine Sink) (nowMs : Nat) (item : AircraftConfig × Nat)
    (state : FlightState Number) : Progress Engine Sink :=
  progress.send env item.2 .location
    (payloadHeader nowMs item.2 item.1 .location progress.fleet.sequence
      progress.fleet.config.defaultPeriod.toNat)
    (framePack item.1) (env.encodePack progress.fleet.site state item.1.identity)

def Progress.numbered (progress : Progress Engine Sink) (index : Nat) (kind : MessageKind) :
    Progress Engine Sink :=
  let attempted := progress.attempt index kind
  { attempted with fleet := { attempted.fleet with counter := attempted.fleet.counter + 1 } }

def Progress.abandoned (progress : Progress Engine Sink) (index : Nat) (kind : MessageKind)
    (counter : UInt8) : Progress Engine Sink where
  fleet := { progress.fleet with
    sequence := (progress.fleet.sequence + 1) % 2 ^ 32
    counter
    stats := { progress.fleet.stats with
      encodeErrors := saturatingIncrement progress.fleet.stats.encodeErrors } }
  sink := progress.sink
  result := .encodeFailed
  events := progress.events ++ [.attempt index kind progress.fleet.sequence] ++ [.encodeFailed index kind]

variable {env}

/-- An attempt ends in the hands of the sink or in an encoding error. -/
theorem Progress.send_cases (progress : Progress Engine Sink) (index : Nat) (kind : MessageKind)
    (payload : ScheduledPayload) (build : UInt8 → Bytes → Option Bytes) (encoded : Option Bytes) :
    (∃ bytes frame, encoded = some bytes ∧ build progress.fleet.counter bytes = some frame ∧
      frame.length ≤ kMaxScheduledPayloadSize ∧
      progress.send env index kind payload build encoded =
        (progress.numbered index kind).submit env (payload.withContent frame)) ∨
    (∀ bytes frame, encoded = some bytes → build progress.fleet.counter bytes = some frame →
      kMaxScheduledPayloadSize < frame.length) ∧
    ∃ counter, progress.send env index kind payload build encoded =
      progress.abandoned index kind counter := by
  cases encoded with
  | none => exact .inr ⟨nofun, progress.fleet.counter, rfl⟩
  | some bytes =>
    cases framed : build progress.fleet.counter bytes with
    | none =>
      refine .inr ⟨?_, progress.fleet.counter + 1, ?_⟩
      · intro other frame same built
        rw [← Option.some.inj same, framed] at built
        cases built
      unfold Progress.send Progress.frame
      dsimp only [Progress.attempt]
      rw [framed]
      rfl
    | some frame =>
      by_cases fits : frame.length ≤ kMaxScheduledPayloadSize
      · refine .inl ⟨bytes, frame, rfl, framed, fits, ?_⟩
        unfold Progress.send Progress.frame
        dsimp only [Progress.attempt]
        rw [framed, finish_some _ _ _ _ fits]
        rfl
      · refine .inr ⟨?_, progress.fleet.counter + 1, ?_⟩
        · intro other built same found
          rw [← Option.some.inj same, framed] at found
          rw [← Option.some.inj found]
          exact Nat.not_le.mp fits
        have refused : payload.tryCopyFrom (.bytes frame) = (.payloadTooLarge, payload) :=
          if_pos (Nat.not_le.mp fits)
        unfold Progress.send Progress.frame
        dsimp only [Progress.attempt]
        rw [framed]
        unfold Progress.finish
        rw [Option.map_some, refused]
        rfl

theorem Fleet.site_found (fleet : Fleet Engine) : fleet.config.site = some fleet.site :=
  (Option.some_get fleet.accepted.site_isSome).symm

theorem site_congr {first second : Fleet Engine} (same : first.config = second.config) :
    first.site = second.site := by
  have sites := first.site_found
  rw [same, second.site_found, Option.some.injEq] at sites
  exact sites.symm

theorem Progress.submit_events (progress : Progress Engine Sink) (payload : ScheduledPayload) :
    (progress.submit env payload).events =
      progress.events ++ [.submitted payload (env.submit progress.sink payload).1] := by
  unfold Progress.submit
  dsimp only
  cases taken : (env.submit progress.sink payload).1 with
  | true => rw [if_pos rfl]
  | false => rw [if_neg Bool.false_ne_true]

theorem Progress.submit_sink (progress : Progress Engine Sink) (payload : ScheduledPayload) :
    (progress.submit env payload).sink = (env.submit progress.sink payload).2 := by
  unfold Progress.submit
  dsimp only
  split_ifs
  · rfl
  · rfl

theorem Progress.submit_sequence (progress : Progress Engine Sink) (payload : ScheduledPayload) :
    (progress.submit env payload).fleet.sequence = progress.fleet.sequence := by
  unfold Progress.submit
  dsimp only
  split_ifs
  · rfl
  · rfl

theorem Progress.send_submitted {progress : Progress Engine Sink} {index : Nat} {kind : MessageKind}
    {header : ScheduledPayload} {build : UInt8 → Bytes → Option Bytes} {encoded : Option Bytes}
    {payload : ScheduledPayload} {taken : Bool}
    (seen : .submitted payload taken ∈ (progress.send env index kind header build encoded).events) :
    .submitted payload taken ∈ progress.events ∨
      ∃ bytes frame, encoded = some bytes ∧ build progress.fleet.counter bytes = some frame ∧
        frame.length ≤ kMaxScheduledPayloadSize ∧ payload = header.withContent frame := by
  rcases @Progress.send_cases _ _ _ env progress index kind header build encoded with handed | abandoned
  · obtain ⟨bytes, frame, encodes, framed, fits, sent⟩ := handed
    rw [sent, Progress.submit_events] at seen
    rcases List.mem_append.mp seen with before | last
    · rcases List.mem_append.mp before with old | attempt
      · exact .inl old
      · cases List.mem_singleton.mp attempt
    · refine .inr ⟨bytes, frame, encodes, framed, fits, ?_⟩
      exact (RuntimeEvent.submitted.inj (List.mem_singleton.mp last)).1
  · obtain ⟨_, counter, sent⟩ := abandoned
    rw [sent] at seen
    rcases List.mem_append.mp seen with before | last
    · rcases List.mem_append.mp before with old | attempt
      · exact .inl old
      · cases List.mem_singleton.mp attempt
    · cases List.mem_singleton.mp last

theorem tickMessage_eq (nowMs : Nat) (item : AircraftConfig × Nat) (state : FlightState Number)
    (progress : Progress Engine Sink) (kind : MessageKind) :
    tickMessage env nowMs item.2 item.1 state progress kind =
      if nowMs < progress.fleet.nextDue item.2 kind then progress
      else Progress.sendMessage env
        { progress with fleet := progress.fleet.advance item.2 item.1 kind nowMs } nowMs item state kind := by
  unfold tickMessage Progress.sendMessage Progress.send frameMessage encodeMessage
  by_cases waits : nowMs < progress.fleet.nextDue item.2 kind
  · rw [if_pos waits, if_pos waits]
  · rw [if_neg waits, if_neg waits]
    by_cases odid : item.1.protocol = .openDroneId
    · simp only [odid, if_true]
      rfl
    · simp only [odid, if_false]
      rfl

theorem advanceKinds_site (progress : Progress Engine Sink) (nowMs index : Nat)
    (aircraft : AircraftConfig) :
    (progress.advanceKinds nowMs index aircraft).fleet.site = progress.fleet.site := by
  obtain ⟨nextDue, moved⟩ := advanceKinds_eq progress nowMs index aircraft
  rw [moved]
  rfl

theorem tickPack_eq (nowMs : Nat) (item : AircraftConfig × Nat) (state : FlightState Number)
    (progress : Progress Engine Sink) :
    tickPack env nowMs item.2 item.1 state progress =
      if kKinds.any (fun kind => progress.fleet.nextDue item.2 kind ≤ nowMs) then
        Progress.sendPack env (progress.advanceKinds nowMs item.2 item.1) nowMs item state
      else progress.advanceKinds nowMs item.2 item.1 := by
  unfold tickPack Progress.sendPack Progress.send framePack
  rw [advanceKinds_site]
  by_cases due : kKinds.any (fun kind => progress.fleet.nextDue item.2 kind ≤ nowMs) = true
  · rw [due, if_pos rfl]
    rfl
  · rw [Bool.eq_false_iff.mpr due]
    rfl

/-- A property of the tick so far that everything a tick does keeps. -/
structure TickRule (env : RuntimeEnv Number Engine Sink) (nowMs : Nat)
    (items : List (AircraftConfig × Nat)) (holds : Progress Engine Sink → Prop) : Prop where
  sampled : ∀ progress engine, holds progress →
    holds { progress with fleet := { progress.fleet with engine } }
  advanced : ∀ progress index aircraft kind, holds progress →
    holds { progress with fleet := progress.fleet.advance index aircraft kind nowMs }
  message : ∀ progress state kind, ∀ item ∈ items, item.1.packed = false → holds progress →
    holds (Progress.sendMessage env progress nowMs item state kind)
  pack : ∀ progress state, ∀ item ∈ items, item.1.packed = true → holds progress →
    holds (Progress.sendPack env progress nowMs item state)

section
variable {nowMs : Nat} {items : List (AircraftConfig × Nat)} {holds : Progress Engine Sink → Prop}

theorem TickRule.advanceKinds (rule : TickRule env nowMs items holds) (index : Nat)
    (aircraft : AircraftConfig) {progress : Progress Engine Sink} (before : holds progress) :
    holds (progress.advanceKinds nowMs index aircraft) := by
  unfold Progress.advanceKinds
  generalize kKinds = kinds
  induction kinds generalizing progress with
  | nil => exact before
  | cons kind rest ih =>
    rw [List.foldl_cons]
    split_ifs
    · exact ih (rule.advanced progress index aircraft kind before)
    · exact ih before

theorem TickRule.tickMessages (rule : TickRule env nowMs items holds) {item : AircraftConfig × Nat}
    (member : item ∈ items) (single : item.1.packed = false) (state : FlightState Number)
    (kinds : List MessageKind) {progress : Progress Engine Sink} (before : holds progress) :
    holds (kinds.foldl (tickMessage env nowMs item.2 item.1 state) progress) := by
  induction kinds generalizing progress with
  | nil => exact before
  | cons kind rest ih =>
    rw [List.foldl_cons]
    apply ih
    rw [tickMessage_eq]
    split_ifs
    · exact before
    · exact rule.message _ state kind item member single (rule.advanced _ _ _ _ before)

theorem TickRule.tickAircraft (rule : TickRule env nowMs items holds) {item : AircraftConfig × Nat}
    (member : item ∈ items) {progress : Progress Engine Sink} (before : holds progress) :
    holds (tickAircraft env nowMs progress item) := by
  unfold RidFirmware.tickAircraft
  dsimp only
  generalize env.sample _ _ _ _ = sampled
  have start := rule.sampled progress sampled.2 before
  by_cases packed : item.1.packed = true
  · rw [if_pos packed, tickPack_eq]
    have moved := rule.advanceKinds item.2 item.1 start
    split_ifs
    · exact rule.pack _ sampled.1 item member packed moved
    · exact moved
  · rw [if_neg packed]
    exact rule.tickMessages member (Bool.eq_false_iff.mpr packed) sampled.1 kKinds start

theorem TickRule.foldl (rule : TickRule env nowMs items holds) (some : List (AircraftConfig × Nat))
    (within : some ⊆ items) {progress : Progress Engine Sink} (before : holds progress) :
    holds (some.foldl (RidFirmware.tickAircraft env nowMs) progress) := by
  induction some generalizing progress with
  | nil => exact before
  | cons item rest ih =>
    rw [List.foldl_cons]
    have head := within List.mem_cons_self
    exact ih (fun other member => within (List.mem_cons_of_mem item member))
      (rule.tickAircraft head before)

end

theorem TickRule.tick {nowMs : Nat} {holds : Progress Engine Sink → Prop} (fleet : Fleet Engine)
    (rule : TickRule env nowMs fleet.aircraft.zipIdx holds) {sink : Sink}
    (before : holds { fleet, sink }) : holds (fleet.tick env sink nowMs) :=
  rule.foldl fleet.aircraft.zipIdx (List.Subset.refl _) before

end

end RidFirmware
