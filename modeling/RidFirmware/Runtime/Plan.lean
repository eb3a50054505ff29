import RidFirmware.Lib.Numbering
import RidFirmware.Runtime.Payloads

/-! The plan of a run: which messages its ticks send, without the sink, the frames and the counter. The
runtime hands over the messages of the plan, in order and numbered. -/

namespace RidFirmware
open Lib Lib.Ieee

/-- A message of an aircraft, or the pack of its messages, as it is encoded. -/
structure PlannedMessage where
  aircraft : Nat
  kind : MessageKind
  encoded : Bytes
  deriving DecidableEq

/-- A receiver follows the messages of one kind of one aircraft. -/
def PlannedMessage.stream (message : PlannedMessage) : Nat × MessageKind := (message.aircraft, message.kind)

/-- What the messages of a tick depend on. -/
structure Plan (Engine : Type) where
  nextDue : Nat → MessageKind → Nat
  engine : Engine

section
variable {Number Engine Sink : Type} (env : RuntimeEnv Number Engine Sink)

/-- The messages of an aircraft that are due and can be encoded. -/
def dueMessages (nowMs : Nat) (site : GeoPoint Float64Bits) (due : MessageKind → Nat) (index : Nat)
    (aircraft : AircraftConfig) (state : FlightState Number) : List PlannedMessage :=
  (attemptedKinds aircraft nowMs due).filterMap fun kind =>
    (encodeAttempt env aircraft kind site state).map (PlannedMessage.mk index kind)

def sampledEngine (config : SystemConfig) (startedMs nowMs : Nat) : Engine → List AircraftConfig → Engine
  | engine, [] => engine
  | engine, aircraft :: rest =>
      sampledEngine config startedMs nowMs (env.sample engine (config.groupOf aircraft).trajectory
        aircraft.instanceIndex (elapsed32 nowMs startedMs)).2 rest

section
variable (config : SystemConfig) (aircraft : List AircraftConfig) (site : GeoPoint Float64Bits)
  (startMs : Nat)

/-- The plan of an `apply`. -/
def Plan.start : Plan Engine where
  nextDue := firstDue config aircraft startMs
  engine := env.newEngine site

/-- A tick of the plan: every flight state is sampled, what is due is sent and put on. -/
def planMachine : Machine (Plan Engine) Nat PlannedMessage where
  step plan nowMs :=
    if nowMs < startMs then (plan, [])
    else
      ({ nextDue := fun index kind => match aircraft[index]? with
          | some item => dueAfter config item nowMs kind (plan.nextDue index kind)
          | none => plan.nextDue index kind
         engine := sampledEngine env config startMs nowMs plan.engine aircraft },
        (sampledStates env config startMs nowMs plan.engine aircraft).zipIdx.flatMap fun sample =>
          dueMessages env nowMs site (plan.nextDue sample.2) sample.2 sample.1.1 sample.1.2)

/-- The messages of a run of ticks after an `apply`. -/
def plannedMessages (ticks : List Nat) : List PlannedMessage :=
  ((planMachine env config aircraft site startMs).run (Plan.start env config aircraft site startMs) ticks).2

end

end

/-! What a receiver reads off a payload. -/

namespace ScheduledPayload

/-- Where the counter stands: behind the service data's identifiers, or behind the identifiers of the
vendor element of a beacon. -/
def counterIndex (payload : ScheduledPayload) : Nat :=
  match payload.transport with
  | .wifi24 | .wifi58 => 47 + (payload.frame.getD 37 0).toNat
  | _ => 4

def counter (payload : ScheduledPayload) : UInt8 := payload.frame.getD payload.counterIndex 0

def encoded (payload : ScheduledPayload) : Bytes := payload.frame.drop (payload.counterIndex + 1)

def message (payload : ScheduledPayload) : PlannedMessage × UInt8 :=
  (⟨payload.aircraftIndex, payload.kind, payload.encoded⟩, payload.counter)

theorem message_of_split {payload : ScheduledPayload} {before encoded : Bytes} {counter : UInt8}
    (split : payload.frame = before ++ counter :: encoded) (index : payload.counterIndex = before.length) :
    payload.message = (⟨payload.aircraftIndex, payload.kind, encoded⟩, counter) := by
  have rest : payload.frame = (before ++ [counter]) ++ encoded := by
    rw [split, List.append_assoc]
    rfl
  have count : payload.counterIndex + 1 = (before ++ [counter]).length := by
    rw [index, List.length_append, List.length_singleton]
  have second : payload.encoded = encoded := by
    unfold ScheduledPayload.encoded
    rw [count, rest, List.drop_left]
  have first : payload.counter = counter := by
    unfold ScheduledPayload.counter
    rw [index, split, List.getD_append_right _ _ _ _ (le_refl _), Nat.sub_self]
    rfl
  unfold message
  rw [second, first]

theorem message_of_serviceData {header : ScheduledPayload} {counter : UInt8} {encoded frame : Bytes}
    (isBle : header.transport = .ble4 ∨ header.transport = .ble5)
    (framed : serviceData counter encoded = some frame) (fits : frame.length ≤ kMaxScheduledPayloadSize) :
    (header.withContent frame).message = (⟨header.aircraftIndex, header.kind, encoded⟩, counter) := by
  have split : (header.withContent frame).frame =
      [UInt8.ofNat (encoded.length + 4), 0x16, 0xfa, 0xff] ++ counter :: encoded := by
    rw [withContent_frame header fits, serviceData_eq framed]
    rfl
  refine message_of_split split ?_
  unfold counterIndex
  have transport : (header.withContent frame).transport = header.transport := rfl
  rcases isBle with legacy | extended
  · rw [transport, legacy]
    rfl
  · rw [transport, extended]
    rfl

theorem message_of_beacon {header : ScheduledPayload} {aircraft : AircraftConfig} {counter : UInt8}
    {encoded frame : Bytes} (isWifi : header.transport = .wifi24 ∨ header.transport = .wifi58)
    (framed : frame = aircraft.beacon counter encoded) (named : aircraft.identity.value.length ≤ 32)
    (fits : frame.length ≤ kMaxScheduledPayloadSize) :
    (header.withContent frame).message = (⟨header.aircraftIndex, header.kind, encoded⟩, counter) := by
  let front := beaconHeader (addressFor aircraft.identity aircraft.instanceIndex) ++
    [0x00, UInt8.ofNat aircraft.identity.value.length]
  let before := front ++ (aircraft.identity.value ++ [0x01, 0x01, 0x8c] ++
    [0xdd, UInt8.ofNat (5 + encoded.length)] ++ [0xfa, 0x0b, 0xbc, 0x0d])
  have split : (header.withContent frame).frame = before ++ counter :: encoded := by
    rw [withContent_frame header fits, framed]
    unfold AircraftConfig.beacon gbBeaconFrame
    simp only [before, front, List.append_assoc, List.cons_append, List.nil_append]
  have name : (header.withContent frame).frame.getD 37 0 =
      UInt8.ofNat aircraft.identity.value.length := by
    have short : front.length = 38 := by
      simp only [front, List.length_append, beaconHeader_length, List.length_cons, List.length_nil]
    rw [split, List.append_assoc, List.getD_append _ _ _ _ (by omega),
      List.getD_append_right _ _ _ _ (by rw [beaconHeader_length]; omega), beaconHeader_length]
    rfl
  have length : before.length = 47 + aircraft.identity.value.length := by
    simp only [before, front, List.length_append, beaconHeader_length, List.length_cons, List.length_nil]
    omega
  refine message_of_split split ?_
  have index : (header.withContent frame).counterIndex =
      47 + ((header.withContent frame).frame.getD 37 0).toNat := by
    unfold counterIndex
    have transport : (header.withContent frame).transport = header.transport := rfl
    rcases isWifi with low | high
    · rw [transport, low]
    · rw [transport, high]
  rw [index, name, length, UInt8.toNat_ofNat', Nat.mod_eq_of_lt (by omega)]

end ScheduledPayload

end RidFirmware
