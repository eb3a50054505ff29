import RidFirmware.Lib.Machine
import RidFirmware.Scheduler.Payload

/-! The Wi-Fi coordinator: two bands share one radio. `poll` is split where the source may return. -/

namespace RidFirmware
open Lib

inductive Band where
  | band0
  | band1
  deriving DecidableEq

namespace Band

def other : Band → Band
  | .band0 => .band1
  | .band1 => .band0

def transport : Band → Transport
  | .band0 => .wifi24
  | .band1 => .wifi58

@[simp] theorem other_other (band : Band) : band.other.other = band := by cases band <;> rfl
@[simp] theorem other_ne (band : Band) : band.other ≠ band := by cases band <;> decide

end Band

/-- What `WifiBackend` answers during one poll. -/
structure WifiAnswers where
  setCountryCn : EspErr := ESP_OK
  setChannel : UInt8 → EspErr := fun _ => ESP_OK
  transmit : EspErr := ESP_OK

/-- The backend calls with their results, and what happens to a payload. -/
inductive WifiEvent where
  | accepted (payload : ScheduledPayload)
  | setCountryCn (result : EspErr)
  | setChannel (channel : UInt8) (result : EspErr)
  | transmit (nowMs : Nat) (payload : ScheduledPayload) (result : EspErr)
  | dropped (nowMs : Nat) (payload : ScheduledPayload)
  deriving DecidableEq

structure RadioCoordinator where
  dwellMs : Nat := 100
  retryMs : Nat := 20
  pending : Band → BoundedQueue ScheduledPayload 16 := fun _ => .empty
  stats : Band → TransportStats := fun _ => {}
  activeBand : Band := .band0
  currentChannel : UInt8 := 0
  dwellStartedMs : Nat := 0
  retryAtMs : Nat := 0
  configured : Bool := false

namespace RadioCoordinator

/-- A result with the state after the call and what was observed of it. -/
structure Outcome where
  result : EspErr
  next : RadioCoordinator
  events : List WifiEvent := []

def bandIndex (transport : Transport) : Band := if transport = .wifi58 then .band1 else .band0

def bandChannel : Band → UInt8
  | .band0 => 6
  | .band1 => 149

variable (coordinator : RadioCoordinator)

def pendingCount (band : Band) : Nat := (coordinator.pending band).count

def count (band : Band) (update : TransportStats → TransportStats) : RadioCoordinator :=
  { coordinator with
    stats := Function.update coordinator.stats band (update (coordinator.stats band)) }

def submit (payload : ScheduledPayload) : Outcome :=
  if payload.transport ≠ .wifi24 ∧ payload.transport ≠ .wifi58 then
    { result := ESP_ERR_INVALID_ARG, next := coordinator }
  else if payload.size = 0 ∨ payload.bytes.size < payload.size then
    { result := ESP_ERR_INVALID_ARG, next := coordinator }
  else
    let band := bandIndex payload.transport
    match (coordinator.pending band).push payload with
    | none => { result := ESP_ERR_NO_MEM, next := coordinator }
    | some queue =>
        { result := ESP_OK
          next := { coordinator with pending := Function.update coordinator.pending band queue }.count
            band fun stats => { stats with expected := saturatingIncrement stats.expected }
          events := [.accepted payload] }

theorem submit_fits {coordinator : RadioCoordinator} {payload : ScheduledPayload}
    (isWifi : payload.transport = .wifi24 ∨ payload.transport = .wifi58)
    (size : 0 < payload.size ∧ payload.size ≤ kMaxScheduledPayloadSize) :
    coordinator.submit payload =
      match (coordinator.pending (bandIndex payload.transport)).push payload with
      | none => { result := ESP_ERR_NO_MEM, next := coordinator }
      | some queue =>
          { result := ESP_OK
            next := { coordinator with
              pending := Function.update coordinator.pending (bandIndex payload.transport) queue }.count
                (bandIndex payload.transport)
                fun stats => { stats with expected := saturatingIncrement stats.expected }
            events := [.accepted payload] } := by
  have known : ¬(payload.transport ≠ .wifi24 ∧ payload.transport ≠ .wifi58) := by
    rw [not_and_or, not_not, not_not]
    exact isWifi
  have room : ¬(payload.size = 0 ∨ kMaxScheduledPayloadSize < payload.size) := by omega
  unfold submit
  rw [if_neg known, if_neg room]

def earliestIndex (band : Band) : Nat :=
  Lib.earliestIndex ScheduledPayload.earlier (coordinator.pending band).items

def erase (band : Band) (index : Nat) : RadioCoordinator :=
  { coordinator with
    pending := Function.update coordinator.pending band ((coordinator.pending band).erase index) }

def selectBand (band : Band) (nowMs : Nat) (answers : WifiAnswers) : Outcome :=
  if nowMs < coordinator.retryAtMs then { result := ESP_ERR_INVALID_STATE, next := coordinator }
  else
    let channel := bandChannel band
    let result := answers.setChannel channel
    if result ≠ ESP_OK then
      { result
        next := { coordinator with retryAtMs := add64 nowMs coordinator.retryMs }.count band
          fun stats => { stats with radioErrors := saturatingIncrement stats.radioErrors }
        events := [.setChannel channel result] }
    else
      { result
        next := { coordinator with
          activeBand := band, currentChannel := channel, dwellStartedMs := nowMs, retryAtMs := 0 }
        events := [.setChannel channel result] }

/-- The first part of `poll`: the regulatory domain is set once. -/
def configure (answers : WifiAnswers) : Outcome :=
  if coordinator.configured then { result := ESP_OK, next := coordinator }
  else
    let result := answers.setCountryCn
    if result ≠ ESP_OK then { result, next := coordinator, events := [.setCountryCn result] }
    else { result, next := { coordinator with configured := true }, events := [.setCountryCn result] }

/-- The band `poll` has to switch to, if it has to. -/
def switchTarget (nowMs : Nat) : Option Band :=
  let active := coordinator.activeBand
  let other := active.other
  if coordinator.currentChannel = 0 then
    some (if coordinator.pendingCount active = 0 then other else active)
  else if coordinator.pendingCount active = 0 ∧ coordinator.pendingCount other ≠ 0 then some other
  else if coordinator.pendingCount active ≠ 0 ∧ coordinator.pendingCount other ≠ 0 ∧
      coordinator.dwellMs ≤ sub64 nowMs coordinator.dwellStartedMs then some other
  else none

/-- The second part of `poll`. -/
def tune (nowMs : Nat) (answers : WifiAnswers) : Outcome :=
  match coordinator.switchTarget nowMs with
  | none => { result := ESP_OK, next := coordinator }
  | some target => coordinator.selectBand target nowMs answers

/-- The third part of `poll`: the earliest payload of the active band. -/
def serve (nowMs : Nat) (answers : WifiAnswers) : Outcome :=
  let band := coordinator.activeBand
  let selected := coordinator.earliestIndex band
  match (coordinator.pending band).items[selected]? with
  | none => { result := ESP_OK, next := coordinator }
  | some payload =>
      if payload.expired nowMs then
        { result := ESP_OK
          next := (coordinator.count band
            fun stats => { stats with dropped := saturatingIncrement stats.dropped }).erase band selected
          events := [.dropped nowMs payload] }
      else
        let result := answers.transmit
        if result ≠ ESP_OK then
          { result
            next := coordinator.count band
              fun stats => { stats with radioErrors := saturatingIncrement stats.radioErrors }
            events := [.transmit nowMs payload result] }
        else
          { result
            next := (coordinator.count band fun stats => { stats with
              submitted := saturatingIncrement stats.submitted
              late := if payload.deadlineMs < nowMs then saturatingIncrement stats.late
                else stats.late }).erase band selected
            events := [.transmit nowMs payload result] }

def poll (nowMs : Nat) (answers : WifiAnswers) : Outcome :=
  if coordinator.pendingCount .band0 = 0 ∧ coordinator.pendingCount .band1 = 0 then
    { result := ESP_OK, next := coordinator }
  else
    let configured := coordinator.configure answers
    if configured.result ≠ ESP_OK then configured
    else
      let tuned := configured.next.tune nowMs answers
      let events := configured.events ++ tuned.events
      if tuned.result = ESP_ERR_INVALID_STATE then { result := ESP_OK, next := tuned.next, events }
      else if tuned.result ≠ ESP_OK then { result := tuned.result, next := tuned.next, events }
      else
        let served := tuned.next.serve nowMs answers
        { served with events := events ++ served.events }

inductive Input where
  | submit (payload : ScheduledPayload)
  | poll (nowMs : Nat) (answers : WifiAnswers)

def machine : Machine RadioCoordinator Input WifiEvent where
  step coordinator
    | .submit payload => ((coordinator.submit payload).next, (coordinator.submit payload).events)
    | .poll nowMs answers =>
        ((coordinator.poll nowMs answers).next, (coordinator.poll nowMs answers).events)

end RadioCoordinator

end RidFirmware
