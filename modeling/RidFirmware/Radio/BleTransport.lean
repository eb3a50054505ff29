import RidFirmware.Lib.Machine
import RidFirmware.Scheduler.Payload

/-! The BLE transport: one queue for both advertising modes, one payload on air at a time, and a
ring of completion events filled by the host task. -/

namespace RidFirmware
open Lib

def kBleLegacyMaxPayloadSize : Nat := 31
def kBleExtendedMaxPayloadSize : Nat := 158
def kMaxBlePendingPayloads : Nat := 16

inductive BleMode where
  | legacy
  | extended
  deriving DecidableEq

inductive BleTransportError where
  | none
  | invalidTransport
  | invalidPayload
  | payloadTooLarge
  | queueFull
  | backendError
  deriving DecidableEq

structure BleCompletionEvent where
  status : EspErr := ESP_OK
  advertisingEventCount : Nat := 0
  deriving DecidableEq

/-- What happens while one poll runs: the results of `configure` and `start`, and the completion
events that arrive before `drain_completions` stores the read index, between that and the exchange
of the overflow counter, and while `configure` and `start` execute. -/
structure BleAnswers where
  configure : EspErr := ESP_OK
  start : EspErr := ESP_OK
  beforeStore : List BleCompletionEvent := []
  beforeExchange : List BleCompletionEvent := []
  whileStarting : List BleCompletionEvent := []

/-- The backend calls with their results, and what happens to a payload. -/
inductive BleEvent where
  | accepted (payload : ScheduledPayload)
  | dropped (nowMs : Nat) (payload : ScheduledPayload)
  | configure (nowMs : Nat) (mode : BleMode) (payload : ScheduledPayload) (result : EspErr)
  | start (result : EspErr)
  | finished (transport : Transport) (succeeded : Bool)
  | reset (result : EspErr)
  deriving DecidableEq

structure BleTransport where
  pending : BoundedQueue ScheduledPayload kMaxBlePendingPayloads := .empty
  completions : Fin 8 → BleCompletionEvent := fun _ => {}
  completionWrite : Fin 8 := 0
  completionRead : Fin 8 := 0
  completionOverflows : Nat := 0
  stats : Fin 2 → TransportStats := fun _ => {}
  activeTransport : Transport := .ble4
  busy : Bool := false
  shuttingDown : Bool := false
  shutDown : Bool := false

namespace BleTransport

/-- A result with the transport after the call and what was observed of it. -/
structure Outcome (Result : Type) where
  result : Result
  next : BleTransport
  events : List BleEvent := []

def statsIndex (transport : Transport) : Fin 2 := if transport = .ble5 then 1 else 0

variable (transport : BleTransport)

/-- Change the counters of one of the two transports. -/
def count (index : Transport) (update : TransportStats → TransportStats) : BleTransport :=
  { transport with
    stats := Function.update transport.stats (statsIndex index)
      (update (transport.stats (statsIndex index))) }

def maximumSize (kind : Transport) : Nat :=
  if kind = .ble4 then kBleLegacyMaxPayloadSize else kBleExtendedMaxPayloadSize

def submit (payload : ScheduledPayload) : Outcome BleTransportError :=
  if transport.shuttingDown ∨ transport.shutDown then { result := .backendError, next := transport }
  else if payload.transport ≠ .ble4 ∧ payload.transport ≠ .ble5 then
    { result := .invalidTransport, next := transport }
  else if payload.size = 0 ∨ payload.bytes.size < payload.size then
    { result := .invalidPayload, next := transport }
  else if maximumSize payload.transport < payload.size then
    { result := .payloadTooLarge, next := transport }
  else
    match transport.pending.push payload with
    | none => { result := .queueFull, next := transport }
    | some queue =>
        { result := .none
          next := { transport with pending := queue }.count payload.transport
            fun stats => { stats with expected := saturatingIncrement stats.expected }
          events := [.accepted payload] }

theorem submit_fits {transport : BleTransport} (running : transport.shuttingDown = false)
    (alive : transport.shutDown = false) {payload : ScheduledPayload}
    (isBle : payload.transport = .ble4 ∨ payload.transport = .ble5)
    (size : 0 < payload.size ∧ payload.size ≤ maximumSize payload.transport) :
    transport.submit payload =
      match transport.pending.push payload with
      | none => { result := .queueFull, next := transport }
      | some queue =>
          { result := .none
            next := { transport with pending := queue }.count payload.transport
              fun stats => { stats with expected := saturatingIncrement stats.expected }
            events := [.accepted payload] } := by
  have held : ¬(transport.shuttingDown = true ∨ transport.shutDown = true) := by
    rw [running, alive]
    decide
  have known : ¬(payload.transport ≠ .ble4 ∧ payload.transport ≠ .ble5) := by
    rw [not_and_or, not_not, not_not]
    exact isBle
  have capacity : maximumSize payload.transport ≤ kMaxScheduledPayloadSize := by
    unfold maximumSize
    split_ifs <;> decide
  have room : ¬(payload.size = 0 ∨ kMaxScheduledPayloadSize < payload.size) := by omega
  unfold submit
  rw [if_neg held, if_neg known, if_neg room, if_neg (not_lt.mpr size.2)]

/-- The completion callback, on the host task. -/
def enqueueCompletion (event : BleCompletionEvent) : BleTransport :=
  let write := transport.completionWrite
  let next := write + 1
  if next = transport.completionRead then
    { transport with completionOverflows := (transport.completionOverflows + 1) % 2 ^ 32 }
  else
    { transport with
      completions := Function.update transport.completions write event
      completionWrite := next }

def enqueueCompletions (events : List BleCompletionEvent) : BleTransport :=
  events.foldl enqueueCompletion transport

def finish (succeeded : Bool) : BleTransport × List BleEvent :=
  let active := transport.activeTransport
  ({ transport.count active fun stats =>
      if succeeded then { stats with completed := saturatingIncrement stats.completed }
      else { stats with radioErrors := saturatingIncrement stats.radioErrors } with
      busy := false }, [.finished active succeeded])

/-- The loop of `drain_completions` over a number of slots from an index on. -/
def consume : Nat → Fin 8 → BleTransport → BleTransport × List BleEvent
  | 0, _, transport => (transport, [])
  | slots + 1, read, transport =>
      let event := transport.completions read
      let first :=
        if transport.busy then
          transport.finish (decide (event.status = ESP_OK ∧ 0 < event.advertisingEventCount))
        else (transport, [])
      let later := consume slots (read + 1) first.1
      (later.1, first.2 ++ later.2)

/-- `drain_completions`. The write index is loaded once; the slots up to it are not written by the
callback before the read index is stored, so events that arrive meanwhile can be put after the loop. -/
def drainCompletions (answers : BleAnswers) : BleTransport × List BleEvent :=
  let read := transport.completionRead
  let write := transport.completionWrite
  let consumed := consume (write - read).val read transport
  let stored : BleTransport := { consumed.1.enqueueCompletions answers.beforeStore with completionRead := write }
  let exchanging := stored.enqueueCompletions answers.beforeExchange
  let overflows := exchanging.completionOverflows
  let exchanged : BleTransport := { exchanging with completionOverflows := 0 }
  if 0 < overflows ∧ exchanged.busy then
    let failed := exchanged.finish false
    (failed.1, consumed.2 ++ failed.2)
  else (exchanged, consumed.2)

def earliestPendingIndex : Nat :=
  Lib.earliestIndex ScheduledPayload.earlier transport.pending.items

def erasePending (index : Nat) : BleTransport :=
  { transport with pending := transport.pending.erase index }

def modeOf (payload : ScheduledPayload) : BleMode :=
  if payload.transport = .ble4 then .legacy else .extended

/-- The end of an iteration of `poll`: the selected payload goes on air. -/
def send (selected : ScheduledPayload) (nowMs : Nat) (answers : BleAnswers) :
    Outcome BleTransportError :=
  let mode := modeOf selected
  let error := if answers.configure = ESP_OK then answers.start else answers.configure
  let calls := .configure nowMs mode selected answers.configure ::
    if answers.configure = ESP_OK then [.start answers.start] else []
  let called := transport.enqueueCompletions answers.whileStarting
  if error ≠ ESP_OK then
    { result := .backendError
      next := called.count selected.transport fun stats =>
        { stats with radioErrors := saturatingIncrement stats.radioErrors }
      events := calls }
  else
    { result := .none
      next := { called.count selected.transport fun stats => { stats with
        submitted := saturatingIncrement stats.submitted
        late := if selected.deadlineMs < nowMs then saturatingIncrement stats.late else stats.late }
        with activeTransport := selected.transport, busy := true }
      events := calls }

/-- The loop of `poll`, with the number of pending payloads as its bound. -/
def pollPending (nowMs : Nat) (answers : BleAnswers) : Nat → BleTransport → Outcome BleTransportError
  | 0, transport => { result := .none, next := transport }
  | bound + 1, transport =>
      let index := transport.earliestPendingIndex
      match transport.pending.items[index]? with
      | none => { result := .none, next := transport }
      | some selected =>
          let erased := transport.erasePending index
          if selected.expired nowMs then
            let rest := pollPending nowMs answers bound (erased.count selected.transport
              fun stats => { stats with dropped := saturatingIncrement stats.dropped })
            { rest with events := .dropped nowMs selected :: rest.events }
          else erased.send selected nowMs answers

def poll (nowMs : Nat) (answers : BleAnswers) : Outcome BleTransportError :=
  if transport.shuttingDown ∨ transport.shutDown then { result := .backendError, next := transport }
  else
    let drained := transport.drainCompletions answers
    if drained.1.busy then { result := .none, next := drained.1, events := drained.2 }
    else
      let polled := pollPending nowMs answers drained.1.pending.count drained.1
      { polled with events := drained.2 ++ polled.events }

def shutdown (reset : EspErr) : Outcome EspErr :=
  if transport.shutDown then { result := ESP_OK, next := transport }
  else
    let stopping := { transport with shuttingDown := true }
    if reset ≠ ESP_OK then { result := reset, next := stopping, events := [.reset reset] }
    else
      { result := ESP_OK
        next := { stopping with shutDown := true, busy := false, pending := .empty }
        events := [.reset reset] }

/-- The ways through `submit`. -/
theorem submit_rule (payload : ScheduledPayload) {goal : Outcome BleTransportError → Prop}
    (refused : ∀ error, error ≠ .none → goal { result := error, next := transport })
    (accepted : ∀ queue, ¬(transport.shuttingDown ∨ transport.shutDown) →
      payload.transport = .ble4 ∨ payload.transport = .ble5 →
      payload.size ≤ maximumSize payload.transport →
      transport.pending.push payload = some queue → goal {
        result := .none
        next := { transport with pending := queue }.count payload.transport
          fun stats => { stats with expected := saturatingIncrement stats.expected }
        events := [.accepted payload] }) :
    goal (transport.submit payload) := by
  unfold submit
  by_cases stopped : transport.shuttingDown = true ∨ transport.shutDown = true
  · rw [if_pos stopped]
    exact refused _ (by decide)
  rw [if_neg stopped]
  by_cases foreign : payload.transport ≠ .ble4 ∧ payload.transport ≠ .ble5
  · rw [if_pos foreign]
    exact refused _ (by decide)
  rw [if_neg foreign]
  rw [not_and_or, not_not, not_not] at foreign
  split_ifs with empty large
  · exact refused _ (by decide)
  · exact refused _ (by decide)
  · cases pushed : transport.pending.push payload with
    | none => exact refused _ (by decide)
    | some queue => exact accepted queue stopped foreign (not_lt.mp large) pushed

theorem enqueueCompletions_eq (events : List BleCompletionEvent) :
    ∃ completions write overflows, transport.enqueueCompletions events = { transport with
      completions := completions, completionWrite := write, completionOverflows := overflows } := by
  unfold enqueueCompletions
  induction events generalizing transport with
  | nil => exact ⟨_, _, _, rfl⟩
  | cons event rest ih =>
    obtain ⟨completions, write, overflows, same⟩ := ih (transport.enqueueCompletion event)
    refine ⟨completions, write, overflows, same.trans ?_⟩
    unfold enqueueCompletion
    dsimp only
    split_ifs <;> rfl

/-- What the callers of the transport and the host task do. -/
inductive Input where
  | submit (payload : ScheduledPayload)
  | poll (nowMs : Nat) (answers : BleAnswers)
  | completion (event : BleCompletionEvent)
  | shutdown (reset : EspErr)

def machine : Machine BleTransport Input BleEvent where
  step transport
    | .submit payload => ((transport.submit payload).next, (transport.submit payload).events)
    | .poll nowMs answers => ((transport.poll nowMs answers).next, (transport.poll nowMs answers).events)
    | .completion event => (transport.enqueueCompletion event, [])
    | .shutdown reset => ((transport.shutdown reset).next, (transport.shutdown reset).events)

end BleTransport

end RidFirmware
