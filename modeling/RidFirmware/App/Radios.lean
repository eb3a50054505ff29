import RidFirmware.Radio.Handover
import RidFirmware.Runtime.Schedule
import RidFirmware.Runtime.SinkRule

/-! The runtime with the two transports behind its sink, as `app_main` wires them. -/

namespace RidFirmware
open Lib

/-- The transports behind `RadioSink`. -/
structure Radios where
  wifi : RadioCoordinator := {}
  ble : BleTransport := {}

def Radios.waiting (radios : Radios) : List ScheduledPayload :=
  radios.wifi.waiting ++ radios.ble.pending.items

def RadioSink.submit (radios : Radios) (payload : ScheduledPayload) : Bool × Radios :=
  if payload.transport = .ble4 ∨ payload.transport = .ble5 then
    let submitted := radios.ble.submit payload
    (decide (submitted.result = .none), { radios with ble := submitted.next })
  else
    let submitted := radios.wifi.submit payload
    (decide (submitted.result = ESP_OK), { radios with wifi := submitted.next })

def RuntimeEnv.withRadios {Number Engine : Type} (env : RuntimeEnv Number Engine Radios) :
    RuntimeEnv Number Engine Radios :=
  { env with submit := RadioSink.submit }

structure System (Engine : Type) where
  runtime : Runtime Engine
  radios : Radios := {}

/-- The calls made on the runtime and on the transports, and the completions of the host task. -/
inductive SystemInput where
  | apply (config : SystemConfig) (nowMs : Nat)
  | tick (nowMs : Nat)
  | pollWifi (nowMs : Nat) (answers : WifiAnswers)
  | pollBle (nowMs : Nat) (answers : BleAnswers)
  | completion (event : BleCompletionEvent)

/-- What becomes of payloads: a tick has one accepted by the sink, and a poll hands one to a backend. -/
inductive SystemEvent where
  | submitted (payload : ScheduledPayload)
  | radiated (payload : ScheduledPayload)

def submittedIn (log : List SystemEvent) : List ScheduledPayload :=
  log.filterMap fun event => match event with
    | .submitted payload => some payload
    | .radiated _ => none

/-- The payloads a log reports as handed to a backend. -/
def radiatedIn (log : List SystemEvent) : List ScheduledPayload :=
  log.filterMap fun event => match event with
    | .submitted _ => none
    | .radiated payload => some payload

def RuntimeEvent.taken : RuntimeEvent → Option ScheduledPayload
  | .submitted payload true => some payload
  | _ => none

section
variable {Number Engine : Type} (env : RuntimeEnv Number Engine Radios)

def systemMachine : Machine (System Engine) SystemInput SystemEvent where
  step system
    | .apply config nowMs =>
        ({ system with runtime := (system.runtime.apply env.withRadios config nowMs).2 }, [])
    | .tick nowMs =>
        let ticked := system.runtime.tick env.withRadios system.radios nowMs
        ({ runtime := ticked.2.1, radios := ticked.2.2.1 },
          (ticked.2.2.2.filterMap RuntimeEvent.taken).map .submitted)
    | .pollWifi nowMs answers =>
        let polled := system.radios.wifi.poll nowMs answers
        ({ system with radios := { system.radios with wifi := polled.next } },
          (polled.events.filterMap WifiEvent.handed).map .radiated)
    | .pollBle nowMs answers =>
        let polled := system.radios.ble.poll nowMs answers
        ({ system with radios := { system.radios with ble := polled.next } },
          (polled.events.filterMap BleEvent.handed).map .radiated)
    | .completion event =>
        ({ system with radios := { system.radios with
          ble := system.radios.ble.enqueueCompletion event } }, [])

end

@[simp] theorem submittedIn_append (first second : List SystemEvent) :
    submittedIn (first ++ second) = submittedIn first ++ submittedIn second := List.filterMap_append

@[simp] theorem radiatedIn_append (first second : List SystemEvent) :
    radiatedIn (first ++ second) = radiatedIn first ++ radiatedIn second := List.filterMap_append

@[simp] theorem submittedIn_submitted (payloads : List ScheduledPayload) :
    submittedIn (payloads.map .submitted) = payloads := by
  induction payloads with
  | nil => rfl
  | cons payload rest ih => exact congrArg (payload :: ·) ih

@[simp] theorem radiatedIn_submitted (payloads : List ScheduledPayload) :
    radiatedIn (payloads.map .submitted) = [] := by
  induction payloads with
  | nil => rfl
  | cons payload rest ih => exact ih

@[simp] theorem radiatedIn_radiated (payloads : List ScheduledPayload) :
    radiatedIn (payloads.map .radiated) = payloads := by
  induction payloads with
  | nil => rfl
  | cons payload rest ih => exact congrArg (payload :: ·) ih

/-! What one step does to the waiting payloads. -/

theorem RadioSink.submit_waiting (radios : Radios) (submitted : ScheduledPayload)
    {payload : ScheduledPayload} (waits : payload ∈ (RadioSink.submit radios submitted).2.waiting) :
    payload ∈ radios.waiting ∨
      (RadioSink.submit radios submitted).1 = true ∧ payload = submitted := by
  unfold RadioSink.submit Radios.waiting at *
  dsimp only at *
  split_ifs at *
  · rcases List.mem_append.mp waits with wifi | ble
    · exact .inl (List.mem_append_left _ wifi)
    · rcases BleTransport.submit_waiting submitted ble with old | ⟨taken, same⟩
      · exact .inl (List.mem_append_right _ old)
      · exact .inr ⟨decide_eq_true taken, same⟩
  · rcases List.mem_append.mp waits with wifi | ble
    · rcases RadioCoordinator.submit_waiting _ submitted wifi with old | ⟨taken, same⟩
      · exact .inl (List.mem_append_left _ old)
      · exact .inr ⟨decide_eq_true taken, same⟩
    · exact .inl (List.mem_append_right _ ble)

section
variable {Number Engine : Type} {env : RuntimeEnv Number Engine Radios}

theorem tick_waiting (runtime : Runtime Engine) (radios : Radios) (nowMs : Nat)
    {payload : ScheduledPayload}
    (waits : payload ∈ (runtime.tick env.withRadios radios nowMs).2.2.1.waiting) :
    payload ∈ radios.waiting ∨
      payload ∈ (runtime.tick env.withRadios radios nowMs).2.2.2.filterMap RuntimeEvent.taken := by
  have rule : SinkRule env.withRadios fun sink events => payload ∈ sink.waiting →
      payload ∈ radios.waiting ∨ payload ∈ events.filterMap RuntimeEvent.taken := by
    constructor
    · intro sink events submitted before waits
      rw [List.filterMap_append, List.mem_append]
      rcases RadioSink.submit_waiting sink submitted waits with old | ⟨taken, same⟩
      · rcases before old with first | second
        · exact .inl first
        · exact .inr (.inl second)
      · refine .inr (.inr ?_)
        rw [same]
        simp [RuntimeEnv.withRadios, taken, RuntimeEvent.taken]
    · intro sink events index kind sequence before
      rw [List.filterMap_append]
      simpa [RuntimeEvent.taken] using before
    · intro sink events index kind before
      rw [List.filterMap_append]
      simpa [RuntimeEvent.taken] using before
  rcases tick_cases env.withRadios runtime radios nowMs with refused | ticked
  · rw [refused] at waits
    exact .inl waits
  · obtain ⟨fleet, _, _, same⟩ := ticked
    rw [same] at waits ⊢
    exact rule.tick fleet (fun old => .inl old) nowMs waits

/-- After a step only payloads it submits wait besides the old ones. -/
theorem step_waiting (system : System Engine) (input : SystemInput) {payload : ScheduledPayload}
    (waits : payload ∈ ((systemMachine env).step system input).1.radios.waiting) :
    payload ∈ system.radios.waiting ∨
      payload ∈ submittedIn ((systemMachine env).step system input).2 := by
  cases input with
  | apply config nowMs => exact .inl waits
  | tick nowMs =>
    simp only [systemMachine, submittedIn_submitted] at waits ⊢
    exact tick_waiting system.runtime system.radios nowMs waits
  | pollWifi nowMs answers =>
    rcases List.mem_append.mp waits with wifi | ble
    · exact .inl (List.mem_append_left _ (RadioCoordinator.poll_waiting _ _ _ wifi))
    · exact .inl (List.mem_append_right _ ble)
  | pollBle nowMs answers =>
    rcases List.mem_append.mp waits with wifi | ble
    · exact .inl (List.mem_append_left _ wifi)
    · exact .inl (List.mem_append_right _ (BleTransport.poll_waiting ble))
  | completion event =>
    rcases List.mem_append.mp waits with wifi | ble
    · exact .inl (List.mem_append_left _ wifi)
    · have same : (system.radios.ble.enqueueCompletion event).pending = system.radios.ble.pending :=
        BleTransport.enqueueCompletions_pending [event]
      exact .inl (List.mem_append_right _ (same ▸ ble))

def SystemInput.pollMs : SystemInput → Option Nat
  | .pollWifi nowMs _ => some nowMs
  | .pollBle nowMs _ => some nowMs
  | _ => none

/-- The payloads that wait for the transport a poll is for. -/
def Radios.waitingFor (radios : Radios) : SystemInput → List ScheduledPayload
  | .pollWifi _ _ => radios.wifi.waiting
  | .pollBle _ _ => radios.ble.pending.items
  | _ => []

theorem Radios.waitingFor_subset (radios : Radios) (input : SystemInput) :
    radios.waitingFor input ⊆ radios.waiting := by
  cases input with
  | pollWifi nowMs answers => exact List.subset_append_left _ _
  | pollBle nowMs answers => exact List.subset_append_right _ _
  | apply config nowMs => exact List.nil_subset _
  | tick nowMs => exact List.nil_subset _
  | completion event => exact List.nil_subset _

/-- Only polls radiate, and only what waits for their transport and has not expired. -/
theorem step_radiated (system : System Engine) (input : SystemInput) {payload : ScheduledPayload}
    (radiated : payload ∈ radiatedIn ((systemMachine env).step system input).2) :
    ∃ nowMs, input.pollMs = some nowMs ∧ payload ∈ system.radios.waitingFor input ∧
      payload.expired nowMs = false := by
  cases input with
  | apply config nowMs => cases radiated
  | tick nowMs =>
    simp only [systemMachine, radiatedIn_submitted] at radiated
    cases radiated
  | pollWifi nowMs answers =>
    simp only [systemMachine, radiatedIn_radiated] at radiated
    obtain ⟨waits, unexpired⟩ := RadioCoordinator.poll_handed _ _ _ radiated
    exact ⟨nowMs, rfl, waits, unexpired⟩
  | pollBle nowMs answers =>
    simp only [systemMachine, radiatedIn_radiated] at radiated
    obtain ⟨waits, unexpired⟩ := BleTransport.poll_handed radiated
    exact ⟨nowMs, rfl, waits, unexpired⟩
  | completion event => cases radiated

end

end RidFirmware
