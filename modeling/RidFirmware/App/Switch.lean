import RidFirmware.App.Radios
import RidFirmware.Runtime.Encoding

/-! Switching the configuration. `apply` replaces the fleet but leaves the queues of the transports
alone, so what waits there is radiated after the switch unless it has expired. -/

namespace RidFirmware
open Lib Lib.Ieee

section
variable {Number Engine : Type} (env : RuntimeEnv Number Engine Radios) (start : System Engine)

def systemAfter (inputs : List SystemInput) : System Engine := ((systemMachine env).run start inputs).1

/-- An `apply` after some inputs that succeeds. -/
def Switches (before : List SystemInput) (config : SystemConfig) (nowMs : Nat) : Prop :=
  ((systemAfter env start before).runtime.apply env.withRadios config nowMs).1 = .none

/-- What happens after an `apply`. -/
def logSince (before : List SystemInput) (config : SystemConfig) (nowMs : Nat)
    (after : List SystemInput) : List SystemEvent :=
  ((systemMachine env).run (systemAfter env start (before ++ [.apply config nowMs])) after).2

/-- A successful `apply` replaces the fleet also on the air: what is radiated after it has been
submitted after it, and nothing is radiated that was waiting before. Payloads are compared by value, since
one that a radio fails to send is handed to it again. -/
structure Replaces (inputs : List SystemInput) : Prop where
  submittedSince : ∀ before config nowMs after, before ++ .apply config nowMs :: after <+: inputs →
    Switches env start before config nowMs →
    ∀ payload ∈ radiatedIn (logSince env start before config nowMs after),
      payload ∈ submittedIn (logSince env start before config nowMs after)
  silenced : ∀ before config nowMs after, before ++ .apply config nowMs :: after <+: inputs →
    Switches env start before config nowMs →
    ∀ payload ∈ (systemAfter env start before).radios.waiting,
      payload ∉ radiatedIn (logSince env start before config nowMs after)

/-- Whenever a transport is polled, every payload that still waits for it from before a successful `apply`
has expired. -/
def Flushed (inputs : List SystemInput) : Prop :=
  ∀ before config startMs after input nowMs,
    before ++ .apply config startMs :: (after ++ [input]) <+: inputs →
    Switches env start before config startMs → input.pollMs = some nowMs →
    ∀ payload ∈ (systemAfter env start before).radios.waiting,
      payload ∈ (systemAfter env start (before ++ .apply config startMs :: after)).radios.waitingFor input →
      payload.expired nowMs = true

variable {env start}

theorem mem_radiatedIn {log : List SystemEvent} {payload : ScheduledPayload} :
    payload ∈ radiatedIn log ↔ .radiated payload ∈ log := by
  unfold radiatedIn
  rw [List.mem_filterMap]
  apply Iff.intro
  · intro parts
    obtain ⟨event, member, read⟩ := parts
    cases event with
    | submitted other => cases read
    | radiated other =>
      obtain rfl := Option.some.inj read
      exact member
  · exact fun member => ⟨_, member, rfl⟩

/-- What waits after a run has waited before it or has been submitted in it. -/
theorem run_waiting (system : System Engine) (inputs : List SystemInput) {payload : ScheduledPayload}
    (waits : payload ∈ ((systemMachine env).run system inputs).1.radios.waiting) :
    payload ∈ system.radios.waiting ∨ payload ∈ submittedIn ((systemMachine env).run system inputs).2 := by
  induction inputs using List.reverseRecOn with
  | nil => exact .inl waits
  | append_singleton before input ih =>
    rw [Machine.run_snoc] at waits ⊢
    rw [submittedIn_append, List.mem_append]
    rcases step_waiting _ input waits with old | new
    · rcases ih old with first | second
      · exact .inl first
      · exact .inr (.inl second)
    · exact .inr (.inr new)

theorem logSince_radiated {before after : List SystemInput} {config : SystemConfig} {startMs : Nat}
    {payload : ScheduledPayload}
    (radiated : payload ∈ radiatedIn (logSince env start before config startMs after)) :
    ∃ earlier input nowMs, earlier ++ [input] <+: after ∧ input.pollMs = some nowMs ∧
      payload ∈ (systemAfter env start (before ++ .apply config startMs :: earlier)).radios.waitingFor input ∧
      payload.expired nowMs = false := by
  obtain ⟨earlier, input, within, seen⟩ := Machine.mem_run _ (mem_radiatedIn.mp radiated)
  obtain ⟨nowMs, polled, waits, unexpired⟩ := step_radiated _ input (mem_radiatedIn.mpr seen)
  refine ⟨earlier, input, nowMs, within, polled, ?_, unexpired⟩
  have joined : before ++ .apply config startMs :: earlier =
      (before ++ [.apply config startMs]) ++ earlier := by simp
  unfold systemAfter at waits ⊢
  rw [joined, Machine.run_append]
  exact waits

theorem apply_waiting (before : List SystemInput) (config : SystemConfig) (startMs : Nat) :
    (systemAfter env start (before ++ [.apply config startMs])).radios =
      (systemAfter env start before).radios := by
  unfold systemAfter
  rw [Machine.run_snoc]
  rfl

variable (env start)

/-- In a run whose polls find nothing unexpired from before a switch, every switch takes effect on the
air. -/
theorem flushed_replaces (inputs : List SystemInput) (flushed : Flushed env start inputs) :
    Replaces env start inputs := by
  have silenced : ∀ before config nowMs after, before ++ .apply config nowMs :: after <+: inputs →
      Switches env start before config nowMs →
      ∀ payload ∈ (systemAfter env start before).radios.waiting,
        payload ∉ radiatedIn (logSince env start before config nowMs after) := by
    intro before config startMs after isPrefix switches payload waited radiated
    obtain ⟨earlier, input, nowMs, within, polled, waits, unexpired⟩ := logSince_radiated radiated
    have upTo : before ++ .apply config startMs :: (earlier ++ [input]) <+: inputs := by
      refine List.IsPrefix.trans ?_ isPrefix
      exact (List.prefix_append_right_inj before).mpr (List.cons_prefix_cons.mpr ⟨rfl, within⟩)
    have expired := flushed before config startMs earlier input nowMs upTo switches polled payload waited
      waits
    rw [expired] at unexpired
    cases unexpired
  refine ⟨?_, silenced⟩
  intro before config startMs after isPrefix switches payload radiated
  obtain ⟨earlier, input, nowMs, within, polled, waits, unexpired⟩ := logSince_radiated radiated
  have joined : before ++ .apply config startMs :: earlier =
      (before ++ [.apply config startMs]) ++ earlier := by simp
  unfold systemAfter at waits
  rw [joined, Machine.run_append] at waits
  rcases run_waiting _ earlier (Radios.waitingFor_subset _ input waits) with old | new
  · have waited : payload ∈ (systemAfter env start before).radios.waiting := by
      rw [← apply_waiting before config startMs]
      exact old
    exact absurd radiated (silenced before config startMs after isPrefix switches payload waited)
  · obtain ⟨rest, rfl⟩ := (List.prefix_append earlier [input]).trans within
    unfold logSince
    rw [Machine.run_append, submittedIn_append]
    exact List.mem_append_left _ new

end

/-- One hovering aircraft on BLE, with the encoders and the transports. -/
def hoverRadioEnv : RuntimeEnv (Datum ℚ) Unit Radios :=
  RuntimeEnv.withEncoders {
    sha256 := oneHoverSha256
    newEngine := fun _ => ()
    sample := fun engine _ _ elapsedMs => (⟨.finite 0, .finite 0, .finite 0, .finite 0, .finite 0,
      .finite 0, .finite 0, false, elapsedMs⟩, engine)
    encodePack := fun _ _ _ => none
    encodeOdid := fun _ _ _ _ => none
    encodeGb := fun _ _ _ _ => none
    submit := RadioSink.submit }

def idleSystem : System Unit where
  runtime := idleRuntime

/-- A payload waits at the second switch, and the transport is polled some time after it. -/
def switchRun (pollMs : Nat) : List SystemInput :=
  [.apply oneHover 0, .tick 0, .apply oneHover 1, .pollBle pollMs {}]

/-- When the poll comes late, the payload has expired. -/
theorem flushed_replaces_late : Replaces hoverRadioEnv idleSystem (switchRun 2000) := by
  apply flushed_replaces
  intro before config startMs after input nowMs parts _ polled payload waited _
  obtain ⟨rest, split⟩ := parts
  rcases before with _ | ⟨first, _ | ⟨second, _ | ⟨third, _ | ⟨fourth, before⟩⟩⟩⟩
  · cases waited
  · simp [switchRun] at split
  · have expired : ∀ payload ∈ (systemAfter hoverRadioEnv idleSystem
        [.apply oneHover 0, .tick 0]).radios.waiting, payload.expired 2000 = true := by decide +kernel
    simp only [switchRun, List.cons_append, List.nil_append, List.cons.injEq] at split
    obtain ⟨rfl, rfl, _, tail⟩ := split
    cases after with
    | nil =>
      obtain ⟨rfl, _⟩ := List.cons.inj tail
      cases polled
      exact expired payload waited
    | cons next after => simp at tail
  · simp [switchRun] at split
  · have length := congrArg List.length split
    simp [switchRun] at length

/-- When it comes at once, a payload of the old configuration is radiated after the switch. -/
theorem stale_payload_radiated : ¬Replaces hoverRadioEnv idleSystem (switchRun 1) := by
  intro replaces
  have since := replaces.submittedSince [.apply oneHover 0, .tick 0] oneHover 1 [.pollBle 1 {}]
    List.prefix_rfl (by unfold Switches; decide +kernel)
  have handed : (radiatedIn (logSince hoverRadioEnv idleSystem [.apply oneHover 0, .tick 0] oneHover 1
      [.pollBle 1 {}])).length = 1 := by decide +kernel
  have silent : (submittedIn (logSince hoverRadioEnv idleSystem [.apply oneHover 0, .tick 0] oneHover 1
      [.pollBle 1 {}])).length = 0 := by decide +kernel
  obtain ⟨payload, only⟩ := List.length_eq_one_iff.mp handed
  have member := since payload (only ▸ List.mem_singleton_self payload)
  rw [List.length_eq_zero_iff.mp silent] at member
  cases member

end RidFirmware
