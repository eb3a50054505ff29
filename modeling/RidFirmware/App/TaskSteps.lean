import RidFirmware.App.Accounting
import RidFirmware.App.RuntimeTask

/-! The loop of `runtime_task` takes the steps of the system: each iteration is one tick, some polls of the Wi-Fi
coordinator and one of the BLE transport. What holds of every order of these steps holds of the loop. -/

namespace RidFirmware
open Lib Lib.Ieee

/-- The steps of the system that one input of the loop may take. -/
inductive TaskInput.Takes : TaskInput → List SystemInput → Prop where
  | idle (nowMs : Nat) (wifi : Vector WifiAnswers kMaxWifiPollsPerTick) (ble : BleAnswers) :
      Takes (.iterate nowMs wifi ble) []
  | iterate (nowMs : Nat) (wifi : Vector WifiAnswers kMaxWifiPollsPerTick) (ble : BleAnswers)
      (polls : List WifiAnswers) (made : polls <+: wifi.toList) :
      Takes (.iterate nowMs wifi ble)
        (.tick nowMs :: (polls.map (SystemInput.pollWifi nowMs) ++ [.pollBle nowMs ble]))
  | apply (config : SystemConfig) (nowMs : Nat) : Takes (.apply config nowMs) [.apply config nowMs]
  | completion (event : BleCompletionEvent) : Takes (.completion event) [.completion event]

def TaskEvent.seen : TaskEvent → Option SystemEvent
  | .runtime event => event.taken.map .submitted
  | .wifi event => event.handed.map .radiated
  | .ble event => event.handed.map .radiated

theorem filterMap_runtime (events : List RuntimeEvent) :
    (events.map TaskEvent.runtime).filterMap TaskEvent.seen =
      (events.filterMap RuntimeEvent.taken).map .submitted := by
  rw [List.filterMap_map, List.map_filterMap]
  rfl

theorem filterMap_wifi (events : List WifiEvent) :
    (events.map TaskEvent.wifi).filterMap TaskEvent.seen =
      (events.filterMap WifiEvent.handed).map .radiated := by
  rw [List.filterMap_map, List.map_filterMap]
  rfl

theorem filterMap_ble (events : List BleEvent) :
    (events.map TaskEvent.ble).filterMap TaskEvent.seen =
      (events.filterMap BleEvent.handed).map .radiated := by
  rw [List.filterMap_map, List.map_filterMap]
  rfl

section
variable {Number Engine : Type} {env : RuntimeEnv Number Engine Radios}

theorem serveWifi_steps (nowMs : Nat) (answers : List WifiAnswers) (system : System Engine) :
    ∃ polls, polls <+: answers ∧
      (systemMachine env).run system (polls.map (SystemInput.pollWifi nowMs)) =
        ({ system with radios := { system.radios with wifi := (serveWifi nowMs answers system.radios.wifi).1 } },
          ((serveWifi nowMs answers system.radios.wifi).2.filterMap WifiEvent.handed).map .radiated) := by
  induction answers generalizing system with
  | nil => exact ⟨[], List.prefix_rfl, rfl⟩
  | cons first rest ih =>
    unfold serveWifi
    dsimp only
    split_ifs with empty failed
    · exact ⟨[], List.nil_prefix, rfl⟩
    · exact ⟨[first], List.cons_prefix_cons.mpr ⟨rfl, List.nil_prefix⟩, congrArg (Prod.mk _) (List.append_nil _)⟩
    · obtain ⟨polls, made, same⟩ := ih ((systemMachine env).step system (.pollWifi nowMs first)).1
      refine ⟨first :: polls, List.cons_prefix_cons.mpr ⟨rfl, made⟩, ?_⟩
      rw [List.map_cons, Machine.run, same, List.filterMap_append, List.map_append]
      rfl

/-- One input of the loop takes its steps of the system. -/
theorem step_takes (system : System Engine) (input : TaskInput) :
    ∃ steps, input.Takes steps ∧ (systemMachine env).run system steps =
      (((taskMachine env).step system input).1,
        ((taskMachine env).step system input).2.filterMap TaskEvent.seen) := by
  cases input with
  | apply config nowMs => exact ⟨_, .apply config nowMs, rfl⟩
  | completion event => exact ⟨_, .completion event, rfl⟩
  | iterate nowMs wifi ble =>
    have taken : (taskMachine env).step system (.iterate nowMs wifi ble) =
        runtimeTask env system nowMs wifi.toList ble := rfl
    rw [taken]
    unfold runtimeTask
    by_cases running : system.runtime.running = true
    · obtain ⟨polls, made, same⟩ := @serveWifi_steps _ _ env nowMs wifi.toList
        ((systemMachine env).step system (.tick nowMs)).1
      refine ⟨_, .iterate nowMs wifi ble polls made, ?_⟩
      rw [if_pos running]
      simp only [List.filterMap_append, filterMap_runtime, filterMap_wifi, filterMap_ble]
      rw [Machine.run, Machine.run_snoc, same, List.append_assoc]
      rfl
    · refine ⟨[], .idle nowMs wifi ble, ?_⟩
      rw [if_neg running]
      rfl

/-- Every run of the loop is a run of the system. -/
theorem run_takes (start : System Engine) (inputs : List TaskInput) :
    ∃ steps, List.Forall₂ TaskInput.Takes inputs steps ∧ (systemMachine env).run start steps.flatten =
      (((taskMachine env).run start inputs).1,
        ((taskMachine env).run start inputs).2.filterMap TaskEvent.seen) := by
  induction inputs generalizing start with
  | nil => exact ⟨[], .nil, rfl⟩
  | cons input rest ih =>
    obtain ⟨first, takes, stepped⟩ := @step_takes _ _ env start input
    obtain ⟨later, others, ran⟩ := ih ((taskMachine env).step start input).1
    refine ⟨first :: later, .cons takes others, ?_⟩
    rw [List.flatten_cons, Machine.run_append, stepped, ran, Machine.run, List.filterMap_append]

/-! What holds of the loop. -/

/-- Only what a tick had accepted is handed to a backend. -/
theorem run_radiated {start : System Engine} (empty : start.radios.waiting = []) (inputs : List SystemInput)
    {payload : ScheduledPayload} (radiated : payload ∈ radiatedIn ((systemMachine env).run start inputs).2) :
    payload ∈ submittedIn ((systemMachine env).run start inputs).2 := by
  induction inputs using List.reverseRecOn with
  | nil => exact radiated
  | append_singleton before input ih =>
    rw [Machine.run_snoc, radiatedIn_append, List.mem_append] at radiated
    rw [Machine.run_snoc, submittedIn_append, List.mem_append]
    rcases radiated with earlier | now
    · exact .inl (ih earlier)
    · obtain ⟨_, _, waits, _⟩ := step_radiated _ input now
      rcases run_waiting start before (Radios.waitingFor_subset _ input waits) with old | submitted
      · rw [empty] at old
        cases old
      · exact .inl submitted

theorem Reconciled.steps {system : System Engine} (reconciled : Reconciled system.runtime.stats system.radios)
    (steps : List SystemInput) (quiet : ∀ config nowMs, SystemInput.apply config nowMs ∉ steps) :
    Reconciled ((systemMachine env).run system steps).1.runtime.stats
      ((systemMachine env).run system steps).1.radios := by
  induction steps generalizing system with
  | nil => exact reconciled
  | cons input rest ih =>
    have first := @Reconciled.step _ _ env system reconciled input
      (fun config nowMs same => absurd (same ▸ List.mem_cons_self) (quiet config nowMs))
    exact ih first fun config nowMs member => quiet config nowMs (List.mem_cons_of_mem _ member)

theorem Reconciled.takes {system : System Engine} (reconciled : Reconciled system.runtime.stats system.radios)
    {input : TaskInput} {steps : List SystemInput} (takes : input.Takes steps)
    (single : ∀ config nowMs, input = .apply config nowMs →
      system.runtime.fleet = none ∨ (system.runtime.apply env.withRadios config nowMs).1 ≠ .none) :
    Reconciled ((systemMachine env).run system steps).1.runtime.stats
      ((systemMachine env).run system steps).1.radios := by
  cases takes with
  | idle nowMs wifi ble => exact reconciled
  | iterate nowMs wifi ble polls made => exact reconciled.steps _ (by simp)
  | apply config nowMs =>
    exact reconciled.step (.apply config nowMs) fun other otherMs same => by
      obtain ⟨rfl, rfl⟩ := SystemInput.apply.inj same
      exact single config nowMs rfl
  | completion event => exact reconciled.steps _ (by simp)

variable (env)

/-- No fleet is replaced: where one is running, an `apply` fails. -/
def Unreplaced (start : System Engine) (inputs : List TaskInput) : Prop :=
  ∀ before config nowMs, before ++ [.apply config nowMs] <+: inputs →
    ((taskMachine env).run start before).1.runtime.fleet = none ∨
      (((taskMachine env).run start before).1.runtime.apply env.withRadios config nowMs).1 ≠ .none

theorem task_reconciled {start : System Engine} (reconciled : Reconciled start.runtime.stats start.radios)
    (inputs : List TaskInput) (unreplaced : Unreplaced env start inputs) :
    Reconciled ((taskMachine env).run start inputs).1.runtime.stats
      ((taskMachine env).run start inputs).1.radios := by
  apply (taskMachine env).run_induction
    (fun system _ => Reconciled system.runtime.stats system.radios)
    (fun system input => ∀ config nowMs, input = .apply config nowMs →
      system.runtime.fleet = none ∨ (system.runtime.apply env.withRadios config nowMs).1 ≠ .none)
  · intro system _ input before single
    obtain ⟨steps, takes, same⟩ := @step_takes _ _ env system input
    have kept := before.takes takes single
    rw [same] at kept
    exact kept
  · exact reconciled
  · intro before input within config nowMs same
    subst same
    exact unreplaced before config nowMs within

def bootSystem (device : DeviceId) (dwellMs retryMs : Nat) : System Engine where
  runtime := { device }
  radios := { wifi := { dwellMs := dwellMs, retryMs := retryMs } }

/-- The loop of `runtime_task` refines the system: every run of it, with the applies of the shell and the
completions of the host between the iterations, takes for each iteration one tick, at most eight polls of the
coordinator and one poll of the transport, or nothing, and has the state and the log of these steps. So whatever the
backends answer it hands them only what one of its ticks had accepted, and it can account for every payload as long
as no fleet is replaced and no counter has reached its end. -/
theorem runtimeTask_refines (device : DeviceId) (dwellMs retryMs : Nat) (inputs : List TaskInput) :
    let start : System Engine := bootSystem device dwellMs retryMs
    let ran := (taskMachine env).run start inputs
    let log := ran.2.filterMap TaskEvent.seen
    (∃ steps, List.Forall₂ TaskInput.Takes inputs steps ∧
      (systemMachine env).run start steps.flatten = (ran.1, log)) ∧
    (∀ payload ∈ radiatedIn log, payload ∈ submittedIn log) ∧
    (Unreplaced env start inputs → ran.1.runtime.stats.expected < kCounterMax → Accounted ran.1) := by
  intro start ran log
  obtain ⟨steps, takes, same⟩ := @run_takes _ _ env start inputs
  refine ⟨⟨steps, takes, same⟩, ?_, ?_⟩
  · intro payload radiated
    have inRun := @run_radiated _ _ env start rfl steps.flatten payload
    rw [same] at inRun
    exact inRun radiated
  · intro unreplaced unsaturated
    have booted : Reconciled start.runtime.stats start.radios :=
      ⟨⟨⟨fun _ => 0, fun _ => 0⟩, 0, ⟨rfl, rfl⟩, rfl, rfl, rfl⟩, BleTransport.balanced_start, [],
        RadioCoordinator.consistent_start dwellMs retryMs⟩
    exact (task_reconciled env booted inputs unreplaced).accounted unsaturated

end

/-- The two aircraft of `dualBand`, applied once. -/
theorem runtimeTask_refines_dualBand :
    Accounted ((taskMachine { hoverRadioEnv with sha256 := dualBandSha256 }).run
      (bootSystem (Vector.replicate 6 0) 100 20) dualBandRun).1 := by
  apply (runtimeTask_refines _ _ 100 20 dualBandRun).2.2
  · intro before config nowMs within
    obtain ⟨rest, split⟩ := within
    cases before with
    | nil => exact .inl rfl
    | cons first before =>
      have later : before ++ [.apply config nowMs] ++ rest = dualBandRun.tail := congrArg List.tail split
      have among : TaskInput.apply config nowMs ∈ dualBandRun.tail := by
        rw [← later]
        simp
      simp [dualBandRun] at among
  · decide +kernel

end RidFirmware
