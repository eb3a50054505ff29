import RidFirmware.App.Device
import RidFirmware.Runtime.Schedule

/-! What a power cycle restores. The flash holds the last saved configuration as its current value,
whatever has been staged, applied, rolled back or refused since. -/

namespace RidFirmware
open Lib NvsStore

section
variable {Number Engine Sink : Type} (env : RuntimeEnv Number Engine Sink)
  (crc32 : UInt32 → Bytes → UInt32) (device : DeviceId)

/-- The runtime takes a configuration on this device. -/
def Runs (config : SystemConfig) : Prop :=
  ∃ aircraft, validateAndExpand env.sha256 config device = .ok aircraft

/-- The flash holds what was saved last: nothing yet, or its current value, which the runtime takes. -/
def Holds (flash : Flash) : Option (SystemConfig × UInt32) → Prop
  | none => flash = fun _ => none
  | some entry =>
      (∃ slot, DualSlot.current (flash.contents crc32) = some (slot, entry)) ∧ Runs env device entry.1

/-- What every line and every reboot preserve, with the last saved configuration. -/
structure Consistent (state : Device Engine) (saved : Option (SystemConfig × UInt32)) : Prop where
  runtimeDevice : state.runtime.device = device
  shellDevice : state.shell.device = device
  applied : ∀ config, state.shell.applied = some config → Runs env device config
  stored : Holds env crc32 device state.flash saved

variable {env crc32 device}

theorem apply_device (runtime : Runtime Engine) (config : SystemConfig) (nowMs : Nat) :
    (runtime.apply env config nowMs).2.device = runtime.device := by
  rcases apply_cases env runtime config nowMs with refused | started
  · rw [refused.2]
  · obtain ⟨fleet, _, same⟩ := started
    rw [same]

theorem apply_runs (config : SystemConfig) (nowMs : Nat) (runs : Runs env device config)
    {runtime : Runtime Engine} (same : runtime.device = device) :
    (runtime.apply env config nowMs).1 = .none ∧
      (runtime.apply env config nowMs).2.running = true ∧
      (runtime.apply env config nowMs).2.config = config := by
  obtain ⟨aircraft, expanded⟩ := runs
  subst same
  rcases apply_cases env runtime config nowMs with refused | started
  · obtain ⟨⟨error, failed⟩, _⟩ := refused
    rw [expanded] at failed
    cases failed
  · obtain ⟨fleet, started, same⟩ := started
    rw [same]
    exact ⟨rfl, rfl, started.config⟩

theorem load_empty : Flash.load crc32 (fun _ => none) = .error .notFound := rfl

/-- Booting restores what the flash holds, and starts from a consistent state. -/
theorem boot_restored {flash : Flash} {saved : Option (SystemConfig × UInt32)}
    (held : Holds env crc32 device flash saved) (nowMs : Nat) :
    (boot env crc32 device flash nowMs).Restored saved ∧
      Consistent env crc32 device (boot env crc32 device flash nowMs) saved := by
  cases saved with
  | none =>
    have empty : flash = fun _ => none := held
    subst empty
    unfold boot
    rw [load_empty]
    refine ⟨⟨rfl, rfl⟩, ?_⟩
    exact ⟨rfl, rfl, nofun, rfl⟩
  | some entry =>
    obtain ⟨⟨slot, current⟩, runs⟩ := held
    obtain ⟨config, generation⟩ := entry
    have loaded : flash.load crc32 = .ok ⟨config, generation⟩ :=
      (flash.load_ok_iff crc32 ⟨config, generation⟩).mpr ⟨slot, current⟩
    obtain ⟨taken, running, same⟩ :=
      @apply_runs _ Engine Sink env device config nowMs runs { device := device } rfl
    unfold boot
    rw [loaded]
    dsimp only
    rw [if_pos taken]
    refine ⟨⟨running, same, rfl, rfl, rfl⟩, ?_⟩
    constructor
    · exact apply_device _ config nowMs
    · rfl
    · intro applied found
      cases found
      exact runs
    · exact ⟨⟨slot, current⟩, runs⟩

theorem lastSave_snoc (events : List DeviceEvent) (event : DeviceEvent) :
    lastSave (events ++ [event]) = event.okSave.or (lastSave events) := by
  unfold lastSave
  rw [List.filterMap_append, List.filterMap_cons, List.filterMap_nil]
  cases event.okSave with
  | none => simp
  | some saved => simp

theorem okSave_other {line : Bytes} (other : Shell.words line ≠ Shell.saveCommand) (response : Bytes)
    (written : List (SystemConfig × UInt32)) :
    (DeviceEvent.answered line response written).okSave = none :=
  if_neg fun both => other both.1

/-! One step. -/

theorem consistent_edits {state : Device Engine} {saved : Option (SystemConfig × UInt32)}
    (consistent : Consistent env crc32 device state saved) {handled : Handled (Backend Engine)}
    (edits : Shell.Edits { runtime := state.runtime, flash := state.flash } state.shell handled) :
    Consistent env crc32 device
      { runtime := handled.world.runtime, flash := handled.world.flash, shell := handled.shell } saved := by
  constructor
  · rw [edits.world]
    exact consistent.runtimeDevice
  · exact edits.device.trans consistent.shellDevice
  · intro config found
    exact consistent.applied config (edits.applied.symm.trans found)
  · rw [edits.world]
    exact consistent.stored

theorem consistent_apply {state : Device Engine} {saved : Option (SystemConfig × UInt32)}
    (consistent : Consistent env crc32 device state saved) (nowMs : Nat) :
    let handled := Shell.handleApply env.sha256 (appCallbacks env crc32 nowMs)
      { runtime := state.runtime, flash := state.flash } state.shell
    Consistent env crc32 device
      { runtime := handled.world.runtime, flash := handled.world.flash, shell := handled.shell } saved := by
  dsimp only
  unfold Shell.handleApply
  cases expanded : validateAndExpand env.sha256 state.shell.staged state.shell.device with
  | error error => exact consistent
  | ok aircraft =>
    have runs : Runs env device state.shell.staged := by
      rw [consistent.shellDevice] at expanded
      exact ⟨aircraft, expanded⟩
    have kept := @apply_device _ Engine Sink env state.runtime state.shell.staged nowMs
    dsimp only
    split_ifs with failed
    · exact ⟨kept.trans consistent.runtimeDevice, consistent.shellDevice, consistent.applied,
        consistent.stored⟩
    · constructor
      · exact kept.trans consistent.runtimeDevice
      · exact consistent.shellDevice
      · intro config found
        cases found
        exact runs
      · exact consistent.stored

/-- A save answers OK exactly when the store has taken the applied configuration, and it is then the
one which the flash holds. -/
theorem consistent_save {state : Device Engine} {saved : Option (SystemConfig × UInt32)}
    (consistent : Consistent env crc32 device state saved) (nowMs : Nat) :
    let handled := Shell.handleSave (appCallbacks env crc32 nowMs)
      { runtime := state.runtime, flash := state.flash } state.shell
    let after : Device Engine :=
      { runtime := handled.world.runtime, flash := handled.world.flash, shell := handled.shell }
    (handled.world.written = [] ∧ ¬ascii "OK" <+: handled.response ∧
        Consistent env crc32 device after saved) ∨
      ∃ config, state.shell.applied = some config ∧
        handled.world.written = [(config, state.shell.generation)] ∧
        handled.response = Shell.savedResponse state.shell.generation ∧
        Consistent env crc32 device after (some (config, state.shell.generation)) := by
  dsimp only
  unfold Shell.handleSave
  cases applied : state.shell.applied with
  | none => exact .inl ⟨rfl, (by decide : ¬ascii "OK" <+: Shell.error "NO_APPLIED_CONFIG"), consistent⟩
  | some config =>
    have runs := consistent.applied config applied
    dsimp only [Shell.call, appCallbacks]
    rcases save_performed crc32 state.flash config state.shell.generation with
      ⟨refused, untouched⟩ | ⟨done, current⟩
    · left
      cases result : (state.flash.save crc32 .performed config state.shell.generation).1 with
      | ok _ => exact absurd result refused
      | error error =>
        dsimp only
        rw [if_pos (by rfl)]
        refine ⟨rfl, (by decide : ¬ascii "OK" <+: Shell.error "OPERATION_FAILED"),
          consistent.runtimeDevice, consistent.shellDevice, consistent.applied, ?_⟩
        dsimp only [Shell.answer]
        rw [untouched]
        exact consistent.stored
    · right
      rw [done]
      exact ⟨config, rfl, rfl, rfl, consistent.runtimeDevice, consistent.shellDevice,
        consistent.applied, current, runs⟩

/-- An answer to a save which starts with `OK` reports the generation of what the store has taken. -/
def DeviceEvent.Reported : DeviceEvent → Prop
  | .answered line response written =>
      Shell.words line = Shell.saveCommand → ascii "OK" <+: response → ∃ config generation,
        written = [(config, generation)] ∧ response = Shell.savedResponse generation
  | .rebooted => True

/-- Every step keeps the device consistent with the last save that answered OK, and reports saves
truthfully. -/
theorem step_consistent {state : Device Engine} {events : List DeviceEvent}
    (consistent : Consistent env crc32 device state (lastSave events)) (input : DeviceInput) :
    let stepped := (deviceMachine env crc32 device).step state input
    Consistent env crc32 device stepped.1 (lastSave (events ++ stepped.2)) ∧
      ∀ event ∈ stepped.2, event.Reported := by
  cases input with
  | reboot nowMs =>
    show Consistent env crc32 device (boot env crc32 device state.flash nowMs)
      (lastSave (events ++ [.rebooted])) ∧ ∀ event ∈ [DeviceEvent.rebooted], event.Reported
    rw [lastSave_snoc, List.forall_mem_singleton]
    exact ⟨(boot_restored consistent.stored nowMs).2, trivial⟩
  | line text nowMs =>
    dsimp only [deviceMachine]
    rw [lastSave_snoc, List.forall_mem_singleton]
    by_cases isSave : Shell.words text = Shell.saveCommand
    · rw [Shell.handle_save isSave]
      rcases consistent_save consistent nowMs with ⟨nothing, refused, kept⟩ |
        ⟨config, _, written, response, kept⟩
      · have missing : (DeviceEvent.answered text (Shell.handleSave (appCallbacks env crc32 nowMs)
            { runtime := state.runtime, flash := state.flash } state.shell).response
            (Shell.handleSave (appCallbacks env crc32 nowMs)
            { runtime := state.runtime, flash := state.flash } state.shell).world.written).okSave = none :=
          if_neg fun both => refused both.2
        rw [missing, Option.none_or]
        exact ⟨kept, fun _ ok => absurd ok refused⟩
      · rw [written, response]
        have saved : (DeviceEvent.answered text (Shell.savedResponse state.shell.generation)
            [(config, state.shell.generation)]).okSave = some (config, state.shell.generation) := by
          apply if_pos
          refine ⟨isSave, ?_⟩
          unfold Shell.savedResponse
          rw [List.append_assoc]
          exact (by decide : ascii "OK" <+: ascii "OK saved generation=").trans (List.prefix_append _ _)
        rw [saved, Option.some_or]
        exact ⟨kept, fun _ _ => ⟨config, state.shell.generation, rfl, rfl⟩⟩
    · rw [okSave_other isSave, Option.none_or]
      refine ⟨?_, fun save => absurd save isSave⟩
      by_cases isApply : Shell.words text = Shell.applyCommand
      · rw [Shell.handle_apply isApply]
        exact consistent_apply consistent nowMs
      · exact consistent_edits consistent (Shell.handle_edits isApply isSave)

/-- After every run from an empty flash the device is consistent. -/
theorem run_consistent (bootMs : Nat) (inputs : List DeviceInput) :
    let ran := (deviceMachine env crc32 device).run (boot env crc32 device (fun _ => none) bootMs) inputs
    Consistent env crc32 device ran.1 (lastSave ran.2) ∧ ∀ event ∈ ran.2, event.Reported := by
  apply (deviceMachine env crc32 device).run_invariant (fun state events =>
    Consistent env crc32 device state (lastSave events) ∧ ∀ event ∈ events, event.Reported)
  · intro state events input before
    obtain ⟨kept, reported⟩ := step_consistent before.1 input
    refine ⟨kept, ?_⟩
    intro event member
    rcases List.mem_append.mp member with earlier | now
    · exact before.2 event earlier
    · exact reported event now
  · have empty : Holds env crc32 device (fun _ => none) none := rfl
    exact ⟨(boot_restored empty bootMs).2, List.forall_mem_nil _⟩

theorem Holds.not_ambiguous {flash : Flash} {saved : Option (SystemConfig × UInt32)}
    (held : Holds env crc32 device flash saved) : ¬flash.Ambiguous crc32 := by
  intro ambiguous
  obtain ⟨readable, error, failed⟩ := ambiguous
  cases saved with
  | none =>
    have empty : flash = fun _ => none := held
    subst empty
    obtain ⟨loaded, read⟩ := readable .a
    cases read
  | some entry =>
    obtain ⟨⟨slot, current⟩, _⟩ := held
    have loaded := (flash.load_ok_iff crc32 ⟨entry.1, entry.2⟩).mpr ⟨slot, current⟩
    rw [failed] at loaded
    cases loaded

end

/-- In every run of lines and reboots from an empty flash: a reboot restores the configuration and the
generation of the last save that answered OK, whose answer reported them; without such a save nothing
runs. The two slots are never ambiguous. -/
theorem power_cycle_restore {Number Engine Sink : Type} (env : RuntimeEnv Number Engine Sink)
    (crc32 : UInt32 → Bytes → UInt32) (device : DeviceId) (bootMs rebootMs : Nat)
    (inputs : List DeviceInput) :
    let machine := deviceMachine env crc32 device
    let start : Device Engine := boot env crc32 device (fun _ => none) bootMs
    let ran := machine.run start inputs
    (machine.run start (inputs ++ [.reboot rebootMs])).1.Restored (lastSave ran.2) ∧
      (∀ event ∈ ran.2, event.Reported) ∧ ¬ran.1.flash.Ambiguous crc32 := by
  dsimp only
  obtain ⟨consistent, reported⟩ := @run_consistent _ _ _ env crc32 device bootMs inputs
  refine ⟨?_, reported, consistent.stored.not_ambiguous⟩
  rw [Machine.run_snoc]
  exact (boot_restored consistent.stored rebootMs).1

set_option maxRecDepth 100000 in
/-- A saved aircraft outlives an apply that was not saved. -/
example :
    let commands := ["site set latitude 0 longitude 0", "group add A 1 odid ble4", "config apply",
      "config save", "config apply", "group clear"]
    let inputs := commands.map fun command => DeviceInput.line (ascii command) 0
    let machine := deviceMachine { refusingEnv with sha256 := oneHoverSha256 } NvsStore.crc32Le
      (Vector.replicate 6 0)
    let start := boot { refusingEnv with sha256 := oneHoverSha256 } NvsStore.crc32Le
      (Vector.replicate 6 0) (fun _ => none) 0
    let ran := machine.run start inputs
    let restarted := (machine.run ran.1 [.reboot 0]).1
    lastSave ran.2 = some (oneHover, 1) ∧ ran.1.shell.generation = 2 ∧
      restarted.shell.generation = 1 ∧ restarted.runtime.running = true := by decide +kernel

end RidFirmware
