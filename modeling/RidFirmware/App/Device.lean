import RidFirmware.Lib.Machine
import RidFirmware.NvsStore.CrashSafety
import RidFirmware.Runtime.Runtime
import RidFirmware.Shell.Commands

/-! The device: `app_main` loads the stored configuration and wires the shell to the runtime and to
the store. What is in the flash outlives a reboot. -/

namespace RidFirmware
open Lib

/-- What the callbacks of the shell act on, with the configurations the store has taken. -/
structure Backend (Engine : Type) where
  runtime : Runtime Engine
  flash : NvsStore.Flash
  written : List (SystemConfig × UInt32) := []

structure Device (Engine : Type) where
  runtime : Runtime Engine
  flash : NvsStore.Flash
  shell : Shell

def Handled.device {Engine : Type} (handled : Handled (Backend Engine)) : Device Engine :=
  { runtime := handled.world.runtime, flash := handled.world.flash, shell := handled.shell }

section
variable {Number Engine Sink : Type} (env : RuntimeEnv Number Engine Sink)
  (crc32 : UInt32 → Bytes → UInt32)

/-- The callbacks of `app_main` at a time. -/
def appCallbacks (nowMs : Nat) : ShellCallbacks (Backend Engine) where
  apply := some fun backend config _ =>
    let applied := backend.runtime.apply env config nowMs
    (decide (applied.1 = .none), { backend with runtime := applied.2 })
  save := some fun backend config nextGeneration =>
    let saved := backend.flash.save crc32 .performed config nextGeneration
    match saved.1 with
    | .ok () => (true, { backend with
        flash := saved.2, written := backend.written ++ [(config, nextGeneration)] })
    | .error _ => (false, { backend with flash := saved.2 })

/-- `app_main` from the load on: a stored configuration is staged, and applied if the runtime takes
it. -/
def boot (device : DeviceId) (flash : NvsStore.Flash) (nowMs : Nat) : Device Engine :=
  let idle : Runtime Engine := { device }
  match flash.load crc32 with
  | .ok loaded =>
      let result := idle.apply env loaded.config nowMs
      { flash
        runtime := result.2
        shell :=
          { staged := loaded.config
            device
            applied := if result.1 = .none then some loaded.config else none
            generation := loaded.generation } }
  | .error _ => { flash, runtime := idle, shell := { staged := defaultConfig, device } }

inductive DeviceInput where
  | line (text : Bytes) (nowMs : Nat)
  | reboot (nowMs : Nat)

/-- A line with its answer, and what the store has taken meanwhile. -/
inductive DeviceEvent where
  | answered (line response : Bytes) (written : List (SystemConfig × UInt32))
  | rebooted

def deviceMachine (device : DeviceId) : Machine (Device Engine) DeviceInput DeviceEvent where
  step state
    | .line text nowMs =>
        let handled := state.shell.handle env.sha256 (appCallbacks env crc32 nowMs)
          { runtime := state.runtime, flash := state.flash } text
        ({ runtime := handled.world.runtime, flash := handled.world.flash, shell := handled.shell },
          [.answered text handled.response handled.world.written])
    | .reboot nowMs => (boot env crc32 device state.flash nowMs, [.rebooted])

end

/-- The configuration that a `config save` answered OK has written, with its generation. -/
def DeviceEvent.okSave : DeviceEvent → Option (SystemConfig × UInt32)
  | .answered line response written =>
      if Shell.words line = Shell.saveCommand ∧ ascii "OK" <+: response then written.getLast? else none
  | .rebooted => none

/-- The most recent of them. -/
def lastSave (events : List DeviceEvent) : Option (SystemConfig × UInt32) :=
  (events.filterMap DeviceEvent.okSave).getLast?

/-- The device runs the configuration that was saved last, or nothing. -/
def Device.Restored {Engine : Type} (state : Device Engine) : Option (SystemConfig × UInt32) → Prop
  | some (config, generation) =>
      state.runtime.running = true ∧ state.runtime.config = config ∧ state.shell.staged = config ∧
        state.shell.applied = some config ∧ state.shell.generation = generation
  | none => state.runtime.running = false ∧ state.shell.applied = none

/-- Both slots can be read, and `load` does not know which to take. -/
def NvsStore.Flash.Ambiguous (crc32 : UInt32 → Bytes → UInt32) (flash : NvsStore.Flash) : Prop :=
  (∀ slot, ∃ loaded, (readSlot crc32 (flash.reads slot) slot).outcome = .ok loaded) ∧
    ∃ error, flash.load crc32 = .error error

end RidFirmware
