import RidFirmware.App.Device
import RidFirmware.Runtime.Schedule
import RidFirmware.Shell.Transactions

/-! The shell and the runtime agree. Lines, ticks and reboots come in any order, the mutex may be
refused, and the flash may answer a save in any way. -/

namespace RidFirmware
open Lib

structure Board (Engine Sink : Type) where
  device : Device Engine
  sink : Sink

/-- A line comes with the answers of the mutex and of the flash, a reboot with what it starts from. -/
inductive BoardInput (Sink : Type) where
  | line (text : Bytes) (nowMs : Nat) (locked : Bool) (report : NvsStore.WriteReport)
  | tick (nowMs : Nat)
  | reboot (flash : NvsStore.Flash) (sink : Sink) (nowMs : Nat)

section
variable {Number Engine Sink : Type} (env : RuntimeEnv Number Engine Sink)
  (crc32 : UInt32 → Bytes → UInt32)

/-- The callbacks of `app_main`, whatever the mutex and the flash answer. -/
def wiredCallbacks (nowMs : Nat) (locked : Bool) (report : NvsStore.WriteReport) :
    ShellCallbacks (Backend Engine) where
  apply := some fun backend config _ =>
    if !locked then (false, backend)
    else
      let applied := backend.runtime.apply env config nowMs
      (decide (applied.1 = .none), { backend with runtime := applied.2 })
  save := some fun backend config nextGeneration =>
    let saved := backend.flash.save crc32 report config nextGeneration
    match saved.1 with
    | .ok () => (true, { backend with
        flash := saved.2, written := backend.written ++ [(config, nextGeneration)] })
    | .error _ => (false, { backend with flash := saved.2 })

/-- The tasks of the firmware, one call after the other. The answers are what the shell prints. -/
def boardMachine (device : DeviceId) : Machine (Board Engine Sink) (BoardInput Sink) Bytes where
  step board
    | .line text nowMs locked report =>
        let handled := board.device.shell.handle env.sha256
          (wiredCallbacks env crc32 nowMs locked report)
          { runtime := board.device.runtime, flash := board.device.flash } text
        ({ board with device := handled.device }, [handled.response])
    | .tick nowMs =>
        let ticked := board.device.runtime.tick env board.sink nowMs
        ({ device := { board.device with runtime := ticked.2.1 }, sink := ticked.2.2.1 }, [])
    | .reboot flash sink nowMs => ({ device := boot env crc32 device flash nowMs, sink }, [])

end

/-- What the shell holds as applied is what the runtime runs. -/
def Device.Agrees {Engine : Type} (device : Device Engine) : Prop :=
  device.shell.applied = device.runtime.fleet.map Fleet.config

theorem Device.Agrees.running {Engine : Type} {device : Device Engine} (agrees : device.Agrees) :
    (device.shell.applied.isSome ↔ device.runtime.running = true) ∧
      ∀ config, device.shell.applied = some config → device.runtime.config = config := by
  unfold Device.Agrees at agrees
  unfold Runtime.running Runtime.config
  rw [agrees]
  cases device.runtime.fleet with
  | none => exact ⟨Iff.rfl, nofun⟩
  | some fleet => exact ⟨Iff.rfl, fun config same => Option.some.inj same⟩

section
variable {Number Engine Sink : Type} {env : RuntimeEnv Number Engine Sink}
  {crc32 : UInt32 → Bytes → UInt32}

theorem boot_agrees (device : DeviceId) (flash : NvsStore.Flash) (nowMs : Nat) :
    (boot env crc32 device flash nowMs).Agrees := by
  unfold boot Device.Agrees
  cases flash.load crc32 with
  | error error => rfl
  | ok loaded =>
    have outcome := @apply_outcome _ _ _ env { device } loaded.config nowMs
    dsimp only
    rcases outcome with ⟨failed, same⟩ | ⟨taken, runs⟩
    · rw [if_neg failed, same]
      rfl
    · rw [if_pos taken, runs]

variable {device : Device Engine}

theorem apply_agrees (agrees : device.Agrees) (nowMs : Nat) (locked : Bool)
    (report : NvsStore.WriteReport) :
    (Handled.device (Shell.handleApply env.sha256 (wiredCallbacks env crc32 nowMs locked report)
      { runtime := device.runtime, flash := device.flash } device.shell)).Agrees := by
  unfold Shell.handleApply
  split
  · exact agrees
  · dsimp only [Shell.call, wiredCallbacks]
    cases locked with
    | false => exact agrees
    | true =>
      have outcome := @apply_outcome _ _ _ env device.runtime device.shell.staged nowMs
      simp only [Bool.not_true, Bool.false_eq_true, if_false]
      rcases outcome with ⟨failed, same⟩ | ⟨taken, runs⟩
      · rw [decide_eq_false failed, same]
        exact agrees
      · rw [decide_eq_true taken]
        exact runs.symm

theorem save_agrees (agrees : device.Agrees) (nowMs : Nat) (locked : Bool)
    (report : NvsStore.WriteReport) :
    (Handled.device (Shell.handleSave (wiredCallbacks env crc32 nowMs locked report)
      { runtime := device.runtime, flash := device.flash } device.shell)).Agrees := by
  unfold Shell.handleSave
  split
  · exact agrees
  · dsimp only [Shell.call, wiredCallbacks]
    split
    · exact agrees
    · exact agrees

/-- Every line keeps the agreement, whatever it is answered. -/
theorem line_agrees (agrees : device.Agrees) (nowMs : Nat) (locked : Bool)
    (report : NvsStore.WriteReport) (text : Bytes) :
    (Handled.device (device.shell.handle env.sha256 (wiredCallbacks env crc32 nowMs locked report)
      { runtime := device.runtime, flash := device.flash } text)).Agrees := by
  by_cases isApply : Shell.words text = Shell.applyCommand
  · rw [Shell.handle_apply isApply]
    exact apply_agrees agrees nowMs locked report
  · by_cases isSave : Shell.words text = Shell.saveCommand
    · rw [Shell.handle_save isSave]
      exact save_agrees agrees nowMs locked report
    · have edits := @Shell.handle_edits _ env.sha256 (wiredCallbacks env crc32 nowMs locked report)
        { runtime := device.runtime, flash := device.flash } device.shell text isApply isSave
      unfold Handled.device Device.Agrees
      rw [edits.applied, edits.world]
      exact agrees

theorem step_agrees {board : Board Engine Sink} (agrees : board.device.Agrees) (id : DeviceId)
    (input : BoardInput Sink) :
    ((boardMachine env crc32 id).step board input).1.device.Agrees := by
  cases input with
  | line text nowMs locked report => exact line_agrees agrees nowMs locked report text
  | tick nowMs =>
    have kept := @tick_config _ _ _ env board.device.runtime board.sink nowMs
    exact agrees.trans kept.symm
  | reboot flash sink nowMs => exact boot_agrees id flash nowMs

end

/-- A line is a transaction on the shell, for every shell, line and behaviour of the callbacks. Hence in
every run wired as in `app_main` the shell has an applied configuration exactly while the runtime
runs, and it is the one the runtime runs. -/
theorem shell_transactions :
    (∀ (World : Type) (sha256 : Sha256) (callbacks : ShellCallbacks World) (world : World)
      (shell : Shell) (line : Bytes),
      Shell.Transaction callbacks world shell line (shell.handle sha256 callbacks world line)) ∧
    ∀ (Number Engine Sink : Type) (env : RuntimeEnv Number Engine Sink)
      (crc32 : UInt32 → Bytes → UInt32) (id : DeviceId) (flash : NvsStore.Flash) (sink : Sink)
      (bootMs : Nat) (inputs : List (BoardInput Sink)),
      let ran := ((boardMachine env crc32 id).run { device := boot env crc32 id flash bootMs, sink }
        inputs).1.device
      (ran.shell.applied.isSome ↔ ran.runtime.running = true) ∧
        ∀ config, ran.shell.applied = some config → ran.runtime.config = config := by
  constructor
  · intro World sha256 callbacks world shell line
    exact Shell.handle_transaction sha256 callbacks world shell line
  · intro Number Engine Sink env crc32 id flash sink bootMs inputs
    apply Device.Agrees.running
    apply (boardMachine env crc32 id).run_invariant (fun board _ => board.device.Agrees)
    · intro board log input agrees
      exact step_agrees agrees id input
    · exact boot_agrees id flash bootMs

end RidFirmware
