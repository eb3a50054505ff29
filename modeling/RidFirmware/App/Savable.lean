import RidFirmware.App.Restore
import RidFirmware.NvsStore.Capacity
import RidFirmware.Shell.Transactions

/-! Whether what was applied can be saved. `validate` decides at the apply, `encode_config` and the
stored generation decide at the save; they agree except on the length of the names, and except for a
configuration which a reboot has replaced by the stored one. -/

namespace RidFirmware
open Lib NvsStore

/-- The answer to a `config apply` was OK. -/
def DeviceEvent.okApply : DeviceEvent → Bool
  | .answered line response _ => decide (Shell.words line = Shell.applyCommand ∧ Shell.Ok response)
  | .rebooted => false

def DeviceEvent.restarts : DeviceEvent → Bool
  | .answered _ _ _ => false
  | .rebooted => true

/-- The applies answered OK since the last event of a kind. -/
def appliesSince (stops : DeviceEvent → Bool) (events : List DeviceEvent) : Nat :=
  events.foldl (fun count event =>
    if stops event then 0 else if event.okApply then count + 1 else count) 0

/-- The applies since the last save. -/
def unsavedApplies (events : List DeviceEvent) : Nat :=
  appliesSince (fun event => event.okSave.isSome) events

/-- The applies since the last save, or the reboot after it. -/
def sessionApplies (events : List DeviceEvent) : Nat :=
  appliesSince (fun event => event.okSave.isSome || event.restarts) events

theorem appliesSince_snoc (stops : DeviceEvent → Bool) (events : List DeviceEvent)
    (event : DeviceEvent) :
    appliesSince stops (events ++ [event]) =
      if stops event then 0
      else if event.okApply then appliesSince stops events + 1 else appliesSince stops events := by
  unfold appliesSince
  rw [List.foldl_append, List.foldl_cons, List.foldl_nil]

theorem okSave_taken {line response : Bytes} {entry : SystemConfig × UInt32}
    (isSave : Shell.words line = Shell.saveCommand) (ok : Shell.Ok response) :
    (DeviceEvent.answered line response [entry]).okSave = some entry := if_pos ⟨isSave, ok⟩

theorem okSave_refused {response : Bytes} (refused : ¬Shell.Ok response) (line : Bytes)
    (written : List (SystemConfig × UInt32)) :
    (DeviceEvent.answered line response written).okSave = none := if_neg fun both => refused both.2

theorem okApply_other {line : Bytes} (other : Shell.words line ≠ Shell.applyCommand)
    (response : Bytes) (written : List (SystemConfig × UInt32)) :
    (DeviceEvent.answered line response written).okApply = false :=
  decide_eq_false fun both => other both.1

theorem sessionApplies_le (events : List DeviceEvent) :
    sessionApplies events ≤ unsavedApplies events := by
  unfold sessionApplies unsavedApplies
  induction events using List.reverseRecOn with
  | nil => exact le_refl _
  | append_singleton events event ih =>
    rw [appliesSince_snoc, appliesSince_snoc]
    cases event.okSave.isSome <;> cases event.restarts <;> cases event.okApply <;> simp [ih]

section
variable {Number Engine Sink : Type} (env : RuntimeEnv Number Engine Sink)
  (crc32 : UInt32 → Bytes → UInt32) (device : DeviceId)

/-- What every line and every reboot preserve: the configurations the shell deals with are plain, the
slots can be read, and the generation has gone up by one with every apply. -/
structure Savable (state : Device Engine) (saved : Option (SystemConfig × UInt32)) (applies : Nat) :
    Prop where
  consistent : Consistent env crc32 device state saved
  clean : NvsStore.Clean crc32 state.flash
  staged : Plain state.shell.staged
  applied : ∀ config, state.shell.applied = some config → Plain config
  stored : ∀ entry, saved = some entry → Plain entry.1
  generation : ∀ entry, saved = some entry →
    state.shell.generation = entry.2 + UInt32.ofNat applies
  present : state.shell.applied.isSome ↔ saved.isSome ∨ 0 < applies

variable {env crc32 device}

theorem boot_savable {flash : Flash} {saved : Option (SystemConfig × UInt32)}
    (held : Holds env crc32 device flash saved) (clean : NvsStore.Clean crc32 flash)
    (stored : ∀ entry, saved = some entry → Plain entry.1) (nowMs : Nat) :
    Savable env crc32 device (boot env crc32 device flash nowMs) saved 0 := by
  obtain ⟨restored, consistent⟩ := boot_restored held nowMs
  have kept : (boot env crc32 device flash nowMs).flash = flash := by
    unfold boot
    split <;> rfl
  cases saved with
  | none =>
    have empty : flash = fun _ => none := held
    subst empty
    obtain ⟨_, nothing⟩ := restored
    constructor
    · exact consistent
    · exact clean
    · intro group member
      cases member
    · intro config applied
      rw [nothing] at applied
      cases applied
    · exact stored
    · exact nofun
    · rw [nothing]
      decide
  | some entry =>
    obtain ⟨config, generation⟩ := entry
    obtain ⟨_, _, staged, applied, serial⟩ := restored
    have plain := stored _ rfl
    constructor
    · exact consistent
    · rw [kept]
      exact clean
    · rw [staged]
      exact plain
    · intro other found
      rw [applied] at found
      cases found
      exact plain
    · exact stored
    · intro entry same
      cases same
      rw [serial]
      exact (UInt32.add_zero _).symm
    · rw [applied]
      simp

variable {state : Device Engine} {saved : Option (SystemConfig × UInt32)} {applies : Nat}

theorem Savable.of_shell {next : Device Engine} (savable : Savable env crc32 device state saved applies)
    (consistent : Consistent env crc32 device next saved) (clean : NvsStore.Clean crc32 next.flash)
    (same : next.shell = state.shell) : Savable env crc32 device next saved applies := by
  constructor
  · exact consistent
  · exact clean
  · rw [same]
    exact savable.staged
  · rw [same]
    exact savable.applied
  · exact savable.stored
  · rw [same]
    exact savable.generation
  · rw [same]
    exact savable.present

theorem plain_fromShell {shell : Shell} {staged : SystemConfig} (origin : Shell.FromShell shell staged)
    (plain : Plain shell.staged) (applied : ∀ config, shell.applied = some config → Plain config) :
    Plain staged := by
  intro group member
  rcases origin group member with old | ⟨config, found, inside⟩ | hovers
  · exact plain group old
  · exact applied config found group inside
  · rw [hovers]

theorem savable_edits (savable : Savable env crc32 device state saved applies) {line : Bytes}
    (notApply : Shell.words line ≠ Shell.applyCommand) (notSave : Shell.words line ≠ Shell.saveCommand)
    (callbacks : ShellCallbacks (Backend Engine)) :
    Savable env crc32 device (state.shell.handle env.sha256 callbacks
      { runtime := state.runtime, flash := state.flash } line).device saved applies := by
  have edits := @Shell.handle_edits _ env.sha256 callbacks
    { runtime := state.runtime, flash := state.flash } state.shell line notApply notSave
  have stages := @Shell.handle_stages _ env.sha256 callbacks
    { runtime := state.runtime, flash := state.flash } state.shell line notApply
  have consistent := consistent_edits savable.consistent edits
  generalize state.shell.handle env.sha256 callbacks _ line = handled at *
  constructor
  · exact consistent
  · show NvsStore.Clean crc32 handled.world.flash
    rw [edits.world]
    exact savable.clean
  · rcases stages with ⟨_, same⟩ | ⟨_, staged, ⟨_, origin⟩, same⟩
    · show Plain handled.shell.staged
      rw [same]
      exact savable.staged
    · show Plain handled.shell.staged
      rw [same]
      exact plain_fromShell origin savable.staged savable.applied
  · intro config found
    exact savable.applied config (edits.applied.symm.trans found)
  · exact savable.stored
  · intro entry same
    exact edits.generation.trans (savable.generation entry same)
  · show handled.shell.applied.isSome ↔ _
    rw [edits.applied]
    exact savable.present

theorem handleApply_flash (nowMs : Nat) :
    (Shell.handleApply env.sha256 (appCallbacks env crc32 nowMs)
      { runtime := state.runtime, flash := state.flash } state.shell).world.flash = state.flash := by
  unfold Shell.handleApply
  split
  · rfl
  · dsimp only [Shell.call, appCallbacks]
    split_ifs <;> rfl

theorem savable_apply (savable : Savable env crc32 device state saved applies) (nowMs : Nat) :
    let handled := Shell.handleApply env.sha256 (appCallbacks env crc32 nowMs)
      { runtime := state.runtime, flash := state.flash } state.shell
    Savable env crc32 device handled.device saved
      (if Shell.Ok handled.response then applies + 1 else applies) := by
  dsimp only
  have consistent := consistent_apply savable.consistent nowMs
  have flash := @handleApply_flash _ _ _ env crc32 state nowMs
  have outcome := Shell.handleApply_outcome env.sha256 (appCallbacks env crc32 nowMs)
    { runtime := state.runtime, flash := state.flash } state.shell
  dsimp only at consistent outcome
  generalize Shell.handleApply env.sha256 _ _ _ = handled at *
  have clean : NvsStore.Clean crc32 handled.device.flash := by
    show NvsStore.Clean crc32 handled.world.flash
    rw [flash]
    exact savable.clean
  rcases outcome with ⟨err, same⟩ | ⟨ok, applied⟩
  · rw [if_neg fun ok => Shell.ok_not_err ok err]
    exact savable.of_shell consistent clean same
  · rw [if_pos ok]
    have shell : handled.device.shell = { state.shell with
      applied := some state.shell.staged, generation := state.shell.generation + 1 } := applied.shell
    constructor
    · exact consistent
    · exact clean
    · rw [shell]
      exact savable.staged
    · rw [shell]
      intro config found
      cases found
      exact savable.staged
    · exact savable.stored
    · rw [shell]
      intro entry same
      show state.shell.generation + 1 = _
      rw [savable.generation entry same, UInt32.ofNat_add, UInt32.add_assoc]
      rfl
    · rw [shell]
      simp

theorem handleSave_shell (callbacks : ShellCallbacks (Backend Engine)) (world : Backend Engine)
    (shell : Shell) : (Shell.handleSave callbacks world shell).shell = shell := by
  unfold Shell.handleSave
  split
  · rfl
  · dsimp only
    split_ifs <;> rfl

theorem handleSave_flash (nowMs : Nat) :
    let handled := Shell.handleSave (appCallbacks env crc32 nowMs)
      { runtime := state.runtime, flash := state.flash } state.shell
    handled.world.flash = state.flash ∨ ∃ config,
      handled.world.flash = (state.flash.save crc32 .performed config state.shell.generation).2 := by
  dsimp only
  unfold Shell.handleSave
  split
  · exact .inl rfl
  · rename_i config _
    dsimp only [Shell.call, appCallbacks]
    right
    use config
    split <;> split_ifs <;> rfl

theorem savable_save (savable : Savable env crc32 device state saved applies) (nowMs : Nat) :
    let handled := Shell.handleSave (appCallbacks env crc32 nowMs)
      { runtime := state.runtime, flash := state.flash } state.shell
    (¬Shell.Ok handled.response ∧ Savable env crc32 device handled.device saved applies) ∨
      Shell.Ok handled.response ∧ ∃ entry, handled.world.written = [entry] ∧
        Savable env crc32 device handled.device (some entry) 0 := by
  dsimp only
  have consistent := consistent_save savable.consistent nowMs
  have shell := handleSave_shell (appCallbacks env crc32 nowMs)
    { runtime := state.runtime, flash := state.flash } state.shell
  have flash := @handleSave_flash _ _ _ env crc32 state nowMs
  dsimp only at consistent flash
  generalize Shell.handleSave _ _ _ = handled at *
  have clean : NvsStore.Clean crc32 handled.device.flash := by
    show NvsStore.Clean crc32 handled.world.flash
    rcases flash with same | ⟨config, same⟩
    · rw [same]
      exact savable.clean
    · rw [same]
      exact savable.clean.save config state.shell.generation
  have same : handled.device.shell = state.shell := shell
  rcases consistent with ⟨_, refused, kept⟩ | ⟨config, applied, written, response, kept⟩
  · exact .inl ⟨refused, savable.of_shell kept clean same⟩
  · right
    have ok : Shell.Ok handled.response := by
      rw [response]
      unfold Shell.savedResponse
      rw [List.append_assoc]
      exact Shell.ok_append (by decide : Shell.Ok (ascii "OK saved generation=")) _
    refine ⟨ok, (config, state.shell.generation), written, kept, clean, ?_, ?_, ?_, ?_, ?_⟩
    · rw [same]
      exact savable.staged
    · rw [same]
      exact savable.applied
    · intro entry found
      cases found
      exact savable.applied config applied
    · intro entry found
      cases found
      rw [same]
      exact (UInt32.add_zero _).symm
    · rw [same, applied]
      simp

theorem handleSave_ok_iff (nowMs : Nat) :
    Shell.Ok (Shell.handleSave (appCallbacks env crc32 nowMs)
        { runtime := state.runtime, flash := state.flash } state.shell).response ↔
      ∃ config, state.shell.applied = some config ∧
        (state.flash.save crc32 .performed config state.shell.generation).1 = .ok () := by
  unfold Shell.handleSave
  cases applied : state.shell.applied with
  | none =>
    have refused : ¬Shell.Ok (Shell.error "NO_APPLIED_CONFIG") := by decide
    constructor
    · exact fun ok => absurd ok refused
    · exact nofun
  | some config =>
    dsimp only [Shell.call, appCallbacks]
    cases result : (state.flash.save crc32 .performed config state.shell.generation).1 with
    | error error =>
      have refused : ¬Shell.Ok (Shell.error "OPERATION_FAILED") := by decide
      constructor
      · exact fun ok => absurd ok refused
      · intro saved
        obtain ⟨other, same, done⟩ := saved
        cases same
        rw [result] at done
        cases done
    | ok _ =>
      constructor
      · exact fun _ => ⟨config, rfl, result⟩
      · intro _
        show Shell.Ok (Shell.savedResponse _)
        unfold Shell.savedResponse
        rw [List.append_assoc]
        exact Shell.ok_append (by decide : Shell.Ok (ascii "OK saved generation=")) _

theorem after_applies {serial : UInt32} {applies : Nat} (few : applies < 2 ^ 31) :
    After (serial + UInt32.ofNat applies) serial ↔ 0 < applies := by
  unfold After
  have distance : (serial + UInt32.ofNat applies - serial).toNat = applies := by
    rw [sub_toNat, UInt32.toNat_add, UInt32.toNat_ofNat']
    have small := serial.toNat_lt
    omega
  rw [distance]
  omega

/-- The store takes an applied configuration whose names are short, once it has been applied again since
the last save and reboot. -/
theorem save_ok_iff (savable : Savable env crc32 device state saved applies) (few : applies < 2 ^ 31)
    {config : SystemConfig} (applied : state.shell.applied = some config) :
    (state.flash.save crc32 .performed config state.shell.generation).1 = .ok () ↔
      0 < applies ∧ ShortNames config := by
  obtain ⟨aircraft, expanded⟩ := savable.consistent.applied config applied
  have encodable := encodeConfig_plain_iff (accepted_of_expand expanded)
    (savable.applied config applied)
  rw [save_performed_iff]
  by_cases short : ShortNames config
  · have encoded := encodable.mpr short
    simp only [short, and_true]
    cases saved with
    | none =>
      have empty : state.flash = fun _ => none := savable.consistent.stored
      have fresh : 0 < applies := by simpa [applied] using savable.present
      rw [empty, planSave_empty encoded]
      simp only [fresh, iff_true]
      exact ⟨_, rfl⟩
    | some entry =>
      obtain ⟨⟨slot, current⟩, _⟩ := savable.consistent.stored
      rw [planSave_later_iff savable.clean current encoded, savable.generation entry rfl,
        after_applies few]
  · simp only [short, and_false, iff_false, not_exists]
    apply planSave_unencodable
    intro payload encoded
    obtain ⟨_, _, written, _⟩ := encodeConfig_ok encoded
    exact short (encodable.mp (written ▸ encoded))

/-- One step. -/
theorem step_savable {events : List DeviceEvent}
    (savable : Savable env crc32 device state (lastSave events) (sessionApplies events))
    (input : DeviceInput) :
    let stepped := (deviceMachine env crc32 device).step state input
    Savable env crc32 device stepped.1 (lastSave (events ++ stepped.2))
      (sessionApplies (events ++ stepped.2)) := by
  cases input with
  | reboot nowMs =>
    show Savable env crc32 device (boot env crc32 device state.flash nowMs)
      (lastSave (events ++ [.rebooted])) (sessionApplies (events ++ [.rebooted]))
    rw [lastSave_snoc, sessionApplies, appliesSince_snoc]
    exact boot_savable savable.consistent.stored savable.clean savable.stored nowMs
  | line text nowMs =>
    dsimp only [deviceMachine]
    rw [lastSave_snoc, sessionApplies, appliesSince_snoc]
    by_cases isSave : Shell.words text = Shell.saveCommand
    · have notApply : Shell.words text ≠ Shell.applyCommand := by
        rw [isSave]
        decide
      rw [Shell.handle_save isSave, okApply_other notApply]
      rcases savable_save savable nowMs with ⟨refused, kept⟩ | ⟨ok, entry, written, kept⟩
      · rw [okSave_refused refused]
        exact kept
      · rw [written, okSave_taken isSave ok]
        exact kept
    · rw [okSave_other isSave]
      by_cases isApply : Shell.words text = Shell.applyCommand
      · rw [Shell.handle_apply isApply]
        have kept := savable_apply savable nowMs
        simp only [DeviceEvent.okApply, isApply, true_and, decide_eq_true_eq]
        exact kept
      · rw [okApply_other isApply]
        exact savable_edits savable isApply isSave (appCallbacks env crc32 nowMs)

theorem run_savable (bootMs : Nat) (inputs : List DeviceInput) :
    let ran := (deviceMachine env crc32 device).run (boot env crc32 device (fun _ => none) bootMs) inputs
    Savable env crc32 device ran.1 (lastSave ran.2) (sessionApplies ran.2) := by
  apply (deviceMachine env crc32 device).run_invariant (fun state events =>
    Savable env crc32 device state (lastSave events) (sessionApplies events))
  · intro state events input savable
    exact step_savable savable input
  · have empty : Holds env crc32 device (fun _ => none) none := rfl
    exact boot_savable empty clean_empty nofun bootMs

def Device.answer (env : RuntimeEnv Number Engine Sink) (crc32 : UInt32 → Bytes → UInt32)
    (state : Device Engine) (line : Bytes) (nowMs : Nat) : Bytes :=
  (state.shell.handle env.sha256 (appCallbacks env crc32 nowMs)
    { runtime := state.runtime, flash := state.flash } line).response

end

/-- In every run of lines and reboots from an empty flash, with an apply answered OK since the last save
and fewer than 2^31 of them: the next save is answered OK exactly when there was such an apply since the
last reboot, too, and the names of the applied groups have at most 64 bytes. What is staged and passes
`validate` is taken by `encode_config` exactly when its names have at most 64 bytes. -/
theorem apply_then_save {Number Engine Sink : Type} (env : RuntimeEnv Number Engine Sink)
    (crc32 : UInt32 → Bytes → UInt32) (device : DeviceId) (bootMs nowMs : Nat)
    (inputs : List DeviceInput) (line : Bytes) (isSave : Shell.words line = Shell.saveCommand) :
    let start : Device Engine := boot env crc32 device (fun _ => none) bootMs
    let ran := (deviceMachine env crc32 device).run start inputs
    (0 < unsavedApplies ran.2 → unsavedApplies ran.2 < 2 ^ 31 →
      (Shell.Ok (ran.1.answer env crc32 line nowMs) ↔
        0 < sessionApplies ran.2 ∧
          ∀ config, ran.1.shell.applied = some config → ShortNames config)) ∧
    (validate ran.1.shell.staged = .ok () →
      ((∃ payload, encodeConfig ran.1.shell.staged = .ok payload) ↔
        ShortNames ran.1.shell.staged)) := by
  dsimp only
  have savable := @run_savable _ _ _ env crc32 device bootMs inputs
  dsimp only at savable
  generalize (deviceMachine env crc32 device).run _ inputs = ran at *
  constructor
  · intro _ few
    have within : sessionApplies ran.2 < 2 ^ 31 := (sessionApplies_le ran.2).trans_lt few
    unfold Device.answer
    rw [Shell.handle_save isSave, handleSave_ok_iff]
    constructor
    · intro saved
      obtain ⟨config, applied, done⟩ := saved
      obtain ⟨fresh, short⟩ := (save_ok_iff savable within applied).mp done
      refine ⟨fresh, fun other found => ?_⟩
      rw [applied] at found
      cases found
      exact short
    · intro condition
      obtain ⟨fresh, short⟩ := condition
      obtain ⟨config, applied⟩ := Option.isSome_iff_exists.mp (savable.present.mpr (.inr fresh))
      exact ⟨config, applied, (save_ok_iff savable within applied).mpr ⟨fresh, short config applied⟩⟩
  · intro valid
    have encodable := encodeConfig_plain_iff ((validate_ok_iff _).mp valid) savable.staged
    rw [← encodable]
    constructor
    · intro encoded
      obtain ⟨payload, encoded⟩ := encoded
      rw [encoded]
      obtain ⟨_, _, written, _⟩ := encodeConfig_ok encoded
      rw [written]
    · intro encoded
      exact ⟨_, encoded⟩

/-- A fleet of one aircraft in a group of the given name. -/
def applyNamed (name : Bytes) : List DeviceInput :=
  [.line (ascii "site set latitude 0 longitude 0") 0,
    .line (ascii "group add " ++ name ++ ascii " 1 odid ble4") 0, .line (ascii "config apply") 0]

/-- A hash that gives every aircraft the same identity. -/
def sameHashEnv : RuntimeEnv Unit Unit Unit :=
  { refusingEnv with sha256 := fun _ => some (Vector.replicate 32 0) }

set_option maxRecDepth 100000 in
theorem apply_then_save_named :
    let ran := (deviceMachine sameHashEnv crc32Le (Vector.replicate 6 0)).run
      (boot sameHashEnv crc32Le (Vector.replicate 6 0) (fun _ => none) 0) (applyNamed (ascii "A"))
    Shell.Ok (ran.1.answer sameHashEnv crc32Le (ascii "config save") 0) := by
  have saves := (apply_then_save sameHashEnv crc32Le (Vector.replicate 6 0) 0 0 (applyNamed (ascii "A"))
    (ascii "config save") (by decide)).1
  apply (saves (by decide +kernel) (by decide +kernel)).mpr
  refine ⟨by decide +kernel, ?_⟩
  intro config applied
  have short : ((deviceMachine sameHashEnv crc32Le (Vector.replicate 6 0)).run
      (boot sameHashEnv crc32Le (Vector.replicate 6 0) (fun _ => none) 0)
      (applyNamed (ascii "A"))).1.shell.applied.all (fun config => ShortNames config) = true := by
    decide +kernel
  rw [applied] at short
  exact of_decide_eq_true short

set_option maxRecDepth 100000 in
/-- A name of 65 bytes is applied and cannot be saved. -/
theorem long_name_not_saved :
    let ran := (deviceMachine sameHashEnv crc32Le (Vector.replicate 6 0)).run
      (boot sameHashEnv crc32Le (Vector.replicate 6 0) (fun _ => none) 0)
      (applyNamed (List.replicate 65 65))
    unsavedApplies ran.2 = 1 ∧ validate ran.1.shell.staged = .ok () ∧
      encodeConfig ran.1.shell.staged = .error .payloadTooLarge ∧
      ran.1.answer sameHashEnv crc32Le (ascii "config save") 0 = Shell.error "OPERATION_FAILED" := by
  decide +kernel

end RidFirmware
