import RidFirmware.Shell.Commands

/-! A line either does what it was asked for and is answered OK, or it leaves the shell as it was. -/

namespace RidFirmware
open Lib

namespace Shell

def Ok (response : Bytes) : Prop := ascii "OK" <+: response

def Err (response : Bytes) : Prop := ascii "ERR" <+: response

instance (response : Bytes) : Decidable (Ok response) := inferInstanceAs (Decidable (_ <+: _))

instance (response : Bytes) : Decidable (Err response) := inferInstanceAs (Decidable (_ <+: _))

def rollbackCommand : List Bytes := [ascii "config", ascii "rollback"]

/-- The words of the commands which stage a configuration. -/
inductive StagingCommand : List Bytes → Prop
  | siteSet (latitude longitude : Bytes) : StagingCommand
      [ascii "site", ascii "set", ascii "latitude", latitude, ascii "longitude", longitude]
  | group (lead : List Bytes) (leads : lead = [ascii "group"] ∨ lead = [ascii "config", ascii "group"])
      (action : Bytes)
      (edits : action = ascii "add" ∨ action = ascii "clear" ∨ action = ascii "delete")
      (arguments : List Bytes) : StagingCommand (lead ++ action :: arguments)
  | rollback : StagingCommand rollbackCommand

/-- Where the groups of a newly staged configuration come from: they were staged or applied before, or
have just been added and hover. -/
def FromShell (shell : Shell) (staged : SystemConfig) : Prop :=
  ∀ group ∈ staged.groups, group ∈ shell.staged.groups ∨
    (∃ applied, shell.applied = some applied ∧ group ∈ applied.groups) ∨ group.trajectory = {}

/-- What a command with these words may stage. -/
def Stageable (shell : Shell) (command : List Bytes) (staged : SystemConfig) : Prop :=
  StagingCommand command ∧ FromShell shell staged

theorem fromShell_subset {shell : Shell} {staged : SystemConfig}
    (subset : staged.groups ⊆ shell.staged.groups) : FromShell shell staged :=
  fun _ member => .inl (subset member)

theorem fromShell_add {shell : Shell} {staged : SystemConfig} {added : GroupConfig}
    (hovers : added.trajectory = {}) (groups : staged.groups = shell.staged.groups ++ [added]) :
    FromShell shell staged := by
  intro group member
  rw [groups] at member
  rcases List.mem_append.mp member with old | new
  · exact .inl old
  · rw [List.mem_singleton.mp new]
    exact .inr (.inr hovers)

theorem fromShell_applied {shell : Shell} {staged : SystemConfig}
    (applied : shell.applied = some staged) : FromShell shell staged :=
  fun _ member => .inr (.inl ⟨staged, applied, member⟩)

theorem ok_not_err {response : Bytes} (ok : Ok response) : ¬Err response := by
  intro err
  obtain ⟨first, rfl⟩ := ok
  obtain ⟨second, same⟩ := err
  have heads : (ascii "ERR" ++ second).head? = (ascii "OK" ++ first).head? := congrArg List.head? same
  exact absurd heads (by simp [ascii])

theorem ok_append {lead : Bytes} (starts : Ok lead) (rest : Bytes) : Ok (lead ++ rest) :=
  starts.trans (List.prefix_append lead rest)

theorem err_error (code : String) : Err (error code) := by
  unfold Err error
  rw [List.append_assoc]
  exact (by decide : ascii "ERR" <+: ascii "ERR ").trans (List.prefix_append _ _)

section
variable {World : Type} {sha256 : Sha256} {callbacks : ShellCallbacks World} {world : World}
  {shell : Shell}

/-- What a line other than an apply can do: leave the shell, or stage a configuration. -/
def Stages (shell : Shell) (permitted : SystemConfig → Prop) (handled : Handled World) : Prop :=
  (Ok handled.response ∨ Err handled.response) ∧ handled.shell = shell ∨
    Ok handled.response ∧ ∃ staged, permitted staged ∧ handled.shell = { shell with staged }

theorem stages_ok {permitted : SystemConfig → Prop} {response : Bytes} (ok : Ok response) :
    Stages shell permitted (shell.answer world response) := .inl ⟨.inl ok, rfl⟩

theorem stages_error {permitted : SystemConfig → Prop} (code : String) :
    Stages shell permitted (shell.answer world (error code)) := .inl ⟨.inr (err_error code), rfl⟩

theorem stages_stage {permitted : SystemConfig → Prop} {response : Bytes} (ok : Ok response)
    {staged : SystemConfig} (allowed : permitted staged) :
    Stages shell permitted (shell.stage world staged response) := .inr ⟨ok, staged, allowed, rfl⟩

theorem Stages.mono {permitted wider : SystemConfig → Prop} {handled : Handled World}
    (stages : Stages shell permitted handled) (weaken : ∀ staged, permitted staged → wider staged) :
    Stages shell wider handled := by
  rcases stages with kept | ⟨ok, staged, allowed, same⟩
  · exact .inl kept
  · exact .inr ⟨ok, staged, weaken staged allowed, same⟩

theorem handleSite_stages (arguments : List Bytes) :
    Stages shell (Stageable shell (ascii "site" :: arguments)) (handleSite world shell arguments) := by
  unfold handleSite
  split
  · split_ifs with wrong
    · exact stages_error _
    · simp only [not_or, not_not] at wrong
      obtain ⟨rfl, rfl, rfl⟩ := wrong
      split
      · apply stages_stage
        · exact (by decide : Ok (ascii "OK site staged\n"))
        · exact ⟨.siteSet _ _, fromShell_subset (List.Subset.refl _)⟩
      · exact stages_error _
  · exact stages_error _

theorem handleGroupAdd_stages (arguments : List Bytes) :
    Stages shell (FromShell shell) (handleGroupAdd world shell arguments) := by
  unfold handleGroupAdd
  split
  · exact stages_error _
  · split
    · split_ifs
      · exact stages_error _
      · apply stages_stage _ (fromShell_add rfl rfl)
        rw [List.append_assoc]
        exact ok_append (by decide : Ok (ascii "OK group ")) _
    · exact stages_error _

theorem handleGroup_stages {lead : List Bytes}
    (leads : lead = [ascii "group"] ∨ lead = [ascii "config", ascii "group"]) (arguments : List Bytes) :
    Stages shell (Stageable shell (lead ++ arguments)) (handleGroup world shell arguments) := by
  cases arguments with
  | nil => exact stages_error _
  | cons action rest =>
    unfold handleGroup
    dsimp only
    split_ifs with list clear delete found other
    · apply stages_ok
      unfold groupList
      rw [List.append_assoc, List.append_assoc]
      exact ok_append (by decide : Ok (ascii "OK groups=")) _
    · apply stages_stage
      · exact (by decide : Ok (ascii "OK group_clear\n"))
      · exact ⟨.group lead leads action (.inr (.inl clear)) rest,
          fromShell_subset (List.nil_subset _)⟩
    · apply stages_stage
      · exact (by decide : Ok (ascii "OK group_delete\n"))
      · exact ⟨.group lead leads action (.inr (.inr delete.1)) rest,
          fromShell_subset List.eraseP_subset⟩
    · exact stages_error _
    · exact stages_error _
    · apply (handleGroupAdd_stages rest).mono
      intro staged origin
      exact ⟨.group lead leads action (.inl (not_not.mp other)) rest, origin⟩

theorem handleFleetList_stages (permitted : SystemConfig → Prop) :
    Stages shell permitted (handleFleetList sha256 world shell) := by
  unfold handleFleetList
  split
  · exact stages_error _
  · apply stages_ok
    rw [List.append_assoc, List.append_assoc]
    exact ok_append (by decide : Ok (ascii "OK fleet=")) _

theorem handleCheck_stages (permitted : SystemConfig → Prop) :
    Stages shell permitted (handleCheck sha256 world shell) := by
  unfold handleCheck
  split
  · exact stages_error _
  · apply stages_ok
    rw [List.append_assoc]
    exact ok_append (by decide : Ok (ascii "OK aircraft=")) _

theorem handleSave_stages (permitted : SystemConfig → Prop) :
    Stages shell permitted (handleSave callbacks world shell) := by
  unfold handleSave
  split
  · exact stages_error _
  · dsimp only
    split_ifs
    · exact stages_error _
    · apply stages_ok
      unfold savedResponse
      rw [List.append_assoc]
      exact ok_append (by decide : Ok (ascii "OK saved generation=")) _

theorem handleRollback_stages :
    Stages shell (fun staged => shell.applied = some staged) (handleRollback world shell) := by
  unfold handleRollback
  split
  · exact stages_error _
  · rename_i applied found
    apply stages_stage _ found
    rw [List.append_assoc]
    exact ok_append (by decide : Ok (ascii "OK rollback running=")) _

/-- An apply that is answered OK: the callback has taken the staged configuration under the next
generation. -/
structure Applies (callbacks : ShellCallbacks World) (world : World) (shell : Shell)
    (handled : Handled World) : Prop where
  taken : ∃ callback, callbacks.apply = some callback ∧
    callback world shell.staged (shell.generation + 1) = (true, handled.world)
  shell : handled.shell =
    { shell with applied := some shell.staged, generation := shell.generation + 1 }

theorem handleApply_outcome (sha256 : Sha256) (callbacks : ShellCallbacks World) (world : World)
    (shell : Shell) :
    let handled := handleApply sha256 callbacks world shell
    Err handled.response ∧ handled.shell = shell ∨
      Ok handled.response ∧ Applies callbacks world shell handled := by
  unfold handleApply
  split
  · exact .inl ⟨err_error _, rfl⟩
  · rename_i aircraft expanded
    dsimp only
    unfold call
    split
    · exact .inl ⟨err_error _, rfl⟩
    · rename_i callback present
      split_ifs with failed
      · exact .inl ⟨err_error _, rfl⟩
      · right
        constructor
        · simp only [List.append_assoc]
          exact ok_append (by decide : Ok (ascii "OK generation=")) _
        · constructor
          · refine ⟨callback, present, ?_⟩
            have answered : (callback world shell.staged (shell.generation + 1)).1 = true := by
              simpa using failed
            rw [← answered]
          · rfl

theorem handleConfig_stages {command : Bytes} (notApply : command ≠ ascii "apply") :
    Stages shell (fun staged => command = ascii "rollback" ∧ FromShell shell staged)
      (handleConfig sha256 callbacks world shell command) := by
  unfold handleConfig
  split_ifs with check save rollback
  · exact handleCheck_stages _
  · exact handleSave_stages _
  · apply handleRollback_stages.mono
    intro staged applied
    exact ⟨rollback, fromShell_applied applied⟩
  · exact stages_error _

theorem handle_stages {line : Bytes} (notApply : words line ≠ applyCommand) :
    Stages shell (Stageable shell (words line)) (handle sha256 callbacks world shell line) := by
  unfold handle
  cases text : words line with
  | nil => exact stages_ok (by decide : Ok (ascii "OK help site|group|config|fleet|status\n"))
  | cons first rest =>
    dsimp only
    split_ifs with help status site group configGroup fleet unknown
    · exact stages_ok (by decide : Ok (ascii "OK help site|group|config|fleet|status\n"))
    · apply stages_ok
      unfold Shell.status
      simp only [List.append_assoc]
      exact ok_append (by decide : Ok (ascii "OK status generation=")) _
    · rw [site]
      exact handleSite_stages rest
    · rw [group]
      exact handleGroup_stages (.inl rfl) rest
    · obtain ⟨rfl, grouped⟩ := configGroup
      obtain ⟨arguments, rfl⟩ := List.head?_eq_some_iff.mp grouped
      exact handleGroup_stages (.inr rfl) arguments
    · exact handleFleetList_stages _
    · exact stages_error _
    · rw [not_or, not_not, not_not] at unknown
      obtain ⟨rfl, single⟩ := unknown
      obtain ⟨command, rfl⟩ := List.length_eq_one_iff.mp single
      have other : command ≠ ascii "apply" := by
        intro isApply
        exact notApply (text.trans (by rw [isApply]; rfl))
      apply (handleConfig_stages other).mono
      intro staged permitted
      obtain ⟨rfl, origin⟩ := permitted
      exact ⟨.rollback, origin⟩

theorem handle_rollback {line : Bytes} (command : words line = rollbackCommand) :
    handle sha256 callbacks world shell line = handleRollback world shell := by
  unfold handle
  rw [command]
  rfl

theorem rollback_ok {line : Bytes} (command : words line = rollbackCommand)
    (ok : Ok (handle sha256 callbacks world shell line).response) :
    shell.applied = some (handle sha256 callbacks world shell line).shell.staged ∧
      (handle sha256 callbacks world shell line).shell.applied = shell.applied := by
  rw [handle_rollback command] at *
  unfold handleRollback at *
  split at ok
  · exact absurd (err_error _) (ok_not_err ok)
  · exact ⟨‹_›, rfl⟩

theorem apply_ok {line : Bytes} (command : words line = applyCommand)
    (ok : Ok (handle sha256 callbacks world shell line).response) :
    Applies callbacks world shell (handle sha256 callbacks world shell line) := by
  rw [handle_apply command] at *
  rcases handleApply_outcome sha256 callbacks world shell with ⟨err, _⟩ | ⟨_, applies⟩
  · exact absurd err (ok_not_err ok)
  · exact applies

theorem handle_outcome (sha256 : Sha256) (callbacks : ShellCallbacks World) (world : World)
    (shell : Shell) (line : Bytes) :
    let handled := handle sha256 callbacks world shell line
    (Ok handled.response ∨ Err handled.response) ∧ handled.shell = shell ∨
      (Ok handled.response ∧
        ∃ staged, Stageable shell (words line) staged ∧ handled.shell = { shell with staged }) ∨
      Ok handled.response ∧ words line = applyCommand ∧ handled.shell =
        { shell with applied := some shell.staged, generation := shell.generation + 1 } := by
  dsimp only
  by_cases isApply : words line = applyCommand
  · rw [handle_apply isApply]
    rcases handleApply_outcome sha256 callbacks world shell with ⟨err, same⟩ | ⟨ok, applies⟩
    · exact .inl ⟨.inr err, same⟩
    · exact .inr (.inr ⟨ok, isApply, applies.shell⟩)
  · rcases @handle_stages World sha256 callbacks world shell line isApply with
      kept | ⟨ok, staged, command, same⟩
    · exact .inl kept
    · exact .inr (.inl ⟨ok, staged, command, same⟩)

end

/-- What a line does to the shell, and what its answer says about it. -/
structure Transaction {World : Type} (callbacks : ShellCallbacks World) (world : World)
    (shell : Shell) (line : Bytes) (handled : Handled World) : Prop where
  answered : Ok handled.response ∨ Err handled.response
  refused : Err handled.response → handled.shell = shell
  staging : handled.shell.staged ≠ shell.staged →
    Ok handled.response ∧ StagingCommand (words line)
  rollback : words line = rollbackCommand → Ok handled.response →
    shell.applied = some handled.shell.staged ∧ handled.shell.applied = shell.applied
  applying : handled.shell.applied ≠ shell.applied ∨ handled.shell.generation ≠ shell.generation →
    Ok handled.response ∧ words line = applyCommand
  apply : words line = applyCommand → Ok handled.response →
    Applies callbacks world shell handled

/-- For every shell, line and behaviour of the callbacks: a line is answered OK or ERR, and ERR means
that the shell is as it was. The staged configuration changes only on an OK answer to a command that
stages, what is applied and its generation only on an OK answer to `config apply`. -/
theorem handle_transaction {World : Type} (sha256 : Sha256) (callbacks : ShellCallbacks World)
    (world : World) (shell : Shell) (line : Bytes) :
    Transaction callbacks world shell line (handle sha256 callbacks world shell line) := by
  have outcome := handle_outcome sha256 callbacks world shell line
  have rollback := @rollback_ok World sha256 callbacks world shell line
  have apply := @apply_ok World sha256 callbacks world shell line
  dsimp only at outcome
  rcases outcome with ⟨answered, same⟩ | ⟨ok, staged, ⟨command, _⟩, same⟩ | ⟨ok, command, same⟩
  · refine ⟨answered, fun _ => same, fun changed => ?_, rollback, fun changed => ?_, apply⟩
    · exact absurd (congrArg Shell.staged same) changed
    · rcases changed with applied | generation
      · exact absurd (congrArg Shell.applied same) applied
      · exact absurd (congrArg Shell.generation same) generation
  · refine ⟨.inl ok, fun err => absurd err (ok_not_err ok), fun _ => ⟨ok, command⟩, rollback,
      fun changed => ?_, apply⟩
    rcases changed with applied | generation
    · exact absurd (congrArg Shell.applied same) applied
    · exact absurd (congrArg Shell.generation same) generation
  · refine ⟨.inl ok, fun err => absurd err (ok_not_err ok), fun changed => ?_, rollback,
      fun _ => ⟨ok, command⟩, apply⟩
    exact absurd (congrArg Shell.staged same) changed

end Shell

end RidFirmware
