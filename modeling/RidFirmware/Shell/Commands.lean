import RidFirmware.Shell.Shell

/-! What the commands can do. Only `config apply` and `config save` call a callback, and only
`config apply` changes what is applied. -/

namespace RidFirmware
open Lib

namespace Shell

/-- The words of the two commands that call a callback. -/
def applyCommand : List Bytes := [ascii "config", ascii "apply"]

def saveCommand : List Bytes := [ascii "config", ascii "save"]

section
variable {World : Type} {sha256 : Sha256} {callbacks : ShellCallbacks World} {world : World}
  {shell : Shell}

/-- Nothing but the staged configuration changes. -/
structure Edits (world : World) (shell : Shell) (handled : Handled World) : Prop where
  world : handled.world = world
  device : handled.shell.device = shell.device
  applied : handled.shell.applied = shell.applied
  generation : handled.shell.generation = shell.generation

theorem answer_edits (response : Bytes) : Edits world shell (shell.answer world response) :=
  ⟨rfl, rfl, rfl, rfl⟩

theorem stage_edits (staged : SystemConfig) (response : Bytes) :
    Edits world shell (shell.stage world staged response) := ⟨rfl, rfl, rfl, rfl⟩

theorem handleSite_edits (arguments : List Bytes) : Edits world shell (handleSite world shell arguments) := by
  unfold handleSite
  split
  · split_ifs
    · exact answer_edits _
    · split
      · exact stage_edits _ _
      · exact answer_edits _
  · exact answer_edits _

theorem handleGroupAdd_edits (arguments : List Bytes) :
    Edits world shell (handleGroupAdd world shell arguments) := by
  unfold handleGroupAdd
  split
  · exact answer_edits _
  · split
    · split_ifs
      · exact answer_edits _
      · exact stage_edits _ _
    · exact answer_edits _

theorem handleGroup_edits (arguments : List Bytes) :
    Edits world shell (handleGroup world shell arguments) := by
  cases arguments with
  | nil => exact answer_edits _
  | cons action rest =>
    unfold handleGroup
    dsimp only
    split_ifs
    · exact answer_edits _
    · exact stage_edits _ _
    · exact stage_edits _ _
    · exact answer_edits _
    · exact answer_edits _
    · exact handleGroupAdd_edits rest

theorem handleFleetList_edits : Edits world shell (handleFleetList sha256 world shell) := by
  unfold handleFleetList
  split <;> exact answer_edits _

theorem handleCheck_edits : Edits world shell (handleCheck sha256 world shell) := by
  unfold handleCheck
  split <;> exact answer_edits _

theorem handleRollback_edits : Edits world shell (handleRollback world shell) := by
  unfold handleRollback
  split
  · exact answer_edits _
  · exact stage_edits _ _

theorem handleConfig_edits {command : Bytes} (notApply : command ≠ ascii "apply")
    (notSave : command ≠ ascii "save") :
    Edits world shell (handleConfig sha256 callbacks world shell command) := by
  unfold handleConfig
  rw [if_neg notApply, if_neg notSave]
  split_ifs
  · exact handleCheck_edits
  · exact handleRollback_edits
  · exact answer_edits _

theorem handle_edits {line : Bytes} (notApply : words line ≠ applyCommand)
    (notSave : words line ≠ saveCommand) :
    Edits world shell (handle sha256 callbacks world shell line) := by
  unfold handle
  cases text : words line with
  | nil => exact answer_edits _
  | cons first rest =>
    dsimp only
    split_ifs with help status site group configGroup fleet unknown
    · exact answer_edits _
    · exact answer_edits _
    · exact handleSite_edits rest
    · exact handleGroup_edits rest
    · exact handleGroup_edits rest.tail
    · exact handleFleetList_edits
    · exact answer_edits _
    · rw [not_or, not_not, not_not] at unknown
      obtain ⟨rfl, single⟩ := unknown
      obtain ⟨command, rfl⟩ := List.length_eq_one_iff.mp single
      apply handleConfig_edits
      · intro isApply
        have named : command = ascii "apply" := isApply
        exact notApply (text.trans (by rw [named]; rfl))
      · intro isSave
        have named : command = ascii "save" := isSave
        exact notSave (text.trans (by rw [named]; rfl))

theorem handle_apply {line : Bytes} (command : words line = applyCommand) :
    handle sha256 callbacks world shell line = handleApply sha256 callbacks world shell := by
  unfold handle
  rw [command]
  rfl

theorem handle_save {line : Bytes} (command : words line = saveCommand) :
    handle sha256 callbacks world shell line = handleSave callbacks world shell := by
  unfold handle
  rw [command]
  rfl

end

end Shell

end RidFirmware
