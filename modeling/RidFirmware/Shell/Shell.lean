import RidFirmware.Config.Accepted
import RidFirmware.Lib.Numeral

/-! The command shell. It edits a staged configuration, has it applied and saved by callbacks, and
answers every line with a text. What the callbacks act on is a state of their own. -/

namespace RidFirmware
open Lib Lib.Ieee Lib.Numeral

/-- `ConfigCallback`: whether a configuration was accepted under a generation. -/
abbrev ConfigCallback (World : Type) := World → SystemConfig → UInt32 → Bool × World

structure ShellCallbacks (World : Type) where
  apply : Option (ConfigCallback World)
  save : Option (ConfigCallback World)

structure Shell where
  staged : SystemConfig
  device : DeviceId
  applied : Option SystemConfig := none
  generation : UInt32 := 0

/-- The answer to a line, with the shell and the world after it. -/
structure Handled (World : Type) where
  response : Bytes
  shell : Shell
  world : World

namespace Shell

/-! Words and their meanings. -/

def words (line : Bytes) : List Bytes := (line.splitOnP isSpace).filter (fun word => !word.isEmpty)

def number (text : Bytes) : Option UInt16 :=
  match fromChars text with
  | none => none
  | some (parsed, rest) => if rest ≠ [] ∨ 65535 < parsed then none else some (UInt16.ofNat parsed)

def protocol (text : Bytes) : Option Protocol :=
  if text = ascii "gb" then some .gb46750
  else if text = ascii "odid" then some .openDroneId
  else none

def transport (text : Bytes) : Option Transport :=
  if text = ascii "ble4" then some .ble4
  else if text = ascii "ble5" then some .ble5
  else if text = ascii "wifi24" then some .wifi24
  else if text = ascii "wifi58" ∨ text = ascii "wifi5" then some .wifi58
  else none

/-- A number that takes up the whole text. The C string ends at a zero byte. -/
def decimal (text : Bytes) : Option Float64Bits :=
  match strtod (text.takeWhile (· ≠ 0)) with
  | none => none
  | some (bits, rest) => if rest ≠ [] ∨ 0 ∈ text then none else some ⟨UInt64.ofNat bits⟩

/-- `std::to_string`. -/
def toString (value : Nat) : Bytes := ascii (Nat.repr value)

def error (code : String) : Bytes := ascii "ERR " ++ ascii code ++ ascii "\n"

def aircraftCount (config : SystemConfig) : Nat := totalCount config.groups

/-! Commands. -/

section
variable {World : Type} (sha256 : Sha256) (callbacks : ShellCallbacks World) (world : World)
  (shell : Shell)

def answer (response : Bytes) : Handled World := { response, shell, world }

/-- An answer to a change of the staged configuration. -/
def stage (staged : SystemConfig) (response : Bytes) : Handled World :=
  { response, shell := { shell with staged }, world }

def status : Bytes :=
  ascii "OK status generation=" ++ toString shell.generation.toNat ++ ascii " staged=" ++
    toString (aircraftCount shell.staged) ++ ascii " applied=" ++
    toString (shell.applied.elim 0 aircraftCount) ++ ascii "\n"

def handleSite (arguments : List Bytes) : Handled World :=
  match arguments with
  | [action, latitudeWord, latitude, longitudeWord, longitude] =>
      if action ≠ ascii "set" ∨ latitudeWord ≠ ascii "latitude" ∨ longitudeWord ≠ ascii "longitude" then
        shell.answer world (error "INVALID_ARGUMENT")
      else match decimal latitude, decimal longitude with
        | some latitudeDeg, some longitudeDeg =>
            shell.stage world { shell.staged with site := some { latitudeDeg, longitudeDeg } }
              (ascii "OK site staged\n")
        | _, _ => shell.answer world (error "INVALID_ARGUMENT")
  | _ => shell.answer world (error "INVALID_ARGUMENT")

def groupList : Bytes :=
  ascii "OK groups=" ++ toString shell.staged.groups.length ++
    shell.staged.groups.flatMap (fun group =>
      ascii " " ++ group.name ++ ascii ":" ++ toString group.count.toNat) ++ ascii "\n"

/-- The name, count, protocol and transport of `group add`, in either of its two forms. -/
def groupAddArguments (arguments : List Bytes) : Option (Bytes × Bytes × Bytes × Bytes) :=
  match arguments with
  | [name, count, protocol, transport] => some (name, count, protocol, transport)
  | [name, countWord, count, protocolWord, protocol, transportWord, transport] =>
      if countWord = ascii "count" ∧ protocolWord = ascii "protocol" ∧
          transportWord = ascii "transport" then some (name, count, protocol, transport)
      else none
  | _ => none

def handleGroupAdd (arguments : List Bytes) : Handled World :=
  match groupAddArguments arguments with
  | none => shell.answer world (error "INVALID_ARGUMENT")
  | some (name, countText, protocolText, transportText) =>
      match number countText, protocol protocolText, transport transportText with
      | some count, some protocol, some transport =>
          if name.isEmpty ∨ count = 0 then shell.answer world (error "INVALID_ARGUMENT")
          else shell.stage world
            { shell.staged with
              groups := shell.staged.groups ++ [{ name, count, protocol, transport }] }
            (ascii "OK group " ++ name ++ ascii " staged\n")
      | _, _, _ => shell.answer world (error "INVALID_ARGUMENT")

/-- The commands after `group` or `config group`. -/
def handleGroup (arguments : List Bytes) : Handled World :=
  match arguments with
  | [] => shell.answer world (error "UNKNOWN_COMMAND")
  | action :: rest =>
      if action = ascii "list" then shell.answer world shell.groupList
      else if action = ascii "clear" then
        shell.stage world { shell.staged with groups := [] } (ascii "OK group_clear\n")
      else if action = ascii "delete" ∧ rest.length = 1 then
        let name := rest.headD []
        if shell.staged.groups.any (fun group => decide (group.name = name)) then
          shell.stage world
            { shell.staged with
              groups := shell.staged.groups.eraseP fun group => decide (group.name = name) }
            (ascii "OK group_delete\n")
        else shell.answer world (error "GROUP_NOT_FOUND")
      else if action ≠ ascii "add" then shell.answer world (error "UNKNOWN_COMMAND")
      else handleGroupAdd world shell rest

def handleFleetList : Handled World :=
  match validateAndExpand sha256 shell.staged shell.device with
  | .error _ => shell.answer world (error "INVALID_CONFIG")
  | .ok aircraft => shell.answer world (ascii "OK fleet=" ++ toString aircraft.length ++
      aircraft.flatMap (fun item => ascii " " ++ item.identity.value) ++ ascii "\n")

def handleCheck : Handled World :=
  match validateAndExpand sha256 shell.staged shell.device with
  | .error _ => shell.answer world (error "INVALID_CONFIG")
  | .ok aircraft =>
      shell.answer world (ascii "OK aircraft=" ++ toString aircraft.length ++ ascii "\n")

/-- Call a callback; without one the call fails. -/
def call (callback : Option (ConfigCallback World)) (config : SystemConfig) (generation : UInt32) :
    Bool × World :=
  match callback with
  | none => (false, world)
  | some callback => callback world config generation

def handleApply : Handled World :=
  match validateAndExpand sha256 shell.staged shell.device with
  | .error _ => shell.answer world (error "INVALID_CONFIG")
  | .ok aircraft =>
      let nextGeneration := shell.generation + 1
      let called := call world callbacks.apply shell.staged nextGeneration
      if !called.1 then shell.answer called.2 (error "OPERATION_FAILED")
      else
        { response := ascii "OK generation=" ++ toString nextGeneration.toNat ++ ascii " running=" ++
            toString aircraft.length ++ ascii "\n"
          shell := { shell with applied := some shell.staged, generation := nextGeneration }
          world := called.2 }

def savedResponse (generation : UInt32) : Bytes :=
  ascii "OK saved generation=" ++ toString generation.toNat ++ ascii "\n"

def handleSave : Handled World :=
  match shell.applied with
  | none => shell.answer world (error "NO_APPLIED_CONFIG")
  | some applied =>
      let called := call world callbacks.save applied shell.generation
      if !called.1 then shell.answer called.2 (error "OPERATION_FAILED")
      else shell.answer called.2 (savedResponse shell.generation)

def handleRollback : Handled World :=
  match shell.applied with
  | none => shell.answer world (error "NO_APPLIED_CONFIG")
  | some applied => shell.stage world applied
      (ascii "OK rollback running=" ++ toString (aircraftCount applied) ++ ascii "\n")

def handleConfig (command : Bytes) : Handled World :=
  if command = ascii "validate" ∨ command = ascii "check" then handleCheck sha256 world shell
  else if command = ascii "apply" then handleApply sha256 callbacks world shell
  else if command = ascii "save" then handleSave callbacks world shell
  else if command = ascii "rollback" then handleRollback world shell
  else shell.answer world (error "UNKNOWN_COMMAND")

def handle (line : Bytes) : Handled World :=
  match words line with
  | [] => shell.answer world (ascii "OK help site|group|config|fleet|status\n")
  | first :: rest =>
      if first = ascii "help" then
        shell.answer world (ascii "OK help site|group|config|fleet|status\n")
      else if first = ascii "status" then shell.answer world shell.status
      else if first = ascii "site" then handleSite world shell rest
      else if first = ascii "group" then handleGroup world shell rest
      else if first = ascii "config" ∧ rest.head? = some (ascii "group") then
        handleGroup world shell rest.tail
      else if first = ascii "fleet" ∧ rest = [ascii "list"] then handleFleetList sha256 world shell
      else if first ≠ ascii "config" ∨ rest.length ≠ 1 then
        shell.answer world (error "UNKNOWN_COMMAND")
      else handleConfig sha256 callbacks world shell (rest.headD [])

end

end Shell

end RidFirmware
