import Mathlib.Data.List.TakeWhile
import RidFirmware.Shell.Console
import RidFirmware.Shell.Transactions

/-! The configurations that can be typed. A configuration of the form that the console stages is written as a
script of commands, which stage it again; nothing else can ever be staged. -/

namespace RidFirmware
open Lib Lib.Ieee Lib.Numeral

namespace Shell

/-! Words and lines. -/

def unwords : List Bytes → Bytes
  | [] => []
  | [word] => word
  | word :: next :: rest => word ++ 0x20 :: unwords (next :: rest)

structure IsWord (word : Bytes) : Prop where
  some : word ≠ []
  graphic : Graphic word

theorem words_unwords {texts : List Bytes} (areWords : ∀ text ∈ texts, IsWord text) :
    words (unwords texts) = texts := by
  have kept : ∀ text ∈ texts, [text].filter (fun word => !word.isEmpty) = [text] := by
    intro text member
    have nonempty : text.isEmpty = false := List.isEmpty_eq_false_iff.mpr (areWords text member).some
    rw [List.filter_cons_of_pos (by rw [nonempty]; rfl), List.filter_nil]
  unfold words
  induction texts with
  | nil => rfl
  | cons text rest ih =>
    have whole : text.splitOnP isSpace = [text] :=
      List.splitOnP_eq_singleton (areWords text List.mem_cons_self).graphic.noSpace
    cases rest with
    | nil =>
      unfold unwords
      rw [whole]
      exact kept text List.mem_cons_self
    | cons next rest =>
      have later := ih (fun other member => areWords other (List.mem_cons_of_mem _ member))
        (fun other member => kept other (List.mem_cons_of_mem _ member))
      unfold unwords
      rw [List.splitOnP_append_cons _ _ (by decide), whole, List.filter_append, later,
        kept text List.mem_cons_self]
      rfl

theorem splitOnP_length (line : Bytes) :
    ((line.splitOnP isSpace).map List.length).sum + (line.splitOnP isSpace).length = line.length + 1 := by
  induction line with
  | nil => rfl
  | cons byte rest ih =>
    rw [List.splitOnP_cons_eq_if_modifyHead, List.length_cons]
    split_ifs
    · rw [List.map_cons, List.sum_cons, List.length_cons, List.length_nil]
      omega
    · obtain ⟨first, pieces, split⟩ := List.exists_cons_of_ne_nil (List.splitOnP_ne_nil isSpace rest)
      rw [split, List.map_cons, List.sum_cons, List.length_cons] at ih
      rw [split, List.modifyHead_cons, List.map_cons, List.sum_cons, List.length_cons, List.length_cons]
      omega

theorem words_length (line : Bytes) :
    ((words line).map List.length).sum + (words line).length ≤ line.length + 1 := by
  rw [← splitOnP_length line]
  unfold words
  generalize line.splitOnP isSpace = pieces
  induction pieces with
  | nil => exact Nat.le_refl _
  | cons piece rest ih =>
    rw [List.filter_cons]
    split_ifs
    · rw [List.map_cons, List.map_cons, List.sum_cons, List.sum_cons, List.length_cons, List.length_cons]
      omega
    · rw [List.map_cons, List.sum_cons, List.length_cons]
      omega

theorem splitOnP_mem {line piece : Bytes} (isPiece : piece ∈ line.splitOnP isSpace) :
    ∀ byte ∈ piece, byte ∈ line ∧ isSpace byte = false := by
  induction line generalizing piece with
  | nil =>
    rw [List.splitOnP_nil, List.mem_singleton] at isPiece
    rw [isPiece]
    exact List.forall_mem_nil _
  | cons first rest ih =>
    have later : ∀ other ∈ rest.splitOnP isSpace, ∀ byte ∈ other, byte ∈ first :: rest ∧ isSpace byte = false :=
      fun other member byte within =>
        ⟨List.mem_cons_of_mem _ (ih member byte within).1, (ih member byte within).2⟩
    rw [List.splitOnP_cons_eq_if_modifyHead] at isPiece
    split_ifs at isPiece with space
    · rcases List.mem_cons.mp isPiece with rfl | member
      · exact List.forall_mem_nil _
      · exact later piece member
    · obtain ⟨head, pieces, split⟩ := List.exists_cons_of_ne_nil (List.splitOnP_ne_nil isSpace rest)
      rw [split, List.modifyHead_cons] at isPiece
      rw [split] at later
      rcases List.mem_cons.mp isPiece with rfl | member
      · intro byte within
        rcases List.mem_cons.mp within with rfl | within
        · exact ⟨List.mem_cons_self, Bool.eq_false_iff.mpr space⟩
        · exact later head List.mem_cons_self byte within
      · exact later piece (List.mem_cons_of_mem _ member)

theorem words_areWords {line : Bytes} (printable : ∀ byte ∈ line, 0x20 ≤ byte ∧ byte ≤ 0x7e) :
    ∀ word ∈ words line, IsWord word := by
  intro word member
  obtain ⟨isPiece, nonempty⟩ := List.mem_filter.mp member
  refine ⟨fun none => ?_, fun byte within => ?_⟩
  · rw [none] at nonempty
    cases nonempty
  · obtain ⟨inLine, noSpace⟩ := splitOnP_mem isPiece byte within
    obtain ⟨above, below⟩ := printable byte inLine
    have notSpace : byte ≠ 0x20 := by
      intro same
      rw [same] at noSpace
      cases noSpace
    have low : 0x20 ≤ byte.toNat := UInt8.le_iff_toNat_le.mp above
    have apart : byte.toNat ≠ 0x20 := fun same => notSpace (UInt8.toNat_inj.mp same)
    exact ⟨UInt8.le_iff_toNat_le.mpr (show 0x21 ≤ byte.toNat by omega), below⟩

/-! Commands that stage. -/

/-- The commands that stage a configuration of one part. -/
inductive Edit where
  | site (point : GeoPoint Float64Bits)
  | clear
  | add (group : GroupConfig)

def protocolText : Protocol → Bytes
  | .gb46750 => ascii "gb"
  | .openDroneId => ascii "odid"
  | .other _ _ => []

def transportText : Transport → Bytes
  | .ble4 => ascii "ble4"
  | .ble5 => ascii "ble5"
  | .wifi24 => ascii "wifi24"
  | .wifi58 => ascii "wifi5"
  | .other _ _ => []

namespace Edit

def command : Edit → List Bytes
  | .site point => [ascii "site", ascii "set", ascii "latitude", doubleText point.latitudeDeg.bits.toNat,
      ascii "longitude", doubleText point.longitudeDeg.bits.toNat]
  | .clear => [ascii "group", ascii "clear"]
  | .add group => [ascii "group", ascii "add", group.name, literal 10 group.count.toNat,
      protocolText group.protocol, transportText group.transport]

def line (edit : Edit) : Bytes := unwords edit.command

/-- What the command makes of the staged configuration. -/
def stage (config : SystemConfig) : Edit → SystemConfig
  | .site point => { config with site := some point }
  | .clear => { config with groups := [] }
  | .add group => { config with groups := config.groups ++ [group] }

example : (Edit.add { name := [65], count := 1 }).line = ascii "group add A 1 odid ble4" := by decide +kernel

end Edit

end Shell

/-- A group that can be typed: only its name, count, protocol and transport are chosen. -/
structure GroupConfig.Typable (group : GroupConfig) : Prop where
  named : Shell.IsWord group.name
  counted : group.count ≠ 0
  protocol : group.protocol = .gb46750 ∨ group.protocol = .openDroneId
  transport : group.transport = .ble4 ∨ group.transport = .ble5 ∨ group.transport = .wifi24 ∨
    group.transport = .wifi58
  plain : group = {
    name := group.name, count := group.count, protocol := group.protocol, transport := group.transport }
  fits : (Shell.Edit.add group).line.length ≤ kShellMaxLineSize

/-- A site without a payload in a NaN, the text of which is up to the library. -/
def Shell.PlainSite (point : GeoPoint Float64Bits) : Prop :=
  ReadableDouble point.latitudeDeg.bits.toNat ∧ ReadableDouble point.longitudeDeg.bits.toNat

structure SystemConfig.Typable (config : SystemConfig) : Prop where
  defaultPeriod : config.defaultPeriod = defaultConfig.defaultPeriod
  groups : ∀ group ∈ config.groups, group.Typable

namespace Shell

def Edit.Typable : Edit → Prop
  | .site point => PlainSite point
  | .clear => True
  | .add group => group.Typable

theorem number_literal (count : UInt16) : number (literal 10 count.toNat) = some count := by
  have small := count.toNat_lt
  unfold number
  rw [fromChars_literal (by omega)]
  dsimp only
  rw [if_neg (by simp; omega), UInt16.ofNat_toNat]

theorem decimal_doubleText {bits : Float64Bits} (readable : ReadableDouble bits.bits.toNat) :
    decimal (doubleText bits.bits.toNat) = some bits := by
  have noZero : ∀ byte ∈ doubleText bits.bits.toNat, byte ≠ 0 := by
    intro byte member zero
    have shown := (doubleText_graphic _ byte member).1
    rw [zero] at shown
    exact absurd shown (by decide)
  have whole : (doubleText bits.bits.toNat).takeWhile (· ≠ 0) = doubleText bits.bits.toNat := by
    rw [List.takeWhile_eq_self_iff]
    intro byte member
    exact decide_eq_true (noZero byte member)
  have absent : ¬(([] : Bytes) ≠ [] ∨ 0 ∈ doubleText bits.bits.toNat) := by
    rw [not_or, not_not]
    exact ⟨rfl, fun member => noZero 0 member rfl⟩
  unfold decimal
  rw [whole, strtod_doubleText readable]
  dsimp only
  rw [if_neg absent, UInt64.ofNat_toNat]

theorem typable_names {group : GroupConfig} (typable : group.Typable) :
    Shell.protocol (protocolText group.protocol) = some group.protocol ∧
      Shell.transport (transportText group.transport) = some group.transport ∧
      IsWord (protocolText group.protocol) ∧ IsWord (transportText group.transport) := by
  have protocol : Shell.protocol (protocolText group.protocol) = some group.protocol ∧
      IsWord (protocolText group.protocol) := by
    rcases typable.protocol with same | same
    · rw [same]
      exact ⟨by decide, by decide, by decide⟩
    · rw [same]
      exact ⟨by decide, by decide, by decide⟩
  have transport : Shell.transport (transportText group.transport) = some group.transport ∧
      IsWord (transportText group.transport) := by
    rcases typable.transport with same | same | same | same
    · rw [same]
      exact ⟨by decide, by decide, by decide⟩
    · rw [same]
      exact ⟨by decide, by decide, by decide⟩
    · rw [same]
      exact ⟨by decide, by decide, by decide⟩
    · rw [same]
      exact ⟨by decide, by decide, by decide⟩
  exact ⟨protocol.1, transport.1, protocol.2, transport.2⟩

theorem isWord_doubleText (bits : Nat) : IsWord (doubleText bits) :=
  ⟨doubleText_ne_nil bits, doubleText_graphic bits⟩

theorem isWord_literal (value : Nat) : IsWord (literal 10 value) :=
  ⟨literal_ne_nil 10 value, literal_graphic (by decide) (by decide) value⟩

theorem Edit.Typable.command {edit : Edit} (typable : edit.Typable) :
    ∀ word ∈ edit.command, IsWord word := by
  cases edit with
  | site point =>
    simp only [Edit.command, List.forall_mem_cons]
    exact ⟨⟨by decide, by decide⟩, ⟨by decide, by decide⟩, ⟨by decide, by decide⟩, isWord_doubleText _,
      ⟨by decide, by decide⟩, isWord_doubleText _, List.forall_mem_nil _⟩
  | clear =>
    simp only [Edit.command, List.forall_mem_cons]
    exact ⟨⟨by decide, by decide⟩, ⟨by decide, by decide⟩, List.forall_mem_nil _⟩
  | add group =>
    obtain ⟨_, _, protocol, transport⟩ := typable_names typable
    simp only [Edit.command, List.forall_mem_cons]
    exact ⟨⟨by decide, by decide⟩, ⟨by decide, by decide⟩, typable.named, isWord_literal _, protocol,
      transport, List.forall_mem_nil _⟩

theorem Edit.Typable.handled {edit : Edit} (typable : edit.Typable) {World : Type} (sha256 : Sha256)
    (callbacks : ShellCallbacks World) (world : World) (shell : Shell) :
    (shell.handle sha256 callbacks world edit.line).shell =
        { shell with staged := edit.stage shell.staged } ∧
      (shell.handle sha256 callbacks world edit.line).world = world := by
  have split := words_unwords typable.command
  unfold Edit.line
  unfold handle
  rw [split]
  cases edit with
  | site point =>
    unfold Edit.command
    dsimp only
    rw [if_neg (by decide), if_neg (by decide), if_pos rfl]
    unfold handleSite
    dsimp only
    rw [if_neg (by decide), decimal_doubleText typable.1, decimal_doubleText typable.2]
    exact ⟨rfl, rfl⟩
  | clear =>
    unfold Edit.command
    dsimp only
    rw [if_neg (by decide), if_neg (by decide), if_neg (by decide), if_pos rfl]
    unfold handleGroup
    dsimp only
    rw [if_neg (by decide), if_pos rfl]
    exact ⟨rfl, rfl⟩
  | add group =>
    obtain ⟨protocol, transport, _, _⟩ := typable_names typable
    have named : ¬(group.name.isEmpty = true ∨ group.count = 0) := by
      rw [not_or, List.isEmpty_iff]
      exact ⟨typable.named.some, typable.counted⟩
    unfold Edit.command
    dsimp only
    rw [if_neg (by decide), if_neg (by decide), if_neg (by decide), if_pos rfl]
    unfold handleGroup
    dsimp only
    rw [if_neg (by decide), if_neg (by decide), if_neg (fun delete => absurd delete.1 (by decide)),
      if_neg (by decide)]
    unfold handleGroupAdd groupAddArguments
    dsimp only
    rw [number_literal, protocol, transport]
    dsimp only
    rw [if_neg named, ← typable.plain]
    exact ⟨rfl, rfl⟩

/-! A script. -/

theorem unwords_printable {texts : List Bytes} (areWords : ∀ text ∈ texts, IsWord text) :
    ∀ byte ∈ unwords texts, 0x20 ≤ byte ∧ byte ≤ 0x7e := by
  have shown : ∀ text ∈ texts, ∀ byte ∈ text, 0x20 ≤ byte ∧ byte ≤ 0x7e := by
    intro text member byte within
    obtain ⟨above, below⟩ := (areWords text member).graphic byte within
    have low : 0x21 ≤ byte.toNat := UInt8.le_iff_toNat_le.mp above
    exact ⟨UInt8.le_iff_toNat_le.mpr (show 0x20 ≤ byte.toNat by omega), below⟩
  clear areWords
  induction texts with
  | nil => exact List.forall_mem_nil _
  | cons text rest ih =>
    cases rest with
    | nil => exact shown text List.mem_cons_self
    | cons next rest =>
      intro byte within
      unfold unwords at within
      rcases List.mem_append.mp within with first | later
      · exact shown text List.mem_cons_self byte first
      rcases List.mem_cons.mp later with rfl | later
      · decide
      · exact ih (fun other member => shown other (List.mem_cons_of_mem _ member)) byte later

theorem unwords_length {texts : List Bytes} (some : texts ≠ []) :
    (unwords texts).length + 1 = (texts.map List.length).sum + texts.length := by
  induction texts with
  | nil => exact absurd rfl some
  | cons text rest ih =>
    cases rest with
    | nil => simp [unwords]
    | cons next rest =>
      have later := ih (List.cons_ne_nil next rest)
      unfold unwords
      rw [List.length_append, List.length_cons, List.map_cons, List.sum_cons, List.length_cons]
      omega

theorem Edit.Typable.printable {edit : Edit} (typable : edit.Typable) :
    ShellLineBuffer.Printable edit.line := by
  refine ⟨?_, unwords_printable typable.command⟩
  cases edit with
  | site point =>
    have latitude := doubleText_length point.latitudeDeg.bits.toNat
    have longitude := doubleText_length point.longitudeDeg.bits.toNat
    have length : (Edit.site point).line.length + 1 =
        ((Edit.site point).command.map List.length).sum + 6 := unwords_length (List.cons_ne_nil _ _)
    have parts : ((Edit.site point).command.map List.length).sum =
        24 + (doubleText point.latitudeDeg.bits.toNat).length +
          (doubleText point.longitudeDeg.bits.toNat).length := by
      have words : (ascii "site").length = 4 ∧ (ascii "set").length = 3 ∧ (ascii "latitude").length = 8 ∧
          (ascii "longitude").length = 9 := by decide
      simp only [Edit.command, List.map_cons, List.map_nil, List.sum_cons, List.sum_nil]
      omega
    unfold kShellMaxLineSize
    omega
  | clear => decide
  | add group => exact typable.fits

theorem Edit.Typable.line_ne_nil {edit : Edit} (typable : edit.Typable) : edit.line ≠ [] := by
  intro none
  have split := words_unwords typable.command
  unfold Edit.line at none
  rw [none] at split
  cases edit <;> cases split

/-- The characters of commands, each with the return key. -/
def typed (edits : List Edit) : Bytes := edits.flatMap fun edit => edit.line ++ [0x0d]

def script (config : SystemConfig) : List Edit :=
  config.site.toList.map .site ++ .clear :: config.groups.map .add

theorem script_typable {config : SystemConfig} (typable : config.Typable)
    (plain : ∀ point ∈ config.site, PlainSite point) : ∀ edit ∈ script config, edit.Typable := by
  intro edit member
  rcases List.mem_append.mp member with site | groups
  · obtain ⟨point, isSite, rfl⟩ := List.mem_map.mp site
    exact plain point (Option.mem_toList.mp isSite)
  rcases List.mem_cons.mp groups with rfl | groups
  · trivial
  · obtain ⟨group, isGroup, rfl⟩ := List.mem_map.mp groups
    exact typable.groups group isGroup

theorem stage_groups (config : SystemConfig) (groups : List GroupConfig) :
    (groups.map Edit.add).foldl Edit.stage config = { config with groups := config.groups ++ groups } := by
  induction groups generalizing config with
  | nil =>
    rw [List.append_nil]
    rfl
  | cons group rest ih =>
    rw [List.map_cons, List.foldl_cons, ih]
    unfold Edit.stage
    rw [List.append_assoc]
    rfl

theorem stage_script {config staged : SystemConfig} (noSite : staged.site = none)
    (samePeriod : staged.defaultPeriod = config.defaultPeriod) :
    (script config).foldl Edit.stage staged = config := by
  unfold script
  rw [List.foldl_append, List.foldl_cons, stage_groups]
  cases site : config.site with
  | none =>
    show { staged with groups := [] ++ config.groups } = config
    rw [noSite, samePeriod, ← site]
    rfl
  | some point =>
    show { staged with site := some point, groups := [] ++ config.groups } = config
    rw [samePeriod, ← site]
    rfl

end Shell

theorem Console.types_script {World : Type} {sha256 : Sha256} {console : Console World}
    (idle : console.buffer.Idle) {edits : List Shell.Edit} (typable : ∀ edit ∈ edits, edit.Typable)
    {keys : List (Keystroke World)} (typed : keys.map Keystroke.character = Shell.typed edits) :
    ((machine sha256).run console keys).1.shell =
      { console.shell with staged := edits.foldl Shell.Edit.stage console.shell.staged } := by
  induction edits generalizing console keys with
  | nil =>
    rw [List.map_eq_nil_iff.mp typed]
    rfl
  | cons edit rest ih =>
    have isTypable := typable edit List.mem_cons_self
    unfold Shell.typed at typed
    rw [List.flatMap_cons] at typed
    obtain ⟨first, later, rfl, one, others⟩ := List.map_eq_append_iff.mp typed
    obtain ⟨callbacks, idleAfter, shell, world⟩ :=
      @types_line World sha256 console idle _ isTypable.line_ne_nil isTypable.printable first one
    rw [(isTypable.handled sha256 callbacks console.world console.shell).1] at shell
    have carried := @ih ((machine sha256).run console first).1 idleAfter
      (fun other member => typable other (List.mem_cons_of_mem _ member)) later others
    rw [Machine.run_append, carried, shell]
    rfl

namespace Shell

/-! Nothing else is staged. -/

structure AllTypable (shell : Shell) : Prop where
  staged : shell.staged.Typable
  applied : ∀ config ∈ shell.applied, config.Typable

theorem AllTypable.stage {shell : Shell} (all : shell.AllTypable) {staged : SystemConfig}
    (typable : staged.Typable) : AllTypable { shell with staged } := ⟨typable, all.applied⟩

theorem number_length_le {text : Bytes} {count : UInt16} (read : number text = some count) :
    (literal 10 count.toNat).length ≤ text.length := by
  unfold number at read
  split at read
  · cases read
  · rename_i parsed rest found
    split_ifs at read with wrong
    rw [not_or, not_not] at wrong
    obtain ⟨rfl, small⟩ := wrong
    have same : count.toNat = parsed := by
      rw [← Option.some.inj read, UInt16.toNat_ofNat', Nat.mod_eq_of_lt (by omega)]
    rw [same]
    exact literal_length_le found

theorem protocol_length_le {text : Bytes} {protocol : Protocol} (read : Shell.protocol text = some protocol) :
    (protocol = .gb46750 ∨ protocol = .openDroneId) ∧ (protocolText protocol).length ≤ text.length := by
  unfold Shell.protocol at read
  split_ifs at read with gb odid
  · cases read
    rw [gb]
    exact ⟨.inl rfl, Nat.le_refl _⟩
  · cases read
    rw [odid]
    exact ⟨.inr rfl, Nat.le_refl _⟩

theorem transport_length_le {text : Bytes} {transport : Transport}
    (read : Shell.transport text = some transport) :
    (transport = .ble4 ∨ transport = .ble5 ∨ transport = .wifi24 ∨ transport = .wifi58) ∧
      (transportText transport).length ≤ text.length := by
  unfold Shell.transport at read
  split_ifs at read with ble4 ble5 wifi24 wifi58
  · cases read
    rw [ble4]
    exact ⟨.inl rfl, Nat.le_refl _⟩
  · cases read
    rw [ble5]
    exact ⟨.inr (.inl rfl), Nat.le_refl _⟩
  · cases read
    rw [wifi24]
    exact ⟨.inr (.inr (.inl rfl)), Nat.le_refl _⟩
  · cases read
    rcases wifi58 with long | short
    · rw [long]
      exact ⟨.inr (.inr (.inr rfl)), by decide⟩
    · rw [short]
      exact ⟨.inr (.inr (.inr rfl)), Nat.le_refl _⟩

theorem groupAddArguments_length {arguments : List Bytes} {name count protocol transport : Bytes}
    (found : groupAddArguments arguments = some (name, count, protocol, transport)) :
    name ∈ arguments ∧ name.length + count.length + protocol.length + transport.length + 4 ≤
      (arguments.map List.length).sum + arguments.length := by
  unfold groupAddArguments at found
  split at found
  · cases found
    simp only [List.mem_cons, true_or, List.map_cons, List.map_nil, List.sum_cons, List.sum_nil,
      List.length_cons, List.length_nil]
    exact ⟨trivial, by omega⟩
  · split_ifs at found
    cases found
    simp only [List.mem_cons, true_or, List.map_cons, List.map_nil, List.sum_cons, List.sum_nil,
      List.length_cons, List.length_nil]
    exact ⟨trivial, by omega⟩
  · cases found

section
variable {World : Type} {sha256 : Sha256} {callbacks : ShellCallbacks World} {world : World} {shell : Shell}
  (all : shell.AllTypable)
include all

theorem handleSite_typable (arguments : List Bytes) : (handleSite world shell arguments).shell.AllTypable := by
  unfold handleSite
  split
  · split_ifs
    · exact all
    · split
      · exact all.stage ⟨all.staged.defaultPeriod, all.staged.groups⟩
      · exact all
  · exact all

theorem handleGroupAdd_typable {arguments : List Bytes} (areWords : ∀ word ∈ arguments, IsWord word)
    (fits : (arguments.map List.length).sum + arguments.length + 10 ≤ kShellMaxLineSize + 1) :
    (handleGroupAdd world shell arguments).shell.AllTypable := by
  unfold handleGroupAdd
  split
  · exact all
  · rename_i name countText protocolText transportText found
    split
    · rename_i count protocol transport counted isProtocol isTransport
      split_ifs with wrong
      · exact all
      rw [not_or] at wrong
      obtain ⟨isName, length⟩ := groupAddArguments_length found
      have number := number_length_le counted
      obtain ⟨knownProtocol, protocolShort⟩ := protocol_length_le isProtocol
      obtain ⟨knownTransport, transportShort⟩ := transport_length_le isTransport
      refine all.stage ⟨all.staged.defaultPeriod, fun group member => ?_⟩
      rcases List.mem_append.mp member with old | new
      · exact all.staged.groups group old
      rw [List.mem_singleton.mp new]
      refine ⟨areWords name isName, wrong.2, knownProtocol, knownTransport, rfl, ?_⟩
      have line : (Edit.add { name, count, protocol, transport }).line.length + 1 =
          ((Edit.add { name, count, protocol, transport }).command.map List.length).sum + 6 :=
        unwords_length (List.cons_ne_nil _ _)
      have parts : ((Edit.add { name, count, protocol, transport }).command.map List.length).sum =
          8 + name.length + (literal 10 count.toNat).length + (Shell.protocolText protocol).length +
            (Shell.transportText transport).length := by
        have words : (ascii "group").length = 5 ∧ (ascii "add").length = 3 := by decide
        simp only [Edit.command, List.map_cons, List.map_nil, List.sum_cons, List.sum_nil]
        omega
      omega
    · exact all

theorem handleGroup_typable {arguments : List Bytes} (areWords : ∀ word ∈ arguments, IsWord word)
    (fits : (arguments.map List.length).sum + arguments.length + 6 ≤ kShellMaxLineSize + 1) :
    (handleGroup world shell arguments).shell.AllTypable := by
  unfold handleGroup
  split
  · exact all
  · rename_i action rest
    dsimp only
    split_ifs with list clear delete found other
    · exact all
    · exact all.stage ⟨all.staged.defaultPeriod, List.forall_mem_nil _⟩
    · exact all.stage ⟨all.staged.defaultPeriod, fun group member =>
        all.staged.groups group (List.mem_of_mem_eraseP member)⟩
    · exact all
    · exact all
    · rw [not_not] at other
      have added : action.length = 3 := by
        rw [other]
        decide
      rw [List.map_cons, List.sum_cons, List.length_cons] at fits
      exact handleGroupAdd_typable all (fun word member => areWords word (List.mem_cons_of_mem _ member))
        (by omega)

theorem handleConfig_typable (command : Bytes) :
    (handleConfig sha256 callbacks world shell command).shell.AllTypable := by
  unfold handleConfig
  split_ifs
  · unfold handleCheck
    split <;> exact all
  · unfold handleApply
    split
    · exact all
    · dsimp only
      split_ifs
      · exact all
      · exact ⟨all.staged, fun config applied => Option.some.inj applied ▸ all.staged⟩
  · unfold handleSave
    split
    · exact all
    · dsimp only
      split_ifs
      · exact all
      · exact all
  · unfold handleRollback
    split
    · exact all
    · rename_i applied isApplied
      exact all.stage (all.applied applied isApplied)
  · exact all

theorem handle_typable {line : Bytes} (printable : ShellLineBuffer.Printable line) :
    (handle sha256 callbacks world shell line).shell.AllTypable := by
  have areWords := words_areWords printable.printable
  have length := words_length line
  have fits := printable.fits
  unfold handle
  cases split : words line with
  | nil => exact all
  | cons first rest =>
    rw [split] at areWords length
    rw [List.map_cons, List.sum_cons, List.length_cons] at length
    have later : ∀ word ∈ rest, IsWord word := fun word member => areWords word (List.mem_cons_of_mem _ member)
    dsimp only
    split_ifs with help status site group configGroup fleet other
    · exact all
    · exact all
    · exact handleSite_typable all rest
    · have five : first.length = 5 := by
        rw [group]
        decide
      exact handleGroup_typable all later (by omega)
    · obtain ⟨arguments, rfl⟩ := List.head?_eq_some_iff.mp configGroup.2
      have five : (ascii "group").length = 5 := by decide
      rw [List.map_cons, List.sum_cons, List.length_cons] at length
      rw [List.tail_cons]
      exact handleGroup_typable all (fun word member => later word (List.mem_cons_of_mem _ member)) (by omega)
    · unfold handleFleetList
      split <;> exact all
    · exact all
    · exact handleConfig_typable all _

end

end Shell

namespace Console

variable {World : Type} {sha256 : Sha256}

/-- What the console holds: a line that can be shown, and configurations that can be typed. -/
structure Tidy (console : Console World) : Prop where
  printable : ShellLineBuffer.Printable console.buffer.content
  shell : console.shell.AllTypable

theorem Tidy.read {console : Console World} (tidy : console.Tidy) (key : Keystroke World) :
    (console.read sha256 key).1.Tidy := by
  have shows : Terminal.Shows ⟨console.buffer, console.buffer.content⟩ := ⟨rfl, tidy.printable⟩
  have buffer := @read_buffer World sha256 console key
  refine ⟨?_, ?_⟩
  · rw [buffer]
    exact (shows.step key.character).printable
  · rcases @read_handles World sha256 console key with ⟨line, delivered, shell, _⟩ | ⟨_, shell, _⟩
    · have shown : line = console.buffer.content :=
        (shows.answers key.character).delivers line (by
          show _ ∈ (console.buffer.feed key.character).2
          rw [delivered]
          exact List.mem_singleton_self _)
      rw [shell, shown]
      exact Shell.handle_typable tidy.shell tidy.printable
    · rw [shell]
      exact tidy.shell

/-- What can be typed is what can be staged: on a device that starts without a configuration, the
configurations which the characters typed can lead to are those of the form that the console knows, and the
script of each of them leads to it, whatever the callbacks answer meanwhile. Any two doubles can be the site; a NaN
with a payload is left out. -/
theorem console_configures (sha256 : Sha256) (device : DeviceId) (world : World) (config : SystemConfig)
    (plain : ∀ point ∈ config.site, Shell.PlainSite point) :
    let start : Console World := { shell := { staged := defaultConfig, device }, world }
    [config.Typable,
      ∀ keys, keys.map Keystroke.character = Shell.typed (Shell.script config) →
        ((machine sha256).run start keys).1.shell.staged = config,
      ∃ keys, ((machine sha256).run start keys).1.shell.staged = config].TFAE := by
  intro start
  tfae_have 1 → 2 := by
    intro typable keys typed
    rw [types_script ⟨rfl, rfl, rfl⟩ (Shell.script_typable typable plain) typed]
    exact Shell.stage_script rfl typable.defaultPeriod.symm
  tfae_have 2 → 3 := by
    intro stages
    refine ⟨(Shell.typed (Shell.script config)).map fun character =>
      ⟨character, { apply := none, save := none }⟩, stages _ ?_⟩
    rw [List.map_map]
    exact List.map_id _
  tfae_have 3 → 1 := by
    intro reached
    obtain ⟨keys, rfl⟩ := reached
    have tidy : ((machine sha256).run start keys).1.Tidy := by
      apply (machine sha256).run_invariant fun console _ => console.Tidy
      · exact fun console _ key tidy => tidy.read key
      · exact ⟨ShellLineBuffer.printable_nil, ⟨rfl, List.forall_mem_nil _⟩, nofun⟩
    exact tidy.shell.staged
  tfae_finish

/-- One aircraft that hovers over the middle of the map. -/
theorem console_configures_oneHover :
    let start : Console Unit := { shell := { staged := defaultConfig, device := Vector.replicate 6 0 }, world := () }
    [oneHover.Typable,
      ∀ keys, keys.map Keystroke.character = Shell.typed (Shell.script oneHover) →
        ((machine oneHoverSha256).run start keys).1.shell.staged = oneHover,
      ∃ keys, ((machine oneHoverSha256).run start keys).1.shell.staged = oneHover].TFAE := by
  apply console_configures
  intro point isSite
  rw [← Option.some.inj isSite]
  exact ⟨⟨by decide, .inl (by decide)⟩, ⟨by decide, .inl (by decide)⟩⟩

end Console

end RidFirmware
