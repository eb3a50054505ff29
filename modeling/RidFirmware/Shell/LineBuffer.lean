import RidFirmware.Lib.Machine
import RidFirmware.Lib.Wire

/-! The line editor of the shell. What a terminal shows of a line is what the shell will be given, and a
line leaves nothing behind for the next one. -/

namespace RidFirmware
open Lib

def kShellMaxLineSize : Nat := 255

inductive ShellLineEvent where
  | none
  | ready
  | tooLong
  deriving DecidableEq

inductive ShellEcho where
  | none
  | character
  | newline
  | erase
  deriving DecidableEq

structure ShellLineResult where
  event : ShellLineEvent := .none
  echo : ShellEcho := .none
  character : UInt8 := 0
  eraseCount : Nat := 0

/-- `content` is the part of the array that is in use. -/
structure ShellLineBuffer where
  content : Bytes := []
  overflow : Bool := false
  lastWasCr : Bool := false
  escapeState : UInt8 := 0

namespace ShellLineBuffer

variable (buffer : ShellLineBuffer) (character : UInt8)

/-- The part of `push` for the end of a line. -/
def endLine : ShellLineBuffer × ShellLineResult :=
  let ended := { buffer with lastWasCr := decide (character = 0x0d), escapeState := 0 }
  if buffer.overflow then
    ({ ended with overflow := false, content := [] }, { event := .tooLong, echo := .newline })
  else (ended, { event := if buffer.content.length = 0 then .none else .ready, echo := .newline })

/-- The part of `push` for any other character. -/
def edit : ShellLineBuffer × ShellLineResult :=
  if buffer.escapeState = 1 then
    ({ buffer with escapeState := if character = 0x5b then 2 else 0 }, {})
  else if buffer.escapeState = 2 then
    (if 0x40 ≤ character ∧ character ≤ 0x7e then { buffer with escapeState := 0 } else buffer, {})
  else if character = 0x1b then ({ buffer with escapeState := 1 }, {})
  else if character = 0x15 then
    ({ buffer with content := [], overflow := false },
      { echo := if buffer.content.length = 0 then .none else .erase
        eraseCount := buffer.content.length })
  else if character = 0x08 ∨ character = 0x7f then
    if buffer.overflow ∨ buffer.content.length = 0 then (buffer, {})
    else ({ buffer with content := buffer.content.dropLast }, { echo := .erase, eraseCount := 1 })
  else if character < 0x20 ∨ 0x7e < character ∨ buffer.overflow then (buffer, {})
  else if buffer.content.length = kShellMaxLineSize then ({ buffer with overflow := true }, {})
  else ({ buffer with content := buffer.content ++ [character] }, { echo := .character, character })

def push : ShellLineBuffer × ShellLineResult :=
  if character = 0x0a ∧ buffer.lastWasCr then ({ buffer with lastWasCr := false }, {})
  else if character = 0x0d ∨ character = 0x0a then buffer.endLine character
  else { buffer with lastWasCr := false }.edit character

def take : Bytes × ShellLineBuffer := (buffer.content, { buffer with content := [] })

end ShellLineBuffer

/-- What `shell_task` is told of its input. -/
inductive Delivered where
  | line (content : Bytes)
  | tooLong
  deriving DecidableEq

/-- A character as `shell_task` has it pushed: a line that is ready is taken at once. -/
def ShellLineBuffer.feed (buffer : ShellLineBuffer) (character : UInt8) :
    ShellLineBuffer × List Delivered :=
  let pushed := buffer.push character
  match pushed.2.event with
  | .none => (pushed.1, [])
  | .tooLong => (pushed.1, [.tooLong])
  | .ready => (pushed.1.take.2, [.line pushed.1.take.1])

def echoed (screen : Bytes) (result : ShellLineResult) : Bytes :=
  match result.echo with
  | .none => screen
  | .character => screen ++ [result.character]
  | .newline => []
  | .erase => screen.take (screen.length - result.eraseCount)

/-- A buffer with the screen line its echoes make. -/
structure Terminal where
  buffer : ShellLineBuffer := {}
  screen : Bytes := []

def Terminal.machine : Machine Terminal UInt8 Delivered where
  step terminal character :=
    ({ buffer := (terminal.buffer.feed character).1
       screen := echoed terminal.screen (terminal.buffer.push character).2 },
      (terminal.buffer.feed character).2)

def ShellLineBuffer.machine : Machine ShellLineBuffer UInt8 Delivered where
  step := ShellLineBuffer.feed

/-! What the terminal shows. -/

namespace ShellLineBuffer

/-- A line that fits and can be shown. -/
structure Printable (content : Bytes) : Prop where
  fits : content.length ≤ kShellMaxLineSize
  printable : ∀ byte ∈ content, 0x20 ≤ byte ∧ byte ≤ 0x7e

theorem printable_nil : Printable [] := ⟨Nat.zero_le _, List.forall_mem_nil _⟩

/-- What editing can do to the content, and what it echoes of that. -/
inductive Edited (content : Bytes) : Bytes → ShellLineResult → Prop where
  | kept : Edited content content {}
  | appended (character : UInt8) (printable : 0x20 ≤ character ∧ character ≤ 0x7e)
      (room : content.length < kShellMaxLineSize) :
      Edited content (content ++ [character]) { echo := .character, character }
  | shortened (present : 1 ≤ content.length) :
      Edited content content.dropLast { echo := .erase, eraseCount := 1 }
  | cleared (echo : ShellEcho) (shown : echo = if content.length = 0 then .none else .erase) :
      Edited content [] { echo, eraseCount := content.length }

theorem edit_edited (buffer : ShellLineBuffer) (character : UInt8)
    (fits : buffer.content.length ≤ kShellMaxLineSize) :
    Edited buffer.content (buffer.edit character).1.content (buffer.edit character).2 := by
  unfold edit
  by_cases introduced : buffer.escapeState = 1
  · rw [if_pos introduced]
    exact .kept
  rw [if_neg introduced]
  by_cases sequence : buffer.escapeState = 2
  · rw [if_pos sequence]
    split_ifs
    · exact .kept
    · exact .kept
  rw [if_neg sequence]
  by_cases escape : character = 0x1b
  · rw [if_pos escape]
    exact .kept
  rw [if_neg escape]
  by_cases kill : character = 0x15
  · rw [if_pos kill]
    exact .cleared _ rfl
  rw [if_neg kill]
  by_cases back : character = 0x08 ∨ character = 0x7f
  · rw [if_pos back]
    split_ifs with nothing
    · exact .kept
    · exact .shortened (Nat.pos_of_ne_zero fun none => nothing (.inr none))
  rw [if_neg back]
  split_ifs with ignored full
  · exact .kept
  · exact .kept
  · rw [not_or, not_or] at ignored
    exact .appended character ⟨UInt8.not_lt.mp ignored.1, UInt8.not_lt.mp ignored.2.1⟩
      (lt_of_le_of_ne fits full)

namespace Edited

variable {content next : Bytes} {result : ShellLineResult} (edited : Edited content next result)
include edited

theorem event : result.event = .none := by
  cases edited <;> rfl

theorem echo : echoed content result = next := by
  cases edited with
  | kept => rfl
  | appended => rfl
  | shortened => exact List.dropLast_eq_take.symm
  | cleared echo shown =>
    rw [shown]
    cases content with
    | nil => rfl
    | cons byte rest => exact List.take_eq_nil_iff.mpr (.inl (Nat.sub_self _))

theorem erases (erase : result.echo = .erase) : result.eraseCount ≤ content.length := by
  cases edited with
  | kept => cases erase
  | appended => cases erase
  | shortened present => exact present
  | cleared => exact Nat.le_refl _

theorem length_le (fits : content.length ≤ kShellMaxLineSize) : next.length ≤ kShellMaxLineSize := by
  cases edited with
  | kept => exact fits
  | appended character inRange room =>
    rw [List.length_append]
    exact room
  | shortened =>
    rw [List.length_dropLast]
    omega
  | cleared => exact Nat.zero_le _

theorem printable (before : Printable content) : Printable next := by
  apply Printable.mk (edited.length_le before.fits)
  cases edited with
  | kept => exact before.printable
  | appended character inRange room =>
    intro byte member
    rcases List.mem_append.mp member with old | new
    · exact before.printable byte old
    · rw [List.mem_singleton.mp new]
      exact inRange
  | shortened => exact fun byte member => before.printable byte (List.mem_of_mem_dropLast member)
  | cleared => exact List.forall_mem_nil _

end Edited

/-! One character. -/

def ends (buffer : ShellLineBuffer) : List Delivered :=
  if buffer.overflow then [.tooLong] else if buffer.content.length = 0 then [] else [.line buffer.content]

structure Idle (buffer : ShellLineBuffer) : Prop where
  content : buffer.content = []
  overflow : buffer.overflow = false
  escapeState : buffer.escapeState = 0

theorem feed_cases (buffer : ShellLineBuffer) (character : UInt8)
    (fits : buffer.content.length ≤ kShellMaxLineSize) :
    let pushed := (buffer.push character).2
    (character = 0x0a ∧ buffer.lastWasCr = true ∧ pushed = {} ∧
        buffer.feed character = ({ buffer with lastWasCr := false }, [])) ∨
      ((character = 0x0d ∨ character = 0x0a) ∧ pushed.echo = .newline ∧
        (buffer.feed character).1.Idle ∧
        (buffer.feed character).1.lastWasCr = decide (character = 0x0d) ∧
        (buffer.feed character).2 = buffer.ends) ∨
      (character ≠ 0x0d ∧ character ≠ 0x0a ∧
        buffer.feed character = (({ buffer with lastWasCr := false }.edit character).1, []) ∧
        Edited buffer.content (buffer.feed character).1.content pushed) := by
  by_cases second : character = 0x0a ∧ buffer.lastWasCr = true
  · have pushed : buffer.push character = ({ buffer with lastWasCr := false }, {}) := if_pos second
    refine .inl ⟨second.1, second.2, ?_, ?_⟩
    · rw [pushed]
    · unfold feed
      rw [pushed]
  by_cases ending : character = 0x0d ∨ character = 0x0a
  · have pushed : buffer.push character = buffer.endLine character := by
      unfold push
      rw [if_neg second, if_pos ending]
    refine .inr (.inl ⟨ending, ?_⟩)
    unfold feed ends
    rw [pushed]
    unfold endLine
    cases overflow : buffer.overflow with
    | true => exact ⟨rfl, ⟨rfl, rfl, rfl⟩, rfl, rfl⟩
    | false =>
      by_cases empty : buffer.content.length = 0
      · simp only [Bool.false_eq_true, if_false, empty, if_true]
        exact ⟨trivial, ⟨List.length_eq_zero_iff.mp empty, rfl, rfl⟩, trivial, trivial⟩
      · simp only [Bool.false_eq_true, if_false, empty]
        exact ⟨trivial, ⟨rfl, rfl, rfl⟩, rfl, rfl⟩
  · have pushed : buffer.push character = { buffer with lastWasCr := false }.edit character := by
      unfold push
      rw [if_neg second, if_neg ending]
    rw [not_or] at ending
    have edited := edit_edited { buffer with lastWasCr := false } character fits
    have fed : buffer.feed character = (({ buffer with lastWasCr := false }.edit character).1, []) := by
      unfold feed
      rw [pushed]
      dsimp only
      rw [edited.event]
    refine .inr (.inr ⟨ending.1, ending.2, fed, ?_⟩)
    rw [fed, pushed]
    exact edited

end ShellLineBuffer

/-! What the terminal shows. -/

/-- The screen line is the buffer, and a line that can be shown. -/
structure Terminal.Shows (terminal : Terminal) : Prop where
  same : terminal.screen = terminal.buffer.content
  printable : ShellLineBuffer.Printable terminal.buffer.content

theorem Terminal.Shows.step {terminal : Terminal} (shows : terminal.Shows) (character : UInt8) :
    (machine.step terminal character).1.Shows := by
  have echo : (machine.step terminal character).1.screen =
      echoed terminal.screen (terminal.buffer.push character).2 := rfl
  have buffer : (machine.step terminal character).1.buffer = (terminal.buffer.feed character).1 := rfl
  rcases terminal.buffer.feed_cases character shows.printable.fits with
    ⟨_, _, silent, fed⟩ | ⟨_, newline, idle, _, _⟩ | ⟨_, _, _, edited⟩
  · rw [silent] at echo
    rw [fed] at buffer
    constructor
    · rw [echo, buffer]
      exact shows.same
    · rw [buffer]
      exact shows.printable
  · have cleared : echoed terminal.screen (terminal.buffer.push character).2 = [] := by
      unfold echoed
      rw [newline]
    constructor
    · rw [echo, buffer, cleared, idle.content]
    · rw [buffer, idle.content]
      exact ShellLineBuffer.printable_nil
  · constructor
    · rw [echo, buffer, shows.same, edited.echo]
    · rw [buffer]
      exact edited.printable shows.printable

/-- What an echo erases is shown, and a line that is delivered is the one that is shown. -/
structure Terminal.Answers (terminal : Terminal) (character : UInt8) : Prop where
  erases : (terminal.buffer.push character).2.echo = .erase →
    (terminal.buffer.push character).2.eraseCount ≤ terminal.screen.length
  delivers : ∀ content, Delivered.line content ∈ (machine.step terminal character).2 →
    content = terminal.screen

theorem Terminal.Shows.answers {terminal : Terminal} (shows : terminal.Shows) (character : UInt8) :
    terminal.Answers character := by
  have delivered : (machine.step terminal character).2 = (terminal.buffer.feed character).2 := rfl
  rcases terminal.buffer.feed_cases character shows.printable.fits with
    ⟨_, _, silent, fed⟩ | ⟨_, newline, _, _, ended⟩ | ⟨_, _, fed, edited⟩
  · constructor
    · rw [silent]
      nofun
    · rw [delivered, fed]
      nofun
  · constructor
    · rw [newline]
      nofun
    · rw [delivered, ended, shows.same]
      unfold ShellLineBuffer.ends
      split_ifs <;> simp
  · constructor
    · rw [shows.same]
      exact edited.erases
    · rw [delivered, fed]
      nofun

def terminalAfter (characters : List UInt8) : Terminal := (Terminal.machine.run {} characters).1

theorem terminalAfter_shows (characters : List UInt8) : (terminalAfter characters).Shows := by
  apply Terminal.machine.run_invariant fun terminal _ => terminal.Shows
  · exact fun terminal _ character shows => shows.step character
  · exact ⟨rfl, ShellLineBuffer.printable_nil⟩

/-- The terminal shows the buffer: after any characters the screen line that the echoes make is the content
of the buffer, which is at most 255 printable bytes. The next character erases at most what is shown, and
delivers no other line. -/
theorem terminal_shows_buffer (characters : List UInt8) :
    (terminalAfter characters).screen = (terminalAfter characters).buffer.content ∧
      (terminalAfter characters).buffer.content.length ≤ 255 ∧
      (∀ byte ∈ (terminalAfter characters).buffer.content, 0x20 ≤ byte ∧ byte ≤ 0x7e) ∧
      ∀ character, (terminalAfter characters).Answers character := by
  have shows := terminalAfter_shows characters
  exact ⟨shows.same, shows.printable.fits, shows.printable.printable, shows.answers⟩

end RidFirmware
