import RidFirmware.Lib.Literal
import RidFirmware.Shell.Lines
import RidFirmware.Shell.Shell

/-! The console: `shell_task` reads characters, echoes them, and has the shell handle each line. -/

namespace RidFirmware
open Lib Lib.Numeral

def kShellPrompt : Bytes := ascii "rid> "

/-- What `shell_task` writes for an echo. -/
def echoText (result : ShellLineResult) : Bytes :=
  match result.echo with
  | .none => []
  | .character => [result.character]
  | .newline => [0x0d, 0x0a]
  | .erase => (List.replicate result.eraseCount [0x08, 0x20, 0x08]).flatten

structure Console (World : Type) where
  buffer : ShellLineBuffer := {}
  shell : Shell
  world : World

/-- A character with the callbacks as they are when it is read. -/
structure Keystroke (World : Type) where
  character : UInt8
  callbacks : ShellCallbacks World

namespace Console

section
variable {World : Type} (sha256 : Sha256)

/-- The body of the loop of `shell_task`. A response is written up to its first zero byte. -/
def read (console : Console World) (key : Keystroke World) : Console World × Bytes :=
  let pushed := console.buffer.push key.character
  match pushed.2.event with
  | .tooLong =>
      ({ console with buffer := pushed.1 },
        echoText pushed.2 ++ ascii "ERR LINE_TOO_LONG\n" ++ kShellPrompt)
  | .ready =>
      let taken := pushed.1.take
      let handled := console.shell.handle sha256 key.callbacks console.world taken.1
      ({ buffer := taken.2, shell := handled.shell, world := handled.world },
        echoText pushed.2 ++ handled.response.takeWhile (· ≠ 0) ++ kShellPrompt)
  | .none =>
      ({ console with buffer := pushed.1 },
        echoText pushed.2 ++ if pushed.2.echo = .newline then kShellPrompt else [])

def machine : Machine (Console World) (Keystroke World) UInt8 where
  step := read sha256

variable {sha256} {console : Console World}

theorem read_buffer (key : Keystroke World) :
    (console.read sha256 key).1.buffer = (console.buffer.feed key.character).1 := by
  unfold read ShellLineBuffer.feed
  dsimp only
  cases (console.buffer.push key.character).2.event with
  | none => rfl
  | ready => rfl
  | tooLong => rfl

theorem read_handles (key : Keystroke World) :
    (∃ line, (console.buffer.feed key.character).2 = [.line line] ∧
        (console.read sha256 key).1.shell =
          (console.shell.handle sha256 key.callbacks console.world line).shell ∧
        (console.read sha256 key).1.world =
          (console.shell.handle sha256 key.callbacks console.world line).world) ∨
      (∀ line, (console.buffer.feed key.character).2 ≠ [.line line]) ∧
        (console.read sha256 key).1.shell = console.shell ∧
        (console.read sha256 key).1.world = console.world := by
  unfold read ShellLineBuffer.feed
  dsimp only
  cases (console.buffer.push key.character).2.event with
  | none => exact .inr ⟨nofun, rfl, rfl⟩
  | ready => exact .inl ⟨_, rfl, rfl, rfl⟩
  | tooLong => exact .inr ⟨nofun, rfl, rfl⟩

end

end Console

/-! Lines that are typed. -/

namespace ShellLineBuffer

theorem feed_printable {buffer : ShellLineBuffer} {character : UInt8}
    (printable : 0x20 ≤ character ∧ character ≤ 0x7e) (overflow : buffer.overflow = false)
    (escapeState : buffer.escapeState = 0) (room : buffer.content.length < kShellMaxLineSize) :
    buffer.feed character = ({ buffer with
      content := buffer.content ++ [character], lastWasCr := false }, []) := by
  have low : 0x20 ≤ character.toNat := UInt8.le_iff_toNat_le.mp printable.1
  have high : character.toNat ≤ 0x7e := UInt8.le_iff_toNat_le.mp printable.2
  have other : ∀ byte : UInt8, byte.toNat < 0x20 ∨ 0x7e < byte.toNat → character ≠ byte := by
    intro byte outside same
    rw [same] at low high
    omega
  have plain : ¬(character < 0x20 ∨ 0x7e < character ∨ buffer.overflow = true) := by
    rw [not_or, not_or, UInt8.not_lt, UInt8.not_lt, overflow]
    exact ⟨printable.1, printable.2, Bool.false_ne_true⟩
  have pushed : buffer.push character = ({ buffer with
      content := buffer.content ++ [character], lastWasCr := false },
      { echo := .character, character }) := by
    unfold push edit
    rw [if_neg fun both => other 0x0a (.inl (by decide)) both.1,
      if_neg (not_or.mpr ⟨other 0x0d (.inl (by decide)), other 0x0a (.inl (by decide))⟩)]
    dsimp only
    rw [escapeState, if_neg (by decide), if_neg (by decide), if_neg (other 0x1b (.inl (by decide))),
      if_neg (other 0x15 (.inl (by decide))),
      if_neg (not_or.mpr ⟨other 0x08 (.inl (by decide)), other 0x7f (.inr (by decide))⟩),
      if_neg plain, if_neg room.ne]
  unfold feed
  rw [pushed]

theorem feed_return {buffer : ShellLineBuffer} (overflow : buffer.overflow = false)
    (some : buffer.content ≠ []) :
    (buffer.feed 0x0d).2 = [.line buffer.content] ∧ (buffer.feed 0x0d).1.Idle := by
  have content : ¬buffer.content.length = 0 := fun none => some (List.length_eq_zero_iff.mp none)
  have pushed : buffer.push 0x0d = buffer.endLine 0x0d := by
    unfold push
    rw [if_neg (fun both => absurd both.1 (by decide)), if_pos (.inl rfl)]
  unfold feed
  rw [pushed]
  unfold endLine
  simp only [overflow, Bool.false_eq_true, if_false, content]
  exact ⟨rfl, rfl, rfl, rfl⟩

end ShellLineBuffer

namespace Console

variable {World : Type} {sha256 : Sha256}

theorem types_characters {console : Console World} {line : Bytes} (overflow : console.buffer.overflow = false)
    (escapeState : console.buffer.escapeState = 0)
    (fits : (console.buffer.content ++ line).length ≤ kShellMaxLineSize)
    (printable : ∀ byte ∈ line, 0x20 ≤ byte ∧ byte ≤ 0x7e) {keys : List (Keystroke World)}
    (typed : keys.map Keystroke.character = line) :
    let next := ((machine sha256).run console keys).1
    next.buffer.content = console.buffer.content ++ line ∧ next.buffer.overflow = false ∧
      next.buffer.escapeState = 0 ∧ next.shell = console.shell ∧ next.world = console.world := by
  induction keys generalizing console line with
  | nil =>
    subst typed
    exact ⟨(List.append_nil _).symm, overflow, escapeState, rfl, rfl⟩
  | cons key keys ih =>
    subst typed
    have isCharacter := printable key.character List.mem_cons_self
    have room : console.buffer.content.length < kShellMaxLineSize := by
      rw [List.length_append, List.map_cons, List.length_cons] at fits
      omega
    have fed := ShellLineBuffer.feed_printable isCharacter overflow escapeState room
    have buffer := @read_buffer World sha256 console key
    rw [fed] at buffer
    rcases @read_handles World sha256 console key with ⟨line, delivered, _⟩ | ⟨_, shell, world⟩
    · rw [fed] at delivered
      cases delivered
    have joined : console.buffer.content ++ (key :: keys).map Keystroke.character =
        (console.read sha256 key).1.buffer.content ++ keys.map Keystroke.character := by
      rw [buffer, List.map_cons, List.append_assoc]
      rfl
    have later := @ih (console.read sha256 key).1 (keys.map Keystroke.character)
      (by rw [buffer]; exact overflow) (by rw [buffer]; exact escapeState) (by rw [← joined]; exact fits)
      (fun byte member => printable byte (List.mem_cons_of_mem _ member)) rfl
    rw [joined]
    exact ⟨later.1, later.2.1, later.2.2.1, later.2.2.2.1.trans shell, later.2.2.2.2.trans world⟩

theorem types_line {console : Console World} (idle : console.buffer.Idle) {line : Bytes} (some : line ≠ [])
    (printable : ShellLineBuffer.Printable line) {keys : List (Keystroke World)}
    (typed : keys.map Keystroke.character = line ++ [0x0d]) :
    ∃ callbacks, let next := ((machine sha256).run console keys).1
      next.buffer.Idle ∧
        next.shell = (console.shell.handle sha256 callbacks console.world line).shell ∧
        next.world = (console.shell.handle sha256 callbacks console.world line).world := by
  obtain ⟨before, last, rfl, content, ending⟩ := List.map_eq_append_iff.mp typed
  obtain ⟨key, rfl, ends⟩ := List.map_eq_singleton_iff.mp ending
  have filled := @types_characters World sha256 console line idle.overflow idle.escapeState
    (by rw [idle.content]; exact printable.fits) printable.printable before content
  rw [idle.content, List.nil_append] at filled
  obtain ⟨content, overflow, _, shell, world⟩ := filled
  have delivered := ShellLineBuffer.feed_return overflow (by rw [content]; exact some)
  rw [content] at delivered
  refine ⟨key.callbacks, ?_⟩
  rw [Machine.run_snoc]
  generalize ((machine sha256).run console before).1 = filled at *
  have buffer := @read_buffer World sha256 filled key
  rw [ends] at buffer
  rcases @read_handles World sha256 filled key with ⟨other, one, handled⟩ | ⟨none, _⟩
  · rw [ends, delivered.1] at one
    obtain rfl := Delivered.line.inj (List.singleton_inj.mp one)
    rw [shell, world] at handled
    refine ⟨?_, handled⟩
    show (filled.read sha256 key).1.buffer.Idle
    rw [buffer]
    exact delivered.2
  · rw [ends, delivered.1] at none
    exact absurd rfl (none line)

end Console

end RidFirmware
