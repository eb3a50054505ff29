import RidFirmware.Shell.LineBuffer

/-! The lines of a stream of characters. A line end leaves the line buffer as good as new, whichever of the
three line ends it is. -/

namespace RidFirmware
open Lib

namespace ShellLineBuffer

/-- What holds of the buffer at every point of a stream: between the halves of a line end nothing of a line
is left. -/
structure Sound (buffer : ShellLineBuffer) : Prop where
  fits : buffer.content.length ≤ kShellMaxLineSize
  ended : buffer.lastWasCr = true → buffer.Idle

theorem idle_fits {buffer : ShellLineBuffer} (idle : buffer.Idle) :
    buffer.content.length ≤ kShellMaxLineSize := by
  rw [idle.content]
  exact Nat.zero_le _

theorem edit_lastWasCr (buffer : ShellLineBuffer) (character : UInt8) :
    (buffer.edit character).1.lastWasCr = buffer.lastWasCr := by
  unfold edit
  split_ifs <;> rfl

theorem Sound.feed {buffer : ShellLineBuffer} (sound : buffer.Sound) (character : UInt8) :
    (buffer.feed character).1.Sound := by
  rcases buffer.feed_cases character sound.fits with
    ⟨_, _, _, fed⟩ | ⟨_, _, idle, _, _⟩ | ⟨_, _, fed, edited⟩
  · rw [fed]
    exact ⟨sound.fits, nofun⟩
  · exact ⟨idle_fits idle, fun _ => idle⟩
  · refine ⟨edited.length_le sound.fits, fun ended => ?_⟩
    rw [fed, edit_lastWasCr] at ended
    cases ended

theorem run_sound (characters : List UInt8) : (machine.run {} characters).1.Sound := by
  apply machine.run_invariant fun buffer _ => buffer.Sound
  · exact fun buffer _ character sound => sound.feed character
  · exact ⟨Nat.zero_le _, nofun⟩

/-! Buffers between two lines. -/

/-- Buffers that will deliver the same: between two lines it does not matter what the last line end was. -/
def Alike (left right : ShellLineBuffer) : Prop := left = right ∨ left.Idle ∧ right.Idle

theorem Idle.eq {left right : ShellLineBuffer} (idle : left.Idle) (also : right.Idle) :
    { left with lastWasCr := false } = { right with lastWasCr := false } := by
  rw [idle.content, idle.overflow, idle.escapeState, also.content, also.overflow, also.escapeState]

theorem Idle.ends {buffer : ShellLineBuffer} (idle : buffer.Idle) : buffer.ends = [] := by
  unfold ShellLineBuffer.ends
  rw [idle.overflow, idle.content]
  rfl

theorem Idle.feed {buffer : ShellLineBuffer} (idle : buffer.Idle) {character : UInt8}
    (ending : character = 0x0d ∨ character = 0x0a) :
    (buffer.feed character).2 = [] ∧ (buffer.feed character).1.Idle := by
  rcases buffer.feed_cases character (idle_fits idle) with
    ⟨_, _, _, fed⟩ | ⟨_, _, after, _, delivered⟩ | ⟨notCr, notLf, _⟩
  · rw [fed]
    exact ⟨rfl, idle.content, idle.overflow, idle.escapeState⟩
  · exact ⟨delivered.trans idle.ends, after⟩
  · rcases ending with cr | lf
    · exact absurd cr notCr
    · exact absurd lf notLf

theorem Alike.step (left right : ShellLineBuffer) (character : UInt8) (alike : Alike left right) :
    (machine.step left character).2 = (machine.step right character).2 ∧
      Alike (machine.step left character).1 (machine.step right character).1 := by
  rcases alike with rfl | ⟨idle, also⟩
  · exact ⟨rfl, .inl rfl⟩
  by_cases ending : character = 0x0d ∨ character = 0x0a
  · have one := idle.feed ending
    have other := also.feed ending
    exact ⟨one.1.trans other.1.symm, .inr ⟨one.2, other.2⟩⟩
  · rw [not_or] at ending
    have fed : ∀ buffer : ShellLineBuffer, buffer.Idle →
        buffer.feed character = (({ buffer with lastWasCr := false }.edit character).1, []) := by
      intro buffer idle
      rcases buffer.feed_cases character (idle_fits idle) with
        ⟨lf, _⟩ | ⟨cr | lf, _⟩ | ⟨_, _, fed, _⟩
      · exact absurd lf ending.2
      · exact absurd cr ending.1
      · exact absurd lf ending.2
      · exact fed
    show (left.feed character).2 = (right.feed character).2 ∧
      Alike (left.feed character).1 (right.feed character).1
    rw [fed left idle, fed right also, idle.eq also]
    exact ⟨rfl, .inl rfl⟩

theorem run_idle {left right : ShellLineBuffer} (idle : left.Idle) (also : right.Idle)
    (characters : List UInt8) : (machine.run left characters).2 = (machine.run right characters).2 :=
  machine.run_alike Alike Alike.step characters (.inr ⟨idle, also⟩)

/-! Line ends. -/

/-- CR, LF and CR LF. -/
def lineEnds : List Bytes := [[0x0d], [0x0a], [0x0d, 0x0a]]

theorem Sound.ending {buffer : ShellLineBuffer} (sound : buffer.Sound) {character : UInt8}
    (ending : character = 0x0d ∨ character = 0x0a) :
    (buffer.feed character).2 = buffer.ends ∧ (buffer.feed character).1.Idle := by
  rcases buffer.feed_cases character sound.fits with
    ⟨_, cr, _, _⟩ | ⟨_, _, idle, _, delivered⟩ | ⟨notCr, notLf, _⟩
  · have idle := sound.ended cr
    rw [idle.ends]
    exact idle.feed ending
  · exact ⟨delivered, idle⟩
  · rcases ending with cr | lf
    · exact absurd cr notCr
    · exact absurd lf notLf

theorem Sound.run_ending {buffer : ShellLineBuffer} (sound : buffer.Sound) {ending : Bytes}
    (isEnd : ending ∈ lineEnds) :
    (machine.run buffer ending).2 = buffer.ends ∧ (machine.run buffer ending).1.Idle := by
  simp only [lineEnds, List.mem_cons, List.not_mem_nil, or_false] at isEnd
  have cr := @Sound.ending buffer sound 0x0d (.inl rfl)
  have lf := @Sound.ending buffer sound 0x0a (.inr rfl)
  have both := @Idle.feed _ cr.2 0x0a (.inr rfl)
  rcases isEnd with rfl | rfl | rfl
  · exact ⟨(List.append_nil _).trans cr.1, cr.2⟩
  · exact ⟨(List.append_nil _).trans lf.1, lf.2⟩
  · refine ⟨?_, both.2⟩
    show (buffer.feed 0x0d).2 ++ (((buffer.feed 0x0d).1.feed 0x0a).2 ++ []) = _
    rw [cr.1, both.1, List.append_nil, List.append_nil]

end ShellLineBuffer

/-! Streams. -/

/-- The lines and overlong lines that `shell_task` is told of in a stream of characters. -/
def delivered (characters : List UInt8) : List Delivered :=
  (ShellLineBuffer.machine.run {} characters).2

theorem delivered_append {before : List UInt8}
    (idle : (ShellLineBuffer.machine.run {} before).1.Idle) (after : List UInt8) :
    delivered (before ++ after) = delivered before ++ delivered after := by
  unfold delivered
  rw [Machine.run_append]
  exact congrArg _ (ShellLineBuffer.run_idle idle ⟨rfl, rfl, rfl⟩ after)

theorem delivered_line (before : List UInt8) {ending : Bytes} (isEnd : ending ∈ ShellLineBuffer.lineEnds) :
    delivered (before ++ ending) =
        delivered before ++ (ShellLineBuffer.machine.run {} before).1.ends ∧
      (ShellLineBuffer.machine.run {} (before ++ ending)).1.Idle := by
  obtain ⟨lines, idle⟩ := (ShellLineBuffer.run_sound before).run_ending isEnd
  unfold delivered
  rw [Machine.run_append]
  exact ⟨congrArg _ lines, idle⟩

theorem delivered_within {characters : List UInt8}
    (within : ∀ character ∈ characters, character ≠ 0x0d ∧ character ≠ 0x0a) :
    delivered characters = [] := by
  induction characters using List.reverseRecOn with
  | nil => rfl
  | append_singleton before character ih =>
    have earlier := ih fun other member => within other (List.mem_append_left _ member)
    obtain ⟨notCr, notLf⟩ := within character (List.mem_append_right _ (List.mem_singleton.mpr rfl))
    unfold delivered at earlier ⊢
    rw [Machine.run_snoc, earlier]
    rcases ShellLineBuffer.feed_cases (ShellLineBuffer.machine.run {} before).1 character
      (ShellLineBuffer.run_sound before).fits with ⟨lf, _⟩ | ⟨cr | lf, _⟩ | ⟨_, _, fed, _⟩
    · exact absurd lf notLf
    · exact absurd cr notCr
    · exact absurd lf notLf
    · show [] ++ (ShellLineBuffer.feed _ character).2 = []
      rw [fed]
      rfl

/-- Lines are isolated, and line ends are equivalent: what a stream delivers after a line end is what the
rest of it delivers alone, any line end can be replaced by another one, and a line delivers at most
once. -/
theorem lines_isolated :
    (∀ first later : List UInt8, first.getLast? = some 0x0d ∨ first.getLast? = some 0x0a →
        delivered (first ++ later) = delivered first ++ delivered later) ∧
      (∀ before after, ∀ one ∈ ShellLineBuffer.lineEnds, ∀ other ∈ ShellLineBuffer.lineEnds,
        delivered (before ++ one ++ after) = delivered (before ++ other ++ after)) ∧
      ∀ line : List UInt8, (∀ character ∈ line, character ≠ 0x0d ∧ character ≠ 0x0a) →
        ∀ ending ∈ ShellLineBuffer.lineEnds, (delivered (line ++ ending)).length ≤ 1 := by
  refine ⟨fun first later ended => ?_, fun before after one isOne other isOther => ?_,
    fun line within ending isEnd => ?_⟩
  · have isEnd : ∃ before, ∃ ending ∈ ShellLineBuffer.lineEnds, first = before ++ ending := by
      rcases ended with cr | lf
      · obtain ⟨before, rfl⟩ := List.getLast?_eq_some_iff.mp cr
        exact ⟨before, [0x0d], by decide, rfl⟩
      · obtain ⟨before, rfl⟩ := List.getLast?_eq_some_iff.mp lf
        exact ⟨before, [0x0a], by decide, rfl⟩
    obtain ⟨before, ending, isEnd, rfl⟩ := isEnd
    exact delivered_append (delivered_line before isEnd).2 later
  · have first := delivered_line before isOne
    have second := delivered_line before isOther
    rw [delivered_append first.2, delivered_append second.2, first.1, second.1]
  · rw [(delivered_line line isEnd).1, delivered_within within, List.nil_append]
    unfold ShellLineBuffer.ends
    split_ifs <;> simp

end RidFirmware
