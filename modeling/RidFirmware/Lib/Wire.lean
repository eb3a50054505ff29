import Mathlib.Data.List.Basic
import Mathlib.Data.UInt
import Mathlib.Tactic.Ring

/-! Byte strings with fixed-width little-endian numbers, and readers that consume a prefix of
their input. `Exact` says that a reader accepts precisely the output of a writer; it composes, so
a format's round trip and its canonicity are both read off one statement. -/

namespace RidFirmware.Lib

abbrev Bytes := List UInt8

def ascii (text : String) : Bytes := text.toList.map fun letter => UInt8.ofNat letter.toNat

namespace Wire

/-! Little-endian numbers of a fixed width. -/

/-- The lowest `width` bytes of a number, least significant first. -/
def putLe : Nat → Nat → Bytes
  | 0, _ => []
  | width + 1, value => UInt8.ofNat value :: putLe width (value / 256)

def getLe : Bytes → Nat
  | [] => 0
  | low :: high => low.toNat + 256 * getLe high

@[simp] theorem putLe_length (width value : Nat) : (putLe width value).length = width := by
  induction width generalizing value with
  | zero => rfl
  | succ width ih => simp only [putLe, List.length_cons, ih]

theorem getLe_lt (bytes : Bytes) : getLe bytes < 256 ^ bytes.length := by
  induction bytes with
  | nil => simp [getLe]
  | cons low high ih =>
    have small := low.toNat_lt
    simp only [getLe, List.length_cons, pow_succ]
    omega

theorem getLe_putLe (width value : Nat) (fits : value < 256 ^ width) :
    getLe (putLe width value) = value := by
  induction width generalizing value with
  | zero => simp at fits; simp [putLe, getLe, fits]
  | succ width ih =>
    have tail : value / 256 < 256 ^ width := by
      rw [Nat.div_lt_iff_lt_mul (by decide)]
      simpa only [pow_succ] using fits
    have low : (UInt8.ofNat value).toNat = value % 256 := by simp
    simp only [putLe, getLe, ih _ tail, low]
    omega

theorem putLe_getLe (bytes : Bytes) : putLe bytes.length (getLe bytes) = bytes := by
  induction bytes with
  | nil => rfl
  | cons low high ih =>
    have small := low.toNat_lt
    have head : UInt8.ofNat (low.toNat + 256 * getLe high) = low := by
      apply UInt8.toNat_inj.mp
      simp only [UInt8.toNat_ofNat']
      omega
    have tail : (low.toNat + 256 * getLe high) / 256 = getLe high := by omega
    simp only [List.length_cons, putLe, getLe, head, tail, ih]

/-- The lowest `width` bytes of an integer in two's complement. -/
def putInt (width : Nat) (value : Int) : Bytes := putLe width (value % 256 ^ width).toNat

@[simp] theorem putInt_length (width : Nat) (value : Int) : (putInt width value).length = width :=
  putLe_length width _

/-! Readers. -/

/-- A reader returns what it read and the input it left, or rejects. -/
abbrev Reader (α : Type) := StateT Bytes Option α

variable {α β : Type}

/-- Take the next `size` bytes. -/
def Reader.bytes (size : Nat) : Reader Bytes := fun input =>
  if size ≤ input.length then some (input.take size, input.drop size) else none

/-- Read a little-endian number of `width` bytes. -/
def Reader.number (width : Nat) : Reader Nat := getLe <$> Reader.bytes width

/-- Go on only if a check on what was read so far holds. -/
def Reader.require (check : Prop) [Decidable check] : Reader Unit := fun input =>
  if check then some ((), input) else none

/-- Read a given number of items one after the other. -/
def Reader.many (item : Reader α) : Nat → Reader (List α)
  | 0 => pure []
  | count + 1 => do
      let first ← item
      let later ← Reader.many item count
      pure (first :: later)

theorem bind_eq_some (first : Reader α) (next : α → Reader β) (input rest : Bytes) (y : β) :
    (first >>= next) input = some (y, rest) ↔
      ∃ x middle, first input = some (x, middle) ∧ next x middle = some (y, rest) := by
  simp only [Bind.bind, StateT.bind, Option.bind_eq_some_iff, Prod.exists]

@[simp] theorem pure_eq_some (x y : α) (input rest : Bytes) :
    (pure x : Reader α) input = some (y, rest) ↔ x = y ∧ input = rest := by
  have same : (pure x : Reader α) input = some (x, input) := rfl
  rw [same, Option.some.injEq, Prod.mk.injEq]

@[simp] theorem require_eq_some (check : Prop) [Decidable check] (input rest : Bytes) (x : Unit) :
    Reader.require check input = some (x, rest) ↔ check ∧ input = rest := by
  unfold Reader.require
  split <;> simp_all

/-- A reader accepts exactly what the writer produces for the values of a domain. -/
def Exact (read : Reader α) (write : α → Bytes) (domain : α → Prop) : Prop :=
  ∀ input x rest, read input = some (x, rest) ↔ domain x ∧ input = write x ++ rest

theorem bytes_exact (size : Nat) :
    Exact (Reader.bytes size) id (fun bytes => bytes.length = size) := by
  intro input x rest
  unfold Reader.bytes
  constructor
  · intro accepted
    split at accepted
    · cases accepted
      exact ⟨by simpa, (List.take_append_drop size input).symm⟩
    · cases accepted
  · intro parts
    obtain ⟨rfl, rfl⟩ := parts
    simp

theorem number_exact (width : Nat) :
    Exact (Reader.number width) (putLe width) (fun value => value < 256 ^ width) := by
  intro input value rest
  have unfolded : Reader.number width input = some (value, rest) ↔
      ∃ bytes, Reader.bytes width input = some (bytes, rest) ∧ getLe bytes = value := by
    simp only [Reader.number, Functor.map, StateT.map, Option.bind_eq_bind,
      Option.bind_eq_some_iff, Prod.exists, Option.pure_def, Option.some.injEq, Prod.mk.injEq]
    constructor
    · intro parts
      obtain ⟨bytes, rest', taken, rfl, rfl⟩ := parts
      exact ⟨bytes, taken, rfl⟩
    · intro parts
      obtain ⟨bytes, taken, rfl⟩ := parts
      exact ⟨bytes, rest, taken, rfl, rfl⟩
  rw [unfolded]
  constructor
  · intro parts
    obtain ⟨bytes, taken, rfl⟩ := parts
    obtain ⟨rfl, rfl⟩ := (bytes_exact width _ _ _).mp taken
    exact ⟨getLe_lt bytes, by rw [putLe_getLe]; rfl⟩
  · intro parts
    obtain ⟨fits, rfl⟩ := parts
    exact ⟨putLe width value, (bytes_exact width _ _ _).mpr ⟨putLe_length width value, rfl⟩,
      getLe_putLe width value fits⟩

/-- A conversion of what was read keeps exactness when it is undone by a conversion of what is
written. -/
theorem Exact.map {read : Reader α} {write : α → Bytes} {domain : α → Prop}
    (exact : Exact read write domain) (forth : α → β) (back : β → α) (range : β → Prop)
    (inverse : ∀ x y, domain x ∧ forth x = y ↔ range y ∧ back y = x) :
    Exact (forth <$> read) (fun y => write (back y)) range := by
  intro input y rest
  have unfolded : (forth <$> read) input = some (y, rest) ↔
      ∃ x, read input = some (x, rest) ∧ forth x = y := by
    simp only [Functor.map, StateT.map, Option.bind_eq_bind, Option.bind_eq_some_iff, Prod.exists,
      Option.pure_def, Option.some.injEq, Prod.mk.injEq]
    constructor
    · intro parts
      obtain ⟨x, rest', taken, rfl, rfl⟩ := parts
      exact ⟨x, taken, rfl⟩
    · intro parts
      obtain ⟨x, taken, rfl⟩ := parts
      exact ⟨x, rest, taken, rfl, rfl⟩
  rw [unfolded]
  constructor
  · intro parts
    obtain ⟨x, taken, same⟩ := parts
    obtain ⟨inDomain, rfl⟩ := (exact _ _ _).mp taken
    obtain ⟨inRange, rfl⟩ := (inverse x y).mp ⟨inDomain, same⟩
    exact ⟨inRange, rfl⟩
  · intro parts
    obtain ⟨inRange, rfl⟩ := parts
    obtain ⟨inDomain, same⟩ := (inverse (back y) y).mpr ⟨inRange, rfl⟩
    exact ⟨back y, (exact _ _ _).mpr ⟨inDomain, rfl⟩, same⟩

theorem many_exact {item : Reader α} {write : α → Bytes} {domain : α → Prop}
    (exact : Exact item write domain) (count : Nat) :
    Exact (Reader.many item count) (List.flatMap write)
      (fun items => items.length = count ∧ ∀ x ∈ items, domain x) := by
  induction count with
  | zero =>
    intro input items rest
    cases items <;> simp [Reader.many]
  | succ count ih =>
    intro input items rest
    simp only [Reader.many, bind_eq_some, exact _ _ _, ih _ _ _, pure_eq_some]
    constructor
    · intro parts
      obtain ⟨first, _, ⟨inDomain, rfl⟩, later, _, ⟨⟨rfl, all⟩, rfl⟩, rfl, rfl⟩ := parts
      simp_all [List.flatMap_cons]
    · intro parts
      obtain ⟨⟨length, all⟩, rfl⟩ := parts
      cases items with
      | nil => simp at length
      | cons first later =>
        refine ⟨first, later.flatMap write ++ rest, ⟨all first (by simp), by simp⟩, later, rest,
          ⟨⟨by simpa using length, fun x member => all x (by simp [member])⟩, rfl⟩, rfl, rfl⟩

end Wire

end RidFirmware.Lib
