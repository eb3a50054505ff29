import Mathlib.Data.Fin.Basic
import Mathlib.Data.Nat.ModEq

/-! A ring of slots shared by one writer and one reader. Items have serial numbers that never wrap,
and the slot of an item is its number modulo the size: the ring is right as long as the items not
yet released fit beside one spare slot. -/

namespace RidFirmware.Lib.Ring

variable {Item : Type*} {size : Nat} [NeZero size]

/-- The slot of the item with a serial number. -/
def slot (serial : Nat) : Fin size := Fin.ofNat size serial

theorem slot_succ (serial : Nat) : (slot (serial + 1) : Fin size) = slot serial + 1 := by
  ext
  simp [slot, Fin.val_add]

theorem slot_zero : (slot 0 : Fin size) = 0 := by
  ext
  simp [slot]

theorem slot_inj {first second : Nat} (ordered : first ≤ second) (near : second < first + size)
    (same : (slot first : Fin size) = slot second) : first = second := by
  have remainders : first % size = second % size := congrArg Fin.val same
  have divides : size ∣ second - first := (Nat.modEq_iff_dvd' ordered).mp remainders
  have none : second - first = 0 := Nat.eq_zero_of_dvd_of_lt divides (by omega)
  omega

theorem room_of_next_ne {released published : Nat}
    (fits : published < released + size) (free : (slot published : Fin size) + 1 ≠ slot released) :
    published + 1 < released + size := by
  by_contra full
  have round : published + 1 = released + size := by omega
  apply free
  rw [← slot_succ, round]
  ext
  simp [slot]

/-- The slots hold every stored item that is not yet released. -/
structure Holds (slots : Fin size → Item) (stored : List Item) (released : Nat) : Prop where
  fits : stored.length < released + size
  kept : ∀ serial item, released ≤ serial → stored[serial]? = some item → slots (slot serial) = item

theorem Holds.empty (slots : Fin size → Item) : Holds slots [] 0 := by
  constructor
  · simpa using Nat.pos_of_neZero size
  · simp

theorem Holds.write {slots : Fin size → Item} {stored : List Item} {released : Nat}
    (holds : Holds slots stored released)
    (room : stored.length + 1 < released + size) (item : Item) :
    Holds (Function.update slots (slot stored.length) item) (stored ++ [item]) released := by
  constructor
  · simpa using room
  intro serial found later known
  by_cases last : serial = stored.length
  · subst last
    simpa using known
  have within : serial < stored.length := by
    have bound := (List.getElem?_eq_some_iff.mp known).1
    simp only [List.length_append, List.length_singleton] at bound
    omega
  have apart : (slot serial : Fin size) ≠ slot stored.length := by
    intro same
    have := slot_inj within.le (by omega) same
    omega
  rw [Function.update_of_ne apart]
  apply holds.kept serial found later
  rwa [List.getElem?_append_left within] at known

theorem Holds.release {slots : Fin size → Item} {stored : List Item} {released later : Nat}
    (holds : Holds slots stored released) (ordered : released ≤ later) : Holds slots stored later := by
  constructor
  · have := holds.fits
    omega
  · intro serial item after
    exact holds.kept serial item (ordered.trans after)

theorem Holds.next_ne {slots : Fin size → Item} {stored : List Item} {released serial : Nat}
    (holds : Holds slots stored released) (after : released ≤ serial) (within : serial < stored.length) :
    (slot stored.length : Fin size) ≠ slot serial := by
  intro same
  have fits := holds.fits
  have := slot_inj within.le (by omega) same.symm
  omega

end RidFirmware.Lib.Ring
