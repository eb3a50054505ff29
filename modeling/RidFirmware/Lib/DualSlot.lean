import Mathlib.Data.UInt
import Mathlib.Logic.Function.Basic

/-! A register kept in two slots. A write goes to the slot that does not hold the current value
and carries a later 32-bit serial number, so that a write cut short leaves the old value. -/

namespace RidFirmware.Lib

/-- Serial numbers compare by their distance on the circle of 32-bit numbers. -/
def After (left right : UInt32) : Prop :=
  0 < (left - right).toNat ∧ (left - right).toNat < 2 ^ 31

instance (left right : UInt32) : Decidable (After left right) := inferInstanceAs (Decidable (_ ∧ _))

theorem sub_toNat (left right : UInt32) :
    (left - right).toNat = (2 ^ 32 - right.toNat + left.toNat) % 2 ^ 32 := UInt32.toNat_sub left right

theorem After.asymm {left right : UInt32} (later : After left right) : ¬After right left := by
  unfold After at *
  rw [sub_toNat] at *
  have := left.toNat_lt
  have := right.toNat_lt
  omega

theorem After.trans_ne {first second third : UInt32} (later : After second first)
    (latest : After third second) : third ≠ first := by
  intro same
  obtain rfl := same
  exact latest.asymm later

theorem unordered_iff (left right : UInt32) :
    left - right = 0 ∨ left - right = 0x80000000 ↔ ¬After left right ∧ ¬After right left := by
  simp only [← UInt32.toNat_inj, UInt32.reduceToNat, After, sub_toNat]
  have := left.toNat_lt
  have := right.toNat_lt
  omega

inductive Slot where
  | a
  | b
  deriving DecidableEq

def Slot.other : Slot → Slot
  | .a => .b
  | .b => .a

@[simp] theorem Slot.other_other (slot : Slot) : slot.other.other = slot := by cases slot <;> rfl
@[simp] theorem Slot.other_ne (slot : Slot) : slot.other ≠ slot := by cases slot <;> decide

namespace DualSlot

variable {Value : Type*}

/-- What can be read from each slot: a value with its serial number, or nothing. -/
abbrev Contents (Value : Type*) := Slot → Option (Value × UInt32)

/-- The slot holding the later of two values; two values at an undefined distance have none. -/
def current (contents : Contents Value) : Option (Slot × Value × UInt32) :=
  match contents .a, contents .b with
  | some left, some right =>
      if After right.2 left.2 then some (.b, right)
      else if After left.2 right.2 then some (.a, left) else none
  | some left, none => some (.a, left)
  | none, some right => some (.b, right)
  | none, none => none

variable {contents : Contents Value} {slot : Slot} {entry : Value × UInt32}

theorem current_eq_some_iff :
    current contents = some (slot, entry) ↔ contents slot = some entry ∧
      ∀ stale, contents slot.other = some stale → After entry.2 stale.2 := by
  cases left : contents .a with
  | none =>
    cases right : contents .b with
    | none => cases slot <;> simp [current, left, right, Slot.other]
    | some right' => cases slot <;> simp [current, left, right, Slot.other]
  | some left' =>
    cases right : contents .b with
    | none => cases slot <;> simp [current, left, right, Slot.other]
    | some right' =>
      by_cases later : After right'.2 left'.2
      · have earlier := later.asymm
        cases slot
        · simp only [current, left, right, later, if_true, Slot.other, Option.some.injEq,
            Prod.mk.injEq, reduceCtorEq, false_and, forall_eq', false_iff, not_and]
          intro same
          obtain rfl := same
          exact earlier
        · simp only [current, left, right, later, if_true, Slot.other, Option.some.injEq,
            Prod.mk.injEq, true_and, forall_eq', iff_self_and]
          intro same
          obtain rfl := same
          exact later
      · by_cases earlier : After left'.2 right'.2
        · cases slot
          · simp only [current, left, right, later, earlier, if_true, if_false, Slot.other,
              Option.some.injEq, Prod.mk.injEq, true_and, forall_eq', iff_self_and]
            intro same
            obtain rfl := same
            exact earlier
          · simp only [current, left, right, later, earlier, if_true, if_false, Slot.other,
              Option.some.injEq, Prod.mk.injEq, reduceCtorEq, false_and, forall_eq', false_iff, not_and]
            intro same
            obtain rfl := same
            exact later
        · cases slot
          · simp only [current, left, right, later, earlier, if_false, Slot.other, reduceCtorEq,
              Option.some.injEq, forall_eq', false_iff, not_and]
            intro same
            obtain rfl := same
            exact earlier
          · simp only [current, left, right, later, earlier, if_false, Slot.other, reduceCtorEq,
              Option.some.injEq, forall_eq', false_iff, not_and]
            intro same
            obtain rfl := same
            exact later

/-- A complete write of a later value next to the current one becomes current. -/
theorem current_write (holds : current contents = some (slot, entry)) (next : Value × UInt32)
    (later : After next.2 entry.2) :
    current (Function.update contents slot.other (some next)) = some (slot.other, next) := by
  have present := (current_eq_some_iff.mp holds).1
  rw [current_eq_some_iff]
  refine ⟨Function.update_self _ _ _, ?_⟩
  intro stale found
  rw [Slot.other_other, Function.update_of_ne (Slot.other_ne slot).symm, present] at found
  cases found
  exact later

/-- Losing the other slot leaves the current value. -/
theorem current_lose (holds : current contents = some (slot, entry)) :
    current (Function.update contents slot.other none) = some (slot, entry) := by
  have present := (current_eq_some_iff.mp holds).1
  rw [current_eq_some_iff, Function.update_of_ne (Slot.other_ne slot).symm]
  exact ⟨present, by simp⟩

theorem current_first (empty : ∀ slot, contents slot = none) (next : Value × UInt32) :
    current (Function.update contents slot (some next)) = some (slot, next) := by
  rw [current_eq_some_iff]
  refine ⟨Function.update_self _ _ _, ?_⟩
  intro stale found
  rw [Function.update_of_ne (Slot.other_ne slot), empty] at found
  cases found

theorem empty_of_current_none (missing : current contents = none)
    (unambiguous : ¬((contents .a).isSome ∧ (contents .b).isSome)) (slot : Slot) :
    contents slot = none := by
  cases left : contents .a with
  | none =>
    cases right : contents .b with
    | none => cases slot <;> assumption
    | some entry => simp [current, left, right] at missing
  | some entry =>
    cases right : contents .b with
    | none => simp [current, left, right] at missing
    | some entry => simp [left, right] at unambiguous

theorem stale_serial_ne (holds : current contents = some (slot, entry)) {stale : Value × UInt32}
    (found : contents slot.other = some stale) {serial : UInt32} (later : After serial entry.2) :
    stale.2 ≠ serial :=
  (((current_eq_some_iff.mp holds).2 stale found).trans_ne later).symm

end DualSlot

end RidFirmware.Lib
