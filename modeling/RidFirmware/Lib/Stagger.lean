import Mathlib.Algebra.Order.Floor.Div
import Mathlib.Data.Finset.Card
import Mathlib.Order.Interval.Finset.Nat
import Mathlib.Tactic.Linarith
import Mathlib.Tactic.Ring

/-! Timers of one period that start one after the other, spread over the period in whole units: in no
window do more of them fire than their average rate rounded up. -/

namespace RidFirmware.Lib

/-- The start of a timer whose period is divided into slots, rounded down. -/
def spread (period slots slot : Nat) : Nat := period * slot / slots

section
variable {period slots : Nat}

theorem spread_add (positive : 0 < slots) (slot turns : Nat) :
    spread period slots (slot + turns * slots) = spread period slots slot + turns * period := by
  unfold spread
  calc period * (slot + turns * slots) / slots
      = (period * slot + turns * period * slots) / slots := by ring_nf
    _ = period * slot / slots + turns * period := Nat.add_mul_div_right _ _ positive

theorem spread_between_iff (positive : 0 < slots) (long : 0 < period) (after width slot : Nat) :
    after < spread period slots slot ∧ spread period slots slot ≤ after + width ↔
      (slots * (after + 1)) ⌈/⌉ period ≤ slot ∧ slot < (slots * (after + width + 1)) ⌈/⌉ period := by
  have begun : after < spread period slots slot ↔ (slots * (after + 1)) ⌈/⌉ period ≤ slot := by
    rw [ceilDiv_le_iff_le_mul long]
    unfold spread
    rw [Nat.lt_iff_add_one_le, Nat.le_div_iff_mul_le positive, Nat.mul_comm]
  have ended : spread period slots slot ≤ after + width ↔
      slot < (slots * (after + width + 1)) ⌈/⌉ period := by
    rw [← Nat.not_le, ← not_lt, ceilDiv_le_iff_le_mul long, not_iff_not]
    unfold spread
    rw [Nat.lt_iff_add_one_le, Nat.le_div_iff_mul_le positive, Nat.mul_comm]
  rw [begun, ended]

/-- A window holds no more starts than its share of the slots, rounded up. -/
theorem window_count_le (long : 0 < period) (after width : Nat) :
    (slots * (after + width + 1)) ⌈/⌉ period ≤
      (slots * (after + 1)) ⌈/⌉ period + (width * slots) ⌈/⌉ period := by
  rw [ceilDiv_le_iff_le_mul long]
  have first : slots * (after + 1) ≤ period * ((slots * (after + 1)) ⌈/⌉ period) :=
    le_smul_ceilDiv long
  have rest : width * slots ≤ period * ((width * slots) ⌈/⌉ period) := le_smul_ceilDiv long
  calc slots * (after + width + 1) = slots * (after + 1) + width * slots := by ring
    _ ≤ period * ((slots * (after + 1)) ⌈/⌉ period) + period * ((width * slots) ⌈/⌉ period) :=
      Nat.add_le_add first rest
    _ = period * ((slots * (after + 1)) ⌈/⌉ period + (width * slots) ⌈/⌉ period) := by ring

/-- Timers in slots of their own: at most their share of a window fires in it. -/
theorem fired_length_le {Timer : Type*} (positive : 0 < slots) (long : 0 < period) {fired : List Timer}
    (distinct : fired.Nodup) (slot : Timer → Nat) (own : ∀ left ∈ fired, ∀ right ∈ fired,
      slot left = slot right → left = right) (inside : ∀ timer ∈ fired, slot timer < slots)
    {after width : Nat} (due : ∀ timer ∈ fired, ∃ turns,
      after < spread period slots (slot timer) + turns * period ∧
        spread period slots (slot timer) + turns * period ≤ after + width) :
    fired.length ≤ (width * slots) ⌈/⌉ period := by
  classical
  -- each timer that fires is charged to the point of the unending row of slots at which it does
  have point : ∀ timer ∈ fired, ∃ place, place % slots = slot timer ∧
      (slots * (after + 1)) ⌈/⌉ period ≤ place ∧ place < (slots * (after + width + 1)) ⌈/⌉ period := by
    intro timer member
    obtain ⟨turns, late, early⟩ := due timer member
    rw [← spread_add positive] at late early
    refine ⟨slot timer + turns * slots, ?_, (spread_between_iff positive long _ _ _).mp ⟨late, early⟩⟩
    rw [Nat.add_mul_mod_self_right, Nat.mod_eq_of_lt (inside timer member)]
  choose place charged lower upper using point
  let charge := fun timer : {timer // timer ∈ fired} => place timer.1 timer.2
  have injective : Set.InjOn charge fired.attach.toFinset := by
    intro left _ right _ same
    apply Subtype.ext
    apply own left.1 left.2 right.1 right.2
    rw [← charged left.1 left.2, ← charged right.1 right.2]
    exact congrArg (· % slots) same
  have maps : Set.MapsTo charge fired.attach.toFinset (Finset.Ico ((slots * (after + 1)) ⌈/⌉ period)
      ((slots * (after + width + 1)) ⌈/⌉ period)) := by
    intro timer _
    exact Finset.mem_coe.mpr (Finset.mem_Ico.mpr ⟨lower timer.1 timer.2, upper timer.1 timer.2⟩)
  have counted := Finset.card_le_card_of_injOn charge maps injective
  rw [List.toFinset_card_of_nodup (List.nodup_attach.mpr distinct), List.length_attach,
    Nat.card_Ico] at counted
  have share := @window_count_le period slots long after width
  omega

end

end RidFirmware.Lib
