import Mathlib.Tactic.Linarith
import RidFirmware.Lib.Ieee

/-! Rounding to the nearest integer, halves away from zero. Two comparisons, one on each side of zero,
say all of it. -/

namespace RidFirmware.Lib.Ieee

section
variable {K : Type*} [Field K] [LinearOrder K] [IsStrictOrderedRing K] [FloorRing K]

theorem le_lround_of_pos {bound : Int} (positive : 0 < bound) (x : K) :
    bound ≤ lround x ↔ (bound : K) - 1 / 2 ≤ x := by
  have large : (1 : K) ≤ bound := by exact_mod_cast positive
  unfold lround
  split_ifs with nonneg
  · rw [Int.le_floor, sub_le_iff_le_add]
  · rw [not_le] at nonneg
    have down : 0 ≤ ⌊-x + 1 / 2⌋ := Int.floor_nonneg.mpr (by linarith)
    apply iff_of_false
    · omega
    · rw [not_le]
      linarith

theorem le_lround_of_nonpos {bound : Int} (nonpos : bound ≤ 0) (x : K) :
    bound ≤ lround x ↔ (bound : K) - 1 / 2 < x := by
  have small : (bound : K) ≤ 0 := by exact_mod_cast nonpos
  unfold lround
  split_ifs with nonneg
  · have up : 0 ≤ ⌊x + 1 / 2⌋ := Int.floor_nonneg.mpr (by linarith)
    apply iff_of_true
    · omega
    · linarith
  · rw [le_neg, Int.floor_le_iff, Int.cast_neg]
    constructor
    · intro below
      linarith
    · intro below
      linarith

theorem le_lround {bound : Int} {x : K} (above : (bound : K) ≤ x) : bound ≤ lround x := by
  rcases lt_or_ge 0 bound with positive | nonpos
  · rw [le_lround_of_pos positive]
    linarith
  · rw [le_lround_of_nonpos nonpos]
    linarith

theorem lround_le {bound : Int} {x : K} (below : x ≤ bound) : lround x ≤ bound := by
  by_contra above
  rw [not_le, ← Int.add_one_le_iff] at above
  rcases lt_or_ge 0 (bound + 1) with positive | nonpos
  · rw [le_lround_of_pos positive, Int.cast_add, Int.cast_one] at above
    linarith
  · rw [le_lround_of_nonpos nonpos, Int.cast_add, Int.cast_one] at above
    linarith

theorem abs_lround_sub_le (x : K) : |(lround x : K) - x| ≤ 1 / 2 := by
  have low : (lround x : K) - 1 / 2 ≤ x := by
    rcases lt_or_ge 0 (lround x) with positive | nonpos
    · exact (le_lround_of_pos positive x).mp (le_refl _)
    · exact ((le_lround_of_nonpos nonpos x).mp (le_refl _)).le
  have high : x ≤ (lround x : K) + 1 / 2 := by
    have next : ¬lround x + 1 ≤ lround x := by omega
    rcases lt_or_ge 0 (lround x + 1) with positive | nonpos
    · rw [le_lround_of_pos positive, Int.cast_add, Int.cast_one] at next
      linarith
    · rw [le_lround_of_nonpos nonpos, Int.cast_add, Int.cast_one] at next
      linarith
  rw [abs_le]
  constructor
  · linarith
  · linarith

theorem abs_lround_div_sub_le {scale : K} (positive : 0 < scale) (x : K) :
    |(lround (x * scale) : K) / scale - x| ≤ 1 / 2 / scale := by
  have whole : (lround (x * scale) : K) / scale - x = ((lround (x * scale) : K) - x * scale) / scale := by
    rw [sub_div, mul_div_cancel_right₀ _ positive.ne']
  rw [whole, abs_div, abs_of_pos positive]
  exact div_le_div_of_nonneg_right (abs_lround_sub_le _) positive.le

end

end RidFirmware.Lib.Ieee
