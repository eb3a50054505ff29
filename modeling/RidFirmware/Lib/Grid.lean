import Mathlib.Tactic.Linarith
import Mathlib.Tactic.Ring

/-! Points at a fixed distance from each other, and the first of them at or after a bound. A timer
that is moved on after each observation stays on the first point not yet observed. -/

namespace RidFirmware.Lib

/-- The points `start`, `start + period`, `start + 2 * period` and so on. -/
def OnGrid (start period point : Nat) : Prop := ∃ steps, point = start + steps * period

/-- The first point of a grid that is not before a bound. -/
structure FirstPoint (start period bound due : Nat) : Prop where
  onGrid : OnGrid start period due
  reached : bound ≤ due
  least : ∀ point, OnGrid start period point → bound ≤ point → due ≤ point

/-- Move a timer by periods until it is past a time. -/
def pastTime (period nowMs due : Nat) : Nat := due + ((nowMs - due) / period + 1) * period

section
variable {start period bound due nowMs : Nat}

theorem firstPoint_start (early : bound ≤ start) : FirstPoint start period bound start where
  onGrid := ⟨0, by simp⟩
  reached := early
  least := by
    intro point parts _
    obtain ⟨steps, rfl⟩ := parts
    exact Nat.le_add_right _ _

theorem FirstPoint.wait (first : FirstPoint start period bound due) (ordered : bound ≤ nowMs + 1)
    (notDue : nowMs < due) : FirstPoint start period (nowMs + 1) due where
  onGrid := first.onGrid
  reached := notDue
  least := fun point onGrid late => first.least point onGrid (ordered.trans late)

theorem pastTime_gt (positive : 0 < period) : nowMs < pastTime period nowMs due := by
  have quotient := Nat.lt_div_mul_add (a := nowMs - due) positive
  unfold pastTime
  rw [Nat.add_mul, Nat.one_mul]
  omega

theorem FirstPoint.fire (first : FirstPoint start period bound due) (positive : 0 < period)
    (fired : due ≤ nowMs) : FirstPoint start period (nowMs + 1) (pastTime period nowMs due) where
  onGrid := by
    obtain ⟨steps, rfl⟩ := first.onGrid
    exact ⟨steps + ((nowMs - (start + steps * period)) / period + 1), by unfold pastTime; ring⟩
  reached := pastTime_gt positive
  least := by
    intro point parts late
    obtain ⟨steps, rfl⟩ := parts
    obtain ⟨base, rfl⟩ := first.onGrid
    have quotient := Nat.div_mul_le_self (nowMs - (start + base * period)) period
    have further : (nowMs - (start + base * period)) / period + base < steps := by
      by_contra short
      have bounded := Nat.mul_le_mul_right period (Nat.not_lt.mp short)
      rw [Nat.add_mul] at bounded
      omega
    have scaled := Nat.mul_le_mul_right period (Nat.succ_le_of_lt further)
    unfold pastTime
    calc start + base * period + ((nowMs - (start + base * period)) / period + 1) * period
        = start + ((nowMs - (start + base * period)) / period + base + 1) * period := by ring
      _ ≤ start + steps * period := Nat.add_le_add_left scaled start

/-- The timer fires exactly when a grid point has come since the last observation. -/
theorem FirstPoint.fires_iff (first : FirstPoint start period bound due) :
    due ≤ nowMs ↔ ∃ point, OnGrid start period point ∧ bound ≤ point ∧ point ≤ nowMs := by
  apply Iff.intro
  · exact fun fired => ⟨due, first.onGrid, first.reached, fired⟩
  · intro parts
    obtain ⟨point, onGrid, late, early⟩ := parts
    exact (first.least point onGrid late).trans early

end

end RidFirmware.Lib
