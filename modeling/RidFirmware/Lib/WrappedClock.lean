import Mathlib.Data.Int.ModEq
import Mathlib.Data.Nat.GCD.Basic

/-! A clock of which only the remainder modulo a power of two, say, can be read: how its full time is
recovered from readings that are close together, and what a second remainder says about it. -/

namespace RidFirmware.Lib

/-- The wraps between two readings, judged by their size: a reading far below the last one. -/
def wrapsBetween (modulus last reading : Nat) : Nat :=
  if reading < last ∧ modulus < 2 * (last - reading) then 1 else 0

/-- Less than half a turn apart, the judgement is right. -/
theorem div_eq_add_wrapsBetween {modulus earlier later : Nat} (ordered : earlier ≤ later)
    (near : 2 * (later - earlier) < modulus) :
    later / modulus = earlier / modulus + wrapsBetween modulus (earlier % modulus) (later % modulus) := by
  have positive : 0 < modulus := (Nat.zero_le _).trans_lt near
  have earlierSplit := Nat.div_add_mod earlier modulus
  have laterSplit := Nat.div_add_mod later modulus
  have earlierRest := Nat.mod_lt earlier positive
  have laterRest := Nat.mod_lt later positive
  have least : earlier / modulus ≤ later / modulus := Nat.div_le_div_right ordered
  have most : later / modulus ≤ earlier / modulus + 1 := by
    rw [← Nat.add_div_right earlier positive]
    apply Nat.div_le_div_right
    omega
  unfold wrapsBetween
  rcases Nat.le_iff_lt_or_eq.mp most with same | next
  · have same : later / modulus = earlier / modulus := by omega
    rw [same] at laterSplit
    rw [same, if_neg]
    · rfl
    · rintro ⟨below, -⟩
      omega
  · rw [next, Nat.mul_add, Nat.mul_one] at laterSplit
    rw [next, if_pos]
    omega

/-- The remainder modulo a period is still in the reading exactly if the wraps that are lost add up to
whole periods. -/
theorem mod_mod_eq_iff {modulus period : Nat} (positive : 0 < period) (time : Nat) :
    time % modulus % period = time % period ↔ period / Nat.gcd period modulus ∣ time / modulus := by
  have split := Nat.div_add_mod time modulus
  have lost : time - time % modulus = modulus * (time / modulus) := by omega
  have common : 0 < Nat.gcd period modulus := Nat.gcd_pos_of_pos_left modulus positive
  have coprime : Nat.Coprime (period / Nat.gcd period modulus) (modulus / Nat.gcd period modulus) :=
    Nat.coprime_div_gcd_div_gcd common
  have congruent : time % modulus % period = time % period ↔ period ∣ time - time % modulus :=
    Nat.modEq_iff_dvd' (Nat.mod_le time modulus)
  have factored : period ∣ modulus * (time / modulus) ↔
      period / Nat.gcd period modulus ∣ modulus / Nat.gcd period modulus * (time / modulus) := by
    conv_rhs => rw [← Nat.mul_dvd_mul_iff_left common]
    rw [Nat.mul_div_cancel' (Nat.gcd_dvd_left period modulus), ← Nat.mul_assoc,
      Nat.mul_div_cancel' (Nat.gcd_dvd_right period modulus)]
  rw [congruent, lost, factored, coprime.dvd_mul_left]

end RidFirmware.Lib
