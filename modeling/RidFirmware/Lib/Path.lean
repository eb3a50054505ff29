import Mathlib.Algebra.Order.Floor.Ring
import Mathlib.Analysis.Convex.Segment
import Mathlib.Tactic.FieldSimp
import Mathlib.Tactic.Linarith

/-! Periodic time and straight paths. The remainder of a time by a period is the phase, and the value
of an affine function on the way between two points lies between its values there. -/

namespace RidFirmware.Lib.Path

section
variable {K : Type*} [Field K] [LinearOrder K] [FloorRing K]

def trunc (x : K) : Int := if 0 ≤ x then ⌊x⌋ else ⌈x⌉

/-- The remainder of a division whose quotient is rounded toward zero, as `fmod` of the C library. -/
def fmod (x y : K) : K := x - y * trunc (x / y)

variable [IsStrictOrderedRing K]

theorem fmod_eq_fract {x y : K} (nonneg : 0 ≤ x) (positive : 0 < y) :
    fmod x y = y * Int.fract (x / y) := by
  unfold fmod trunc Int.fract
  rw [if_pos (div_nonneg nonneg positive.le), mul_sub, mul_div_cancel₀ x positive.ne']

theorem fmod_nonneg {x y : K} (nonneg : 0 ≤ x) (positive : 0 < y) : 0 ≤ fmod x y := by
  rw [fmod_eq_fract nonneg positive]
  exact mul_nonneg positive.le (Int.fract_nonneg _)

theorem fmod_lt {x y : K} (nonneg : 0 ≤ x) (positive : 0 < y) : fmod x y < y := by
  rw [fmod_eq_fract nonneg positive]
  calc
    _ < y * 1 := mul_lt_mul_of_pos_left (Int.fract_lt_one _) positive
    _ = y := mul_one y

theorem fmod_neg (x y : K) : fmod (-x) y = -fmod x y := by
  unfold fmod trunc
  rw [neg_div]
  rcases lt_trichotomy 0 (x / y) with positive | zero | negative
  · rw [if_neg (by linarith), if_pos positive.le, Int.ceil_neg]
    push_cast
    ring
  · rw [← zero]
    simp
  · rw [if_pos (by linarith), if_neg (by linarith), Int.floor_neg]
    push_cast
    ring

theorem exists_turns {x period : K} (nonneg : 0 ≤ x) (positive : 0 < period) :
    ∃ turns : Nat, x = turns * period + fmod x period := by
  have quotient : 0 ≤ x / period := div_nonneg nonneg positive.le
  refine ⟨⌊x / period⌋₊, ?_⟩
  have whole : ((⌊x / period⌋₊ : Nat) : K) = ((⌊x / period⌋ : Int) : K) := natCast_floor_eq_intCast_floor quotient
  rw [fmod_eq_fract nonneg positive, whole]
  unfold Int.fract
  rw [mul_sub, mul_div_cancel₀ x positive.ne']
  ring

theorem fmod_turns {phase period : K} (turns : Nat) (inside : phase ∈ Set.Ico 0 period) :
    fmod (turns * period + phase) period = phase := by
  have positive : 0 < period := inside.1.trans_lt inside.2
  have nonneg : 0 ≤ turns * period + phase :=
    add_nonneg (mul_nonneg (Nat.cast_nonneg _) positive.le) inside.1
  have below : phase / period < 1 := (div_lt_one positive).mpr inside.2
  rw [fmod_eq_fract nonneg positive, add_div, mul_div_cancel_right₀ _ positive.ne', Int.fract_natCast_add,
    Int.fract_eq_self.mpr ⟨div_nonneg inside.1 positive.le, below⟩, mul_div_cancel₀ phase positive.ne']

theorem exists_fmod_eq {phase period start offset : K} (inside : phase ∈ Set.Ico 0 period) (late : 0 ≤ start)
    (ahead : 0 ≤ offset) : ∃ x ∈ Set.Ico start (start + period), fmod (x + offset) period = phase := by
  have positive : 0 < period := inside.1.trans_lt inside.2
  have low := fmod_nonneg (add_nonneg late ahead) positive
  have high := fmod_lt (add_nonneg late ahead) positive
  obtain ⟨turns, time⟩ := exists_turns (add_nonneg late ahead) positive
  generalize fmod (start + offset) period = current at low high time
  by_cases to_come : current ≤ phase
  · refine ⟨start + (phase - current), ⟨by linarith, by linarith [inside.2]⟩, ?_⟩
    have reached : start + (phase - current) + offset = turns * period + phase := by linarith
    rw [reached]
    exact fmod_turns turns inside
  · have gone := not_le.mp to_come
    refine ⟨start + (phase - current + period), ⟨by linarith [inside.1], by linarith⟩, ?_⟩
    have reached : start + (phase - current + period) + offset = ((turns + 1 : Nat) : K) * period + phase := by
      push_cast
      linarith
    rw [reached]
    exact fmod_turns (turns + 1) inside

theorem exists_turn {period offset : K} (positive : 0 < period) (ahead : 0 ≤ offset) :
    ∃ turn ∈ Set.Ico 0 period, ∀ turns : Nat, ∀ phase ∈ Set.Ico 0 period,
      fmod (turn + (turns * period + phase) + offset) period = phase := by
  obtain ⟨turn, inside, reached⟩ :=
    @exists_fmod_eq K _ _ _ _ 0 period 0 offset ⟨le_refl 0, positive⟩ (le_refl 0) ahead
  obtain ⟨before, time⟩ := exists_turns (add_nonneg inside.1 ahead) positive
  rw [zero_add] at inside
  refine ⟨turn, inside, ?_⟩
  intro turns phase hphase
  have moved : turn + (turns * period + phase) + offset = ((before + turns : Nat) : K) * period + phase := by
    push_cast
    linarith
  rw [moved]
  exact fmod_turns (before + turns) hphase

end

section
variable {K : Type*} [Field K] [LinearOrder K] [IsStrictOrderedRing K]

theorem lerp_mem_uIcc (start finish : K) {ratio : K} (nonneg : 0 ≤ ratio) (atMostOne : ratio ≤ 1) :
    start + (finish - start) * ratio ∈ Set.uIcc start finish := by
  rw [← segment_eq_uIcc, segment_eq_image']
  refine ⟨ratio, ⟨nonneg, atMostOne⟩, ?_⟩
  show start + ratio • (finish - start) = start + (finish - start) * ratio
  rw [smul_eq_mul, mul_comm]

theorem affine_mem_uIcc (offset slope : K) {start finish x : K} (between : x ∈ Set.uIcc start finish) :
    offset + x * slope ∈ Set.uIcc (offset + start * slope) (offset + finish * slope) := by
  rw [← segment_eq_uIcc, segment_eq_image'] at between
  obtain ⟨ratio, inside, rfl⟩ := between
  have moved : offset + (start + ratio • (finish - start)) * slope =
      (offset + start * slope) + ((offset + finish * slope) - (offset + start * slope)) * ratio := by
    rw [smul_eq_mul]
    ring
  rw [moved]
  exact lerp_mem_uIcc _ _ inside.1 inside.2

theorem start_le_of_lerp_le {start finish bound : K}
    (onTheWay : ∀ ratio, 0 < ratio → ratio < 1 → start + (finish - start) * ratio ≤ bound) :
    start ≤ bound := by
  by_contra above
  rw [not_le] at above
  have half := onTheWay (1 / 2) (by norm_num) (by norm_num)
  have falls : 0 < start - finish := by linarith
  have fraction : (start - bound) / (2 * (start - finish)) * (start - finish) = (start - bound) / 2 := by
    field_simp
  have early := onTheWay ((start - bound) / (2 * (start - finish)))
    (div_pos (by linarith) (by linarith))
    ((div_lt_one (by linarith)).mpr (by linarith))
  have spread : (finish - start) * ((start - bound) / (2 * (start - finish))) = -((start - bound) / 2) := by
    rw [← fraction]
    ring
  rw [spread] at early
  linarith

theorem ends_le_of_lerp_le {start finish bound : K}
    (onTheWay : ∀ ratio, 0 < ratio → ratio < 1 → start + (finish - start) * ratio ≤ bound) :
    start ≤ bound ∧ finish ≤ bound := by
  refine ⟨start_le_of_lerp_le onTheWay, ?_⟩
  apply @start_le_of_lerp_le K _ _ _ finish start
  intro ratio positive below
  have back := onTheWay (1 - ratio) (by linarith) (by linarith)
  calc
    _ = start + (finish - start) * (1 - ratio) := by ring
    _ ≤ bound := back

theorem le_ends_of_le_lerp {start finish bound : K}
    (onTheWay : ∀ ratio, 0 < ratio → ratio < 1 → bound ≤ start + (finish - start) * ratio) :
    bound ≤ start ∧ bound ≤ finish := by
  have mirrored : -start ≤ -bound ∧ -finish ≤ -bound := by
    apply ends_le_of_lerp_le
    intro ratio positive below
    have here := onTheWay ratio positive below
    calc
      _ = -(start + (finish - start) * ratio) := by ring
      _ ≤ -bound := neg_le_neg here
  exact ⟨neg_le_neg_iff.mp mirrored.1, neg_le_neg_iff.mp mirrored.2⟩

end

end RidFirmware.Lib.Path
