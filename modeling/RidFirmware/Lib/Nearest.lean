import Mathlib.Data.Int.Log
import Mathlib.Data.Rat.Floor
import Mathlib.Tactic.FieldSimp
import Mathlib.Tactic.Linarith
import Mathlib.Tactic.Ring
import RidFirmware.Lib.Ieee

/-! The number of a binary interchange format that is nearest to a given one: what the pattern chosen by
`nearest` denotes, and which numbers round to one or more. -/

namespace RidFirmware.Lib.Ieee.Format

theorem scaled_eq (significand : Nat) (exponent : Int) :
    scaled significand exponent = significand * (2 : ℚ) ^ exponent := by
  unfold scaled
  rw [Rat.mkRat_eq_div]
  obtain ⟨places, rfl | rfl⟩ := exponent.eq_nat_or_neg
  · simp
  · simp [div_eq_mul_inv]

theorem log_le_iff {x : ℚ} (positive : 0 < x) (exponent : Int) :
    exponent ≤ Int.log 2 x ↔ (2 : ℚ) ^ exponent ≤ x :=
  (Int.zpow_le_iff_le_log (by decide) positive).symm

theorem log_lt_iff {x : ℚ} (positive : 0 < x) (exponent : Int) :
    Int.log 2 x < exponent ↔ x < (2 : ℚ) ^ exponent :=
  (Int.lt_zpow_iff_log_lt (by decide) positive).symm

theorem floorLog2_eq {x : ℚ} (positive : 0 < x) : floorLog2 x = Int.log 2 x := by
  have above : 0 < x.num := Rat.num_pos.mpr positive
  have value : x = (x.num.natAbs : ℚ) / x.den := by
    have cast : ((x.num.natAbs : Int) : ℚ) = x.num := by rw [Int.natAbs_of_nonneg above.le]
    rw [← Int.cast_natCast, cast, Rat.num_div_den]
  have numLow : (2 : ℚ) ^ x.num.natAbs.log2 ≤ x.num.natAbs := by
    exact_mod_cast Nat.log2_self_le (by omega)
  have numHigh : (x.num.natAbs : ℚ) < 2 ^ (x.num.natAbs.log2 + 1) := by exact_mod_cast Nat.lt_log2_self
  have denLow : (2 : ℚ) ^ x.den.log2 ≤ x.den := by exact_mod_cast Nat.log2_self_le x.den_nz
  have denHigh : (x.den : ℚ) < 2 ^ (x.den.log2 + 1) := by exact_mod_cast Nat.lt_log2_self
  have denPositive : (0 : ℚ) < x.den := by exact_mod_cast x.den_pos
  have low : (2 : ℚ) ^ ((x.num.natAbs.log2 : Int) - (x.den.log2 + 1 : Nat)) ≤ x := by
    rw [zpow_sub₀ (by norm_num), zpow_natCast, zpow_natCast]
    nth_rewrite 3 [value]
    exact div_le_div₀ (Nat.cast_nonneg _) numLow denPositive denHigh.le
  have high : x < (2 : ℚ) ^ (((x.num.natAbs.log2 + 1 : Nat) : Int) - (x.den.log2 : Nat)) := by
    rw [zpow_sub₀ (by norm_num), zpow_natCast, zpow_natCast]
    nth_rewrite 1 [value]
    exact div_lt_div₀ numHigh denLow (by positivity) (by positivity)
  rw [← log_le_iff positive] at low
  rw [← log_lt_iff positive] at high
  unfold floorLog2
  dsimp only
  rw [scaled_eq, Nat.cast_one, one_mul]
  split_ifs with fits
  · rw [← log_le_iff positive] at fits
    omega
  · rw [← log_le_iff positive] at fits
    omega

/-! Rounding to an integer moves a number by half a unit at most, and halves go to even numbers. -/

theorem abs_roundHalfEven_sub_le (x : ℚ) : |(roundHalfEven x : ℚ) - x| ≤ 1 / 2 := by
  have low : (x.floor : ℚ) ≤ x := Int.floor_le x
  have high : x < x.floor + 1 := Int.lt_floor_add_one x
  unfold roundHalfEven
  dsimp only
  split_ifs
  · rw [abs_le]
    constructor <;> linarith
  · rw [abs_le]
    push_cast
    constructor <;> linarith
  · rw [abs_le]
    constructor <;> linarith
  · rw [abs_le]
    push_cast
    constructor <;> linarith

theorem le_roundHalfEven {bound : Int} {x : ℚ} (above : (bound : ℚ) ≤ x) : bound ≤ roundHalfEven x := by
  have near := (abs_le.mp (abs_roundHalfEven_sub_le x)).1
  have strict : (bound : ℚ) < (roundHalfEven x + 1 : Int) := by
    push_cast
    linarith
  have := Int.cast_lt.mp strict
  omega

theorem roundHalfEven_le {bound : Int} {x : ℚ} (below : x ≤ bound) : roundHalfEven x ≤ bound := by
  have near := (abs_le.mp (abs_roundHalfEven_sub_le x)).2
  have strict : ((roundHalfEven x - 1 : Int) : ℚ) < bound := by
    push_cast
    linarith
  have := Int.cast_lt.mp strict
  omega

theorem even_le_roundHalfEven_iff {bound : Int} (even : bound % 2 = 0) (x : ℚ) :
    bound ≤ roundHalfEven x ↔ (bound : ℚ) - 1 / 2 ≤ x := by
  have low : (x.floor : ℚ) ≤ x := Int.floor_le x
  have high : x < x.floor + 1 := Int.lt_floor_add_one x
  rcases lt_trichotomy (x.floor + 1) bound with far | same | near
  · have below : ((x.floor + 1 : Int) : ℚ) + 1 ≤ bound := by exact_mod_cast far
    push_cast at below
    apply iff_of_false
    · have := roundHalfEven_le (show x ≤ (x.floor + 1 : Int) by push_cast; exact high.le)
      omega
    · rw [not_le]
      linarith
  · -- The bound is the upper neighbour, to which a half goes.
    have upper : (bound : ℚ) = x.floor + 1 := by exact_mod_cast same.symm
    unfold roundHalfEven
    dsimp only
    split_ifs
    · exact iff_of_false (by omega) (by rw [not_le]; linarith)
    · exact iff_of_true (by omega) (by linarith)
    · exact absurd even (by omega)
    · exact iff_of_true (by omega) (by linarith)
  · have above : (bound : ℚ) ≤ x.floor := by exact_mod_cast Int.lt_add_one_iff.mp near
    exact iff_of_true (le_roundHalfEven (above.trans low)) (by linarith)

/-! What patterns without a sign denote. -/

section
variable {format : Format}

theorem datum_of_fields {field fraction : Nat} (small : fraction < 2 ^ format.fractionBits)
    (fits : field < 2 ^ format.exponentBits - 1) :
    format.datum (field * 2 ^ format.fractionBits + fraction) = .finite
      (if field = 0 then fraction * (2 : ℚ) ^ format.leastExponent
        else (2 ^ format.fractionBits + fraction : Nat) * (2 : ℚ) ^ (format.leastExponent + field - 1)) := by
  have unit : 0 < 2 ^ format.fractionBits := Nat.two_pow_pos _
  have low : (field * 2 ^ format.fractionBits + fraction) % 2 ^ format.fractionBits = fraction := by
    rw [Nat.add_comm, Nat.add_mul_mod_self_right, Nat.mod_eq_of_lt small]
  have high : (field * 2 ^ format.fractionBits + fraction) / 2 ^ format.fractionBits = field := by
    rw [Nat.add_comm, Nat.add_mul_div_right _ _ unit, Nat.div_eq_of_lt small, Nat.zero_add]
  have whole : field % 2 ^ format.exponentBits = field := Nat.mod_eq_of_lt (by omega)
  have positive : (field * 2 ^ format.fractionBits + fraction) /
      2 ^ (format.fractionBits + format.exponentBits) = 0 := by
    rw [Nat.pow_add, ← Nat.div_div_eq_div_mul, high, Nat.div_eq_of_lt (by omega)]
  unfold datum
  dsimp only
  rw [low, high, whole, positive, if_neg (by omega), scaled_eq, scaled_eq]
  rfl

/-- A significand that has not its full length comes at the lowest place. The carry of a full one moves to
the next place. -/
theorem datum_pattern {place significand : Nat}
    (normal : place = 0 ∨ 2 ^ format.fractionBits ≤ significand)
    (small : significand ≤ 2 ^ (format.fractionBits + 1))
    (fits : place * 2 ^ format.fractionBits + significand <
      (2 ^ format.exponentBits - 1) * 2 ^ format.fractionBits) :
    format.datum (place * 2 ^ format.fractionBits + significand) =
      .finite (significand * (2 : ℚ) ^ (format.leastExponent + place)) := by
  have unit : 0 < 2 ^ format.fractionBits := Nat.two_pow_pos _
  rw [Nat.pow_succ] at small
  rcases Nat.lt_or_ge significand (2 ^ format.fractionBits) with short | long
  · have lowest : place = 0 := normal.resolve_right (by omega)
    rw [lowest, Nat.zero_mul, Nat.zero_add] at fits ⊢
    have field : 0 < 2 ^ format.exponentBits - 1 := Nat.pos_of_lt_mul_right fits
    have fields := datum_of_fields short field
    rw [Nat.zero_mul, Nat.zero_add, if_pos rfl] at fields
    rw [fields, Nat.cast_zero, add_zero]
  · rcases Nat.lt_or_ge significand (2 ^ format.fractionBits * 2) with full | carry
    · have shape : place * 2 ^ format.fractionBits + significand =
          (place + 1) * 2 ^ format.fractionBits + (significand - 2 ^ format.fractionBits) := by
        rw [Nat.succ_mul]
        omega
      rw [shape] at fits ⊢
      have field : place + 1 < 2 ^ format.exponentBits - 1 :=
        Nat.lt_of_mul_lt_mul_right (Nat.lt_of_le_of_lt (Nat.le_add_right _ _) fits)
      rw [datum_of_fields (by omega) field, if_neg (by omega), Nat.add_sub_cancel' long]
      congr 3
      push_cast
      ring
    · have shape : place * 2 ^ format.fractionBits + significand =
          (place + 2) * 2 ^ format.fractionBits + 0 := by
        rw [Nat.add_mul]
        omega
      rw [shape] at fits ⊢
      have field : place + 2 < 2 ^ format.exponentBits - 1 := Nat.lt_of_mul_lt_mul_right fits
      have double : significand = 2 ^ format.fractionBits * 2 := by omega
      have next : format.leastExponent + (place + 2 : Nat) - 1 = format.leastExponent + place + 1 := by
        push_cast
        ring
      rw [datum_of_fields unit field, if_neg (by omega), next, double, zpow_add_one₀ (by norm_num)]
      congr 1
      push_cast
      ring

/-! What `nearest` chooses. -/

/-- The exponent of the last place of the significand of a positive number. -/
def lastPlace (format : Format) (x : ℚ) : Int :=
  max (Int.log 2 x - format.fractionBits) format.leastExponent

/-- The significand of a positive number, rounded to its last place. -/
def significandOf (format : Format) (x : ℚ) : Int := roundHalfEven (x * (2 : ℚ) ^ (-format.lastPlace x))

theorem significandOf_le {x : ℚ} (positive : 0 < x) :
    format.significandOf x ≤ 2 ^ (format.fractionBits + 1) := by
  apply roundHalfEven_le
  have place : Int.log 2 x - format.fractionBits ≤ format.lastPlace x := le_max_left _ _
  have below : x < (2 : ℚ) ^ (Int.log 2 x + 1) := (log_lt_iff positive _).mp (Int.lt_succ _)
  rw [zpow_neg, ← div_eq_mul_inv, div_le_iff₀ (zpow_pos (by norm_num) _)]
  push_cast
  calc x ≤ (2 : ℚ) ^ (Int.log 2 x + 1) := below.le
    _ ≤ (2 : ℚ) ^ (((format.fractionBits + 1 : Nat) : Int) + format.lastPlace x) :=
      zpow_le_zpow_right₀ (by norm_num) (by push_cast; omega)
    _ = 2 ^ (format.fractionBits + 1) * (2 : ℚ) ^ format.lastPlace x := by
      rw [zpow_add₀ (by norm_num), zpow_natCast]

theorem significandOf_nonneg {x : ℚ} (positive : 0 < x) : 0 ≤ format.significandOf x := by
  apply le_roundHalfEven
  rw [Int.cast_zero]
  exact (mul_pos positive (zpow_pos (by norm_num) _)).le

theorem le_significandOf {x : ℚ} (positive : 0 < x)
    (normal : format.lastPlace x = Int.log 2 x - format.fractionBits) :
    2 ^ format.fractionBits ≤ format.significandOf x := by
  apply le_roundHalfEven
  have above : (2 : ℚ) ^ Int.log 2 x ≤ x := (log_le_iff positive _).mp (le_refl _)
  rw [normal, zpow_neg, ← div_eq_mul_inv, le_div_iff₀ (zpow_pos (by norm_num) _)]
  push_cast
  rw [← zpow_natCast, ← zpow_add₀ (by norm_num), add_sub_cancel]
  exact above

theorem nearest_eq {x : ℚ} (positive : 0 < x) : format.nearest false x =
    if (2 ^ format.exponentBits - 1) * 2 ^ format.fractionBits ≤
        (format.lastPlace x - format.leastExponent).toNat * 2 ^ format.fractionBits +
          (format.significandOf x).toNat then format.infinityBits false
    else (format.lastPlace x - format.leastExponent).toNat * 2 ^ format.fractionBits +
      (format.significandOf x).toNat := by
  unfold nearest
  rw [if_neg (not_le.mpr positive)]
  dsimp only
  rw [floorLog2_eq positive, scaled_eq, Nat.cast_one, one_mul]
  unfold signBit
  rw [if_neg Bool.false_ne_true, Nat.zero_add]
  rfl

/-- The nearest number is the rounded significand at its place, unless it is too large. -/
theorem datum_nearest {x : ℚ} (positive : 0 < x)
    (fits : (format.lastPlace x - format.leastExponent).toNat * 2 ^ format.fractionBits +
      (format.significandOf x).toNat < (2 ^ format.exponentBits - 1) * 2 ^ format.fractionBits) :
    format.datum (format.nearest false x) =
      .finite (format.significandOf x * (2 : ℚ) ^ format.lastPlace x) := by
  have nonneg : 0 ≤ format.significandOf x := significandOf_nonneg positive
  have least : format.leastExponent ≤ format.lastPlace x := le_max_right _ _
  have normal : (format.lastPlace x - format.leastExponent).toNat = 0 ∨
      2 ^ format.fractionBits ≤ (format.significandOf x).toNat := by
    rcases max_choice (Int.log 2 x - format.fractionBits) format.leastExponent with full | lowest
    · refine .inr ((Int.le_toNat nonneg).mpr ?_)
      push_cast
      exact le_significandOf positive full
    · have same : format.lastPlace x = format.leastExponent := lowest
      exact .inl (by omega)
  have small : (format.significandOf x).toNat ≤ 2 ^ (format.fractionBits + 1) := by
    rw [Int.toNat_le]
    push_cast
    exact significandOf_le positive
  have place : format.leastExponent + ((format.lastPlace x - format.leastExponent).toNat : Int) =
      format.lastPlace x := by omega
  have cast : (((format.significandOf x).toNat : Nat) : ℚ) = (format.significandOf x : ℚ) := by
    rw [← Int.cast_natCast, Int.toNat_of_nonneg nonneg]
  rw [nearest_eq positive, if_neg (not_le.mpr fits), datum_pattern normal small fits, place, cast]

theorem datum_nearest_zero (wide : 0 < 2 ^ format.exponentBits - 1) :
    format.datum (format.nearest false 0) = .finite 0 := by
  have zero := datum_of_fields (Nat.two_pow_pos format.fractionBits) wide
  rw [Nat.zero_mul, if_pos rfl, Nat.cast_zero, zero_mul] at zero
  unfold nearest
  rw [if_pos le_rfl]
  exact zero

theorem datum_infinityBits : format.datum (format.infinityBits false) = .infinite false := by
  have unit : 0 < 2 ^ format.fractionBits := Nat.two_pow_pos _
  have ones : 2 ^ format.exponentBits - 1 < 2 ^ format.exponentBits := by
    have := Nat.two_pow_pos format.exponentBits
    omega
  unfold infinityBits signBit datum
  dsimp only
  rw [if_neg Bool.false_ne_true, Nat.zero_add, Nat.mul_mod_left, Nat.mul_div_left _ unit,
    Nat.mod_eq_of_lt ones, Nat.pow_add, ← Nat.div_div_eq_div_mul, Nat.mul_div_left _ unit,
    Nat.div_eq_of_lt ones, if_pos rfl, if_pos rfl]
  rfl

/-! Which numbers round to one or more: those that miss it by half a last place at most. -/

section
variable {x : ℚ}

theorem bias_bounds (wide : 3 ≤ format.exponentBits) :
    3 ≤ format.bias ∧ 2 * format.bias + 2 = 2 ^ format.exponentBits := by
  have half : 2 ^ 2 ≤ 2 ^ (format.exponentBits - 1) := Nat.pow_le_pow_right (by decide) (by omega)
  have whole : 2 ^ format.exponentBits = 2 ^ (format.exponentBits - 1) * 2 := by
    rw [← Nat.pow_succ, Nat.succ_eq_add_one, Nat.sub_add_cancel (by omega)]
  unfold bias
  omega

theorem fits_of_lt (wide : 3 ≤ format.exponentBits) (positive : 0 < x)
    (below : x < (2 : ℚ) ^ (format.bias : Int)) :
    (format.lastPlace x - format.leastExponent).toNat * 2 ^ format.fractionBits +
      (format.significandOf x).toNat < (2 ^ format.exponentBits - 1) * 2 ^ format.fractionBits := by
  have bias := bias_bounds wide
  have small : Int.log 2 x < format.bias := (log_lt_iff positive _).mpr below
  have place : (format.lastPlace x - format.leastExponent).toNat + 2 < 2 ^ format.exponentBits - 1 := by
    unfold lastPlace leastExponent
    omega
  have significand : (format.significandOf x).toNat ≤ 2 * 2 ^ format.fractionBits := by
    rw [← Nat.pow_succ', Int.toNat_le]
    push_cast
    exact significandOf_le positive
  calc (format.lastPlace x - format.leastExponent).toNat * 2 ^ format.fractionBits +
        (format.significandOf x).toNat
      ≤ (format.lastPlace x - format.leastExponent).toNat * 2 ^ format.fractionBits +
        2 * 2 ^ format.fractionBits := Nat.add_le_add_left significand _
    _ = ((format.lastPlace x - format.leastExponent).toNat + 2) * 2 ^ format.fractionBits := by
      rw [Nat.add_mul]
    _ < (2 ^ format.exponentBits - 1) * 2 ^ format.fractionBits :=
      Nat.mul_lt_mul_of_pos_right place (Nat.two_pow_pos _)

theorem carry_iff (format : Format) (x : ℚ) :
    (2 : Int) ^ (format.fractionBits + 1) ≤ format.significandOf x ↔
      (2 ^ (format.fractionBits + 1) - 1 / 2) * (2 : ℚ) ^ format.lastPlace x ≤ x := by
  have even : ((2 ^ (format.fractionBits + 1) : Nat) : Int) % 2 = 0 := by
    rw [Nat.pow_succ]
    omega
  have rounded := even_le_roundHalfEven_iff even (x * (2 : ℚ) ^ (-format.lastPlace x))
  rw [zpow_neg, ← div_eq_mul_inv, le_div_iff₀ (zpow_pos (by norm_num) _)] at rounded
  push_cast at rounded
  unfold significandOf
  rw [zpow_neg, ← div_eq_mul_inv, rounded]

theorem significandOf_mul_lt_one (wide : 3 ≤ format.exponentBits) (positive : 0 < x) (below : x < 1 / 2) :
    format.significandOf x * (2 : ℚ) ^ format.lastPlace x < 1 := by
  have bias := (bias_bounds wide).1
  have small : Int.log 2 x < -1 := (log_lt_iff positive (-1)).mpr (by norm_num; linarith)
  have place : format.lastPlace x ≤ -2 - format.fractionBits := by
    unfold lastPlace leastExponent
    omega
  have significand : (format.significandOf x : ℚ) ≤ 2 ^ (format.fractionBits + 1) := by
    exact_mod_cast significandOf_le positive
  calc (format.significandOf x : ℚ) * 2 ^ format.lastPlace x
      ≤ 2 ^ (format.fractionBits + 1) * (2 : ℚ) ^ format.lastPlace x :=
        mul_le_mul_of_nonneg_right significand (zpow_pos (by norm_num) _).le
    _ = (2 : ℚ) ^ (((format.fractionBits + 1 : Nat) : Int) + format.lastPlace x) := by
      rw [zpow_add₀ (by norm_num), zpow_natCast]
    _ ≤ (2 : ℚ) ^ (-1 : Int) := zpow_le_zpow_right₀ (by norm_num) (by push_cast; omega)
    _ < 1 := by norm_num

theorem one_le_significandOf_mul_iff (wide : 3 ≤ format.exponentBits) (above : 1 / 2 ≤ x) (below : x < 1) :
    1 ≤ format.significandOf x * (2 : ℚ) ^ format.lastPlace x ↔
      1 - 1 / 2 ^ (format.fractionBits + 2) ≤ x := by
  have positive : 0 < x := lt_of_lt_of_le (by norm_num) above
  have bias := (bias_bounds wide).1
  have low : -1 ≤ Int.log 2 x := (log_le_iff positive (-1)).mpr (by norm_num; linarith)
  have high : Int.log 2 x < 0 := (log_lt_iff positive 0).mpr (by rwa [zpow_zero])
  have place : format.lastPlace x = -((format.fractionBits + 1 : Nat) : Int) := by
    unfold lastPlace leastExponent
    omega
  have scale : (0 : ℚ) < 2 ^ (format.fractionBits + 1) := by positivity
  have shift : (2 ^ (format.fractionBits + 1) - 1 / 2) * (2 : ℚ) ^ format.lastPlace x =
      1 - 1 / 2 ^ (format.fractionBits + 2) := by
    rw [place, zpow_neg, zpow_natCast, pow_succ _ (format.fractionBits + 1)]
    field_simp
  have whole : 1 ≤ format.significandOf x * (2 : ℚ) ^ format.lastPlace x ↔
      (2 : Int) ^ (format.fractionBits + 1) ≤ format.significandOf x := by
    rw [place, zpow_neg, zpow_natCast, ← div_eq_mul_inv, le_div_iff₀ scale, one_mul]
    exact_mod_cast Iff.rfl
  rw [whole, carry_iff, shift]

theorem not_less_one_of_one_le (wide : 3 ≤ format.exponentBits) (above : 1 ≤ x) :
    (format.datum (format.nearest false x)).less (.finite 1) = false := by
  have positive : 0 < x := lt_of_lt_of_le one_pos above
  have bias := (bias_bounds wide).1
  have log : 0 ≤ Int.log 2 x := (log_le_iff positive 0).mpr (by rwa [zpow_zero])
  have place : format.lastPlace x = Int.log 2 x - format.fractionBits := by
    unfold lastPlace leastExponent
    omega
  have significand : (2 : ℚ) ^ format.fractionBits ≤ format.significandOf x := by
    exact_mod_cast le_significandOf positive place
  rcases Nat.lt_or_ge ((format.lastPlace x - format.leastExponent).toNat * 2 ^ format.fractionBits +
      (format.significandOf x).toNat) ((2 ^ format.exponentBits - 1) * 2 ^ format.fractionBits)
    with fits | large
  · rw [datum_nearest positive fits, Datum.less_finite, decide_eq_false_iff_not, not_lt, place]
    calc (1 : ℚ) ≤ (2 : ℚ) ^ Int.log 2 x := one_le_zpow₀ (by norm_num) log
      _ = 2 ^ format.fractionBits * (2 : ℚ) ^ (Int.log 2 x - format.fractionBits) := by
        rw [← zpow_natCast, ← zpow_add₀ (by norm_num), add_sub_cancel]
      _ ≤ format.significandOf x * (2 : ℚ) ^ (Int.log 2 x - format.fractionBits) :=
        mul_le_mul_of_nonneg_right significand (zpow_pos (by norm_num) _).le
  · rw [nearest_eq positive, if_pos large, datum_infinityBits]
    rfl

/-- A number rounds to less than one exactly if it misses one by more than half a last place. -/
theorem less_one_nearest_iff (wide : 3 ≤ format.exponentBits) (nonneg : 0 ≤ x) :
    (format.datum (format.nearest false x)).less (.finite 1) = true ↔
      x < 1 - 1 / 2 ^ (format.fractionBits + 2) := by
  have margin : (1 : ℚ) / 2 ^ (format.fractionBits + 2) ≤ 1 / 2 ^ 2 :=
    one_div_le_one_div_of_le (by norm_num) (pow_le_pow_right₀ (by norm_num) (by omega))
  have small : (0 : ℚ) < 1 / 2 ^ (format.fractionBits + 2) := by positivity
  rcases nonneg.eq_or_lt with rfl | positive
  · have bias := bias_bounds wide
    rw [datum_nearest_zero (by omega)]
    exact iff_of_true (by decide) (by linarith)
  rcases lt_or_ge x 1 with below | above
  · have representable : x < (2 : ℚ) ^ (format.bias : Int) :=
      below.trans_le (one_le_zpow₀ (by norm_num) (by omega))
    rw [datum_nearest positive (fits_of_lt wide positive representable), Datum.less_finite, decide_eq_true_eq]
    rcases lt_or_ge x (1 / 2) with low | high
    · exact iff_of_true (significandOf_mul_lt_one wide positive low) (by linarith)
    · rw [← not_le, one_le_significandOf_mul_iff wide high below, not_le]
  · rw [not_less_one_of_one_le wide above]
    exact iff_of_false Bool.false_ne_true (by linarith)
/-! Which numbers are too large: those that miss the power of two above the largest finite number by half a
last place at most. -/

theorem isFinite_nearest_iff_fits (positive : 0 < x) :
    (format.datum (format.nearest false x)).isFinite = true ↔
      (format.lastPlace x - format.leastExponent).toNat * 2 ^ format.fractionBits +
        (format.significandOf x).toNat < (2 ^ format.exponentBits - 1) * 2 ^ format.fractionBits := by
  apply Iff.intro
  · intro finite
    by_contra large
    rw [nearest_eq positive, if_pos (not_lt.mp large), datum_infinityBits] at finite
    exact Bool.false_ne_true finite
  · intro fits
    rw [datum_nearest positive fits]
    rfl

theorem fits_iff_of_log_eq (wide : 3 ≤ format.exponentBits) (positive : 0 < x)
    (log : Int.log 2 x = format.bias) :
    ((format.lastPlace x - format.leastExponent).toNat * 2 ^ format.fractionBits +
        (format.significandOf x).toNat < (2 ^ format.exponentBits - 1) * 2 ^ format.fractionBits) ↔
      x < (2 : ℚ) ^ ((format.bias : Int) + 1) -
        (2 : ℚ) ^ ((format.bias : Int) - format.fractionBits - 1) := by
  have bias := bias_bounds wide
  have place : format.lastPlace x = (format.bias : Int) - format.fractionBits := by
    unfold lastPlace leastExponent
    omega
  have steps : (format.lastPlace x - format.leastExponent).toNat + 2 = 2 ^ format.exponentBits - 1 := by
    rw [place]
    unfold leastExponent
    omega
  have nonneg : 0 ≤ format.significandOf x := significandOf_nonneg positive
  have shift : (2 ^ (format.fractionBits + 1) - 1 / 2) * (2 : ℚ) ^ format.lastPlace x =
      (2 : ℚ) ^ ((format.bias : Int) + 1) - (2 : ℚ) ^ ((format.bias : Int) - format.fractionBits - 1) := by
    have top : (2 : ℚ) ^ ((format.bias : Int) + 1) =
        2 ^ (format.fractionBits + 1) * 2 ^ ((format.bias : Int) - format.fractionBits) := by
      rw [← zpow_natCast, ← zpow_add₀ (by norm_num)]
      congr 1
      push_cast
      ring
    rw [place, top, zpow_sub_one₀ (by norm_num)]
    ring
  have carry : (2 ^ format.exponentBits - 1) * 2 ^ format.fractionBits =
      (format.lastPlace x - format.leastExponent).toNat * 2 ^ format.fractionBits +
        2 ^ (format.fractionBits + 1) := by
    rw [← steps, Nat.add_mul, Nat.pow_succ']
  rw [carry, Nat.add_lt_add_iff_left, Int.toNat_lt nonneg, ← shift, ← not_le, ← not_le, ← carry_iff]
  push_cast
  exact Iff.rfl

theorem isFinite_nearest_iff (wide : 3 ≤ format.exponentBits) (nonneg : 0 ≤ x) :
    (format.datum (format.nearest false x)).isFinite = true ↔
      x < (2 : ℚ) ^ ((format.bias : Int) + 1) -
        (2 : ℚ) ^ ((format.bias : Int) - format.fractionBits - 1) := by
  have bias := bias_bounds wide
  have margin : (2 : ℚ) ^ ((format.bias : Int) - format.fractionBits - 1) ≤ (2 : ℚ) ^ (format.bias : Int) :=
    zpow_le_zpow_right₀ (by norm_num) (by omega)
  have double : (2 : ℚ) ^ ((format.bias : Int) + 1) = 2 ^ (format.bias : Int) * 2 :=
    zpow_add_one₀ (by norm_num) _
  have unit : (0 : ℚ) < 2 ^ (format.bias : Int) := zpow_pos (by norm_num) _
  rcases nonneg.eq_or_lt with rfl | positive
  · rw [datum_nearest_zero (by omega)]
    exact iff_of_true rfl (by linarith)
  rw [isFinite_nearest_iff_fits positive]
  rcases lt_trichotomy (Int.log 2 x) format.bias with small | last | large
  · have below : x < (2 : ℚ) ^ (format.bias : Int) := (log_lt_iff positive _).mp small
    exact iff_of_true (fits_of_lt wide positive below) (by linarith)
  · exact fits_iff_of_log_eq wide positive last
  · have above : (2 : ℚ) ^ ((format.bias : Int) + 1) ≤ x := (log_le_iff positive _).mp large
    have place : format.lastPlace x = Int.log 2 x - format.fractionBits := by
      unfold lastPlace leastExponent
      omega
    have full : 2 ^ format.fractionBits ≤ (format.significandOf x).toNat := by
      rw [Int.le_toNat (significandOf_nonneg positive)]
      push_cast
      exact le_significandOf positive place
    have steps : 2 ^ format.exponentBits - 1 ≤ (format.lastPlace x - format.leastExponent).toNat + 1 := by
      rw [place]
      unfold leastExponent
      omega
    apply iff_of_false
    · rw [not_lt]
      calc (2 ^ format.exponentBits - 1) * 2 ^ format.fractionBits
          ≤ ((format.lastPlace x - format.leastExponent).toNat + 1) * 2 ^ format.fractionBits :=
            Nat.mul_le_mul_right _ steps
        _ = (format.lastPlace x - format.leastExponent).toNat * 2 ^ format.fractionBits +
            2 ^ format.fractionBits := by rw [Nat.succ_mul]
        _ ≤ (format.lastPlace x - format.leastExponent).toNat * 2 ^ format.fractionBits +
            (format.significandOf x).toNat := Nat.add_le_add_left full _
    · have least : (0 : ℚ) < 2 ^ ((format.bias : Int) - format.fractionBits - 1) := zpow_pos (by norm_num) _
      linarith

end

end

end RidFirmware.Lib.Ieee.Format
