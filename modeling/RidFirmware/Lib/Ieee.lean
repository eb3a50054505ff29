import Mathlib.Algebra.Order.Field.Rat
import Mathlib.Data.Rat.Cast.Order
import Mathlib.Data.Rat.Floor

/-! Binary interchange formats. A datum is what a bit pattern denotes: an exact number, an infinity
or no number at all. Comparisons follow the standard: none of them holds of a NaN. -/

namespace RidFirmware.Lib.Ieee

/-- What a floating point expression denotes, over the numbers of an ordered field. -/
inductive Datum (K : Type*) where
  | finite (value : K)
  | infinite (negative : Bool)
  | nan
  deriving DecidableEq

namespace Datum

variable {K L : Type*}

def isFinite : Datum K → Bool
  | .finite _ => true
  | _ => false

/-- The exact number of a finite datum. -/
def value [Zero K] : Datum K → K
  | .finite value => value
  | _ => 0

def map (f : K → L) : Datum K → Datum L
  | .finite value => .finite (f value)
  | .infinite negative => .infinite negative
  | .nan => .nan

@[simp] theorem isFinite_finite (x : K) : (Datum.finite x).isFinite = true := rfl
@[simp] theorem value_finite [Zero K] (x : K) : (Datum.finite x).value = x := rfl

theorem eq_finite_of_isFinite [Zero K] {x : Datum K} (finite : x.isFinite = true) :
    x = .finite x.value := by
  cases x <;> simp_all [isFinite]

variable [LinearOrder K]

/-- The comparison `<`. -/
def less : Datum K → Datum K → Bool
  | .finite x, .finite y => decide (x < y)
  | .finite _, .infinite negative => !negative
  | .infinite negative, .finite _ => negative
  | .infinite left, .infinite right => left && !right
  | .nan, _ => false
  | _, .nan => false

/-- The comparison `==`. -/
def same : Datum K → Datum K → Bool
  | .finite x, .finite y => decide (x = y)
  | .infinite left, .infinite right => left == right
  | _, _ => false

/-- The comparison `<=`. -/
def atMost (left right : Datum K) : Bool := left.less right || left.same right

@[simp] theorem less_finite (x y : K) : less (.finite x) (.finite y) = decide (x < y) := rfl
@[simp] theorem same_finite (x y : K) : same (.finite x) (.finite y) = decide (x = y) := rfl

@[simp] theorem atMost_finite (x y : K) : atMost (.finite x) (.finite y) = decide (x ≤ y) := by
  rw [Bool.eq_iff_iff]
  simp [atMost, le_iff_lt_or_eq]

/-! The comparisons of a finite datum are those of its number. -/

section
variable [Zero K] {bound : K} {x : Datum K}

theorem le_value (finite : x.isFinite = true) (above : atMost (.finite bound) x = true) :
    bound ≤ x.value := by
  rw [eq_finite_of_isFinite finite, atMost_finite, decide_eq_true_eq] at above
  exact above

theorem value_le (finite : x.isFinite = true) (below : x.atMost (.finite bound) = true) :
    x.value ≤ bound := by
  rw [eq_finite_of_isFinite finite, atMost_finite, decide_eq_true_eq] at below
  exact below

theorem less_iff_value_lt (finite : x.isFinite = true) :
    x.less (.finite bound) = true ↔ x.value < bound := by
  rw [eq_finite_of_isFinite finite, less_finite, decide_eq_true_eq, value_finite]

theorem less_iff_lt_value (finite : x.isFinite = true) :
    less (.finite bound) x = true ↔ bound < x.value := by
  rw [eq_finite_of_isFinite finite, less_finite, decide_eq_true_eq, value_finite]

end

end Datum

/-- `round`, `lround` and `llround`: the nearest integer, halves away from zero. -/
def lround {K : Type*} [Field K] [LinearOrder K] [FloorRing K] (x : K) : Int :=
  if 0 ≤ x then ⌊x + 1 / 2⌋ else -⌊-x + 1 / 2⌋

namespace Datum

variable {K : Type*} [Field K]

/-- A datum whose number is rational, among the numbers of a larger field. -/
def cast (x : Datum ℚ) : Datum K := x.map fun (value : ℚ) => (value : K)

@[simp] theorem isFinite_cast (x : Datum ℚ) : (x.cast : Datum K).isFinite = x.isFinite := by
  cases x <;> rfl

@[simp] theorem value_cast (x : Datum ℚ) : (x.cast : Datum K).value = (x.value : K) := by
  cases x <;> simp [cast, map, value]

variable [LinearOrder K] [IsStrictOrderedRing K]

@[simp] theorem atMost_cast (x y : Datum ℚ) : atMost (x.cast : Datum K) y.cast = x.atMost y := by
  cases x <;> cases y <;> simp [cast, map, atMost, less, same]

end Datum

/-- The widths of the exponent and of the stored fraction of a format. -/
structure Format where
  exponentBits : Nat
  fractionBits : Nat

def binary32 : Format := ⟨8, 23⟩
def binary64 : Format := ⟨11, 52⟩

namespace Format

variable (format : Format)

def bias : Nat := 2 ^ (format.exponentBits - 1) - 1

/-- The exponent of the last place of the subnormal numbers. -/
def leastExponent : Int := 1 - format.bias - format.fractionBits

/-- The number `significand * 2 ^ exponent`. -/
def scaled (significand : Nat) (exponent : Int) : ℚ :=
  mkRat (significand * 2 ^ exponent.toNat) (2 ^ (-exponent).toNat)

/-- What a bit pattern denotes. -/
def datum (bits : Nat) : Datum ℚ :=
  let fraction := bits % 2 ^ format.fractionBits
  let exponent := bits / 2 ^ format.fractionBits % 2 ^ format.exponentBits
  let negative := bits / 2 ^ (format.fractionBits + format.exponentBits) % 2 == 1
  if exponent = 2 ^ format.exponentBits - 1 then
    if fraction = 0 then .infinite negative else .nan
  else
    let magnitude :=
      if exponent = 0 then scaled fraction format.leastExponent
      else scaled (2 ^ format.fractionBits + fraction) (format.leastExponent + exponent - 1)
    .finite (if negative then -magnitude else magnitude)

/-- The greatest `k` with `2 ^ k` at most a positive number. -/
def floorLog2 (x : ℚ) : Int :=
  let guess : Int := x.num.natAbs.log2 - x.den.log2
  if scaled 1 guess ≤ x then guess else guess - 1

/-- Round to the nearest integer, ties to even. -/
def roundHalfEven (x : ℚ) : Int :=
  let below := x.floor
  let rest := x - below
  if rest < 1 / 2 then below
  else if 1 / 2 < rest then below + 1
  else if below % 2 = 0 then below else below + 1

def signBit (negative : Bool) : Nat :=
  if negative then 2 ^ (format.fractionBits + format.exponentBits) else 0

def infinityBits (negative : Bool) : Nat :=
  format.signBit negative + (2 ^ format.exponentBits - 1) * 2 ^ format.fractionBits

def nanBits (negative : Bool) : Nat :=
  format.infinityBits negative + 2 ^ (format.fractionBits - 1)

/-- The pattern nearest to a number of given sign and magnitude, ties to even. The significand is
added to the exponent field, so that a carry out of the fraction moves to the next exponent. -/
def nearest (negative : Bool) (magnitude : ℚ) : Nat :=
  if magnitude ≤ 0 then format.signBit negative
  else
    let exponent := max (floorLog2 magnitude - format.fractionBits) format.leastExponent
    let significand := (roundHalfEven (magnitude * scaled 1 (-exponent))).toNat
    let bits := (exponent - format.leastExponent).toNat * 2 ^ format.fractionBits + significand
    if (2 ^ format.exponentBits - 1) * 2 ^ format.fractionBits ≤ bits then
      format.infinityBits negative
    else format.signBit negative + bits

end Format

/-- One and minus two and a half, and the double nearest to one tenth. -/
example : binary32.datum 0x3f800000 = .finite 1 ∧ binary32.datum 0xc0200000 = .finite (-5 / 2) ∧
    binary64.nearest false (1 / 10) = 0x3fb999999999999a := by decide +kernel

end RidFirmware.Lib.Ieee
