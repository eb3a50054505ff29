import Mathlib.Data.Nat.Digits.Lemmas
import RidFirmware.Lib.Nearest
import RidFirmware.Lib.Numeral

/-! Numbers written so that the readers of the C library read them back: integers in their fewest digits, and
doubles in hexadecimal, which is exact. -/

namespace RidFirmware.Lib.Numeral
open Ieee

/-! Digits. -/

def digitByte (value : Nat) : UInt8 := UInt8.ofNat (if value < 10 then 0x30 + value else 0x57 + value)

theorem digitValue_digitByte {base value : Nat} (small : value < base) (most : base ≤ 36) :
    digitValue base (digitByte value) = some value := by
  have known : ∀ value < 36, toLower (digitByte value) = digitByte value ∧
      (value < 10 → 0x30 ≤ digitByte value ∧ digitByte value ≤ 0x39 ∧
        (digitByte value).toNat - 0x30 = value) ∧
      (10 ≤ value → ¬(0x30 ≤ digitByte value ∧ digitByte value ≤ 0x39) ∧ 0x61 ≤ digitByte value ∧
        digitByte value ≤ 0x7a ∧ (digitByte value).toNat - 0x57 = value) := by decide
  obtain ⟨lower, digit, letter⟩ := known value (by omega)
  have read : (if 0x30 ≤ digitByte value ∧ digitByte value ≤ 0x39 then (digitByte value).toNat - 0x30
      else if 0x61 ≤ digitByte value ∧ digitByte value ≤ 0x7a then (digitByte value).toNat - 0x57
      else base) = value := by
    rcases Nat.lt_or_ge value 10 with low | high
    · obtain ⟨above, below, same⟩ := digit low
      rw [if_pos ⟨above, below⟩, same]
    · obtain ⟨no, above, below, same⟩ := letter high
      rw [if_neg no, if_pos ⟨above, below⟩, same]
  unfold digitValue
  dsimp only
  rw [lower, read, if_pos small]

theorem digitValue_lt {base value : Nat} {byte : UInt8} (read : digitValue base byte = some value) :
    value < base := by
  unfold digitValue at read
  dsimp only at read
  generalize (if 0x30 ≤ toLower byte ∧ toLower byte ≤ 0x39 then (toLower byte).toNat - 0x30
    else if 0x61 ≤ toLower byte ∧ toLower byte ≤ 0x7a then (toLower byte).toNat - 0x57
    else base) = found at read
  split_ifs at read with small
  rw [← Option.some.inj read]
  exact small

/-- Reading stops where a text does not go on with a digit. -/
def Stops (base : Nat) (rest : Bytes) : Prop := ∀ byte ∈ rest.head?, digitValue base byte = none

theorem stops_nil (base : Nat) : Stops base [] := nofun

theorem readDigits_stops {base : Nat} {rest : Bytes} (stops : Stops base rest) :
    readDigits base rest = ([], rest) := by
  cases rest with
  | nil => rfl
  | cons byte rest =>
    have none : digitValue base byte = .none := stops byte rfl
    unfold readDigits
    rw [none]

theorem readDigits_written {base : Nat} (most : base ≤ 36) {digits : List Nat}
    (small : ∀ digit ∈ digits, digit < base) {rest : Bytes} (stops : Stops base rest) :
    readDigits base (digits.map digitByte ++ rest) = (digits, rest) := by
  induction digits with
  | nil => exact readDigits_stops stops
  | cons digit digits ih =>
    have later := ih fun other member => small other (List.mem_cons_of_mem _ member)
    have read := digitValue_digitByte (small digit List.mem_cons_self) most
    rw [List.map_cons, List.cons_append]
    unfold readDigits
    rw [read, later]

theorem readDigits_length (base : Nat) (text : Bytes) :
    (readDigits base text).1.length + (readDigits base text).2.length = text.length ∧
      ∀ digit ∈ (readDigits base text).1, digit < base := by
  induction text with
  | nil => exact ⟨rfl, nofun⟩
  | cons byte rest ih =>
    unfold readDigits
    cases read : digitValue base byte with
    | none => exact ⟨Nat.zero_add _, nofun⟩
    | some value =>
      dsimp only
      refine ⟨?_, ?_⟩
      · rw [List.length_cons, List.length_cons]
        omega
      · intro digit member
        rcases List.mem_cons.mp member with rfl | later
        · exact digitValue_lt read
        · exact ih.2 digit later

/-! Integers. -/

/-- The digits of a number, the most significant first. -/
def digitsOf (base value : Nat) : List Nat := if value = 0 then [0] else (Nat.digits base value).reverse

def literal (base value : Nat) : Bytes := (digitsOf base value).map digitByte

theorem ofDigits_digitsOf (base value : Nat) : ofDigits base (digitsOf base value) = value := by
  unfold ofDigits digitsOf
  split_ifs with zero
  · rw [zero]
    rfl
  · rw [List.reverse_reverse, Nat.ofDigits_digits]

theorem digitsOf_ne_nil (base value : Nat) : digitsOf base value ≠ [] := by
  unfold digitsOf
  split_ifs with zero
  · exact List.cons_ne_nil _ _
  · rw [ne_eq, List.reverse_eq_nil_iff, Nat.digits_eq_nil_iff_eq_zero]
    exact zero

section
variable {base : Nat} (wide : 1 < base)
include wide

theorem digitsOf_lt (value : Nat) : ∀ digit ∈ digitsOf base value, digit < base := by
  unfold digitsOf
  split_ifs
  · intro digit member
    rw [List.mem_singleton.mp member]
    omega
  · intro digit member
    exact Nat.digits_lt_base wide (List.mem_reverse.mp member)

theorem digitsOf_length_le {digits : List Nat} (some : digits ≠ [])
    (small : ∀ digit ∈ digits, digit < base) :
    (digitsOf base (ofDigits base digits)).length ≤ digits.length := by
  unfold digitsOf
  split_ifs
  · exact List.length_pos_iff.mpr some
  · have bound := Nat.ofDigits_lt_base_pow_length wide (l := digits.reverse)
      (fun digit member => small digit (List.mem_reverse.mp member))
    rw [List.length_reverse] at bound
    rw [List.length_reverse, Nat.digits_length_le_iff wide]
    exact bound

theorem digitsOf_length_le_of_lt {value count : Nat} (some : 0 < count) (small : value < base ^ count) :
    (digitsOf base value).length ≤ count := by
  unfold digitsOf
  split_ifs
  · exact some
  · rw [List.length_reverse, Nat.digits_length_le_iff wide]
    exact small

end

theorem literal_length (base value : Nat) : (literal base value).length = (digitsOf base value).length :=
  List.length_map _

theorem fromChars_literal {value : Nat} (small : value < 2 ^ 32) :
    fromChars (literal 10 value) = some (value, []) := by
  have read := readDigits_written (by decide : 10 ≤ 36) (digitsOf_lt (by decide : 1 < 10) value)
    (stops_nil 10)
  rw [List.append_nil] at read
  unfold fromChars literal
  rw [read]
  dsimp only
  rw [if_neg (digitsOf_ne_nil 10 value), ofDigits_digitsOf, if_neg (by omega)]

theorem literal_length_le {text : Bytes} {value : Nat} (read : fromChars text = some (value, [])) :
    (literal 10 value).length ≤ text.length := by
  have digits := readDigits_length 10 text
  unfold fromChars at read
  dsimp only at read
  split_ifs at read with none large
  obtain ⟨same, rest⟩ := Prod.mk.inj (Option.some.inj read)
  have fewest := digitsOf_length_le (by decide : 1 < 10) none digits.2
  rw [same] at fewest
  rw [rest, List.length_nil, Nat.add_zero] at digits
  rw [literal_length, ← digits.1]
  exact fewest

end RidFirmware.Lib.Numeral

namespace RidFirmware.Lib.Ieee.Format

/-! Exact numbers of a format. -/

variable {format : Format}

theorem roundHalfEven_intCast (value : Int) : roundHalfEven (value : ℚ) = value :=
  le_antisymm (roundHalfEven_le (le_refl _)) (le_roundHalfEven (le_refl _))

theorem nearest_sign (negative : Bool) (magnitude : ℚ) :
    format.nearest negative magnitude = format.signBit negative + format.nearest false magnitude := by
  have positive : format.signBit false = 0 := rfl
  unfold nearest infinityBits
  dsimp only
  rw [positive, Nat.zero_add, Nat.zero_add]
  split_ifs <;> rfl

theorem nearest_scaled {place significand : Nat} (some : 0 < significand)
    (normal : place = 0 ∨ 2 ^ format.fractionBits ≤ significand)
    (small : significand < 2 ^ (format.fractionBits + 1))
    (fits : place * 2 ^ format.fractionBits + significand <
      (2 ^ format.exponentBits - 1) * 2 ^ format.fractionBits) :
    format.nearest false (scaled significand (format.leastExponent + place)) =
      place * 2 ^ format.fractionBits + significand := by
  have unit : (0 : ℚ) < 2 ^ (format.leastExponent + place : Int) := zpow_pos (by norm_num) _
  have positive : 0 < scaled significand (format.leastExponent + place) := by
    rw [scaled_eq]
    exact mul_pos (by exact_mod_cast some) unit
  have split : ∀ count : Nat, (2 : ℚ) ^ ((count : Int) + (format.leastExponent + place)) =
      2 ^ count * (2 : ℚ) ^ (format.leastExponent + place : Int) := by
    intro count
    rw [zpow_add₀ (by norm_num), zpow_natCast]
  have below : Int.log 2 (scaled significand (format.leastExponent + place)) <
      (format.fractionBits + 1 : Nat) + (format.leastExponent + place) := by
    rw [log_lt_iff positive, scaled_eq, split]
    have short : (significand : ℚ) < 2 ^ (format.fractionBits + 1) := by exact_mod_cast small
    exact mul_lt_mul_of_pos_right short unit
  have above : place = 0 ∨ (format.fractionBits : Int) + (format.leastExponent + place) ≤
      Int.log 2 (scaled significand (format.leastExponent + place)) := by
    refine normal.imp_right fun full => ?_
    rw [log_le_iff positive, scaled_eq, split]
    have long : (2 : ℚ) ^ format.fractionBits ≤ significand := by exact_mod_cast full
    exact mul_le_mul_of_nonneg_right long unit.le
  have last : format.lastPlace (scaled significand (format.leastExponent + place)) =
      format.leastExponent + place := by
    unfold lastPlace
    push_cast at below
    rcases above with lowest | full
    · subst lowest
      rw [Nat.cast_zero, add_zero] at below ⊢
      exact max_eq_right (by omega)
    · rw [max_eq_left (by omega)]
      omega
  have isExact : format.significandOf (scaled significand (format.leastExponent + place)) =
      (significand : Int) := by
    unfold significandOf
    rw [last, scaled_eq, mul_assoc, ← zpow_add₀ (by norm_num), add_neg_cancel, zpow_zero, mul_one]
    exact roundHalfEven_intCast significand
  have index : (format.leastExponent + place - format.leastExponent).toNat = place := by omega
  rw [nearest_eq positive, last, isExact, index, Int.toNat_natCast, if_neg (not_le.mpr fits)]

/-- The significand of a finite pattern without its sign, and its place above the lowest one. -/
def wholeSignificand (format : Format) (pattern : Nat) : Nat :=
  if pattern / 2 ^ format.fractionBits = 0 then pattern
  else pattern % 2 ^ format.fractionBits + 2 ^ format.fractionBits

def placeOf (format : Format) (pattern : Nat) : Nat := pattern / 2 ^ format.fractionBits - 1

theorem wholeSignificand_lt (pattern : Nat) :
    format.wholeSignificand pattern < 2 ^ (format.fractionBits + 1) := by
  have unit : 0 < 2 ^ format.fractionBits := Nat.two_pow_pos _
  have rest := Nat.mod_lt pattern unit
  unfold wholeSignificand
  rw [Nat.pow_succ]
  split_ifs with low
  · have short := Nat.lt_of_div_eq_zero unit low
    omega
  · omega

theorem nearest_pattern {pattern : Nat}
    (finite : pattern < (2 ^ format.exponentBits - 1) * 2 ^ format.fractionBits) :
    format.nearest false (scaled (format.wholeSignificand pattern)
      (format.leastExponent + format.placeOf pattern)) = pattern := by
  have unit : 0 < 2 ^ format.fractionBits := Nat.two_pow_pos _
  have parts : format.placeOf pattern * 2 ^ format.fractionBits + format.wholeSignificand pattern =
      pattern := by
    unfold placeOf wholeSignificand
    split_ifs with low
    · rw [low, Nat.zero_sub, Nat.zero_mul, Nat.zero_add]
    · have division := Nat.div_add_mod' pattern (2 ^ format.fractionBits)
      rw [Nat.sub_mul, Nat.one_mul]
      have high : 2 ^ format.fractionBits ≤ pattern / 2 ^ format.fractionBits * 2 ^ format.fractionBits :=
        Nat.le_mul_of_pos_left _ (Nat.pos_of_ne_zero low)
      omega
  rcases Nat.eq_zero_or_pos (format.wholeSignificand pattern) with none | some
  · have zero : pattern = 0 := by
      unfold wholeSignificand at none
      split_ifs at none
      · exact none
      · omega
    rw [none, zero, scaled_eq, Nat.cast_zero, zero_mul]
    rfl
  · have normal : format.placeOf pattern = 0 ∨ 2 ^ format.fractionBits ≤ format.wholeSignificand pattern := by
      unfold placeOf wholeSignificand
      split_ifs with low
      · left
        rw [low]
      · right
        omega
    rw [nearest_scaled some normal (wholeSignificand_lt pattern) (by rwa [parts]), parts]

end RidFirmware.Lib.Ieee.Format

namespace RidFirmware.Lib.Numeral
open Ieee Ieee.Format

/-! Doubles. -/

def exponentText (exponent : Int) : Bytes :=
  0x70 :: ((if exponent < 0 then [0x2d] else []) ++ literal 10 exponent.natAbs)

def magnitudeText (pattern : Nat) : Bytes :=
  if pattern < binary64.infinityBits false then
    [0x30, 0x78] ++ literal 16 (binary64.wholeSignificand pattern) ++
      exponentText (binary64.leastExponent + binary64.placeOf pattern)
  else if pattern = binary64.infinityBits false then [0x69, 0x6e, 0x66]
  else [0x6e, 0x61, 0x6e]

def doubleText (bits : Nat) : Bytes :=
  (if bits / 2 ^ 63 = 0 then [] else [0x2d]) ++ magnitudeText (bits % 2 ^ 63)

/-- One and a half, with all its digits. -/
example : doubleText 0x3ff8000000000000 = ascii "0x18000000000000p-52" := by decide +kernel

/-- The patterns that have a text of their own: of the numbers that are none, only those without a payload. -/
structure ReadableDouble (bits : Nat) : Prop where
  fits : bits < 2 ^ 64
  known : bits % 2 ^ 63 ≤ binary64.infinityBits false ∨ bits % 2 ^ 63 = binary64.nanBits false

theorem readSign_literal {base : Nat} (wide : 1 < base) (most : base ≤ 36) (value : Nat) :
    readSign (literal base value) = (false, literal base value) := by
  have plain : ∀ digit < 36, digitByte digit ≠ 0x2d ∧ digitByte digit ≠ 0x2b := by decide
  unfold literal
  have small := digitsOf_lt wide value
  cases digits : digitsOf base value with
  | nil => exact absurd digits (digitsOf_ne_nil base value)
  | cons digit rest =>
    rw [digits] at small
    have first := small digit List.mem_cons_self
    obtain ⟨noMinus, noPlus⟩ := plain digit (by omega)
    rw [List.map_cons]
    unfold readSign
    dsimp only
    rw [if_neg noMinus, if_neg noPlus]

theorem readExponent_exponentText (exponent : Int) :
    readExponent 0x70 (exponentText exponent) = (exponent, []) := by
  have digits := readDigits_written (by decide : 10 ≤ 36) (digitsOf_lt (by decide : 1 < 10) exponent.natAbs)
    (stops_nil 10)
  rw [List.append_nil] at digits
  have sign : readSign ((if exponent < 0 then [0x2d] else []) ++ literal 10 exponent.natAbs) =
      (decide (exponent < 0), literal 10 exponent.natAbs) := by
    by_cases negative : exponent < 0
    · rw [if_pos negative, decide_eq_true negative]
      rfl
    · rw [if_neg negative, decide_eq_false negative]
      exact readSign_literal (by decide) (by decide) _
  have marker : ¬toLower 0x70 ≠ 0x70 := by decide
  have read : readDigits 10 (literal 10 exponent.natAbs) = (digitsOf 10 exponent.natAbs, []) := digits
  unfold readExponent exponentText
  dsimp only
  rw [if_neg marker, sign]
  dsimp only
  rw [read]
  dsimp only
  rw [if_neg (digitsOf_ne_nil 10 _), ofDigits_digitsOf]
  congr 1
  split_ifs with negative
  · have below := of_decide_eq_true negative
    omega
  · have above := of_decide_eq_false (Bool.eq_false_iff.mpr negative)
    omega

theorem readSignificand_literal (significand : Nat) (exponent : Int) :
    readSignificand 16 (literal 16 significand ++ exponentText exponent) =
      some (significand, 0, exponentText exponent) := by
  have stops : Stops 16 (exponentText exponent) := by
    intro byte first
    rw [← Option.some.inj first]
    decide
  have digits := readDigits_written (by decide : 16 ≤ 36) (digitsOf_lt (by decide : 1 < 16) significand) stops
  unfold readSignificand literal
  rw [digits]
  dsimp only [exponentText]
  rw [if_neg (fun none => digitsOf_ne_nil 16 significand none.1)]
  show some (ofDigits 16 (digitsOf 16 significand ++ []), 0, exponentText exponent) = _
  rw [List.append_nil, ofDigits_digitsOf]
  rfl

theorem magnitudeText_sign (pattern : Nat) :
    (magnitudeText pattern).dropWhile isSpace = magnitudeText pattern ∧
      readSign (magnitudeText pattern) = (false, magnitudeText pattern) := by
  unfold magnitudeText
  split_ifs
  · exact ⟨rfl, rfl⟩
  · exact ⟨rfl, rfl⟩
  · exact ⟨rfl, rfl⟩

theorem signBit_binary64 (negative : Bool) :
    binary64.signBit negative = if negative then 2 ^ 63 else 0 := rfl

theorem infinityBits_sign (negative : Bool) :
    binary64.infinityBits negative = binary64.signBit negative + binary64.infinityBits false := by
  unfold infinityBits
  rw [show binary64.signBit false = 0 from rfl, Nat.zero_add]

theorem nanBits_sign (negative : Bool) :
    binary64.nanBits negative = binary64.signBit negative + binary64.nanBits false := by
  unfold nanBits
  rw [infinityBits_sign, Nat.add_assoc]

theorem strtod_magnitudeText {negative : Bool} {pattern : Nat} {text : Bytes}
    (noSpace : text.dropWhile isSpace = text) (sign : readSign text = (negative, magnitudeText pattern))
    (known : pattern ≤ binary64.infinityBits false ∨ pattern = binary64.nanBits false) :
    strtod text = some (binary64.signBit negative + pattern, []) := by
  unfold strtod
  rw [noSpace, sign]
  dsimp only
  unfold magnitudeText
  by_cases finite : pattern < binary64.infinityBits false
  · -- neither name begins with a zero
    have noInfinity : ∀ rest : Bytes, (ascii "infinity").isPrefixOf
        (([0x30, 0x78] ++ rest).map toLower) = false := fun _ => rfl
    have noInf : ∀ rest : Bytes, (ascii "inf").isPrefixOf (([0x30, 0x78] ++ rest).map toLower) = false :=
      fun _ => rfl
    have noNan : ∀ rest : Bytes, (ascii "nan").isPrefixOf (([0x30, 0x78] ++ rest).map toLower) = false :=
      fun _ => rfl
    have hexadecimal : ∀ rest : Bytes, (ascii "0x").isPrefixOf (([0x30, 0x78] ++ rest).map toLower) = true :=
      fun _ => rfl
    have digits : ∀ rest : Bytes, ([0x30, 0x78] ++ rest).drop 2 = rest := fun _ => rfl
    rw [if_pos finite, List.append_assoc, noInfinity, noInf, noNan, hexadecimal, digits,
      readSignificand_literal, if_neg Bool.false_ne_true, if_neg Bool.false_ne_true,
      if_neg Bool.false_ne_true, if_pos rfl]
    dsimp only
    rw [readExponent_exponentText]
    dsimp only
    have power : power 2 (binary64.wholeSignificand pattern)
        (binary64.leastExponent + binary64.placeOf pattern - 4 * (0 : Nat)) =
        scaled (binary64.wholeSignificand pattern)
          (binary64.leastExponent + binary64.placeOf pattern) := by
      rw [Nat.cast_zero, mul_zero, sub_zero]
      rfl
    rw [power, nearest_sign, nearest_pattern]
    have bound : binary64.infinityBits false =
      (2 ^ binary64.exponentBits - 1) * 2 ^ binary64.fractionBits := by decide
    rwa [bound] at finite
  · rw [if_neg finite]
    by_cases infinite : pattern = binary64.infinityBits false
    · rw [if_pos infinite, infinite, ← infinityBits_sign]
      rfl
    · have none : pattern = binary64.nanBits false := by
        rcases known with most | same
        · omega
        · exact same
      rw [if_neg infinite, none, ← nanBits_sign]
      rfl

/-- A double is read back from its text. -/
theorem strtod_doubleText {bits : Nat} (readable : ReadableDouble bits) :
    strtod (doubleText bits) = some (bits, []) := by
  have fits := readable.fits
  obtain ⟨noSpace, plain⟩ := magnitudeText_sign (bits % 2 ^ 63)
  unfold doubleText
  by_cases positive : bits / 2 ^ 63 = 0
  · rw [if_pos positive, List.nil_append, strtod_magnitudeText noSpace plain readable.known,
      signBit_binary64, if_neg Bool.false_ne_true]
    congr 2
    omega
  · have sign : readSign ([0x2d] ++ magnitudeText (bits % 2 ^ 63)) =
        (true, magnitudeText (bits % 2 ^ 63)) := rfl
    rw [if_neg positive, strtod_magnitudeText rfl sign readable.known, signBit_binary64, if_pos rfl]
    congr 2
    omega

/-! The characters of a text. -/

/-- `isgraph` of the C locale, of every character: what can be shown and is no space. -/
def Graphic (text : Bytes) : Prop := ∀ byte ∈ text, 0x21 ≤ byte ∧ byte ≤ 0x7e

theorem Graphic.append {first second : Bytes} (one : Graphic first) (other : Graphic second) :
    Graphic (first ++ second) :=
  fun byte member => (List.mem_append.mp member).elim (one byte) (other byte)

theorem Graphic.noSpace {text : Bytes} (graphic : Graphic text) : ∀ byte ∈ text, isSpace byte = false := by
  intro byte member
  obtain ⟨above, _⟩ := graphic byte member
  have low : 0x21 ≤ byte.toNat := UInt8.le_iff_toNat_le.mp above
  unfold isSpace
  rw [Bool.or_eq_false_iff, Bool.and_eq_false_iff]
  refine ⟨?_, .inr ?_⟩
  · rw [beq_eq_false_iff_ne]
    intro same
    rw [same] at low
    exact absurd low (by decide)
  · rw [decide_eq_false_iff_not, UInt8.le_iff_toNat_le]
    intro below
    have most : byte.toNat ≤ 13 := below
    omega

theorem literal_graphic {base : Nat} (wide : 1 < base) (most : base ≤ 36) (value : Nat) :
    Graphic (literal base value) := by
  have shown : ∀ digit < 36, 0x21 ≤ digitByte digit ∧ digitByte digit ≤ 0x7e := by decide
  intro byte member
  obtain ⟨digit, isDigit, rfl⟩ := List.mem_map.mp member
  have small := digitsOf_lt wide value digit isDigit
  exact shown digit (by omega)

theorem literal_ne_nil (base value : Nat) : literal base value ≠ [] :=
  fun none => digitsOf_ne_nil base value (List.map_eq_nil_iff.mp none)

instance (text : Bytes) : Decidable (Graphic text) :=
  List.decidableBAll (fun byte => 0x21 ≤ byte ∧ byte ≤ 0x7e) text

theorem exponentText_graphic (exponent : Int) : Graphic (exponentText exponent) := by
  have digits := literal_graphic (by decide : 1 < 10) (by decide) exponent.natAbs
  unfold exponentText
  split_ifs
  · exact Graphic.append (by decide : Graphic [0x70, 0x2d]) digits
  · exact Graphic.append (by decide : Graphic [0x70]) digits

theorem doubleText_graphic (bits : Nat) : Graphic (doubleText bits) := by
  have sign : Graphic (if bits / 2 ^ 63 = 0 then [] else [0x2d]) := by
    split_ifs
    · decide
    · decide
  apply sign.append
  unfold magnitudeText
  by_cases finite : bits % 2 ^ 63 < binary64.infinityBits false
  · rw [if_pos finite]
    have marker : Graphic [0x30, 0x78] := by decide
    exact (marker.append (literal_graphic (by decide) (by decide) _)).append (exponentText_graphic _)
  · rw [if_neg finite]
    split_ifs
    · decide
    · decide

theorem doubleText_ne_nil (bits : Nat) : doubleText bits ≠ [] := by
  unfold doubleText magnitudeText
  split_ifs <;> exact List.cons_ne_nil _ _

theorem doubleText_length (bits : Nat) : (doubleText bits).length ≤ 23 := by
  have sign : ∀ negative : Prop, [Decidable negative] →
      (if negative then [] else [(0x2d : UInt8)]).length ≤ 1 ∧
        (if negative then [(0x2d : UInt8)] else []).length ≤ 1 := by
    intro negative _
    split_ifs
    · exact ⟨by decide, by decide⟩
    · exact ⟨by decide, by decide⟩
  have significand := digitsOf_length_le_of_lt (by decide : 1 < 16) (by decide : 0 < 14)
    ((@wholeSignificand_lt binary64 (bits % 2 ^ 63)).trans_le (by decide))
  have place : binary64.placeOf (bits % 2 ^ 63) ≤ 2046 := by
    have fraction : binary64.fractionBits = 52 := rfl
    unfold placeOf
    rw [fraction]
    omega
  have least : binary64.leastExponent = -1074 := by decide
  have exponent : (digitsOf 10 (binary64.leastExponent + binary64.placeOf (bits % 2 ^ 63)).natAbs).length ≤ 4 :=
    digitsOf_length_le_of_lt (by decide) (by decide) (by omega)
  have front := (sign (bits / 2 ^ 63 = 0)).1
  have back := (sign (binary64.leastExponent + binary64.placeOf (bits % 2 ^ 63) < 0)).2
  unfold doubleText magnitudeText exponentText
  rw [List.length_append]
  split_ifs at front back ⊢ <;> simp only [List.length_append, List.length_cons, List.length_nil,
    literal_length] at front back ⊢ <;> omega

end RidFirmware.Lib.Numeral
