import Mathlib.Data.Finset.Lattice.Fold
import Mathlib.Data.Finset.Sort
import Mathlib.Data.String.Basic
import RidFirmware.Lib.FirstSeen
import RidFirmware.Lib.Nearest

/-! The log of the receiver and the metrics by which a baseline is accepted. The position in a record is
part of none of them. -/

namespace RidFirmware
open Lib Ieee

structure ReceiverRecord where
  timestampMs : Int
  testId : String
  messageKind : String
  valid : Bool
  deriving DecidableEq

/-- The exceptions of the evaluation, with their texts. -/
inductive PyError where
  | valueError (text : String)
  | overflowError (text : String)
  deriving DecidableEq

/-- The `float` nearest to the quotient of two `int`s, or an infinity where there is none; the divisor is
not zero. -/
def nearestQuotient (dividend divisor : Int) : Datum ℚ :=
  binary64.datum
    (binary64.nearest (decide (dividend < 0) != decide (divisor < 0)) |(dividend : ℚ) / divisor|)

/-- `dividend / divisor` of two `int`s. -/
def trueDivide (dividend divisor : Int) : Except PyError (Datum ℚ) :=
  if (nearestQuotient dividend divisor).isFinite then .ok (nearestQuotient dividend divisor)
  else .error (.overflowError "integer division result too large for a float")

/-- `min` of two `float`s: the first one, unless the second is less. -/
def floatMin (first second : Datum ℚ) : Datum ℚ := if second.less first then second else first

/-! ## Summary -/

structure Summary where
  records : Nat
  validRecords : Nat
  discoveredIds : List String
  discoveryTimeS : Option (Datum ℚ)

def summarize (records : List ReceiverRecord) : Except PyError Summary := do
  let valid := records.filter fun row => row.valid
  let ids := (valid.map fun row => row.testId).toFinset
  let first := (valid.map fun row => row.timestampMs).min?
  let last := (valid.map fun row => row.timestampMs).max?
  let discoveryTimeS ← match first, last with
    | some first, some last => some <$> trueDivide (last - first) 1000
    | _, _ => .ok none
  return {
    records := records.length
    validRecords := valid.length
    discoveredIds := ids.sort
    discoveryTimeS }

/-! ## Baseline -/

structure BaselineResult where
  discoveredIds : Finset String
  malformedPayloads : Nat
  discoveryTimeS : Option (Datum ℚ)
  primaryDeliveryRatio : Datum ℚ
  deriving DecidableEq

section
variable (records : List ReceiverRecord) (expectedIds : Finset String)

/-- `first_seen`: the time of the first valid record of each id, in the order of the log. -/
def firstSeen : List (String × Int) :=
  firstOfEach ReceiverRecord.testId ReceiverRecord.timestampMs (records.filter fun row => row.valid)

/-- `first_seen[test_id]`; the id is there. -/
def seenAt (testId : String) : Int := ((firstSeen records).lookup testId).getD 0

def discovered : Finset String := ((firstSeen records).map Prod.fst).toFinset ∩ expectedIds

/-- The last of the times at which ids are seen, less the first. -/
def timeSpread (seen : String → Int) (nonempty : expectedIds.Nonempty) : Int :=
  expectedIds.sup' nonempty seen - expectedIds.inf' nonempty seen

def discoveryTime : Except PyError (Option (Datum ℚ)) :=
  if complete : (discovered records expectedIds).card = expectedIds.card ∧ expectedIds.Nonempty then
    some <$> trueDivide (timeSpread expectedIds (seenAt records) complete.2) 1000
  else .ok none

def primaryValid (primaryKind : String) : Nat :=
  records.countP fun row => row.valid && row.messageKind = primaryKind

/-- The ratio is a quotient of a number of rows, which is never too large for a `float`. -/
def primaryRatio (primaryValid : Nat) (expectedPrimaryMessages : Int) : Datum ℚ :=
  floatMin (.finite 1) (nearestQuotient primaryValid expectedPrimaryMessages)

def evaluateBaseline (expectedPrimaryMessages : Int) (primaryKind : String := "location") :
    Except PyError BaselineResult :=
  if expectedPrimaryMessages ≤ 0 then .error (.valueError "expected_primary_messages must be positive")
  else do
    let discoveryTimeS ← discoveryTime records expectedIds
    return {
      discoveredIds := discovered records expectedIds
      malformedPayloads := records.countP fun row => !row.valid
      discoveryTimeS
      primaryDeliveryRatio := primaryRatio (primaryValid records primaryKind) expectedPrimaryMessages }

end

/-- The log of the acceptance test. -/
example : evaluateBaseline [⟨1000, "rid-1", "location", true⟩, ⟨2000, "rid-2", "location", true⟩,
      ⟨3000, "rid-1", "location", false⟩] {"rid-1", "rid-2"} 3 =
    .ok ⟨{"rid-1", "rid-2"}, 1, some (.finite 1), nearestQuotient 2 3⟩ := by
  decide +kernel

/-! ## Quotients -/

/-- The least number that is nearer to two to the 1024 than to any `float`. -/
def floatLimit : Int := 2 ^ 1024 - 2 ^ 970

section
variable {dividend divisor : Int}

theorem nearestQuotient_of_nonneg (nonneg : 0 ≤ dividend) (positive : 0 < divisor) :
    nearestQuotient dividend divisor =
      binary64.datum (binary64.nearest false ((dividend : ℚ) / divisor)) := by
  have magnitude : |(dividend : ℚ) / divisor| = dividend / divisor :=
    abs_of_nonneg (div_nonneg (Int.cast_nonneg nonneg) (Int.cast_nonneg positive.le))
  unfold nearestQuotient
  rw [magnitude, decide_eq_false (not_lt.mpr nonneg), decide_eq_false (not_lt.mpr positive.le)]
  rfl

theorem isFinite_nearestQuotient_iff (nonneg : 0 ≤ dividend) (positive : 0 < divisor) :
    (nearestQuotient dividend divisor).isFinite = true ↔ dividend < floatLimit * divisor := by
  have scale : (0 : ℚ) < divisor := Int.cast_pos.mpr positive
  have quotient : (0 : ℚ) ≤ dividend / divisor := div_nonneg (Int.cast_nonneg nonneg) scale.le
  have limit : (2 : ℚ) ^ ((binary64.bias : Int) + 1) -
      (2 : ℚ) ^ ((binary64.bias : Int) - binary64.fractionBits - 1) = (floatLimit : Int) := by
    have top : ((binary64.bias : Int) + 1) = (1024 : Nat) := rfl
    have last : ((binary64.bias : Int) - binary64.fractionBits - 1) = (970 : Nat) := rfl
    rw [top, last, zpow_natCast, zpow_natCast]
    unfold floatLimit
    rw [Int.cast_sub, Int.cast_pow, Int.cast_pow, Int.cast_ofNat]
  rw [nearestQuotient_of_nonneg nonneg positive, Format.isFinite_nearest_iff (by decide) quotient, limit,
    div_lt_iff₀ scale]
  exact_mod_cast Iff.rfl

theorem trueDivide_eq_ok (finite : (nearestQuotient dividend divisor).isFinite = true) :
    trueDivide dividend divisor = .ok (nearestQuotient dividend divisor) := if_pos finite

theorem trueDivide_eq_error (large : (nearestQuotient dividend divisor).isFinite = false) :
    trueDivide dividend divisor =
      .error (.overflowError "integer division result too large for a float") := by
  unfold trueDivide
  rw [large]
  rfl

end

theorem primaryRatio_eq_one_iff (count : Nat) {expectedPrimaryMessages : Int}
    (positive : 0 < expectedPrimaryMessages) :
    primaryRatio count expectedPrimaryMessages = .finite 1 ↔
      (expectedPrimaryMessages - count) * 2 ^ 54 ≤ expectedPrimaryMessages := by
  have scale : (0 : ℚ) < expectedPrimaryMessages := Int.cast_pos.mpr positive
  have quotient : (0 : ℚ) ≤ ((count : Int) : ℚ) / expectedPrimaryMessages :=
    div_nonneg (Int.cast_nonneg (Int.natCast_nonneg _)) scale.le
  have wide : 3 ≤ binary64.exponentBits := by decide
  have less := Format.less_one_nearest_iff wide quotient
  rw [← nearestQuotient_of_nonneg (Int.natCast_nonneg _) positive] at less
  have missing : (expectedPrimaryMessages - count) * 2 ^ 54 ≤ expectedPrimaryMessages ↔
      ¬((count : Int) : ℚ) / expectedPrimaryMessages < 1 - 1 / 2 ^ (binary64.fractionBits + 2) := by
    have whole : (1 - 1 / 2 ^ (binary64.fractionBits + 2) : ℚ) * expectedPrimaryMessages * 2 ^ 54 =
        (expectedPrimaryMessages * 2 ^ 54 - expectedPrimaryMessages : Int) := by
      rw [show binary64.fractionBits + 2 = 54 from rfl]
      push_cast
      ring
    have counted : ((count : Int) : ℚ) * 2 ^ 54 = (count * 2 ^ 54 : Int) := by push_cast; rfl
    rw [not_lt, le_div_iff₀ scale, ← mul_le_mul_iff_left₀ (show (0 : ℚ) < 2 ^ 54 by norm_num), whole,
      counted, Int.cast_le]
    omega
  rw [missing, ← less]
  unfold primaryRatio floatMin
  split_ifs with below
  · apply iff_of_false
    · intro one
      rw [one] at below
      exact absurd below (by decide)
    · exact fun not => not below
  · exact iff_of_true rfl below

/-! ## First sightings -/

def Sighted (records : List ReceiverRecord) (testId : String) : Prop :=
  ∃ row ∈ records, row.valid = true ∧ row.testId = testId

section
variable {records others : List ReceiverRecord} {expectedIds : Finset String}

theorem lookup_firstSeen (records : List ReceiverRecord) (testId : String) :
    (firstSeen records).lookup testId =
      (records.find? fun row => row.valid && decide (row.testId = testId)).map
        ReceiverRecord.timestampMs := by
  unfold firstSeen
  rw [lookup_firstOfEach, List.find?_filter]
  simp only [Bool.decide_and, Bool.decide_eq_true]

theorem mem_discovered {testId : String} :
    testId ∈ discovered records expectedIds ↔ testId ∈ expectedIds ∧ Sighted records testId := by
  unfold discovered firstSeen Sighted
  rw [Finset.mem_inter, List.mem_toFinset, mem_keys_firstOfEach, and_comm]
  simp only [List.mem_filter, and_assoc]

theorem discovered_congr (same : ∀ testId ∈ expectedIds, Sighted others testId ↔ Sighted records testId) :
    discovered others expectedIds = discovered records expectedIds := by
  ext testId
  rw [mem_discovered, mem_discovered]
  exact and_congr_right (same testId)

theorem card_discovered_iff :
    (discovered records expectedIds).card = expectedIds.card ↔
      ∀ testId ∈ expectedIds, Sighted records testId := by
  have part : discovered records expectedIds ⊆ expectedIds := Finset.inter_subset_right
  apply Iff.intro
  · intro all testId expected
    rw [← Finset.eq_of_subset_of_card_le part all.ge] at expected
    exact (mem_discovered.mp expected).2
  · intro all
    have whole : discovered records expectedIds = expectedIds :=
      part.antisymm fun testId expected => mem_discovered.mpr ⟨expected, all testId expected⟩
    rw [whole]

theorem timeSpread_congr {seen other : String → Int} (nonempty : expectedIds.Nonempty)
    (same : ∀ testId ∈ expectedIds, other testId = seen testId) :
    timeSpread expectedIds other nonempty = timeSpread expectedIds seen nonempty := by
  unfold timeSpread
  rw [Finset.sup'_congr nonempty rfl same, Finset.inf'_congr nonempty rfl same]

theorem timeSpread_nonneg (seen : String → Int) (nonempty : expectedIds.Nonempty) :
    0 ≤ timeSpread expectedIds seen nonempty := by
  obtain ⟨testId, expected⟩ := nonempty
  exact Int.sub_nonneg.mpr ((Finset.inf'_le seen expected).trans (Finset.le_sup' seen expected))

theorem discoveryTime_of_sighted (nonempty : expectedIds.Nonempty)
    (all : ∀ testId ∈ expectedIds, Sighted records testId) : discoveryTime records expectedIds =
      some <$> trueDivide (timeSpread expectedIds (seenAt records) nonempty) 1000 :=
  dif_pos ⟨card_discovered_iff.mpr all, nonempty⟩

theorem discoveryTime_of_missing
    (missing : ¬(expectedIds.Nonempty ∧ ∀ testId ∈ expectedIds, Sighted records testId)) :
    discoveryTime records expectedIds = .ok none :=
  dif_neg fun complete => missing ⟨complete.2, card_discovered_iff.mp complete.1⟩

theorem sighted_iff_lookup (testId : String) :
    Sighted records testId ↔ ((firstSeen records).lookup testId).isSome = true := by
  rw [lookup_firstSeen, Option.isSome_map, List.find?_isSome]
  unfold Sighted
  simp

theorem discoveryTime_congr
    (same : ∀ testId ∈ expectedIds, (firstSeen others).lookup testId = (firstSeen records).lookup testId) :
    discovered others expectedIds = discovered records expectedIds ∧
      discoveryTime others expectedIds = discoveryTime records expectedIds := by
  have sighted : ∀ testId ∈ expectedIds, Sighted others testId ↔ Sighted records testId := by
    intro testId expected
    rw [sighted_iff_lookup, sighted_iff_lookup, same testId expected]
  refine ⟨discovered_congr sighted, ?_⟩
  by_cases complete : expectedIds.Nonempty ∧ ∀ testId ∈ expectedIds, Sighted records testId
  · have all : ∀ testId ∈ expectedIds, Sighted others testId :=
      fun testId expected => (sighted testId expected).mpr (complete.2 testId expected)
    have seen : ∀ testId ∈ expectedIds, seenAt others testId = seenAt records testId := by
      intro testId expected
      unfold seenAt
      rw [same testId expected]
    rw [discoveryTime_of_sighted complete.1 all, discoveryTime_of_sighted complete.1 complete.2,
      timeSpread_congr complete.1 seen]
  · rw [discoveryTime_of_missing complete]
    apply discoveryTime_of_missing
    rintro ⟨nonempty, all⟩
    exact complete ⟨nonempty, fun testId expected => (sighted testId expected).mp (all testId expected)⟩

/-! ## Evaluation -/

theorem evaluateBaseline_eq {expectedPrimaryMessages : Int} (positive : 0 < expectedPrimaryMessages)
    (primaryKind : String) : evaluateBaseline records expectedIds expectedPrimaryMessages primaryKind =
      (fun discoveryTimeS => {
        discoveredIds := discovered records expectedIds
        malformedPayloads := records.countP fun row => !row.valid
        discoveryTimeS
        primaryDeliveryRatio := primaryRatio (primaryValid records primaryKind) expectedPrimaryMessages }) <$>
          discoveryTime records expectedIds :=
  if_neg (not_le.mpr positive)

/-- The first sightings of two expected ids are further apart than a `float` can say in seconds. -/
def FarApart (records : List ReceiverRecord) (expectedIds : Finset String) : Prop :=
  (∀ testId ∈ expectedIds, Sighted records testId) ∧
    ∃ early ∈ expectedIds, ∃ late ∈ expectedIds,
      floatLimit * 1000 ≤ seenAt records late - seenAt records early

theorem le_timeSpread_iff (seen : String → Int) (nonempty : expectedIds.Nonempty) (limit : Int) :
    limit ≤ timeSpread expectedIds seen nonempty ↔
      ∃ early ∈ expectedIds, ∃ late ∈ expectedIds, limit ≤ seen late - seen early := by
  apply Iff.intro
  · intro wide
    obtain ⟨late, lateExpected, last⟩ := Finset.exists_mem_eq_sup' nonempty seen
    obtain ⟨early, earlyExpected, first⟩ := Finset.exists_mem_eq_inf' nonempty seen
    unfold timeSpread at wide
    rw [last, first] at wide
    exact ⟨early, earlyExpected, late, lateExpected, wide⟩
  · rintro ⟨early, earlyExpected, late, lateExpected, wide⟩
    exact wide.trans (sub_le_sub (Finset.le_sup' seen lateExpected) (Finset.inf'_le seen earlyExpected))

theorem discoveryTime_isOk_iff :
    (discoveryTime records expectedIds).isOk = true ↔ ¬FarApart records expectedIds := by
  by_cases complete : expectedIds.Nonempty ∧ ∀ testId ∈ expectedIds, Sighted records testId
  · obtain ⟨nonempty, all⟩ := complete
    have far : FarApart records expectedIds ↔
        floatLimit * 1000 ≤ timeSpread expectedIds (seenAt records) nonempty := by
      unfold FarApart
      rw [le_timeSpread_iff]
      exact and_iff_right all
    have finite := isFinite_nearestQuotient_iff (timeSpread_nonneg (seenAt records) nonempty)
      (show (0 : Int) < 1000 by decide)
    rw [discoveryTime_of_sighted nonempty all, far, not_le, ← finite]
    cases known : (nearestQuotient (timeSpread expectedIds (seenAt records) nonempty) 1000).isFinite with
    | true =>
      rw [trueDivide_eq_ok known]
      exact iff_of_true rfl rfl
    | false =>
      rw [trueDivide_eq_error known]
      exact iff_of_false Bool.false_ne_true Bool.false_ne_true
  · rw [discoveryTime_of_missing complete]
    refine iff_of_true rfl ?_
    rintro ⟨all, early, expected, _⟩
    exact complete ⟨⟨early, expected⟩, all⟩

end

end RidFirmware
