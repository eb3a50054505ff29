import RidFirmware.Lib.Rounding

/-! Numbers sent as integers: so many units above an offset, rounded, and kept between two bounds. Within the
bounds half a unit is lost, and nothing is lost a second time. -/

namespace RidFirmware.Lib.Ieee

section
variable {K : Type*} [Field K] [LinearOrder K] [IsStrictOrderedRing K] [FloorRing K]

theorem lround_intCast (n : Int) : lround (n : K) = n :=
  le_antisymm (lround_le (le_refl _)) (le_lround (le_refl _))

/-- `scale` units to one, counted from `-offset`. -/
structure Quantizer (K : Type*) [Field K] [LinearOrder K] where
  scale : K
  offset : K
  least : Int
  most : Int
  positive : 0 < scale
  ordered : least ≤ most

namespace Quantizer

variable (quantizer : Quantizer K)

/-- The number an integer stands for. -/
def value (n : Int) : K := n / quantizer.scale - quantizer.offset

/-- The integer a number is sent as. -/
def code (x : K) : Int :=
  max quantizer.least (min quantizer.most (lround ((x + quantizer.offset) * quantizer.scale)))

/-- The number a receiver has of it. -/
def received (x : K) : K := quantizer.value (quantizer.code x)

def Sent (n : Int) : Prop := quantizer.least ≤ n ∧ n ≤ quantizer.most

def Covers (x : K) : Prop := quantizer.value quantizer.least ≤ x ∧ x ≤ quantizer.value quantizer.most

omit [IsStrictOrderedRing K] in
theorem sent_code (x : K) : quantizer.Sent (quantizer.code x) := by
  have ordered := quantizer.ordered
  unfold Sent code
  omega

variable {quantizer}

omit [IsStrictOrderedRing K] [FloorRing K] in
theorem units_value (n : Int) : (quantizer.value n + quantizer.offset) * quantizer.scale = n := by
  unfold value
  rw [sub_add_cancel, div_mul_cancel₀ _ quantizer.positive.ne']

theorem code_value {n : Int} (sent : quantizer.Sent n) : quantizer.code (quantizer.value n) = n := by
  unfold code
  rw [units_value, lround_intCast]
  unfold Sent at sent
  omega

theorem code_received (x : K) : quantizer.code (quantizer.received x) = quantizer.code x :=
  code_value (sent_code quantizer x)

/-- The second time nothing is lost. -/
theorem received_received (x : K) : quantizer.received (quantizer.received x) = quantizer.received x :=
  congrArg quantizer.value (code_received x)

theorem value_le_value {n m : Int} (le : n ≤ m) : quantizer.value n ≤ quantizer.value m := by
  unfold value
  have cast : (n : K) ≤ m := by exact_mod_cast le
  exact sub_le_sub_right (div_le_div_of_nonneg_right cast quantizer.positive.le) _

theorem le_code {n : Int} {x : K} (high : n ≤ quantizer.most) (above : quantizer.value n ≤ x) :
    n ≤ quantizer.code x := by
  have units : (n : K) ≤ (x + quantizer.offset) * quantizer.scale := by
    unfold value at above
    rwa [sub_le_iff_le_add, div_le_iff₀ quantizer.positive] at above
  have rounded := le_lround units
  unfold code
  omega

theorem code_le {n : Int} {x : K} (low : quantizer.least ≤ n) (below : x ≤ quantizer.value n) :
    quantizer.code x ≤ n := by
  have units : (x + quantizer.offset) * quantizer.scale ≤ n := by
    unfold value at below
    rwa [le_sub_iff_add_le, le_div_iff₀ quantizer.positive] at below
  have rounded := lround_le units
  have ordered := quantizer.ordered
  unfold code
  omega

theorem received_mem {low high : Int} {x : K} (least : quantizer.least ≤ high) (most : low ≤ quantizer.most)
    (range : quantizer.value low ≤ x ∧ x ≤ quantizer.value high) :
    quantizer.value low ≤ quantizer.received x ∧ quantizer.received x ≤ quantizer.value high :=
  ⟨value_le_value (le_code most range.1), value_le_value (code_le least range.2)⟩

theorem received_value {n : Int} (sent : quantizer.Sent n) :
    quantizer.received (quantizer.value n) = quantizer.value n :=
  congrArg quantizer.value (code_value sent)

theorem received_mem_or {low high unknown : Int} {x : K} (least : quantizer.least ≤ high)
    (most : low ≤ quantizer.most) (sent : quantizer.Sent unknown)
    (range : quantizer.value low ≤ x ∧ (x ≤ quantizer.value high ∨ x = quantizer.value unknown)) :
    quantizer.value low ≤ quantizer.received x ∧
      (quantizer.received x ≤ quantizer.value high ∨ quantizer.received x = quantizer.value unknown) := by
  obtain ⟨above, below | rfl⟩ := range
  · obtain ⟨kept, bounded⟩ := received_mem least most ⟨above, below⟩
    exact ⟨kept, .inl bounded⟩
  · rw [received_value sent]
    exact ⟨above, .inr rfl⟩

theorem code_eq_lround {x : K} (covers : quantizer.Covers x) :
    quantizer.code x = lround ((x + quantizer.offset) * quantizer.scale) := by
  obtain ⟨low, high⟩ := covers
  unfold value at low high
  rw [sub_le_iff_le_add, div_le_iff₀ quantizer.positive] at low
  rw [le_sub_iff_add_le, le_div_iff₀ quantizer.positive] at high
  have above := le_lround low
  have below := lround_le high
  unfold code
  omega

/-- The number received is half a unit off at most. -/
theorem abs_received_sub_le {x : K} (covers : quantizer.Covers x) :
    |quantizer.received x - x| ≤ 1 / 2 / quantizer.scale := by
  have shifted : quantizer.received x - x =
      (lround ((x + quantizer.offset) * quantizer.scale) : K) / quantizer.scale - (x + quantizer.offset) := by
    rw [received, code_eq_lround covers, value]
    ring
  rw [shifted]
  exact abs_lround_div_sub_le quantizer.positive _

end Quantizer

end

end RidFirmware.Lib.Ieee
