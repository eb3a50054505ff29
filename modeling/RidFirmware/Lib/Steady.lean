import RidFirmware.Lib.Path

/-! Values that change no faster than a rate. Pieces that join keep the rate, and so does a function of the
phase that ends its period where it began. -/

namespace RidFirmware.Lib.Path

section
variable {K : Type*} [Field K] [LinearOrder K]

/-- Between two points of the set the value changes by at most the rate times their distance. -/
def SteadyOn (points : Set K) (rate : K) (f : K → K) : Prop :=
  ∀ x ∈ points, ∀ y ∈ points, x ≤ y → |f y - f x| ≤ rate * (y - x)

namespace SteadyOn

variable {points : Set K} {rate : K} {f g : K → K}

theorem congr (steady : SteadyOn points rate f) (same : ∀ x ∈ points, g x = f x) :
    SteadyOn points rate g := by
  intro x hx y hy order
  rw [same x hx, same y hy]
  exact steady x hx y hy order

theorem mono {others : Set K} (steady : SteadyOn points rate f) (fewer : others ⊆ points) :
    SteadyOn others rate f :=
  fun x hx y hy order => steady x (fewer hx) y (fewer hy) order

variable [IsStrictOrderedRing K]

theorem of_affine (offset slope : K) (slow : |slope| ≤ rate)
    (affine : ∀ x ∈ points, f x = offset + x * slope) : SteadyOn points rate f := by
  intro x hx y hy order
  have change : f y - f x = slope * (y - x) := by
    rw [affine x hx, affine y hy]
    ring
  rw [change, abs_mul, abs_of_nonneg (sub_nonneg.mpr order)]
  exact mul_le_mul_of_nonneg_right slow (sub_nonneg.mpr order)

theorem of_constant (value : K) (slow : 0 ≤ rate) (constant : ∀ x ∈ points, f x = value) :
    SteadyOn points rate f := by
  apply of_affine value 0
  · rwa [abs_zero]
  · intro x hx
    rw [constant x hx, mul_zero, add_zero]

theorem faster {speed : K} (steady : SteadyOn points rate f) (atMost : rate ≤ speed) :
    SteadyOn points speed f := by
  intro x hx y hy order
  calc
    _ ≤ rate * (y - x) := steady x hx y hy order
    _ ≤ speed * (y - x) := mul_le_mul_of_nonneg_right atMost (sub_nonneg.mpr order)

theorem join {first middle last : K} (before : SteadyOn (Set.Icc first middle) rate f)
    (after : SteadyOn (Set.Icc middle last) rate f) : SteadyOn (Set.Icc first last) rate f := by
  intro x hx y hy order
  rcases le_total y middle with early | late
  · exact before x ⟨hx.1, order.trans early⟩ y ⟨hy.1, early⟩ order
  rcases le_total x middle with early | beyond
  · have toMiddle := before x ⟨hx.1, early⟩ middle ⟨hx.1.trans early, le_refl middle⟩ early
    have fromMiddle := after middle ⟨le_refl middle, late.trans hy.2⟩ y ⟨late, hy.2⟩ late
    calc
      _ ≤ |f y - f middle| + |f middle - f x| := abs_sub_le _ _ _
      _ ≤ rate * (y - middle) + rate * (middle - x) := add_le_add fromMiddle toMiddle
      _ = rate * (y - x) := by ring
  · exact after x ⟨beyond, hx.2⟩ y ⟨late, hy.2⟩ order

theorem comp_mul {first last speed : K} (forward : 0 ≤ speed)
    (steady : SteadyOn (Set.Icc (first * speed) (last * speed)) rate f) :
    SteadyOn (Set.Icc first last) (rate * speed) (fun x => f (x * speed)) := by
  intro x hx y hy order
  have scaled : ∀ z ∈ Set.Icc first last, z * speed ∈ Set.Icc (first * speed) (last * speed) :=
    fun z hz => ⟨mul_le_mul_of_nonneg_right hz.1 forward, mul_le_mul_of_nonneg_right hz.2 forward⟩
  have change := steady (x * speed) (scaled x hx) (y * speed) (scaled y hy)
    (mul_le_mul_of_nonneg_right order forward)
  calc
    _ ≤ rate * (y * speed - x * speed) := change
    _ = rate * speed * (y - x) := by ring

theorem add_left {first last offset : K} {shifted : K → K} (steady : SteadyOn (Set.Icc first last) rate f)
    (moved : ∀ x ∈ Set.Icc first last, shifted (offset + x) = f x) :
    SteadyOn (Set.Icc (offset + first) (offset + last)) rate shifted := by
  intro x hx y hy order
  have xInside : x - offset ∈ Set.Icc first last := ⟨by linarith [hx.1], by linarith [hx.2]⟩
  have yInside : y - offset ∈ Set.Icc first last := ⟨by linarith [hy.1], by linarith [hy.2]⟩
  have change := steady (x - offset) xInside (y - offset) yInside (by linarith)
  rw [← moved _ xInside, ← moved _ yInside, add_sub_cancel, add_sub_cancel] at change
  calc
    _ ≤ rate * (y - offset - (x - offset)) := change
    _ = rate * (y - x) := by ring

theorem of_add_left {first last offset : K} {shifted : K → K}
    (steady : SteadyOn (Set.Icc (offset + first) (offset + last)) rate shifted)
    (moved : ∀ x ∈ Set.Icc first last, shifted (offset + x) = f x) :
    SteadyOn (Set.Icc first last) rate f := by
  intro x hx y hy order
  have change := steady (offset + x) ⟨by linarith [hx.1], by linarith [hx.2]⟩ (offset + y)
    ⟨by linarith [hy.1], by linarith [hy.2]⟩ (by linarith)
  rwa [moved x hx, moved y hy, add_sub_add_left_eq_sub] at change

end SteadyOn

theorem nonpos_of_le_mul [IsStrictOrderedRing K] {value rate room : K} (ample : 0 < room)
    (small : ∀ x, 0 < x → x ≤ room → value ≤ rate * x) : value ≤ 0 := by
  by_contra above
  have positive := not_le.mp above
  have rated : 0 < |rate| + 1 := by linarith [abs_nonneg rate]
  have bound := small (min room (value / (|rate| + 1) / 2))
    (lt_min ample (half_pos (div_pos positive rated))) (min_le_left _ _)
  have slower : rate * min room (value / (|rate| + 1) / 2) ≤
      (|rate| + 1) * (value / (|rate| + 1) / 2) := by
    apply mul_le_mul (by linarith [le_abs_self rate]) (min_le_right _ _)
    · exact le_min ample.le (half_pos (div_pos positive rated)).le
    · exact rated.le
  have half : (|rate| + 1) * (value / (|rate| + 1) / 2) = value / 2 := by
    field_simp
  linarith

theorem eq_of_abs_sub_le_mul [IsStrictOrderedRing K] {first second rate room : K} (ample : 0 < room)
    (small : ∀ x, 0 < x → x ≤ room → |first - second| ≤ rate * x) : first = second := by
  have near := nonpos_of_le_mul ample small
  exact sub_eq_zero.mp (abs_nonpos_iff.mp near)

end

/-! Functions of the phase. -/

section
variable {K : Type*} [Field K] [LinearOrder K] [IsStrictOrderedRing K] [FloorRing K] {period : K}

theorem SteadyOn.periodic {rate offset : K} {f : K → K} (positive : 0 < period) (ahead : 0 ≤ offset)
    (steady : SteadyOn (Set.Icc 0 period) rate f) (closed : f period = f 0) :
    SteadyOn (Set.Ici 0) rate (fun x => f (fmod (x + offset) period)) := by
  intro x hx y hy order
  have started : 0 ≤ x + offset := add_nonneg hx ahead
  have later : 0 ≤ y + offset := add_nonneg hy ahead
  have xInside : fmod (x + offset) period ∈ Set.Icc 0 period :=
    ⟨fmod_nonneg started positive, (fmod_lt started positive).le⟩
  have yInside : fmod (y + offset) period ∈ Set.Icc 0 period :=
    ⟨fmod_nonneg later positive, (fmod_lt later positive).le⟩
  have yBelow := fmod_lt later positive
  obtain ⟨first, xTime⟩ := exists_turns started positive
  obtain ⟨second, yTime⟩ := exists_turns later positive
  dsimp only
  generalize fmod (x + offset) period = p at *
  generalize fmod (y + offset) period = q at *
  rcases lt_trichotomy first second with before | same | after
  · -- the end of the first period and the start of the last lie between the two times
    have apart : ((first : K) + 1) * period ≤ second * period := by
      apply mul_le_mul_of_nonneg_right _ positive.le
      exact_mod_cast before
    have nonneg : 0 ≤ rate := by
      have turn := steady 0 ⟨le_refl 0, positive.le⟩ period ⟨positive.le, le_refl period⟩ positive.le
      rw [sub_zero] at turn
      exact nonneg_of_mul_nonneg_left ((abs_nonneg _).trans turn) positive
    have toEnd := steady p xInside period ⟨positive.le, le_refl period⟩ xInside.2
    have fromStart := steady 0 ⟨le_refl 0, positive.le⟩ q yInside yInside.1
    rw [closed] at toEnd
    calc
      _ ≤ |f q - f 0| + |f 0 - f p| := abs_sub_le _ _ _
      _ ≤ rate * (q - 0) + rate * (period - p) := add_le_add fromStart toEnd
      _ = rate * (q + period - p) := by ring
      _ ≤ rate * (y - x) := mul_le_mul_of_nonneg_left (by linarith) nonneg
  · subst same
    have distance : y - x = q - p := by linarith
    rw [distance]
    exact steady p xInside q yInside (by linarith)
  · have apart : ((second : K) + 1) * period ≤ first * period := by
      apply mul_le_mul_of_nonneg_right _ positive.le
      exact_mod_cast after
    linarith [xInside.1]

theorem SteadyOn.of_periodic {rate offset near slope : K} {f : K → K} (ahead : 0 ≤ offset)
    (steady : SteadyOn (Set.Ici 0) rate (fun x => f (fmod (x + offset) period))) (started : 0 ≤ near)
    (ends : near < period) (ending : SteadyOn (Set.Icc near period) slope f) :
    SteadyOn (Set.Icc 0 period) rate f ∧ f period = f 0 := by
  have positive : 0 < period := started.trans_lt ends
  obtain ⟨turn, inside, phases⟩ := exists_turn positive ahead
  have phase : ∀ x ∈ Set.Ico 0 period, fmod (turn + x + offset) period = x := by
    intro x hx
    simpa using phases 0 x hx
  have next : fmod (turn + period + offset) period = 0 := by
    simpa using phases 1 0 ⟨le_refl 0, positive⟩
  have within : ∀ x ∈ Set.Ico 0 period, ∀ y ∈ Set.Ico 0 period, x ≤ y → |f y - f x| ≤ rate * (y - x) := by
    intro x hx y hy order
    have change := steady (turn + x) (add_nonneg inside.1 hx.1) (turn + y) (add_nonneg inside.1 hy.1)
      (by linarith)
    dsimp only at change
    rw [phase x hx, phase y hy, add_sub_add_left_eq_sub] at change
    exact change
  have across : ∀ x ∈ Set.Ico 0 period, |f 0 - f x| ≤ rate * (period - x) := by
    intro x hx
    have change := steady (turn + x) (add_nonneg inside.1 hx.1) (turn + period)
      (add_nonneg inside.1 positive.le) (by linarith [hx.2])
    dsimp only at change
    rw [phase x hx, next, add_sub_add_left_eq_sub] at change
    exact change
  have closed : f period = f 0 := by
    apply @eq_of_abs_sub_le_mul K _ _ _ _ _ (slope + rate) (period - near) (by linarith)
    intro x hx room
    have before : period - x ∈ Set.Ico 0 period := ⟨by linarith, by linarith⟩
    have toEnd := ending (period - x) ⟨by linarith, by linarith⟩ period ⟨ends.le, le_refl period⟩
      (by linarith)
    have toNext := across (period - x) before
    rw [abs_sub_comm] at toNext
    calc
      _ ≤ |f period - f (period - x)| + |f (period - x) - f 0| := abs_sub_le _ _ _
      _ ≤ slope * (period - (period - x)) + rate * (period - (period - x)) := add_le_add toEnd toNext
      _ = (slope + rate) * x := by ring
  apply And.intro _ closed
  intro x hx y hy order
  rcases eq_or_lt_of_le hy.2 with last | before
  · subst last
    rcases eq_or_lt_of_le hx.2 with same | early
    · rw [same, sub_self, sub_self, abs_zero, mul_zero]
    · rw [closed]
      exact across x ⟨hx.1, early⟩
  · exact within x ⟨hx.1, order.trans_lt before⟩ y ⟨hy.1, before⟩ order

end

end RidFirmware.Lib.Path
