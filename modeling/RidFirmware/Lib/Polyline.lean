import Mathlib.Analysis.Convex.Topology
import Mathlib.Data.List.Rotate
import RidFirmware.Lib.Steady

/-! Values that run through straight pieces one after the other. They make no jump exactly if every piece
starts where the one before it ended. -/

namespace RidFirmware.Lib.Path

/-! Ways from place to place. -/

section
variable {α β : Type*} {start finish : α → β} {first last : β} {item : α} {items rest : List α}

/-- From the first place to the last without a gap. -/
def Linked (start finish : α → β) (first : β) (items : List α) (last : β) : Prop :=
  first :: items.map finish = items.map start ++ [last]

theorem linked_nil : Linked start finish first [] last ↔ first = last := by
  simp [Linked]

theorem linked_cons :
    Linked start finish first (item :: rest) last ↔
      first = start item ∧ Linked start finish (finish item) rest last := by
  simp [Linked]

theorem linked_loop_iff :
    Linked start finish (start item) (item :: rest) (start item) ↔
      (item :: rest).map finish = ((item :: rest).map start).rotate 1 := by
  simp [Linked]

theorem Linked.loop (linked : Linked start finish first items first) :
    items.map finish = (items.map start).rotate 1 := by
  cases items with
  | nil => rfl
  | cons item rest =>
    have begins := (linked_cons.mp linked).1
    rw [begins] at linked
    exact linked_loop_iff.mp linked

section
variable {keep : α → Bool} (linked : Linked start finish first items last)
  (resting : ∀ item ∈ items, keep item = false → start item = finish item)
include linked resting

theorem linked_filter : Linked start finish first (items.filter keep) last := by
  induction items generalizing first with
  | nil => exact linked
  | cons item rest ih =>
    obtain ⟨begins, onward⟩ := linked_cons.mp linked
    have kept := ih onward (fun other member => resting other (List.mem_cons_of_mem item member))
    by_cases keeps : keep item = true
    · rw [List.filter_cons_of_pos keeps, linked_cons]
      exact ⟨begins, kept⟩
    · rw [List.filter_cons_of_neg keeps, begins, resting item List.mem_cons_self (Bool.eq_false_iff.mpr keeps)]
      exact kept

theorem exists_kept_or_last : ∀ item ∈ items,
    (∃ kept ∈ items.filter keep, start kept = start item) ∨ start item = last := by
  induction items generalizing first with
  | nil => exact List.forall_mem_nil _
  | cons item rest ih =>
    have here := linked_filter linked resting
    obtain ⟨begins, onward⟩ := linked_cons.mp linked
    have later := ih onward (fun other member => resting other (List.mem_cons_of_mem item member))
    intro other member
    rcases List.mem_cons.mp member with rfl | member
    · rw [← begins]
      cases kept : (other :: rest).filter keep with
      | nil =>
        rw [kept] at here
        exact .inr (linked_nil.mp here)
      | cons next others =>
        rw [kept] at here
        exact .inl ⟨next, List.mem_cons_self, (linked_cons.mp here).1.symm⟩
    · rcases later other member with ⟨found, isKept, same⟩ | atLast
      · refine .inl ⟨found, ?_, same⟩
        exact List.Sublist.mem isKept ((List.sublist_cons_self item rest).filter keep)
      · exact .inr atLast

end

theorem Linked.exists_kept {keep : α → Bool} (linked : Linked start finish first items first)
    (resting : ∀ item ∈ items, keep item = false → start item = finish item)
    (moves : items.filter keep ≠ []) : ∀ item ∈ items, ∃ kept ∈ items.filter keep, start kept = start item := by
  intro item member
  rcases exists_kept_or_last linked resting item member with found | atLast
  · exact found
  · have around := linked_filter linked resting
    obtain ⟨front, others, kept⟩ := List.exists_cons_of_ne_nil moves
    rw [kept, linked_cons] at around
    refine ⟨front, ?_, around.1.symm.trans atLast.symm⟩
    rw [kept]
    exact List.mem_cons_self

end

/-! Straight pieces. -/

/-- From one value to another over a length. -/
structure Piece (K : Type*) where
  start : K
  finish : K
  length : K

section
variable {K : Type*} [Field K]

def Piece.value (piece : Piece K) (distance : K) : K :=
  piece.start + (piece.finish - piece.start) * (distance / piece.length)

def Piece.slope (piece : Piece K) : K := (piece.finish - piece.start) / piece.length

def totalLength (pieces : List (Piece K)) : K := (pieces.map Piece.length).sum

@[simp] theorem totalLength_cons (piece : Piece K) (rest : List (Piece K)) :
    totalLength (piece :: rest) = piece.length + totalLength rest := by
  simp [totalLength]

@[simp] theorem Piece.value_zero (piece : Piece K) : piece.value 0 = piece.start := by
  simp [Piece.value]

theorem Piece.value_eq (piece : Piece K) (distance : K) :
    piece.value distance = piece.start + distance * piece.slope := by
  unfold Piece.value Piece.slope
  ring

variable [LinearOrder K]

/-- The value at a distance from the start of the first piece. -/
def walk (beyond : K) : List (Piece K) → K → K
  | [], _ => beyond
  | piece :: rest, distance =>
      if distance ≤ piece.length then piece.value distance
      else walk beyond rest (distance - piece.length)

variable [IsStrictOrderedRing K] {beyond first last : K} {piece : Piece K} {rest pieces : List (Piece K)}

omit [IsStrictOrderedRing K] in
theorem Piece.value_length (long : 0 < piece.length) : piece.value piece.length = piece.finish := by
  unfold Piece.value
  rw [div_self long.ne']
  ring

theorem Piece.value_steady (piece : Piece K) (points : Set K) :
    SteadyOn points |piece.slope| piece.value :=
  SteadyOn.of_affine piece.start piece.slope (le_refl _) (fun x _ => piece.value_eq x)

omit [IsStrictOrderedRing K] in
theorem walk_within {distance : K} (within : distance ≤ piece.length) :
    walk beyond (piece :: rest) distance = piece.value distance := if_pos within

theorem walk_past {distance : K} (past : 0 < distance) :
    walk beyond (piece :: rest) (piece.length + distance) = walk beyond rest distance := by
  unfold walk
  rw [if_neg (by linarith), add_sub_cancel_left]
  cases rest <;> rfl

/-- Where the next piece starts at the end of a piece, there is no need to tell which of them the end
belongs to. -/
theorem walk_onward (extent : 0 < piece.length) (joint : walk beyond rest 0 = piece.finish) {distance : K}
    (past : 0 ≤ distance) :
    walk beyond (piece :: rest) (piece.length + distance) = walk beyond rest distance := by
  rcases eq_or_lt_of_le past with zero | beyondEnd
  · rw [← zero, add_zero, walk_within (le_refl _), Piece.value_length extent, joint]
  · exact walk_past beyondEnd

theorem totalLength_pos (long : ∀ piece ∈ pieces, 0 < piece.length) (pieces_ne : pieces ≠ []) :
    0 < totalLength pieces := by
  apply List.sum_pos
  · intro length member
    obtain ⟨piece, isPiece, rfl⟩ := List.mem_map.mp member
    exact long piece isPiece
  · simpa using pieces_ne

section
variable (long : ∀ piece ∈ pieces, 0 < piece.length)
include long

omit [IsStrictOrderedRing K] in
theorem walk_zero (linked : Linked Piece.start Piece.finish first pieces last) (pieces_ne : pieces ≠ []) :
    walk beyond pieces 0 = first := by
  cases pieces with
  | nil => exact absurd rfl pieces_ne
  | cons piece rest =>
    rw [walk_within (long piece List.mem_cons_self).le, Piece.value_zero]
    exact (linked_cons.mp linked).1.symm

theorem walk_total (linked : Linked Piece.start Piece.finish first pieces last) (pieces_ne : pieces ≠ []) :
    walk beyond pieces (totalLength pieces) = last := by
  induction pieces generalizing first with
  | nil => exact absurd rfl pieces_ne
  | cons piece rest ih =>
    obtain ⟨extent, longRest⟩ := List.forall_mem_cons.mp long
    have linkedRest := (linked_cons.mp linked).2
    rw [totalLength_cons]
    cases rest with
    | nil =>
      rw [walk_within (by simp [totalLength]), totalLength, List.map_nil, List.sum_nil, add_zero,
        Piece.value_length extent]
      exact linked_nil.mp linkedRest
    | cons next others =>
      rw [walk_past (totalLength_pos longRest (List.cons_ne_nil next others))]
      exact ih longRest linkedRest (List.cons_ne_nil next others)

theorem walk_steady {rate : K} (linked : Linked Piece.start Piece.finish first pieces last)
    (slow : ∀ piece ∈ pieces, |piece.slope| ≤ rate) :
    SteadyOn (Set.Icc 0 (totalLength pieces)) rate (walk beyond pieces) := by
  induction pieces generalizing first with
  | nil =>
    intro x hx y hy _
    have same : x = y := le_antisymm (hx.2.trans hy.1) (hy.2.trans hx.1)
    rw [same, sub_self, sub_self, abs_zero, mul_zero]
  | cons piece rest ih =>
    obtain ⟨extent, longRest⟩ := List.forall_mem_cons.mp long
    have linkedRest := (linked_cons.mp linked).2
    have steep : SteadyOn (Set.Icc 0 piece.length) rate (walk beyond (piece :: rest)) := by
      apply ((piece.value_steady _).faster (slow piece List.mem_cons_self)).congr
      intro x hx
      exact walk_within hx.2
    have onward := ih longRest linkedRest (fun other member => slow other (List.mem_cons_of_mem piece member))
    rw [totalLength_cons]
    apply steep.join
    cases rest with
    | nil =>
      apply SteadyOn.mono steep
      rw [totalLength, List.map_nil, List.sum_nil, add_zero]
      exact fun x hx => ⟨extent.le.trans hx.1, hx.2⟩
    | cons next others =>
      have joint : walk beyond (next :: others) 0 = piece.finish :=
        walk_zero longRest linkedRest (List.cons_ne_nil next others)
      have shifted := onward.add_left (fun x hx => walk_onward extent joint hx.1)
      rwa [add_zero] at shifted

theorem linked_of_steady {rate : K} (pieces_ne : pieces ≠ [])
    (steady : SteadyOn (Set.Icc 0 (totalLength pieces)) rate (walk beyond pieces)) :
    Linked Piece.start Piece.finish (walk beyond pieces 0) pieces
      (walk beyond pieces (totalLength pieces)) := by
  induction pieces with
  | nil => exact absurd rfl pieces_ne
  | cons piece rest ih =>
    obtain ⟨extent, longRest⟩ := List.forall_mem_cons.mp long
    rw [linked_cons, totalLength_cons]
    apply And.intro
    · rw [walk_within extent.le, Piece.value_zero]
    cases rest with
    | nil =>
      rw [linked_nil, walk_within (by simp [totalLength]), totalLength, List.map_nil, List.sum_nil, add_zero,
        Piece.value_length extent]
    | cons next others =>
      have nextExtent := longRest next List.mem_cons_self
      have more := totalLength_pos longRest (List.cons_ne_nil next others)
      have room : next.length ≤ totalLength (next :: others) := by
        apply List.single_le_sum
        · intro length member
          obtain ⟨other, isPiece, rfl⟩ := List.mem_map.mp member
          exact (longRest other isPiece).le
        · exact List.mem_cons_self
      rw [totalLength_cons] at steady
      -- the value just past the end of a piece is near its end, and near the start of the next
      have joint : walk beyond (next :: others) 0 = piece.finish := by
        rw [walk_within nextExtent.le, Piece.value_zero]
        apply @eq_of_abs_sub_le_mul K _ _ _ _ _ (|next.slope| + rate) next.length nextExtent
        intro x hx within
        have fromStart := next.value_steady Set.univ 0 trivial x trivial hx.le
        have fromFinish := steady piece.length ⟨extent.le, by linarith⟩
          (piece.length + x) ⟨by linarith, by linarith⟩ (by linarith)
        rw [walk_past hx, walk_within within, walk_within (le_refl _), Piece.value_length extent] at fromFinish
        rw [Piece.value_zero, abs_sub_comm] at fromStart
        calc
          _ ≤ |next.start - next.value x| + |next.value x - piece.finish| := abs_sub_le _ _ _
          _ ≤ |next.slope| * (x - 0) + rate * (piece.length + x - piece.length) :=
            add_le_add fromStart fromFinish
          _ = (|next.slope| + rate) * x := by ring
      have tail : Set.Icc (piece.length + 0) (piece.length + totalLength (next :: others)) ⊆
          Set.Icc 0 (piece.length + totalLength (next :: others)) :=
        Set.Icc_subset_Icc_left (by linarith)
      have onward := (steady.mono tail).of_add_left (fun x hx => walk_onward extent joint hx.1)
      have linked := ih longRest (List.cons_ne_nil next others) onward
      rw [joint] at linked
      rwa [walk_past more]

theorem walk_ending (pieces_ne : pieces ≠ []) :
    ∃ near slope, 0 ≤ near ∧ near < totalLength pieces ∧
      SteadyOn (Set.Icc near (totalLength pieces)) slope (walk beyond pieces) := by
  induction pieces with
  | nil => exact absurd rfl pieces_ne
  | cons piece rest ih =>
    obtain ⟨extent, longRest⟩ := List.forall_mem_cons.mp long
    cases rest with
    | nil =>
      refine ⟨0, |piece.slope|, le_refl 0, totalLength_pos long pieces_ne, ?_⟩
      apply (piece.value_steady _).congr
      intro x hx
      exact walk_within (hx.2.trans (by simp [totalLength]))
    | cons next others =>
      obtain ⟨near, slope, started, ends, steady⟩ := ih longRest (List.cons_ne_nil next others)
      rw [totalLength_cons]
      refine ⟨piece.length + (near + totalLength (next :: others)) / 2, slope, by linarith, by linarith, ?_⟩
      apply (steady.mono (Set.Icc_subset_Icc_left (by linarith))).add_left
      intro x hx
      exact walk_past (by linarith [hx.1])

end

omit [IsStrictOrderedRing K] in
theorem exists_rate (pieces : List (Piece K)) : ∃ rate, ∀ piece ∈ pieces, |piece.slope| ≤ rate := by
  induction pieces with
  | nil => exact ⟨0, List.forall_mem_nil _⟩
  | cons piece rest ih =>
    obtain ⟨rate, slow⟩ := ih
    refine ⟨max |piece.slope| rate, List.forall_mem_cons.mpr ⟨le_max_left _ _, ?_⟩⟩
    exact fun other member => (slow other member).trans (le_max_right _ _)

/-- A loop makes no jump exactly if every piece starts where the one before it ended. -/
theorem walk_steady_iff (long : ∀ piece ∈ pieces, 0 < piece.length) (pieces_ne : pieces ≠ []) :
    (∃ rate, SteadyOn (Set.Icc 0 (totalLength pieces)) rate (walk beyond pieces) ∧
      walk beyond pieces (totalLength pieces) = walk beyond pieces 0) ↔
      pieces.map Piece.finish = (pieces.map Piece.start).rotate 1 := by
  cases pieces with
  | nil => exact absurd rfl pieces_ne
  | cons piece rest =>
    rw [← linked_loop_iff]
    apply Iff.intro
    · rintro ⟨rate, steady, closed⟩
      have linked := linked_of_steady long pieces_ne steady
      have start : walk beyond (piece :: rest) 0 = piece.start := (linked_cons.mp linked).1
      rwa [closed, start] at linked
    · intro linked
      obtain ⟨rate, slow⟩ := exists_rate (piece :: rest)
      refine ⟨rate, walk_steady long linked slow, ?_⟩
      rw [walk_total long linked pieces_ne, walk_zero long linked pieces_ne]

end

/-- Points on straight legs that leave out none of their inner points come near to the ends as well, and
to no other point. -/
theorem mem_closure_iff_mem_segment {E : Type*} [AddCommGroup E] [Module ℝ E] [TopologicalSpace E] [T2Space E]
    [ContinuousAdd E] [ContinuousSMul ℝ E] {legs : List (E × E)} {points : Set E}
    (inside : ∀ x ∈ points, ∃ leg ∈ legs, x ∈ segment ℝ leg.1 leg.2)
    (reached : ∀ leg ∈ legs, openSegment ℝ leg.1 leg.2 ⊆ points) (x : E) :
    x ∈ closure points ↔ ∃ leg ∈ legs, x ∈ segment ℝ leg.1 leg.2 := by
  have closed : ∀ leg ∈ {leg | leg ∈ legs}, IsClosed (segment ℝ leg.1 leg.2) := by
    intro leg _
    rw [← closure_openSegment]
    exact isClosed_closure
  apply Iff.intro
  · intro near
    have subset : points ⊆ ⋃ leg ∈ {leg | leg ∈ legs}, segment ℝ leg.1 leg.2 := by
      intro y hy
      simpa using inside y hy
    have found := closure_minimal subset (legs.finite_toSet.isClosed_biUnion closed) near
    simpa using found
  · rintro ⟨leg, member, between⟩
    rw [← closure_openSegment] at between
    exact closure_mono (reached leg member) between

end RidFirmware.Lib.Path
