import Mathlib.Data.List.Perm.Basic
import Mathlib.Order.Lattice

/-! Stores that give up their least item by a key. Asked again and again, such a store returns all it has
in ascending order and nothing afterwards. -/

namespace RidFirmware.Lib

section
variable {Item Key : Type*} [LinearOrder Key] {key : Item → Key}

/-- One item is taken out of a pool, none of the pool precedes it; nothing comes only out of an empty
pool. -/
structure TakesLeast (key : Item → Key) (pool : List Item) (taken : Option Item) (rest : List Item) :
    Prop where
  parts : (taken.toList ++ rest).Perm pool
  least : ∀ item, taken = some item → ∀ other ∈ pool, key item ≤ key other
  nothing : taken = none → pool = []

namespace TakesLeast

variable {pool rest : List Item} {taken : Option Item}

theorem nothing_iff (takes : TakesLeast key pool taken rest) : taken = none ↔ pool = [] := by
  refine ⟨takes.nothing, ?_⟩
  rintro rfl
  cases taken with
  | none => rfl
  | some item => exact absurd takes.parts.length_eq (Nat.succ_ne_zero _)

theorem rest_nil (takes : TakesLeast key pool none rest) : rest = [] := by
  have empty := takes.parts
  rw [takes.nothing rfl] at empty
  exact empty.eq_nil

theorem rest_length {item : Item} (takes : TakesLeast key pool (some item) rest) :
    pool.length = rest.length + 1 :=
  takes.parts.length_eq.symm

end TakesLeast

section
variable {State : Type*} (take : State → Option Item × State)

/-- The answers of a store that is asked `count` times. -/
def draws : Nat → State → List (Option Item)
  | 0, _ => []
  | count + 1, state => (take state).1 :: draws count (take state).2

variable (pool : State → List Item)

theorem draws_nothing
    (least : ∀ state, TakesLeast key (pool state) (take state).1 (pool (take state).2)) (count : Nat)
    {state : State} (empty : pool state = []) : draws take count state = List.replicate count none := by
  induction count generalizing state with
  | zero => rfl
  | succ count ih =>
    have takes := least state
    have nothing := takes.nothing_iff.mpr empty
    rw [nothing] at takes
    rw [draws, nothing, ih takes.rest_nil, List.replicate_succ]

theorem draws_ascending
    (least : ∀ state, TakesLeast key (pool state) (take state).1 (pool (take state).2)) (state : State) :
    ∃ order : List Item, order.Perm (pool state) ∧
      order.Pairwise (fun first later => key first ≤ key later) ∧
      ∀ count, draws take count state =
        (order.map some).take count ++ List.replicate (count - order.length) none := by
  induction length : (pool state).length generalizing state with
  | zero =>
    have empty : pool state = [] := List.length_eq_zero_iff.mp length
    refine ⟨[], by rw [empty], List.Pairwise.nil, fun count => ?_⟩
    rw [draws_nothing take pool least count empty, List.map_nil, List.take_nil, List.nil_append,
      List.length_nil, Nat.sub_zero]
  | succ size ih =>
    have takes := least state
    cases taken : (take state).1 with
    | none =>
      rw [takes.nothing taken] at length
      cases length
    | some item =>
      rw [taken] at takes
      have shorter : (pool (take state).2).length = size := by
        have lengths := takes.rest_length
        omega
      obtain ⟨order, same, sorted, answers⟩ := ih (take state).2 shorter
      refine ⟨item :: order, (same.cons item).trans takes.parts, ?_, fun count => ?_⟩
      · refine List.pairwise_cons.mpr ⟨fun later member => ?_, sorted⟩
        apply takes.least item rfl
        exact takes.parts.mem_iff.mp (List.mem_cons_of_mem item (same.mem_iff.mp member))
      · cases count with
        | zero => simp [draws]
        | succ count =>
          rw [draws, taken, answers count, List.map_cons, List.take_succ_cons, List.length_cons,
            Nat.add_sub_add_right, List.cons_append]

end

end

end RidFirmware.Lib
