import Mathlib.Data.List.Perm.Basic
import Mathlib.Order.Lattice

/-! Queues of bounded length that are served by a key instead of by arrival. -/

namespace RidFirmware.Lib

section
variable {Item : Type*} (earlier : Item → Item → Bool)

/-- The scan over the rest of a queue, with the best item so far and its index. -/
def earliestFrom (best : Item) (bestIndex : Nat) : Nat → List Item → Nat
  | _, [] => bestIndex
  | index, item :: rest =>
      if earlier item best then earliestFrom item index (index + 1) rest
      else earliestFrom best bestIndex (index + 1) rest

/-- The index of the first item that no item precedes. -/
def earliestIndex : List Item → Nat
  | [] => 0
  | item :: rest => earliestFrom earlier item 0 1 rest

variable {earlier} {Key : Type*} [LinearOrder Key] {key : Item → Key}

private theorem earliestFrom_spec (byKey : ∀ left right, earlier left right = true ↔ key left < key right)
    (items before rest : List Item) (best : Item) (bestIndex : Nat) (split : items = before ++ rest)
    (found : items[bestIndex]? = some best) (least : ∀ item ∈ before, key best ≤ key item) :
    ∃ item, items[earliestFrom earlier best bestIndex before.length rest]? = some item ∧
      ∀ other ∈ items, key item ≤ key other := by
  induction rest generalizing before best bestIndex with
  | nil =>
    rw [List.append_nil] at split
    subst split
    exact ⟨best, found, least⟩
  | cons next rest ih =>
    have longer : items = (before ++ [next]) ++ rest := by
      rw [split, List.append_assoc, List.singleton_append]
    have length : (before ++ [next]).length = before.length + 1 := by
      rw [List.length_append, List.length_singleton]
    unfold earliestFrom
    rw [← length]
    by_cases first : earlier next best = true
    · rw [if_pos first]
      have smaller := (byKey next best).mp first
      apply ih (before ++ [next]) next before.length longer
      · rw [split, List.getElem?_append_right (Nat.le_refl _), Nat.sub_self]
        rfl
      · intro item member
        rcases List.mem_append.mp member with old | new
        · exact le_of_lt (lt_of_lt_of_le smaller (least item old))
        · rw [List.mem_singleton.mp new]
    · rw [if_neg first]
      apply ih (before ++ [next]) best bestIndex longer found
      intro item member
      rcases List.mem_append.mp member with old | new
      · exact least item old
      · rw [List.mem_singleton.mp new]
        exact not_lt.mp (fun smaller => first ((byKey next best).mpr smaller))

theorem earliestIndex_spec (byKey : ∀ left right, earlier left right = true ↔ key left < key right)
    {items : List Item} (present : items ≠ []) :
    ∃ item, items[earliestIndex earlier items]? = some item ∧
      ∀ other ∈ items, key item ≤ key other := by
  cases items with
  | nil => exact absurd rfl present
  | cons first rest =>
    apply earliestFrom_spec byKey (first :: rest) [first] rest first 0 rfl rfl
    intro item member
    rw [List.mem_singleton.mp member]

theorem perm_cons_eraseIdx {items : List Item} {index : Nat} {item : Item}
    (found : items[index]? = some item) : items.Perm (item :: items.eraseIdx index) := by
  obtain ⟨bound, rfl⟩ := List.getElem?_eq_some_iff.mp found
  exact (List.getElem_cons_eraseIdx_perm bound).symm

end

/-- A queue of at most `capacity` items, in order of arrival. -/
structure BoundedQueue (Item : Type*) (capacity : Nat) where
  items : List Item
  bounded : items.length ≤ capacity

namespace BoundedQueue

variable {Item : Type*} {capacity : Nat}

def empty : BoundedQueue Item capacity := ⟨[], Nat.zero_le _⟩

def count (queue : BoundedQueue Item capacity) : Nat := queue.items.length

def push (queue : BoundedQueue Item capacity) (item : Item) : Option (BoundedQueue Item capacity) :=
  if room : queue.count < capacity then
    some ⟨queue.items ++ [item], by rw [List.length_append]; exact room⟩
  else none

def erase (queue : BoundedQueue Item capacity) (index : Nat) : BoundedQueue Item capacity :=
  ⟨queue.items.eraseIdx index, Nat.le_trans (List.length_eraseIdx_le _ _) queue.bounded⟩

@[simp] theorem empty_items : (empty : BoundedQueue Item capacity).items = [] := rfl
@[simp] theorem erase_items (queue : BoundedQueue Item capacity) (index : Nat) :
    (queue.erase index).items = queue.items.eraseIdx index := rfl

theorem push_eq_some {queue next : BoundedQueue Item capacity} {item : Item}
    (pushed : queue.push item = some next) : next.items = queue.items ++ [item] := by
  unfold push at pushed
  split_ifs at pushed
  cases pushed
  rfl

end BoundedQueue

end RidFirmware.Lib
