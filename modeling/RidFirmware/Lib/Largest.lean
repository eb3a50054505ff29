import Mathlib.Data.List.Sort
import RidFirmware.Lib.BoundedQueue

/-! Keeping the largest items of a stream by a key, one at a time: whatever the order of arrival, a full
store that gives up its least item, or the newcomer, holds the largest of all. -/

namespace RidFirmware.Lib

section
variable {Item Key : Type*} [LinearOrder Key] {key : Item → Key}

/-- A part of a list has its largest items, as many as there is room for. -/
structure Largest (key : Item → Key) (capacity : Nat) (all kept lost : List Item) : Prop where
  parts : all.Perm (kept ++ lost)
  count : kept.length = min all.length capacity
  above : ∀ item ∈ kept, ∀ other ∈ lost, key other ≤ key item

namespace Largest

variable {capacity : Nat} {all kept lost : List Item}

theorem start : Largest key capacity ([] : List Item) [] [] := by
  refine ⟨List.Perm.refl _, ?_, nofun⟩
  rw [List.length_nil, Nat.zero_min]

theorem lost_length (largest : Largest key capacity all kept lost) :
    lost.length = all.length - min all.length capacity := by
  have total := largest.parts.length_eq
  have count := largest.count
  rw [List.length_append] at total
  omega

theorem room (largest : Largest key capacity all kept lost) (room : kept.length ≠ capacity)
    (item : Item) : Largest key capacity (all ++ [item]) (kept ++ [item]) lost := by
  have count := largest.count
  have few : all.length < capacity := by omega
  have none : lost = [] := by
    rw [← List.length_eq_zero_iff, largest.lost_length]
    omega
  have everything := largest.parts
  rw [none, List.append_nil] at everything
  constructor
  · rw [none, List.append_nil]
    exact everything.append_right [item]
  · rw [List.length_append, List.length_append, List.length_singleton, everything.length_eq]
    have same := everything.length_eq
    omega
  · rw [none]
    exact fun _ _ _ missing => absurd missing List.not_mem_nil

theorem full_count (largest : Largest key capacity all kept lost) (full : kept.length = capacity)
    (item : Item) : capacity = min (all ++ [item]).length capacity := by
  have count := largest.count
  rw [List.length_append, List.length_singleton]
  omega

theorem refuse (largest : Largest key capacity all kept lost) (full : kept.length = capacity)
    {item : Item} (least : ∀ other ∈ kept, key item ≤ key other) :
    Largest key capacity (all ++ [item]) kept (lost ++ [item]) := by
  constructor
  · rw [← List.append_assoc]
    exact largest.parts.append_right [item]
  · rw [full]
    exact largest.full_count full item
  · intro other member gone missing
    rcases List.mem_append.mp missing with old | new
    · exact largest.above other member gone old
    · rw [List.mem_singleton.mp new]
      exact least other member

theorem replace (largest : Largest key capacity all kept lost) (full : kept.length = capacity)
    {index : Nat} {oldest item : Item} (found : kept[index]? = some oldest)
    (least : ∀ other ∈ kept, key oldest ≤ key other) (newer : key oldest ≤ key item) :
    Largest key capacity (all ++ [item]) (kept.eraseIdx index ++ [item]) (lost ++ [oldest]) := by
  have moved := perm_cons_eraseIdx found
  have length := moved.length_eq
  rw [List.length_cons] at length
  have isKept : ∀ other ∈ kept.eraseIdx index, other ∈ kept :=
    fun other member => moved.mem_iff.mpr (List.mem_cons_of_mem oldest member)
  constructor
  · have together := (largest.parts.trans (moved.append_right lost)).append_right [item]
    refine together.trans ?_
    rw [List.cons_append, List.cons_append, List.append_assoc, List.append_assoc]
    refine List.perm_middle.symm.trans ?_
    apply List.Perm.append_left
    refine (List.perm_append_singleton item (oldest :: lost)).trans ?_
    exact List.Perm.cons item (List.perm_append_singleton oldest lost).symm
  · rw [List.length_append, List.length_singleton]
    have count := largest.full_count full item
    omega
  · intro other member gone missing
    have large : key oldest ≤ key other := by
      rcases List.mem_append.mp member with old | new
      · exact least other (isKept other old)
      · rw [List.mem_singleton.mp new]
        exact newer
    rcases List.mem_append.mp missing with old | new
    · rcases List.mem_append.mp member with stayed | entered
      · exact largest.above other (isKept other stayed) gone old
      · have below := largest.above oldest (List.mem_of_getElem? found) gone old
        rw [List.mem_singleton.mp entered]
        exact below.trans newer
    · rw [List.mem_singleton.mp new]
      exact large

theorem keys (largest : Largest key capacity all kept lost) :
    (kept.map key).Perm (((all.map key).insertionSort (· ≥ ·)).take (min all.length capacity)) := by
  have keptSorted := List.pairwise_insertionSort (· ≥ ·) (kept.map key)
  have lostSorted := List.pairwise_insertionSort (· ≥ ·) (lost.map key)
  have sorted : ((kept.map key).insertionSort (· ≥ ·) ++
      (lost.map key).insertionSort (· ≥ ·)).Pairwise (· ≥ ·) := by
    refine List.pairwise_append.mpr ⟨keptSorted, lostSorted, ?_⟩
    intro large member small missing
    rw [List.mem_insertionSort, List.mem_map] at member missing
    obtain ⟨item, member, rfl⟩ := member
    obtain ⟨other, missing, rfl⟩ := missing
    exact largest.above item member other missing
  have same : ((kept.map key).insertionSort (· ≥ ·) ++ (lost.map key).insertionSort (· ≥ ·)).Perm
      ((all.map key).insertionSort (· ≥ ·)) := by
    have parts := largest.parts.map key
    rw [List.map_append] at parts
    refine List.Perm.trans ?_ (parts.symm.trans (List.perm_insertionSort (· ≥ ·) (all.map key)).symm)
    exact (List.perm_insertionSort _ _).append (List.perm_insertionSort _ _)
  have equal := same.eq_of_pairwise' sorted (List.pairwise_insertionSort (· ≥ ·) (all.map key))
  have front : ((kept.map key).insertionSort (· ≥ ·)).length = min all.length capacity := by
    rw [List.length_insertionSort, List.length_map, largest.count]
  rw [← equal, ← front, List.take_left]
  exact (List.perm_insertionSort _ _).symm

/-- With distinct keys the order of arrival does not matter. -/
theorem kept_perm (largest : Largest key capacity all kept lost) {all' kept' lost' : List Item}
    (other : Largest key capacity all' kept' lost') (same : all.Perm all')
    (distinct : (all.map key).Nodup) : kept.Perm kept' := by
  have sorted : (all.map key).insertionSort (· ≥ ·) = (all'.map key).insertionSort (· ≥ ·) := by
    apply List.Perm.eq_of_pairwise' (r := (· ≥ ·))
    · exact List.pairwise_insertionSort _ _
    · exact List.pairwise_insertionSort _ _
    · exact (List.perm_insertionSort _ _).trans ((same.map key).trans (List.perm_insertionSort _ _).symm)
  have keys := largest.keys
  rw [sorted, same.length_eq] at keys
  have sameKeys : (kept.map key).Perm (kept'.map key) := keys.trans other.keys.symm
  have keptIn : ∀ item ∈ kept, item ∈ all :=
    fun item member => largest.parts.mem_iff.mpr (List.mem_append_left _ member)
  have keptIn' : ∀ item ∈ kept', item ∈ all :=
    fun item member => same.mem_iff.mpr (other.parts.mem_iff.mpr (List.mem_append_left _ member))
  have injective := List.inj_on_of_nodup_map distinct
  have noRepeat : kept.Nodup :=
    (List.nodup_append.mp (largest.parts.nodup_iff.mp (List.Nodup.of_map key distinct))).1
  have noRepeat' : kept'.Nodup := (List.nodup_append.mp (other.parts.nodup_iff.mp
    (same.nodup_iff.mp (List.Nodup.of_map key distinct)))).1
  rw [List.perm_ext_iff_of_nodup noRepeat noRepeat']
  intro item
  constructor
  · intro member
    obtain ⟨found, inside, keySame⟩ :=
      List.mem_map.mp (sameKeys.mem_iff.mp (List.mem_map_of_mem member))
    rw [← injective (keptIn' found inside) (keptIn item member) keySame]
    exact inside
  · intro member
    obtain ⟨found, inside, keySame⟩ :=
      List.mem_map.mp (sameKeys.mem_iff.mpr (List.mem_map_of_mem member))
    rw [← injective (keptIn found inside) (keptIn' item member) keySame]
    exact inside

end Largest

end

end RidFirmware.Lib
