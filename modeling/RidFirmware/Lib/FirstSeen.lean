import Mathlib.Data.List.Perm.Basic

/-! A dictionary that keeps the first value of each key, filled from a list. Which value that is depends on
the order: any one item of each key can be brought before the others. -/

namespace RidFirmware.Lib

section
variable {Item Key Value : Type*} [DecidableEq Key]

/-- `dict.setdefault`, with the entries in the order of their insertion. -/
def setDefault (entries : List (Key × Value)) (key : Key) (value : Value) : List (Key × Value) :=
  if (entries.lookup key).isSome then entries else entries ++ [(key, value)]

theorem lookup_setDefault (entries : List (Key × Value)) (key : Key) (value : Value) (other : Key) :
    (setDefault entries key value).lookup other =
      (entries.lookup other).or (if other = key then some value else none) := by
  unfold setDefault
  split_ifs with present same same
  · rw [same, Option.or_of_isSome present]
  · rw [Option.or_none]
  · rw [List.lookup_append, same, List.lookup_cons_self]
  · have differ : (other == key) = false := beq_eq_false_iff_ne.mpr same
    rw [List.lookup_append, List.lookup_cons, differ]
    rfl

variable (key : Item → Key) (value : Item → Value)

/-- The first value of each key. -/
def firstOfEach (items : List Item) : List (Key × Value) :=
  items.foldl (fun entries item => setDefault entries (key item) (value item)) []

theorem lookup_foldl_setDefault (items : List Item) (entries : List (Key × Value)) (sought : Key) :
    (items.foldl (fun entries item => setDefault entries (key item) (value item)) entries).lookup sought =
      (entries.lookup sought).or ((items.find? fun item => key item = sought).map value) := by
  induction items generalizing entries with
  | nil => simp
  | cons item rest ih =>
    rw [List.foldl_cons, ih, lookup_setDefault, Option.or_assoc]
    congr 1
    by_cases same : key item = sought
    · simp [same]
    · simp [same, Ne.symm same]

theorem lookup_firstOfEach (items : List Item) (sought : Key) :
    (firstOfEach key value items).lookup sought = (items.find? fun item => key item = sought).map value := by
  unfold firstOfEach
  rw [lookup_foldl_setDefault]
  rfl

theorem mem_keys_iff (entries : List (Key × Value)) (sought : Key) :
    sought ∈ entries.map Prod.fst ↔ (entries.lookup sought).isSome := by
  induction entries with
  | nil => simp
  | cons entry rest ih =>
    by_cases same : sought = entry.1
    · simp [same]
    · have differ : (sought == entry.1) = false := beq_eq_false_iff_ne.mpr same
      rw [List.map_cons, List.mem_cons, List.lookup_cons, differ, ← ih]
      simp [same]

theorem mem_keys_firstOfEach (items : List Item) (sought : Key) :
    sought ∈ (firstOfEach key value items).map Prod.fst ↔ ∃ item ∈ items, key item = sought := by
  rw [mem_keys_iff, lookup_firstOfEach, Option.isSome_map, List.find?_isSome]
  simp

theorem exists_perm_find? [DecidableEq Item] (items : List Item) (pick : Key → Item) :
    ∃ others : List Item, others.Perm items ∧ ∀ sought, pick sought ∈ items → key (pick sought) = sought →
      others.find? (fun item => key item = sought) = some (pick sought) := by
  refine ⟨_, List.filter_append_perm (fun item => item = pick (key item)) items, ?_⟩
  intro sought member same
  rw [List.find?_append, Option.or_eq_some_iff]
  have first : ((items.filter fun item => item = pick (key item)).find? fun item =>
      key item = sought).isSome := by
    rw [List.find?_isSome]
    refine ⟨pick sought, List.mem_filter.mpr ⟨member, ?_⟩, decide_eq_true same⟩
    rw [same]
    exact decide_eq_true rfl
  obtain ⟨item, found⟩ := Option.isSome_iff_exists.mp first
  have has : key item = sought := of_decide_eq_true (List.find?_some found :)
  have chosen := of_decide_eq_true (List.mem_filter.mp (List.mem_of_find?_eq_some found)).2
  rw [has] at chosen
  rw [← chosen]
  exact .inl found

end

end RidFirmware.Lib
