import Mathlib.Data.List.Basic
import Mathlib.Logic.Function.Iterate

/-! Items that share one number, which goes up from item to item and comes round after a period. A
receiver that follows the items of one key sees a new number unless the items in between make up the
rest of a period. -/

namespace RidFirmware.Lib

section
variable {Item Other Key Content Code : Type*}

/-- The items with their numbers. -/
def numberedFrom (next : Code → Code) (start : Code) : List Item → List (Item × Code)
  | [] => []
  | item :: rest => (item, start) :: numberedFrom next (next start) rest

/-- Two items of a key, and the items between them, none of which is of that key. -/
structure Neighbours (key : Item → Key) (items : List Item) (first : Item) (between : List Item)
    (second : Item) : Prop where
  within : ∃ before after, items = before ++ first :: (between ++ second :: after)
  same : key second = key first
  apart : ∀ item ∈ between, key item ≠ key first

/-- An item with other content than its predecessor of the same key has another number. -/
def NumbersChange (key : Item → Key) (content : Item → Content) (number : Item → Code)
    (items : List Item) : Prop :=
  ∀ first between second, Neighbours key items first between second → content first ≠ content second →
    number first ≠ number second

/-- An item with other content than its predecessor of the same key does not come a number of whole
periods after it. -/
def OutOfPhase (period : Nat) (key : Item → Key) (content : Item → Content) (items : List Item) : Prop :=
  ∀ first between second, Neighbours key items first between second → content first ≠ content second →
    ¬period ∣ between.length + 1

theorem neighbours_of_getElem? {key : Item → Key} {items : List Item} {start gap : Nat} {first second : Item}
    (head : items[start]? = some first) (tail : items[start + 1 + gap]? = some second)
    (same : key second = key first)
    (apart : ∀ item ∈ (items.drop (start + 1)).take gap, key item ≠ key first) :
    Neighbours key items first ((items.drop (start + 1)).take gap) second := by
  obtain ⟨inside, first_eq⟩ := List.getElem?_eq_some_iff.mp head
  obtain ⟨inside', second_eq⟩ := List.getElem?_eq_some_iff.mp tail
  refine ⟨⟨items.take start, items.drop (start + 1 + gap + 1), ?_⟩, same, apart⟩
  calc items = items.take start ++ items.drop start := (List.take_append_drop start items).symm
    _ = items.take start ++ first :: items.drop (start + 1) := by
        rw [List.drop_eq_getElem_cons inside, first_eq]
    _ = items.take start ++ first ::
          ((items.drop (start + 1)).take gap ++ items.drop (start + 1 + gap)) := by
        rw [← @List.drop_drop _ gap (start + 1), List.take_append_drop]
    _ = items.take start ++ first ::
          ((items.drop (start + 1)).take gap ++ second :: items.drop (start + 1 + gap + 1)) := by
        rw [List.drop_eq_getElem_cons inside', second_eq]

/-- A test for two neighbours of different content, with so many items between them. -/
def slipsAt [DecidableEq Key] [DecidableEq Content] (key : Item → Key) (content : Item → Content)
    (items : List Item) (start gap : Nat) : Bool :=
  match items[start]?, items[start + 1 + gap]? with
  | some first, some second =>
      decide (key second = key first) && decide (content first ≠ content second) &&
        ((items.drop (start + 1)).take gap).all fun item => decide (key item ≠ key first)
  | _, _ => false

theorem not_outOfPhase [DecidableEq Key] [DecidableEq Content] {key : Item → Key}
    {content : Item → Content} {items : List Item} {start gap period : Nat}
    (slips : slipsAt key content items start gap = true) (periods : period ∣ gap + 1) :
    ¬OutOfPhase period key content items := by
  unfold slipsAt at slips
  split at slips
  · rename_i first second head tail
    simp only [Bool.and_eq_true, decide_eq_true_eq, List.all_eq_true] at slips
    obtain ⟨⟨same, differ⟩, apart⟩ := slips
    have inside := (List.getElem?_eq_some_iff.mp tail).1
    have length : ((items.drop (start + 1)).take gap).length = gap := by
      rw [List.length_take, List.length_drop]
      omega
    intro phase
    apply phase _ _ _ (neighbours_of_getElem? head tail same apart) differ
    rw [length]
    exact periods
  · cases slips

theorem numberedFrom_append (next : Code → Code) (start : Code) (before after : List Item) :
    numberedFrom next start (before ++ after) =
      numberedFrom next start before ++ numberedFrom next (next^[before.length] start) after := by
  induction before generalizing start with
  | nil => rfl
  | cons item rest ih =>
    rw [List.cons_append, numberedFrom, numberedFrom, ih, List.cons_append, List.length_cons,
      Function.iterate_succ_apply]

theorem numberedFrom_fst (next : Code → Code) (start : Code) (items : List Item) :
    (numberedFrom next start items).map Prod.fst = items := by
  induction items generalizing start with
  | nil => rfl
  | cons item rest ih => rw [numberedFrom, List.map_cons, ih]

theorem numberedFrom_snd {next : Code → Code} {start : Code} {items : List Item}
    {before after : List (Item × Code)} {item : Item × Code}
    (split : numberedFrom next start items = before ++ item :: after) :
    item.2 = next^[before.length] start := by
  induction items generalizing start before with
  | nil =>
    rw [numberedFrom] at split
    simp at split
  | cons head rest ih =>
    rw [numberedFrom] at split
    cases before with
    | nil =>
      rw [List.nil_append, List.cons.injEq] at split
      rw [← split.1]
      rfl
    | cons front before =>
      rw [List.cons_append, List.cons.injEq] at split
      rw [ih split.2, List.length_cons, Function.iterate_succ_apply]

theorem neighbours_numbers {next : Code → Code} {start : Code} {items : List Item} {key : Item × Code → Key}
    {first second : Item × Code} {between : List (Item × Code)}
    (neighbours : Neighbours key (numberedFrom next start items) first between second) :
    second.2 = next^[between.length + 1] first.2 := by
  obtain ⟨before, after, split⟩ := neighbours.within
  have early := numberedFrom_snd split
  have late : numberedFrom next start items = (before ++ first :: between) ++ second :: after := by
    rw [split, List.append_assoc, List.cons_append]
  have count : (before ++ first :: between).length = between.length + 1 + before.length := by
    rw [List.length_append, List.length_cons, Nat.add_comm]
  rw [numberedFrom_snd late, early, count, Function.iterate_add_apply]

theorem neighbours_map {view : Item → Other} {key : Other → Key} {items : List Item} {first second : Other}
    {between : List Other} :
    Neighbours key (items.map view) first between second ↔
      ∃ first' between' second', Neighbours (key ∘ view) items first' between' second' ∧
        view first' = first ∧ between'.map view = between ∧ view second' = second := by
  constructor
  · intro neighbours
    obtain ⟨before, after, split⟩ := neighbours.within
    obtain ⟨before', rest, rfl, _, tail⟩ := List.map_eq_append_iff.mp split
    obtain ⟨first', rest', rfl, rfl, tail'⟩ := List.map_eq_cons_iff.mp tail
    obtain ⟨between', rest'', rfl, rfl, tail''⟩ := List.map_eq_append_iff.mp tail'
    obtain ⟨second', after', rfl, rfl, _⟩ := List.map_eq_cons_iff.mp tail''
    refine ⟨first', between', second', ⟨⟨before', after', rfl⟩, neighbours.same, ?_⟩, rfl, rfl, rfl⟩
    intro item member
    exact neighbours.apart (view item) (List.mem_map_of_mem member)
  · intro parts
    obtain ⟨first', between', second', neighbours, rfl, rfl, rfl⟩ := parts
    obtain ⟨before, after, rfl⟩ := neighbours.within
    refine ⟨⟨before.map view, after.map view, ?_⟩, neighbours.same, ?_⟩
    · rw [List.map_append, List.map_cons, List.map_append, List.map_cons]
    · intro other member
      obtain ⟨item, inside, rfl⟩ := List.mem_map.mp member
      exact neighbours.apart item inside

/-- What is sent changes its number with its content exactly if it is never out by whole periods. -/
theorem numbersChange_iff {Sent : Type*} {next : Code → Code} {period : Nat}
    (cycle : ∀ code steps, next^[steps] code = code ↔ period ∣ steps) {view : Sent → Item × Code}
    {start : Code} {items : List Item} {sent : List Sent}
    (numbered : sent.map view = numberedFrom next start items) (key : Item → Key)
    (content : Item → Content) :
    NumbersChange (fun item => key (view item).1) (fun item => content (view item).1)
        (fun item => (view item).2) sent ↔
      OutOfPhase period key content items := by
  have apart : ∀ first between second,
      Neighbours (key ∘ Prod.fst) (numberedFrom next start items) first between second →
      (first.2 ≠ second.2 ↔ ¬period ∣ between.length + 1) := by
    intro first between second neighbours
    rw [← cycle first.2, neighbours_numbers neighbours]
    exact ne_comm
  constructor
  · intro changes first between second neighbours differ
    rw [← numberedFrom_fst next start items, neighbours_map] at neighbours
    obtain ⟨first', between', second', neighbours', rfl, rfl, rfl⟩ := neighbours
    rw [List.length_map, ← apart _ _ _ neighbours']
    rw [← numbered, neighbours_map] at neighbours'
    obtain ⟨sender, _, receiver, seen, rfl, _, rfl⟩ := neighbours'
    exact changes _ _ _ seen differ
  · intro phase first between second neighbours differ
    have numbers : Neighbours (key ∘ Prod.fst) (numberedFrom next start items) (view first)
        (between.map view) (view second) := by
      rw [← numbered]
      exact neighbours_map.mpr ⟨first, between, second, neighbours, rfl, rfl, rfl⟩
    have plain : Neighbours key items (view first).1 ((between.map view).map Prod.fst)
        (view second).1 := by
      rw [← numberedFrom_fst next start items]
      exact neighbours_map.mpr ⟨_, _, _, numbers, rfl, rfl, rfl⟩
    rw [apart _ _ _ numbers, ← List.length_map]
    exact phase _ _ _ plain differ

end

end RidFirmware.Lib
