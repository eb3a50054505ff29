import Mathlib.Data.List.Basic
import Mathlib.Data.List.Induction

/-! A table of a fixed number of slots. An item goes to the first slot that is free or has its key; without
one it is lost. The table ends up with the latest item of each of the keys that came first. -/

namespace RidFirmware.Lib.SlotTable

variable {Item Key : Type*} [DecidableEq Key] (key : Item → Key) (free : Key)

def put : List Item → Item → Option (List Item)
  | [], _ => none
  | slot :: rest, item =>
      if key slot = free ∨ key slot = key item then some (item :: rest)
      else (put rest item).map (slot :: ·)

def offer (slots : List Item) (item : Item) : List Item := (put key free slots item).getD slots

/-- The keys of some items in the order of their first appearance, without the one that marks free slots. -/
def keysOf (items : List Item) : List Key :=
  items.foldl (fun keys item => if key item = free ∨ key item ∈ keys then keys else keys ++ [key item]) []

/-- The last item of a key. -/
def latest (items : List Item) (sought : Key) : Option Item :=
  (items.filter fun item => key item = sought).getLast?

/-- What a table holds after some items: occupied slots in front, with the keys that came first and the latest
item of each. -/
structure Holds (items table : List Item) (occupied vacant : List Item) : Prop where
  split : table = occupied ++ vacant
  keys : occupied.map key = (keysOf key free items).take table.length
  latest : ∀ slot ∈ occupied, latest key items (key slot) = some slot
  vacant : ∀ slot ∈ vacant, key slot = free

/-- What is in the slots that no key has taken: the first holds the last item without a key since the last item
with a new one, the others are as they were at the start. -/
structure Vacant (start items table : List Item) (before since : List Item) : Prop where
  split : items = before ++ since
  keys : keysOf key free before = keysOf key free items
  shortest : ∀ earlier item, before = earlier ++ [item] → keysOf key free earlier ≠ keysOf key free items
  slots : table.drop (keysOf key free items).length =
    (start.drop (keysOf key free items).length).modifyHead fun slot =>
      (since.filter fun item => key item = free).getLast?.getD slot

variable {key free}

theorem keysOf_concat (items : List Item) (item : Item) :
    keysOf key free (items ++ [item]) =
      if key item = free ∨ key item ∈ keysOf key free items then keysOf key free items
      else keysOf key free items ++ [key item] := by
  unfold keysOf
  rw [List.foldl_append]
  rfl

theorem latest_concat (items : List Item) (item : Item) (sought : Key) :
    latest key (items ++ [item]) sought = if key item = sought then some item else latest key items sought := by
  unfold latest
  rw [List.filter_append]
  split_ifs with same
  · simp [same]
  · simp [same]

theorem free_notMem_keysOf (items : List Item) : free ∉ keysOf key free items := by
  induction items using List.reverseRecOn with
  | nil => exact List.not_mem_nil
  | append_singleton items item ih =>
    rw [keysOf_concat]
    split_ifs with known
    · exact ih
    · rw [List.mem_append, List.mem_singleton, not_or]
      exact ⟨ih, fun same => known (.inl same.symm)⟩

theorem keysOf_nodup (items : List Item) : (keysOf key free items).Nodup := by
  induction items using List.reverseRecOn with
  | nil => exact List.nodup_nil
  | append_singleton items item ih =>
    rw [keysOf_concat]
    split_ifs with known
    · exact ih
    · rw [not_or] at known
      refine List.nodup_append.mpr ⟨ih, List.pairwise_singleton _ _, ?_⟩
      intro first member second single same
      rw [List.mem_singleton] at single
      exact known.2 (single ▸ same ▸ member)

theorem put_append {occupied rest : List Item} {item : Item}
    (other : ∀ slot ∈ occupied, key slot ≠ free ∧ key slot ≠ key item) :
    put key free (occupied ++ rest) item = (put key free rest item).map (occupied ++ ·) := by
  induction occupied with
  | nil => simp
  | cons slot occupied ih =>
    have differ := other slot List.mem_cons_self
    have later := ih fun slot member => other slot (List.mem_cons_of_mem _ member)
    rw [List.cons_append, put, if_neg (not_or.mpr differ), later, Option.map_map]
    rfl

theorem offer_length (slots : List Item) (item : Item) : (offer key free slots item).length = slots.length := by
  have kept : ∀ {slots after : List Item}, put key free slots item = some after → after.length = slots.length := by
    intro slots
    induction slots with
    | nil =>
      intro after stored
      cases stored
    | cons slot rest ih =>
      intro after stored
      rw [put] at stored
      split_ifs at stored
      · rw [← Option.some.inj stored]
        rfl
      · obtain ⟨later, inner, rfl⟩ := Option.map_eq_some_iff.mp stored
        rw [List.length_cons, List.length_cons, ih inner]
  unfold offer
  cases stored : put key free slots item with
  | none => rfl
  | some after => exact kept stored

namespace Holds

variable {items table occupied vacant : List Item}

theorem initial {slots : List Item} (empty : ∀ slot ∈ slots, key slot = free) :
    Holds key free [] slots [] slots where
  split := rfl
  keys := by simp [keysOf]
  latest := nofun
  vacant := empty

theorem key_ne_free (holds : Holds key free items table occupied vacant) {slot : Item}
    (member : slot ∈ occupied) : key slot ≠ free := by
  have listed : key slot ∈ keysOf key free items := by
    apply List.mem_of_mem_take (i := table.length)
    rw [← holds.keys]
    exact List.mem_map_of_mem member
  intro same
  exact free_notMem_keysOf items (same ▸ listed)

theorem keys_nodup (holds : Holds key free items table occupied vacant) : (occupied.map key).Nodup := by
  rw [holds.keys]
  exact (keysOf_nodup items).sublist (List.take_sublist _ _)

theorem offer_other (holds : Holds key free items table occupied vacant) {item : Item}
    (other : ∀ slot ∈ occupied, key slot ≠ key item) :
    offer key free table item = occupied ++ vacant.modifyHead fun _ => item := by
  have passed := @put_append _ _ _ key free occupied vacant item fun slot member =>
    ⟨holds.key_ne_free member, other slot member⟩
  rw [offer, holds.split, passed]
  cases vacant with
  | nil => rfl
  | cons slot rest =>
    rw [put, if_pos (.inl (holds.vacant slot List.mem_cons_self))]
    rfl

theorem keysOf_eq (holds : Holds key free items table occupied vacant) (room : vacant ≠ []) :
    keysOf key free items = occupied.map key := by
  have short : occupied.length < table.length := by
    rw [holds.split, List.length_append]
    have positive := List.length_pos_iff.mpr room
    omega
  have length : ((keysOf key free items).take table.length).length = occupied.length := by
    rw [← holds.keys, List.length_map]
  rw [List.length_take] at length
  rw [holds.keys, List.take_of_length_le (by omega)]

theorem drop_keys (holds : Holds key free items table occupied vacant) {front rest : List Item}
    (same : front.length = occupied.length) (fits : rest.length = vacant.length) :
    (front ++ rest).drop (keysOf key free items).length = rest := by
  by_cases room : vacant = []
  · have full := congrArg List.length holds.keys
    rw [List.length_map, List.length_take, holds.split, room, List.append_nil] at full
    rw [room, List.length_nil] at fits
    rw [List.length_eq_zero_iff.mp fits]
    exact List.drop_eq_nil_of_le (by rw [List.append_nil]; omega)
  · rw [holds.keysOf_eq room, List.length_map]
    exact List.drop_left' same

theorem offer_same (holds : Holds key free items table occupied vacant) {before after : List Item} {old item : Item}
    (split : occupied = before ++ old :: after) (same : key old = key item) :
    offer key free table item = before ++ item :: after ++ vacant := by
  have unique := holds.keys_nodup
  rw [split, List.map_append, List.nodup_append] at unique
  have passed := @put_append _ _ _ key free before (old :: (after ++ vacant)) item fun slot member =>
    ⟨holds.key_ne_free (split ▸ List.mem_append_left _ member),
      same ▸ unique.2.2 _ (List.mem_map_of_mem member) _ List.mem_cons_self⟩
  rw [put, if_pos (.inr same)] at passed
  rw [offer, holds.split, split, List.append_assoc, List.cons_append, passed]
  simp

/-- Whatever is offered, the table keeps the latest items of the first keys. -/
theorem step (holds : Holds key free items table occupied vacant) (item : Item) :
    ∃ occupied' vacant', Holds key free (items ++ [item]) (offer key free table item) occupied' vacant' := by
  have kept : ∀ slot ∈ occupied, key slot ≠ key item →
      SlotTable.latest key (items ++ [item]) (key slot) = some slot := by
    intro slot member differ
    rw [latest_concat, if_neg differ.symm]
    exact holds.latest slot member
  have size := @offer_length _ _ _ key free table item
  by_cases present : key item ∈ occupied.map key
  · -- The slot of the key is overwritten.
    obtain ⟨old, member, same⟩ := List.mem_map.mp present
    obtain ⟨before, after, rfl⟩ := List.append_of_mem member
    have unique := holds.keys_nodup
    rw [List.map_append, List.map_cons, List.nodup_append, List.nodup_cons] at unique
    obtain ⟨_, ⟨afterOld, _⟩, apart⟩ := unique
    have beforeOther : ∀ slot ∈ before, key slot ≠ key item := fun slot member =>
      same ▸ apart _ (List.mem_map_of_mem member) _ List.mem_cons_self
    have afterOther : ∀ slot ∈ after, key slot ≠ key item := by
      intro slot member equal
      exact afterOld (same ▸ equal ▸ List.mem_map_of_mem member)
    have known : key item = free ∨ key item ∈ keysOf key free items := by
      refine .inr (List.mem_of_mem_take (i := table.length) ?_)
      rw [← holds.keys]
      exact present
    refine ⟨before ++ item :: after, vacant, ?_, ?_, ?_, holds.vacant⟩
    · exact holds.offer_same rfl same
    · rw [keysOf_concat, if_pos known, size, ← holds.keys]
      simp [same]
    · intro slot member
      rcases List.mem_append.mp member with early | late
      · exact kept slot (List.mem_append_left _ early) (beforeOther slot early)
      · rcases List.mem_cons.mp late with rfl | late
        · rw [latest_concat, if_pos rfl]
        · exact kept slot (List.mem_append_right _ (List.mem_cons_of_mem _ late)) (afterOther slot late)
  · have other : ∀ slot ∈ occupied, key slot ≠ key item := by
      intro slot member same
      exact present (same ▸ List.mem_map_of_mem member)
    have offered := holds.offer_other other
    by_cases known : key item = free ∨ key item ∈ keysOf key free items
    · -- No key is new: if there is a vacant slot, it stays vacant.
      refine ⟨occupied, vacant.modifyHead fun _ => item, offered, ?_, fun slot member =>
        kept slot member (other slot member), ?_⟩
      · rw [keysOf_concat, if_pos known, size]
        exact holds.keys
      · cases vacant with
        | nil => nofun
        | cons slot rest =>
          have isFree : key item = free := by
            refine known.resolve_right ?_
            rw [holds.keysOf_eq (List.cons_ne_nil _ _)]
            exact present
          intro vacated member
          rcases List.mem_cons.mp member with rfl | member
          · exact isFree
          · exact holds.vacant vacated (List.mem_cons_of_mem _ member)
    · cases vacant with
      | nil =>
        -- The table is full, and the new key comes too late.
        refine ⟨occupied, [], offered, ?_, fun slot member => kept slot member (other slot member), nofun⟩
        have full : table.length ≤ (keysOf key free items).length := by
          have length := congrArg List.length holds.keys
          rw [List.length_map, List.length_take] at length
          have split := congrArg List.length holds.split
          rw [List.append_nil] at split
          omega
        rw [keysOf_concat, if_neg known, size, List.take_append_of_le_length full]
        exact holds.keys
      | cons slot rest =>
        refine ⟨occupied ++ [item], rest, ?_, ?_, ?_, fun vacated member =>
          holds.vacant vacated (List.mem_cons_of_mem _ member)⟩
        · rw [offered, List.append_assoc]
          rfl
        · have short : ((keysOf key free items) ++ [key item]).length ≤ table.length := by
            rw [holds.keysOf_eq (List.cons_ne_nil _ _), holds.split]
            simp
          rw [keysOf_concat, if_neg known, size, List.take_of_length_le short,
            holds.keysOf_eq (List.cons_ne_nil _ _), List.map_append]
          rfl
        · intro stored member
          rcases List.mem_append.mp member with early | late
          · exact kept stored early (other stored early)
          · rw [List.mem_singleton] at late
            rw [late, latest_concat, if_pos rfl]

end Holds

/-- A table that starts empty holds the latest item of each of the keys that came first. -/
theorem exists_holds {slots : List Item} (empty : ∀ slot ∈ slots, key slot = free) (items : List Item) :
    ∃ occupied vacant, Holds key free items (items.foldl (offer key free) slots) occupied vacant := by
  induction items using List.reverseRecOn with
  | nil => exact ⟨[], slots, Holds.initial empty⟩
  | append_singleton items item ih =>
    obtain ⟨occupied, vacant, holds⟩ := ih
    rw [List.foldl_append]
    exact holds.step item

theorem exists_vacant {start : List Item} (empty : ∀ slot ∈ start, key slot = free) (items : List Item) :
    ∃ before since, Vacant key free start items (items.foldl (offer key free) start) before since := by
  induction items using List.reverseRecOn with
  | nil =>
    refine ⟨[], [], rfl, rfl, fun earlier item impossible => by simp at impossible, ?_⟩
    exact (congrFun List.modifyHead_id start).symm
  | append_singleton items item ih =>
    obtain ⟨before, since, split, keys, shortest, slots⟩ := ih
    obtain ⟨occupied, vacant, holds⟩ := exists_holds empty items
    rw [List.foldl_append, List.foldl_cons, List.foldl_nil]
    generalize items.foldl (offer key free) start = table at slots holds
    have vacated : vacant = (start.drop (keysOf key free items).length).modifyHead fun slot =>
        (since.filter fun item => key item = free).getLast?.getD slot := by
      rw [← slots, holds.split, holds.drop_keys rfl rfl]
    have longer : items ++ [item] = before ++ (since ++ [item]) := by rw [split, List.append_assoc]
    by_cases unkeyed : key item = free
    · -- the item goes to the first vacant slot, over the one that may be there
      have same := @keysOf_concat _ _ _ key free items item
      rw [if_pos (.inl unkeyed)] at same
      refine ⟨before, since ++ [item], longer, by rw [same, keys], by rw [same]; exact shortest, ?_⟩
      rw [same, holds.offer_other fun slot member => unkeyed ▸ holds.key_ne_free member,
        holds.drop_keys rfl (List.length_modifyHead), vacated, List.modifyHead_modifyHead, List.filter_append]
      congr 1
      funext slot
      simp [unkeyed]
    have silent : (since ++ [item]).filter (fun item => key item = free) =
        since.filter fun item => key item = free := by
      simp [unkeyed]
    by_cases known : key item ∈ keysOf key free items
    · have same := @keysOf_concat _ _ _ key free items item
      rw [if_pos (.inr known)] at same
      refine ⟨before, since ++ [item], longer, by rw [same, keys], by rw [same]; exact shortest, ?_⟩
      rw [same, silent, ← vacated]
      by_cases present : key item ∈ occupied.map key
      · obtain ⟨old, member, equal⟩ := List.mem_map.mp present
        obtain ⟨front, rest, rfl⟩ := List.append_of_mem member
        rw [holds.offer_same rfl equal]
        exact holds.drop_keys (by simp) rfl
      · -- the key came too late: there is no vacant slot
        have other : ∀ slot ∈ occupied, key slot ≠ key item := fun slot member equal =>
          present (equal ▸ List.mem_map_of_mem member)
        have full : vacant = [] := by
          by_contra room
          exact present (holds.keysOf_eq room ▸ known)
        rw [holds.offer_other other, full]
        exact holds.drop_keys rfl (by rw [full]; rfl)
    · -- a new key takes the first vacant slot, with what was in it
      have grown := @keysOf_concat _ _ _ key free items item
      rw [if_neg (not_or.mpr ⟨unkeyed, known⟩)] at grown
      have other : ∀ slot ∈ occupied, key slot ≠ key item := by
        intro slot member equal
        have listed : key slot ∈ (keysOf key free items).take table.length :=
          holds.keys ▸ List.mem_map_of_mem member
        exact known (equal ▸ List.mem_of_mem_take listed)
      refine ⟨items ++ [item], [], (List.append_nil _).symm, rfl, ?_, ?_⟩
      · intro earlier last same
        obtain ⟨rfl, _⟩ := List.append_inj' same rfl
        rw [grown]
        exact fun equal => absurd (congrArg List.length equal) (by simp)
      · rw [grown, List.length_append, List.length_singleton, ← List.drop_drop, ← List.drop_drop,
          holds.offer_other other, holds.drop_keys rfl (List.length_modifyHead), vacated]
        have head : ∀ (change : Item → Item) (slots : List Item), (slots.modifyHead change).drop 1 = slots.drop 1 :=
          fun _ slots => by cases slots <;> rfl
        rw [head, head, List.filter_nil, List.getLast?_nil]
        exact (congrFun List.modifyHead_id _).symm

end RidFirmware.Lib.SlotTable
