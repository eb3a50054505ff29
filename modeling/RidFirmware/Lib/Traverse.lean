import Mathlib.Data.List.Basic

/-! Traversals of a list by a function that may fail. What holds of the results follows from one
equation between the items and the results. -/

namespace RidFirmware.Lib

theorem map_eq_of_mapM_ok {α β ε : Type} {f : α → Except ε β} {items : List α} {results : List β}
    (mapped : items.mapM f = .ok results) : items.map f = results.map .ok := by
  induction items generalizing results with
  | nil =>
    cases mapped
    rfl
  | cons item rest ih =>
    rw [List.mapM_cons] at mapped
    cases first : f item with
    | error error => simp [first, bind, Except.bind] at mapped
    | ok value =>
      cases later : rest.mapM f with
      | error error => simp [first, later, bind, Except.bind] at mapped
      | ok values =>
        simp only [first, later, bind, Except.bind, pure, Except.pure, Except.ok.injEq] at mapped
        subst mapped
        rw [List.map_cons, List.map_cons, first, ih later]

theorem mapM_eq_ok {α β ε : Type} {f : α → Except ε β} {items : List α} {results : List β} :
    items.mapM f = .ok results ↔ items.map f = results.map .ok := by
  refine ⟨map_eq_of_mapM_ok, fun same => ?_⟩
  induction items generalizing results with
  | nil =>
    rw [List.map_nil, List.nil_eq, List.map_eq_nil_iff] at same
    rw [same]
    rfl
  | cons item rest ih =>
    cases results with
    | nil => cases same
    | cons result later =>
      obtain ⟨first, others⟩ := List.cons.inj same
      rw [List.mapM_cons, first, ih others]
      rfl

theorem mapM_eq_error {α β ε : Type} {f : α → Except ε β} {items : List α} {error : ε} :
    items.mapM f = .error error ↔ ∃ before item after, items = before ++ item :: after ∧
      (∀ earlier ∈ before, ∃ result, f earlier = .ok result) ∧ f item = .error error := by
  constructor
  · intro failed
    induction items with
    | nil => cases failed
    | cons item rest ih =>
      cases first : f item with
      | error other =>
        rw [List.mapM_cons, first] at failed
        cases failed
        exact ⟨[], item, rest, rfl, List.forall_mem_nil _, first⟩
      | ok result =>
        cases later : rest.mapM f with
        | ok results =>
          rw [List.mapM_cons, first, later] at failed
          cases failed
        | error other =>
          rw [List.mapM_cons, first, later] at failed
          cases failed
          obtain ⟨before, next, after, split, fine, fails⟩ := ih later
          refine ⟨item :: before, next, after, by rw [split, List.cons_append], ?_, fails⟩
          exact List.forall_mem_cons.mpr ⟨⟨result, first⟩, fine⟩
  · rintro ⟨before, item, after, rfl, fine, fails⟩
    induction before with
    | nil =>
      rw [List.nil_append, List.mapM_cons, fails]
      rfl
    | cons earlier before ih =>
      obtain ⟨⟨result, first⟩, others⟩ := List.forall_mem_cons.mp fine
      rw [List.cons_append, List.mapM_cons, first, ih others]
      rfl

theorem mem_of_mapM_ok {α β ε : Type} {f : α → Except ε β} {items : List α} {results : List β}
    (mapped : items.mapM f = .ok results) {result : β} (member : result ∈ results) :
    ∃ item ∈ items, f item = .ok result := by
  have present : (.ok result : Except ε β) ∈ results.map .ok := List.mem_map_of_mem member
  rw [← map_eq_of_mapM_ok mapped] at present
  exact List.mem_map.mp present

theorem exists_of_mapM_ok {α β ε : Type} {f : α → Except ε β} {items : List α} {results : List β}
    (mapped : items.mapM f = .ok results) {item : α} (member : item ∈ items) :
    ∃ result ∈ results, f item = .ok result := by
  have present : f item ∈ items.map f := List.mem_map_of_mem member
  rw [map_eq_of_mapM_ok mapped] at present
  obtain ⟨result, isResult, same⟩ := List.mem_map.mp present
  exact ⟨result, isResult, same.symm⟩

theorem length_of_mapM_ok {α β ε : Type} {f : α → Except ε β} {items : List α} {results : List β}
    (mapped : items.mapM f = .ok results) : results.length = items.length := by
  have lengths := congrArg List.length (map_eq_of_mapM_ok mapped)
  rw [List.length_map, List.length_map] at lengths
  exact lengths.symm

end RidFirmware.Lib
