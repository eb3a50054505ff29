import RidFirmware.Lib.Wire

/-! Byte strings made of elements: an id, a length in one byte and a value of that length. Such a string
has one way to be split. -/

namespace RidFirmware.Lib

/-- An element whose value is short enough for its length byte. -/
structure Element where
  id : UInt8
  value : Bytes
  short : value.length < 256

namespace Element

def encode (element : Element) : Bytes :=
  element.id :: UInt8.ofNat element.value.length :: element.value

theorem length_byte (element : Element) :
    (UInt8.ofNat element.value.length).toNat = element.value.length := by
  rw [UInt8.toNat_ofNat', Nat.mod_eq_of_lt element.short]

/-- Split a string into elements, unless its last one is cut off. -/
def split : Bytes → Option (List Element)
  | [] => some []
  | [_] => none
  | id :: length :: rest =>
      if within : length.toNat ≤ rest.length then
        (split (rest.drop length.toNat)).map fun later =>
          ⟨id, rest.take length.toNat, by
            rw [List.length_take, Nat.min_eq_left within]
            exact length.toNat_lt⟩ :: later
      else none
termination_by bytes => bytes.length
decreasing_by simp only [List.length_cons, List.length_drop]; omega

theorem split_nil : split [] = some [] := by
  rw [split]

theorem split_cut {id length : UInt8} {rest : Bytes} (long : rest.length < length.toNat) :
    split (id :: length :: rest) = none := by
  rw [split, dif_neg (Nat.not_le.mpr long)]

theorem split_cons {id length : UInt8} {value rest : Bytes} (announced : length.toNat = value.length) :
    split (id :: length :: (value ++ rest)) =
      (split rest).map (⟨id, value, announced ▸ length.toNat_lt⟩ :: ·) := by
  have within : length.toNat ≤ (value ++ rest).length := by
    rw [announced, List.length_append]
    exact Nat.le_add_right _ _
  rw [split, dif_pos within]
  simp only [announced, List.take_left, List.drop_left]

theorem split_encode (elements : List Element) : split (elements.flatMap encode) = some elements := by
  induction elements with
  | nil => exact split_nil
  | cons element later ih =>
    rw [List.flatMap_cons, encode, List.cons_append, List.cons_append, split_cons element.length_byte, ih,
      Option.map_some]

/-- A string can be split exactly if it is made of elements, and then into these. -/
theorem split_eq_some {bytes : Bytes} {elements : List Element} :
    split bytes = some elements ↔ bytes = elements.flatMap encode := by
  constructor
  · intro found
    induction bytes using split.induct generalizing elements with
    | case1 =>
      rw [split_nil, Option.some.injEq] at found
      rw [← found, List.flatMap_nil]
    | case2 last =>
      rw [split] at found
      cases found
    | case3 id length rest within ih =>
      rw [split, dif_pos within, Option.map_eq_some_iff] at found
      obtain ⟨later, tail, rfl⟩ := found
      have size : (rest.take length.toNat).length = length.toNat := by
        rw [List.length_take, Nat.min_eq_left within]
      rw [List.flatMap_cons, ← ih tail, encode, size, UInt8.ofNat_toNat, List.cons_append,
        List.cons_append, List.take_append_drop]
    | case4 id length rest long =>
      rw [split_cut (Nat.not_le.mp long)] at found
      cases found
  · rintro rfl
    exact split_encode elements

end Element

end RidFirmware.Lib
