import RidFirmware.Lib.Wire

/-! Records whose fields are announced by presence bits. Each byte of the announcement has seven of
them, from the top bit on, and its lowest bit tells whether another byte follows. The fields present
come in the order of their places and have a fixed width each. -/

namespace RidFirmware.Lib.Wire

/-- The bytes of an announcement. -/
def readExtended : Reader Bytes
  | [] => none
  | byte :: rest =>
      if byte.toNat % 2 = 0 then some ([byte], rest)
      else (readExtended rest).map fun read => (byte :: read.1, read.2)

/-- The places of the bits set in an announcement whose first byte starts at a place. -/
def places : Nat → Bytes → List Nat
  | _, [] => []
  | start, byte :: rest =>
      ((List.range 7).filter fun place => byte.toNat.testBit (7 - place)).map (start + ·) ++
        places (start + 7) rest

section
variable {Tag : Type}

/-- What an announcement announces, by a table of the tags in their order. -/
def announced (table : List Tag) (identifiers : Bytes) : Option (List Tag) :=
  (places 0 identifiers).mapM fun place => table[place]?

/-- The bytes of the fields of some tags, one after the other. -/
def readFields (width : Tag → Nat) : List Tag → Reader (List (Tag × Bytes))
  | [] => fun input => some ([], input)
  | tag :: rest => fun input =>
      (Reader.bytes (width tag) input).bind fun first =>
        (readFields width rest first.2).map fun later => ((tag, first.1) :: later.1, later.2)

theorem readExtended_append {first : Bytes} {last : UInt8}
    (continued : ∀ byte ∈ first, byte.toNat % 2 = 1) (final : last.toNat % 2 = 0) (rest : Bytes) :
    readExtended (first ++ last :: rest) = some (first ++ [last], rest) := by
  induction first with
  | nil =>
    rw [List.nil_append, readExtended, if_pos final]
    rfl
  | cons byte first ih =>
    have more := continued byte List.mem_cons_self
    have later := ih fun other member => continued other (List.mem_cons_of_mem _ member)
    rw [List.cons_append, readExtended, if_neg (by omega), later]
    rfl

theorem readFields_append {width : Tag → Nat} {fields : List (Tag × Bytes)}
    (sized : ∀ field ∈ fields, field.2.length = width field.1) (rest : Bytes) :
    readFields width (fields.map Prod.fst) (fields.flatMap Prod.snd ++ rest) = some (fields, rest) := by
  induction fields with
  | nil => rfl
  | cons field fields ih =>
    have later := ih fun other member => sized other (List.mem_cons_of_mem _ member)
    have first : Reader.bytes (width field.1) (field.2 ++ (fields.flatMap Prod.snd ++ rest)) =
        some (field.2, fields.flatMap Prod.snd ++ rest) :=
      (bytes_exact (width field.1) _ _ _).mpr ⟨sized field List.mem_cons_self, rfl⟩
    rw [List.map_cons, List.flatMap_cons, List.append_assoc, readFields]
    dsimp only
    rw [first, Option.bind_some, later]
    rfl

end

/-! Signed numbers. -/

/-- The integer whose little-endian bytes are given in two's complement. -/
def getInt (bytes : Bytes) : Int :=
  if 2 * getLe bytes < 256 ^ bytes.length then getLe bytes else (getLe bytes : Int) - 256 ^ bytes.length

theorem getLe_putInt {width : Nat} {value : Int} (low : 0 ≤ value) (high : value < 256 ^ width) :
    (getLe (putInt width value) : Int) = value := by
  have fits : (value % 256 ^ width).toNat < 256 ^ width := by
    rw [Int.emod_eq_of_lt low high]
    have cast : ((256 ^ width : Nat) : Int) = 256 ^ width := by push_cast; rfl
    omega
  unfold putInt
  rw [getLe_putLe _ _ fits, Int.emod_eq_of_lt low high, Int.toNat_of_nonneg low]

theorem getInt_putInt {width : Nat} {value : Int} (low : -(256 ^ width) ≤ 2 * value)
    (high : 2 * value < 256 ^ width) : getInt (putInt width value) = value := by
  have cast : ((256 ^ width : Nat) : Int) = 256 ^ width := by push_cast; rfl
  have positive : (0 : Int) < 256 ^ width := Int.pow_pos (by decide)
  have fits : (value % 256 ^ width).toNat < 256 ^ width := by
    have below := Int.emod_lt_of_pos value positive
    have above := Int.emod_nonneg value positive.ne'
    omega
  have read : getLe (putInt width value) = (value % 256 ^ width).toNat := getLe_putLe _ _ fits
  unfold getInt
  rw [read, putInt_length]
  rcases lt_or_ge value 0 with negative | nonneg
  · have wrapped : value % 256 ^ width = value + 256 ^ width := by
      rw [← Int.add_emod_right, Int.emod_eq_of_lt (by omega) (by omega)]
    rw [wrapped]
    split_ifs
    · omega
    · omega
  · rw [Int.emod_eq_of_lt nonneg (by omega)]
    split_ifs
    · omega
    · omega

end RidFirmware.Lib.Wire
