import RidFirmware.NvsStore.Store

/-! A blob is accepted exactly when it is the one `save` builds for the configuration and the
generation it is read as. -/

namespace RidFirmware.NvsStore
open Lib Lib.Wire

theorem writeU16_length (value : UInt16) : (writeU16 value).length = 2 := putLe_length 2 _
theorem writeU32_length (value : UInt32) : (writeU32 value).length = 4 := putLe_length 4 _

private theorem slice_append {front middle back : Bytes} {offset size : Nat}
    (start : front.length = offset) (width : middle.length = size) :
    ((front ++ (middle ++ back)).drop offset).take size = middle := by
  subst start width
  rw [List.drop_left, List.take_left]

private theorem readU32Le_append {front back : Bytes} {offset : Nat} (value : UInt32)
    (start : front.length = offset) : readU32Le (front ++ (writeU32 value ++ back)) offset = value := by
  unfold readU32Le
  rw [slice_append start (writeU32_length value), writeU32, getLe_putLe _ _ value.toNat_lt]
  exact UInt32.ofNat_toNat

private theorem readU16Le_append {front back : Bytes} {offset : Nat} (value : UInt16)
    (start : front.length = offset) : readU16Le (front ++ (writeU16 value ++ back)) offset = value := by
  unfold readU16Le
  rw [slice_append start (writeU16_length value), writeU16, getLe_putLe _ _ value.toNat_lt]
  exact UInt16.ofNat_toNat

private theorem putLe_slice {data : Bytes} {offset size : Nat} (enough : offset + size ≤ data.length) :
    putLe size (getLe ((data.drop offset).take size)) = (data.drop offset).take size ∧
      getLe ((data.drop offset).take size) < 256 ^ size := by
  have width : ((data.drop offset).take size).length = size := by
    simp only [List.length_take, List.length_drop]
    omega
  have bytes := putLe_getLe ((data.drop offset).take size)
  have small := getLe_lt ((data.drop offset).take size)
  rw [width] at bytes small
  exact ⟨bytes, small⟩

private theorem write_slice32 {data : Bytes} {offset : Nat} (enough : offset + 4 ≤ data.length) :
    writeU32 (readU32Le data offset) = (data.drop offset).take 4 := by
  obtain ⟨bytes, small⟩ := putLe_slice enough
  unfold writeU32 readU32Le
  rw [UInt32.toNat_ofNat', Nat.mod_eq_of_lt (by simpa using small), bytes]

private theorem write_slice16 {data : Bytes} {offset : Nat} (enough : offset + 2 ≤ data.length) :
    writeU16 (readU16Le data offset) = (data.drop offset).take 2 := by
  obtain ⟨bytes, small⟩ := putLe_slice enough
  unfold writeU16 readU16Le
  rw [UInt16.toNat_ofNat', Nat.mod_eq_of_lt (by simpa using small), bytes]

def blobOf (magic : UInt32) (version payloadSize : UInt16) (generation crc : UInt32)
    (payload : Bytes) : Bytes :=
  writeU32 magic ++ (writeU16 version ++ (writeU16 payloadSize ++ (writeU32 generation ++
    (writeU32 crc ++ payload))))

theorem blobOf_fields {blob : Bytes} (enough : kStoredConfigHeaderSize ≤ blob.length) :
    blobOf (readU32Le blob 0) (readU16Le blob 4) (readU16Le blob 6) (readU32Le blob 8)
      (readU32Le blob 12) (blob.drop kStoredConfigHeaderSize) = blob := by
  change 16 ≤ blob.length at enough
  have step : ∀ offset size next, offset + size = next →
      (blob.drop offset).take size ++ blob.drop next = blob.drop offset := by
    intro offset size next same
    obtain rfl := same
    rw [← List.drop_drop, List.take_append_drop]
  change writeU32 _ ++ (writeU16 _ ++ (writeU16 _ ++ (writeU32 _ ++ (writeU32 _ ++ blob.drop 16)))) = _
  rw [write_slice32 (by omega), write_slice16 (by omega), write_slice16 (by omega),
    write_slice32 (by omega), write_slice32 (by omega), step 12 4 16 rfl, step 8 4 12 rfl,
    step 6 2 8 rfl, step 4 2 6 rfl, step 0 4 4 rfl, List.drop_zero]

section
variable (magic : UInt32) (version payloadSize : UInt16) (generation crc : UInt32) (payload : Bytes)

private theorem readMagic :
    readU32Le (blobOf magic version payloadSize generation crc payload) 0 = magic :=
  @readU32Le_append [] _ 0 magic rfl

private theorem readVersion :
    readU16Le (blobOf magic version payloadSize generation crc payload) 4 = version :=
  @readU16Le_append (writeU32 magic) _ 4 version (writeU32_length magic)

private theorem readPayloadSize :
    readU16Le (blobOf magic version payloadSize generation crc payload) 6 = payloadSize := by
  have regroup : blobOf magic version payloadSize generation crc payload =
      (writeU32 magic ++ writeU16 version) ++ (writeU16 payloadSize ++ (writeU32 generation ++
        (writeU32 crc ++ payload))) := by simp only [blobOf, List.append_assoc]
  rw [regroup]
  exact readU16Le_append payloadSize (by simp [writeU32_length, writeU16_length])

private theorem readGeneration :
    readU32Le (blobOf magic version payloadSize generation crc payload) 8 = generation := by
  have regroup : blobOf magic version payloadSize generation crc payload =
      (writeU32 magic ++ writeU16 version ++ writeU16 payloadSize) ++ (writeU32 generation ++
        (writeU32 crc ++ payload)) := by simp only [blobOf, List.append_assoc]
  rw [regroup]
  exact readU32Le_append generation (by simp [writeU32_length, writeU16_length])

private theorem split_payload :
    blobOf magic version payloadSize generation crc payload =
      (writeU32 magic ++ writeU16 version ++ writeU16 payloadSize ++ writeU32 generation) ++
        (writeU32 crc ++ payload) := by simp only [blobOf, List.append_assoc]

private theorem readCrc :
    readU32Le (blobOf magic version payloadSize generation crc payload) 12 = crc := by
  rw [split_payload]
  exact readU32Le_append crc (by simp [writeU32_length, writeU16_length])

private theorem blobOf_drop :
    (blobOf magic version payloadSize generation crc payload).drop kStoredConfigHeaderSize = payload := by
  rw [split_payload, ← List.append_assoc]
  apply List.drop_left'
  simp [writeU32_length, writeU16_length, kStoredConfigHeaderSize]

private theorem blobOf_take :
    (blobOf magic version payloadSize generation crc payload).take 12 =
      writeU32 magic ++ writeU16 version ++ writeU16 payloadSize ++ writeU32 generation := by
  rw [split_payload]
  apply List.take_left'
  simp [writeU32_length, writeU16_length]

theorem blobOf_length :
    (blobOf magic version payloadSize generation crc payload).length =
      kStoredConfigHeaderSize + payload.length := by
  simp [blobOf, writeU32_length, writeU16_length, kStoredConfigHeaderSize]
  omega

end

variable (crc32 : UInt32 → Bytes → UInt32)

theorem buildBlob_eq (payload : Bytes) (generation : UInt32) :
    buildBlob crc32 payload generation =
      blobOf kStoredConfigMagic kStoredConfigSchemaVersion (UInt16.ofNat payload.length) generation
        (calculateCrc crc32 (headerWithoutCrc (UInt16.ofNat payload.length) generation) payload)
        payload := by
  simp only [buildBlob, appendHeader, headerWithoutCrc, blobOf, List.append_assoc]

theorem buildBlob_drop (payload : Bytes) (generation : UInt32) :
    (buildBlob crc32 payload generation).drop kStoredConfigHeaderSize = payload := by
  rw [buildBlob_eq, blobOf_drop]

theorem buildBlob_length (payload : Bytes) (generation : UInt32) :
    (buildBlob crc32 payload generation).length = kStoredConfigHeaderSize + payload.length := by
  rw [buildBlob_eq, blobOf_length]

theorem parseBlob_blobOf_iff (magic : UInt32) (version payloadSize : UInt16)
    (generation crc : UInt32) (payload : Bytes) (loaded : LoadedConfig) :
    parseBlob crc32 (blobOf magic version payloadSize generation crc payload) = .ok loaded ↔
      magic = kStoredConfigMagic ∧ payloadSize.toNat = payload.length ∧
        crc = calculateCrc crc32 (writeU32 magic ++ writeU16 version ++ writeU16 payloadSize ++
          writeU32 generation) payload ∧
        version = kStoredConfigSchemaVersion ∧ decodeConfig payload = .ok loaded.config ∧
        loaded.generation = generation := by
  have checksum : calculateCrc crc32 (blobOf magic version payloadSize generation crc payload) payload =
      calculateCrc crc32 (writeU32 magic ++ writeU16 version ++ writeU16 payloadSize ++
        writeU32 generation) payload := by
    unfold calculateCrc
    rw [blobOf_take, List.take_of_length_le (by simp [writeU32_length, writeU16_length])]
  unfold parseBlob
  simp only [readMagic, readVersion, readPayloadSize, readGeneration, readCrc, blobOf_drop,
    blobOf_length, Nat.add_sub_cancel_left, checksum]
  split_ifs with wrong wrongCrc wrongVersion
  · simp only [false_iff]
    rcases wrong with wrong | wrong
    · exact fun fields => wrong fields.1
    · exact fun fields => wrong fields.2.1
  · simp only [false_iff]
    exact fun fields => wrongCrc fields.2.2.1
  · simp only [false_iff]
    exact fun fields => wrongVersion fields.2.2.2.1
  · simp only [not_or, not_not] at wrong wrongCrc wrongVersion
    rcases loaded with ⟨config, stored⟩
    cases decoded : decodeConfig payload with
    | error error => simp
    | ok read => simp [wrong, wrongCrc, wrongVersion, eq_comm]

/-- `read_slot` accepts exactly the blobs `save` builds for accepted configurations. -/
theorem parseBlob_ok_iff {blob : Bytes} (enough : kStoredConfigHeaderSize ≤ blob.length)
    (loaded : LoadedConfig) :
    parseBlob crc32 blob = .ok loaded ↔
      Accepted loaded.config ∧ StoredConfig loaded.config ∧
        (writeConfig loaded.config).length < 2 ^ 16 ∧
        blob = buildBlob crc32 (writeConfig loaded.config) loaded.generation := by
  constructor
  · intro parsed
    have fields := blobOf_fields enough
    rw [← fields, parseBlob_blobOf_iff] at parsed
    obtain ⟨magic, size, crc, version, decoded, generation⟩ := parsed
    obtain ⟨accepted, stored, payload⟩ := (decodeConfig_ok_iff _ _).mp decoded
    have small := (readU16Le blob 6).toNat_lt
    have width : UInt16.ofNat (writeConfig loaded.config).length = readU16Le blob 6 := by
      rw [← payload, ← size, UInt16.ofNat_toNat]
    refine ⟨accepted, stored, by rw [← payload]; omega, ?_⟩
    rw [buildBlob_eq, width, generation, ← payload, ← magic, ← version]
    conv_lhs => rw [← fields, crc]
    simp only [headerWithoutCrc, magic, version]
  · intro parts
    obtain ⟨accepted, stored, small, rfl⟩ := parts
    rw [buildBlob_eq, parseBlob_blobOf_iff]
    refine ⟨rfl, ?_, rfl, rfl, (decodeConfig_ok_iff _ _).mpr ⟨accepted, stored, rfl⟩, rfl⟩
    rw [UInt16.toNat_ofNat', Nat.mod_eq_of_lt small]

theorem parseBlob_buildBlob {config : SystemConfig} {payload : Bytes}
    (encoded : encodeConfig config = .ok payload) (generation : UInt32) :
    parseBlob crc32 (buildBlob crc32 payload generation) = .ok { config, generation } := by
  obtain ⟨accepted, stored, rfl, bound⟩ := encodeConfig_ok encoded
  unfold kMaxPayloadSize at bound
  rw [parseBlob_ok_iff crc32 (by rw [buildBlob_length]; omega)]
  have fits : (writeConfig config).length < 2 ^ 16 := by omega
  exact ⟨accepted, stored, fits, rfl⟩

end RidFirmware.NvsStore
