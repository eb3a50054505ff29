import RidFirmware.NvsStore.CrashSafety

/-! The stored format is canonical: what `read_slot` accepts is, byte for byte, what `save` writes. -/

namespace RidFirmware.NvsStore
open Lib Lib.Wire

/-- What the flash answers when these bytes are stored under a key. -/
def storedReads (blob : Bytes) : BlobReads := { sizeResult := ESP_OK, dataResult := ESP_OK, blob }

theorem readConfig_within {input rest : Bytes} {config : SystemConfig}
    (parsed : readConfig input = some (config, rest)) :
    (writeConfig config).length + rest.length = input.length := by
  obtain ⟨_, split⟩ := (readConfig_exact input config rest).mp parsed
  rw [split, List.length_append]

section
variable (crc32 : UInt32 → Bytes → UInt32)

theorem storedReads_ok {blob : Bytes} {slot : Slot} {loaded : LoadedConfig}
    (accepted : (readSlot crc32 (storedReads blob) slot).outcome = .ok loaded) :
    kStoredConfigHeaderSize ≤ blob.length ∧
      blob.length ≤ kStoredConfigHeaderSize + kMaxPayloadSize ∧
      parseBlob crc32 blob = .ok loaded := by
  have present : ESP_OK ≠ ESP_ERR_NVS_NOT_FOUND := by decide
  unfold readSlot storedReads at accepted
  rw [if_neg present, if_neg (not_not.mpr rfl)] at accepted
  split_ifs at accepted with size
  obtain ⟨header, payload⟩ := not_or.mp size
  have parsed : parseBlob crc32 blob = .ok loaded := by simpa using accepted
  exact ⟨not_lt.mp header, not_lt.mp payload, parsed⟩

/-- The two checks `encode_config` makes besides `validate` are all that can refuse an accepted
configuration: the sizes of each group, and the size of the whole payload. -/
theorem encodeConfig_fits {config : SystemConfig} (accepted : Accepted config)
    (fits : ∀ group ∈ config.groups, group.name.length ≤ kMaxNameSize ∧
      group.trajectory.waypoints.length ≤ kMaxWaypoints)
    (short : (writeConfig config).length ≤ kMaxPayloadSize) :
    encodeConfig config = .ok (writeConfig config) := by
  have few : ¬65535 < config.groups.length := by
    have count := accepted.groups_length_le
    unfold kMaxAircraft at count
    omega
  have within : ¬config.groups.any (fun group => decide (kMaxNameSize < group.name.length) ||
      decide (kMaxWaypoints < group.trajectory.waypoints.length)) = true := by
    simp only [List.any_eq_true, Bool.or_eq_true, decide_eq_true_eq, not_exists, not_and, not_or,
      not_lt]
    exact fits
  unfold encodeConfig
  rw [(validate_ok_iff config).mpr accepted]
  dsimp only
  rw [if_neg few, if_neg within, if_neg (not_lt.mpr short)]

/-- What holds of a blob that is read as a configuration with its generation. -/
structure Canonical (slot : Slot) (blob : Bytes) (loaded : LoadedConfig) : Prop where
  header : kStoredConfigHeaderSize ≤ blob.length
  consumed : readConfig (blob.drop kStoredConfigHeaderSize) = some (loaded.config, [])
  validated : validate loaded.config = .ok ()
  rebuilt : ∃ payload, encodeConfig loaded.config = .ok payload ∧
    buildBlob crc32 payload loaded.generation = blob
  unique : ∀ other, (readSlot crc32 (storedReads other) slot).outcome = .ok loaded → other = blob

theorem storedReads_rebuilt {blob : Bytes} {slot : Slot} {loaded : LoadedConfig}
    (accepted : (readSlot crc32 (storedReads blob) slot).outcome = .ok loaded) :
    encodeConfig loaded.config = .ok (writeConfig loaded.config) ∧
      buildBlob crc32 (writeConfig loaded.config) loaded.generation = blob := by
  obtain ⟨header, bound, parsed⟩ := storedReads_ok crc32 accepted
  obtain ⟨valid, stored, _, built⟩ := (parseBlob_ok_iff crc32 header loaded).mp parsed
  have short : (writeConfig loaded.config).length ≤ kMaxPayloadSize := by
    have size := buildBlob_length crc32 (writeConfig loaded.config) loaded.generation
    rw [← built] at size
    omega
  have fits : ∀ group ∈ loaded.config.groups, group.name.length ≤ kMaxNameSize ∧
      group.trajectory.waypoints.length ≤ kMaxWaypoints := by
    intro group member
    have holds := stored.groups group member
    exact ⟨holds.name, holds.waypoints⟩
  exact ⟨encodeConfig_fits valid fits short, built.symm⟩

theorem canonical_of_accepted {slot : Slot} {blob : Bytes} {loaded : LoadedConfig}
    (accepted : (readSlot crc32 (storedReads blob) slot).outcome = .ok loaded) :
    Canonical crc32 slot blob loaded := by
  obtain ⟨header, _, parsed⟩ := storedReads_ok crc32 accepted
  obtain ⟨valid, stored, _, built⟩ := (parseBlob_ok_iff crc32 header loaded).mp parsed
  obtain ⟨encoded, rebuilt⟩ := storedReads_rebuilt crc32 accepted
  constructor
  · exact header
  · have payload : blob.drop kStoredConfigHeaderSize = writeConfig loaded.config := by
      rw [built, buildBlob_drop]
    rw [payload, readConfig_exact]
    exact ⟨stored, (List.append_nil _).symm⟩
  · exact (validate_ok_iff _).mpr valid
  · exact ⟨_, encoded, rebuilt⟩
  · intro other same
    have second := (storedReads_rebuilt crc32 same).2
    exact second.symm.trans rebuilt

theorem storedReads_buildBlob {config : SystemConfig} {payload : Bytes}
    (encoded : encodeConfig config = .ok payload) (generation : UInt32) (slot : Slot) :
    (readSlot crc32 (storedReads (buildBlob crc32 payload generation)) slot).outcome =
      .ok { config, generation } := by
  have bound := (encodeConfig_ok encoded).2.2.2
  have length := buildBlob_length crc32 payload generation
  have read := @readSlot_present crc32 (buildBlob crc32 payload generation) (by omega) (by omega) slot
  have same : Flash.reads (fun _ => some (buildBlob crc32 payload generation)) slot =
      storedReads (buildBlob crc32 payload generation) := rfl
  rw [← same, read]
  exact parseBlob_buildBlob crc32 encoded generation

end

/-- A blob which `read_slot` accepts is the one that `save` builds for what is read from it, and the
only one read that way. Whatever the blob is, the reader of its payload ends within it. -/
theorem readSlot_canonical (crc32 : UInt32 → Bytes → UInt32) (slot : Slot) (blob : Bytes) :
    (∀ loaded, (readSlot crc32 (storedReads blob) slot).outcome = .ok loaded →
      Canonical crc32 slot blob loaded) ∧
    ∀ config rest, readConfig (blob.drop kStoredConfigHeaderSize) = some (config, rest) →
      (writeConfig config).length + rest.length = blob.length - kStoredConfigHeaderSize := by
  constructor
  · intro loaded accepted
    exact canonical_of_accepted crc32 accepted
  · intro config rest parsed
    rw [readConfig_within parsed, List.length_drop]

/-- The first blob of a device. -/
theorem readSlot_canonical_first :
    Canonical crc32Le .a (buildBlob crc32Le (writeConfig oneHover) 1) ⟨oneHover, 1⟩ := by
  have encoded : encodeConfig oneHover = .ok (writeConfig oneHover) := by decide +kernel
  apply (readSlot_canonical crc32Le .a _).1
  exact storedReads_buildBlob crc32Le encoded 1 .a

end RidFirmware.NvsStore
