import RidFirmware.NvsStore.Canonical

/-! What the store can hold: which accepted configurations `encode_config` takes, and when a `save`
gets as far as writing. -/

namespace RidFirmware.NvsStore
open Lib Lib.Wire

theorem writeFloat_length (value : Float32Bits) : (writeFloat value).length = 4 := putLe_length 4 _
theorem writeDouble_length (value : Float64Bits) : (writeDouble value).length = 8 := putLe_length 8 _
theorem writeU8_length (value : UInt8) : (writeU8 value).length = 1 := putLe_length 1 _
theorem writeI32_length (value : Int) : (writeI32 value).length = 4 := putLe_length 4 _

theorem writeOptionalPeriod_length (period : Option Int) : (writeOptionalPeriod period).length = 4 :=
  writeI32_length _

theorem flatMap_length {α : Type} {write : α → Bytes} {size : Nat}
    (each : ∀ item, (write item).length = size) (items : List α) :
    (items.flatMap write).length = items.length * size := by
  induction items with
  | nil => simp
  | cons item rest ih =>
    rw [List.flatMap_cons, List.length_append, each, ih, List.length_cons]
    ring

theorem writePoint_length (point : EnuPoint) : (writePoint point).length = 12 := by
  simp only [writePoint, List.length_append, writeFloat_length]

theorem writeTrajectory_length (trajectory : TrajectoryConfig) :
    (writeTrajectory trajectory).length = 31 + 12 * trajectory.waypoints.length := by
  simp only [writeTrajectory, List.length_append, writeU8_length, writeU16_length, writeU32_length,
    writeFloat_length, flatMap_length writePoint_length]
  omega

theorem writeGroup_length (group : GroupConfig) :
    (writeGroup group).length =
      66 + group.name.length + 12 * group.trajectory.waypoints.length := by
  have periods : ((kKinds.map group.periodOverrides).flatMap writeOptionalPeriod).length = 24 := by
    rw [flatMap_length writeOptionalPeriod_length]
    rfl
  simp only [writeGroup, List.length_append, writeU8_length, writeU16_length,
    writeTrajectory_length, writeOptionalPeriod_length, periods]
  omega

theorem writeSite_length_le (site : Option (GeoPoint Float64Bits)) : (writeSite site).length ≤ 17 := by
  cases site with
  | none => exact (by decide : 1 ≤ 17)
  | some site => simp only [writeSite, List.length_append, writeU8_length, writeDouble_length, le_refl]

/-- No group flies along waypoints. The shell has no command that adds any. -/
def Plain (config : SystemConfig) : Prop :=
  ∀ group ∈ config.groups, group.trajectory.waypoints = []

def ShortNames (config : SystemConfig) : Prop :=
  ∀ group ∈ config.groups, group.name.length ≤ kMaxNameSize

instance (config : SystemConfig) : Decidable (ShortNames config) :=
  inferInstanceAs (Decidable (∀ group ∈ config.groups, _))

theorem writeGroups_length_le {groups : List GroupConfig}
    (plain : ∀ group ∈ groups, group.trajectory.waypoints = [])
    (short : ∀ group ∈ groups, group.name.length ≤ kMaxNameSize) :
    (groups.flatMap writeGroup).length ≤ groups.length * 130 := by
  induction groups with
  | nil => simp
  | cons group rest ih =>
    rw [List.forall_mem_cons] at plain short
    have later := ih plain.2 short.2
    have name := short.1
    rw [List.flatMap_cons, List.length_append, writeGroup_length, plain.1, List.length_nil,
      List.length_cons]
    unfold kMaxNameSize at name
    omega

theorem writeConfig_length_le {config : SystemConfig} (accepted : Accepted config)
    (plain : Plain config) (short : ShortNames config) :
    (writeConfig config).length ≤ kMaxPayloadSize := by
  have site := writeSite_length_le config.site
  have groups := writeGroups_length_le plain short
  have count := accepted.groups_length_le
  simp only [writeConfig, List.length_append, writeI32_length, writeU16_length]
  unfold kMaxAircraft at count
  unfold kMaxPayloadSize
  omega

/-- Of the configurations without waypoints that `validate` accepts, `encode_config` takes those with
short names. -/
theorem encodeConfig_plain_iff {config : SystemConfig} (accepted : Accepted config)
    (plain : Plain config) :
    encodeConfig config = .ok (writeConfig config) ↔ ShortNames config := by
  constructor
  · intro encoded
    obtain ⟨_, stored, _, _⟩ := encodeConfig_ok encoded
    intro group member
    exact (stored.groups group member).name
  · intro short
    apply encodeConfig_fits accepted _ (writeConfig_length_le accepted plain short)
    intro group member
    refine ⟨short group member, ?_⟩
    rw [plain group member]
    exact Nat.zero_le _

/-! Slots that hold nothing, or a configuration that can be read. -/

section
variable (crc32 : UInt32 → Bytes → UInt32)

/-- No slot holds bytes which `read_slot` rejects. -/
def Clean (flash : Flash) : Prop :=
  ∀ slot, flash slot = none ∨ ∃ entry, flash.contents crc32 slot = some entry

variable {crc32}

theorem SlotResult.outcome_ok {result : SlotResult} {loaded : LoadedConfig}
    (found : result.value = some loaded) : result.outcome = .ok loaded := by
  unfold SlotResult.value at found
  cases outcome : result.outcome with
  | error error =>
    rw [outcome] at found
    cases found
  | ok other =>
    rw [outcome] at found
    cases found
    rfl

theorem Clean.outcome {flash : Flash} (clean : Clean crc32 flash) (slot : Slot) :
    (readSlot crc32 (flash.reads slot) slot).outcome = .error .notFound ∨
      ∃ loaded, (readSlot crc32 (flash.reads slot) slot).outcome = .ok loaded := by
  rcases clean slot with empty | ⟨entry, present⟩
  · left
    unfold Flash.reads
    rw [empty]
    rfl
  · right
    unfold Flash.contents at present
    obtain ⟨loaded, read, _⟩ := Option.map_eq_some_iff.mp present
    exact ⟨loaded, SlotResult.outcome_ok read⟩

theorem Clean.outcome_ne {flash : Flash} (clean : Clean crc32 flash) (slot : Slot)
    {error : NvsStoreError} (other : error ≠ .notFound) :
    (readSlot crc32 (flash.reads slot) slot).outcome ≠ .error error := by
  intro failed
  rcases clean.outcome slot with missing | ⟨loaded, read⟩
  · rw [missing] at failed
    cases failed
    exact other rfl
  · rw [read] at failed
    cases failed

theorem clean_empty : Clean crc32 (fun _ => none) := fun _ => .inl rfl

theorem chosen_value {flash : Flash} {slot : Slot} {entry : SystemConfig × UInt32}
    (current : DualSlot.current (flash.contents crc32) = some (slot, entry)) :
    ∃ value, (chooseSlot (readSlot crc32 (flash.reads .a) .a)
      (readSlot crc32 (flash.reads .b) .b)).value = some value ∧ value.generation = entry.2 := by
  have chosen := flash.chosen crc32
  rw [current] at chosen
  obtain ⟨value, found, same⟩ := Option.map_eq_some_iff.mp chosen
  refine ⟨value, found, ?_⟩
  have entries : value.entry = entry := congrArg Prod.snd same
  rw [← entries]
  rfl

/-- From clean slots a `save` of an encodable configuration writes exactly when its generation is later
than the stored one. -/
theorem planSave_later_iff {flash : Flash} (clean : Clean crc32 flash) {slot : Slot}
    {entry : SystemConfig × UInt32}
    (current : DualSlot.current (flash.contents crc32) = some (slot, entry)) {config : SystemConfig}
    {payload : Bytes} (encoded : encodeConfig config = .ok payload) (generation : UInt32) :
    (∃ written, planSave crc32 ESP_OK flash.reads config generation = .ok written) ↔
      After generation entry.2 := by
  obtain ⟨value, found, same⟩ := chosen_value current
  have storage (slot : Slot) := @Clean.outcome_ne crc32 flash clean slot .storageError (by decide)
  have version (slot : Slot) :=
    @Clean.outcome_ne crc32 flash clean slot .incompatibleVersion (by decide)
  unfold planSave
  rw [encoded]
  simp only [ne_eq, not_true, if_false, storage, version, or_self, found, Option.isNone_some,
    Bool.false_eq_true, and_false, same, ← newer_iff]
  cases newer generation entry.2 with
  | false => simp
  | true => simp

theorem planSave_empty {config : SystemConfig} {payload : Bytes}
    (encoded : encodeConfig config = .ok payload) (generation : UInt32) :
    planSave crc32 ESP_OK (Flash.reads fun _ => none) config generation =
      .ok (.a, buildBlob crc32 payload generation) := by
  unfold planSave
  rw [encoded]
  rfl

theorem planSave_unencodable {openResult : EspErr} {reads : Slot → BlobReads} {config : SystemConfig}
    (refused : ∀ payload, encodeConfig config ≠ .ok payload) (generation : UInt32)
    (written : Slot × Bytes) : planSave crc32 openResult reads config generation ≠ .ok written := by
  unfold planSave
  cases encoded : encodeConfig config with
  | error error => exact nofun
  | ok payload => exact absurd encoded (refused payload)

theorem save_performed_iff (flash : Flash) (config : SystemConfig) (generation : UInt32) :
    (flash.save crc32 .performed config generation).1 = .ok () ↔
      ∃ written, planSave crc32 ESP_OK flash.reads config generation = .ok written := by
  constructor
  · intro saved
    cases planned : planSave crc32 ESP_OK flash.reads config generation with
    | error error =>
      have stopped := @save_not_written crc32 flash .performed config generation error planned
      rw [stopped] at saved
      cases saved
    | ok written => exact ⟨written, rfl⟩
  · intro planned
    obtain ⟨written, planned⟩ := planned
    exact save_performed_written crc32 planned

theorem Clean.save {flash : Flash} (clean : Clean crc32 flash) (config : SystemConfig)
    (generation : UInt32) : Clean crc32 (flash.save crc32 .performed config generation).2 := by
  cases planned : planSave crc32 ESP_OK flash.reads config generation with
  | error error =>
    have stopped := @save_not_written crc32 flash .performed config generation error planned
    rw [stopped]
    exact clean
  | ok written =>
    obtain ⟨target, blob⟩ := written
    obtain ⟨⟨payload, encoded, rfl⟩, _⟩ := planSave_ok crc32 planned
    have after : (flash.save crc32 .performed config generation).2 =
        Function.update flash target (some (buildBlob crc32 payload generation)) := by
      have same : planSave crc32 WriteReport.performed.openResult flash.reads config generation = _ :=
        planned
      simp only [Flash.save, same]
      rfl
    rw [after]
    intro slot
    rw [Flash.contents_update]
    by_cases written : slot = target
    · subst written
      right
      rw [Function.update_self]
      exact ⟨_, Flash.contents_complete crc32 encoded generation slot⟩
    · rw [Function.update_of_ne written, Function.update_of_ne written]
      exact clean slot

end

end RidFirmware.NvsStore
