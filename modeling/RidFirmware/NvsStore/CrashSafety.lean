import RidFirmware.NvsStore.Blob

/-! `save` against a flash that may lose the write. The two keys are a dual-slot register; its
laws carry the old configuration over every write that does not land. -/

namespace RidFirmware.NvsStore
open Lib Lib.Wire

theorem newer_iff (left right : UInt32) : newer left right = true ↔ After left right := by
  unfold newer After
  rw [decide_eq_true_eq, Nat.pos_iff_ne_zero]
  exact and_congr (not_congr UInt32.toNat_inj.symm) Iff.rfl

/-- A configuration with the serial number it is stored under. -/
def LoadedConfig.entry (loaded : LoadedConfig) : SystemConfig × UInt32 :=
  (loaded.config, loaded.generation)

theorem LoadedConfig.entry_inj {left right : LoadedConfig} :
    left.entry = right.entry ↔ left = right := by
  cases left
  cases right
  simp [entry]

section
variable (crc32 : UInt32 → Bytes → UInt32)

/-- What `read_slot` makes of the bytes under each key. -/
def Flash.contents (flash : Flash) : DualSlot.Contents SystemConfig := fun slot =>
  (readSlot crc32 (flash.reads slot) slot).value.map LoadedConfig.entry

theorem Flash.contents_eq_some {flash : Flash} {slot : Slot} {loaded : LoadedConfig} :
    flash.contents crc32 slot = some loaded.entry ↔
      (readSlot crc32 (flash.reads slot) slot).value = some loaded := by
  unfold Flash.contents
  rw [Option.map_eq_some_iff]
  apply Iff.intro
  · intro ⟨value, found, same⟩
    rwa [LoadedConfig.entry_inj.mp same] at found
  · intro found
    exact ⟨loaded, found, rfl⟩

theorem Flash.contents_update (flash : Flash) (target : Slot) (left : Option Bytes) :
    Flash.contents crc32 (Function.update flash target left) =
      Function.update (flash.contents crc32) target
        (Flash.contents crc32 (fun _ => left) target) := by
  funext slot
  by_cases same : slot = target
  · subst same
    simp [Flash.contents, Flash.reads]
  · simp [Flash.contents, Flash.reads, Function.update_of_ne same]

/-- Choosing a slot is finding the current value of the register. -/
theorem chooseSlot_eq_current (left right : SlotResult) (first : left.slot = .a)
    (second : right.slot = .b) {contents : DualSlot.Contents SystemConfig}
    (leftRead : contents .a = left.value.map LoadedConfig.entry)
    (rightRead : contents .b = right.value.map LoadedConfig.entry) :
    (chooseSlot left right).value.map (fun value => ((chooseSlot left right).slot, value.entry)) =
      DualSlot.current contents := by
  rcases left with ⟨left, _⟩
  rcases right with ⟨right, _⟩
  subst first second
  unfold DualSlot.current
  rw [leftRead, rightRead]
  cases left with
  | error leftError =>
    cases right with
    | error rightError =>
      simp only [chooseSlot, SlotResult.value]
      split_ifs <;> rfl
    | ok value => rfl
  | ok value =>
    cases right with
    | error rightError => rfl
    | ok other =>
      simp only [chooseSlot, SlotResult.value, unordered_iff, newer_iff, Except.toOption,
        Option.map_some, LoadedConfig.entry]
      by_cases later : After other.generation value.generation
      · simp [later]
      · by_cases earlier : After value.generation other.generation
        · simp [later, earlier]
        · simp [later, earlier]

theorem Flash.chosen (flash : Flash) :
    (chooseSlot (readSlot crc32 (flash.reads .a) .a) (readSlot crc32 (flash.reads .b) .b)).value.map
        (fun value => ((chooseSlot (readSlot crc32 (flash.reads .a) .a)
          (readSlot crc32 (flash.reads .b) .b)).slot, value.entry)) =
      DualSlot.current (flash.contents crc32) := by
  have named (reads : BlobReads) (slot : Slot) : (readSlot crc32 reads slot).slot = slot := by
    unfold readSlot
    split_ifs <;> rfl
  exact chooseSlot_eq_current _ _ (named _ _) (named _ _) rfl rfl

/-- `load` returns the current value of the register. -/
theorem Flash.load_ok_iff (flash : Flash) (loaded : LoadedConfig) :
    flash.load crc32 = .ok loaded ↔
      ∃ slot, DualSlot.current (flash.contents crc32) = some (slot, loaded.entry) := by
  unfold Flash.load NvsStore.load
  rw [if_neg (by decide), if_neg (by decide), ← flash.chosen crc32]
  generalize chooseSlot _ _ = chosen
  rcases chosen with ⟨outcome, slot⟩
  cases outcome with
  | error error => simp [SlotResult.value, Except.toOption]
  | ok value =>
    simp only [SlotResult.value, Except.toOption, Option.map_some, Option.some.injEq,
      Prod.mk.injEq, LoadedConfig.entry_inj, Except.ok.injEq, exists_eq_left']

theorem planSave_ok {flash : Flash} {openResult : EspErr} {config : SystemConfig}
    {generation : UInt32} {target : Slot} {blob : Bytes}
    (planned : planSave crc32 openResult flash.reads config generation = .ok (target, blob)) :
    (∃ payload, encodeConfig config = .ok payload ∧ blob = buildBlob crc32 payload generation) ∧
      ((∃ slot entry, DualSlot.current (flash.contents crc32) = some (slot, entry) ∧
          target = slot.other ∧ After generation entry.2) ∨
        ∀ slot, flash.contents crc32 slot = none) := by
  unfold planSave at planned
  cases encoded : encodeConfig config with
  | error error => simp [encoded] at planned
  | ok payload =>
    simp only [encoded] at planned
    have chosen := flash.chosen crc32
    have contents : flash.contents crc32 = fun slot =>
      (readSlot crc32 (flash.reads slot) slot).value.map LoadedConfig.entry := rfl
    generalize chooseSlot _ _ = current at planned chosen
    split_ifs at planned with closed failed version ambiguous
    cases found : current.value with
    | some value =>
      simp only [found] at planned
      split_ifs at planned with stale
      cases planned
      simp only [Bool.not_eq_true', Bool.not_eq_false, newer_iff] at stale
      rw [found, Option.map_some] at chosen
      exact ⟨⟨payload, rfl, rfl⟩, .inl ⟨_, _, chosen.symm, rfl, stale⟩⟩
    | none =>
      simp only [found] at planned
      cases planned
      refine ⟨⟨payload, rfl, rfl⟩, .inr ?_⟩
      rw [found, Option.map_none] at chosen
      apply DualSlot.empty_of_current_none chosen.symm
      simpa [found, contents] using ambiguous

theorem readSlot_present {blob : Bytes} (header : kStoredConfigHeaderSize ≤ blob.length)
    (bound : blob.length ≤ kStoredConfigHeaderSize + kMaxPayloadSize) (slot : Slot) :
    readSlot crc32 (Flash.reads (fun _ => some blob) slot) slot = ⟨parseBlob crc32 blob, slot⟩ := by
  change readSlot crc32 { sizeResult := ESP_OK, dataResult := ESP_OK, blob } slot = _
  have found : ESP_OK ≠ ESP_ERR_NVS_NOT_FOUND := by decide
  have size : ¬(blob.length < kStoredConfigHeaderSize ∨
      kStoredConfigHeaderSize + kMaxPayloadSize < blob.length) := by omega
  unfold readSlot
  rw [if_neg found, if_neg (not_not.mpr rfl), if_neg size, if_neg (not_not.mpr rfl)]

theorem Flash.contents_complete {config : SystemConfig} {payload : Bytes}
    (encoded : encodeConfig config = .ok payload) (generation : UInt32) (slot : Slot) :
    Flash.contents crc32 (fun _ => some (buildBlob crc32 payload generation)) slot =
      some (config, generation) := by
  have bound := (encodeConfig_ok encoded).2.2.2
  have length := buildBlob_length crc32 payload generation
  have parsed := parseBlob_buildBlob crc32 encoded generation
  unfold Flash.contents
  rw [readSlot_present crc32 (by omega) (by omega), parsed]
  rfl

/-- An interrupted write leaves bytes that `read_slot` does not accept. -/
def Landing.Rejected (landing : Landing) : Prop :=
  ∀ left slot, landing = .torn left → Flash.contents crc32 (fun _ => left) slot = none

/-- The three things a write can do to the register. -/
theorem landing_cases {flash : Flash} {landing : Landing} (rejected : landing.Rejected crc32)
    {config : SystemConfig} {payload : Bytes} (encoded : encodeConfig config = .ok payload)
    (generation : UInt32) (target : Slot) {after : Flash}
    (landed : after = Function.update flash target
      (landing.apply (flash target) (buildBlob crc32 payload generation))) :
    after.contents crc32 =
        Function.update (flash.contents crc32) target (some (config, generation)) ∨
      after = flash ∨
      after.contents crc32 = Function.update (flash.contents crc32) target none := by
  subst landed
  cases landing with
  | complete =>
    left
    rw [Flash.contents_update]
    simp only [Landing.apply, Flash.contents_complete crc32 encoded]
  | nothing =>
    right; left
    exact Function.update_eq_self target flash
  | torn left =>
    right; right
    rw [Flash.contents_update]
    simp only [Landing.apply, rejected left target rfl]

theorem finishSave_ok {setResult commitResult : EspErr} {flash : Flash} {target : Slot}
    {generation : UInt32}
    (finished : finishSave setResult commitResult (readSlot crc32 (flash.reads target) target)
      generation = .ok ()) :
    ∃ entry, flash.contents crc32 target = some entry ∧ entry.2 = generation := by
  unfold finishSave at finished
  split_ifs at finished with verified
  obtain ⟨_, _, verified⟩ := verified
  rw [Option.any_eq_true] at verified
  obtain ⟨value, found, same⟩ := verified
  exact ⟨value.entry, (Flash.contents_eq_some crc32).mpr found, of_decide_eq_true same⟩

/-- The register after a `save` that got as far as writing. -/
theorem save_written {flash : Flash} {report : WriteReport} (rejected : report.landing.Rejected crc32)
    {config : SystemConfig} {generation : UInt32} {target : Slot} {blob : Bytes}
    (planned : planSave crc32 report.openResult flash.reads config generation = .ok (target, blob)) :
    let saved := flash.save crc32 report config generation
    (∀ slot entry, DualSlot.current (flash.contents crc32) = some (slot, entry) →
      DualSlot.current (saved.2.contents crc32) = some (slot, entry) ∨
        DualSlot.current (saved.2.contents crc32) = some (target, config, generation)) ∧
    (saved.1 = .ok () →
      DualSlot.current (saved.2.contents crc32) = some (target, config, generation)) := by
  obtain ⟨⟨payload, encoded, rfl⟩, position⟩ := planSave_ok crc32 planned
  simp only [Flash.save, planned]
  generalize written : Function.update flash target
    (report.landing.apply (flash target) (buildBlob crc32 payload generation)) = after
  have landed := landing_cases crc32 rejected encoded generation target written.symm
  rcases position with ⟨slot, entry, holds, rfl, later⟩ | empty
  · rcases landed with complete | unchanged | torn
    · have now := DualSlot.current_write holds (config, generation) later
      rw [complete, now]
      exact ⟨fun _ _ _ => .inr rfl, fun _ => rfl⟩
    · rw [unchanged]
      refine ⟨fun _ _ found => .inl found, fun finished => ?_⟩
      obtain ⟨stale, found, same⟩ := finishSave_ok crc32 finished
      exact absurd same (DualSlot.stale_serial_ne holds found later)
    · rw [torn]
      refine ⟨fun slot' entry' found => .inl ?_, fun finished => ?_⟩
      · rw [holds] at found
        cases found
        exact DualSlot.current_lose holds
      · obtain ⟨lost, found, _⟩ := finishSave_ok crc32 finished
        rw [torn, Function.update_self] at found
        cases found
  · refine ⟨fun slot' entry' found => ?_, fun finished => ?_⟩
    · have present := (DualSlot.current_eq_some_iff.mp found).1
      rw [empty] at present
      cases present
    · rcases landed with complete | unchanged | torn
      · rw [complete]
        exact DualSlot.current_first empty (config, generation)
      · obtain ⟨lost, found, _⟩ := finishSave_ok crc32 finished
        rw [unchanged, empty] at found
        cases found
      · obtain ⟨lost, found, _⟩ := finishSave_ok crc32 finished
        rw [torn, Function.update_self] at found
        cases found

theorem save_not_written {flash : Flash} {report : WriteReport} {config : SystemConfig}
    {generation : UInt32} {error : NvsStoreError}
    (stopped : planSave crc32 report.openResult flash.reads config generation = .error error) :
    flash.save crc32 report config generation = (.error error, flash) := by
  simp only [Flash.save, stopped]

theorem save_written_error {flash : Flash} {report : WriteReport} {config : SystemConfig}
    {generation : UInt32} {written : Slot × Bytes} {error : NvsStoreError}
    (planned : planSave crc32 report.openResult flash.reads config generation = .ok written)
    (failed : (flash.save crc32 report config generation).1 = .error error) :
    error = .storageError := by
  simp only [Flash.save, planned, finishSave] at failed
  split_ifs at failed
  cases failed
  rfl

/-- The flash performs what it is asked to. -/
def WriteReport.performed : WriteReport :=
  { openResult := ESP_OK, setResult := ESP_OK, commitResult := ESP_OK, landing := .complete }

theorem save_performed_written {flash : Flash} {config : SystemConfig} {generation : UInt32}
    {written : Slot × Bytes}
    (planned : planSave crc32 WriteReport.performed.openResult flash.reads config generation =
      .ok written) : (flash.save crc32 .performed config generation).1 = .ok () := by
  obtain ⟨target, blob⟩ := written
  obtain ⟨⟨payload, encoded, rfl⟩, _⟩ := planSave_ok crc32 planned
  have contents : Flash.contents crc32 (Function.update flash target
      (some (buildBlob crc32 payload generation))) target = some (config, generation) := by
    rw [Flash.contents_update, Function.update_self]
    exact Flash.contents_complete crc32 encoded generation target
  have found := (@Flash.contents_eq_some crc32 _ target ⟨config, generation⟩).mp contents
  simp only [Flash.save, planned]
  unfold finishSave
  apply if_pos
  refine ⟨rfl, rfl, ?_⟩
  show Option.any _ (readSlot crc32 (Flash.reads (Function.update flash target
    (some (buildBlob crc32 payload generation))) target) target).value = true
  rw [found]
  exact decide_eq_true rfl

/-- When the flash performs every write, a `save` either refuses and writes nothing or succeeds and
makes its configuration the current one. -/
theorem save_performed (flash : Flash) (config : SystemConfig) (generation : UInt32) :
    let saved := flash.save crc32 .performed config generation
    (saved.1 ≠ .ok () ∧ saved.2 = flash) ∨
      (saved.1 = .ok () ∧ ∃ slot,
        DualSlot.current (saved.2.contents crc32) = some (slot, config, generation)) := by
  dsimp only
  cases planned : planSave crc32 WriteReport.performed.openResult flash.reads config generation with
  | error error =>
    rw [save_not_written crc32 planned]
    exact .inl ⟨nofun, rfl⟩
  | ok written =>
    have landed : WriteReport.performed.landing.Rejected crc32 := nofun
    obtain ⟨_, current⟩ := save_written crc32 landed planned
    have finished := save_performed_written crc32 planned
    exact .inr ⟨finished, written.1, current finished⟩

/-- What a `save` of a configuration owes the flash it was called on, however the write ended. -/
structure CrashSafe (flash : Flash) (saved : Except NvsStoreError Unit × Flash)
    (loaded : LoadedConfig) : Prop where
  oldOrNew : ∀ previous, flash.load crc32 = .ok previous →
    saved.2.load crc32 = .ok previous ∨ saved.2.load crc32 = .ok loaded
  returned : saved.1 = .ok () → saved.2.load crc32 = .ok loaded
  untouched : saved.1 ∈ ([.error .invalidConfig, .error .payloadTooLarge, .error .invalidGeneration,
    .error .incompatibleVersion] : List (Except NvsStoreError Unit)) → saved.2 = flash

/-- An interrupted `save` leaves either the old or the new configuration, a successful one the new
configuration, and a refused one both slots as they were. -/
theorem save_crash_safe (flash : Flash) (report : WriteReport) (config : SystemConfig)
    (generation : UInt32) (rejected : report.landing.Rejected crc32) :
    CrashSafe crc32 flash (flash.save crc32 report config generation) { config, generation } := by
  cases planned : planSave crc32 report.openResult flash.reads config generation with
  | error error =>
    rw [save_not_written crc32 planned]
    exact ⟨fun _ loaded => .inl loaded, nofun, fun _ => rfl⟩
  | ok written =>
    obtain ⟨kept, done⟩ := save_written crc32 rejected planned
    refine ⟨fun previous loaded => ?_, fun finished => ?_, fun refused => ?_⟩
    · obtain ⟨slot, holds⟩ := (flash.load_ok_iff crc32 previous).mp loaded
      rcases kept slot _ holds with old | new
      · exact .inl ((Flash.load_ok_iff crc32 _ _).mpr ⟨_, old⟩)
      · exact .inr ((Flash.load_ok_iff crc32 _ _).mpr ⟨_, new⟩)
    · exact (Flash.load_ok_iff crc32 _ _).mpr ⟨_, done finished⟩
    · have storage := fun error => @save_written_error crc32 flash report config generation written
        error planned
      simp only [List.mem_cons, List.not_mem_nil, or_false] at refused
      rcases refused with refused | refused | refused | refused
      all_goals exact absurd (storage _ refused) (by decide)

end

/-- The checksum the ROM computes: CRC-32, least significant bit first. -/
def crc32Le (crc : UInt32) (data : Bytes) : UInt32 :=
  let shift (register : UInt32) : UInt32 :=
    if register &&& 1 = 1 then register >>> 1 ^^^ 0xEDB88320 else register >>> 1
  ~~~(data.foldl (fun register byte => Nat.iterate shift 8 (register ^^^ byte.toUInt32)) (~~~crc))

/-- The flash after a first `save`. -/
def savedOnce : Flash := (Flash.save crc32Le (fun _ => none) .performed oneHover 1).2

def oneHoverFaster : SystemConfig := { oneHover with defaultPeriod := 500 }

/-- A second `save` leaves a readable configuration whether its write is cut off after a byte, goes through,
or is refused for its generation. -/
theorem save_crash_safe_cut_off :
    savedOnce.load crc32Le = .ok { config := oneHover, generation := 1 } ∧
      CrashSafe crc32Le savedOnce
        (savedOnce.save crc32Le
          { openResult := ESP_OK, setResult := ESP_OK, commitResult := ESP_FAIL,
            landing := .torn (some [0x52]) } oneHoverFaster 2)
        { config := oneHoverFaster, generation := 2 } ∧
      CrashSafe crc32Le savedOnce (savedOnce.save crc32Le .performed oneHoverFaster 2)
        { config := oneHoverFaster, generation := 2 } ∧
      CrashSafe crc32Le savedOnce (savedOnce.save crc32Le .performed oneHoverFaster 1)
        { config := oneHoverFaster, generation := 1 } := by
  have landed : WriteReport.performed.landing.Rejected crc32Le := nofun
  have first := save_crash_safe crc32Le (fun _ => none) .performed oneHover 1 landed
  have planned : (planSave crc32Le ESP_OK (Flash.reads fun _ => none) oneHover 1).toOption.isSome = true := by
    decide +kernel
  have saved : (Flash.save crc32Le (fun _ => none) .performed oneHover 1).1 = .ok () := by
    cases plan : planSave crc32Le ESP_OK (Flash.reads fun _ => none) oneHover 1 with
    | error error =>
      rw [plan] at planned
      cases planned
    | ok written => exact save_performed_written crc32Le plan
  refine ⟨first.returned saved, ?_, save_crash_safe _ _ _ _ _ landed,
    save_crash_safe _ _ _ _ _ landed⟩
  apply save_crash_safe
  intro left slot torn
  cases torn
  cases slot <;> rfl

end RidFirmware.NvsStore
