import RidFirmware.Lib.DualSlot
import RidFirmware.NvsStore.Codec

/-! The two-slot configuration store: blob header, slot choice, `load` and `save`. The checksum of
the ROM is an arbitrary function; what the flash answers is part of the input. -/

namespace RidFirmware

namespace NvsStore
open Lib Lib.Wire

def kStoredConfigMagic : UInt32 := 0x52494443
def kStoredConfigSchemaVersion : UInt16 := 1
def kStoredConfigHeaderSize : Nat := 16

structure LoadedConfig where
  config : SystemConfig
  generation : UInt32
  deriving DecidableEq

structure SlotResult where
  outcome : Except NvsStoreError LoadedConfig
  slot : Slot

def SlotResult.value (result : SlotResult) : Option LoadedConfig := result.outcome.toOption

/-- The answers of `nvs_get_blob` to the size query and to the data query of one key. -/
structure BlobReads where
  sizeResult : EspErr
  dataResult : EspErr
  blob : Bytes

section
variable (crc32 : UInt32 → Bytes → UInt32)

def calculateCrc (header payload : Bytes) : UInt32 := crc32 (crc32 0 (header.take 12)) payload

def headerWithoutCrc (payloadSize : UInt16) (generation : UInt32) : Bytes :=
  writeU32 kStoredConfigMagic ++ writeU16 kStoredConfigSchemaVersion ++ writeU16 payloadSize ++
    writeU32 generation

def appendHeader (payloadSize : UInt16) (generation crc : UInt32) : Bytes :=
  headerWithoutCrc payloadSize generation ++ writeU32 crc

/-- The blob `save` writes for a payload. -/
def buildBlob (payload : Bytes) (generation : UInt32) : Bytes :=
  let size := UInt16.ofNat payload.length
  let crc := calculateCrc crc32 (headerWithoutCrc size generation) payload
  appendHeader size generation crc ++ payload

def readU16Le (data : Bytes) (offset : Nat) : UInt16 :=
  UInt16.ofNat (getLe ((data.drop offset).take 2))

def readU32Le (data : Bytes) (offset : Nat) : UInt32 :=
  UInt32.ofNat (getLe ((data.drop offset).take 4))

/-- The part of `read_slot` after the blob is in memory. -/
def parseBlob (blob : Bytes) : Except NvsStoreError LoadedConfig :=
  let magic := readU32Le blob 0
  let version := readU16Le blob 4
  let payloadSize := readU16Le blob 6
  let generation := readU32Le blob 8
  let storedCrc := readU32Le blob 12
  let payload := blob.drop kStoredConfigHeaderSize
  if magic ≠ kStoredConfigMagic ∨ payloadSize.toNat ≠ blob.length - kStoredConfigHeaderSize then
    .error .corrupt
  else if storedCrc ≠ calculateCrc crc32 blob payload then .error .corrupt
  else if version ≠ kStoredConfigSchemaVersion then .error .incompatibleVersion
  else match decodeConfig payload with
    | .error error => .error error
    | .ok config => .ok { config, generation }

def readSlot (reads : BlobReads) (slot : Slot) : SlotResult :=
  if reads.sizeResult = ESP_ERR_NVS_NOT_FOUND then ⟨.error .notFound, slot⟩
  else if reads.sizeResult ≠ ESP_OK then ⟨.error .storageError, slot⟩
  else if reads.blob.length < kStoredConfigHeaderSize ∨
      kStoredConfigHeaderSize + kMaxPayloadSize < reads.blob.length then ⟨.error .corrupt, slot⟩
  else if reads.dataResult ≠ ESP_OK then ⟨.error .storageError, slot⟩
  else ⟨parseBlob crc32 reads.blob, slot⟩

end

def newer (left right : UInt32) : Bool :=
  let distance := left - right
  decide (distance ≠ 0 ∧ distance < 0x80000000)

def chooseSlot (left right : SlotResult) : SlotResult :=
  match left.outcome, right.outcome with
  | .ok leftValue, .ok rightValue =>
      let distance := rightValue.generation - leftValue.generation
      if distance = 0 ∨ distance = 0x80000000 then ⟨.error .corrupt, .a⟩
      else if newer rightValue.generation leftValue.generation then right else left
  | .ok _, .error _ => left
  | .error _, .ok _ => right
  | .error leftError, .error rightError =>
      if leftError = .storageError ∨ rightError = .storageError then ⟨.error .storageError, .a⟩
      else if leftError = .incompatibleVersion ∨ rightError = .incompatibleVersion then
        ⟨.error .incompatibleVersion, .a⟩
      else if leftError = .corrupt ∨ rightError = .corrupt then ⟨.error .corrupt, .a⟩
      else ⟨.error .notFound, .a⟩

section
variable (crc32 : UInt32 → Bytes → UInt32)

/-- `NvsConfigStore::load`, given what opening the namespace and reading the keys answer. -/
def load (openResult : EspErr) (reads : Slot → BlobReads) : Except NvsStoreError LoadedConfig :=
  if openResult = ESP_ERR_NVS_NOT_FOUND then .error .notFound
  else if openResult ≠ ESP_OK then .error .storageError
  else (chooseSlot (readSlot crc32 (reads .a) .a) (readSlot crc32 (reads .b) .b)).outcome

/-- `NvsConfigStore::save` up to the write: the slot to write and the blob. -/
def planSave (openResult : EspErr) (reads : Slot → BlobReads) (config : SystemConfig)
    (generation : UInt32) : Except NvsStoreError (Slot × Bytes) :=
  match encodeConfig config with
  | .error error => .error error
  | .ok payload =>
      if openResult ≠ ESP_OK then .error .storageError
      else
        let left := readSlot crc32 (reads .a) .a
        let right := readSlot crc32 (reads .b) .b
        if left.outcome = .error .storageError ∨ right.outcome = .error .storageError then
          .error .storageError
        else if left.outcome = .error .incompatibleVersion ∨
            right.outcome = .error .incompatibleVersion then .error .incompatibleVersion
        else
          let current := chooseSlot left right
          if left.value.isSome ∧ right.value.isSome ∧ current.value.isNone then
            .error .invalidGeneration
          else match current.value with
            | some value =>
                if !newer generation value.generation then .error .invalidGeneration
                else .ok (current.slot.other, buildBlob crc32 payload generation)
            | none => .ok (.a, buildBlob crc32 payload generation)

/-- The rest of `save`: the results of the write and the commit, and the read-back. -/
def finishSave (setResult commitResult : EspErr) (verified : SlotResult) (generation : UInt32) :
    Except NvsStoreError Unit :=
  if setResult = ESP_OK ∧ commitResult = ESP_OK ∧
      verified.value.any (fun value => value.generation = generation) then .ok ()
  else .error .storageError

end

/-! The flash behind the store. -/

/-- The bytes kept under the two keys. -/
abbrev Flash := Slot → Option Bytes

/-- Reads do not fail and return the bytes that are there. -/
def Flash.reads (flash : Flash) (slot : Slot) : BlobReads :=
  match flash slot with
  | none => { sizeResult := ESP_ERR_NVS_NOT_FOUND, dataResult := ESP_ERR_NVS_NOT_FOUND, blob := [] }
  | some blob => { sizeResult := ESP_OK, dataResult := ESP_OK, blob }

/-- What a write leaves in its slot. -/
inductive Landing where
  | complete
  | nothing
  | torn (left : Option Bytes)

/-- How the flash answers one `save`. -/
structure WriteReport where
  openResult : EspErr
  setResult : EspErr
  commitResult : EspErr
  landing : Landing

def Landing.apply (landing : Landing) (before : Option Bytes) (blob : Bytes) : Option Bytes :=
  match landing with
  | .complete => some blob
  | .nothing => before
  | .torn left => left

section
variable (crc32 : UInt32 → Bytes → UInt32)

def Flash.load (flash : Flash) : Except NvsStoreError LoadedConfig :=
  NvsStore.load crc32 ESP_OK flash.reads

/-- One `save` against a flash: the result and the flash afterwards. -/
def Flash.save (flash : Flash) (report : WriteReport) (config : SystemConfig)
    (generation : UInt32) : Except NvsStoreError Unit × Flash :=
  match planSave crc32 report.openResult flash.reads config generation with
  | .error error => (.error error, flash)
  | .ok (target, blob) =>
      let after : Flash := Function.update flash target (report.landing.apply (flash target) blob)
      (finishSave report.setResult report.commitResult (readSlot crc32 (after.reads target) target)
        generation, after)

end

end NvsStore

end RidFirmware
