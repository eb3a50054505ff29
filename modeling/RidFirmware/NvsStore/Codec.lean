import RidFirmware.Config.Accepted

/-! The stored payload: `Writer` and `Reader` of the persistence component, and the two directions
of the configuration format built from them. -/

namespace RidFirmware.NvsStore
open Lib Lib.Wire

def kMaxPayloadSize : Nat := 32 * 1024
def kMaxNameSize : Nat := 64
def kMaxWaypoints : Nat := 64

inductive NvsStoreError where
  | notFound
  | invalidConfig
  | invalidGeneration
  | payloadTooLarge
  | storageError
  | corrupt
  | incompatibleVersion
  deriving DecidableEq

/-! `Writer::scalar` at the types it is used at. -/

def writeU8 (value : UInt8) : Bytes := putLe 1 value.toNat
def writeU16 (value : UInt16) : Bytes := putLe 2 value.toNat
def writeU32 (value : UInt32) : Bytes := putLe 4 value.toNat
def writeFloat (value : Float32Bits) : Bytes := putLe 4 value.bits.toNat
def writeDouble (value : Float64Bits) : Bytes := putLe 8 value.bits.toNat

/-- A signed 32-bit scalar, after the narrowing cast of its argument. -/
def writeI32 (value : Int) : Bytes := putLe 4 (value % 2 ^ 32).toNat

/-! `Reader::scalar` at the same types. -/

def readU8 : Reader UInt8 := UInt8.ofNat <$> Reader.number 1
def readU16 : Reader UInt16 := UInt16.ofNat <$> Reader.number 2
def readU32 : Reader UInt32 := UInt32.ofNat <$> Reader.number 4
def readFloat : Reader Float32Bits := (fun bits => ⟨UInt32.ofNat bits⟩) <$> Reader.number 4
def readDouble : Reader Float64Bits := (fun bits => ⟨UInt64.ofNat bits⟩) <$> Reader.number 8

/-- Two's complement. -/
def toSigned32 (bits : Nat) : Int := if bits < 2 ^ 31 then bits else bits - 2 ^ 32

def readI32 : Reader Int := toSigned32 <$> Reader.number 4

theorem readU8_exact : Exact readU8 writeU8 (fun _ => True) := by
  apply (number_exact 1).map
  intro bits value
  have small := value.toNat_lt
  simp only [true_and, ← UInt8.toNat_inj, UInt8.toNat_ofNat']
  omega

theorem readU16_exact : Exact readU16 writeU16 (fun _ => True) := by
  apply (number_exact 2).map
  intro bits value
  have small := value.toNat_lt
  simp only [true_and, ← UInt16.toNat_inj, UInt16.toNat_ofNat']
  omega

theorem readU32_exact : Exact readU32 writeU32 (fun _ => True) := by
  apply (number_exact 4).map
  intro bits value
  have small := value.toNat_lt
  simp only [true_and, ← UInt32.toNat_inj, UInt32.toNat_ofNat']
  omega

theorem readFloat_exact : Exact readFloat writeFloat (fun _ => True) := by
  apply (number_exact 4).map _ (fun value : Float32Bits => value.bits.toNat)
  intro bits parts
  obtain ⟨stored⟩ := parts
  have small := stored.toNat_lt
  simp only [true_and, Float32Bits.mk.injEq, ← UInt32.toNat_inj, UInt32.toNat_ofNat']
  omega

theorem readDouble_exact : Exact readDouble writeDouble (fun _ => True) := by
  apply (number_exact 8).map _ (fun value : Float64Bits => value.bits.toNat)
  intro bits parts
  obtain ⟨stored⟩ := parts
  have small := stored.toNat_lt
  simp only [true_and, Float64Bits.mk.injEq, ← UInt64.toNat_inj, UInt64.toNat_ofNat']
  omega

theorem readI32_exact : Exact readI32 writeI32 (fun value => -2 ^ 31 ≤ value ∧ value < 2 ^ 31) := by
  refine (number_exact 4).map toSigned32 (fun value => (value % 2 ^ 32).toNat) _ ?_
  intro bits value
  unfold toSigned32
  split_ifs <;> omega

/-! Enumerations are stored as their raw bytes. -/

def readProtocol : Reader Protocol := Protocol.ofRaw <$> readU8
def readTransport : Reader Transport := Transport.ofRaw <$> readU8
def readWifiMode : Reader WifiMode := WifiMode.ofRaw <$> readU8
def readTrajectoryType : Reader TrajectoryType := TrajectoryType.ofRaw <$> readU8

theorem readProtocol_exact :
    Exact readProtocol (fun value => writeU8 value.toRaw) (fun _ => True) :=
  readU8_exact.map _ _ _ (fun raw value => by simp [Protocol.ofRaw_eq_iff])

theorem readTransport_exact :
    Exact readTransport (fun value => writeU8 value.toRaw) (fun _ => True) :=
  readU8_exact.map _ _ _ (fun raw value => by simp [Transport.ofRaw_eq_iff])

theorem readWifiMode_exact :
    Exact readWifiMode (fun value => writeU8 value.toRaw) (fun _ => True) :=
  readU8_exact.map _ _ _ (fun raw value => by simp [WifiMode.ofRaw_eq_iff])

theorem readTrajectoryType_exact :
    Exact readTrajectoryType (fun value => writeU8 value.toRaw) (fun _ => True) :=
  readU8_exact.map _ _ _ (fun raw value => by simp [TrajectoryType.ofRaw_eq_iff])

/-! An absent period is stored as minus one. -/

def writeOptionalPeriod (period : Option Int) : Bytes :=
  writeI32 (match period with | some period => period | none => -1)

def readOptionalPeriod : Reader (Option Int) := do
  let value ← readI32
  Reader.require (-1 ≤ value)
  pure (if value = -1 then none else some value)

/-- The periods the sentinel leaves representable. -/
def StoredPeriod (period : Option Int) : Prop :=
  ∀ value, period = some value → 0 ≤ value ∧ value < 2 ^ 31

theorem readOptionalPeriod_exact : Exact readOptionalPeriod writeOptionalPeriod StoredPeriod := by
  intro input period rest
  simp only [readOptionalPeriod, bind_eq_some, readI32_exact _ _ _, require_eq_some, pure_eq_some]
  constructor
  · intro parts
    obtain ⟨value, middle, ⟨range, rfl⟩, _, _, ⟨bound, rfl⟩, rfl, rfl⟩ := parts
    by_cases absent : value = -1
    · simp [absent, StoredPeriod, writeOptionalPeriod]
    · simp only [absent, if_false, StoredPeriod, Option.some.injEq, forall_eq', writeOptionalPeriod,
        and_true]
      omega
  · intro parts
    obtain ⟨stored, rfl⟩ := parts
    cases period with
    | none => exact ⟨-1, rest, ⟨by decide, rfl⟩, (), rest, by simp⟩
    | some value =>
      have range := stored value rfl
      exact ⟨value, rest, ⟨by omega, rfl⟩, (), rest, ⟨by omega, rfl⟩,
        by rw [if_neg (by omega)], rfl⟩

/-! Points and groups. -/

def writePoint (point : EnuPoint) : Bytes :=
  writeFloat point.eastM ++ writeFloat point.northM ++ writeFloat point.upM

def readPoint : Reader EnuPoint := do
  let eastM ← readFloat
  let northM ← readFloat
  let upM ← readFloat
  pure { eastM, northM, upM }

theorem readPoint_exact : Exact readPoint writePoint (fun _ => True) := by
  intro input point rest
  simp only [readPoint, bind_eq_some, readFloat_exact _ _ _, pure_eq_some, true_and]
  constructor
  · intro parts
    obtain ⟨_, _, rfl, _, _, rfl, _, _, rfl, rfl, rfl⟩ := parts
    simp [writePoint]
  · intro same
    obtain rfl := same
    exact ⟨_, _, by simp only [writePoint, List.append_assoc], _, _, rfl, _, _, rfl, rfl, rfl⟩

private theorem size_roundTrip {size limit : Nat} (bound : size ≤ limit) (small : limit < 65536) :
    (UInt16.ofNat size).toNat = size := by
  rw [UInt16.toNat_ofNat', Nat.mod_eq_of_lt (by omega)]

def writeTrajectory (trajectory : TrajectoryConfig) : Bytes :=
  writeU8 trajectory.type.toRaw ++ writeFloat trajectory.altitudeM ++
    writeFloat trajectory.speedMps ++ writeFloat trajectory.headingDeg ++
    writeFloat trajectory.primarySizeM ++ writeFloat trajectory.secondarySizeM ++
    writeFloat trajectory.verticalSpeedMps ++ writeU32 trajectory.cruiseTimeMs ++
    writeU16 (UInt16.ofNat trajectory.waypoints.length) ++ trajectory.waypoints.flatMap writePoint

def readTrajectory : Reader TrajectoryConfig := do
  let type ← readTrajectoryType
  let altitudeM ← readFloat
  let speedMps ← readFloat
  let headingDeg ← readFloat
  let primarySizeM ← readFloat
  let secondarySizeM ← readFloat
  let verticalSpeedMps ← readFloat
  let cruiseTimeMs ← readU32
  let waypointCount ← readU16
  Reader.require (waypointCount.toNat ≤ kMaxWaypoints)
  let waypoints ← Reader.many readPoint waypointCount.toNat
  pure {
    type, altitudeM, speedMps, headingDeg, primarySizeM, secondarySizeM, verticalSpeedMps
    cruiseTimeMs, waypoints }

theorem readTrajectory_exact : Exact readTrajectory writeTrajectory
    (fun trajectory => trajectory.waypoints.length ≤ kMaxWaypoints) := by
  intro input trajectory rest
  simp only [readTrajectory, bind_eq_some, readU16_exact _ _ _, readU32_exact _ _ _,
    readFloat_exact _ _ _, readTrajectoryType_exact _ _ _, many_exact readPoint_exact _ _ _ _,
    require_eq_some, pure_eq_some, true_and]
  constructor
  · intro parts
    obtain ⟨type, _, rfl, altitude, _, rfl, speed, _, rfl, heading, _, rfl, primary, _, rfl,
      secondary, _, rfl, vertical, _, rfl, cruise, _, rfl, count, _, rfl, _, _, ⟨bound, rfl⟩,
      waypoints, _, ⟨⟨length, _⟩, rfl⟩, rfl, rfl⟩ := parts
    refine ⟨by simpa [length] using bound, ?_⟩
    simp only [writeTrajectory, length, UInt16.ofNat_toNat, List.append_assoc]
  · intro parts
    obtain ⟨bound, written⟩ := parts
    have count := size_roundTrip bound (by decide)
    rw [written]
    simp only [writeTrajectory, List.append_assoc]
    exact ⟨trajectory.type, _, rfl, trajectory.altitudeM, _, rfl, trajectory.speedMps, _, rfl,
      trajectory.headingDeg, _, rfl, trajectory.primarySizeM, _, rfl, trajectory.secondarySizeM, _,
      rfl, trajectory.verticalSpeedMps, _, rfl, trajectory.cruiseTimeMs, _, rfl,
      UInt16.ofNat trajectory.waypoints.length, _, rfl, (), _, ⟨by rw [count]; exact bound, rfl⟩,
      trajectory.waypoints, _, ⟨⟨count.symm, fun _ _ => trivial⟩, rfl⟩, rfl, rfl⟩

def writeGroup (group : GroupConfig) : Bytes :=
  writeU16 (UInt16.ofNat group.name.length) ++ group.name ++ writeU16 group.count ++
    writeU8 group.protocol.toRaw ++ writeU8 group.transport.toRaw ++ writeU8 group.wifiMode.toRaw ++
    writeTrajectory group.trajectory ++ writeOptionalPeriod group.defaultPeriod ++
    (kKinds.map group.periodOverrides).flatMap writeOptionalPeriod

/-- The period of each kind from the list in the order of the kinds. -/
def overridesOf (periods : List (Option Int)) (kind : MessageKind) : Option Int :=
  periods.getD kind.index none

def readGroup : Reader GroupConfig := do
  let nameSize ← readU16
  Reader.require (nameSize.toNat ≤ kMaxNameSize)
  let name ← Reader.bytes nameSize.toNat
  let count ← readU16
  let protocol ← readProtocol
  let transport ← readTransport
  let wifiMode ← readWifiMode
  let trajectory ← readTrajectory
  let defaultPeriod ← readOptionalPeriod
  let periods ← Reader.many readOptionalPeriod kMessageKindCount
  pure {
    name, count, protocol, transport, wifiMode, trajectory, defaultPeriod
    periodOverrides := overridesOf periods }

structure StoredGroup (group : GroupConfig) : Prop where
  name : group.name.length ≤ kMaxNameSize
  waypoints : group.trajectory.waypoints.length ≤ kMaxWaypoints
  defaultPeriod : StoredPeriod group.defaultPeriod
  overrides : ∀ kind, StoredPeriod (group.periodOverrides kind)

theorem map_overridesOf (periods : List (Option Int)) (complete : periods.length = kMessageKindCount) :
    kKinds.map (overridesOf periods) = periods := by
  match periods, complete with
  | [_, _, _, _, _, _], _ => rfl

theorem overridesOf_map (overrides : MessageKind → Option Int) :
    overridesOf (kKinds.map overrides) = overrides := by
  funext kind
  cases kind <;> rfl

theorem readGroup_exact : Exact readGroup writeGroup StoredGroup := by
  intro input group rest
  simp only [readGroup, bind_eq_some, readU16_exact _ _ _, readProtocol_exact _ _ _,
    readTransport_exact _ _ _, readWifiMode_exact _ _ _, readTrajectory_exact _ _ _,
    readOptionalPeriod_exact _ _ _, bytes_exact _ _ _ _, many_exact readOptionalPeriod_exact _ _ _ _,
    require_eq_some, pure_eq_some, true_and, id_eq]
  constructor
  · intro parts
    obtain ⟨size, _, rfl, _, _, ⟨bound, rfl⟩, name, _, ⟨length, rfl⟩, count, _, rfl, protocol, _, rfl,
      transport, _, rfl, mode, _, rfl, trajectory, _, ⟨waypoints, rfl⟩, default, _, ⟨period, rfl⟩,
      periods, _, ⟨⟨complete, stored⟩, rfl⟩, rfl, rfl⟩ := parts
    refine ⟨⟨by simpa [length] using bound, waypoints, period, fun kind => ?_⟩, ?_⟩
    · apply stored
      rw [← map_overridesOf periods complete]
      exact List.mem_map_of_mem (mem_kKinds kind)
    · simp only [writeGroup, length, UInt16.ofNat_toNat, map_overridesOf periods complete,
        List.append_assoc]
  · intro parts
    obtain ⟨stored, written⟩ := parts
    have size := size_roundTrip stored.name (by decide)
    rw [written]
    simp only [writeGroup, List.append_assoc]
    refine ⟨UInt16.ofNat group.name.length, _, rfl, (), _, ⟨by rw [size]; exact stored.name, rfl⟩,
      group.name, _, ⟨size.symm, rfl⟩, group.count, _, rfl, group.protocol, _, rfl, group.transport,
      _, rfl, group.wifiMode, _, rfl, group.trajectory, _, ⟨stored.waypoints, rfl⟩,
      group.defaultPeriod, _, ⟨stored.defaultPeriod, rfl⟩, kKinds.map group.periodOverrides, _,
      ⟨⟨rfl, fun period member => ?_⟩, rfl⟩, ?_, rfl⟩
    · obtain ⟨kind, _, rfl⟩ := List.mem_map.mp member
      exact stored.overrides kind
    · rw [overridesOf_map]

/-! The whole configuration. -/

def writeSite (site : Option (GeoPoint Float64Bits)) : Bytes :=
  match site with
  | none => writeU8 0
  | some site => writeU8 1 ++ writeDouble site.latitudeDeg ++ writeDouble site.longitudeDeg

def readSite : Reader (Option (GeoPoint Float64Bits)) := do
  let hasSite ← readU8
  Reader.require (hasSite ≤ 1)
  if hasSite ≠ 0 then do
    let latitudeDeg ← readDouble
    let longitudeDeg ← readDouble
    pure (some { latitudeDeg, longitudeDeg })
  else pure none

theorem readSite_exact : Exact readSite writeSite (fun _ => True) := by
  intro input site rest
  simp only [readSite, bind_eq_some, readU8_exact _ _ _, require_eq_some, true_and]
  constructor
  · intro parts
    obtain ⟨hasSite, _, rfl, _, _, ⟨bound, rfl⟩, accepted⟩ := parts
    by_cases absent : hasSite = 0
    · simp only [absent, ne_eq, not_true, if_false, pure_eq_some] at accepted
      obtain ⟨rfl, rfl⟩ := accepted
      rw [absent]
      rfl
    · have present : hasSite = 1 := by grind
      simp only [absent, ne_eq, not_false_eq_true, if_true, bind_eq_some, readDouble_exact _ _ _,
        pure_eq_some, true_and] at accepted
      obtain ⟨latitude, _, rfl, longitude, _, rfl, rfl, rfl⟩ := accepted
      simp [writeSite, present]
  · intro written
    rw [written]
    cases site with
    | none => exact ⟨0, _, rfl, (), _, ⟨by decide, rfl⟩, by simp⟩
    | some site =>
      refine ⟨1, writeDouble site.latitudeDeg ++ (writeDouble site.longitudeDeg ++ rest),
        by simp only [writeSite, List.append_assoc], (), _, ⟨by decide, rfl⟩, ?_⟩
      rw [if_pos (by decide)]
      simp only [bind_eq_some, readDouble_exact _ _ _, pure_eq_some, true_and]
      exact ⟨site.latitudeDeg, _, rfl, site.longitudeDeg, _, rfl, rfl, rfl⟩

def writeConfig (config : SystemConfig) : Bytes :=
  writeSite config.site ++ writeI32 config.defaultPeriod ++
    writeU16 (UInt16.ofNat config.groups.length) ++ config.groups.flatMap writeGroup

def readConfig : Reader SystemConfig := do
  let site ← readSite
  let defaultPeriod ← readI32
  let groupCount ← readU16
  Reader.require (groupCount.toNat ≤ kMaxAircraft)
  let groups ← Reader.many readGroup groupCount.toNat
  pure { site, defaultPeriod, groups }

structure StoredConfig (config : SystemConfig) : Prop where
  defaultPeriod : -2 ^ 31 ≤ config.defaultPeriod ∧ config.defaultPeriod < 2 ^ 31
  count : config.groups.length ≤ kMaxAircraft
  groups : ∀ group ∈ config.groups, StoredGroup group

theorem readConfig_exact : Exact readConfig writeConfig StoredConfig := by
  intro input config rest
  simp only [readConfig, bind_eq_some, readSite_exact _ _ _, readI32_exact _ _ _,
    readU16_exact _ _ _, many_exact readGroup_exact _ _ _ _, require_eq_some, pure_eq_some, true_and]
  constructor
  · intro parts
    obtain ⟨site, _, rfl, period, _, ⟨range, rfl⟩, count, _, rfl, _, _, ⟨bound, rfl⟩, groups, _,
      ⟨⟨length, stored⟩, rfl⟩, rfl, rfl⟩ := parts
    refine ⟨⟨range, by simpa [length] using bound, stored⟩, ?_⟩
    simp only [writeConfig, length, UInt16.ofNat_toNat, List.append_assoc]
  · intro parts
    obtain ⟨stored, written⟩ := parts
    have count := size_roundTrip stored.count (by decide)
    rw [written]
    simp only [writeConfig, List.append_assoc]
    exact ⟨config.site, _, rfl, config.defaultPeriod, _, ⟨stored.defaultPeriod, rfl⟩,
      UInt16.ofNat config.groups.length, _, rfl, (), _, ⟨by rw [count]; exact stored.count, rfl⟩,
      config.groups, _, ⟨⟨count.symm, stored.groups⟩, rfl⟩, rfl, rfl⟩

/-- `encode_config`. The loop refuses a group with a long name or many waypoints before it writes
it; the size of the whole payload is checked last. -/
def encodeConfig (config : SystemConfig) : Except NvsStoreError Bytes :=
  match validate config with
  | .error _ => .error .invalidConfig
  | .ok () =>
      if 65535 < config.groups.length then .error .payloadTooLarge
      else if config.groups.any (fun group => decide (kMaxNameSize < group.name.length) ||
          decide (kMaxWaypoints < group.trajectory.waypoints.length)) then .error .payloadTooLarge
      else if kMaxPayloadSize < (writeConfig config).length then .error .payloadTooLarge
      else .ok (writeConfig config)

/-- `decode_config`. Whatever the reader or the validation rejects is reported as corrupt. -/
def decodeConfig (payload : Bytes) : Except NvsStoreError SystemConfig :=
  match readConfig payload with
  | none => .error .corrupt
  | some (config, rest) =>
      if !rest.isEmpty then .error .corrupt
      else match validate config with
        | .error _ => .error .corrupt
        | .ok () => .ok config

private theorem storedPeriod_of_valid {period : Option Int}
    (valid : ∀ value, period = some value → validPeriod value = true) : StoredPeriod period := by
  intro value present
  have range := (validPeriod_iff value).mp (valid value present)
  omega

theorem encodeConfig_ok {config : SystemConfig} {payload : Bytes}
    (encoded : encodeConfig config = .ok payload) :
    Accepted config ∧ StoredConfig config ∧ payload = writeConfig config ∧
      payload.length ≤ kMaxPayloadSize := by
  unfold encodeConfig at encoded
  cases checked : validate config with
  | error error => simp [checked] at encoded
  | ok _ =>
    have accepted := (validate_ok_iff config).mp checked
    simp only [checked] at encoded
    split_ifs at encoded with many oversized large
    cases encoded
    simp only [List.any_eq_true, Bool.or_eq_true, decide_eq_true_eq, not_exists, not_and, not_or,
      Nat.not_lt] at oversized
    have period := (validPeriod_iff _).mp accepted.defaultPeriod
    refine ⟨accepted, ⟨by omega, accepted.groups_length_le, fun group member => ?_⟩, rfl, by omega⟩
    have checks := accepted.groups group member
    exact ⟨(oversized group member).1, (oversized group member).2,
      storedPeriod_of_valid checks.defaultPeriod,
      fun kind => storedPeriod_of_valid (checks.overrides kind)⟩

/-- `decode_config` accepts exactly the canonical encodings of accepted configurations. -/
theorem decodeConfig_ok_iff (payload : Bytes) (config : SystemConfig) :
    decodeConfig payload = .ok config ↔
      Accepted config ∧ StoredConfig config ∧ payload = writeConfig config := by
  have exact := readConfig_exact payload config []
  rw [List.append_nil] at exact
  rw [← exact, ← validate_ok_iff]
  unfold decodeConfig
  cases parsed : readConfig payload with
  | none => simp
  | some result =>
    obtain ⟨read, rest⟩ := result
    cases rest with
    | cons head tail => simp
    | nil =>
      cases checked : validate read with
      | error error =>
        simp only [List.isEmpty_nil, Bool.not_true, Bool.false_eq_true, if_false, checked,
          reduceCtorEq, false_iff, Option.some.injEq, Prod.mk.injEq, and_true, not_and]
        intro valid same
        rw [same, valid] at checked
        cases checked
      | ok _ =>
        simp only [List.isEmpty_nil, Bool.not_true, Bool.false_eq_true, if_false, checked,
          Except.ok.injEq, Option.some.injEq, Prod.mk.injEq, and_true]
        refine ⟨fun same => ⟨same ▸ checked, same⟩, fun both => both.2⟩

theorem decodeConfig_encodeConfig {config : SystemConfig} {payload : Bytes}
    (encoded : encodeConfig config = .ok payload) : decodeConfig payload = .ok config := by
  obtain ⟨accepted, stored, written, _⟩ := encodeConfig_ok encoded
  exact (decodeConfig_ok_iff payload config).mpr ⟨accepted, stored, written⟩

end RidFirmware.NvsStore
