import Mathlib.Data.List.Nodup
import RidFirmware.Config.Accepted

/-! The fleet of an accepted configuration: one aircraft for every instance of every group, in order, and
identities that differ as long as the hash does not collide on what it is given. -/

namespace RidFirmware
open Lib

/-! The places of a fleet. -/

/-- A group with its index, and the index of one of its instances. -/
abbrev Place := (GroupConfig × Nat) × Nat

/-- The places of a list of groups: group by group, instance by instance. -/
def places (groups : List GroupConfig) : List Place :=
  groups.zipIdx.flatMap fun group =>
    (List.range group.1.count.toNat).map fun instanceIndex => (group, instanceIndex)

namespace Place

variable (sha256 : Sha256) (device : DeviceId) (place : Place)

/-- The bytes that are hashed for the aircraft of a place. -/
def input : Bytes := identityInput device place.1.1.name (UInt32.ofNat place.2) place.1.1.protocol

def aircraft : AircraftConfig where
  identity := deriveTestId sha256 device place.1.1.name (UInt32.ofNat place.2) place.1.1.protocol
  groupIndex := UInt16.ofNat place.1.2
  instanceIndex := UInt16.ofNat place.2
  protocol := place.1.1.protocol
  transport := place.1.1.transport
  wifiMode := place.1.1.wifiMode

end Place

theorem mem_places {groups : List GroupConfig} {place : Place} :
    place ∈ places groups ↔ groups[place.1.2]? = some place.1.1 ∧ place.2 < place.1.1.count.toNat := by
  obtain ⟨⟨group, groupIndex⟩, instanceIndex⟩ := place
  unfold places
  simp only [List.mem_flatMap, List.mem_map, List.mem_range, Prod.mk.injEq, Prod.exists,
    List.mem_zipIdx_iff_getElem?]
  constructor
  · rintro ⟨_, _, found, _, below, ⟨rfl, rfl⟩, rfl⟩
    exact ⟨found, below⟩
  · rintro ⟨found, below⟩
    exact ⟨group, groupIndex, found, instanceIndex, below, ⟨rfl, rfl⟩, rfl⟩

theorem places_nodup (groups : List GroupConfig) : (places groups).Nodup := by
  unfold places
  rw [List.nodup_flatMap]
  constructor
  · intro group _
    exact (List.nodup_range).map fun first second same => (Prod.mk.inj same).2
  · have distinct : groups.zipIdx.Nodup := by
      apply List.Nodup.of_map Prod.snd
      rw [List.zipIdx_map_snd]
      exact List.nodup_range'
    refine distinct.imp fun {first second} apart => ?_
    intro place one other
    simp only [List.mem_map] at one other
    obtain ⟨_, _, rfl⟩ := one
    obtain ⟨_, _, same⟩ := other
    exact apart (Prod.mk.inj same).1.symm

/-! Expansion. -/

theorem deriveTestId_isEmpty {sha256 : Sha256} {device : DeviceId} {groupName : Bytes}
    {groupIndex : UInt32} {protocol : Protocol} :
    (deriveTestId sha256 device groupName groupIndex protocol).value.isEmpty = true ↔
      sha256 (identityInput device groupName groupIndex protocol) = none := by
  unfold deriveTestId
  cases sha256 (identityInput device groupName groupIndex protocol) with
  | none => simp
  | some digest =>
    refine iff_of_false ?_ (Option.some_ne_none digest)
    simp [ascii]

theorem expandGroup_eq (sha256 : Sha256) (device : DeviceId) (group : GroupConfig × Nat) :
    expandGroup sha256 device group.2 group.1 =
      (List.range group.1.count.toNat).mapM fun instanceIndex =>
        if sha256 (Place.input device (group, instanceIndex)) = none then .error .identityDerivationFailed
        else .ok (Place.aircraft sha256 device (group, instanceIndex)) := by
  unfold expandGroup
  simp only [deriveTestId_isEmpty]
  rfl

def expandGroups (sha256 : Sha256) (device : DeviceId) (groups : List GroupConfig) :
    Except ConfigError (List (List AircraftConfig)) :=
  groups.zipIdx.mapM fun group => expandGroup sha256 device group.2 group.1

theorem validateAndExpand_eq (sha256 : Sha256) {config : SystemConfig} (device : DeviceId)
    (accepted : Accepted config) :
    validateAndExpand sha256 config device =
      (expandGroups sha256 device config.groups).map List.flatten := by
  unfold validateAndExpand expandGroups
  rw [(validate_ok_iff config).mpr accepted]
  cases config.groups.zipIdx.mapM fun group => expandGroup sha256 device group.2 group.1 with
  | error error => rfl
  | ok parts => rfl

theorem expandGroups_ok {sha256 : Sha256} {device : DeviceId} {groups : List GroupConfig}
    (hashed : ∀ place ∈ places groups, sha256 (place.input device) ≠ none) :
    (expandGroups sha256 device groups).map List.flatten =
      .ok ((places groups).map (Place.aircraft sha256 device)) := by
  have parts : expandGroups sha256 device groups = .ok (groups.zipIdx.map fun group =>
      (List.range group.1.count.toNat).map fun instanceIndex =>
        Place.aircraft sha256 device (group, instanceIndex)) := by
    unfold expandGroups
    rw [mapM_eq_ok, List.map_map]
    refine List.map_congr_left fun group member => ?_
    dsimp only [Function.comp]
    rw [expandGroup_eq, mapM_eq_ok, List.map_map]
    refine List.map_congr_left fun instanceIndex below => if_neg (hashed _ ?_)
    exact mem_places.mpr ⟨List.mem_zipIdx_iff_getElem?.mp member, List.mem_range.mp below⟩
  rw [parts]
  unfold places
  rw [List.map_flatMap, List.flatMap_def]
  simp only [List.map_map, Function.comp_def]
  rfl

theorem expandGroups_error {sha256 : Sha256} {device : DeviceId} {groups : List GroupConfig}
    {place : Place} (member : place ∈ places groups) (failed : sha256 (place.input device) = none) :
    expandGroups sha256 device groups = .error .identityDerivationFailed := by
  obtain ⟨group, instanceIndex⟩ := place
  obtain ⟨found, below⟩ := mem_places.mp member
  cases expanded : expandGroups sha256 device groups with
  | ok parts =>
    obtain ⟨part, _, grouped⟩ := exists_of_mapM_ok expanded (List.mem_zipIdx_iff_getElem?.mpr found)
    rw [expandGroup_eq] at grouped
    obtain ⟨item, _, single⟩ := exists_of_mapM_ok grouped (List.mem_range.mpr below)
    rw [if_pos failed] at single
    cases single
  | error error =>
    obtain ⟨_, other, _, _, _, refused⟩ := mapM_eq_error.mp expanded
    rw [expandGroup_eq] at refused
    obtain ⟨_, index, _, _, _, single⟩ := mapM_eq_error.mp refused
    split_ifs at single
    cases single
    rfl

/-! What is hashed. -/

theorem indexBe_injective {first second : UInt32} (same : indexBe first = indexBe second) :
    first = second := by
  have shifted : ∀ index : UInt32, (index >>> 24).toNat = index.toNat / 2 ^ 24 ∧
      (index >>> 16).toNat = index.toNat / 2 ^ 16 ∧ (index >>> 8).toNat = index.toNat / 2 ^ 8 := by
    intro index
    refine ⟨?_, ?_, ?_⟩ <;> rw [UInt32.toNat_shiftRight, Nat.shiftRight_eq_div_pow] <;> rfl
  unfold indexBe at same
  simp only [List.cons.injEq, and_true, ← UInt8.toNat_inj, UInt32.toNat_toUInt8, shifted] at same
  obtain ⟨highest, high, low, lowest⟩ := same
  have small := first.toNat_lt
  have small' := second.toNat_lt
  apply UInt32.toNat_inj.mp
  omega

theorem identityInput_injective {device : DeviceId} {name other : Bytes} {index second : UInt32}
    {protocol otherProtocol : Protocol}
    (same : identityInput device name index protocol = identityInput device other second otherProtocol) :
    name = other ∧ index = second := by
  unfold identityInput at same
  obtain ⟨front, -⟩ := List.append_inj' same rfl
  obtain ⟨named, indexed⟩ := List.append_inj' front rfl
  exact ⟨List.append_cancel_left named, indexBe_injective indexed⟩

def hashInputs (device : DeviceId) (groups : List GroupConfig) : List Bytes :=
  (places groups).map (Place.input device)

theorem Accepted.input_injective {config : SystemConfig} (accepted : Accepted config) (device : DeviceId)
    {first second : Place} (member : first ∈ places config.groups) (also : second ∈ places config.groups)
    (same : first.input device = second.input device) : first = second := by
  obtain ⟨⟨group, groupIndex⟩, instanceIndex⟩ := first
  obtain ⟨⟨other, otherIndex⟩, instanceIndex'⟩ := second
  obtain ⟨found, below⟩ := mem_places.mp member
  obtain ⟨found', below'⟩ := mem_places.mp also
  dsimp only at found found' below below'
  obtain ⟨named, indexed⟩ := identityInput_injective same
  -- the names are distinct, so the groups are the same
  obtain ⟨inside, _⟩ := List.getElem?_eq_some_iff.mp found
  have names := accepted.names
  obtain rfl : groupIndex = otherIndex := by
    apply (List.getElem?_inj (by rwa [List.length_map]) names).mp
    rw [List.getElem?_map, List.getElem?_map, found, found', Option.map_some, Option.map_some, named]
  -- and the indices of instances are small
  rw [found, Option.some.injEq] at found'
  have few := accepted.count_le (List.mem_of_getElem? found)
  unfold kMaxAircraft at few
  have numbers := congrArg UInt32.toNat indexed
  dsimp only at numbers below'
  rw [UInt32.toNat_ofNat', UInt32.toNat_ofNat'] at numbers
  rw [← found'] at below'
  have equal : instanceIndex = instanceIndex' := by omega
  rw [found', equal]

theorem Accepted.hashInputs_nodup {config : SystemConfig} (accepted : Accepted config)
    (device : DeviceId) : (hashInputs device config.groups).Nodup :=
  (places_nodup config.groups).map_on fun _ member _ also => accepted.input_injective device member also

/-! Identities. -/

/-- The part of a hash that an identity shows. -/
def truncated (sha256 : Sha256) (input : Bytes) : Option Bytes :=
  (sha256 input).map fun digest => digest.toList.take 8

/-- `TEST` and sixteen upper-case hexadecimal digits. -/
def IsTestId (identity : TestIdentity) : Prop :=
  ∃ digits : Bytes, identity.value = ascii "TEST" ++ digits ∧ digits.length = 16 ∧
    ∀ digit ∈ digits, digit ∈ ascii "0123456789ABCDEF"

theorem IsTestId.noZero {identity : TestIdentity} (isTestId : IsTestId identity) : 0 ∉ identity.value := by
  obtain ⟨digits, value, _, shown⟩ := isTestId
  rw [value, List.mem_append, not_or]
  exact ⟨by decide, fun member => absurd (shown 0 member) (by decide)⟩

theorem nibbles (byte : UInt8) :
    (byte >>> 4).toNat = byte.toNat / 16 ∧ (byte &&& 0x0f).toNat = byte.toNat % 16 := by
  constructor
  · rw [UInt8.toNat_shiftRight, Nat.shiftRight_eq_div_pow]
    rfl
  · rw [UInt8.toNat_and]
    exact Nat.and_two_pow_sub_one_eq_mod byte.toNat 4

theorem hexDigits_injective {first second : UInt8} (same : hexDigits first = hexDigits second) :
    first = second := by
  have digit : ∀ low < 16, ∀ other < 16, kHex.getD low 0 = kHex.getD other 0 → low = other := by decide
  unfold hexDigits at same
  simp only [List.cons.injEq, and_true, nibbles] at same
  have small := first.toNat_lt
  have small' := second.toNat_lt
  have high := digit _ (by omega) _ (by omega) same.1
  have low := digit _ (by omega) _ (by omega) same.2
  apply UInt8.toNat_inj.mp
  omega

theorem hexDigits_mem (byte : UInt8) : ∀ digit ∈ hexDigits byte, digit ∈ ascii "0123456789ABCDEF" := by
  have digits : ∀ index < 16, kHex.getD index 0 ∈ ascii "0123456789ABCDEF" := by decide
  have small := byte.toNat_lt
  intro digit member
  unfold hexDigits at member
  simp only [nibbles, List.mem_cons, List.not_mem_nil, or_false] at member
  rcases member with rfl | rfl
  · exact digits _ (by omega)
  · exact digits _ (by omega)

theorem flatMap_hexDigits_injective {first second : Bytes}
    (same : first.flatMap hexDigits = second.flatMap hexDigits) : first = second := by
  induction first generalizing second with
  | nil =>
    cases second with
    | nil => rfl
    | cons byte rest => cases same
  | cons byte rest ih =>
    cases second with
    | nil => cases same
    | cons other later =>
      rw [List.flatMap_cons, List.flatMap_cons] at same
      obtain ⟨head, tail⟩ := List.append_inj same rfl
      rw [hexDigits_injective head, ih tail]

theorem deriveTestId_isTestId {sha256 : Sha256} {device : DeviceId} {groupName : Bytes}
    {groupIndex : UInt32} {protocol : Protocol}
    (hashed : sha256 (identityInput device groupName groupIndex protocol) ≠ none) :
    IsTestId (deriveTestId sha256 device groupName groupIndex protocol) := by
  obtain ⟨digest, found⟩ := Option.ne_none_iff_exists'.mp hashed
  unfold deriveTestId
  rw [found]
  refine ⟨(digest.toList.take 8).flatMap hexDigits, rfl, ?_, ?_⟩
  · have lengths : ∀ byte, (hexDigits byte).length = 2 := fun _ => rfl
    simp only [List.length_flatMap, lengths, List.map_const', List.sum_replicate, List.length_take,
      Vector.length_toList]
    rfl
  · intro digit member
    obtain ⟨byte, _, isDigit⟩ := List.mem_flatMap.mp member
    exact hexDigits_mem byte digit isDigit

theorem truncated_eq {sha256 : Sha256} {device : DeviceId} {first second : Place}
    (hashed : sha256 (first.input device) ≠ none) (also : sha256 (second.input device) ≠ none)
    (same : (first.aircraft sha256 device).identity = (second.aircraft sha256 device).identity) :
    truncated sha256 (first.input device) = truncated sha256 (second.input device) := by
  obtain ⟨digest, found⟩ := Option.ne_none_iff_exists'.mp hashed
  obtain ⟨other, found'⟩ := Option.ne_none_iff_exists'.mp also
  have values := congrArg TestIdentity.value same
  unfold Place.input at found found'
  simp only [Place.aircraft, deriveTestId, found, found'] at values
  have shown := flatMap_hexDigits_injective (List.append_cancel_left values)
  unfold truncated Place.input
  rw [found, found', Option.map_some, Option.map_some, shown]

/-! The order of the groups. -/

theorem Accepted.perm {config : SystemConfig} (accepted : Accepted config) {groups : List GroupConfig}
    (same : config.groups.Perm groups) : Accepted { config with groups } := by
  have counts : totalCount groups = totalCount config.groups := (same.map _).sum_eq.symm
  constructor
  · exact accepted.site
  · exact accepted.defaultPeriod
  · exact fun group member => accepted.groups group (same.mem_iff.mpr member)
  · exact (same.map GroupConfig.name).nodup_iff.mp accepted.names
  · rw [counts]
    exact accepted.positive
  · rw [counts]
    exact accepted.bounded

theorem validate_perm (config : SystemConfig) {groups : List GroupConfig}
    (same : config.groups.Perm groups) :
    validate config = .ok () ↔ validate { config with groups } = .ok () := by
  rw [validate_ok_iff, validate_ok_iff]
  exact ⟨fun accepted => accepted.perm same, fun accepted => accepted.perm same.symm⟩

/-- The aircraft at a place: what it has from its group, its indices and its own identity. -/
structure Carries (sha256 : Sha256) (device : DeviceId) (place : Place) (item : AircraftConfig) : Prop where
  groupIndex : item.groupIndex.toNat = place.1.2
  instanceIndex : item.instanceIndex.toNat = place.2
  protocol : item.protocol = place.1.1.protocol
  transport : item.transport = place.1.1.transport
  wifiMode : item.wifiMode = place.1.1.wifiMode
  identity : item.identity =
    deriveTestId sha256 device place.1.1.name (UInt32.ofNat place.2) place.1.1.protocol

theorem Accepted.aircraft_carries {config : SystemConfig} (accepted : Accepted config) (sha256 : Sha256)
    (device : DeviceId) {place : Place} (member : place ∈ places config.groups) :
    Carries sha256 device place (place.aircraft sha256 device) := by
  obtain ⟨found, below⟩ := mem_places.mp member
  obtain ⟨inside, _⟩ := List.getElem?_eq_some_iff.mp found
  constructor
  · exact index_toNat (inside.le.trans accepted.groups_length_le)
  · exact index_toNat (below.le.trans (accepted.count_le (List.mem_of_getElem? found)))
  · rfl
  · rfl
  · rfl
  · rfl

/-- What an accepted configuration expands to. -/
structure ExactFleet (sha256 : Sha256) (config : SystemConfig) (device : DeviceId) : Prop where
  counts : 1 ≤ totalCount config.groups ∧ totalCount config.groups ≤ 50
  expands : (∀ input ∈ hashInputs device config.groups, sha256 input ≠ none) →
    ∃ aircraft, validateAndExpand sha256 config device = .ok aircraft ∧
      List.Forall₂ (Carries sha256 device) (places config.groups) aircraft
  fails : (∃ input ∈ hashInputs device config.groups, sha256 input = none) →
    validateAndExpand sha256 config device = .error .identityDerivationFailed
  inputs : (hashInputs device config.groups).Nodup
  identities : ∀ aircraft, validateAndExpand sha256 config device = .ok aircraft →
    (∀ item ∈ aircraft, IsTestId item.identity) ∧
      ((∀ first ∈ hashInputs device config.groups, ∀ second ∈ hashInputs device config.groups,
          truncated sha256 first = truncated sha256 second → first = second) →
        (aircraft.map AircraftConfig.identity).Nodup)

theorem Accepted.exactFleet {config : SystemConfig} (accepted : Accepted config) (sha256 : Sha256)
    (device : DeviceId) : ExactFleet sha256 config device := by
  have result := validateAndExpand_eq sha256 device accepted
  have inputs : ∀ input, input ∈ hashInputs device config.groups ↔
      ∃ place ∈ places config.groups, place.input device = input := fun _ => List.mem_map
  constructor
  · exact ⟨accepted.positive, accepted.bounded⟩
  · intro hashed
    rw [expandGroups_ok fun place member => hashed _ (List.mem_map_of_mem member)] at result
    refine ⟨_, result, ?_⟩
    rw [List.forall₂_map_right_iff, List.forall₂_same]
    exact fun place member => accepted.aircraft_carries sha256 device member
  · rintro ⟨input, member, failed⟩
    obtain ⟨place, isPlace, rfl⟩ := (inputs input).mp member
    rw [result, expandGroups_error isPlace failed]
    rfl
  · exact accepted.hashInputs_nodup device
  · intro aircraft expanded
    have hashed : ∀ place ∈ places config.groups, sha256 (place.input device) ≠ none := by
      intro place member failed
      rw [result, expandGroups_error member failed] at expanded
      cases expanded
    rw [result, expandGroups_ok hashed, Except.ok.injEq] at expanded
    subst expanded
    constructor
    · intro item member
      obtain ⟨place, isPlace, rfl⟩ := List.mem_map.mp member
      exact deriveTestId_isTestId (hashed place isPlace)
    · intro noCollision
      rw [List.map_map]
      refine (places_nodup config.groups).map_on fun first member second also same => ?_
      apply accepted.input_injective device member also
      exact noCollision _ (List.mem_map_of_mem member) _ (List.mem_map_of_mem also)
        (truncated_eq (hashed first member) (hashed second also) same)

/-- The expansion of a fleet is exact: acceptance does not depend on the order of the groups, and an accepted
configuration has one to fifty aircraft, one for every instance of every group in order, which hash
different bytes and have different identities as long as the truncated hash does not collide on them. -/
theorem fleet_exact (sha256 : Sha256) (config : SystemConfig) (device : DeviceId) :
    (∀ groups, config.groups.Perm groups →
        (validate config = .ok () ↔ validate { config with groups } = .ok ())) ∧
      (validate config = .ok () → ExactFleet sha256 config device) :=
  ⟨fun _ => validate_perm config,
    fun accepted => ((validate_ok_iff config).mp accepted).exactFleet sha256 device⟩

end RidFirmware
