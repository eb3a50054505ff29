import Mathlib.Algebra.Order.BigOperators.Group.List
import RidFirmware.Config.Config
import RidFirmware.Lib.Traverse

/-! What acceptance means: the checks of `validate`, collected as facts about the whole
configuration. -/

namespace RidFirmware
open Lib Lib.Ieee

/-- The checks every group passes by itself. -/
structure GroupAccepted (group : GroupConfig) : Prop where
  named : group.name ≠ []
  counted : 0 < group.count.toNat
  supported : supported group = true
  trajectory : group.trajectory.valid = true
  defaultPeriod : ∀ period, group.defaultPeriod = some period → validPeriod period = true
  overrides : ∀ kind period, group.periodOverrides kind = some period → validPeriod period = true

def totalCount (groups : List GroupConfig) : Nat := (groups.map fun group => group.count.toNat).sum

/-- A configuration `validate` accepts. -/
structure Accepted (config : SystemConfig) : Prop where
  site : ∃ site, config.site = some site ∧ validSite site = true
  defaultPeriod : validPeriod config.defaultPeriod = true
  groups : ∀ group ∈ config.groups, GroupAccepted group
  names : (config.groups.map GroupConfig.name).Nodup
  positive : 0 < totalCount config.groups
  bounded : totalCount config.groups ≤ kMaxAircraft

theorem validateGroup_ok_iff (names : List Bytes) (group : GroupConfig) :
    validateGroup names group = .ok () ↔ GroupAccepted group ∧ group.name ∉ names := by
  have counted : 0 < group.count.toNat ↔ group.count ≠ 0 := by
    rw [Nat.pos_iff_ne_zero, ne_eq, ne_eq, ← UInt16.toNat_inj]
    rfl
  have fields : GroupAccepted group ↔ group.name ≠ [] ∧ group.count ≠ 0 ∧ supported group = true ∧
      group.trajectory.valid = true ∧
      (∀ period, group.defaultPeriod = some period → validPeriod period = true) ∧
      ∀ kind period, group.periodOverrides kind = some period → validPeriod period = true := by
    rw [← counted]
    exact ⟨fun h => ⟨h.1, h.2, h.3, h.4, h.5, h.6⟩, fun ⟨a, b, c, d, e, f⟩ => ⟨a, b, c, d, e, f⟩⟩
  have group_default : group.defaultPeriod.any (fun period => !validPeriod period) = false ↔
      ∀ period, group.defaultPeriod = some period → validPeriod period = true := by
    cases group.defaultPeriod <;> simp
  have group_overrides : kKinds.any (fun kind =>
        (group.periodOverrides kind).any (fun period => !validPeriod period)) = false ↔
      ∀ kind period, group.periodOverrides kind = some period → validPeriod period = true := by
    simp only [List.any_eq_false, mem_kKinds, Bool.not_eq_true, forall_const]
    refine forall_congr' fun kind => ?_
    cases group.periodOverrides kind <;> simp
  rw [fields, ← group_default, ← group_overrides]
  unfold validateGroup
  split_ifs <;> simp_all

theorem validateGroups_ok_iff (total result : Nat) (names : List Bytes) (groups : List GroupConfig) :
    validateGroups total names groups = .ok result ↔
      result = total + totalCount groups ∧ (groups ≠ [] → result ≤ kMaxAircraft) ∧
        (∀ group ∈ groups, GroupAccepted group ∧ group.name ∉ names) ∧
        (groups.map GroupConfig.name).Nodup := by
  induction groups generalizing total names with
  | nil => simp [validateGroups, totalCount, eq_comm]
  | cons group rest ih =>
    have count : totalCount (group :: rest) = group.count.toNat + totalCount rest := rfl
    cases checked : validateGroup names group with
    | error error =>
      have rejected : ¬(GroupAccepted group ∧ group.name ∉ names) := by
        rw [← validateGroup_ok_iff, checked]
        simp
      simp only [validateGroups, checked, reduceCtorEq, false_iff]
      exact fun ⟨_, _, all, _⟩ => rejected (all group (by simp))
    | ok _ =>
      have accepted := (validateGroup_ok_iff names group).mp checked
      by_cases many : kMaxAircraft < total + group.count.toNat
      · simp only [validateGroups, checked, many, if_true, reduceCtorEq, false_iff]
        intro parts
        obtain ⟨sum, bound, _⟩ := parts
        have := bound (by simp)
        omega
      · simp only [validateGroups, checked, many, if_false, ih, count]
        refine ⟨fun ⟨sum, bound, all, distinct⟩ => ⟨by omega, fun _ => ?_, ?_, ?_⟩,
          fun ⟨sum, bound, all, distinct⟩ => ⟨by omega, fun _ => bound (by simp), ?_, ?_⟩⟩
        · cases rest with
          | nil => simp [totalCount] at sum; omega
          | cons next others => exact bound (by simp)
        · simp_all
        · simp_all only [List.map_cons, List.nodup_cons, List.mem_map, and_true, not_exists, not_and]
          exact fun other member same => (all other member).2 (by simp [same])
        · intro other member
          refine ⟨(all other (by simp [member])).1, ?_⟩
          simp only [List.map_cons, List.nodup_cons, List.mem_map, not_exists, not_and] at distinct
          simp only [List.mem_cons, not_or]
          exact ⟨distinct.1 other member, (all other (by simp [member])).2⟩
        · simp_all

theorem validate_ok_iff (config : SystemConfig) : validate config = .ok () ↔ Accepted config := by
  have expanded : Accepted config ↔ (∃ site, config.site = some site ∧ validSite site = true) ∧
      validPeriod config.defaultPeriod = true ∧ 0 < totalCount config.groups ∧
      validateGroups 0 [] config.groups = .ok (totalCount config.groups) := by
    rw [validateGroups_ok_iff]
    refine ⟨fun h => ⟨h.site, h.defaultPeriod, h.positive, by simp, fun _ => h.bounded,
      fun group member => ⟨h.groups group member, by simp⟩, h.names⟩,
      fun ⟨site, period, positive, _, bounded, groups, names⟩ => ⟨site, period,
        fun group member => (groups group member).1, names, positive, bounded ?_⟩⟩
    intro empty
    simp [empty, totalCount] at positive
  rw [expanded]
  unfold validate
  cases sited : config.site with
  | none => simp
  | some site =>
    have result : ∀ total, validateGroups 0 [] config.groups = .ok total →
        total = totalCount config.groups := by
      intro total counted
      have := ((validateGroups_ok_iff _ _ _ _).mp counted).1
      omega
    by_cases inRange : validSite site = true
    · by_cases period : validPeriod config.defaultPeriod = true
      · cases counted : validateGroups 0 [] config.groups with
        | error error => simp [inRange, period]
        | ok total =>
          have same := result total counted
          by_cases empty : total = 0
          · simp [inRange, period, empty, ← same]
          · simp [inRange, period, empty, ← same, Nat.pos_of_ne_zero empty]
      · simp [inRange, period]
    · simp [inRange]

theorem validPeriod_iff (period : Int) : validPeriod period = true ↔ 100 ≤ period ∧ period ≤ 60000 := by
  unfold validPeriod kMinPeriodMs kMaxPeriodMs
  exact decide_eq_true_iff

theorem Accepted.site_isSome {config : SystemConfig} (accepted : Accepted config) :
    config.site.isSome = true := by
  obtain ⟨site, found, _⟩ := accepted.site
  rw [found]
  rfl

theorem Accepted.site_valid {config : SystemConfig} (accepted : Accepted config)
    {site : GeoPoint Float64Bits} (sited : config.site = some site) : validSite site = true := by
  obtain ⟨other, same, valid⟩ := accepted.site
  rw [sited] at same
  cases same
  exact valid

theorem accepted_of_expand {sha256 : Sha256} {config : SystemConfig} {device : DeviceId}
    {aircraft : List AircraftConfig}
    (expanded : validateAndExpand sha256 config device = .ok aircraft) : Accepted config := by
  unfold validateAndExpand at expanded
  cases checked : validate config with
  | error error => simp [checked, bind, Except.bind] at expanded
  | ok _ => exact (validate_ok_iff config).mp checked

theorem expand_parts {sha256 : Sha256} {config : SystemConfig} {device : DeviceId}
    {aircraft : List AircraftConfig}
    (expanded : validateAndExpand sha256 config device = .ok aircraft) :
    ∃ parts, config.groups.zipIdx.mapM (fun group => expandGroup sha256 device group.2 group.1) =
      .ok parts ∧ aircraft = parts.flatten := by
  have accepted := accepted_of_expand expanded
  unfold validateAndExpand at expanded
  rw [(validate_ok_iff config).mpr accepted] at expanded
  cases mapped : config.groups.zipIdx.mapM (fun group => expandGroup sha256 device group.2 group.1) with
  | error error => simp [mapped, bind, Except.bind] at expanded
  | ok parts =>
    simp only [mapped, bind, Except.bind, pure, Except.pure, Except.ok.injEq] at expanded
    exact ⟨parts, rfl, expanded.symm⟩

theorem index_toNat {index : Nat} (few : index ≤ kMaxAircraft) : (UInt16.ofNat index).toNat = index := by
  rw [UInt16.toNat_ofNat']
  unfold kMaxAircraft at few
  omega

/-- An aircraft of an expansion: what it has from its group, and its own identity. -/
structure Expanded (sha256 : Sha256) (config : SystemConfig) (device : DeviceId)
    (aircraft : AircraftConfig) (group : GroupConfig) : Prop where
  found : config.groups[aircraft.groupIndex.toNat]? = some group
  protocol : aircraft.protocol = group.protocol
  transport : aircraft.transport = group.transport
  wifiMode : aircraft.wifiMode = group.wifiMode
  identity : aircraft.identity = deriveTestId sha256 device group.name
    (UInt32.ofNat aircraft.instanceIndex.toNat) group.protocol
  derived : aircraft.identity.value ≠ []
  counted : aircraft.instanceIndex.toNat < group.count.toNat

theorem Expanded.identity_length {sha256 : Sha256} {config : SystemConfig} {device : DeviceId}
    {aircraft : AircraftConfig} {group : GroupConfig}
    (expanded : Expanded sha256 config device aircraft group) :
    aircraft.identity.value.length = 20 := by
  have derived := expanded.derived
  rw [expanded.identity] at derived ⊢
  exact deriveTestId_length _ _ _ _ _ derived

theorem Accepted.groups_length_le {config : SystemConfig} (accepted : Accepted config) :
    config.groups.length ≤ kMaxAircraft := by
  refine le_trans ?_ accepted.bounded
  have each : ∀ count ∈ config.groups.map (fun group => group.count.toNat), 1 ≤ count := by
    intro count member
    obtain ⟨group, present, rfl⟩ := List.mem_map.mp member
    exact (accepted.groups group present).counted
  simpa [totalCount] using List.length_le_sum_of_one_le _ each

theorem Accepted.count_le {config : SystemConfig} (accepted : Accepted config) {group : GroupConfig}
    (member : group ∈ config.groups) : group.count.toNat ≤ kMaxAircraft :=
  (List.le_sum_of_mem (List.mem_map_of_mem member)).trans accepted.bounded

theorem expanded_of_mem {sha256 : Sha256} {config : SystemConfig} {device : DeviceId}
    {aircraft : List AircraftConfig}
    (expanded : validateAndExpand sha256 config device = .ok aircraft) {item : AircraftConfig}
    (member : item ∈ aircraft) : ∃ group, Expanded sha256 config device item group := by
  have accepted := accepted_of_expand expanded
  obtain ⟨parts, mapped, rfl⟩ := expand_parts expanded
  obtain ⟨part, isPart, inPart⟩ := List.mem_flatten.mp member
  obtain ⟨⟨group, groupIndex⟩, isGroup, grouped⟩ := mem_of_mapM_ok mapped isPart
  obtain ⟨instanceIndex, isInstance, single⟩ := mem_of_mapM_ok grouped inPart
  have found : config.groups[groupIndex]? = some group := List.mem_zipIdx_iff_getElem?.mp isGroup
  obtain ⟨inside, _⟩ := List.getElem?_eq_some_iff.mp found
  have below : instanceIndex < group.count.toNat := List.mem_range.mp isInstance
  have groupSmall := index_toNat (inside.le.trans accepted.groups_length_le)
  have instanceSmall := index_toNat (below.le.trans (accepted.count_le (List.mem_of_getElem? found)))
  dsimp only at single
  split_ifs at single with derived
  cases single
  use group
  constructor
  · rw [groupSmall]
    exact found
  · rfl
  · rfl
  · rfl
  · rw [instanceSmall]
  · simpa using derived
  · rw [instanceSmall]
    exact below

theorem identities_derived {sha256 : Sha256} {config : SystemConfig} {device : DeviceId}
    {aircraft : List AircraftConfig}
    (expanded : validateAndExpand sha256 config device = .ok aircraft) :
    ∀ item ∈ aircraft, item.identity.value.length = 20 := by
  intro item member
  obtain ⟨group, isMember⟩ := expanded_of_mem expanded member
  exact isMember.identity_length

theorem exists_expanded {sha256 : Sha256} {config : SystemConfig} {device : DeviceId}
    {aircraft : List AircraftConfig}
    (expanded : validateAndExpand sha256 config device = .ok aircraft) {group : GroupConfig}
    (member : group ∈ config.groups) :
    ∃ item ∈ aircraft, config.groups[item.groupIndex.toNat]? = some group ∧
      item.protocol = group.protocol := by
  have accepted := accepted_of_expand expanded
  obtain ⟨parts, mapped, rfl⟩ := expand_parts expanded
  obtain ⟨groupIndex, inside, same⟩ := List.mem_iff_getElem.mp member
  have found : config.groups[groupIndex]? = some group := by
    rw [List.getElem?_eq_getElem inside, same]
  have numbered : (group, groupIndex) ∈ config.groups.zipIdx := List.mem_zipIdx_iff_getElem?.mpr found
  obtain ⟨part, isPart, grouped⟩ := exists_of_mapM_ok mapped numbered
  obtain ⟨item, inPart, single⟩ := exists_of_mapM_ok grouped
    (List.mem_range.mpr (accepted.groups group member).counted)
  have groupSmall := index_toNat (inside.le.trans accepted.groups_length_le)
  dsimp only at single
  split_ifs at single with derived
  cases single
  refine ⟨_, List.mem_flatten.mpr ⟨part, isPart, inPart⟩, ?_, rfl⟩
  rw [groupSmall]
  exact found

theorem expandGroup_length {sha256 : Sha256} {device : DeviceId} {groupIndex : Nat} {group : GroupConfig}
    {aircraft : List AircraftConfig}
    (expanded : expandGroup sha256 device groupIndex group = .ok aircraft) :
    aircraft.length = group.count.toNat := by
  rw [length_of_mapM_ok expanded, List.length_range]

theorem expand_length {sha256 : Sha256} {config : SystemConfig} {device : DeviceId}
    {aircraft : List AircraftConfig}
    (expanded : validateAndExpand sha256 config device = .ok aircraft) :
    aircraft.length = totalCount config.groups := by
  obtain ⟨parts, mapped, rfl⟩ := expand_parts expanded
  have read := congrArg (List.map fun part : Except ConfigError (List AircraftConfig) =>
    (part.toOption.getD []).length) (map_eq_of_mapM_ok mapped)
  rw [List.map_map, List.map_map] at read
  have each : ∀ item ∈ config.groups.zipIdx,
      ((expandGroup sha256 device item.2 item.1).toOption.getD []).length = item.1.count.toNat := by
    intro item member
    obtain ⟨part, _, grouped⟩ := exists_of_mapM_ok mapped member
    rw [grouped]
    exact expandGroup_length grouped
  have counts : parts.map List.length = config.groups.map fun group => group.count.toNat := by
    calc parts.map List.length = config.groups.zipIdx.map fun item => item.1.count.toNat := by
          exact read.symm.trans (List.map_congr_left each)
      _ = config.groups.map fun group => group.count.toNat := by
          rw [← List.zipIdx_map_fst 0 config.groups, List.map_map]
          simp [Function.comp_def]
  rw [List.length_flatten, counts]
  rfl

theorem supported_cases {group : GroupConfig} (accepted : supported group = true) :
    group.protocol = .openDroneId ∧ (group.transport = .ble4 ∨ group.transport = .ble5) ∨
      (group.protocol = .openDroneId ∨ group.protocol = .gb46750) ∧
        (group.transport = .wifi24 ∨ group.transport = .wifi58) := by
  unfold supported at accepted
  by_cases odid : group.protocol = .openDroneId
  · by_cases ble : group.transport = .ble4 ∨ group.transport = .ble5
    · exact .inl ⟨odid, ble⟩
    · refine .inr ⟨.inl odid, ?_⟩
      by_contra other
      rw [not_or] at ble other
      simp [ble.1, ble.2, other.1, other.2] at accepted
  · by_cases gb : group.protocol = .gb46750
    · refine .inr ⟨.inr gb, ?_⟩
      by_contra other
      rw [not_or] at other
      simp [gb, other.1, other.2] at accepted
    · simp [odid, gb] at accepted

theorem Accepted.effectivePeriod_valid {config : SystemConfig} (accepted : Accepted config)
    {group : GroupConfig} (member : group ∈ config.groups) (kind : MessageKind) :
    validPeriod (effectivePeriod config group kind) = true := by
  have checks := accepted.groups group member
  unfold effectivePeriod
  cases override : group.periodOverrides kind with
  | some period => exact checks.overrides kind period override
  | none =>
    cases default : group.defaultPeriod with
    | some period => exact checks.defaultPeriod period default
    | none => exact accepted.defaultPeriod

end RidFirmware
