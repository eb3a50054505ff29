import RidFirmware.Config.Identity
import RidFirmware.Trajectory.Config

/-! The configuration tree, its validation and the expansion of groups into aircraft. -/

namespace RidFirmware
open Lib Lib.Ieee

def kMaxAircraft : Nat := 50
def kMinPeriodMs : Int := 100
def kMaxPeriodMs : Int := 60000

structure GroupConfig where
  name : Bytes := []
  count : UInt16 := 0
  protocol : Protocol := .openDroneId
  transport : Transport := .ble4
  wifiMode : WifiMode := .beacon
  trajectory : TrajectoryConfig := {}
  defaultPeriod : Option Int := none
  periodOverrides : MessageKind → Option Int := fun _ => none
  deriving DecidableEq

structure SystemConfig where
  site : Option (GeoPoint Float64Bits) := none
  defaultPeriod : Int := 1000
  groups : List GroupConfig := []
  deriving DecidableEq

structure AircraftConfig where
  identity : TestIdentity
  groupIndex : UInt16
  instanceIndex : UInt16
  protocol : Protocol
  transport : Transport
  wifiMode : WifiMode
  deriving DecidableEq

inductive ConfigError where
  | missingSite
  | invalidSite
  | noAircraft
  | tooManyAircraft
  | invalidGroupName
  | duplicateGroupName
  | invalidGroupCount
  | invalidPeriod
  | invalidTrajectory
  | unsupportedCombination
  | identityDerivationFailed
  deriving DecidableEq

def validPeriod (period : Int) : Bool := decide (kMinPeriodMs ≤ period ∧ period ≤ kMaxPeriodMs)

def validSite (site : GeoPoint Float64Bits) : Bool :=
  site.latitudeDeg.datum.isFinite && Datum.atMost (.finite (-90)) site.latitudeDeg.datum &&
    site.latitudeDeg.datum.atMost (.finite 90) && site.longitudeDeg.datum.isFinite &&
    Datum.atMost (.finite (-180)) site.longitudeDeg.datum &&
    site.longitudeDeg.datum.atMost (.finite 180)

def supported (group : GroupConfig) : Bool :=
  let knownWifiMode := decide (group.wifiMode = .beacon)
  let wifi := decide (group.transport = .wifi24) || decide (group.transport = .wifi58)
  let ble := decide (group.transport = .ble4) || decide (group.transport = .ble5)
  if !knownWifiMode || (!wifi && !ble) then false
  else if ble && decide (group.wifiMode ≠ .beacon) then false
  else if group.protocol = .gb46750 then wifi && decide (group.wifiMode = .beacon)
  else decide (group.protocol = .openDroneId)

def defaultConfig : SystemConfig := {}

/-- The first check a group fails, given the names before it. -/
def validateGroup (names : List Bytes) (group : GroupConfig) : Except ConfigError Unit :=
  if group.name.isEmpty then .error .invalidGroupName
  else if group.count = 0 then .error .invalidGroupCount
  else if group.name ∈ names then .error .duplicateGroupName
  else if !supported group then .error .unsupportedCombination
  else if !group.trajectory.valid then .error .invalidTrajectory
  else if group.defaultPeriod.any (fun period => !validPeriod period) then .error .invalidPeriod
  else if kKinds.any (fun kind => (group.periodOverrides kind).any (fun period => !validPeriod period))
    then .error .invalidPeriod
  else .ok ()

/-- The loop over the groups, with the aircraft and the names counted so far. -/
def validateGroups : Nat → List Bytes → List GroupConfig → Except ConfigError Nat
  | total, _, [] => .ok total
  | total, names, group :: rest =>
      match validateGroup names group with
      | .error error => .error error
      | .ok () =>
          let total := total + group.count.toNat
          if kMaxAircraft < total then .error .tooManyAircraft
          else validateGroups total (group.name :: names) rest

def validate (config : SystemConfig) : Except ConfigError Unit :=
  match config.site with
  | none => .error .missingSite
  | some site =>
      if !validSite site then .error .invalidSite
      else if !validPeriod config.defaultPeriod then .error .invalidPeriod
      else match validateGroups 0 [] config.groups with
        | .error error => .error error
        | .ok total => if total = 0 then .error .noAircraft else .ok ()

/-- The aircraft of one group, in the order of their indices. -/
def expandGroup (sha256 : Sha256) (device : DeviceId) (groupIndex : Nat) (group : GroupConfig) :
    Except ConfigError (List AircraftConfig) :=
  (List.range group.count.toNat).mapM fun instanceIndex =>
    let identity := deriveTestId sha256 device group.name (UInt32.ofNat instanceIndex) group.protocol
    if identity.value.isEmpty then .error .identityDerivationFailed
    else .ok {
      identity
      groupIndex := UInt16.ofNat groupIndex
      instanceIndex := UInt16.ofNat instanceIndex
      protocol := group.protocol
      transport := group.transport
      wifiMode := group.wifiMode }

def validateAndExpand (sha256 : Sha256) (config : SystemConfig) (device : DeviceId) :
    Except ConfigError (List AircraftConfig) := do
  validate config
  let groups ← config.groups.zipIdx.mapM fun group => expandGroup sha256 device group.2 group.1
  pure groups.flatten

def effectivePeriod (system : SystemConfig) (group : GroupConfig) (kind : MessageKind) : Int :=
  match group.periodOverrides kind with
  | some period => period
  | none => group.defaultPeriod.getD system.defaultPeriod

/-- The smallest fleet: one group, named `A`, of one hovering aircraft. -/
def oneHover : SystemConfig where
  site := some { latitudeDeg := ⟨0⟩, longitudeDeg := ⟨0⟩ }
  groups := [{ name := [65], count := 1 }]

/-- The hash of the bytes that identify its aircraft on a device whose address is all zero. -/
def oneHoverSha256 : Sha256 := fun input =>
  if input = [0, 0, 0, 0, 0, 0, 65, 0, 0, 0, 0, 1] then some #v[
    0xf2, 0x0e, 0x40, 0x21, 0x5f, 0xa2, 0xfd, 0xc1, 0xa7, 0x61, 0xb9, 0x08, 0x22, 0xb4, 0xc5, 0xd0,
    0xae, 0x4b, 0x8b, 0x7d, 0xdb, 0xf5, 0x15, 0xa2, 0x49, 0x91, 0x9a, 0x83, 0x02, 0x1a, 0x51, 0xec]
  else none

example : (validateAndExpand oneHoverSha256 oneHover (Vector.replicate 6 0)).map
    (List.map fun aircraft => aircraft.identity.value) = .ok [ascii "TESTF20E40215FA2FDC1"] := by
  decide +kernel

end RidFirmware
