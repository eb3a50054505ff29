import Mathlib.Data.Fintype.Defs
import RidFirmware.Lib.Ieee
import RidFirmware.Lib.Wire

/-! The vocabulary shared by every component: protocols, transports, message kinds, identities and
flight states. Enumerations stored as raw bytes keep the bytes no enumerator has. -/

namespace RidFirmware
open Lib Lib.Ieee

/-! Numerals in the definitions. The instance that Mathlib finds is a proof about the predecessor of the numeral, and
Lean gives that proof a name of its own in each definition that holds it. A constant keeps equal numerals equal
terms, whatever definitions stand before them. -/

instance atLeastTwo2 : Nat.AtLeastTwo 2 := ⟨by decide⟩
instance atLeastTwo3 : Nat.AtLeastTwo 3 := ⟨by decide⟩
instance atLeastTwo4 : Nat.AtLeastTwo 4 := ⟨by decide⟩
instance atLeastTwo5 : Nat.AtLeastTwo 5 := ⟨by decide⟩
instance atLeastTwo10 : Nat.AtLeastTwo 10 := ⟨by decide⟩
instance atLeastTwo20 : Nat.AtLeastTwo 20 := ⟨by decide⟩
instance atLeastTwo62 : Nat.AtLeastTwo 62 := ⟨by decide⟩
instance atLeastTwo63 : Nat.AtLeastTwo 63 := ⟨by decide⟩
instance atLeastTwo90 : Nat.AtLeastTwo 90 := ⟨by decide⟩
instance atLeastTwo127 : Nat.AtLeastTwo 127 := ⟨by decide⟩
instance atLeastTwo180 : Nat.AtLeastTwo 180 := ⟨by decide⟩
instance atLeastTwo255 : Nat.AtLeastTwo 255 := ⟨by decide⟩
instance atLeastTwo360 : Nat.AtLeastTwo 360 := ⟨by decide⟩
instance atLeastTwo1000 : Nat.AtLeastTwo 1000 := ⟨by decide⟩
instance atLeastTwo1017 : Nat.AtLeastTwo 1017 := ⟨by decide⟩
instance atLeastTwo9000 : Nat.AtLeastTwo 9000 := ⟨by decide⟩
instance atLeastTwo32767 : Nat.AtLeastTwo 32767 := ⟨by decide⟩
instance atLeastTwo47535 : Nat.AtLeastTwo 47535 := ⟨by decide⟩
instance atLeastTwo63535 : Nat.AtLeastTwo 63535 := ⟨by decide⟩
instance atLeastTwo65535 : Nat.AtLeastTwo 65535 := ⟨by decide⟩
instance neZero2 : NeZero 2 := ⟨by decide⟩
instance neZero8 : NeZero 8 := ⟨by decide⟩

inductive Protocol where
  | gb46750
  | openDroneId
  | other (raw : UInt8) (unknown : 2 ≤ raw)
  deriving DecidableEq

inductive Transport where
  | ble4
  | ble5
  | wifi24
  | wifi58
  | other (raw : UInt8) (unknown : 4 ≤ raw)
  deriving DecidableEq

inductive WifiMode where
  | beacon
  | nan
  | other (raw : UInt8) (unknown : 2 ≤ raw)
  deriving DecidableEq

inductive MessageKind where
  | basicId
  | location
  | authentication
  | selfId
  | system
  | operatorId
  deriving DecidableEq

/-- The kinds in the order of their enumerators. -/
def kKinds : List MessageKind :=
  [.basicId, .location, .authentication, .selfId, .system, .operatorId]

def kMessageKindCount : Nat := 6

instance : Fintype MessageKind where
  elems := ⟨kKinds, by decide⟩
  complete := by intro kind; cases kind <;> decide

@[simp] theorem mem_kKinds (kind : MessageKind) : kind ∈ kKinds := by cases kind <;> decide

theorem kKinds_nodup : kKinds.Nodup := by decide

/-- The position of a kind in the arrays indexed by kind. -/
def MessageKind.index : MessageKind → Nat
  | .basicId => 0
  | .location => 1
  | .authentication => 2
  | .selfId => 3
  | .system => 4
  | .operatorId => 5

namespace Protocol

def toRaw : Protocol → UInt8
  | .gb46750 => 0
  | .openDroneId => 1
  | .other raw _ => raw

def ofRaw (raw : UInt8) : Protocol :=
  if h : 2 ≤ raw then .other raw h else if raw = 0 then .gb46750 else .openDroneId

theorem ofRaw_toRaw (protocol : Protocol) : ofRaw protocol.toRaw = protocol := by
  cases protocol with
  | gb46750 => rfl
  | openDroneId => rfl
  | other raw unknown => exact dif_pos unknown

theorem toRaw_ofRaw (raw : UInt8) : (ofRaw raw).toRaw = raw := by
  unfold ofRaw
  split_ifs with unknown first
  · rfl
  · exact first.symm
  · simp only [toRaw]
    grind

theorem ofRaw_eq_iff (raw : UInt8) (protocol : Protocol) :
    ofRaw raw = protocol ↔ protocol.toRaw = raw :=
  ⟨fun same => same ▸ toRaw_ofRaw raw, fun same => same ▸ ofRaw_toRaw protocol⟩

end Protocol

namespace Transport

def toRaw : Transport → UInt8
  | .ble4 => 0
  | .ble5 => 1
  | .wifi24 => 2
  | .wifi58 => 3
  | .other raw _ => raw

def ofRaw (raw : UInt8) : Transport :=
  if h : 4 ≤ raw then .other raw h
  else if raw = 0 then .ble4 else if raw = 1 then .ble5 else if raw = 2 then .wifi24 else .wifi58

theorem ofRaw_toRaw (transport : Transport) : ofRaw transport.toRaw = transport := by
  cases transport with
  | other raw unknown => exact dif_pos unknown
  | _ => rfl

theorem toRaw_ofRaw (raw : UInt8) : (ofRaw raw).toRaw = raw := by
  unfold ofRaw
  split_ifs with unknown first second third
  · rfl
  · exact first.symm
  · exact second.symm
  · exact third.symm
  · simp only [toRaw]
    grind

theorem ofRaw_eq_iff (raw : UInt8) (transport : Transport) :
    ofRaw raw = transport ↔ transport.toRaw = raw :=
  ⟨fun same => same ▸ toRaw_ofRaw raw, fun same => same ▸ ofRaw_toRaw transport⟩

end Transport

namespace WifiMode

def toRaw : WifiMode → UInt8
  | .beacon => 0
  | .nan => 1
  | .other raw _ => raw

def ofRaw (raw : UInt8) : WifiMode :=
  if h : 2 ≤ raw then .other raw h else if raw = 0 then .beacon else .nan

theorem ofRaw_toRaw (mode : WifiMode) : ofRaw mode.toRaw = mode := by
  cases mode with
  | beacon => rfl
  | nan => rfl
  | other raw unknown => exact dif_pos unknown

theorem toRaw_ofRaw (raw : UInt8) : (ofRaw raw).toRaw = raw := by
  unfold ofRaw
  split_ifs with unknown first
  · rfl
  · exact first.symm
  · simp only [toRaw]
    grind

theorem ofRaw_eq_iff (raw : UInt8) (mode : WifiMode) : ofRaw raw = mode ↔ mode.toRaw = raw :=
  ⟨fun same => same ▸ toRaw_ofRaw raw, fun same => same ▸ ofRaw_toRaw mode⟩

end WifiMode

/-- Unsigned 64-bit subtraction. -/
def sub64 (left right : Nat) : Nat := (left + (2 ^ 64 - right % 2 ^ 64)) % 2 ^ 64

/-- Unsigned 64-bit addition. -/
def add64 (left right : Nat) : Nat := (left + right) % 2 ^ 64

/-- `esp_err_t`. -/
abbrev EspErr := Int

def ESP_OK : EspErr := 0
def ESP_FAIL : EspErr := -1
def ESP_ERR_NO_MEM : EspErr := 0x101
def ESP_ERR_INVALID_ARG : EspErr := 0x102
def ESP_ERR_INVALID_STATE : EspErr := 0x103
def ESP_ERR_NVS_NOT_FOUND : EspErr := 0x1102

/-- A `float`, as the bit pattern that is stored and compared by identity. -/
structure Float32Bits where
  bits : UInt32
  deriving DecidableEq

/-- A `double`, as its bit pattern. -/
structure Float64Bits where
  bits : UInt64
  deriving DecidableEq

def Float32Bits.datum (x : Float32Bits) : Datum ℚ := binary32.datum x.bits.toNat
def Float64Bits.datum (x : Float64Bits) : Datum ℚ := binary64.datum x.bits.toNat

def DeviceId : Type := Vector UInt8 6
  deriving DecidableEq

/-- A pointer with a size; the pointer may be null. -/
inductive ByteView where
  | null (size : Nat)
  | bytes (content : Bytes)

def ByteView.size : ByteView → Nat
  | .null size => size
  | .bytes content => content.length

structure TestIdentity where
  value : Bytes
  deriving DecidableEq

structure GeoPoint (Number : Type) where
  latitudeDeg : Number
  longitudeDeg : Number
  deriving DecidableEq

structure FlightState (Number : Type) where
  latitudeDeg : Number
  longitudeDeg : Number
  altitudeMslM : Number
  heightAglM : Number
  horizontalSpeedMps : Number
  verticalSpeedMps : Number
  headingDeg : Number
  airborne : Bool
  relativeTimeMs : UInt32

section
variable {K : Type} [Field K] [LinearOrder K]

/-- `valid_point`: on the globe. The encoders check the position of the operator this way. -/
def GeoPoint.valid (point : GeoPoint (Datum K)) : Bool :=
  point.latitudeDeg.isFinite && Datum.atMost (.finite (-90)) point.latitudeDeg &&
    point.latitudeDeg.atMost (.finite 90) && point.longitudeDeg.isFinite &&
    Datum.atMost (.finite (-180)) point.longitudeDeg && point.longitudeDeg.atMost (.finite 180)

/-- `valid(const FlightState &)`. -/
def FlightState.valid (state : FlightState (Datum K)) : Bool :=
  state.latitudeDeg.isFinite && Datum.atMost (.finite (-90)) state.latitudeDeg &&
    state.latitudeDeg.atMost (.finite 90) && state.longitudeDeg.isFinite &&
    Datum.atMost (.finite (-180)) state.longitudeDeg && state.longitudeDeg.atMost (.finite 180) &&
    state.altitudeMslM.isFinite && state.heightAglM.isFinite &&
    state.horizontalSpeedMps.isFinite && Datum.atMost (.finite 0) state.horizontalSpeedMps &&
    state.verticalSpeedMps.isFinite && state.headingDeg.isFinite &&
    Datum.atMost (.finite 0) state.headingDeg && state.headingDeg.less (.finite 360)

end

end RidFirmware
