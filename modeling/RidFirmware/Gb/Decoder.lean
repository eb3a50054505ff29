import RidFirmware.Gb.Encoder
import RidFirmware.Lib.Presence
import RidFirmware.Lib.Rounding

/-! A decoder of GB 46750 payloads, after the table of data items and not after the encoder, and what it
recovers of an encoded flight state. -/

namespace RidFirmware
open Lib Lib.Ieee Lib.Wire

inductive GbItem where
  | productId
  | registrationMark
  | operationCategory
  | uaClassification
  | gcsPositionType
  | gcsPosition
  | gcsAltitude
  | position
  | heading
  | groundSpeed
  | relativeAltitude
  | verticalSpeed
  | mslAltitude
  | barometricAltitude
  | status
  | coordinateSystem
  | horizontalAccuracy
  | verticalAccuracy
  | speedAccuracy
  | timestamp
  | timestampAccuracy
  deriving DecidableEq

namespace GbItem

/-- The items in the order of their numbers. -/
def table : List GbItem :=
  [productId, registrationMark, operationCategory, uaClassification, gcsPositionType, gcsPosition,
    gcsAltitude, position, heading, groundSpeed, relativeAltitude, verticalSpeed, mslAltitude,
    barometricAltitude, status, coordinateSystem, horizontalAccuracy, verticalAccuracy, speedAccuracy,
    timestamp, timestampAccuracy]

def width : GbItem → Nat
  | productId => 20
  | registrationMark => 8
  | gcsPosition | position => 8
  | gcsAltitude | heading | groundSpeed | relativeAltitude | mslAltitude | barometricAltitude => 2
  | timestamp => 6
  | _ => 1

end GbItem

structure GbFrame where
  dataLength : Nat
  identifiers : Bytes
  fields : List (GbItem × Bytes)

/-- Type, version and length, the announcement of the items, and the items. -/
def GbFrame.read : Reader GbFrame
  | type :: version :: dataLength :: rest =>
      if type = 0xff ∧ version = 0x20 then
        (readExtended rest).bind fun announcement =>
          (announced GbItem.table announcement.1).bind fun items =>
            (readFields GbItem.width items announcement.2).map fun content =>
              ({ dataLength := dataLength.toNat, identifiers := announcement.1, fields := content.1 },
                content.2)
      else none
  | _ => none

/-- A speed whose sign has a bit of its own. -/
structure GbSignedSpeed (K : Type) where
  negative : Bool
  magnitude : K

def GbSignedSpeed.value {K : Type} [Field K] (speed : GbSignedSpeed K) : K :=
  if speed.negative then -speed.magnitude else speed.magnitude

/-- What a payload reports, in degrees, metres and metres per second. -/
structure GbReport (K : Type) where
  productId : Option Bytes := none
  registrationMark : Option Bytes := none
  operationCategory : Option UInt8 := none
  uaClassification : Option UInt8 := none
  gcsPositionType : Option UInt8 := none
  gcsPosition : Option (GeoPoint K) := none
  gcsAltitudeM : Option K := none
  position : Option (GeoPoint K) := none
  headingDeg : Option K := none
  groundSpeedMps : Option K := none
  relativeAltitudeM : Option K := none
  verticalSpeed : Option (GbSignedSpeed K) := none
  mslAltitudeM : Option K := none
  barometricAltitudeM : Option K := none
  status : Option UInt8 := none
  coordinateSystem : Option UInt8 := none
  horizontalAccuracy : Option UInt8 := none
  verticalAccuracy : Option UInt8 := none
  speedAccuracy : Option UInt8 := none
  timestampMs : Option Nat := none
  timestampAccuracy : Option UInt8 := none

section
variable {K : Type} [Field K]

namespace GbReport

/-- Longitude first, in units of `10 ^ (-7)` degrees. -/
def coordinates (bytes : Bytes) : GeoPoint K where
  longitudeDeg := getInt (bytes.take 4) / 10 ^ 7
  latitudeDeg := getInt (bytes.drop 4) / 10 ^ 7

def altitude (offset : K) (bytes : Bytes) : K := getLe bytes / 2 - offset

def tenths (bytes : Bytes) : K := getLe bytes / 10

def signedSpeed (byte : UInt8) : GbSignedSpeed K where
  negative := byte.toNat.testBit 7
  magnitude := (byte.toNat % 128 : Nat) / 2

def put (report : GbReport K) (field : GbItem × Bytes) : GbReport K :=
  let byte := field.2.getD 0 0
  match field.1 with
  | .productId => { report with productId := some field.2 }
  | .registrationMark => { report with registrationMark := some field.2 }
  | .operationCategory => { report with operationCategory := some byte }
  | .uaClassification => { report with uaClassification := some byte }
  | .gcsPositionType => { report with gcsPositionType := some byte }
  | .gcsPosition => { report with gcsPosition := some (coordinates field.2) }
  | .gcsAltitude => { report with gcsAltitudeM := some (altitude 1000 field.2) }
  | .position => { report with position := some (coordinates field.2) }
  | .heading => { report with headingDeg := some (tenths field.2) }
  | .groundSpeed => { report with groundSpeedMps := some (tenths field.2) }
  | .relativeAltitude => { report with relativeAltitudeM := some (altitude 9000 field.2) }
  | .verticalSpeed => { report with verticalSpeed := some (signedSpeed byte) }
  | .mslAltitude => { report with mslAltitudeM := some (altitude 1000 field.2) }
  | .barometricAltitude => { report with barometricAltitudeM := some (altitude 1000 field.2) }
  | .status => { report with status := some byte }
  | .coordinateSystem => { report with coordinateSystem := some byte }
  | .horizontalAccuracy => { report with horizontalAccuracy := some byte }
  | .verticalAccuracy => { report with verticalAccuracy := some byte }
  | .speedAccuracy => { report with speedAccuracy := some byte }
  | .timestamp => { report with timestampMs := some (getLe field.2) }
  | .timestampAccuracy => { report with timestampAccuracy := some byte }

end GbReport

def GbFrame.report (frame : GbFrame) : GbReport K := frame.fields.foldl GbReport.put {}

end

/-! Every message is a payload of fields. -/

namespace GbEncoder

/-- An announcement as the decoder expects it. -/
structure Announces (identifiers : Bytes) (items : List GbItem) : Prop where
  read : ∀ rest, readExtended (identifiers ++ rest) = some (identifiers, rest)
  items : announced GbItem.table identifiers = some items

theorem announces_single {last : UInt8} (final : last.toNat % 2 = 0) {items : List GbItem}
    (places : announced GbItem.table [last] = some items) : Announces [last] items where
  read := @readExtended_append [] last (fun _ member => absurd member List.not_mem_nil) final
  items := places

theorem announces_location : Announces [0x01, 0xff, 0xfe] (GbItem.table.drop 7) where
  read := @readExtended_append [0x01, 0xff] 0xfe (by decide +kernel) (by decide)
  items := by decide +kernel

theorem read_payload {identifiers : Bytes} {fields : List (GbItem × Bytes)}
    (announces : Announces identifiers (fields.map Prod.fst))
    (sized : ∀ field ∈ fields, field.2.length = field.1.width)
    (short : (fields.flatMap Prod.snd).length < 256) (rest : Bytes) :
    GbFrame.read (payload identifiers (fields.flatMap Prod.snd) ++ rest) =
      some ({ dataLength := (fields.flatMap Prod.snd).length, identifiers, fields }, rest) := by
  have length : (UInt8.ofNat (fields.flatMap Prod.snd).length).toNat = (fields.flatMap Prod.snd).length := by
    rw [UInt8.toNat_ofNat', Nat.mod_eq_of_lt short]
  have split : payload identifiers (fields.flatMap Prod.snd) ++ rest =
      0xff :: 0x20 :: UInt8.ofNat (fields.flatMap Prod.snd).length ::
        (identifiers ++ (fields.flatMap Prod.snd ++ rest)) := by
    unfold payload
    simp only [List.cons_append, List.nil_append, List.append_assoc]
  rw [split, GbFrame.read, if_pos ⟨rfl, rfl⟩, announces.read, Option.bind_some]
  dsimp only
  rw [announces.items, Option.bind_some, readFields_append sized, length]
  rfl

section
variable {K : Type} [Field K] [LinearOrder K] [FloorRing K]

def basicIdFields (identity : TestIdentity) : List (GbItem × Bytes) :=
  [(.productId, putFixedText identity.value kProductIdSize)]

def operatorIdFields (options : GbOptions K) : List (GbItem × Bytes) :=
  [(.registrationMark, putFixedText options.registrationMark kRegistrationMarkSize)]

def systemFields (state : FlightState (Datum K)) (options : GbOptions K) : List (GbItem × Bytes) :=
  [(.operationCategory, [options.operationCategory]),
    (.uaClassification, [options.uaClassification]),
    (.gcsPositionType, [options.gcsPositionType]),
    (.gcsPosition, putCoordinate (options.gcsPosition.getD ⟨state.latitudeDeg, state.longitudeDeg⟩)),
    (.gcsAltitude, encodeAltitude (options.gcsAltitudeM.getD state.altitudeMslM))]

def locationFields (state : FlightState (Datum K)) (options : GbOptions K) : List (GbItem × Bytes) :=
  [(.position, putCoordinate ⟨state.latitudeDeg, state.longitudeDeg⟩),
    (.heading, putInt 2 (lround (state.headingDeg.value * 10))),
    (.groundSpeed, putInt 2 (lround (state.horizontalSpeedMps.value * 10))),
    (.relativeAltitude, encodeRelativeAltitude state.heightAglM),
    (.verticalSpeed, [verticalSpeedByte state.verticalSpeedMps]),
    (.mslAltitude, encodeAltitude state.altitudeMslM),
    (.barometricAltitude, encodeAltitude (options.barometricAltitudeM.getD state.altitudeMslM)),
    (.status, [if state.airborne then 1 else 0]),
    (.coordinateSystem, [0]),
    (.horizontalAccuracy, [options.horizontalAccuracy]),
    (.verticalAccuracy, [options.verticalAccuracy]),
    (.speedAccuracy, [options.speedAccuracy]),
    (.timestamp, putLe 6 options.timestampMs.toNat),
    (.timestampAccuracy, [options.timestampAccuracy])]

def identifiersOf : MessageKind → Bytes
  | .basicId => [0x80]
  | .operatorId => [0x40]
  | .system => [0x3e]
  | .location => [0x01, 0xff, 0xfe]
  | _ => []

def itemsOf : MessageKind → List GbItem
  | .basicId => [.productId]
  | .operatorId => [.registrationMark]
  | .system => (GbItem.table.drop 2).take 5
  | .location => GbItem.table.drop 7
  | _ => []

def fieldsOf (kind : MessageKind) (state : FlightState (Datum K)) (identity : TestIdentity)
    (options : GbOptions K) : List (GbItem × Bytes) :=
  match kind with
  | .basicId => basicIdFields identity
  | .operatorId => operatorIdFields options
  | .system => systemFields state options
  | .location => locationFields state options
  | _ => []

theorem fieldsOf_items (kind : MessageKind) (state : FlightState (Datum K)) (identity : TestIdentity)
    (options : GbOptions K) : (fieldsOf kind state identity options).map Prod.fst = itemsOf kind := by
  cases kind <;> rfl

theorem encode_payload {kind : MessageKind} {state : FlightState (Datum K)} {identity : TestIdentity}
    {options : GbOptions K} {bytes : Bytes} (encoded : encode kind state identity options = .ok bytes) :
    hasMessage kind = true ∧ validateInputs state identity options = .ok () ∧
      bytes = payload (identifiersOf kind) ((fieldsOf kind state identity options).flatMap Prod.snd) := by
  have checked := encode_checked encoded
  unfold encode at encoded
  rw [checked] at encoded
  cases kind with
  | basicId =>
    refine ⟨rfl, checked, ?_⟩
    rw [← Except.ok.inj encoded]
    simp [fieldsOf, basicIdFields, identifiersOf]
  | operatorId =>
    refine ⟨rfl, checked, ?_⟩
    rw [← Except.ok.inj encoded]
    simp [fieldsOf, operatorIdFields, identifiersOf]
  | system =>
    refine ⟨rfl, checked, ?_⟩
    rw [(encodeSystem_ok_iff.mp encoded).2]
    simp [fieldsOf, systemFields, systemContent, identifiersOf]
  | location =>
    refine ⟨rfl, checked, ?_⟩
    rw [(encodeLocation_ok_iff.mp encoded).2]
    simp [fieldsOf, locationFields, locationContent, identifiersOf]
  | authentication => cases encoded
  | selfId => cases encoded

end

end GbEncoder

end RidFirmware
