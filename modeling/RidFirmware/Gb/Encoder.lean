import RidFirmware.Model

/-! The GB 46750 encoder. The numbers of a flight state are taken as they are; arithmetic on them is
exact. -/

namespace RidFirmware
open Lib Lib.Ieee Lib.Wire

structure GbOptions (K : Type) where
  registrationMark : Bytes := ascii "TEST0000"
  operationCategory : UInt8 := 0
  uaClassification : UInt8 := 0
  gcsPositionType : UInt8 := 0
  gcsPosition : Option (GeoPoint (Datum K)) := none
  gcsAltitudeM : Option (Datum K) := none
  barometricAltitudeM : Option (Datum K) := none
  horizontalAccuracy : UInt8 := 0
  verticalAccuracy : UInt8 := 0
  speedAccuracy : UInt8 := 0
  timestampMs : UInt64 := 0
  timestampAccuracy : UInt8 := 0

inductive GbEncodeError where
  | invalidIdentity
  | invalidFlightState
  | invalidOptions
  | unsupportedMessage
  deriving DecidableEq

namespace GbEncoder

def kProductIdSize : Nat := 20
def kRegistrationMarkSize : Nat := 8
def kMaxTimestamp : Nat := 0xffffffffffff

variable {K : Type} [Field K] [LinearOrder K]

def kMinAltitudeM : Datum K := .finite (-1000)
def kMaxAltitudeM : Datum K := .finite (63535 / 2)
def kMinRelativeAltitudeM : Datum K := .finite (-9000)
def kMaxRelativeAltitudeM : Datum K := .finite (47535 / 2)
def kMaxGroundSpeedMps : Datum K := .finite (32767 / 5)

def validAltitude (altitudeM : Datum K) : Bool :=
  altitudeM.isFinite && kMinAltitudeM.less altitudeM && altitudeM.atMost kMaxAltitudeM

def validateInputs (state : FlightState (Datum K)) (identity : TestIdentity) (options : GbOptions K) :
    Except GbEncodeError Unit :=
  if identity.value.length ≠ kProductIdSize then .error .invalidIdentity
  else if !state.valid then .error .invalidFlightState
  else if kRegistrationMarkSize < options.registrationMark.length ∨
      options.gcsPosition.any (fun position => !position.valid) ∨
      options.gcsAltitudeM.any (fun altitude => !validAltitude altitude) ∨
      options.barometricAltitudeM.any (fun altitude => !validAltitude altitude) ∨
      kMaxTimestamp < options.timestampMs.toNat then .error .invalidOptions
  else .ok ()

/-- Type, version, the length of the content, the identifier bytes and the content. -/
def payload (identifiers content : Bytes) : Bytes :=
  [0xff, 0x20, UInt8.ofNat content.length] ++ identifiers ++ content

def putFixedText (text : Bytes) (size : Nat) : Bytes := text ++ List.replicate (size - text.length) 0

section
variable [FloorRing K]

def putCoordinate (point : GeoPoint (Datum K)) : Bytes :=
  putInt 4 (lround (point.longitudeDeg.value * 10 ^ 7)) ++
    putInt 4 (lround (point.latitudeDeg.value * 10 ^ 7))

def encodeAltitude (altitudeM : Datum K) : Bytes := putInt 2 (lround ((altitudeM.value + 1000) * 2))

def encodeRelativeAltitude (altitudeM : Datum K) : Bytes :=
  putInt 2 (lround ((altitudeM.value + 9000) * 2))

def encodeBasicId (identity : TestIdentity) : Except GbEncodeError Bytes :=
  .ok (payload [0x80] (putFixedText identity.value kProductIdSize))

def encodeOperatorId (options : GbOptions K) : Except GbEncodeError Bytes :=
  .ok (payload [0x40] (putFixedText options.registrationMark kRegistrationMarkSize))

def encodeSystem (state : FlightState (Datum K)) (options : GbOptions K) :
    Except GbEncodeError Bytes :=
  let position := options.gcsPosition.getD ⟨state.latitudeDeg, state.longitudeDeg⟩
  let altitude := options.gcsAltitudeM.getD state.altitudeMslM
  if !validAltitude altitude then .error .invalidOptions
  else .ok (payload [0x3e]
    ([options.operationCategory, options.uaClassification, options.gcsPositionType] ++
      putCoordinate position ++ encodeAltitude altitude))

/-- The range checks of `encode_location`. -/
def locationInRange (state : FlightState (Datum K)) (barometricAltitude : Datum K) : Bool :=
  validAltitude state.altitudeMslM && !state.heightAglM.atMost kMinRelativeAltitudeM &&
    !kMaxRelativeAltitudeM.less state.heightAglM &&
    !kMaxGroundSpeedMps.less state.horizontalSpeedMps &&
    !state.verticalSpeedMps.less (.finite (-63)) && !Datum.less (.finite (127 / 2)) state.verticalSpeedMps &&
    validAltitude barometricAltitude

/-- The magnitude in half metres per second, with the top bit for the sign. -/
def verticalSpeedByte (verticalSpeedMps : Datum K) : UInt8 :=
  let magnitude := UInt8.ofInt (lround (|verticalSpeedMps.value| * 2))
  if verticalSpeedMps.less (.finite 0) then magnitude ||| 0x80 else magnitude

def encodeLocation (state : FlightState (Datum K)) (options : GbOptions K) :
    Except GbEncodeError Bytes :=
  let barometricAltitude := options.barometricAltitudeM.getD state.altitudeMslM
  if !locationInRange state barometricAltitude then .error .invalidFlightState
  else .ok (payload [0x01, 0xff, 0xfe]
    (putCoordinate ⟨state.latitudeDeg, state.longitudeDeg⟩ ++
      putInt 2 (lround (state.headingDeg.value * 10)) ++
      putInt 2 (lround (state.horizontalSpeedMps.value * 10)) ++
      encodeRelativeAltitude state.heightAglM ++ [verticalSpeedByte state.verticalSpeedMps] ++
      encodeAltitude state.altitudeMslM ++ encodeAltitude barometricAltitude ++
      [if state.airborne then 1 else 0, 0, options.horizontalAccuracy, options.verticalAccuracy,
        options.speedAccuracy] ++
      putLe 6 options.timestampMs.toNat ++ [options.timestampAccuracy]))

def encode (kind : MessageKind) (state : FlightState (Datum K)) (identity : TestIdentity)
    (options : GbOptions K) : Except GbEncodeError Bytes :=
  match validateInputs state identity options with
  | .error error => .error error
  | .ok () =>
      match kind with
      | .basicId => encodeBasicId identity
      | .location => encodeLocation state options
      | .system => encodeSystem state options
      | .operatorId => encodeOperatorId options
      | .authentication => .error .unsupportedMessage
      | .selfId => .error .unsupportedMessage

def hasMessage (kind : MessageKind) : Bool := decide (kind ≠ .authentication ∧ kind ≠ .selfId)

theorem encode_unsupported {kind : MessageKind} (missing : hasMessage kind = false)
    (state : FlightState (Datum K)) (identity : TestIdentity) (options : GbOptions K) :
    ∃ error, encode kind state identity options = .error error := by
  unfold encode
  cases validateInputs state identity options with
  | error error => exact ⟨error, rfl⟩
  | ok _ => cases kind <;> first | exact ⟨_, rfl⟩ | cases missing

/-- The content of a `System` message. -/
def systemContent (state : FlightState (Datum K)) (options : GbOptions K) : Bytes :=
  [options.operationCategory, options.uaClassification, options.gcsPositionType] ++
    putCoordinate (options.gcsPosition.getD ⟨state.latitudeDeg, state.longitudeDeg⟩) ++
    encodeAltitude (options.gcsAltitudeM.getD state.altitudeMslM)

/-- The content of a `Location` message. -/
def locationContent (state : FlightState (Datum K)) (options : GbOptions K) : Bytes :=
  putCoordinate ⟨state.latitudeDeg, state.longitudeDeg⟩ ++
    putInt 2 (lround (state.headingDeg.value * 10)) ++
    putInt 2 (lround (state.horizontalSpeedMps.value * 10)) ++
    encodeRelativeAltitude state.heightAglM ++ [verticalSpeedByte state.verticalSpeedMps] ++
    encodeAltitude state.altitudeMslM ++
    encodeAltitude (options.barometricAltitudeM.getD state.altitudeMslM) ++
    [if state.airborne then 1 else 0, 0, options.horizontalAccuracy, options.verticalAccuracy,
      options.speedAccuracy] ++
    putLe 6 options.timestampMs.toNat ++ [options.timestampAccuracy]

theorem encodeSystem_ok_iff {state : FlightState (Datum K)} {options : GbOptions K} {bytes : Bytes} :
    encodeSystem state options = .ok bytes ↔
      validAltitude (options.gcsAltitudeM.getD state.altitudeMslM) = true ∧
        bytes = payload [0x3e] (systemContent state options) := by
  unfold encodeSystem
  dsimp only
  cases validAltitude (options.gcsAltitudeM.getD state.altitudeMslM) with
  | false => simp
  | true =>
    rw [Bool.not_true, if_neg Bool.false_ne_true, Except.ok.injEq, eq_self, true_and]
    exact eq_comm

theorem encodeLocation_ok_iff {state : FlightState (Datum K)} {options : GbOptions K} {bytes : Bytes} :
    encodeLocation state options = .ok bytes ↔
      locationInRange state (options.barometricAltitudeM.getD state.altitudeMslM) = true ∧
        bytes = payload [0x01, 0xff, 0xfe] (locationContent state options) := by
  unfold encodeLocation
  dsimp only
  cases locationInRange state (options.barometricAltitudeM.getD state.altitudeMslM) with
  | false => simp
  | true =>
    rw [Bool.not_true, if_neg Bool.false_ne_true, Except.ok.injEq, eq_self, true_and]
    exact eq_comm

omit [FloorRing K] in
/-- What the checks before an encoding make sure of. -/
theorem validateInputs_checks {state : FlightState (Datum K)} {identity : TestIdentity}
    {options : GbOptions K} (valid : validateInputs state identity options = .ok ()) :
    identity.value.length = 20 ∧ options.registrationMark.length ≤ 8 ∧
      options.gcsAltitudeM.any (fun altitude => !validAltitude altitude) = false := by
  unfold validateInputs at valid
  split_ifs at valid with identified stated optioned
  simp only [not_or, Nat.not_lt, Bool.not_eq_true] at optioned
  exact ⟨not_not.mp identified, optioned.1, optioned.2.2.1⟩

theorem encode_checked {kind : MessageKind} {state : FlightState (Datum K)} {identity : TestIdentity}
    {options : GbOptions K} {bytes : Bytes} (encoded : encode kind state identity options = .ok bytes) :
    validateInputs state identity options = .ok () := by
  unfold encode at encoded
  cases checked : validateInputs state identity options with
  | error error =>
    rw [checked] at encoded
    cases encoded
  | ok _ => rfl

theorem encode_length {kind : MessageKind} {state : FlightState (Datum K)} {identity : TestIdentity}
    {options : GbOptions K} {bytes : Bytes} (encoded : encode kind state identity options = .ok bytes) :
    0 < bytes.length ∧ bytes.length ≤ 37 := by
  have checked := encode_checked encoded
  obtain ⟨identified, registered, _⟩ := validateInputs_checks checked
  unfold encode at encoded
  rw [checked] at encoded
  cases kind with
  | basicId =>
    rw [← Except.ok.inj encoded]
    simp [payload, putFixedText, kProductIdSize, identified]
  | location =>
    rw [(encodeLocation_ok_iff.mp encoded).2]
    simp [payload, locationContent, putCoordinate, encodeRelativeAltitude, encodeAltitude]
  | system =>
    rw [(encodeSystem_ok_iff.mp encoded).2]
    simp [payload, systemContent, putCoordinate, encodeAltitude]
  | operatorId =>
    rw [← Except.ok.inj encoded]
    simp only [payload, putFixedText, kRegistrationMarkSize, List.length_append, List.length_cons,
      List.length_nil, List.length_replicate]
    omega
  | authentication => cases encoded
  | selfId => cases encoded

theorem encode_of_inRange {kind : MessageKind} {state : FlightState (Datum K)} {identity : TestIdentity}
    {options : GbOptions K} (present : hasMessage kind = true)
    (valid : validateInputs state identity options = .ok ())
    (range : locationInRange state (options.barometricAltitudeM.getD state.altitudeMslM) = true) :
    ∃ bytes, encode kind state identity options = .ok bytes ∧ 0 < bytes.length ∧ bytes.length ≤ 37 := by
  have altitude : validAltitude (options.gcsAltitudeM.getD state.altitudeMslM) = true := by
    have known := (validateInputs_checks valid).2.2
    cases given : options.gcsAltitudeM with
    | some altitude =>
      rw [given] at known
      simpa using known
    | none =>
      unfold locationInRange at range
      simp only [Bool.and_eq_true] at range
      exact range.1.1.1.1.1.1
  have encodes : ∃ bytes, encode kind state identity options = .ok bytes := by
    unfold encode
    rw [valid]
    cases kind with
    | basicId => exact ⟨_, rfl⟩
    | location => exact ⟨_, encodeLocation_ok_iff.mpr ⟨range, rfl⟩⟩
    | system => exact ⟨_, encodeSystem_ok_iff.mpr ⟨altitude, rfl⟩⟩
    | operatorId => exact ⟨_, rfl⟩
    | authentication => cases present
    | selfId => cases present
  obtain ⟨bytes, encoded⟩ := encodes
  exact ⟨bytes, encoded, encode_length encoded⟩

end

end GbEncoder

end RidFirmware
