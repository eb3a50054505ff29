import RidFirmware.Lib.Traverse
import RidFirmware.Odid.Core

/-! The Open Drone ID encoder. The numbers of a flight state are taken as they are; arithmetic on
them is exact. -/

namespace RidFirmware
open Lib Lib.Ieee Odid

inductive OdidIdType where
  | serialNumber
  | caaRegistration
  | other (raw : UInt8) (unknown : raw ≠ 1 ∧ raw ≠ 2)
  deriving DecidableEq

def OdidIdType.toRaw : OdidIdType → UInt8
  | .serialNumber => 1
  | .caaRegistration => 2
  | .other raw _ => raw

structure OdidOptions (K : Type) [Field K] where
  idType : OdidIdType := .serialNumber
  barometricAltitudeM : Option (Datum K) := none
  horizontalAccuracyM : Datum K := .finite 3
  verticalAccuracyM : Datum K := .finite 1
  barometricAccuracyM : Datum K := .finite 3
  speedAccuracyMps : Datum K := .finite 1
  timestampAccuracyS : Datum K := .finite (1 / 5)
  authenticationType : UInt8 := 0
  authenticationTimestamp : UInt32 := 0
  authenticationData : Bytes := []
  selfDescription : Bytes := ascii "RID test flight"
  operatorPosition : Option (GeoPoint (Datum K)) := none
  areaCount : UInt16 := 1
  areaRadiusM : UInt16 := 0
  areaCeilingM : Datum K := .finite (-1000)
  areaFloorM : Datum K := .finite (-1000)
  euClassification : Bool := false
  euCategory : UInt8 := 0
  euClass : UInt8 := 0
  operatorAltitudeM : Datum K := .finite (-1000)
  systemTimestamp : UInt32 := 0
  operatorId : Bytes := ascii "TESTOPERATOR"

inductive EncodeError where
  | invalidIdentity
  | invalidFlightState
  | invalidOptions
  | authenticationTooLong
  | textTooLong
  | unsupportedMessage
  | coreEncodingFailed
  deriving DecidableEq

namespace OdidEncoder

def kMaxAuthenticationBytes : Nat := ODID_AUTH_PAGE_ZERO_DATA_SIZE

/-- The text in an array of `size` bytes that keeps a zero byte at its end. -/
def copyText (source : Bytes) (size : Nat) : Bytes :=
  let text := source.take (size - 1)
  text ++ List.replicate (size - text.length) 0

def encodedResult (encoded : Option Bytes) : Except EncodeError Bytes :=
  match encoded with
  | none => .error .coreEncodingFailed
  | some bytes => .ok bytes

variable {K : Type} [Field K] [LinearOrder K]

def validateInputs (state : FlightState (Datum K)) (identity : TestIdentity) (options : OdidOptions K) :
    Except EncodeError Unit :=
  if identity.value.length ≠ ODID_ID_SIZE then .error .invalidIdentity
  else if !state.valid then .error .invalidFlightState
  else if options.barometricAltitudeM.any (fun altitude => !altitude.isFinite) ||
      !options.horizontalAccuracyM.isFinite || !options.verticalAccuracyM.isFinite ||
      !options.barometricAccuracyM.isFinite || !options.speedAccuracyMps.isFinite ||
      !options.timestampAccuracyS.isFinite || !options.areaCeilingM.isFinite ||
      !options.areaFloorM.isFinite || !options.operatorAltitudeM.isFinite ||
      options.operatorPosition.any (fun position => !position.valid) then .error .invalidOptions
  else if kMaxAuthenticationBytes < options.authenticationData.length then
    .error .authenticationTooLong
  else if ODID_STR_SIZE < options.selfDescription.length ∨ ODID_ID_SIZE < options.operatorId.length then
    .error .textTooLong
  else .ok ()

def basicIdData (identity : TestIdentity) (options : OdidOptions K) : BasicIdData where
  uaType := 2
  idType := options.idType.toRaw.toNat
  uasId := copyText identity.value (ODID_ID_SIZE + 1)

def locationData (state : FlightState (Datum K)) (options : OdidOptions K) : LocationData K where
  status := if state.airborne then 2 else 1
  direction := state.headingDeg
  speedHorizontal := state.horizontalSpeedMps
  speedVertical := state.verticalSpeedMps
  latitude := state.latitudeDeg
  longitude := state.longitudeDeg
  altitudeBaro := options.barometricAltitudeM.getD state.altitudeMslM
  altitudeGeo := state.altitudeMslM
  heightType := 1
  height := state.heightAglM
  horizAccuracy := createEnumHorizontalAccuracy options.horizontalAccuracyM
  vertAccuracy := createEnumVerticalAccuracy options.verticalAccuracyM
  baroAccuracy := createEnumVerticalAccuracy options.barometricAccuracyM
  speedAccuracy := createEnumSpeedAccuracy options.speedAccuracyMps
  tsAccuracy := createEnumTimestampAccuracy options.timestampAccuracyS
  timeStamp := .finite ((state.relativeTimeMs.toNat % 3600000 : Nat) / 1000)

def authData (options : OdidOptions K) : AuthData where
  dataPage := 0
  authType := options.authenticationType.toNat
  lastPageIndex := 0
  length := options.authenticationData.length % 256
  timestamp := options.authenticationTimestamp
  authData := options.authenticationData ++
    List.replicate (ODID_AUTH_PAGE_NONZERO_DATA_SIZE + 1 - options.authenticationData.length) 0

def selfIdData (options : OdidOptions K) : SelfIdData where
  descType := 0
  desc := copyText options.selfDescription (ODID_STR_SIZE + 1)

def systemData (state : FlightState (Datum K)) (options : OdidOptions K) : SystemData K :=
  let operatorPosition := options.operatorPosition.getD ⟨state.latitudeDeg, state.longitudeDeg⟩
  { operatorLocationType := 0
    classificationType := if options.euClassification then 1 else 0
    operatorLatitude := operatorPosition.latitudeDeg
    operatorLongitude := operatorPosition.longitudeDeg
    areaCount := options.areaCount
    areaRadius := options.areaRadiusM
    areaCeiling := options.areaCeilingM
    areaFloor := options.areaFloorM
    categoryEu := options.euCategory.toNat
    classEu := options.euClass.toNat
    operatorAltitudeGeo := options.operatorAltitudeM
    timestamp := options.systemTimestamp }

def operatorIdData (options : OdidOptions K) : OperatorIdData where
  operatorIdType := 0
  operatorId := copyText options.operatorId (ODID_ID_SIZE + 1)

variable [FloorRing K]

def encodeBasicId (identity : TestIdentity) (options : OdidOptions K) : Except EncodeError Bytes :=
  encodedResult (encodeBasicIdMessage (basicIdData identity options))

def encodeLocation (state : FlightState (Datum K)) (options : OdidOptions K) :
    Except EncodeError Bytes :=
  encodedResult (encodeLocationMessage (locationData state options))

def encodeAuthentication (options : OdidOptions K) : Except EncodeError Bytes :=
  encodedResult (encodeAuthMessage (authData options))

def encodeSelfId (options : OdidOptions K) : Except EncodeError Bytes :=
  encodedResult (encodeSelfIdMessage (selfIdData options))

def encodeSystem (state : FlightState (Datum K)) (options : OdidOptions K) :
    Except EncodeError Bytes :=
  encodedResult (encodeSystemMessage (systemData state options))

def encodeOperatorId (options : OdidOptions K) : Except EncodeError Bytes :=
  encodedResult (encodeOperatorIdMessage (operatorIdData options))

def encode (kind : MessageKind) (state : FlightState (Datum K)) (identity : TestIdentity)
    (options : OdidOptions K) : Except EncodeError Bytes :=
  match validateInputs state identity options with
  | .error error => .error error
  | .ok () =>
      match kind with
      | .basicId => encodeBasicId identity options
      | .location => encodeLocation state options
      | .authentication => encodeAuthentication options
      | .selfId => encodeSelfId options
      | .system => encodeSystem state options
      | .operatorId => encodeOperatorId options

def encodePack (state : FlightState (Datum K)) (identity : TestIdentity) (options : OdidOptions K) :
    Except EncodeError Bytes :=
  match kKinds.mapM fun kind => encode kind state identity options with
  | .error error => .error error
  | .ok messages => encodedResult (encodeMessagePack messages)

/-- What has to hold for every message to be encoded. -/
structure Encodable (state : FlightState (Datum K)) (identity : TestIdentity) (options : OdidOptions K) :
    Prop where
  inputs : validateInputs state identity options = .ok ()
  idType : options.idType.toRaw.toNat ≤ 15
  authenticationType : options.authenticationType.toNat ≤ 15
  location : (locationData state options).inRange = true
  system : (systemData state options).inRange = true

omit [FloorRing K] in
theorem locationData_enums (state : FlightState (Datum K)) (options : OdidOptions K) :
    (locationData state options).enumsInRange = true := by
  unfold LocationData.enumsInRange locationData
  apply decide_eq_true
  dsimp only
  refine ⟨by split_ifs <;> decide, by decide, ?_, ?_, ?_, ?_, createEnumTimestampAccuracy_le _⟩
  all_goals exact createEnum_le _ _ _ (by simp) (by decide)

theorem copyText_length (source : Bytes) {size : Nat} (positive : 0 < size) :
    (copyText source size).length = size := by
  unfold copyText
  simp only [List.length_append, List.length_take, List.length_replicate]
  omega

theorem encode_of_encodable {state : FlightState (Datum K)} {identity : TestIdentity}
    {options : OdidOptions K} (encodable : Encodable state identity options) (kind : MessageKind) :
    ∃ message, encode kind state identity options = .ok message ∧ IsMessage kind.index message := by
  have result : ∀ {type : Nat} {encoded : Option Bytes},
      (∃ message, encoded = some message ∧ IsMessage type message) →
      ∃ message, encodedResult encoded = .ok message ∧ IsMessage type message := by
    intro type encoded parts
    obtain ⟨message, rfl, isMessage⟩ := parts
    exact ⟨message, rfl, isMessage⟩
  have authentication : options.authenticationData.length ≤ 17 := by
    have valid := encodable.inputs
    unfold validateInputs at valid
    split_ifs at valid with _ _ _ long
    exact Nat.not_lt.mp long
  unfold encode
  rw [encodable.inputs]
  cases kind with
  | basicId =>
    have uaType : (basicIdData identity options).uaType ≤ 15 := Nat.le_of_ble_eq_true rfl
    refine result (encodeBasicIdMessage_some encodable.idType uaType ?_)
    rw [basicIdData, copyText_length _ (by decide)]
    exact Nat.le_succ _
  | location => exact result (encodeLocationMessage_some (locationData_enums _ _) encodable.location)
  | authentication =>
    refine result (encodeAuthMessage_some encodable.authenticationType rfl rfl ?_ ?_)
    · exact (Nat.mod_le _ _).trans authentication
    · simp only [authData, List.length_append, List.length_replicate, ODID_AUTH_PAGE_ZERO_DATA_SIZE,
        ODID_AUTH_PAGE_NONZERO_DATA_SIZE]
      omega
  | selfId => exact result (encodeSelfIdMessage_some (Nat.zero_le _))
  | system => exact result (encodeSystemMessage_some encodable.system)
  | operatorId => exact result (encodeOperatorIdMessage_some (Nat.zero_le _))

theorem of_encodedResult {encoded : Option Bytes} {message : Bytes}
    (result : encodedResult encoded = .ok message) : encoded = some message := by
  cases encoded with
  | none => cases result
  | some bytes => rw [Except.ok.inj result]

theorem encode_isMessage {kind : MessageKind} {state : FlightState (Datum K)} {identity : TestIdentity}
    {options : OdidOptions K} {message : Bytes}
    (encoded : encode kind state identity options = .ok message) : IsMessage kind.index message := by
  have shaped : ∀ {produced : Option Bytes}, encodedResult produced = .ok message →
      (∃ whole, produced = some whole ∧ IsMessage kind.index whole) → IsMessage kind.index message := by
    intro produced result parts
    obtain ⟨whole, same, isMessage⟩ := parts
    rw [of_encodedResult result, Option.some.injEq] at same
    rw [same]
    exact isMessage
  unfold encode at encoded
  cases checked : validateInputs state identity options with
  | error error =>
    rw [checked] at encoded
    cases encoded
  | ok _ =>
    rw [checked] at encoded
    cases kind with
    | basicId =>
      have idType : (basicIdData identity options).idType ≤ 15 := by
        by_contra large
        have refused : encodeBasicIdMessage (basicIdData identity options) = none :=
          if_pos (.inl (Nat.not_le.mp large))
        cases refused.symm.trans (of_encodedResult encoded)
      have uaType : (basicIdData identity options).uaType ≤ 15 := Nat.le_of_ble_eq_true rfl
      refine shaped encoded (encodeBasicIdMessage_some idType uaType ?_)
      rw [basicIdData, copyText_length _ (by decide)]
      exact Nat.le_succ _
    | location =>
      have range : (locationData state options).inRange = true := by
        by_contra outside
        have refused : encodeLocationMessage (locationData state options) = none := by
          unfold encodeLocationMessage
          rw [Bool.eq_false_iff.mpr outside, Bool.not_false, if_pos rfl, ite_self]
        cases refused.symm.trans (of_encodedResult encoded)
      exact shaped encoded (encodeLocationMessage_some (locationData_enums _ _) range)
    | authentication =>
      have authType : (authData options).authType ≤ 15 := by
        by_contra large
        have refused : encodeAuthMessage (authData options) = none := if_pos (Nat.not_le.mp large)
        cases refused.symm.trans (of_encodedResult encoded)
      have length : options.authenticationData.length ≤ 17 := by
        unfold validateInputs at checked
        split_ifs at checked with _ _ _ long
        exact Nat.not_lt.mp long
      refine shaped encoded (encodeAuthMessage_some authType rfl rfl ?_ ?_)
      · exact (Nat.mod_le _ _).trans length
      · simp only [authData, List.length_append, List.length_replicate, ODID_AUTH_PAGE_ZERO_DATA_SIZE,
          ODID_AUTH_PAGE_NONZERO_DATA_SIZE]
        omega
    | selfId => exact shaped encoded (encodeSelfIdMessage_some (Nat.zero_le _))
    | system =>
      have range : (systemData state options).inRange = true := by
        by_contra outside
        have refused : encodeSystemMessage (systemData state options) = none := by
          unfold encodeSystemMessage
          rw [Bool.eq_false_iff.mpr outside, Bool.not_false, if_pos rfl]
        cases refused.symm.trans (of_encodedResult encoded)
      exact shaped encoded (encodeSystemMessage_some range)
    | operatorId => exact shaped encoded (encodeOperatorIdMessage_some (Nat.zero_le _))

theorem encodeMessagePack_kinds {message : MessageKind → Bytes}
    (isMessage : ∀ kind, IsMessage kind.index (message kind)) :
    encodeMessagePack (kKinds.map message) = some ([0xf2, 25, 6] ++ (kKinds.map message).flatten) := by
  have types : (kKinds.map message).map (fun message => decodeMessageType (message.getD 0 0)) =
      kKinds.map MessageKind.index := by
    rw [List.map_map]
    exact List.map_congr_left fun kind _ => (isMessage kind).type
  have content : checkPackContent (kKinds.map message) = true := by
    unfold checkPackContent
    dsimp only
    rw [types, List.length_map]
    decide
  unfold encodeMessagePack
  rw [content]
  rfl

/-- A pack is the six messages behind a header of three bytes. -/
theorem encodePack_eq_ok {state : FlightState (Datum K)} {identity : TestIdentity}
    {options : OdidOptions K} {pack : Bytes} :
    encodePack state identity options = .ok pack ↔ ∃ message : MessageKind → Bytes,
      (∀ kind, encode kind state identity options = .ok (message kind)) ∧
        pack = [0xf2, 25, 6] ++ (kKinds.map message).flatten := by
  have packed : ∀ message : MessageKind → Bytes,
      (∀ kind, encode kind state identity options = .ok (message kind)) →
      encodePack state identity options = .ok ([0xf2, 25, 6] ++ (kKinds.map message).flatten) := by
    intro message encoded
    have all : (kKinds.mapM fun kind => encode kind state identity options) =
        .ok (kKinds.map message) := by
      rw [mapM_eq_ok, List.map_map]
      exact List.map_congr_left fun kind _ => encoded kind
    unfold encodePack
    rw [all]
    dsimp only
    rw [encodeMessagePack_kinds fun kind => encode_isMessage (encoded kind)]
    rfl
  constructor
  · intro result
    cases mapped : kKinds.mapM (fun kind => encode kind state identity options) with
    | error error =>
      unfold encodePack at result
      rw [mapped] at result
      cases result
    | ok messages =>
      choose message _ encoded using fun kind => exists_of_mapM_ok mapped (mem_kKinds kind)
      rw [packed message encoded] at result
      exact ⟨message, encoded, (Except.ok.inj result).symm⟩
  · rintro ⟨message, encoded, rfl⟩
    exact packed message encoded

theorem encodePack_eq_error {state : FlightState (Datum K)} {identity : TestIdentity}
    {options : OdidOptions K} {error : EncodeError} :
    encodePack state identity options = .error error ↔ ∃ before kind after,
      kKinds = before ++ kind :: after ∧
        (∀ earlier ∈ before, ∃ message, encode earlier state identity options = .ok message) ∧
        encode kind state identity options = .error error := by
  rw [← mapM_eq_error (f := fun kind => encode kind state identity options)]
  cases mapped : kKinds.mapM (fun kind => encode kind state identity options) with
  | error other =>
    unfold encodePack
    rw [mapped]
    simp only [Except.error.injEq]
  | ok messages =>
    choose message _ encoded using fun kind => exists_of_mapM_ok mapped (mem_kKinds kind)
    rw [encodePack_eq_ok.mpr ⟨message, encoded, rfl⟩]
    exact iff_of_false nofun nofun

theorem kinds_flatten_length {message : MessageKind → Bytes}
    (isMessage : ∀ kind, IsMessage kind.index (message kind)) :
    (kKinds.map message).flatten.length = 150 := by
  simp [kKinds, (isMessage _).length, ODID_MESSAGE_SIZE]

theorem encodePack_of_encodable {state : FlightState (Datum K)} {identity : TestIdentity}
    {options : OdidOptions K} (encodable : Encodable state identity options) :
    ∃ messages, encodePack state identity options = .ok ([0xf2, 25, 6] ++ messages) ∧
      messages.length = 150 := by
  choose message encoded isMessage using encode_of_encodable encodable
  exact ⟨_, encodePack_eq_ok.mpr ⟨message, encoded, rfl⟩, kinds_flatten_length isMessage⟩

theorem encodePack_shape {state : FlightState (Datum K)} {identity : TestIdentity}
    {options : OdidOptions K} {pack : Bytes} (encoded : encodePack state identity options = .ok pack) :
    ∃ messages, pack = [0xf2, 25, 6] ++ messages ∧ messages.length = 150 := by
  obtain ⟨message, single, rfl⟩ := encodePack_eq_ok.mp encoded
  exact ⟨_, rfl, kinds_flatten_length fun kind => encode_isMessage (single kind)⟩

/-- Packed and single encodings agree: a pack is made exactly if all six messages are, it has these behind
its header in the order of the kinds, and otherwise the error is that of the first kind that fails. -/
theorem encodePack_agrees (state : FlightState (Datum K)) (identity : TestIdentity)
    (options : OdidOptions K) :
    ((∃ pack, encodePack state identity options = .ok pack) ↔
        ∀ kind, ∃ message, encode kind state identity options = .ok message) ∧
      (∀ pack, encodePack state identity options = .ok pack ↔ ∃ message : MessageKind → Bytes,
        (∀ kind, encode kind state identity options = .ok (message kind) ∧ (message kind).length = 25) ∧
          pack = [0xf2, 0x19, 0x06] ++ message .basicId ++ message .location ++ message .authentication ++
            message .selfId ++ message .system ++ message .operatorId) ∧
      ∀ error, encodePack state identity options = .error error ↔ ∃ before kind after,
        [.basicId, .location, .authentication, .selfId, .system, .operatorId] = before ++ kind :: after ∧
          (∀ earlier ∈ before, ∃ message, encode earlier state identity options = .ok message) ∧
          encode kind state identity options = .error error := by
  refine ⟨?_, fun pack => ?_, fun error => encodePack_eq_error⟩
  · constructor
    · rintro ⟨pack, packed⟩ kind
      obtain ⟨message, encoded, _⟩ := encodePack_eq_ok.mp packed
      exact ⟨message kind, encoded kind⟩
    · intro all
      choose message encoded using all
      exact ⟨_, encodePack_eq_ok.mpr ⟨message, encoded, rfl⟩⟩
  · have inOrder : ∀ message : MessageKind → Bytes, [0xf2, 25, 6] ++ (kKinds.map message).flatten =
        [0xf2, 0x19, 0x06] ++ message .basicId ++ message .location ++ message .authentication ++
          message .selfId ++ message .system ++ message .operatorId := by
      intro message
      simp [kKinds]
    simp only [encodePack_eq_ok, inOrder]
    constructor
    · rintro ⟨message, encoded, rfl⟩
      exact ⟨message, fun kind => ⟨encoded kind, (encode_isMessage (encoded kind)).length⟩, rfl⟩
    · rintro ⟨message, encoded, rfl⟩
      exact ⟨message, fun kind => (encoded kind).1, rfl⟩

end OdidEncoder

end RidFirmware
