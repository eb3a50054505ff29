import RidFirmware.Gb.Encoder
import RidFirmware.Odid.Encoder
import RidFirmware.Runtime.Runtime

/-! The encoders as the runtime calls them: what is in range is encoded and framed. -/

namespace RidFirmware
open Lib Lib.Ieee

section
variable {K : Type} [Field K]

def GeoPoint.cast (point : GeoPoint Float64Bits) : GeoPoint (Datum K) where
  latitudeDeg := point.latitudeDeg.datum.cast
  longitudeDeg := point.longitudeDeg.datum.cast

/-- The options of `tick`: the defaults, with the operator at the site. -/
def siteOdidOptions (site : GeoPoint Float64Bits) : OdidOptions K where
  operatorPosition := some site.cast

def siteGbOptions (site : GeoPoint Float64Bits) : GbOptions K where
  gcsPosition := some site.cast

variable [LinearOrder K]

/-- A flight state inside the ranges which the encoder of a protocol checks. -/
def encodable (protocol : Protocol) (state : FlightState (Datum K)) : Bool :=
  state.valid && if protocol = .openDroneId then (OdidEncoder.locationData state {}).inRange
    else GbEncoder.locationInRange state state.altitudeMslM

variable {Engine Sink : Type}

/-- The runtime calls the encoders with the options of `tick`. -/
def RuntimeEnv.withEncoders [FloorRing K] (env : RuntimeEnv (Datum K) Engine Sink) :
    RuntimeEnv (Datum K) Engine Sink :=
  { env with
    encodePack := fun site state identity =>
      (OdidEncoder.encodePack state identity (siteOdidOptions site)).toOption
    encodeOdid := fun kind site state identity =>
      (OdidEncoder.encode kind state identity (siteOdidOptions site)).toOption
    encodeGb := fun kind site state identity =>
      (GbEncoder.encode kind state identity (siteGbOptions site)).toOption }

end

/-- The kinds for which the encoder of a protocol has a message. -/
def producible (protocol : Protocol) (kind : MessageKind) : Bool :=
  decide (protocol = .openDroneId) || GbEncoder.hasMessage kind

/-! The options pass the checks of the encoders. -/

section
variable {K : Type} [Field K] [LinearOrder K] [IsStrictOrderedRing K]

theorem validSite_cast {site : GeoPoint Float64Bits} (valid : validSite site = true) :
    (site.cast : GeoPoint (Datum K)).valid = true := by
  have bound : ∀ value : ℚ, (Datum.finite value).cast = Datum.finite (value : K) := fun _ => rfl
  have south := bound (-90)
  have north := bound 90
  have west := bound (-180)
  have east := bound 180
  push_cast at south north west east
  rw [← valid]
  unfold GeoPoint.valid GeoPoint.cast validSite
  rw [← south, ← north, ← west, ← east]
  simp only [Datum.isFinite_cast, Datum.atMost_cast]

theorem odid_encodable {site : GeoPoint Float64Bits} (onGlobe : validSite site = true)
    {state : FlightState (Datum K)} (inRange : encodable .openDroneId state = true)
    {identity : TestIdentity} (derived : identity.value.length = 20) :
    OdidEncoder.Encodable state identity (siteOdidOptions site) := by
  have point := @validSite_cast K _ _ _ site onGlobe
  unfold encodable at inRange
  rw [if_pos rfl, Bool.and_eq_true] at inRange
  have operator : Odid.within Odid.MIN_LAT Odid.MAX_LAT (site.cast : GeoPoint (Datum K)).latitudeDeg ∧
      Odid.within Odid.MIN_LON Odid.MAX_LON (site.cast : GeoPoint (Datum K)).longitudeDeg := by
    unfold GeoPoint.valid at point
    simp only [Bool.and_eq_true] at point
    exact ⟨Odid.within_of_atMost point.1.1.1.1.2 point.1.1.1.2,
      Odid.within_of_atMost point.1.2 point.2⟩
  have ground : Odid.within Odid.MIN_ALT Odid.MAX_ALT (Datum.finite (-1000 : K)) = true := by
    apply Odid.within_of_atMost
    · rw [Datum.atMost_finite, decide_eq_true_eq]
    · rw [Datum.atMost_finite, decide_eq_true_eq]
      norm_num
  constructor
  · unfold OdidEncoder.validateInputs
    rw [inRange.1]
    simp [derived, siteOdidOptions, point, Odid.ODID_ID_SIZE, OdidEncoder.kMaxAuthenticationBytes]
    decide
  · exact Nat.le_of_ble_eq_true rfl
  · exact Nat.le_of_ble_eq_true rfl
  · exact inRange.2
  · unfold Odid.SystemData.inRange OdidEncoder.systemData siteOdidOptions
    dsimp only [Option.getD_some]
    rw [operator.1, operator.2, ground]
    rfl

theorem gb_inputs {site : GeoPoint Float64Bits} (onGlobe : validSite site = true)
    {state : FlightState (Datum K)} (valid : state.valid = true)
    {identity : TestIdentity} (derived : identity.value.length = 20) :
    GbEncoder.validateInputs state identity (siteGbOptions site) = .ok () := by
  have point := @validSite_cast K _ _ _ site onGlobe
  unfold GbEncoder.validateInputs
  rw [valid]
  simp [derived, siteGbOptions, point, GbEncoder.kProductIdSize, GbEncoder.kMaxTimestamp]
  decide

end

/-! One message. -/

section
variable {K : Type} [Field K] [LinearOrder K] [IsStrictOrderedRing K] [FloorRing K]
variable {Engine Sink : Type} (env : RuntimeEnv (Datum K) Engine Sink)

theorem encodeOdid_some {site : GeoPoint Float64Bits} (onGlobe : validSite site = true)
    {state : FlightState (Datum K)} (inRange : encodable .openDroneId state = true)
    {identity : TestIdentity} (derived : identity.value.length = 20) (kind : MessageKind)
    (counter : UInt8) :
    ∃ bytes frame, env.withEncoders.encodeOdid kind site state identity = some bytes ∧
      serviceData counter bytes = some frame ∧ frame.length ≤ kMaxScheduledPayloadSize := by
  obtain ⟨bytes, encoded, isMessage⟩ :=
    OdidEncoder.encode_of_encodable (odid_encodable onGlobe inRange derived) kind
  have length : bytes.length = 25 := isMessage.length
  obtain ⟨frame, framed, size⟩ := buildOpendroneidServiceData_some (by omega) (.inl length) counter
  refine ⟨bytes, frame, ?_, ?_, ?_⟩
  · simp only [RuntimeEnv.withEncoders, encoded]
    rfl
  · unfold serviceData
    rw [framed]
  · simp only [kMaxScheduledPayloadSize]
    omega

theorem encodePack_some {site : GeoPoint Float64Bits} (onGlobe : validSite site = true)
    {state : FlightState (Datum K)} (inRange : encodable .openDroneId state = true)
    (aircraft : AircraftConfig) (derived : aircraft.identity.value.length = 20) (counter : UInt8) :
    ∃ bytes frame, env.withEncoders.encodePack site state aircraft.identity = some bytes ∧
      (if aircraft.wifi then opendroneidBeacon aircraft else serviceData) counter bytes = some frame ∧
      frame.length ≤ kMaxScheduledPayloadSize := by
  obtain ⟨messages, encoded, length⟩ :=
    OdidEncoder.encodePack_of_encodable (odid_encodable onGlobe inRange derived)
  obtain ⟨size, pack⟩ := isMessagePack_six length
  generalize ([0xf2, 25, 6] ++ messages : Bytes) = bytes at *
  have encodes : env.withEncoders.encodePack site state aircraft.identity = some bytes := by
    simp only [RuntimeEnv.withEncoders, encoded]
    rfl
  split_ifs
  · obtain ⟨frame, framed, long⟩ := buildOpendroneidBeacon_some
      (addressFor aircraft.identity aircraft.instanceIndex) (derived.trans_le (by decide)) pack
      (by omega) counter
    refine ⟨bytes, frame, encodes, ?_, ?_⟩
    · unfold opendroneidBeacon
      rw [framed]
    · simp only [kMaxScheduledPayloadSize]
      omega
  · obtain ⟨frame, framed, long⟩ := buildOpendroneidServiceData_some (by omega) (.inr pack) counter
    refine ⟨bytes, frame, encodes, ?_, ?_⟩
    · unfold serviceData
      rw [framed]
    · simp only [kMaxScheduledPayloadSize]
      omega

theorem encodeGb_some {site : GeoPoint Float64Bits} (onGlobe : validSite site = true)
    {aircraft : AircraftConfig} (other : aircraft.protocol ≠ .openDroneId)
    {state : FlightState (Datum K)} (inRange : encodable aircraft.protocol state = true)
    (derived : aircraft.identity.value.length = 20) {kind : MessageKind}
    (present : GbEncoder.hasMessage kind = true) (counter : UInt8) :
    ∃ bytes frame, env.withEncoders.encodeGb kind site state aircraft.identity = some bytes ∧
      gbBeacon aircraft counter bytes = some frame ∧ frame.length ≤ kMaxScheduledPayloadSize := by
  unfold encodable at inRange
  rw [if_neg other, Bool.and_eq_true] at inRange
  obtain ⟨bytes, encoded, nonempty, short⟩ :=
    GbEncoder.encode_of_inRange present (gb_inputs onGlobe inRange.1 derived) inRange.2
  obtain ⟨frame, framed, long⟩ := buildGbBeacon_some
    (addressFor aircraft.identity aircraft.instanceIndex) (derived.trans_le (by decide)) nonempty
    (short.trans (by decide)) counter
  refine ⟨bytes, frame, ?_, ?_, ?_⟩
  · simp only [RuntimeEnv.withEncoders, encoded]
    rfl
  · unfold gbBeacon
    rw [framed]
  · simp only [kMaxScheduledPayloadSize]
    omega

omit [IsStrictOrderedRing K] in
theorem encodeGb_none {kind : MessageKind} (missing : GbEncoder.hasMessage kind = false)
    (site : GeoPoint Float64Bits) (state : FlightState (Datum K)) (identity : TestIdentity) :
    env.withEncoders.encodeGb kind site state identity = none := by
  obtain ⟨error, refused⟩ := GbEncoder.encode_unsupported missing state identity (siteGbOptions site)
  simp only [RuntimeEnv.withEncoders, refused]
  rfl

end

end RidFirmware
