import RidFirmware.Odid.Encoder
import RidFirmware.Radio.BeaconGrammar

/-! The two framers of Open Drone ID messages take the same packs, and what they take can be read back from
their frames. -/

namespace RidFirmware
open Lib Lib.Ieee

/-- A message pack: the type of a pack, the size of a message, a count and as many messages. -/
def IsPack (content : Bytes) : Prop :=
  ∃ count, 1 ≤ count ∧ content.length = 3 + 25 * count ∧ content.getD 0 0 &&& 0xf0 = 0xf0 ∧
    content.getD 1 0 = 25 ∧ (content.getD 2 0).toNat = count

theorem isMessagePack_iff (content : Bytes) : isMessagePack content = true ↔ IsPack content := by
  unfold isMessagePack IsPack
  rw [decide_eq_true_eq]
  constructor
  · rintro ⟨long, whole, type, size, count⟩
    exact ⟨(content.length - 3) / 25, by omega, by omega, type, size, count⟩
  · rintro ⟨count, positive, length, type, size, announced⟩
    exact ⟨by omega, by omega, type, size, by omega⟩

theorem buildOpendroneidBeacon_bytes (address : Option (Vector UInt8 6)) (ssid : ByteView) (counter : UInt8)
    (content : Bytes) :
    buildOpendroneidBeacon address ssid counter (.bytes content) =
      if beaconRefuses content then (.invalidArgument, [])
      else buildGbBeacon address ssid counter (.bytes content) := rfl

/-! Reading frames back. -/

def stripServiceData : Bytes → Option (UInt8 × Bytes)
  | length :: 0x16 :: 0xfa :: 0xff :: counter :: content =>
      if length.toNat = content.length + 4 then some (counter, content) else none
  | _ => none

def stripVendor : UInt8 × Bytes → Option (UInt8 × Bytes)
  | (0xdd, 0xfa :: 0x0b :: 0xbc :: 0x0d :: counter :: content) => some (counter, content)
  | _ => none

/-- The counter and the content of the first vendor element of a beacon. -/
def stripBeacon (frame : Bytes) : Option (UInt8 × Bytes) := do
  let elements ← Element.split (frame.drop 36)
  (elements.map fun element => (element.id, element.value)).findSome? stripVendor

theorem stripServiceData_frame {content : Bytes} (short : content.length ≤ 153) (counter : UInt8) :
    stripServiceData ([UInt8.ofNat (content.length + 4), 0x16, 0xfa, 0xff, counter] ++ content) =
      some (counter, content) := by
  have length : (UInt8.ofNat (content.length + 4)).toNat = content.length + 4 := by
    rw [UInt8.toNat_ofNat', Nat.mod_eq_of_lt (by omega)]
  exact if_pos length

theorem BuiltBeacon.strip {name payload : Bytes} {counter : UInt8} {built : WifiFrameError × Bytes}
    (beacon : BuiltBeacon name counter payload built) : stripBeacon built.2 = some (counter, payload) := by
  obtain ⟨elements, found, shapes⟩ := Option.map_eq_some_iff.mp beacon.elements
  unfold stripBeacon
  rw [found]
  show (elements.map fun element => (element.id, element.value)).findSome? stripVendor = _
  rw [shapes]
  rfl

/-! What the framers take and what they make. -/

theorem buildOpendroneidServiceData_cases (encodedMessages : ByteView) (counter : UInt8) :
    let built := buildOpendroneidServiceData encodedMessages counter
    (∃ content, encodedMessages = .bytes content ∧ content.length ≤ 153 ∧
        (content.length = 25 ∨ IsPack content) ∧ built =
          (.none, [UInt8.ofNat (content.length + 4), 0x16, 0xfa, 0xff, counter] ++ content)) ∨
      ((∀ content, encodedMessages = .bytes content →
          153 < content.length ∨ content.length ≠ 25 ∧ ¬IsPack content) ∧
        built.1 ≠ .none ∧ built.2 = []) := by
  unfold buildOpendroneidServiceData kOpenDroneIdMaxEncodedSize
  dsimp only
  by_cases large : 153 < encodedMessages.size
  · rw [if_pos large]
    refine .inr ⟨?_, nofun, rfl⟩
    rintro content rfl
    exact .inl large
  · rw [if_neg large]
    cases encodedMessages with
    | null size => exact .inr ⟨nofun, nofun, rfl⟩
    | bytes content =>
      dsimp only
      by_cases refused : content.length ≠ 25 ∧ (!isMessagePack content) = true
      · rw [if_pos refused]
        refine .inr ⟨?_, nofun, rfl⟩
        rintro other same
        obtain rfl := ByteView.bytes.inj same
        rw [Bool.not_eq_true', ← Bool.not_eq_true, isMessagePack_iff] at refused
        exact .inr refused
      · rw [if_neg refused]
        refine .inl ⟨content, rfl, Nat.not_lt.mp large, ?_, rfl⟩
        rw [Bool.not_eq_true', ← Bool.not_eq_true, isMessagePack_iff] at refused
        tauto

theorem buildOpendroneidBeacon_cases (address : Option (Vector UInt8 6)) (ssid : ByteView)
    (counter : UInt8) (messagePack : ByteView) :
    let built := buildOpendroneidBeacon address ssid counter messagePack
    (∃ name content, BeaconArguments address ssid messagePack name content ∧ IsPack content ∧
        BuiltBeacon name counter content built) ∨
      ((∀ name content, BeaconArguments address ssid messagePack name content → ¬IsPack content) ∧
        built.1 ≠ .none ∧ built.2 = []) := by
  cases messagePack with
  | null size =>
    refine .inr ⟨fun name content takes => ?_, nofun, rfl⟩
    cases takes.given
  | bytes content =>
    dsimp only
    rw [buildOpendroneidBeacon_bytes]
    by_cases refused : beaconRefuses content = true
    · rw [if_pos refused]
      rw [beaconRefuses_eq, Bool.not_eq_true', ← Bool.not_eq_true, isMessagePack_iff] at refused
      refine .inr ⟨fun name other takes => ?_, nofun, rfl⟩
      obtain rfl := ByteView.bytes.inj takes.given
      exact refused
    · rw [if_neg refused]
      rw [beaconRefuses_eq, Bool.not_eq_true, Bool.not_eq_false', isMessagePack_iff] at refused
      rcases buildGbBeacon_cases address ssid counter (.bytes content) with
        ⟨own, name, payload, takes, built⟩ | ⟨refuses, failed⟩
      · obtain rfl := ByteView.bytes.inj takes.given
        rw [built]
        exact .inl ⟨name, content, takes, refused, gbBeaconFrame_built own takes.named takes.short counter⟩
      · exact .inr ⟨fun name other takes => absurd takes (refuses name other), failed⟩

structure FramedAlike (address : Option (Vector UInt8 6)) (ssid : ByteView) (counter : UInt8)
    (input : ByteView) : Prop where
  serviceData : (buildOpendroneidServiceData input counter).1 = .none →
    ∃ content, input = .bytes content ∧
      stripServiceData (buildOpendroneidServiceData input counter).2 = some (counter, content)
  beacon : (buildOpendroneidBeacon address ssid counter input).1 = .none →
    ∃ content, input = .bytes content ∧
      stripBeacon (buildOpendroneidBeacon address ssid counter input).2 = some (counter, content)
  noServiceData : (buildOpendroneidServiceData input counter).1 ≠ .none →
    (buildOpendroneidServiceData input counter).2 = []
  noBeacon : (buildOpendroneidBeacon address ssid counter input).1 ≠ .none →
    (buildOpendroneidBeacon address ssid counter input).2 = []

theorem framedAlike (address : Option (Vector UInt8 6)) (ssid : ByteView) (counter : UInt8)
    (input : ByteView) : FramedAlike address ssid counter input := by
  have services := buildOpendroneidServiceData_cases input counter
  have beacons := buildOpendroneidBeacon_cases address ssid counter input
  dsimp only at services beacons
  constructor
  · intro built
    rcases services with ⟨content, given, short, _, made⟩ | ⟨_, failed, _⟩
    · rw [made]
      exact ⟨content, given, stripServiceData_frame short counter⟩
    · exact absurd built failed
  · intro built
    rcases beacons with ⟨name, content, takes, _, made⟩ | ⟨_, failed, _⟩
    · exact ⟨content, takes.given, made.strip⟩
    · exact absurd built failed
  · intro refused
    rcases services with ⟨content, _, _, _, made⟩ | ⟨_, _, empty⟩
    · rw [made] at refused
      exact absurd rfl refused
    · exact empty
  · intro refused
    rcases beacons with ⟨name, content, _, _, made⟩ | ⟨_, _, empty⟩
    · exact absurd made.succeeds refused
    · exact empty

theorem framers_take {address : Option (Vector UInt8 6)} (addressed : address ≠ none) {ssid : ByteView}
    {name : Bytes} (shown : ssid.Shows name) (named : name.length ≤ 32) (counter : UInt8) {content : Bytes}
    (long : 28 ≤ content.length) (short : content.length ≤ 153) :
    ((buildOpendroneidServiceData (.bytes content) counter).1 = .none ↔ IsPack content) ∧
      ((buildOpendroneidBeacon address ssid counter (.bytes content)).1 = .none ↔ IsPack content) := by
  constructor
  · rcases buildOpendroneidServiceData_cases (.bytes content) counter with
      ⟨other, same, _, shaped, made⟩ | ⟨refused, failed, _⟩
    · obtain rfl := ByteView.bytes.inj same
      rw [made]
      exact iff_of_true rfl (shaped.resolve_left (by omega))
    · refine iff_of_false failed fun pack => ?_
      rcases refused content rfl with large | ⟨_, other⟩
      · omega
      · exact other pack
  · rcases buildOpendroneidBeacon_cases address ssid counter (.bytes content) with
      ⟨_, other, takes, pack, made⟩ | ⟨refused, failed, _⟩
    · obtain rfl := ByteView.bytes.inj takes.given
      exact iff_of_true made.succeeds pack
    · exact iff_of_false failed
        (refused name content ⟨addressed, shown, named, rfl, by omega, by omega⟩)

section
variable {K : Type} [Field K] [LinearOrder K] [FloorRing K]

theorem OdidEncoder.encodePack_isPack {state : FlightState (Datum K)} {identity : TestIdentity}
    {options : OdidOptions K} {pack : Bytes} (encoded : encodePack state identity options = .ok pack) :
    pack.length = 153 ∧ IsPack pack := by
  obtain ⟨messages, rfl, length⟩ := encodePack_shape encoded
  obtain ⟨size, isPack⟩ := isMessagePack_six length
  exact ⟨size, (isMessagePack_iff _).mp isPack⟩

/-- The framers of Open Drone ID agree and lose nothing. A string of 28 to 153 bytes is taken by either
exactly if it is a pack, whatever either takes can be read back from its frame with the counter, whatever
it refuses leaves no frame, and both take every pack of the encoder. -/
theorem framers_agree {address : Option (Vector UInt8 6)} (addressed : address ≠ none) {ssid : ByteView}
    {name : Bytes} (shown : ssid.Shows name) (named : name.length ≤ 32) (counter : UInt8) :
    (∀ content : Bytes, 28 ≤ content.length → content.length ≤ 153 →
        ((buildOpendroneidServiceData (.bytes content) counter).1 = .none ↔ IsPack content) ∧
          ((buildOpendroneidBeacon address ssid counter (.bytes content)).1 = .none ↔ IsPack content)) ∧
      (∀ input, FramedAlike address ssid counter input) ∧
      ∀ (state : FlightState (Datum K)) identity options pack,
        OdidEncoder.encodePack state identity options = .ok pack →
          (buildOpendroneidServiceData (.bytes pack) counter).1 = .none ∧
            (buildOpendroneidBeacon address ssid counter (.bytes pack)).1 = .none := by
  refine ⟨fun content => framers_take addressed shown named counter, framedAlike address ssid counter, ?_⟩
  intro state identity options pack encoded
  obtain ⟨length, isPack⟩ := OdidEncoder.encodePack_isPack encoded
  have takes := @framers_take _ addressed _ _ shown named counter pack (by omega) (by omega)
  exact ⟨takes.1.mpr isPack, takes.2.mpr isPack⟩

end

/-- One sender with a name of three bytes. -/
theorem framers_agree_rid :
    (∀ content : Bytes, 28 ≤ content.length → content.length ≤ 153 →
        ((buildOpendroneidServiceData (.bytes content) 7).1 = .none ↔ IsPack content) ∧
          ((buildOpendroneidBeacon (some (Vector.replicate 6 2)) (.bytes (ascii "RID")) 7
            (.bytes content)).1 = .none ↔ IsPack content)) ∧
      (∀ input, FramedAlike (some (Vector.replicate 6 2)) (.bytes (ascii "RID")) 7 input) ∧
      ∀ (state : FlightState (Datum ℚ)) identity options pack,
        OdidEncoder.encodePack state identity options = .ok pack →
          (buildOpendroneidServiceData (.bytes pack) 7).1 = .none ∧
            (buildOpendroneidBeacon (some (Vector.replicate 6 2)) (.bytes (ascii "RID")) 7
              (.bytes pack)).1 = .none :=
  framers_agree (Option.some_ne_none _) (.inl rfl) (by decide) 7

end RidFirmware
