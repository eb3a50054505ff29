import RidFirmware.Radio.Framing

/-! The check the Wi-Fi backend makes before it sends: a beacon whose information elements can be walked
to its end and include a name, rates and a vendor element. Whatever the builders make passes it. -/

namespace RidFirmware
open Lib

structure BeaconElements where
  ssid : Bool := false
  rates : Bool := false
  vendor : Bool := false

def BeaconElements.see (seen : BeaconElements) (id : UInt8) (length : Nat) : BeaconElements where
  ssid := seen.ssid || decide (id = 0 ∧ length ≤ 32)
  rates := seen.rates || decide (id = 1 ∧ 0 < length ∧ length ≤ 8)
  vendor := seen.vendor || decide (id = 0xdd ∧ 4 ≤ length)

/-- The loop of `valid_beacon_ies` over the elements that are left. -/
def walkBeaconIes (seen : BeaconElements) : Bytes → Bool
  | [] => seen.ssid && seen.rates && seen.vendor
  | [_] => false
  | id :: length :: rest =>
      if rest.length < length.toNat then false
      else walkBeaconIes (seen.see id length.toNat) (rest.drop length.toNat)
termination_by elements => elements.length
decreasing_by simp only [List.length_cons, List.length_drop]; omega

def validBeaconIes (frame : Bytes) : Bool :=
  walkBeaconIes {} (frame.drop (kBeaconHeaderSize + kBeaconFixedBodySize))

def validateOpendroneidBeacon (frame : ByteView) : WifiFrameError :=
  match frame with
  | .null _ => .invalidFrame
  | .bytes content =>
      if content.length < kBeaconHeaderSize + kBeaconFixedBodySize + 2 ∨
          kMaxWifiFrameSize < content.length ∨ content.getD 0 0 &&& 0xfc ≠ 0x80 then .invalidFrame
      else if validBeaconIes content then .none else .invalidFrame

theorem walkBeaconIes_element (seen : BeaconElements) (id : UInt8) {length : UInt8} {body : Bytes}
    (announced : length.toNat = body.length) (rest : Bytes) :
    walkBeaconIes seen (id :: length :: (body ++ rest)) =
      walkBeaconIes (seen.see id body.length) rest := by
  have within : ¬(body ++ rest).length < body.length := by
    rw [List.length_append]
    omega
  rw [walkBeaconIes, announced, if_neg within, List.drop_left]

theorem walkBeaconIes_nil (seen : BeaconElements) :
    walkBeaconIes seen [] = (seen.ssid && seen.rates && seen.vendor) := by
  rw [walkBeaconIes]

theorem gbBeaconFrame_checked (address : Vector UInt8 6) {ssid payload : Bytes}
    (named : ssid.length ≤ 32) (short : payload.length ≤ kMaxGbVendorPayloadSize) (counter : UInt8) :
    ¬((gbBeaconFrame address ssid counter payload).length <
        kBeaconHeaderSize + kBeaconFixedBodySize + 2 ∨
      kMaxWifiFrameSize < (gbBeaconFrame address ssid counter payload).length ∨
      (gbBeaconFrame address ssid counter payload).getD 0 0 &&& 0xfc ≠ 0x80) := by
  have length := gbBeaconFrame_length address ssid counter payload
  have first : (gbBeaconFrame address ssid counter payload).getD 0 0 = 0x80 := rfl
  unfold kMaxGbVendorPayloadSize at short
  unfold kBeaconHeaderSize kBeaconFixedBodySize kMaxWifiFrameSize
  rw [first, length]
  intro refused
  rcases refused with few | many | type
  · omega
  · omega
  · exact absurd rfl type

theorem validateOpendroneidBeacon_built (address : Vector UInt8 6) {ssid payload : Bytes}
    (named : ssid.length ≤ 32) (short : payload.length ≤ kMaxGbVendorPayloadSize) (counter : UInt8) :
    validateOpendroneidBeacon (.bytes (gbBeaconFrame address ssid counter payload)) = .none := by
  have checked := gbBeaconFrame_checked address named short counter
  have elements : (gbBeaconFrame address ssid counter payload).drop
      (kBeaconHeaderSize + kBeaconFixedBodySize) = _ := gbBeaconFrame_elements address ssid counter payload
  obtain ⟨nameLength, vendorLength⟩ := gbBeaconFrame_announced named short counter
  unfold validateOpendroneidBeacon validBeaconIes
  dsimp only
  rw [if_neg checked, elements, walkBeaconIes_element _ _ nameLength,
    walkBeaconIes_element _ _ (rfl : (0x01 : UInt8).toNat = ([0x8c] : Bytes).length),
    walkBeaconIes_element _ _ vendorLength, walkBeaconIes_nil]
  simp [BeaconElements.see, named]

end RidFirmware
