import RidFirmware.Scheduler.Payload

/-! Framing of encoded messages for the air: BLE service data and Wi-Fi beacons. A destination is
given by the bytes its `view` shows. -/

namespace RidFirmware
open Lib

def kOpenDroneIdMaxEncodedSize : Nat := 153
def kMaxWifiFrameSize : Nat := 512
def kMaxGbVendorPayloadSize : Nat := 249
def kBeaconHeaderSize : Nat := 24
def kBeaconFixedBodySize : Nat := 12

inductive BleAdError where
  | none
  | invalidPayload
  | payloadTooLarge
  deriving DecidableEq

inductive WifiFrameError where
  | none
  | invalidArgument
  | payloadTooLarge
  | invalidFrame
  deriving DecidableEq

/-- The header of an Open Drone ID message pack with as many 25-byte messages as it announces. -/
def isMessagePack (content : Bytes) : Bool :=
  decide (28 ≤ content.length ∧ (content.length - 3) % 25 = 0 ∧
    content.getD 0 0 &&& 0xf0 = 0xf0 ∧ content.getD 1 0 = 25 ∧
    (content.getD 2 0).toNat = (content.length - 3) / 25)

def buildOpendroneidServiceData (encodedMessages : ByteView) (counter : UInt8) : BleAdError × Bytes :=
  if kOpenDroneIdMaxEncodedSize < encodedMessages.size then (.payloadTooLarge, [])
  else match encodedMessages with
    | .null _ => (.invalidPayload, [])
    | .bytes content =>
        if content.length ≠ 25 ∧ !isMessagePack content then (.invalidPayload, [])
        else (.none, [UInt8.ofNat (content.length + 4), 0x16, 0xfa, 0xff, counter] ++ content)

/-- The bytes of a beacon up to its first information element. -/
def beaconHeader (address : Vector UInt8 6) : Bytes :=
  [0x80, 0x00, 0x00, 0x00, 0xff, 0xff, 0xff, 0xff, 0xff, 0xff] ++ address.toList ++ address.toList ++
    [0x00, 0x00, 0, 0, 0, 0, 0, 0, 0, 0, 0x64, 0x00, 0x01, 0x04]

/-- An absent address stands for the null pointer. -/
def buildGbBeacon (address : Option (Vector UInt8 6)) (ssid : ByteView) (counter : UInt8)
    (gbPayload : ByteView) : WifiFrameError × Bytes :=
  match address, ssid, gbPayload with
  | some address, .bytes ssid, .bytes payload => build address ssid payload
  | some address, .null 0, .bytes payload => build address [] payload
  | _, _, _ => (.invalidArgument, [])
where
  build (address : Vector UInt8 6) (ssid payload : Bytes) : WifiFrameError × Bytes :=
    if payload.length = 0 then (.invalidArgument, [])
    else if 32 < ssid.length ∨ kMaxGbVendorPayloadSize < payload.length then (.payloadTooLarge, [])
    else if kMaxWifiFrameSize < kBeaconHeaderSize + kBeaconFixedBodySize + 2 + ssid.length + 3 + 2 + 5 +
        payload.length then (.payloadTooLarge, [])
    else (.none, beaconHeader address ++ [0x00, UInt8.ofNat ssid.length] ++ ssid ++
      [0x01, 0x01, 0x8c] ++ [0xdd, UInt8.ofNat (5 + payload.length)] ++
      [0xfa, 0x0b, 0xbc, 0x0d, counter] ++ payload)

/-- The check of `build_opendroneid_beacon`, which is written out a second time. -/
def beaconRefuses (content : Bytes) : Bool :=
  decide (content.length < 28) || decide (content.getD 0 0 &&& 0xf0 ≠ 0xf0) ||
    decide (content.getD 1 0 ≠ 25) || decide ((content.getD 2 0).toNat ≠ (content.length - 3) / 25) ||
    decide ((content.length - 3) % 25 ≠ 0)

def buildOpendroneidBeacon (address : Option (Vector UInt8 6)) (ssid : ByteView) (counter : UInt8)
    (messagePack : ByteView) : WifiFrameError × Bytes :=
  match messagePack with
  | .null _ => (.invalidArgument, [])
  | .bytes content =>
      if beaconRefuses content then (.invalidArgument, [])
      else buildGbBeacon address ssid counter (.bytes content)

theorem beaconRefuses_eq (content : Bytes) : beaconRefuses content = !isMessagePack content := by
  unfold beaconRefuses isMessagePack
  rw [← decide_not, Bool.eq_iff_iff]
  simp only [Bool.or_eq_true, decide_eq_true_eq]
  have short : content.length < 28 ↔ ¬28 ≤ content.length := Nat.not_le.symm
  rw [short]
  tauto

/-! What the framers accept, and how long their frames are. -/

@[simp] theorem beaconHeader_length (address : Vector UInt8 6) : (beaconHeader address).length = 36 := by
  simp [beaconHeader]

theorem isMessagePack_six {messages : Bytes} (length : messages.length = 150) :
    ([0xf2, 25, 6] ++ messages : Bytes).length = 153 ∧ isMessagePack ([0xf2, 25, 6] ++ messages) = true := by
  have size : ([0xf2, 25, 6] ++ messages : Bytes).length = 153 := by
    rw [List.length_append, length]
    rfl
  refine ⟨size, ?_⟩
  unfold isMessagePack
  rw [size]
  refine decide_eq_true ⟨by decide, by decide, ?_, rfl, rfl⟩
  show (0xf2 : UInt8) &&& 0xf0 = 0xf0
  decide

theorem buildOpendroneidServiceData_some {content : Bytes} (short : content.length ≤ 153)
    (framed : content.length = 25 ∨ isMessagePack content = true) (counter : UInt8) :
    ∃ frame, buildOpendroneidServiceData (.bytes content) counter = (.none, frame) ∧
      frame.length = content.length + 5 := by
  have refused : ¬(content.length ≠ 25 ∧ !isMessagePack content) := by
    intro parts
    obtain ⟨long, unpacked⟩ := parts
    rcases framed with single | pack
    · exact long single
    · rw [pack] at unpacked
      cases unpacked
  refine ⟨_, (if_neg (Nat.not_lt.mpr short)).trans (if_neg refused), ?_⟩
  simp

theorem buildOpendroneidServiceData_eq {content frame : Bytes} {counter : UInt8}
    (built : buildOpendroneidServiceData (.bytes content) counter = (.none, frame)) :
    frame = [UInt8.ofNat (content.length + 4), 0x16, 0xfa, 0xff, counter] ++ content := by
  unfold buildOpendroneidServiceData at built
  dsimp only at built
  split_ifs at built
  · cases built
  · cases built
  · exact (Prod.mk.inj built).2.symm

theorem buildGbBeacon_some (address : Vector UInt8 6) {ssid payload : Bytes} (named : ssid.length ≤ 32)
    (nonempty : 0 < payload.length) (short : payload.length ≤ 249) (counter : UInt8) :
    ∃ frame, buildGbBeacon (some address) (.bytes ssid) counter (.bytes payload) = (.none, frame) ∧
      frame.length = 48 + ssid.length + payload.length := by
  have fits : ¬(32 < ssid.length ∨ kMaxGbVendorPayloadSize < payload.length) :=
    not_or.mpr ⟨Nat.not_lt.mpr named, Nat.not_lt.mpr short⟩
  have small : ¬(kMaxWifiFrameSize < kBeaconHeaderSize + kBeaconFixedBodySize + 2 + ssid.length + 3 + 2 +
      5 + payload.length) := by
    simp only [kMaxWifiFrameSize, kBeaconHeaderSize, kBeaconFixedBodySize]
    omega
  refine ⟨_, (if_neg nonempty.ne').trans ((if_neg fits).trans (if_neg small)), ?_⟩
  simp only [List.length_append, List.length_cons, List.length_nil, beaconHeader_length]
  omega

theorem buildOpendroneidBeacon_some (address : Vector UInt8 6) {ssid content : Bytes}
    (named : ssid.length ≤ 32) (pack : isMessagePack content = true) (short : content.length ≤ 249)
    (counter : UInt8) :
    ∃ frame, buildOpendroneidBeacon (some address) (.bytes ssid) counter (.bytes content) =
        (.none, frame) ∧
      frame.length = 48 + ssid.length + content.length := by
  have nonempty : 0 < content.length := by
    unfold isMessagePack at pack
    have long := (of_decide_eq_true pack).1
    omega
  obtain ⟨frame, built, length⟩ := buildGbBeacon_some address named nonempty short counter
  refine ⟨frame, ?_, length⟩
  unfold buildOpendroneidBeacon
  dsimp only
  rw [beaconRefuses_eq, pack]
  exact built

/-- The frame `build_gb_beacon` makes. -/
def gbBeaconFrame (address : Vector UInt8 6) (ssid : Bytes) (counter : UInt8) (payload : Bytes) : Bytes :=
  beaconHeader address ++ [0x00, UInt8.ofNat ssid.length] ++ ssid ++ [0x01, 0x01, 0x8c] ++
    [0xdd, UInt8.ofNat (5 + payload.length)] ++ [0xfa, 0x0b, 0xbc, 0x0d, counter] ++ payload

theorem gbBeaconFrame_length (address : Vector UInt8 6) (ssid : Bytes) (counter : UInt8)
    (payload : Bytes) :
    (gbBeaconFrame address ssid counter payload).length = 48 + ssid.length + payload.length := by
  simp only [gbBeaconFrame, List.length_append, List.length_cons, List.length_nil, beaconHeader_length]
  omega

theorem gbBeaconFrame_elements (address : Vector UInt8 6) (name : Bytes) (counter : UInt8)
    (payload : Bytes) :
    (gbBeaconFrame address name counter payload).drop 36 =
      0x00 :: UInt8.ofNat name.length :: (name ++ 0x01 :: 0x01 :: ([0x8c] ++
        0xdd :: UInt8.ofNat (5 + payload.length) ::
          (([0xfa, 0x0b, 0xbc, 0x0d, counter] ++ payload) ++ []))) := by
  unfold gbBeaconFrame
  simp only [List.append_assoc]
  rw [List.drop_left' (beaconHeader_length address)]
  simp only [List.cons_append, List.nil_append, List.append_nil]

theorem gbBeaconFrame_announced {name payload : Bytes} (named : name.length ≤ 32)
    (short : payload.length ≤ 249) (counter : UInt8) :
    (UInt8.ofNat name.length).toNat = name.length ∧
      (UInt8.ofNat (5 + payload.length)).toNat =
        ([0xfa, 0x0b, 0xbc, 0x0d, counter] ++ payload : Bytes).length := by
  have vendor : ([0xfa, 0x0b, 0xbc, 0x0d, counter] ++ payload : Bytes).length = 5 + payload.length := by
    rw [List.length_append]
    rfl
  rw [vendor, UInt8.toNat_ofNat', UInt8.toNat_ofNat', Nat.mod_eq_of_lt (by omega),
    Nat.mod_eq_of_lt (by omega)]
  exact ⟨rfl, rfl⟩

theorem buildGbBeacon_eq {address : Vector UInt8 6} {ssid payload frame : Bytes} {counter : UInt8}
    (built : buildGbBeacon (some address) (.bytes ssid) counter (.bytes payload) = (.none, frame)) :
    frame = gbBeaconFrame address ssid counter payload ∧ ssid.length ≤ 32 ∧ 0 < payload.length ∧
      payload.length ≤ kMaxGbVendorPayloadSize := by
  unfold buildGbBeacon buildGbBeacon.build at built
  dsimp only at built
  split_ifs at built with empty large
  · cases built
  · cases built
  · cases built
  · rw [not_or, Nat.not_lt, Nat.not_lt] at large
    exact ⟨(Prod.mk.inj built).2.symm, large.1, Nat.pos_of_ne_zero empty, large.2⟩

theorem buildOpendroneidBeacon_eq {address : Option (Vector UInt8 6)} {ssid : ByteView}
    {content frame : Bytes} {counter : UInt8}
    (built : buildOpendroneidBeacon address ssid counter (.bytes content) = (.none, frame)) :
    buildGbBeacon address ssid counter (.bytes content) = (.none, frame) := by
  unfold buildOpendroneidBeacon at built
  dsimp only at built
  split_ifs at built
  · cases built
  · exact built

end RidFirmware
