import RidFirmware.Odid.FlightReport
import RidFirmware.Radio.PackFraming

/-! The beacons of the vendored library. They are those of the firmware, but for the time, the interval and the
capabilities behind their headers. -/

namespace RidFirmware.Odid
open Lib Lib.Ieee Lib.Wire

/-- `append_bytes`, which keeps the buffer within its capacity. -/
def appendBytes (capacity : Nat) (buf data : Bytes) : Except PackError Bytes :=
  if capacity - buf.length < data.length then .error .enomem else .ok (buf ++ data)

/-- `struct ieee80211_mgmt` of a beacon. -/
def vendorHeader (mac : Vector UInt8 6) : Bytes :=
  putLe 2 0x0080 ++ putLe 2 0 ++ List.replicate 6 0xff ++ mac.toList ++ mac.toList ++ putLe 2 0

/-- `struct ieee80211_beacon` with the seconds and nanoseconds of the clock, if there is one. -/
def vendorFixedBody (clock : Option (Nat × Nat)) (intervalTu : UInt16) : Bytes :=
  let timestamp := match clock with
    | some (seconds, nanoseconds) => seconds * 1000000 + nanoseconds / 1000
    | none => 0
  putLe 8 timestamp ++ putLe 2 intervalTu.toNat ++ putLe 2 0x0420

section
variable {K : Type} [Field K] [LinearOrder K] [FloorRing K]

/-- An absent address, name or structure stands for the null pointer. -/
def odidWifiBuildMessagePackBeaconFrame (uasData : Option (UasData K)) (mac : Option (Vector UInt8 6))
    (ssid : ByteView) (intervalTu : UInt16) (sendCounter : UInt8) (clock : Option (Nat × Nat)) (bufSize : Nat) :
    Except PackError Bytes :=
  match uasData, mac, ssid with
  | some uas, some mac, .bytes name => build uas mac name
  | some uas, some mac, .null 0 => build uas mac []
  | _, _, _ => .error .einval
where
  build (uas : UasData K) (mac : Vector UInt8 6) (name : Bytes) : Except PackError Bytes :=
    if 32 < name.length then .error .einval
    else do
      let buf ← appendBytes bufSize [] (vendorHeader mac)
      let buf ← appendBytes bufSize buf (vendorFixedBody clock intervalTu)
      let buf ← appendBytes bufSize buf [0x00, UInt8.ofNat name.length]
      let buf ← appendBytes bufSize buf name
      let buf ← appendBytes bufSize buf [0x01, 0x01, 0x8c]
      let vendorLengthOffset := buf.length + 1
      let buf ← appendBytes bufSize buf [0xdd, 0, 0xfa, 0x0b, 0xbc, 0x0d]
      let buf ← appendBytes bufSize buf [sendCounter]
      let pack ← odidMessageBuildPack uas (bufSize - buf.length)
      let vendorPayloadLen := 3 + 1 + 1 + pack.length
      if 255 < vendorPayloadLen then .error .enomem
      else .ok ((buf ++ pack).set vendorLengthOffset (UInt8.ofNat vendorPayloadLen))

theorem appendBytes_bind {capacity : Nat} {buf data : Bytes} (inside : buf.length ≤ capacity)
    (next : Bytes → Except PackError Bytes) :
    (appendBytes capacity buf data >>= next) =
      if buf.length + data.length ≤ capacity then next (buf ++ data) else .error .enomem := by
  unfold appendBytes
  by_cases room : buf.length + data.length ≤ capacity
  · rw [if_pos room, if_neg (by omega)]
    rfl
  · rw [if_neg room, if_pos (by omega)]
    rfl

def vendorBeaconFrame (clock : Option (Nat × Nat)) (intervalTu : UInt16) (mac : Vector UInt8 6) (name : Bytes)
    (sendCounter : UInt8) (pack : Bytes) : Bytes :=
  vendorHeader mac ++ vendorFixedBody clock intervalTu ++ (gbBeaconFrame mac name sendCounter pack).drop 36

theorem vendorHeader_length (mac : Vector UInt8 6) : (vendorHeader mac).length = 24 := by
  simp [vendorHeader]

theorem vendorFixedBody_length (clock : Option (Nat × Nat)) (intervalTu : UInt16) :
    (vendorFixedBody clock intervalTu).length = 12 := by
  simp [vendorFixedBody]

theorem appendBytes_fails {capacity : Nat} {buf data : Bytes} {next : Bytes → Except PackError Bytes}
    (inside : buf.length ≤ capacity)
    (later : (buf ++ data).length ≤ capacity → next (buf ++ data) = .error .enomem) :
    (appendBytes capacity buf data >>= next) = .error .enomem := by
  rw [appendBytes_bind inside]
  split_ifs with room
  · exact later (by rw [List.length_append]; exact room)
  · rfl

theorem appendBytes_fits {capacity : Nat} {buf data : Bytes} {next : Bytes → Except PackError Bytes}
    (room : (buf ++ data).length ≤ capacity) : (appendBytes capacity buf data >>= next) = next (buf ++ data) := by
  rw [List.length_append] at room
  rw [appendBytes_bind (by omega), if_pos room]

theorem set_vendorLength (head : Bytes) (placeholder length : UInt8) (rest : Bytes) :
    (head ++ 0xdd :: placeholder :: rest).set (head.length + 1) length = head ++ 0xdd :: length :: rest := by
  rw [List.set_append_right _ _ (Nat.le_succ _)]
  show head ++ List.set _ (head.length + 1 - head.length) length = _
  rw [Nat.add_sub_cancel_left]
  rfl

theorem build_eq (clock : Option (Nat × Nat)) (intervalTu : UInt16) (sendCounter : UInt8) (bufSize : Nat)
    (uas : UasData K) (mac : Vector UInt8 6) (name : Bytes) :
    odidWifiBuildMessagePackBeaconFrame.build intervalTu sendCounter clock bufSize uas mac name =
      if 32 < name.length then .error .einval
      else if bufSize < 48 + name.length then .error .enomem
      else match odidMessageBuildPack uas (bufSize - (48 + name.length)) with
        | .error error => .error error
        | .ok pack =>
            if 250 < pack.length then .error .enomem
            else .ok (vendorBeaconFrame clock intervalTu mac name sendCounter pack) := by
  have header := vendorHeader_length mac
  have body := vendorFixedBody_length clock intervalTu
  unfold odidWifiBuildMessagePackBeaconFrame.build
  by_cases long : 32 < name.length
  · rw [if_pos long, if_pos long]
  rw [if_neg long, if_neg long]
  by_cases small : bufSize < 48 + name.length
  · rw [if_pos small]
    refine appendBytes_fails (Nat.zero_le _) fun first => appendBytes_fails first fun second =>
      appendBytes_fails second fun third => appendBytes_fails third fun fourth =>
        appendBytes_fails fourth fun fifth => ?_
    dsimp only
    refine appendBytes_fails fifth fun sixth => appendBytes_fails sixth fun seventh => ?_
    simp only [List.length_append, List.length_cons, List.length_nil] at seventh
    omega
  · rw [if_neg small]
    have length : ([] ++ vendorHeader mac ++ vendorFixedBody clock intervalTu ++
        [0x00, UInt8.ofNat name.length] ++ name ++ [0x01, 0x01, 0x8c] ++ [0xdd, 0, 0xfa, 0x0b, 0xbc, 0x0d] ++
        [sendCounter]).length = 48 + name.length := by
      simp only [List.length_append, List.length_cons, List.length_nil]
      omega
    rw [appendBytes_fits, appendBytes_fits, appendBytes_fits, appendBytes_fits, appendBytes_fits]
    dsimp only
    rw [appendBytes_fits, appendBytes_fits, length]
    · cases built : odidMessageBuildPack uas (bufSize - (48 + name.length)) with
      | error error => rfl
      | ok pack =>
        show (if 255 < 3 + 1 + 1 + pack.length then _ else _) = _
        dsimp only
        by_cases large : 250 < pack.length
        · rw [if_pos large, if_pos (by omega)]
        · rw [if_neg large, if_neg (by omega)]
          have split : [] ++ vendorHeader mac ++ vendorFixedBody clock intervalTu ++
              [0x00, UInt8.ofNat name.length] ++ name ++ [0x01, 0x01, 0x8c] ++
              [0xdd, 0, 0xfa, 0x0b, 0xbc, 0x0d] ++ [sendCounter] ++ pack =
            ([] ++ vendorHeader mac ++ vendorFixedBody clock intervalTu ++
              [0x00, UInt8.ofNat name.length] ++ name ++ [0x01, 0x01, 0x8c]) ++
                0xdd :: 0 :: ([0xfa, 0x0b, 0xbc, 0x0d, sendCounter] ++ pack) := by
            simp only [List.append_assoc, List.cons_append, List.nil_append]
          rw [split, set_vendorLength]
          unfold vendorBeaconFrame
          rw [gbBeaconFrame_elements]
          simp only [List.append_assoc, List.cons_append, List.nil_append, List.append_nil]
    all_goals
      simp only [List.length_append, List.length_cons, List.length_nil]
      omega

theorem beaconFrame_eq {ssid : ByteView} {name : Bytes} (shown : ssid.Shows name) (intervalTu : UInt16)
    (sendCounter : UInt8) (clock : Option (Nat × Nat)) (bufSize : Nat) (uas : UasData K) (mac : Vector UInt8 6) :
    odidWifiBuildMessagePackBeaconFrame (some uas) (some mac) ssid intervalTu sendCounter clock bufSize =
      odidWifiBuildMessagePackBeaconFrame.build intervalTu sendCounter clock bufSize uas mac name := by
  rcases shown with rfl | ⟨rfl, rfl⟩
  · rfl
  · rfl

theorem beaconHeader_split (mac : Vector UInt8 6) :
    beaconHeader mac = vendorHeader mac ++ [0, 0, 0, 0, 0, 0, 0, 0, 0x64, 0x00, 0x01, 0x04] := by
  have type : putLe 2 0x0080 = [0x80, 0x00] := rfl
  have zero : putLe 2 0 = [0x00, 0x00] := rfl
  have broadcast : List.replicate 6 (0xff : UInt8) = [0xff, 0xff, 0xff, 0xff, 0xff, 0xff] := rfl
  unfold beaconHeader vendorHeader
  rw [type, zero, broadcast]
  simp only [List.append_assoc, List.cons_append, List.nil_append]

/-- The frame and the one the firmware builds around the same pack. -/
structure SameBeacon (frame own : Bytes) : Prop where
  length : frame.length = own.length
  header : frame.take 24 = own.take 24
  elements : frame.drop 36 = own.drop 36

theorem sameBeacon (clock : Option (Nat × Nat)) (intervalTu : UInt16) (mac : Vector UInt8 6) (name : Bytes)
    (sendCounter : UInt8) (pack : Bytes) :
    SameBeacon (vendorBeaconFrame clock intervalTu mac name sendCounter pack)
      (gbBeaconFrame mac name sendCounter pack) where
  length := by
    have long := gbBeaconFrame_length mac name sendCounter pack
    unfold vendorBeaconFrame
    rw [List.length_append, List.length_append, vendorHeader_length, vendorFixedBody_length, List.length_drop]
    omega
  header := by
    have own : (gbBeaconFrame mac name sendCounter pack).take 24 = (beaconHeader mac).take 24 := by
      unfold gbBeaconFrame
      simp only [List.append_assoc]
      rw [List.take_append_of_le_length (by rw [beaconHeader_length]; decide)]
    unfold vendorBeaconFrame
    rw [own, beaconHeader_split, List.append_assoc, List.take_left' (vendorHeader_length mac),
      List.take_left' (vendorHeader_length mac)]
  elements := by
    unfold vendorBeaconFrame
    rw [List.drop_left' (by rw [List.length_append, vendorHeader_length, vendorFixedBody_length])]

theorem SameBeacon.validate {frame own : Bytes} (same : SameBeacon frame own) (long : 24 ≤ own.length) :
    validateOpendroneidBeacon (.bytes frame) = validateOpendroneidBeacon (.bytes own) := by
  have prefixed : ∀ bytes : Bytes, 24 ≤ bytes.length → bytes.getD 0 0 = (bytes.take 24).getD 0 0 := by
    intro bytes within
    cases bytes with
    | nil => rfl
    | cons head rest => rfl
  have first : frame.getD 0 0 = own.getD 0 0 := by
    rw [prefixed frame (by rw [same.length]; exact long), prefixed own long, same.header]
  have elements : validBeaconIes frame = validBeaconIes own := by
    show walkBeaconIes {} (frame.drop 36) = walkBeaconIes {} (own.drop 36)
    rw [same.elements]
  unfold validateOpendroneidBeacon
  dsimp only
  rw [first, elements, same.length]

theorem SameBeacon.strip {frame own : Bytes} (same : SameBeacon frame own) : stripBeacon frame = stripBeacon own := by
  unfold stripBeacon
  rw [same.elements]

end

theorem opendroneidBeacon_shown {ssid : ByteView} {name pack : Bytes} (shown : ssid.Shows name)
    (named : name.length ≤ 32) (isPack : isMessagePack pack = true) (short : pack.length ≤ 249)
    (mac : Vector UInt8 6) (counter : UInt8) :
    buildOpendroneidBeacon (some mac) ssid counter (.bytes pack) =
      (.none, gbBeaconFrame mac name counter pack) := by
  have viewed : buildOpendroneidBeacon (some mac) ssid counter (.bytes pack) =
      buildOpendroneidBeacon (some mac) (.bytes name) counter (.bytes pack) := by
    rcases shown with rfl | ⟨rfl, rfl⟩
    · rfl
    · rfl
  obtain ⟨frame, built, _⟩ := buildOpendroneidBeacon_some mac named isPack short counter
  rw [viewed, built, (buildGbBeacon_eq (buildOpendroneidBeacon_eq built)).1]

section
variable {K : Type} [Field K] [LinearOrder K] [FloorRing K]
open OdidEncoder

/-- Of a flight whose inputs pass the check of the encoder, the library builds a beacon exactly if the encoder
makes a pack and name and buffer allow it, and then it is the beacon of the firmware, but for the bytes of the
time, the interval and the capabilities: it passes the same check and is read back to the same pack. -/
theorem vendor_beacon_agrees {state : FlightState (Datum K)} {identity : TestIdentity} {options : OdidOptions K}
    (checked : validateInputs state identity options = .ok ()) {ssid : ByteView} {name : Bytes}
    (shown : ssid.Shows name) (mac : Vector UInt8 6) (intervalTu : UInt16) (sendCounter : UInt8)
    (clock : Option (Nat × Nat)) (bufSize : Nat) :
    ((∃ frame, odidWifiBuildMessagePackBeaconFrame (some (uasData state identity options)) (some mac) ssid
          intervalTu sendCounter clock bufSize = .ok frame) ↔
        name.length ≤ 32 ∧ 201 + name.length ≤ bufSize ∧
          ∃ pack, encodePack state identity options = .ok pack) ∧
      ∀ frame, odidWifiBuildMessagePackBeaconFrame (some (uasData state identity options)) (some mac) ssid
          intervalTu sendCounter clock bufSize = .ok frame →
        ∃ pack own, encodePack state identity options = .ok pack ∧
          buildOpendroneidBeacon (some mac) ssid sendCounter (.bytes pack) = (.none, own) ∧
          SameBeacon frame own ∧ validateOpendroneidBeacon (.bytes frame) = .none ∧
          stripBeacon frame = some (sendCounter, pack) := by
  have pair : ∀ pack, encodePack state identity options = .ok pack ∧ 153 ≤ bufSize - (48 + name.length) ↔
      odidMessageBuildPack (uasData state identity options) (bufSize - (48 + name.length)) = .ok pack := by
    intro pack
    have agree := encodePack_eq_build state identity options (bufSize - (48 + name.length)) pack
    rw [and_comm, agree]
    exact and_iff_right checked
  rw [beaconFrame_eq shown, build_eq]
  constructor
  · constructor
    · rintro ⟨frame, built⟩
      split_ifs at built with long small
      cases packed : odidMessageBuildPack (uasData state identity options) (bufSize - (48 + name.length)) with
      | error error =>
        rw [packed] at built
        cases built
      | ok pack =>
        obtain ⟨encoded, room⟩ := (pair pack).mpr packed
        exact ⟨Nat.not_lt.mp long, by omega, pack, encoded⟩
    · rintro ⟨named, room, pack, encoded⟩
      have size := (encodePack_isPack encoded).1
      rw [if_neg (Nat.not_lt.mpr named), if_neg (by omega), (pair pack).mp ⟨encoded, by omega⟩]
      dsimp only
      rw [if_neg (by omega)]
      exact ⟨_, rfl⟩
  · intro frame built
    split_ifs at built with long small
    cases packed : odidMessageBuildPack (uasData state identity options) (bufSize - (48 + name.length)) with
    | error error =>
      rw [packed] at built
      cases built
    | ok pack =>
      obtain ⟨encoded, room⟩ := (pair pack).mpr packed
      obtain ⟨size, isPack⟩ := encodePack_isPack encoded
      rw [packed] at built
      dsimp only at built
      rw [if_neg (by omega)] at built
      obtain rfl := Except.ok.inj built
      have named := Nat.not_lt.mp long
      have takes : BeaconArguments (some mac) ssid (.bytes pack) name pack :=
        ⟨Option.some_ne_none mac, shown, named, rfl, by omega, by omega⟩
      have same := sameBeacon clock intervalTu mac name sendCounter pack
      have made : buildOpendroneidBeacon (some mac) ssid sendCounter (.bytes pack) =
          (.none, gbBeaconFrame mac name sendCounter pack) :=
        opendroneidBeacon_shown shown named ((isMessagePack_iff pack).mpr isPack) (by omega) mac sendCounter
      refine ⟨pack, _, encoded, made, same, ?_, ?_⟩
      · rw [same.validate (by rw [gbBeaconFrame_length]; omega)]
        exact validateOpendroneidBeacon_built mac named (by unfold kMaxGbVendorPayloadSize; omega) sendCounter
      · rw [same.strip]
        exact (gbBeaconFrame_built mac named (by omega) sendCounter).strip

end

/-- A flight at the origin, in a buffer of the size of a Wi-Fi frame. -/
theorem vendor_beacon_agrees_hover :
    let state : FlightState (Datum ℚ) := ⟨.finite 0, .finite 0, .finite 0, .finite 0, .finite 0, .finite 0,
      .finite 0, false, 0⟩
    let identity : TestIdentity := ⟨ascii "RIDTESTSERIAL0000001"⟩
    ((∃ frame, odidWifiBuildMessagePackBeaconFrame (some (OdidEncoder.uasData state identity {}))
          (some (Vector.replicate 6 2)) (.bytes (ascii "RID-ODID")) 0x64 0x2a (some (12, 34567)) 512 = .ok frame) ↔
        (ascii "RID-ODID").length ≤ 32 ∧ 201 + (ascii "RID-ODID").length ≤ 512 ∧
          ∃ pack, OdidEncoder.encodePack state identity {} = .ok pack) ∧
      ∀ frame, odidWifiBuildMessagePackBeaconFrame (some (OdidEncoder.uasData state identity {}))
          (some (Vector.replicate 6 2)) (.bytes (ascii "RID-ODID")) 0x64 0x2a (some (12, 34567)) 512 = .ok frame →
        ∃ pack own, OdidEncoder.encodePack state identity {} = .ok pack ∧
          buildOpendroneidBeacon (some (Vector.replicate 6 2)) (.bytes (ascii "RID-ODID")) 0x2a (.bytes pack) =
            (.none, own) ∧
          SameBeacon frame own ∧ validateOpendroneidBeacon (.bytes frame) = .none ∧
          stripBeacon frame = some (0x2a, pack) :=
  vendor_beacon_agrees (by rfl) (.inl rfl) (Vector.replicate 6 2) 0x64 0x2a (some (12, 34567)) 512

end RidFirmware.Odid
