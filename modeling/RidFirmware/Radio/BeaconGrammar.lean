import Mathlib.Data.List.GetD
import RidFirmware.Lib.Elements
import RidFirmware.Radio.BeaconCheck

/-! The beacon check with its cursor and its reads, and the frames it accepts: those whose body is made of
elements, with a name, rates and a vendor element among them. -/

namespace RidFirmware
open Lib

/-- The loop of `valid_beacon_ies` with the cursor of the source. A read outside of the frame has no
result. -/
def scanBeaconIes (frame : Bytes) (seen : BeaconElements) (offset : Nat) : Option Bool :=
  if offset < frame.length then
    if frame.length < offset + 2 then some false
    else
      match frame[offset]?, frame[offset + 1]? with
      | some id, some length =>
          if frame.length < offset + 2 + length.toNat then some false
          else scanBeaconIes frame (seen.see id length.toNat) (offset + 2 + length.toNat)
      | _, _ => none
  else some (decide (offset = frame.length) && seen.ssid && seen.rates && seen.vendor)
termination_by frame.length - offset

/-- `validate_opendroneid_beacon` with its reads. -/
def scanOpendroneidBeacon (frame : ByteView) : Option WifiFrameError :=
  match frame with
  | .null _ => some .invalidFrame
  | .bytes content =>
      if content.length < kBeaconHeaderSize + kBeaconFixedBodySize + 2 ∨ kMaxWifiFrameSize < content.length
      then some .invalidFrame
      else
        match content[0]? with
        | none => none
        | some type =>
            if type &&& 0xfc ≠ 0x80 then some .invalidFrame
            else (scanBeaconIes content {} (kBeaconHeaderSize + kBeaconFixedBodySize)).map fun valid =>
              if valid then .none else .invalidFrame

/-- From a cursor inside of the frame every read is inside, and the loop sees the elements that are
left. -/
theorem scanBeaconIes_eq (frame : Bytes) (seen : BeaconElements) {offset : Nat}
    (inside : offset ≤ frame.length) :
    scanBeaconIes frame seen offset = some (walkBeaconIes seen (frame.drop offset)) := by
  induction left : frame.length - offset using Nat.strongRecOn generalizing seen offset with
  | ind left ih =>
    rw [scanBeaconIes]
    by_cases more : offset < frame.length
    · rw [if_pos more, List.drop_eq_getElem_cons more]
      by_cases cut : frame.length < offset + 2
      · have last : frame.drop (offset + 1) = [] := List.drop_eq_nil_of_le (by omega)
        rw [if_pos cut, last, walkBeaconIes]
      · have second : offset + 1 < frame.length := by omega
        rw [if_neg cut, List.getElem?_eq_getElem more, List.getElem?_eq_getElem second,
          List.drop_eq_getElem_cons second, walkBeaconIes, List.length_drop, List.drop_drop]
        dsimp only
        by_cases long : frame.length < offset + 2 + frame[offset + 1].toNat
        · rw [if_pos long, if_pos (by omega)]
        · rw [if_neg long, if_neg (by omega)]
          exact ih _ (by omega) _ (Nat.not_lt.mp long) rfl
    · have done : offset = frame.length := by omega
      rw [if_neg more, done, List.drop_length, walkBeaconIes_nil, decide_eq_true rfl, Bool.true_and]

theorem scanOpendroneidBeacon_eq (frame : ByteView) :
    scanOpendroneidBeacon frame = some (validateOpendroneidBeacon frame) := by
  cases frame with
  | null size => rfl
  | bytes content =>
    unfold scanOpendroneidBeacon validateOpendroneidBeacon validBeaconIes
    dsimp only
    by_cases size : content.length < kBeaconHeaderSize + kBeaconFixedBodySize + 2 ∨
        kMaxWifiFrameSize < content.length
    · rw [if_pos size, if_pos (by omega)]
    · have long : kBeaconHeaderSize + kBeaconFixedBodySize ≤ content.length := by omega
      have first : 0 < content.length := Nat.lt_of_lt_of_le (by decide) long
      have read : content.getD 0 0 = content[0] := by
        rw [List.getD_eq_getElem?_getD, List.getElem?_eq_getElem first, Option.getD_some]
      rw [if_neg size, List.getElem?_eq_getElem first, read, scanBeaconIes_eq content {} long]
      dsimp only
      by_cases type : content[0] &&& 0xfc ≠ 0x80
      · rw [if_pos type, if_pos (.inr (.inr type))]
      · rw [if_neg type, if_neg (by tauto), Option.map_some]

/-! The grammar. -/

def IsSsid (element : Element) : Prop := element.id = 0 ∧ element.value.length ≤ 32

def IsRates (element : Element) : Prop :=
  element.id = 1 ∧ 1 ≤ element.value.length ∧ element.value.length ≤ 8

def IsVendor (element : Element) : Prop := element.id = 0xdd ∧ 4 ≤ element.value.length

/-- A body made of elements, with one of each kind that a beacon needs. -/
def BeaconBody (body : Bytes) : Prop :=
  ∃ elements : List Element, body = elements.flatMap Element.encode ∧
    (∃ element ∈ elements, IsSsid element) ∧ (∃ element ∈ elements, IsRates element) ∧
    ∃ element ∈ elements, IsVendor element

theorem walkBeaconIes_elements (seen : BeaconElements) (elements : List Element) :
    walkBeaconIes seen (elements.flatMap Element.encode) = true ↔
      (seen.ssid = true ∨ ∃ element ∈ elements, IsSsid element) ∧
      (seen.rates = true ∨ ∃ element ∈ elements, IsRates element) ∧
      (seen.vendor = true ∨ ∃ element ∈ elements, IsVendor element) := by
  induction elements generalizing seen with
  | nil =>
    rw [List.flatMap_nil, walkBeaconIes_nil]
    simp [and_assoc]
  | cons element later ih =>
    rw [List.flatMap_cons, Element.encode, List.cons_append, List.cons_append,
      walkBeaconIes_element _ _ element.length_byte, ih]
    simp only [BeaconElements.see, Bool.or_eq_true, decide_eq_true_eq, List.exists_mem_cons_iff, or_assoc,
      IsSsid, IsRates, IsVendor, Nat.lt_iff_add_one_le, Nat.zero_add]

theorem walkBeaconIes_split (seen : BeaconElements) (body : Bytes)
    (accepted : walkBeaconIes seen body = true) : ∃ elements, Element.split body = some elements := by
  induction seen, body using walkBeaconIes.induct with
  | case1 seen => exact ⟨[], Element.split_nil⟩
  | case2 seen last =>
    rw [walkBeaconIes] at accepted
    cases accepted
  | case3 seen id length rest cut =>
    rw [walkBeaconIes, if_pos cut] at accepted
    cases accepted
  | case4 seen id length rest whole ih =>
    rw [walkBeaconIes, if_neg whole] at accepted
    obtain ⟨later, found⟩ := ih accepted
    rw [Element.split, dif_pos (Nat.not_lt.mp whole), found]
    exact ⟨_, rfl⟩

theorem validBeaconIes_iff (frame : Bytes) :
    validBeaconIes frame = true ↔ BeaconBody (frame.drop (kBeaconHeaderSize + kBeaconFixedBodySize)) := by
  unfold validBeaconIes BeaconBody
  generalize frame.drop (kBeaconHeaderSize + kBeaconFixedBodySize) = body
  constructor
  · intro accepted
    obtain ⟨elements, found⟩ := walkBeaconIes_split {} body accepted
    have made := Element.split_eq_some.mp found
    rw [made, walkBeaconIes_elements] at accepted
    simp only [Bool.false_eq_true, false_or] at accepted
    exact ⟨elements, made, accepted⟩
  · rintro ⟨elements, rfl, kinds⟩
    rw [walkBeaconIes_elements]
    simpa using kinds

/-- The beacon check ends without a read outside of the frame, and accepts exactly the frames of 38 to 512
bytes of the type of a beacon whose body is made of elements, with a name, rates and a vendor element. -/
theorem beacon_grammar (frame : Bytes) :
    (∃ answer, scanOpendroneidBeacon (.bytes frame) = some answer) ∧
      (scanOpendroneidBeacon (.bytes frame) = some .none ↔
        (38 ≤ frame.length ∧ frame.length ≤ 512) ∧ frame.getD 0 0 &&& 0xfc = 0x80 ∧
          BeaconBody (frame.drop 36)) := by
  rw [scanOpendroneidBeacon_eq]
  refine ⟨⟨_, rfl⟩, ?_⟩
  have body : validBeaconIes frame = true ↔ BeaconBody (frame.drop 36) := validBeaconIes_iff frame
  have least : kBeaconHeaderSize + kBeaconFixedBodySize + 2 = 38 := rfl
  have most : kMaxWifiFrameSize = 512 := rfl
  unfold validateOpendroneidBeacon
  dsimp only
  rw [← body, Option.some.injEq, least, most]
  by_cases refused : frame.length < 38 ∨ 512 < frame.length ∨ frame.getD 0 0 &&& 0xfc ≠ 0x80
  · rw [if_pos refused]
    refine iff_of_false WifiFrameError.noConfusion fun parts => ?_
    obtain ⟨size, type, _⟩ := parts
    rcases refused with short | long | other
    · omega
    · omega
    · exact other type
  · rw [if_neg refused]
    rw [not_or, not_or, not_not] at refused
    obtain ⟨short, long, type⟩ := refused
    by_cases valid : validBeaconIes frame = true
    · rw [if_pos valid]
      exact iff_of_true rfl ⟨by omega, type, valid⟩
    · rw [if_neg valid]
      exact iff_of_false WifiFrameError.noConfusion fun parts => valid parts.2.2

/-! What `build_gb_beacon` makes. -/

/-- A view of some content; the null pointer with no bytes shows the empty one. -/
def ByteView.Shows (view : ByteView) (content : Bytes) : Prop :=
  view = .bytes content ∨ content = [] ∧ view = .null 0

/-- Arguments of `build_gb_beacon` that it takes. -/
structure BeaconArguments (address : Option (Vector UInt8 6)) (ssid gbPayload : ByteView)
    (name payload : Bytes) : Prop where
  addressed : address ≠ none
  shown : ssid.Shows name
  named : name.length ≤ 32
  given : gbPayload = .bytes payload
  filled : 1 ≤ payload.length
  short : payload.length ≤ 249

/-- A beacon that parses into what it was built from. -/
structure BuiltBeacon (name : Bytes) (counter : UInt8) (payload : Bytes)
    (built : WifiFrameError × Bytes) : Prop where
  succeeds : built.1 = .none
  fits : built.2.length ≤ 512
  nameLength : (built.2.getD 37 0).toNat = name.length
  vendorLength : (built.2.getD (42 + name.length) 0).toNat = 5 + payload.length
  accepted : scanOpendroneidBeacon (.bytes built.2) = some .none
  elements : (Element.split (built.2.drop 36)).map (·.map fun element => (element.id, element.value)) =
    some [(0x00, name), (0x01, [0x8c]), (0xdd, [0xfa, 0x0b, 0xbc, 0x0d, counter] ++ payload)]

theorem gbBeaconFrame_built (address : Vector UInt8 6) {name payload : Bytes} (named : name.length ≤ 32)
    (short : payload.length ≤ 249) (counter : UInt8) :
    BuiltBeacon name counter payload (.none, gbBeaconFrame address name counter payload) := by
  have length := gbBeaconFrame_length address name counter payload
  have elements := gbBeaconFrame_elements address name counter payload
  obtain ⟨nameLength, vendorLength⟩ := gbBeaconFrame_announced named short counter
  -- a byte behind the header is one of the elements
  have body : ∀ offset, (gbBeaconFrame address name counter payload).getD (36 + offset) 0 =
      ((gbBeaconFrame address name counter payload).drop 36).getD offset 0 := by
    intro offset
    rw [List.getD_eq_getElem?_getD, List.getD_eq_getElem?_getD, List.getElem?_drop]
  constructor
  · rfl
  · dsimp only
    omega
  · rw [← nameLength]
    dsimp only
    rw [body 1, elements]
    rfl
  · have place : 42 + name.length = 36 + (name.length + 4 + 2) := by omega
    have vendor : 5 + payload.length = (UInt8.ofNat (5 + payload.length)).toNat := by
      rw [vendorLength, List.length_append]
      rfl
    rw [vendor]
    dsimp only
    rw [place, body, elements, List.getD_cons_succ, List.getD_cons_succ,
      List.getD_append_right _ _ _ _ (Nat.le_add_right _ _), Nat.add_sub_cancel_left]
    rfl
  · rw [scanOpendroneidBeacon_eq, validateOpendroneidBeacon_built address named short counter]
  · dsimp only
    rw [elements, Element.split_cons nameLength,
      Element.split_cons (rfl : (0x01 : UInt8).toNat = ([0x8c] : Bytes).length),
      Element.split_cons vendorLength, Element.split_nil]
    rfl

theorem ByteView.Shows.unique {view : ByteView} {first second : Bytes} (shows : view.Shows first)
    (also : view.Shows second) : first = second := by
  rcases shows with rfl | ⟨rfl, rfl⟩
  · rcases also with same | ⟨_, missing⟩
    · exact ByteView.bytes.inj same
    · cases missing
  · rcases also with missing | ⟨rfl, _⟩
    · cases missing
    · rfl

theorem buildGbBeacon_build_cases (address : Vector UInt8 6) (name : Bytes) (counter : UInt8)
    (payload : Bytes) :
    let built := buildGbBeacon.build counter address name payload
    let sized := name.length ≤ 32 ∧ 1 ≤ payload.length ∧ payload.length ≤ 249
    sized ∧ built = (.none, gbBeaconFrame address name counter payload) ∨
      ¬sized ∧ built.1 ≠ .none ∧ built.2 = [] := by
  unfold buildGbBeacon.build kMaxGbVendorPayloadSize kMaxWifiFrameSize kBeaconHeaderSize
    kBeaconFixedBodySize
  dsimp only
  split_ifs with empty large wide
  · exact .inr ⟨fun sized => by omega, nofun, rfl⟩
  · exact .inr ⟨fun sized => by omega, nofun, rfl⟩
  · omega
  · exact .inl ⟨by omega, rfl⟩

theorem buildGbBeacon_cases (address : Option (Vector UInt8 6)) (ssid : ByteView) (counter : UInt8)
    (gbPayload : ByteView) :
    let built := buildGbBeacon address ssid counter gbPayload
    (∃ own name payload, BeaconArguments address ssid gbPayload name payload ∧
        built = (.none, gbBeaconFrame own name counter payload)) ∨
      ((∀ name payload, ¬BeaconArguments address ssid gbPayload name payload) ∧ built.1 ≠ .none ∧
        built.2 = []) := by
  have shown : ∀ own name payload, ssid.Shows name → address = some own → gbPayload = .bytes payload →
      buildGbBeacon address ssid counter gbPayload = buildGbBeacon.build counter own name payload := by
    rintro own name payload (rfl | ⟨rfl, rfl⟩) rfl rfl
    · rfl
    · rfl
  by_cases whole : ∃ own name payload,
      ssid.Shows name ∧ address = some own ∧ gbPayload = .bytes payload
  · obtain ⟨own, name, payload, shows, given, bytes⟩ := whole
    dsimp only
    rw [shown own name payload shows given bytes]
    rcases buildGbBeacon_build_cases own name counter payload with ⟨sized, built⟩ | ⟨outside, failed⟩
    · refine .inl ⟨own, name, payload, ⟨?_, shows, sized.1, bytes, sized.2.1, sized.2.2⟩, built⟩
      rw [given]
      exact Option.some_ne_none own
    · refine .inr ⟨fun other others takes => outside ?_, failed⟩
      obtain rfl := shows.unique takes.shown
      obtain rfl := ByteView.bytes.inj (bytes.symm.trans takes.given)
      exact ⟨takes.named, takes.filled, takes.short⟩
  · have refused : buildGbBeacon address ssid counter gbPayload = (.invalidArgument, []) := by
      unfold buildGbBeacon
      split
      · exact absurd ⟨_, _, _, .inl rfl, rfl, rfl⟩ whole
      · exact absurd ⟨_, _, _, .inr ⟨rfl, rfl⟩, rfl, rfl⟩ whole
      · rfl
    dsimp only
    rw [refused]
    refine .inr ⟨fun name payload takes => whole ?_, nofun, rfl⟩
    obtain ⟨own, given⟩ := Option.ne_none_iff_exists'.mp takes.addressed
    exact ⟨own, name, payload, takes.shown, given, takes.given⟩

/-- Beacons parse into what they are built from: whatever arguments `build_gb_beacon` takes, its frame fits,
keeps its length bytes, passes the check and has exactly the name, one rates element and the vendor element
with the counter and the payload. For all other arguments it reports an error and leaves no frame. -/
theorem beacon_parses (address : Option (Vector UInt8 6)) (ssid : ByteView) (counter : UInt8)
    (gbPayload : ByteView) :
    let built := buildGbBeacon address ssid counter gbPayload
    (∀ name payload, BeaconArguments address ssid gbPayload name payload →
        BuiltBeacon name counter payload built) ∧
      ((∀ name payload, ¬BeaconArguments address ssid gbPayload name payload) →
        built.1 ≠ .none ∧ built.2 = []) := by
  rcases buildGbBeacon_cases address ssid counter gbPayload with ⟨own, name, payload, takes, built⟩ |
    ⟨refuses, failed⟩
  · dsimp only
    rw [built]
    refine ⟨fun other others also => ?_, fun none => absurd takes (none name payload)⟩
    obtain rfl := takes.shown.unique also.shown
    obtain rfl := ByteView.bytes.inj (takes.given.symm.trans also.given)
    exact gbBeaconFrame_built own takes.named takes.short counter
  · exact ⟨fun name payload takes => absurd takes (refuses name payload), fun _ => failed⟩

end RidFirmware
