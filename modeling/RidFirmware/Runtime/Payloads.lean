import RidFirmware.Radio.BeaconCheck
import RidFirmware.Radio.Overload
import RidFirmware.Runtime.SinkRule

/-! What the runtime hands to its sink fits the transport of its aircraft: the radios have no reason to
refuse it except a full queue, or that they shut down. -/

namespace RidFirmware
open Lib Lib.Ieee

/-- One Service Data element of Open Drone ID and nothing after it. -/
structure ServiceDataAd (frame : Bytes) : Prop where
  length : (frame.getD 0 0).toNat = frame.length - 1
  service : ∃ counter messages, frame = frame.getD 0 0 :: 0x16 :: 0xfa :: 0xff :: counter :: messages

/-- In every state the BLE transport takes the payload, unless its queue is full or it shuts down. -/
def BleAdmits (payload : ScheduledPayload) : Prop :=
  ∀ transport : BleTransport,
    (transport.submit payload).result = .none ∨
    (transport.submit payload).result = .queueFull ∧ transport.pending.count = kMaxBlePendingPayloads ∨
    (transport.submit payload).result = .backendError ∧
      (transport.shuttingDown = true ∨ transport.shutDown = true)

/-- In every state the coordinator takes the payload, unless the queue of its band is full. -/
def WifiAdmits (payload : ScheduledPayload) : Prop :=
  ∀ coordinator : RadioCoordinator,
    (coordinator.submit payload).result = ESP_OK ∨
    (coordinator.submit payload).result = ESP_ERR_NO_MEM ∧
      coordinator.pendingCount (RadioCoordinator.bandIndex payload.transport) = 16

/-- A payload that fits the transport of an aircraft. -/
structure Deliverable (aircraft : AircraftConfig) (payload : ScheduledPayload) : Prop where
  transport : payload.transport = aircraft.transport
  size : 1 ≤ payload.size ∧ payload.size ≤ aircraft.transport.maximumPayload
  ble : aircraft.transport = .ble4 ∨ aircraft.transport = .ble5 →
    ServiceDataAd payload.frame ∧ BleAdmits payload
  wifi : aircraft.transport = .wifi24 ∨ aircraft.transport = .wifi58 →
    validateOpendroneidBeacon (.bytes payload.frame) = .none ∧ WifiAdmits payload

theorem BoundedQueue.count_of_push_none {Item : Type*} {capacity : Nat}
    {queue : BoundedQueue Item capacity} {item : Item} (full : queue.push item = none) :
    queue.count = capacity := by
  have most : queue.count ≤ capacity := queue.bounded
  unfold BoundedQueue.push at full
  split_ifs at full with room
  omega

theorem bleAdmits_of_size {payload : ScheduledPayload}
    (isBle : payload.transport = .ble4 ∨ payload.transport = .ble5)
    (size : 0 < payload.size ∧ payload.size ≤ BleTransport.maximumSize payload.transport) :
    BleAdmits payload := by
  intro transport
  by_cases down : transport.shuttingDown = true ∨ transport.shutDown = true
  · refine .inr (.inr ⟨?_, down⟩)
    unfold BleTransport.submit
    rw [if_pos down]
  · rw [not_or, Bool.not_eq_true, Bool.not_eq_true] at down
    rw [BleTransport.submit_fits down.1 down.2 isBle size]
    cases pushed : transport.pending.push payload with
    | none => exact .inr (.inl ⟨rfl, BoundedQueue.count_of_push_none pushed⟩)
    | some queue => exact .inl rfl

theorem wifiAdmits_of_size {payload : ScheduledPayload}
    (isWifi : payload.transport = .wifi24 ∨ payload.transport = .wifi58)
    (size : 0 < payload.size ∧ payload.size ≤ kMaxScheduledPayloadSize) : WifiAdmits payload := by
  intro coordinator
  rw [RadioCoordinator.submit_fits isWifi size]
  cases pushed : (coordinator.pending (RadioCoordinator.bandIndex payload.transport)).push payload with
  | none => exact .inr ⟨rfl, BoundedQueue.count_of_push_none pushed⟩
  | some queue => exact .inl rfl

/-! The framers. -/

theorem serviceData_eq {counter : UInt8} {encoded frame : Bytes}
    (framed : serviceData counter encoded = some frame) :
    frame = [UInt8.ofNat (encoded.length + 4), 0x16, 0xfa, 0xff, counter] ++ encoded := by
  unfold serviceData at framed
  split at framed
  · rename_i other built
    rw [← Option.some.inj framed]
    exact buildOpendroneidServiceData_eq built
  · cases framed

def AircraftConfig.beacon (aircraft : AircraftConfig) (counter : UInt8) (encoded : Bytes) : Bytes :=
  gbBeaconFrame (addressFor aircraft.identity aircraft.instanceIndex) aircraft.identity.value counter
    encoded

theorem gbBeacon_eq {aircraft : AircraftConfig} {counter : UInt8} {encoded frame : Bytes}
    (framed : gbBeacon aircraft counter encoded = some frame) :
    frame = aircraft.beacon counter encoded ∧ aircraft.identity.value.length ≤ 32 ∧
      encoded.length ≤ kMaxGbVendorPayloadSize := by
  unfold gbBeacon at framed
  split at framed
  · rename_i other built
    rw [← Option.some.inj framed]
    obtain ⟨same, named, _, short⟩ := buildGbBeacon_eq built
    exact ⟨same, named, short⟩
  · cases framed

theorem opendroneidBeacon_eq {aircraft : AircraftConfig} {counter : UInt8} {encoded frame : Bytes}
    (framed : opendroneidBeacon aircraft counter encoded = some frame) :
    frame = aircraft.beacon counter encoded ∧ aircraft.identity.value.length ≤ 32 ∧
      encoded.length ≤ kMaxGbVendorPayloadSize := by
  unfold opendroneidBeacon at framed
  split at framed
  · rename_i other built
    rw [← Option.some.inj framed]
    obtain ⟨same, named, _, short⟩ := buildGbBeacon_eq (buildOpendroneidBeacon_eq built)
    exact ⟨same, named, short⟩
  · cases framed

theorem serviceDataAd_of_eq {counter : UInt8} {encoded frame : Bytes} (short : encoded.length ≤ 153)
    (framed : frame = [UInt8.ofNat (encoded.length + 4), 0x16, 0xfa, 0xff, counter] ++ encoded) :
    ServiceDataAd frame ∧ frame.length = encoded.length + 5 := by
  have length : frame.length = encoded.length + 5 := by
    rw [framed, List.length_append, Nat.add_comm]
    rfl
  have first : frame.getD 0 0 = UInt8.ofNat (encoded.length + 4) := by
    rw [framed]
    rfl
  refine ⟨⟨?_, counter, encoded, ?_⟩, length⟩
  · rw [first, length, UInt8.toNat_ofNat', Nat.mod_eq_of_lt (by omega)]
    rfl
  · rw [first, framed]
    rfl

/-! The payloads. -/

theorem deliverable_ble {aircraft : AircraftConfig} {header : ScheduledPayload} {counter : UInt8}
    {encoded frame : Bytes} (addressed : header.transport = aircraft.transport)
    (isBle : aircraft.transport = .ble4 ∨ aircraft.transport = .ble5)
    (framed : serviceData counter encoded = some frame) (short : encoded.length ≤ 153)
    (fits : encoded.length + 5 ≤ aircraft.transport.maximumPayload) :
    Deliverable aircraft (header.withContent frame) := by
  obtain ⟨isAd, length⟩ := serviceDataAd_of_eq short (serviceData_eq framed)
  have sent : (header.withContent frame).size = frame.length := rfl
  have sized : 1 ≤ frame.length ∧ frame.length ≤ aircraft.transport.maximumPayload := by omega
  have small : frame.length ≤ kMaxScheduledPayloadSize :=
    sized.2.trans (maximumPayload_le aircraft.transport)
  have addressed : (header.withContent frame).transport = aircraft.transport := addressed
  constructor
  · exact addressed
  · exact sized
  · intro _
    refine ⟨?_, bleAdmits_of_size ?_ ?_⟩
    · rw [ScheduledPayload.withContent_frame header small]
      exact isAd
    · rw [addressed]
      exact isBle
    · rw [addressed, sent]
      rcases isBle with legacy | extended
      · rw [legacy] at sized ⊢
        exact sized
      · rw [extended] at sized ⊢
        exact sized
  · intro isWifi
    rcases isBle with legacy | extended
    · simp [legacy] at isWifi
    · simp [extended] at isWifi

theorem deliverable_wifi {aircraft : AircraftConfig} {header : ScheduledPayload} {counter : UInt8}
    {encoded frame : Bytes} (addressed : header.transport = aircraft.transport)
    (isWifi : aircraft.transport = .wifi24 ∨ aircraft.transport = .wifi58)
    (framed : frame = aircraft.beacon counter encoded ∧ aircraft.identity.value.length ≤ 32 ∧
      encoded.length ≤ kMaxGbVendorPayloadSize) : Deliverable aircraft (header.withContent frame) := by
  obtain ⟨same, named, short⟩ := framed
  have length : frame.length = 48 + aircraft.identity.value.length + encoded.length := by
    rw [same]
    exact gbBeaconFrame_length _ _ _ _
  have sent : (header.withContent frame).size = frame.length := rfl
  have most : aircraft.transport.maximumPayload = kMaxScheduledPayloadSize := by
    rcases isWifi with low | high
    · rw [low]
      rfl
    · rw [high]
      rfl
  have sized : 1 ≤ frame.length ∧ frame.length ≤ kMaxScheduledPayloadSize := by
    unfold kMaxGbVendorPayloadSize at short
    unfold kMaxScheduledPayloadSize
    omega
  have addressed : (header.withContent frame).transport = aircraft.transport := addressed
  constructor
  · exact addressed
  · rw [most]
    exact sized
  · intro isBle
    rcases isWifi with low | high
    · simp [low] at isBle
    · simp [high] at isBle
  · intro _
    refine ⟨?_, wifiAdmits_of_size ?_ sized⟩
    · rw [ScheduledPayload.withContent_frame header sized.2, same]
      exact validateOpendroneidBeacon_built _ named short counter
    · rw [addressed]
      exact isWifi

/-- What an aircraft of an accepted configuration needs to know about itself. -/
structure Dispatched (aircraft : AircraftConfig) : Prop where
  single : aircraft.packed = false →
    aircraft.protocol = .openDroneId ∧ aircraft.transport = .ble4 ∨
      aircraft.protocol ≠ .openDroneId ∧ (aircraft.transport = .wifi24 ∨ aircraft.transport = .wifi58)
  pack : aircraft.packed = true →
    aircraft.transport = .ble5 ∨ aircraft.transport = .wifi24 ∨ aircraft.transport = .wifi58

theorem AircraftConfig.packed_iff (aircraft : AircraftConfig) :
    aircraft.packed = true ↔ aircraft.protocol = .openDroneId ∧
      (aircraft.transport = .ble5 ∨ aircraft.transport = .wifi24 ∨ aircraft.transport = .wifi58) := by
  unfold packed wifi
  rw [decide_eq_true_eq, decide_eq_true_eq, or_comm]

theorem Expanded.dispatched {sha256 : Sha256} {config : SystemConfig} {device : DeviceId}
    {aircraft : AircraftConfig} {group : GroupConfig}
    (expanded : Expanded sha256 config device aircraft group) (accepted : Accepted config) :
    Dispatched aircraft := by
  have supported := supported_cases
    (accepted.groups group (List.mem_of_getElem? expanded.found)).supported
  rw [← expanded.protocol, ← expanded.transport] at supported
  constructor
  · intro single
    have apart : ¬(aircraft.protocol = .openDroneId ∧
        (aircraft.transport = .ble5 ∨ aircraft.transport = .wifi24 ∨ aircraft.transport = .wifi58)) := by
      rw [← aircraft.packed_iff, single]
      exact Bool.false_ne_true
    rcases supported with ⟨odid, legacy | extended⟩ | ⟨known, isWifi⟩
    · exact .inl ⟨odid, legacy⟩
    · exact absurd ⟨odid, .inl extended⟩ apart
    · exact .inr ⟨fun odid => apart ⟨odid, .inr isWifi⟩, isWifi⟩
  · intro packed
    exact (aircraft.packed_iff.mp packed).2

section
variable {K : Type} [Field K] [LinearOrder K] [FloorRing K]
variable {Engine Sink : Type} {env : RuntimeEnv (Datum K) Engine Sink}

theorem of_toOption {ε α : Type} {result : Except ε α} {value : α}
    (found : result.toOption = some value) : result = .ok value := by
  cases result with
  | error error => cases found
  | ok other => rw [Option.some.inj found]

theorem deliverable_message {aircraft : AircraftConfig} (dispatched : Dispatched aircraft)
    (single : aircraft.packed = false) {header : ScheduledPayload}
    (addressed : header.transport = aircraft.transport) {kind : MessageKind}
    {site : GeoPoint Float64Bits} {state : FlightState (Datum K)} {counter : UInt8}
    {encoded frame : Bytes}
    (encodes : encodeMessage env.withEncoders aircraft kind site state = some encoded)
    (framed : frameMessage aircraft counter encoded = some frame) :
    Deliverable aircraft (header.withContent frame) := by
  unfold encodeMessage at encodes
  unfold frameMessage at framed
  rcases dispatched.single single with ⟨odid, legacy⟩ | ⟨other, isWifi⟩
  · rw [if_pos odid] at encodes framed
    have length : encoded.length = 25 := (OdidEncoder.encode_isMessage (of_toOption encodes)).length
    refine deliverable_ble addressed (.inl legacy) framed (by omega) ?_
    rw [legacy, length]
    decide
  · rw [if_neg other] at framed
    exact deliverable_wifi addressed isWifi (gbBeacon_eq framed)

theorem deliverable_pack {aircraft : AircraftConfig} (dispatched : Dispatched aircraft)
    (packed : aircraft.packed = true) {header : ScheduledPayload}
    (addressed : header.transport = aircraft.transport) {site : GeoPoint Float64Bits}
    {state : FlightState (Datum K)} {counter : UInt8} {encoded frame : Bytes}
    (encodes : env.withEncoders.encodePack site state aircraft.identity = some encoded)
    (framed : framePack aircraft counter encoded = some frame) :
    Deliverable aircraft (header.withContent frame) := by
  unfold framePack at framed
  rcases dispatched.pack packed with extended | isWifi
  · have wired : aircraft.wifi = false := by
      unfold AircraftConfig.wifi
      rw [extended]
      rfl
    rw [wired, if_neg Bool.false_ne_true] at framed
    obtain ⟨messages, rfl, length⟩ := OdidEncoder.encodePack_shape (of_toOption encodes)
    have size := (isMessagePack_six length).1
    refine deliverable_ble addressed (.inr extended) framed size.le ?_
    rw [extended, size]
    decide
  · have wired : aircraft.wifi = true := decide_eq_true isWifi
    rw [wired, if_pos rfl] at framed
    exact deliverable_wifi addressed isWifi (opendroneidBeacon_eq framed)

/-- Every payload of a tick is that of one of the aircraft, and fits it. -/
def AllDeliverable (aircraft : List AircraftConfig) (events : List RuntimeEvent) : Prop :=
  ∀ payload taken, .submitted payload taken ∈ events →
    ∃ item, aircraft[payload.aircraftIndex]? = some item ∧ Deliverable item payload

theorem index_fits {aircraft : List AircraftConfig} (few : aircraft.length ≤ 2 ^ 16)
    {item : AircraftConfig × Nat} (member : item ∈ aircraft.zipIdx) :
    aircraft[item.2 % 2 ^ 16]? = some item.1 := by
  have found := List.mem_zipIdx_iff_getElem?.mp member
  have inside := (List.getElem?_eq_some_iff.mp found).1
  rw [Nat.mod_eq_of_lt (by omega)]
  exact found

theorem deliverable_rule {aircraft : List AircraftConfig} (few : aircraft.length ≤ 2 ^ 16)
    (dispatched : ∀ item ∈ aircraft, Dispatched item) (nowMs : Nat) :
    TickRule env.withEncoders nowMs aircraft.zipIdx fun progress =>
      AllDeliverable aircraft progress.events := by
  constructor
  · exact fun _ _ before => before
  · exact fun _ _ _ _ before => before
  · intro progress state kind item member single before payload taken seen
    rcases Progress.send_submitted seen with old | new
    · exact before payload taken old
    · obtain ⟨encoded, frame, encodes, framed, _, same⟩ := new
      have isItem := index_fits few member
      rw [same]
      exact ⟨item.1, isItem, deliverable_message (dispatched item.1 (List.mem_of_getElem? isItem)) single
        rfl encodes framed⟩
  · intro progress state item member packed before payload taken seen
    rcases Progress.send_submitted seen with old | new
    · exact before payload taken old
    · obtain ⟨encoded, frame, encodes, framed, _, same⟩ := new
      have isItem := index_fits few member
      rw [same]
      exact ⟨item.1, isItem, deliverable_pack (dispatched item.1 (List.mem_of_getElem? isItem)) packed
        rfl encodes framed⟩

end

/-! Over runs. -/

section
variable {Number Engine Sink : Type} {env : RuntimeEnv Number Engine Sink}

/-- What runs is an expanded configuration. -/
structure Deployed (sha256 : Sha256) (device : DeviceId) (runtime : Runtime Engine) : Prop where
  owner : runtime.device = device
  expanded : ∀ fleet, runtime.fleet = some fleet →
    validateAndExpand sha256 fleet.config device = .ok fleet.aircraft

theorem Deployed.apply {device : DeviceId} {runtime : Runtime Engine}
    (deployed : Deployed env.sha256 device runtime) (config : SystemConfig) (nowMs : Nat) :
    Deployed env.sha256 device (runtime.apply env config nowMs).2 := by
  rcases apply_cases env runtime config nowMs with refused | started
  · rw [refused.2]
    exact deployed
  · obtain ⟨fleet, started, same⟩ := started
    rw [same]
    refine ⟨deployed.owner, ?_⟩
    intro other running
    rw [← Option.some.inj running, ← deployed.owner, started.config]
    exact started.expanded

theorem Deployed.tick {device : DeviceId} {runtime : Runtime Engine}
    (deployed : Deployed env.sha256 device runtime) (sink : Sink) (nowMs : Nat) :
    Deployed env.sha256 device (runtime.tick env sink nowMs).2.1 := by
  rcases tick_cases env runtime sink nowMs with refused | ticked
  · rw [refused]
    exact deployed
  · obtain ⟨fleet, running, _, same⟩ := ticked
    rw [same]
    refine ⟨deployed.owner, ?_⟩
    intro later isLater
    have plan := @tick_ticked _ _ _ env fleet sink nowMs
    rw [← Option.some.inj isLater, plan.config, plan.members]
    exact deployed.expanded fleet running

theorem run_deployed (device : DeviceId) (sink : Sink) (inputs : List RuntimeInput) :
    Deployed env.sha256 device ((runtimeMachine env).run ({ device }, sink) inputs).1.1 := by
  apply (runtimeMachine env).run_invariant fun state _ => Deployed env.sha256 device state.1
  · intro state log input deployed
    cases input with
    | apply config nowMs => exact deployed.apply config nowMs
    | tick nowMs => exact deployed.tick state.2 nowMs
  · exact ⟨rfl, nofun⟩

end

section
variable {K : Type} [Field K] [LinearOrder K] [FloorRing K] {Engine Sink : Type}

/-- Payloads fit their transport: in every run of the runtime, a tick calls its sink with the payloads it
logs, and each of them is for the transport of its aircraft, of a size that transport takes and in its
framing, so that both radios can refuse it only for a full queue, or because BLE shuts down. -/
theorem payloads_fit (env : RuntimeEnv (Datum K) Engine Sink) (device : DeviceId) (sink : Sink)
    (inputs : List RuntimeInput) (nowMs : Nat) :
    let state := ((runtimeMachine env.withEncoders).run ({ device }, sink) inputs).1
    let ticked := state.1.tick env.withEncoders state.2 nowMs
    ticked.2.2.1 = afterCalls env.withEncoders state.2 (handed ticked.2.2.2) ∧
    ∀ payload taken, .submitted payload taken ∈ ticked.2.2.2 →
      ∃ fleet aircraft, state.1.fleet = some fleet ∧
        validateAndExpand env.sha256 fleet.config device = .ok fleet.aircraft ∧
        fleet.aircraft[payload.aircraftIndex]? = some aircraft ∧ Deliverable aircraft payload := by
  intro state ticked
  refine ⟨tick_calls state.1 state.2 nowMs, ?_⟩
  intro payload taken seen
  have deployed := @run_deployed _ _ _ env.withEncoders device sink inputs
  rcases tick_cases env.withEncoders state.1 state.2 nowMs with refused | ⟨fleet, running, _, same⟩
  · unfold ticked at seen
    rw [refused] at seen
    cases seen
  · unfold ticked at seen
    rw [same] at seen
    have expanded := deployed.expanded fleet running
    have accepted := accepted_of_expand expanded
    have few : fleet.aircraft.length ≤ 2 ^ 16 := by
      rw [expand_length expanded]
      exact accepted.bounded.trans (by decide)
    have dispatched : ∀ item ∈ fleet.aircraft, Dispatched item := by
      intro item member
      obtain ⟨group, isMember⟩ := expanded_of_mem expanded member
      exact isMember.dispatched accepted
    have all : AllDeliverable fleet.aircraft
        (fleet.tick env.withEncoders state.2 nowMs).events :=
      (deliverable_rule few dispatched nowMs).tick fleet
        (fun _ _ member => absurd member List.not_mem_nil)
    obtain ⟨aircraft, found, deliverable⟩ := all payload taken seen
    exact ⟨fleet, aircraft, running, expanded, found, deliverable⟩

end

/-- The first tick of a GB 46750 aircraft hands over a beacon. -/
theorem payloads_fit_hover :
    let state := ((runtimeMachine hoverEnv.withEncoders).run
      ({ device := Vector.replicate 6 0 }, ()) [.apply oneGb 0]).1
    let ticked := state.1.tick hoverEnv.withEncoders state.2 0
    ticked.2.2.1 = afterCalls hoverEnv.withEncoders state.2 (handed ticked.2.2.2) ∧
    ∃ payload taken, .submitted payload taken ∈ ticked.2.2.2 ∧
      ∃ fleet aircraft, state.1.fleet = some fleet ∧
        validateAndExpand hoverEnv.sha256 fleet.config (Vector.replicate 6 0) = .ok fleet.aircraft ∧
        fleet.aircraft[payload.aircraftIndex]? = some aircraft ∧ Deliverable aircraft payload := by
  have fits := payloads_fit hoverEnv (Vector.replicate 6 0) () [.apply oneGb 0] 0
  dsimp only at fits ⊢
  generalize reached : ((runtimeMachine hoverEnv.withEncoders).run
    ({ device := Vector.replicate 6 0 }, ()) [.apply oneGb 0]).1 = state at *
  have some : 0 < (handed (state.1.tick hoverEnv.withEncoders state.2 0).2.2.2).length := by
    rw [← reached]
    decide +kernel
  obtain ⟨payload, member⟩ := List.exists_mem_of_length_pos some
  obtain ⟨event, seen, isPayload⟩ := List.mem_filterMap.mp member
  cases event with
  | submitted other taken => exact ⟨fits.1, other, taken, seen, fits.2 other taken seen⟩
  | attempt index kind sequence => cases isPayload
  | encodeFailed index kind => cases isPayload

end RidFirmware
