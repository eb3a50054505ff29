import RidFirmware.Runtime.Plan

/-! A tick hands over the messages of the plan, in order, and numbers them with the one counter there is:
what is encoded is framed, what is framed reads back, and nothing else moves the counter. -/

namespace RidFirmware
open Lib Lib.Ieee

section
variable {Number Engine Sink : Type} {env : RuntimeEnv Number Engine Sink}

/-- A stage of a tick that hands over some messages, numbered. -/
structure Hands (before after : Progress Engine Sink) (messages : List PlannedMessage) : Prop where
  counter : after.fleet.counter = (· + 1)^[messages.length] before.fleet.counter
  handed : (handed after.events).map ScheduledPayload.message =
    (handed before.events).map ScheduledPayload.message ++
      numberedFrom (· + 1) before.fleet.counter messages

theorem Hands.none {before after : Progress Engine Sink}
    (counter : after.fleet.counter = before.fleet.counter)
    (same : RidFirmware.handed after.events = RidFirmware.handed before.events) : Hands before after [] where
  counter := counter
  handed := by
    rw [same, numberedFrom, List.append_nil]

theorem Hands.trans {before middle after : Progress Engine Sink} {first second : List PlannedMessage}
    (left : Hands before middle first) (right : Hands middle after second) :
    Hands before after (first ++ second) where
  counter := by
    rw [right.counter, left.counter, ← Function.iterate_add_apply, List.length_append, Nat.add_comm]
  handed := by
    rw [right.handed, left.handed, left.counter, List.append_assoc, ← numberedFrom_append]

theorem send_abandoned (progress : Progress Engine Sink) (index : Nat) (kind : MessageKind)
    (header : ScheduledPayload) (build : UInt8 → Bytes → Option Bytes) :
    Hands progress (progress.send env index kind header build Option.none) [] := by
  apply Hands.none
  · rfl
  · show handed (progress.events ++ [_] ++ [_]) = _
    rw [handed_append, handed_append]
    exact (List.append_nil _).trans (List.append_nil _)

theorem send_framed {progress : Progress Engine Sink} {index : Nat} {kind : MessageKind}
    {header : ScheduledPayload} {build : UInt8 → Bytes → Option Bytes} {encoded frame : Bytes}
    {message : PlannedMessage} (framed : build progress.fleet.counter encoded = some frame)
    (fits : frame.length ≤ kMaxScheduledPayloadSize)
    (reads : (header.withContent frame).message = (message, progress.fleet.counter)) :
    Hands progress (progress.send env index kind header build (some encoded)) [message] := by
  have sent : progress.send env index kind header build (some encoded) =
      (progress.numbered index kind).submit env (header.withContent frame) := by
    unfold Progress.send Progress.frame
    dsimp only [Progress.attempt]
    rw [framed, finish_some _ _ _ _ fits]
    rfl
  rw [sent]
  constructor
  · unfold Progress.submit
    dsimp only
    split_ifs
    · rfl
    · rfl
  · have events : (progress.numbered index kind).events =
        progress.events ++ [.attempt index kind progress.fleet.sequence] := rfl
    rw [Progress.submit_events, events, handed_append, handed_append]
    show (handed progress.events ++ [] ++ [header.withContent frame]).map _ = _
    rw [List.append_nil, List.map_append, List.map_singleton, reads]
    rfl

/-- How the messages of an aircraft read once they are framed. -/
def ReadsAs (aircraft : AircraftConfig) (build : UInt8 → Bytes → Option Bytes) (encoded : Bytes) : Prop :=
  ∀ header : ScheduledPayload, header.transport = aircraft.transport → ∀ counter, ∃ frame,
    build counter encoded = some frame ∧ frame.length ≤ kMaxScheduledPayloadSize ∧
      (header.withContent frame).message = (⟨header.aircraftIndex, header.kind, encoded⟩, counter)

theorem send_hands {progress : Progress Engine Sink} {index : Nat} {kind : MessageKind}
    {header : ScheduledPayload} {aircraft : AircraftConfig} {build : UInt8 → Bytes → Option Bytes}
    {encoded : Option Bytes} (addressed : header.transport = aircraft.transport)
    (indexed : header.aircraftIndex = index) (kinded : header.kind = kind)
    (reads : ∀ bytes, encoded = some bytes → ReadsAs aircraft build bytes) :
    Hands progress (progress.send env index kind header build encoded)
      (encoded.map (PlannedMessage.mk index kind)).toList := by
  cases encoded with
  | none => exact send_abandoned progress index kind header build
  | some bytes =>
    obtain ⟨frame, framed, fits, message⟩ := reads bytes rfl header addressed progress.fleet.counter
    rw [indexed, kinded] at message
    exact send_framed framed fits message

end

/-! What the encoders of the firmware make is framed and read back. -/

theorem readsAs_serviceData {aircraft : AircraftConfig}
    (isBle : aircraft.transport = .ble4 ∨ aircraft.transport = .ble5) {encoded : Bytes}
    (short : encoded.length ≤ 153) (shaped : encoded.length = 25 ∨ isMessagePack encoded = true) :
    ReadsAs aircraft serviceData encoded := by
  intro header addressed counter
  obtain ⟨frame, built, length⟩ := buildOpendroneidServiceData_some short shaped counter
  have framed : serviceData counter encoded = some frame := by
    unfold serviceData
    rw [built]
  have fits : frame.length ≤ kMaxScheduledPayloadSize := by
    unfold kMaxScheduledPayloadSize
    omega
  rw [← addressed] at isBle
  exact ⟨frame, framed, fits, ScheduledPayload.message_of_serviceData isBle framed fits⟩

theorem readsAs_beacon {aircraft : AircraftConfig}
    (isWifi : aircraft.transport = .wifi24 ∨ aircraft.transport = .wifi58)
    (named : aircraft.identity.value.length ≤ 32) {build : UInt8 → Bytes → Option Bytes} {encoded : Bytes}
    (short : encoded.length ≤ 249) (framed : ∀ counter, build counter encoded =
      some (aircraft.beacon counter encoded)) : ReadsAs aircraft build encoded := by
  intro header addressed counter
  have fits : (aircraft.beacon counter encoded).length ≤ kMaxScheduledPayloadSize := by
    have length : (aircraft.beacon counter encoded).length =
        48 + aircraft.identity.value.length + encoded.length := gbBeaconFrame_length _ _ _ _
    unfold kMaxScheduledPayloadSize
    omega
  rw [← addressed] at isWifi
  exact ⟨_, framed counter, fits, ScheduledPayload.message_of_beacon isWifi rfl named fits⟩

theorem gbBeacon_some {aircraft : AircraftConfig} (named : aircraft.identity.value.length ≤ 32)
    {encoded : Bytes} (nonempty : 0 < encoded.length) (short : encoded.length ≤ 249) (counter : UInt8) :
    gbBeacon aircraft counter encoded = some (aircraft.beacon counter encoded) := by
  obtain ⟨frame, built, _⟩ := buildGbBeacon_some
    (addressFor aircraft.identity aircraft.instanceIndex) named nonempty short counter
  unfold gbBeacon
  rw [built]
  exact congrArg some (buildGbBeacon_eq built).1

theorem opendroneidBeacon_some {aircraft : AircraftConfig} (named : aircraft.identity.value.length ≤ 32)
    {encoded : Bytes} (pack : isMessagePack encoded = true) (short : encoded.length ≤ 249)
    (counter : UInt8) :
    opendroneidBeacon aircraft counter encoded = some (aircraft.beacon counter encoded) := by
  obtain ⟨frame, built, _⟩ := buildOpendroneidBeacon_some
    (addressFor aircraft.identity aircraft.instanceIndex) named pack short counter
  unfold opendroneidBeacon
  rw [built]
  exact congrArg some (buildGbBeacon_eq (buildOpendroneidBeacon_eq built)).1

section
variable {K : Type} [Field K] [LinearOrder K] [FloorRing K]
variable {Engine Sink : Type} {env : RuntimeEnv (Datum K) Engine Sink}

theorem readsAs_message {aircraft : AircraftConfig} (dispatched : Dispatched aircraft)
    (derived : aircraft.identity.value.length = 20) (single : aircraft.packed = false)
    {kind : MessageKind} {site : GeoPoint Float64Bits} {state : FlightState (Datum K)} {encoded : Bytes}
    (encodes : encodeMessage env.withEncoders aircraft kind site state = some encoded) :
    ReadsAs aircraft (frameMessage aircraft) encoded := by
  unfold encodeMessage at encodes
  unfold frameMessage
  rcases dispatched.single single with ⟨odid, legacy⟩ | ⟨other, isWifi⟩
  · rw [if_pos odid] at encodes ⊢
    have length : encoded.length = 25 := (OdidEncoder.encode_isMessage (of_toOption encodes)).length
    exact readsAs_serviceData (.inl legacy) (by omega) (.inl length)
  · rw [if_neg other] at encodes ⊢
    obtain ⟨nonempty, short⟩ := GbEncoder.encode_length (of_toOption encodes)
    have named : aircraft.identity.value.length ≤ 32 := by omega
    exact readsAs_beacon isWifi named (by omega) (gbBeacon_some named nonempty (by omega))

theorem readsAs_pack {aircraft : AircraftConfig} (dispatched : Dispatched aircraft)
    (derived : aircraft.identity.value.length = 20) (packed : aircraft.packed = true)
    {site : GeoPoint Float64Bits} {state : FlightState (Datum K)} {encoded : Bytes}
    (encodes : env.withEncoders.encodePack site state aircraft.identity = some encoded) :
    ReadsAs aircraft (framePack aircraft) encoded := by
  obtain ⟨messages, same, length⟩ := OdidEncoder.encodePack_shape (of_toOption encodes)
  obtain ⟨size, pack⟩ := isMessagePack_six length
  rw [← same] at size pack
  unfold framePack
  rcases dispatched.pack packed with extended | isWifi
  · have wired : aircraft.wifi = false := by
      unfold AircraftConfig.wifi
      rw [extended]
      rfl
    rw [wired, if_neg Bool.false_ne_true]
    exact readsAs_serviceData (.inr extended) (by omega) (.inr pack)
  · have wired : aircraft.wifi = true := decide_eq_true isWifi
    have named : aircraft.identity.value.length ≤ 32 := by omega
    rw [wired, if_pos rfl]
    exact readsAs_beacon isWifi named (by omega) (opendroneidBeacon_some named pack (by omega))

end

/-! A tick. -/

section
variable {Number Engine Sink : Type} {env : RuntimeEnv Number Engine Sink}

/-- Whatever the encoders make for an aircraft is framed and read back. -/
structure Readable (env : RuntimeEnv Number Engine Sink) (aircraft : AircraftConfig) : Prop where
  message : aircraft.packed = false → ∀ kind site state encoded,
    encodeMessage env aircraft kind site state = some encoded →
    ReadsAs aircraft (frameMessage aircraft) encoded
  pack : aircraft.packed = true → ∀ site state encoded,
    env.encodePack site state aircraft.identity = some encoded →
    ReadsAs aircraft (framePack aircraft) encoded

theorem tickMessage_hands {progress : Progress Engine Sink} {nowMs index : Nat}
    {aircraft : AircraftConfig} (readable : Readable env aircraft) (single : aircraft.packed = false)
    (inside : index < 2 ^ 16) (state : FlightState Number) (kind : MessageKind) :
    Hands progress (tickMessage env nowMs index aircraft state progress kind)
      (if progress.fleet.nextDue index kind ≤ nowMs then
        ((encodeMessage env aircraft kind progress.fleet.site state).map
          (PlannedMessage.mk index kind)).toList else []) := by
  rw [tickMessage_eq nowMs (aircraft, index) state progress kind]
  dsimp only
  by_cases waits : nowMs < progress.fleet.nextDue index kind
  · rw [if_pos waits, if_neg (Nat.not_le.mpr waits)]
    exact Hands.none rfl rfl
  · rw [if_neg waits, if_pos (Nat.not_lt.mp waits)]
    let advanced : Progress Engine Sink :=
      { progress with fleet := progress.fleet.advance index aircraft kind nowMs }
    have moved : Hands progress advanced [] := Hands.none rfl rfl
    have sent : Hands advanced (Progress.sendMessage env advanced nowMs (aircraft, index) state kind)
        ((encodeMessage env aircraft kind progress.fleet.site state).map
          (PlannedMessage.mk index kind)).toList :=
      send_hands rfl (Nat.mod_eq_of_lt inside) rfl (readable.message single kind progress.fleet.site state)
    exact moved.trans sent

theorem foldl_tickMessage_hands {nowMs index : Nat} {aircraft : AircraftConfig}
    (readable : Readable env aircraft) (single : aircraft.packed = false) (inside : index < 2 ^ 16)
    (state : FlightState Number) (kinds : List MessageKind) (distinct : kinds.Nodup)
    (progress : Progress Engine Sink) :
    Hands progress (kinds.foldl (tickMessage env nowMs index aircraft state) progress)
      ((kinds.filter fun kind => progress.fleet.nextDue index kind ≤ nowMs).filterMap fun kind =>
        (encodeMessage env aircraft kind progress.fleet.site state).map (PlannedMessage.mk index kind)) := by
  induction kinds generalizing progress with
  | nil => exact Hands.none rfl rfl
  | cons kind rest ih =>
    obtain ⟨fresh, distinct⟩ := List.nodup_cons.mp distinct
    have served := @tickMessage_served _ _ _ env progress nowMs index aircraft state kind
    have first := @tickMessage_hands _ _ _ env progress nowMs index aircraft readable single inside state
      kind
    have later := ih distinct (tickMessage env nowMs index aircraft state progress kind)
    have untouched : (rest.filter fun other =>
        (tickMessage env nowMs index aircraft state progress kind).fleet.nextDue index other ≤ nowMs) =
        rest.filter fun other => progress.fleet.nextDue index other ≤ nowMs := by
      apply List.filter_congr
      intro other member
      have apart : ¬(index = index ∧ other ∈ [kind]) := by
        intro both
        rw [List.mem_singleton.mp both.2] at member
        exact fresh member
      rw [served.nextDue, if_neg apart]
    rw [untouched, site_congr served.config] at later
    rw [List.foldl_cons]
    by_cases due : progress.fleet.nextDue index kind ≤ nowMs
    · rw [if_pos due] at first
      rw [List.filter_cons, if_pos (decide_eq_true due), List.filterMap_cons]
      cases encoded : encodeMessage env aircraft kind progress.fleet.site state with
      | none =>
        rw [encoded] at first
        exact first.trans later
      | some bytes =>
        rw [encoded] at first
        exact first.trans later
    · rw [if_neg due] at first
      rw [List.filter_cons, if_neg (mt of_decide_eq_true due)]
      exact first.trans later

theorem advanceKinds_hands (progress : Progress Engine Sink) (nowMs index : Nat)
    (aircraft : AircraftConfig) : Hands progress (progress.advanceKinds nowMs index aircraft) [] := by
  obtain ⟨nextDue, moved⟩ := advanceKinds_eq progress nowMs index aircraft
  rw [moved]
  exact Hands.none rfl rfl

theorem tickPack_hands {progress : Progress Engine Sink} {nowMs index : Nat} {aircraft : AircraftConfig}
    (readable : Readable env aircraft) (packed : aircraft.packed = true) (inside : index < 2 ^ 16)
    (state : FlightState Number) :
    Hands progress (tickPack env nowMs index aircraft state progress)
      (if kKinds.any (fun kind => progress.fleet.nextDue index kind ≤ nowMs) then
        ((env.encodePack progress.fleet.site state aircraft.identity).map
          (PlannedMessage.mk index .location)).toList else []) := by
  have moved := advanceKinds_hands progress nowMs index aircraft
  rw [tickPack_eq nowMs (aircraft, index) state progress]
  dsimp only
  by_cases due : kKinds.any (fun kind => progress.fleet.nextDue index kind ≤ nowMs) = true
  · rw [if_pos due, if_pos due]
    have sent : Hands (progress.advanceKinds nowMs index aircraft)
        (Progress.sendPack env (progress.advanceKinds nowMs index aircraft) nowMs (aircraft, index) state)
        ((env.encodePack (progress.advanceKinds nowMs index aircraft).fleet.site state
          aircraft.identity).map (PlannedMessage.mk index .location)).toList :=
      send_hands rfl (Nat.mod_eq_of_lt inside) rfl (readable.pack packed _ state)
    rw [advanceKinds_site] at sent
    exact moved.trans sent
  · rw [if_neg due, if_neg due]
    exact moved

theorem tickAircraft_hands {progress : Progress Engine Sink} {nowMs : Nat} {item : AircraftConfig × Nat}
    (readable : Readable env item.1) (inside : item.2 < 2 ^ 16) :
    Hands progress (tickAircraft env nowMs progress item)
      (dueMessages env nowMs progress.fleet.site (progress.fleet.nextDue item.2) item.2 item.1
        (env.sample progress.fleet.engine (progress.fleet.config.groupOf item.1).trajectory
          item.1.instanceIndex (elapsed32 nowMs progress.fleet.startedMs)).1) := by
  unfold tickAircraft dueMessages attemptedKinds encodeAttempt
  dsimp only
  generalize env.sample _ _ _ _ = sampled
  let sampling : Progress Engine Sink :=
    { progress with fleet := { progress.fleet with engine := sampled.2 } }
  have start : Hands progress sampling [] := Hands.none rfl rfl
  by_cases packed : item.1.packed = true
  · simp only [packed, if_true]
    have pack := @tickPack_hands _ _ _ env sampling nowMs item.2 item.1 readable packed inside sampled.1
    have messages := start.trans pack
    by_cases due : kKinds.any (fun kind => progress.fleet.nextDue item.2 kind ≤ nowMs) = true
    · have dueThen : kKinds.any (fun kind => sampling.fleet.nextDue item.2 kind ≤ nowMs) = true := due
      rw [if_pos dueThen] at messages
      rw [if_pos due, List.filterMap_cons]
      cases encoded : env.encodePack progress.fleet.site sampled.1 item.1.identity with
      | none =>
        have encodedThen : env.encodePack sampling.fleet.site sampled.1 item.1.identity = none := encoded
        rw [encodedThen] at messages
        exact messages
      | some bytes =>
        have encodedThen : env.encodePack sampling.fleet.site sampled.1 item.1.identity = some bytes :=
          encoded
        rw [encodedThen] at messages
        exact messages
    · have waits : ¬kKinds.any (fun kind => sampling.fleet.nextDue item.2 kind ≤ nowMs) = true := due
      rw [if_neg waits] at messages
      rw [if_neg due]
      exact messages
  · have single : item.1.packed = false := Bool.eq_false_iff.mpr packed
    simp only [single, Bool.false_eq_true, if_false]
    exact start.trans (foldl_tickMessage_hands readable single inside sampled.1 kKinds kKinds_nodup sampling)

end

end RidFirmware
