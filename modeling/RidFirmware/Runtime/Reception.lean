import RidFirmware.Config.Fleet
import RidFirmware.Odid.FlightReport
import RidFirmware.Runtime.Counters

/-! What a receiver learns of a flight over a whole run: the runtime hands over what it has encoded of the states
it has sampled, and whoever decodes some of it has the last of these states, kind by kind. -/

namespace RidFirmware
open Lib Lib.Ieee

/-- A message of the plan with the flight state it was encoded from and the tick that sampled it. -/
structure Transmission (Number : Type) where
  nowMs : Nat
  aircraft : AircraftConfig
  state : FlightState Number
  message : PlannedMessage

section
variable {Number Engine Sink : Type} (env : RuntimeEnv Number Engine Sink)
variable (config : SystemConfig) (aircraft : List AircraftConfig) (site : GeoPoint Float64Bits)
  (startMs : Nat)

/-- What a tick of the plan sends, with what it was encoded from. -/
def tickTransmissions (plan : Plan Engine) (nowMs : Nat) : List (Transmission Number) :=
  if nowMs < startMs then []
  else (sampledStates env config startMs nowMs plan.engine aircraft).zipIdx.flatMap fun sample =>
    (dueMessages env nowMs site (plan.nextDue sample.2) sample.2 sample.1.1 sample.1.2).map
      (Transmission.mk nowMs sample.1.1 sample.1.2)

def transmissionMachine : Machine (Plan Engine) Nat (Transmission Number) where
  step plan nowMs :=
    (((planMachine env config aircraft site startMs).step plan nowMs).1,
      tickTransmissions env config aircraft site startMs plan nowMs)

/-- What the ticks after an `apply` send. -/
def transmissions (ticks : List Nat) : List (Transmission Number) :=
  ((transmissionMachine env config aircraft site startMs).run
    (Plan.start env config aircraft site startMs) ticks).2

theorem tickTransmissions_message (plan : Plan Engine) (nowMs : Nat) :
    (tickTransmissions env config aircraft site startMs plan nowMs).map Transmission.message =
      ((planMachine env config aircraft site startMs).step plan nowMs).2 := by
  unfold tickTransmissions planMachine
  dsimp only
  split_ifs
  · rfl
  · rw [List.map_flatMap]
    simp only [List.map_map, Function.comp_def, List.map_id']

theorem transmissions_message (ticks : List Nat) :
    (transmissions env config aircraft site startMs ticks).map Transmission.message =
      plannedMessages env config aircraft site startMs ticks := by
  unfold transmissions plannedMessages
  generalize Plan.start env config aircraft site startMs = plan
  induction ticks generalizing plan with
  | nil => rfl
  | cons nowMs rest ih =>
    simp only [Machine.run, List.map_append]
    rw [← tickTransmissions_message, ← ih]
    rfl

theorem mem_transmissions {ticks : List Nat} {sent : Transmission Number}
    (member : sent ∈ transmissions env config aircraft site startMs ticks) :
    aircraft[sent.message.aircraft]? = some sent.aircraft ∧
      encodeAttempt env sent.aircraft sent.message.kind site sent.state = some sent.message.encoded := by
  have step : ∀ plan nowMs, sent ∈ tickTransmissions env config aircraft site startMs plan nowMs →
      aircraft[sent.message.aircraft]? = some sent.aircraft ∧
        encodeAttempt env sent.aircraft sent.message.kind site sent.state = some sent.message.encoded := by
    intro plan nowMs inside
    unfold tickTransmissions at inside
    split_ifs at inside
    · cases inside
    · obtain ⟨⟨⟨item, state⟩, index⟩, sampled, made⟩ := List.mem_flatMap.mp inside
      obtain ⟨message, due, rfl⟩ := List.mem_map.mp made
      obtain ⟨kind, _, encoded⟩ := List.mem_filterMap.mp due
      obtain ⟨bytes, found, rfl⟩ := Option.map_eq_some_iff.mp encoded
      refine ⟨?_, found⟩
      have place := List.mem_zipIdx_iff_getElem?.mp sampled
      dsimp only at place ⊢
      rw [← @sampledStates_fst _ _ _ env config startMs nowMs plan.engine aircraft, List.getElem?_map, place]
      rfl
  unfold transmissions at member
  generalize Plan.start env config aircraft site startMs = plan at member
  induction ticks generalizing plan with
  | nil => cases member
  | cons nowMs rest ih =>
    rcases List.mem_append.mp member with first | later
    · exact step plan nowMs first
    · exact ih _ later

end

section
variable {K : Type} [Field K]

/-- A pack has every kind; other messages are of one kind. -/
def Transmission.heard (sent : Transmission (Datum K)) : OdidEncoder.Heard K where
  content := if sent.aircraft.packed then none else some sent.message.kind
  state := sent.state
  bytes := sent.message.encoded

end

section
variable {K : Type} [Field K] [LinearOrder K] [FloorRing K] {Engine Sink : Type}

theorem heard_encoded {env : RuntimeEnv (Datum K) Engine Sink} {config : SystemConfig}
    {aircraft : List AircraftConfig} {site : GeoPoint Float64Bits} {startMs : Nat} {ticks : List Nat}
    {sent : Transmission (Datum K)}
    (member : sent ∈ transmissions env.withEncoders config aircraft site startMs ticks)
    (odid : sent.aircraft.protocol = .openDroneId) :
    sent.heard.Encoded sent.aircraft.identity (siteOdidOptions site) := by
  obtain ⟨_, encodes⟩ := mem_transmissions _ _ _ _ _ member
  unfold OdidEncoder.Heard.Encoded Transmission.heard
  unfold encodeAttempt encodeMessage at encodes
  by_cases packed : sent.aircraft.packed = true
  · rw [if_pos packed] at encodes
    rw [if_pos packed]
    exact of_toOption encodes
  · rw [if_neg packed, if_pos odid] at encodes
    rw [if_neg packed]
    exact of_toOption encodes

variable [IsStrictOrderedRing K]

/-- What a receiver has of an aircraft after it has heard some of its messages: of every kind the report of the
state in the last message or pack with it, and nothing of a kind that none of them had. The texts are whole: none
has a zero byte. -/
structure Informed (site : GeoPoint Float64Bits) (item : AircraftConfig) (heard : List (Transmission (Datum K))) :
    Prop where
  texts : 0 ∉ item.identity.value ∧ 0 ∉ (siteOdidOptions site : OdidOptions K).selfDescription ∧
    0 ∉ (siteOdidOptions site : OdidOptions K).operatorId
  reported : ∀ kind last, (heard.filter fun sent => sent.heard.carries kind).getLast? = some last →
    OdidEncoder.Reported last.state item.identity (siteOdidOptions site)
      (Odid.receive Odid.initUasData (heard.map fun sent => sent.message.encoded)) kind
  silent : ∀ kind, (∀ sent ∈ heard, sent.heard.carries kind = false) →
    OdidEncoder.Silent (Odid.receive (Odid.initUasData : Odid.UasData K)
      (heard.map fun sent => sent.message.encoded)) kind

theorem informed_of_encoded {site : GeoPoint Float64Bits} {item : AircraftConfig} (isTestId : IsTestId item.identity)
    {heard : List (Transmission (Datum K))}
    (encoded : ∀ sent ∈ heard, sent.heard.Encoded item.identity (siteOdidOptions site)) :
    Informed site item heard := by
  have same : (heard.map Transmission.heard).map OdidEncoder.Heard.bytes =
      heard.map fun sent => sent.message.encoded := List.map_map
  have kept : ∀ kind, (heard.map Transmission.heard).filter (OdidEncoder.Heard.carries kind) =
      (heard.filter fun sent => sent.heard.carries kind).map Transmission.heard := fun _ => List.filter_map
  have received := @OdidEncoder.receive_reports K _ _ _ _ item.identity (siteOdidOptions site)
    (heard.map Transmission.heard)
    (fun member inside => by
      obtain ⟨sent, listed, rfl⟩ := List.mem_map.mp inside
      exact encoded sent listed)
  rw [same] at received
  constructor
  · exact ⟨isTestId.noZero, (by decide : 0 ∉ ascii "RID test flight"), (by decide : 0 ∉ ascii "TESTOPERATOR")⟩
  · intro kind last found
    have reported := (received kind).1
    rw [kept] at reported
    exact reported last.heard (by rw [List.getLast?_map, found]; rfl)
  · intro kind none
    apply (received kind).2
    rw [kept, List.map_eq_nil_iff, List.filter_eq_nil_iff]
    intro sent member carries
    rw [none sent member] at carries
    cases carries

/-- Receivers follow a flight: in every run of ticks after an `apply`, the payloads handed over are numbered
transmissions of states that their ticks sampled, and whoever decodes any of those of an aircraft that speaks
Open Drone ID has, kind by kind, the last state it has heard of. -/
theorem receivers_follow (env : RuntimeEnv (Datum K) Engine Sink) (runtime : Runtime Engine) (sink : Sink)
    (config : SystemConfig) (startMs : Nat)
    (applied : (runtime.apply env.withEncoders config startMs).1 = .none) (ticks : List Nat) :
    ∃ aircraft site, validateAndExpand env.sha256 config runtime.device = .ok aircraft ∧
      config.site = some site ∧
      let sent := transmissions env.withEncoders config aircraft site startMs ticks
      (handed ((runtimeMachine env.withEncoders).run (runtime, sink)
          (.apply config startMs :: ticks.map .tick)).2).map ScheduledPayload.message =
        numberedFrom (· + 1) 0 (sent.map Transmission.message) ∧
      ∀ index item, aircraft[index]? = some item → item.protocol = .openDroneId →
        ∀ heard, heard.Sublist sent → (∀ member ∈ heard, member.message.aircraft = index) →
          Informed site item heard := by
  obtain ⟨fleet, _, _, expanded, _, _⟩ := apply_clean env.withEncoders applied
  have accepted := accepted_of_expand expanded
  obtain ⟨site, located, _⟩ := accepted.site
  have few : fleet.aircraft.length ≤ 2 ^ 16 := by
    rw [expand_length expanded]
    exact accepted.bounded.trans (by decide)
  obtain ⟨_, _, _, _, numbered⟩ := @run_numbered _ _ _ env.withEncoders runtime sink config startMs
    fleet.aircraft expanded site located (readable_of_expanded expanded) few ticks
  refine ⟨fleet.aircraft, site, expanded, located, ?_, ?_⟩
  · rw [transmissions_message]
    exact numbered
  · intro index item found odid heard part own
    have isTestId := ((accepted.exactFleet env.sha256 runtime.device).identities fleet.aircraft expanded).1 item
      (List.mem_of_getElem? found)
    apply informed_of_encoded isTestId
    intro sent member
    have listed := part.subset member
    have known := (mem_transmissions _ _ _ _ _ listed).1
    rw [own sent member, found] at known
    have same := Option.some.inj known
    rw [same] at odid ⊢
    exact heard_encoded listed odid

end

/-- One aircraft that hovers and speaks Open Drone ID, heard for two seconds. -/
theorem receivers_follow_hover :
    let env : RuntimeEnv (Datum ℚ) Unit Unit := { hoverEnv with sha256 := oneHoverSha256 }
    ∃ aircraft site, validateAndExpand env.sha256 oneHover idleRuntime.device = .ok aircraft ∧
      oneHover.site = some site ∧
      let sent := transmissions env.withEncoders oneHover aircraft site 0 [0, 1000, 2000]
      (handed ((runtimeMachine env.withEncoders).run (idleRuntime, ())
          (.apply oneHover 0 :: [0, 1000, 2000].map .tick)).2).map ScheduledPayload.message =
        numberedFrom (· + 1) 0 (sent.map Transmission.message) ∧
      ∀ index item, aircraft[index]? = some item → item.protocol = .openDroneId →
        ∀ heard, heard.Sublist sent → (∀ member ∈ heard, member.message.aircraft = index) →
          Informed site item heard :=
  receivers_follow _ idleRuntime () oneHover 0 (by decide +kernel) [0, 1000, 2000]

end RidFirmware
