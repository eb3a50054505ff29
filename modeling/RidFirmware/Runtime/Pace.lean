import RidFirmware.Runtime.Bursts
import RidFirmware.Runtime.Numbered

/-! What one tick can bring to the radios: no more payloads than messages have come due, all of them new. -/

namespace RidFirmware
open Lib

structure NewPayload (nowMs : Nat) (payload : ScheduledPayload) : Prop where
  deadline : payload.deadlineMs = nowMs
  lasts : nowMs < payload.expiresAtMs
  size : 0 < payload.size ∧ payload.size ≤ kMaxScheduledPayloadSize

theorem NewPayload.unexpired {nowMs : Nat} {payload : ScheduledPayload} (fresh : NewPayload nowMs payload) :
    payload.expired nowMs = false := by
  have lasts := fresh.lasts
  unfold ScheduledPayload.expired
  rw [decide_eq_false_iff_not]
  omega

section
variable {Number Engine Sink : Type} {env : RuntimeEnv Number Engine Sink}

theorem frameMessage_ne {aircraft : AircraftConfig} {counter : UInt8} {encoded frame : Bytes}
    (framed : frameMessage aircraft counter encoded = some frame) : frame ≠ [] := by
  unfold frameMessage at framed
  split_ifs at framed
  · rw [serviceData_eq framed]
    exact List.cons_ne_nil _ _
  · rw [(gbBeacon_eq framed).1]
    exact List.cons_ne_nil _ _

theorem framePack_ne {aircraft : AircraftConfig} {counter : UInt8} {encoded frame : Bytes}
    (framed : framePack aircraft counter encoded = some frame) : frame ≠ [] := by
  unfold framePack at framed
  split_ifs at framed
  · rw [(opendroneidBeacon_eq framed).1]
    exact List.cons_ne_nil _ _
  · rw [serviceData_eq framed]
    exact List.cons_ne_nil _ _

theorem newPayload_withContent {header : ScheduledPayload} {nowMs : Nat} {frame : Bytes}
    (deadline : header.deadlineMs = nowMs) (lasts : nowMs < header.expiresAtMs) (full : frame ≠ [])
    (fits : frame.length ≤ kMaxScheduledPayloadSize) : NewPayload nowMs (header.withContent frame) :=
  ⟨deadline, lasts, List.length_pos_iff.mpr full, fits⟩

/-- A property of the tick so far which is kept by a new payload that the sink is given after an attempt, and
by an attempt that fails. -/
structure NewPayloadRule (env : RuntimeEnv Number Engine Sink) (nowMs : Nat)
    (holds : Sink → List RuntimeEvent → Prop) : Prop where
  submitted : ∀ sink events index kind sequence payload, holds sink events → NewPayload nowMs payload →
    holds (env.submit sink payload).2 (events ++ [.attempt index kind sequence] ++
      [.submitted payload (env.submit sink payload).1])
  abandoned : ∀ sink events index kind sequence, holds sink events →
    holds sink (events ++ [.attempt index kind sequence] ++ [.encodeFailed index kind])

variable {nowMs : Nat} {holds : Sink → List RuntimeEvent → Prop}

theorem NewPayloadRule.send (rule : NewPayloadRule env nowMs holds) {progress : Progress Engine Sink}
    (before : holds progress.sink progress.events) (index : Nat) (kind : MessageKind)
    (header : ScheduledPayload) (build : UInt8 → Bytes → Option Bytes) (encoded : Option Bytes)
    (fresh : ∀ counter bytes frame, build counter bytes = some frame →
      frame.length ≤ kMaxScheduledPayloadSize → NewPayload nowMs (header.withContent frame)) :
    holds (progress.send env index kind header build encoded).sink
      (progress.send env index kind header build encoded).events := by
  rcases @Progress.send_cases _ _ _ env progress index kind header build encoded with handed | abandoned
  · obtain ⟨bytes, frame, _, framed, fits, sent⟩ := handed
    rw [sent, Progress.submit_sink, Progress.submit_events]
    exact rule.submitted _ _ index kind _ _ before (fresh _ bytes frame framed fits)
  · obtain ⟨_, _, sent⟩ := abandoned
    rw [sent]
    exact rule.abandoned _ _ index kind _ before

theorem NewPayloadRule.tick (rule : NewPayloadRule env nowMs holds) (fleet : Fleet Engine) {sink : Sink}
    (before : holds sink []) :
    holds (fleet.tick env sink nowMs).sink (fleet.tick env sink nowMs).events := by
  have default_pos : ∀ progress : Progress Engine Sink, 0 < progress.fleet.config.defaultPeriod.toNat := by
    intro progress
    have bounds := (validPeriod_iff _).mp progress.fleet.accepted.defaultPeriod
    omega
  have ticking : TickRule env nowMs fleet.aircraft.zipIdx
      (fun progress => holds progress.sink progress.events) := by
    constructor
    · exact fun _ _ before => before
    · exact fun _ _ _ _ before => before
    · intro progress state kind item member single before
      apply rule.send before
      intro counter bytes frame framed fits
      have period := progress.fleet.accepted.periodOf_pos item.1 kind
      exact newPayload_withContent rfl (Nat.lt_add_of_pos_right period) (frameMessage_ne framed) fits
    · intro progress state item member packed before
      apply rule.send before
      intro counter bytes frame framed fits
      exact newPayload_withContent rfl (Nat.lt_add_of_pos_right (default_pos progress)) (framePack_ne framed) fits
  exact ticking.tick fleet before

theorem handed_length_le (fleet : Fleet Engine) (sink : Sink) (nowMs : Nat) :
    (handed (fleet.tick env sink nowMs).events).length ≤
      (attempts (fleet.tick env sink nowMs).events).length := by
  have rule : NewPayloadRule env nowMs
      (fun _ events => (handed events).length ≤ (attempts events).length) := by
    constructor
    · intro sink events index kind sequence payload before _
      have tried : attempts [.attempt index kind sequence] = [(index, kind)] := rfl
      have silent : attempts [.submitted payload (env.submit sink payload).1] = [] := rfl
      have none : handed [.attempt index kind sequence] = [] := rfl
      have one : handed [.submitted payload (env.submit sink payload).1] = [payload] := rfl
      rw [handed_append, handed_append, attempts_append, attempts_append, tried, silent, none, one,
        List.append_nil, List.append_nil, List.length_append, List.length_append]
      exact Nat.add_le_add_right before 1
    · intro sink events index kind sequence before
      have tried : attempts [.attempt index kind sequence] = [(index, kind)] := rfl
      have silent : attempts [.encodeFailed index kind] = [] := rfl
      have none : handed [.attempt index kind sequence] = [] := rfl
      have neither : handed [.encodeFailed index kind] = [] := rfl
      rw [handed_append, handed_append, attempts_append, attempts_append, tried, silent, none, neither,
        List.append_nil, List.append_nil, List.append_nil, List.length_append]
      exact before.trans (Nat.le_succ _)
  exact rule.tick fleet (Nat.le_refl 0)

section
variable {fleet : Fleet Engine} {bound nowMs : Nat} (onSchedule : OnSchedule fleet bound)
  (ordered : bound ≤ nowMs + 1) (sink : Sink)
include onSchedule ordered

theorem attempts_nodup : (attempts (fleet.tick env sink nowMs).events).Nodup := by
  have emits := @tick_emits _ _ _ env fleet _ nowMs onSchedule ordered sink
  rw [List.nodup_iff_count_le_one]
  intro message
  by_cases attempted : message ∈ attempts (fleet.tick env sink nowMs).events
  · exact (attempt_due emits attempted (attempt_inside fleet sink nowMs attempted)).2.1.le
  · exact (List.count_eq_zero.mpr attempted).le.trans Nat.one_pos.le

theorem attempts_le_slots :
    (attempts (fleet.tick env sink nowMs).events).length ≤ emissionSlots fleet.aircraft := by
  have emits := @tick_emits _ _ _ env fleet _ nowMs onSchedule ordered sink
  have inside : ∀ message ∈ attempts (fleet.tick env sink nowMs).events,
      message.1 < fleet.aircraft.length := fun _ attempted => attempt_inside fleet sink nowMs attempted
  have apart : ((attempts (fleet.tick env sink nowMs).events).map
      (emissionSlot fleet.aircraft)).Nodup := by
    apply (attempts_nodup onSchedule ordered sink).map_on
    intro left first right second
    exact (attempt_due emits first (inside left first)).1.unique
      (attempt_due emits second (inside right second)).1
  have among : (attempts (fleet.tick env sink nowMs).events).map (emissionSlot fleet.aircraft) ⊆
      List.range (emissionSlots fleet.aircraft) := by
    intro slot member
    obtain ⟨message, attempted, rfl⟩ := List.mem_map.mp member
    exact List.mem_range.mpr (emissionSlot_lt (inside message attempted))
  calc (attempts (fleet.tick env sink nowMs).events).length
      = ((attempts (fleet.tick env sink nowMs).events).map (emissionSlot fleet.aircraft)).length :=
        (List.length_map _).symm
    _ ≤ (List.range (emissionSlots fleet.aircraft)).length := (apart.subperm among).length_le
    _ = emissionSlots fleet.aircraft := List.length_range

/-- The messages of a fleet of one period which come due from a time on, those of the first tick counted in:
no more than their share of the time, rounded up. -/
theorem tick_burst_from {period : Nat} (began : fleet.startedMs ≤ bound)
    (dispatched : ∀ item ∈ fleet.aircraft, Dispatched item)
    (same : ∀ item ∈ fleet.aircraft, ∀ kind, fleet.config.periodOf item kind = period) :
    (attempts (fleet.tick env sink nowMs).events).length ≤
      ((nowMs + 1 - bound) * emissionSlots fleet.aircraft) ⌈/⌉ period := by
  have emits := @tick_emits _ _ _ env fleet _ nowMs onSchedule ordered sink
  have due : ∀ message ∈ attempts (fleet.tick env sink nowMs).events, _ :=
    fun message attempted => attempt_due emits attempted (attempt_inside fleet sink nowMs attempted)
  by_cases none : attempts (fleet.tick env sink nowMs).events = []
  · rw [none]
    exact Nat.zero_le _
  obtain ⟨first, member⟩ := List.exists_mem_of_ne_nil _ none
  have inside := attempt_inside fleet sink nowMs member
  have slots : 0 < emissionSlots fleet.aircraft := by
    unfold emissionSlots kMessageKindCount
    split_ifs <;> omega
  have long : 0 < period := by
    rw [← same _ (List.getElem_mem inside) .location]
    exact fleet.accepted.periodOf_pos _ _
  -- a window that begins with the flight is moved on by one period, so that it has a time before it
  have window : ∀ message ∈ attempts (fleet.tick env sink nowMs).events, ∃ turns,
      bound - fleet.startedMs + (period - 1) < spread period (emissionSlots fleet.aircraft)
        (emissionSlot fleet.aircraft message) + turns * period ∧
      spread period (emissionSlots fleet.aircraft) (emissionSlot fleet.aircraft message) +
        turns * period ≤ bound - fleet.startedMs + (period - 1) + (nowMs + 1 - bound) := by
    intro message attempted
    obtain ⟨_, _, kind, slot, item, point, found, ⟨turns, rfl⟩, late, early⟩ := due message attempted
    have isItem := List.mem_of_getElem? found
    refine ⟨turns + 1, ?_⟩
    rw [firstDue_spread found (dispatched item isItem).packedAtApply_eq, slot, same item isItem] at late early
    rw [Nat.add_mul, Nat.one_mul]
    omega
  exact fired_length_le slots long (attempts_nodup onSchedule ordered sink) (emissionSlot fleet.aircraft)
    (fun left first right second => (due left first).1.unique (due right second).1)
    (fun message attempted => emissionSlot_lt (attempt_inside fleet sink nowMs attempted)) window

end

end

end RidFirmware
