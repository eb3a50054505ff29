import RidFirmware.Lib.Stagger
import RidFirmware.Runtime.Payloads

/-! How many messages one tick attempts. The first due times divide the period among all messages of the
fleet, so a tick fires no more of them than its share of the period. -/

namespace RidFirmware
open Lib

/-- The slots into which `apply` divides the period: one for each message of the fleet. -/
def emissionSlots (aircraft : List AircraftConfig) : Nat :=
  if aircraft.all AircraftConfig.packed then aircraft.length else aircraft.length * kMessageKindCount

/-- The slot of a message. In a mixed fleet a pack has the first slot of its aircraft. -/
def emissionSlot (aircraft : List AircraftConfig) (message : Nat × MessageKind) : Nat :=
  if aircraft.all AircraftConfig.packed then message.1
  else if (aircraft[message.1]?).any AircraftConfig.packed then message.1 * kMessageKindCount
  else message.1 * kMessageKindCount + message.2.index

theorem MessageKind.index_lt (kind : MessageKind) : kind.index < kMessageKindCount := by
  cases kind <;> decide

theorem MessageKind.index_injective {left right : MessageKind} (same : left.index = right.index) :
    left = right := by
  revert same
  cases left <;> cases right <;> decide

theorem Dispatched.packedAtApply_eq {aircraft : AircraftConfig} (dispatched : Dispatched aircraft) :
    aircraft.packedAtApply = aircraft.packed := by
  unfold AircraftConfig.packedAtApply
  cases packed : aircraft.packed with
  | true =>
    have parts := aircraft.packed_iff.mp packed
    rcases dispatched.pack packed with transport | transport | transport
    · simp [parts.1, transport]
    · simp [parts.1, transport]
    · simp [parts.1, transport]
  | false =>
    rcases dispatched.single packed with ⟨_, legacy⟩ | ⟨other, _⟩
    · simp [legacy]
    · simp [other]

section
variable {config : SystemConfig} {aircraft : List AircraftConfig}

theorem firstDue_spread {index : Nat} {item : AircraftConfig} (found : aircraft[index]? = some item)
    (agreed : item.packedAtApply = item.packed) (startMs : Nat) (kind : MessageKind) :
    firstDue config aircraft startMs index kind = startMs + spread (config.periodOf item kind)
      (emissionSlots aircraft) (emissionSlot aircraft (index, kind)) := by
  unfold firstDue emissionSlots emissionSlot spread
  simp only [found, agreed, Option.any_some]
  by_cases all : aircraft.all AircraftConfig.packed = true
  · have packed := List.all_eq_true.mp all item (List.mem_of_getElem? found)
    rw [if_pos packed, if_pos packed, if_pos all, if_pos all]
  · rw [if_neg all, if_neg all]
    by_cases packed : item.packed = true
    · rw [if_pos packed, if_pos packed, if_pos packed, ← Nat.mul_assoc,
        Nat.mul_div_mul_right _ _ (by decide : 0 < kMessageKindCount)]
    · rw [if_neg packed, if_neg packed, if_neg packed]

theorem emissionSlot_lt {message : Nat × MessageKind} (inside : message.1 < aircraft.length) :
    emissionSlot aircraft message < emissionSlots aircraft := by
  have kind := message.2.index_lt
  unfold emissionSlot emissionSlots
  unfold kMessageKindCount at *
  split_ifs <;> omega

/-- A message that the runtime sends: packs go out as `Location`. -/
def Sent (aircraft : List AircraftConfig) (message : Nat × MessageKind) : Prop :=
  ∃ item, aircraft[message.1]? = some item ∧ (item.packed = true → message.2 = .location)

theorem Sent.inside {message : Nat × MessageKind} (sent : Sent aircraft message) :
    message.1 < aircraft.length := by
  obtain ⟨item, found, _⟩ := sent
  exact (List.getElem?_eq_some_iff.mp found).1

theorem Sent.unique {left right : Nat × MessageKind} (first : Sent aircraft left)
    (second : Sent aircraft right) (same : emissionSlot aircraft left = emissionSlot aircraft right) :
    left = right := by
  have leftKind := left.2.index_lt
  have rightKind := right.2.index_lt
  have index : left.1 = right.1 := by
    unfold emissionSlot at same
    unfold kMessageKindCount at *
    split_ifs at same <;> omega
  obtain ⟨item, found, packs⟩ := first
  obtain ⟨other, there, packs'⟩ := second
  rw [← index, found, Option.some.injEq] at there
  subst there
  refine Prod.ext index ?_
  by_cases packed : item.packed = true
  · rw [packs packed, packs' packed]
  · apply MessageKind.index_injective
    have notAll : ¬aircraft.all AircraftConfig.packed = true :=
      fun all => packed (List.all_eq_true.mp all item (List.mem_of_getElem? found))
    unfold emissionSlot at same
    simpa [notAll, ← index, found, packed] using same

theorem emissionSlot_packed {index : Nat} {item : AircraftConfig} (found : aircraft[index]? = some item)
    (packed : item.packed = true) (kind other : MessageKind) :
    emissionSlot aircraft (index, kind) = emissionSlot aircraft (index, other) := by
  unfold emissionSlot
  simp [found, packed]

end

section
variable {Number Engine Sink : Type} {env : RuntimeEnv Number Engine Sink}

theorem attempt_due {config : SystemConfig} {aircraft : List AircraftConfig}
    {startMs bound nowMs : Nat} {events : List RuntimeEvent} {later : Fleet Engine}
    (emits : EmitsExactly config aircraft startMs bound nowMs events later)
    {message : Nat × MessageKind} (attempted : message ∈ attempts events)
    (inside : message.1 < aircraft.length) :
    Sent aircraft message ∧ (attempts events).count message = 1 ∧
      ∃ kind, emissionSlot aircraft (message.1, kind) = emissionSlot aircraft message ∧
        DueBetween config aircraft startMs bound nowMs message.1 kind := by
  obtain ⟨index, kind⟩ := message
  have found : aircraft[index]? = some aircraft[index] := List.getElem?_eq_getElem inside
  have counted := List.count_pos_iff.mpr attempted
  by_cases packed : aircraft[index].packed = true
  · have located : kind = .location := by
      by_contra other
      have none := emits.packOnly index _ found packed kind other
      omega
    subst located
    rcases emits.pack index _ found packed with ⟨⟨other, due⟩, once⟩ | ⟨_, none⟩
    · exact ⟨⟨_, found, fun _ => rfl⟩, once, other, emissionSlot_packed found packed other _, due⟩
    · omega
  · have single := Bool.eq_false_iff.mpr packed
    rcases emits.single index _ found single kind with ⟨due, once⟩ | ⟨_, none⟩
    · exact ⟨⟨_, found, fun always => absurd always packed⟩, once, kind, rfl, due⟩
    · omega

theorem attempt_inside (fleet : Fleet Engine) (sink : Sink) (nowMs : Nat) {message : Nat × MessageKind}
    (attempted : message ∈ attempts (fleet.tick env sink nowMs).events) :
    message.1 < fleet.aircraft.length := by
  have ticked := @tick_ticked _ _ _ env fleet sink nowMs
  have counted := List.count_pos_iff.mpr attempted
  by_contra outside
  have absent : message.1 ∉ fleet.aircraft.zipIdx.map Prod.snd := by
    rw [List.zipIdx_map_snd, List.mem_range']
    simp
    omega
  have none : (attempts (fleet.tick env sink nowMs).events).count message = 0 :=
    ticked.silent message.1 absent message.2
  omega

theorem tick_burst {fleet : Fleet Engine} {lastMs nowMs period : Nat}
    (onSchedule : OnSchedule fleet (lastMs + 1)) (ordered : lastMs ≤ nowMs)
    (began : fleet.startedMs ≤ lastMs) (dispatched : ∀ item ∈ fleet.aircraft, Dispatched item)
    (same : ∀ item ∈ fleet.aircraft, ∀ kind, fleet.config.periodOf item kind = period) (sink : Sink) :
    (attempts (fleet.tick env sink nowMs).events).length ≤
      ((nowMs - lastMs) * emissionSlots fleet.aircraft) ⌈/⌉ period := by
  have emits := @tick_emits _ _ _ env fleet _ nowMs onSchedule (by omega) sink
  have due : ∀ message ∈ attempts (fleet.tick env sink nowMs).events, _ :=
    fun message attempted => attempt_due emits attempted (attempt_inside fleet sink nowMs attempted)
  rcases Nat.eq_zero_or_pos fleet.aircraft.length with none | some
  · have empty : attempts (fleet.tick env sink nowMs).events = [] := by
      apply List.eq_nil_iff_forall_not_mem.mpr
      intro message attempted
      have inside := attempt_inside fleet sink nowMs attempted
      omega
    rw [empty]
    exact Nat.zero_le _
  · have slots : 0 < emissionSlots fleet.aircraft := by
      unfold emissionSlots kMessageKindCount
      split_ifs <;> omega
    have long : 0 < period := by
      rw [← same _ (List.getElem_mem some) .location]
      exact fleet.accepted.periodOf_pos _ _
    have distinct : (attempts (fleet.tick env sink nowMs).events).Nodup := by
      rw [List.nodup_iff_count_le_one]
      intro message
      by_cases attempted : message ∈ attempts (fleet.tick env sink nowMs).events
      · exact (due message attempted).2.1.le
      · exact (List.count_eq_zero.mpr attempted).le.trans Nat.one_pos.le
    have window : ∀ message ∈ attempts (fleet.tick env sink nowMs).events, ∃ turns,
        lastMs - fleet.startedMs < spread period (emissionSlots fleet.aircraft)
          (emissionSlot fleet.aircraft message) + turns * period ∧
        spread period (emissionSlots fleet.aircraft) (emissionSlot fleet.aircraft message) +
          turns * period ≤ lastMs - fleet.startedMs + (nowMs - lastMs) := by
      intro message attempted
      obtain ⟨_, _, kind, slot, item, point, found, ⟨turns, rfl⟩, late, early⟩ := due message attempted
      have member := List.mem_of_getElem? found
      refine ⟨turns, ?_⟩
      rw [firstDue_spread found (dispatched item member).packedAtApply_eq, slot, same item member]
        at late early
      omega
    exact fired_length_le slots long distinct (emissionSlot fleet.aircraft)
      (fun left first right second => (due left first).1.unique (due right second).1)
      (fun message attempted => emissionSlot_lt (attempt_inside fleet sink nowMs attempted)) window

/-- Staggering bounds bursts: where all messages of a fleet have one period, a tick attempts at most
the share of the messages that falls into the time since the tick before it, rounded up. -/
theorem staggered_bursts (env : RuntimeEnv Number Engine Sink) (runtime : Runtime Engine) (sink : Sink)
    (config : SystemConfig) {aircraft : List AircraftConfig}
    (expanded : validateAndExpand env.sha256 config runtime.device = .ok aircraft) (period : Nat)
    (same : ∀ item ∈ aircraft, ∀ kind, config.periodOf item kind = period) (startMs : Nat)
    (before : List Nat) (lastMs nowMs : Nat)
    (ordered : (startMs :: (before ++ [lastMs, nowMs])).Pairwise (· ≤ ·)) :
    let state := ((runtimeMachine env).run (runtime, sink)
      (.apply config startMs :: (before ++ [lastMs]).map .tick)).1
    let slots := if aircraft.all AircraftConfig.packed then aircraft.length else aircraft.length * 6
    (attempts (state.1.tick env state.2 nowMs).2.2.2).length ≤
      ((nowMs - lastMs) * slots) ⌈/⌉ period := by
  have applied : (runtime.apply env config startMs).1 = .none := by
    rcases apply_cases env runtime config startMs with ⟨⟨error, refused⟩, _⟩ | ⟨fleet, _, same⟩
    · rw [refused] at expanded
      cases expanded
    · rw [same]
  have split : before ++ [lastMs, nowMs] = (before ++ [lastMs]) ++ [nowMs] := by simp
  rw [split] at ordered
  obtain ⟨sorted, began, _⟩ := ordered_window ordered
  obtain ⟨_, beganLast, _⟩ := ordered_window sorted
  have inOrder : lastMs ≤ nowMs := by
    rw [← List.cons_append, List.pairwise_append] at ordered
    exact ordered.2.2 lastMs (by simp) nowMs List.mem_cons_self
  obtain ⟨fleet, running, rfl, members, rfl, onSchedule⟩ :=
    @run_onSchedule _ _ _ env _ sink _ _ applied (before ++ [lastMs]) sorted
  have window : windowStart fleet.startedMs (before ++ [lastMs]) = lastMs + 1 := by
    unfold windowStart
    rw [List.getLast?_append, List.getLast?_singleton]
    rfl
  rw [window] at onSchedule
  have aircraftSame : fleet.aircraft = aircraft := Except.ok.inj (members.symm.trans expanded)
  subst aircraftSame
  have dispatched : ∀ item ∈ fleet.aircraft, Dispatched item := by
    intro item member
    obtain ⟨group, isMember⟩ := expanded_of_mem members member
    exact isMember.dispatched (accepted_of_expand members)
  intro state slots
  have events := (@tick_running _ _ _ env _ _ state.2 _ running began).2.2
  rw [events]
  exact tick_burst onSchedule inOrder beganLast dispatched same state.2

end

def hoverFleet : List AircraftConfig :=
  (validateAndExpand refusingEnv.sha256 oneHover idleRuntime.device).toOption.getD []

/-- Three seconds after the last tick, six messages of a second each: no more than 18 attempts. -/
theorem staggered_bursts_hover :
    let state := ((runtimeMachine refusingEnv).run (idleRuntime, ())
      (.apply oneHover 7 :: ([40] ++ [6000]).map .tick)).1
    let slots := if hoverFleet.all AircraftConfig.packed then hoverFleet.length
      else hoverFleet.length * 6
    (attempts (state.1.tick refusingEnv state.2 9000).2.2.2).length ≤
      ((9000 - 6000) * slots) ⌈/⌉ 1000 :=
  staggered_bursts refusingEnv idleRuntime () oneHover (by decide +kernel) 1000 (by decide +kernel) 7
    [40] 6000 9000 (by decide)

end RidFirmware
