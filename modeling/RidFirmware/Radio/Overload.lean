import RidFirmware.Radio.BleTransport
import RidFirmware.Radio.RadioCoordinator
import RidFirmware.Scheduler.Scheduler

/-! Overload. The scheduler discards the stalest payload of a full queue and counts it; the queues of
the two radios discard the newcomer and do not. -/

namespace RidFirmware
open Lib

def Transport.maximumPayload : Transport → Nat
  | .ble4 => kBleLegacyMaxPayloadSize
  | .ble5 => kBleExtendedMaxPayloadSize
  | .wifi24 => kMaxScheduledPayloadSize
  | .wifi58 => kMaxScheduledPayloadSize
  | .other _ _ => 0

/-- Payloads for one transport, which that transport can carry. -/
structure Burst (transport : Transport) where
  payloads : List ScheduledPayload
  addressed : ∀ payload ∈ payloads, payload.transport = transport
  sized : ∀ payload ∈ payloads, 0 < payload.size ∧ payload.size ≤ transport.maximumPayload

theorem Burst.other_nil {raw : UInt8} {unknown : 4 ≤ raw} (burst : Burst (.other raw unknown)) :
    burst.payloads = [] := by
  apply List.eq_nil_iff_forall_not_mem.mpr
  intro payload member
  have size := burst.sized payload member
  have most : Transport.maximumPayload (.other raw unknown) = 0 := rfl
  omega

theorem maximumPayload_le (transport : Transport) :
    transport.maximumPayload ≤ kMaxScheduledPayloadSize := by
  cases transport with
  | ble4 => exact (by decide : kBleLegacyMaxPayloadSize ≤ kMaxScheduledPayloadSize)
  | ble5 => exact (by decide : kBleExtendedMaxPayloadSize ≤ kMaxScheduledPayloadSize)
  | wifi24 => exact le_refl _
  | wifi58 => exact le_refl _
  | other raw unknown => exact Nat.zero_le _

/-- What a burst leaves in a queue, and the counters of its transport. -/
structure Leftover where
  pending : List ScheduledPayload
  stats : TransportStats

/-- The burst goes to a BLE transport, or to a Wi-Fi coordinator, that has just been made. -/
def liveAfter (dwellMs retryMs : Nat) (transport : Transport) (payloads : List ScheduledPayload) :
    Leftover :=
  if transport = .ble4 ∨ transport = .ble5 then
    let after := (BleTransport.machine.run {} (payloads.map .submit)).1
    { pending := after.pending.items, stats := after.stats (BleTransport.statsIndex transport) }
  else
    let after := (RadioCoordinator.machine.run { dwellMs, retryMs } (payloads.map .submit)).1
    { pending := (after.pending (RadioCoordinator.bandIndex transport)).items
      stats := after.stats (RadioCoordinator.bandIndex transport) }

def policyAfter (capacity : Nat) (transport : Transport) (payloads : List ScheduledPayload) : Leftover :=
  let after := (Scheduler.machine.run { capacityPerTransport := capacity } (payloads.map .enqueue)).1
  match Scheduler.transportIndex transport with
  | none => { pending := [], stats := {} }
  | some index =>
      { pending := (after.queues index).payloads, stats := (after.queues index).stats }

/-- The radio keeps what the scheduler keeps, and counts every payload it has discarded. -/
structure OnePolicy (payloads : List ScheduledPayload) (live policy : Leftover) : Prop where
  pending : live.pending.Perm policy.pending
  counted : live.stats.dropped = payloads.length - live.pending.length

theorem BoundedQueue.push_take {Item : Type} {capacity : Nat} {queue : BoundedQueue Item capacity}
    {items : List Item} (same : queue.items = items.take capacity) (item : Item) :
    (queue.push item = none ∧ queue.items = (items ++ [item]).take capacity) ∨
      ∃ next, queue.push item = some next ∧ next.items = (items ++ [item]).take capacity := by
  have length : queue.items.length = min capacity items.length := by
    rw [same, List.length_take]
  unfold BoundedQueue.push BoundedQueue.count
  by_cases room : queue.items.length < capacity
  · right
    rw [dif_pos room]
    refine ⟨_, rfl, ?_⟩
    show queue.items ++ [item] = _
    rw [same, List.take_of_length_le (by omega), List.take_of_length_le]
    rw [List.length_append, List.length_singleton]
    omega
  · left
    rw [dif_neg room]
    refine ⟨rfl, ?_⟩
    rw [same, List.take_append_of_le_length (by omega)]

/-- A radio keeps the payloads that came first, and counts none as dropped. -/
structure FirstCome (payloads : List ScheduledPayload) (left : Leftover) : Prop where
  pending : left.pending = payloads.take 16
  dropped : left.stats.dropped = 0

/-- A queue that takes items one by one as long as it has room holds those that came first. -/
theorem run_pushes {State Input Output Item : Type} {capacity : Nat} (machine : Machine State Input Output)
    (input : Item → Input) (queue : State → BoundedQueue Item capacity) (Fine : State → Prop)
    (start : State) (fine : Fine start) (empty : (queue start).items = []) (items : List Item)
    (step : ∀ state, Fine state → ∀ item ∈ items, Fine (machine.step state (input item)).1 ∧
      queue (machine.step state (input item)).1 = ((queue state).push item).getD (queue state)) :
    (queue (machine.run start (items.map input)).1).items = items.take capacity ∧
      Fine (machine.run start (items.map input)).1 := by
  induction items using List.reverseRecOn with
  | nil =>
    rw [List.take_nil]
    exact ⟨empty, fine⟩
  | append_singleton items item ih =>
    obtain ⟨pending, kept⟩ :=
      ih fun state fine other member => step state fine other (List.mem_append_left _ member)
    obtain ⟨still, next⟩ := step _ kept item (List.mem_append_right _ (List.mem_singleton.mpr rfl))
    rw [List.map_append, List.map_singleton, Machine.run_snoc]
    refine ⟨?_, still⟩
    dsimp only
    rw [next]
    rcases BoundedQueue.push_take pending item with ⟨full, taken⟩ | ⟨longer, pushed, taken⟩
    · rw [full]
      exact taken
    · rw [pushed]
      exact taken

theorem ble_burst {transport : Transport} (isBle : transport = .ble4 ∨ transport = .ble5)
    (burst : Burst transport) :
    (BleTransport.machine.run {} (burst.payloads.map .submit)).1.pending.items = burst.payloads.take 16 ∧
      ((BleTransport.machine.run {} (burst.payloads.map .submit)).1.stats
        (BleTransport.statsIndex transport)).dropped = 0 := by
  have pushes := run_pushes BleTransport.machine .submit BleTransport.pending
    (fun state => (state.stats (BleTransport.statsIndex transport)).dropped = 0 ∧
      state.shuttingDown = false ∧ state.shutDown = false) {} ⟨rfl, rfl, rfl⟩ rfl burst.payloads ?_
  · exact ⟨pushes.1, pushes.2.1⟩
  rintro state ⟨dropped, running, alive⟩ payload member
  have kind := burst.addressed payload member
  have size : 0 < payload.size ∧ payload.size ≤ BleTransport.maximumSize payload.transport := by
    have fits := burst.sized payload member
    rw [kind]
    rcases isBle with rfl | rfl
    · exact fits
    · exact fits
  rw [← kind] at isBle
  have stepped : (BleTransport.machine.step state (.submit payload)).1 = (state.submit payload).next := rfl
  rw [stepped, BleTransport.submit_fits running alive isBle size]
  cases state.pending.push payload with
  | none => exact ⟨⟨dropped, running, alive⟩, rfl⟩
  | some queue =>
    refine ⟨⟨?_, running, alive⟩, rfl⟩
    simp only [BleTransport.count, kind, Function.update_self]
    exact dropped

theorem wifi_burst {transport : Transport} (isWifi : transport = .wifi24 ∨ transport = .wifi58)
    (dwellMs retryMs : Nat) (burst : Burst transport) :
    ((RadioCoordinator.machine.run { dwellMs, retryMs } (burst.payloads.map .submit)).1.pending
        (RadioCoordinator.bandIndex transport)).items = burst.payloads.take 16 ∧
      ((RadioCoordinator.machine.run { dwellMs, retryMs } (burst.payloads.map .submit)).1.stats
        (RadioCoordinator.bandIndex transport)).dropped = 0 := by
  apply run_pushes RadioCoordinator.machine .submit
    (fun state => state.pending (RadioCoordinator.bandIndex transport))
    (fun state => (state.stats (RadioCoordinator.bandIndex transport)).dropped = 0)
    { dwellMs, retryMs } rfl rfl
  intro state dropped payload member
  have kind := burst.addressed payload member
  have size : 0 < payload.size ∧ payload.size ≤ kMaxScheduledPayloadSize := by
    have fits := burst.sized payload member
    exact ⟨fits.1, fits.2.trans (maximumPayload_le transport)⟩
  rw [← kind] at isWifi
  have stepped : (RadioCoordinator.machine.step state (.submit payload)).1 =
      (state.submit payload).next := rfl
  rw [stepped, RadioCoordinator.submit_fits isWifi size, kind]
  cases (state.pending (RadioCoordinator.bandIndex transport)).push payload with
  | none => exact ⟨dropped, rfl⟩
  | some queue =>
    simp only [RadioCoordinator.count, Function.update_self]
    exact ⟨dropped, rfl⟩

theorem live_firstCome (dwellMs retryMs : Nat) {transport : Transport} (burst : Burst transport) :
    FirstCome burst.payloads (liveAfter dwellMs retryMs transport burst.payloads) := by
  unfold liveAfter
  by_cases isBle : transport = .ble4 ∨ transport = .ble5
  · rw [if_pos isBle]
    obtain ⟨pending, dropped⟩ := ble_burst isBle burst
    exact ⟨pending, dropped⟩
  · rw [if_neg isBle]
    by_cases isWifi : transport = .wifi24 ∨ transport = .wifi58
    · obtain ⟨pending, dropped⟩ :=
        wifi_burst isWifi dwellMs retryMs burst
      exact ⟨pending, dropped⟩
    · cases transport with
      | ble4 => exact absurd (.inl rfl) isBle
      | ble5 => exact absurd (.inr rfl) isBle
      | wifi24 => exact absurd (.inl rfl) isWifi
      | wifi58 => exact absurd (.inr rfl) isWifi
      | other raw unknown =>
        rw [burst.other_nil]
        exact ⟨rfl, rfl⟩

theorem policy_room {capacity : Nat} {transport : Transport} {index : Fin 4}
    (known : Scheduler.transportIndex transport = some index) (payloads : List ScheduledPayload)
    (addressed : ∀ payload ∈ payloads, payload.transport = transport)
    (sized : ∀ payload ∈ payloads, 0 < payload.size ∧ payload.size ≤ transport.maximumPayload)
    (room : payloads.length ≤ capacity) :
    let after := (Scheduler.machine.run { capacityPerTransport := capacity }
      (payloads.map .enqueue)).1
    after.capacityPerTransport = capacity ∧ (after.queues index).payloads = payloads := by
  induction payloads using List.reverseRecOn with
  | nil => exact ⟨rfl, rfl⟩
  | append_singleton payloads payload ih =>
    rw [List.length_append, List.length_singleton] at room
    have earlier := ih (fun other member => addressed other (List.mem_append_left _ member))
      (fun other member => sized other (List.mem_append_left _ member)) (by omega)
    have own : payload ∈ payloads ++ [payload] := List.mem_append_right _ (List.mem_singleton.mpr rfl)
    have size := sized payload own
    have most := maximumPayload_le transport
    rw [← addressed payload own] at known
    rw [List.map_append, List.map_singleton, Machine.run_snoc]
    generalize (Scheduler.machine.run { capacityPerTransport := capacity } (payloads.map .enqueue)).1 =
      before at *
    obtain ⟨same, pending⟩ := earlier
    have stepped : (Scheduler.machine.step before (.enqueue payload)).1 =
        (before.enqueue payload).next := rfl
    dsimp only
    rw [stepped]
    have valid : ¬(!before.valid) = true := by
      simp only [Scheduler.valid, same]
      simp
      omega
    unfold Scheduler.enqueue
    rw [if_neg valid, known]
    dsimp only
    rw [if_neg (by omega), if_neg (by omega), same]
    have notFull : (before.queues index).payloads.length ≠ capacity := by
      rw [pending]
      omega
    have positive : 0 < capacity := by omega
    rcases (before.queues index).enqueue_cases positive payload with ⟨_, entered⟩ | ⟨full, _⟩ |
      ⟨_, full, _⟩
    · rw [entered, pending]
      refine ⟨same, ?_⟩
      simp only [Scheduler.setQueue, Function.update_self]
    · exact absurd full notFull
    · exact absurd full notFull

/-- The radios follow the overload policy of the scheduler exactly on bursts that fit their queues. -/
theorem one_policy_iff (dwellMs retryMs : Nat) (transport : Transport) (burst : Burst transport) :
    OnePolicy burst.payloads (liveAfter dwellMs retryMs transport burst.payloads)
        (policyAfter 16 transport burst.payloads) ↔ burst.payloads.length ≤ 16 := by
  obtain ⟨pending, dropped⟩ := live_firstCome dwellMs retryMs burst
  generalize liveAfter dwellMs retryMs transport burst.payloads = live at *
  constructor
  · intro policy
    have counted := policy.counted
    rw [dropped, pending, List.length_take] at counted
    omega
  · intro fits
    have all : live.pending = burst.payloads := by
      rw [pending, List.take_of_length_le fits]
    constructor
    · rw [all]
      unfold policyAfter
      cases known : Scheduler.transportIndex transport with
      | none =>
        cases transport with
        | other raw unknown => rw [burst.other_nil]
        | ble4 => cases known
        | ble5 => cases known
        | wifi24 => cases known
        | wifi58 => cases known
      | some index =>
        have kept := (policy_room known burst.payloads burst.addressed burst.sized fits).2
        dsimp only at kept ⊢
        rw [kept]
    · rw [dropped, all, Nat.sub_self]

/-- Seventeen payloads, each fresher than the one before. -/
def freshening (transport : Transport) : List ScheduledPayload :=
  (List.range 17).map fun index =>
    { sequence := index, transport, deadlineMs := 100 * index, size := 1 }

/-- The radio keeps the stalest payload and loses the freshest, the scheduler does the opposite, and only
the scheduler counts the loss. -/
structure LosesFreshest (transport : Transport) : Prop where
  live : (liveAfter 100 20 transport (freshening transport)).pending.map ScheduledPayload.sequence =
    List.range 16
  uncounted : (liveAfter 100 20 transport (freshening transport)).stats.dropped = 0
  policy : (policyAfter 16 transport (freshening transport)).pending.map ScheduledPayload.sequence =
    List.range' 1 16
  counted : (policyAfter 16 transport (freshening transport)).stats.dropped = 1

theorem LosesFreshest.split {transport : Transport} (loses : LosesFreshest transport) :
    ¬OnePolicy (freshening transport) (liveAfter 100 20 transport (freshening transport))
      (policyAfter 16 transport (freshening transport)) := by
  intro onePolicy
  have same := onePolicy.pending.map ScheduledPayload.sequence
  rw [loses.live, loses.policy] at same
  have first := same.mem_iff.mp (List.mem_range.mpr (by decide : 0 < 16))
  exact absurd first (by decide)

/-- On no transport the seventeen payloads are served by one policy. -/
theorem freshest_refused :
    (LosesFreshest .ble4 ∧ LosesFreshest .ble5 ∧ LosesFreshest .wifi24 ∧ LosesFreshest .wifi58) ∧
      ¬OnePolicy (freshening .ble4) (liveAfter 100 20 .ble4 (freshening .ble4))
        (policyAfter 16 .ble4 (freshening .ble4)) ∧
      ¬OnePolicy (freshening .ble5) (liveAfter 100 20 .ble5 (freshening .ble5))
        (policyAfter 16 .ble5 (freshening .ble5)) ∧
      ¬OnePolicy (freshening .wifi24) (liveAfter 100 20 .wifi24 (freshening .wifi24))
        (policyAfter 16 .wifi24 (freshening .wifi24)) ∧
      ¬OnePolicy (freshening .wifi58) (liveAfter 100 20 .wifi58 (freshening .wifi58))
        (policyAfter 16 .wifi58 (freshening .wifi58)) := by
  have ble4 : LosesFreshest .ble4 := by
    constructor <;> decide +kernel
  have ble5 : LosesFreshest .ble5 := by
    constructor <;> decide +kernel
  have wifi24 : LosesFreshest .wifi24 := by
    constructor <;> decide +kernel
  have wifi58 : LosesFreshest .wifi58 := by
    constructor <;> decide +kernel
  exact ⟨⟨ble4, ble5, wifi24, wifi58⟩, ble4.split, ble5.split, wifi24.split, wifi58.split⟩

end RidFirmware
