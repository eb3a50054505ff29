import RidFirmware.Lib.Largest
import RidFirmware.Scheduler.Scheduler

/-! What a burst leaves in a queue of the scheduler: the payloads with the latest deadlines, whatever the
order in which they came. -/

namespace RidFirmware
open Lib

namespace Scheduler

/-- A payload that `enqueue` takes for a transport. -/
structure WellFormed (transport : Transport) (payload : ScheduledPayload) : Prop where
  addressed : payload.transport = transport
  filled : 0 < payload.size
  fits : payload.size ≤ kMaxScheduledPayloadSize

/-- A queue during a burst: it has the largest keys so far, and what is missing has been counted on top
of the losses before. -/
structure Holding (index : Fin 4) (capacity before : Nat) (scheduler : Scheduler)
    (payloads lost : List ScheduledPayload) : Prop where
  sized : scheduler.capacityPerTransport = capacity
  largest : Largest ScheduledPayload.key capacity payloads (scheduler.queues index).payloads lost
  counted : (scheduler.queues index).stats.dropped = saturated (before + lost.length)

/-- What `enqueue` does with a payload it takes. -/
theorem step_enqueue {scheduler : Scheduler} (positive : 0 < scheduler.capacityPerTransport)
    {transport : Transport} {index : Fin 4} (known : transportIndex transport = some index)
    {payload : ScheduledPayload} (wellFormed : WellFormed transport payload) :
    (machine.step scheduler (.enqueue payload)).1 = scheduler.setQueue index
      ((scheduler.queues index).enqueue scheduler.capacityPerTransport payload).1 := by
  have valid : ¬(!scheduler.valid) = true := by
    unfold Scheduler.valid
    rw [decide_eq_true positive]
    exact Bool.false_ne_true
  have filled : payload.size ≠ 0 := Nat.ne_of_gt wellFormed.filled
  show (scheduler.enqueue payload).next = _
  unfold Scheduler.enqueue
  rw [if_neg valid, wellFormed.addressed, known]
  dsimp only
  rw [if_neg filled, if_neg (Nat.not_lt.mpr wellFormed.fits)]

theorem Holding.enqueue {index : Fin 4} {capacity before : Nat} {scheduler : Scheduler}
    {payloads lost : List ScheduledPayload} (holding : Holding index capacity before scheduler payloads lost)
    (positive : 0 < capacity) {transport : Transport} (known : transportIndex transport = some index)
    {payload : ScheduledPayload} (wellFormed : WellFormed transport payload) :
    ∃ missing, Holding index capacity before (machine.step scheduler (.enqueue payload)).1
      (payloads ++ [payload]) missing := by
  obtain ⟨rfl, largest, counted⟩ := holding
  have oneMore : ∀ item : ScheduledPayload,
      saturatingIncrement (scheduler.queues index).stats.dropped =
        saturated (before + (lost ++ [item]).length) := by
    intro item
    rw [counted, saturatingIncrement_saturated, List.length_append, List.length_singleton,
      Nat.add_assoc]
  rw [step_enqueue positive known wellFormed]
  rcases (scheduler.queues index).enqueue_cases positive payload with ⟨notFull, entered⟩ |
    ⟨full, stale, entered⟩ | ⟨oldest, full, found, least, newer, entered⟩
  · rw [entered]
    refine ⟨lost, rfl, ?_, ?_⟩
    · rw [setQueue_own]
      exact largest.room notFull payload
    · rw [setQueue_own]
      exact counted
  · rw [entered]
    refine ⟨lost ++ [payload], rfl, ?_, ?_⟩
    · rw [setQueue_own]
      exact largest.refuse full (fun waiting member => (stale waiting member).le)
    · rw [setQueue_own]
      exact oneMore payload
  · rw [entered]
    refine ⟨lost ++ [oldest], rfl, ?_, ?_⟩
    · rw [setQueue_own]
      exact largest.replace full found least newer
    · rw [setQueue_own]
      exact oneMore oldest

/-- A whole burst into an empty queue. -/
theorem run_holding {scheduler : Scheduler} (positive : 0 < scheduler.capacityPerTransport)
    {transport : Transport} {index : Fin 4} (known : transportIndex transport = some index)
    (empty : (scheduler.queues index).payloads = [])
    (counter : (scheduler.queues index).stats.dropped ≤ kCounterMax) (payloads : List ScheduledPayload)
    (wellFormed : ∀ payload ∈ payloads, WellFormed transport payload) :
    ∃ lost, Holding index scheduler.capacityPerTransport (scheduler.queues index).stats.dropped
      (machine.run scheduler (payloads.map .enqueue)).1 payloads lost := by
  induction payloads using List.reverseRecOn with
  | nil =>
    refine ⟨[], rfl, ?_, (Nat.min_eq_left counter).symm⟩
    rw [List.map_nil, Machine.run_nil, empty]
    exact Largest.start
  | append_singleton payloads payload ih =>
    obtain ⟨lost, holding⟩ := ih fun other member => wellFormed other (List.mem_append_left _ member)
    have own := wellFormed payload (List.mem_append_right _ (List.mem_singleton.mpr rfl))
    rw [List.map_append, List.map_singleton, Machine.run_snoc]
    exact holding.enqueue positive known own

/-- The scheduler keeps the freshest: after a burst into an empty queue it holds the largest keys of the
whole burst, as many as there is room for, has counted the rest as dropped as far as its counter
reaches, and holds the same payloads for every order of arrival if the keys are distinct. -/
theorem keeps_freshest (scheduler : Scheduler) (positive : 0 < scheduler.capacityPerTransport)
    {transport : Transport} {index : Fin 4} (known : transportIndex transport = some index)
    (empty : (scheduler.queues index).payloads = [])
    (counter : (scheduler.queues index).stats.dropped ≤ kCounterMax) (payloads : List ScheduledPayload)
    (wellFormed : ∀ payload ∈ payloads, WellFormed transport payload) :
    let kept := min payloads.length scheduler.capacityPerTransport
    let after := (machine.run scheduler (payloads.map .enqueue)).1.queues index
    (after.payloads.map ScheduledPayload.key).Perm
        (((payloads.map ScheduledPayload.key).insertionSort (· ≥ ·)).take kept) ∧
      after.stats.dropped =
        min ((scheduler.queues index).stats.dropped + (payloads.length - kept)) kCounterMax ∧
      ((payloads.map ScheduledPayload.key).Nodup → ∀ arrivals, payloads.Perm arrivals →
        after.payloads.Perm ((machine.run scheduler (arrivals.map .enqueue)).1.queues index).payloads) := by
  obtain ⟨lost, holding⟩ := run_holding positive known empty counter payloads wellFormed
  refine ⟨holding.largest.keys, ?_, ?_⟩
  · rw [holding.counted, holding.largest.lost_length]
    rfl
  · intro distinct arrivals same
    obtain ⟨others, holding'⟩ := run_holding positive known empty counter arrivals
      fun payload member => wellFormed payload (same.mem_iff.mpr member)
    exact holding.largest.kept_perm holding'.largest same distinct

def dueAt (deadlineMs : Nat) : ScheduledPayload := { deadlineMs, size := 1 }

theorem dueAt_wellFormed (deadlineMs : Nat) : WellFormed .ble4 (dueAt deadlineMs) :=
  ⟨rfl, Nat.one_pos, (by decide : 1 ≤ kMaxScheduledPayloadSize)⟩

/-- Three payloads for two places. -/
theorem keeps_freshest_of_three :
    let after := (machine.run { capacityPerTransport := 2 }
      ([dueAt 3, dueAt 1, dueAt 2].map .enqueue)).1.queues 0
    (after.payloads.map ScheduledPayload.key).Perm
        ((([dueAt 3, dueAt 1, dueAt 2].map ScheduledPayload.key).insertionSort (· ≥ ·)).take 2) ∧
      after.stats.dropped = min (0 + (3 - 2)) kCounterMax ∧
      (([dueAt 3, dueAt 1, dueAt 2].map ScheduledPayload.key).Nodup →
        ∀ arrivals, [dueAt 3, dueAt 1, dueAt 2].Perm arrivals → after.payloads.Perm
          ((machine.run { capacityPerTransport := 2 } (arrivals.map .enqueue)).1.queues 0).payloads) := by
  have wellFormed : ∀ payload ∈ [dueAt 3, dueAt 1, dueAt 2], WellFormed .ble4 payload := by
    intro payload member
    simp only [List.mem_cons, List.not_mem_nil, or_false] at member
    rcases member with rfl | rfl | rfl
    · exact dueAt_wellFormed 3
    · exact dueAt_wellFormed 1
    · exact dueAt_wellFormed 2
  exact keeps_freshest { capacityPerTransport := 2 } (by decide) (by decide : transportIndex .ble4 = some 0)
    rfl (by decide) _ wellFormed

/-- One place and 2^64 + 1 equal payloads: the counter ends one short of what has been dropped. -/
theorem dropped_counter_saturates :
    let burst := List.replicate (2 ^ 64 + 1) (dueAt 0)
    (∀ payload ∈ burst, WellFormed .ble4 payload) ∧
      ((machine.run { capacityPerTransport := 1 } (burst.map .enqueue)).1.queues 0).stats.dropped ≠
        burst.length - min burst.length 1 := by
  have long : ∀ count, count = 2 ^ 64 + 1 → (∀ payload ∈ List.replicate count (dueAt 0),
      WellFormed .ble4 payload) ∧ ((machine.run { capacityPerTransport := 1 }
        ((List.replicate count (dueAt 0)).map .enqueue)).1.queues 0).stats.dropped ≠
          (List.replicate count (dueAt 0)).length - min (List.replicate count (dueAt 0)).length 1 := by
    intro count large
    have wellFormed : ∀ payload ∈ List.replicate count (dueAt 0), WellFormed .ble4 payload := by
      intro payload member
      rw [List.eq_of_mem_replicate member]
      exact dueAt_wellFormed 0
    obtain ⟨lost, holding⟩ := @run_holding { capacityPerTransport := 1 } (by decide) _ _
      (by decide : transportIndex .ble4 = some 0) rfl (by decide) _ wellFormed
    have lostCount := holding.largest.lost_length
    have counted := holding.counted
    refine ⟨wellFormed, ?_⟩
    rw [counted, lostCount, List.length_replicate]
    unfold saturated kCounterMax
    dsimp only
    omega
  exact long _ rfl

end Scheduler

end RidFirmware
