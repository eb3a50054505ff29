import RidFirmware.Lib.Machine
import RidFirmware.Scheduler.Payload

/-! The scheduler: a queue per transport, served by deadline. A full queue keeps the freshest payloads.
Every payload it has taken waits, has been returned once, or has been counted as dropped once. -/

namespace RidFirmware
open Lib

inductive SchedulerEvent where
  | accepted (payload : ScheduledPayload)
  | dropped (payload : ScheduledPayload)
  | returned (payload : ScheduledPayload)

structure TransportQueue where
  payloads : List ScheduledPayload := []
  stats : TransportStats := {}

namespace TransportQueue

variable (queue : TransportQueue)

def count (update : TransportStats → TransportStats) : TransportQueue :=
  { queue with stats := update queue.stats }

/-- `std::min_element` by deadline and sequence number. -/
def oldest : Nat := earliestIndex ScheduledPayload.earlier queue.payloads

/-- The part of `enqueue` after its checks. -/
def enqueue (capacity : Nat) (payload : ScheduledPayload) : TransportQueue × List SchedulerEvent :=
  let queue := queue.count fun stats => { stats with expected := saturatingIncrement stats.expected }
  if queue.payloads.length = capacity then
    let full := queue.count fun stats => { stats with dropped := saturatingIncrement stats.dropped }
    match queue.payloads[queue.oldest]? with
    | none => (full, [.accepted payload])
    | some oldest =>
        if payload.earlier oldest then (full, [.accepted payload, .dropped payload])
        else ({ full with payloads := queue.payloads.eraseIdx queue.oldest ++ [payload] },
          [.accepted payload, .dropped oldest])
  else ({ queue with payloads := queue.payloads ++ [payload] }, [.accepted payload])

/-- The loop of `pop_next` that removes what has expired. -/
def removeExpired (nowMs : Nat) :
    List ScheduledPayload → TransportStats → TransportQueue × List SchedulerEvent
  | [], stats => ({ payloads := [], stats }, [])
  | item :: rest, stats =>
      if item.expired nowMs then
        let later := removeExpired nowMs rest
          { stats with dropped := saturatingIncrement stats.dropped }
        (later.1, .dropped item :: later.2)
      else
        let later := removeExpired nowMs rest stats
        ({ later.1 with payloads := item :: later.1.payloads }, later.2)

/-- The part of `pop_next` after its check. -/
def popNext (nowMs : Nat) : Option ScheduledPayload × TransportQueue × List SchedulerEvent :=
  let purged := removeExpired nowMs queue.payloads queue.stats
  match purged.1.payloads[purged.1.oldest]? with
  | none => (none, purged)
  | some next =>
      let taken := { purged.1 with payloads := purged.1.payloads.eraseIdx purged.1.oldest }
      (some next,
        taken.count fun stats => { stats with
          late := if next.deadlineMs < nowMs then saturatingIncrement stats.late else stats.late },
        purged.2 ++ [.returned next])

end TransportQueue

structure Scheduler where
  capacityPerTransport : Nat
  queues : Fin 4 → TransportQueue := fun _ => {}

/-- The counters that callers of the scheduler report. -/
inductive Record where
  | submitted
  | completed
  | encodeError
  | radioError

def Record.apply : Record → TransportStats → TransportStats
  | .submitted, stats => { stats with submitted := saturatingIncrement stats.submitted }
  | .completed, stats => { stats with completed := saturatingIncrement stats.completed }
  | .encodeError, stats => { stats with encodeErrors := saturatingIncrement stats.encodeErrors }
  | .radioError, stats => { stats with radioErrors := saturatingIncrement stats.radioErrors }

namespace Scheduler

def transportIndex (transport : Transport) : Option (Fin 4) :=
  if valid : transport.toRaw.toNat < 4 then some ⟨transport.toRaw.toNat, valid⟩ else none

/-- A result with the scheduler after the call and what was observed of it. -/
structure Outcome (Result : Type) where
  result : Result
  next : Scheduler
  events : List (Fin 4 × SchedulerEvent) := []

variable (scheduler : Scheduler)

def valid : Bool := decide (0 < scheduler.capacityPerTransport)

def setQueue (index : Fin 4) (queue : TransportQueue) : Scheduler :=
  { scheduler with queues := Function.update scheduler.queues index queue }

def enqueue (payload : ScheduledPayload) : Outcome ScheduleError :=
  if !scheduler.valid then { result := .zeroCapacity, next := scheduler }
  else match transportIndex payload.transport with
    | none => { result := .invalidTransport, next := scheduler }
    | some index =>
        if payload.size = 0 then { result := .invalidPayload, next := scheduler }
        else if kMaxScheduledPayloadSize < payload.size then
          { result := .payloadTooLarge, next := scheduler }
        else
          let queued := (scheduler.queues index).enqueue scheduler.capacityPerTransport payload
          { result := .none
            next := scheduler.setQueue index queued.1
            events := queued.2.map fun event => (index, event) }

def popNext (transport : Transport) (nowMs : Nat) : Outcome (Option ScheduledPayload) :=
  match transportIndex transport with
  | none => { result := none, next := scheduler }
  | some index =>
      let popped := (scheduler.queues index).popNext nowMs
      { result := popped.1
        next := scheduler.setQueue index popped.2.1
        events := popped.2.2.map fun event => (index, event) }

def depth (transport : Transport) : Nat :=
  match transportIndex transport with
  | none => 0
  | some index => (scheduler.queues index).payloads.length

def stats (transport : Transport) : TransportStats :=
  match transportIndex transport with
  | none => {}
  | some index => (scheduler.queues index).stats

/-- `record_submitted`, `record_completed`, `record_encode_error` and `record_radio_error`. -/
def record (which : Record) (transport : Transport) : Scheduler :=
  match transportIndex transport with
  | none => scheduler
  | some index => scheduler.setQueue index ((scheduler.queues index).count which.apply)

end Scheduler

inductive SchedulerInput where
  | enqueue (payload : ScheduledPayload)
  | popNext (transport : Transport) (nowMs : Nat)
  | record (which : Record) (transport : Transport)

def SchedulerInput.transport : SchedulerInput → Transport
  | .enqueue payload => payload.transport
  | .popNext transport _ => transport
  | .record _ transport => transport

namespace Scheduler

def machine : Machine Scheduler SchedulerInput (Fin 4 × SchedulerEvent) where
  step scheduler
    | .enqueue payload => ((scheduler.enqueue payload).next, (scheduler.enqueue payload).events)
    | .popNext transport nowMs =>
        ((scheduler.popNext transport nowMs).next, (scheduler.popNext transport nowMs).events)
    | .record which transport => (scheduler.record which transport, [])

end Scheduler

/-! The books of one queue. -/

def acceptedIn (events : List SchedulerEvent) : List ScheduledPayload :=
  events.filterMap fun event => match event with
    | .accepted payload => some payload
    | _ => none

def droppedIn (events : List SchedulerEvent) : List ScheduledPayload :=
  events.filterMap fun event => match event with
    | .dropped payload => some payload
    | _ => none

def returnedIn (events : List SchedulerEvent) : List ScheduledPayload :=
  events.filterMap fun event => match event with
    | .returned payload => some payload
    | _ => none

@[simp] theorem acceptedIn_append (first second : List SchedulerEvent) :
    acceptedIn (first ++ second) = acceptedIn first ++ acceptedIn second := List.filterMap_append

@[simp] theorem droppedIn_append (first second : List SchedulerEvent) :
    droppedIn (first ++ second) = droppedIn first ++ droppedIn second := List.filterMap_append

@[simp] theorem returnedIn_append (first second : List SchedulerEvent) :
    returnedIn (first ++ second) = returnedIn first ++ returnedIn second := List.filterMap_append

/-- A queue against everything that has happened to it. -/
structure Kept (capacity : Nat) (queue : TransportQueue) (events : List SchedulerEvent) : Prop where
  bounded : queue.payloads.length ≤ capacity
  conserved : (acceptedIn events).Perm (returnedIn events ++ droppedIn events ++ queue.payloads)
  expected : queue.stats.expected = saturated (acceptedIn events).length
  dropped : queue.stats.dropped = saturated (droppedIn events).length

section
variable {capacity : Nat} {queue : TransportQueue} {events : List SchedulerEvent}

theorem kept_start : Kept capacity {} [] :=
  ⟨Nat.zero_le _, List.Perm.refl _, rfl, rfl⟩

theorem TransportQueue.oldest_spec (queue : TransportQueue) (present : queue.payloads ≠ []) :
    ∃ item, queue.payloads[queue.oldest]? = some item ∧
      ∀ other ∈ queue.payloads, item.key ≤ other.key :=
  earliestIndex_spec ScheduledPayload.earlier_iff present

/-- The three ways a payload can enter a queue: it is appended, it is itself discarded, or it takes the
place of the oldest. -/
theorem TransportQueue.enqueue_cases (queue : TransportQueue) {capacity : Nat} (positive : 0 < capacity)
    (payload : ScheduledPayload) :
    let entered := queue.enqueue capacity payload
    let expected := saturatingIncrement queue.stats.expected
    let dropped := saturatingIncrement queue.stats.dropped
    (queue.payloads.length ≠ capacity ∧ entered =
      ({ payloads := queue.payloads ++ [payload], stats := { queue.stats with expected } },
        [.accepted payload])) ∨
    (queue.payloads.length = capacity ∧ (∀ waiting ∈ queue.payloads, payload.key < waiting.key) ∧ entered =
      ({ payloads := queue.payloads, stats := { queue.stats with expected, dropped } },
        [.accepted payload, .dropped payload])) ∨
    ∃ oldest, queue.payloads.length = capacity ∧ queue.payloads[queue.oldest]? = some oldest ∧
      (∀ waiting ∈ queue.payloads, oldest.key ≤ waiting.key) ∧ oldest.key ≤ payload.key ∧ entered =
      ({ payloads := queue.payloads.eraseIdx queue.oldest ++ [payload],
         stats := { queue.stats with expected, dropped } },
        [.accepted payload, .dropped oldest]) := by
  unfold TransportQueue.enqueue
  dsimp only [TransportQueue.count]
  by_cases full : queue.payloads.length = capacity
  · rw [if_pos full]
    have present : queue.payloads ≠ [] := by
      intro empty
      rw [empty, List.length_nil] at full
      omega
    obtain ⟨oldest, found, least⟩ := queue.oldest_spec present
    have same : (TransportQueue.mk queue.payloads
        { queue.stats with expected := saturatingIncrement queue.stats.expected }).oldest =
        queue.oldest := rfl
    rw [same, found]
    dsimp only
    by_cases stale : payload.earlier oldest = true
    · rw [if_pos stale]
      have earlier := (ScheduledPayload.earlier_iff payload oldest).mp stale
      exact .inr (.inl ⟨full, fun waiting member => earlier.trans_le (least waiting member), rfl⟩)
    · rw [if_neg stale]
      have newer : oldest.key ≤ payload.key :=
        not_lt.mp (fun earlier => stale ((ScheduledPayload.earlier_iff payload oldest).mpr earlier))
      exact .inr (.inr ⟨oldest, full, rfl, least, newer, rfl⟩)
  · rw [if_neg full]
    exact .inl ⟨full, rfl⟩

theorem Kept.extend (kept : Kept capacity queue events) {next : TransportQueue}
    {later : List SchedulerEvent} (bounded : next.payloads.length ≤ capacity)
    (moved : ((acceptedIn later) ++ queue.payloads).Perm
      (returnedIn later ++ droppedIn later ++ next.payloads))
    (expected : next.stats.expected =
      saturated ((acceptedIn events).length + (acceptedIn later).length))
    (dropped : next.stats.dropped =
      saturated ((droppedIn events).length + (droppedIn later).length)) :
    Kept capacity next (events ++ later) := by
  constructor
  · exact bounded
  · apply List.perm_iff_count.mpr
    intro payload
    have before := kept.conserved.count_eq payload
    have change := moved.count_eq payload
    simp only [acceptedIn_append, returnedIn_append, droppedIn_append, List.count_append] at *
    omega
  · rw [acceptedIn_append, List.length_append]
    exact expected
  · rw [droppedIn_append, List.length_append]
    exact dropped

theorem Kept.enqueue (kept : Kept capacity queue events) (positive : 0 < capacity)
    (payload : ScheduledPayload) :
    Kept capacity (queue.enqueue capacity payload).1
      (events ++ (queue.enqueue capacity payload).2) := by
  have bounded := kept.bounded
  have expected : saturatingIncrement queue.stats.expected =
      saturated ((acceptedIn events).length + 1) := by
    rw [kept.expected, saturatingIncrement_saturated]
  have dropped : saturatingIncrement queue.stats.dropped =
      saturated ((droppedIn events).length + 1) := by
    rw [kept.dropped, saturatingIncrement_saturated]
  rcases queue.enqueue_cases positive payload with ⟨room, entered⟩ | ⟨full, _, entered⟩ |
    ⟨oldest, full, found, _, _, entered⟩
  · rw [entered]
    apply kept.extend
    · rw [List.length_append, List.length_singleton]
      omega
    · exact (List.perm_append_singleton payload queue.payloads).symm
    · exact expected
    · exact kept.dropped
  · rw [entered]
    apply kept.extend
    · exact bounded
    · exact List.Perm.refl _
    · exact expected
    · exact dropped
  · rw [entered]
    have moved := perm_cons_eraseIdx found
    apply kept.extend
    · have length := moved.length_eq
      rw [List.length_cons] at length
      rw [List.length_append, List.length_singleton]
      omega
    · have swapped := (List.perm_append_singleton payload (queue.payloads.eraseIdx queue.oldest)).symm
      exact (moved.cons payload).trans ((List.Perm.swap _ _ _).trans (swapped.cons oldest))
    · exact expected
    · exact dropped

theorem removeExpired_spec (nowMs : Nat) (payloads : List ScheduledPayload) (stats : TransportStats) :
    let purged := TransportQueue.removeExpired nowMs payloads stats
    purged.1.payloads = payloads.filter (fun item => !item.expired nowMs) ∧
      purged.2 = (payloads.filter fun item => item.expired nowMs).map .dropped := by
  induction payloads generalizing stats with
  | nil => exact ⟨rfl, rfl⟩
  | cons item rest ih =>
    unfold TransportQueue.removeExpired
    cases gone : item.expired nowMs with
    | true =>
      obtain ⟨kept, events⟩ := ih { stats with dropped := saturatingIncrement stats.dropped }
      simp only [if_true, List.filter_cons, gone, Bool.not_true, Bool.false_eq_true, if_false,
        List.map_cons]
      exact ⟨kept, congrArg _ events⟩
    | false =>
      obtain ⟨kept, events⟩ := ih stats
      simp only [Bool.false_eq_true, if_false, List.filter_cons, gone, Bool.not_false, if_true]
      exact ⟨congrArg _ kept, events⟩

theorem countP_expired_cons {nowMs : Nat} {payload : ScheduledPayload} {rest : List ScheduledPayload} :
    (payload :: rest).countP (·.expired nowMs) =
      (if payload.expired nowMs then 1 else 0) + rest.countP (·.expired nowMs) := by
  rw [List.countP_cons, Nat.add_comm]

/-- The counters after `count` more losses. -/
def TransportStats.lose (stats : TransportStats) (count : Nat) : TransportStats :=
  { stats with dropped := saturatingIncrement^[count] stats.dropped }

theorem removeExpired_stats (nowMs : Nat) (payloads : List ScheduledPayload) (stats : TransportStats) :
    (TransportQueue.removeExpired nowMs payloads stats).1.stats =
      stats.lose (payloads.countP (·.expired nowMs)) := by
  induction payloads generalizing stats with
  | nil => rfl
  | cons payload rest ih =>
    unfold TransportQueue.removeExpired
    cases gone : payload.expired nowMs with
    | true =>
      rw [countP_expired_cons, gone, if_pos rfl, if_pos rfl, Nat.add_comm, TransportStats.lose,
        Function.iterate_succ_apply]
      exact ih { stats with dropped := saturatingIncrement stats.dropped }
    | false =>
      rw [countP_expired_cons, gone, if_neg Bool.false_ne_true, if_neg Bool.false_ne_true, Nat.zero_add]
      exact ih stats

theorem events_map_dropped (payloads : List ScheduledPayload) :
    acceptedIn (payloads.map .dropped) = [] ∧ returnedIn (payloads.map .dropped) = [] ∧
      droppedIn (payloads.map .dropped) = payloads := by
  induction payloads with
  | nil => exact ⟨rfl, rfl, rfl⟩
  | cons payload rest ih => exact ⟨ih.1, ih.2.1, congrArg (payload :: ·) ih.2.2⟩

theorem Kept.removeExpired (kept : Kept capacity queue events) (nowMs : Nat) :
    let purged := TransportQueue.removeExpired nowMs queue.payloads queue.stats
    Kept capacity purged.1 (events ++ purged.2) := by
  dsimp only
  obtain ⟨payloads, gone⟩ := removeExpired_spec nowMs queue.payloads queue.stats
  have counted := removeExpired_stats nowMs queue.payloads queue.stats
  generalize TransportQueue.removeExpired nowMs queue.payloads queue.stats = purged at *
  obtain ⟨accepted, returned, lost⟩ :=
    events_map_dropped (queue.payloads.filter fun item => item.expired nowMs)
  rw [← gone] at accepted returned lost
  apply kept.extend
  · rw [payloads]
    exact (List.length_filter_le _ _).trans kept.bounded
  · rw [accepted, returned, lost, payloads, List.nil_append, List.nil_append]
    exact (List.filter_append_perm _ queue.payloads).symm
  · rw [counted, accepted]
    exact kept.expected
  · rw [counted, lost, ← List.countP_eq_length_filter, ← iterate_saturatingIncrement, ← kept.dropped]
    rfl

theorem Kept.popNext (kept : Kept capacity queue events) (nowMs : Nat) :
    Kept capacity (queue.popNext nowMs).2.1 (events ++ (queue.popNext nowMs).2.2) := by
  have purged := kept.removeExpired nowMs
  dsimp only at purged
  unfold TransportQueue.popNext
  generalize TransportQueue.removeExpired nowMs queue.payloads queue.stats = left at *
  dsimp only
  split
  · exact purged
  · rename_i next found
    have moved := perm_cons_eraseIdx found
    rw [← List.append_assoc]
    apply purged.extend
    · exact (List.length_eraseIdx_le _ _).trans purged.bounded
    · exact moved
    · exact purged.expected
    · exact purged.dropped

theorem Kept.record (kept : Kept capacity queue events) (which : Record) :
    Kept capacity (queue.count which.apply) events := by
  cases which with
  | submitted => exact ⟨kept.bounded, kept.conserved, kept.expected, kept.dropped⟩
  | completed => exact ⟨kept.bounded, kept.conserved, kept.expected, kept.dropped⟩
  | encodeError => exact ⟨kept.bounded, kept.conserved, kept.expected, kept.dropped⟩
  | radioError => exact ⟨kept.bounded, kept.conserved, kept.expected, kept.dropped⟩

end

/-! The scheduler. -/

namespace Scheduler

def eventsOf (index : Fin 4) (log : List (Fin 4 × SchedulerEvent)) : List SchedulerEvent :=
  log.filterMap fun entry => if entry.1 = index then some entry.2 else none

theorem eventsOf_append (index : Fin 4) (first second : List (Fin 4 × SchedulerEvent)) :
    eventsOf index (first ++ second) = eventsOf index first ++ eventsOf index second :=
  List.filterMap_append

theorem eventsOf_map (index own : Fin 4) (events : List SchedulerEvent) :
    eventsOf index (events.map fun event => (own, event)) = if own = index then events else [] := by
  unfold eventsOf
  rw [List.filterMap_map]
  by_cases same : own = index
  · simp [same]
  · simp [same]

/-- The books of every queue. -/
def Booked (capacity : Nat) (scheduler : Scheduler) (log : List (Fin 4 × SchedulerEvent)) : Prop :=
  scheduler.capacityPerTransport = capacity ∧
    ∀ index, Kept capacity (scheduler.queues index) (eventsOf index log)

section
variable {capacity : Nat} {scheduler : Scheduler} {log : List (Fin 4 × SchedulerEvent)}

theorem Booked.setQueue (booked : Booked capacity scheduler log) (index : Fin 4)
    {queue : TransportQueue} {events : List SchedulerEvent}
    (kept : Kept capacity queue (eventsOf index log ++ events)) :
    Booked capacity (scheduler.setQueue index queue)
      (log ++ events.map fun event => (index, event)) := by
  refine ⟨booked.1, fun other => ?_⟩
  rw [eventsOf_append, eventsOf_map]
  unfold Scheduler.setQueue
  dsimp only
  by_cases same : index = other
  · subst same
    rw [if_pos rfl, Function.update_self]
    exact kept
  · rw [if_neg same, Function.update_of_ne (Ne.symm same), List.append_nil]
    exact booked.2 other

theorem Booked.enqueue (booked : Booked capacity scheduler log) (payload : ScheduledPayload) :
    Booked capacity (scheduler.enqueue payload).next (log ++ (scheduler.enqueue payload).events) := by
  have unchanged : Booked capacity scheduler (log ++ []) := by
    rw [List.append_nil]
    exact booked
  unfold Scheduler.enqueue
  by_cases invalid : (!scheduler.valid) = true
  · rw [if_pos invalid]
    exact unchanged
  · rw [if_neg invalid]
    have positive : 0 < capacity := by
      rw [← booked.1]
      simpa [Scheduler.valid, Nat.pos_iff_ne_zero] using invalid
    cases transportIndex payload.transport with
    | none => exact unchanged
    | some index =>
      dsimp only
      split_ifs
      · exact unchanged
      · exact unchanged
      · rw [booked.1]
        exact booked.setQueue index ((booked.2 index).enqueue positive payload)

theorem Booked.popNext (booked : Booked capacity scheduler log) (transport : Transport) (nowMs : Nat) :
    Booked capacity (scheduler.popNext transport nowMs).next
      (log ++ (scheduler.popNext transport nowMs).events) := by
  unfold Scheduler.popNext
  split
  · rw [List.append_nil]
    exact booked
  · rename_i index _
    exact booked.setQueue index ((booked.2 index).popNext nowMs)

theorem Booked.record (booked : Booked capacity scheduler log) (which : Record)
    (transport : Transport) : Booked capacity (scheduler.record which transport) log := by
  unfold Scheduler.record
  split
  · exact booked
  · rename_i index _
    have kept := (booked.2 index).record which
    rw [← List.append_nil (eventsOf index log)] at kept
    have after := booked.setQueue index kept
    rw [List.map_nil, List.append_nil] at after
    exact after

theorem run_booked (capacity : Nat) (inputs : List SchedulerInput) :
    let ran := machine.run { capacityPerTransport := capacity } inputs
    Booked capacity ran.1 ran.2 := by
  apply machine.run_invariant (Booked capacity)
  · intro scheduler log input booked
    cases input with
    | enqueue payload => exact booked.enqueue payload
    | popNext transport nowMs => exact booked.popNext transport nowMs
    | record which transport =>
      show Booked capacity (scheduler.record which transport) (log ++ [])
      rw [List.append_nil]
      exact booked.record which transport
  · exact ⟨rfl, fun _ => kept_start⟩

end

/-- The payloads a transport has taken, and those it has returned. -/
def accepted (transport : Transport) (log : List (Fin 4 × SchedulerEvent)) : List ScheduledPayload :=
  match transportIndex transport with
  | none => []
  | some index => acceptedIn (eventsOf index log)

def returned (transport : Transport) (log : List (Fin 4 × SchedulerEvent)) : List ScheduledPayload :=
  match transportIndex transport with
  | none => []
  | some index => returnedIn (eventsOf index log)

/-- What holds of a transport at every point of a run. -/
structure Conserves (scheduler : Scheduler) (log : List (Fin 4 × SchedulerEvent))
    (transport : Transport) : Prop where
  bounded : scheduler.depth transport ≤ scheduler.capacityPerTransport
  counters : (scheduler.stats transport).expected < kCounterMax →
    (scheduler.stats transport).expected = (scheduler.stats transport).dropped +
      scheduler.depth transport + (returned transport log).length
  once : ∀ payload, (returned transport log).count payload ≤ (accepted transport log).count payload

/-- A call that reports an error, or has nothing to work on. -/
def Refused (scheduler : Scheduler) : SchedulerInput → Prop
  | .enqueue payload => (scheduler.enqueue payload).result ≠ .none
  | .popNext transport _ => transportIndex transport = none
  | .record _ transport => transportIndex transport = none

/-- What holds of a single call. -/
structure Isolated (scheduler : Scheduler) (input : SchedulerInput) : Prop where
  others : ∀ index, transportIndex input.transport ≠ some index →
    (machine.step scheduler input).1.queues index = scheduler.queues index
  refused : scheduler.Refused input → (machine.step scheduler input).1 = scheduler

theorem Booked.conserves {capacity : Nat} {scheduler : Scheduler} {log : List (Fin 4 × SchedulerEvent)}
    (booked : Booked capacity scheduler log) (transport : Transport) :
    Conserves scheduler log transport := by
  cases found : transportIndex transport with
  | none =>
    constructor
    · simp only [depth, found, Nat.zero_le]
    · simp only [stats, depth, returned, found, List.length_nil, implies_true]
    · simp only [returned, accepted, found, le_refl, implies_true]
  | some index =>
    have kept := booked.2 index
    have lengths := kept.conserved.length_eq
    rw [List.length_append, List.length_append] at lengths
    constructor
    · simp only [depth, found, booked.1]
      exact kept.bounded
    · simp only [stats, depth, returned, found]
      have expected := kept.expected
      have dropped := kept.dropped
      unfold saturated at expected dropped
      intro unsaturated
      omega
    · intro payload
      have counts := kept.conserved.count_eq payload
      simp only [returned, accepted, found]
      rw [List.count_append, List.count_append] at counts
      omega

theorem setQueue_own (scheduler : Scheduler) (own : Fin 4) (queue : TransportQueue) :
    (scheduler.setQueue own queue).queues own = queue := Function.update_self _ _ _

theorem setQueue_others (scheduler : Scheduler) {own index : Fin 4} (apart : own ≠ index)
    (queue : TransportQueue) : (scheduler.setQueue own queue).queues index = scheduler.queues index :=
  Function.update_of_ne (Ne.symm apart) _ _

/-- A call works on the queue of its transport, or on nothing. -/
theorem step_queue (scheduler : Scheduler) (input : SchedulerInput) :
    (machine.step scheduler input).1 = scheduler ∨
      ∃ own queue, transportIndex input.transport = some own ∧
        (machine.step scheduler input).1 = scheduler.setQueue own queue := by
  cases input with
  | enqueue payload =>
    show (scheduler.enqueue payload).next = _ ∨
      ∃ own queue, transportIndex payload.transport = some own ∧ (scheduler.enqueue payload).next = _
    unfold Scheduler.enqueue
    cases found : transportIndex payload.transport with
    | none => exact .inl (by split_ifs <;> rfl)
    | some own =>
      split_ifs
      · exact .inl rfl
      · exact .inl rfl
      · exact .inl rfl
      · exact .inr ⟨own, _, rfl, rfl⟩
  | popNext transport nowMs =>
    show (scheduler.popNext transport nowMs).next = _ ∨
      ∃ own queue, transportIndex transport = some own ∧ (scheduler.popNext transport nowMs).next = _
    unfold Scheduler.popNext
    cases found : transportIndex transport with
    | none => exact .inl rfl
    | some own => exact .inr ⟨own, _, rfl, rfl⟩
  | record which transport =>
    show scheduler.record which transport = _ ∨
      ∃ own queue, transportIndex transport = some own ∧ scheduler.record which transport = _
    unfold Scheduler.record
    cases found : transportIndex transport with
    | none => exact .inl rfl
    | some own => exact .inr ⟨own, _, rfl, rfl⟩

theorem step_refused (scheduler : Scheduler) (input : SchedulerInput)
    (refused : scheduler.Refused input) : (machine.step scheduler input).1 = scheduler := by
  cases input with
  | enqueue payload =>
    have failed : (scheduler.enqueue payload).result ≠ .none := refused
    show (scheduler.enqueue payload).next = scheduler
    unfold Scheduler.enqueue at *
    cases found : transportIndex payload.transport with
    | none => split_ifs <;> rfl
    | some own =>
      rw [found] at failed
      dsimp only at *
      split_ifs at *
      · rfl
      · rfl
      · rfl
      · exact absurd rfl failed
  | popNext transport nowMs =>
    have missing : transportIndex transport = none := refused
    show (scheduler.popNext transport nowMs).next = scheduler
    simp only [Scheduler.popNext, missing]
  | record which transport =>
    have missing : transportIndex transport = none := refused
    show scheduler.record which transport = scheduler
    simp only [Scheduler.record, missing]

theorem step_isolated (scheduler : Scheduler) (input : SchedulerInput) : Isolated scheduler input := by
  refine ⟨fun index other => ?_, step_refused scheduler input⟩
  rcases step_queue scheduler input with same | ⟨own, queue, found, changed⟩
  · rw [same]
  · rw [changed]
    apply scheduler.setQueue_others
    intro same
    exact other (same ▸ found)

/-- What a call takes from its caller, and what it gives back, in the queue of a transport. -/
def taken (scheduler : Scheduler) (index : Fin 4) : SchedulerInput → List ScheduledPayload
  | .enqueue payload =>
      if transportIndex payload.transport = some index ∧ (scheduler.enqueue payload).result = .none then [payload]
      else []
  | _ => []

def given (scheduler : Scheduler) (index : Fin 4) : SchedulerInput → List ScheduledPayload
  | .popNext transport nowMs =>
      if transportIndex transport = some index then (scheduler.popNext transport nowMs).result.toList else []
  | _ => []

/-- The log of a call says what its caller sees. -/
structure Logged (scheduler : Scheduler) (input : SchedulerInput) : Prop where
  accepted : ∀ index, acceptedIn (eventsOf index (machine.step scheduler input).2) = taken scheduler index input
  returned : ∀ index, returnedIn (eventsOf index (machine.step scheduler input).2) = given scheduler index input

theorem enqueue_logged (queue : TransportQueue) (capacity : Nat) (payload : ScheduledPayload) :
    acceptedIn (queue.enqueue capacity payload).2 = [payload] ∧ returnedIn (queue.enqueue capacity payload).2 = [] := by
  unfold TransportQueue.enqueue
  dsimp only
  split_ifs
  · split
    · exact ⟨rfl, rfl⟩
    · split_ifs
      · exact ⟨rfl, rfl⟩
      · exact ⟨rfl, rfl⟩
  · exact ⟨rfl, rfl⟩

theorem popNext_logged (queue : TransportQueue) (nowMs : Nat) :
    acceptedIn (queue.popNext nowMs).2.2 = [] ∧
      returnedIn (queue.popNext nowMs).2.2 = (queue.popNext nowMs).1.toList := by
  have purged := (removeExpired_spec nowMs queue.payloads queue.stats).2
  obtain ⟨accepted, returned, _⟩ := events_map_dropped (queue.payloads.filter fun item => item.expired nowMs)
  rw [← purged] at accepted returned
  unfold TransportQueue.popNext
  dsimp only
  split
  · exact ⟨accepted, returned⟩
  · rw [acceptedIn_append, returnedIn_append, accepted, returned]
    exact ⟨rfl, rfl⟩

theorem enqueue_cases (scheduler : Scheduler) (payload : ScheduledPayload) :
    ((scheduler.enqueue payload).result ≠ .none ∧ (scheduler.enqueue payload).events = []) ∨
      ∃ own, transportIndex payload.transport = some own ∧ (scheduler.enqueue payload).result = .none ∧
        (scheduler.enqueue payload).events =
          ((scheduler.queues own).enqueue scheduler.capacityPerTransport payload).2.map fun event => (own, event) := by
  unfold Scheduler.enqueue
  by_cases invalid : (!scheduler.valid) = true
  · rw [if_pos invalid]
    exact .inl ⟨nofun, rfl⟩
  · rw [if_neg invalid]
    cases transportIndex payload.transport with
    | none => exact .inl ⟨nofun, rfl⟩
    | some own =>
      dsimp only
      split_ifs
      · exact .inl ⟨nofun, rfl⟩
      · exact .inl ⟨nofun, rfl⟩
      · exact .inr ⟨own, rfl, rfl, rfl⟩

theorem step_logged (scheduler : Scheduler) (input : SchedulerInput) : Logged scheduler input := by
  have silent : ∀ index, acceptedIn (eventsOf index []) = [] ∧ returnedIn (eventsOf index []) = [] :=
    fun _ => ⟨rfl, rfl⟩
  cases input with
  | enqueue payload =>
    have both : ∀ index, acceptedIn (eventsOf index (scheduler.enqueue payload).events) =
          taken scheduler index (.enqueue payload) ∧
        returnedIn (eventsOf index (scheduler.enqueue payload).events) = [] := by
      intro index
      unfold taken
      dsimp only
      rcases scheduler.enqueue_cases payload with ⟨refused, none⟩ | ⟨own, found, entered, events⟩
      · rw [none, if_neg fun both => refused both.2]
        exact silent index
      · obtain ⟨accepted, returned⟩ :=
          enqueue_logged (scheduler.queues own) scheduler.capacityPerTransport payload
        rw [events, eventsOf_map, found, entered]
        by_cases same : own = index
        · rw [if_pos same, if_pos ⟨congrArg some same, rfl⟩]
          exact ⟨accepted, returned⟩
        · rw [if_neg same, if_neg fun both => same (Option.some.inj both.1)]
          exact ⟨rfl, rfl⟩
    exact ⟨fun index => (both index).1, fun index => (both index).2⟩
  | popNext transport nowMs =>
    have both : ∀ index, acceptedIn (eventsOf index (scheduler.popNext transport nowMs).events) = [] ∧
        returnedIn (eventsOf index (scheduler.popNext transport nowMs).events) =
          given scheduler index (.popNext transport nowMs) := by
      intro index
      unfold given Scheduler.popNext
      dsimp only
      cases transportIndex transport with
      | none =>
        rw [if_neg (by exact nofun)]
        exact silent index
      | some own =>
        obtain ⟨accepted, returned⟩ := popNext_logged (scheduler.queues own) nowMs
        dsimp only
        rw [eventsOf_map]
        by_cases same : own = index
        · rw [if_pos same, if_pos (congrArg some same)]
          exact ⟨accepted, returned⟩
        · rw [if_neg same, if_neg fun equal => same (Option.some.inj equal)]
          exact ⟨rfl, rfl⟩
    exact ⟨fun index => (both index).1, fun index => (both index).2⟩
  | record which transport => exact ⟨fun index => (silent index).1, fun index => (silent index).2⟩

/-- In every run of a scheduler, for every transport: the queue is within its capacity, what was taken
in is dropped, waiting or returned, and nothing is returned more often than it was taken. Every call
leaves the queues and counters of the other transports alone, changes nothing when it is refused, and logs
what it has taken and returned. -/
theorem scheduler_conserves (capacity : Nat) (inputs : List SchedulerInput) :
    let ran := machine.run { capacityPerTransport := capacity } inputs
    (ran.1.capacityPerTransport = capacity ∧ ∀ transport, Conserves ran.1 ran.2 transport) ∧
      (∀ scheduler input, Isolated scheduler input) ∧ (∀ scheduler input, Logged scheduler input) ∧
      ∀ scheduler transport nowMs, transportIndex transport = none →
        (popNext scheduler transport nowMs).result = none := by
  have booked := run_booked capacity inputs
  refine ⟨⟨booked.1, booked.conserves⟩, step_isolated, step_logged, ?_⟩
  intro scheduler transport nowMs missing
  simp only [popNext, missing]

end Scheduler

end RidFirmware
