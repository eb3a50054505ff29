import RidFirmware.Lib.Ring
import RidFirmware.Radio.BleTransport

/-! The ring of completion events between the host task, which runs `enqueue_completion`, and the
polling task, which runs `drain_completions`. Each atomic access and each access to a slot is a step
of its own, and the steps of the two tasks are taken in any order. -/

namespace RidFirmware
open Lib

/-- The next access of `enqueue_completion`, with its local variables. -/
inductive EnqueueStep where
  | idle
  | loadWrite (event : BleCompletionEvent)
  | loadRead (event : BleCompletionEvent) (write : Fin 8)
  | countOverflow (event : BleCompletionEvent)
  | storeSlot (event : BleCompletionEvent) (write : Fin 8)
  | storeWrite (event : BleCompletionEvent) (next : Fin 8)
  deriving DecidableEq

/-- The next access of `drain_completions`, with its local variables. -/
inductive DrainStep where
  | idle
  | loadRead
  | loadWrite (read : Fin 8)
  | loop (read write : Fin 8)
  | exchange
  deriving DecidableEq

/-- The shared transport, and where the two tasks stand. -/
structure RingTasks where
  transport : BleTransport := {}
  enqueueing : EnqueueStep := .idle
  draining : DrainStep := .idle

/-- What the accesses do to the ring. -/
inductive RingEvent where
  | called (event : BleCompletionEvent)
  | stored (event : BleCompletionEvent)
  | published
  | overflowed
  | loaded
  | read (event : BleCompletionEvent)
  | released
  | exchanged (overflows : Nat)
  deriving DecidableEq

/-- The slot that the host task writes next. -/
def EnqueueStep.writes : EnqueueStep → Option (Fin 8)
  | .storeSlot _ write => some write
  | _ => none

/-- The slot that the polling task copies next. -/
def DrainStep.reads : DrainStep → Option (Fin 8)
  | .loop read write => if read = write then none else some read
  | _ => none

/-- The body of the loop of `drain_completions`: a completion of the payload on air. -/
def BleTransport.complete (transport : BleTransport) (event : BleCompletionEvent) : BleTransport :=
  if transport.busy then
    (transport.finish (decide (event.status = ESP_OK ∧ 0 < event.advertisingEventCount))).1
  else transport

theorem BleTransport.complete_ring (transport : BleTransport) (event : BleCompletionEvent) :
    (transport.complete event).completions = transport.completions ∧
      (transport.complete event).completionWrite = transport.completionWrite ∧
      (transport.complete event).completionRead = transport.completionRead ∧
      (transport.complete event).completionOverflows = transport.completionOverflows := by
  unfold complete
  split_ifs <;> exact ⟨rfl, rfl, rfl, rfl⟩

namespace RingTasks

variable (tasks : RingTasks)

/-- One step of `enqueue_completion`. -/
def enqueueCompletion : RingTasks × List RingEvent :=
  let transport := tasks.transport
  match tasks.enqueueing with
  | .idle => (tasks, [])
  | .loadWrite event => ({ tasks with enqueueing := .loadRead event transport.completionWrite }, [])
  | .loadRead event write =>
      if write + 1 = transport.completionRead then ({ tasks with enqueueing := .countOverflow event }, [])
      else ({ tasks with enqueueing := .storeSlot event write }, [])
  | .countOverflow _ =>
      let overflows := (transport.completionOverflows + 1) % 2 ^ 32
      ({ tasks with
        transport := { transport with completionOverflows := overflows }
        enqueueing := .idle }, [.overflowed])
  | .storeSlot event write =>
      let completions := Function.update transport.completions write event
      ({ tasks with
        transport := { transport with completions := completions }
        enqueueing := .storeWrite event (write + 1) }, [.stored event])
  | .storeWrite _ next =>
      ({ tasks with
        transport := { transport with completionWrite := next }
        enqueueing := .idle }, [.published])

/-- One step of `drain_completions`. The test of the loop and what is done with a copied event touch
nothing that the host task uses. -/
def drainCompletions : RingTasks × List RingEvent :=
  let transport := tasks.transport
  match tasks.draining with
  | .idle => (tasks, [])
  | .loadRead => ({ tasks with draining := .loadWrite transport.completionRead }, [])
  | .loadWrite read => ({ tasks with draining := .loop read transport.completionWrite }, [.loaded])
  | .loop read write =>
      if read = write then
        ({ tasks with
          transport := { transport with completionRead := read }
          draining := .exchange }, [.released])
      else
        let event := transport.completions read
        ({ tasks with
          transport := transport.complete event
          draining := .loop (read + 1) write }, [.read event])
  | .exchange =>
      let overflows := transport.completionOverflows
      let exchanged : BleTransport := { transport with completionOverflows := 0 }
      ({ tasks with
        transport := if 0 < overflows ∧ exchanged.busy then (exchanged.finish false).1 else exchanged
        draining := .idle }, [.exchanged overflows])

/-- Who does what next. A task enters its function again only when it has returned, and between two
drains the polling task puts payloads on air and takes them off. -/
inductive Turn where
  | callEnqueue (event : BleCompletionEvent)
  | enqueue
  | callDrain
  | drain
  | between (busy : Bool) (activeTransport : Transport)

def machine : Machine RingTasks Turn RingEvent where
  step tasks
    | .callEnqueue event =>
        if tasks.enqueueing = .idle then ({ tasks with enqueueing := .loadWrite event }, [.called event])
        else (tasks, [])
    | .enqueue => tasks.enqueueCompletion
    | .callDrain =>
        if tasks.draining = .idle then ({ tasks with draining := .loadRead }, []) else (tasks, [])
    | .drain => tasks.drainCompletions
    | .between busy activeTransport =>
        if tasks.draining = .idle then
          ({ tasks with transport := { tasks.transport with
            busy := busy, activeTransport := activeTransport } }, [])
        else (tasks, [])

/-- The kinds of turns. -/
theorem step_rule (turn : Turn) (goal : RingTasks × List RingEvent → Prop) (skipped : goal (tasks, []))
    (enqueue : goal tasks.enqueueCompletion) (drain : goal tasks.drainCompletions)
    (callEnqueue : ∀ event, tasks.enqueueing = .idle →
      goal ({ tasks with enqueueing := .loadWrite event }, [.called event]))
    (callDrain : tasks.draining = .idle → goal ({ tasks with draining := .loadRead }, []))
    (between : ∀ busy activeTransport, goal ({ tasks with transport := { tasks.transport with
      busy := busy, activeTransport := activeTransport } }, [])) :
    goal (machine.step tasks turn) := by
  cases turn with
  | enqueue => exact enqueue
  | drain => exact drain
  | callEnqueue event =>
    dsimp only [machine]
    split_ifs with idle
    · exact callEnqueue event idle
    · exact skipped
  | callDrain =>
    dsimp only [machine]
    split_ifs with idle
    · exact callDrain idle
    · exact skipped
  | between busy activeTransport =>
    dsimp only [machine]
    split_ifs
    · exact between busy activeTransport
    · exact skipped

end RingTasks

/-! ## The queue the ring stands for -/

/-- The events stored and the events read so far, how many of them the two tasks have announced to
each other, how many the current drain has promised to read, and the overflows since the last
exchange. -/
structure RingLedger where
  stored : List BleCompletionEvent := []
  published : Nat := 0
  promised : Nat := 0
  taken : List BleCompletionEvent := []
  released : Nat := 0
  overflows : Nat := 0

namespace RingLedger

def record (ledger : RingLedger) : RingEvent → RingLedger
  | .called _ => ledger
  | .stored event => { ledger with stored := ledger.stored ++ [event] }
  | .published => { ledger with published := ledger.published + 1 }
  | .overflowed => { ledger with overflows := ledger.overflows + 1 }
  | .loaded => { ledger with promised := ledger.published }
  | .read event => { ledger with taken := ledger.taken ++ [event] }
  | .released => { ledger with released := ledger.taken.length }
  | .exchanged _ => { ledger with overflows := 0 }

def of (log : List RingEvent) : RingLedger := log.foldl record {}

@[simp] theorem of_nil : of [] = {} := rfl

theorem of_append (before after : List RingEvent) :
    of (before ++ after) = after.foldl record (of before) := List.foldl_append

end RingLedger

/-! ## What holds at every step boundary -/

section
variable (ledger : RingLedger)

/-- What the host task knows at its next access. Only it stores and publishes, so what it has loaded
stays the truth; the read index it has seen is old, which leaves more room, not less. -/
def EnqueueStep.Sees : EnqueueStep → Prop
  | .idle | .loadWrite _ | .countOverflow _ => ledger.published = ledger.stored.length
  | .loadRead _ write =>
      ledger.published = ledger.stored.length ∧ write = Ring.slot ledger.stored.length
  | .storeSlot _ write =>
      ledger.published = ledger.stored.length ∧ write = Ring.slot ledger.stored.length ∧
        ledger.stored.length + 1 < ledger.released + 8
  | .storeWrite _ next =>
      ledger.published + 1 = ledger.stored.length ∧ next = Ring.slot (ledger.published + 1)

def DrainStep.Sees : DrainStep → Prop
  | .idle | .loadRead => ledger.released = ledger.taken.length
  | .loadWrite read =>
      ledger.released = ledger.taken.length ∧ read = Ring.slot ledger.taken.length
  | .loop read write =>
      read = Ring.slot ledger.taken.length ∧ write = Ring.slot ledger.promised ∧
        ledger.taken.length ≤ ledger.promised ∧ ledger.promised ≤ ledger.published
  | .exchange =>
      ledger.released = ledger.taken.length ∧ ledger.promised ≤ ledger.taken.length

end

/-- The memory and the tasks agree with the queue. -/
structure RingKept (tasks : RingTasks) (ledger : RingLedger) : Prop where
  holds : Ring.Holds tasks.transport.completions ledger.stored ledger.released
  order : ledger.taken <+: ledger.stored
  released : ledger.released ≤ ledger.taken.length
  taken : ledger.taken.length ≤ ledger.published
  write : tasks.transport.completionWrite = Ring.slot ledger.published
  read : tasks.transport.completionRead = Ring.slot ledger.released
  overflows : tasks.transport.completionOverflows = ledger.overflows % 2 ^ 32
  host : tasks.enqueueing.Sees ledger
  poll : tasks.draining.Sees ledger

theorem EnqueueStep.Sees.published_le {ledger : RingLedger} {step : EnqueueStep}
    (sees : step.Sees ledger) : ledger.published ≤ ledger.stored.length := by
  cases step with
  | idle => exact sees.le
  | loadWrite event => exact sees.le
  | countOverflow event => exact sees.le
  | loadRead event write => exact sees.1.le
  | storeSlot event write => exact sees.1.le
  | storeWrite event next => exact (Nat.le_succ _).trans sees.1.le

theorem EnqueueStep.Sees.keep {ledger later : RingLedger} {step : EnqueueStep}
    (sees : step.Sees ledger) (stored : later.stored = ledger.stored)
    (published : later.published = ledger.published) (released : ledger.released ≤ later.released) :
    step.Sees later := by
  cases step with
  | idle => simpa [Sees, stored, published] using sees
  | loadWrite event => simpa [Sees, stored, published] using sees
  | countOverflow event => simpa [Sees, stored, published] using sees
  | loadRead event write => simpa [Sees, stored, published] using sees
  | storeSlot event write =>
    rcases sees with ⟨all, slot, room⟩
    simp only [Sees, stored, published]
    exact ⟨all, slot, by omega⟩
  | storeWrite event next => simpa [Sees, stored, published] using sees

theorem DrainStep.Sees.keep {ledger later : RingLedger} {step : DrainStep}
    (sees : step.Sees ledger) (taken : later.taken = ledger.taken)
    (released : later.released = ledger.released) (promised : later.promised = ledger.promised)
    (published : ledger.published ≤ later.published) : step.Sees later := by
  cases step with
  | idle => simpa [Sees, taken, released] using sees
  | loadRead => simpa [Sees, taken, released] using sees
  | loadWrite read => simpa [Sees, taken, released] using sees
  | loop read write =>
    rcases sees with ⟨slot, limit, left, right⟩
    simp only [Sees, taken, promised]
    exact ⟨slot, limit, left, right.trans published⟩
  | exchange => simpa [Sees, taken, released, promised] using sees

namespace RingKept

theorem start : RingKept {} (.of []) := by
  constructor
  · exact Ring.Holds.empty _
  · exact List.prefix_rfl
  · exact le_rfl
  · exact le_rfl
  · exact Ring.slot_zero.symm
  · exact Ring.slot_zero.symm
  · rfl
  · rfl
  · rfl

variable {tasks : RingTasks} {ledger : RingLedger}

theorem room (kept : RingKept tasks ledger)
    (free : (Ring.slot ledger.stored.length : Fin 8) + 1 ≠ tasks.transport.completionRead) :
    ledger.stored.length + 1 < ledger.released + 8 := by
  apply Ring.room_of_next_ne kept.holds.fits
  rwa [← kept.read]

theorem enqueueCompletion (kept : RingKept tasks ledger) :
    RingKept tasks.enqueueCompletion.1
      (tasks.enqueueCompletion.2.foldl RingLedger.record ledger) := by
  rcases tasks with ⟨transport, enqueueing, draining⟩
  cases enqueueing with
  | idle => exact kept
  | loadWrite event =>
    have seen : transport.completionWrite = Ring.slot ledger.stored.length := by
      rw [← kept.host]
      exact kept.write
    exact { kept with host := ⟨kept.host, seen⟩ }
  | loadRead event write =>
    rcases kept.host with ⟨all, slot⟩
    unfold RingTasks.enqueueCompletion
    dsimp only
    split_ifs with full
    · exact { kept with host := all }
    · have free : (Ring.slot ledger.stored.length : Fin 8) + 1 ≠ transport.completionRead := by
        rwa [← slot]
      exact { kept with host := ⟨all, slot, kept.room free⟩ }
  | countOverflow event =>
    have counted : (transport.completionOverflows + 1) % 2 ^ 32 = (ledger.overflows + 1) % 2 ^ 32 := by
      have before : transport.completionOverflows = ledger.overflows % 2 ^ 32 := kept.overflows
      omega
    exact { kept with
      overflows := counted
      host := kept.host
      poll := kept.poll.keep rfl rfl rfl le_rfl }
  | storeSlot event write =>
    rcases kept.host with ⟨all, slot, room⟩
    have grown : ledger.published + 1 = (ledger.stored ++ [event]).length := by simpa using all
    have next : write + 1 = Ring.slot (ledger.published + 1) := by
      rw [Ring.slot_succ, all, slot]
    have written := kept.holds.write room event
    rw [← slot] at written
    exact { kept with
      holds := written
      order := kept.order.trans (List.prefix_append _ _)
      host := ⟨grown, next⟩
      poll := kept.poll.keep rfl rfl rfl le_rfl }
  | storeWrite event next =>
    rcases kept.host with ⟨grown, slot⟩
    exact { kept with
      taken := kept.taken.trans (Nat.le_succ _)
      write := slot
      host := grown
      poll := kept.poll.keep rfl rfl rfl (Nat.le_succ _) }

theorem next_event (kept : RingKept tasks ledger) {read write : Fin 8}
    (looping : tasks.draining = .loop read write) (more : read ≠ write) :
    ledger.taken.length < ledger.promised ∧
      ledger.taken ++ [tasks.transport.completions read] <+: ledger.stored := by
  have sees := kept.poll
  rw [looping] at sees
  rcases sees with ⟨slot, limit, left, right⟩
  have ahead : ledger.taken.length < ledger.promised := by
    apply left.lt_of_ne
    intro same
    rw [slot, limit, same] at more
    exact more rfl
  have within : ledger.taken.length < ledger.stored.length := by
    have := kept.host.published_le
    omega
  rcases kept.order with ⟨rest, split⟩
  cases rest with
  | nil =>
    rw [List.append_nil] at split
    exact absurd within (by rw [split]; exact lt_irrefl _)
  | cons event rest =>
    have known : ledger.stored[ledger.taken.length]? = some event := by
      rw [← split]
      simp
    have copied := kept.holds.kept _ event kept.released known
    rw [← slot] at copied
    refine ⟨ahead, rest, ?_⟩
    rw [copied, List.append_assoc]
    exact split

theorem all_taken (kept : RingKept tasks ledger) {read write : Fin 8}
    (looping : tasks.draining = .loop read write) (done : read = write) :
    ledger.taken.length = ledger.promised := by
  have sees := kept.poll
  rw [looping] at sees
  rcases sees with ⟨slot, limit, left, right⟩
  have near : ledger.promised < ledger.taken.length + 8 := by
    have fits := kept.holds.fits
    have published := kept.host.published_le
    have released := kept.released
    omega
  apply Ring.slot_inj left near
  rw [← slot, ← limit]
  exact done

theorem drainCompletions (kept : RingKept tasks ledger) :
    RingKept tasks.drainCompletions.1
      (tasks.drainCompletions.2.foldl RingLedger.record ledger) := by
  rcases tasks with ⟨transport, enqueueing, draining⟩
  cases draining with
  | idle => exact kept
  | loadRead =>
    have seen : transport.completionRead = Ring.slot ledger.taken.length := by
      rw [← kept.poll]
      exact kept.read
    exact { kept with poll := ⟨kept.poll, seen⟩ }
  | loadWrite read =>
    rcases kept.poll with ⟨released, slot⟩
    exact { kept with
      host := kept.host.keep rfl rfl le_rfl
      poll := ⟨slot, kept.write, kept.taken, le_rfl⟩ }
  | loop read write =>
    unfold RingTasks.drainCompletions
    dsimp only
    split_ifs with done
    · have all := kept.all_taken rfl done
      exact { kept with
        holds := kept.holds.release kept.released
        released := le_rfl
        read := kept.poll.1
        host := kept.host.keep rfl rfl kept.released
        poll := ⟨rfl, all.ge⟩ }
    · rcases kept.next_event rfl done with ⟨ahead, order⟩
      rcases kept.poll with ⟨slot, limit, left, right⟩
      rcases transport.complete_ring (transport.completions read) with ⟨slots, top, bottom, lost⟩
      have longer : (ledger.taken ++ [transport.completions read]).length = ledger.taken.length + 1 := by
        simp
      have next : read + 1 = Ring.slot (ledger.taken ++ [transport.completions read]).length := by
        rw [longer, Ring.slot_succ, slot]
      have promised : (ledger.taken ++ [transport.completions read]).length ≤ ledger.promised := by
        rw [longer]
        exact ahead
      constructor
      · simpa [slots, RingLedger.record] using kept.holds
      · exact order
      · simpa [RingLedger.record] using kept.released.trans (Nat.le_succ _)
      · exact promised.trans right
      · simpa [top, RingLedger.record] using kept.write
      · simpa [bottom, RingLedger.record] using kept.read
      · simpa [lost, RingLedger.record] using kept.overflows
      · exact kept.host.keep rfl rfl le_rfl
      · exact ⟨next, limit, promised, right⟩
  | exchange =>
    rcases kept.poll with ⟨released, promised⟩
    unfold RingTasks.drainCompletions
    dsimp only
    split_ifs
    all_goals exact { kept with
      overflows := rfl
      host := kept.host.keep rfl rfl le_rfl
      poll := released }

/-- One turn of either task. -/
theorem step (kept : RingKept tasks ledger) (turn : RingTasks.Turn) :
    RingKept (RingTasks.machine.step tasks turn).1
      ((RingTasks.machine.step tasks turn).2.foldl RingLedger.record ledger) := by
  apply tasks.step_rule turn fun next => RingKept next.1 (next.2.foldl RingLedger.record ledger)
  · exact kept
  · exact kept.enqueueCompletion
  · exact kept.drainCompletions
  · intro event idle
    have host := kept.host
    rw [idle] at host
    exact { kept with host := host }
  · intro idle
    have poll := kept.poll
    rw [idle] at poll
    exact { kept with poll := poll }
  · intro busy activeTransport
    exact { kept with }

/-- Every interleaving keeps the ring. -/
theorem run (turns : List RingTasks.Turn) :
    RingKept (RingTasks.machine.run {} turns).1 (.of (RingTasks.machine.run {} turns).2) := by
  apply RingTasks.machine.run_invariant (fun tasks log => RingKept tasks (.of log)) ?_ {} start turns
  intro tasks log turn kept
  rw [RingLedger.of_append]
  exact kept.step turn

end RingKept

/-! ## Whole calls of the host task -/

def RingEvent.ofHost : RingEvent → Bool
  | .called _ | .stored _ | .published | .overflowed => true
  | _ => false

/-- Calls that have returned: each has stored its event and published it, or has counted one
overflow. -/
inductive WholeCalls : List RingEvent → Prop where
  | none : WholeCalls []
  | stored {log : List RingEvent} (event : BleCompletionEvent) (calls : WholeCalls log) :
      WholeCalls (log ++ [.called event, .stored event, .published])
  | overflowed {log : List RingEvent} (event : BleCompletionEvent) (calls : WholeCalls log) :
      WholeCalls (log ++ [.called event, .overflowed])

def EnqueueStep.begun : EnqueueStep → List RingEvent
  | .idle => []
  | .loadWrite event | .loadRead event _ | .countOverflow event | .storeSlot event _ => [.called event]
  | .storeWrite event _ => [.called event, .stored event]

/-- The accesses of the host task are whole calls and the one in progress. -/
def CallsOf (tasks : RingTasks) (log : List RingEvent) : Prop :=
  ∃ whole, WholeCalls whole ∧ log.filter RingEvent.ofHost = whole ++ tasks.enqueueing.begun

namespace CallsOf

variable {tasks : RingTasks} {log : List RingEvent}

theorem other (calls : CallsOf tasks log) {later : RingTasks} {events : List RingEvent}
    (same : later.enqueueing = tasks.enqueueing) (foreign : events.filter RingEvent.ofHost = []) :
    CallsOf later (log ++ events) := by
  rcases calls with ⟨whole, returned, split⟩
  refine ⟨whole, returned, ?_⟩
  rw [List.filter_append, foreign, List.append_nil, same, split]

theorem enqueueCompletion (calls : CallsOf tasks log) :
    CallsOf tasks.enqueueCompletion.1 (log ++ tasks.enqueueCompletion.2) := by
  rcases tasks with ⟨transport, enqueueing, draining⟩
  rcases calls with ⟨whole, returned, split⟩
  unfold CallsOf
  rw [List.filter_append, split]
  cases enqueueing with
  | idle => exact ⟨whole, returned, List.append_nil _⟩
  | loadWrite event => exact ⟨whole, returned, List.append_nil _⟩
  | loadRead event write =>
    unfold RingTasks.enqueueCompletion
    dsimp only
    split_ifs <;> exact ⟨whole, returned, List.append_nil _⟩
  | countOverflow event =>
    refine ⟨_, .overflowed event returned, ?_⟩
    simp [RingTasks.enqueueCompletion, EnqueueStep.begun, RingEvent.ofHost]
  | storeSlot event write =>
    refine ⟨whole, returned, ?_⟩
    simp [RingTasks.enqueueCompletion, EnqueueStep.begun, RingEvent.ofHost]
  | storeWrite event next =>
    refine ⟨_, .stored event returned, ?_⟩
    simp [RingTasks.enqueueCompletion, EnqueueStep.begun, RingEvent.ofHost]

theorem drainCompletions (calls : CallsOf tasks log) :
    CallsOf tasks.drainCompletions.1 (log ++ tasks.drainCompletions.2) := by
  rcases tasks with ⟨transport, enqueueing, draining⟩
  cases draining with
  | idle => exact calls.other rfl rfl
  | loadRead => exact calls.other rfl rfl
  | loadWrite read => exact calls.other rfl rfl
  | loop read write =>
    unfold RingTasks.drainCompletions
    dsimp only
    split_ifs <;> exact calls.other rfl rfl
  | exchange => exact calls.other rfl rfl

theorem step (calls : CallsOf tasks log) (turn : RingTasks.Turn) :
    CallsOf (RingTasks.machine.step tasks turn).1 (log ++ (RingTasks.machine.step tasks turn).2) := by
  apply tasks.step_rule turn fun next => CallsOf next.1 (log ++ next.2)
  · exact calls.other rfl rfl
  · exact calls.enqueueCompletion
  · exact calls.drainCompletions
  · intro event idle
    rcases calls with ⟨whole, returned, split⟩
    refine ⟨whole, returned, ?_⟩
    rw [List.filter_append, split, idle]
    simp [EnqueueStep.begun, RingEvent.ofHost]
  · intro idle
    exact calls.other rfl rfl
  · intro busy activeTransport
    exact calls.other rfl rfl

theorem run (turns : List RingTasks.Turn) :
    CallsOf (RingTasks.machine.run {} turns).1 (RingTasks.machine.run {} turns).2 := by
  apply RingTasks.machine.run_invariant CallsOf ?_ {} ⟨[], .none, rfl⟩ turns
  intro tasks log turn calls
  exact calls.step turn

end CallsOf

/-! ## The exchange of the overflow counter -/

/-- An exchange takes the overflows counted since the last one, and by then the drain has read what
it has promised. -/
def RingLedger.Exchanges (ledger : RingLedger) : RingEvent → Prop
  | .exchanged overflows =>
      overflows = ledger.overflows % 2 ^ 32 ∧ ledger.promised ≤ ledger.taken.length
  | _ => True

/-- What one access shows: nothing, or one event that exchanges only what it should. -/
def RingLedger.Shows (ledger : RingLedger) (events : List RingEvent) : Prop :=
  events = [] ∨ ∃ event, events = [event] ∧ ledger.Exchanges event

namespace RingKept

variable {tasks : RingTasks} {ledger : RingLedger}

theorem enqueueCompletion_shows (tasks : RingTasks) (ledger : RingLedger) :
    ledger.Shows tasks.enqueueCompletion.2 := by
  rcases tasks with ⟨transport, enqueueing, draining⟩
  cases enqueueing with
  | idle => exact .inl rfl
  | loadWrite event => exact .inl rfl
  | loadRead event write =>
    unfold RingTasks.enqueueCompletion
    dsimp only
    split_ifs <;> exact .inl rfl
  | countOverflow event => exact .inr ⟨_, rfl, trivial⟩
  | storeSlot event write => exact .inr ⟨_, rfl, trivial⟩
  | storeWrite event next => exact .inr ⟨_, rfl, trivial⟩

theorem drainCompletions_shows (kept : RingKept tasks ledger) : ledger.Shows tasks.drainCompletions.2 := by
  rcases tasks with ⟨transport, enqueueing, draining⟩
  cases draining with
  | idle => exact .inl rfl
  | loadRead => exact .inl rfl
  | loadWrite read => exact .inr ⟨_, rfl, trivial⟩
  | loop read write =>
    unfold RingTasks.drainCompletions
    dsimp only
    split_ifs
    · exact .inr ⟨_, rfl, trivial⟩
    · exact .inr ⟨_, rfl, trivial⟩
  | exchange => exact .inr ⟨_, rfl, kept.overflows, kept.poll.2⟩

theorem shows (kept : RingKept tasks ledger) (turn : RingTasks.Turn) :
    ledger.Shows (RingTasks.machine.step tasks turn).2 := by
  apply tasks.step_rule turn fun next => ledger.Shows next.2
  · exact .inl rfl
  · exact enqueueCompletion_shows tasks ledger
  · exact kept.drainCompletions_shows
  · intro event idle
    exact .inr ⟨_, rfl, trivial⟩
  · intro idle
    exact .inl rfl
  · intro busy activeTransport
    exact .inl rfl

end RingKept

theorem exchanges_run (turns : List RingTasks.Turn) :
    ∀ before event after, (RingTasks.machine.run {} turns).2 = before ++ event :: after →
      (RingLedger.of before).Exchanges event := by
  apply RingTasks.machine.run_each (fun tasks log => RingKept tasks (.of log))
    (fun before event => (RingLedger.of before).Exchanges event) (fun _ _ => True) ?_ ?_ {}
    RingKept.start turns (fun _ _ _ => trivial)
  · intro tasks log turn kept _
    rw [RingLedger.of_append]
    exact kept.step turn
  · intro tasks log turn kept _
    exact kept.shows turn

theorem RingKept.apart {tasks : RingTasks} {ledger : RingLedger} (kept : RingKept tasks ledger)
    {slot : Fin 8} (writing : tasks.enqueueing.writes = some slot) :
    tasks.draining.reads ≠ some slot := by
  rcases tasks with ⟨transport, enqueueing, draining⟩
  cases enqueueing with
  | storeSlot event write =>
    rcases kept.host with ⟨all, next, room⟩
    cases draining with
    | loop read limit =>
      dsimp only [DrainStep.reads]
      split_ifs with done
      · exact nofun
      rcases kept.next_event rfl done with ⟨ahead, _⟩
      rcases kept.poll with ⟨current, _, left, right⟩
      intro same
      have distinct := kept.holds.next_ne kept.released (ahead.trans_le (right.trans all.le))
      apply distinct
      rw [← next, ← current, Option.some.inj writing, Option.some.inj same]
    | _ => exact nofun
  | _ => cases writing

/-- The ring is a queue between one host task and one polling task, at every step boundary of every
interleaving. -/
theorem completion_ring (turns : List RingTasks.Turn) :
    let ran := RingTasks.machine.run {} turns
    (RingLedger.of ran.2).taken <+: (RingLedger.of ran.2).stored ∧
    (∀ slot, ran.1.enqueueing.writes = some slot → ran.1.draining.reads ≠ some slot) ∧
    (∃ whole, WholeCalls whole ∧
      ran.2.filter RingEvent.ofHost = whole ++ ran.1.enqueueing.begun) ∧
    ran.1.transport.completionOverflows = (RingLedger.of ran.2).overflows % 2 ^ 32 ∧
    ∀ before overflows after, ran.2 = before ++ .exchanged overflows :: after →
      overflows = (RingLedger.of before).overflows % 2 ^ 32 ∧
      (RingLedger.of before).promised ≤ (RingLedger.of before).taken.length := by
  intro ran
  have kept := RingKept.run turns
  refine ⟨kept.order, fun slot writing => kept.apart writing, CallsOf.run turns, kept.overflows, ?_⟩
  intro before overflows after split
  exact exchanges_run turns before _ after split

/-! ## Overflows past the counter -/

namespace RingTasks

def overflowCall (event : BleCompletionEvent) : List Turn :=
  [.callEnqueue event, .enqueue, .enqueue, .enqueue]

/-- A whole call. On a full ring it has returned before the last of these turns. -/
def storeCall (event : BleCompletionEvent) : List Turn :=
  [.callEnqueue event, .enqueue, .enqueue, .enqueue, .enqueue]

theorem overflow_call (transport : BleTransport) (draining : DrainStep) (event : BleCompletionEvent)
    (full : transport.completionWrite + 1 = transport.completionRead) :
    machine.run ⟨transport, .idle, draining⟩ (overflowCall event) =
      (⟨{ transport with completionOverflows := (transport.completionOverflows + 1) % 2 ^ 32 },
        .idle, draining⟩, [.called event, .overflowed]) := by
  simp [overflowCall, Machine.run, machine, enqueueCompletion, full]

theorem overflow_calls (transport : BleTransport) (draining : DrainStep) (event : BleCompletionEvent)
    (full : transport.completionWrite + 1 = transport.completionRead)
    (none : transport.completionOverflows = 0) (calls : Nat) :
    machine.run ⟨transport, .idle, draining⟩ (List.replicate calls (overflowCall event)).flatten =
      (⟨{ transport with completionOverflows := calls % 2 ^ 32 }, .idle, draining⟩,
        (List.replicate calls [.called event, .overflowed]).flatten) := by
  induction calls with
  | zero =>
    have same : { transport with completionOverflows := 0 % 2 ^ 32 } = transport := by
      rw [Nat.zero_mod, ← none]
    rw [same]
    rfl
  | succ calls ih =>
    have last := overflow_call { transport with completionOverflows := calls % 2 ^ 32 } draining event full
    rw [Nat.mod_add_mod] at last
    rw [List.replicate_succ', List.flatten_append, List.flatten_singleton, Machine.run_append, ih, last,
      List.replicate_succ', List.flatten_append, List.flatten_singleton]

end RingTasks

theorem RingLedger.overflow_calls (ledger : RingLedger) (event : BleCompletionEvent) (calls : Nat) :
    (List.replicate calls [RingEvent.called event, .overflowed]).flatten.foldl record ledger =
      { ledger with overflows := ledger.overflows + calls } := by
  induction calls generalizing ledger with
  | zero => rfl
  | succ calls ih =>
    rw [List.replicate_succ, List.flatten_cons, List.foldl_append, ih]
    simp [record]
    omega

/-- A drain that has read an empty ring and stands before its exchange when seven events fill the
ring. -/
def fillDuringDrain : List RingTasks.Turn :=
  [.callDrain, .drain, .drain, .drain] ++ (List.replicate 7 (RingTasks.storeCall {})).flatten

theorem exchange_after (calls : Nat) :
    ∃ turns before, (RingTasks.machine.run {} turns).2 = before ++ [.exchanged (calls % 2 ^ 32)] ∧
      (RingLedger.of before).overflows = calls := by
  have idle : (RingTasks.machine.run {} fillDuringDrain).1.enqueueing = .idle := by decide
  have waiting : (RingTasks.machine.run {} fillDuringDrain).1.draining = .exchange := by decide
  have full : (RingTasks.machine.run {} fillDuringDrain).1.transport.completionWrite + 1 =
      (RingTasks.machine.run {} fillDuringDrain).1.transport.completionRead := by decide
  have none : (RingTasks.machine.run {} fillDuringDrain).1.transport.completionOverflows = 0 := by decide
  have uncounted : (RingLedger.of (RingTasks.machine.run {} fillDuringDrain).2).overflows = 0 := by decide
  have split := RingTasks.machine.run_append {} fillDuringDrain
    ((List.replicate calls (RingTasks.overflowCall {})).flatten ++ [.drain])
  revert idle waiting full none uncounted split
  generalize RingTasks.machine.run {} fillDuringDrain = filled
  rcases filled with ⟨⟨transport, enqueueing, draining⟩, log⟩
  rintro rfl rfl full none uncounted split
  rw [Machine.run_snoc, RingTasks.overflow_calls transport .exchange {} full none calls] at split
  refine ⟨_, _, (congrArg Prod.snd split).trans (List.append_assoc _ _ _).symm, ?_⟩
  rw [RingLedger.of_append, RingLedger.overflow_calls]
  simpa using uncounted

/-- The counter has 32 bits: an exchange after 2^32 overflows takes none of them. -/
theorem overflow_counter_wraps :
    ¬∀ turns before overflows after,
      (RingTasks.machine.run {} turns).2 = before ++ .exchanged overflows :: after →
      overflows = (RingLedger.of before).overflows := by
  intro lossless
  rcases exchange_after (2 ^ 32) with ⟨turns, before, split, counted⟩
  have taken := lossless turns before _ [] split
  rw [counted, Nat.mod_self] at taken
  exact absurd taken (by decide)

/-! ## Calls that are not interrupted

A drain that whole calls come in between is the drain of the transport, with these calls put after
the loop: the slots that the loop still reads are not the one a call writes. -/

namespace BleTransport

variable {transport : BleTransport} {read limit : Fin 8}

/-- The slots from the one to read next up to the loaded write index are live. -/
def Live (transport : BleTransport) (read limit : Fin 8) : Prop :=
  (read - transport.completionRead).val ≤ (limit - transport.completionRead).val ∧
    (limit - transport.completionRead).val ≤
      (transport.completionWrite - transport.completionRead).val

theorem Live.start : transport.Live transport.completionRead transport.completionWrite := by
  constructor
  · rw [sub_self]
    exact Nat.zero_le _
  · exact le_rfl

theorem Live.ne_write (live : transport.Live read limit) (more : read ≠ limit) :
    read ≠ transport.completionWrite := by
  intro same
  apply more
  have right := live.2
  rw [← same] at right
  exact sub_left_injective (Fin.ext (live.1.antisymm right))

theorem Live.enqueue (live : transport.Live read limit) (event : BleCompletionEvent) :
    (transport.enqueueCompletion event).Live read limit := by
  have grows : ∀ top bottom : Fin 8, top + 1 ≠ bottom → (top - bottom).val ≤ (top + 1 - bottom).val := by
    decide
  unfold enqueueCompletion
  dsimp only
  split_ifs with full
  · exact live
  · exact ⟨live.1, live.2.trans (grows _ _ full)⟩

theorem Live.advance (live : transport.Live read limit) (more : read ≠ limit) :
    transport.Live (read + 1) limit := by
  have below : ∀ first second : Fin 8, first.val ≤ second.val → first ≠ second →
      (first + 1).val ≤ second.val := by decide
  refine ⟨?_, live.2⟩
  rw [add_sub_right_comm]
  apply below _ _ live.1
  intro same
  exact more (sub_left_injective same)

theorem Live.complete (live : transport.Live read limit) (event : BleCompletionEvent) :
    (transport.complete event).Live read limit := by
  rcases transport.complete_ring event with ⟨_, top, bottom, _⟩
  unfold Live
  rw [top, bottom]
  exact live

theorem distance_succ (more : read ≠ limit) : (limit - read).val = (limit - (read + 1)).val + 1 := by
  revert read limit
  decide

theorem consume_succ (slots : Nat) (read : Fin 8) :
    (consume (slots + 1) read transport).1 =
      (consume slots (read + 1) (transport.complete (transport.completions read))).1 := by
  simp only [consume]
  unfold complete
  split_ifs <;> rfl

theorem complete_enqueue (done event : BleCompletionEvent) :
    (transport.enqueueCompletion event).complete done = (transport.complete done).enqueueCompletion event := by
  unfold enqueueCompletion complete
  dsimp only
  split_ifs <;> first | rfl | contradiction

theorem enqueue_completions (event : BleCompletionEvent) (apart : read ≠ transport.completionWrite) :
    (transport.enqueueCompletion event).completions read = transport.completions read := by
  unfold enqueueCompletion
  dsimp only
  split_ifs
  · rfl
  · exact Function.update_of_ne apart _ _

theorem consume_enqueue (live : transport.Live read limit) (event : BleCompletionEvent) :
    (consume (limit - read).val read (transport.enqueueCompletion event)).1 =
      (consume (limit - read).val read transport).1.enqueueCompletion event := by
  induction count : (limit - read).val generalizing transport read with
  | zero => rfl
  | succ slots ih =>
    have more : read ≠ limit := by
      intro same
      rw [same, sub_self] at count
      cases count
    have fewer : (limit - (read + 1)).val = slots := by
      have := distance_succ more
      omega
    rw [consume_succ, consume_succ, enqueue_completions event (live.ne_write more), complete_enqueue]
    exact ih ((live.advance more).complete _) fewer

theorem consume_enqueues (live : transport.Live read limit) (events : List BleCompletionEvent) :
    (consume (limit - read).val read (transport.enqueueCompletions events)).1 =
        (consume (limit - read).val read transport).1.enqueueCompletions events ∧
      (transport.enqueueCompletions events).Live read limit := by
  induction events generalizing transport with
  | nil => exact ⟨rfl, live⟩
  | cons event rest ih =>
    have later := ih (live.enqueue event)
    rw [consume_enqueue live] at later
    exact later

theorem enqueueCompletions_append (first second : List BleCompletionEvent) :
    transport.enqueueCompletions (first ++ second) =
      (transport.enqueueCompletions first).enqueueCompletions second := List.foldl_append

end BleTransport

namespace RingTasks

/-- Not interrupted, the accesses of a call are `enqueue_completion` of the transport. -/
theorem run_storeCall (transport : BleTransport) (draining : DrainStep) (event : BleCompletionEvent) :
    (machine.run ⟨transport, .idle, draining⟩ (storeCall event)).1 =
      ⟨transport.enqueueCompletion event, .idle, draining⟩ := by
  by_cases full : transport.completionWrite + 1 = transport.completionRead
  · simp [storeCall, Machine.run, machine, enqueueCompletion, BleTransport.enqueueCompletion, full]
  · simp [storeCall, Machine.run, machine, enqueueCompletion, BleTransport.enqueueCompletion, full]

theorem run_storeCalls (transport : BleTransport) (draining : DrainStep)
    (events : List BleCompletionEvent) :
    (machine.run ⟨transport, .idle, draining⟩ (events.flatMap storeCall)).1 =
      ⟨transport.enqueueCompletions events, .idle, draining⟩ := by
  induction events generalizing transport with
  | nil => rfl
  | cons event rest ih =>
    rw [List.flatMap_cons, Machine.run_append, run_storeCall]
    exact ih _

/-- The loop with whole calls before each of its accesses. -/
theorem run_loop (between : List (List BleCompletionEvent)) {transport : BleTransport} {read limit : Fin 8}
    (live : transport.Live read limit) (accesses : between.length = (limit - read).val + 1) :
    (machine.run ⟨transport, .idle, .loop read limit⟩
      (between.flatMap fun events => events.flatMap storeCall ++ [.drain])).1 =
      ⟨{ (BleTransport.consume (limit - read).val read transport).1.enqueueCompletions between.flatten with
        completionRead := limit }, .idle, .exchange⟩ := by
  induction between generalizing transport read with
  | nil => cases accesses
  | cons events rest ih =>
    rcases BleTransport.consume_enqueues live events with ⟨moved, still⟩
    rw [List.flatMap_cons, List.append_assoc, Machine.run_append, run_storeCalls, List.flatten_cons,
      BleTransport.enqueueCompletions_append, ← moved]
    generalize transport.enqueueCompletions events = called at still
    by_cases done : read = limit
    · subst done
      have last : rest = [] := by
        rw [sub_self] at accesses
        exact List.eq_nil_of_length_eq_zero (Nat.succ.inj accesses)
      subst last
      rw [sub_self]
      simp [Machine.run, machine, drainCompletions, BleTransport.consume, BleTransport.enqueueCompletions]
    · have fewer : rest.length = (limit - (read + 1)).val + 1 := by
        have := BleTransport.distance_succ done
        rw [List.length_cons] at accesses
        omega
      have later := ih ((still.advance done).complete (called.completions read)) fewer
      rw [BleTransport.distance_succ done, BleTransport.consume_succ, ← later]
      simp [Machine.run, machine, drainCompletions, done]

/-- A drain with whole calls before each of its accesses, as `BleTransport.drainCompletions` has it. -/
theorem run_drain (transport : BleTransport) (early : List BleCompletionEvent)
    (between : List (List BleCompletionEvent)) (late : List BleCompletionEvent)
    (accesses : between.length = ((transport.enqueueCompletions early).completionWrite -
      (transport.enqueueCompletions early).completionRead).val + 1) :
    (machine.run ⟨transport, .idle, .idle⟩ ([.callDrain, .drain] ++ early.flatMap storeCall ++ [.drain] ++
      (between.flatMap fun events => events.flatMap storeCall ++ [.drain]) ++
        late.flatMap storeCall ++ [.drain])).1 =
      ⟨((transport.enqueueCompletions early).drainCompletions
        { beforeStore := between.flatten, beforeExchange := late }).1, .idle, .idle⟩ := by
  have same : (transport.enqueueCompletions early).completionRead = transport.completionRead := by
    rcases transport.enqueueCompletions_eq early with ⟨_, _, _, moved⟩
    rw [moved]
  have loop := run_loop between BleTransport.Live.start accesses
  have entered : (machine.run ⟨transport, .idle, .idle⟩ [.callDrain, .drain]).1 =
      ⟨transport, .idle, .loadWrite transport.completionRead⟩ := rfl
  have loaded : (machine.run ⟨transport.enqueueCompletions early, .idle, .loadWrite transport.completionRead⟩
      [.drain]).1 = ⟨transport.enqueueCompletions early, .idle,
        .loop transport.completionRead (transport.enqueueCompletions early).completionWrite⟩ := rfl
  simp only [Machine.run_append, entered, run_storeCalls, loaded]
  rw [← same, loop, run_storeCalls]
  simp only [Machine.run, machine, drainCompletions, BleTransport.drainCompletions]
  split_ifs <;> rfl

end RingTasks

end RidFirmware
