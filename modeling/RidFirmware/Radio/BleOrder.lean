import RidFirmware.Radio.BleFailure

/-! The order of service of the BLE transport: one payload on air at a time, the earliest valid one
first, and silence from the first shutdown on. -/

namespace RidFirmware
open Lib

/-- Whether a payload is on air after an event, as far as the transport has noticed. -/
def BleEvent.onAir (before : Bool) : BleEvent → Bool
  | .start result => decide (result = ESP_OK) || before
  | .finished _ _ => false
  | _ => before

/-- Nothing is started in a log while something is on air. -/
def ExclusiveFrom : Bool → List BleEvent → Prop
  | _, [] => True
  | onAir, event :: rest =>
      (event = .start ESP_OK → onAir = false) ∧ ExclusiveFrom (event.onAir onAir) rest

theorem exclusiveFrom_append (onAir : Bool) (first second : List BleEvent) :
    ExclusiveFrom onAir (first ++ second) ↔
      ExclusiveFrom onAir first ∧ ExclusiveFrom (first.foldl BleEvent.onAir onAir) second := by
  induction first generalizing onAir with
  | nil => simp [ExclusiveFrom]
  | cons event rest ih =>
    simp only [List.cons_append, ExclusiveFrom, ih, List.foldl_cons, and_assoc]

theorem foldl_onAir_true {events : List BleEvent}
    (unfinished : ∀ kind succeeded, .finished kind succeeded ∉ events) :
    events.foldl BleEvent.onAir true = true := by
  induction events with
  | nil => rfl
  | cons event rest ih =>
    have still : event.onAir true = true := by
      cases event with
      | finished kind succeeded => exact absurd List.mem_cons_self (unfinished kind succeeded)
      | start result => exact Bool.or_true _
      | accepted payload => rfl
      | dropped nowMs payload => rfl
      | configure nowMs mode payload result => rfl
      | reset result => rfl
    rw [List.foldl_cons, still]
    exact ih fun kind succeeded member => unfinished kind succeeded (List.mem_cons_of_mem _ member)

/-- Between two successful starts something has finished. -/
theorem ExclusiveFrom.between {log first middle rest : List BleEvent} (exclusive : ExclusiveFrom false log)
    (split : log = first ++ .start ESP_OK :: (middle ++ .start ESP_OK :: rest)) :
    ∃ kind succeeded, .finished kind succeeded ∈ middle := by
  by_contra none
  have unfinished : ∀ kind succeeded, .finished kind succeeded ∉ middle :=
    fun kind succeeded member => none ⟨kind, succeeded, member⟩
  rw [split, exclusiveFrom_append] at exclusive
  obtain ⟨_, _, later⟩ := exclusive
  have started : (BleEvent.start ESP_OK).onAir (first.foldl BleEvent.onAir false) = true := rfl
  rw [started, exclusiveFrom_append, foldl_onAir_true unfinished] at later
  exact Bool.noConfusion (later.2.1 rfl)

theorem exclusive_of_silent {events : List BleEvent} (silent : .start ESP_OK ∉ events) (onAir : Bool) :
    ExclusiveFrom onAir events := by
  induction events generalizing onAir with
  | nil => trivial
  | cons event rest ih =>
    refine ⟨fun same => ?_, ih (fun member => silent (List.mem_cons_of_mem _ member)) _⟩
    exact absurd (same ▸ List.mem_cons_self) silent

namespace BleTransport

section
variable {transport : BleTransport} {nowMs : Nat} {answers : BleAnswers}

/-- What draining the ring of completions does to the payload on air. -/
structure Drained (before after : BleTransport) (events : List BleEvent) : Prop where
  finished : ∀ event ∈ events, ∃ kind succeeded, event = .finished kind succeeded
  idle : events ≠ [] → after.busy = false
  same : events = [] → after.busy = before.busy
  stopping : after.shuttingDown = before.shuttingDown ∧ after.shutDown = before.shutDown

theorem Drained.refl : Drained transport transport [] :=
  ⟨List.forall_mem_nil _, fun some => absurd rfl some, fun _ => rfl, rfl, rfl⟩

theorem Drained.trans {first second third : BleTransport} {before after : List BleEvent}
    (left : Drained first second before) (right : Drained second third after) :
    Drained first third (before ++ after) := by
  constructor
  · intro event member
    rcases List.mem_append.mp member with early | late
    · exact left.finished event early
    · exact right.finished event late
  · intro some
    by_cases none : after = []
    · rw [right.same none]
      apply left.idle
      intro empty
      rw [empty, none] at some
      exact some rfl
    · exact right.idle none
  · intro none
    rw [List.append_eq_nil_iff] at none
    exact (right.same none.2).trans (left.same none.1)
  · exact ⟨right.stopping.1.trans left.stopping.1, right.stopping.2.trans left.stopping.2⟩

theorem finish_drained (succeeded : Bool) :
    Drained transport (transport.finish succeeded).1 (transport.finish succeeded).2 := by
  refine ⟨fun event member => ?_, fun _ => rfl, nofun, rfl, rfl⟩
  exact ⟨_, _, List.mem_singleton.mp member⟩

theorem consume_drained (slots : Nat) (read : Fin 8) :
    Drained transport (consume slots read transport).1 (consume slots read transport).2 := by
  induction slots generalizing transport read with
  | zero => exact Drained.refl
  | succ slots ih =>
    unfold consume
    dsimp only
    split_ifs
    · exact (finish_drained _).trans (ih _)
    · exact Drained.refl.trans (ih _)

theorem drainCompletions_drained :
    Drained transport (transport.drainCompletions answers).1
      (transport.drainCompletions answers).2 := by
  have consumed := @consume_drained transport
    (transport.completionWrite - transport.completionRead).val transport.completionRead
  unfold drainCompletions
  dsimp only
  generalize consume _ _ _ = loop at *
  have arrived : Drained loop.1 { loop.1.enqueueCompletions answers.beforeStore with
      completionRead := transport.completionWrite } [] := by
    obtain ⟨_, _, _, same⟩ := enqueueCompletions_eq loop.1 answers.beforeStore
    rw [same]
    exact ⟨List.forall_mem_nil _, fun some => absurd rfl some, fun _ => rfl, rfl, rfl⟩
  have stored := consumed.trans arrived
  generalize ({ loop.1.enqueueCompletions answers.beforeStore with
      completionRead := transport.completionWrite } : BleTransport) = now at *
  have exchanged : Drained now
      { now.enqueueCompletions answers.beforeExchange with completionOverflows := 0 } [] := by
    obtain ⟨_, _, _, same⟩ := enqueueCompletions_eq now answers.beforeExchange
    rw [same]
    exact ⟨List.forall_mem_nil _, fun some => absurd rfl some, fun _ => rfl, rfl, rfl⟩
  have all := stored.trans exchanged
  rw [List.append_nil, List.append_nil] at all
  split_ifs
  · exact all.trans (finish_drained false)
  · exact all

def calls (nowMs : Nat) (answers : BleAnswers) (selected : ScheduledPayload) : List BleEvent :=
  .configure nowMs (modeOf selected) selected answers.configure ::
    if answers.configure = ESP_OK then [.start answers.start] else []

/-- What the loop of `poll` does with the payloads that wait: it loses expired ones, and hands the first
valid one, if there is one, to the backend. -/
structure Picked (transport : BleTransport) (nowMs : Nat) (answers : BleAnswers)
    (lost : List ScheduledPayload) (selected : Option ScheduledPayload)
    (outcome : Outcome BleTransportError) : Prop where
  parts : transport.pending.items.Perm (lost ++ selected.toList ++ outcome.next.pending.items)
  expired : ∀ payload ∈ lost, payload.expired nowMs = true
  valid : ∀ payload ∈ selected, payload.expired nowMs = false
  before : ∀ payload ∈ lost, ∀ next ∈ selected, payload.key ≤ next.key
  after : ∀ payload ∈ outcome.next.pending.items, ∀ next ∈ selected, next.key ≤ payload.key
  emptied : selected = none → outcome.next.pending.items = []
  events : outcome.events = lost.map (.dropped nowMs) ++ selected.elim [] (calls nowMs answers)
  busy : .start ESP_OK ∈ outcome.events → outcome.next.busy = true
  stopping : outcome.next.shuttingDown = transport.shuttingDown ∧
    outcome.next.shutDown = transport.shutDown

theorem picked_nothing (empty : transport.pending.items = []) :
    Picked transport nowMs answers [] none { result := .none, next := transport } := by
  refine ⟨?_, nofun, nofun, nofun, fun _ _ _ => nofun, fun _ => empty, rfl, nofun, rfl, rfl⟩
  exact List.Perm.refl _

theorem send_parts (selected : ScheduledPayload) :
    let sent := transport.send selected nowMs answers
    sent.events = calls nowMs answers selected ∧
      (.start ESP_OK ∈ sent.events → sent.next.busy = true) ∧
      sent.next.shuttingDown = transport.shuttingDown ∧ sent.next.shutDown = transport.shutDown := by
  obtain ⟨_, _, _, same⟩ := enqueueCompletions_eq transport answers.whileStarting
  unfold send calls
  dsimp only
  rw [same]
  by_cases configured : answers.configure = ESP_OK
  · by_cases started : answers.start = ESP_OK
    · simp [configured, started, count]
    · simp [configured, started, count, Ne.symm started]
  · simp [configured, count]

theorem picked_valid {selected : ScheduledPayload}
    (found : transport.pending.items[transport.earliestPendingIndex]? = some selected)
    (least : ∀ other ∈ transport.pending.items, selected.key ≤ other.key)
    (valid : selected.expired nowMs = false) :
    Picked transport nowMs answers [] (some selected)
      ((transport.erasePending transport.earliestPendingIndex).send selected nowMs answers) := by
  have left : ((transport.erasePending transport.earliestPendingIndex).send selected nowMs
      answers).next.pending.items = transport.pending.items.eraseIdx transport.earliestPendingIndex := by
    rw [send_pending]
    rfl
  have moved := perm_cons_eraseIdx found
  obtain ⟨events, busy, stopping⟩ := @send_parts
    (transport.erasePending transport.earliestPendingIndex) nowMs answers selected
  constructor
  · rw [left]
    exact moved
  · nofun
  · intro payload same
    rw [← Option.some.inj same]
    exact valid
  · nofun
  · intro payload member next same
    rw [left] at member
    rw [← Option.some.inj same]
    exact least payload (List.mem_of_mem_eraseIdx member)
  · nofun
  · exact events
  · exact busy
  · exact stopping

theorem Picked.expire {lost : List ScheduledPayload} {next : Option ScheduledPayload}
    {outcome : Outcome BleTransportError} {selected : ScheduledPayload}
    (found : transport.pending.items[transport.earliestPendingIndex]? = some selected)
    (least : ∀ other ∈ transport.pending.items, selected.key ≤ other.key)
    (outdated : selected.expired nowMs = true) {update : TransportStats → TransportStats}
    (picked : Picked ((transport.erasePending transport.earliestPendingIndex).count selected.transport
      update) nowMs answers lost next outcome) :
    Picked transport nowMs answers (selected :: lost) next
      { outcome with events := .dropped nowMs selected :: outcome.events } := by
  have moved := perm_cons_eraseIdx found
  have rest : (transport.pending.items.eraseIdx transport.earliestPendingIndex).Perm
      (lost ++ next.toList ++ outcome.next.pending.items) := picked.parts
  constructor
  · exact moved.trans (rest.cons selected)
  · exact List.forall_mem_cons.mpr ⟨outdated, picked.expired⟩
  · exact picked.valid
  · refine List.forall_mem_cons.mpr ⟨fun chosen same => ?_, picked.before⟩
    apply least
    have inside : chosen ∈ lost ++ next.toList ++ outcome.next.pending.items :=
      List.mem_append_left _ (List.mem_append_right _ (Option.mem_toList.mpr same))
    exact List.mem_of_mem_eraseIdx (rest.mem_iff.mpr inside)
  · exact picked.after
  · exact picked.emptied
  · exact congrArg (BleEvent.dropped nowMs selected :: ·) picked.events
  · intro started
    rcases List.mem_cons.mp started with impossible | later
    · cases impossible
    · exact picked.busy later
  · exact picked.stopping

theorem pollPending_picked (bound : Nat) (enough : transport.pending.count ≤ bound) :
    ∃ lost selected, Picked transport nowMs answers lost selected
      (pollPending nowMs answers bound transport) := by
  induction bound generalizing transport with
  | zero => exact ⟨[], none, picked_nothing (List.eq_nil_of_length_eq_zero (Nat.le_zero.mp enough))⟩
  | succ bound ih =>
    unfold pollPending
    dsimp only
    cases found : transport.pending.items[transport.earliestPendingIndex]? with
    | none => exact ⟨[], none, picked_nothing (earliest_missing found)⟩
    | some selected =>
      have present : transport.pending.items ≠ [] := by
        intro empty
        rw [empty] at found
        cases found
      obtain ⟨item, same, least⟩ := earliestIndex_spec ScheduledPayload.earlier_iff present
      have chosen : selected = item := Option.some.inj (found.symm.trans same)
      rw [← chosen] at least
      have length := (perm_cons_eraseIdx found).length_eq
      unfold BoundedQueue.count at enough
      rw [length, List.length_cons] at enough
      dsimp only
      by_cases outdated : selected.expired nowMs = true
      · rw [if_pos outdated]
        obtain ⟨lost, next, picked⟩ := @ih ((transport.erasePending transport.earliestPendingIndex).count
          selected.transport fun stats =>
            { stats with dropped := saturatingIncrement stats.dropped }) (Nat.le_of_succ_le_succ enough)
        exact ⟨selected :: lost, next, picked.expire found least outdated⟩
      · rw [if_neg outdated]
        exact ⟨[], some selected, picked_valid found least (Bool.eq_false_iff.mpr outdated)⟩

/-- What a poll does: nothing once the transport is stopping, otherwise it drains the completions and,
if nothing is on air then, goes through the payloads that wait. -/
theorem poll_cases (transport : BleTransport) (nowMs : Nat) (answers : BleAnswers) :
    let drained := transport.drainCompletions answers
    ((transport.shuttingDown = true ∨ transport.shutDown = true) ∧
      transport.poll nowMs answers = { result := .backendError, next := transport }) ∨
    (¬(transport.shuttingDown = true ∨ transport.shutDown = true) ∧ drained.1.busy = true ∧
      transport.poll nowMs answers = { result := .none, next := drained.1, events := drained.2 }) ∨
    (¬(transport.shuttingDown = true ∨ transport.shutDown = true) ∧ drained.1.busy = false ∧
      ∃ lost selected outcome, Picked drained.1 nowMs answers lost selected outcome ∧
        transport.poll nowMs answers = { outcome with events := drained.2 ++ outcome.events }) := by
  unfold poll
  dsimp only
  split_ifs with stopped busy
  · exact .inl ⟨stopped, rfl⟩
  · exact .inr (.inl ⟨stopped, busy, rfl⟩)
  · obtain ⟨lost, selected, picked⟩ := @pollPending_picked (transport.drainCompletions answers).1 nowMs
      answers _ (le_refl _)
    exact .inr (.inr ⟨stopped, Bool.eq_false_iff.mpr busy, lost, selected, _, picked, rfl⟩)

/-! The order of service in one poll. -/

def discarded (events : List BleEvent) : List ScheduledPayload :=
  events.filterMap fun event => match event with
    | .dropped _ payload => some payload
    | _ => none

theorem discarded_append (first second : List BleEvent) :
    discarded (first ++ second) = discarded first ++ discarded second := List.filterMap_append

theorem discarded_map (lost : List ScheduledPayload) :
    discarded (lost.map (.dropped nowMs)) = lost := by
  unfold discarded
  rw [List.filterMap_map]
  exact List.filterMap_some

theorem discarded_drained {events : List BleEvent}
    (finished : ∀ event ∈ events, ∃ kind succeeded, event = .finished kind succeeded) :
    discarded events = [] := by
  apply List.filterMap_eq_nil_iff.mpr
  intro event member
  obtain ⟨kind, succeeded, rfl⟩ := finished event member
  rfl

theorem discarded_calls (selected : Option ScheduledPayload) :
    discarded (selected.elim [] (calls nowMs answers)) = [] := by
  cases selected with
  | none => rfl
  | some payload =>
    unfold calls discarded
    by_cases configured : answers.configure = ESP_OK
    · simp [configured]
    · simp [configured]

theorem Picked.configured {lost : List ScheduledPayload} {selected : Option ScheduledPayload}
    {outcome : Outcome BleTransportError} (picked : Picked transport nowMs answers lost selected outcome)
    {timeMs : Nat} {mode : BleMode} {payload : ScheduledPayload} {result : EspErr}
    (called : .configure timeMs mode payload result ∈ outcome.events) :
    timeMs = nowMs ∧ mode = modeOf payload ∧ selected = some payload := by
  rw [picked.events, List.mem_append] at called
  rcases called with impossible | called
  · obtain ⟨_, _, same⟩ := List.mem_map.mp impossible
    cases same
  · cases selected with
    | none => cases called
    | some chosen =>
      rcases List.mem_cons.mp called with same | impossible
      · cases same
        exact ⟨rfl, rfl, rfl⟩
      · split_ifs at impossible
        · cases List.mem_singleton.mp impossible
        · cases impossible

theorem Picked.lost_perm {lost : List ScheduledPayload} {selected : ScheduledPayload}
    {outcome : Outcome BleTransportError}
    (picked : Picked transport nowMs answers lost (some selected) outcome)
    (distinct : (transport.pending.items.map ScheduledPayload.key).Nodup) :
    lost.Perm (transport.pending.items.filter fun payload =>
      payload.expired nowMs && decide (payload.key < selected.key)) := by
  have parts := picked.parts
  have keys := (parts.map ScheduledPayload.key).nodup_iff.mp distinct
  rw [List.map_append, List.map_append, Option.toList_some, List.map_singleton,
    List.nodup_append, List.nodup_append] at keys
  obtain ⟨⟨_, _, apart⟩, _, _⟩ := keys
  have kept : ∀ payload ∈ lost, (payload.expired nowMs && decide (payload.key < selected.key)) = true := by
    intro payload member
    have differs := apart payload.key (List.mem_map_of_mem member) selected.key List.mem_cons_self
    have early := lt_of_le_of_ne (picked.before payload member selected rfl) differs
    rw [picked.expired payload member, Bool.true_and, decide_eq_true early]
  have others : ∀ payload ∈ selected :: outcome.next.pending.items,
      ¬(payload.expired nowMs && decide (payload.key < selected.key)) = true := by
    intro payload member
    have late : selected.key ≤ payload.key := by
      rcases List.mem_cons.mp member with rfl | left
      · exact le_refl _
      · exact picked.after payload left selected rfl
    rw [decide_eq_false (not_lt.mpr late), Bool.and_false]
    exact Bool.false_ne_true
  have filtered := parts.filter fun payload =>
    payload.expired nowMs && decide (payload.key < selected.key)
  rw [List.append_assoc, Option.toList_some, List.singleton_append, List.filter_append,
    List.filter_eq_self.mpr kept, List.filter_eq_nil_iff.mpr others, List.append_nil] at filtered
  exact filtered.symm

/-- Every payload that waits fits the mode it is sent in. -/
def Carriable (transport : BleTransport) : Prop :=
  ∀ payload ∈ transport.pending.items, payload.size ≤ maximumSize payload.transport

structure ServesInOrder (transport : BleTransport) (nowMs : Nat) (answers : BleAnswers) : Prop where
  selected : ∀ timeMs mode payload result,
    .configure timeMs mode payload result ∈ (transport.poll nowMs answers).events →
      timeMs = nowMs ∧ payload ∈ transport.pending.items ∧ payload.expired nowMs = false ∧
      ∀ other ∈ transport.pending.items, other.expired nowMs = false → ¬other.key < payload.key
  mode : ∀ timeMs mode payload result,
    .configure timeMs mode payload result ∈ (transport.poll nowMs answers).events →
      (mode = .legacy ∧ payload.size ≤ 31 ↔ payload.transport = .ble4) ∧
      (mode = .extended ∧ payload.size ≤ 158 ↔ payload.transport ≠ .ble4)
  busy : (transport.drainCompletions answers).1.busy = true →
    (transport.poll nowMs answers).next.pending = transport.pending ∧
      discarded (transport.poll nowMs answers).events = []
  idle : ¬(transport.shuttingDown = true ∨ transport.shutDown = true) →
    (transport.drainCompletions answers).1.busy = false →
    (transport.pending.items.map ScheduledPayload.key).Nodup →
      (∃ payload, .configure nowMs (modeOf payload) payload answers.configure ∈
          (transport.poll nowMs answers).events ∧
        (discarded (transport.poll nowMs answers).events).Perm (transport.pending.items.filter
          fun other => other.expired nowMs && decide (other.key < payload.key))) ∨
      ((∀ timeMs mode payload result,
          .configure timeMs mode payload result ∉ (transport.poll nowMs answers).events) ∧
        (discarded (transport.poll nowMs answers).events).Perm transport.pending.items ∧
        ∀ other ∈ transport.pending.items, other.expired nowMs = true)

theorem modeOf_iff {payload : ScheduledPayload} (fits : payload.size ≤ maximumSize payload.transport) :
    (modeOf payload = .legacy ∧ payload.size ≤ 31 ↔ payload.transport = .ble4) ∧
      (modeOf payload = .extended ∧ payload.size ≤ 158 ↔ payload.transport ≠ .ble4) := by
  unfold modeOf
  unfold maximumSize kBleLegacyMaxPayloadSize kBleExtendedMaxPayloadSize at fits
  by_cases legacy : payload.transport = .ble4
  · rw [if_pos legacy] at fits
    simp [legacy, fits]
  · rw [if_neg legacy] at fits
    simp [legacy, fits]

theorem poll_configured {timeMs : Nat} {mode : BleMode} {payload : ScheduledPayload} {result : EspErr}
    (called : .configure timeMs mode payload result ∈ (transport.poll nowMs answers).events) :
    timeMs = nowMs ∧ mode = modeOf payload ∧ payload ∈ transport.pending.items ∧ ∃ lost outcome,
      Picked (transport.drainCompletions answers).1 nowMs answers lost (some payload) outcome := by
  have drained := @drainCompletions_drained transport answers
  have notDrained : .configure timeMs mode payload result ∉ (transport.drainCompletions answers).2 := by
    intro member
    obtain ⟨_, _, impossible⟩ := drained.finished _ member
    cases impossible
  rcases poll_cases transport nowMs answers with ⟨_, same⟩ | ⟨_, _, same⟩ |
    ⟨_, _, lost, selected, outcome, picked, same⟩
  · rw [same] at called
    cases called
  · rw [same] at called
    exact absurd called notDrained
  · rw [same] at called
    rcases List.mem_append.mp called with early | late
    · exact absurd early notDrained
    · obtain ⟨time, isMode, rfl⟩ := picked.configured late
      have waited : payload ∈ transport.pending.items := by
        rw [← @drainCompletions_pending transport answers, picked.parts.mem_iff]
        simp
      exact ⟨time, isMode, waited, lost, outcome, picked⟩

theorem Carriable.servesInOrder (carriable : Carriable transport) (nowMs : Nat) (answers : BleAnswers) :
    ServesInOrder transport nowMs answers := by
  have pending := @drainCompletions_pending transport answers
  have finished := (@drainCompletions_drained transport answers).finished
  constructor
  · intro timeMs mode payload result called
    obtain ⟨time, _, waited, lost, outcome, picked⟩ := poll_configured called
    have parts := picked.parts
    rw [pending] at parts
    refine ⟨time, waited, picked.valid payload rfl, ?_⟩
    intro other waits valid earlier
    rcases List.mem_append.mp (parts.mem_iff.mp waits) with front | left
    · rcases List.mem_append.mp front with gone | chosen
      · rw [picked.expired other gone] at valid
        cases valid
      · rw [Option.toList_some, List.mem_singleton] at chosen
        rw [chosen] at earlier
        exact lt_irrefl _ earlier
    · exact absurd earlier (not_lt.mpr (picked.after other left payload rfl))
  · intro timeMs mode payload result called
    obtain ⟨_, isMode, waited, _⟩ := poll_configured called
    rw [isMode]
    exact modeOf_iff (carriable payload waited)
  · intro busy
    rcases poll_cases transport nowMs answers with ⟨_, same⟩ | ⟨_, _, same⟩ | ⟨_, idle, _⟩
    · rw [same]
      exact ⟨rfl, rfl⟩
    · rw [same]
      exact ⟨pending, discarded_drained finished⟩
    · rw [busy] at idle
      cases idle
  · intro running idle distinct
    rcases poll_cases transport nowMs answers with ⟨stopped, _⟩ | ⟨_, busy, _⟩ |
      ⟨_, _, lost, selected, outcome, picked, same⟩
    · exact absurd stopped running
    · rw [busy] at idle
      cases idle
    · have events : (transport.poll nowMs answers).events =
          (transport.drainCompletions answers).2 ++ outcome.events := by rw [same]
      have gone : discarded (transport.poll nowMs answers).events = lost := by
        rw [events, picked.events, discarded_append, discarded_append, discarded_drained finished,
          discarded_map, discarded_calls, List.nil_append, List.append_nil]
      rw [← pending] at distinct
      rw [gone]
      cases selected with
      | some payload =>
        have lostPerm := picked.lost_perm distinct
        rw [pending] at lostPerm
        refine .inl ⟨payload, ?_, lostPerm⟩
        rw [events, picked.events]
        exact List.mem_append_right _ (List.mem_append_right _ List.mem_cons_self)
      | none =>
        have parts := picked.parts
        rw [picked.emptied rfl, pending, List.append_nil, Option.toList_none, List.append_nil] at parts
        refine .inr ⟨fun timeMs mode payload result called => ?_, parts.symm, fun other waits => ?_⟩
        · rw [events, picked.events, List.mem_append] at called
          rcases called with early | late
          · obtain ⟨_, _, impossible⟩ := finished _ early
            cases impossible
          · rw [Option.elim_none, List.append_nil] at late
            obtain ⟨_, _, impossible⟩ := List.mem_map.mp late
            cases impossible
        · exact picked.expired other (parts.mem_iff.mp waits)

/-! Whole runs. -/

/-- What a run keeps: the log starts nothing while something is on air, what is on air is known until the
transport is shut down, and everything that waits can be sent. -/
structure Orderly (transport : BleTransport) (log : List BleEvent) : Prop where
  exclusive : ExclusiveFrom false log
  known : log.foldl BleEvent.onAir false = true → transport.busy = true ∨ transport.shutDown = true
  carriable : Carriable transport

theorem orderly_start : Orderly {} [] := ⟨trivial, nofun, nofun⟩

theorem Orderly.quiet {log : List BleEvent} (orderly : Orderly transport log) {next : BleTransport}
    {event : List BleEvent} (silent : .start ESP_OK ∉ event)
    (still : event.foldl BleEvent.onAir (log.foldl BleEvent.onAir false) = log.foldl BleEvent.onAir false)
    (known : transport.busy = true ∨ transport.shutDown = true →
      next.busy = true ∨ next.shutDown = true) (carriable : Carriable next) :
    Orderly next (log ++ event) := by
  constructor
  · rw [exclusiveFrom_append]
    exact ⟨orderly.exclusive, exclusive_of_silent silent _⟩
  · rw [List.foldl_append, still]
    exact fun onAir => known (orderly.known onAir)
  · exact carriable

theorem Orderly.submit {log : List BleEvent} (orderly : Orderly transport log)
    (payload : ScheduledPayload) :
    Orderly (transport.submit payload).next (log ++ (transport.submit payload).events) := by
  apply @submit_rule transport payload (fun outcome => Orderly outcome.next (log ++ outcome.events))
  · intro error _
    rw [List.append_nil]
    exact orderly
  · intro queue _ _ fits pushed
    refine orderly.quiet (by simp) rfl (fun known => known) ?_
    intro other member
    have member : other ∈ transport.pending.items ++ [payload] :=
      BoundedQueue.push_eq_some pushed ▸ member
    rcases List.mem_append.mp member with old | new
    · exact orderly.carriable other old
    · rw [List.mem_singleton.mp new]
      exact fits

theorem Orderly.shutdown {log : List BleEvent} (orderly : Orderly transport log) (reset : EspErr) :
    Orderly (transport.shutdown reset).next (log ++ (transport.shutdown reset).events) := by
  unfold BleTransport.shutdown
  dsimp only
  split_ifs
  · rw [List.append_nil]
    exact orderly
  · exact orderly.quiet (by simp) rfl (fun known => known) orderly.carriable
  · exact orderly.quiet (by simp) rfl (fun _ => .inr rfl) nofun

theorem Orderly.completion {log : List BleEvent} (orderly : Orderly transport log)
    (event : BleCompletionEvent) : Orderly (transport.enqueueCompletion event) (log ++ []) := by
  have same : transport.enqueueCompletion event = transport.enqueueCompletions [event] := rfl
  obtain ⟨_, _, _, ring⟩ := enqueueCompletions_eq transport [event]
  rw [same, ring]
  exact orderly.quiet List.not_mem_nil rfl (fun known => known) orderly.carriable

theorem Orderly.drain {log : List BleEvent} (orderly : Orderly transport log) (answers : BleAnswers) :
    Orderly (transport.drainCompletions answers).1
      (log ++ (transport.drainCompletions answers).2) := by
  have drained := @drainCompletions_drained transport answers
  have pending := @drainCompletions_pending transport answers
  generalize transport.drainCompletions answers = after at *
  constructor
  · rw [exclusiveFrom_append]
    refine ⟨orderly.exclusive, exclusive_of_silent (fun started => ?_) _⟩
    obtain ⟨_, _, impossible⟩ := drained.finished _ started
    cases impossible
  · rw [List.foldl_append]
    intro onAir
    rw [drained.stopping.2]
    cases events : after.2 using List.reverseRecOn with
    | nil =>
      rw [events] at onAir
      rw [drained.same events]
      exact orderly.known onAir
    | append_singleton earlier last =>
      have member : last ∈ after.2 := by
        rw [events]
        exact List.mem_append_right _ List.mem_cons_self
      obtain ⟨kind, succeeded, rfl⟩ := drained.finished last member
      rw [events, List.foldl_append] at onAir
      cases onAir
  · intro payload member
    rw [pending] at member
    exact orderly.carriable payload member

theorem foldl_dropped (lost : List ScheduledPayload) (onAir : Bool) :
    (lost.map (BleEvent.dropped nowMs)).foldl BleEvent.onAir onAir = onAir := by
  induction lost with
  | nil => rfl
  | cons payload rest ih => exact ih

theorem Orderly.pick {log : List BleEvent} (orderly : Orderly transport log)
    (alive : transport.shutDown = false) (idle : transport.busy = false)
    {lost : List ScheduledPayload} {selected : Option ScheduledPayload}
    {outcome : Outcome BleTransportError}
    (picked : Picked transport nowMs answers lost selected outcome) :
    Orderly outcome.next (log ++ outcome.events) := by
  have free : log.foldl BleEvent.onAir false = false := by
    rw [← Bool.not_eq_true]
    intro onAir
    rcases orderly.known onAir with busy | down
    · rw [busy] at idle
      cases idle
    · rw [down] at alive
      cases alive
  constructor
  · rw [exclusiveFrom_append, free, picked.events, exclusiveFrom_append, foldl_dropped]
    refine ⟨orderly.exclusive, exclusive_of_silent (by simp) false, ?_⟩
    cases selected with
    | none => trivial
    | some payload =>
      refine ⟨fun _ => rfl, ?_⟩
      split_ifs
      · exact ⟨fun _ => rfl, trivial⟩
      · trivial
  · rw [List.foldl_append, free]
    intro onAir
    left
    apply picked.busy
    rw [picked.events, List.foldl_append, foldl_dropped] at onAir
    rw [picked.events]
    cases selected with
    | none => cases onAir
    | some payload =>
      apply List.mem_append_right
      unfold calls at onAir ⊢
      by_cases configured : answers.configure = ESP_OK
      · rw [Option.elim_some, if_pos configured] at onAir ⊢
        have started : answers.start = ESP_OK := by
          simpa [BleEvent.onAir] using onAir
        rw [started]
        exact List.mem_cons_of_mem _ List.mem_cons_self
      · rw [Option.elim_some, if_neg configured] at onAir
        cases onAir
  · intro payload member
    exact orderly.carriable payload (picked.parts.mem_iff.mpr (List.mem_append_right _ member))

theorem Orderly.poll {log : List BleEvent} (orderly : Orderly transport log) (nowMs : Nat)
    (answers : BleAnswers) :
    Orderly (transport.poll nowMs answers).next (log ++ (transport.poll nowMs answers).events) := by
  have drained := orderly.drain answers
  rcases poll_cases transport nowMs answers with ⟨_, same⟩ | ⟨_, _, same⟩ |
    ⟨running, idle, lost, selected, outcome, picked, same⟩
  · rw [same, List.append_nil]
    exact orderly
  · rw [same]
    exact drained
  · have alive : (transport.drainCompletions answers).1.shutDown = false := by
      rw [(@drainCompletions_drained transport answers).stopping.2]
      exact Bool.eq_false_iff.mpr fun down => running (.inr down)
    rw [same, ← List.append_assoc]
    exact drained.pick alive idle picked

theorem run_orderly (inputs : List Input) :
    Orderly (machine.run {} inputs).1 (machine.run {} inputs).2 := by
  apply machine.run_invariant Orderly
  · intro transport log input orderly
    cases input with
    | submit payload => exact orderly.submit payload
    | poll nowMs answers => exact orderly.poll nowMs answers
    | completion event => exact orderly.completion event
    | shutdown reset => exact orderly.shutdown reset
  · exact orderly_start

theorem stopped_step {input : Input} (stopped : transport.shuttingDown = true ∨ transport.shutDown = true) :
    ((machine.step transport input).1.shuttingDown = true ∨
      (machine.step transport input).1.shutDown = true) ∧
      ∀ event ∈ (machine.step transport input).2, ∃ result, event = .reset result := by
  cases input with
  | submit payload =>
    have same : machine.step transport (.submit payload) = (transport, []) := by
      show ((transport.submit payload).next, (transport.submit payload).events) = _
      unfold BleTransport.submit
      rw [if_pos stopped]
    rw [same]
    exact ⟨stopped, List.forall_mem_nil _⟩
  | poll nowMs answers =>
    have same : machine.step transport (.poll nowMs answers) = (transport, []) := by
      show ((transport.poll nowMs answers).next, (transport.poll nowMs answers).events) = _
      unfold BleTransport.poll
      rw [if_pos stopped]
    rw [same]
    exact ⟨stopped, List.forall_mem_nil _⟩
  | completion event =>
    obtain ⟨_, _, _, ring⟩ := enqueueCompletions_eq transport [event]
    have same : (machine.step transport (.completion event)) =
        (transport.enqueueCompletions [event], []) := rfl
    rw [same, ring]
    exact ⟨stopped, List.forall_mem_nil _⟩
  | shutdown reset =>
    show ((transport.shutdown reset).next.shuttingDown = true ∨
      (transport.shutdown reset).next.shutDown = true) ∧ ∀ event ∈ (transport.shutdown reset).events, _
    unfold BleTransport.shutdown
    dsimp only
    split_ifs
    · exact ⟨stopped, List.forall_mem_nil _⟩
    · exact ⟨.inl rfl, fun event member => ⟨reset, List.mem_singleton.mp member⟩⟩
    · exact ⟨.inl rfl, fun event member => ⟨reset, List.mem_singleton.mp member⟩⟩

theorem shutdown_stopped (reset : EspErr) :
    (transport.shutdown reset).next.shuttingDown = true ∨
      (transport.shutdown reset).next.shutDown = true := by
  unfold BleTransport.shutdown
  dsimp only
  split_ifs with down
  · exact .inr down
  · exact .inl rfl
  · exact .inl rfl

theorem run_stopped (stopped : transport.shuttingDown = true ∨ transport.shutDown = true)
    (inputs : List Input) :
    ∀ event ∈ (machine.run transport inputs).2, ∃ result, event = .reset result := by
  have kept := machine.run_invariant (fun state log =>
    (state.shuttingDown = true ∨ state.shutDown = true) ∧ ∀ event ∈ log, ∃ result, event = .reset result)
    (fun state log input holds => ?_) transport ⟨stopped, List.forall_mem_nil _⟩ inputs
  · exact kept.2
  · obtain ⟨stopping, quiet⟩ := @stopped_step state input holds.1
    refine ⟨stopping, fun event member => ?_⟩
    rcases List.mem_append.mp member with old | new
    · exact holds.2 event old
    · exact quiet event new

/-! What ends the payload on air. -/

/-- The completions a poll finds lost when the ring has none for it. -/
def overflowsSeen (transport : BleTransport) (answers : BleAnswers) : Nat :=
  let stored : BleTransport := { transport.enqueueCompletions answers.beforeStore with
    completionRead := transport.completionWrite }
  (stored.enqueueCompletions answers.beforeExchange).completionOverflows

/-- A poll ends the payload on air with the oldest completion in the ring, or as failed when the ring is
empty and completions have been lost. -/
def Ends (transport : BleTransport) (answers : BleAnswers) (kind : Transport) (succeeded : Bool) : Prop :=
  transport.busy = true ∧ kind = transport.activeTransport ∧
    if transport.completionRead = transport.completionWrite then
      succeeded = false ∧ 0 < transport.overflowsSeen answers
    else
      let oldest := transport.completions transport.completionRead
      succeeded = decide (oldest.status = ESP_OK ∧ 0 < oldest.advertisingEventCount)

/-- Only a poll of a running transport ends anything. -/
def EndsBy (transport : BleTransport) : Input → Transport → Bool → Prop
  | .poll _ answers, kind, succeeded =>
      ¬(transport.shuttingDown = true ∨ transport.shutDown = true) ∧ transport.Ends answers kind succeeded
  | _, _, _ => False

theorem enqueueCompletions_busy (events : List BleCompletionEvent) :
    (transport.enqueueCompletions events).busy = transport.busy := by
  obtain ⟨_, _, _, same⟩ := enqueueCompletions_eq transport events
  rw [same]

theorem enqueueCompletions_active (events : List BleCompletionEvent) :
    (transport.enqueueCompletions events).activeTransport = transport.activeTransport := by
  obtain ⟨_, _, _, same⟩ := enqueueCompletions_eq transport events
  rw [same]

theorem consume_idle (idle : transport.busy = false) (slots : Nat) (read : Fin 8) :
    consume slots read transport = (transport, []) := by
  induction slots generalizing read with
  | zero => rfl
  | succ slots ih =>
    unfold consume
    simp only [idle, Bool.false_eq_true, if_false, ih, List.append_nil]

theorem consume_busy (busy : transport.busy = true) (slots : Nat) (read : Fin 8) :
    consume (slots + 1) read transport = transport.finish (decide
      ((transport.completions read).status = ESP_OK ∧ 0 < (transport.completions read).advertisingEventCount)) := by
  unfold consume
  dsimp only
  rw [if_pos busy, consume_idle rfl, List.append_nil]

theorem drainCompletions_empty (busy : transport.busy = true)
    (empty : transport.completionRead = transport.completionWrite) :
    (transport.drainCompletions answers).2 =
      if 0 < transport.overflowsSeen answers then [.finished transport.activeTransport false] else [] := by
  have none : (transport.completionWrite - transport.completionRead).val = 0 := by
    rw [empty, sub_self]
    rfl
  unfold drainCompletions overflowsSeen
  dsimp only
  rw [none]
  unfold consume
  dsimp only
  split_ifs with ended lost lost
  · show [BleEvent.finished _ false] = _
    rw [enqueueCompletions_active, enqueueCompletions_active]
  · exact absurd ended.1 lost
  · refine absurd ⟨lost, ?_⟩ ended
    rw [enqueueCompletions_busy, enqueueCompletions_busy]
    exact busy
  · rfl

theorem drainCompletions_oldest (busy : transport.busy = true)
    (some : transport.completionRead ≠ transport.completionWrite) :
    (transport.drainCompletions answers).2 = (transport.finish (decide
      ((transport.completions transport.completionRead).status = ESP_OK ∧
        0 < (transport.completions transport.completionRead).advertisingEventCount))).2 := by
  obtain ⟨slots, counted⟩ : ∃ slots,
      (transport.completionWrite - transport.completionRead).val = slots + 1 := by
    apply Nat.exists_eq_succ_of_ne_zero
    intro none
    exact some (sub_eq_zero.mp (Fin.val_eq_zero_iff.mp none)).symm
  unfold drainCompletions
  dsimp only
  rw [counted, consume_busy busy, enqueueCompletions_busy, enqueueCompletions_busy]
  rw [if_neg (by simp [finish])]

theorem drainCompletions_idle (idle : transport.busy = false) :
    (transport.drainCompletions answers).2 = [] := by
  unfold drainCompletions
  dsimp only
  rw [consume_idle idle, enqueueCompletions_busy, enqueueCompletions_busy, idle]
  rw [if_neg (by simp)]

theorem drainCompletions_ends (kind : Transport) (succeeded : Bool) :
    .finished kind succeeded ∈ (transport.drainCompletions answers).2 ↔
      transport.Ends answers kind succeeded := by
  unfold Ends
  cases busy : transport.busy with
  | false => simp [drainCompletions_idle busy]
  | true =>
    by_cases empty : transport.completionRead = transport.completionWrite
    · rw [drainCompletions_empty busy empty, if_pos empty]
      split_ifs with lost
      · simp [lost]
      · simp [lost]
    · rw [drainCompletions_oldest busy empty, if_neg empty]
      simp [finish]

theorem Picked.unfinished {lost : List ScheduledPayload} {selected : Option ScheduledPayload}
    {outcome : Outcome BleTransportError} (picked : Picked transport nowMs answers lost selected outcome)
    (kind : Transport) (succeeded : Bool) : .finished kind succeeded ∉ outcome.events := by
  rw [picked.events]
  cases selected with
  | none => simp
  | some payload =>
    unfold calls
    split_ifs
    · simp
    · simp

theorem step_ends (input : Input) (kind : Transport) (succeeded : Bool) :
    .finished kind succeeded ∈ (machine.step transport input).2 ↔ transport.EndsBy input kind succeeded := by
  cases input with
  | submit payload =>
    apply @submit_rule transport payload (fun outcome => .finished kind succeeded ∈ outcome.events ↔ False)
    · simp
    · simp
  | poll nowMs answers =>
    show .finished kind succeeded ∈ (transport.poll nowMs answers).events ↔ _ ∧ _
    rcases poll_cases transport nowMs answers with ⟨stopped, same⟩ | ⟨running, _, same⟩ |
      ⟨running, _, lost, selected, outcome, picked, same⟩
    · rw [same]
      simp [stopped]
    · rw [same, drainCompletions_ends]
      exact (and_iff_right running).symm
    · rw [same, List.mem_append, drainCompletions_ends, or_iff_left (picked.unfinished kind succeeded)]
      exact (and_iff_right running).symm
  | completion event => exact iff_of_false List.not_mem_nil id
  | shutdown reset =>
    show .finished kind succeeded ∈ (transport.shutdown reset).events ↔ False
    unfold BleTransport.shutdown
    dsimp only
    split_ifs
    · simp
    · simp
    · simp

end

/-- The BLE transport serves in order and one at a time: between two successful starts something has been
drained, which is the oldest completion in the ring or an overflow; every poll hands over the earliest valid
payload, in the mode of its transport, and drops just the expired ones before it, or leaves everything alone
while something is on air; and after the first shutdown the backend is asked for nothing but resets. -/
theorem ble_service (inputs : List Input) :
    let ran := machine.run {} inputs
    (∀ first middle rest, ran.2 = first ++ .start ESP_OK :: (middle ++ .start ESP_OK :: rest) →
      ∃ kind succeeded, .finished kind succeeded ∈ middle) ∧
    (∀ (transport : BleTransport) input kind succeeded,
      .finished kind succeeded ∈ (machine.step transport input).2 ↔ transport.EndsBy input kind succeeded) ∧
    (∀ nowMs answers, ServesInOrder ran.1 nowMs answers) ∧
    ∀ reset later, ∀ event ∈ (machine.run (ran.1.shutdown reset).next later).2,
      ∃ result, event = .reset result := by
  have orderly := run_orderly inputs
  refine ⟨?_, fun _ => step_ends, orderly.carriable.servesInOrder, ?_⟩
  · exact fun first middle rest split => orderly.exclusive.between split
  · exact fun reset later => run_stopped (shutdown_stopped reset) later

end BleTransport

end RidFirmware
