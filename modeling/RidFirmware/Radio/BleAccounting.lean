import RidFirmware.Radio.BleTransport

/-! The books of the BLE transport: every accepted payload waits, is on air, or is counted once as
completed, expired or failed. -/

namespace RidFirmware.BleTransport
open Lib

def IsBle (kind : Transport) : Prop := kind = .ble4 ∨ kind = .ble5

theorem statsIndex_inj {left right : Transport} (first : IsBle left) (second : IsBle right) :
    statsIndex left = statsIndex right ↔ left = right := by
  rcases first with rfl | rfl <;> rcases second with rfl | rfl <;> decide

def waiting (transport : BleTransport) (kind : Transport) : Nat :=
  (transport.pending.items.filter fun payload => payload.transport = kind).length

def onAir (transport : BleTransport) (kind : Transport) : Nat :=
  if transport.busy ∧ transport.activeTransport = kind then 1 else 0

/-- The ways a payload ends. -/
inductive Fate where
  | completed
  | dropped
  | failed

def Fate.record : Fate → TransportStats → TransportStats
  | .completed, stats => { stats with completed := saturatingIncrement stats.completed }
  | .dropped, stats => { stats with dropped := saturatingIncrement stats.dropped }
  | .failed, stats => { stats with radioErrors := saturatingIncrement stats.radioErrors }

/-- The counters of one transport against what it still holds. -/
def Books (stats : TransportStats) (held : Nat) : Prop :=
  ∃ completed dropped failed, stats.expected = saturated (held + completed + dropped + failed) ∧
    stats.completed = saturated completed ∧ stats.dropped = saturated dropped ∧
    stats.radioErrors = saturated failed

theorem Books.settle {stats : TransportStats} {held : Nat} (books : Books stats (held + 1))
    (fate : Fate) : Books (fate.record stats) held := by
  obtain ⟨completed, dropped, failed, expected, first, second, third⟩ := books
  have total : held + 1 + completed + dropped + failed = held + completed + dropped + failed + 1 := by
    omega
  cases fate with
  | completed =>
    refine ⟨completed + 1, dropped, failed, ?_, ?_, second, third⟩
    · rw [show held + (completed + 1) + dropped + failed = held + 1 + completed + dropped + failed by
        omega]
      exact expected
    · rw [← saturatingIncrement_saturated, ← first]
      rfl
  | dropped =>
    refine ⟨completed, dropped + 1, failed, ?_, first, ?_, third⟩
    · rw [show held + completed + (dropped + 1) + failed = held + 1 + completed + dropped + failed by
        omega]
      exact expected
    · rw [← saturatingIncrement_saturated, ← second]
      rfl
  | failed =>
    refine ⟨completed, dropped, failed + 1, ?_, first, second, ?_⟩
    · rw [show held + completed + dropped + (failed + 1) = held + 1 + completed + dropped + failed by
        omega]
      exact expected
    · rw [← saturatingIncrement_saturated, ← third]
      rfl

theorem Books.enter {stats : TransportStats} {held : Nat} (books : Books stats held) :
    Books { stats with expected := saturatingIncrement stats.expected } (held + 1) := by
  obtain ⟨completed, dropped, failed, expected, rest⟩ := books
  refine ⟨completed, dropped, failed, ?_, rest⟩
  rw [show held + 1 + completed + dropped + failed = held + completed + dropped + failed + 1 by omega,
    ← saturatingIncrement_saturated, ← expected]

/-- The books while a payload may be in the hand of `poll`, neither waiting nor on air. -/
structure Balanced (transport : BleTransport) (inHand : Option Transport) : Prop where
  kinds : ∀ payload ∈ transport.pending.items, IsBle payload.transport
  active : IsBle transport.activeTransport
  hand : ∀ kind ∈ inHand, IsBle kind
  books : ∀ kind, IsBle kind → Books (transport.stats (statsIndex kind))
    (transport.waiting kind + transport.onAir kind + if inHand = some kind then 1 else 0)

section
variable {transport : BleTransport}

theorem Balanced.settle {kind : Transport} (balanced : Balanced transport (some kind)) (fate : Fate) :
    Balanced (transport.count kind fate.record) none where
  kinds := balanced.kinds
  active := balanced.active
  hand := nofun
  books := by
    intro other isBle
    have books := balanced.books other isBle
    have mine := balanced.hand kind rfl
    by_cases same : other = kind
    · subst same
      simp only [if_true] at books
      simp only [count, Function.update_self]
      exact books.settle fate
    · have apart := mt (statsIndex_inj isBle mine).mp same
      simp only [Option.some.injEq, Ne.symm same, if_false] at books
      simp only [count, Function.update_of_ne apart]
      exact books

theorem Balanced.erase (balanced : Balanced transport none) {index : Nat}
    {payload : ScheduledPayload} (found : transport.pending.items[index]? = some payload) :
    Balanced (transport.erasePending index) (some payload.transport) where
  kinds := fun other member => balanced.kinds other (List.mem_of_mem_eraseIdx member)
  active := balanced.active
  hand := by
    intro kind impossible
    cases impossible
    exact balanced.kinds payload (List.mem_of_getElem? found)
  books := by
    intro kind isBle
    have books := balanced.books kind isBle
    have moved : transport.waiting kind =
        (transport.erasePending index).waiting kind + if some payload.transport = some kind then 1 else 0 := by
      have count := ((perm_cons_eraseIdx found).filter
        (fun other => decide (other.transport = kind))).length_eq
      unfold waiting erasePending
      rw [count, BoundedQueue.erase_items]
      by_cases same : payload.transport = kind
      · simp [same]
      · simp [same]
    rw [moved, if_neg (Option.some_ne_none kind).symm, Nat.add_zero, Nat.add_right_comm] at books
    exact books

theorem Balanced.finish (balanced : Balanced transport none) (busy : transport.busy = true)
    (succeeded : Bool) : Balanced (transport.finish succeeded).1 none := by
  have lifted : Balanced { transport with busy := false } (some transport.activeTransport) := {
    kinds := balanced.kinds
    active := balanced.active
    hand := by
      intro kind impossible
      cases impossible
      exact balanced.active
    books := by
      intro kind isBle
      have books := balanced.books kind isBle
      simp only [onAir, busy, true_and, reduceCtorEq, if_false, Nat.add_zero] at books
      simpa [onAir, waiting] using books }
  cases succeeded with
  | true => exact lifted.settle .completed
  | false => exact lifted.settle .failed

theorem Balanced.enqueueCompletions {inHand : Option Transport}
    (balanced : Balanced transport inHand) (events : List BleCompletionEvent) :
    Balanced (transport.enqueueCompletions events) inHand := by
  obtain ⟨_, _, _, same⟩ := enqueueCompletions_eq transport events
  rw [same]
  exact ⟨balanced.kinds, balanced.active, balanced.hand, balanced.books⟩

theorem Balanced.consume (balanced : Balanced transport none) (slots : Nat) (read : Fin 8) :
    Balanced (BleTransport.consume slots read transport).1 none := by
  induction slots generalizing transport read with
  | zero => exact balanced
  | succ slots ih =>
    unfold BleTransport.consume
    apply ih
    by_cases busy : transport.busy = true
    · rw [if_pos busy]
      exact balanced.finish busy _
    · rw [if_neg busy]
      exact balanced

theorem Balanced.drainCompletions (balanced : Balanced transport none) (answers : BleAnswers) :
    Balanced (transport.drainCompletions answers).1 none := by
  have consumed := balanced.consume (transport.completionWrite - transport.completionRead).val
    transport.completionRead
  unfold BleTransport.drainCompletions
  dsimp only
  generalize BleTransport.consume _ _ _ = loop at *
  rcases loop with ⟨after, events⟩
  have arrived : Balanced (after.enqueueCompletions answers.beforeStore) none :=
    consumed.enqueueCompletions _
  have stored : Balanced { after.enqueueCompletions answers.beforeStore with
      completionRead := transport.completionWrite } none :=
    ⟨arrived.kinds, arrived.active, arrived.hand, arrived.books⟩
  have exchanging := stored.enqueueCompletions answers.beforeExchange
  generalize BleTransport.enqueueCompletions _ answers.beforeExchange = before at *
  have exchanged : Balanced { before with completionOverflows := 0 } none :=
    ⟨exchanging.kinds, exchanging.active, exchanging.hand, exchanging.books⟩
  split_ifs with overflowed
  · exact exchanged.finish overflowed.2 false
  · exact exchanged

theorem Balanced.send {selected : ScheduledPayload}
    (balanced : Balanced transport (some selected.transport)) (idle : transport.busy = false)
    (nowMs : Nat) (answers : BleAnswers) :
    Balanced (transport.send selected nowMs answers).next none := by
  have called := balanced.enqueueCompletions answers.whileStarting
  have stillIdle : (transport.enqueueCompletions answers.whileStarting).busy = false := by
    obtain ⟨_, _, _, same⟩ := enqueueCompletions_eq transport answers.whileStarting
    rw [same]
    exact idle
  unfold BleTransport.send
  dsimp only
  generalize (if answers.configure = ESP_OK then answers.start else answers.configure) = error
  generalize transport.enqueueCompletions answers.whileStarting = now at *
  by_cases failed : error ≠ ESP_OK
  · rw [if_pos failed]
    exact called.settle .failed
  · rw [if_neg failed]
    have mine := called.hand _ rfl
    refine ⟨called.kinds, mine, nofun, fun kind isBle => ?_⟩
    have books := called.books kind isBle
    simp only [onAir, stillIdle, Bool.false_eq_true, false_and, if_false, Nat.add_zero,
      Option.some.injEq] at books
    simp only [onAir, count, true_and, reduceCtorEq, if_false, Nat.add_zero]
    by_cases same : statsIndex kind = statsIndex selected.transport
    · rw [same, Function.update_self]
      rw [same] at books
      exact books
    · rw [Function.update_of_ne same]
      exact books

theorem Balanced.pollPending (balanced : Balanced transport none) (idle : transport.busy = false)
    (nowMs : Nat) (answers : BleAnswers) (bound : Nat) :
    Balanced (BleTransport.pollPending nowMs answers bound transport).next none := by
  induction bound generalizing transport with
  | zero => exact balanced
  | succ bound ih =>
    unfold BleTransport.pollPending
    dsimp only
    cases found : transport.pending.items[transport.earliestPendingIndex]? with
    | none => exact balanced
    | some selected =>
      have inHand := balanced.erase found
      dsimp only
      by_cases outdated : selected.expired nowMs = true
      · rw [if_pos outdated]
        exact ih (inHand.settle .dropped) idle
      · rw [if_neg outdated]
        exact inHand.send idle nowMs answers

theorem Balanced.poll (balanced : Balanced transport none) (nowMs : Nat) (answers : BleAnswers) :
    Balanced (transport.poll nowMs answers).next none := by
  have drained := balanced.drainCompletions answers
  unfold BleTransport.poll
  dsimp only
  split_ifs with stopped busy
  · exact balanced
  · exact drained
  · exact drained.pollPending (Bool.eq_false_iff.mpr busy) nowMs answers _

theorem Balanced.enter (balanced : Balanced transport none) {payload : ScheduledPayload}
    (isBle : IsBle payload.transport) {queue : BoundedQueue ScheduledPayload kMaxBlePendingPayloads}
    (pushed : transport.pending.push payload = some queue) :
    Balanced ({ transport with pending := queue }.count payload.transport
      fun stats => { stats with expected := saturatingIncrement stats.expected }) none := by
  have items := BoundedQueue.push_eq_some pushed
  refine ⟨fun other member => ?_, balanced.active, nofun, fun kind ble => ?_⟩
  · have member : other ∈ transport.pending.items ++ [payload] := items ▸ member
    rcases List.mem_append.mp member with old | new
    · exact balanced.kinds other old
    · rwa [List.mem_singleton.mp new]
  · have books := balanced.books kind ble
    have held : ({ transport with pending := queue } : BleTransport).waiting kind =
        transport.waiting kind + if payload.transport = kind then 1 else 0 := by
      unfold waiting
      rw [items, List.filter_append, List.length_append]
      by_cases same : payload.transport = kind
      · simp [same]
      · simp [same]
    by_cases same : payload.transport = kind
    · subst same
      rw [if_pos rfl] at held
      have entered := books.enter
      rw [Nat.add_right_comm, Nat.add_right_comm _ _ 1, ← held] at entered
      simp only [count, Function.update_self]
      exact entered
    · rw [if_neg same, Nat.add_zero] at held
      rw [← held] at books
      have apart := mt (statsIndex_inj ble isBle).mp (Ne.symm same)
      simp only [count, Function.update_of_ne apart]
      exact books

theorem Balanced.submit (balanced : Balanced transport none) (payload : ScheduledPayload) :
    Balanced (transport.submit payload).next none := by
  apply @submit_rule transport payload (fun outcome => Balanced outcome.next none)
  · exact fun _ _ => balanced
  · exact fun queue _ isBle _ pushed => balanced.enter isBle pushed

end

theorem balanced_start : Balanced {} none where
  kinds := nofun
  active := .inl rfl
  hand := nofun
  books := fun kind _ => ⟨0, 0, 0, by simp [waiting, onAir], rfl, rfl, rfl⟩

/-- Until the transport is shut down its books balance, whatever the host task reports and when. -/
theorem run_balanced {inputs : List Input} (running : ∀ reset, .shutdown reset ∉ inputs) :
    Balanced (machine.run {} inputs).1 none := by
  apply machine.run_induction (fun transport _ => Balanced transport none)
    (fun _ input => ∀ reset, input ≠ .shutdown reset)
  · intro transport _ input balanced allowed
    cases input with
    | submit payload => exact balanced.submit payload
    | poll nowMs answers => exact balanced.poll nowMs answers
    | completion event => exact balanced.enqueueCompletions [event]
    | shutdown reset => exact absurd rfl (allowed reset)
  · exact balanced_start
  · intro before input within reset same
    obtain rfl := same
    exact running reset (within.subset (List.mem_append_right _ List.mem_cons_self))

theorem Balanced.accounted {transport : BleTransport} (balanced : Balanced transport none)
    {kind : Transport} (isBle : IsBle kind)
    (unsaturated : (transport.stats (statsIndex kind)).expected < kCounterMax) :
    (transport.stats (statsIndex kind)).expected =
      transport.waiting kind + (transport.stats (statsIndex kind)).dropped +
        (transport.stats (statsIndex kind)).completed +
        (transport.stats (statsIndex kind)).radioErrors + transport.onAir kind := by
  obtain ⟨completed, dropped, failed, expected, first, second, third⟩ := balanced.books kind isBle
  rw [if_neg (Option.some_ne_none kind).symm] at expected
  rw [expected] at unsaturated
  rw [expected, first, second, third]
  unfold saturated at *
  omega

/-- Every accepted payload waits, is on air, or has been counted as dropped, completed or failed. -/
theorem ble_accounted (inputs : List Input) (running : ∀ reset, .shutdown reset ∉ inputs)
    (kind : Transport) (isBle : IsBle kind)
    (unsaturated : ((machine.run {} inputs).1.stats (statsIndex kind)).expected < kCounterMax) :
    ((machine.run {} inputs).1.stats (statsIndex kind)).expected =
      (machine.run {} inputs).1.waiting kind +
        ((machine.run {} inputs).1.stats (statsIndex kind)).dropped +
        ((machine.run {} inputs).1.stats (statsIndex kind)).completed +
        ((machine.run {} inputs).1.stats (statsIndex kind)).radioErrors +
        (machine.run {} inputs).1.onAir kind :=
  (run_balanced running).accounted isBle unsaturated

/-- A payload goes on air and its completion arrives while `start` is still executing. -/
theorem ble_accounted_early_completion :
    let run := machine.run {} [.submit { size := 1 }, .poll 0 { whileStarting := [⟨ESP_OK, 1⟩] },
      .poll 10 {}]
    (run.1.stats (statsIndex .ble4)).expected = run.1.waiting .ble4 +
      (run.1.stats (statsIndex .ble4)).dropped + (run.1.stats (statsIndex .ble4)).completed +
      (run.1.stats (statsIndex .ble4)).radioErrors + run.1.onAir .ble4 :=
  ble_accounted _ (by simp) .ble4 (.inl rfl) (by decide +kernel)

end RidFirmware.BleTransport
