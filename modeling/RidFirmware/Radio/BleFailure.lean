import RidFirmware.Radio.BleTransport

/-! What a failed submission to the BLE radio costs: `poll` takes the payload out of the queue
before it calls the backend, so a poll whose backend calls fail always loses a valid payload. -/

namespace RidFirmware.BleTransport
open Lib

variable {transport : BleTransport} {nowMs : Nat} {answers : BleAnswers}

def fresh (transport : BleTransport) (nowMs : Nat) : List ScheduledPayload :=
  transport.pending.items.filter fun payload => !payload.expired nowMs

/-- A poll that reports a backend error leaves every valid payload in the queue. -/
def KeepsFresh (transport : BleTransport) (nowMs : Nat) (answers : BleAnswers) : Prop :=
  (transport.poll nowMs answers).result = .backendError → ∀ payload,
    (transport.fresh nowMs).count payload ≤
      ((transport.poll nowMs answers).next.fresh nowMs).count payload

/-- A poll in which `configure` or `start` is called and fails. -/
def BackendFails (transport : BleTransport) (nowMs : Nat) (answers : BleAnswers) : Prop :=
  ¬(transport.shuttingDown ∨ transport.shutDown) ∧
    (transport.drainCompletions answers).1.busy = false ∧ transport.fresh nowMs ≠ [] ∧
    (answers.configure ≠ ESP_OK ∨ answers.start ≠ ESP_OK)

theorem finish_pending (succeeded : Bool) : (transport.finish succeeded).1.pending = transport.pending :=
  rfl

theorem consume_pending (slots : Nat) (read : Fin 8) :
    (consume slots read transport).1.pending = transport.pending := by
  induction slots generalizing transport read with
  | zero => rfl
  | succ slots ih =>
    unfold consume
    rw [ih]
    by_cases busy : transport.busy = true
    · rw [if_pos busy, finish_pending]
    · rw [if_neg busy]

theorem enqueueCompletions_pending (events : List BleCompletionEvent) :
    (transport.enqueueCompletions events).pending = transport.pending := by
  obtain ⟨_, _, _, same⟩ := enqueueCompletions_eq transport events
  rw [same]

theorem drainCompletions_pending :
    (transport.drainCompletions answers).1.pending = transport.pending := by
  unfold drainCompletions
  dsimp only
  split_ifs with overflowed
  all_goals
    simp only [finish_pending, enqueueCompletions_pending, consume_pending]

theorem send_pending (selected : ScheduledPayload) :
    (transport.send selected nowMs answers).next.pending = transport.pending := by
  unfold send
  dsimp only
  split_ifs <;> exact enqueueCompletions_pending _

theorem send_result (selected : ScheduledPayload) :
    (transport.send selected nowMs answers).result = .backendError ↔
      answers.configure ≠ ESP_OK ∨ answers.start ≠ ESP_OK := by
  unfold send
  dsimp only
  by_cases configured : answers.configure = ESP_OK
  · by_cases started : answers.start = ESP_OK
    · simp [configured, started]
    · simp [configured, started]
  · simp [configured]

theorem earliest_missing (missing : transport.pending.items[transport.earliestPendingIndex]? = none) :
    transport.pending.items = [] := by
  by_contra present
  obtain ⟨item, found, _⟩ := earliestIndex_spec ScheduledPayload.earlier_iff present
  rw [earliestPendingIndex, found] at missing
  cases missing

theorem pollPending_spec (bound : Nat) (enough : transport.pending.count ≤ bound) :
    (transport.fresh nowMs = [] → (pollPending nowMs answers bound transport).result = .none) ∧
      (transport.fresh nowMs ≠ [] → ∃ selected,
        ((pollPending nowMs answers bound transport).result = .backendError ↔
          answers.configure ≠ ESP_OK ∨ answers.start ≠ ESP_OK) ∧
        (transport.fresh nowMs).Perm
          (selected :: (pollPending nowMs answers bound transport).next.fresh nowMs)) := by
  induction bound generalizing transport with
  | zero =>
    have empty : transport.fresh nowMs = [] := by
      unfold fresh
      rw [List.eq_nil_of_length_eq_zero (Nat.le_zero.mp enough)]
      rfl
    exact ⟨fun _ => rfl, fun present => absurd empty present⟩
  | succ bound ih =>
    unfold pollPending
    dsimp only
    cases found : transport.pending.items[transport.earliestPendingIndex]? with
    | none =>
      have empty : transport.fresh nowMs = [] := by
        have none := earliest_missing found
        unfold fresh
        rw [none]
        rfl
      exact ⟨fun _ => rfl, fun present => absurd empty present⟩
    | some selected =>
      have taken := perm_cons_eraseIdx found
      have length := taken.length_eq
      have rest := taken.filter fun payload => !payload.expired nowMs
      unfold BoundedQueue.count at enough
      rw [length, List.length_cons] at enough
      dsimp only
      by_cases outdated : selected.expired nowMs = true
      · rw [if_pos outdated]
        rw [List.filter_cons_of_neg (by simp [outdated])] at rest
        obtain ⟨none, some⟩ := @ih ((transport.erasePending transport.earliestPendingIndex).count
          selected.transport fun stats =>
            { stats with dropped := saturatingIncrement stats.dropped }) (Nat.le_of_succ_le_succ enough)
        have same : (transport.fresh nowMs).Perm (((transport.erasePending
            transport.earliestPendingIndex).count selected.transport fun stats =>
              { stats with dropped := saturatingIncrement stats.dropped }).fresh nowMs) := rest
        refine ⟨fun empty => none ?_, fun present => ?_⟩
        · rw [empty] at same
          exact same.nil_eq.symm
        · obtain ⟨chosen, error, left⟩ := some fun empty => by
            rw [empty] at same
            exact present same.eq_nil
          exact ⟨chosen, error, same.trans left⟩
      · rw [if_neg outdated]
        rw [List.filter_cons_of_pos (by simp [outdated])] at rest
        have present : transport.fresh nowMs ≠ [] := by
          intro empty
          have count := rest.length_eq
          unfold fresh at empty
          rw [empty] at count
          cases count
        refine ⟨fun empty => absurd empty present, fun _ => ⟨selected, send_result selected, ?_⟩⟩
        have left : ((transport.erasePending transport.earliestPendingIndex).send selected nowMs
            answers).next.fresh nowMs = (transport.pending.items.eraseIdx
              transport.earliestPendingIndex).filter fun payload => !payload.expired nowMs := by
          unfold fresh
          rw [send_pending]
          rfl
        rw [left]
        exact rest

/-- A poll keeps every valid payload exactly when no call to the backend fails in it. -/
theorem keeps_fresh_iff (transport : BleTransport) (nowMs : Nat) (answers : BleAnswers) :
    transport.KeepsFresh nowMs answers ↔ ¬transport.BackendFails nowMs answers := by
  unfold KeepsFresh BackendFails
  by_cases stopped : transport.shuttingDown = true ∨ transport.shutDown = true
  · have unchanged : (transport.poll nowMs answers).next = transport := by
      unfold poll
      rw [if_pos stopped]
    simp [stopped, unchanged]
  by_cases busy : (transport.drainCompletions answers).1.busy = true
  · have result : (transport.poll nowMs answers).result = .none := by
      unfold poll
      dsimp only
      rw [if_neg stopped, if_pos busy]
    simp [busy, result]
  have polled : (transport.poll nowMs answers).result = (pollPending nowMs answers
        (transport.drainCompletions answers).1.pending.count
        (transport.drainCompletions answers).1).result ∧
      (transport.poll nowMs answers).next = (pollPending nowMs answers
        (transport.drainCompletions answers).1.pending.count
        (transport.drainCompletions answers).1).next := by
    unfold poll
    dsimp only
    rw [if_neg stopped, if_neg busy]
    exact ⟨rfl, rfl⟩
  have drained : (transport.drainCompletions answers).1.fresh nowMs = transport.fresh nowMs := by
    unfold fresh
    rw [drainCompletions_pending]
  have spec := @pollPending_spec (transport.drainCompletions answers).1 nowMs answers _ (Nat.le_refl _)
  rw [drained, ← polled.1, ← polled.2] at spec
  obtain ⟨none, some⟩ := spec
  by_cases empty : transport.fresh nowMs = []
  · simp [empty, none empty]
  · obtain ⟨selected, error, taken⟩ := some empty
    apply Iff.intro
    · intro keeps fails
      have kept := keeps (error.mpr fails.2.2.2) selected
      rw [taken.count_eq, List.count_cons_self] at kept
      omega
    · intro free failed
      exact absurd ⟨stopped, Bool.eq_false_iff.mpr busy, empty, error.mp failed⟩ free

/-- One valid payload waits and `start` fails: the payload is gone. -/
theorem failed_start_loses_payload :
    ¬KeepsFresh (({} : BleTransport).submit { size := 1 }).next 0 { start := ESP_FAIL } := by
  rw [keeps_fresh_iff]
  unfold BackendFails
  decide +kernel

end RidFirmware.BleTransport
