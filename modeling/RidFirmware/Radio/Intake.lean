import RidFirmware.Radio.BleAccounting
import RidFirmware.Radio.WifiService

/-! What the two transports have taken. Only `submit` counts an expected payload; polls and completions
leave the count alone. -/

namespace RidFirmware
open Lib

namespace RadioCoordinator

def bands : List Band := [.band0, .band1]

def taken (coordinator : RadioCoordinator) (band : Band) : Nat := (coordinator.stats band).expected

variable (coordinator : RadioCoordinator) (nowMs : Nat) (answers : WifiAnswers)

theorem count_taken (band : Band) {update : TransportStats → TransportStats}
    (keeps : ∀ stats, (update stats).expected = stats.expected) :
    (coordinator.count band update).taken = coordinator.taken := by
  funext other
  unfold taken count
  dsimp only
  by_cases same : other = band
  · rw [same, Function.update_self]
    exact keeps _
  · rw [Function.update_of_ne same]

theorem erase_taken (band : Band) (index : Nat) :
    (coordinator.erase band index).taken = coordinator.taken := rfl

theorem configure_taken : (coordinator.configure answers).next.taken = coordinator.taken := by
  unfold configure
  dsimp only
  split_ifs <;> rfl

theorem selectBand_taken (band : Band) :
    (coordinator.selectBand band nowMs answers).next.taken = coordinator.taken := by
  unfold selectBand
  dsimp only
  split_ifs
  · rfl
  · dsimp only
    rw [count_taken]
    · rfl
    · exact fun _ => rfl
  · rfl

theorem tune_taken : (coordinator.tune nowMs answers).next.taken = coordinator.taken := by
  unfold tune
  cases coordinator.switchTarget nowMs with
  | none => rfl
  | some band => exact selectBand_taken coordinator nowMs answers band

theorem serve_taken : (coordinator.serve nowMs answers).next.taken = coordinator.taken := by
  unfold serve
  dsimp only
  split
  · rfl
  · split_ifs
    · dsimp only
      rw [erase_taken, count_taken]
      exact fun _ => rfl
    · dsimp only
      rw [count_taken]
      exact fun _ => rfl
    · dsimp only
      rw [erase_taken, count_taken]
      exact fun _ => rfl
    · dsimp only
      rw [erase_taken, count_taken]
      exact fun _ => rfl

theorem poll_taken : (coordinator.poll nowMs answers).next.taken = coordinator.taken := by
  apply @poll_rule coordinator nowMs answers (fun outcome => outcome.next.taken = coordinator.taken)
  · exact fun _ _ => rfl
  · exact fun _ => configure_taken coordinator answers
  · intro configured tuned same _ equal _
    obtain rfl := same
    obtain rfl := equal
    exact (tune_taken _ nowMs answers).trans (configure_taken coordinator answers)
  · intro configured tuned same _ equal _
    obtain rfl := same
    obtain rfl := equal
    calc (RadioCoordinator.serve _ nowMs answers).next.taken
        = ((coordinator.configure answers).next.tune nowMs answers).next.taken := serve_taken _ nowMs answers
      _ = (coordinator.configure answers).next.taken := tune_taken _ nowMs answers
      _ = coordinator.taken := configure_taken coordinator answers

theorem submit_taken (payload : ScheduledPayload) :
    (coordinator.submit payload).result = ESP_OK ∧
        (coordinator.submit payload).next.taken = Function.update coordinator.taken
          (bandIndex payload.transport) (saturatingIncrement (coordinator.taken (bandIndex payload.transport))) ∨
      (coordinator.submit payload).result ≠ ESP_OK ∧
        (coordinator.submit payload).next.taken = coordinator.taken := by
  unfold submit
  dsimp only
  split_ifs
  · exact .inr ⟨(by decide : ESP_ERR_INVALID_ARG ≠ ESP_OK), rfl⟩
  · exact .inr ⟨(by decide : ESP_ERR_INVALID_ARG ≠ ESP_OK), rfl⟩
  · cases (coordinator.pending (bandIndex payload.transport)).push payload with
    | none => exact .inr ⟨(by decide : ESP_ERR_NO_MEM ≠ ESP_OK), rfl⟩
    | some queue =>
      refine .inl ⟨rfl, ?_⟩
      funext band
      unfold taken count
      dsimp only
      by_cases same : band = bandIndex payload.transport
      · rw [same, Function.update_self, Function.update_self]
      · rw [Function.update_of_ne same, Function.update_of_ne same]

end RadioCoordinator

namespace BleTransport

def kinds : List Transport := [.ble4, .ble5]

def taken (transport : BleTransport) (index : Fin 2) : Nat := (transport.stats index).expected

variable (transport : BleTransport) (nowMs : Nat) (answers : BleAnswers)

theorem count_taken (kind : Transport) {update : TransportStats → TransportStats}
    (keeps : ∀ stats, (update stats).expected = stats.expected) :
    (transport.count kind update).taken = transport.taken := by
  funext other
  unfold taken count
  dsimp only
  by_cases same : other = statsIndex kind
  · rw [same, Function.update_self]
    exact keeps _
  · rw [Function.update_of_ne same]

theorem enqueueCompletions_taken (events : List BleCompletionEvent) :
    (transport.enqueueCompletions events).taken = transport.taken := by
  obtain ⟨_, _, _, same⟩ := enqueueCompletions_eq transport events
  rw [same]
  rfl

theorem finish_taken (succeeded : Bool) : (transport.finish succeeded).1.taken = transport.taken := by
  have counted : (transport.finish succeeded).1.taken =
      (transport.count transport.activeTransport fun stats =>
        if succeeded then { stats with completed := saturatingIncrement stats.completed }
        else { stats with radioErrors := saturatingIncrement stats.radioErrors }).taken := rfl
  rw [counted, count_taken]
  intro stats
  split_ifs <;> rfl

theorem consume_taken (slots : Nat) (read : Fin 8) :
    (BleTransport.consume slots read transport).1.taken = transport.taken := by
  induction slots generalizing transport read with
  | zero => rfl
  | succ slots ih =>
    unfold BleTransport.consume
    dsimp only
    rw [ih]
    split_ifs
    · exact finish_taken transport _
    · rfl

theorem drainCompletions_taken : (transport.drainCompletions answers).1.taken = transport.taken := by
  have consumed := consume_taken transport (transport.completionWrite - transport.completionRead).val
    transport.completionRead
  unfold drainCompletions
  dsimp only
  generalize BleTransport.consume _ _ _ = loop at *
  have arrived := (enqueueCompletions_taken loop.1 answers.beforeStore).trans consumed
  have exchanging := (enqueueCompletions_taken { loop.1.enqueueCompletions answers.beforeStore with
    completionRead := transport.completionWrite } answers.beforeExchange).trans arrived
  generalize BleTransport.enqueueCompletions _ answers.beforeExchange = before at *
  split_ifs
  · exact (finish_taken { before with completionOverflows := 0 } false).trans exchanging
  · exact exchanging

theorem send_taken (selected : ScheduledPayload) :
    (transport.send selected nowMs answers).next.taken = transport.taken := by
  unfold send
  dsimp only
  rw [← enqueueCompletions_taken transport answers.whileStarting]
  generalize (if answers.configure = ESP_OK then answers.start else answers.configure) = error
  by_cases failed : error ≠ ESP_OK
  · rw [if_pos failed]
    dsimp only
    rw [count_taken]
    exact fun _ => rfl
  · rw [if_neg failed]
    apply @count_taken (transport.enqueueCompletions answers.whileStarting) selected.transport
      fun stats => { stats with
        submitted := saturatingIncrement stats.submitted
        late := if selected.deadlineMs < nowMs then saturatingIncrement stats.late else stats.late }
    exact fun _ => rfl

theorem pollPending_taken (bound : Nat) :
    (BleTransport.pollPending nowMs answers bound transport).next.taken = transport.taken := by
  induction bound generalizing transport with
  | zero => rfl
  | succ bound ih =>
    unfold BleTransport.pollPending
    dsimp only
    split
    · rfl
    · rename_i selected _
      split_ifs
      · rw [ih]
        rw [count_taken]
        · rfl
        · exact fun _ => rfl
      · exact send_taken (transport.erasePending transport.earliestPendingIndex) nowMs answers selected

theorem poll_taken : (transport.poll nowMs answers).next.taken = transport.taken := by
  have drained := drainCompletions_taken transport answers
  unfold poll
  dsimp only
  split_ifs
  · rfl
  · exact drained
  · exact (pollPending_taken _ nowMs answers _).trans drained

theorem submit_taken (payload : ScheduledPayload) :
    (transport.submit payload).result = .none ∧
        (transport.submit payload).next.taken = Function.update transport.taken
          (statsIndex payload.transport) (saturatingIncrement (transport.taken (statsIndex payload.transport))) ∨
      (transport.submit payload).result ≠ .none ∧
        (transport.submit payload).next.taken = transport.taken := by
  apply @submit_rule transport payload (fun outcome =>
    outcome.result = .none ∧ outcome.next.taken = Function.update transport.taken
        (statsIndex payload.transport) (saturatingIncrement (transport.taken (statsIndex payload.transport))) ∨
      outcome.result ≠ .none ∧ outcome.next.taken = transport.taken)
  · exact fun error failed => .inr ⟨failed, rfl⟩
  · intro queue _ _ _ _
    refine .inl ⟨rfl, ?_⟩
    funext index
    unfold taken count
    dsimp only
    by_cases same : index = statsIndex payload.transport
    · rw [same, Function.update_self, Function.update_self]
    · rw [Function.update_of_ne same, Function.update_of_ne same]

end BleTransport

end RidFirmware
