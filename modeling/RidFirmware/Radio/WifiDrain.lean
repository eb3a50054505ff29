import RidFirmware.Radio.Handover

/-! Polls of a Wi-Fi radio that works. Each hands one waiting payload to the backend, whichever band it is
for, so that as many polls as payloads wait leave none behind. -/

namespace RidFirmware
open Lib

structure WifiAnswers.Healthy (answers : WifiAnswers) : Prop where
  setCountryCn : answers.setCountryCn = ESP_OK
  setChannel : ∀ channel, answers.setChannel channel = ESP_OK
  transmit : answers.transmit = ESP_OK

/-- Whether a payload leaves the hands of the coordinator: to the backend, or for good. -/
def WifiEvent.settles : WifiEvent → Bool
  | .transmit _ _ _ => true
  | .dropped _ _ => true
  | _ => false

namespace RadioCoordinator

variable {coordinator : RadioCoordinator} {nowMs : Nat} {answers : WifiAnswers}

def Busy (coordinator : RadioCoordinator) : Prop :=
  ¬(coordinator.pendingCount .band0 = 0 ∧ coordinator.pendingCount .band1 = 0)

theorem busy_of_waiting (waiting : coordinator.waiting ≠ []) : coordinator.Busy := by
  intro empty
  apply waiting
  unfold pendingCount BoundedQueue.count at empty
  unfold RadioCoordinator.waiting
  rw [List.length_eq_zero_iff.mp empty.1, List.length_eq_zero_iff.mp empty.2]
  rfl

theorem Busy.other (busy : coordinator.Busy) {band : Band} (empty : coordinator.pendingCount band = 0) :
    coordinator.pendingCount band.other ≠ 0 := by
  intro also
  cases band with
  | band0 => exact busy ⟨empty, also⟩
  | band1 => exact busy ⟨also, empty⟩

theorem erase_waiting {band : Band} {index : Nat} {payload : ScheduledPayload}
    (found : (coordinator.pending band).items[index]? = some payload) :
    coordinator.waiting.Perm (payload :: (coordinator.erase band index).waiting) := by
  have taken := perm_cons_eraseIdx found
  unfold waiting erase
  cases band with
  | band0 => exact taken.append_right _
  | band1 => exact (taken.append_left _).trans List.perm_middle

theorem submit_other {payload : ScheduledPayload}
    (other : ¬(payload.transport = .wifi24 ∨ payload.transport = .wifi58)) :
    coordinator.submit payload = { result := ESP_ERR_INVALID_ARG, next := coordinator } := by
  unfold submit
  rw [if_pos (not_or.mp other)]

theorem submit_retryAtMs (payload : ScheduledPayload) :
    (coordinator.submit payload).next.retryAtMs = coordinator.retryAtMs := by
  unfold submit
  dsimp only
  split_ifs
  · rfl
  · rfl
  · cases (coordinator.pending (bandIndex payload.transport)).push payload with
    | none => rfl
    | some queue => rfl

theorem submit_room {payload : ScheduledPayload}
    (isWifi : payload.transport = .wifi24 ∨ payload.transport = .wifi58)
    (size : 0 < payload.size ∧ payload.size ≤ kMaxScheduledPayloadSize)
    (room : coordinator.waiting.length < 16) :
    (coordinator.submit payload).result = ESP_OK ∧
      (coordinator.submit payload).next.waiting.Perm (coordinator.waiting ++ [payload]) := by
  have parts : coordinator.waiting.length =
      (coordinator.pending .band0).items.length + (coordinator.pending .band1).items.length :=
    List.length_append
  have short : (coordinator.pending (bandIndex payload.transport)).count < 16 := by
    unfold BoundedQueue.count
    cases bandIndex payload.transport with
    | band0 => omega
    | band1 => omega
  obtain ⟨queue, pushed⟩ : ∃ queue, (coordinator.pending (bandIndex payload.transport)).push payload =
      some queue := by
    unfold BoundedQueue.push
    rw [dif_pos short]
    exact ⟨_, rfl⟩
  have items := BoundedQueue.push_eq_some pushed
  rw [submit_fits isWifi size, pushed]
  refine ⟨rfl, ?_⟩
  unfold RadioCoordinator.waiting count
  dsimp only
  cases band : bandIndex payload.transport with
  | band0 =>
    rw [band] at items
    rw [Function.update_self, Function.update_of_ne (by decide), items, List.append_assoc, List.append_assoc]
    exact List.perm_append_comm.append_left _
  | band1 =>
    rw [band] at items
    rw [Function.update_self, Function.update_of_ne (by decide), items, List.append_assoc]

section
variable (healthy : answers.Healthy)
include healthy

theorem configure_healthy :
    ∃ events, coordinator.configure answers =
        { result := ESP_OK, next := { coordinator with configured := true }, events } ∧
      events.filter WifiEvent.settles = [] := by
  unfold configure
  by_cases already : coordinator.configured = true
  · rw [if_pos already]
    refine ⟨[], ?_, rfl⟩
    rw [← already]
  · rw [if_neg already]
    dsimp only
    rw [healthy.setCountryCn, if_neg (not_not.mpr rfl)]
    exact ⟨_, rfl, rfl⟩

theorem selectBand_healthy (free : coordinator.retryAtMs = 0) (band : Band) :
    coordinator.selectBand band nowMs answers =
      { result := ESP_OK
        next := { coordinator with
          activeBand := band, currentChannel := bandChannel band, dwellStartedMs := nowMs, retryAtMs := 0 }
        events := [.setChannel (bandChannel band) ESP_OK] } := by
  unfold selectBand
  rw [free, if_neg (Nat.not_lt_zero nowMs)]
  dsimp only
  rw [healthy.setChannel, if_neg (not_not.mpr rfl)]

theorem tune_healthy (free : coordinator.retryAtMs = 0) (busy : coordinator.Busy) :
    ∃ next events, coordinator.tune nowMs answers = { result := ESP_OK, next, events } ∧
      events.filter WifiEvent.settles = [] ∧ next.pending = coordinator.pending ∧
      next.retryAtMs = 0 ∧ next.pendingCount next.activeBand ≠ 0 := by
  have selected : ∀ band, coordinator.switchTarget nowMs = some band → coordinator.pendingCount band ≠ 0 →
      ∃ next events, coordinator.tune nowMs answers = { result := ESP_OK, next, events } ∧
        events.filter WifiEvent.settles = [] ∧ next.pending = coordinator.pending ∧
        next.retryAtMs = 0 ∧ next.pendingCount next.activeBand ≠ 0 := by
    intro band target waiting
    unfold tune
    rw [target]
    dsimp only
    rw [selectBand_healthy healthy free]
    exact ⟨_, _, rfl, rfl, rfl, rfl, waiting⟩
  have other := @Busy.other coordinator busy coordinator.activeBand
  cases target : coordinator.switchTarget nowMs with
  | some band =>
    apply selected band target
    unfold switchTarget at target
    dsimp only at target
    split_ifs at target with untuned empty empty both
    · obtain rfl := Option.some.inj target
      exact other empty
    · obtain rfl := Option.some.inj target
      exact empty
    · obtain rfl := Option.some.inj target
      exact empty.2
    · obtain rfl := Option.some.inj target
      exact both.2.1
  | none =>
    unfold tune
    rw [target]
    refine ⟨_, _, rfl, rfl, rfl, free, ?_⟩
    intro empty
    unfold switchTarget at target
    dsimp only at target
    split_ifs at target with untuned moves
    exact moves ⟨empty, other empty⟩

theorem serve_healthy (waiting : coordinator.pendingCount coordinator.activeBand ≠ 0)
    (fresh : ∀ payload ∈ coordinator.waiting, payload.expired nowMs = false) :
    ∃ payload, (coordinator.serve nowMs answers).result = ESP_OK ∧
      (coordinator.serve nowMs answers).events = [.transmit nowMs payload ESP_OK] ∧
      (coordinator.serve nowMs answers).next.retryAtMs = coordinator.retryAtMs ∧
      coordinator.waiting.Perm (payload :: (coordinator.serve nowMs answers).next.waiting) := by
  have present : (coordinator.pending coordinator.activeBand).items ≠ [] := by
    intro empty
    unfold pendingCount BoundedQueue.count at waiting
    rw [empty] at waiting
    exact waiting rfl
  obtain ⟨payload, found, _⟩ := earliestIndex_spec ScheduledPayload.earlier_iff present
  have waits : payload ∈ coordinator.waiting :=
    coordinator.mem_waiting.mpr ⟨_, List.mem_of_getElem? found⟩
  have taken := erase_waiting found
  unfold serve earliestIndex
  dsimp only
  simp only [found, fresh payload waits, healthy.transmit, Bool.false_eq_true, if_false, ne_eq,
    not_true_eq_false]
  exact ⟨payload, trivial, rfl, rfl, taken⟩

theorem poll_healthy (free : coordinator.retryAtMs = 0) (busy : coordinator.Busy)
    (fresh : ∀ payload ∈ coordinator.waiting, payload.expired nowMs = false) :
    ∃ payload, (coordinator.poll nowMs answers).result = ESP_OK ∧
      (coordinator.poll nowMs answers).events.filter WifiEvent.settles = [.transmit nowMs payload ESP_OK] ∧
      (coordinator.poll nowMs answers).next.retryAtMs = 0 ∧
      coordinator.waiting.Perm (payload :: (coordinator.poll nowMs answers).next.waiting) := by
  obtain ⟨setup, configured, silent⟩ := @configure_healthy coordinator answers healthy
  obtain ⟨tuned, calls, tunes, quiet, same, ready, waiting⟩ :=
    @tune_healthy { coordinator with configured := true } nowMs answers healthy free busy
  have kept : tuned.waiting = coordinator.waiting := by
    unfold RadioCoordinator.waiting
    rw [same]
  obtain ⟨payload, result, sent, retry, taken⟩ :=
    @serve_healthy tuned nowMs answers healthy waiting (by rwa [kept])
  refine ⟨payload, ?_⟩
  unfold poll
  rw [if_neg busy, configured]
  dsimp only
  rw [if_neg (not_not.mpr rfl), tunes]
  dsimp only
  rw [if_neg (by decide), if_neg (not_not.mpr rfl), ← kept]
  refine ⟨result, ?_, retry.trans ready, taken⟩
  rw [List.filter_append, List.filter_append, silent, quiet, sent]
  rfl

end

end RadioCoordinator

end RidFirmware
