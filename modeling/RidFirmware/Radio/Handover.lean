import RidFirmware.Radio.BleFailure
import RidFirmware.Radio.WifiService

/-! What the polls of the two transports hand to their backends: payloads that wait and have not
expired. A poll adds nothing to a queue. -/

namespace RidFirmware
open Lib

/-- The payload of a call of `WifiBackend::transmit`. -/
def WifiEvent.handed : WifiEvent → Option ScheduledPayload
  | .transmit _ payload _ => some payload
  | _ => none

/-- The payload of a call of `BleGapBackend::configure`. -/
def BleEvent.handed : BleEvent → Option ScheduledPayload
  | .configure _ _ payload _ => some payload
  | _ => none

namespace RadioCoordinator

variable (coordinator : RadioCoordinator) (nowMs : Nat) (answers : WifiAnswers)

def waiting : List ScheduledPayload :=
  (coordinator.pending .band0).items ++ (coordinator.pending .band1).items

theorem mem_waiting {payload : ScheduledPayload} :
    payload ∈ coordinator.waiting ↔ ∃ band, payload ∈ (coordinator.pending band).items := by
  unfold waiting
  rw [List.mem_append]
  apply Iff.intro
  · intro parts
    rcases parts with first | second
    · exact ⟨.band0, first⟩
    · exact ⟨.band1, second⟩
  · intro parts
    obtain ⟨band, member⟩ := parts
    cases band with
    | band0 => exact .inl member
    | band1 => exact .inr member

theorem submit_waiting (submitted : ScheduledPayload) {payload : ScheduledPayload}
    (left : payload ∈ (coordinator.submit submitted).next.waiting) :
    payload ∈ coordinator.waiting ∨
      (coordinator.submit submitted).result = ESP_OK ∧ payload = submitted := by
  unfold submit at left ⊢
  dsimp only at left ⊢
  split_ifs at left ⊢
  · exact .inl left
  · exact .inl left
  · cases pushed : (coordinator.pending (bandIndex submitted.transport)).push submitted with
    | none =>
      rw [pushed] at left
      exact .inl left
    | some queue =>
      rw [pushed] at left
      rw [mem_waiting] at left ⊢
      obtain ⟨band, member⟩ := left
      by_cases same : band = bandIndex submitted.transport
      · subst same
        simp only [count, Function.update_self, BoundedQueue.push_eq_some pushed] at member
        rcases List.mem_append.mp member with old | new
        · exact .inl ⟨_, old⟩
        · exact .inr ⟨rfl, List.mem_singleton.mp new⟩
      · simp only [count, Function.update_of_ne same] at member
        exact .inl ⟨band, member⟩

theorem serve_waiting {payload : ScheduledPayload}
    (left : payload ∈ (coordinator.serve nowMs answers).next.waiting) :
    payload ∈ coordinator.waiting := by
  rw [mem_waiting] at left ⊢
  obtain ⟨band, member⟩ := left
  refine ⟨band, ?_⟩
  have erased : ∀ index, payload ∈ ((Function.update coordinator.pending coordinator.activeBand
      ((coordinator.pending coordinator.activeBand).erase index)) band).items →
      payload ∈ (coordinator.pending band).items := by
    intro index within
    by_cases same : band = coordinator.activeBand
    · subst same
      rw [Function.update_self] at within
      exact List.mem_of_mem_eraseIdx within
    · rwa [Function.update_of_ne same] at within
  unfold serve at member
  dsimp only at member
  split at member
  · exact member
  · split_ifs at member
    · exact erased _ member
    · exact member
    · exact erased _ member
    · exact erased _ member

theorem poll_waiting {payload : ScheduledPayload}
    (left : payload ∈ (coordinator.poll nowMs answers).next.waiting) :
    payload ∈ coordinator.waiting := by
  have tuned_waiting : ((coordinator.configure answers).next.tune nowMs answers).next.waiting =
      coordinator.waiting := by
    unfold waiting
    rw [tune_pending, configure_pending]
  revert left
  apply @poll_rule coordinator nowMs answers
    (fun outcome => payload ∈ outcome.next.waiting → payload ∈ coordinator.waiting)
  · exact fun _ _ => id
  · intro _ left
    unfold waiting at *
    rwa [configure_pending] at left
  · intro configured tuned same _ equal _ left
    obtain rfl := same
    obtain rfl := equal
    rwa [tuned_waiting] at left
  · intro configured tuned same _ equal _ left
    obtain rfl := same
    obtain rfl := equal
    rw [← tuned_waiting]
    exact serve_waiting _ _ _ left

theorem poll_handed {payload : ScheduledPayload}
    (handed : payload ∈ (coordinator.poll nowMs answers).events.filterMap WifiEvent.handed) :
    payload ∈ coordinator.waiting ∧ payload.expired nowMs = false := by
  obtain ⟨event, reported, isHanded⟩ := List.mem_filterMap.mp handed
  cases event with
  | transmit at' transmitted result =>
    obtain rfl := Option.some.inj isHanded
    have setup : ∀ event ∈ (coordinator.configure answers).events ++
        ((coordinator.configure answers).next.tune nowMs answers).events,
        event ≠ .transmit at' transmitted result := by
      intro event member same
      obtain rfl := same
      rcases List.mem_append.mp member with early | late
      · cases configure_events early
      · obtain ⟨_, _, other⟩ := tune_events late
        cases other
    clear handed
    revert reported
    apply @poll_rule coordinator nowMs answers
      (fun outcome => .transmit at' transmitted result ∈ outcome.events →
        transmitted ∈ coordinator.waiting ∧ transmitted.expired nowMs = false)
    · exact fun _ _ => nofun
    · exact fun _ member => absurd rfl (setup _ (List.mem_append_left _ member))
    · intro configured tuned same _ equal _ member
      obtain rfl := same
      obtain rfl := equal
      exact absurd rfl (setup _ member)
    · intro configured tuned same _ equal _ member
      obtain rfl := same
      obtain rfl := equal
      rcases List.mem_append.mp member with early | late
      · exact absurd rfl (setup _ early)
      · obtain ⟨waits, unexpired, _⟩ := serve_transmit late
        rw [tune_pending, configure_pending] at waits
        exact ⟨(mem_waiting coordinator).mpr ⟨_, waits⟩, unexpired⟩
  | _ => cases isHanded

end RadioCoordinator

namespace BleTransport

variable {transport : BleTransport} {nowMs : Nat} {answers : BleAnswers}

theorem submit_waiting (submitted : ScheduledPayload) {payload : ScheduledPayload}
    (left : payload ∈ (transport.submit submitted).next.pending.items) :
    payload ∈ transport.pending.items ∨
      (transport.submit submitted).result = .none ∧ payload = submitted := by
  revert left
  apply @submit_rule transport submitted (fun outcome => payload ∈ outcome.next.pending.items →
    payload ∈ transport.pending.items ∨ outcome.result = .none ∧ payload = submitted)
  · exact fun _ _ left => .inl left
  · intro queue _ _ _ pushed left
    have member : payload ∈ queue.items := left
    rw [BoundedQueue.push_eq_some pushed] at member
    rcases List.mem_append.mp member with old | new
    · exact .inl old
    · exact .inr ⟨rfl, List.mem_singleton.mp new⟩

theorem consume_handed (slots : Nat) (read : Fin 8) :
    (consume slots read transport).2.filterMap BleEvent.handed = [] := by
  induction slots generalizing transport read with
  | zero => rfl
  | succ slots ih =>
    unfold consume
    dsimp only
    rw [List.filterMap_append, ih, List.append_nil]
    split_ifs <;> rfl

theorem drainCompletions_handed :
    (transport.drainCompletions answers).2.filterMap BleEvent.handed = [] := by
  unfold drainCompletions
  dsimp only
  split_ifs
  · rw [List.filterMap_append, consume_handed]
    rfl
  · exact consume_handed _ _

theorem send_handed (selected : ScheduledPayload) :
    (transport.send selected nowMs answers).events.filterMap BleEvent.handed = [selected] := by
  unfold send
  dsimp only
  split_ifs <;> rfl

theorem pollPending_handed (bound : Nat) {payload : ScheduledPayload}
    (handed : payload ∈ (pollPending nowMs answers bound transport).events.filterMap BleEvent.handed) :
    payload ∈ transport.pending.items ∧ payload.expired nowMs = false := by
  induction bound generalizing transport with
  | zero => cases handed
  | succ bound ih =>
    unfold pollPending at handed
    dsimp only at handed
    split at handed
    · cases handed
    · rename_i selected found
      split_ifs at handed with outdated
      · obtain ⟨within, unexpired⟩ := ih handed
        exact ⟨List.mem_of_mem_eraseIdx within, unexpired⟩
      · rw [send_handed, List.mem_singleton] at handed
        rw [handed]
        exact ⟨List.mem_of_getElem? found, Bool.eq_false_iff.mpr outdated⟩

theorem pollPending_waiting (bound : Nat) {payload : ScheduledPayload}
    (left : payload ∈ (pollPending nowMs answers bound transport).next.pending.items) :
    payload ∈ transport.pending.items := by
  induction bound generalizing transport with
  | zero => exact left
  | succ bound ih =>
    unfold pollPending at left
    dsimp only at left
    split at left
    · exact left
    · split_ifs at left
      · exact List.mem_of_mem_eraseIdx (ih left)
      · rw [send_pending] at left
        exact List.mem_of_mem_eraseIdx left

theorem poll_waiting {payload : ScheduledPayload}
    (left : payload ∈ (transport.poll nowMs answers).next.pending.items) :
    payload ∈ transport.pending.items := by
  unfold poll at left
  dsimp only at left
  split_ifs at left
  · exact left
  · rwa [drainCompletions_pending] at left
  · have within := pollPending_waiting _ left
    rwa [drainCompletions_pending] at within

theorem poll_handed {payload : ScheduledPayload}
    (handed : payload ∈ (transport.poll nowMs answers).events.filterMap BleEvent.handed) :
    payload ∈ transport.pending.items ∧ payload.expired nowMs = false := by
  unfold poll at handed
  dsimp only at handed
  split_ifs at handed
  · cases handed
  · rw [drainCompletions_handed] at handed
    cases handed
  · rw [List.filterMap_append, drainCompletions_handed, List.nil_append] at handed
    have found := pollPending_handed _ handed
    rwa [drainCompletions_pending] at found

end BleTransport

end RidFirmware
