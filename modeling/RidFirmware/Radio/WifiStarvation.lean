import RidFirmware.Radio.WifiService

/-! When a band that cannot be tuned silences the band that is tuned: `poll` returns early after a
switch that fails or that the retry timer holds back, and does so exactly then. -/

namespace RidFirmware.RadioCoordinator
open Lib

variable {coordinator : RadioCoordinator} {nowMs : Nat} {answers : WifiAnswers}

def earliest (coordinator : RadioCoordinator) : Option ScheduledPayload :=
  (coordinator.pending coordinator.activeBand).items[coordinator.earliestIndex coordinator.activeBand]?

/-- A poll of a tuned radio that does not change the band serves the earliest payload of the band. -/
def Serves (coordinator : RadioCoordinator) (nowMs : Nat) (answers : WifiAnswers) : Prop :=
  ∀ payload, coordinator.currentChannel ≠ 0 → coordinator.earliest = some payload →
    (coordinator.poll nowMs answers).next.activeBand = coordinator.activeBand →
    if payload.expired nowMs then .dropped nowMs payload ∈ (coordinator.poll nowMs answers).events
    else ∃ result, .transmit nowMs payload result ∈ (coordinator.poll nowMs answers).events

def SwitchDue (coordinator : RadioCoordinator) (nowMs : Nat) : Prop :=
  coordinator.pendingCount coordinator.activeBand.other ≠ 0 ∧
    coordinator.dwellMs ≤ sub64 nowMs coordinator.dwellStartedMs

/-- The other band's turn has come while the active band has payloads, but it cannot be tuned. -/
def Blocked (coordinator : RadioCoordinator) (nowMs : Nat) (answers : WifiAnswers) : Prop :=
  coordinator.currentChannel ≠ 0 ∧ coordinator.pendingCount coordinator.activeBand ≠ 0 ∧
    coordinator.SwitchDue nowMs ∧ (nowMs < coordinator.retryAtMs ∨
      answers.setChannel (bandChannel coordinator.activeBand.other) ≠ ESP_OK)

theorem earliest_some {payload : ScheduledPayload} (found : coordinator.earliest = some payload) :
    coordinator.pendingCount coordinator.activeBand ≠ 0 := by
  have member := List.mem_of_getElem? found
  unfold pendingCount BoundedQueue.count
  exact (List.length_pos_of_mem member).ne'

theorem earliest_exists (waiting : coordinator.pendingCount coordinator.activeBand ≠ 0) :
    ∃ payload, coordinator.earliest = some payload := by
  have present : (coordinator.pending coordinator.activeBand).items ≠ [] := by
    intro empty
    unfold pendingCount BoundedQueue.count at waiting
    rw [empty] at waiting
    exact waiting rfl
  obtain ⟨payload, found, _⟩ := earliestIndex_spec ScheduledPayload.earlier_iff present
  exact ⟨payload, found⟩

section
variable (tuned : coordinator.currentChannel ≠ 0)
  (waiting : coordinator.pendingCount coordinator.activeBand ≠ 0)
include tuned waiting

theorem switchTarget_due (due : coordinator.SwitchDue nowMs) :
    coordinator.switchTarget nowMs = some coordinator.activeBand.other := by
  unfold switchTarget
  dsimp only
  rw [if_neg tuned, if_neg (fun empty => waiting empty.1), if_pos ⟨waiting, due⟩]

theorem switchTarget_rest (rest : ¬coordinator.SwitchDue nowMs) :
    coordinator.switchTarget nowMs = none := by
  unfold switchTarget
  dsimp only
  rw [if_neg tuned, if_neg (fun empty => waiting empty.1), if_neg (fun due => rest due.2)]

end

theorem poll_tuned (configured : coordinator.configured = true)
    (waiting : coordinator.pendingCount coordinator.activeBand ≠ 0) :
    coordinator.poll nowMs answers =
      let tuned := coordinator.tune nowMs answers
      if tuned.result = ESP_ERR_INVALID_STATE then
        { result := ESP_OK, next := tuned.next, events := tuned.events }
      else if tuned.result ≠ ESP_OK then tuned
      else
        let served := tuned.next.serve nowMs answers
        { served with events := tuned.events ++ served.events } := by
  have nonempty : ¬(coordinator.pendingCount .band0 = 0 ∧ coordinator.pendingCount .band1 = 0) := by
    intro parts
    obtain ⟨empty0, empty1⟩ := parts
    cases active : coordinator.activeBand
    · exact waiting (by rw [active, empty0])
    · exact waiting (by rw [active, empty1])
  have domain : coordinator.configure answers = { result := ESP_OK, next := coordinator } := by
    unfold configure
    rw [if_pos configured]
  unfold poll
  rw [if_neg nonempty, domain]
  rfl

theorem poll_untuned (configured : coordinator.configured = true)
    (waiting : coordinator.pendingCount coordinator.activeBand ≠ 0)
    (failed : (coordinator.tune nowMs answers).result ≠ ESP_OK) :
    (coordinator.poll nowMs answers).next = (coordinator.tune nowMs answers).next ∧
      (coordinator.poll nowMs answers).events = (coordinator.tune nowMs answers).events := by
  rw [poll_tuned configured waiting]
  dsimp only
  by_cases held : (coordinator.tune nowMs answers).result = ESP_ERR_INVALID_STATE
  · rw [if_pos held]
    exact ⟨rfl, rfl⟩
  · rw [if_neg held, if_pos failed]
    exact ⟨rfl, rfl⟩

theorem poll_served (configured : coordinator.configured = true)
    (waiting : coordinator.pendingCount coordinator.activeBand ≠ 0)
    (succeeded : (coordinator.tune nowMs answers).result = ESP_OK) :
    (coordinator.poll nowMs answers).next =
        ((coordinator.tune nowMs answers).next.serve nowMs answers).next ∧
      (coordinator.poll nowMs answers).events = (coordinator.tune nowMs answers).events ++
        ((coordinator.tune nowMs answers).next.serve nowMs answers).events := by
  have notHeld : (coordinator.tune nowMs answers).result ≠ ESP_ERR_INVALID_STATE := by
    rw [succeeded]
    decide
  rw [poll_tuned configured waiting]
  dsimp only
  rw [if_neg notHeld, if_neg (not_not.mpr succeeded)]
  exact ⟨rfl, rfl⟩

theorem serve_tuned :
    (coordinator.serve nowMs answers).next.activeBand = coordinator.activeBand ∧
      (coordinator.serve nowMs answers).next.currentChannel = coordinator.currentChannel := by
  unfold serve
  dsimp only
  cases (coordinator.pending coordinator.activeBand).items[
      coordinator.earliestIndex coordinator.activeBand]? with
  | none => exact ⟨rfl, rfl⟩
  | some payload =>
    dsimp only
    split_ifs <;> exact ⟨rfl, rfl⟩

theorem serve_earliest {payload : ScheduledPayload} (found : coordinator.earliest = some payload) :
    (coordinator.serve nowMs answers).events =
      if payload.expired nowMs then [.dropped nowMs payload]
      else [.transmit nowMs payload answers.transmit] := by
  unfold earliest at found
  unfold serve
  simp only [found]
  by_cases outdated : payload.expired nowMs = true
  · rw [if_pos outdated, if_pos outdated]
  · rw [if_neg outdated, if_neg outdated]
    split_ifs <;> rfl

theorem tune_failed (failed : (coordinator.tune nowMs answers).result ≠ ESP_OK) :
    (coordinator.tune nowMs answers).next.activeBand = coordinator.activeBand := by
  unfold tune at *
  cases target : coordinator.switchTarget nowMs with
  | none => rfl
  | some band =>
    simp only [target, selectBand] at failed ⊢
    split_ifs at failed ⊢ with held refused
    · rfl
    · rfl
    · exact absurd (not_not.mp refused) failed

theorem selectBand_answered {band : Band} (ready : ¬nowMs < coordinator.retryAtMs)
    (answered : answers.setChannel (bandChannel band) = ESP_OK) :
    (coordinator.selectBand band nowMs answers).result = ESP_OK ∧
      (coordinator.selectBand band nowMs answers).next.activeBand = band := by
  unfold selectBand
  dsimp only
  rw [if_neg ready, if_neg (not_not.mpr answered)]
  exact ⟨answered, rfl⟩

theorem tune_blocked (blocked : coordinator.Blocked nowMs answers) :
    (coordinator.tune nowMs answers).result ≠ ESP_OK := by
  obtain ⟨tuned, waiting, due, cause⟩ := blocked
  unfold tune
  rw [switchTarget_due tuned waiting due]
  simp only [selectBand]
  by_cases held : nowMs < coordinator.retryAtMs
  · rw [if_pos held]
    simp only
    decide
  · rw [if_neg held]
    have failed := cause.resolve_left held
    rw [if_pos failed]
    exact failed

theorem poll_rest (configured : coordinator.configured = true)
    (tuned : coordinator.currentChannel ≠ 0)
    (waiting : coordinator.pendingCount coordinator.activeBand ≠ 0)
    (rest : ¬coordinator.SwitchDue nowMs) :
    (coordinator.poll nowMs answers).next = (coordinator.serve nowMs answers).next ∧
      (coordinator.poll nowMs answers).events = (coordinator.serve nowMs answers).events := by
  have stays : coordinator.tune nowMs answers = { result := ESP_OK, next := coordinator } := by
    unfold tune
    rw [switchTarget_rest tuned waiting rest]
  have served := @poll_served coordinator nowMs answers configured waiting (by rw [stays])
  rwa [stays] at served

/-- A blocked poll stays on its band and touches no payload. -/
theorem poll_blocked {log : List WifiEvent} (consistent : Consistent coordinator log)
    (blocked : coordinator.Blocked nowMs answers) :
    (coordinator.poll nowMs answers).next.activeBand = coordinator.activeBand ∧
      ∀ event ∈ (coordinator.poll nowMs answers).events, ∃ channel result,
        event = .setChannel channel result := by
  obtain ⟨configured, _⟩ := consistent.tuned blocked.1
  obtain ⟨next, events⟩ := poll_untuned configured blocked.2.1 (tune_blocked blocked)
  rw [next, events]
  refine ⟨tune_failed (tune_blocked blocked), ?_⟩
  intro event member
  obtain ⟨_, _, same⟩ := tune_events member
  exact ⟨_, _, same⟩

/-- A poll leaves the earliest payload of the tuned band unserved exactly when it is blocked. -/
theorem serves_iff {log : List WifiEvent} (consistent : Consistent coordinator log) :
    coordinator.Serves nowMs answers ↔ ¬coordinator.Blocked nowMs answers := by
  apply Iff.intro
  · intro serves blocked
    obtain ⟨payload, found⟩ := earliest_exists blocked.2.1
    obtain ⟨kept, silent⟩ := poll_blocked consistent blocked
    have served := serves payload blocked.1 found kept
    by_cases outdated : payload.expired nowMs = true
    · rw [if_pos outdated] at served
      obtain ⟨_, _, same⟩ := silent _ served
      cases same
    · rw [if_neg outdated] at served
      obtain ⟨_, handed⟩ := served
      obtain ⟨_, _, same⟩ := silent _ handed
      cases same
  · intro free payload tuned found kept
    have waiting := earliest_some found
    obtain ⟨configured, _⟩ := consistent.tuned tuned
    by_cases due : coordinator.SwitchDue nowMs
    · have retuned : coordinator.tune nowMs answers =
          coordinator.selectBand coordinator.activeBand.other nowMs answers := by
        unfold tune
        rw [switchTarget_due tuned waiting due]
      have ready : ¬nowMs < coordinator.retryAtMs :=
        fun held => free ⟨tuned, waiting, due, .inl held⟩
      have answered : answers.setChannel (bandChannel coordinator.activeBand.other) = ESP_OK :=
        not_not.mp fun failed => free ⟨tuned, waiting, due, .inr failed⟩
      obtain ⟨result, active⟩ := selectBand_answered ready answered
      rw [← retuned] at result active
      rw [(poll_served configured waiting result).1, serve_tuned.1, active] at kept
      exact absurd kept (Band.other_ne _)
    · rw [(poll_rest configured tuned waiting due).2, serve_earliest found]
      by_cases outdated : payload.expired nowMs = true
      · simp [outdated]
      · simp [outdated]

/-- A poll of a tuned radio that does not change the band hands over the earliest payload of the band,
unless that has expired. -/
def HandsOver (coordinator : RadioCoordinator) (nowMs : Nat) (answers : WifiAnswers) : Prop :=
  ∀ payload, coordinator.currentChannel ≠ 0 → coordinator.earliest = some payload →
    payload.expired nowMs = false →
    (coordinator.poll nowMs answers).next.activeBand = coordinator.activeBand →
    ∃ result, .transmit nowMs payload result ∈ (coordinator.poll nowMs answers).events

/-- A blocked poll holds back a payload that is still valid. -/
def HoldsBack (coordinator : RadioCoordinator) (nowMs : Nat) (answers : WifiAnswers) : Prop :=
  coordinator.Blocked nowMs answers ∧
    ∃ payload, coordinator.earliest = some payload ∧ payload.expired nowMs = false

theorem handsOver_iff {log : List WifiEvent} (consistent : Consistent coordinator log) :
    coordinator.HandsOver nowMs answers ↔ ¬coordinator.HoldsBack nowMs answers := by
  apply Iff.intro
  · intro handsOver held
    obtain ⟨blocked, payload, found, valid⟩ := held
    obtain ⟨kept, silent⟩ := poll_blocked consistent blocked
    obtain ⟨_, handed⟩ := handsOver payload blocked.1 found valid kept
    obtain ⟨_, _, same⟩ := silent _ handed
    cases same
  · intro free payload tuned found valid kept
    have serves := (serves_iff consistent).mpr fun blocked => free ⟨blocked, payload, found, valid⟩
    have served := serves payload tuned found kept
    rw [valid, if_neg Bool.false_ne_true] at served
    exact served

/-- A property of every poll of a run, in the state it finds. -/
def EveryPoll (start : RadioCoordinator) (inputs : List Input)
    (holds : RadioCoordinator → Nat → WifiAnswers → Prop) : Prop :=
  ∀ before nowMs answers, before ++ [.poll nowMs answers] <+: inputs →
    holds (machine.run start before).1 nowMs answers

/-- One band can never be tuned; the rest of the radio works. -/
def OnlyOther (bad : Band) (inputs : List Input) : Prop :=
  ∀ nowMs answers, .poll nowMs answers ∈ inputs →
    answers.setChannel (bandChannel bad) ≠ ESP_OK ∧ answers.transmit = ESP_OK

/-- A poll that finds the tuned band non-empty transmits or drops its earliest payload. -/
def Progresses (coordinator : RadioCoordinator) (nowMs : Nat) (answers : WifiAnswers) : Prop :=
  ∀ payload, coordinator.currentChannel ≠ 0 → coordinator.earliest = some payload →
    .dropped nowMs payload ∈ (coordinator.poll nowMs answers).events ∨
      .transmit nowMs payload ESP_OK ∈ (coordinator.poll nowMs answers).events

/-- The band that cannot be tuned is never the tuned one. -/
def NotTuned (bad : Band) (coordinator : RadioCoordinator) : Prop :=
  coordinator.currentChannel ≠ 0 → coordinator.activeBand = bad.other

section
variable {bad : Band} (apart : NotTuned bad coordinator)
include apart

theorem notTuned_submit (payload : ScheduledPayload) : NotTuned bad (coordinator.submit payload).next := by
  unfold submit
  dsimp only
  split_ifs
  · exact apart
  · exact apart
  · cases (coordinator.pending (bandIndex payload.transport)).push payload <;> exact apart

theorem notTuned_configure : NotTuned bad (coordinator.configure answers).next := by
  unfold configure
  dsimp only
  split_ifs <;> exact apart

theorem notTuned_tune (refused : answers.setChannel (bandChannel bad) ≠ ESP_OK) :
    NotTuned bad (coordinator.tune nowMs answers).next := by
  unfold tune
  cases coordinator.switchTarget nowMs with
  | none => exact apart
  | some target =>
    simp only [selectBand]
    split_ifs with held failed
    · exact apart
    · exact apart
    · intro _
      cases target <;> cases bad
      · exact absurd refused failed
      · rfl
      · rfl
      · exact absurd refused failed

theorem notTuned_serve : NotTuned bad (coordinator.serve nowMs answers).next := by
  unfold NotTuned
  rwa [serve_tuned.1, serve_tuned.2]

theorem notTuned_poll (refused : answers.setChannel (bandChannel bad) ≠ ESP_OK) :
    NotTuned bad (coordinator.poll nowMs answers).next := by
  apply @poll_rule coordinator nowMs answers (fun outcome => NotTuned bad outcome.next)
  · exact fun _ _ => apart
  · exact fun _ => notTuned_configure apart
  · intro configured tuned same _ equal _
    obtain rfl := same
    obtain rfl := equal
    exact notTuned_tune (notTuned_configure apart) refused
  · intro configured tuned same _ equal _
    obtain rfl := same
    obtain rfl := equal
    exact notTuned_serve (notTuned_tune (notTuned_configure apart) refused)

/-- With the other band out of reach, a poll makes progress exactly when it is not blocked. -/
theorem progresses_iff {log : List WifiEvent} (consistent : Consistent coordinator log)
    (refused : answers.setChannel (bandChannel bad) ≠ ESP_OK) (answered : answers.transmit = ESP_OK) :
    coordinator.Progresses nowMs answers ↔ ¬coordinator.Blocked nowMs answers := by
  apply Iff.intro
  · intro progresses
    rw [← serves_iff consistent]
    intro payload tuned found kept
    have waiting := earliest_some found
    obtain ⟨configured, _⟩ := consistent.tuned tuned
    by_cases due : coordinator.SwitchDue nowMs
    · have blocked : coordinator.Blocked nowMs answers := by
        refine ⟨tuned, waiting, due, .inr ?_⟩
        rwa [apart tuned, Band.other_other]
      rcases progresses payload tuned found with dropped | sent
      all_goals
        rw [(poll_untuned configured waiting (tune_blocked blocked)).2] at *
      · obtain ⟨_, _, same⟩ := tune_events dropped
        cases same
      · obtain ⟨_, _, same⟩ := tune_events sent
        cases same
    · rw [(poll_rest configured tuned waiting due).2, serve_earliest found]
      by_cases outdated : payload.expired nowMs = true
      · simp [outdated]
      · simp [outdated]
  · intro free payload tuned found
    have waiting := earliest_some found
    obtain ⟨configured, _⟩ := consistent.tuned tuned
    have rest : ¬coordinator.SwitchDue nowMs := by
      intro due
      refine free ⟨tuned, waiting, due, .inr ?_⟩
      rwa [apart tuned, Band.other_other]
    rw [(poll_rest configured tuned waiting rest).2, serve_earliest found]
    by_cases outdated : payload.expired nowMs = true
    · simp [outdated]
    · simp [outdated, answered]

end

theorem run_notTuned {bad : Band} (dwellMs retryMs : Nat) {inputs : List Input}
    (only : OnlyOther bad inputs) :
    NotTuned bad (machine.run { dwellMs := dwellMs, retryMs := retryMs } inputs).1 := by
  apply machine.run_induction (fun coordinator _ => NotTuned bad coordinator)
    (fun _ input => ∀ nowMs answers, input = .poll nowMs answers →
      answers.setChannel (bandChannel bad) ≠ ESP_OK)
  · intro coordinator _ input apart allowed
    cases input with
    | submit payload => exact notTuned_submit apart payload
    | poll nowMs answers => exact notTuned_poll apart (allowed nowMs answers rfl)
  · exact fun tuned => absurd rfl tuned
  · intro before input within nowMs answers same
    obtain rfl := same
    exact (only nowMs answers (within.subset (List.mem_append_right _ List.mem_cons_self))).1

/-- A run keeps the tuned band served exactly when none of its polls is blocked, and loses no call of
`transmit` exactly when none is blocked that holds back a valid payload. -/
theorem tuned_band_served_iff (dwellMs retryMs : Nat) (inputs : List Input) :
    (EveryPoll { dwellMs := dwellMs, retryMs := retryMs } inputs Serves ↔
      EveryPoll { dwellMs := dwellMs, retryMs := retryMs } inputs fun coordinator nowMs answers =>
        ¬coordinator.Blocked nowMs answers) ∧
    (EveryPoll { dwellMs := dwellMs, retryMs := retryMs } inputs HandsOver ↔
      EveryPoll { dwellMs := dwellMs, retryMs := retryMs } inputs fun coordinator nowMs answers =>
        ¬coordinator.HoldsBack nowMs answers) ∧
    ∀ bad, OnlyOther bad inputs →
      (EveryPoll { dwellMs := dwellMs, retryMs := retryMs } inputs Progresses ↔
        EveryPoll { dwellMs := dwellMs, retryMs := retryMs } inputs fun coordinator nowMs answers =>
          ¬coordinator.Blocked nowMs answers) := by
  have consistent := run_consistent dwellMs retryMs
  refine ⟨?_, ?_, fun bad only => ?_⟩
  · apply forall_congr'
    intro before
    apply forall₂_congr
    intro nowMs answers
    exact forall_congr' fun _ => serves_iff (consistent before)
  · apply forall_congr'
    intro before
    apply forall₂_congr
    intro nowMs answers
    exact forall_congr' fun _ => handsOver_iff (consistent before)
  · apply forall_congr'
    intro before
    apply forall₂_congr
    intro nowMs answers
    apply forall_congr'
    intro within
    have earlier : before <+: inputs := (List.prefix_append _ _).trans within
    have apart := run_notTuned dwellMs retryMs
      (fun nowMs answers member => only nowMs answers (earlier.subset member))
    obtain ⟨refused, answered⟩ :=
      only nowMs answers (within.subset (List.mem_append_right _ List.mem_cons_self))
    exact progresses_iff apart (consistent before) refused answered

/-- A payload on each band after the 2.4 GHz band has been tuned at time 0. -/
def starvedRun : List Input :=
  [.submit { transport := .wifi24, size := 1 }, .poll 0 {},
    .submit { transport := .wifi24, size := 1 }, .submit { transport := .wifi58, size := 1 }]

def lowOnly : WifiAnswers := { setChannel := fun channel => if channel = 149 then ESP_FAIL else ESP_OK }

/-- When the 5.8 GHz band's turn comes, the payload of the tuned band stays where it is. -/
theorem tuned_band_starves : ¬EveryPoll {} (starvedRun ++ [.poll 100 lowOnly]) Serves := by
  intro serves
  obtain ⟨payload, found⟩ := @earliest_exists (machine.run {} starvedRun).1 (by decide +kernel)
  have served := serves starvedRun 100 lowOnly List.prefix_rfl payload (by decide +kernel) found
    (by decide +kernel)
  have silent : ((machine.run {} starvedRun).1.poll 100 lowOnly).events =
      [.setChannel 149 ESP_FAIL] := by decide +kernel
  rw [silent] at served
  split_ifs at served
  · simp at served
  · simp at served

end RidFirmware.RadioCoordinator
