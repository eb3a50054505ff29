import RidFirmware.Radio.WifiStarvation

/-! Which failures of the radio the caller of `poll` gets to see. The code that tells `poll` to wait for
the retry timer is one that `set_channel` may return, too. -/

namespace RidFirmware
open Lib

def WifiEvent.answer : WifiEvent → Option EspErr
  | .setCountryCn result => some result
  | .setChannel _ result => some result
  | .transmit _ _ result => some result
  | _ => none

def failures (events : List WifiEvent) : List EspErr :=
  (events.filterMap WifiEvent.answer).filter fun result => result ≠ ESP_OK

@[simp] theorem failures_nil : failures [] = [] := rfl

@[simp] theorem failures_append (first second : List WifiEvent) :
    failures (first ++ second) = failures first ++ failures second := by
  unfold failures
  rw [List.filterMap_append, List.filter_append]

theorem failures_call {event : WifiEvent} {result : EspErr} (answered : event.answer = some result) :
    failures [event] = if result = ESP_OK then [] else [result] := by
  unfold failures
  rw [List.filterMap_cons, answered]
  by_cases succeeded : result = ESP_OK
  · simp [succeeded]
  · simp [succeeded]

namespace RadioCoordinator

/-- A poll is successful if no backend call failed in it, and else returns the error of that call. -/
structure Reports (outcome : Outcome) : Prop where
  success : outcome.result = ESP_OK ↔ failures outcome.events = []
  code : ∀ error ∈ failures outcome.events, outcome.result = error

/-- The result is that of the last call, which is the only one that may have failed. -/
def Exact (outcome : Outcome) : Prop :=
  failures outcome.events = if outcome.result = ESP_OK then [] else [outcome.result]

/-- `set_channel` is called and answers with the code of a switch that has to wait. -/
def Misread (coordinator : RadioCoordinator) (nowMs : Nat) (answers : WifiAnswers) : Prop :=
  ¬(coordinator.pendingCount .band0 = 0 ∧ coordinator.pendingCount .band1 = 0) ∧
    (coordinator.configured = true ∨ answers.setCountryCn = ESP_OK) ∧
    ∃ band, coordinator.switchTarget nowMs = some band ∧ ¬nowMs < coordinator.retryAtMs ∧
      answers.setChannel (bandChannel band) = ESP_ERR_INVALID_STATE

section
variable {coordinator : RadioCoordinator} {nowMs : Nat} {answers : WifiAnswers} {outcome : Outcome}

theorem Exact.reports (exact : Exact outcome) : Reports outcome := by
  unfold Exact at exact
  by_cases succeeded : outcome.result = ESP_OK
  · rw [if_pos succeeded] at exact
    constructor
    · exact iff_of_true succeeded exact
    · rw [exact]
      exact fun _ member => absurd member List.not_mem_nil
  · rw [if_neg succeeded] at exact
    constructor
    · rw [exact]
      exact iff_of_false succeeded (List.cons_ne_nil _ _)
    · rw [exact]
      exact fun _ member => (List.mem_singleton.mp member).symm

theorem Exact.quiet (exact : Exact outcome) (succeeded : outcome.result = ESP_OK) :
    failures outcome.events = [] := by
  unfold Exact at exact
  rw [exact, if_pos succeeded]

theorem Exact.after {events : List WifiEvent} (exact : Exact outcome) (earlier : failures events = []) :
    Exact { outcome with events := events ++ outcome.events } := by
  unfold Exact at *
  rw [failures_append, earlier, List.nil_append]
  exact exact

theorem configure_exact : Exact (coordinator.configure answers) := by
  unfold configure
  by_cases already : coordinator.configured = true
  · rw [if_pos already]
    rfl
  rw [if_neg already]
  dsimp only
  by_cases failed : answers.setCountryCn ≠ ESP_OK
  · rw [if_pos failed]
    exact failures_call rfl
  · rw [if_neg failed]
    exact failures_call rfl

theorem selectBand_exact {band : Band} (free : ¬nowMs < coordinator.retryAtMs) :
    Exact (coordinator.selectBand band nowMs answers) := by
  unfold selectBand
  rw [if_neg free]
  dsimp only
  by_cases failed : answers.setChannel (bandChannel band) ≠ ESP_OK
  · rw [if_pos failed]
    exact failures_call rfl
  · rw [if_neg failed]
    exact failures_call rfl

theorem serve_exact : Exact (coordinator.serve nowMs answers) := by
  unfold serve
  dsimp only
  cases (coordinator.pending coordinator.activeBand).items[
      coordinator.earliestIndex coordinator.activeBand]? with
  | none => rfl
  | some payload =>
    dsimp only
    by_cases outdated : payload.expired nowMs = true
    · rw [if_pos outdated]
      rfl
    rw [if_neg outdated]
    by_cases failed : answers.transmit ≠ ESP_OK
    · rw [if_pos failed]
      exact failures_call rfl
    · rw [if_neg failed]
      exact failures_call rfl

theorem tune_exact :
    (∃ band, coordinator.switchTarget nowMs = some band ∧ nowMs < coordinator.retryAtMs) ∧
        (coordinator.tune nowMs answers).result = ESP_ERR_INVALID_STATE ∧
        (coordinator.tune nowMs answers).events = [] ∨
      (¬∃ band, coordinator.switchTarget nowMs = some band ∧ nowMs < coordinator.retryAtMs) ∧
        Exact (coordinator.tune nowMs answers) := by
  unfold tune
  cases target : coordinator.switchTarget nowMs with
  | none =>
    right
    exact ⟨by simp, rfl⟩
  | some band =>
    dsimp only
    by_cases held : nowMs < coordinator.retryAtMs
    · left
      refine ⟨⟨band, rfl, held⟩, ?_⟩
      unfold selectBand
      rw [if_pos held]
      exact ⟨rfl, rfl⟩
    · right
      refine ⟨?_, selectBand_exact held⟩
      intro given
      obtain ⟨_, _, early⟩ := given
      exact held early

theorem tune_misread :
    (∃ band, coordinator.switchTarget nowMs = some band ∧ ¬nowMs < coordinator.retryAtMs ∧
        answers.setChannel (bandChannel band) = ESP_ERR_INVALID_STATE) ↔
      (coordinator.tune nowMs answers).result = ESP_ERR_INVALID_STATE ∧
        failures (coordinator.tune nowMs answers).events = [ESP_ERR_INVALID_STATE] := by
  unfold tune
  cases target : coordinator.switchTarget nowMs with
  | none =>
    simp
  | some band =>
    dsimp only
    unfold selectBand
    by_cases held : nowMs < coordinator.retryAtMs
    · rw [if_pos held]
      simp [held]
    rw [if_neg held]
    dsimp only
    by_cases failed : answers.setChannel (bandChannel band) ≠ ESP_OK
    · rw [if_pos failed]
      dsimp only
      rw [failures_call rfl, if_neg failed]
      simp [held]
    · rw [if_neg failed]
      rw [not_not] at failed
      dsimp only
      have apart : ESP_OK ≠ ESP_ERR_INVALID_STATE := by decide
      rw [failures_call rfl, if_pos failed, failed]
      simp [failed, apart]

theorem configure_result : (coordinator.configure answers).result = ESP_OK ↔
    coordinator.configured = true ∨ answers.setCountryCn = ESP_OK := by
  unfold configure
  dsimp only
  by_cases already : coordinator.configured = true
  · simp [already]
  · by_cases failed : answers.setCountryCn = ESP_OK
    · simp [already, failed]
    · simp [already, failed]

theorem configure_tuning : (coordinator.configure answers).next.switchTarget nowMs =
      coordinator.switchTarget nowMs ∧
    (coordinator.configure answers).next.retryAtMs = coordinator.retryAtMs := by
  unfold configure
  dsimp only
  split_ifs <;> exact ⟨rfl, rfl⟩

theorem misread_iff (waiting : ¬(coordinator.pendingCount .band0 = 0 ∧ coordinator.pendingCount .band1 = 0))
    (domain : (coordinator.configure answers).result = ESP_OK) :
    coordinator.Misread nowMs answers ↔
      ((coordinator.configure answers).next.tune nowMs answers).result = ESP_ERR_INVALID_STATE ∧
        failures ((coordinator.configure answers).next.tune nowMs answers).events =
          [ESP_ERR_INVALID_STATE] := by
  obtain ⟨target, retry⟩ := @configure_tuning coordinator nowMs answers
  rw [← tune_misread, target, retry]
  unfold Misread
  rw [← configure_result]
  simp only [waiting, domain, not_false_eq_true, true_and]

theorem reports_iff : Reports (coordinator.poll nowMs answers) ↔ ¬coordinator.Misread nowMs answers := by
  by_cases empty : coordinator.pendingCount .band0 = 0 ∧ coordinator.pendingCount .band1 = 0
  · have idle : coordinator.poll nowMs answers = { result := ESP_OK, next := coordinator } := by
      unfold poll
      rw [if_pos empty]
    have exact : Exact { result := ESP_OK, next := coordinator } := rfl
    rw [idle]
    exact iff_of_true exact.reports fun misread => misread.1 empty
  apply @poll_rule coordinator nowMs answers
    (fun outcome => Reports outcome ↔ ¬coordinator.Misread nowMs answers)
  · exact fun empty0 empty1 => absurd ⟨empty0, empty1⟩ empty
  · intro unset
    exact iff_of_true configure_exact.reports fun misread => unset (configure_result.mpr misread.2.1)
  · intro configured tuned same domain equal failed
    subst same
    subst equal
    have quiet := configure_exact.quiet domain
    rw [misread_iff empty domain]
    generalize (coordinator.configure answers).next = configured at *
    rcases @tune_exact configured nowMs answers with ⟨_, held, silent⟩ | ⟨_, exact⟩
    · have report : Exact {
          result := ESP_OK
          next := (configured.tune nowMs answers).next
          events := (coordinator.configure answers).events ++ [] } := by
        unfold Exact
        rw [List.append_nil, quiet]
        rfl
      rw [if_pos held, silent]
      exact iff_of_true report.reports fun misread => List.cons_ne_nil _ _ misread.2.symm
    · by_cases state : (configured.tune nowMs answers).result = ESP_ERR_INVALID_STATE
      · have failure : failures (configured.tune nowMs answers).events = [ESP_ERR_INVALID_STATE] := by
          unfold Exact at exact
          rw [exact, if_neg failed, state]
        rw [if_pos state]
        refine iff_of_false ?_ fun free => free ⟨state, failure⟩
        intro reports
        have silent := reports.success.mp rfl
        rw [failures_append, quiet, failure] at silent
        cases silent
      · rw [if_neg state]
        exact iff_of_true (exact.after quiet).reports fun misread => state misread.1
  · intro configured tuned same domain equal succeeded
    subst same
    subst equal
    rw [misread_iff empty domain, succeeded]
    have apart : ESP_OK ≠ ESP_ERR_INVALID_STATE := by decide
    have quiet : failures ((coordinator.configure answers).events ++
        ((coordinator.configure answers).next.tune nowMs answers).events) = [] := by
      rw [failures_append, configure_exact.quiet domain, List.nil_append]
      rcases @tune_exact (coordinator.configure answers).next nowMs answers with ⟨_, held, _⟩ | ⟨_, exact⟩
      · exact absurd (succeeded.symm.trans held) apart
      · exact exact.quiet succeeded
    exact iff_of_true (serve_exact.after quiet).reports fun misread => apart misread.1

end

/-- A run reports every failure of the radio exactly when `set_channel` is never misread in it. -/
theorem poll_reports_iff (dwellMs retryMs : Nat) (inputs : List Input) :
    EveryPoll { dwellMs := dwellMs, retryMs := retryMs } inputs
        (fun coordinator nowMs answers => Reports (coordinator.poll nowMs answers)) ↔
      EveryPoll { dwellMs := dwellMs, retryMs := retryMs } inputs fun coordinator nowMs answers =>
        ¬coordinator.Misread nowMs answers := by
  apply forall_congr'
  intro before
  apply forall₂_congr
  intro nowMs answers
  exact forall_congr' fun _ => reports_iff

/-- The driver refuses to change the channel in the state it is in, and the poll succeeds. -/
theorem refused_channel_unreported :
    ¬EveryPoll {} [.submit { transport := .wifi24, size := 1 },
        .poll 0 { setChannel := fun _ => ESP_ERR_INVALID_STATE }]
      (fun coordinator nowMs answers => Reports (coordinator.poll nowMs answers)) := by
  intro reports
  have report := reports [.submit { transport := .wifi24, size := 1 }] 0
    { setChannel := fun _ => ESP_ERR_INVALID_STATE } List.prefix_rfl
  have code := report.code ESP_ERR_INVALID_STATE (by decide +kernel)
  revert code
  decide +kernel

end RadioCoordinator

end RidFirmware
