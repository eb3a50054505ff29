import RidFirmware.Radio.WifiReport

/-! When the Wi-Fi radio changes its band: the rotation between two bands that both have payloads, and the
pause after a change that has failed. -/

namespace RidFirmware
open Lib

/-- The calls of `set_channel` with their results. -/
def WifiEvent.channelCall : WifiEvent → Option (UInt8 × EspErr)
  | .setChannel channel result => some (channel, result)
  | _ => none

def channelCalls (events : List WifiEvent) : List (UInt8 × EspErr) := events.filterMap WifiEvent.channelCall

@[simp] theorem channelCalls_append (first second : List WifiEvent) :
    channelCalls (first ++ second) = channelCalls first ++ channelCalls second :=
  List.filterMap_append

theorem mem_channelCalls {events : List WifiEvent} {channel : UInt8} {result : EspErr} :
    (channel, result) ∈ channelCalls events ↔ .setChannel channel result ∈ events := by
  unfold channelCalls
  rw [List.mem_filterMap]
  constructor
  · intro found
    obtain ⟨event, member, same⟩ := found
    cases event with
    | setChannel other answer =>
      cases same
      exact member
    | accepted payload => cases same
    | setCountryCn answer => cases same
    | transmit nowMs payload answer => cases same
    | dropped nowMs payload => cases same
  · exact fun member => ⟨_, member, rfl⟩

namespace RadioCoordinator

/-- What the choice of the band depends on, and changes: the band, its channel, when it was selected, and
the retry timer. -/
def tuning (coordinator : RadioCoordinator) : Band × UInt8 × Nat × Nat :=
  (coordinator.activeBand, coordinator.currentChannel, coordinator.dwellStartedMs, coordinator.retryAtMs)

section
variable {coordinator : RadioCoordinator} {nowMs : Nat} {answers : WifiAnswers}

theorem configure_calls : channelCalls (coordinator.configure answers).events = [] ∧
    (coordinator.configure answers).next.tuning = coordinator.tuning ∧
    (coordinator.configure answers).next.retryMs = coordinator.retryMs ∧
    (coordinator.configure answers).next.dwellMs = coordinator.dwellMs := by
  unfold configure
  dsimp only
  split_ifs <;> exact ⟨rfl, rfl, rfl, rfl⟩

theorem serve_calls : channelCalls (coordinator.serve nowMs answers).events = [] ∧
    (coordinator.serve nowMs answers).next.tuning = coordinator.tuning ∧
    (coordinator.serve nowMs answers).next.retryMs = coordinator.retryMs ∧
    (coordinator.serve nowMs answers).next.dwellMs = coordinator.dwellMs := by
  unfold serve
  dsimp only
  cases (coordinator.pending coordinator.activeBand).items[
      coordinator.earliestIndex coordinator.activeBand]? with
  | none => exact ⟨rfl, rfl, rfl, rfl⟩
  | some payload =>
    dsimp only
    split_ifs <;> exact ⟨rfl, rfl, rfl, rfl⟩

/-- What a call of `set_channel` does: a failure starts the retry timer and changes nothing else, a
success tunes the band. -/
def tuningAfter (coordinator : RadioCoordinator) (nowMs : Nat) (band : Band) (result : EspErr) :
    Band × UInt8 × Nat × Nat :=
  if result = ESP_OK then (band, bandChannel band, nowMs, 0)
  else (coordinator.activeBand, coordinator.currentChannel, coordinator.dwellStartedMs,
    add64 nowMs coordinator.retryMs)

/-- A poll that does not touch the channel, or that asks for the band it has to switch to. -/
structure Switched (coordinator : RadioCoordinator) (nowMs : Nat) (band : Band) (outcome : Outcome)
    (result : EspErr) : Prop where
  target : coordinator.switchTarget nowMs = some band
  free : coordinator.retryAtMs ≤ nowMs
  calls : channelCalls outcome.events = [(bandChannel band, result)]
  tuning : outcome.next.tuning = coordinator.tuningAfter nowMs band result

theorem Switched.succeeded {band : Band} {outcome : Outcome} {result : EspErr}
    (switched : Switched coordinator nowMs band outcome result) (fine : result = ESP_OK) :
    outcome.next.activeBand = band ∧ outcome.next.currentChannel = bandChannel band ∧
      outcome.next.dwellStartedMs = nowMs ∧ outcome.next.retryAtMs = 0 := by
  have tuning := switched.tuning
  unfold RadioCoordinator.tuning tuningAfter at tuning
  rw [if_pos fine] at tuning
  simpa only [Prod.mk.injEq] using tuning

theorem Switched.failed {band : Band} {outcome : Outcome} {result : EspErr}
    (switched : Switched coordinator nowMs band outcome result) (refused : result ≠ ESP_OK) :
    outcome.next.activeBand = coordinator.activeBand ∧
      outcome.next.currentChannel = coordinator.currentChannel ∧
      outcome.next.dwellStartedMs = coordinator.dwellStartedMs ∧
      outcome.next.retryAtMs = add64 nowMs coordinator.retryMs := by
  have tuning := switched.tuning
  unfold RadioCoordinator.tuning tuningAfter at tuning
  rw [if_neg refused] at tuning
  simpa only [Prod.mk.injEq] using tuning

def Untouched (coordinator : RadioCoordinator) (outcome : Outcome) : Prop :=
  channelCalls outcome.events = [] ∧ outcome.next.tuning = coordinator.tuning

theorem selectBand_calls (band : Band) (target : coordinator.switchTarget nowMs = some band) :
    let outcome := coordinator.selectBand band nowMs answers
    (Untouched coordinator outcome ∨ ∃ result, Switched coordinator nowMs band outcome result) ∧
      outcome.next.retryMs = coordinator.retryMs ∧ outcome.next.dwellMs = coordinator.dwellMs := by
  unfold selectBand
  dsimp only
  by_cases held : nowMs < coordinator.retryAtMs
  · rw [if_pos held]
    exact ⟨.inl ⟨rfl, rfl⟩, rfl, rfl⟩
  rw [if_neg held]
  by_cases failed : answers.setChannel (bandChannel band) ≠ ESP_OK
  · rw [if_pos failed]
    refine ⟨.inr ⟨_, target, not_lt.mp held, rfl, ?_⟩, rfl, rfl⟩
    unfold tuningAfter
    rw [if_neg failed]
    rfl
  · rw [if_neg failed]
    refine ⟨.inr ⟨_, target, not_lt.mp held, rfl, ?_⟩, rfl, rfl⟩
    unfold tuningAfter
    rw [if_pos (not_not.mp failed)]
    rfl

theorem tune_calls :
    let outcome := coordinator.tune nowMs answers
    (Untouched coordinator outcome ∨ ∃ band result, Switched coordinator nowMs band outcome result) ∧
      outcome.next.retryMs = coordinator.retryMs ∧ outcome.next.dwellMs = coordinator.dwellMs := by
  unfold tune
  cases target : coordinator.switchTarget nowMs with
  | none => exact ⟨.inl ⟨rfl, rfl⟩, rfl, rfl⟩
  | some band =>
    obtain ⟨cases, constants⟩ := @selectBand_calls coordinator nowMs answers band target
    refine ⟨?_, constants⟩
    rcases cases with untouched | ⟨result, switched⟩
    · exact .inl untouched
    · exact .inr ⟨band, result, switched⟩

theorem poll_calls :
    let outcome := coordinator.poll nowMs answers
    (Untouched coordinator outcome ∨ ∃ band result, Switched coordinator nowMs band outcome result) ∧
      outcome.next.retryMs = coordinator.retryMs ∧ outcome.next.dwellMs = coordinator.dwellMs := by
  obtain ⟨silent, same, retry, dwell⟩ := @configure_calls coordinator answers
  obtain ⟨target, _⟩ := @configure_tuning coordinator nowMs answers
  have parts := same
  unfold RadioCoordinator.tuning at parts
  simp only [Prod.mk.injEq] at parts
  have after : ∀ band result, (coordinator.configure answers).next.tuningAfter nowMs band result =
      coordinator.tuningAfter nowMs band result := by
    intro band result
    unfold tuningAfter
    rw [parts.1, parts.2.1, parts.2.2.1, retry]
  apply @poll_rule coordinator nowMs answers (fun outcome => (Untouched coordinator outcome ∨
    ∃ band result, Switched coordinator nowMs band outcome result) ∧
      outcome.next.retryMs = coordinator.retryMs ∧ outcome.next.dwellMs = coordinator.dwellMs)
  · exact fun _ _ => ⟨.inl ⟨rfl, rfl⟩, rfl, rfl⟩
  · exact fun _ => ⟨.inl ⟨silent, same⟩, retry, dwell⟩
  · intro configured tuned equal _ equal' _
    subst equal
    subst equal'
    obtain ⟨cases, retry', dwell'⟩ := @tune_calls (coordinator.configure answers).next nowMs answers
    refine ⟨?_, retry'.trans retry, dwell'.trans dwell⟩
    rcases cases with ⟨none, still⟩ | ⟨band, result, switched⟩
    · refine .inl ⟨?_, still.trans same⟩
      rw [channelCalls_append, silent, none, List.append_nil]
    · refine .inr ⟨band, result, target ▸ switched.target, parts.2.2.2 ▸ switched.free, ?_, ?_⟩
      · rw [channelCalls_append, silent, switched.calls, List.nil_append]
      · exact switched.tuning.trans (after band result)
  · intro configured tuned equal _ equal' _
    subst equal
    subst equal'
    obtain ⟨cases, retry', dwell'⟩ := @tune_calls (coordinator.configure answers).next nowMs answers
    obtain ⟨quiet, kept, retry'', dwell''⟩ :=
      @serve_calls ((coordinator.configure answers).next.tune nowMs answers).next nowMs answers
    refine ⟨?_, retry''.trans (retry'.trans retry), dwell''.trans (dwell'.trans dwell)⟩
    rcases cases with ⟨none, still⟩ | ⟨band, result, switched⟩
    · refine .inl ⟨?_, kept.trans (still.trans same)⟩
      rw [channelCalls_append, channelCalls_append, silent, none, quiet]
      rfl
    · refine .inr ⟨band, result, target ▸ switched.target, parts.2.2.2 ▸ switched.free, ?_, ?_⟩
      · rw [channelCalls_append, channelCalls_append, silent, switched.calls, quiet]
        rfl
      · exact kept.trans (switched.tuning.trans (after band result))

theorem sub64_later {startMs : Nat} (ordered : startMs ≤ nowMs) (fits : nowMs < 2 ^ 64) :
    sub64 nowMs startMs = nowMs - startMs := by
  unfold sub64
  omega

/-- A tuned radio is asked to change its band for the other one only, when its own has nothing to send or
has had its time. -/
theorem switchTarget_tuned {band : Band} (tuned : coordinator.currentChannel ≠ 0)
    (target : coordinator.switchTarget nowMs = some band) :
    band = coordinator.activeBand.other ∧ coordinator.pendingCount coordinator.activeBand.other ≠ 0 ∧
      (coordinator.pendingCount coordinator.activeBand = 0 ∨
        coordinator.dwellMs ≤ sub64 nowMs coordinator.dwellStartedMs) := by
  unfold switchTarget at target
  dsimp only at target
  rw [if_neg tuned] at target
  split_ifs at target with empty due
  · exact ⟨(Option.some.inj target).symm, empty.2, .inl empty.1⟩
  · exact ⟨(Option.some.inj target).symm, due.2.1, .inr due.2.2⟩

theorem mem_poll_of_tune (configured : coordinator.configured = true)
    (waiting : coordinator.pendingCount coordinator.activeBand ≠ 0) {event : WifiEvent}
    (called : event ∈ (coordinator.tune nowMs answers).events) :
    event ∈ (coordinator.poll nowMs answers).events := by
  by_cases succeeded : (coordinator.tune nowMs answers).result = ESP_OK
  · rw [(poll_served configured waiting succeeded).2]
    exact List.mem_append_left _ called
  · rw [(poll_untuned configured waiting succeeded).2]
    exact called

structure Rotates (coordinator : RadioCoordinator) (nowMs : Nat) (answers : WifiAnswers) : Prop where
  switch : coordinator.currentChannel ≠ 0 → ∀ channel result,
    .setChannel channel result ∈ (coordinator.poll nowMs answers).events →
      channel = bandChannel coordinator.activeBand.other ∧
      coordinator.pendingCount coordinator.activeBand.other ≠ 0 ∧
      (coordinator.pendingCount coordinator.activeBand = 0 ∨
        coordinator.dwellMs ≤ nowMs - coordinator.dwellStartedMs)
  turn : coordinator.currentChannel ≠ 0 → coordinator.pendingCount coordinator.activeBand ≠ 0 →
    coordinator.pendingCount coordinator.activeBand.other ≠ 0 →
    coordinator.dwellMs ≤ nowMs - coordinator.dwellStartedMs → ¬nowMs < coordinator.retryAtMs →
      ∃ result, .setChannel (bandChannel coordinator.activeBand.other) result ∈
        (coordinator.poll nowMs answers).events
  alone : coordinator.currentChannel ≠ 0 →
    coordinator.pendingCount coordinator.activeBand.other = 0 →
      (∀ channel result, .setChannel channel result ∉ (coordinator.poll nowMs answers).events) ∧
      (coordinator.poll nowMs answers).next.activeBand = coordinator.activeBand ∧
      (coordinator.poll nowMs answers).next.currentChannel = coordinator.currentChannel
  failure : ∀ channel result,
    .setChannel channel result ∈ (coordinator.poll nowMs answers).events → result ≠ ESP_OK →
      (coordinator.poll nowMs answers).next.currentChannel = coordinator.currentChannel ∧
      (coordinator.poll nowMs answers).next.dwellStartedMs = coordinator.dwellStartedMs

theorem rotates (configured : coordinator.currentChannel ≠ 0 → coordinator.configured = true)
    (ordered : coordinator.dwellStartedMs ≤ nowMs) (fits : nowMs < 2 ^ 64) :
    Rotates coordinator nowMs answers := by
  have elapsed := sub64_later ordered fits
  have calls := (@poll_calls coordinator nowMs answers).1
  constructor
  · intro tuned channel result called
    rcases calls with ⟨none, _⟩ | ⟨band, answer, switched⟩
    · rw [← mem_channelCalls, none] at called
      cases called
    · rw [← mem_channelCalls, switched.calls, List.mem_singleton] at called
      obtain ⟨isOther, waits, due⟩ := switchTarget_tuned tuned switched.target
      rw [elapsed] at due
      rw [← isOther]
      exact ⟨(Prod.mk.inj called).1, isOther ▸ waits, due⟩
  · intro tuned waiting others passed free
    have due : coordinator.SwitchDue nowMs := ⟨others, by rw [elapsed]; exact passed⟩
    have target := switchTarget_due tuned waiting due
    refine ⟨answers.setChannel (bandChannel coordinator.activeBand.other),
      mem_poll_of_tune (configured tuned) waiting ?_⟩
    unfold tune selectBand
    rw [target]
    dsimp only
    rw [if_neg free]
    split_ifs
    · exact List.mem_singleton.mpr rfl
    · exact List.mem_singleton.mpr rfl
  · intro tuned empty
    rcases calls with ⟨none, same⟩ | ⟨band, answer, switched⟩
    · unfold tuning at same
      simp only [Prod.mk.injEq] at same
      refine ⟨fun channel result called => ?_, same.1, same.2.1⟩
      rw [← mem_channelCalls, none] at called
      cases called
    · exact absurd empty (switchTarget_tuned tuned switched.target).2.1
  · intro channel result called failed
    rcases calls with ⟨none, _⟩ | ⟨band, answer, switched⟩
    · rw [← mem_channelCalls, none] at called
      cases called
    · rw [← mem_channelCalls, switched.calls, List.mem_singleton] at called
      have refused : answer ≠ ESP_OK := (Prod.mk.inj called).2 ▸ failed
      obtain ⟨_, channel, begun, _⟩ := switched.failed refused
      exact ⟨channel, begun⟩

end

/-! Whole runs. -/

/-- A call of `set_channel` in a run. -/
structure ChannelCall where
  nowMs : Nat
  channel : UInt8
  result : EspErr

/-- The calls of `set_channel`, observed with their times. -/
def channelMachine : Machine RadioCoordinator Input ChannelCall where
  step coordinator input := ((machine.step coordinator input).1, match input with
    | .submit _ => []
    | .poll nowMs answers => (channelCalls (coordinator.poll nowMs answers).events).map
        fun call => ⟨nowMs, call.1, call.2⟩)

theorem channelMachine_state (start : RadioCoordinator) (inputs : List Input) :
    (channelMachine.run start inputs).1 = (machine.run start inputs).1 := by
  induction inputs using List.reverseRecOn with
  | nil => rfl
  | append_singleton before input ih =>
    rw [Machine.run_snoc, Machine.run_snoc, ih]
    rfl

def pollTimes (inputs : List Input) : List Nat :=
  inputs.filterMap fun input => match input with
    | .submit _ => none
    | .poll nowMs _ => some nowMs

/-- What a run up to a time has to say about the channel: which call has tuned it, and that a failed call
still holds the radio back or lies the pause behind. -/
structure Timed (retryMs : Nat) (coordinator : RadioCoordinator) (calls : List ChannelCall)
    (lastMs : Nat) : Prop where
  constant : coordinator.retryMs = retryMs
  tuned : coordinator.currentChannel ≠ 0 → ∃ earlier later, calls = earlier ++
    ⟨coordinator.dwellStartedMs, coordinator.currentChannel, ESP_OK⟩ :: later ∧
      ∀ call ∈ later, call.result ≠ ESP_OK
  begun : coordinator.dwellStartedMs ≤ lastMs
  paused : (∀ call ∈ calls, call.result ≠ ESP_OK → call.nowMs + retryMs < 2 ^ 64) →
    calls.Pairwise (fun first second => first.result ≠ ESP_OK → first.nowMs + retryMs ≤ second.nowMs) ∧
    ∀ call ∈ calls, call.result ≠ ESP_OK →
      call.nowMs + retryMs ≤ coordinator.retryAtMs ∨ call.nowMs + retryMs ≤ lastMs

section
variable {retryMs : Nat} {coordinator : RadioCoordinator} {calls : List ChannelCall} {lastMs nowMs : Nat}
  {answers : WifiAnswers}

theorem timed_start (dwellMs retryMs : Nat) :
    Timed retryMs { dwellMs := dwellMs, retryMs := retryMs } [] 0 := by
  refine ⟨rfl, fun tuned => absurd rfl tuned, le_refl 0, fun _ => ⟨List.Pairwise.nil, nofun⟩⟩

theorem Timed.stay (timed : Timed retryMs coordinator calls lastMs) (ordered : lastMs ≤ nowMs)
    {next : RadioCoordinator} (same : next.tuning = coordinator.tuning)
    (constant : next.retryMs = coordinator.retryMs) : Timed retryMs next calls nowMs := by
  unfold tuning at same
  simp only [Prod.mk.injEq] at same
  obtain ⟨_, channel, begun, retry⟩ := same
  constructor
  · exact constant.trans timed.constant
  · rw [channel, begun]
    exact timed.tuned
  · rw [begun]
    exact timed.begun.trans ordered
  · intro small
    obtain ⟨apart, recent⟩ := timed.paused small
    refine ⟨apart, fun call member failed => ?_⟩
    rw [retry]
    exact (recent call member failed).imp_right fun past => past.trans ordered

theorem Timed.call (timed : Timed retryMs coordinator calls lastMs) (ordered : lastMs ≤ nowMs)
    {band : Band} {result : EspErr} {outcome : Outcome}
    (switched : Switched coordinator nowMs band outcome result)
    (constant : outcome.next.retryMs = coordinator.retryMs) :
    Timed retryMs outcome.next (calls ++ [⟨nowMs, bandChannel band, result⟩]) nowMs := by
  constructor
  · exact constant.trans timed.constant
  · intro tuned
    by_cases fine : result = ESP_OK
    · obtain ⟨_, channel, begun, _⟩ := switched.succeeded fine
      refine ⟨calls, [], ?_, nofun⟩
      rw [channel, begun, fine]
    · obtain ⟨_, channel, begun, _⟩ := switched.failed fine
      rw [channel] at tuned
      obtain ⟨earlier, later, split, failures⟩ := timed.tuned tuned
      refine ⟨earlier, later ++ [⟨nowMs, bandChannel band, result⟩], ?_, ?_⟩
      · rw [channel, begun, split, List.append_assoc]
        rfl
      · intro call member
        rcases List.mem_append.mp member with old | new
        · exact failures call old
        · rw [List.mem_singleton.mp new]
          exact fine
  · by_cases fine : result = ESP_OK
    · obtain ⟨_, _, begun, _⟩ := switched.succeeded fine
      exact begun.le
    · obtain ⟨_, _, begun, _⟩ := switched.failed fine
      rw [begun]
      exact timed.begun.trans ordered
  · intro small
    obtain ⟨apart, recent⟩ := timed.paused fun call member => small call (List.mem_append_left _ member)
    have passed : ∀ call ∈ calls, call.result ≠ ESP_OK → call.nowMs + retryMs ≤ nowMs := by
      intro call member failed
      rcases recent call member failed with held | past
      · exact held.trans switched.free
      · exact past.trans ordered
    constructor
    · refine List.pairwise_append.mpr ⟨apart, List.pairwise_singleton _ _, ?_⟩
      intro first member second new failed
      rw [List.mem_singleton.mp new]
      exact passed first member failed
    · intro call member failed
      rcases List.mem_append.mp member with old | new
      · exact .inr (passed call old failed)
      · left
        have fits := small call member failed
        rw [List.mem_singleton.mp new] at failed fits ⊢
        obtain ⟨_, _, _, retry⟩ := switched.failed failed
        rw [retry, timed.constant]
        unfold add64
        dsimp only at fits ⊢
        omega

end

theorem submit_tuning (coordinator : RadioCoordinator) (payload : ScheduledPayload) :
    (coordinator.submit payload).next.tuning = coordinator.tuning ∧
      (coordinator.submit payload).next.retryMs = coordinator.retryMs := by
  unfold submit
  dsimp only
  split_ifs
  · exact ⟨rfl, rfl⟩
  · exact ⟨rfl, rfl⟩
  · cases (coordinator.pending (bandIndex payload.transport)).push payload <;> exact ⟨rfl, rfl⟩

def lastPoll (inputs : List Input) : Nat := (pollTimes inputs).getLast?.getD 0

theorem pollTimes_append (before : List Input) (input : Input) :
    pollTimes (before ++ [input]) = pollTimes before ++ pollTimes [input] := List.filterMap_append

theorem lastPoll_le {before : List Input} {nowMs : Nat} {answers : WifiAnswers}
    (ordered : (pollTimes (before ++ [.poll nowMs answers])).Pairwise (· ≤ ·)) :
    lastPoll before ≤ nowMs := by
  rw [pollTimes_append, List.pairwise_append] at ordered
  unfold lastPoll
  cases found : (pollTimes before).getLast? with
  | none => exact Nat.zero_le _
  | some lastMs => exact ordered.2.2 lastMs (List.mem_of_getLast? found) nowMs List.mem_cons_self

theorem run_timed (dwellMs retryMs : Nat) (inputs : List Input)
    (ordered : (pollTimes inputs).Pairwise (· ≤ ·)) :
    Timed retryMs (machine.run { dwellMs := dwellMs, retryMs := retryMs } inputs).1
      (channelMachine.run { dwellMs := dwellMs, retryMs := retryMs } inputs).2 (lastPoll inputs) := by
  induction inputs using List.reverseRecOn with
  | nil => exact timed_start dwellMs retryMs
  | append_singleton before input ih =>
    have sofar := ordered
    rw [pollTimes_append, List.pairwise_append] at sofar
    have earlier := ih sofar.1
    rw [Machine.run_snoc, Machine.run_snoc, channelMachine_state]
    generalize (machine.run { dwellMs := dwellMs, retryMs := retryMs } before).1 = coordinator at *
    generalize (channelMachine.run { dwellMs := dwellMs, retryMs := retryMs } before).2 = calls at *
    cases input with
    | submit payload =>
      obtain ⟨same, constant⟩ := submit_tuning coordinator payload
      have quiet : calls ++ (channelMachine.step coordinator (.submit payload)).2 = calls :=
        List.append_nil calls
      have still : lastPoll (before ++ [.submit payload]) = lastPoll before := by
        unfold lastPoll
        rw [pollTimes_append]
        exact congrArg (fun times : List Nat => times.getLast?.getD 0) (List.append_nil _)
      rw [quiet, still]
      exact earlier.stay (le_refl _) same constant
    | poll nowMs answers =>
      have now : lastPoll (before ++ [.poll nowMs answers]) = nowMs := by
        unfold lastPoll
        rw [pollTimes_append, show pollTimes [Input.poll nowMs answers] = [nowMs] from rfl,
          List.getLast?_append]
        rfl
      have stepped : (channelMachine.step coordinator (.poll nowMs answers)).2 =
          (channelCalls (coordinator.poll nowMs answers).events).map fun call =>
            ⟨nowMs, call.1, call.2⟩ := rfl
      obtain ⟨cases, constant, _⟩ := @poll_calls coordinator nowMs answers
      rw [now, stepped]
      rcases cases with ⟨none, same⟩ | ⟨band, result, switched⟩
      · rw [none, List.map_nil, List.append_nil]
        exact earlier.stay (lastPoll_le ordered) same constant
      · rw [switched.calls]
        exact earlier.call (lastPoll_le ordered) switched constant

/-- The radio rotates between its bands by the dwell time, in every poll of every run. The channel is that of
the last call that succeeded, and the dwell time counts from it. After a call that failed there is none
before the pause is over, as long as the end of the pause can be told in 64 bits. -/
theorem wifi_rotation (dwellMs retryMs : Nat) (inputs : List Input)
    (ordered : (pollTimes inputs).Pairwise (· ≤ ·)) (fits : ∀ nowMs ∈ pollTimes inputs, nowMs < 2 ^ 64) :
    let start : RadioCoordinator := { dwellMs := dwellMs, retryMs := retryMs }
    let calls := fun inputs => (channelMachine.run start inputs).2
    EveryPoll start inputs Rotates ∧
    (∀ before, before <+: inputs → (machine.run start before).1.currentChannel ≠ 0 →
      ∃ earlier later, calls before = earlier ++ ⟨(machine.run start before).1.dwellStartedMs,
          (machine.run start before).1.currentChannel, ESP_OK⟩ :: later ∧
        ∀ call ∈ later, call.result ≠ ESP_OK) ∧
    ((∀ call ∈ calls inputs, call.result ≠ ESP_OK → call.nowMs + retryMs < 2 ^ 64) →
      (calls inputs).Pairwise fun first second =>
        first.result ≠ ESP_OK → first.nowMs + retryMs ≤ second.nowMs) := by
  have prefixOrdered : ∀ before, before <+: inputs → (pollTimes before).Pairwise (· ≤ ·) :=
    fun before within => ordered.sublist (within.filterMap _).sublist
  refine ⟨?_, ?_, fun small => ((run_timed dwellMs retryMs inputs ordered).paused small).1⟩
  · intro before nowMs answers within
    have timed := run_timed dwellMs retryMs before
      (prefixOrdered before ((List.prefix_append before _).trans within))
    have consistent := run_consistent dwellMs retryMs before
    have now : nowMs ∈ pollTimes inputs :=
      (within.filterMap _).subset (List.mem_filterMap.mpr
        ⟨.poll nowMs answers, List.mem_append_right _ List.mem_cons_self, rfl⟩)
    have last := lastPoll_le (prefixOrdered _ within)
    exact rotates (fun tuned => (consistent.tuned tuned).1) (timed.begun.trans last) (fits nowMs now)
  · intro before within
    exact (run_timed dwellMs retryMs before (prefixOrdered before within)).tuned

/-- Both bands have payloads, the second band's turn comes and its channel cannot be set for a while. -/
theorem wifi_rotation_with_failure :
    let inputs := starvedRun ++ [.poll 100 lowOnly, .poll 110 lowOnly, .poll 120 {}]
    let calls := fun inputs => (channelMachine.run {} inputs).2
    EveryPoll {} inputs Rotates ∧
    (∀ before, before <+: inputs → (machine.run {} before).1.currentChannel ≠ 0 →
      ∃ earlier later, calls before = earlier ++ ⟨(machine.run {} before).1.dwellStartedMs,
          (machine.run {} before).1.currentChannel, ESP_OK⟩ :: later ∧
        ∀ call ∈ later, call.result ≠ ESP_OK) ∧
    ((∀ call ∈ calls inputs, call.result ≠ ESP_OK → call.nowMs + 20 < 2 ^ 64) →
      (calls inputs).Pairwise fun first second =>
        first.result ≠ ESP_OK → first.nowMs + 20 ≤ second.nowMs) :=
  wifi_rotation 100 20 _ (by decide) (by decide)

/-- A failure 10 ms before the 64 bits run out: the end of the pause wraps, and the next poll calls again
at once. -/
theorem pause_wraps :
    let refused : WifiAnswers := { setChannel := fun _ => ESP_FAIL }
    let inputs : List Input := [.submit { transport := .wifi24, size := 1 },
      .poll (2 ^ 64 - 10) refused, .poll (2 ^ 64 - 10) refused]
    (pollTimes inputs).Pairwise (· ≤ ·) ∧ (∀ nowMs ∈ pollTimes inputs, nowMs < 2 ^ 64) ∧
      ¬(channelMachine.run {} inputs).2.Pairwise fun first second =>
        first.result ≠ ESP_OK → first.nowMs + 20 ≤ second.nowMs := by
  have calls : (channelMachine.run {} [.submit { transport := .wifi24, size := 1 },
      .poll (2 ^ 64 - 10) { setChannel := fun _ => ESP_FAIL },
      .poll (2 ^ 64 - 10) { setChannel := fun _ => ESP_FAIL }]).2 =
      [⟨2 ^ 64 - 10, 6, ESP_FAIL⟩, ⟨2 ^ 64 - 10, 6, ESP_FAIL⟩] := rfl
  refine ⟨by decide, by decide, ?_⟩
  rw [calls]
  decide

end RadioCoordinator

end RidFirmware
