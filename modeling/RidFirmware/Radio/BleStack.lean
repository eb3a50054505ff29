import RidFirmware.Radio.BleAccounting
import RidFirmware.Radio.BleOrder
import RidFirmware.Radio.Handover
import RidFirmware.Radio.NimbleBackend

/-! The BLE transport on its real backend: which advertising set is started, with which data, and what is
left of the sets and buffers. The log of the transport reports its calls of the backend, and the backend
answers them by calls of the NimBLE host. -/

namespace RidFirmware
open Lib

/-- The method of the backend that an event reports a call of, with what the call returned. -/
def BleEvent.exchange : BleEvent → Option (BleMethod × EspErr)
  | .configure _ mode payload result => some (.configure mode (.bytes payload.frame), result)
  | .start result => some (.start, result)
  | .reset result => some (.reset, result)
  | .accepted _ => none
  | .dropped _ _ => none
  | .finished _ _ => none

def BleEvent.entered : BleEvent → Option ScheduledPayload
  | .accepted payload => some payload
  | _ => none

/-- What a call of `start` returned. -/
def BleEvent.started : BleEvent → Option EspErr
  | .start result => some result
  | _ => none

def Fitting (payload : ScheduledPayload) : Prop :=
  BleTransport.IsBle payload.transport ∧ payload.size ≤ BleTransport.maximumSize payload.transport

/-- When the transport calls the backend: `configure` with an accepted payload in the mode of its transport,
`start` right after that has succeeded, and nothing any more once a `reset` has succeeded. -/
def BleEvent.Allowed (before : List BleEvent) : BleEvent → Prop
  | .accepted payload => Fitting payload
  | .configure _ mode payload _ => .reset ESP_OK ∉ before ∧ mode = BleTransport.modeOf payload ∧
      payload ∈ before.filterMap BleEvent.entered
  | .start _ => .reset ESP_OK ∉ before ∧ ∃ earlier nowMs payload,
      before = earlier ++ [.configure nowMs (BleTransport.modeOf payload) payload ESP_OK] ∧
        payload ∈ before.filterMap BleEvent.entered
  | .reset _ => .reset ESP_OK ∉ before
  | _ => True

namespace BleTransport
open BleEvent

section
variable {transport : BleTransport} {log : List BleEvent}

/-- What a run keeps: the backend is called when it may be, what waits was accepted, and the transport is shut
down once a `reset` has succeeded. -/
structure Lawful (transport : BleTransport) (log : List BleEvent) : Prop where
  each : Each Allowed log
  accepted : ∀ payload ∈ transport.pending.items, payload ∈ log.filterMap entered
  ended : .reset ESP_OK ∈ log → transport.shutDown = true

theorem Lawful.running (lawful : Lawful transport log)
    (running : ¬(transport.shuttingDown = true ∨ transport.shutDown = true)) : .reset ESP_OK ∉ log :=
  fun ended => running (.inr (lawful.ended ended))

theorem Lawful.submit (lawful : Lawful transport log) (payload : ScheduledPayload) :
    Lawful (transport.submit payload).next (log ++ (transport.submit payload).events) := by
  have waits := @submit_waiting transport payload
  revert waits
  apply @submit_rule transport payload (fun outcome =>
    (∀ {other}, other ∈ outcome.next.pending.items →
      other ∈ transport.pending.items ∨ outcome.result = .none ∧ other = payload) →
    Lawful outcome.next (log ++ outcome.events))
  · intro _ _ _
    rwa [List.append_nil]
  · intro queue running isBle fits _ waits
    refine ⟨each_snoc.mpr ⟨lawful.each, isBle, fits⟩, ?_, ?_⟩
    · intro other member
      rw [List.filterMap_append, List.mem_append]
      rcases waits member with old | ⟨_, new⟩
      · exact .inl (lawful.accepted other old)
      · exact .inr (new ▸ List.mem_singleton_self payload)
    · intro ended
      rcases List.mem_append.mp ended with early | last
      · exact absurd early (lawful.running running)
      · cases List.mem_singleton.mp last

theorem each_quiet (each : Each Allowed log) {events : List BleEvent}
    (quiet : ∀ event ∈ events, (∃ kind succeeded, event = .finished kind succeeded) ∨
      ∃ nowMs payload, event = .dropped nowMs payload) : Each Allowed (log ++ events) := by
  apply each.append
  intro event member before
  rcases quiet event member with ⟨_, _, rfl⟩ | ⟨_, _, rfl⟩
  · trivial
  · trivial

theorem each_calls (each : Each Allowed log) (running : .reset ESP_OK ∉ log) {payload : ScheduledPayload}
    (accepted : payload ∈ log.filterMap entered) (nowMs : Nat) (answers : BleAnswers) :
    Each Allowed (log ++ calls nowMs answers payload) := by
  have configured : Each Allowed (log ++ [.configure nowMs (modeOf payload) payload answers.configure]) :=
    each_snoc.mpr ⟨each, running, rfl, accepted⟩
  unfold calls
  split_ifs with succeeded
  · rw [← List.singleton_append, ← List.append_assoc]
    refine each_snoc.mpr ⟨configured, ?_, log, nowMs, payload, by rw [succeeded], ?_⟩
    · intro ended
      rcases List.mem_append.mp ended with early | last
      · exact running early
      · cases List.mem_singleton.mp last
    · rw [List.filterMap_append]
      exact List.mem_append_left _ accepted
  · exact configured

theorem poll_silent (transport : BleTransport) (nowMs : Nat) (answers : BleAnswers) :
    .reset ESP_OK ∉ (transport.poll nowMs answers).events := by
  have drained := @drainCompletions_drained transport answers
  have silent : .reset ESP_OK ∉ (transport.drainCompletions answers).2 := by
    intro member
    obtain ⟨_, _, same⟩ := drained.finished _ member
    cases same
  rcases poll_cases transport nowMs answers with ⟨_, same⟩ | ⟨_, _, same⟩ |
    ⟨_, _, lost, selected, outcome, picked, same⟩
  · rw [same]
    exact List.not_mem_nil
  · rw [same]
    exact silent
  · rw [same, picked.events, List.mem_append, List.mem_append]
    rintro (early | expired | called)
    · exact silent early
    · obtain ⟨_, _, same⟩ := List.mem_map.mp expired
      cases same
    · cases selected with
      | none => cases called
      | some payload =>
        simp only [Option.elim_some, calls] at called
        split_ifs at called <;> simp at called

theorem Lawful.poll (lawful : Lawful transport log) (nowMs : Nat) (answers : BleAnswers) :
    Lawful (transport.poll nowMs answers).next (log ++ (transport.poll nowMs answers).events) := by
  have drained := @drainCompletions_drained transport answers
  have finished : ∀ event ∈ (transport.drainCompletions answers).2,
      (∃ kind succeeded, event = .finished kind succeeded) ∨
        ∃ nowMs payload, event = .dropped nowMs payload :=
    fun event member => .inl (drained.finished event member)
  have silent := poll_silent transport nowMs answers
  refine ⟨?_, ?_, ?_⟩
  · rcases poll_cases transport nowMs answers with ⟨_, same⟩ | ⟨_, _, same⟩ |
      ⟨running, _, lost, selected, outcome, picked, same⟩
    · rw [same, List.append_nil]
      exact lawful.each
    · rw [same]
      exact each_quiet lawful.each finished
    · rw [same, picked.events] at silent ⊢
      rw [← List.append_assoc, ← List.append_assoc]
      have quiet : Each Allowed (log ++ (transport.drainCompletions answers).2 ++ lost.map (.dropped nowMs)) := by
        apply each_quiet (each_quiet lawful.each finished)
        intro event member
        obtain ⟨payload, _, rfl⟩ := List.mem_map.mp member
        exact .inr ⟨nowMs, payload, rfl⟩
      cases selected with
      | none => exact (List.append_nil _).symm ▸ quiet
      | some payload =>
        have waited : payload ∈ transport.pending.items := by
          rw [← @drainCompletions_pending transport answers, picked.parts.mem_iff]
          simp
        apply each_calls quiet
        · simp only [List.mem_append, not_or] at silent ⊢
          exact ⟨⟨lawful.running running, silent.1⟩, silent.2.1⟩
        · rw [List.append_assoc, List.filterMap_append]
          exact List.mem_append_left _ (lawful.accepted payload waited)
  · intro payload member
    rw [List.filterMap_append]
    exact List.mem_append_left _ (lawful.accepted payload (poll_waiting member))
  · intro ended
    have down := lawful.ended ((List.mem_append.mp ended).resolve_right silent)
    rcases poll_cases transport nowMs answers with ⟨_, same⟩ | ⟨running, _⟩ | ⟨running, _⟩
    · rw [same]
      exact down
    · exact absurd (.inr down) running
    · exact absurd (.inr down) running

theorem Lawful.completion (lawful : Lawful transport log) (event : BleCompletionEvent) :
    Lawful (transport.enqueueCompletion event) (log ++ []) := by
  obtain ⟨_, _, _, same⟩ := enqueueCompletions_eq transport [event]
  replace same : transport.enqueueCompletion event = _ := same
  rw [same, List.append_nil]
  exact ⟨lawful.each, lawful.accepted, lawful.ended⟩

theorem Lawful.shutdown (lawful : Lawful transport log) (reset : EspErr) :
    Lawful (transport.shutdown reset).next (log ++ (transport.shutdown reset).events) := by
  unfold BleTransport.shutdown
  dsimp only
  split_ifs with down failed
  · rwa [List.append_nil]
  all_goals
    have called : Each Allowed (log ++ [.reset reset]) :=
      each_snoc.mpr ⟨lawful.each, fun ended => down (lawful.ended ended)⟩
  · refine ⟨called, ?_, ?_⟩
    · intro payload member
      rw [List.filterMap_append]
      exact List.mem_append_left _ (lawful.accepted payload member)
    · intro ended
      rcases List.mem_append.mp ended with early | last
      · exact lawful.ended early
      · injection List.mem_singleton.mp last with same
        exact absurd same.symm failed
  · exact ⟨called, nofun, fun _ => rfl⟩

theorem run_lawful (inputs : List Input) :
    Lawful (machine.run {} inputs).1 (machine.run {} inputs).2 := by
  apply machine.run_invariant Lawful
  · intro transport log input lawful
    cases input with
    | submit payload => exact lawful.submit payload
    | poll nowMs answers => exact lawful.poll nowMs answers
    | completion event => exact lawful.completion event
    | shutdown reset => exact lawful.shutdown reset
  · exact ⟨Each.nil, nofun, nofun⟩

end

end BleTransport

/-! ## What the host is told -/

/-- Advertising is started for one event, on the set of the mode of an accepted payload. The host has that
set with its parameters, and with the payload as its data. -/
def Advertises (setup : NimbleSetup) (log : List BleEvent) (before : List (GapCall × Int))
    (entry : GapCall × Int) : Prop :=
  ∀ advInstance duration maxEvents result,
    entry = (.bleGapExtAdvStart advInstance duration maxEvents, result) →
    duration = 0 ∧ maxEvents = 1 ∧ ∃ payload ∈ log.filterMap BleEvent.entered, Fitting payload ∧
      advInstance = setup.instanceOf (BleTransport.modeOf payload) ∧
      (NimbleHost.after before).sets advInstance = some
        { parameters := setup.parameters (BleTransport.modeOf payload), data := some payload.frame }

theorem Advertises.later {setup : NimbleSetup} {log : List BleEvent} {before : List (GapCall × Int)}
    {entry : GapCall × Int} (advertises : Advertises setup log before entry) (more : List BleEvent) :
    Advertises setup (log ++ more) before entry := by
  intro advInstance duration maxEvents result same
  obtain ⟨unlimited, once, payload, accepted, told⟩ := advertises advInstance duration maxEvents result same
  refine ⟨unlimited, once, payload, ?_, told⟩
  rw [List.filterMap_append]
  exact List.mem_append_left _ accepted

theorem Advertises.of_silent {entry : GapCall × Int} (silent : GapCall.started entry = none)
    (setup : NimbleSetup) (log : List BleEvent) (before : List (GapCall × Int)) :
    Advertises setup log before entry := by
  intro advInstance duration maxEvents result same
  rw [same] at silent
  cases silent

/-- What the calls of the host and the log of the transport have to do with each other. -/
structure BleTold (setup : NimbleSetup) (session : NimbleSession) (log : List BleEvent) : Prop where
  steady : session.Steady setup none
  fitting : ∀ payload ∈ log.filterMap BleEvent.entered, Fitting payload
  ready : ∀ earlier nowMs mode payload, log = earlier ++ [.configure nowMs mode payload ESP_OK] →
    session.Ready setup mode payload.frame
  ended : .reset ESP_OK ∈ log → ∀ advInstance, session.host.sets advInstance = none
  started : session.calls.filterMap GapCall.started = log.filterMap BleEvent.started
  advertises : Each (Advertises setup log) session.calls

namespace BleTold

variable {setup : NimbleSetup} (nimble : Nimble) {session : NimbleSession} {log : List BleEvent}

theorem start (setup : NimbleSetup) : BleTold setup {} [] where
  steady := NimbleSession.Steady.new setup
  fitting := nofun
  ready := by
    intro earlier nowMs mode payload same
    cases earlier <;> cases same
  ended := nofun
  started := rfl
  advertises := Each.nil

theorem not_configured {event : BleEvent} (other : ∀ nowMs mode payload,
      event ≠ .configure nowMs mode payload ESP_OK) (session : NimbleSession) :
    ∀ earlier nowMs mode payload, log ++ [event] = earlier ++ [.configure nowMs mode payload ESP_OK] →
      session.Ready setup mode payload.frame := by
  intro earlier nowMs mode payload same
  exact absurd (List.singleton_inj.mp (List.append_inj' same rfl).2) (other nowMs mode payload)

theorem fitting_snoc (told : BleTold setup session log) {event : BleEvent} (allowed : event.Allowed log) :
    ∀ payload ∈ (log ++ [event]).filterMap BleEvent.entered, Fitting payload := by
  intro payload member
  rw [List.filterMap_append, List.mem_append] at member
  rcases member with early | last
  · exact told.fitting payload early
  · cases event with
    | accepted accepted =>
      obtain rfl := List.mem_singleton.mp last
      exact allowed
    | _ => cases last

theorem silent (told : BleTold setup session log) {event : BleEvent} (allowed : event.Allowed log)
    (unasked : event.exchange = none) : BleTold setup session (log ++ [event]) where
  steady := told.steady
  fitting := told.fitting_snoc allowed
  ready := by
    apply not_configured
    intro _ _ _ same
    rw [same] at unasked
    cases unasked
  ended := by
    intro ended
    rcases List.mem_append.mp ended with early | last
    · exact told.ended early
    · rw [← List.mem_singleton.mp last] at unasked
      cases unasked
  started := by
    have nothing : event.started = none := by
      cases event with
      | start => cases unasked
      | _ => rfl
    rw [List.filterMap_append, List.filterMap_cons, nothing, List.filterMap_nil, List.append_nil]
    exact told.started
  advertises := told.advertises.mono fun _ _ advertises => advertises.later [event]

theorem quietly (told : BleTold setup session log) (event : BleEvent) {later : NimbleSession}
    (quiet : session.Quietly later) (nothing : event.started = none) :
    later.calls.filterMap GapCall.started = (log ++ [event]).filterMap BleEvent.started ∧
      Each (Advertises setup (log ++ [event])) later.calls := by
  constructor
  · rw [quiet.filterMap_eq GapCall.started fun _ silent => silent, told.started, List.filterMap_append,
      List.filterMap_cons, nothing, List.filterMap_nil, List.append_nil]
  · exact quiet.each (told.advertises.mono fun _ _ advertises => advertises.later [event])
      fun entry silent => Advertises.of_silent silent setup _

theorem configure (distinct : setup.legacyInstance ≠ setup.extendedInstance)
    (told : BleTold setup session log) {nowMs : Nat} {mode : BleMode} {payload : ScheduledPayload}
    {result : EspErr} (allowed : (BleEvent.configure nowMs mode payload result).Allowed log)
    (answered : result = (session.configure setup nimble mode (.bytes payload.frame)).1) :
    BleTold setup (session.configure setup nimble mode (.bytes payload.frame)).2
      (log ++ [.configure nowMs mode payload result]) := by
  obtain ⟨steady, ready⟩ := told.steady.configure nimble distinct mode (.bytes payload.frame)
  obtain ⟨started, advertises⟩ := told.quietly (.configure nowMs mode payload result)
    (NimbleSession.configure_quietly nimble setup session mode (.bytes payload.frame)) rfl
  refine ⟨steady, told.fitting_snoc allowed, ?_, ?_, started, advertises⟩
  · intro earlier timeMs kind other same
    have last := List.singleton_inj.mp (List.append_inj' same rfl).2
    injection last with _ sameMode samePayload succeeded
    subst sameMode samePayload
    exact ready (answered.symm.trans succeeded) payload.frame rfl
  · intro ended
    rcases List.mem_append.mp ended with early | last
    · exact absurd early allowed.1
    · cases List.mem_singleton.mp last

theorem beginning (told : BleTold setup session log) {result : EspErr}
    (allowed : (BleEvent.start result).Allowed log) (answered : result = (session.start setup nimble).1) :
    BleTold setup (session.start setup nimble).2 (log ++ [.start result]) := by
  obtain ⟨running, earlier, nowMs, payload, same, accepted⟩ := allowed
  have ready := told.ready earlier nowMs _ payload same
  refine ⟨told.steady.start nimble, ?_, ?_, ?_, ?_, ?_⟩
  · apply told.fitting_snoc
    exact ⟨running, earlier, nowMs, payload, same, accepted⟩
  · exact not_configured (fun _ _ _ same => by cases same) _
  · intro ended
    rcases List.mem_append.mp ended with early | last
    · exact absurd early running
    · cases List.mem_singleton.mp last
  · show (session.calls ++ [(GapCall.bleGapExtAdvStart _ 0 1, _)]).filterMap GapCall.started = _
    rw [List.filterMap_append, List.filterMap_append, told.started, answered]
    rfl
  · show Each _ (session.calls ++ [(GapCall.bleGapExtAdvStart _ 0 1, _)])
    refine each_snoc.mpr ⟨told.advertises.mono fun _ _ advertises => advertises.later _, ?_⟩
    intro advInstance duration maxEvents returned call
    injection call with call _
    injection call with sameInstance unlimited once
    refine ⟨unlimited.symm, once.symm, payload, ?_, told.fitting payload accepted, ?_, ?_⟩
    · rw [List.filterMap_append]
      exact List.mem_append_left _ accepted
    · rw [← sameInstance, ready.active]
    · rw [← sameInstance, ready.active]
      exact ready.set

theorem reset (distinct : setup.legacyInstance ≠ setup.extendedInstance) (told : BleTold setup session log)
    (allowed : (BleEvent.reset (session.reset setup nimble).1).Allowed log) :
    BleTold setup (session.reset setup nimble).2 (log ++ [.reset (session.reset setup nimble).1]) := by
  obtain ⟨steady, removed⟩ := told.steady.reset nimble distinct
  obtain ⟨started, advertises⟩ := told.quietly (.reset (session.reset setup nimble).1)
    (NimbleSession.reset_quietly nimble setup session) rfl
  refine ⟨steady, told.fitting_snoc allowed, not_configured (fun _ _ _ same => by cases same) _, ?_, started,
    advertises⟩
  intro ended
  rcases List.mem_append.mp ended with early | last
  · exact absurd early allowed
  · injection List.mem_singleton.mp last with succeeded
    exact removed succeeded.symm

end BleTold

/-! A poll gets from the backend what the backend answers: it calls `configure` and `start` for one payload at
most, and which one does not depend on the answers. -/

namespace BleTransport

theorem exists_selected (nowMs bound : Nat) (transport : BleTransport) :
    ∃ (lost : List ScheduledPayload) (selected : Option ScheduledPayload), ∀ answers,
      (pollPending nowMs answers bound transport).events =
        lost.map (.dropped nowMs) ++ selected.elim [] (calls nowMs answers) := by
  induction bound generalizing transport with
  | zero => exact ⟨[], none, fun _ => rfl⟩
  | succ bound ih =>
    cases found : transport.pending.items[transport.earliestPendingIndex]? with
    | none =>
      refine ⟨[], none, fun answers => ?_⟩
      unfold pollPending
      dsimp only
      rw [found]
      rfl
    | some payload =>
      by_cases outdated : payload.expired nowMs = true
      · obtain ⟨lost, selected, same⟩ := ih ((transport.erasePending transport.earliestPendingIndex).count
          payload.transport fun stats => { stats with dropped := saturatingIncrement stats.dropped })
        refine ⟨payload :: lost, selected, fun answers => ?_⟩
        unfold pollPending
        dsimp only
        rw [found]
        dsimp only
        rw [if_pos outdated, same answers]
        rfl
      · refine ⟨[], some payload, fun answers => ?_⟩
        unfold pollPending
        dsimp only
        rw [found]
        dsimp only
        rw [if_neg outdated]
        exact (send_parts payload).1

section
variable (setup : NimbleSetup) (nimble : Nimble) (session : NimbleSession)

theorem calls_answered (nowMs : Nat) {answers : BleAnswers} (payload : ScheduledPayload)
    (configured : answers.configure =
      (session.configure setup nimble (modeOf payload) (.bytes payload.frame)).1)
    (started : answers.start =
      ((session.configure setup nimble (modeOf payload) (.bytes payload.frame)).2.start setup nimble).1) :
    (bleBackend setup nimble).AnsweredLog BleEvent.exchange session (calls nowMs answers payload) := by
  unfold calls
  split_ifs
  · exact ⟨configured.symm, started.symm, trivial⟩
  · exact ⟨configured.symm, trivial⟩

theorem quiet_answered {events : List BleEvent} (quiet : ∀ event ∈ events, event.exchange = none)
    (rest : List BleEvent) :
    (bleBackend setup nimble).AnsweredLog BleEvent.exchange session (events ++ rest) ↔
      (bleBackend setup nimble).AnsweredLog BleEvent.exchange session rest := by
  unfold Service.AnsweredLog
  rw [List.filterMap_append, List.filterMap_eq_nil_iff.mpr quiet, List.nil_append]

/-- What arrives at the ring of completions during a poll. -/
structure Arrivals where
  beforeStore : List BleCompletionEvent := []
  beforeExchange : List BleCompletionEvent := []
  whileStarting : List BleCompletionEvent := []

def arrivals (answers : BleAnswers) : Arrivals where
  beforeStore := answers.beforeStore
  beforeExchange := answers.beforeExchange
  whileStarting := answers.whileStarting

theorem exists_poll_answered (transport : BleTransport) (nowMs : Nat) (given : Arrivals) :
    ∃ answers, arrivals answers = given ∧
      (bleBackend setup nimble).AnsweredLog BleEvent.exchange session (transport.poll nowMs answers).events := by
  let drained := transport.drainCompletions
    { beforeStore := given.beforeStore, beforeExchange := given.beforeExchange }
  obtain ⟨lost, selected, picked⟩ := exists_selected nowMs drained.1.pending.count drained.1
  let configured (payload : ScheduledPayload) :=
    session.configure setup nimble (modeOf payload) (.bytes payload.frame)
  let answers : BleAnswers :=
    { configure := selected.elim ESP_OK fun payload => (configured payload).1
      start := selected.elim ESP_OK fun payload => ((configured payload).2.start setup nimble).1
      beforeStore := given.beforeStore
      beforeExchange := given.beforeExchange
      whileStarting := given.whileStarting }
  have finished : ∀ event ∈ drained.2, event.exchange = none := by
    intro event member
    obtain ⟨kind, succeeded, rfl⟩ := drainCompletions_drained.finished event member
    rfl
  have expired : ∀ event ∈ lost.map (BleEvent.dropped nowMs), event.exchange = none := by
    intro event member
    obtain ⟨payload, _, rfl⟩ := List.mem_map.mp member
    rfl
  refine ⟨answers, rfl, ?_⟩
  unfold poll
  dsimp only
  split_ifs
  · trivial
  · have quiet := quiet_answered setup nimble session finished []
    rw [List.append_nil] at quiet
    exact quiet.mpr trivial
  · refine (quiet_answered setup nimble session finished _).mpr ?_
    show (bleBackend setup nimble).AnsweredLog BleEvent.exchange session
      (pollPending nowMs answers drained.1.pending.count drained.1).events
    rw [picked answers]
    refine (quiet_answered setup nimble session expired _).mpr ?_
    cases selected with
    | none => trivial
    | some payload => exact calls_answered setup nimble session nowMs payload rfl rfl

end

/-- What the callers of the transport ask of it, without the answers of the backend. -/
inductive Command where
  | submit (payload : ScheduledPayload)
  | poll (nowMs : Nat) (given : Arrivals)
  | completion (event : BleCompletionEvent)
  | shutdown

def Input.command : Input → Command
  | .submit payload => .submit payload
  | .poll nowMs answers => .poll nowMs (arrivals answers)
  | .completion event => .completion event
  | .shutdown _ => .shutdown

/-- The backend answers some run of whatever is asked of the transport. -/
theorem exists_run_answered (setup : NimbleSetup) (nimble : Nimble) (commands : List Command) :
    ∃ inputs, inputs.map Input.command = commands ∧
      (bleBackend setup nimble).AnsweredLog BleEvent.exchange {} (machine.run {} inputs).2 := by
  apply Service.exists_run_answered
  intro transport session command
  cases command with
  | submit payload =>
    refine ⟨.submit payload, rfl, ?_⟩
    exact @submit_rule transport payload
      (fun outcome => (bleBackend setup nimble).AnsweredLog BleEvent.exchange session outcome.events)
      (fun _ _ => trivial) fun _ _ _ _ _ => trivial
  | poll nowMs given =>
    obtain ⟨answers, rfl, answered⟩ := exists_poll_answered setup nimble session transport nowMs given
    exact ⟨.poll nowMs answers, rfl, answered⟩
  | completion event => exact ⟨.completion event, rfl, trivial⟩
  | shutdown =>
    refine ⟨.shutdown (session.reset setup nimble).1, rfl, ?_⟩
    show (bleBackend setup nimble).AnsweredLog BleEvent.exchange session
      (transport.shutdown (session.reset setup nimble).1).events
    unfold BleTransport.shutdown
    dsimp only
    split_ifs
    · trivial
    · exact ⟨rfl, trivial⟩
    · exact ⟨rfl, trivial⟩

end BleTransport

/-- A run of the transport on the backend, which has answered every call that the log reports. -/
structure BleRun (setup : NimbleSetup) (nimble : Nimble) where
  inputs : List BleTransport.Input
  answered : (bleBackend setup nimble).AnsweredLog BleEvent.exchange {}
    (BleTransport.machine.run {} inputs).2

namespace BleRun

variable {setup : NimbleSetup} {nimble : Nimble} (run : BleRun setup nimble)

def log : List BleEvent := (BleTransport.machine.run {} run.inputs).2

def session : NimbleSession := (bleBackend setup nimble).afterLog BleEvent.exchange {} run.log

theorem told (distinct : setup.legacyInstance ≠ setup.extendedInstance) :
    BleTold setup run.session run.log := by
  apply run.answered.track (BleTransport.run_lawful run.inputs).each (BleTold setup) (BleTold.start setup)
  · exact fun session log event told allowed unasked => told.silent allowed unasked
  · intro session log event method told allowed asked
    cases event with
    | accepted payload => cases asked
    | dropped nowMs payload => cases asked
    | finished kind succeeded => cases asked
    | configure nowMs mode payload result =>
      obtain ⟨rfl, same⟩ := Prod.mk.inj (Option.some.inj asked)
      exact told.configure nimble distinct allowed same
    | start result =>
      obtain ⟨rfl, same⟩ := Prod.mk.inj (Option.some.inj asked)
      exact told.beginning nimble allowed same
    | reset result =>
      obtain ⟨rfl, rfl⟩ := Prod.mk.inj (Option.some.inj asked)
      exact told.reset nimble distinct allowed

/-- Whatever the host returns: advertising is started only on the set of an accepted payload's mode, which the
host has with that payload as its data, and as often as the transport reports. Every buffer is handed to the
host or freed, once. After a shutdown that reports no error the host has no advertising set of the backend
left. -/
theorem advertises_accepted (setup : NimbleSetup) (distinct : setup.legacyInstance ≠ setup.extendedInstance)
    (nimble : Nimble) (run : BleRun setup nimble) :
    Each (Advertises setup run.log) run.session.calls ∧
    run.session.calls.filterMap GapCall.started = run.log.filterMap BleEvent.started ∧
    InTurn run.session.moves ∧ Settled run.session.moves ∧
    (.reset ESP_OK ∈ run.log → ∀ advInstance, run.session.host.sets advInstance = none) := by
  have told := run.told distinct
  exact ⟨told.advertises, told.started, told.steady.ledger.inTurn, told.steady.ledger.settled, told.ended⟩

/-- A host that has no buffer at first and cannot remove a set at once. -/
def reluctant : Nimble := fun calls call =>
  match call with
  | .osMsysGetPkthdr _ => if calls.length = 1 then 6 else 0
  | .bleGapExtAdvRemove _ => if calls.length = 7 then 15 else 0
  | _ => 0

/-- Two payloads, of which the first is lost for want of a buffer, and a shutdown that has to be repeated. -/
def retriedShutdown : BleRun { ownAddressType := 0 } reluctant where
  inputs := [.submit { size := 2 }, .submit { size := 3, sequence := 1 },
    .poll 0 { configure := ESP_ERR_NO_MEM }, .poll 1 {}, .shutdown 15, .shutdown ESP_OK]
  answered := by
    refine ⟨?_, ?_, ?_, ?_, ?_, trivial⟩ <;> rfl

theorem advertises_accepted_retriedShutdown :
    (.reset ESP_OK ∈ retriedShutdown.log) ∧ ∀ advInstance, retriedShutdown.session.host.sets advInstance = none :=
  have ended : .reset ESP_OK ∈ retriedShutdown.log := by decide +kernel
  ⟨ended, (advertises_accepted _ (by decide) _ retriedShutdown).2.2.2.2 ended⟩

end BleRun

end RidFirmware
