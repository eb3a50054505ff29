import RidFirmware.Radio.RadioCoordinator

/-! The Wi-Fi service over whole runs: every accepted payload is sent once, dropped or still
waiting, and a payload is handed to the radio on the channel of its band only. -/

namespace RidFirmware
open Lib

namespace WifiEvent

def entered : WifiEvent → Option ScheduledPayload
  | .accepted payload => some payload
  | _ => none

def sent : WifiEvent → Option ScheduledPayload
  | .transmit _ payload result => if result = ESP_OK then some payload else none
  | _ => none

def outdated : WifiEvent → Option ScheduledPayload
  | .dropped _ payload => some payload
  | _ => none

def failed : WifiEvent → Bool
  | .setCountryCn result => result ≠ ESP_OK
  | .setChannel _ result => result ≠ ESP_OK
  | .transmit _ _ result => result ≠ ESP_OK
  | _ => false

end WifiEvent

def onBand (read : WifiEvent → Option ScheduledPayload) (band : Band) (log : List WifiEvent) :
    List ScheduledPayload :=
  (log.filterMap read).filter fun payload => payload.transport = band.transport

@[simp] theorem onBand_append (read : WifiEvent → Option ScheduledPayload) (band : Band)
    (log events : List WifiEvent) : onBand read band (log ++ events) =
      onBand read band log ++ onBand read band events := by
  unfold onBand
  rw [List.filterMap_append, List.filter_append]

/-- The channel of the last successful `set_channel`, 0 before the first. -/
def lastChannel (log : List WifiEvent) : UInt8 :=
  log.foldl (fun channel event => match event with
    | .setChannel requested result => if result = ESP_OK then requested else channel
    | _ => channel) 0

theorem lastChannel_snoc (log : List WifiEvent) (event : WifiEvent) :
    lastChannel (log ++ [event]) = match event with
      | .setChannel requested result => if result = ESP_OK then requested else lastChannel log
      | _ => lastChannel log := by
  unfold lastChannel
  rw [List.foldl_append]
  cases event <;> rfl

/-- A payload goes to the radio only in the set-up domain and on the channel of its band. -/
def RightBand (log : List WifiEvent) : Prop :=
  ∀ before nowMs payload result after, log = before ++ .transmit nowMs payload result :: after →
    .setCountryCn ESP_OK ∈ before ∧ ∃ band : Band, payload.transport = band.transport ∧
      lastChannel before = RadioCoordinator.bandChannel band

theorem rightBand_nil : RightBand [] := by
  intro before nowMs payload result after split
  cases before <;> cases split

theorem rightBand_snoc {log : List WifiEvent} {event : WifiEvent} (right : RightBand log)
    (last : ∀ nowMs payload result, event = .transmit nowMs payload result →
      .setCountryCn ESP_OK ∈ log ∧ ∃ band : Band, payload.transport = band.transport ∧
        lastChannel log = RadioCoordinator.bandChannel band) : RightBand (log ++ [event]) := by
  intro before nowMs payload result after split
  rcases List.append_eq_append_iff.mp split with ⟨rest, rfl, tail⟩ | ⟨rest, rfl, tail⟩
  · cases rest with
    | nil =>
      rw [List.append_nil]
      cases tail
      exact last nowMs payload result rfl
    | cons head rest =>
      have := congrArg List.length tail
      simp at this
  · cases rest with
    | nil =>
      rw [List.append_nil] at *
      cases tail
      exact last nowMs payload result rfl
    | cons head rest =>
      cases tail
      exact right before nowMs payload result rest rfl

namespace RadioCoordinator
open WifiEvent

/-- The books of one band: what entered has been sent, has been dropped or is held, and the
counters count just that. -/
structure Balanced (band : Band) (held : List ScheduledPayload) (stats : TransportStats)
    (log : List WifiEvent) : Prop where
  transport : ∀ payload ∈ held, payload.transport = band.transport
  conserved : (onBand entered band log).Perm
    (onBand sent band log ++ (onBand outdated band log ++ held))
  expected : stats.expected = saturated (onBand entered band log).length
  submitted : stats.submitted = saturated (onBand sent band log).length
  dropped : stats.dropped = saturated (onBand outdated band log).length

/-- What relates the state of the coordinator to the log of its run. -/
structure Consistent (coordinator : RadioCoordinator) (log : List WifiEvent) : Prop where
  configured : coordinator.configured = true → .setCountryCn ESP_OK ∈ log
  channel : coordinator.currentChannel = lastChannel log
  tuned : coordinator.currentChannel ≠ 0 → coordinator.configured = true ∧
    coordinator.currentChannel = bandChannel coordinator.activeBand
  balanced : ∀ band, Balanced band (coordinator.pending band).items (coordinator.stats band) log
  rightBand : RightBand log

section
variable {band : Band} {held : List ScheduledPayload} {stats next : TransportStats}
  {log : List WifiEvent} {payload : ScheduledPayload}

theorem Balanced.frame (books : Balanced band held stats log) {event : WifiEvent}
    (entry : onBand entered band [event] = []) (sending : onBand sent band [event] = [])
    (dropping : onBand outdated band [event] = []) (expected : next.expected = stats.expected)
    (submitted : next.submitted = stats.submitted) (dropped : next.dropped = stats.dropped) :
    Balanced band held next (log ++ [event]) where
  transport := books.transport
  conserved := by
    simp only [onBand_append, entry, sending, dropping, List.append_nil]
    exact books.conserved
  expected := by rw [expected, books.expected, onBand_append, entry, List.append_nil]
  submitted := by rw [submitted, books.submitted, onBand_append, sending, List.append_nil]
  dropped := by rw [dropped, books.dropped, onBand_append, dropping, List.append_nil]

theorem Balanced.enter (books : Balanced band held stats log)
    (transport : payload.transport = band.transport) :
    Balanced band (held ++ [payload])
      { stats with expected := saturatingIncrement stats.expected } (log ++ [.accepted payload]) := by
  have entry : onBand entered band [.accepted payload] = [payload] := by
    simp [onBand, entered, transport]
  have sending : onBand sent band [.accepted payload] = [] := rfl
  have dropping : onBand outdated band [.accepted payload] = [] := rfl
  constructor
  · intro item member
    rcases List.mem_append.mp member with old | new
    · exact books.transport item old
    · rwa [List.mem_singleton.mp new]
  · simp only [onBand_append, entry, sending, dropping, List.append_nil]
    rw [← List.append_assoc, ← List.append_assoc]
    apply List.Perm.append_right
    rw [List.append_assoc]
    exact books.conserved
  · simp only [onBand_append, entry, List.length_append, List.length_singleton, books.expected,
      saturatingIncrement_saturated]
  · simp only [onBand_append, sending, List.append_nil, books.submitted]
  · simp only [onBand_append, dropping, List.append_nil, books.dropped]

theorem Balanced.send (books : Balanced band held stats log) {index nowMs late : Nat}
    (found : held[index]? = some payload) :
    Balanced band (held.eraseIdx index)
      { stats with submitted := saturatingIncrement stats.submitted, late }
      (log ++ [.transmit nowMs payload ESP_OK]) := by
  have member := List.mem_of_getElem? found
  have entry : onBand entered band [.transmit nowMs payload ESP_OK] = [] := rfl
  have sending : onBand sent band [.transmit nowMs payload ESP_OK] = [payload] := by
    simp [onBand, sent, books.transport payload member]
  have dropping : onBand outdated band [.transmit nowMs payload ESP_OK] = [] := rfl
  constructor
  · exact fun item within => books.transport item (List.mem_of_mem_eraseIdx within)
  · simp only [onBand_append, entry, sending, dropping, List.append_nil, List.append_assoc]
    refine books.conserved.trans (List.Perm.append_left _ ?_)
    exact ((perm_cons_eraseIdx found).append_left _).trans List.perm_middle
  · simp only [onBand_append, entry, List.append_nil, books.expected]
  · simp only [onBand_append, sending, List.length_append, List.length_singleton, books.submitted,
      saturatingIncrement_saturated]
  · simp only [onBand_append, dropping, List.append_nil, books.dropped]

theorem Balanced.drop (books : Balanced band held stats log) {index nowMs : Nat}
    (found : held[index]? = some payload) :
    Balanced band (held.eraseIdx index)
      { stats with dropped := saturatingIncrement stats.dropped }
      (log ++ [.dropped nowMs payload]) := by
  have member := List.mem_of_getElem? found
  have entry : onBand entered band [.dropped nowMs payload] = [] := rfl
  have sending : onBand sent band [.dropped nowMs payload] = [] := rfl
  have dropping : onBand outdated band [.dropped nowMs payload] = [payload] := by
    simp [onBand, outdated, books.transport payload member]
  constructor
  · exact fun item within => books.transport item (List.mem_of_mem_eraseIdx within)
  · simp only [onBand_append, entry, sending, dropping, List.append_nil, List.append_assoc]
    refine books.conserved.trans (List.Perm.append_left _ (List.Perm.append_left _ ?_))
    exact perm_cons_eraseIdx found
  · simp only [onBand_append, entry, List.append_nil, books.expected]
  · simp only [onBand_append, sending, List.append_nil, books.submitted]
  · simp only [onBand_append, dropping, List.length_append, List.length_singleton, books.dropped,
      saturatingIncrement_saturated]

theorem Balanced.elsewhere (books : Balanced band held stats log) {event : WifiEvent}
    (other : ∀ item, event.entered = some item ∨ event.sent = some item ∨
      event.outdated = some item → item.transport ≠ band.transport) :
    Balanced band held stats (log ++ [event]) := by
  have nothing (read : WifiEvent → Option ScheduledPayload)
      (concerns : ∀ item, read event = some item → item.transport ≠ band.transport) :
      onBand read band [event] = [] := by
    unfold onBand
    cases found : read event with
    | none => simp [found]
    | some item => simp [found, concerns item found]
  apply books.frame
  · exact nothing entered fun item found => other item (.inl found)
  · exact nothing sent fun item found => other item (.inr (.inl found))
  · exact nothing outdated fun item found => other item (.inr (.inr found))
  all_goals rfl

end

section
variable {coordinator : RadioCoordinator} {log : List WifiEvent}

theorem transport_inj {left right : Band} : left.transport = right.transport ↔ left = right := by
  cases left <;> cases right <;> decide

theorem bandChannel_ne_zero (band : Band) : bandChannel band ≠ 0 := by cases band <;> decide

theorem Consistent.update (consistent : Consistent coordinator log) (band : Band)
    {queue : BoundedQueue ScheduledPayload 16} {stats : TransportStats} {event : WifiEvent}
    (here : Balanced band queue.items stats (log ++ [event]))
    (concerns : ∀ item, event.entered = some item ∨ event.sent = some item ∨
      event.outdated = some item → item.transport = band.transport) (other : Band) :
    Balanced other (Function.update coordinator.pending band queue other).items
      (Function.update coordinator.stats band stats other) (log ++ [event]) := by
  by_cases same : other = band
  · subst same
    rw [Function.update_self, Function.update_self]
    exact here
  · rw [Function.update_of_ne same, Function.update_of_ne same]
    apply (consistent.balanced other).elsewhere
    intro item read transport
    exact same (transport_inj.mp (transport.symm.trans (concerns item read)))

theorem Consistent.snoc (consistent : Consistent coordinator log) {next : RadioCoordinator}
    {event : WifiEvent} (configured : next.configured = coordinator.configured)
    (channel : next.currentChannel = coordinator.currentChannel)
    (active : next.activeBand = coordinator.activeBand)
    (quiet : lastChannel (log ++ [event]) = lastChannel log)
    (balanced : ∀ band, Balanced band (next.pending band).items (next.stats band) (log ++ [event]))
    (rightBand : RightBand (log ++ [event])) : Consistent next (log ++ [event]) where
  configured := fun set => List.mem_append_left _ (consistent.configured (configured ▸ set))
  channel := by rw [channel, quiet, consistent.channel]
  tuned := by
    rw [configured, channel, active]
    exact consistent.tuned
  balanced := balanced
  rightBand := rightBand

theorem Consistent.count_radioErrors (consistent : Consistent coordinator log) (band : Band)
    {event : WifiEvent} (entry : ∀ other, onBand entered other [event] = [])
    (sending : ∀ other, onBand sent other [event] = [])
    (dropping : ∀ other, onBand outdated other [event] = []) (other : Band) :
    Balanced other (coordinator.pending other).items
      ((coordinator.count band fun stats =>
        { stats with radioErrors := saturatingIncrement stats.radioErrors }).stats other)
      (log ++ [event]) := by
  by_cases same : other = band
  · subst same
    apply (consistent.balanced other).frame (entry other) (sending other) (dropping other)
    all_goals simp only [count, Function.update_self]
  · apply (consistent.balanced other).frame (entry other) (sending other) (dropping other)
    all_goals simp only [count, Function.update_of_ne same]

theorem submit_consistent (consistent : Consistent coordinator log) (payload : ScheduledPayload) :
    Consistent (coordinator.submit payload).next (log ++ (coordinator.submit payload).events) := by
  unfold submit
  split_ifs with foreign wrongSize
  · rwa [List.append_nil]
  · rwa [List.append_nil]
  · have transport : payload.transport = (bandIndex payload.transport).transport := by
      rw [not_and_or, not_not, not_not] at foreign
      rcases foreign with low | high
      · rw [low]; rfl
      · rw [high]; rfl
    dsimp only
    generalize bandIndex payload.transport = band at *
    cases pushed : (coordinator.pending band).push payload with
    | none => simpa only [List.append_nil] using consistent
    | some queue =>
      have here := (consistent.balanced band).enter transport
      rw [← BoundedQueue.push_eq_some pushed] at here
      apply consistent.snoc (by rfl) (by rfl) (by rfl) (by rw [lastChannel_snoc])
      · apply consistent.update band here
        intro item read
        simp only [entered, sent, outdated, Option.some.injEq, reduceCtorEq, or_false] at read
        rw [← read, transport]
      · exact rightBand_snoc consistent.rightBand nofun

theorem configure_consistent (consistent : Consistent coordinator log) (answers : WifiAnswers) :
    Consistent (coordinator.configure answers).next
      (log ++ (coordinator.configure answers).events) := by
  have balanced (result : EspErr) (band : Band) : Balanced band (coordinator.pending band).items
      (coordinator.stats band) (log ++ [.setCountryCn result]) :=
    (consistent.balanced band).frame rfl rfl rfl rfl rfl rfl
  unfold configure
  dsimp only
  split_ifs with already failed
  · rwa [List.append_nil]
  · exact consistent.snoc (by rfl) (by rfl) (by rfl) (by rw [lastChannel_snoc]) (balanced _)
      (rightBand_snoc consistent.rightBand nofun)
  · rw [not_not] at failed
    exact {
      configured := fun _ => by rw [failed]; exact List.mem_append_right _ List.mem_cons_self
      channel := by rw [lastChannel_snoc]; exact consistent.channel
      tuned := fun tuned => ⟨rfl, (consistent.tuned tuned).2⟩
      balanced := balanced _
      rightBand := rightBand_snoc consistent.rightBand nofun }

theorem selectBand_consistent (consistent : Consistent coordinator log)
    (configured : coordinator.configured = true) (band : Band) (nowMs : Nat) (answers : WifiAnswers) :
    Consistent (coordinator.selectBand band nowMs answers).next
      (log ++ (coordinator.selectBand band nowMs answers).events) := by
  unfold selectBand
  dsimp only
  split_ifs with held failed
  · rwa [List.append_nil]
  · apply consistent.snoc (by rfl) (by rfl) (by rfl)
    · rw [lastChannel_snoc]
      exact if_neg failed
    · exact consistent.count_radioErrors band (fun _ => rfl) (fun _ => rfl) fun _ => rfl
    · exact rightBand_snoc consistent.rightBand nofun
  · rw [not_not] at failed
    exact {
      configured := fun set => List.mem_append_left _ (consistent.configured set)
      channel := by rw [lastChannel_snoc]; dsimp only; rw [if_pos failed]
      tuned := fun _ => ⟨configured, rfl⟩
      balanced := fun other => (consistent.balanced other).frame rfl rfl rfl rfl rfl rfl
      rightBand := rightBand_snoc consistent.rightBand nofun }

theorem tune_consistent (consistent : Consistent coordinator log)
    (configured : coordinator.configured = true) (nowMs : Nat) (answers : WifiAnswers) :
    Consistent (coordinator.tune nowMs answers).next
      (log ++ (coordinator.tune nowMs answers).events) := by
  unfold tune
  cases coordinator.switchTarget nowMs with
  | none => simpa only [List.append_nil] using consistent
  | some band => exact selectBand_consistent consistent configured band nowMs answers

theorem serve_consistent (consistent : Consistent coordinator log)
    (tuned : coordinator.currentChannel ≠ 0) (nowMs : Nat) (answers : WifiAnswers) :
    Consistent (coordinator.serve nowMs answers).next
      (log ++ (coordinator.serve nowMs answers).events) := by
  obtain ⟨configured, channel⟩ := consistent.tuned tuned
  unfold serve
  dsimp only
  generalize coordinator.earliestIndex coordinator.activeBand = selected
  cases found : (coordinator.pending coordinator.activeBand).items[selected]? with
  | none => simpa only [List.append_nil] using consistent
  | some payload =>
    have books := consistent.balanced coordinator.activeBand
    have transport := books.transport payload (List.mem_of_getElem? found)
    have right (result : EspErr) : RightBand (log ++ [.transmit nowMs payload result]) := by
      apply rightBand_snoc consistent.rightBand
      intro _ _ _ same
      cases same
      exact ⟨consistent.configured configured, _, transport, consistent.channel ▸ channel⟩
    dsimp only
    by_cases outdated : payload.expired nowMs = true
    · rw [if_pos outdated]
      apply consistent.snoc (by rfl) (by rfl) (by rfl) (by rw [lastChannel_snoc])
      · apply consistent.update _ (books.drop found)
        intro item read
        simp only [entered, sent, WifiEvent.outdated, Option.some.injEq, reduceCtorEq, false_or] at read
        rw [← read, transport]
      · exact rightBand_snoc consistent.rightBand nofun
    rw [if_neg outdated]
    by_cases failed : answers.transmit ≠ ESP_OK
    · rw [if_pos failed]
      have sending (other : Band) :
          onBand sent other [.transmit nowMs payload answers.transmit] = [] := by
        simp [onBand, sent, failed]
      exact consistent.snoc (by rfl) (by rfl) (by rfl) (by rw [lastChannel_snoc])
        (consistent.count_radioErrors _ (fun _ => rfl) sending fun _ => rfl) (right _)
    · rw [if_neg failed]
      rw [not_not] at failed
      rw [failed]
      apply consistent.snoc (by rfl) (by rfl) (by rfl) (by rw [lastChannel_snoc])
      · apply consistent.update _ (books.send found)
        intro item read
        simp only [entered, sent, WifiEvent.outdated, if_true, Option.some.injEq, reduceCtorEq,
          false_or, or_false] at read
        rw [← read, transport]
      · exact right _

end

section
variable (coordinator : RadioCoordinator) (nowMs : Nat) (answers : WifiAnswers)

/-- The ways through `poll`. -/
theorem poll_rule {goal : Outcome → Prop}
    (idle : coordinator.pendingCount .band0 = 0 → coordinator.pendingCount .band1 = 0 →
      goal { result := ESP_OK, next := coordinator })
    (unset : (coordinator.configure answers).result ≠ ESP_OK → goal (coordinator.configure answers))
    (untuned : ∀ configured tuned, configured = coordinator.configure answers →
      configured.result = ESP_OK → tuned = configured.next.tune nowMs answers →
      tuned.result ≠ ESP_OK → goal {
        result := if tuned.result = ESP_ERR_INVALID_STATE then ESP_OK else tuned.result
        next := tuned.next, events := configured.events ++ tuned.events })
    (served : ∀ configured tuned, configured = coordinator.configure answers →
      configured.result = ESP_OK → tuned = configured.next.tune nowMs answers →
      tuned.result = ESP_OK → goal {
        tuned.next.serve nowMs answers with
        events := configured.events ++ tuned.events ++ (tuned.next.serve nowMs answers).events }) :
    goal (coordinator.poll nowMs answers) := by
  unfold poll
  dsimp only
  by_cases empty : coordinator.pendingCount .band0 = 0 ∧ coordinator.pendingCount .band1 = 0
  · rw [if_pos empty]
    exact idle empty.1 empty.2
  rw [if_neg empty]
  by_cases domain : (coordinator.configure answers).result ≠ ESP_OK
  · rw [if_pos domain]
    exact unset domain
  rw [if_neg domain]
  rw [not_not] at domain
  have stop := untuned _ _ rfl domain rfl
  by_cases held : ((coordinator.configure answers).next.tune nowMs answers).result =
      ESP_ERR_INVALID_STATE
  · rw [if_pos held]
    rw [held, if_pos rfl] at stop
    exact stop (by decide)
  rw [if_neg held]
  by_cases failed : ((coordinator.configure answers).next.tune nowMs answers).result ≠ ESP_OK
  · rw [if_pos failed]
    rw [if_neg held] at stop
    exact stop failed
  · rw [if_neg failed]
    exact served _ _ rfl domain rfl (not_not.mp failed)

@[simp] theorem configure_pending :
    (coordinator.configure answers).next.pending = coordinator.pending := by
  unfold configure
  dsimp only
  split_ifs <;> rfl

@[simp] theorem selectBand_pending (band : Band) :
    (coordinator.selectBand band nowMs answers).next.pending = coordinator.pending := by
  unfold selectBand
  dsimp only
  split_ifs <;> rfl

@[simp] theorem tune_pending : (coordinator.tune nowMs answers).next.pending = coordinator.pending := by
  unfold tune
  cases coordinator.switchTarget nowMs with
  | none => rfl
  | some band => exact selectBand_pending coordinator nowMs answers band

variable {coordinator nowMs answers}

theorem configure_ok (succeeded : (coordinator.configure answers).result = ESP_OK) :
    (coordinator.configure answers).next.configured = true := by
  unfold configure at *
  dsimp only at *
  split_ifs at * with already failed
  · exact already
  · exact absurd succeeded failed
  · rfl

theorem selectBand_ok {band : Band}
    (succeeded : (coordinator.selectBand band nowMs answers).result = ESP_OK) :
    (coordinator.selectBand band nowMs answers).next.currentChannel = bandChannel band := by
  unfold selectBand at *
  dsimp only at *
  split_ifs at * with held failed
  · cases succeeded
  · exact absurd succeeded failed
  · rfl

theorem tune_ok (succeeded : (coordinator.tune nowMs answers).result = ESP_OK) :
    (coordinator.tune nowMs answers).next.currentChannel ≠ 0 := by
  unfold tune at *
  cases target : coordinator.switchTarget nowMs with
  | none =>
    intro silent
    replace silent : coordinator.currentChannel = 0 := silent
    simp [switchTarget, silent] at target
  | some band =>
    simp only [target] at succeeded ⊢
    rw [selectBand_ok succeeded]
    exact bandChannel_ne_zero band

theorem poll_consistent {log : List WifiEvent} (consistent : Consistent coordinator log) :
    Consistent (coordinator.poll nowMs answers).next
      (log ++ (coordinator.poll nowMs answers).events) := by
  have first := configure_consistent consistent answers
  apply @poll_rule coordinator nowMs answers
    (fun outcome => Consistent outcome.next (log ++ outcome.events))
  · intro _ _
    rwa [List.append_nil]
  · exact fun _ => first
  · intro configured tuned same domain equal _
    obtain rfl := same
    obtain rfl := equal
    rw [← List.append_assoc]
    exact tune_consistent first (configure_ok domain) nowMs answers
  · intro configured tuned same domain equal succeeded
    obtain rfl := same
    obtain rfl := equal
    rw [← List.append_assoc, ← List.append_assoc]
    have second := tune_consistent first (configure_ok domain) nowMs answers
    exact serve_consistent second (tune_ok succeeded) nowMs answers

theorem configure_events {event : WifiEvent} (found : event ∈ (coordinator.configure answers).events) :
    event = .setCountryCn (coordinator.configure answers).result := by
  unfold configure at *
  dsimp only at *
  split_ifs at * with already failed
  · cases found
  · exact List.mem_singleton.mp found
  · exact List.mem_singleton.mp found

theorem tune_events {event : WifiEvent} (found : event ∈ (coordinator.tune nowMs answers).events) :
    ∃ band, coordinator.switchTarget nowMs = some band ∧
      event = .setChannel (bandChannel band) (coordinator.tune nowMs answers).result := by
  unfold tune at *
  cases target : coordinator.switchTarget nowMs with
  | none => simp [target] at found
  | some band =>
    refine ⟨band, rfl, ?_⟩
    simp only [target, selectBand] at found ⊢
    split_ifs at * with held failed
    · cases found
    · exact List.mem_singleton.mp found
    · exact List.mem_singleton.mp found

end

section
variable {coordinator : RadioCoordinator} {nowMs : Nat} {answers : WifiAnswers}

theorem serve_transmit {at' : Nat} {payload : ScheduledPayload} {result : EspErr}
    (handed : .transmit at' payload result ∈ (coordinator.serve nowMs answers).events) :
    payload ∈ (coordinator.pending coordinator.activeBand).items ∧ payload.expired nowMs = false ∧
      ∀ waiting ∈ (coordinator.pending coordinator.activeBand).items, payload.key ≤ waiting.key := by
  unfold serve at handed
  dsimp only at handed
  cases found : (coordinator.pending coordinator.activeBand).items[
      coordinator.earliestIndex coordinator.activeBand]? with
  | none => simp [found] at handed
  | some selected =>
    have member := List.mem_of_getElem? found
    obtain ⟨first, index, least⟩ := earliestIndex_spec ScheduledPayload.earlier_iff
      (List.ne_nil_of_mem member)
    rw [earliestIndex, index, Option.some.injEq] at found
    subst found
    simp only [earliestIndex, index] at handed
    by_cases outdated : first.expired nowMs = true
    · rw [if_pos outdated, List.mem_singleton] at handed
      cases handed
    rw [if_neg outdated] at handed
    have same : payload = first := by
      split_ifs at handed with failed
      all_goals
        cases List.mem_singleton.mp handed
        rfl
    subst same
    exact ⟨member, Bool.eq_false_iff.mpr outdated, least⟩

theorem serve_failed {event : WifiEvent} (found : event ∈ (coordinator.serve nowMs answers).events)
    (failed : event.failed = true) :
    (coordinator.serve nowMs answers).next.pending = coordinator.pending := by
  unfold serve at *
  dsimp only at *
  cases selected : (coordinator.pending coordinator.activeBand).items[
      coordinator.earliestIndex coordinator.activeBand]? with
  | none => rfl
  | some payload =>
    simp only [selected] at found ⊢
    by_cases outdated : payload.expired nowMs = true
    · rw [if_pos outdated, List.mem_singleton] at found
      subst found
      cases failed
    rw [if_neg outdated] at found ⊢
    by_cases refused : answers.transmit ≠ ESP_OK
    · rw [if_pos refused]
      rfl
    · rw [if_neg refused, List.mem_singleton] at found
      subst found
      exact absurd (of_decide_eq_true failed) refused

end

/-- One poll against the payloads that wait when it begins. -/
structure PollSafe (waiting : Band → List ScheduledPayload) (nowMs : Nat) (outcome : Outcome) :
    Prop where
  earliest : ∀ at' payload result, .transmit at' payload result ∈ outcome.events →
    ∃ band : Band, payload.transport = band.transport ∧ payload ∈ waiting band ∧
      payload.expired nowMs = false ∧ ∀ other ∈ waiting band, payload.key ≤ other.key
  kept : (∃ event ∈ outcome.events, event.failed = true) →
    ∀ band, (outcome.next.pending band).items = waiting band

theorem poll_safe {coordinator : RadioCoordinator} {log : List WifiEvent}
    (consistent : Consistent coordinator log) (nowMs : Nat) (answers : WifiAnswers) :
    PollSafe (fun band => (coordinator.pending band).items) nowMs
      (coordinator.poll nowMs answers) := by
  apply @poll_rule coordinator nowMs answers
    (PollSafe (fun band => (coordinator.pending band).items) nowMs)
  · intro _ _
    exact ⟨nofun, fun _ _ => rfl⟩
  · intro _
    refine ⟨fun _ _ _ handed => ?_, fun _ band => by rw [configure_pending]⟩
    have other := configure_events handed
    cases other
  · intro configured tuned same domain equal _
    obtain rfl := same
    obtain rfl := equal
    refine ⟨fun _ _ _ handed => ?_, fun _ band => by rw [tune_pending, configure_pending]⟩
    rcases List.mem_append.mp handed with handed | handed
    · have other := configure_events handed
      cases other
    · obtain ⟨_, _, other⟩ := tune_events handed
      cases other
  · intro configured tuned same domain equal succeeded
    obtain rfl := same
    obtain rfl := equal
    have first := configure_consistent consistent answers
    have second := tune_consistent first (configure_ok domain) nowMs answers
    have queues : ((coordinator.configure answers).next.tune nowMs answers).next.pending =
        coordinator.pending := by rw [tune_pending, configure_pending]
    refine ⟨fun at' payload result handed => ?_, ?_⟩
    · rcases List.mem_append.mp handed with handed | handed
      · rcases List.mem_append.mp handed with handed | handed
        · have other := configure_events handed
          cases other
        · obtain ⟨_, _, other⟩ := tune_events handed
          cases other
      · have selected := serve_transmit handed
        rw [queues] at selected
        have books := second.balanced
          ((coordinator.configure answers).next.tune nowMs answers).next.activeBand
        rw [queues] at books
        exact ⟨_, books.transport payload selected.1, selected⟩
    · intro parts band
      obtain ⟨event, found, failed⟩ := parts
      rcases List.mem_append.mp found with early | late
      · rcases List.mem_append.mp early with early | early
        · rw [configure_events early] at failed
          exact absurd domain (of_decide_eq_true failed)
        · obtain ⟨_, _, same⟩ := tune_events early
          rw [same] at failed
          exact absurd succeeded (of_decide_eq_true failed)
      · exact congrArg BoundedQueue.items (congrFun ((serve_failed late failed).trans queues) band)

/-- What holds of every run of `submit` and `poll` calls. -/
structure WifiSafe (start : RadioCoordinator) (inputs : List Input) : Prop where
  rightBand : RightBand (machine.run start inputs).2
  pollSafe : ∀ before nowMs answers, before ++ [.poll nowMs answers] <+: inputs →
    PollSafe (fun band => ((machine.run start before).1.pending band).items) nowMs
      ((machine.run start before).1.poll nowMs answers)
  conserved : ∀ band, (onBand entered band (machine.run start inputs).2).Perm
    (onBand sent band (machine.run start inputs).2 ++
      (onBand outdated band (machine.run start inputs).2 ++
        ((machine.run start inputs).1.pending band).items))
  once : ∀ payload, ((machine.run start inputs).2.filterMap sent).count payload ≤
    ((machine.run start inputs).2.filterMap entered).count payload
  accounted : ∀ band, ((machine.run start inputs).1.stats band).expected < kCounterMax →
    ((machine.run start inputs).1.stats band).expected =
      ((machine.run start inputs).1.stats band).submitted +
        ((machine.run start inputs).1.stats band).dropped +
        (machine.run start inputs).1.pendingCount band

theorem consistent_start (dwellMs retryMs : Nat) :
    Consistent { dwellMs := dwellMs, retryMs := retryMs } [] where
  configured := nofun
  channel := rfl
  tuned := fun tuned => absurd rfl tuned
  balanced := fun band => by
    constructor
    · intro payload member
      cases member
    all_goals rfl
  rightBand := rightBand_nil

theorem run_consistent (dwellMs retryMs : Nat) (inputs : List Input) :
    Consistent (machine.run { dwellMs := dwellMs, retryMs := retryMs } inputs).1
      (machine.run { dwellMs := dwellMs, retryMs := retryMs } inputs).2 := by
  apply machine.run_invariant Consistent
  · intro coordinator log input consistent
    cases input with
    | submit payload => exact submit_consistent consistent payload
    | poll nowMs answers => exact poll_consistent consistent
  · exact consistent_start dwellMs retryMs

theorem sent_once {coordinator : RadioCoordinator} {log : List WifiEvent}
    (consistent : Consistent coordinator log) (payload : ScheduledPayload) :
    (log.filterMap sent).count payload ≤ (log.filterMap entered).count payload := by
  by_cases found : payload ∈ log.filterMap sent
  · obtain ⟨event, member, read⟩ := List.mem_filterMap.mp found
    obtain ⟨before, after, rfl⟩ := List.append_of_mem member
    obtain ⟨nowMs, result, rfl⟩ : ∃ nowMs result, event = .transmit nowMs payload result := by
      cases event with
      | transmit nowMs other result =>
        simp only [sent, Option.ite_none_right_eq_some, Option.some.injEq] at read
        exact ⟨nowMs, result, by rw [read.2]⟩
      | _ => cases read
    obtain ⟨_, band, transport, _⟩ := consistent.rightBand before nowMs payload result after rfl
    have conserved := (consistent.balanced band).conserved.count_eq payload
    rw [List.count_append] at conserved
    have whole (payloads : List ScheduledPayload) :
        (payloads.filter fun other => other.transport = band.transport).count payload =
          payloads.count payload := List.count_filter (decide_eq_true transport)
    rw [onBand, onBand, whole, whole] at conserved
    omega
  · rw [List.count_eq_zero.mpr found]
    exact Nat.zero_le _

theorem Consistent.accounted {coordinator : RadioCoordinator} {log : List WifiEvent}
    (consistent : Consistent coordinator log) (band : Band)
    (unsaturated : (coordinator.stats band).expected < kCounterMax) :
    (coordinator.stats band).expected = (coordinator.stats band).submitted +
      (coordinator.stats band).dropped + coordinator.pendingCount band := by
  have books := consistent.balanced band
  have total := books.conserved.length_eq
  rw [List.length_append, List.length_append] at total
  rw [books.expected] at unsaturated
  rw [books.expected, books.submitted, books.dropped, pendingCount, BoundedQueue.count]
  unfold saturated at *
  omega

/-- Right band, no loss and no duplication on Wi-Fi. -/
theorem wifi_safe (dwellMs retryMs : Nat) (inputs : List Input) :
    WifiSafe { dwellMs := dwellMs, retryMs := retryMs } inputs := by
  have consistent := run_consistent dwellMs retryMs inputs
  constructor
  · exact consistent.rightBand
  · intro before nowMs answers _
    exact poll_safe (run_consistent dwellMs retryMs before) nowMs answers
  · exact fun band => (consistent.balanced band).conserved
  · exact sent_once consistent
  · exact consistent.accounted

end RadioCoordinator

end RidFirmware
