import RidFirmware.Lib.Service
import RidFirmware.Radio.WifiOwnership
import RidFirmware.Radio.WifiService

/-! The coordinator on its real backend: what the Wi-Fi driver has been told whenever a frame is handed to
it. The log of the coordinator reports its calls of the backend, and the backend answers them by calls of
the IDF. -/

namespace RidFirmware
open Lib

/-- What the driver has been told by the calls that succeeded. -/
structure WifiDriver where
  started : Bool := false
  country : Option WifiCountry := none
  bandModeAuto : Bool := false
  maxTxPower : Option Int := none
  channel : UInt8 := 0

namespace WifiDriver

/-- A driver that is initialised, stopped or released forgets what it was told. -/
def told (driver : WifiDriver) (entry : IdfCall × EspErr) : WifiDriver :=
  match entry.1 with
  | .espWifiInit => {}
  | .espWifiStop => {}
  | .espWifiDeinit => {}
  | .espWifiStart => if entry.2 = ESP_OK then { driver with started := true } else driver
  | .espWifiSetCountry country =>
      if entry.2 = ESP_OK then { driver with country := some country } else driver
  | .espWifiSetBandModeAuto => if entry.2 = ESP_OK then { driver with bandModeAuto := true } else driver
  | .espWifiSetMaxTxPower power =>
      if entry.2 = ESP_OK then { driver with maxTxPower := some power } else driver
  | .espWifiSetChannel primary => if entry.2 = ESP_OK then { driver with channel := primary } else driver
  | _ => driver

def after (calls : List (IdfCall × EspErr)) : WifiDriver := calls.foldl told {}

/-- Started, in the domain and with the limits that `set_country_cn` is there for. -/
structure Regulated (driver : WifiDriver) : Prop where
  started : driver.started = true
  country : driver.country = some {}
  bandModeAuto : driver.bandModeAuto = true
  maxTxPower : driver.maxTxPower = some 8

theorem after_snoc (calls : List (IdfCall × EspErr)) (entry : IdfCall × EspErr) :
    after (calls ++ [entry]) = (after calls).told entry := by
  unfold after
  rw [List.foldl_append]
  rfl

end WifiDriver

/-- The frame of a call that hands one to the driver, with what the call returned. -/
def IdfCall.radiated : IdfCall × EspErr → Option (Bytes × EspErr)
  | (.espWifi80211Tx frame, result) => some (frame, result)
  | _ => none

/-- The last part of `set_country_cn`. -/
def regulation (country : WifiCountry) : List IdfCall :=
  [.espWifiSetCountry country, .espWifiSetBandModeAuto, .espWifiSetMaxTxPower 8]

namespace WifiSession

variable (idf : Idf) {session : WifiSession}

def driver (session : WifiSession) : WifiDriver := WifiDriver.after session.calls

@[simp] theorem driver_call (call : IdfCall) :
    (session.call idf call).driver = session.driver.told (call, session.answer idf call) :=
  WifiDriver.after_snoc session.calls _

theorem driver_callAll {calls : List IdfCall} (succeeded : (session.callAll idf calls).1 = ESP_OK) :
    (session.callAll idf calls).2.driver =
      calls.foldl (fun driver call => driver.told (call, ESP_OK)) session.driver := by
  induction calls generalizing session with
  | nil => rfl
  | cons call rest ih =>
    unfold callAll at succeeded ⊢
    split_ifs at succeeded ⊢ with answered
    · rw [ih succeeded, driver_call, answered]
      rfl
    · exact absurd succeeded answered

theorem callAll_keeps {calls : List IdfCall} (kept : WifiDriver → Prop)
    (keeps : ∀ call ∈ calls, ∀ driver result, kept driver → kept (driver.told (call, result)))
    (holds : kept session.driver) : kept (session.callAll idf calls).2.driver := by
  induction calls generalizing session with
  | nil => exact holds
  | cons call rest ih =>
    have next : kept (session.call idf call).driver := by
      rw [driver_call]
      exact keeps call List.mem_cons_self _ _ holds
    unfold callAll
    split_ifs
    · exact ih (fun other member => keeps other (List.mem_cons_of_mem call member)) next
    · exact next

@[simp] theorem backend_callAll (calls : List IdfCall) :
    (session.callAll idf calls).2.backend = session.backend := by
  induction calls generalizing session with
  | nil => rfl
  | cons call rest ih =>
    unfold callAll
    split_ifs
    · exact ih
    · rfl

structure Up (session : WifiSession) : Prop where
  steady : session.Steady
  started : session.backend.initialized = true → session.driver.started = true

theorem startWifi_started {up : WifiSession} (raised : session.startWifi idf = .ok up) :
    up.backend.initialized = true ∧ up.driver.started = true := by
  unfold startWifi at raised
  dsimp only at raised
  split_ifs at raised with failed
  rw [not_not] at failed
  obtain rfl := Except.ok.inj raised
  refine ⟨rfl, ?_⟩
  have told := driver_callAll idf failed
  unfold driver at told ⊢
  rw [told]
  rfl

theorem bind_ok {Result : Type} {step : Except Result WifiSession}
    {next : WifiSession → Except Result WifiSession} {last : WifiSession} (ended : step >>= next = .ok last) :
    ∃ first, step = .ok first ∧ next first = .ok last := by
  cases step with
  | error returned => cases ended
  | ok first => exact ⟨first, rfl, ended⟩

theorem Up.bringUp {up : WifiSession} (ready : session.Up) (raised : session.bringUp idf = .ok up) :
    up.backend.initialized = true ∧ up.driver.started = true := by
  unfold WifiSession.bringUp at raised
  split_ifs at raised with initialized
  · obtain rfl := Except.ok.inj raised
    exact ⟨initialized, ready.started initialized⟩
  · obtain ⟨netted, _, raised⟩ := bind_ok raised
    obtain ⟨looped, _, raised⟩ := bind_ok raised
    obtain ⟨driven, _, raised⟩ := bind_ok raised
    exact startWifi_started idf raised

theorem setCountryCn_of_ok {up : WifiSession} (raised : session.bringUp idf = .ok up) :
    session.setCountryCn idf = up.callAll idf (regulation {}) := by
  unfold setCountryCn
  rw [raised]
  rfl

theorem regulation_keeps (channel : UInt8)
    (holds : session.driver.started = true ∧ session.driver.channel = channel) :
    (session.callAll idf (regulation {})).2.driver.started = true ∧
      (session.callAll idf (regulation {})).2.driver.channel = channel := by
  apply callAll_keeps idf (fun driver => driver.started = true ∧ driver.channel = channel) ?_ holds
  intro call member driver result kept
  simp only [regulation, List.mem_cons, List.not_mem_nil, or_false] at member
  rcases member with rfl | rfl | rfl
  all_goals
    simp only [WifiDriver.told]
    split_ifs
    · exact kept
    · exact kept

theorem regulation_regulated (holds : session.driver.Regulated) :
    (session.callAll idf (regulation {})).2.driver.Regulated := by
  apply callAll_keeps idf WifiDriver.Regulated ?_ holds
  intro call member driver result kept
  simp only [regulation, List.mem_cons, List.not_mem_nil, or_false] at member
  by_cases succeeded : result = ESP_OK
  · rcases member with rfl | rfl | rfl
    all_goals simp only [WifiDriver.told, if_pos succeeded]
    · exact ⟨kept.started, rfl, kept.bandModeAuto, kept.maxTxPower⟩
    · exact ⟨kept.started, kept.country, rfl, kept.maxTxPower⟩
    · exact ⟨kept.started, kept.country, kept.bandModeAuto, rfl⟩
  · rcases member with rfl | rfl | rfl
    all_goals
      simp only [WifiDriver.told, if_neg succeeded]
      exact kept

theorem regulation_succeeded (started : session.driver.started = true)
    (succeeded : (session.callAll idf (regulation {})).1 = ESP_OK) :
    (session.callAll idf (regulation {})).2.driver.Regulated := by
  rw [driver_callAll idf succeeded]
  exact ⟨started, rfl, rfl, rfl⟩

/-- Later calls, of which none hands a frame to the driver. -/
def Quietly (session later : WifiSession) : Prop :=
  Continued (fun entry => IdfCall.radiated entry = none) session.calls later.calls

namespace Quietly

theorem call (session : WifiSession) (call : IdfCall)
    (silent : ∀ result, IdfCall.radiated (call, result) = none) : session.Quietly (session.call idf call) :=
  Continued.snoc session.calls (silent _)

theorem callAll (session : WifiSession) {calls : List IdfCall}
    (silent : ∀ call ∈ calls, ∀ result, IdfCall.radiated (call, result) = none) :
    session.Quietly (session.callAll idf calls).2 := by
  induction calls generalizing session with
  | nil => exact Continued.refl session.calls
  | cons call rest ih =>
    have first := Quietly.call idf session call (silent call List.mem_cons_self)
    unfold WifiSession.callAll
    split_ifs
    · exact first.trans (ih _ fun other member => silent other (List.mem_cons_of_mem call member))
    · exact first

theorem stopWifi (session : WifiSession) : session.Quietly (session.stopWifi idf) := by
  unfold WifiSession.stopWifi
  split_ifs
  · have stopped := Quietly.call idf session .espWifiStop fun _ => rfl
    exact stopped.trans (Quietly.call idf _ .espWifiDeinit fun _ => rfl)
  · exact Continued.refl session.calls

theorem deleteEventLoop (session : WifiSession) : session.Quietly (session.deleteEventLoop idf) := by
  unfold WifiSession.deleteEventLoop
  split_ifs
  · exact Quietly.call idf session .espEventLoopDeleteDefault fun _ => rfl
  · exact Continued.refl session.calls

theorem deinitNetif (session : WifiSession) : session.Quietly (session.deinitNetif idf) := by
  unfold WifiSession.deinitNetif
  split_ifs
  · exact Quietly.call idf session .espNetifDeinit fun _ => rfl
  · exact Continued.refl session.calls

theorem shutdown (session : WifiSession) : session.Quietly (session.shutdown idf) :=
  ((stopWifi idf session).trans (deleteEventLoop idf _)).trans (deinitNetif idf _)

end Quietly

/-- A step goes on, or returns an error. Neither hands a frame to the driver. -/
def Returns (session : WifiSession) : Except (EspErr × WifiSession) WifiSession → Prop
  | .ok later => session.Quietly later
  | .error returned => returned.1 ≠ ESP_OK ∧ session.Quietly returned.2

theorem Returns.bind {step : Except (EspErr × WifiSession) WifiSession}
    {next : WifiSession → Except (EspErr × WifiSession) WifiSession} (returns : session.Returns step)
    (goesOn : ∀ later : WifiSession, later.Returns (next later)) : session.Returns (step >>= next) := by
  cases step with
  | error returned => exact returns
  | ok later =>
    have last := goesOn later
    cases ended : next later with
    | ok final =>
      rw [ended] at last
      show session.Returns (next later)
      rw [ended]
      exact Continued.trans returns last
    | error returned =>
      rw [ended] at last
      show session.Returns (next later)
      rw [ended]
      exact ⟨last.1, Continued.trans returns last.2⟩

theorem initNetif_returns (session : WifiSession) : session.Returns (session.initNetif idf) := by
  have called := Quietly.call idf session .espNetifInit fun _ => rfl
  unfold initNetif
  dsimp only
  split_ifs with created other
  · exact called
  · exact ⟨created, called⟩
  · exact called

theorem createEventLoop_returns (session : WifiSession) : session.Returns (session.createEventLoop idf) := by
  have called := Quietly.call idf session .espEventLoopCreateDefault fun _ => rfl
  unfold createEventLoop
  dsimp only
  split_ifs with created other
  · exact called
  · exact ⟨created, called.trans (Quietly.shutdown idf _)⟩
  · exact called

theorem initWifi_returns (session : WifiSession) : session.Returns (session.initWifi idf) := by
  have called := Quietly.call idf session .espWifiInit fun _ => rfl
  unfold initWifi
  dsimp only
  split_ifs with failed
  · exact ⟨failed, called.trans (Quietly.shutdown idf _)⟩
  · exact called

theorem startWifi_returns (session : WifiSession) : session.Returns (session.startWifi idf) := by
  have called : session.Quietly
      (session.callAll idf [.espWifiSetStorageRam, .espWifiSetModeSta, .espWifiStart]).2 := by
    apply Quietly.callAll
    simp [IdfCall.radiated]
  unfold startWifi
  dsimp only
  split_ifs with failed
  · have released := called.trans (Quietly.call idf _ .espWifiDeinit fun _ => rfl)
    exact ⟨failed, released.trans (Quietly.shutdown idf _)⟩
  · exact called

theorem bringUp_returns (session : WifiSession) : session.Returns (session.bringUp idf) := by
  unfold bringUp
  split_ifs
  · exact Continued.refl session.calls
  · refine (initNetif_returns idf session).bind fun netted => ?_
    refine (createEventLoop_returns idf netted).bind fun looped => ?_
    exact (initWifi_returns idf looped).bind fun driven => startWifi_returns idf driven

theorem setCountryCn_of_error {returned : EspErr × WifiSession} (raised : session.bringUp idf = .error returned) :
    session.setCountryCn idf = returned := by
  unfold setCountryCn
  rw [raised]

theorem Up.setCountryCn (ready : session.Up) : (session.setCountryCn idf).2.Up ∧
    ((session.setCountryCn idf).1 = ESP_OK →
      (session.setCountryCn idf).2.backend.initialized = true ∧
        (session.setCountryCn idf).2.driver.Regulated) := by
  have steady := ready.steady.setCountryCn idf
  have ends := bringUp_ends idf ready.steady
  have returns := bringUp_returns idf session
  cases raised : session.bringUp idf with
  | error returned =>
    rw [raised] at ends returns
    rw [setCountryCn_of_error idf raised] at steady ⊢
    have down : returned.2.backend.initialized = false := by rw [ends.backend]
    exact ⟨⟨steady, fun up => absurd up (by rw [down]; decide)⟩, fun succeeded => absurd succeeded returns.1⟩
  | ok up =>
    obtain ⟨initialized, started⟩ := ready.bringUp idf raised
    rw [setCountryCn_of_ok idf raised] at steady ⊢
    have kept := regulation_keeps idf up.driver.channel ⟨started, rfl⟩
    refine ⟨⟨steady, fun _ => kept.1⟩, fun succeeded => ⟨?_, regulation_succeeded idf started succeeded⟩⟩
    rw [backend_callAll]
    exact initialized

theorem setCountryCn_quietly (session : WifiSession) : session.Quietly (session.setCountryCn idf).2 := by
  have returns := bringUp_returns idf session
  cases raised : session.bringUp idf with
  | error returned =>
    rw [raised] at returns
    rw [setCountryCn_of_error idf raised]
    exact returns.2
  | ok up =>
    rw [raised] at returns
    rw [setCountryCn_of_ok idf raised]
    apply Continued.trans returns
    apply Quietly.callAll
    simp [regulation, IdfCall.radiated]

theorem setCountryCn_of_initialized (initialized : session.backend.initialized = true) :
    session.setCountryCn idf = session.callAll idf (regulation {}) :=
  setCountryCn_of_ok idf (if_pos initialized)

/-- A backend on which `set_country_cn` has been called only, as `app_main` does. -/
def booted (idf : Idf) (boots : Nat) : WifiSession := run idf (List.replicate boots .setCountryCn)

theorem booted_up (boots : Nat) : (booted idf boots).Up := by
  induction boots with
  | zero => exact ⟨Steady.of_idle Idle.new, nofun⟩
  | succ boots ih =>
    unfold booted run at *
    rw [List.replicate_succ', List.foldl_append]
    exact (ih.setCountryCn idf).1

theorem booted_quietly (boots : Nat) : Quietly {} (booted idf boots) := by
  induction boots with
  | zero => exact Continued.refl []
  | succ boots ih =>
    unfold booted run at *
    rw [List.replicate_succ', List.foldl_append]
    exact ih.trans (setCountryCn_quietly idf _)

end WifiSession

/-! ## What the coordinator asks of the backend -/

/-- The method of the backend that an event reports a call of, with what the call returned. -/
def WifiEvent.exchange : WifiEvent → Option (WifiMethod × EspErr)
  | .setCountryCn result => some (.setCountryCn, result)
  | .setChannel channel result => some (.setChannel channel, result)
  | .transmit _ payload result => some (.transmit (.bytes payload.frame), result)
  | .accepted _ => none
  | .dropped _ _ => none

/-- A frame handed to the backend, with what that returned. -/
def WifiEvent.framed : WifiEvent → Option (Bytes × EspErr)
  | .transmit _ payload result => some (payload.frame, result)
  | _ => none

/-- When the coordinator calls the backend. The regulatory domain is set before a channel is, and both
before an accepted payload is transmitted. -/
def WifiEvent.Allowed (before : List WifiEvent) : WifiEvent → Prop
  | .accepted payload => 0 < payload.size ∧ payload.size ≤ kMaxScheduledPayloadSize
  | .setChannel channel _ =>
      .setCountryCn ESP_OK ∈ before ∧ ∃ band, channel = RadioCoordinator.bandChannel band
  | .transmit _ payload _ => payload ∈ before.filterMap entered ∧ .setCountryCn ESP_OK ∈ before ∧
      ∃ band : Band, payload.transport = band.transport ∧
        lastChannel before = RadioCoordinator.bandChannel band
  | _ => True

namespace RadioCoordinator
open WifiEvent

section
variable {coordinator : RadioCoordinator} {log : List WifiEvent}

theorem Consistent.entered_of_waiting (consistent : Consistent coordinator log) {band : Band}
    {payload : ScheduledPayload} (waits : payload ∈ (coordinator.pending band).items) :
    payload ∈ log.filterMap entered := by
  have taken : payload ∈ onBand entered band log := by
    rw [(consistent.balanced band).conserved.mem_iff]
    exact List.mem_append_right _ (List.mem_append_right _ waits)
  exact List.mem_of_mem_filter taken

theorem submit_allowed (each : Each Allowed log) (payload : ScheduledPayload) :
    Each Allowed (log ++ (coordinator.submit payload).events) := by
  unfold submit
  split_ifs with foreign wrongSize
  · rwa [List.append_nil]
  · rwa [List.append_nil]
  · rw [not_or, Nat.not_lt] at wrongSize
    dsimp only
    cases (coordinator.pending (bandIndex payload.transport)).push payload with
    | none => rwa [List.append_nil]
    | some queue => exact each_snoc.mpr ⟨each, Nat.pos_of_ne_zero wrongSize.1, wrongSize.2⟩

theorem configure_allowed (each : Each Allowed log) (answers : WifiAnswers) :
    Each Allowed (log ++ (coordinator.configure answers).events) := by
  unfold configure
  dsimp only
  split_ifs
  · rwa [List.append_nil]
  · exact each_snoc.mpr ⟨each, trivial⟩
  · exact each_snoc.mpr ⟨each, trivial⟩

theorem tune_allowed (each : Each Allowed log) (consistent : Consistent coordinator log)
    (configured : coordinator.configured = true) (nowMs : Nat) (answers : WifiAnswers) :
    Each Allowed (log ++ (coordinator.tune nowMs answers).events) := by
  have set := consistent.configured configured
  unfold tune
  cases coordinator.switchTarget nowMs with
  | none => rwa [List.append_nil]
  | some band =>
    dsimp only [selectBand]
    split_ifs
    · rwa [List.append_nil]
    · exact each_snoc.mpr ⟨each, set, band, rfl⟩
    · exact each_snoc.mpr ⟨each, set, band, rfl⟩

theorem serve_allowed (each : Each Allowed log) (consistent : Consistent coordinator log)
    (tuned : coordinator.currentChannel ≠ 0) (nowMs : Nat) (answers : WifiAnswers) :
    Each Allowed (log ++ (coordinator.serve nowMs answers).events) := by
  obtain ⟨configured, channel⟩ := consistent.tuned tuned
  unfold serve
  dsimp only
  cases found : (coordinator.pending coordinator.activeBand).items[
      coordinator.earliestIndex coordinator.activeBand]? with
  | none => rwa [List.append_nil]
  | some payload =>
    have waits := List.mem_of_getElem? found
    have transport := (consistent.balanced coordinator.activeBand).transport payload waits
    have handed (result : EspErr) : Each Allowed (log ++ [.transmit nowMs payload result]) :=
      each_snoc.mpr ⟨each, consistent.entered_of_waiting waits, consistent.configured configured, _,
        transport, consistent.channel ▸ channel⟩
    dsimp only
    split_ifs
    · exact each_snoc.mpr ⟨each, trivial⟩
    all_goals exact handed _

theorem poll_allowed (each : Each Allowed log) (consistent : Consistent coordinator log) (nowMs : Nat)
    (answers : WifiAnswers) : Each Allowed (log ++ (coordinator.poll nowMs answers).events) := by
  have first := @configure_allowed coordinator log each answers
  have configured := configure_consistent consistent answers
  apply @poll_rule coordinator nowMs answers (fun outcome => Each Allowed (log ++ outcome.events))
  · intro _ _
    rwa [List.append_nil]
  · exact fun _ => first
  · intro step tuned same domain equal _
    obtain rfl := same
    obtain rfl := equal
    rw [← List.append_assoc]
    exact tune_allowed first configured (configure_ok domain) nowMs answers
  · intro step tuned same domain equal succeeded
    obtain rfl := same
    obtain rfl := equal
    rw [← List.append_assoc, ← List.append_assoc]
    have second := tune_allowed first configured (configure_ok domain) nowMs answers
    exact serve_allowed second (tune_consistent configured (configure_ok domain) nowMs answers)
      (tune_ok succeeded) nowMs answers

theorem run_allowed (dwellMs retryMs : Nat) (inputs : List Input) :
    Each Allowed (machine.run { dwellMs := dwellMs, retryMs := retryMs } inputs).2 := by
  have both : Consistent (machine.run { dwellMs := dwellMs, retryMs := retryMs } inputs).1
        (machine.run { dwellMs := dwellMs, retryMs := retryMs } inputs).2 ∧
      Each Allowed (machine.run { dwellMs := dwellMs, retryMs := retryMs } inputs).2 := by
    apply machine.run_invariant fun coordinator log => Consistent coordinator log ∧ Each Allowed log
    · rintro coordinator log input ⟨consistent, each⟩
      cases input with
      | submit payload => exact ⟨submit_consistent consistent payload, submit_allowed each payload⟩
      | poll nowMs answers => exact ⟨poll_consistent consistent, poll_allowed each consistent nowMs answers⟩
    · exact ⟨consistent_start dwellMs retryMs, Each.nil⟩
  exact both.2

end

end RadioCoordinator

/-! ## What the driver is told -/

def wifiBackend (idf : Idf) : Service WifiSession WifiMethod EspErr where
  serve session method := session.invoke idf method

/-- A frame is one of an accepted payload, and goes to a driver that is regulated and tuned to the band. -/
def OnAir (log : List WifiEvent) (before : List (IdfCall × EspErr)) (entry : IdfCall × EspErr) : Prop :=
  ∀ frame result, entry = (.espWifi80211Tx frame, result) →
    ∃ payload ∈ log.filterMap WifiEvent.entered, payload.frame = frame ∧ 0 < frame.length ∧
      frame.length ≤ kMaxWifiFrameSize ∧ (WifiDriver.after before).Regulated ∧
      ∃ band : Band, payload.transport = band.transport ∧
        (WifiDriver.after before).channel = RadioCoordinator.bandChannel band

/-- What the calls of the IDF and the log of the coordinator have to do with each other. -/
structure WifiTold (session : WifiSession) (log : List WifiEvent) : Prop where
  up : session.Up
  regulated : .setCountryCn ESP_OK ∈ log →
    session.backend.initialized = true ∧ session.driver.Regulated
  tuned : lastChannel log ≠ 0 → .setCountryCn ESP_OK ∈ log ∧ session.driver.channel = lastChannel log
  sized : ∀ payload ∈ log.filterMap WifiEvent.entered,
    0 < payload.size ∧ payload.size ≤ kMaxScheduledPayloadSize
  framed : session.calls.filterMap IdfCall.radiated = log.filterMap WifiEvent.framed
  onAir : Each (OnAir log) session.calls

theorem OnAir.later {log : List WifiEvent} {before : List (IdfCall × EspErr)} {entry : IdfCall × EspErr}
    (onAir : OnAir log before entry) (more : List WifiEvent) : OnAir (log ++ more) before entry := by
  intro frame result same
  obtain ⟨payload, taken, told⟩ := onAir frame result same
  refine ⟨payload, ?_, told⟩
  rw [List.filterMap_append]
  exact List.mem_append_left _ taken

theorem OnAir.of_silent {entry : IdfCall × EspErr} (silent : IdfCall.radiated entry = none)
    (log : List WifiEvent) (before : List (IdfCall × EspErr)) : OnAir log before entry := by
  intro frame result same
  rw [same] at silent
  cases silent

theorem ScheduledPayload.frame_length {payload : ScheduledPayload}
    (fits : payload.size ≤ kMaxScheduledPayloadSize) : payload.frame.length = payload.size := by
  unfold frame
  rw [List.length_take, Vector.length_toList]
  exact Nat.min_eq_left fits

namespace WifiTold

variable (idf : Idf) {session : WifiSession} {log : List WifiEvent}

theorem start (idf : Idf) (boots : Nat) : WifiTold (WifiSession.booted idf boots) [] := by
  have quiet := WifiSession.booted_quietly idf boots
  refine ⟨WifiSession.booted_up idf boots, nofun, fun tuned => absurd rfl tuned, nofun, ?_, ?_⟩
  · exact quiet.filterMap_eq IdfCall.radiated fun _ silent => silent
  · have unused : Each (OnAir []) ([] : List (IdfCall × EspErr)) := Each.nil
    exact quiet.each unused fun entry silent => OnAir.of_silent silent []

theorem silent (told : WifiTold session log) {event : WifiEvent} (allowed : event.Allowed log)
    (unasked : event.exchange = none) : WifiTold session (log ++ [event]) := by
  have unset : .setCountryCn ESP_OK ∈ log ++ [event] → .setCountryCn ESP_OK ∈ log := by
    intro member
    rcases List.mem_append.mp member with early | last
    · exact early
    · rw [← List.mem_singleton.mp last] at unasked
      cases unasked
  have channel : lastChannel (log ++ [event]) = lastChannel log := by
    rw [lastChannel_snoc]
    cases event with
    | setChannel => cases unasked
    | _ => rfl
  have nothing : event.framed = none := by
    cases event with
    | transmit => cases unasked
    | _ => rfl
  refine ⟨told.up, fun member => told.regulated (unset member), ?_, ?_, ?_, ?_⟩
  · rw [channel]
    exact fun tuned => ⟨List.mem_append_left _ (told.tuned tuned).1, (told.tuned tuned).2⟩
  · intro payload member
    rw [List.filterMap_append, List.mem_append] at member
    rcases member with early | last
    · exact told.sized payload early
    · cases event with
      | accepted accepted =>
        obtain rfl := List.mem_singleton.mp last
        exact allowed
      | _ => cases last
  · rw [List.filterMap_append, List.filterMap_cons, nothing, List.filterMap_nil, List.append_nil]
    exact told.framed
  · exact told.onAir.mono fun _ _ onAir => onAir.later [event]

theorem quietly (told : WifiTold session log) (event : WifiEvent) {later : WifiSession}
    (quiet : session.Quietly later) (nothing : event.framed = none) :
    later.calls.filterMap IdfCall.radiated = (log ++ [event]).filterMap WifiEvent.framed ∧
      Each (OnAir (log ++ [event])) later.calls := by
  constructor
  · rw [quiet.filterMap_eq IdfCall.radiated fun _ silent => silent, told.framed, List.filterMap_append,
      List.filterMap_cons, nothing, List.filterMap_nil, List.append_nil]
  · exact quiet.each (told.onAir.mono fun _ _ onAir => onAir.later [event]) fun entry silent =>
      OnAir.of_silent silent _

theorem sized_snoc (told : WifiTold session log) {event : WifiEvent} (nothing : event.entered = none) :
    ∀ payload ∈ (log ++ [event]).filterMap WifiEvent.entered,
      0 < payload.size ∧ payload.size ≤ kMaxScheduledPayloadSize := by
  rw [List.filterMap_append, List.filterMap_cons, nothing, List.filterMap_nil, List.append_nil]
  exact told.sized

theorem setCountryCn (told : WifiTold session log) :
    WifiTold (session.setCountryCn idf).2 (log ++ [.setCountryCn (session.setCountryCn idf).1]) := by
  obtain ⟨up, regulated⟩ := told.up.setCountryCn idf
  obtain ⟨framed, onAir⟩ := told.quietly (.setCountryCn (session.setCountryCn idf).1)
    (WifiSession.setCountryCn_quietly idf session) rfl
  have again (set : .setCountryCn ESP_OK ∈ log) :
      (session.setCountryCn idf).2.backend.initialized = true ∧
        (session.setCountryCn idf).2.driver.Regulated ∧
        (session.setCountryCn idf).2.driver.channel = session.driver.channel := by
    obtain ⟨initialized, before⟩ := told.regulated set
    rw [WifiSession.setCountryCn_of_initialized idf initialized, WifiSession.backend_callAll]
    exact ⟨initialized, WifiSession.regulation_regulated idf before,
      (WifiSession.regulation_keeps idf session.driver.channel ⟨before.started, rfl⟩).2⟩
  refine ⟨up, ?_, ?_, told.sized_snoc rfl, framed, onAir⟩
  · intro member
    rcases List.mem_append.mp member with early | last
    · exact ⟨(again early).1, (again early).2.1⟩
    · have succeeded := List.mem_singleton.mp last
      injection succeeded with succeeded
      exact regulated succeeded.symm
  · rw [lastChannel_snoc]
    intro tuned
    obtain ⟨set, channel⟩ := told.tuned tuned
    exact ⟨List.mem_append_left _ set, (again set).2.2.trans channel⟩

theorem setChannel (told : WifiTold session log) {channel : UInt8}
    (allowed : (WifiEvent.setChannel channel (session.setChannel idf channel).1).Allowed log) :
    WifiTold (session.setChannel idf channel).2
      (log ++ [.setChannel channel (session.setChannel idf channel).1]) := by
  obtain ⟨set, band, same⟩ := allowed
  obtain ⟨initialized, regulated⟩ := told.regulated set
  have known : ¬(channel ≠ 6 ∧ channel ≠ 149) := by
    rw [same]
    cases band <;> decide
  have called : session.setChannel idf channel =
      (session.answer idf (.espWifiSetChannel channel), session.call idf (.espWifiSetChannel channel)) :=
    if_neg known
  rw [called]
  obtain ⟨framed, onAir⟩ := told.quietly
    (.setChannel channel (session.answer idf (.espWifiSetChannel channel)))
    (WifiSession.Quietly.call idf session (.espWifiSetChannel channel) fun _ => rfl) rfl
  have driver : (session.call idf (.espWifiSetChannel channel)).driver =
      if session.answer idf (.espWifiSetChannel channel) = ESP_OK then
        { session.driver with channel := channel } else session.driver := WifiSession.driver_call idf _
  have still : (session.call idf (.espWifiSetChannel channel)).driver.Regulated := by
    rw [driver]
    split_ifs
    · exact ⟨regulated.started, regulated.country, regulated.bandModeAuto, regulated.maxTxPower⟩
    · exact regulated
  refine ⟨⟨told.up.steady.call idf _ rfl, fun _ => still.started⟩, fun _ => ⟨initialized, still⟩, ?_,
    told.sized_snoc rfl, framed, onAir⟩
  rw [lastChannel_snoc, driver]
  dsimp only
  split_ifs
  · exact fun _ => ⟨List.mem_append_left _ set, rfl⟩
  · exact fun tuned => ⟨List.mem_append_left _ set, (told.tuned tuned).2⟩

theorem transmit (told : WifiTold session log) {nowMs : Nat} {payload : ScheduledPayload} {result : EspErr}
    (allowed : (WifiEvent.transmit nowMs payload result).Allowed log)
    (answered : result = (session.transmit idf (.bytes payload.frame)).1) :
    WifiTold (session.transmit idf (.bytes payload.frame)).2 (log ++ [.transmit nowMs payload result]) := by
  obtain ⟨taken, set, band, transport, channel⟩ := allowed
  obtain ⟨initialized, regulated⟩ := told.regulated set
  obtain ⟨positive, fits⟩ := told.sized payload taken
  have tuned := told.tuned (channel ▸ RadioCoordinator.bandChannel_ne_zero band)
  have size := ScheduledPayload.frame_length fits
  have room : ¬(payload.frame.length = 0 ∨ kMaxWifiFrameSize < payload.frame.length) := by
    rw [size]
    unfold kMaxScheduledPayloadSize at fits
    unfold kMaxWifiFrameSize
    omega
  have called : session.transmit idf (.bytes payload.frame) =
      (session.answer idf (.espWifi80211Tx payload.frame), session.call idf (.espWifi80211Tx payload.frame)) :=
    if_neg room
  rw [called] at answered ⊢
  have driver : (session.call idf (.espWifi80211Tx payload.frame)).driver = session.driver :=
    WifiSession.driver_call idf _
  refine ⟨⟨told.up.steady.call idf _ rfl, ?_⟩, ?_, ?_, told.sized_snoc rfl, ?_, ?_⟩
  · rw [driver]
    exact told.up.started
  · rw [driver]
    exact fun _ => ⟨initialized, regulated⟩
  · rw [lastChannel_snoc, driver]
    exact fun _ => ⟨List.mem_append_left _ set, tuned.2⟩
  · show (session.calls ++ [(IdfCall.espWifi80211Tx payload.frame, _)]).filterMap IdfCall.radiated = _
    rw [List.filterMap_append, List.filterMap_append, told.framed, answered]
    rfl
  · show Each _ (session.calls ++ [(IdfCall.espWifi80211Tx payload.frame, _)])
    refine each_snoc.mpr ⟨told.onAir.mono fun _ _ onAir => onAir.later _, ?_⟩
    intro frame returned same
    injection same with same _
    injection same with same
    subst same
    rw [not_or, Nat.not_lt] at room
    refine ⟨payload, ?_, rfl, Nat.pos_of_ne_zero room.1, room.2, regulated, band, transport, ?_⟩
    · rw [List.filterMap_append]
      exact List.mem_append_left _ taken
    · rw [← channel]
      exact tuned.2

end WifiTold

namespace RadioCoordinator

section
variable (idf : Idf) (session : WifiSession) (coordinator : RadioCoordinator) (nowMs : Nat)

/-! A poll gets from the backend what the backend answers: each stage calls one method at most. -/

theorem configure_answered {answers : WifiAnswers}
    (asked : answers.setCountryCn = (session.setCountryCn idf).1) :
    (wifiBackend idf).AnsweredLog WifiEvent.exchange session (coordinator.configure answers).events := by
  unfold configure
  dsimp only
  split_ifs
  · trivial
  all_goals exact ⟨asked.symm, trivial⟩

theorem tune_answered {answers : WifiAnswers}
    (asked : ∀ channel, answers.setChannel channel = (session.setChannel idf channel).1) :
    (wifiBackend idf).AnsweredLog WifiEvent.exchange session (coordinator.tune nowMs answers).events := by
  unfold tune
  cases coordinator.switchTarget nowMs with
  | none => trivial
  | some band =>
    dsimp only [selectBand]
    split_ifs
    · trivial
    all_goals exact ⟨(asked _).symm, trivial⟩

/-- The payload that the third part of `poll` takes up. -/
def selected : Option ScheduledPayload :=
  (coordinator.pending coordinator.activeBand).items[coordinator.earliestIndex coordinator.activeBand]?

theorem serve_answered {answers : WifiAnswers} (asked : ∀ payload, coordinator.selected = some payload →
      answers.transmit = (session.transmit idf (.bytes payload.frame)).1) :
    (wifiBackend idf).AnsweredLog WifiEvent.exchange session (coordinator.serve nowMs answers).events := by
  unfold serve
  dsimp only
  cases found : (coordinator.pending coordinator.activeBand).items[
      coordinator.earliestIndex coordinator.activeBand]? with
  | none => trivial
  | some payload =>
    have answer := asked payload found
    dsimp only
    split_ifs
    · trivial
    all_goals exact ⟨answer.symm, trivial⟩

theorem exists_poll_answered : ∃ answers, (wifiBackend idf).AnsweredLog WifiEvent.exchange session
    (coordinator.poll nowMs answers).events := by
  let country := (session.setCountryCn idf).1
  let configured := coordinator.configure { setCountryCn := country }
  let domain := (wifiBackend idf).afterLog WifiEvent.exchange session configured.events
  let channel := fun primary => (domain.setChannel idf primary).1
  let tuned := configured.next.tune nowMs { setCountryCn := country, setChannel := channel }
  let ready := (wifiBackend idf).afterLog WifiEvent.exchange domain tuned.events
  let sent := tuned.next.selected.elim ESP_OK fun payload => (ready.transmit idf (.bytes payload.frame)).1
  let answers : WifiAnswers := ⟨country, channel, sent⟩
  have first := @configure_answered idf session coordinator answers rfl
  have second := @tune_answered idf domain configured.next nowMs answers fun _ => rfl
  refine ⟨answers, ?_⟩
  apply @poll_rule coordinator nowMs answers
    (fun outcome => (wifiBackend idf).AnsweredLog WifiEvent.exchange session outcome.events)
  · exact fun _ _ => trivial
  · exact fun _ => first
  · intro step next same _ equal _
    obtain rfl := same
    obtain rfl := equal
    exact (Service.answeredLog_append _ _).mpr ⟨first, second⟩
  · intro step next same _ equal _
    obtain rfl := same
    obtain rfl := equal
    rw [List.append_assoc, Service.answeredLog_append, Service.answeredLog_append]
    refine ⟨first, second, serve_answered idf ready _ nowMs ?_⟩
    intro payload found
    replace found : tuned.next.selected = some payload := found
    show tuned.next.selected.elim ESP_OK (fun payload => (ready.transmit idf (.bytes payload.frame)).1) = _
    rw [found]
    rfl

end

/-- What the caller asks of the coordinator, without the answers of the backend. -/
inductive Command where
  | submit (payload : ScheduledPayload)
  | poll (nowMs : Nat)

def Input.command : Input → Command
  | .submit payload => .submit payload
  | .poll nowMs _ => .poll nowMs

/-- The backend answers some run of whatever is asked of the coordinator. -/
theorem exists_run_answered (idf : Idf) (boots dwellMs retryMs : Nat) (commands : List Command) :
    ∃ inputs, inputs.map Input.command = commands ∧
      (wifiBackend idf).AnsweredLog WifiEvent.exchange (WifiSession.booted idf boots)
        (machine.run { dwellMs := dwellMs, retryMs := retryMs } inputs).2 := by
  apply Service.exists_run_answered
  intro coordinator session command
  cases command with
  | submit payload =>
    refine ⟨.submit payload, rfl, ?_⟩
    show (wifiBackend idf).AnsweredLog WifiEvent.exchange session (coordinator.submit payload).events
    unfold submit
    dsimp only
    split_ifs
    · trivial
    · trivial
    · cases (coordinator.pending (bandIndex payload.transport)).push payload <;> trivial
  | poll nowMs =>
    obtain ⟨answers, answered⟩ := exists_poll_answered idf session coordinator nowMs
    exact ⟨.poll nowMs answers, rfl, answered⟩

end RadioCoordinator

/-- A run of the coordinator on the backend, which has answered every call that the log reports. -/
structure WifiRun (idf : Idf) where
  boots : Nat
  dwellMs : Nat := 100
  retryMs : Nat := 20
  inputs : List RadioCoordinator.Input
  answered : (wifiBackend idf).AnsweredLog WifiEvent.exchange (WifiSession.booted idf boots)
    (RadioCoordinator.machine.run { dwellMs, retryMs } inputs).2

namespace WifiRun

variable {idf : Idf} (run : WifiRun idf)

def log : List WifiEvent :=
  (RadioCoordinator.machine.run { dwellMs := run.dwellMs, retryMs := run.retryMs } run.inputs).2

def session : WifiSession :=
  (wifiBackend idf).afterLog WifiEvent.exchange (WifiSession.booted idf run.boots) run.log

theorem told : WifiTold run.session run.log := by
  apply run.answered.track (RadioCoordinator.run_allowed run.dwellMs run.retryMs run.inputs) WifiTold
    (WifiTold.start idf run.boots)
  · exact fun session log event told allowed unasked => told.silent allowed unasked
  · intro session log event method told allowed asked
    cases event with
    | accepted payload => cases asked
    | dropped nowMs payload => cases asked
    | setCountryCn result =>
      obtain ⟨rfl, rfl⟩ := Prod.mk.inj (Option.some.inj asked)
      exact told.setCountryCn idf
    | setChannel channel result =>
      obtain ⟨rfl, rfl⟩ := Prod.mk.inj (Option.some.inj asked)
      exact told.setChannel idf allowed
    | transmit nowMs payload result =>
      obtain ⟨rfl, same⟩ := Prod.mk.inj (Option.some.inj asked)
      exact told.transmit idf allowed same

/-- Whatever the IDF returns, a frame goes to a started driver only, in the domain and with the power limit
of `set_country_cn` and on the channel of its band, and it is the frame of an accepted payload. The backend
refuses no frame of its own accord: what reaches the driver is what the coordinator reports. -/
theorem radiates_regulated (idf : Idf) (run : WifiRun idf) : Each (OnAir run.log) run.session.calls ∧
    run.session.calls.filterMap IdfCall.radiated = run.log.filterMap WifiEvent.framed :=
  ⟨run.told.onAir, run.told.framed⟩

/-- A frame for the upper band, on a radio whose channel cannot be set at once. -/
def retried : WifiRun fun calls call =>
    if calls.length < 13 ∧ call matches .espWifiSetChannel _ then ESP_FAIL else ESP_OK where
  boots := 1
  inputs := [.submit { transport := .wifi58, size := 2 }, .poll 0 { setChannel := fun _ => ESP_FAIL },
    .poll 20 {}]
  answered := by
    refine ⟨?_, ?_, ?_, ?_, trivial⟩ <;> rfl

theorem radiates_regulated_retried : (retried.session.calls.filterMap IdfCall.radiated =
    retried.log.filterMap WifiEvent.framed) ∧ retried.log.filterMap WifiEvent.framed = [([0, 0], ESP_OK)] :=
  ⟨(radiates_regulated _ retried).2, by decide +kernel⟩

end WifiRun

end RidFirmware
