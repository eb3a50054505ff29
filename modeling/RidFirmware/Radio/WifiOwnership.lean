import RidFirmware.Radio.EspWifiBackend

/-! What the Wi-Fi backend owns: it releases exactly what it has acquired, whatever the IDF returns. -/

namespace RidFirmware
open Lib

/-- What there is to release: the driver, too, while `set_country_cn` has not stored yet that it is
initialised. -/
def EspWifiBackend.holding (backend : EspWifiBackend) (driver : Bool) : WifiResource → Bool
  | .netif => backend.ownsNetif
  | .eventLoop => backend.ownsEventLoop
  | .wifiDriver => driver

namespace EspWifiBackend

variable (backend : EspWifiBackend) (driver value : Bool)

theorem update_netif : Function.update (backend.holding driver) .netif value =
    { backend with ownsNetif := value }.holding driver := by
  funext resource
  cases resource <;> rfl

theorem update_eventLoop : Function.update (backend.holding driver) .eventLoop value =
    { backend with ownsEventLoop := value }.holding driver := by
  funext resource
  cases resource <;> rfl

theorem update_wifiDriver :
    Function.update (backend.holding driver) .wifiDriver value = backend.holding value := by
  funext resource
  cases resource <;> rfl

theorem holding_new : holding {} false = fun _ => false := by
  funext resource
  cases resource <;> rfl

end EspWifiBackend

namespace WifiSession

variable (idf : Idf) {session : WifiSession}

@[simp] theorem backend_call (call : IdfCall) : (session.call idf call).backend = session.backend := rfl

theorem moves_call (call : IdfCall) : (session.call idf call).moves =
    session.moves ++ (IdfCall.move (call, session.answer idf call)).toList := by
  unfold moves WifiSession.call
  rw [List.filterMap_append, List.filterMap_cons, List.filterMap_nil]
  cases IdfCall.move (call, session.answer idf call) <;> rfl

/-- The calls have acquired what there is to release, and released all else. -/
def Accounted (session : WifiSession) (driver : Bool) : Prop :=
  Ledger session.moves (session.backend.holding driver)

/-- Nothing is held and the backend is like a new one. -/
structure Idle (session : WifiSession) : Prop where
  accounted : session.Accounted false
  backend : session.backend = {}

theorem Idle.new : Idle {} := by
  refine ⟨?_, rfl⟩
  unfold Accounted
  rw [EspWifiBackend.holding_new]
  exact Ledger.start

theorem Idle.ledger (idle : session.Idle) : Ledger session.moves fun _ => false := by
  have accounted := idle.accounted
  unfold Accounted at accounted
  rw [idle.backend, EspWifiBackend.holding_new] at accounted
  exact accounted

namespace Accounted

variable {driver : Bool}

theorem silent (accounted : session.Accounted driver) (call : IdfCall)
    (silent : IdfCall.move (call, session.answer idf call) = none) :
    (session.call idf call).Accounted driver := by
  unfold Accounted
  rw [moves_call, silent, Option.toList_none, List.append_nil]
  exact accounted

theorem take (accounted : session.Accounted driver) (call : IdfCall) {resource : WifiResource}
    (takes : IdfCall.move (call, session.answer idf call) = some (.take resource))
    (free : session.backend.holding driver resource = false) :
    Ledger (session.call idf call).moves
      (Function.update (session.backend.holding driver) resource true) := by
  rw [moves_call, takes]
  exact Ledger.take accounted free

theorem give (accounted : session.Accounted driver) (call : IdfCall) {resource : WifiResource}
    (gives : IdfCall.move (call, session.answer idf call) = some (.give resource))
    (owned : session.backend.holding driver resource = true) :
    Ledger (session.call idf call).moves
      (Function.update (session.backend.holding driver) resource false) := by
  rw [moves_call, gives]
  exact Ledger.give accounted owned

theorem callAll (accounted : session.Accounted driver) {calls : List IdfCall}
    (silent : ∀ call ∈ calls, ∀ result, IdfCall.move (call, result) = none) :
    (session.callAll idf calls).2.Accounted driver ∧
      (session.callAll idf calls).2.backend = session.backend := by
  induction calls generalizing session with
  | nil => exact ⟨accounted, rfl⟩
  | cons call rest ih =>
    have next := accounted.silent idf call (silent call List.mem_cons_self (session.answer idf call))
    unfold WifiSession.callAll
    split_ifs
    · exact ih next fun other member => silent other (List.mem_cons_of_mem call member)
    · exact ⟨next, rfl⟩

/-! `shutdown` releases what there is. -/

theorem stopWifi (accounted : session.Accounted session.backend.initialized) :
    (session.stopWifi idf).Accounted false ∧
      (session.stopWifi idf).backend = { session.backend with initialized := false } := by
  unfold WifiSession.stopWifi
  split_ifs with initialized
  · have stopped := accounted.silent idf .espWifiStop rfl
    have released := stopped.give idf .espWifiDeinit rfl initialized
    rw [EspWifiBackend.update_wifiDriver] at released
    exact ⟨released, rfl⟩
  · rw [Bool.not_eq_true] at initialized
    rw [initialized] at accounted
    refine ⟨accounted, ?_⟩
    rw [← initialized]

theorem deleteEventLoop (accounted : session.Accounted driver) :
    (session.deleteEventLoop idf).Accounted driver ∧
      (session.deleteEventLoop idf).backend = { session.backend with ownsEventLoop := false } := by
  unfold WifiSession.deleteEventLoop
  split_ifs with owned
  · have released := accounted.give idf .espEventLoopDeleteDefault rfl owned
    rw [EspWifiBackend.update_eventLoop] at released
    exact ⟨released, rfl⟩
  · rw [Bool.not_eq_true] at owned
    refine ⟨accounted, ?_⟩
    rw [← owned]

theorem deinitNetif (accounted : session.Accounted driver) :
    (session.deinitNetif idf).Accounted driver ∧
      (session.deinitNetif idf).backend = { session.backend with ownsNetif := false } := by
  unfold WifiSession.deinitNetif
  split_ifs with owned
  · have released := accounted.give idf .espNetifDeinit rfl owned
    rw [EspWifiBackend.update_netif] at released
    exact ⟨released, rfl⟩
  · rw [Bool.not_eq_true] at owned
    refine ⟨accounted, ?_⟩
    rw [← owned]

theorem shutdown (accounted : session.Accounted session.backend.initialized) :
    (session.shutdown idf).Idle := by
  have stopped := accounted.stopWifi idf
  have deleted := stopped.1.deleteEventLoop idf
  have released := deleted.1.deinitNetif idf
  refine ⟨released.1, ?_⟩
  unfold WifiSession.shutdown
  rw [released.2, deleted.2, stopped.2]

end Accounted

/-! `set_country_cn` brings up everything or leaves nothing behind. -/

/-- A step goes on with a session that it should, or returns after everything is released. -/
def Ends (good : WifiSession → Prop) : Except (EspErr × WifiSession) WifiSession → Prop
  | .ok session => good session
  | .error returned => returned.2.Idle

theorem Ends.bind {good better : WifiSession → Prop} {step : Except (EspErr × WifiSession) WifiSession}
    {next : WifiSession → Except (EspErr × WifiSession) WifiSession} (ends : Ends good step)
    (goesOn : ∀ session, good session → Ends better (next session)) : Ends better (step >>= next) := by
  cases step with
  | ok session => exact goesOn session ends
  | error returned => exact ends

/-- What is acquired so far, before `initialized_` is set. -/
structure Raising (session : WifiSession) (driver : Bool) : Prop where
  accounted : session.Accounted driver
  notYet : session.backend.initialized = false

theorem Raising.shutdown (raising : session.Raising false) : (session.shutdown idf).Idle := by
  apply Accounted.shutdown
  rw [raising.notYet]
  exact raising.accounted

theorem Raising.silent {driver : Bool} (raising : session.Raising driver) (call : IdfCall)
    (silent : IdfCall.move (call, session.answer idf call) = none) :
    (session.call idf call).Raising driver :=
  ⟨raising.accounted.silent idf call silent, raising.notYet⟩

theorem initNetif_ends (idle : session.Idle) :
    Ends (fun next => next.Raising false ∧ next.backend.ownsEventLoop = false)
      (session.initNetif idf) := by
  have free : session.backend.holding false .netif = false := by
    rw [idle.backend]
    rfl
  have notYet : session.backend.initialized = false := by rw [idle.backend]
  have noLoop : session.backend.ownsEventLoop = false := by rw [idle.backend]
  unfold initNetif
  dsimp only
  split_ifs with created failed
  · have taken := idle.accounted.take idf .espNetifInit (if_pos created) free
    rw [EspWifiBackend.update_netif] at taken
    exact ⟨⟨taken, notYet⟩, noLoop⟩
  · have silent := idle.accounted.silent idf .espNetifInit (if_neg created)
    exact ⟨silent, idle.backend⟩
  · have silent := idle.accounted.silent idf .espNetifInit (if_neg created)
    exact ⟨⟨silent, notYet⟩, noLoop⟩

theorem createEventLoop_ends (raising : session.Raising false)
    (noLoop : session.backend.ownsEventLoop = false) :
    Ends (fun next => next.Raising false) (session.createEventLoop idf) := by
  unfold createEventLoop
  dsimp only
  split_ifs with created failed
  · have taken := raising.accounted.take idf .espEventLoopCreateDefault
      (if_pos created) noLoop
    rw [EspWifiBackend.update_eventLoop] at taken
    exact ⟨taken, raising.notYet⟩
  · exact (raising.silent idf .espEventLoopCreateDefault (if_neg created)).shutdown idf
  · exact raising.silent idf .espEventLoopCreateDefault (if_neg created)

theorem initWifi_ends (raising : session.Raising false) :
    Ends (fun next => next.Raising true) (session.initWifi idf) := by
  unfold initWifi
  dsimp only
  split_ifs with failed
  · exact (raising.silent idf .espWifiInit (if_neg failed)).shutdown idf
  · rw [not_not] at failed
    have taken := raising.accounted.take idf .espWifiInit (if_pos failed) rfl
    rw [EspWifiBackend.update_wifiDriver] at taken
    exact ⟨taken, raising.notYet⟩

theorem startWifi_ends (raising : session.Raising true) :
    Ends (fun next => next.Accounted true ∧ next.backend.initialized = true)
      (session.startWifi idf) := by
  have silent : ∀ call ∈ [IdfCall.espWifiSetStorageRam, .espWifiSetModeSta, .espWifiStart],
      ∀ result, IdfCall.move (call, result) = none := by
    simp [IdfCall.move]
  obtain ⟨accounted, same⟩ := raising.accounted.callAll idf silent
  unfold startWifi
  dsimp only
  split_ifs with failed
  · -- The driver is released here, since `shutdown` does not know of it yet.
    have released := accounted.give idf .espWifiDeinit rfl rfl
    rw [EspWifiBackend.update_wifiDriver] at released
    apply Raising.shutdown
    refine ⟨released, ?_⟩
    rw [backend_call, same]
    exact raising.notYet
  · exact ⟨accounted, rfl⟩

/-- What holds between two methods: the driver is initialised, or the backend is idle. -/
structure Steady (session : WifiSession) : Prop where
  accounted : session.Accounted session.backend.initialized
  whole : session.backend.initialized = true ∨ session.backend = {}

theorem Steady.of_idle (idle : session.Idle) : session.Steady := by
  refine ⟨?_, .inr idle.backend⟩
  have accounted := idle.accounted
  rw [idle.backend]
  exact accounted

theorem Steady.idle (steady : session.Steady) (down : session.backend.initialized = false) :
    session.Idle := by
  have new : session.backend = {} := steady.whole.resolve_left (by simp [down])
  refine ⟨?_, new⟩
  rw [← down]
  exact steady.accounted

theorem bringUp_ends (steady : session.Steady) :
    Ends (fun next => next.Accounted true ∧ next.backend.initialized = true) (session.bringUp idf) := by
  unfold bringUp
  split_ifs with initialized
  · have accounted := steady.accounted
    rw [initialized] at accounted
    exact ⟨accounted, initialized⟩
  · refine (initNetif_ends idf (steady.idle (Bool.eq_false_of_not_eq_true initialized))).bind ?_
    rintro raised ⟨raising, noLoop⟩
    refine (createEventLoop_ends idf raising noLoop).bind ?_
    intro looped raising
    exact (initWifi_ends idf raising).bind fun driven raising => startWifi_ends idf raising

namespace Steady

theorem setCountryCn (steady : session.Steady) : (session.setCountryCn idf).2.Steady := by
  have ends := bringUp_ends idf steady
  unfold WifiSession.setCountryCn
  cases raised : session.bringUp idf with
  | error returned =>
    rw [raised] at ends
    exact of_idle ends
  | ok up =>
    rw [raised] at ends
    have silent : ∀ call ∈ [IdfCall.espWifiSetCountry {}, .espWifiSetBandModeAuto, .espWifiSetMaxTxPower 8],
        ∀ result, IdfCall.move (call, result) = none := by
      simp [IdfCall.move]
    obtain ⟨accounted, same⟩ := ends.1.callAll idf silent
    have initialized : (up.callAll idf [IdfCall.espWifiSetCountry {}, .espWifiSetBandModeAuto,
        .espWifiSetMaxTxPower 8]).2.backend.initialized = true := by
      rw [same]
      exact ends.2
    refine ⟨?_, .inl initialized⟩
    rw [initialized]
    exact accounted

theorem call (steady : session.Steady) (call : IdfCall)
    (silent : IdfCall.move (call, session.answer idf call) = none) : (session.call idf call).Steady :=
  ⟨steady.accounted.silent idf call silent, steady.whole⟩

theorem invoke (steady : session.Steady) (method : WifiMethod) : (session.invoke idf method).2.Steady := by
  cases method with
  | setCountryCn => exact steady.setCountryCn idf
  | setChannel primary =>
    unfold WifiSession.invoke setChannel
    dsimp only
    split_ifs
    · exact steady
    · exact steady.call idf _ rfl
  | transmit frame =>
    cases frame with
    | null size => exact steady
    | bytes content =>
      unfold WifiSession.invoke transmit
      dsimp only
      split_ifs
      · exact steady
      · exact steady.call idf _ rfl

theorem run (idf : Idf) (methods : List WifiMethod) : (run idf methods).Steady := by
  induction methods using List.reverseRecOn with
  | nil => exact of_idle Idle.new
  | append_singleton before method ih =>
    unfold WifiSession.run
    rw [List.foldl_append]
    exact ih.invoke idf method

end Steady

/-- The backend releases what it has acquired and nothing else: after any methods it has a driver or holds
nothing, nothing is acquired while it is held or released while it is not, and by the end of the destructor
everything acquired is released once. -/
theorem releases_what_it_acquired (idf : Idf) (methods : List WifiMethod) :
    ((run idf methods).backend.initialized = true ∧ heldAfter (run idf methods).moves .wifiDriver = true ∨
      ∀ resource, heldAfter (run idf methods).moves resource = false) ∧
    InTurn ((run idf methods).destroy idf).moves ∧ Settled ((run idf methods).destroy idf).moves := by
  have steady := Steady.run idf methods
  have destroyed : ((run idf methods).destroy idf).Idle := steady.accounted.shutdown idf
  refine ⟨?_, destroyed.ledger.inTurn, destroyed.ledger.settled⟩
  rcases Bool.eq_false_or_eq_true (run idf methods).backend.initialized with up | down
  · refine .inl ⟨up, ?_⟩
    rw [steady.accounted.held]
    exact up
  · exact .inr fun resource => congrFun (steady.idle down).ledger.held resource

/-- Where the driver cannot be initialised, the event loop and the interface layer are released again. -/
example : (run (fun _ call => match call with | .espWifiInit => ESP_FAIL | _ => ESP_OK)
    [.setCountryCn]).moves = [.take .netif, .take .eventLoop, .give .eventLoop, .give .netif] := by
  decide

end WifiSession

end RidFirmware
