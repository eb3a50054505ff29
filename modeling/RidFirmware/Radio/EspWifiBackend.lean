import RidFirmware.Lib.Ledger
import RidFirmware.Radio.Framing

/-! The Wi-Fi backend over the ESP-IDF: which of the network interface layer, the default event loop and
the Wi-Fi driver it has brought up, and what it takes down again. What a call of the IDF returns may
depend on all calls before it. -/

namespace RidFirmware
open Lib

/-- `wifi_country_t`, as `set_country_cn` fills it in. -/
structure WifiCountry where
  cc : Vector UInt8 3 := #v[0x43, 0x4e, 0]
  schan : UInt8 := 1
  nchan : UInt8 := 13
  maxTxPower : Int := 8
  manualPolicy : Bool := true
  wifi5gChannels : List UInt8 := [149]

/-- The calls of the IDF; an argument that is the same everywhere is part of the name. -/
inductive IdfCall where
  | espNetifInit
  | espEventLoopCreateDefault
  | espWifiInit
  | espWifiSetStorageRam
  | espWifiSetModeSta
  | espWifiStart
  | espWifiSetCountry (country : WifiCountry)
  | espWifiSetBandModeAuto
  | espWifiSetMaxTxPower (power : Int)
  | espWifiSetChannel (primary : UInt8)
  | espWifi80211Tx (frame : Bytes)
  | espWifiStop
  | espWifiDeinit
  | espEventLoopDeleteDefault
  | espNetifDeinit

/-- What the IDF returns from a call, after the calls made so far. -/
abbrev Idf := List (IdfCall × EspErr) → IdfCall → EspErr

structure EspWifiBackend where
  initialized : Bool := false
  ownsEventLoop : Bool := false
  ownsNetif : Bool := false

/-- The backend with the calls it has made and what they returned. -/
structure WifiSession where
  backend : EspWifiBackend := {}
  calls : List (IdfCall × EspErr) := []

namespace WifiSession

variable (idf : Idf) (session : WifiSession)

def answer (call : IdfCall) : EspErr := idf session.calls call

def call (call : IdfCall) : WifiSession :=
  { session with calls := session.calls ++ [(call, session.answer idf call)] }

/-- Calls that are made as long as they succeed, with what the last of them returned. -/
def callAll (session : WifiSession) : List IdfCall → EspErr × WifiSession
  | [] => (ESP_OK, session)
  | call :: rest =>
      if session.answer idf call = ESP_OK then callAll (session.call idf call) rest
      else (session.answer idf call, session.call idf call)

/-! `shutdown`, one resource after the other. -/

def stopWifi : WifiSession :=
  if session.backend.initialized then
    { (session.call idf .espWifiStop).call idf .espWifiDeinit with
      backend := { session.backend with initialized := false } }
  else session

def deleteEventLoop : WifiSession :=
  if session.backend.ownsEventLoop then
    { session.call idf .espEventLoopDeleteDefault with
      backend := { session.backend with ownsEventLoop := false } }
  else session

def deinitNetif : WifiSession :=
  if session.backend.ownsNetif then
    { session.call idf .espNetifDeinit with backend := { session.backend with ownsNetif := false } }
  else session

def shutdown : WifiSession := ((session.stopWifi idf).deleteEventLoop idf).deinitNetif idf

/-! The first part of `set_country_cn`, up to `initialized_ = true`. A step that fails returns from the
method. -/

def initNetif : Except (EspErr × WifiSession) WifiSession :=
  let result := session.answer idf .espNetifInit
  let called := session.call idf .espNetifInit
  if result = ESP_OK then .ok { called with backend := { called.backend with ownsNetif := true } }
  else if result ≠ ESP_ERR_INVALID_STATE then .error (result, called)
  else .ok called

def createEventLoop : Except (EspErr × WifiSession) WifiSession :=
  let result := session.answer idf .espEventLoopCreateDefault
  let called := session.call idf .espEventLoopCreateDefault
  if result = ESP_OK then .ok { called with backend := { called.backend with ownsEventLoop := true } }
  else if result ≠ ESP_ERR_INVALID_STATE then .error (result, called.shutdown idf)
  else .ok called

def initWifi : Except (EspErr × WifiSession) WifiSession :=
  let result := session.answer idf .espWifiInit
  let called := session.call idf .espWifiInit
  if result ≠ ESP_OK then .error (result, called.shutdown idf) else .ok called

def startWifi : Except (EspErr × WifiSession) WifiSession :=
  let started := session.callAll idf [.espWifiSetStorageRam, .espWifiSetModeSta, .espWifiStart]
  if started.1 ≠ ESP_OK then .error (started.1, (started.2.call idf .espWifiDeinit).shutdown idf)
  else .ok { started.2 with backend := { started.2.backend with initialized := true } }

def bringUp : Except (EspErr × WifiSession) WifiSession :=
  if session.backend.initialized then .ok session
  else do
    let session ← session.initNetif idf
    let session ← session.createEventLoop idf
    let session ← session.initWifi idf
    session.startWifi idf

def setCountryCn : EspErr × WifiSession :=
  match session.bringUp idf with
  | .error returned => returned
  | .ok session =>
      session.callAll idf [.espWifiSetCountry {}, .espWifiSetBandModeAuto, .espWifiSetMaxTxPower 8]

def setChannel (primary : UInt8) : EspErr × WifiSession :=
  if primary ≠ 6 ∧ primary ≠ 149 then (ESP_ERR_INVALID_ARG, session)
  else (session.answer idf (.espWifiSetChannel primary), session.call idf (.espWifiSetChannel primary))

def transmit : ByteView → EspErr × WifiSession
  | .null _ => (ESP_ERR_INVALID_ARG, session)
  | .bytes frame =>
      if frame.length = 0 ∨ kMaxWifiFrameSize < frame.length then (ESP_ERR_INVALID_ARG, session)
      else (session.answer idf (.espWifi80211Tx frame), session.call idf (.espWifi80211Tx frame))

end WifiSession

/-- The methods of `WifiBackend`. -/
inductive WifiMethod where
  | setCountryCn
  | setChannel (primary : UInt8)
  | transmit (frame : ByteView)

namespace WifiSession

def invoke (idf : Idf) (session : WifiSession) : WifiMethod → EspErr × WifiSession
  | .setCountryCn => session.setCountryCn idf
  | .setChannel primary => session.setChannel idf primary
  | .transmit frame => session.transmit idf frame

def run (idf : Idf) (methods : List WifiMethod) : WifiSession :=
  methods.foldl (fun session method => (session.invoke idf method).2) {}

def destroy (idf : Idf) (session : WifiSession) : WifiSession := session.shutdown idf

end WifiSession

/-! ## What is acquired and released -/

inductive WifiResource where
  | netif
  | eventLoop
  | wifiDriver
  deriving DecidableEq

/-- A call that creates a resource takes it if it succeeds. A call that releases one gives it back. -/
def IdfCall.move : IdfCall × EspErr → Option (Move WifiResource)
  | (.espNetifInit, result) => if result = ESP_OK then some (.take .netif) else none
  | (.espEventLoopCreateDefault, result) => if result = ESP_OK then some (.take .eventLoop) else none
  | (.espWifiInit, result) => if result = ESP_OK then some (.take .wifiDriver) else none
  | (.espWifiDeinit, _) => some (.give .wifiDriver)
  | (.espEventLoopDeleteDefault, _) => some (.give .eventLoop)
  | (.espNetifDeinit, _) => some (.give .netif)
  | _ => none

def WifiSession.moves (session : WifiSession) : List (Move WifiResource) :=
  session.calls.filterMap IdfCall.move

end RidFirmware
