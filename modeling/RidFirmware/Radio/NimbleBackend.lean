import RidFirmware.Lib.Ledger
import RidFirmware.Lib.Service
import RidFirmware.Radio.CallbackTeardown

/-! The BLE backend over the NimBLE host: which advertising sets it has configured, what their data is, and
where the buffers go that it asks the host for. What a call of the host returns may depend on all calls
before it. -/

namespace RidFirmware
open Lib

def BLE_HS_EALREADY : Int := 2
def BLE_HCI_LE_PHY_1M : UInt8 := 1
def BLE_GAP_ADV_FAST_INTERVAL1_MIN : Nat := 48
def ESP_ERR_INVALID_SIZE : EspErr := 0x104

/-- `ble_gap_ext_adv_params`, as `configure` fills it in. -/
structure ExtAdvParams where
  legacyPdu : Bool
  ownAddrType : UInt8
  primaryPhy : UInt8 := BLE_HCI_LE_PHY_1M
  secondaryPhy : UInt8 := BLE_HCI_LE_PHY_1M
  txPower : Int := 127
  sid : UInt8
  itvlMin : Nat := BLE_GAP_ADV_FAST_INTERVAL1_MIN
  itvlMax : Nat := BLE_GAP_ADV_FAST_INTERVAL1_MIN
  deriving DecidableEq

/-- The calls of the host. `os_msys_get_pkthdr` returns a buffer or a null pointer; here it returns zero for
a buffer. The other calls for a buffer act on the one that was returned last. -/
inductive GapCall where
  | bleGapExtAdvConfigure (advInstance : UInt8) (parameters : ExtAdvParams)
  | osMsysGetPkthdr (size : Nat)
  | osMbufAppend (content : Bytes)
  | osMbufFreeChain
  | bleGapExtAdvSetData (advInstance : UInt8)
  | bleGapExtAdvStart (advInstance : UInt8) (duration maxEvents : Nat)
  | bleGapExtAdvStop (advInstance : UInt8)
  | bleGapExtAdvRemove (advInstance : UInt8)
  deriving DecidableEq

/-- What the host returns from a call, after the calls made so far. -/
abbrev Nimble := List (GapCall × Int) → GapCall → Int

structure NimbleSetup where
  ownAddressType : UInt8
  legacyInstance : UInt8 := 0
  extendedInstance : UInt8 := 1

namespace NimbleSetup

variable (setup : NimbleSetup)

def instances (index : Fin 2) : UInt8 :=
  if index = 0 then setup.legacyInstance else setup.extendedInstance

def instanceOf (mode : BleMode) : UInt8 := setup.instances (modeIndex mode)

def parameters (mode : BleMode) : ExtAdvParams where
  legacyPdu := decide (mode = .legacy)
  ownAddrType := setup.ownAddressType
  sid := setup.instanceOf mode

end NimbleSetup

/-- The backend with the calls it has made and what they returned. -/
structure NimbleSession where
  configured : Fin 2 → Bool := fun _ => false
  activeMode : BleMode := .legacy
  calls : List (GapCall × Int) := []

namespace NimbleSession

variable (setup : NimbleSetup) (nimble : Nimble) (session : NimbleSession)

def answer (call : GapCall) : Int := nimble session.calls call

def call (call : GapCall) : NimbleSession :=
  { session with calls := session.calls ++ [(call, session.answer nimble call)] }

/-- The first part of `configure`: the set of a mode is configured once. -/
def configureSet (mode : BleMode) : EspErr × NimbleSession :=
  if session.configured (modeIndex mode) then (ESP_OK, session)
  else
    let call := .bleGapExtAdvConfigure (setup.instanceOf mode) (setup.parameters mode)
    let result := session.answer nimble call
    let called := session.call nimble call
    if result ≠ 0 then (result, called)
    else (ESP_OK, { called with
      configured := Function.update called.configured (modeIndex mode) true })

/-- The second part of `configure`: the data of the set. -/
def setData (mode : BleMode) (content : Bytes) : EspErr × NimbleSession :=
  let buffer := session.answer nimble (.osMsysGetPkthdr content.length)
  let session := session.call nimble (.osMsysGetPkthdr content.length)
  if buffer ≠ 0 then (ESP_ERR_NO_MEM, session)
  else
    let appendResult := session.answer nimble (.osMbufAppend content)
    let session := session.call nimble (.osMbufAppend content)
    if appendResult ≠ 0 then (appendResult, session.call nimble .osMbufFreeChain)
    else
      let dataResult := session.answer nimble (.bleGapExtAdvSetData (setup.instanceOf mode))
      let session := session.call nimble (.bleGapExtAdvSetData (setup.instanceOf mode))
      if dataResult ≠ 0 then (dataResult, session)
      else (ESP_OK, { session with activeMode := mode })

def maximum (mode : BleMode) : Nat :=
  if mode = .legacy then kBleLegacyMaxPayloadSize else kBleExtendedMaxPayloadSize

def configure (mode : BleMode) : ByteView → EspErr × NimbleSession
  | .null _ => (ESP_ERR_INVALID_ARG, session)
  | .bytes content =>
      if content.length = 0 then (ESP_ERR_INVALID_ARG, session)
      else if maximum mode < content.length then (ESP_ERR_INVALID_SIZE, session)
      else
        let first := session.configureSet setup nimble mode
        if first.1 ≠ ESP_OK then first else first.2.setData setup nimble mode content

/-- No limit of time, and one advertising event. -/
def start : EspErr × NimbleSession :=
  let call := .bleGapExtAdvStart (setup.instanceOf session.activeMode) 0 1
  (session.answer nimble call, session.call nimble call)

def stop : EspErr × NimbleSession :=
  let call := .bleGapExtAdvStop (setup.instanceOf session.activeMode)
  let result := session.answer nimble call
  (if result = 0 ∨ result = BLE_HS_EALREADY then ESP_OK else result, session.call nimble call)

/-- One turn of the loop of `reset`. -/
def resetSet (firstError : EspErr) (index : Fin 2) : EspErr × NimbleSession :=
  if !session.configured index then (firstError, session)
  else
    let stopResult := session.answer nimble (.bleGapExtAdvStop (setup.instances index))
    let session := session.call nimble (.bleGapExtAdvStop (setup.instances index))
    let firstError :=
      if stopResult ≠ 0 ∧ stopResult ≠ BLE_HS_EALREADY ∧ firstError = ESP_OK then stopResult else firstError
    let removeResult := session.answer nimble (.bleGapExtAdvRemove (setup.instances index))
    let session := session.call nimble (.bleGapExtAdvRemove (setup.instances index))
    let firstError := if removeResult ≠ 0 ∧ firstError = ESP_OK then removeResult else firstError
    (firstError,
      if removeResult = 0 then { session with
        configured := Function.update session.configured index false } else session)

def reset : EspErr × NimbleSession :=
  let first := session.resetSet setup nimble ESP_OK 0
  first.2.resetSet setup nimble first.1 1

end NimbleSession

/-- The methods of `BleGapBackend` that call the host. -/
inductive BleMethod where
  | configure (mode : BleMode) (payload : ByteView)
  | start
  | stop
  | reset

def NimbleSession.invoke (setup : NimbleSetup) (nimble : Nimble) (session : NimbleSession) :
    BleMethod → EspErr × NimbleSession
  | .configure mode payload => session.configure setup nimble mode payload
  | .start => session.start setup nimble
  | .stop => session.stop setup nimble
  | .reset => session.reset setup nimble

def bleBackend (setup : NimbleSetup) (nimble : Nimble) : Service NimbleSession BleMethod EspErr where
  serve session method := session.invoke setup nimble method

/-! ## What the host has -/

structure AdvSet where
  parameters : ExtAdvParams
  data : Option Bytes := none
  deriving DecidableEq

/-- The advertising sets of the host, and the buffer in the hands of the backend. -/
structure NimbleHost where
  sets : UInt8 → Option AdvSet := fun _ => none
  buffer : Option Bytes := none

namespace NimbleHost

/-- A set exists from its configuration until it is removed. The host takes the buffer that it is given data
in, whether it takes the data or not. -/
def told (host : NimbleHost) (entry : GapCall × Int) : NimbleHost :=
  match entry.1 with
  | .bleGapExtAdvConfigure advInstance parameters =>
      if entry.2 = 0 then { host with sets := Function.update host.sets advInstance (some { parameters }) }
      else host
  | .osMsysGetPkthdr _ => if entry.2 = 0 then { host with buffer := some [] } else host
  | .osMbufAppend content =>
      if entry.2 = 0 then { host with buffer := host.buffer.map (· ++ content) } else host
  | .osMbufFreeChain => { host with buffer := none }
  | .bleGapExtAdvSetData advInstance =>
      if entry.2 = 0 then
        { sets := Function.update host.sets advInstance
            ((host.sets advInstance).map fun set => { set with data := host.buffer })
          buffer := none }
      else { host with buffer := none }
  | .bleGapExtAdvRemove advInstance =>
      if entry.2 = 0 then { host with sets := Function.update host.sets advInstance none } else host
  | _ => host

def after (calls : List (GapCall × Int)) : NimbleHost := calls.foldl told {}

theorem after_snoc (calls : List (GapCall × Int)) (entry : GapCall × Int) :
    after (calls ++ [entry]) = (after calls).told entry := by
  unfold after
  rw [List.foldl_append]
  rfl

end NimbleHost

/-- A buffer is taken where the host has one, and given back when it is freed or handed over. -/
def GapCall.move : GapCall × Int → Option (Move Unit)
  | (.osMsysGetPkthdr _, result) => if result = 0 then some (.take ()) else none
  | (.osMbufFreeChain, _) => some (.give ())
  | (.bleGapExtAdvSetData _, _) => some (.give ())
  | _ => none

def GapCall.started : GapCall × Int → Option Int
  | (.bleGapExtAdvStart _ _ _, result) => some result
  | _ => none

namespace NimbleSession

variable {setup : NimbleSetup} {nimble : Nimble} {session : NimbleSession}

def host (session : NimbleSession) : NimbleHost := NimbleHost.after session.calls

def moves (session : NimbleSession) : List (Move Unit) := session.calls.filterMap GapCall.move

@[simp] theorem host_call (call : GapCall) :
    (session.call nimble call).host = session.host.told (call, session.answer nimble call) :=
  NimbleHost.after_snoc session.calls _

theorem moves_call (call : GapCall) : (session.call nimble call).moves =
    session.moves ++ (GapCall.move (call, session.answer nimble call)).toList := by
  unfold moves NimbleSession.call
  rw [List.filterMap_append, List.filterMap_cons, List.filterMap_nil]
  cases GapCall.move (call, session.answer nimble call) <;> rfl

/-- The sets of the host are those that the backend has configured, and the backend holds one buffer or
none. -/
structure Steady (setup : NimbleSetup) (session : NimbleSession) (held : Option Bytes) : Prop where
  sets : ∀ mode, (session.host.sets (setup.instanceOf mode)).map AdvSet.parameters =
    if session.configured (modeIndex mode) then some (setup.parameters mode) else none
  elsewhere : ∀ advInstance, (∀ mode, advInstance ≠ setup.instanceOf mode) →
    session.host.sets advInstance = none
  buffer : session.host.buffer = held
  ledger : Ledger session.moves fun _ => held.isSome

theorem Steady.new (setup : NimbleSetup) : Steady setup {} none :=
  ⟨fun _ => rfl, fun _ _ => rfl, rfl, Ledger.start⟩

variable {held : Option Bytes}

theorem moves_silent (call : GapCall) (still : GapCall.move (call, session.answer nimble call) = none) :
    (session.call nimble call).moves = session.moves := by
  rw [moves_call, still, Option.toList_none, List.append_nil]

theorem Steady.keep (steady : Steady setup session held) {later : NimbleSession} {kept : Option Bytes}
    (sets : later.host.sets = session.host.sets) (configured : later.configured = session.configured)
    (buffer : later.host.buffer = kept) (ledger : Ledger later.moves fun _ => kept.isSome) :
    Steady setup later kept := by
  refine ⟨?_, ?_, buffer, ledger⟩
  · rw [sets, configured]
    exact steady.sets
  · rw [sets]
    exact steady.elsewhere

theorem Steady.call (steady : Steady setup session held) (call : GapCall)
    (same : session.host.told (call, session.answer nimble call) = session.host)
    (still : GapCall.move (call, session.answer nimble call) = none) :
    Steady setup (session.call nimble call) held := by
  have host : (session.call nimble call).host = session.host := (host_call call).trans same
  apply steady.keep (congrArg NimbleHost.sets host) rfl
  · rw [host, steady.buffer]
  · rw [moves_silent call still]
    exact steady.ledger

theorem instanceOf_inj (distinct : setup.legacyInstance ≠ setup.extendedInstance) {first second : BleMode} :
    setup.instanceOf first = setup.instanceOf second ↔ first = second := by
  cases first <;> cases second
  · exact iff_of_true rfl rfl
  · exact iff_of_false distinct (by decide)
  · exact iff_of_false distinct.symm (by decide)
  · exact iff_of_true rfl rfl

theorem modeIndex_inj {first second : BleMode} : modeIndex first = modeIndex second ↔ first = second := by
  cases first <;> cases second <;> decide

theorem Steady.update (distinct : setup.legacyInstance ≠ setup.extendedInstance)
    (steady : Steady setup session held) {later : NimbleSession} {kept : Option Bytes} (mode : BleMode)
    (set : Option AdvSet) (known : Bool)
    (sets : later.host.sets = Function.update session.host.sets (setup.instanceOf mode) set)
    (configured : later.configured = Function.update session.configured (modeIndex mode) known)
    (parameters : set.map AdvSet.parameters = if known then some (setup.parameters mode) else none)
    (buffer : later.host.buffer = kept) (ledger : Ledger later.moves fun _ => kept.isSome) :
    Steady setup later kept := by
  refine ⟨?_, ?_, buffer, ledger⟩
  · intro other
    rw [sets, configured]
    by_cases same : other = mode
    · rw [same, Function.update_self, Function.update_self]
      exact parameters
    · rw [Function.update_of_ne ((instanceOf_inj distinct).not.mpr same),
        Function.update_of_ne (modeIndex_inj.not.mpr same)]
      exact steady.sets other
  · intro advInstance foreign
    rw [sets, Function.update_of_ne (foreign mode)]
    exact steady.elsewhere advInstance foreign

theorem Steady.configureSet (nimble : Nimble) (distinct : setup.legacyInstance ≠ setup.extendedInstance)
    (steady : Steady setup session held) (mode : BleMode) :
    Steady setup (session.configureSet setup nimble mode).2 held ∧
      ((session.configureSet setup nimble mode).1 = ESP_OK →
        (session.configureSet setup nimble mode).2.configured (modeIndex mode) = true) := by
  unfold NimbleSession.configureSet
  dsimp only
  split_ifs with already failed
  · exact ⟨steady, fun _ => already⟩
  · exact ⟨steady.call _ (if_neg failed) rfl, fun succeeded => absurd succeeded failed⟩
  · rw [not_not] at failed
    have host : (session.call nimble (.bleGapExtAdvConfigure (setup.instanceOf mode)
        (setup.parameters mode))).host = { session.host with
          sets := Function.update session.host.sets (setup.instanceOf mode)
            (some { parameters := setup.parameters mode }) } := by
      rw [host_call]
      exact if_pos failed
    refine ⟨?_, fun _ => Function.update_self _ _ _⟩
    apply steady.update distinct mode (some { parameters := setup.parameters mode }) true
    · exact congrArg NimbleHost.sets host
    · rfl
    · rfl
    · exact (congrArg NimbleHost.buffer host).trans steady.buffer
    · exact (moves_silent (.bleGapExtAdvConfigure _ _) rfl).symm ▸ steady.ledger

/-! A buffer on its way from the pool to the host. -/

theorem take_unit {moves : List (Move Unit)} (ledger : Ledger moves fun _ => false) :
    Ledger (moves ++ [.take ()]) fun _ => true := by
  have taken : Ledger (moves ++ [.take ()]) (Function.update (fun _ => false) () true) := ledger.take rfl
  rwa [Function.update_eq_const_of_subsingleton] at taken

theorem give_unit {moves : List (Move Unit)} (ledger : Ledger moves fun _ => true) :
    Ledger (moves ++ [.give ()]) fun _ => false := by
  have given : Ledger (moves ++ [.give ()]) (Function.update (fun _ => true) () false) := ledger.give rfl
  rwa [Function.update_eq_const_of_subsingleton] at given

theorem Steady.getBuffer (steady : Steady setup session none) {size : Nat}
    (given : session.answer nimble (.osMsysGetPkthdr size) = 0) :
    Steady setup (session.call nimble (.osMsysGetPkthdr size)) (some []) := by
  have host : (session.call nimble (.osMsysGetPkthdr size)).host =
      { session.host with buffer := some [] } := (host_call _).trans (if_pos given)
  have taken : GapCall.move (.osMsysGetPkthdr size, session.answer nimble (.osMsysGetPkthdr size)) =
      some (.take ()) := if_pos given
  apply steady.keep
  · rw [host]
  · rfl
  · rw [host]
  · rw [moves_call, taken]
    exact take_unit steady.ledger

theorem Steady.append {content : Bytes} (steady : Steady setup session (some content)) {more : Bytes}
    (appended : session.answer nimble (.osMbufAppend more) = 0) :
    Steady setup (session.call nimble (.osMbufAppend more)) (some (content ++ more)) := by
  have host : (session.call nimble (.osMbufAppend more)).host =
      { session.host with buffer := session.host.buffer.map (· ++ more) } :=
    (host_call _).trans (if_pos appended)
  apply steady.keep
  · rw [host]
  · rfl
  · rw [host, steady.buffer]
    rfl
  · rw [moves_silent (.osMbufAppend more) rfl]
    exact steady.ledger

theorem Steady.free {content : Bytes} (steady : Steady setup session (some content)) :
    Steady setup (session.call nimble .osMbufFreeChain) none := by
  have host : (session.call nimble .osMbufFreeChain).host = { session.host with buffer := none } :=
    host_call _
  apply steady.keep
  · rw [host]
  · rfl
  · rw [host]
  · rw [moves_call]
    exact give_unit steady.ledger

variable (nimble)

theorem Steady.handOver (distinct : setup.legacyInstance ≠ setup.extendedInstance) {content : Bytes}
    (steady : Steady setup session (some content)) (mode : BleMode)
    (configured : session.configured (modeIndex mode) = true) :
    let call := .bleGapExtAdvSetData (setup.instanceOf mode)
    Steady setup (session.call nimble call) none ∧ (session.answer nimble call = 0 →
      (session.call nimble call).host.sets (setup.instanceOf mode) =
        some { parameters := setup.parameters mode, data := some content }) := by
  intro call
  have ledger : Ledger (session.call nimble call).moves fun _ => (none : Option Bytes).isSome := by
    rw [moves_call]
    exact give_unit steady.ledger
  have there := steady.sets mode
  rw [configured, if_pos rfl, Option.map_eq_some_iff] at there
  obtain ⟨set, found, parameters⟩ := there
  by_cases taken : session.answer nimble call = 0
  · have host : (session.call nimble call).host =
        { sets := Function.update session.host.sets (setup.instanceOf mode)
            (some { set with data := some content })
          buffer := none } := by
      rw [host_call]
      refine (if_pos taken).trans ?_
      rw [found, steady.buffer]
      rfl
    constructor
    · apply steady.update distinct mode (some { set with data := some content }) true
      · rw [host]
      · rw [← configured]
        exact (Function.update_eq_self _ _).symm
      · exact congrArg some parameters
      · rw [host]
      · exact ledger
    · intro _
      rw [host, ← parameters]
      exact Function.update_self _ _ _
  · have host : (session.call nimble call).host = { session.host with buffer := none } :=
      (host_call _).trans (if_neg taken)
    refine ⟨?_, fun succeeded => absurd succeeded taken⟩
    apply steady.keep
    · rw [host]
    · rfl
    · rw [host]
    · exact ledger

/-! ## The methods -/

/-- A mode is ready: its set has the data, and is the one that `start` starts. -/
structure Ready (setup : NimbleSetup) (session : NimbleSession) (mode : BleMode) (content : Bytes) : Prop where
  active : session.activeMode = mode
  set : session.host.sets (setup.instanceOf mode) =
    some { parameters := setup.parameters mode, data := some content }

theorem Steady.setData (distinct : setup.legacyInstance ≠ setup.extendedInstance)
    (steady : Steady setup session none) {mode : BleMode}
    (configured : session.configured (modeIndex mode) = true) (content : Bytes) :
    Steady setup (session.setData setup nimble mode content).2 none ∧
      ((session.setData setup nimble mode content).1 = ESP_OK →
        Ready setup (session.setData setup nimble mode content).2 mode content) := by
  unfold NimbleSession.setData
  dsimp only
  split_ifs with null refused failed
  · have silent : GapCall.move (.osMsysGetPkthdr content.length,
        session.answer nimble (.osMsysGetPkthdr content.length)) = none := if_neg null
    exact ⟨steady.call _ (if_neg null) silent, nofun⟩
  · rw [not_not] at null
    have appended := (steady.getBuffer null).call (.osMbufAppend content) (if_neg refused) rfl
    exact ⟨appended.free, fun succeeded => absurd succeeded refused⟩
  · rw [not_not] at null refused
    have handed := ((steady.getBuffer null).append refused).handOver nimble distinct mode configured
    exact ⟨handed.1, fun succeeded => absurd succeeded failed⟩
  · rw [not_not] at null refused failed
    obtain ⟨kept, taken⟩ := ((steady.getBuffer null).append refused).handOver nimble distinct mode configured
    exact ⟨⟨kept.sets, kept.elsewhere, kept.buffer, kept.ledger⟩, fun _ => ⟨rfl, taken failed⟩⟩

theorem Steady.configure (distinct : setup.legacyInstance ≠ setup.extendedInstance)
    (steady : Steady setup session none) (mode : BleMode) (payload : ByteView) :
    Steady setup (session.configure setup nimble mode payload).2 none ∧
      ((session.configure setup nimble mode payload).1 = ESP_OK → ∀ content, payload = .bytes content →
        Ready setup (session.configure setup nimble mode payload).2 mode content) := by
  cases payload with
  | null size => exact ⟨steady, nofun⟩
  | bytes content =>
    unfold NimbleSession.configure
    dsimp only
    split_ifs with empty large failed
    · exact ⟨steady, nofun⟩
    · exact ⟨steady, nofun⟩
    · exact ⟨(steady.configureSet nimble distinct mode).1, fun succeeded => absurd succeeded failed⟩
    · rw [not_not] at failed
      obtain ⟨first, known⟩ := steady.configureSet nimble distinct mode
      obtain ⟨second, ready⟩ := first.setData nimble distinct (known failed) content
      refine ⟨second, fun succeeded other same => ?_⟩
      obtain rfl := ByteView.bytes.inj same
      exact ready succeeded

theorem Steady.start (steady : Steady setup session none) :
    Steady setup (session.start setup nimble).2 none := steady.call _ rfl rfl

theorem Steady.stop (steady : Steady setup session none) :
    Steady setup (session.stop setup nimble).2 none := steady.call _ rfl rfl

theorem Steady.remove (distinct : setup.legacyInstance ≠ setup.extendedInstance)
    (steady : Steady setup session none) (mode : BleMode)
    (removed : session.answer nimble (.bleGapExtAdvRemove (setup.instanceOf mode)) = 0) :
    let called := session.call nimble (.bleGapExtAdvRemove (setup.instanceOf mode))
    Steady setup { called with
      configured := Function.update called.configured (modeIndex mode) false } none := by
  intro called
  have host : called.host = { session.host with
      sets := Function.update session.host.sets (setup.instanceOf mode) none } :=
    (host_call _).trans (if_pos removed)
  apply steady.update distinct mode none false
  · exact congrArg NimbleHost.sets host
  · rfl
  · rfl
  · exact (congrArg NimbleHost.buffer host).trans steady.buffer
  · exact (moves_silent (.bleGapExtAdvRemove _) rfl).symm ▸ steady.ledger

theorem Steady.resetSet (distinct : setup.legacyInstance ≠ setup.extendedInstance)
    (steady : Steady setup session none) (firstError : EspErr) (mode : BleMode) :
    let turned := session.resetSet setup nimble firstError (modeIndex mode)
    Steady setup turned.2 none ∧ (turned.1 = ESP_OK → firstError = ESP_OK ∧
      turned.2.configured = Function.update session.configured (modeIndex mode) false) := by
  intro turned
  cases configured : session.configured (modeIndex mode) with
  | false =>
    have same : turned = (firstError, session) := by
      refine if_pos ?_
      rw [configured]
      rfl
    rw [same]
    refine ⟨steady, fun succeeded => ⟨succeeded, ?_⟩⟩
    rw [← configured]
    exact (Function.update_eq_self _ _).symm
  | true =>
    let stopped := session.call nimble (.bleGapExtAdvStop (setup.instanceOf mode))
    let stopResult := session.answer nimble (.bleGapExtAdvStop (setup.instanceOf mode))
    let removeResult := stopped.answer nimble (.bleGapExtAdvRemove (setup.instanceOf mode))
    let called := stopped.call nimble (.bleGapExtAdvRemove (setup.instanceOf mode))
    let stopError :=
      if stopResult ≠ 0 ∧ stopResult ≠ BLE_HS_EALREADY ∧ firstError = ESP_OK then stopResult else firstError
    have same : turned = (if removeResult ≠ 0 ∧ stopError = ESP_OK then removeResult else stopError,
        if removeResult = 0 then { called with
          configured := Function.update called.configured (modeIndex mode) false } else called) := by
      refine if_neg ?_
      rw [configured]
      decide
    have waiting : Steady setup stopped none := steady.call _ rfl rfl
    rw [same]
    by_cases removed : removeResult = 0
    · rw [if_pos removed, if_neg (fun both => both.1 removed)]
      refine ⟨waiting.remove nimble distinct mode removed, fun succeeded => ⟨?_, rfl⟩⟩
      by_contra failed
      exact failed (by rwa [show stopError = firstError from if_neg fun both => failed both.2.2] at succeeded)
    · rw [if_neg removed]
      refine ⟨waiting.call _ (if_neg removed) rfl, fun succeeded => ?_⟩
      by_cases stopping : stopError = ESP_OK
      · rw [if_pos ⟨removed, stopping⟩] at succeeded
        exact absurd succeeded removed
      · rw [if_neg fun both => stopping both.2] at succeeded
        exact absurd succeeded stopping

theorem Steady.reset (distinct : setup.legacyInstance ≠ setup.extendedInstance)
    (steady : Steady setup session none) : Steady setup (session.reset setup nimble).2 none ∧
      ((session.reset setup nimble).1 = ESP_OK → ∀ advInstance,
        (session.reset setup nimble).2.host.sets advInstance = none) := by
  obtain ⟨first, legacy⟩ := steady.resetSet nimble distinct ESP_OK .legacy
  obtain ⟨second, extended⟩ := first.resetSet nimble distinct
    (session.resetSet setup nimble ESP_OK (modeIndex .legacy)).1 .extended
  replace second : Steady setup (session.reset setup nimble).2 none := second
  refine ⟨second, fun succeeded advInstance => ?_⟩
  obtain ⟨fine, last⟩ := extended succeeded
  have unconfigured (mode : BleMode) :
      (session.reset setup nimble).2.configured (modeIndex mode) = false := by
    refine (congrFun last (modeIndex mode)).trans ?_
    rw [(legacy fine).2]
    cases mode <;> rfl
  by_cases known : ∃ mode, advInstance = setup.instanceOf mode
  · obtain ⟨mode, rfl⟩ := known
    have none := second.sets mode
    rw [unconfigured mode] at none
    exact Option.map_eq_none_iff.mp none
  · exact second.elsewhere advInstance fun mode same => known ⟨mode, same⟩

theorem Steady.invoke (distinct : setup.legacyInstance ≠ setup.extendedInstance)
    (steady : Steady setup session none) (method : BleMethod) :
    Steady setup (session.invoke setup nimble method).2 none := by
  cases method with
  | configure mode payload => exact (steady.configure nimble distinct mode payload).1
  | start => exact steady.start nimble
  | stop => exact steady.stop nimble
  | reset => exact (steady.reset nimble distinct).1

/-! Only `start` starts advertising. -/

def Quietly (session later : NimbleSession) : Prop :=
  Continued (fun entry => GapCall.started entry = none) session.calls later.calls

theorem Quietly.call (session : NimbleSession) (call : GapCall)
    (silent : ∀ result, GapCall.started (call, result) = none) :
    session.Quietly (session.call nimble call) := Continued.snoc session.calls (silent _)

theorem configureSet_quietly (setup : NimbleSetup) (session : NimbleSession) (mode : BleMode) :
    session.Quietly (session.configureSet setup nimble mode).2 := by
  have called := Quietly.call nimble session
    (.bleGapExtAdvConfigure (setup.instanceOf mode) (setup.parameters mode)) fun _ => rfl
  unfold NimbleSession.configureSet
  dsimp only
  split_ifs
  · exact Continued.refl session.calls
  · exact called
  · exact called

theorem setData_quietly (setup : NimbleSetup) (session : NimbleSession) (mode : BleMode) (content : Bytes) :
    session.Quietly (session.setData setup nimble mode content).2 := by
  have given := Quietly.call nimble session (.osMsysGetPkthdr content.length) fun _ => rfl
  have appended := given.trans (Quietly.call nimble _ (.osMbufAppend content) fun _ => rfl)
  have handed := appended.trans
    (Quietly.call nimble _ (.bleGapExtAdvSetData (setup.instanceOf mode)) fun _ => rfl)
  unfold NimbleSession.setData
  dsimp only
  split_ifs
  · exact given
  · exact appended.trans (Quietly.call nimble _ .osMbufFreeChain fun _ => rfl)
  · exact handed
  · exact handed

theorem configure_quietly (setup : NimbleSetup) (session : NimbleSession) (mode : BleMode)
    (payload : ByteView) : session.Quietly (session.configure setup nimble mode payload).2 := by
  cases payload with
  | null size => exact Continued.refl session.calls
  | bytes content =>
    have first := configureSet_quietly nimble setup session mode
    unfold NimbleSession.configure
    dsimp only
    split_ifs
    · exact Continued.refl session.calls
    · exact Continued.refl session.calls
    · exact first
    · exact first.trans (setData_quietly nimble setup _ mode content)

theorem resetSet_quietly (setup : NimbleSetup) (session : NimbleSession) (firstError : EspErr)
    (index : Fin 2) : session.Quietly (session.resetSet setup nimble firstError index).2 := by
  have stopped := Quietly.call nimble session (.bleGapExtAdvStop (setup.instances index)) fun _ => rfl
  have removed := stopped.trans
    (Quietly.call nimble _ (.bleGapExtAdvRemove (setup.instances index)) fun _ => rfl)
  unfold NimbleSession.resetSet
  dsimp only
  split_ifs
  · exact Continued.refl session.calls
  all_goals exact removed

theorem reset_quietly (setup : NimbleSetup) (session : NimbleSession) :
    session.Quietly (session.reset setup nimble).2 :=
  (resetSet_quietly nimble setup session _ _).trans (resetSet_quietly nimble setup _ _ _)

end NimbleSession

end RidFirmware
