import RidFirmware.Lib.InFlight
import RidFirmware.Radio.BleTransport

/-! The completion callback of the NimBLE backend while advertising events are in flight. Each atomic
access of `set_completion_callback` and of a run of `gap_event` is a step of its own, sequentially
consistent, and any number of runs are interleaved with the calls that set and clear the callback. -/

namespace RidFirmware
open Lib

/-- Why advertising has ended: `BLE_HS_ETIMEOUT`, or any other reason. -/
inductive AdvReason where
  | timeout
  | other (raw : EspErr)
  deriving DecidableEq

def AdvReason.status : AdvReason → EspErr
  | .timeout => ESP_OK
  | .other raw => raw

/-- A GAP event: `BLE_GAP_EVENT_ADV_COMPLETE`, or one of another type. -/
inductive GapEvent where
  | advComplete (advInstance : UInt8) (reason : AdvReason) (numExtAdvEvents : UInt8)
  | other
  deriving DecidableEq

/-- The members of the backend that `gap_event` and `set_completion_callback` use. -/
structure NimbleBleGapBackend (Callback Context : Type) where
  instances : Fin 2 → UInt8
  activeMode : BleMode := .legacy
  completionCallback : Option Callback := none
  completionContext : Option Context := none
  callbacksInFlight : UInt32 := 0

variable {Callback Context : Type}

def modeIndex (mode : BleMode) : Fin 2 := if mode = .extended then 1 else 0

/-- What `gap_event` does before its first atomic access: the completion it will pass on, if the
event is there and is one of the active instance. -/
def NimbleBleGapBackend.completionOf (backend : NimbleBleGapBackend Callback Context) :
    Option GapEvent → Option BleCompletionEvent
  | some (.advComplete advInstance reason numExtAdvEvents) =>
      if advInstance ≠ backend.instances (modeIndex backend.activeMode) then none
      else some { status := reason.status, advertisingEventCount := numExtAdvEvents.toNat }
  | some .other => none
  | none => none

/-- The next access of a run of `gap_event`. While it is invoking, the callback runs. -/
inductive GapEventStep (Callback Context : Type) where
  | fetchAdd (completion : BleCompletionEvent)
  | loadCallback (completion : BleCompletionEvent)
  | loadContext (callback : Callback) (completion : BleCompletionEvent)
  | invoking (callback : Callback) (context : Option Context) (completion : BleCompletionEvent)
  | fetchSub
  | returned

/-- Where the owner of the callback stands: the constructor of the transport registers it, its
shutdown clears it. In between the owner knows what is registered. -/
inductive SetCallbackStep (Callback Context : Type) where
  | unregistered
  | storeContext (callback : Callback) (context : Context)
  | storeCallback (callback : Callback) (context : Context)
  | registered (callback : Callback) (context : Context)
  | clearCallback (callback : Callback) (context : Context)
  | waitForCallbacks (callback : Callback) (context : Context)
  | clearContext

/-- The backend, its owner and the runs of `gap_event`. -/
structure CallbackTasks (Callback Context : Type) where
  backend : NimbleBleGapBackend Callback Context
  setting : SetCallbackStep Callback Context := .unregistered
  runs : List (GapEventStep Callback Context) := []

/-- The registering call is made, the clearing call has returned, or the callback is invoked. -/
inductive CallbackEvent (Callback Context : Type) where
  | registering (callback : Callback) (context : Context)
  | cleared
  | invoked (callback : Callback) (context : Option Context) (completion : BleCompletionEvent)

namespace CallbackTasks

variable (tasks : CallbackTasks Callback Context)

/-- One access of `set_completion_callback`. -/
def setCompletionCallback : CallbackTasks Callback Context × List (CallbackEvent Callback Context) :=
  let backend := tasks.backend
  match tasks.setting with
  | .unregistered => (tasks, [])
  | .storeContext callback context =>
      ({ tasks with
        backend := { backend with completionContext := some context }
        setting := .storeCallback callback context }, [])
  | .storeCallback callback context =>
      ({ tasks with
        backend := { backend with completionCallback := some callback }
        setting := .registered callback context }, [])
  | .registered _ _ => (tasks, [])
  | .clearCallback callback context =>
      ({ tasks with
        backend := { backend with completionCallback := none }
        setting := .waitForCallbacks callback context }, [])
  | .waitForCallbacks _ _ =>
      if backend.callbacksInFlight ≠ 0 then (tasks, [])
      else ({ tasks with setting := .clearContext }, [])
  | .clearContext =>
      ({ tasks with
        backend := { backend with completionContext := none }
        setting := .unregistered }, [.cleared])

/-- One access of a run of `gap_event`, or the return of the callback it has invoked. -/
def gapEvent (index : Nat) : CallbackTasks Callback Context × List (CallbackEvent Callback Context) :=
  let backend := tasks.backend
  match tasks.runs[index]? with
  | none => (tasks, [])
  | some (.fetchAdd completion) =>
      ({ tasks with
        backend := { backend with callbacksInFlight := backend.callbacksInFlight + 1 }
        runs := tasks.runs.set index (.loadCallback completion) }, [])
  | some (.loadCallback completion) =>
      match backend.completionCallback with
      | none => ({ tasks with runs := tasks.runs.set index .fetchSub }, [])
      | some callback =>
          ({ tasks with runs := tasks.runs.set index (.loadContext callback completion) }, [])
  | some (.loadContext callback completion) =>
      let context := backend.completionContext
      ({ tasks with runs := tasks.runs.set index (.invoking callback context completion) },
        [.invoked callback context completion])
  | some (.invoking _ _ _) => ({ tasks with runs := tasks.runs.set index .fetchSub }, [])
  | some .fetchSub =>
      ({ tasks with
        backend := { backend with callbacksInFlight := backend.callbacksInFlight - 1 }
        runs := tasks.runs.set index .returned }, [])
  | some .returned => (tasks, [])

/-- Who does what next: the owner calls `set_completion_callback` or goes on in it, an event arrives
or one of those in flight goes on, or `configure` changes the mode. -/
inductive Turn (Callback Context : Type) where
  | register (callback : Callback) (context : Context)
  | clear
  | set
  | arrive (event : Option GapEvent)
  | gap (index : Nat)
  | configure (mode : BleMode)

def machine : Machine (CallbackTasks Callback Context) (Turn Callback Context)
    (CallbackEvent Callback Context) where
  step tasks
    | .register callback context =>
        match tasks.setting with
        | .unregistered =>
            ({ tasks with setting := .storeContext callback context }, [.registering callback context])
        | _ => (tasks, [])
    | .clear =>
        match tasks.setting with
        | .registered callback context =>
            ({ tasks with setting := .clearCallback callback context }, [])
        | _ => (tasks, [])
    | .set => tasks.setCompletionCallback
    | .arrive event =>
        match tasks.backend.completionOf event with
        | none => (tasks, [])
        | some completion => ({ tasks with runs := tasks.runs ++ [.fetchAdd completion] }, [])
    | .gap index => tasks.gapEvent index
    | .configure mode => ({ tasks with backend := { tasks.backend with activeMode := mode } }, [])

/-- The backend as its constructor leaves it. -/
def start (instances : Fin 2 → UInt8) : CallbackTasks Callback Context := { backend := { instances := instances } }

end CallbackTasks

/-! ## What is registered -/

/-- What is registered after an event, from the call on that registers it to the return of the call
that clears it. -/
def CallbackEvent.registration (before : Option (Callback × Context)) :
    CallbackEvent Callback Context → Option (Callback × Context)
  | .registering callback context => some (callback, context)
  | .cleared => none
  | .invoked _ _ _ => before

def registrationOf (log : List (CallbackEvent Callback Context)) : Option (Callback × Context) :=
  log.foldl CallbackEvent.registration none

/-- The callback is invoked while it is registered, with the context it is registered with. -/
def CallbackEvent.Guarded (registration : Option (Callback × Context)) :
    CallbackEvent Callback Context → Prop
  | .invoked callback context _ =>
      ∃ registered, context = some registered ∧ registration = some (callback, registered)
  | _ => True

def GapEventStep.inside : GapEventStep Callback Context → Bool
  | .fetchAdd _ | .returned => false
  | _ => true

def GapEventStep.running : GapEventStep Callback Context → Bool
  | .invoking _ _ _ => true
  | _ => false

def CallbackTasks.inFlight (tasks : CallbackTasks Callback Context) : Nat :=
  tasks.runs.countP GapEventStep.inside

/-! ## What holds at every step boundary -/

/-- What a run may hold: its callback, and the context that goes with it. -/
def GapEventStep.Holds (held : Option (Callback × Context)) : GapEventStep Callback Context → Prop
  | .loadContext callback _ => ∃ context, held = some (callback, context)
  | .invoking callback context _ => ∃ registered, held = some (callback, registered) ∧ context = some registered
  | _ => True

namespace SetCallbackStep

/-- What runs may hold: from the store of the callback to the end of the wait. -/
def held : SetCallbackStep Callback Context → Option (Callback × Context)
  | .registered callback context | .clearCallback callback context
  | .waitForCallbacks callback context => some (callback, context)
  | _ => none

/-- What the log shows as registered, as far as it matters: from the call to the end of the wait. -/
def given : SetCallbackStep Callback Context → Option (Callback × Context)
  | .storeContext callback context | .storeCallback callback context
  | .registered callback context | .clearCallback callback context
  | .waitForCallbacks callback context => some (callback, context)
  | _ => none

/-- What is stored in the backend. -/
def Stores (backend : NimbleBleGapBackend Callback Context) : SetCallbackStep Callback Context → Prop
  | .unregistered | .storeContext _ _ | .clearContext => backend.completionCallback = none
  | .storeCallback _ context | .waitForCallbacks _ context =>
      backend.completionCallback = none ∧ backend.completionContext = some context
  | .registered callback context | .clearCallback callback context =>
      backend.completionCallback = some callback ∧ backend.completionContext = some context

variable {setting : SetCallbackStep Callback Context} {backend : NimbleBleGapBackend Callback Context}

theorem given_of_held {pair : Callback × Context} (held : setting.held = some pair) :
    setting.given = some pair := by
  cases setting <;> first | exact held | cases held

theorem Stores.loaded (stores : setting.Stores backend) {callback : Callback}
    (loaded : backend.completionCallback = some callback) :
    ∃ context, setting.held = some (callback, context) := by
  cases setting with
  | registered _ context =>
    rw [Option.some.inj (stores.1.symm.trans loaded)]
    exact ⟨context, rfl⟩
  | clearCallback _ context =>
    rw [Option.some.inj (stores.1.symm.trans loaded)]
    exact ⟨context, rfl⟩
  | unregistered => cases stores.symm.trans loaded
  | storeContext _ _ => cases stores.symm.trans loaded
  | clearContext => cases stores.symm.trans loaded
  | storeCallback _ _ => cases stores.1.symm.trans loaded
  | waitForCallbacks _ _ => cases stores.1.symm.trans loaded

theorem Stores.context (stores : setting.Stores backend) {callback : Callback} {context : Context}
    (held : setting.held = some (callback, context)) : backend.completionContext = some context := by
  cases setting with
  | registered _ _ =>
    cases held
    exact stores.2
  | clearCallback _ _ =>
    cases held
    exact stores.2
  | waitForCallbacks _ _ =>
    cases held
    exact stores.2
  | _ => cases held

theorem Stores.congr (stores : setting.Stores backend) {later : NimbleBleGapBackend Callback Context}
    (callback : later.completionCallback = backend.completionCallback)
    (context : later.completionContext = backend.completionContext) : setting.Stores later := by
  cases setting <;> simpa [Stores, callback, context] using stores

end SetCallbackStep

namespace GapEventStep

variable {step : GapEventStep Callback Context}

theorem Holds.of_none (holds : step.Holds none) (held : Option (Callback × Context)) : step.Holds held := by
  cases step with
  | loadContext _ _ => cases holds with | intro _ none => cases none
  | invoking _ _ _ => cases holds with | intro _ none => cases none.1
  | _ => trivial

theorem holds_of_outside (outside : step.inside = false) (held : Option (Callback × Context)) :
    step.Holds held := by
  cases step with
  | loadContext _ _ => cases outside
  | invoking _ _ _ => cases outside
  | _ => trivial

theorem not_running_of_holds_none (holds : step.Holds none) : step.running = false := by
  cases step with
  | invoking _ _ _ => cases holds with | intro _ none => cases none.1
  | _ => rfl

end GapEventStep

/-- The counter counts, the memory is as the owner left it, and no run holds more than it may. -/
structure CallbackGuarded (tasks : CallbackTasks Callback Context)
    (log : List (CallbackEvent Callback Context)) : Prop where
  counted : InFlight.Counted GapEventStep.inside tasks.backend.callbacksInFlight tasks.runs
  stores : tasks.setting.Stores tasks.backend
  holds : ∀ step ∈ tasks.runs, step.Holds tasks.setting.held
  given : ∀ pair, tasks.setting.given = some pair → registrationOf log = some pair

/-- A step after a log leads to a guarded state, and it is observed once at most, as it should be. -/
def CallbackNext (log : List (CallbackEvent Callback Context))
    (next : CallbackTasks Callback Context × List (CallbackEvent Callback Context)) : Prop :=
  CallbackGuarded next.1 (log ++ next.2) ∧
    (next.2 = [] ∨ ∃ event, next.2 = [event] ∧ event.Guarded (registrationOf log))

theorem CallbackNext.silent {later : CallbackTasks Callback Context}
    {log : List (CallbackEvent Callback Context)} (guarded : CallbackGuarded later log) :
    CallbackNext log (later, []) := by
  constructor
  · rwa [List.append_nil]
  · exact .inl rfl

theorem CallbackNext.shown {later : CallbackTasks Callback Context}
    {log : List (CallbackEvent Callback Context)} {event : CallbackEvent Callback Context}
    (guarded : CallbackGuarded later (log ++ [event])) (fine : event.Guarded (registrationOf log)) :
    CallbackNext log (later, [event]) :=
  ⟨guarded, .inr ⟨event, rfl, fine⟩⟩

theorem registrationOf_append (log events : List (CallbackEvent Callback Context)) :
    registrationOf (log ++ events) = events.foldl CallbackEvent.registration (registrationOf log) :=
  List.foldl_append

namespace CallbackGuarded

theorem start (instances : Fin 2 → UInt8) :
    CallbackGuarded (CallbackTasks.start instances : CallbackTasks Callback Context) [] :=
  ⟨InFlight.Counted.empty, rfl, nofun, nofun⟩

variable {tasks : CallbackTasks Callback Context} {log : List (CallbackEvent Callback Context)}

theorem holds_set (guarded : CallbackGuarded tasks log) (index : Nat)
    {later : GapEventStep Callback Context} (holds : later.Holds tasks.setting.held) :
    ∀ step ∈ tasks.runs.set index later, step.Holds tasks.setting.held := by
  intro step member
  rcases List.mem_or_eq_of_mem_set member with old | rfl
  · exact guarded.holds step old
  · exact holds

theorem gapEvent (guarded : CallbackGuarded tasks log) (index : Nat) :
    CallbackNext log (tasks.gapEvent index) := by
  unfold CallbackTasks.gapEvent
  cases here : tasks.runs[index]? with
  | none => exact .silent guarded
  | some step =>
    have held := guarded.holds step (List.mem_of_getElem? here)
    cases step with
    | fetchAdd completion =>
      exact .silent {
        counted := guarded.counted.enter here rfl rfl
        stores := guarded.stores.congr rfl rfl
        holds := guarded.holds_set index trivial
        given := guarded.given }
    | loadCallback completion =>
      dsimp only
      cases loaded : tasks.backend.completionCallback with
      | none =>
        exact .silent { guarded with
          counted := guarded.counted.stay here rfl
          holds := guarded.holds_set index trivial }
      | some callback =>
        exact .silent { guarded with
          counted := guarded.counted.stay here rfl
          holds := guarded.holds_set index (guarded.stores.loaded loaded) }
    | loadContext callback completion =>
      rcases held with ⟨context, held⟩
      have stored := guarded.stores.context held
      have registered := guarded.given _ (SetCallbackStep.given_of_held held)
      apply CallbackNext.shown
      · exact {
          counted := guarded.counted.stay here rfl
          stores := guarded.stores
          holds := guarded.holds_set index ⟨context, held, stored⟩
          given := fun pair known => by
            rw [registrationOf_append]
            exact guarded.given pair known }
      · exact ⟨context, stored, registered⟩
    | invoking callback context completion =>
      exact .silent { guarded with
        counted := guarded.counted.stay here rfl
        holds := guarded.holds_set index trivial }
    | fetchSub =>
      exact .silent {
        counted := guarded.counted.leave here rfl rfl
        stores := guarded.stores.congr rfl rfl
        holds := guarded.holds_set index trivial
        given := guarded.given }
    | returned => exact .silent guarded

theorem holds_any (guarded : CallbackGuarded tasks log) (free : tasks.setting.held = none)
    (held : Option (Callback × Context)) : ∀ step ∈ tasks.runs, step.Holds held := by
  intro step member
  have holds := guarded.holds step member
  rw [free] at holds
  exact holds.of_none held

theorem setCompletionCallback (guarded : CallbackGuarded tasks log) (few : tasks.inFlight < 2 ^ 32) :
    CallbackNext log tasks.setCompletionCallback := by
  rcases tasks with ⟨backend, setting, runs⟩
  cases setting with
  | unregistered => exact .silent guarded
  | registered callback context => exact .silent guarded
  | storeContext callback context =>
    exact .silent {
      counted := guarded.counted
      stores := ⟨guarded.stores, rfl⟩
      holds := guarded.holds
      given := guarded.given }
  | storeCallback callback context =>
    exact .silent {
      counted := guarded.counted
      stores := ⟨rfl, guarded.stores.2⟩
      holds := guarded.holds_any rfl _
      given := guarded.given }
  | clearCallback callback context =>
    exact .silent {
      counted := guarded.counted
      stores := ⟨rfl, guarded.stores.2⟩
      holds := guarded.holds
      given := guarded.given }
  | waitForCallbacks callback context =>
    unfold CallbackTasks.setCompletionCallback
    dsimp only
    split_ifs with zero
    · exact .silent guarded
    · have outside := guarded.counted.none_inside (not_not.mp zero) few
      exact .silent {
        counted := guarded.counted
        stores := guarded.stores.1
        holds := fun step member => GapEventStep.holds_of_outside (outside step member) _
        given := nofun }
  | clearContext =>
    apply CallbackNext.shown
    · exact {
        counted := guarded.counted
        stores := guarded.stores
        holds := guarded.holds
        given := nofun }
    · trivial

/-- One turn, as long as fewer than 2^32 runs are in flight. -/
theorem step (guarded : CallbackGuarded tasks log) (few : tasks.inFlight < 2 ^ 32)
    (turn : CallbackTasks.Turn Callback Context) :
    CallbackNext log (CallbackTasks.machine.step tasks turn) := by
  cases turn with
  | set => exact guarded.setCompletionCallback few
  | gap index => exact guarded.gapEvent index
  | register callback context =>
    rcases tasks with ⟨backend, setting, runs⟩
    cases setting with
    | unregistered =>
      apply CallbackNext.shown
      · exact {
          counted := guarded.counted
          stores := guarded.stores
          holds := guarded.holds
          given := fun pair known => by
            rw [registrationOf_append]
            exact known }
      · trivial
    | _ => exact .silent guarded
  | clear =>
    rcases tasks with ⟨backend, setting, runs⟩
    cases setting with
    | registered callback context =>
      exact .silent {
        counted := guarded.counted
        stores := guarded.stores
        holds := guarded.holds
        given := guarded.given }
    | _ => exact .silent guarded
  | arrive event =>
    dsimp only [CallbackTasks.machine]
    cases passed : tasks.backend.completionOf event with
    | none => exact .silent guarded
    | some completion =>
      have newcomer : ∀ step ∈ tasks.runs ++ [.fetchAdd completion], step.Holds tasks.setting.held := by
        intro step member
        rcases List.mem_append.mp member with old | new
        · exact guarded.holds step old
        · rw [List.mem_singleton.mp new]
          trivial
      exact .silent { guarded with
        counted := guarded.counted.arrive rfl
        holds := newcomer }
  | configure mode =>
    exact .silent {
      counted := guarded.counted
      stores := guarded.stores.congr rfl rfl
      holds := guarded.holds
      given := guarded.given }

end CallbackGuarded

/-- A turn brings in one run at most. -/
theorem CallbackTasks.step_runs (tasks : CallbackTasks Callback Context) (turn : Turn Callback Context) :
    (machine.step tasks turn).1.runs.length ≤ tasks.runs.length + 1 := by
  rcases tasks with ⟨backend, setting, runs⟩
  cases turn with
  | register callback context => cases setting <;> exact Nat.le_succ _
  | clear => cases setting <;> exact Nat.le_succ _
  | set =>
    cases setting with
    | waitForCallbacks callback context =>
      dsimp only [machine, setCompletionCallback]
      split_ifs <;> exact Nat.le_succ _
    | _ => exact Nat.le_succ _
  | arrive event =>
    dsimp only [machine]
    split
    · exact Nat.le_succ _
    · simp
  | gap index =>
    dsimp only [machine, gapEvent]
    split
    · exact Nat.le_succ _
    · simp
    · split <;> simp
    · simp
    · simp
    · simp
    · exact Nat.le_succ _
  | configure mode => exact Nat.le_succ _

theorem CallbackTasks.inFlight_le (instances : Fin 2 → UInt8) (turns : List (Turn Callback Context)) :
    (machine.run (start instances) turns).1.inFlight ≤ turns.length := by
  have arrived : (machine.run (start instances) turns).1.runs.length ≤ turns.length := by
    induction turns using List.reverseRecOn with
    | nil => exact le_rfl
    | append_singleton earlier turn ih =>
      rw [Machine.run_snoc, List.length_append, List.length_singleton]
      exact (step_runs _ turn).trans (Nat.succ_le_succ ih)
  exact List.countP_le_length.trans arrived

/-- A callback is torn down safely when fewer than 2^32 runs of `gap_event` are in flight at any time:
it is only ever invoked while it is registered, with the context it is registered with, and when the
clearing call has returned none runs. -/
theorem callback_teardown (instances : Fin 2 → UInt8) (turns : List (CallbackTasks.Turn Callback Context))
    (few : ∀ before, before <+: turns →
      (CallbackTasks.machine.run (CallbackTasks.start instances) before).1.inFlight < 2 ^ 32) :
    let ran := CallbackTasks.machine.run (CallbackTasks.start instances) turns
    (∀ before callback context completion after,
      ran.2 = before ++ .invoked callback context completion :: after →
      ∃ registered, context = some registered ∧ registrationOf before = some (callback, registered)) ∧
    (ran.1.setting = .unregistered → ∀ step ∈ ran.1.runs, step.running = false) := by
  have allowed : ∀ before turn, before ++ [turn] <+: turns →
      (CallbackTasks.machine.run (CallbackTasks.start instances) before).1.inFlight < 2 ^ 32 :=
    fun before turn within => few before ((List.prefix_append before [turn]).trans within)
  have guarded := CallbackTasks.machine.run_induction CallbackGuarded
    (fun tasks _ => tasks.inFlight < 2 ^ 32)
    (fun tasks log turn guarded few => (guarded.step few turn).1)
    (CallbackTasks.start instances) (CallbackGuarded.start instances) turns allowed
  have invoked := CallbackTasks.machine.run_each CallbackGuarded
    (fun before event => event.Guarded (registrationOf before))
    (fun tasks _ => tasks.inFlight < 2 ^ 32)
    (fun tasks log turn guarded few => (guarded.step few turn).1)
    (fun tasks log turn guarded few => (guarded.step few turn).2)
    (CallbackTasks.start instances) (CallbackGuarded.start instances) turns allowed
  constructor
  · intro before callback context completion after split
    exact invoked before _ after split
  · intro cleared step member
    have holds := guarded.holds step member
    rw [cleared] at holds
    exact GapEventStep.not_running_of_holds_none holds

/-- A clear that has to wait for the run that has loaded the callback before. -/
def clearDuringRun : List (CallbackTasks.Turn Nat Nat) :=
  [.register 1 7, .set, .set, .arrive (some (.advComplete 0 .timeout 1)), .gap 0, .gap 0, .clear, .set, .set,
    .gap 0, .gap 0, .gap 0, .set, .set]

theorem callback_teardown_waits :
    let ran := CallbackTasks.machine.run (CallbackTasks.start fun _ => 0) clearDuringRun
    ran.2 = [.registering 1 7, .invoked 1 (some 7) { advertisingEventCount := 1 }, .cleared] ∧
    (∀ before callback context completion after,
      ran.2 = before ++ .invoked callback context completion :: after →
      ∃ registered, context = some registered ∧ registrationOf before = some (callback, registered)) ∧
    (ran.1.setting = .unregistered → ∀ step ∈ ran.1.runs, step.running = false) := by
  refine ⟨rfl, callback_teardown (fun _ => 0) clearDuringRun ?_⟩
  intro before within
  have short : before.length ≤ 14 := within.length_le
  have few := CallbackTasks.inFlight_le (fun _ => 0) before
  omega

/-! ## 2^32 runs in flight -/

namespace CallbackTasks

variable {backend : NimbleBleGapBackend Callback Context} {event : Option GapEvent}
  {completion : BleCompletionEvent}

/-- Events arrive, each before the one before has gone on from the counter. -/
def crowd (event : Option GapEvent) (count : Nat) : List (Turn Callback Context) :=
  (List.range count).flatMap fun index => [.arrive event, .gap index]

/-- One more event arrives behind the others and enters. -/
theorem run_next (passed : backend.completionOf event = some completion)
    (setting : SetCallbackStep Callback Context)
    (runs : List (GapEventStep Callback Context)) :
    machine.run ⟨backend, setting, runs⟩ [.arrive event, .gap runs.length] =
      (⟨{ backend with callbacksInFlight := backend.callbacksInFlight + 1 }, setting,
        runs ++ [.loadCallback completion]⟩, []) := by
  simp [Machine.run, machine, passed, gapEvent]

theorem run_crowd (passed : backend.completionOf event = some completion)
    (none : backend.callbacksInFlight = 0) (setting : SetCallbackStep Callback Context) (count : Nat) :
    machine.run ⟨backend, setting, []⟩ (crowd event count) =
      (⟨{ backend with callbacksInFlight := UInt32.ofNat count }, setting,
        List.replicate count (.loadCallback completion)⟩, []) := by
  induction count with
  | zero =>
    have same : { backend with callbacksInFlight := UInt32.ofNat 0 } = backend := by
      rw [show UInt32.ofNat 0 = 0 from rfl, ← none]
    rw [same]
    rfl
  | succ count ih =>
    have still : NimbleBleGapBackend.completionOf
        { backend with callbacksInFlight := UInt32.ofNat count } event = some completion := passed
    have next := run_next still setting (List.replicate count (.loadCallback completion))
    rw [List.length_replicate] at next
    unfold crowd at *
    rw [List.range_succ, List.flatMap_append, Machine.run_append, ih, List.flatMap_singleton, next,
      List.replicate_succ', UInt32.ofNat_add]
    rfl

/-- With the counter at zero the clear does not wait for a run that has loaded the callback. -/
theorem run_unguarded (instances : Fin 2 → UInt8) (mode : BleMode) (callback : Callback) (context : Context)
    (rest : List (GapEventStep Callback Context)) :
    (machine.run ⟨⟨instances, mode, some callback, some context, 0⟩, .registered callback context,
        .loadCallback completion :: rest⟩ [.gap 0, .clear, .set, .set, .set, .gap 0]).2 =
      [.cleared, .invoked callback none completion] := rfl

end CallbackTasks

theorem invoked_after_clear (count : Nat) (wraps : UInt32.ofNat (count + 1) = 0) :
    ∃ turns : List (CallbackTasks.Turn Nat Nat),
      (CallbackTasks.machine.run (CallbackTasks.start fun _ => 0) turns).2 =
        [.registering 1 7, .cleared, .invoked 1 none { advertisingEventCount := 1 }] := by
  have passed : NimbleBleGapBackend.completionOf ⟨fun _ => 0, .legacy, some 1, some 7, 0⟩
      (some (.advComplete 0 .timeout 1)) = some { advertisingEventCount := 1 } := rfl
  have crowded := CallbackTasks.run_crowd passed rfl (.registered 1 7) (count + 1)
  rw [wraps, List.replicate_succ] at crowded
  have entered : CallbackTasks.machine.run (CallbackTasks.start fun _ => 0) [.register 1 7, .set, .set] =
      (⟨⟨fun _ => 0, .legacy, some 1, some 7, 0⟩, .registered 1 7, []⟩, [.registering 1 7]) := rfl
  refine ⟨[.register 1 7, .set, .set] ++ CallbackTasks.crowd (some (.advComplete 0 .timeout 1)) (count + 1) ++
    [.gap 0, .clear, .set, .set, .set, .gap 0], ?_⟩
  rw [Machine.run_append, Machine.run_append, entered, crowded, CallbackTasks.run_unguarded]
  rfl

/-- With 2^32 runs in flight the counter is zero, and the callback is invoked after the clear. -/
theorem in_flight_counter_wraps :
    ¬∀ turns : List (CallbackTasks.Turn Nat Nat),
      ∀ before callback context completion after,
        (CallbackTasks.machine.run (CallbackTasks.start fun _ => 0) turns).2 =
          before ++ .invoked callback context completion :: after →
        ∃ registered, context = some registered ∧
          registrationOf before = some (callback, registered) := by
  intro safe
  rcases invoked_after_clear (2 ^ 32 - 1) (by decide) with ⟨turns, log⟩
  rcases safe turns [.registering 1 7, .cleared] 1 none _ [] log with ⟨_, absent, _⟩
  cases absent

end RidFirmware
