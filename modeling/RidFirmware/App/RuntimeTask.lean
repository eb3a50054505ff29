import RidFirmware.App.Switch
import RidFirmware.Radio.WifiDrain
import RidFirmware.Runtime.Pace

/-! The loop of `runtime_task`: a tick, polls of the Wi-Fi coordinator as long as something waits, and a
poll of the BLE transport. Where no more messages come due between two iterations than the coordinator is
polled in one, a Wi-Fi radio that works never falls behind. -/

namespace RidFirmware
open Lib Lib.Ieee

def kMaxWifiPollsPerTick : Nat := 8

/-- The polls of an iteration, until nothing waits or a poll fails. -/
def serveWifi (nowMs : Nat) : List WifiAnswers → RadioCoordinator → RadioCoordinator × List WifiEvent
  | [], coordinator => (coordinator, [])
  | answers :: rest, coordinator =>
      let pending := coordinator.pendingCount .band0 + coordinator.pendingCount .band1
      if pending = 0 then (coordinator, [])
      else
        let polled := coordinator.poll nowMs answers
        if polled.result ≠ ESP_OK then (polled.next, polled.events)
        else
          let served := serveWifi nowMs rest polled.next
          (served.1, polled.events ++ served.2)

/-- An iteration of the loop, a configuration that the shell applies between two, and a completion from
the host task. -/
inductive TaskInput where
  | iterate (nowMs : Nat) (wifi : Vector WifiAnswers kMaxWifiPollsPerTick) (ble : BleAnswers)
  | apply (config : SystemConfig) (nowMs : Nat)
  | completion (event : BleCompletionEvent)

inductive TaskEvent where
  | runtime (event : RuntimeEvent)
  | wifi (event : WifiEvent)
  | ble (event : BleEvent)

section
variable {Number Engine : Type} (env : RuntimeEnv Number Engine Radios)

/-- The body of the loop. Nothing happens before a configuration runs. -/
def runtimeTask (system : System Engine) (nowMs : Nat) (wifi : List WifiAnswers) (ble : BleAnswers) :
    System Engine × List TaskEvent :=
  if system.runtime.running then
    let ticked := system.runtime.tick env.withRadios system.radios nowMs
    let served := serveWifi nowMs wifi ticked.2.2.1.wifi
    let polled := ticked.2.2.1.ble.poll nowMs ble
    ({ runtime := ticked.2.1, radios := { wifi := served.1, ble := polled.next } },
      ticked.2.2.2.map .runtime ++ served.2.map .wifi ++ polled.events.map .ble)
  else (system, [])

def taskMachine : Machine (System Engine) TaskInput TaskEvent where
  step system
    | .iterate nowMs wifi ble => runtimeTask env system nowMs wifi.toList ble
    | .apply config nowMs =>
        ({ system with runtime := (system.runtime.apply env.withRadios config nowMs).2 }, [])
    | .completion event =>
        ({ system with radios := { system.radios with
          ble := system.radios.ble.enqueueCompletion event } }, [])

end

/-! The pace of the inputs. -/

/-- The configuration applied last, its aircraft, and the first time that no tick has seen. -/
structure Applied where
  config : SystemConfig
  aircraft : List AircraftConfig
  boundMs : Nat

def Applied.after (sha256 : Sha256) (device : DeviceId) (applied : Option Applied) :
    TaskInput → Option Applied
  | .iterate nowMs _ _ => applied.map fun applied => { applied with boundMs := nowMs + 1 }
  | .apply config nowMs =>
      match validateAndExpand sha256 config device with
      | .error _ => applied
      | .ok aircraft => some ⟨config, aircraft, nowMs⟩
  | .completion _ => applied

/-- The time does not go back, and the coordinator is polled often enough: as often as the fleet has
messages, or, where all of them have one period, as often as messages come due up to now. -/
structure Applied.Paced (applied : Applied) (nowMs : Nat) : Prop where
  ordered : applied.boundMs ≤ nowMs + 1
  enough : emissionSlots applied.aircraft ≤ kMaxWifiPollsPerTick ∨ ∃ period,
    (∀ item ∈ applied.aircraft, ∀ kind, applied.config.periodOf item kind = period) ∧
      ((nowMs + 1 - applied.boundMs) * emissionSlots applied.aircraft) ⌈/⌉ period ≤ kMaxWifiPollsPerTick

/-- Every iteration is paced. -/
def PacedFrom (sha256 : Sha256) (device : DeviceId) (inputs : List TaskInput) : Prop :=
  ∀ before nowMs wifi ble, before ++ [.iterate nowMs wifi ble] <+: inputs →
    ∀ applied ∈ before.foldl (Applied.after sha256 device) none, applied.Paced nowMs

/-- Every poll of the coordinator meets a backend that works. -/
def TaskInput.Healthy : TaskInput → Prop
  | .iterate _ wifi _ => ∀ answers ∈ wifi.toList, answers.Healthy
  | _ => True

def ScheduledPayload.onWifi (payload : ScheduledPayload) : Bool :=
  decide (payload.transport = .wifi24 ∨ payload.transport = .wifi58)

/-- The Wi-Fi payloads that the ticks of a log have made. -/
def TaskEvent.produced : TaskEvent → Option ScheduledPayload
  | .runtime (.submitted payload _) => if payload.onWifi then some payload else none
  | _ => none

def TaskEvent.settled : TaskEvent → Option WifiEvent
  | .wifi event => if event.settles then some event else none
  | _ => none

def ScheduledPayload.sentInTime (payload : ScheduledPayload) : WifiEvent :=
  .transmit payload.deadlineMs payload ESP_OK

/-- No Wi-Fi payload of a log is turned away or dropped: each is sent once, at the time it was made for. -/
structure KeepsUp (log : List TaskEvent) : Prop where
  taken : ∀ payload taken, .runtime (.submitted payload taken) ∈ log → payload.onWifi = true → taken = true
  sent : (log.filterMap TaskEvent.settled).Perm
    ((log.filterMap TaskEvent.produced).map ScheduledPayload.sentInTime)

theorem KeepsUp.append {before after : List TaskEvent} (first : KeepsUp before) (second : KeepsUp after) :
    KeepsUp (before ++ after) := by
  constructor
  · intro payload taken member onWifi
    rcases List.mem_append.mp member with early | late
    · exact first.taken payload taken early onWifi
    · exact second.taken payload taken late onWifi
  · rw [List.filterMap_append, List.filterMap_append, List.map_append]
    exact first.sent.append second.sent

theorem KeepsUp.nil : KeepsUp [] := ⟨nofun, .nil⟩

/-! The polls of one iteration. -/

theorem serveWifi_drains {nowMs : Nat} {polls : List WifiAnswers} {coordinator : RadioCoordinator}
    (free : coordinator.retryAtMs = 0) (healthy : ∀ answers ∈ polls, answers.Healthy)
    (fresh : ∀ payload ∈ coordinator.waiting, payload.expired nowMs = false)
    (enough : coordinator.waiting.length ≤ polls.length) :
    (serveWifi nowMs polls coordinator).1.waiting = [] ∧
      (serveWifi nowMs polls coordinator).1.retryAtMs = 0 ∧
      ((serveWifi nowMs polls coordinator).2.filter WifiEvent.settles).Perm
        (coordinator.waiting.map (.transmit nowMs · ESP_OK)) := by
  induction polls generalizing coordinator with
  | nil =>
    have empty := List.length_eq_zero_iff.mp (Nat.le_zero.mp enough)
    refine ⟨empty, free, ?_⟩
    rw [empty]
    rfl
  | cons answers rest ih =>
    by_cases empty : coordinator.waiting = []
    · have none : coordinator.pendingCount .band0 + coordinator.pendingCount .band1 = 0 := by
        have length := congrArg List.length empty
        rw [RadioCoordinator.waiting, List.length_append] at length
        exact length
      unfold serveWifi
      dsimp only
      rw [if_pos none, empty]
      exact ⟨rfl, free, .nil⟩
    · have busy := RadioCoordinator.busy_of_waiting empty
      have some : ¬coordinator.pendingCount .band0 + coordinator.pendingCount .band1 = 0 := by
        rw [Nat.add_eq_zero_iff]
        exact busy
      obtain ⟨payload, result, sent, ready, taken⟩ :=
        RadioCoordinator.poll_healthy (healthy answers List.mem_cons_self) free busy fresh
      have later : ∀ payload ∈ (coordinator.poll nowMs answers).next.waiting,
          payload.expired nowMs = false := by
        intro payload waits
        exact fresh payload (taken.mem_iff.mpr (List.mem_cons_of_mem _ waits))
      have shorter : (coordinator.poll nowMs answers).next.waiting.length ≤ rest.length := by
        have length := taken.length_eq
        rw [List.length_cons] at length enough
        omega
      obtain ⟨drained, still, all⟩ := @ih (coordinator.poll nowMs answers).next ready
        (fun answers member => healthy answers (List.mem_cons_of_mem _ member)) later shorter
      unfold serveWifi
      dsimp only
      rw [if_neg some, if_neg (not_not.mpr result)]
      refine ⟨drained, still, ?_⟩
      rw [List.filter_append, sent]
      exact (all.cons _).trans (taken.map (WifiEvent.transmit nowMs · ESP_OK)).symm

/-! The tick of one iteration. -/

/-- A tick has put its Wi-Fi payloads into the empty queues of the coordinator, as long as they are not
more than a queue holds. -/
structure Delivering (nowMs : Nat) (radios : Radios) (events : List RuntimeEvent) : Prop where
  made : ∀ payload ∈ handed events, NewPayload nowMs payload
  free : radios.wifi.retryAtMs = 0
  queued : (handed events).length ≤ 16 →
    radios.wifi.waiting.Perm ((handed events).filter ScheduledPayload.onWifi) ∧
      ∀ payload taken, .submitted payload taken ∈ events → payload.onWifi = true → taken = true

section
variable {Number Engine : Type} {env : RuntimeEnv Number Engine Radios} {nowMs : Nat}

theorem Delivering.submit {radios : Radios} {events : List RuntimeEvent}
    (delivering : Delivering nowMs radios events) {payload : ScheduledPayload}
    (made : NewPayload nowMs payload) :
    Delivering nowMs (RadioSink.submit radios payload).2
      (events ++ [.submitted payload (RadioSink.submit radios payload).1]) := by
  have all : handed (events ++ [.submitted payload (RadioSink.submit radios payload).1]) =
      handed events ++ [payload] := handed_append _ _
  -- elsewhere than on Wi-Fi the payload leaves the coordinator as it was
  have goes : (RadioSink.submit radios payload).2.wifi.retryAtMs = 0 ∧
      (payload.onWifi = false → (RadioSink.submit radios payload).2.wifi = radios.wifi) ∧
      (payload.onWifi = true → radios.wifi.waiting.length < 16 →
        (RadioSink.submit radios payload).1 = true ∧
        (RadioSink.submit radios payload).2.wifi.waiting.Perm (radios.wifi.waiting ++ [payload])) := by
    unfold RadioSink.submit ScheduledPayload.onWifi
    by_cases isBle : payload.transport = .ble4 ∨ payload.transport = .ble5
    · rw [if_pos isBle]
      refine ⟨delivering.free, fun _ => rfl, fun onWifi _ => ?_⟩
      have isWifi := of_decide_eq_true onWifi
      rcases isBle with low | high
      · rw [low] at isWifi
        exact absurd isWifi (by decide)
      · rw [high] at isWifi
        exact absurd isWifi (by decide)
    · rw [if_neg isBle]
      refine ⟨(RadioCoordinator.submit_retryAtMs payload).trans delivering.free, ?_, ?_⟩
      · intro other
        dsimp only
        rw [RadioCoordinator.submit_other (of_decide_eq_false other)]
      · intro onWifi room
        obtain ⟨result, waits⟩ :=
          RadioCoordinator.submit_room (of_decide_eq_true onWifi) made.size room
        exact ⟨decide_eq_true result, waits⟩
  obtain ⟨free, elsewhere, onto⟩ := goes
  refine ⟨?_, free, ?_⟩
  · rw [all]
    intro other member
    rcases List.mem_append.mp member with old | new
    · exact delivering.made other old
    · rw [List.mem_singleton.mp new]
      exact made
  · rw [all, List.length_append, List.length_singleton]
    intro few
    obtain ⟨waits, taken⟩ := delivering.queued (by omega)
    cases onWifi : payload.onWifi with
    | false =>
      have dropped : [payload].filter ScheduledPayload.onWifi = [] := by
        rw [List.filter_cons_of_neg (by rw [onWifi]; exact Bool.false_ne_true), List.filter_nil]
      rw [elsewhere onWifi, List.filter_append, dropped, List.append_nil]
      refine ⟨waits, fun other taken' member onWifi' => ?_⟩
      rcases List.mem_append.mp member with old | new
      · exact taken other taken' old onWifi'
      · cases List.mem_singleton.mp new
        rw [onWifi] at onWifi'
        cases onWifi'
    | true =>
      have room : radios.wifi.waiting.length < 16 := by
        have length := waits.length_eq
        have filtered := List.length_filter_le ScheduledPayload.onWifi (handed events)
        omega
      obtain ⟨accepted, queued⟩ := onto onWifi room
      have kept : [payload].filter ScheduledPayload.onWifi = [payload] := by
        rw [List.filter_cons_of_pos onWifi, List.filter_nil]
      rw [List.filter_append, kept]
      refine ⟨queued.trans (waits.append_right _), fun other taken' member onWifi' => ?_⟩
      rcases List.mem_append.mp member with old | new
      · exact taken other taken' old onWifi'
      · obtain ⟨_, rfl⟩ := RuntimeEvent.submitted.inj (List.mem_singleton.mp new)
        exact accepted

theorem Delivering.pass {radios : Radios} {events : List RuntimeEvent}
    (delivering : Delivering nowMs radios events) {event : RuntimeEvent} (other : handed [event] = []) :
    Delivering nowMs radios (events ++ [event]) := by
  have all : handed (events ++ [event]) = handed events := by
    rw [handed_append, other, List.append_nil]
  refine ⟨by rw [all]; exact delivering.made, delivering.free, ?_⟩
  rw [all]
  intro few
  obtain ⟨waits, taken⟩ := delivering.queued few
  refine ⟨waits, fun payload taken' member onWifi => ?_⟩
  rcases List.mem_append.mp member with old | new
  · exact taken payload taken' old onWifi
  · rw [← List.mem_singleton.mp new] at other
    cases other

theorem tick_delivers (fleet : Fleet Engine) {radios : Radios} (empty : radios.wifi.waiting = [])
    (free : radios.wifi.retryAtMs = 0) :
    Delivering nowMs (fleet.tick env.withRadios radios nowMs).sink
      (fleet.tick env.withRadios radios nowMs).events := by
  have rule : NewPayloadRule env.withRadios nowMs (Delivering nowMs) := by
    constructor
    · intro sink events index kind sequence payload before made
      exact (before.pass rfl).submit made
    · intro sink events index kind sequence before
      exact (before.pass rfl).pass rfl
  apply rule.tick fleet
  refine ⟨nofun, free, fun _ => ⟨?_, nofun⟩⟩
  rw [empty]
  exact .nil

/-! The whole loop. -/

/-- The fleet of the configuration applied last, every message of which is due where it stands on its
schedule. -/
structure Applied.Runs (sha256 : Sha256) (device : DeviceId) (applied : Applied) (fleet : Fleet Engine) :
    Prop where
  config : fleet.config = applied.config
  members : fleet.aircraft = applied.aircraft
  expanded : validateAndExpand sha256 applied.config device = .ok applied.aircraft
  onSchedule : OnSchedule fleet applied.boundMs
  began : fleet.startedMs ≤ applied.boundMs

theorem Applied.Runs.few {sha256 : Sha256} {device : DeviceId} {applied : Applied} {fleet : Fleet Engine}
    (runs : applied.Runs sha256 device fleet) (paced : applied.Paced nowMs) (radios : Radios) :
    (handed (fleet.tick env.withRadios radios nowMs).events).length ≤ kMaxWifiPollsPerTick := by
  have dispatched : ∀ item ∈ fleet.aircraft, Dispatched item := by
    intro item member
    rw [runs.members] at member
    obtain ⟨group, isMember⟩ := expanded_of_mem runs.expanded member
    exact isMember.dispatched (accepted_of_expand runs.expanded)
  apply (handed_length_le fleet radios nowMs).trans
  rcases paced.enough with slots | ⟨period, same, share⟩
  · rw [← runs.members] at slots
    exact (attempts_le_slots runs.onSchedule paced.ordered radios).trans slots
  · rw [← runs.members] at same share
    rw [← runs.config] at same
    exact (tick_burst_from runs.onSchedule paced.ordered radios runs.began dispatched same).trans share

theorem Applied.Runs.tick {sha256 : Sha256} {device : DeviceId} {applied : Applied} {fleet : Fleet Engine}
    (runs : applied.Runs sha256 device fleet) (ordered : applied.boundMs ≤ nowMs + 1) (radios : Radios) :
    ({ applied with boundMs := nowMs + 1 } : Applied).Runs sha256 device
      (fleet.tick env.withRadios radios nowMs).fleet := by
  have ticked := @tick_ticked _ _ _ env.withRadios fleet radios nowMs
  have emits := @tick_emits _ _ _ env.withRadios fleet _ nowMs runs.onSchedule ordered radios
  constructor
  · exact ticked.config.trans runs.config
  · exact ticked.members.trans runs.members
  · exact runs.expanded
  · intro index item found kind
    rw [ticked.members] at found
    rw [ticked.config, ticked.members, ticked.startedMs]
    exact emits.next index item found kind
  · exact ticked.startedMs.le.trans (runs.began.trans ordered)

/-- What holds between the steps: the coordinator is idle, and the fleet runs where the inputs have led. -/
structure CaughtUp (sha256 : Sha256) (device : DeviceId) (applied : Option Applied)
    (system : System Engine) : Prop where
  sameDevice : system.runtime.device = device
  empty : system.radios.wifi.waiting = []
  free : system.radios.wifi.retryAtMs = 0
  runs : Option.Rel (Applied.Runs sha256 device) applied system.runtime.fleet

theorem settled_iteration (ticked : List RuntimeEvent) (served : List WifiEvent) (polled : List BleEvent) :
    (ticked.map TaskEvent.runtime ++ served.map TaskEvent.wifi ++ polled.map TaskEvent.ble).filterMap
        TaskEvent.settled =
      served.filter WifiEvent.settles := by
  have ticks : (ticked.map TaskEvent.runtime).filterMap TaskEvent.settled = [] := by
    induction ticked with
    | nil => rfl
    | cons event rest ih => exact ih
  have polls : (polled.map TaskEvent.ble).filterMap TaskEvent.settled = [] := by
    induction polled with
    | nil => rfl
    | cons event rest ih => exact ih
  have serves : (served.map TaskEvent.wifi).filterMap TaskEvent.settled =
      served.filter WifiEvent.settles := by
    rw [List.filterMap_map, ← List.filterMap_eq_filter]
    apply List.filterMap_congr
    intro event _
    simp only [Function.comp_apply, TaskEvent.settled, Option.guard]
  rw [List.filterMap_append, List.filterMap_append, ticks, polls, serves, List.append_nil, List.nil_append]

theorem produced_iteration (ticked : List RuntimeEvent) (served : List WifiEvent) (polled : List BleEvent) :
    (ticked.map TaskEvent.runtime ++ served.map TaskEvent.wifi ++ polled.map TaskEvent.ble).filterMap
        TaskEvent.produced =
      (handed ticked).filter ScheduledPayload.onWifi := by
  have serves : (served.map TaskEvent.wifi).filterMap TaskEvent.produced = [] := by
    induction served with
    | nil => rfl
    | cons event rest ih => exact ih
  have polls : (polled.map TaskEvent.ble).filterMap TaskEvent.produced = [] := by
    induction polled with
    | nil => rfl
    | cons event rest ih => exact ih
  have ticks : (ticked.map TaskEvent.runtime).filterMap TaskEvent.produced =
      (handed ticked).filter ScheduledPayload.onWifi := by
    induction ticked with
    | nil => rfl
    | cons event rest ih =>
      cases event with
      | attempt index kind sequence => exact ih
      | encodeFailed index kind => exact ih
      | submitted payload taken =>
        have first : handed (.submitted payload taken :: rest) = payload :: handed rest := rfl
        rw [first, List.filter_cons, ← ih]
        cases onWifi : payload.onWifi with
        | false => simp [TaskEvent.produced, onWifi]
        | true => simp [TaskEvent.produced, onWifi]
  rw [List.filterMap_append, List.filterMap_append, ticks, polls, serves, List.append_nil, List.append_nil]

theorem Applied.Runs.delivers {sha256 : Sha256} {device : DeviceId} {applied : Applied}
    {fleet : Fleet Engine} (runs : applied.Runs sha256 device fleet) (paced : applied.Paced nowMs)
    {runtime : Runtime Engine} (running : runtime.fleet = some fleet) {radios : Radios}
    (empty : radios.wifi.waiting = []) (free : radios.wifi.retryAtMs = 0) :
    let ticked := runtime.tick env.withRadios radios nowMs
    Delivering nowMs ticked.2.2.1 ticked.2.2.2 ∧
      (handed ticked.2.2.2).length ≤ kMaxWifiPollsPerTick ∧ ticked.2.1.device = runtime.device ∧
      ∃ later, ticked.2.1.fleet = some later ∧
        ({ applied with boundMs := nowMs + 1 } : Applied).Runs sha256 device later := by
  intro ticked
  have tick : ticked = runtime.tick env.withRadios radios nowMs := rfl
  unfold Runtime.tick at tick
  simp only [running] at tick
  by_cases early : nowMs < fleet.startedMs
  · rw [if_pos early] at tick
    rw [tick]
    refine ⟨⟨nofun, free, fun _ => ⟨?_, nofun⟩⟩, Nat.zero_le _, rfl, fleet, running, ?_⟩
    · rw [empty]
      exact .nil
    · -- a tick before the start comes just before it
      have bound : nowMs + 1 = applied.boundMs := by
        have began := runs.began
        have ordered := paced.ordered
        omega
      rw [bound]
      exact runs
  · rw [if_neg early] at tick
    rw [tick]
    exact ⟨tick_delivers fleet empty free, runs.few paced radios, rfl, _, rfl,
      runs.tick paced.ordered radios⟩

/-- A paced iteration with a radio that works sends what its tick has made. -/
theorem runtimeTask_caughtUp {sha256 : Sha256} {device : DeviceId} {applied : Option Applied}
    {system : System Engine} (caughtUp : CaughtUp sha256 device applied system)
    {wifi : Vector WifiAnswers kMaxWifiPollsPerTick} (healthy : ∀ answers ∈ wifi.toList, answers.Healthy)
    (paced : ∀ last ∈ applied, last.Paced nowMs) (ble : BleAnswers) :
    KeepsUp (runtimeTask env system nowMs wifi.toList ble).2 ∧
      CaughtUp sha256 device (Applied.after sha256 device applied (.iterate nowMs wifi ble))
        (runtimeTask env system nowMs wifi.toList ble).1 := by
  obtain ⟨sameDevice, empty, free, runs⟩ := caughtUp
  unfold runtimeTask
  cases running : system.runtime.fleet with
  | none =>
    rw [running] at runs
    cases runs
    rw [if_neg (by rw [Runtime.running, running]; exact Bool.false_ne_true)]
    refine ⟨.nil, sameDevice, empty, free, ?_⟩
    rw [running]
    exact .none
  | some fleet =>
    rw [running] at runs
    rcases runs with ⟨runs⟩
    rename_i last
    obtain ⟨delivering, few, still, later, goesOn, ahead⟩ :=
      @Applied.Runs.delivers _ _ env _ _ _ _ _ runs (paced last rfl) _ running _ empty free
    obtain ⟨waits, taken⟩ := delivering.queued (few.trans (by decide))
    rw [if_pos (by rw [Runtime.running, running]; rfl)]
    dsimp only
    generalize system.runtime.tick env.withRadios system.radios nowMs = ticked at *
    have fresh : ∀ payload ∈ ticked.2.2.1.wifi.waiting, payload.expired nowMs = false := by
      intro payload waiting
      exact (delivering.made payload (List.mem_of_mem_filter (waits.mem_iff.mp waiting))).unexpired
    have enough : ticked.2.2.1.wifi.waiting.length ≤ wifi.toList.length := by
      rw [waits.length_eq, Vector.length_toList]
      exact (List.length_filter_le _ _).trans few
    obtain ⟨drained, ready, sent⟩ := serveWifi_drains delivering.free healthy fresh enough
    refine ⟨⟨?_, ?_⟩, still.trans sameDevice, drained, ready, ?_⟩
    · intro payload accepted member onWifi
      simp only [List.mem_append, List.mem_map, TaskEvent.runtime.injEq, exists_eq_right, reduceCtorEq,
        and_false, exists_false, or_false] at member
      exact taken payload accepted member onWifi
    · rw [settled_iteration, produced_iteration]
      have inTime : ((handed ticked.2.2.2).filter ScheduledPayload.onWifi).map
          (WifiEvent.transmit nowMs · ESP_OK) =
          ((handed ticked.2.2.2).filter ScheduledPayload.onWifi).map ScheduledPayload.sentInTime := by
        apply List.map_congr_left
        intro payload member
        rw [ScheduledPayload.sentInTime, (delivering.made payload (List.mem_of_mem_filter member)).deadline]
      rw [← inTime]
      exact sent.trans (waits.map _)
    · rw [goesOn]
      exact .some ahead

/-- So does every step. -/
theorem step_caughtUp {device : DeviceId} {applied : Option Applied} {system : System Engine}
    (caughtUp : CaughtUp env.sha256 device applied system) {input : TaskInput} (healthy : input.Healthy)
    (paced : ∀ nowMs wifi ble, input = .iterate nowMs wifi ble → ∀ last ∈ applied, last.Paced nowMs) :
    KeepsUp ((taskMachine env).step system input).2 ∧
      CaughtUp env.sha256 device (Applied.after env.sha256 device applied input)
        ((taskMachine env).step system input).1 := by
  cases input with
  | iterate nowMs wifi ble => exact runtimeTask_caughtUp caughtUp healthy (paced nowMs wifi ble rfl) ble
  | completion event => exact ⟨.nil, caughtUp.sameDevice, caughtUp.empty, caughtUp.free, caughtUp.runs⟩
  | apply config startMs =>
    refine ⟨.nil, ?_⟩
    unfold Applied.after
    rcases apply_cases env.withRadios system.runtime config startMs with ⟨⟨error, refused⟩, same⟩ | started
    · have rejected : validateAndExpand env.sha256 config device = .error error := by
        rw [← caughtUp.sameDevice]
        exact refused
      dsimp only [taskMachine]
      rw [rejected, same]
      exact caughtUp
    · obtain ⟨fleet, started, same⟩ := started
      have applied : (system.runtime.apply env.withRadios config startMs).1 = .none := by rw [same]
      obtain ⟨fleet, running, isConfig, expanded, began, onSchedule⟩ := apply_onSchedule applied
      have accepted : validateAndExpand env.sha256 config device = .ok fleet.aircraft := by
        rw [← caughtUp.sameDevice]
        exact expanded
      dsimp only [taskMachine]
      rw [accepted]
      refine ⟨?_, caughtUp.empty, caughtUp.free, ?_⟩
      · rw [same]
        exact caughtUp.sameDevice
      · rw [running]
        exact .some ⟨isConfig, rfl, accepted, onSchedule, began.le⟩

/-- `runtime_task` keeps up: from boot on, whatever is applied and whatever the BLE host answers, while the
Wi-Fi radio works and the iterations come often enough, every Wi-Fi payload of a tick is accepted and is sent
once, in the iteration that has made it, and none waits at the end of an iteration. -/
theorem runtimeTask_keepsUp (env : RuntimeEnv Number Engine Radios) (device : DeviceId)
    (dwellMs retryMs : Nat) (inputs : List TaskInput) (healthy : ∀ input ∈ inputs, input.Healthy)
    (paced : PacedFrom env.sha256 device inputs) :
    let run := (taskMachine env).run
      { runtime := { device }, radios := { wifi := { dwellMs := dwellMs, retryMs := retryMs } } } inputs
    KeepsUp run.2 ∧ run.1.radios.wifi.waiting = [] := by
  intro run
  have all : KeepsUp run.2 ∧ CaughtUp env.sha256 device
      (inputs.foldl (Applied.after env.sha256 device) none) run.1 := by
    unfold run
    clear run
    induction inputs using List.reverseRecOn with
    | nil => exact ⟨.nil, rfl, rfl, rfl, .none⟩
    | append_singleton before input ih =>
      obtain ⟨kept, caughtUp⟩ := ih (fun input member => healthy input (List.mem_append_left _ member))
        (fun shorter nowMs wifi ble within =>
          paced shorter nowMs wifi ble (within.trans (List.prefix_append before [input])))
      obtain ⟨sent, later⟩ := step_caughtUp caughtUp (healthy input (by simp)) (by
        intro nowMs wifi ble same
        subst same
        exact paced before nowMs wifi ble List.prefix_rfl)
      rw [Machine.run_snoc, List.foldl_concat]
      exact ⟨kept.append sent, later⟩
  exact ⟨all.1, all.2.empty⟩

end

def dualBand : SystemConfig where
  site := oneHover.site
  groups := [{ name := [65], count := 1, transport := .wifi24 },
    { name := [66], count := 1, protocol := .gb46750, transport := .wifi58 }]

def dualBandSha256 : Sha256 := fun input =>
  if input = [0, 0, 0, 0, 0, 0, 66, 0, 0, 0, 0, 0] then some #v[
    0xbe, 0x96, 0x59, 0x15, 0x4e, 0xeb, 0xed, 0xa4, 0x7d, 0x75, 0xee, 0x7c, 0x74, 0x90, 0x01, 0xaa,
    0x3c, 0xe0, 0x4c, 0xfd, 0xfe, 0xb3, 0x28, 0x1b, 0xee, 0xbb, 0x4a, 0x89, 0x40, 0xc1, 0x00, 0xa8]
  else oneHoverSha256 input

def dualBandRun : List TaskInput :=
  [.apply dualBand 0, .iterate 0 (Vector.replicate 8 {}) {}, .iterate 600 (Vector.replicate 8 {}) {}]

/-- The pack of the first aircraft goes out at once, and later two messages of the second one. -/
theorem runtimeTask_keepsUp_dualBand :
    let run := (taskMachine { hoverRadioEnv with sha256 := dualBandSha256 }).run
      { runtime := { device := Vector.replicate 6 0 },
        radios := { wifi := { dwellMs := 100, retryMs := 20 } } } dualBandRun
    KeepsUp run.2 ∧ run.1.radios.wifi.waiting = [] := by
  apply runtimeTask_keepsUp
  · intro input member
    have working : ∀ answers ∈ (Vector.replicate kMaxWifiPollsPerTick ({} : WifiAnswers)).toList,
        answers.Healthy := by
      intro answers among
      rw [Vector.toList_replicate] at among
      rw [List.eq_of_mem_replicate among]
      exact ⟨rfl, fun _ => rfl, rfl⟩
    simp only [dualBandRun, List.mem_cons, List.not_mem_nil, or_false] at member
    rcases member with rfl | rfl | rfl
    · trivial
    · exact working
    · exact working
  · have pace : ∀ (before : List TaskInput) (nowMs : Nat), (∀ applied ∈ before.foldl
        (Applied.after dualBandSha256 (Vector.replicate 6 0)) none, applied.boundMs ≤ nowMs + 1 ∧
          (∀ item ∈ applied.aircraft, ∀ kind, applied.config.periodOf item kind = 1000) ∧
          ((nowMs + 1 - applied.boundMs) * emissionSlots applied.aircraft) ⌈/⌉ 1000 ≤
            kMaxWifiPollsPerTick) →
        ∀ applied ∈ before.foldl (Applied.after dualBandSha256 (Vector.replicate 6 0)) none,
          applied.Paced nowMs := by
      intro before nowMs checked applied last
      obtain ⟨ordered, uniform, share⟩ := checked applied last
      exact ⟨ordered, .inr ⟨1000, uniform, share⟩⟩
    intro before nowMs wifi ble within
    obtain ⟨rest, split⟩ := within
    rcases before with _ | ⟨first, _ | ⟨second, _ | ⟨third, before⟩⟩⟩
    · simp [dualBandRun] at split
    · simp only [dualBandRun, List.cons_append, List.nil_append, List.cons.injEq] at split
      obtain ⟨rfl, same, _⟩ := split
      cases same
      exact pace _ _ (by decide +kernel)
    · simp only [dualBandRun, List.cons_append, List.nil_append, List.cons.injEq] at split
      obtain ⟨rfl, rfl, same, _⟩ := split
      cases same
      exact pace _ _ (by decide +kernel)
    · have length := congrArg List.length split
      simp [dualBandRun] at length

end RidFirmware
