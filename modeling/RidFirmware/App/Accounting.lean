import RidFirmware.App.Switch
import RidFirmware.Radio.Intake
import RidFirmware.Runtime.Sending

/-! From the scheduler to the air. The counters of the runtime and those of the two transports are kept
apart, and agree: no payload is lost between them. -/

namespace RidFirmware
open Lib Lib.Ieee

/-- Submissions, by the counter of the transport that has taken them. -/
structure Intake where
  ble : Fin 2 → Nat
  wifi : Band → Nat

def Intake.total (intake : Intake) : Nat :=
  intake.ble 0 + intake.ble 1 + intake.wifi .band0 + intake.wifi .band1

def Intake.bumpBle (intake : Intake) (index : Fin 2) : Intake :=
  { intake with ble := Function.update intake.ble index (intake.ble index + 1) }

def Intake.bumpWifi (intake : Intake) (band : Band) : Intake :=
  { intake with wifi := Function.update intake.wifi band (intake.wifi band + 1) }

theorem Intake.bumpBle_total (intake : Intake) (index : Fin 2) :
    (intake.bumpBle index).total = intake.total + 1 := by
  have known : index = 0 ∨ index = 1 := by omega
  unfold bumpBle total
  rcases known with rfl | rfl
  · dsimp only
    rw [Function.update_self, Function.update_of_ne (by decide)]
    omega
  · dsimp only
    rw [Function.update_self, Function.update_of_ne (by decide)]
    omega

theorem Intake.bumpWifi_total (intake : Intake) (band : Band) :
    (intake.bumpWifi band).total = intake.total + 1 := by
  unfold bumpWifi total
  cases band with
  | band0 =>
    dsimp only
    rw [Function.update_self, Function.update_of_ne (by decide)]
    omega
  | band1 =>
    dsimp only
    rw [Function.update_self, Function.update_of_ne (by decide)]
    omega

theorem update_saturated {Index : Type} [DecidableEq Index] {taken : Index → Nat} {counts : Index → Nat}
    (before : taken = fun index => saturated (counts index)) (place : Index) :
    Function.update taken place (saturatingIncrement (taken place)) =
      fun index => saturated (Function.update counts place (counts place + 1) index) := by
  funext index
  rw [before]
  by_cases same : index = place
  · rw [same, Function.update_self, Function.update_self, saturatingIncrement_saturated]
  · rw [Function.update_of_ne same, Function.update_of_ne same]

structure Radios.Took (radios : Radios) (intake : Intake) : Prop where
  ble : radios.ble.taken = fun index => saturated (intake.ble index)
  wifi : radios.wifi.taken = fun band => saturated (intake.wifi band)

theorem RadioSink.submit_took {radios : Radios} {intake : Intake} (took : radios.Took intake)
    (payload : ScheduledPayload) :
    (RadioSink.submit radios payload).1 = true ∧
        (∃ later : Intake, (RadioSink.submit radios payload).2.Took later ∧
          later.total = intake.total + 1) ∨
      (RadioSink.submit radios payload).1 = false ∧ (RadioSink.submit radios payload).2.Took intake := by
  unfold RadioSink.submit
  by_cases isBle : payload.transport = .ble4 ∨ payload.transport = .ble5
  · rw [if_pos isBle]
    rcases radios.ble.submit_taken payload with ⟨accepted, counted⟩ | ⟨refused, same⟩
    · refine .inl ⟨decide_eq_true accepted, intake.bumpBle (BleTransport.statsIndex payload.transport),
        ⟨?_, took.wifi⟩, intake.bumpBle_total _⟩
      exact counted.trans (update_saturated took.ble _)
    · exact .inr ⟨decide_eq_false refused, same.trans took.ble, took.wifi⟩
  · rw [if_neg isBle]
    rcases radios.wifi.submit_taken payload with ⟨accepted, counted⟩ | ⟨refused, same⟩
    · refine .inl ⟨decide_eq_true accepted, intake.bumpWifi (RadioCoordinator.bandIndex payload.transport),
        ⟨took.ble, ?_⟩, intake.bumpWifi_total _⟩
      exact counted.trans (update_saturated took.wifi _)
    · exact .inr ⟨decide_eq_false refused, took.ble, same.trans took.wifi⟩

theorem RadioSink.submit_balanced {radios : Radios} (balanced : BleTransport.Balanced radios.ble none)
    (payload : ScheduledPayload) :
    BleTransport.Balanced (RadioSink.submit radios payload).2.ble none := by
  unfold RadioSink.submit
  split_ifs
  · exact balanced.submit payload
  · exact balanced

theorem RadioSink.submit_consistent {radios : Radios} {log : List WifiEvent}
    (consistent : RadioCoordinator.Consistent radios.wifi log) (payload : ScheduledPayload) :
    ∃ later, RadioCoordinator.Consistent (RadioSink.submit radios payload).2.wifi later := by
  unfold RadioSink.submit
  split_ifs
  · exact ⟨log, consistent⟩
  · exact ⟨_, RadioCoordinator.submit_consistent consistent payload⟩

/-- The counters of the runtime agree with those of the transports, and the transports with what they
hold. -/
structure Reconciled (stats : RuntimeStats) (radios : Radios) : Prop where
  tally : ∃ intake refused, radios.Took intake ∧
    stats.expected = saturated (intake.total + refused) ∧
    stats.submitted = saturated intake.total ∧ stats.submitErrors = saturated refused
  ble : BleTransport.Balanced radios.ble none
  wifi : ∃ log, RadioCoordinator.Consistent radios.wifi log

theorem Reconciled.congr {stats later : RuntimeStats} {radios : Radios}
    (reconciled : Reconciled stats radios) (expected : later.expected = stats.expected)
    (submitted : later.submitted = stats.submitted)
    (submitErrors : later.submitErrors = stats.submitErrors) : Reconciled later radios := by
  refine ⟨?_, reconciled.ble, reconciled.wifi⟩
  rw [expected, submitted, submitErrors]
  exact reconciled.tally

section
variable {Number Engine : Type} {env : RuntimeEnv Number Engine Radios}

theorem Reconciled.submit {progress : Progress Engine Radios}
    (reconciled : Reconciled progress.fleet.stats progress.sink) (payload : ScheduledPayload) :
    Reconciled (progress.submit env.withRadios payload).fleet.stats
      (progress.submit env.withRadios payload).sink := by
  obtain ⟨intake, refused, took, expected, submitted, errors⟩ := reconciled.tally
  obtain ⟨log, consistent⟩ := reconciled.wifi
  have ble := RadioSink.submit_balanced reconciled.ble payload
  have wifi := RadioSink.submit_consistent consistent payload
  have answered : env.withRadios.submit progress.sink payload = RadioSink.submit progress.sink payload :=
    rfl
  unfold Progress.submit
  rw [answered]
  dsimp only
  rcases RadioSink.submit_took took payload with ⟨accepted, later, tookLater, total⟩ | ⟨rejected, same⟩
  · rw [if_pos accepted]
    refine ⟨⟨later, refused, tookLater, ?_, ?_, errors⟩, ble, wifi⟩
    · dsimp only
      rw [expected, saturatingIncrement_saturated, total, Nat.add_right_comm]
    · dsimp only
      rw [submitted, saturatingIncrement_saturated, total]
  · rw [if_neg (Bool.eq_false_iff.mp rejected)]
    refine ⟨⟨intake, refused + 1, same, ?_, submitted, ?_⟩, ble, wifi⟩
    · dsimp only
      rw [expected, saturatingIncrement_saturated, Nat.add_assoc]
    · dsimp only
      rw [errors, saturatingIncrement_saturated]

theorem Reconciled.send {progress : Progress Engine Radios}
    (reconciled : Reconciled progress.fleet.stats progress.sink) (index : Nat) (kind : MessageKind)
    (header : ScheduledPayload) (build : UInt8 → Bytes → Option Bytes) (encoded : Option Bytes) :
    Reconciled (progress.send env.withRadios index kind header build encoded).fleet.stats
      (progress.send env.withRadios index kind header build encoded).sink := by
  rcases @Progress.send_cases _ _ _ env.withRadios progress index kind header build encoded with
    handed | abandoned
  · obtain ⟨bytes, frame, _, _, _, sent⟩ := handed
    have numbered : Reconciled (progress.numbered index kind).fleet.stats
        (progress.numbered index kind).sink := reconciled
    rw [sent]
    exact numbered.submit (header.withContent frame)
  · obtain ⟨_, counter, sent⟩ := abandoned
    rw [sent]
    exact reconciled.congr rfl rfl rfl

/-- Every attempt of a tick keeps the counters in agreement. -/
theorem reconciled_rule (nowMs : Nat) (items : List (AircraftConfig × Nat)) :
    TickRule env.withRadios nowMs items fun progress =>
      Reconciled progress.fleet.stats progress.sink where
  sampled := fun _ _ before => before
  advanced := fun _ _ _ _ before => before
  message := fun _ _ _ _ _ _ before => before.send _ _ _ _ _
  pack := fun _ _ _ _ _ before => before.send _ _ _ _ _

theorem Reconciled.tick {runtime : Runtime Engine} {radios : Radios}
    (reconciled : Reconciled runtime.stats radios) (nowMs : Nat) :
    Reconciled (runtime.tick env.withRadios radios nowMs).2.1.stats
      (runtime.tick env.withRadios radios nowMs).2.2.1 := by
  rcases tick_cases env.withRadios runtime radios nowMs with refused | ticked
  · rw [refused]
    exact reconciled
  · obtain ⟨fleet, running, _, same⟩ := ticked
    unfold Runtime.stats at reconciled
    rw [running] at reconciled
    rw [same]
    exact (reconciled_rule nowMs fleet.aircraft.zipIdx).tick fleet reconciled

theorem apply_stats {runtime : Runtime Engine} {config : SystemConfig} {nowMs : Nat}
    (single : runtime.fleet = none ∨ (runtime.apply env.withRadios config nowMs).1 ≠ .none) :
    (runtime.apply env.withRadios config nowMs).2.stats = runtime.stats := by
  rcases apply_cases env.withRadios runtime config nowMs with refused | started
  · rw [refused.2]
  · obtain ⟨fleet, started, same⟩ := started
    rw [same] at single ⊢
    rcases single with idle | failed
    · unfold Runtime.stats
      rw [idle]
      exact started.stats
    · exact absurd rfl failed

/-- One step of the system, if it is not a second successful `apply`. -/
theorem Reconciled.step {system : System Engine} (reconciled : Reconciled system.runtime.stats system.radios)
    (input : SystemInput) (single : ∀ config nowMs, input = .apply config nowMs →
      system.runtime.fleet = none ∨ (system.runtime.apply env.withRadios config nowMs).1 ≠ .none) :
    Reconciled ((systemMachine env).step system input).1.runtime.stats
      ((systemMachine env).step system input).1.radios := by
  obtain ⟨intake, refused, took, counters⟩ := reconciled.tally
  obtain ⟨log, consistent⟩ := reconciled.wifi
  cases input with
  | apply config nowMs =>
    have same := apply_stats (single config nowMs rfl)
    show Reconciled (system.runtime.apply env.withRadios config nowMs).2.stats system.radios
    rw [same]
    exact reconciled
  | tick nowMs => exact reconciled.tick nowMs
  | pollWifi nowMs answers =>
    refine ⟨⟨intake, refused, ⟨took.ble, ?_⟩, counters⟩, reconciled.ble, _,
      RadioCoordinator.poll_consistent consistent⟩
    exact (RadioCoordinator.poll_taken system.radios.wifi nowMs answers).trans took.wifi
  | pollBle nowMs answers =>
    refine ⟨⟨intake, refused, ⟨?_, took.wifi⟩, counters⟩, reconciled.ble.poll nowMs answers, log,
      consistent⟩
    exact (BleTransport.poll_taken system.radios.ble nowMs answers).trans took.ble
  | completion event =>
    refine ⟨⟨intake, refused, ⟨?_, took.wifi⟩, counters⟩, reconciled.ble.enqueueCompletions [event], log,
      consistent⟩
    exact (BleTransport.enqueueCompletions_taken system.radios.ble [event]).trans took.ble

end

/-! Runs. -/

section
variable {Number Engine : Type} (env : RuntimeEnv Number Engine Radios) (start : System Engine)

/-- At most one `apply` among the inputs succeeds. -/
def AppliedOnce (inputs : List SystemInput) : Prop :=
  ∀ before config startMs between other otherMs,
    before ++ .apply config startMs :: (between ++ [.apply other otherMs]) <+: inputs →
    Switches env start before config startMs →
    ¬Switches env start (before ++ .apply config startMs :: between) other otherMs

/-- The counters of a system account for every payload, from the scheduler to the air. -/
structure Accounted (system : System Engine) : Prop where
  scheduled : system.runtime.stats.expected =
    system.runtime.stats.submitErrors + system.runtime.stats.submitted
  taken : system.runtime.stats.submitted =
    (system.radios.ble.stats (BleTransport.statsIndex .ble4)).expected +
      (system.radios.ble.stats (BleTransport.statsIndex .ble5)).expected +
      (system.radios.wifi.stats (RadioCoordinator.bandIndex .wifi24)).expected +
      (system.radios.wifi.stats (RadioCoordinator.bandIndex .wifi58)).expected
  whereabouts : system.runtime.stats.expected = system.runtime.stats.submitErrors +
    ((BleTransport.kinds.map fun kind => system.radios.ble.waiting kind +
      (system.radios.ble.stats (BleTransport.statsIndex kind)).dropped +
      (system.radios.ble.stats (BleTransport.statsIndex kind)).completed +
      (system.radios.ble.stats (BleTransport.statsIndex kind)).radioErrors +
      system.radios.ble.onAir kind).sum +
    (RadioCoordinator.bands.map fun band => (system.radios.wifi.stats band).submitted +
      (system.radios.wifi.stats band).dropped + system.radios.wifi.pendingCount band).sum)

variable {env start}

theorem exists_switch (idle : start.runtime.fleet = none) (inputs : List SystemInput)
    (running : (systemAfter env start inputs).runtime.fleet ≠ none) :
    ∃ before config startMs after, inputs = before ++ .apply config startMs :: after ∧
      Switches env start before config startMs := by
  induction inputs using List.reverseRecOn with
  | nil => exact absurd idle running
  | append_singleton earlier input ih =>
    have longer : (systemAfter env start earlier).runtime.fleet ≠ none →
        ∃ before config startMs after, earlier ++ [input] = before ++ .apply config startMs :: after ∧
          Switches env start before config startMs := by
      intro already
      obtain ⟨before, config, startMs, after, rfl, switches⟩ := ih already
      exact ⟨before, config, startMs, after ++ [input], by simp, switches⟩
    unfold systemAfter at running
    rw [Machine.run_snoc] at running
    cases input with
    | apply config nowMs =>
      by_cases switches : Switches env start earlier config nowMs
      · exact ⟨earlier, config, nowMs, [], rfl, switches⟩
      · apply longer
        intro idle
        apply running
        rcases @apply_outcome _ _ _ env.withRadios (systemAfter env start earlier).runtime config nowMs
          with ⟨_, same⟩ | ⟨taken, _⟩
        · exact (congrArg Runtime.fleet same).trans idle
        · exact absurd taken switches
    | tick nowMs =>
      apply longer
      intro idle
      apply running
      have kept := @tick_config _ _ _ env.withRadios (systemAfter env start earlier).runtime
        (systemAfter env start earlier).radios nowMs
      rw [idle] at kept
      exact Option.map_eq_none_iff.mp kept
    | pollWifi nowMs answers => exact longer running
    | pollBle nowMs answers => exact longer running
    | completion event => exact longer running

theorem run_reconciled (idle : start.runtime.fleet = none)
    (reconciled : Reconciled start.runtime.stats start.radios) (inputs : List SystemInput)
    (once : AppliedOnce env start inputs) :
    Reconciled (systemAfter env start inputs).runtime.stats (systemAfter env start inputs).radios := by
  apply (systemMachine env).run_induction
    (fun system _ => Reconciled system.runtime.stats system.radios)
    (fun system input => ∀ config nowMs, input = .apply config nowMs →
      system.runtime.fleet = none ∨ (system.runtime.apply env.withRadios config nowMs).1 ≠ .none)
  · exact fun _ _ input before single => before.step input single
  · exact reconciled
  · intro before input within config nowMs same
    subst same
    by_contra both
    rw [not_or, not_not] at both
    obtain ⟨earlier, first, startMs, between, rfl, switches⟩ := exists_switch idle before both.1
    refine once earlier first startMs between config nowMs ?_ switches both.2
    rw [← List.cons_append, ← List.append_assoc]
    exact within

theorem Reconciled.accounted {system : System Engine}
    (reconciled : Reconciled system.runtime.stats system.radios)
    (unsaturated : system.runtime.stats.expected < kCounterMax) : Accounted system := by
  obtain ⟨intake, refused, took, expected, submitted, errors⟩ := reconciled.tally
  obtain ⟨log, consistent⟩ := reconciled.wifi
  have few : intake.total + refused < kCounterMax := by
    rw [expected] at unsaturated
    unfold saturated at unsaturated
    omega
  have exact : ∀ count ≤ intake.total + refused, saturated count = count := by
    intro count most
    unfold saturated
    omega
  have blePart : ∀ index, intake.ble index ≤ intake.total + refused := by
    intro index
    have known : index = 0 ∨ index = 1 := by omega
    unfold Intake.total
    rcases known with rfl | rfl
    · omega
    · omega
  have wifiPart : ∀ band, intake.wifi band ≤ intake.total + refused := by
    intro band
    unfold Intake.total
    cases band with
    | band0 => omega
    | band1 => omega
  have ble : ∀ index, (system.radios.ble.stats index).expected = intake.ble index :=
    fun index => (congrFun took.ble index).trans (exact _ (blePart index))
  have wifi : ∀ band, (system.radios.wifi.stats band).expected = intake.wifi band :=
    fun band => (congrFun took.wifi band).trans (exact _ (wifiPart band))
  have scheduled : system.runtime.stats.expected =
      system.runtime.stats.submitErrors + system.runtime.stats.submitted := by
    rw [expected, errors, submitted, exact _ (le_refl _), exact _ (Nat.le_add_right _ _),
      exact _ (Nat.le_add_left _ _), Nat.add_comm]
  have taken : system.runtime.stats.submitted =
      (system.radios.ble.stats (BleTransport.statsIndex .ble4)).expected +
        (system.radios.ble.stats (BleTransport.statsIndex .ble5)).expected +
        (system.radios.wifi.stats (RadioCoordinator.bandIndex .wifi24)).expected +
        (system.radios.wifi.stats (RadioCoordinator.bandIndex .wifi58)).expected := by
    rw [submitted, exact _ (Nat.le_add_right _ _), ble, ble, wifi, wifi]
    rfl
  have legacy := reconciled.ble.accounted (.inl rfl : BleTransport.IsBle .ble4)
    ((ble _).trans_lt ((blePart _).trans_lt few))
  have extended := reconciled.ble.accounted (.inr rfl : BleTransport.IsBle .ble5)
    ((ble _).trans_lt ((blePart _).trans_lt few))
  have low := consistent.accounted .band0 ((wifi _).trans_lt ((wifiPart _).trans_lt few))
  have high := consistent.accounted .band1 ((wifi _).trans_lt ((wifiPart _).trans_lt few))
  refine ⟨scheduled, taken, ?_⟩
  have first : RadioCoordinator.bandIndex .wifi24 = .band0 := rfl
  have second : RadioCoordinator.bandIndex .wifi58 = .band1 := rfl
  rw [first, second, legacy, extended, low, high] at taken
  rw [scheduled, taken]
  simp only [BleTransport.kinds, RadioCoordinator.bands, List.map_cons, List.map_nil, List.sum_cons,
    List.sum_nil]
  omega

variable (env)

/-- End-to-end accounting: from boot on, whatever ticks, polls, backend results and completions come in
whatever order, as long as the configuration is not applied a second time and no counter has reached its
end, every payload the scheduler has produced was refused by a transport, or waits in one, is on air, or
is counted by it as dropped, completed, failed or submitted. -/
theorem end_to_end_accounted (device : DeviceId) (dwellMs retryMs : Nat) (inputs : List SystemInput)
    (once : AppliedOnce env
      { runtime := { device }, radios := { wifi := { dwellMs := dwellMs, retryMs := retryMs } } } inputs)
    (unsaturated : (systemAfter env
      { runtime := { device }, radios := { wifi := { dwellMs := dwellMs, retryMs := retryMs } } }
      inputs).runtime.stats.expected < kCounterMax) :
    Accounted (systemAfter env
      { runtime := { device }, radios := { wifi := { dwellMs := dwellMs, retryMs := retryMs } } } inputs) := by
  refine (run_reconciled rfl ?_ inputs once).accounted unsaturated
  exact ⟨⟨⟨fun _ => 0, fun _ => 0⟩, 0, ⟨rfl, rfl⟩, rfl, rfl, rfl⟩, BleTransport.balanced_start, [],
    RadioCoordinator.consistent_start dwellMs retryMs⟩

theorem appliedOnce_of_single {config : SystemConfig} {startMs : Nat} {after : List SystemInput}
    (rest : ∀ other otherMs, .apply other otherMs ∉ after) :
    AppliedOnce env start (.apply config startMs :: after) := by
  intro before first firstMs between other otherMs within _ _
  obtain ⟨tail, split⟩ := within
  have second : .apply other otherMs ∈ after := by
    cases before with
    | nil =>
      rw [← (List.cons.inj split).2]
      simp
    | cons head before =>
      rw [← (List.cons.inj split).2]
      simp
  exact rest other otherMs second

end

/-- One aircraft on BLE: its first payload goes on air and completes. -/
theorem end_to_end_accounted_hover :
    Accounted (systemAfter hoverRadioEnv
      { runtime := { device := Vector.replicate 6 0 },
        radios := { wifi := { dwellMs := 100, retryMs := 20 } } }
      [.apply oneHover 0, .tick 0, .pollBle 1 {}, .completion ⟨ESP_OK, 1⟩, .pollBle 20 {}]) :=
  end_to_end_accounted hoverRadioEnv (Vector.replicate 6 0) 100 20 _
    (appliedOnce_of_single hoverRadioEnv (by simp)) (by decide +kernel)

end RidFirmware
