import RidFirmware.Lib.WrappedClock
import RidFirmware.Runtime.Flights

/-! The time of a flight. The runtime hands 32 bits of it to the trajectory engine, which counts the
wraps; the flight state keeps the 32 bits. -/

namespace RidFirmware
open Lib Lib.Ieee

theorem elapsed32_toNat {nowMs startedMs : Nat} (later : startedMs ≤ nowMs) :
    (elapsed32 nowMs startedMs).toNat = (nowMs - startedMs) % 2 ^ 32 := by
  unfold elapsed32 sub64
  rw [UInt32.toNat_ofNat']
  omega

/-- Two times in order, less than half a turn of the 32 bits apart. -/
def Close (earlier later : Nat) : Prop := earlier ≤ later ∧ later - earlier < 2 ^ 31

theorem close_snoc {startMs nowMs : Nat} {before : List Nat}
    (close : (startMs :: (before ++ [nowMs])).IsChain Close) :
    ∃ lastMs, (startMs :: before).getLast? = some lastMs ∧ (startMs :: before).IsChain Close ∧
      Close lastMs nowMs := by
  rw [← List.cons_append, List.isChain_append] at close
  refine ⟨_, List.getLast?_cons, close.1, ?_⟩
  exact close.2.2 _ List.getLast?_cons nowMs rfl

namespace TrajectoryEngine

variable {K : Type} {engine : TrajectoryEngine K} {place : Fin 50} {elapsed : Nat}

/-- A slot has last been asked for a time, and has counted its wraps. -/
structure Holds (engine : TrajectoryEngine K) (place : Fin 50) (elapsed : Nat) : Prop where
  initialized : engine.elapsedInitialized[place] = true
  last : engine.lastElapsed[place].toNat = elapsed % 2 ^ 32
  offset : engine.wrapOffset[place].toNat = elapsed / 2 ^ 32 * 2 ^ 32

structure Fresh (engine : TrajectoryEngine K) (place : Fin 50) : Prop where
  uninitialized : engine.elapsedInitialized[place] = false
  offset : engine.wrapOffset[place] = 0

/-- A slot that can tell a time: a first time without a wrap, or one close to the last. -/
def Ready (engine : TrajectoryEngine K) (place : Fin 50) (elapsed : Nat) : Prop :=
  Fresh engine place ∧ elapsed < 2 ^ 32 ∨
    ∃ last, Holds engine place last ∧ last ≤ elapsed ∧ elapsed - last < 2 ^ 31

theorem Holds.ready (holds : Holds engine place elapsed) : Ready engine place elapsed :=
  .inr ⟨elapsed, holds, le_refl elapsed, by omega⟩

theorem wrapped_toNat (initialized : Bool) (last elapsedMs : UInt32) :
    (if initialized && decide (elapsedMs < last) && decide ((1 : UInt32) <<< 31 < last - elapsedMs) then
      (1 : UInt64) <<< 32 else 0).toNat =
      if initialized then wrapsBetween (2 ^ 32) last.toNat elapsedMs.toNat * 2 ^ 32 else 0 := by
  have half : ((1 : UInt32) <<< 31).toNat = 2 ^ 31 := by decide
  have turn : ((1 : UInt64) <<< 32).toNat = 2 ^ 32 := by decide
  have none : (0 : UInt64).toNat = 0 := rfl
  cases initialized with
  | false => rfl
  | true =>
    simp only [Bool.true_and, if_true, Bool.and_eq_true, decide_eq_true_eq]
    unfold wrapsBetween
    by_cases below : elapsedMs < last
    · have difference := UInt32.toNat_sub_of_le _ _ (UInt32.le_of_lt below)
      simp only [UInt32.lt_iff_toNat_lt, half, difference] at below ⊢
      by_cases wrapped : 2 ^ 31 < last.toNat - elapsedMs.toNat
      · rw [if_pos ⟨below, wrapped⟩, if_pos ⟨below, by omega⟩, turn, Nat.one_mul]
      · rw [if_neg (fun both => wrapped both.2), if_neg (fun both => wrapped (by omega)), none,
          Nat.zero_mul]
    · have notBelow : ¬elapsedMs.toNat < last.toNat :=
        fun lower => below (UInt32.lt_iff_toNat_lt.mpr lower)
      rw [if_neg (fun both => below both.1), if_neg (fun both => notBelow both.1), none, Nat.zero_mul]

theorem Ready.holds {instanceIndex : UInt16} {elapsedMs : UInt32}
    (ready : Ready engine (slot instanceIndex) elapsed) (low : elapsedMs.toNat = elapsed % 2 ^ 32)
    (fits : elapsed < 2 ^ 64) :
    Holds (engine.extendElapsed instanceIndex elapsedMs).2 (slot instanceIndex) elapsed := by
  unfold extendElapsed
  constructor
  · simp only [Fin.getElem_fin, Vector.getElem_set_self]
  · simp only [Fin.getElem_fin, Vector.getElem_set_self]
    exact low
  · simp only [Fin.getElem_fin, Vector.getElem_set_self]
    rw [UInt64.toNat_add, wrapped_toNat]
    rcases ready with ⟨fresh, small⟩ | ⟨last, holds, ordered, near⟩
    · have uninitialized := fresh.uninitialized
      have offset := fresh.offset
      simp only [Fin.getElem_fin] at uninitialized offset
      rw [uninitialized, offset, Nat.div_eq_of_lt small]
      rfl
    · have initialized := holds.initialized
      have lastMs := holds.last
      have offset := holds.offset
      simp only [Fin.getElem_fin] at initialized lastMs offset
      have near : 2 * (elapsed - last) < 2 ^ 32 := by omega
      have counted := div_eq_add_wrapsBetween ordered near
      rw [← low, ← lastMs] at counted
      rw [if_pos initialized, offset, ← Nat.add_mul, ← counted]
      omega

theorem Ready.extended {instanceIndex : UInt16} {elapsedMs : UInt32}
    (ready : Ready engine (slot instanceIndex) elapsed) (low : elapsedMs.toNat = elapsed % 2 ^ 32)
    (fits : elapsed < 2 ^ 64) :
    (engine.extendElapsed instanceIndex elapsedMs).1.toNat = elapsed := by
  have answer : (engine.extendElapsed instanceIndex elapsedMs).1 =
      (engine.extendElapsed instanceIndex elapsedMs).2.wrapOffset[slot instanceIndex] +
        elapsedMs.toUInt64 := by
    unfold extendElapsed
    simp only [Fin.getElem_fin, Vector.getElem_set_self]
  have split := Nat.div_add_mod elapsed (2 ^ 32)
  rw [answer, UInt64.toNat_add, (ready.holds low fits).offset, UInt32.toNat_toUInt64, low]
  omega

theorem extendElapsed_other {instanceIndex : UInt16} (elapsedMs : UInt32)
    (other : place ≠ slot instanceIndex) :
    let later := (engine.extendElapsed instanceIndex elapsedMs).2
    later.elapsedInitialized[place] = engine.elapsedInitialized[place] ∧
      later.lastElapsed[place] = engine.lastElapsed[place] ∧
      later.wrapOffset[place] = engine.wrapOffset[place] := by
  have apart : (slot instanceIndex).val ≠ place.val := fun same => other (Fin.ext same.symm)
  have inside := (slot instanceIndex).isLt
  exact ⟨Vector.getElem_set_ne inside place.isLt apart, Vector.getElem_set_ne inside place.isLt apart,
    Vector.getElem_set_ne inside place.isLt apart⟩

theorem Fresh.elsewhere {instanceIndex : UInt16} {elapsedMs : UInt32} (fresh : Fresh engine place)
    (other : place ≠ slot instanceIndex) :
    Fresh (engine.extendElapsed instanceIndex elapsedMs).2 place := by
  obtain ⟨initialized, _, offset⟩ := @extendElapsed_other _ engine _ _ elapsedMs other
  exact ⟨initialized.trans fresh.uninitialized, offset.trans fresh.offset⟩

theorem Holds.elsewhere {instanceIndex : UInt16} {elapsedMs : UInt32}
    (holds : Holds engine place elapsed) (other : place ≠ slot instanceIndex) :
    Holds (engine.extendElapsed instanceIndex elapsedMs).2 place elapsed := by
  obtain ⟨initialized, last, offset⟩ := @extendElapsed_other _ engine _ _ elapsedMs other
  constructor
  · exact initialized.trans holds.initialized
  · exact (congrArg UInt32.toNat last).trans holds.last
  · exact (congrArg UInt64.toNat offset).trans holds.offset

theorem Ready.extend {instanceIndex : UInt16} {elapsedMs : UInt32} (ready : Ready engine place elapsed)
    (low : elapsedMs.toNat = elapsed % 2 ^ 32) (fits : elapsed < 2 ^ 64) :
    Ready (engine.extendElapsed instanceIndex elapsedMs).2 place elapsed := by
  by_cases here : place = slot instanceIndex
  · subst here
    exact (ready.holds low fits).ready
  · rcases ready with ⟨fresh, small⟩ | ⟨last, holds, close⟩
    · exact .inl ⟨fresh.elsewhere here, small⟩
    · exact .inr ⟨last, holds.elsewhere here, close⟩

theorem Holds.extend {instanceIndex : UInt16} {elapsedMs : UInt32} (holds : Holds engine place elapsed)
    (low : elapsedMs.toNat = elapsed % 2 ^ 32) (fits : elapsed < 2 ^ 64) :
    Holds (engine.extendElapsed instanceIndex elapsedMs).2 place elapsed := by
  by_cases here : place = slot instanceIndex
  · subst here
    exact holds.ready.holds low fits
  · exact holds.elsewhere here

/-- Between ticks: the slot holds the time of the last tick, or nothing has been asked since the
start. -/
def Current (engine : TrajectoryEngine K) (place : Fin 50) (startMs lastMs : Nat) : Prop :=
  Holds engine place (lastMs - startMs) ∨ Fresh engine place ∧ lastMs = startMs

theorem Current.ready {startMs lastMs nowMs : Nat} (current : Current engine place startMs lastMs)
    (began : startMs ≤ lastMs) (close : Close lastMs nowMs) : Ready engine place (nowMs - startMs) := by
  obtain ⟨ordered, near⟩ := close
  rcases current with holds | ⟨fresh, same⟩
  · exact .inr ⟨lastMs - startMs, holds, by omega, by omega⟩
  · exact .inl ⟨fresh, by omega⟩

end TrajectoryEngine

/-! The stages of a tick. -/

section
variable {Number Engine Sink : Type} (env : RuntimeEnv Number Engine Sink)

/-- A tick that has come to the aircraft at an index. -/
def Fleet.stage (fleet : Fleet Engine) (sink : Sink) (nowMs index : Nat) : Progress Engine Sink :=
  (fleet.aircraft.zipIdx.take index).foldl (tickAircraft env nowMs) { fleet, sink }

def Fleet.sampledAt (fleet : Fleet Engine) (sink : Sink) (nowMs index : Nat) (item : AircraftConfig) :
    FlightState Number :=
  let stage := fleet.stage env sink nowMs index
  (env.sample stage.fleet.engine (stage.fleet.config.groupOf item).trajectory item.instanceIndex
    (elapsed32 nowMs stage.fleet.startedMs)).1

variable {env}

theorem Fleet.stage_succ {fleet : Fleet Engine} {index : Nat} {item : AircraftConfig}
    (found : fleet.aircraft[index]? = some item) (sink : Sink) (nowMs : Nat) :
    fleet.stage env sink nowMs (index + 1) =
      tickAircraft env nowMs (fleet.stage env sink nowMs index) (item, index) := by
  have there : fleet.aircraft.zipIdx[index]? = some (item, index) := by
    rw [List.getElem?_zipIdx, found, Nat.zero_add]
    rfl
  unfold Fleet.stage
  rw [List.take_add_one, there, List.foldl_append]
  rfl

theorem Fleet.stage_last (fleet : Fleet Engine) (sink : Sink) (nowMs : Nat) :
    fleet.stage env sink nowMs fleet.aircraft.length = fleet.tick env sink nowMs := by
  unfold Fleet.stage Fleet.tick
  rw [List.take_of_length_le]
  rw [List.length_zipIdx]

theorem Fleet.stage_ticked (fleet : Fleet Engine) (sink : Sink) (nowMs index : Nat) :
    Ticked { fleet, sink } (fleet.stage env sink nowMs index) nowMs
      (fleet.aircraft.zipIdx.take index) := by
  apply foldl_ticked
  rw [List.map_take, List.zipIdx_map_snd]
  exact List.Nodup.sublist (List.take_sublist index _) List.nodup_range'

end

section
variable {K : Type} [Field K] [LinearOrder K] [FloorRing K] {Sink : Type}

/-- The runtime samples flights with the engine, over the functions of a C library. -/
def RuntimeEnv.withEngine (math : Libm K) (env : RuntimeEnv (Datum K) (TrajectoryEngine K) Sink) :
    RuntimeEnv (Datum K) (TrajectoryEngine K) Sink :=
  { env with
    newEngine := fun site => { siteCenter := site.number }
    sample := fun engine config instanceIndex elapsedMs =>
      engine.sample math config instanceIndex elapsedMs }

variable {math : Libm K} {env : RuntimeEnv (Datum K) (TrajectoryEngine K) Sink}

theorem stage_engine {fleet : Fleet (TrajectoryEngine K)} {index : Nat} {item : AircraftConfig}
    (found : fleet.aircraft[index]? = some item) (sink : Sink) (nowMs : Nat) :
    (fleet.stage (env.withEngine math) sink nowMs (index + 1)).fleet.engine =
      ((fleet.stage (env.withEngine math) sink nowMs index).fleet.engine.extendElapsed
        item.instanceIndex (elapsed32 nowMs fleet.startedMs)).2 := by
  rw [Fleet.stage_succ found, tickAircraft_engine, (fleet.stage_ticked sink nowMs index).startedMs]
  rfl

/-- A tick under way: every slot in use can tell the time, those already asked hold it. -/
structure Timed (fleet : Fleet (TrajectoryEngine K)) (engine : TrajectoryEngine K)
    (elapsed index : Nat) : Prop where
  ready : ∀ item ∈ fleet.aircraft, engine.Ready (TrajectoryEngine.slot item.instanceIndex) elapsed
  held : ∀ asked item, asked < index → fleet.aircraft[asked]? = some item →
    engine.Holds (TrajectoryEngine.slot item.instanceIndex) elapsed

theorem stage_timed {fleet : Fleet (TrajectoryEngine K)} {nowMs : Nat} (later : fleet.startedMs ≤ nowMs)
    (fits : nowMs < 2 ^ 64) (start : Timed fleet fleet.engine (nowMs - fleet.startedMs) 0) (sink : Sink)
    {index : Nat} (inside : index ≤ fleet.aircraft.length) :
    Timed fleet (fleet.stage (env.withEngine math) sink nowMs index).fleet.engine
      (nowMs - fleet.startedMs) index := by
  induction index with
  | zero => exact start
  | succ index ih =>
    have before := ih (Nat.le_of_succ_le inside)
    have found : fleet.aircraft[index]? = some fleet.aircraft[index] := List.getElem?_eq_getElem inside
    have low := elapsed32_toNat later
    have fits : nowMs - fleet.startedMs < 2 ^ 64 := (Nat.sub_le _ _).trans_lt fits
    rw [stage_engine found]
    constructor
    · exact fun item member => (before.ready item member).extend low fits
    · intro asked item early there
      rcases Nat.lt_succ_iff_lt_or_eq.mp early with earlier | now
      · exact (before.held asked item earlier there).extend low fits
      · rw [now, found, Option.some.injEq] at there
        rw [← there]
        exact (before.ready _ (List.getElem_mem inside)).holds low fits

/-- After ticks in order and close together every aircraft in use has its slot at the last of them. -/
theorem run_current {runtime : Runtime (TrajectoryEngine K)} {sink : Sink} {config : SystemConfig}
    {startMs : Nat} (applied : (runtime.apply (env.withEngine math) config startMs).1 = .none)
    (before : List Nat) (close : (startMs :: before).IsChain Close) {lastMs : Nat}
    (last : (startMs :: before).getLast? = some lastMs) (fits : lastMs < 2 ^ 64) :
    ∃ fleet, (afterTicks (env.withEngine math) runtime sink config startMs before).1.fleet = some fleet ∧
      validateAndExpand env.sha256 config runtime.device = .ok fleet.aircraft ∧
      fleet.startedMs = startMs ∧ startMs ≤ lastMs ∧
      ∀ item ∈ fleet.aircraft,
        fleet.engine.Current (TrajectoryEngine.slot item.instanceIndex) startMs lastMs := by
  induction before using List.reverseRecOn generalizing lastMs with
  | nil =>
    obtain ⟨fleet, started, running⟩ := apply_started applied
    have same : startMs = lastMs := Option.some.inj last
    refine ⟨fleet, running, started.expanded, started.startedMs, same.le, ?_⟩
    intro item _
    rw [started.engine]
    refine .inr ⟨⟨?_, ?_⟩, same.symm⟩
    · exact Vector.getElem_replicate _
    · exact Vector.getElem_replicate _
  | append_singleton before nowMs ih =>
    obtain ⟨earlierMs, earlier, shorter, gap⟩ := close_snoc close
    rw [← List.cons_append, List.getLast?_append, List.getLast?_singleton, Option.some_or,
      Option.some.injEq] at last
    subst last
    obtain ⟨fleet, running, expanded, rfl, began, current⟩ :=
      ih shorter earlier (gap.1.trans_lt fits)
    have began' : fleet.startedMs ≤ nowMs := began.trans gap.1
    rw [afterTicks_snoc, tick_late (env.withEngine math) running (Nat.not_lt.mpr began')]
    have ticked := @tick_ticked _ _ _ (env.withEngine math) fleet
      (afterTicks (env.withEngine math) runtime sink config fleet.startedMs before).2 nowMs
    have start : Timed fleet fleet.engine (nowMs - fleet.startedMs) 0 :=
      ⟨fun item member => (current item member).ready began gap, nofun⟩
    have timed : Timed fleet (fleet.stage (env.withEngine math) (afterTicks (env.withEngine math) runtime
        sink config fleet.startedMs before).2 nowMs fleet.aircraft.length).fleet.engine
        (nowMs - fleet.startedMs) fleet.aircraft.length :=
      stage_timed began' fits start _ (le_refl _)
    rw [Fleet.stage_last] at timed
    refine ⟨_, rfl, ?_, ticked.startedMs, began', ?_⟩
    · rw [ticked.members]
      exact expanded
    · rw [ticked.members]
      intro item member
      obtain ⟨asked, inside, found⟩ := List.getElem_of_mem member
      exact .inl (timed.held asked item inside ((List.getElem?_eq_some_iff).mpr ⟨inside, found⟩))

/-- The time of every flight is exact: while ticks come in order and less than half a turn of the 32 bits
apart, every aircraft is sampled at the time since the start, over any number of wraps. -/
theorem elapsed_exact (math : Libm K) (env : RuntimeEnv (Datum K) (TrajectoryEngine K) Sink)
    (runtime : Runtime (TrajectoryEngine K)) (sink : Sink) (config : SystemConfig) (startMs : Nat)
    (applied : (runtime.apply (env.withEngine math) config startMs).1 = .none) (before : List Nat)
    (nowMs : Nat) (close : (startMs :: (before ++ [nowMs])).IsChain Close) (fits : nowMs < 2 ^ 64) :
    let state := afterTicks (env.withEngine math) runtime sink config startMs before
    ∃ fleet, state.1.fleet = some fleet ∧
      validateAndExpand env.sha256 config runtime.device = .ok fleet.aircraft ∧
      (state.1.tick (env.withEngine math) state.2 nowMs).2.1.fleet =
        some (fleet.stage (env.withEngine math) state.2 nowMs fleet.aircraft.length).fleet ∧
      ∀ index item, fleet.aircraft[index]? = some item →
        let stage := (fleet.stage (env.withEngine math) state.2 nowMs index).fleet
        (stage.engine.extendElapsed item.instanceIndex (elapsed32 nowMs stage.startedMs)).1.toNat =
          nowMs - startMs ∧
        fleet.sampledAt (env.withEngine math) state.2 nowMs index item =
          flightState math stage.engine.siteCenter
            (motionAt math (stage.config.groupOf item).trajectory ((nowMs - startMs : Nat) / 1000)
              item.instanceIndex) (elapsed32 nowMs startMs) := by
  obtain ⟨lastMs, last, shorter, gap⟩ := close_snoc close
  obtain ⟨fleet, running, expanded, rfl, began, current⟩ :=
    @run_current _ _ _ _ _ math env _ sink _ _ applied before shorter _ last (gap.1.trans_lt fits)
  intro state
  have began' : fleet.startedMs ≤ nowMs := began.trans gap.1
  have start : Timed fleet fleet.engine (nowMs - fleet.startedMs) 0 :=
    ⟨fun item member => (current item member).ready began gap, nofun⟩
  refine ⟨fleet, running, expanded, ?_, ?_⟩
  · rw [Fleet.stage_last]
    exact (tick_running running began').1
  · intro index item found
    obtain ⟨inside, _⟩ := List.getElem?_eq_some_iff.mp found
    have timed : Timed fleet (fleet.stage (env.withEngine math) state.2 nowMs index).fleet.engine
        (nowMs - fleet.startedMs) index := stage_timed began' fits start state.2 inside.le
    have started : (fleet.stage (env.withEngine math) state.2 nowMs index).fleet.startedMs =
        fleet.startedMs := (fleet.stage_ticked state.2 nowMs index).startedMs
    have extended := (timed.ready item (List.mem_of_getElem? found)).extended
      (elapsed32_toNat began') ((Nat.sub_le _ _).trans_lt fits)
    dsimp only
    rw [started]
    refine ⟨extended, ?_⟩
    unfold Fleet.sampledAt
    dsimp only
    rw [started]
    show (TrajectoryEngine.sample math _ _ _ _).1 = _
    rw [TrajectoryEngine.sample_state, extended]

/-- The fleet of an `apply` keeps its start, whenever the ticks come. -/
theorem run_started {runtime : Runtime (TrajectoryEngine K)} {sink : Sink} {config : SystemConfig}
    {startMs : Nat} (applied : (runtime.apply (env.withEngine math) config startMs).1 = .none)
    (before : List Nat) :
    ∃ fleet, (afterTicks (env.withEngine math) runtime sink config startMs before).1.fleet = some fleet ∧
      validateAndExpand env.sha256 config runtime.device = .ok fleet.aircraft ∧
      fleet.startedMs = startMs := by
  induction before using List.reverseRecOn with
  | nil =>
    obtain ⟨fleet, started, running⟩ := apply_started applied
    exact ⟨fleet, running, started.expanded, started.startedMs⟩
  | append_singleton before nowMs ih =>
    obtain ⟨fleet, running, expanded, started⟩ := ih
    rw [afterTicks_snoc]
    by_cases late : nowMs < fleet.startedMs
    · rw [tick_early (env.withEngine math) running late]
      exact ⟨fleet, running, expanded, started⟩
    · rw [tick_late (env.withEngine math) running late]
      have ticked := @tick_ticked _ _ _ (env.withEngine math) fleet
        (afterTicks (env.withEngine math) runtime sink config startMs before).2 nowMs
      refine ⟨_, rfl, ?_, ticked.startedMs.trans started⟩
      rw [ticked.members]
      exact expanded

theorem sampledAt_time (fleet : Fleet (TrajectoryEngine K)) (sink : Sink) (nowMs index : Nat)
    (item : AircraftConfig) :
    (fleet.sampledAt (env.withEngine math) sink nowMs index item).relativeTimeMs =
      elapsed32 nowMs fleet.startedMs := by
  have started : (fleet.stage (env.withEngine math) sink nowMs index).fleet.startedMs =
      fleet.startedMs := (fleet.stage_ticked sink nowMs index).startedMs
  rw [← started]
  rfl

/-- The time of `Location` is the time since the start within the hour exactly while the wraps of the
32 bits add up to whole hours: in the first 2^32 ms, and then for one span of 2^32 ms in 28125. -/
theorem location_time_iff [IsStrictOrderedRing K] (math : Libm K)
    (env : RuntimeEnv (Datum K) (TrajectoryEngine K) Sink) (runtime : Runtime (TrajectoryEngine K))
    (sink : Sink) (config : SystemConfig) (startMs : Nat)
    (applied : (runtime.apply (env.withEngine math) config startMs).1 = .none) (before : List Nat)
    (nowMs : Nat) (later : startMs ≤ nowMs) :
    let state := afterTicks (env.withEngine math) runtime sink config startMs before
    ∃ fleet, state.1.fleet = some fleet ∧
      validateAndExpand env.sha256 config runtime.device = .ok fleet.aircraft ∧
      (state.1.tick (env.withEngine math) state.2 nowMs).2.1.fleet =
        some (fleet.stage (env.withEngine math) state.2 nowMs fleet.aircraft.length).fleet ∧
      ∀ index item, fleet.aircraft[index]? = some item →
        let sampled := fleet.sampledAt (env.withEngine math) state.2 nowMs index item
        (sampled.relativeTimeMs.toNat % 3600000 = (nowMs - startMs) % 3600000 ↔
          28125 ∣ (nowMs - startMs) / 2 ^ 32) ∧
        ∀ options, ((OdidEncoder.locationData sampled options).timeStamp =
            .finite (((nowMs - startMs) % 3600000 : Nat) / 1000) ↔
          28125 ∣ (nowMs - startMs) / 2 ^ 32) := by
  obtain ⟨fleet, running, expanded, rfl⟩ :=
    @run_started _ _ _ _ _ math env _ sink _ _ applied before
  intro state
  refine ⟨fleet, running, expanded, ?_, ?_⟩
  · rw [Fleet.stage_last]
    exact (tick_running running later).1
  · intro index item found
    dsimp only
    have whole : 3600000 / Nat.gcd 3600000 (2 ^ 32) = 28125 := by decide
    have positive : 0 < 3600000 := by decide
    have wrapped := @mod_mod_eq_iff (2 ^ 32) 3600000 positive (nowMs - fleet.startedMs)
    rw [whole] at wrapped
    have milliseconds : (fleet.sampledAt (env.withEngine math) state.2 nowMs index
        item).relativeTimeMs.toNat = (nowMs - fleet.startedMs) % 2 ^ 32 := by
      rw [sampledAt_time, elapsed32_toNat later]
    refine ⟨?_, fun options => ?_⟩
    · rw [milliseconds]
      exact wrapped
    · unfold OdidEncoder.locationData
      dsimp only
      have thousand : (1000 : K) ≠ 0 := by norm_num
      rw [milliseconds, Datum.finite.injEq, div_left_inj' thousand, Nat.cast_inj]
      exact wrapped

end

/-- A runtime that flies in the reals, and a sink that takes everything. -/
noncomputable def flightEnv : RuntimeEnv (Datum ℝ) (TrajectoryEngine ℝ) Unit where
  sha256 := oneHoverSha256
  newEngine site := { siteCenter := site.number }
  sample engine _ _ elapsedMs := (flightState realLibm engine.siteCenter .rest elapsedMs, engine)
  encodePack _ _ _ := none
  encodeOdid _ _ _ _ := none
  encodeGb _ _ _ _ := none
  submit sink _ := (true, sink)

def idleFlights : Runtime (TrajectoryEngine ℝ) := { device := Vector.replicate 6 0 }

theorem oneHover_flies : (idleFlights.apply (flightEnv.withEngine realLibm) oneHover 0).1 = .none := by
  decide +kernel

/-- The third tick of a hovering aircraft, after the first wrap. -/
theorem elapsed_exact_after_wrap :
    let state := afterTicks (flightEnv.withEngine realLibm) idleFlights () oneHover 0
      [2000000000, 4000000000]
    ∃ fleet, state.1.fleet = some fleet ∧
      validateAndExpand flightEnv.sha256 oneHover idleFlights.device = .ok fleet.aircraft ∧
      (state.1.tick (flightEnv.withEngine realLibm) state.2 6000000000).2.1.fleet = some (fleet.stage
        (flightEnv.withEngine realLibm) state.2 6000000000 fleet.aircraft.length).fleet ∧
      ∀ index item, fleet.aircraft[index]? = some item →
        let stage := (fleet.stage (flightEnv.withEngine realLibm) state.2 6000000000 index).fleet
        (stage.engine.extendElapsed item.instanceIndex (elapsed32 6000000000 stage.startedMs)).1.toNat =
          6000000000 - 0 ∧
        fleet.sampledAt (flightEnv.withEngine realLibm) state.2 6000000000 index item =
          flightState realLibm stage.engine.siteCenter (motionAt realLibm
            (stage.config.groupOf item).trajectory ((6000000000 - 0 : Nat) / 1000) item.instanceIndex)
            (elapsed32 6000000000 0) :=
  elapsed_exact realLibm flightEnv idleFlights () oneHover 0 oneHover_flies [2000000000, 4000000000]
    6000000000 (by simp [List.isChain_cons_cons, Close]) (by decide)

theorem location_time_iff_first_tick :
    let state := afterTicks (flightEnv.withEngine realLibm) idleFlights () oneHover 0 []
    ∃ fleet, state.1.fleet = some fleet ∧
      validateAndExpand flightEnv.sha256 oneHover idleFlights.device = .ok fleet.aircraft ∧
      (state.1.tick (flightEnv.withEngine realLibm) state.2 1500).2.1.fleet = some (fleet.stage
        (flightEnv.withEngine realLibm) state.2 1500 fleet.aircraft.length).fleet ∧
      ∀ index item, fleet.aircraft[index]? = some item →
        let sampled := fleet.sampledAt (flightEnv.withEngine realLibm) state.2 1500 index item
        (sampled.relativeTimeMs.toNat % 3600000 = (1500 - 0) % 3600000 ↔
          28125 ∣ (1500 - 0) / 2 ^ 32) ∧
        ∀ options, ((OdidEncoder.locationData sampled options).timeStamp =
            .finite (((1500 - 0) % 3600000 : Nat) / 1000) ↔ 28125 ∣ (1500 - 0) / 2 ^ 32) :=
  location_time_iff realLibm flightEnv idleFlights () oneHover 0 oneHover_flies [] 1500 (by decide)

/-- After 2^32 ms the hour starts afresh. -/
theorem location_time_restarts :
    let state := afterTicks (flightEnv.withEngine realLibm) idleFlights () oneHover 0 []
    ∃ fleet item, state.1.fleet = some fleet ∧ fleet.aircraft[0]? = some item ∧
      let sampled := fleet.sampledAt (flightEnv.withEngine realLibm) state.2 (2 ^ 32) 0 item
      sampled.relativeTimeMs.toNat % 3600000 ≠ (2 ^ 32 - 0) % 3600000 := by
  obtain ⟨fleet, running, expanded, started⟩ :=
    @run_started _ _ _ _ _ realLibm flightEnv _ () _ _ oneHover_flies []
  have single : (validateAndExpand flightEnv.sha256 oneHover idleFlights.device).toOption.any
      (fun aircraft => aircraft[0]?.isSome) = true := by decide +kernel
  rw [expanded] at single
  obtain ⟨item, found⟩ := Option.isSome_iff_exists.mp single
  refine ⟨fleet, item, running, found, ?_⟩
  dsimp only
  rw [sampledAt_time, started]
  decide

end RidFirmware
