import RidFirmware.Lib.Grid
import RidFirmware.Lib.Machine
import RidFirmware.Runtime.Runtime

/-! When the runtime attempts a message: the due times are timers on fixed grids, and a tick fires
exactly those on whose grid a point has come since the last tick. -/

namespace RidFirmware
open Lib

theorem advanceDue_eq (period : Nat) (positive : 0 < period) (nowMs due : Nat) :
    advanceDue period positive nowMs due = pastTime period nowMs due := by
  fun_induction advanceDue period positive nowMs due with
  | case1 due next later ih =>
    have quotient : (nowMs - due) / period = (nowMs - next) / period + 1 := by
      rw [Nat.div_eq_sub_div positive (by omega)]
      congr 2
      omega
    rw [ih, pastTime, pastTime, quotient]
    ring
  | case2 due next past =>
    have quotient : (nowMs - due) / period = 0 := Nat.div_eq_of_lt (by omega)
    rw [pastTime, quotient]
    ring

def RuntimeEvent.attempted : RuntimeEvent → Option (Nat × MessageKind)
  | .attempt aircraft kind _ => some (aircraft, kind)
  | _ => none

def attempts (events : List RuntimeEvent) : List (Nat × MessageKind) :=
  events.filterMap RuntimeEvent.attempted

@[simp] theorem attempts_append (first second : List RuntimeEvent) :
    attempts (first ++ second) = attempts first ++ attempts second := List.filterMap_append

section
variable {Number Engine Sink : Type} {env : RuntimeEnv Number Engine Sink}

/-- Two stages of a tick with the same plan: configuration, aircraft, due times and attempts. -/
structure SamePlan (before after : Progress Engine Sink) : Prop where
  config : after.fleet.config = before.fleet.config
  aircraft : after.fleet.aircraft = before.fleet.aircraft
  startedMs : after.fleet.startedMs = before.fleet.startedMs
  nextDue : after.fleet.nextDue = before.fleet.nextDue
  attempts : attempts after.events = attempts before.events

theorem SamePlan.refl (progress : Progress Engine Sink) : SamePlan progress progress :=
  ⟨rfl, rfl, rfl, rfl, rfl⟩

theorem SamePlan.trans {first second third : Progress Engine Sink} (left : SamePlan first second)
    (right : SamePlan second third) : SamePlan first third where
  config := right.config.trans left.config
  aircraft := right.aircraft.trans left.aircraft
  startedMs := right.startedMs.trans left.startedMs
  nextDue := right.nextDue.trans left.nextDue
  attempts := right.attempts.trans left.attempts

theorem submit_samePlan (progress : Progress Engine Sink) (payload : ScheduledPayload) :
    SamePlan progress (progress.submit env payload) := by
  unfold Progress.submit
  dsimp only
  split_ifs
  · exact ⟨rfl, rfl, rfl, rfl, by rw [attempts_append]; exact List.append_nil _⟩
  · exact ⟨rfl, rfl, rfl, rfl, by rw [attempts_append]; exact List.append_nil _⟩

theorem finish_samePlan (progress : Progress Engine Sink) (index : Nat) (kind : MessageKind)
    (payload : ScheduledPayload) (frame : Option Bytes) :
    SamePlan progress (progress.finish env index kind payload frame) := by
  unfold Progress.finish
  split
  · exact submit_samePlan progress _
  · exact ⟨rfl, rfl, rfl, rfl, by rw [attempts_append]; exact List.append_nil _⟩

theorem frame_samePlan (progress : Progress Engine Sink) (build : UInt8 → Bytes → Option Bytes)
    (encoded : Option Bytes) : SamePlan progress (progress.frame build encoded).2 := by
  unfold Progress.frame
  cases encoded with
  | none => exact SamePlan.refl progress
  | some bytes => exact ⟨rfl, rfl, rfl, rfl, rfl⟩

def dueAfter (config : SystemConfig) (aircraft : AircraftConfig) (nowMs : Nat) (kind : MessageKind)
    (due : Nat) : Nat :=
  if due ≤ nowMs then pastTime (config.periodOf aircraft kind) nowMs due else due

/-- A stage of a tick that serves some kinds of one aircraft and attempts some of them. -/
structure Served (before after : Progress Engine Sink) (nowMs index : Nat) (aircraft : AircraftConfig)
    (kinds attempted : List MessageKind) : Prop where
  config : after.fleet.config = before.fleet.config
  members : after.fleet.aircraft = before.fleet.aircraft
  startedMs : after.fleet.startedMs = before.fleet.startedMs
  nextDue : ∀ other kind, after.fleet.nextDue other kind = if other = index ∧ kind ∈ kinds then
    dueAfter before.fleet.config aircraft nowMs kind (before.fleet.nextDue other kind)
    else before.fleet.nextDue other kind
  attempts : attempts after.events = attempts before.events ++ attempted.map (index, ·)

theorem Served.congr {before middle after : Progress Engine Sink} {nowMs index : Nat}
    {aircraft : AircraftConfig} {kinds attempted : List MessageKind}
    (served : Served before middle nowMs index aircraft kinds attempted)
    (same : SamePlan middle after) : Served before after nowMs index aircraft kinds attempted where
  config := same.config.trans served.config
  members := same.aircraft.trans served.members
  startedMs := same.startedMs.trans served.startedMs
  nextDue := fun other kind => by rw [same.nextDue, served.nextDue]
  attempts := same.attempts.trans served.attempts

theorem advance_served (progress : Progress Engine Sink) (nowMs index : Nat)
    (aircraft : AircraftConfig) (kind : MessageKind) (fired : progress.fleet.nextDue index kind ≤ nowMs) :
    Served progress { progress with fleet := progress.fleet.advance index aircraft kind nowMs } nowMs
      index aircraft [kind] [] where
  config := rfl
  members := rfl
  startedMs := rfl
  nextDue := by
    intro other kind'
    simp only [Fleet.advance, advanceDue_eq, List.mem_singleton]
    by_cases here : other = index
    · subst here
      rw [Function.update_self]
      by_cases same : kind' = kind
      · subst same
        rw [Function.update_self, if_pos ⟨rfl, rfl⟩, dueAfter, if_pos fired]
      · rw [Function.update_of_ne same, if_neg (fun both => same both.2)]
    · rw [Function.update_of_ne here, if_neg (fun both => here both.1)]
  attempts := (List.append_nil _).symm

theorem rest_served (progress : Progress Engine Sink) (nowMs index : Nat)
    (aircraft : AircraftConfig) (kind : MessageKind) (waits : nowMs < progress.fleet.nextDue index kind) :
    Served progress progress nowMs index aircraft [kind] [] where
  config := rfl
  members := rfl
  startedMs := rfl
  nextDue := by
    intro other kind'
    split_ifs with here
    · obtain ⟨rfl, same⟩ := here
      rw [List.mem_singleton.mp same, dueAfter, if_neg (Nat.not_le.mpr waits)]
    · rfl
  attempts := (List.append_nil _).symm

theorem tickMessage_served (progress : Progress Engine Sink) (nowMs index : Nat)
    (aircraft : AircraftConfig) (state : FlightState Number) (kind : MessageKind) :
    Served progress (tickMessage env nowMs index aircraft state progress kind) nowMs index aircraft
      [kind] (if progress.fleet.nextDue index kind ≤ nowMs then [kind] else []) := by
  unfold tickMessage
  dsimp only
  by_cases waits : nowMs < progress.fleet.nextDue index kind
  · rw [if_pos waits, if_neg (Nat.not_le.mpr waits)]
    exact rest_served progress nowMs index aircraft kind waits
  · rw [if_neg waits, if_pos (Nat.not_lt.mp waits)]
    have advanced := advance_served progress nowMs index aircraft kind (Nat.not_lt.mp waits)
    have attempted : Served progress (Progress.attempt { progress with
        fleet := progress.fleet.advance index aircraft kind nowMs } index kind) nowMs index aircraft
        [kind] [kind] := {
      config := advanced.config
      members := advanced.members
      startedMs := advanced.startedMs
      nextDue := advanced.nextDue
      attempts := attempts_append _ _ }
    split_ifs
    · exact (attempted.congr (frame_samePlan _ _ _)).congr (finish_samePlan _ _ _ _ _)
    · exact (attempted.congr (frame_samePlan _ _ _)).congr (finish_samePlan _ _ _ _ _)

theorem foldl_served (nowMs index : Nat) (aircraft : AircraftConfig)
    (step : Progress Engine Sink → MessageKind → Progress Engine Sink)
    (attempted : Bool)
    (each : ∀ progress kind, Served progress (step progress kind) nowMs index aircraft [kind]
      (if attempted ∧ progress.fleet.nextDue index kind ≤ nowMs then [kind] else []))
    (kinds : List MessageKind) (distinct : kinds.Nodup) (progress : Progress Engine Sink) :
    Served progress (kinds.foldl step progress) nowMs index aircraft kinds
      (kinds.filter fun kind => attempted ∧ progress.fleet.nextDue index kind ≤ nowMs) := by
  induction kinds generalizing progress with
  | nil =>
    refine ⟨rfl, rfl, rfl, fun other kind => ?_, (List.append_nil _).symm⟩
    rw [if_neg (fun both => List.not_mem_nil both.2)]
    rfl
  | cons kind rest ih =>
    obtain ⟨fresh, distinct⟩ := List.nodup_cons.mp distinct
    have first := each progress kind
    have later := ih distinct (step progress kind)
    have untouched : ∀ other ∈ rest,
        (step progress kind).fleet.nextDue index other = progress.fleet.nextDue index other := by
      intro other member
      rw [first.nextDue, if_neg]
      intro parts
      obtain ⟨_, same⟩ := parts
      rw [List.mem_singleton.mp same] at member
      exact fresh member
    constructor
    · exact later.config.trans first.config
    · exact later.members.trans first.members
    · exact later.startedMs.trans first.startedMs
    · intro other kind'
      rw [List.foldl_cons, later.nextDue, first.config, first.nextDue]
      by_cases here : other = index
      · subst here
        by_cases same : kind' = kind
        · subst same
          simp [fresh]
        · simp [same]
      · simp [here]
    · have kept : (rest.filter fun other => attempted ∧
          (step progress kind).fleet.nextDue index other ≤ nowMs) =
          rest.filter fun other => attempted ∧ progress.fleet.nextDue index other ≤ nowMs := by
        apply List.filter_congr
        intro other member
        rw [untouched other member]
      rw [List.foldl_cons, later.attempts, first.attempts, kept, List.append_assoc, ← List.map_append]
      congr 2
      by_cases fired : attempted = true ∧ progress.fleet.nextDue index kind ≤ nowMs
      · rw [if_pos fired, List.filter_cons, if_pos (decide_eq_true fired)]
        rfl
      · rw [if_neg fired, List.filter_cons, if_neg (mt of_decide_eq_true fired)]
        rfl

theorem advanceKinds_served (progress : Progress Engine Sink) (nowMs index : Nat)
    (aircraft : AircraftConfig) :
    Served progress (progress.advanceKinds nowMs index aircraft) nowMs index aircraft kKinds [] := by
  unfold Progress.advanceKinds
  have served := foldl_served nowMs index aircraft (fun progress kind =>
    if progress.fleet.nextDue index kind ≤ nowMs then
      { progress with fleet := progress.fleet.advance index aircraft kind nowMs }
    else progress) false ?_ kKinds kKinds_nodup progress
  · simpa using served
  · intro progress kind
    have unattempted : ¬(false = true ∧ progress.fleet.nextDue index kind ≤ nowMs) :=
      fun both => Bool.false_ne_true both.1
    rw [if_neg unattempted]
    by_cases fired : progress.fleet.nextDue index kind ≤ nowMs
    · simp only [if_pos fired]
      exact advance_served progress nowMs index aircraft kind fired
    · simp only [if_neg fired]
      exact rest_served progress nowMs index aircraft kind (Nat.not_le.mp fired)

theorem tickPack_served (progress : Progress Engine Sink) (nowMs index : Nat)
    (aircraft : AircraftConfig) (state : FlightState Number) :
    Served progress (tickPack env nowMs index aircraft state progress) nowMs index aircraft kKinds
      (if kKinds.any (fun kind => progress.fleet.nextDue index kind ≤ nowMs) then [.location]
        else []) := by
  have advanced := advanceKinds_served progress nowMs index aircraft
  unfold tickPack
  dsimp only
  generalize progress.advanceKinds nowMs index aircraft = middle at *
  by_cases due : kKinds.any (fun kind => progress.fleet.nextDue index kind ≤ nowMs) = true
  · rw [due, if_pos rfl, if_neg (by decide)]
    have attempted : Served progress (middle.attempt index .location) nowMs index aircraft kKinds
        [.location] := {
      config := advanced.config
      members := advanced.members
      startedMs := advanced.startedMs
      nextDue := advanced.nextDue
      attempts := by
        have before := advanced.attempts
        rw [List.map_nil, List.append_nil] at before
        rw [← before]
        exact attempts_append _ _ }
    exact (attempted.congr (frame_samePlan _ _ _)).congr (finish_samePlan _ _ _ _ _)
  · rw [Bool.eq_false_iff.mpr due, if_pos Bool.not_false, if_neg Bool.false_ne_true]
    exact advanced

/-- The messages of an aircraft that a tick attempts, given their due times. -/
def attemptedKinds (aircraft : AircraftConfig) (nowMs : Nat) (due : MessageKind → Nat) :
    List MessageKind :=
  if aircraft.packed then if kKinds.any (fun kind => due kind ≤ nowMs) then [.location] else []
  else kKinds.filter fun kind => due kind ≤ nowMs

theorem tickAircraft_served (progress : Progress Engine Sink) (nowMs : Nat)
    (item : AircraftConfig × Nat) :
    Served progress (tickAircraft env nowMs progress item) nowMs item.2 item.1 kKinds
      (attemptedKinds item.1 nowMs (progress.fleet.nextDue item.2)) := by
  unfold tickAircraft attemptedKinds
  dsimp only
  generalize env.sample _ _ _ _ = sampled
  by_cases packed : item.1.packed = true
  · rw [if_pos packed, if_pos packed]
    have served := @tickPack_served _ _ _ env
      { progress with fleet := { progress.fleet with engine := sampled.2 } } nowMs item.2 item.1
      sampled.1
    exact ⟨served.config, served.members, served.startedMs, served.nextDue, served.attempts⟩
  · rw [if_neg packed, if_neg packed]
    have served := foldl_served nowMs item.2 item.1 (tickMessage env nowMs item.2 item.1 sampled.1)
      true ?_ kKinds kKinds_nodup
      { progress with fleet := { progress.fleet with engine := sampled.2 } }
    · simp only [true_and] at served
      exact ⟨served.config, served.members, served.startedMs, served.nextDue, served.attempts⟩
    · intro progress kind
      have message := @tickMessage_served _ _ _ env progress nowMs item.2 item.1 sampled.1 kind
      simpa only [true_and] using message

structure Ticked (before after : Progress Engine Sink) (nowMs : Nat)
    (items : List (AircraftConfig × Nat)) : Prop where
  config : after.fleet.config = before.fleet.config
  members : after.fleet.aircraft = before.fleet.aircraft
  startedMs : after.fleet.startedMs = before.fleet.startedMs
  nextDue : ∀ item ∈ items, ∀ kind, after.fleet.nextDue item.2 kind =
    dueAfter before.fleet.config item.1 nowMs kind (before.fleet.nextDue item.2 kind)
  others : ∀ index ∉ items.map Prod.snd, after.fleet.nextDue index = before.fleet.nextDue index
  counted : ∀ item ∈ items, ∀ kind, (attempts after.events).count (item.2, kind) =
    (attempts before.events).count (item.2, kind) +
      (attemptedKinds item.1 nowMs (before.fleet.nextDue item.2)).count kind
  silent : ∀ index ∉ items.map Prod.snd, ∀ kind,
    (attempts after.events).count (index, kind) = (attempts before.events).count (index, kind)

theorem count_map_index (index other : Nat) (kind : MessageKind) (kinds : List MessageKind) :
    (kinds.map (other, ·)).count (index, kind) = if index = other then kinds.count kind else 0 := by
  by_cases same : index = other
  · subst same
    rw [if_pos rfl]
    exact List.count_map_of_injective kinds (index, ·) (fun _ _ pairs => (Prod.mk.inj pairs).2) kind
  · rw [if_neg same, List.count_eq_zero]
    intro member
    obtain ⟨_, _, pair⟩ := List.mem_map.mp member
    exact same (Prod.mk.inj pair).1.symm

theorem foldl_ticked (nowMs : Nat) (items : List (AircraftConfig × Nat))
    (distinct : (items.map Prod.snd).Nodup) (progress : Progress Engine Sink) :
    Ticked progress (items.foldl (tickAircraft env nowMs) progress) nowMs items := by
  induction items generalizing progress with
  | nil =>
    exact ⟨rfl, rfl, rfl, nofun, fun _ _ => rfl, nofun, fun _ _ _ => rfl⟩
  | cons item rest ih =>
    rw [List.map_cons, List.nodup_cons] at distinct
    obtain ⟨fresh, distinct⟩ := distinct
    have first := @tickAircraft_served _ _ _ env progress nowMs item
    have later := ih distinct (tickAircraft env nowMs progress item)
    have elsewhere : ∀ index, index ≠ item.2 →
        (tickAircraft env nowMs progress item).fleet.nextDue index = progress.fleet.nextDue index := by
      intro index apart
      funext kind
      rw [first.nextDue, if_neg (fun both => apart both.1)]
    have counted : ∀ index kind, (attempts (tickAircraft env nowMs progress item).events).count
        (index, kind) = (attempts progress.events).count (index, kind) + if index = item.2 then
          (attemptedKinds item.1 nowMs (progress.fleet.nextDue item.2)).count kind else 0 := by
      intro index kind
      rw [first.attempts, List.count_append, count_map_index]
    constructor
    · exact later.config.trans first.config
    · exact later.members.trans first.members
    · exact later.startedMs.trans first.startedMs
    · intro other member kind
      rw [List.foldl_cons]
      rcases List.mem_cons.mp member with rfl | member
      · rw [later.others _ fresh, first.nextDue, if_pos ⟨rfl, mem_kKinds kind⟩]
      · have apart : other.2 ≠ item.2 := fun same => fresh (same ▸ List.mem_map_of_mem member)
        rw [later.nextDue other member, first.config, elsewhere _ apart]
    · intro index missing
      rw [List.map_cons, List.mem_cons, not_or] at missing
      rw [List.foldl_cons, later.others index missing.2, elsewhere index missing.1]
    · intro other member kind
      rw [List.foldl_cons]
      rcases List.mem_cons.mp member with rfl | member
      · rw [later.silent _ fresh, counted, if_pos rfl]
      · have apart : other.2 ≠ item.2 := fun same => fresh (same ▸ List.mem_map_of_mem member)
        rw [later.counted other member, counted, if_neg apart, Nat.add_zero, elsewhere _ apart]
    · intro index missing kind
      rw [List.map_cons, List.mem_cons, not_or] at missing
      rw [List.foldl_cons, later.silent index missing.2, counted, if_neg missing.1, Nat.add_zero]

theorem tick_ticked (fleet : Fleet Engine) (sink : Sink) (nowMs : Nat) :
    Ticked { fleet, sink } (fleet.tick env sink nowMs) nowMs fleet.aircraft.zipIdx := by
  apply foldl_ticked
  rw [List.zipIdx_map_snd]
  exact List.nodup_range'

/-- Every message of every aircraft is due at the first point of its grid from a bound on. -/
def OnSchedule (fleet : Fleet Engine) (bound : Nat) : Prop :=
  ∀ index aircraft, fleet.aircraft[index]? = some aircraft → ∀ kind,
    FirstPoint (firstDue fleet.config fleet.aircraft fleet.startedMs index kind)
      (fleet.config.periodOf aircraft kind) bound (fleet.nextDue index kind)

/-- A grid point of a message lies between two times. -/
def DueBetween (config : SystemConfig) (aircraft : List AircraftConfig) (startMs bound nowMs index : Nat)
    (kind : MessageKind) : Prop :=
  ∃ item point, aircraft[index]? = some item ∧
    OnGrid (firstDue config aircraft startMs index kind) (config.periodOf item kind) point ∧
    bound ≤ point ∧ point ≤ nowMs

/-- The messages a tick attempts, and when they are due next: a message sent on its own once if it
has come due since the bound, a pack once if one of its messages has. -/
structure EmitsExactly (config : SystemConfig) (aircraft : List AircraftConfig)
    (startMs bound nowMs : Nat) (events : List RuntimeEvent) (later : Fleet Engine) : Prop where
  single : ∀ index item, aircraft[index]? = some item → item.packed = false → ∀ kind,
    DueBetween config aircraft startMs bound nowMs index kind ∧
        (attempts events).count (index, kind) = 1 ∨
      ¬DueBetween config aircraft startMs bound nowMs index kind ∧
        (attempts events).count (index, kind) = 0
  pack : ∀ index item, aircraft[index]? = some item → item.packed = true →
    (∃ kind, DueBetween config aircraft startMs bound nowMs index kind) ∧
        (attempts events).count (index, .location) = 1 ∨
      (¬∃ kind, DueBetween config aircraft startMs bound nowMs index kind) ∧
        (attempts events).count (index, .location) = 0
  packOnly : ∀ index item, aircraft[index]? = some item → item.packed = true → ∀ kind,
    kind ≠ .location → (attempts events).count (index, kind) = 0
  next : ∀ index item, aircraft[index]? = some item → ∀ kind,
    FirstPoint (firstDue config aircraft startMs index kind) (config.periodOf item kind) (nowMs + 1)
      (later.nextDue index kind)

theorem OnSchedule.fires_iff {fleet : Fleet Engine} {bound nowMs index : Nat}
    (onSchedule : OnSchedule fleet bound) {item : AircraftConfig}
    (found : fleet.aircraft[index]? = some item) (kind : MessageKind) :
    fleet.nextDue index kind ≤ nowMs ↔
      DueBetween fleet.config fleet.aircraft fleet.startedMs bound nowMs index kind := by
  rw [(onSchedule index item found kind).fires_iff]
  unfold DueBetween
  apply Iff.intro
  · exact fun ⟨point, onGrid, late, early⟩ => ⟨item, point, found, onGrid, late, early⟩
  · intro parts
    obtain ⟨other, point, same, onGrid, late, early⟩ := parts
    rw [found, Option.some.injEq] at same
    subst same
    exact ⟨point, onGrid, late, early⟩

/-- One tick of a fleet on schedule. -/
theorem tick_emits {fleet : Fleet Engine} {bound nowMs : Nat} (onSchedule : OnSchedule fleet bound)
    (ordered : bound ≤ nowMs + 1) (sink : Sink) :
    EmitsExactly fleet.config fleet.aircraft fleet.startedMs bound nowMs
      (fleet.tick env sink nowMs).events (fleet.tick env sink nowMs).fleet := by
  have ticked := @tick_ticked _ _ _ env fleet sink nowMs
  have counted : ∀ index item, fleet.aircraft[index]? = some item → ∀ kind,
      (attempts (fleet.tick env sink nowMs).events).count (index, kind) =
        (attemptedKinds item nowMs (fleet.nextDue index)).count kind := by
    intro index item found kind
    have member : (item, index) ∈ fleet.aircraft.zipIdx := List.mem_zipIdx_iff_getElem?.mpr found
    exact (ticked.counted _ member kind).trans (Nat.zero_add _)
  constructor
  · intro index item found single kind
    rw [counted index item found, ← onSchedule.fires_iff found]
    unfold attemptedKinds
    rw [if_neg (Bool.eq_false_iff.mp single)]
    by_cases fired : fleet.nextDue index kind ≤ nowMs
    · refine .inl ⟨fired, List.count_eq_one_of_mem (kKinds_nodup.filter _) ?_⟩
      exact List.mem_filter.mpr ⟨mem_kKinds kind, decide_eq_true fired⟩
    · refine .inr ⟨fired, List.count_eq_zero.mpr fun member => fired ?_⟩
      exact of_decide_eq_true (List.mem_filter.mp member).2
  · intro index item found packed
    rw [counted index item found]
    simp only [← onSchedule.fires_iff found]
    unfold attemptedKinds
    rw [if_pos packed]
    by_cases fired : ∃ kind, fleet.nextDue index kind ≤ nowMs
    · have any : kKinds.any (fun kind => fleet.nextDue index kind ≤ nowMs) = true := by
        obtain ⟨kind, fired⟩ := fired
        exact List.any_eq_true.mpr ⟨kind, mem_kKinds kind, decide_eq_true fired⟩
      rw [if_pos any]
      exact .inl ⟨fired, rfl⟩
    · have none : ¬kKinds.any (fun kind => fleet.nextDue index kind ≤ nowMs) = true := by
        intro any
        obtain ⟨kind, _, due⟩ := List.any_eq_true.mp any
        exact fired ⟨kind, of_decide_eq_true due⟩
      rw [if_neg none]
      exact .inr ⟨fired, rfl⟩
  · intro index item found packed kind other
    rw [counted index item found]
    unfold attemptedKinds
    rw [if_pos packed, List.count_eq_zero]
    split_ifs
    · exact fun member => other (List.mem_singleton.mp member)
    · exact List.not_mem_nil
  · intro index item found kind
    have member : (item, index) ∈ fleet.aircraft.zipIdx := List.mem_zipIdx_iff_getElem?.mpr found
    have due : (fleet.tick env sink nowMs).fleet.nextDue index kind =
        dueAfter fleet.config item nowMs kind (fleet.nextDue index kind) :=
      ticked.nextDue _ member kind
    have first := onSchedule index item found kind
    rw [due, dueAfter]
    split_ifs with fired
    · exact first.fire (fleet.accepted.periodOf_pos item kind) fired
    · exact first.wait ordered (Nat.not_le.mp fired)

end

inductive RuntimeInput where
  | apply (config : SystemConfig) (nowMs : Nat)
  | tick (nowMs : Nat)

section
variable {Number Engine Sink : Type} (env : RuntimeEnv Number Engine Sink)

def runtimeMachine : Machine (Runtime Engine × Sink) RuntimeInput RuntimeEvent where
  step state
    | .apply config nowMs => (((state.1.apply env config nowMs).2, state.2), [])
    | .tick nowMs =>
        let ticked := state.1.tick env state.2 nowMs
        ((ticked.2.1, ticked.2.2.1), ticked.2.2.2)

variable {env}

theorem apply_onSchedule {runtime : Runtime Engine} {config : SystemConfig} {nowMs : Nat}
    (applied : (runtime.apply env config nowMs).1 = .none) :
    ∃ fleet, (runtime.apply env config nowMs).2.fleet = some fleet ∧ fleet.config = config ∧
      validateAndExpand env.sha256 config runtime.device = .ok fleet.aircraft ∧
      fleet.startedMs = nowMs ∧ OnSchedule fleet nowMs := by
  obtain ⟨fleet, started, running⟩ := apply_started applied
  refine ⟨fleet, running, started.config, started.expanded, started.startedMs, ?_⟩
  intro index item found kind
  rw [started.config, started.startedMs, started.nextDue]
  apply firstPoint_start
  simp only [firstDue, found]
  exact Nat.le_add_right _ _

/-- The start of the window a tick looks at: just after the tick before it. -/
def windowStart (startMs : Nat) (before : List Nat) : Nat :=
  match before.getLast? with
  | none => startMs
  | some lastMs => lastMs + 1

theorem ordered_window {startMs nowMs : Nat} {before : List Nat}
    (ordered : (startMs :: (before ++ [nowMs])).Pairwise (· ≤ ·)) :
    (startMs :: before).Pairwise (· ≤ ·) ∧ startMs ≤ nowMs ∧
      windowStart startMs before ≤ nowMs + 1 := by
  rw [← List.cons_append, List.pairwise_append] at ordered
  have earlier : ∀ timeMs ∈ startMs :: before, timeMs ≤ nowMs :=
    fun timeMs member => ordered.2.2 timeMs member nowMs List.mem_cons_self
  refine ⟨ordered.1, earlier startMs List.mem_cons_self, ?_⟩
  unfold windowStart
  cases last : before.getLast? with
  | none => exact (earlier startMs List.mem_cons_self).trans (Nat.le_succ _)
  | some lastMs =>
    exact Nat.succ_le_succ (earlier lastMs (List.mem_cons_of_mem _ (List.mem_of_getLast? last)))

theorem tick_running {runtime : Runtime Engine} {fleet : Fleet Engine} {sink : Sink} {nowMs : Nat}
    (running : runtime.fleet = some fleet) (started : fleet.startedMs ≤ nowMs) :
    (runtime.tick env sink nowMs).2.1.fleet = some (fleet.tick env sink nowMs).fleet ∧
      (runtime.tick env sink nowMs).2.2.1 = (fleet.tick env sink nowMs).sink ∧
      (runtime.tick env sink nowMs).2.2.2 = (fleet.tick env sink nowMs).events := by
  unfold Runtime.tick
  simp only [running]
  rw [if_neg (Nat.not_lt.mpr started)]
  exact ⟨rfl, rfl, rfl⟩

theorem apply_outcome (runtime : Runtime Engine) (config : SystemConfig) (nowMs : Nat) :
    (runtime.apply env config nowMs).1 ≠ .none ∧ (runtime.apply env config nowMs).2 = runtime ∨
      (runtime.apply env config nowMs).1 = .none ∧
        (runtime.apply env config nowMs).2.fleet.map Fleet.config = some config := by
  rcases apply_cases env runtime config nowMs with refused | started
  · rw [refused.2]
    exact .inl ⟨nofun, rfl⟩
  · obtain ⟨fleet, started, same⟩ := started
    rw [same]
    exact .inr ⟨rfl, congrArg some started.config⟩

theorem tick_config (runtime : Runtime Engine) (sink : Sink) (nowMs : Nat) :
    (runtime.tick env sink nowMs).2.1.fleet.map Fleet.config = runtime.fleet.map Fleet.config := by
  rcases tick_cases env runtime sink nowMs with refused | ticked
  · rw [refused]
  · obtain ⟨fleet, running, _, same⟩ := ticked
    rw [same, running]
    exact congrArg some (tick_ticked fleet sink nowMs).config

/-- After any ticks in order the fleet is still on the schedule `apply` has laid out. -/
theorem run_onSchedule {runtime : Runtime Engine} {sink : Sink} {config : SystemConfig} {startMs : Nat}
    (applied : (runtime.apply env config startMs).1 = .none) (before : List Nat)
    (ordered : (startMs :: before).Pairwise (· ≤ ·)) :
    ∃ fleet, ((runtimeMachine env).run (runtime, sink)
        (.apply config startMs :: before.map .tick)).1.1.fleet = some fleet ∧ fleet.config = config ∧
      validateAndExpand env.sha256 config runtime.device = .ok fleet.aircraft ∧
      fleet.startedMs = startMs ∧ OnSchedule fleet (windowStart startMs before) := by
  induction before using List.reverseRecOn with
  | nil => exact apply_onSchedule applied
  | append_singleton before nowMs ih =>
    obtain ⟨sorted, began, window⟩ := ordered_window ordered
    obtain ⟨fleet, running, config', expanded, started, onSchedule⟩ := ih sorted
    rw [List.map_append, List.map_singleton, ← List.cons_append, Machine.run_snoc]
    rw [← started] at began
    have ticked := @tick_ticked _ _ _ env fleet ((runtimeMachine env).run (runtime, sink)
      (.apply config startMs :: before.map .tick)).1.2 nowMs
    refine ⟨_, (tick_running running began).1, ticked.config.trans config', ?_,
      ticked.startedMs.trans started, ?_⟩
    · rw [ticked.members]
      exact expanded
    · have emitted := @tick_emits _ _ _ env fleet _ nowMs onSchedule window
        ((runtimeMachine env).run (runtime, sink) (.apply config startMs :: before.map .tick)).1.2
      have start : windowStart startMs (before ++ [nowMs]) = nowMs + 1 := by
        unfold windowStart
        rw [List.getLast?_append, List.getLast?_singleton]
        rfl
      rw [start]
      intro index item found kind
      rw [ticked.members] at found
      rw [ticked.config, ticked.members, ticked.startedMs]
      exact emitted.next index item found kind

end

/-- Encoders that refuse everything and a sink that takes nothing. -/
def refusingEnv : RuntimeEnv Unit Unit Unit where
  sha256 := oneHoverSha256
  newEngine _ := ()
  sample engine _ _ elapsedMs := (⟨(), (), (), (), (), (), (), false, elapsedMs⟩, engine)
  encodePack _ _ _ := none
  encodeOdid _ _ _ _ := none
  encodeGb _ _ _ _ := none
  submit sink _ := (false, sink)

def idleRuntime : Runtime Unit := { device := Vector.replicate 6 0 }

end RidFirmware
