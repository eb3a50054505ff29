import Mathlib.Analysis.Calculus.Deriv.Add
import Mathlib.Analysis.Calculus.Deriv.Comp
import Mathlib.Analysis.Calculus.Deriv.Mul
import RidFirmware.Lib.Path

/-! Rates of change on one side of a time. A function of the phase changes as it does at the phase, on
departure from every phase and on arrival at all phases but the first. -/

namespace RidFirmware.Lib.Path
open Filter Topology

inductive Side where
  | arriving
  | departing
  deriving DecidableEq

/-- The times up to this one, or from it on. -/
def Side.times : Side → ℝ → Set ℝ
  | .arriving, time => Set.Iic time
  | .departing, time => Set.Ici time

theorem Side.mem_times (side : Side) (time : ℝ) : time ∈ side.times time := by
  cases side with
  | arriving => exact le_refl time
  | departing => exact le_refl time

theorem Side.departs {p : Prop} : Side.departing = Side.arriving → p := nofun

/-- On this side of the time the function changes at the rate. -/
def Side.Rate (side : Side) (f : ℝ → ℝ) (rate time : ℝ) : Prop :=
  HasDerivWithinAt f rate (side.times time) time

theorem near_departing {time stop : ℝ} (room : time < stop) :
    Set.Ico time stop ∈ 𝓝[Side.departing.times time] time := Ico_mem_nhdsGE room

theorem near_arriving {start time : ℝ} (room : start < time) :
    Set.Ioc start time ∈ 𝓝[Side.arriving.times time] time := Ioc_mem_nhdsLE room

namespace Side.Rate

variable {side : Side} {f g : ℝ → ℝ} {rate time : ℝ}

theorem congr (changes : side.Rate f rate time) (same : ∀ᶠ x in 𝓝[side.times time] time, g x = f x) :
    side.Rate g rate time :=
  HasDerivWithinAt.congr_of_eventuallyEq changes same (same.self_of_nhdsWithin (side.mem_times time))

theorem of_affine (slope : ℝ)
    (affine : ∀ᶠ x in 𝓝[side.times time] time, f x = f time + slope * (x - time)) :
    side.Rate f slope time := by
  have line : HasDerivAt (fun x => f time + slope * (x - time)) slope time := by
    have moved : HasDerivAt (fun x => x - time) 1 time := (hasDerivAt_id time).sub_const time
    simpa using (moved.const_mul slope).const_add (f time)
  exact congr line.hasDerivWithinAt affine

theorem of_constant (constant : ∀ᶠ x in 𝓝[side.times time] time, f x = f time) : side.Rate f 0 time := by
  apply of_affine 0
  filter_upwards [constant] with x same
  rw [same, zero_mul, add_zero]

theorem mul_const (changes : side.Rate f rate time) (factor : ℝ) :
    side.Rate (fun x => f x * factor) (rate * factor) time :=
  HasDerivWithinAt.mul_const changes factor

theorem const_add (changes : side.Rate f rate time) (value : ℝ) :
    side.Rate (fun x => value + f x) rate time :=
  (hasDerivWithinAt_const_add_iff value).mpr changes

theorem shift {moment : ℝ} (changes : side.Rate f rate moment) :
    side.Rate (fun x => f (moment + (x - time))) rate time := by
  have later : HasDerivAt (fun x => moment + (x - time)) 1 time :=
    ((hasDerivAt_id time).sub_const time).const_add moment
  have here : moment + (time - time) = moment := by ring
  have kept : Set.MapsTo (fun x => moment + (x - time)) (side.times time) (side.times moment) := by
    intro x hx
    cases side with
    | arriving =>
      have before : x ≤ time := hx
      show moment + (x - time) ≤ moment
      linarith
    | departing =>
      have after : time ≤ x := hx
      show moment ≤ moment + (x - time)
      linarith
  unfold Side.Rate at changes ⊢
  have moved := HasDerivWithinAt.comp time (by rwa [here]) later.hasDerivWithinAt kept
  rwa [mul_one] at moved

theorem comp_mul {speed : ℝ} (forward : 0 ≤ speed) (changes : side.Rate f rate (time * speed)) :
    side.Rate (fun x => f (x * speed)) (rate * speed) time := by
  have scaled : HasDerivAt (fun x => x * speed) speed time := by
    simpa using (hasDerivAt_id time).mul_const speed
  have kept : Set.MapsTo (fun x => x * speed) (side.times time) (side.times (time * speed)) := by
    intro x hx
    cases side with
    | arriving => exact mul_le_mul_of_nonneg_right hx forward
    | departing => exact mul_le_mul_of_nonneg_right hx forward
  exact HasDerivWithinAt.comp time changes scaled.hasDerivWithinAt kept

end Side.Rate

variable {period offset time : ℝ}

theorem fmod_near (positive : 0 < period) (nonneg : 0 ≤ time + offset) {side : Side}
    (begun : side = .arriving → 0 < fmod (time + offset) period) :
    ∀ᶠ x in 𝓝[side.times time] time,
      fmod (x + offset) period = fmod (time + offset) period + (x - time) := by
  have low := fmod_nonneg nonneg positive
  have high := fmod_lt nonneg positive
  obtain ⟨turns, whole⟩ := exists_turns nonneg positive
  generalize fmod (time + offset) period = phase at begun low high whole
  have onward : ∀ x, phase + (x - time) ∈ Set.Ico 0 period →
      fmod (x + offset) period = phase + (x - time) := by
    intro x inside
    have turned : x + offset = turns * period + (phase + (x - time)) := by linarith
    rw [turned]
    exact fmod_turns turns inside
  cases side with
  | arriving =>
    have room : time - phase < time := by linarith [begun rfl]
    filter_upwards [near_arriving room] with x hx
    exact onward x ⟨by linarith [hx.1], by linarith [hx.2]⟩
  | departing =>
    have room : time < time + (period - phase) := by linarith
    filter_upwards [near_departing room] with x hx
    exact onward x ⟨by linarith [hx.1], by linarith [hx.2]⟩

theorem Side.Rate.fmod {side : Side} {f : ℝ → ℝ} {rate : ℝ} (positive : 0 < period)
    (nonneg : 0 ≤ time + offset) (begun : side = .arriving → 0 < Path.fmod (time + offset) period)
    (changes : side.Rate f rate (Path.fmod (time + offset) period)) :
    side.Rate (fun x => f (Path.fmod (x + offset) period)) rate time := by
  apply changes.shift.congr
  filter_upwards [fmod_near positive nonneg begun] with x onward
  rw [onward]

end RidFirmware.Lib.Path
