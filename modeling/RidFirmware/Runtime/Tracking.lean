import RidFirmware.Gb.Recovery
import RidFirmware.Runtime.Elapsed
import RidFirmware.Runtime.Reception

/-! From the configuration to whoever receives it: every location that is sent is read, in either protocol, to
where the trajectory of its aircraft is at the time of the tick that sent it. -/

namespace RidFirmware
open Lib Lib.Ieee

/-! The states of a plan. -/

section
variable {K : Type} [Field K] [LinearOrder K] [FloorRing K] {Sink : Type}

variable {math : Libm K} {env : RuntimeEnv (Datum K) (TrajectoryEngine K) Sink} {config : SystemConfig}
  {site : GeoPoint Float64Bits} {startMs nowMs : Nat}

variable {aircraft : List AircraftConfig} {plan : Plan (TrajectoryEngine K)} {lastMs : Nat}

end

/-! What a receiver reads. -/

/-- A location as a receiver has it, in degrees, metres and metres per second. -/
structure Fix (K : Type) where
  position : GeoPoint K
  altitudeM : K
  heightM : K
  groundSpeedMps : K
  verticalSpeedMps : K
  headingDeg : K
  airborne : Bool

section
variable {K : Type} [Field K] [LinearOrder K]

/-- The location in the data of a receiver of Open Drone ID. -/
def Odid.UasData.fix (uas : Odid.UasData K) : Option (Fix K) :=
  if uas.location.valid then
    some {
      position := ⟨uas.location.data.latitude.value, uas.location.data.longitude.value⟩
      altitudeM := uas.location.data.altitudeGeo.value
      heightM := uas.location.data.height.value
      groundSpeedMps := uas.location.data.speedHorizontal.value
      verticalSpeedMps := uas.location.data.speedVertical.value
      headingDeg := uas.location.data.direction.value
      airborne := decide (uas.location.data.status = 2) }
  else none

omit [LinearOrder K] in
def GbReport.fix (report : GbReport K) : Option (Fix K) := do
  let position ← report.position
  let altitudeM ← report.mslAltitudeM
  let heightM ← report.relativeAltitudeM
  let groundSpeedMps ← report.groundSpeedMps
  let verticalSpeed ← report.verticalSpeed
  let headingDeg ← report.headingDeg
  let status ← report.status
  return {
    position, altitudeM, heightM, groundSpeedMps, headingDeg
    verticalSpeedMps := verticalSpeed.value
    airborne := decide (status = 1) }

/-- A fix is as near to a flight state as the wire of either protocol allows; a course of almost a full turn may
be read as north. -/
structure Fix.Near (fix : Fix K) (state : FlightState (Datum K)) : Prop where
  latitude : |fix.position.latitudeDeg - state.latitudeDeg.value| ≤ 1 / (2 * 10 ^ 7)
  longitude : |fix.position.longitudeDeg - state.longitudeDeg.value| ≤ 1 / (2 * 10 ^ 7)
  altitude : |fix.altitudeM - state.altitudeMslM.value| ≤ 1 / 4
  height : |fix.heightM - state.heightAglM.value| ≤ 1 / 4
  groundSpeed : |fix.groundSpeedMps - state.horizontalSpeedMps.value| ≤ 3 / 8
  verticalSpeed : |fix.verticalSpeedMps - state.verticalSpeedMps.value| ≤ 1 / 4
  heading : ∃ turns : Nat, turns ≤ 1 ∧ |fix.headingDeg + 360 * turns - state.headingDeg.value| ≤ 1 / 2
  airborne : fix.airborne = state.airborne

variable [IsStrictOrderedRing K]

variable [FloorRing K]

variable {Engine Sink : Type} {env : RuntimeEnv (Datum K) Engine Sink}

end

/-! The run. -/

section
variable {K : Type} [Field K] [LinearOrder K] [IsStrictOrderedRing K] [FloorRing K] {Sink : Type}

end

end RidFirmware
