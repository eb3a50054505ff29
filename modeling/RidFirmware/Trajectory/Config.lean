import Mathlib.Data.List.Rotate
import RidFirmware.Model

/-! Trajectory parameters of a group and the check they pass before a configuration is accepted. -/

namespace RidFirmware
open Lib Lib.Ieee

inductive TrajectoryType where
  | hover
  | line
  | circle
  | rectangle
  | waypointLoop
  | takeoffCruiseLand
  | other (raw : UInt8) (unknown : 6 ≤ raw)
  deriving DecidableEq

namespace TrajectoryType

def toRaw : TrajectoryType → UInt8
  | .hover => 0
  | .line => 1
  | .circle => 2
  | .rectangle => 3
  | .waypointLoop => 4
  | .takeoffCruiseLand => 5
  | .other raw _ => raw

def ofRaw (raw : UInt8) : TrajectoryType :=
  if h : 6 ≤ raw then .other raw h
  else if raw = 0 then .hover else if raw = 1 then .line else if raw = 2 then .circle
  else if raw = 3 then .rectangle else if raw = 4 then .waypointLoop else .takeoffCruiseLand

theorem ofRaw_toRaw (type : TrajectoryType) : ofRaw type.toRaw = type := by
  cases type with
  | other raw unknown => exact dif_pos unknown
  | _ => rfl

theorem toRaw_ofRaw (raw : UInt8) : (ofRaw raw).toRaw = raw := by
  unfold ofRaw
  split_ifs with unknown first second third fourth fifth
  · rfl
  · exact first.symm
  · exact second.symm
  · exact third.symm
  · exact fourth.symm
  · exact fifth.symm
  · simp only [toRaw]
    grind

theorem ofRaw_eq_iff (raw : UInt8) (type : TrajectoryType) : ofRaw raw = type ↔ type.toRaw = raw :=
  ⟨fun same => same ▸ toRaw_ofRaw raw, fun same => same ▸ ofRaw_toRaw type⟩

end TrajectoryType

/-- A point in the local frame of the site, in metres. -/
structure EnuPoint where
  eastM : Float32Bits
  northM : Float32Bits
  upM : Float32Bits
  deriving DecidableEq

def Float32Bits.zero : Float32Bits := ⟨0⟩

structure TrajectoryConfig where
  type : TrajectoryType := .hover
  altitudeM : Float32Bits := .zero
  speedMps : Float32Bits := .zero
  headingDeg : Float32Bits := .zero
  primarySizeM : Float32Bits := .zero
  secondarySizeM : Float32Bits := .zero
  verticalSpeedMps : Float32Bits := .zero
  cruiseTimeMs : UInt32 := 0
  waypoints : List EnuPoint := []
  deriving DecidableEq

/-- Every waypoint with the one flown to next; the last leg closes the loop. -/
def TrajectoryConfig.legs (config : TrajectoryConfig) : List (EnuPoint × EnuPoint) :=
  config.waypoints.zip (config.waypoints.rotate 1)

/-- `std::isfinite(value) && value >= 0.0F`. -/
def finiteNonnegative (value : Float32Bits) : Bool :=
  value.datum.isFinite && Datum.atMost (.finite 0) value.datum

/-- `std::isfinite(value) && value > 0.0F`. -/
def finitePositive (value : Float32Bits) : Bool :=
  value.datum.isFinite && Datum.less (.finite 0) value.datum

/-- `valid(const TrajectoryConfig &)`. A waypoint loop needs finite points and one leg with a
horizontal extent. -/
def TrajectoryConfig.valid (config : TrajectoryConfig) : Bool :=
  match config.type with
  | .hover => finiteNonnegative config.altitudeM
  | .line =>
      finitePositive config.primarySizeM && finitePositive config.speedMps &&
        finiteNonnegative config.altitudeM && config.headingDeg.datum.isFinite &&
        Datum.atMost (.finite 0) config.headingDeg.datum &&
        config.headingDeg.datum.less (.finite 360)
  | .circle =>
      finitePositive config.primarySizeM && finitePositive config.speedMps &&
        finiteNonnegative config.altitudeM
  | .rectangle =>
      finitePositive config.primarySizeM && finitePositive config.secondarySizeM &&
        finitePositive config.speedMps && finiteNonnegative config.altitudeM
  | .waypointLoop =>
      finitePositive config.speedMps && decide (2 ≤ config.waypoints.length) &&
        config.legs.all (fun leg => leg.1.eastM.datum.isFinite && leg.1.northM.datum.isFinite &&
          finiteNonnegative leg.1.upM) &&
        config.legs.any (fun leg => !leg.1.eastM.datum.same leg.2.eastM.datum ||
          !leg.1.northM.datum.same leg.2.northM.datum)
  | .takeoffCruiseLand =>
      finitePositive config.altitudeM && finitePositive config.verticalSpeedMps
  | .other _ _ => false

end RidFirmware
