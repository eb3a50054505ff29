import RidFirmware.Lib.Path
import RidFirmware.Trajectory.Config

/-! The trajectory engine in exact arithmetic: where an aircraft of a group is at a time of its
flight. What the C library computes is a parameter. -/

namespace RidFirmware
open Lib Lib.Ieee Lib.Path

/-- The functions of `<cmath>` that have no exact rational value. -/
structure Libm (K : Type) where
  sin : K → K
  cos : K → K
  sqrt : K → K
  pow : K → K → K
  hypot : K → K → K
  atan2 : K → K → K

section
variable {K : Type} [Field K]

/-- The number that a parameter stands for. `valid` requires those in use to be finite. -/
def Float32Bits.number (x : Float32Bits) : K := (x.datum.value : ℚ)

def Float64Bits.number (x : Float64Bits) : K := (x.datum.value : ℚ)

def GeoPoint.number (point : GeoPoint Float64Bits) : GeoPoint K where
  latitudeDeg := point.latitudeDeg.number
  longitudeDeg := point.longitudeDeg.number

def kPi : K := 3.14159265358979323846
def kWgs84A : K := 6378137
def kWgs84E2 : K := 6.69437999014e-3

/-- What a trajectory says about an aircraft, in the local frame of the site. -/
structure Motion (K : Type) where
  eastM : K
  northM : K
  altitudeM : K
  horizontalSpeedMps : K
  verticalSpeedMps : K
  headingDeg : K
  airborne : Bool

def Motion.rest : Motion K := ⟨0, 0, 0, 0, 0, 0, false⟩

variable (math : Libm K)

def enuToWgs84 (origin : GeoPoint K) (eastM northM : K) : GeoPoint K :=
  let latitudeRad := origin.latitudeDeg * kPi / 180
  let sinLatitude := math.sin latitudeRad
  let denominator := 1 - kWgs84E2 * sinLatitude * sinLatitude
  let meridionalRadius := kWgs84A * (1 - kWgs84E2) / math.pow denominator 1.5
  let primeVerticalRadius := kWgs84A / math.sqrt denominator
  { latitudeDeg := origin.latitudeDeg + northM / meridionalRadius * 180 / kPi
    longitudeDeg := origin.longitudeDeg +
      eastM / (primeVerticalRadius * math.cos latitudeRad) * 180 / kPi }

variable [LinearOrder K] [FloorRing K]

def normalizeHeading (headingDeg : K) : K :=
  let normalized := fmod headingDeg 360
  if normalized < 0 then normalized + 360 else normalized

/-- How far into its period a flight is. The instances of a group are spread over the period. -/
def positivePhase (seconds periodSeconds : K) (instanceIndex : UInt16) : K :=
  if periodSeconds ≤ 0 then 0
  else
    let offset := periodSeconds * ((instanceIndex.toNat % 50 : Nat) / 50)
    fmod (seconds + offset) periodSeconds

def sampleLine (config : TrajectoryConfig) (seconds : K) (instanceIndex : UInt16) : Motion K :=
  let length : K := config.primarySizeM.number
  let speed := config.speedMps.number
  let period := if 0 < speed then 2 * length / speed else 0
  let phase := positivePhase seconds period instanceIndex
  let travelled := phase * speed
  let returning := decide (length < travelled)
  let position := if returning then 2 * length - travelled else travelled
  let headingRad := config.headingDeg.number * kPi / 180
  { eastM := position * math.sin headingRad
    northM := position * math.cos headingRad
    altitudeM := config.altitudeM.number
    horizontalSpeedMps := speed
    verticalSpeedMps := 0
    headingDeg := normalizeHeading (config.headingDeg.number + if returning then 180 else 0)
    airborne := decide ((0 : K) < config.altitudeM.number) }

def sampleCircle (config : TrajectoryConfig) (seconds : K) (instanceIndex : UInt16) : Motion K :=
  let radius : K := config.primarySizeM.number
  let speed := config.speedMps.number
  let period := if 0 < speed then 2 * kPi * radius / speed else 0
  let phase := positivePhase seconds period instanceIndex
  let angle := if 0 < period then phase * 2 * kPi / period else 0
  { eastM := radius * math.cos angle
    northM := radius * math.sin angle
    altitudeM := config.altitudeM.number
    horizontalSpeedMps := speed
    verticalSpeedMps := 0
    headingDeg := normalizeHeading (-angle * 180 / kPi)
    airborne := decide ((0 : K) < config.altitudeM.number) }

/-- The four sides, from the south west corner counterclockwise. -/
def sampleRectangle (config : TrajectoryConfig) (seconds : K) (instanceIndex : UInt16) : Motion K :=
  let width : K := config.primarySizeM.number
  let height : K := config.secondarySizeM.number
  let speed := config.speedMps.number
  let perimeter := 2 * (width + height)
  let period := if 0 < speed then perimeter / speed else 0
  let distance := positivePhase seconds period instanceIndex * speed
  let motion : Motion K :=
    { Motion.rest with
      altitudeM := config.altitudeM.number
      horizontalSpeedMps := speed
      airborne := decide ((0 : K) < config.altitudeM.number) }
  if distance < width then
    { motion with eastM := -width / 2 + distance, northM := -height / 2, headingDeg := 90 }
  else
    let distance := distance - width
    if distance < height then
      { motion with eastM := width / 2, northM := -height / 2 + distance, headingDeg := 0 }
    else
      let distance := distance - height
      if distance < width then
        { motion with eastM := width / 2 - distance, northM := height / 2, headingDeg := 270 }
      else
        let distance := distance - width
        { motion with eastM := -width / 2, northM := height / 2 - distance, headingDeg := 180 }

/-- Standing at a waypoint. -/
def EnuPoint.hold (point : EnuPoint) (horizontalSpeedMps : K) : Motion K where
  eastM := point.eastM.number
  northM := point.northM.number
  altitudeM := point.upM.number
  horizontalSpeedMps := horizontalSpeedMps
  verticalSpeedMps := 0
  headingDeg := 0
  airborne := decide ((0 : K) < point.upM.number)

def segmentLength (leg : EnuPoint × EnuPoint) : K :=
  math.hypot (leg.2.eastM.number - leg.1.eastM.number) (leg.2.northM.number - leg.1.northM.number)

/-- On the way along a leg. -/
def alongLeg (speed : K) (leg : EnuPoint × EnuPoint) (distance : K) : Motion K :=
  let eastDelta : K := leg.2.eastM.number - leg.1.eastM.number
  let northDelta : K := leg.2.northM.number - leg.1.northM.number
  let ratio := distance / segmentLength math leg
  let altitude := leg.1.upM.number + (leg.2.upM.number - leg.1.upM.number) * ratio
  { eastM := leg.1.eastM.number + eastDelta * ratio
    northM := leg.1.northM.number + northDelta * ratio
    altitudeM := altitude
    horizontalSpeedMps := speed
    verticalSpeedMps := (leg.2.upM.number - leg.1.upM.number) * speed / segmentLength math leg
    headingDeg := normalizeHeading (math.atan2 eastDelta northDelta * 180 / kPi)
    airborne := decide (0 < altitude) }

/-- The leg at a distance from the first waypoint. Legs without horizontal extent are skipped. -/
def walkLegs (speed : K) (legs : List (EnuPoint × EnuPoint)) (distance : K) : Option (Motion K) :=
  match legs with
  | [] => none
  | leg :: rest =>
      let length := segmentLength math leg
      if length ≤ 0 then walkLegs speed rest distance
      else if distance ≤ length then some (alongLeg math speed leg distance)
      else walkLegs speed rest (distance - length)

def sampleWaypoints (config : TrajectoryConfig) (seconds : K) (instanceIndex : UInt16) : Motion K :=
  match config.waypoints with
  | [] => .rest
  | front :: others =>
      let speed : K := config.speedMps.number
      if others = [] ∨ speed ≤ 0 then front.hold 0
      else
        let loopLength := (config.legs.map (segmentLength math)).sum
        if loopLength ≤ 0 then front.hold 0
        else
          let distance := positivePhase seconds (loopLength / speed) instanceIndex * speed
          (walkLegs math speed config.legs distance).getD (front.hold speed)

def sampleMission (config : TrajectoryConfig) (seconds : K) (instanceIndex : UInt16) : Motion K :=
  let altitude : K := config.altitudeM.number
  let verticalSpeed := config.verticalSpeedMps.number
  let climbTime := if 0 < verticalSpeed then altitude / verticalSpeed else 0
  let cruiseTime : K := (config.cruiseTimeMs.toNat : K) / 1000
  let period := 2 * climbTime + cruiseTime
  let phase := positivePhase seconds period instanceIndex
  if phase ≤ 0 ∨ period ≤ 0 then .rest
  else
    let motion : Motion K :=
      if phase < climbTime then
        { Motion.rest with altitudeM := phase * verticalSpeed, verticalSpeedMps := verticalSpeed }
      else if phase < climbTime + cruiseTime then { Motion.rest with altitudeM := altitude }
      else { Motion.rest with
        altitudeM := altitude - (phase - climbTime - cruiseTime) * verticalSpeed
        verticalSpeedMps := -verticalSpeed }
    { motion with airborne := decide (0 < motion.altitudeM) }

/-- Climbing, cruising and descending: 20 m at 5 m/s, with two seconds in between. -/
example :
    let mission : TrajectoryConfig :=
      { altitudeM := ⟨0x41a00000⟩, verticalSpeedMps := ⟨0x40a00000⟩, cruiseTimeMs := 2000 }
    [0, 2, 5, 8, 10].map (fun seconds => (sampleMission mission seconds 0 : Motion ℚ).altitudeM) =
      [0, 10, 20, 10, 0] := by decide +kernel

def motionAt (config : TrajectoryConfig) (seconds : K) (instanceIndex : UInt16) : Motion K :=
  match config.type with
  | .hover =>
      { Motion.rest with
        altitudeM := config.altitudeM.number
        airborne := decide ((0 : K) < config.altitudeM.number) }
  | .line => sampleLine math config seconds instanceIndex
  | .circle => sampleCircle math config seconds instanceIndex
  | .rectangle => sampleRectangle config seconds instanceIndex
  | .waypointLoop => sampleWaypoints math config seconds instanceIndex
  | .takeoffCruiseLand => sampleMission config seconds instanceIndex
  | .other _ _ => .rest

def flightState (site : GeoPoint K) (motion : Motion K) (elapsedMs : UInt32) :
    FlightState (Datum K) :=
  let position := enuToWgs84 math site motion.eastM motion.northM
  { latitudeDeg := .finite position.latitudeDeg
    longitudeDeg := .finite position.longitudeDeg
    altitudeMslM := .finite motion.altitudeM
    heightAglM := .finite motion.altitudeM
    horizontalSpeedMps := .finite motion.horizontalSpeedMps
    verticalSpeedMps := .finite motion.verticalSpeedMps
    headingDeg := .finite (normalizeHeading motion.headingDeg)
    airborne := motion.airborne
    relativeTimeMs := elapsedMs }

end

/-- The engine keeps, for every instance, the last time it was asked for and how often the 32 bits
of the time have wrapped. -/
structure TrajectoryEngine (K : Type) where
  siteCenter : GeoPoint K
  lastElapsed : Vector UInt32 50 := Vector.replicate 50 0
  wrapOffset : Vector UInt64 50 := Vector.replicate 50 0
  elapsedInitialized : Vector Bool 50 := Vector.replicate 50 false

namespace TrajectoryEngine

variable {K : Type}

def slot (instanceIndex : UInt16) : Fin 50 := ⟨instanceIndex.toNat % 50, Nat.mod_lt _ (by decide)⟩

def extendElapsed (engine : TrajectoryEngine K) (instanceIndex : UInt16) (elapsedMs : UInt32) :
    UInt64 × TrajectoryEngine K :=
  let slot := slot instanceIndex
  let last := engine.lastElapsed[slot]
  let wrapped := engine.elapsedInitialized[slot] && decide (elapsedMs < last) &&
    decide ((1 : UInt32) <<< 31 < last - elapsedMs)
  let offset := engine.wrapOffset[slot] + if wrapped then (1 : UInt64) <<< 32 else 0
  (offset + elapsedMs.toUInt64,
    { engine with
      lastElapsed := engine.lastElapsed.set slot elapsedMs
      wrapOffset := engine.wrapOffset.set slot offset
      elapsedInitialized := engine.elapsedInitialized.set slot true })

variable [Field K] [LinearOrder K] [FloorRing K]

def sample (math : Libm K) (engine : TrajectoryEngine K) (config : TrajectoryConfig)
    (instanceIndex : UInt16) (elapsedMs : UInt32) : FlightState (Datum K) × TrajectoryEngine K :=
  let (extended, engine) := engine.extendElapsed instanceIndex elapsedMs
  let seconds : K := (extended.toNat : K) / 1000
  (flightState math engine.siteCenter (motionAt math config seconds instanceIndex) elapsedMs, engine)

theorem sample_state (math : Libm K) (engine : TrajectoryEngine K) (config : TrajectoryConfig)
    (instanceIndex : UInt16) (elapsedMs : UInt32) :
    (engine.sample math config instanceIndex elapsedMs).1 = flightState math engine.siteCenter
      (motionAt math config (((engine.extendElapsed instanceIndex elapsedMs).1.toNat : K) / 1000)
        instanceIndex) elapsedMs := rfl

@[simp] theorem sample_siteCenter (math : Libm K) (engine : TrajectoryEngine K)
    (config : TrajectoryConfig) (instanceIndex : UInt16) (elapsedMs : UInt32) :
    (engine.sample math config instanceIndex elapsedMs).2.siteCenter = engine.siteCenter := rfl

end TrajectoryEngine

end RidFirmware
