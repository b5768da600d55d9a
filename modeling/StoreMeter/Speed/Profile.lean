import StoreMeter.Speed.Sum
import StoreMeter.Tally
/-
# Speed.Profile — the speed of one phase over all workers

`Profile.ofLists` computes the statistics of a phase over any arithmetic; `Speed.ofMeasurements`
is its reading in doubles, with the whole bytes and the standard deviation.  A worker of duration
zero counts with the speed zero.
-/
namespace StoreMeter
namespace Speed

/-- The statistics of a phase: times in seconds, amounts in bytes and megabytes, and speeds in
megabytes a second. -/
structure Profile (K : Type) where
  totalDuration : K
  totalBytes : K
  maxSpeed : K
  minSpeed : K
  avgSpeed : K
  clusterSpeed : K
  variance : K
  saturation : K

section
variable {K : Type} [Arithmetic K]

/-- A quotient, or zero if the divisor is not positive. -/
def ratio (x y : K) : K := if Arithmetic.isPositive y then Arithmetic.div x y else nought

/-- The mean of a list. -/
def mean (xs : List K) : K := Arithmetic.div (sum xs) (Arithmetic.ofNat xs.length)

/-- The mean square distance from the mean. -/
def varianceOf (xs : List K) : K :=
  let center := mean xs
  let square (x : K) : K :=
    let distance := Arithmetic.sub x center
    Arithmetic.mul distance distance
  mean (xs.map square)

/-- An amount of bytes in megabytes. -/
def inMegabytes (bytes : K) : K := Arithmetic.div bytes (Arithmetic.ofNat Measurement.megabyte)

/-- The statistics of workers with these durations and amounts. -/
def Profile.ofLists (durations bytes : List K) : Profile K :=
  let megabytes := bytes.map inMegabytes
  let speeds := List.zipWith ratio megabytes durations
  let totalDuration := sum durations
  let totalMegabytes := sum megabytes
  let avgSpeed := ratio totalMegabytes totalDuration
  { totalDuration
    totalBytes := sum bytes
    maxSpeed := greatest speeds
    minSpeed := least speeds
    avgSpeed
    clusterSpeed := Arithmetic.mul avgSpeed (Arithmetic.ofNat durations.length)
    variance := varianceOf speeds
    saturation := ratio totalMegabytes (greatest durations) }

end

end Speed

/-- The speed of a phase as reports show it. -/
structure Speed where
  points : Nat
  totalDuration : Binary64
  totalBytes : Int
  maxSpeed : Binary64
  minSpeed : Binary64
  avgSpeed : Binary64
  clusterSpeed : Binary64
  stdDev : Binary64
  saturation : Binary64
  deriving DecidableEq

namespace Speed

/-- The speed of a phase without measurements. -/
def idle : Speed :=
  let zero := Binary64.zero false
  ⟨0, zero, 0, zero, zero, zero, zero, zero, zero⟩

/-- The speed of a phase from its measurements.  Durations and amounts have to lie in the range of
doubles. -/
def ofMeasurements (points : List Measurement) : Except Fault Speed :=
  if points.isEmpty then .ok idle
  else do
    let durations ← points.mapM (·.duration.toReal)
    let bytes ← points.mapM fun m => Binary64.ofIntChecked m.bytes
    let profile := Profile.ofLists durations bytes
    let totalBytes ← profile.totalBytes.toInt
    return {
      points := points.length
      totalDuration := profile.totalDuration
      totalBytes
      maxSpeed := profile.maxSpeed
      minSpeed := profile.minSpeed
      avgSpeed := profile.avgSpeed
      clusterSpeed := profile.clusterSpeed
      stdDev := profile.variance.sqrt
      saturation := profile.saturation }

/-- The speed as fields of a report. -/
def fields (s : Speed) : List (String × Value) :=
  [("points", .nat s.points), ("total_duration_seconds", .real s.totalDuration),
    ("total_size_bytes", .int s.totalBytes), ("max_speed_mbps", .real s.maxSpeed),
    ("min_speed_mbps", .real s.minSpeed), ("avg_speed_mbps", .real s.avgSpeed),
    ("cluster_avg_speed_mbps", .real s.clusterSpeed), ("std_dev", .real s.stdDev),
    ("saturation_speed_mbps", .real s.saturation)]

end Speed
end StoreMeter
