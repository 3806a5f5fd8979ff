import EscTelemetry.Metrics.Catalog
import EscTelemetry.Sensor

/-!
# Publishing sensor telemetry

A snapshot copies out, in one go, everything the exporters need from a sensor: whether the
link is open, the link statistics, the debug channels, the combined record and each motor's
record (the invalid record past the motor count). Taking it reads the combined record, so it
may rebuild it, exactly as reading index 255 does.

The publisher pushes a snapshot into the registry. The engine's counters are cumulative,
so the counters grow by the difference to the previous publish, taken modulo 2³²; every
gauge is set to the snapshot's value, voltage and current as doubles in volts and amps.
-/

namespace EscTelemetry

/-- What the exporters read from a sensor. -/
structure Snapshot where
  active : Bool
  stats : TelemetryStats
  debug : DebugChannels
  combined : EscSample
  motorCount : Nat
  motors : Vector EscSample maxMotors

namespace Snapshot

variable {δ π : Type} [MotorDriver δ] [SerialPort π]

/-- Take a snapshot; reading the combined record may rebuild it. -/
def capture (s : Sensor δ π) : Sensor δ π × Snapshot :=
  let count := s.store.motorCount
  let (s, motors) := (List.range maxMotors).foldl (fun (s, acc) m =>
      if m < count then
        let (s, r) := s.sample (.motor m)
        (s, acc.push (r.getD .invalid))
      else (s, acc.push .invalid)) (s, (#[] : Array EscSample))
  let (s, combined) := s.sample .combined
  (s, { active := s.isActive, stats := s.stats, debug := s.debug,
        combined := combined.getD .invalid, motorCount := count,
        motors := Vector.ofFn fun i => motors.getD i.val .invalid })

end Snapshot

namespace Metrics

/-- The statistics of the previous publish. -/
structure Publisher where
  last : TelemetryStats := {}

/-- Push a snapshot into the registry. -/
def Publisher.publish (p : Publisher) (snap : Snapshot) (r : Registry) : Publisher × Registry :=
  let stats := snap.stats
  let r := r.incBy .framesDecoded (stats.framesDecoded - p.last.framesDecoded).toNat
  let r := r.incBy .timeouts (stats.timeouts - p.last.timeouts).toNat
  let r := r.incBy .crcErrors (stats.crcErrors - p.last.crcErrors).toNat
  let r := r.setWhole .linkActive (if snap.active then 1 else 0)
  let r := Tag.all.foldl (fun r t => r.setWhole (.debugChannel t) (snap.debug.get t).toInt) r
  let r := (List.range (min snap.motorCount maxMotors)).foldl (fun r m =>
      let sample := snap.motors.toList.getD m .invalid
      let r := r.setMotor .motorRpm m sample.rpm.toInt
      let r := r.setMotor .motorTemperature m sample.temperature.toInt
      r.setMotor .motorDataAge m sample.dataAge.toNat) r
  let c := snap.combined
  let r := r.setReal .voltage (Float.ofInt c.voltage.toInt / 100.0)
  let r := r.setReal .current (Float.ofInt c.current.toInt / 100.0)
  let r := r.setWhole .consumption c.consumption.toInt
  let r := r.setWhole .temperature c.temperature.toInt
  let r := r.setWhole .rpm c.rpm.toInt
  let r := r.setWhole .dataAge c.dataAge.toNat
  ({ last := stats }, r)

end Metrics

end EscTelemetry
