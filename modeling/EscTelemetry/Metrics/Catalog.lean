import EscTelemetry.Metrics.Registry
import EscTelemetry.Debug
import EscTelemetry.Text.Digits

/-!
# The sensor's metrics

Every metric the sensor exports, with its name and help text: the tick counters and the
tick-duration histogram of the acquisition loop, the link-health counters, the link state,
one gauge per debug channel, three per-motor gauges labelled by motor index, and six gauges
for the combined record (voltage and current in volts and amps, as doubles).

Each metric is registered the first time it is touched; `initAll` touches them all, in the
order the runtime does, and gives each per-motor gauge its motor-0 metric.
-/

namespace EscTelemetry.Metrics

/-- A metric of the sensor. -/
inductive SensorMetric where
  | ticks
  | ticksMissed
  | tickDuration
  | framesDecoded
  | timeouts
  | crcErrors
  | linkActive
  | debugChannel (t : Tag)
  | motorRpm
  | motorTemperature
  | motorDataAge
  | voltage
  | current
  | consumption
  | temperature
  | rpm
  | dataAge

/-- The bucket bounds of the tick-duration histogram, in microseconds. -/
def tickBounds : List Float := [1.0, 5.0, 10.0, 25.0, 50.0, 100.0, 250.0, 1000.0]

namespace SensorMetric

/-- The family a metric lives in, as first registered. -/
def family : SensorMetric → Family
  | .ticks => ⟨"esc_sensor_ticks_total", "Telemetry ticks executed", .counter, [],
      [⟨[], .whole 0⟩]⟩
  | .ticksMissed => ⟨"esc_sensor_ticks_missed_total", "Telemetry ticks started late",
      .counter, [], [⟨[], .whole 0⟩]⟩
  | .tickDuration => ⟨"esc_sensor_tick_duration_us",
      "Time spent inside one telemetry tick in microseconds", .histogram, [],
      [⟨[], .histogram tickBounds 0 0.0 (tickBounds.map fun _ => 0)⟩]⟩
  | .framesDecoded => ⟨"esc_sensor_frames_decoded_total",
      "Telemetry frames accepted by the decoder", .counter, [], [⟨[], .whole 0⟩]⟩
  | .timeouts => ⟨"esc_sensor_timeouts_total",
      "Telemetry requests that got no complete reply", .counter, [], [⟨[], .whole 0⟩]⟩
  | .crcErrors => ⟨"esc_sensor_crc_errors_total",
      "Frames rejected by checksum or plausibility checks", .counter, [], [⟨[], .whole 0⟩]⟩
  | .linkActive => ⟨"esc_sensor_link_active", "Telemetry link open (1) or closed (0)",
      .gauge, [], [⟨[], .whole 0⟩]⟩
  | .debugChannel t => ⟨t.metric,
      "Debug channel " ++ Text.decimal t.channel.val ++ " (" ++ t.key ++ ")", .gauge, [],
      [⟨[], .whole 0⟩]⟩
  | .motorRpm => ⟨"esc_sensor_motor_rpm", "Reported eRPM / 100 per motor", .gauge,
      ["motor"], []⟩
  | .motorTemperature => ⟨"esc_sensor_motor_temperature_c", "ESC temperature per motor",
      .gauge, ["motor"], []⟩
  | .motorDataAge => ⟨"esc_sensor_motor_data_age",
      "Missed updates since the last valid frame (255 = never)", .gauge, ["motor"], []⟩
  | .voltage => ⟨"esc_sensor_voltage_volts", "Mean ESC supply voltage", .gauge, [],
      [⟨[], .real 0.0⟩]⟩
  | .current => ⟨"esc_sensor_current_amps", "Total ESC current", .gauge, [],
      [⟨[], .real 0.0⟩]⟩
  | .consumption => ⟨"esc_sensor_consumption_mah", "Total consumed charge", .gauge, [],
      [⟨[], .whole 0⟩]⟩
  | .temperature => ⟨"esc_sensor_temperature_c", "Hottest ESC temperature", .gauge, [],
      [⟨[], .whole 0⟩]⟩
  | .rpm => ⟨"esc_sensor_rpm", "Mean reported eRPM / 100", .gauge, [], [⟨[], .whole 0⟩]⟩
  | .dataAge => ⟨"esc_sensor_data_age", "Oldest record age across motors", .gauge, [],
      [⟨[], .whole 0⟩]⟩

end SensorMetric

namespace Registry

/-- Register a metric if it is not yet. -/
def touch (r : Registry) (m : SensorMetric) : Registry := r.register m.family

/-- Add `n` to a counter. -/
def incBy (r : Registry) (m : SensorMetric) (n : Nat) : Registry :=
  (r.touch m).modifyMetric m.family.name [] (.whole 0) fun
    | .whole k => .whole (k + n)
    | v => v

/-- Set a whole-number gauge. -/
def setWhole (r : Registry) (m : SensorMetric) (i : Int) : Registry :=
  (r.touch m).modifyMetric m.family.name [] (.whole 0) fun _ => .whole i

/-- Set a gauge that holds a double. -/
def setReal (r : Registry) (m : SensorMetric) (x : Float) : Registry :=
  (r.touch m).modifyMetric m.family.name [] (.real 0.0) fun _ => .real x

/-- Set a per-motor gauge for one motor. -/
def setMotor (r : Registry) (m : SensorMetric) (motor : Nat) (i : Int) : Registry :=
  (r.touch m).modifyMetric m.family.name [Text.decimal motor] (.whole 0) fun _ => .whole i

/-- Touch a per-motor gauge's metric for one motor, creating it at zero. -/
def touchMotor (r : Registry) (m : SensorMetric) (motor : Nat) : Registry :=
  (r.touch m).modifyMetric m.family.name [Text.decimal motor] (.whole 0) id

/-- Record one tick duration, in microseconds. -/
def observeTick (r : Registry) (us : Float) : Registry :=
  (r.touch .tickDuration).modifyMetric (SensorMetric.tickDuration).family.name [] (.whole 0)
    (Value.observe us)

/-- Register every metric of the sensor, each per-motor gauge with its motor-0 metric. -/
def initAll (r : Registry) : Registry :=
  let r := [SensorMetric.ticks, .ticksMissed, .tickDuration, .framesDecoded, .timeouts,
    .crcErrors, .linkActive].foldl touch r
  let r := Tag.all.foldl (fun r t => r.touch (.debugChannel t)) r
  let r := [SensorMetric.motorRpm, .motorTemperature, .motorDataAge].foldl
    (fun r m => r.touchMotor m 0) r
  [SensorMetric.voltage, .current, .consumption, .temperature, .rpm, .dataAge].foldl touch r

end Registry

end EscTelemetry.Metrics
