/-!
# Debug channels and link statistics

The engines publish diagnostic values on eight numbered channels, each with a short key
and the name of the metric that exports it. Two further groups of eight slots carry
eRPM and temperature: per motor for KISS, per field for Hobbywing.

`TelemetryStats` counts timeouts, refused frames and accepted frames. The counters are
32-bit and wrap; a debug slot shows a counter clamped to the largest 32-bit signed value
(`slotValue`).
-/

namespace EscTelemetry

/-- The diagnostic channels. -/
inductive Tag where
  | motorIndex
  | numTimeouts
  | numCrcErrors
  | dataAge
  | rpm
  | temperature
  | voltage
  | current
deriving DecidableEq, Repr

namespace Tag

/-- Every channel, in channel order. -/
def all : List Tag :=
  [.motorIndex, .numTimeouts, .numCrcErrors, .dataAge, .rpm, .temperature, .voltage, .current]

/-- The slot a channel occupies. -/
def channel : Tag → Fin 8
  | .motorIndex => 0
  | .numTimeouts => 1
  | .numCrcErrors => 2
  | .dataAge => 3
  | .rpm => 4
  | .temperature => 5
  | .voltage => 6
  | .current => 7

/-- The short name of a channel. -/
def key : Tag → String
  | .motorIndex => "motor_index"
  | .numTimeouts => "num_timeouts"
  | .numCrcErrors => "num_crc_errors"
  | .dataAge => "data_age"
  | .rpm => "rpm"
  | .temperature => "temperature"
  | .voltage => "voltage"
  | .current => "current"

/-- The metric that exports a channel. -/
def metric : Tag → String
  | .motorIndex => "esc_sensor_debug_motor_index"
  | .numTimeouts => "esc_sensor_debug_timeouts"
  | .numCrcErrors => "esc_sensor_debug_crc_errors"
  | .dataAge => "esc_sensor_debug_data_age"
  | .rpm => "esc_sensor_debug_rpm"
  | .temperature => "esc_sensor_debug_temperature"
  | .voltage => "esc_sensor_debug_voltage"
  | .current => "esc_sensor_debug_current"

end Tag

/-- The latest value written to each debug slot. -/
structure DebugChannels where
  sensor : Vector Int32 8 := Vector.replicate 8 0
  rpm : Vector Int32 8 := Vector.replicate 8 0
  temperature : Vector Int32 8 := Vector.replicate 8 0
deriving DecidableEq, Repr

namespace DebugChannels

/-- Write a channel. -/
def set (d : DebugChannels) (t : Tag) (v : Int32) : DebugChannels :=
  { d with sensor := d.sensor.set t.channel v }

/-- Read a channel. -/
def get (d : DebugChannels) (t : Tag) : Int32 := d.sensor[t.channel]

/-- Write an eRPM slot; slots past the eighth are ignored. -/
def setRpm (d : DebugChannels) (slot : Nat) (v : Int32) : DebugChannels :=
  if h : slot < 8 then { d with rpm := d.rpm.set slot v } else d

/-- Write a temperature slot; slots past the eighth are ignored. -/
def setTemperature (d : DebugChannels) (slot : Nat) (v : Int32) : DebugChannels :=
  if h : slot < 8 then { d with temperature := d.temperature.set slot v } else d

end DebugChannels

/-- A count as a debug value: itself when it fits a 32-bit signed slot, else the largest
such value. -/
def slotValue (n : Nat) : Int32 :=
  if n ≤ 2147483647 then Int32.ofNat n else 2147483647

/-- Cumulative outcome counts of a link, each wrapping at 2³². -/
structure TelemetryStats where
  timeouts : UInt32 := 0
  crcErrors : UInt32 := 0
  framesDecoded : UInt32 := 0
deriving DecidableEq, Repr, Inhabited

end EscTelemetry
