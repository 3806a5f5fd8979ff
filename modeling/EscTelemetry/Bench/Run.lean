import EscTelemetry.Sensor
import EscTelemetry.Bench.Clock
import EscTelemetry.Bench.KissBus
import EscTelemetry.Bench.Hw4Esc

/-!
# Benches: a sensor against simulated hardware

A bench runs a sensor against simulated ESCs under a hand-driven clock, one tick at a time.

* On a KISS bench the simulated bus is the sensor's motor driver and answers its requests;
  the sensor's port only marks the link as open. A tick advances the clock, lets the bus
  deliver a due reply to the sensor's receiver (if the two are wired), then runs the sensor.
* On a Hobbywing bench the simulated ESC is the sensor's serial port (absent when the link
  is closed). A tick advances the clock, lets the ESC stream what has come due (unless
  streaming is paused), then runs the sensor.

A run of `n` ticks returns the log records of all its ticks in order.
-/

namespace EscTelemetry

/-- A sensor polling a simulated KISS bus. -/
structure KissBench where
  sensor : Sensor KissBus CallbackOnlyPort
  clock : ManualClock

namespace KissBench

/-- A bench for the given settings and bus, starting at `startUs`; `attach` wires the bus to
the sensor's receiver when the sensor has one. Also the sensor's start record. -/
def new (c : SensorConfig) (bus : KissBus) (portOpen attach : Bool) (startUs : UInt64) :
    KissBench × LogRecord :=
  let (s, record) := Sensor.new c bus (if portOpen then some CallbackOnlyPort.mk else none)
  let s := if attach && s.hasReceiver then s.withDriver KissBus.attach else s
  ({ sensor := s, clock := ⟨startUs⟩ }, record)

/-- One tick of `tickMs` milliseconds. -/
def tick (b : KissBench) (tickMs : UInt64) : KissBench × Array LogRecord :=
  let (now, clock) := b.clock.advanceMs tickMs
  let (bus, bytes) := b.sensor.driver.step now
  let sensor := bytes.foldl Sensor.receive { b.sensor with driver := bus }
  let (sensor, records) := sensor.process now.toNat
  ({ sensor, clock }, records)

/-- `n` ticks of `tickMs` milliseconds. -/
def run (b : KissBench) (tickMs : UInt64) (n : Nat) : KissBench × Array LogRecord :=
  let rec go : Nat → KissBench → Array LogRecord → KissBench × Array LogRecord
    | 0, b, acc => (b, acc)
    | k + 1, b, acc =>
      let (b, records) := b.tick tickMs
      go k b (acc ++ records)
  go n b #[]

end KissBench

/-- A sensor reading a simulated Hobbywing ESC. -/
structure Hw4Bench where
  sensor : Sensor SimulatedMotors Hw4Esc
  clock : ManualClock

namespace Hw4Bench

/-- A bench for the given settings, motors and ESC, starting at `startUs`; with the link
closed the ESC is not connected. Also the sensor's start record. -/
def new (c : SensorConfig) (motors : SimulatedMotors) (esc : Hw4Esc) (portOpen : Bool)
    (startUs : UInt64) : Hw4Bench × LogRecord :=
  let (s, record) := Sensor.new c motors (if portOpen then some esc else none)
  ({ sensor := s, clock := ⟨startUs⟩ }, record)

/-- Let the ESC stream what is due by the clock's time, without running the sensor. -/
def stepEsc (b : Hw4Bench) : Hw4Bench :=
  { b with sensor := b.sensor.withPort (·.step b.clock.nowUs) }

/-- One tick of `tickMs` milliseconds. -/
def tick (b : Hw4Bench) (tickMs : UInt64) (streaming : Bool) : Hw4Bench × Array LogRecord :=
  let (now, clock) := b.clock.advanceMs tickMs
  let sensor := if streaming then b.sensor.withPort (·.step now) else b.sensor
  let (sensor, records) := sensor.process now.toNat
  ({ sensor, clock }, records)

/-- `n` ticks of `tickMs` milliseconds. -/
def run (b : Hw4Bench) (tickMs : UInt64) (streaming : Bool) (n : Nat) :
    Hw4Bench × Array LogRecord :=
  let rec go : Nat → Hw4Bench → Array LogRecord → Hw4Bench × Array LogRecord
    | 0, b, acc => (b, acc)
    | k + 1, b, acc =>
      let (b, records) := b.tick tickMs streaming
      go k b (acc ++ records)
  go n b #[]

/-- Packets the ESC has sent; none with the link closed. -/
def packetsSent (b : Hw4Bench) : UInt32 := (b.sensor.port.map (·.sent)).getD 0

/-- Bytes waiting in the ESC's FIFO; none with the link closed. -/
def waiting (b : Hw4Bench) : Nat := (b.sensor.port.map (·.queue.size)).getD 0

end Hw4Bench

end EscTelemetry
