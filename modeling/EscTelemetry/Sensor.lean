import EscTelemetry.Config
import EscTelemetry.Kiss.Poller
import EscTelemetry.Hw4.Decoder

/-!
# The telemetry sensor

The sensor owns one protocol engine, chosen from the settings and never changed, together
with the motor driver, the serial port (absent when the UART could not be opened), the
record store and the debug channels.

* `Sensor.new` builds it and logs which protocol runs on how many motors.
* `Sensor.process` is one periodic tick: nothing happens without a port or while the
  motors are disabled; otherwise exactly one engine runs.
* `Sensor.receive` is the serial receive callback; only KISS has one.
* `Sensor.sample` reads a record. Hobbywing has a single record and returns it for every
  index; KISS returns a motor's record, or the combined record, whose rebuild also shows
  its age on the data-age channel.
-/

namespace EscTelemetry

/-- The protocol engine a sensor runs. -/
inductive Engine where
  | kiss (poller : KissPoller)
  | hw4 (decoder : Hw4Decoder)

namespace Engine

/-- The engine the settings call for. -/
def ofConfig (c : SensorConfig) : Engine :=
  match c.protocol with
  | .kiss => .kiss {}
  | .hw4 => .hw4 { calibration := ⟨c.hw4CurrentOffset, c.hw4CurrentGain, c.hw4VoltageGain⟩ }

/-- The protocol the engine speaks. -/
def protocol : Engine → Protocol
  | .kiss _ => .kiss
  | .hw4 _ => .hw4

/-- The engine's link statistics. -/
def stats : Engine → TelemetryStats
  | .kiss p => p.stats
  | .hw4 d => d.stats

/-- Bytes of the frame or packet under way. -/
def bytesRead : Engine → Nat
  | .kiss p => p.bytesRead
  | .hw4 d => d.bytesRead

end Engine

/-- Which record to read: one motor's, or the combined one. -/
inductive SensorIndex where
  | motor (m : Nat)
  | combined
deriving DecidableEq, Repr

/-- The index a raw byte stands for: 255 is the combined record. -/
def SensorIndex.ofByte (b : UInt8) : SensorIndex :=
  if b = 255 then .combined else .motor b.toNat

/-- A sensor over a motor driver of type `δ` and a serial port of type `π`. -/
structure Sensor (δ π : Type) where
  engine : Engine
  driver : δ
  port : Option π
  store : Store
  debug : DebugChannels := {}

namespace Sensor

variable {δ π : Type} [MotorDriver δ] [SerialPort π]

/-- A sensor for the given settings, with the log record of its start. -/
def new (c : SensorConfig) (driver : δ) (port : Option π) : Sensor δ π × LogRecord :=
  let s : Sensor δ π :=
    { engine := .ofConfig c, driver, port, store := .new (MotorDriver.motorCount driver) }
  (s, ⟨.info, sensorTarget,
    "esc sensor: " ++ s.engine.protocol.title ++ " protocol, " ++
      Text.decimal s.store.motorCount ++ " motors, link " ++
      (if port.isSome then "open" else "closed")⟩)

/-- The effects a tick works on. -/
def effects (s : Sensor δ π) : Effects δ :=
  { driver := s.driver, store := s.store, debug := s.debug }

/-- Take back what a tick changed. -/
def absorb (s : Sensor δ π) (e : Effects δ) : Sensor δ π :=
  { s with driver := e.driver, store := e.store, debug := e.debug }

/-- One periodic tick at `nowUs` microseconds, with the log records it produced. -/
def process (s : Sensor δ π) (nowUs : Nat) : Sensor δ π × Array LogRecord :=
  match s.port with
  | none => (s, #[])
  | some port =>
    if !MotorDriver.motorsEnabled s.driver then (s, #[])
    else
      match s.engine with
      | .kiss p =>
        let (p, e) := p.process nowUs s.effects
        ({ s.absorb e with engine := .kiss p }, e.log)
      | .hw4 d =>
        let (d, port, e) := d.process nowUs port s.effects
        ({ s.absorb e with engine := .hw4 d, port := some port }, e.log)

/-- Whether the engine has a receive callback (KISS). -/
def hasReceiver (s : Sensor δ π) : Bool :=
  match s.engine with
  | .kiss _ => true
  | .hw4 _ => false

/-- A byte from the serial receive callback; ignored by engines without one. -/
def receive (s : Sensor δ π) (b : UInt8) : Sensor δ π :=
  match s.engine with
  | .kiss p => { s with engine := .kiss (p.receive b) }
  | .hw4 _ => s

/-- Read a record. -/
def sample (s : Sensor δ π) : SensorIndex → Sensor δ π × Option EscSample
  | index =>
    match s.engine, index with
    | .hw4 _, _ => (s, some s.store.primary)
    | .kiss _, .motor m => (s, s.store.get? m)
    | .kiss _, .combined =>
      let before := s.store.recomputations
      let (store, c) := s.store.combined
      let debug := if store.recomputations ≠ before then
          s.debug.set .dataAge (Int32.ofNat c.dataAge.toNat)
        else s.debug
      ({ s with store, debug }, some c)

/-- The eRPM / 100 of a motor; 0 when there is no such motor. -/
def rpm (s : Sensor δ π) (m : Nat) : Int32 :=
  match s.store.get? m with
  | some r => r.rpm
  | none => 0

/-- Whether the serial port is open. -/
def isActive (s : Sensor δ π) : Bool := s.port.isSome

/-- The engine's link statistics. -/
def stats (s : Sensor δ π) : TelemetryStats := s.engine.stats

/-- Bytes of the frame or packet under way. -/
def bytesRead (s : Sensor δ π) : Nat := s.engine.bytesRead

/-- The protocol the sensor speaks. -/
def protocol (s : Sensor δ π) : Protocol := s.engine.protocol

/-- Change the motor driver. -/
def withDriver (s : Sensor δ π) (f : δ → δ) : Sensor δ π := { s with driver := f s.driver }

/-- Change the port, if it is open. -/
def withPort (s : Sensor δ π) (f : π → π) : Sensor δ π := { s with port := s.port.map f }

end Sensor

end EscTelemetry
