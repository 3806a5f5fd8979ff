import EscTelemetry.Log

/-!
# The hardware around the sensor

The sensor talks to two pieces of hardware. The motor driver owns the ESC signal lines: it
knows how many motors there are, whether they are enabled, and sets the telemetry-request
bit on the next command to a motor. The serial port is the buffered receive side of the
telemetry UART, which only the Hobbywing engine reads (KISS bytes arrive through the
receive callback instead).

Both are classes over state types, so a driver or port is a value that a request or a read
turns into its next value. `CallbackOnlyPort` never has data; `QueuePort` is a receive FIFO
that may report more bytes than it holds, as a driver whose count runs ahead of its
buffer does; `RecordingMotors` remembers every request it was given.
-/

namespace EscTelemetry

/-- A motor output driver. -/
class MotorDriver (δ : Type) where
  motorCount : δ → Nat
  motorsEnabled : δ → Bool
  /-- Ask `motor` for telemetry on its next command. -/
  requestTelemetry : δ → Nat → δ

/-- The buffered receive side of a serial port. -/
class SerialPort (π : Type) where
  /-- How many bytes the port says are waiting. -/
  bytesWaiting : π → Nat
  /-- Take the next byte, if there is one. -/
  readByte : π → Option UInt8 × π

/-- A port that never has data. -/
structure CallbackOnlyPort where
deriving Repr, Inhabited

instance : SerialPort CallbackOnlyPort where
  bytesWaiting _ := 0
  readByte p := (none, p)

/-- A receive FIFO; `overstate` extra bytes are reported as waiting but never delivered. -/
structure QueuePort where
  bytes : List UInt8 := []
  overstate : Nat := 0
deriving Repr, Inhabited

instance : SerialPort QueuePort where
  bytesWaiting p := p.bytes.length + p.overstate
  readByte p := match p.bytes with
    | [] => (none, p)
    | b :: rest => (some b, { p with bytes := rest })

/-- Motor outputs that remember every telemetry request, oldest first. -/
structure RecordingMotors where
  count : Nat
  enabled : Bool := true
  requests : Array Nat := #[]
deriving Repr

instance : MotorDriver RecordingMotors where
  motorCount d := d.count
  motorsEnabled d := d.enabled
  requestTelemetry d m := { d with requests := d.requests.push m }

/-- Motor outputs for protocols that are never polled: requests are ignored. -/
structure SimulatedMotors where
  count : Nat
  enabled : Bool := true
deriving Repr

instance : MotorDriver SimulatedMotors where
  motorCount d := d.count
  motorsEnabled d := d.enabled
  requestTelemetry d _ := d

end EscTelemetry
