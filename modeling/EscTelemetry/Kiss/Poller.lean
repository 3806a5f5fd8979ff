import EscTelemetry.Kiss.Frame
import EscTelemetry.CaptureBuffer
import EscTelemetry.Effects

/-!
# The KISS round-robin poller

KISS ESCs answer only when asked, and they share one wire, so one motor is in flight at a
time. After a boot delay of five seconds the poller asks motor 0; from then on every tick
that finds the request settled moves on to the next motor (wrapping at the store's motor
count) and asks it:

* a complete, CRC-valid reply is stored in the motor's record and counted as decoded;
* a complete reply with a bad CRC ages the record and counts a CRC error;
* no complete reply within 100 ms of the request ages the record and counts a timeout.

Times are whole milliseconds of the tick time. The motor in flight is shown, one-based,
on the motor-index debug channel, and the counters on theirs.

`KissPoller.decode` is the decode step on its own; `KissPoller.process` is one tick.
-/

namespace EscTelemetry

/-- Milliseconds the ESCs get to boot before the first request. -/
def escBootTimeMs : Nat := 5000

/-- Milliseconds after which a request without reply counts as lost. -/
def escRequestTimeoutMs : Nat := 100

/-- The outcome of looking at the capture buffer. -/
inductive FrameState where
  | pending
  | complete
  | failed
deriving DecidableEq, Repr

/-- Whether the poller is still waiting for the boot delay or has a request in flight. -/
inductive Trigger where
  | startup
  | pending
deriving DecidableEq, Repr

/-- The poller's state. -/
structure KissPoller where
  frame : CaptureBuffer := {}
  trigger : Trigger := .startup
  motor : Nat := 0
  requestMs : Nat := 0
  stats : TelemetryStats := {}

/-- The reading a frame gives: every field widened to the record's signed type. -/
def KissFrame.reading (f : KissFrame) : Reading :=
  { temperature := Int16.ofNat f.temperature.toNat, voltage := Int32.ofNat f.voltage.toNat,
    current := Int32.ofNat f.current.toNat, consumption := Int32.ofNat f.consumption.toNat,
    rpm := Int32.ofNat f.rpm.toNat }

namespace KissPoller

variable {δ : Type} [MotorDriver δ]

/-- A received byte, from the serial receive callback. -/
def receive (p : KissPoller) (b : UInt8) : KissPoller :=
  { p with frame := p.frame.push b }

/-- Bytes received for the request in flight. -/
def bytesRead (p : KissPoller) : Nat := p.frame.bytesRead

/-- Decode the captured frame into the record of the motor in flight. -/
def decode (p : KissPoller) (e : Effects δ) : KissPoller × Effects δ × FrameState :=
  if !p.frame.isComplete then (p, e, .pending)
  else
    match KissFrame.parse p.frame.frame with
    | .ok f =>
      let e := e.withStore (·.update p.motor f.reading)
      let e := e.withDebug fun d =>
        (d.setRpm p.motor (Int32.ofNat f.rpm.toNat)).setTemperature p.motor
          (Int32.ofNat f.temperature.toNat)
      let e := e.emit .trace kissTarget
        ("kiss frame from motor " ++ Text.decimal p.motor ++ ": rpm " ++ Text.decimal f.rpm.toNat)
      ({ p with stats := { p.stats with framesDecoded := p.stats.framesDecoded + 1 } }, e,
        .complete)
    | .error err =>
      (p, e.emit .debug kissTarget
        ("kiss frame from motor " ++ Text.decimal p.motor ++ " rejected: " ++ err.message),
        .failed)

/-- Move to the next motor, wrapping at `count`. -/
def selectNext (p : KissPoller) (count : Nat) : KissPoller :=
  { p with motor := if p.motor + 1 ≥ count then 0 else p.motor + 1 }

/-- Arm the buffer and ask the current motor for telemetry. -/
def request (p : KissPoller) (nowMs : Nat) (e : Effects δ) : KissPoller × Effects δ :=
  let p := { p with frame := p.frame.startCapture kissFrameSize, trigger := .pending,
                    requestMs := nowMs }
  (p, { e with driver := MotorDriver.requestTelemetry e.driver p.motor,
               debug := e.debug.set .motorIndex (slotValue (p.motor + 1)) })

/-- One tick at `nowUs` microseconds. -/
def process (p : KissPoller) (nowUs : Nat) (e : Effects δ) : KissPoller × Effects δ :=
  let nowMs := nowUs / 1000
  let count := e.store.motorCount
  match p.trigger with
  | .startup => if escBootTimeMs ≤ nowMs then p.request nowMs e else (p, e)
  | .pending =>
    if nowMs < p.requestMs + escRequestTimeoutMs then
      match p.decode e with
      | (p, e, .complete) => (p.selectNext count).request nowMs e
      | (p, e, .failed) =>
        let e := e.withStore (·.age p.motor)
        let (p, e) := (p.selectNext count).request nowMs e
        let crcErrors := p.stats.crcErrors + 1
        ({ p with stats := { p.stats with crcErrors } },
          e.withDebug (·.set .numCrcErrors (slotValue crcErrors.toNat)))
      | (p, e, .pending) => (p, e)
    else
      let e := e.emit .debug kissTarget
        ("kiss request to motor " ++ Text.decimal p.motor ++ " timed out after " ++
          Text.decimal p.bytesRead ++ " bytes")
      let e := e.withStore (·.age p.motor)
      let (p, e) := (p.selectNext count).request nowMs e
      let timeouts := p.stats.timeouts + 1
      ({ p with stats := { p.stats with timeouts } },
        e.withDebug (·.set .numTimeouts (slotValue timeouts.toNat)))

end KissPoller

end EscTelemetry
