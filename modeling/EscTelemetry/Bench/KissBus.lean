import EscTelemetry.Kiss.Frame
import EscTelemetry.Link
import EscTelemetry.Sample
import EscTelemetry.Numeric.Binary
import EscTelemetry.Bench.Random

/-!
# A simulated KISS bus

Up to eight KISS ESCs share one half-duplex telemetry wire. The bus is the motor driver of
a bench: a telemetry request to a motor schedules that ESC's reply for `latencyUs` later,
unless the fault profile drops it, and may mark it to arrive damaged. A new request cuts
off a reply still on the wire. The due time is a word of the 64-bit clock and the addition
wraps, so a request made within `latencyUs` of the clock's end falls due at once.

`KissBus.step` moves simulated time on. Every ESC integrates its current into consumed
charge (0.01 A for one hour is 10 mAh), which its frame reports, saturated to a 16-bit
count. A reply that has come due is handed back as the ten bytes that reach the receiver
(none when nothing is attached or the motor does not exist); a damaged reply has one bit
flipped in one of its first nine bytes.

The bus counts the requests per motor and keeps the first 4096 requests in order.
-/

namespace EscTelemetry

/-- One simulated ESC: what it reports, and its consumed charge in mAh. -/
structure SimulatedEsc where
  frame : KissFrame
  consumptionMah : Float
deriving Inhabited

/-- A reply on its way. -/
structure PendingReply where
  motor : Nat
  dueUs : UInt64
  corrupt : Bool

/-- How many requests the request log keeps. -/
def requestLogLimit : Nat := 4096

/-- A simulated KISS bus. -/
structure KissBus where
  escs : Array SimulatedEsc
  attached : Bool := false
  pending : Option PendingReply := none
  nowUs : UInt64 := 0
  latencyUs : UInt64 := 1000
  faults : FaultProfile := {}
  rng : XorShift := .new 0x5EED0001
  enabled : Bool := true
  requests : Vector Nat maxMotors := Vector.replicate maxMotors 0
  requestLog : Array Nat := #[]

namespace KissBus

/-- The factory frame of ESC number `i`. -/
def factoryFrame (i : Nat) : KissFrame :=
  { temperature := 35 + i.toUInt8, voltage := 1680, current := 1200 + 50 * i.toUInt16,
    consumption := 0, rpm := 2400 + 10 * i.toUInt16 }

/-- A bus of `count` ESCs, at most eight. -/
def new (count : Nat) : KissBus :=
  { escs := (List.range (min count maxMotors)).toArray.map fun i => ⟨factoryFrame i, 0.0⟩ }

/-- Use a fault profile, drawing from a generator seeded with `seed`. -/
def withFaults (b : KissBus) (faults : FaultProfile) (seed : UInt32) : KissBus :=
  { b with faults, rng := .new seed }

/-- Set the reply latency. -/
def withLatencyUs (b : KissBus) (latencyUs : UInt64) : KissBus := { b with latencyUs }

/-- Wire the bus to a receiver. -/
def attach (b : KissBus) : KissBus := { b with attached := true }

/-- Enable or disable the motors. -/
def setEnabled (b : KissBus) (enabled : Bool) : KissBus := { b with enabled }

/-- Make an ESC report `frame`, its charge restarting from the frame's consumption. -/
def setFrame (b : KissBus) (motor : Nat) (frame : KissFrame) : KissBus :=
  { b with escs := b.escs.modify motor fun _ => ⟨frame, frame.consumption.toNat.toFloat⟩ }

/-- What an ESC reports now. -/
def frame? (b : KissBus) (motor : Nat) : Option KissFrame := (b.escs[motor]?).map (·.frame)

/-- How many times a motor was asked for telemetry. -/
def requestCount (b : KissBus) (motor : Nat) : Nat :=
  if h : motor < maxMotors then b.requests[motor] else 0

/-- An ESC after `dtH` hours more at its current. -/
def SimulatedEsc.integrate (dtH : Float) (esc : SimulatedEsc) : SimulatedEsc :=
  let mah := esc.consumptionMah + esc.frame.current.toNat.toFloat * 10.0 * dtH
  let shown := (min mah 65535.0).value.castInt 0 65535
  { frame := { esc.frame with consumption := shown.toNat.toUInt16 }, consumptionMah := mah }

/-- Damage a reply: flip one bit of one of its first nine bytes. -/
def damage (raw : Vector UInt8 10) (g : XorShift) : Vector UInt8 10 × XorShift :=
  let (x, g) := g.next
  let (y, g) := g.next
  let spot := (x % 9).toNat
  let flipped := if h : spot < 10 then raw.set spot (raw[spot] ^^^ ((1 : UInt8) <<< (y % 8).toUInt8))
    else raw
  (flipped, g)

/-- Move time on to `nowUs`, with the bytes that reach the receiver. -/
def step (b : KissBus) (nowUs : UInt64) : KissBus × List UInt8 :=
  let elapsed := if nowUs ≥ b.nowUs then nowUs - b.nowUs else 0
  let dtH := elapsed.toFloat / 3600000000.0
  let b := { b with nowUs, escs := b.escs.map (SimulatedEsc.integrate dtH) }
  match b.pending with
  | none => (b, [])
  | some reply =>
    if nowUs < reply.dueUs then (b, [])
    else
      let b := { b with pending := none }
      match b.escs[reply.motor]? with
      | some esc =>
        if !b.attached then (b, [])
        else
          let raw := esc.frame.toBytes
          let (raw, rng) := if reply.corrupt then damage raw b.rng else (raw, b.rng)
          ({ b with rng }, raw.toList)
      | none => (b, [])

/-- A telemetry request to `motor`. -/
def request (b : KissBus) (motor : Nat) : KissBus :=
  let requests := if h : motor < maxMotors then b.requests.set motor (b.requests[motor] + 1)
    else b.requests
  let requestLog := if b.requestLog.size < requestLogLimit then b.requestLog.push motor
    else b.requestLog
  let b := { b with requests, requestLog, pending := none }
  let (drop, rng) := b.rng.chance b.faults.dropRate
  if drop then { b with rng }
  else
    let (corrupt, rng) := rng.chance b.faults.corruptRate
    { b with rng, pending := some ⟨motor, b.nowUs + b.latencyUs, corrupt⟩ }

instance : MotorDriver KissBus where
  motorCount b := b.escs.size
  motorsEnabled b := b.enabled
  requestTelemetry := request

end KissBus

end EscTelemetry
