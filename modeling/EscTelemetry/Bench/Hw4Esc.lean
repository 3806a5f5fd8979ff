import EscTelemetry.Hw4.Packet
import EscTelemetry.Hw4.Sync
import EscTelemetry.Link
import EscTelemetry.Bench.Random
import EscTelemetry.Bench.Fifo

/-!
# A simulated Hobbywing ESC

A Hobbywing V4 ESC streams a packet every `intervalUs` into the receive FIFO of the
telemetry UART, which is the serial port of a bench. Each packet carries the next value of
a 24-bit counter. The fault profile may damage a packet (its sync byte lost, or its voltage
high byte pushed out of range) or drop it; either way it counts as sent. Every
`signatureEvery` packets (never, when zero) the ESC also sends its signature run: two sync
bytes and eleven more.

`Hw4Esc.step` sends every packet that has come due by the given time, the first one at the
first step, and then lets the FIFO overflow: only its newest 256 bytes stay. Due times are
words of the 64-bit clock, and adding the interval wraps past its end; a due time that
wraps can be due again at once, so one step may send many packets (`dueBy`).
-/

namespace EscTelemetry

/-- The depth of the UART receive FIFO. -/
def rxQueueLimit : Nat := 256

/-- A simulated Hobbywing ESC and the FIFO it streams into. -/
structure Hw4Esc where
  packet : Hw4Packet
  queue : Fifo := {}
  nextPacketUs : Option UInt64 := none
  intervalUs : UInt64 := 20000
  signatureEvery : UInt32 := 0
  sent : UInt32 := 0
  faults : FaultProfile := {}
  rng : XorShift := .new 0x5EED0004

namespace Hw4Esc

/-- An ESC that streams `packet`. -/
def new (packet : Hw4Packet) : Hw4Esc := { packet }

/-- The packet of a 100 A LV ESC at moderate throttle. -/
def cruisingPacket : Hw4Packet :=
  { counter := 0, throttle := 600, pwm := 580, rpm := 180000, voltageRaw := 2000,
    currentRaw := 288, tempFetRaw := 3377, tempBecRaw := 3000 }

/-- An ESC at cruise. -/
def cruising : Hw4Esc := new cruisingPacket

/-- Use a fault profile, drawing from a generator seeded with `seed`. -/
def withFaults (e : Hw4Esc) (faults : FaultProfile) (seed : UInt32) : Hw4Esc :=
  { e with faults, rng := .new seed }

/-- Send a packet every `intervalUs` microseconds, at least one. -/
def withIntervalUs (e : Hw4Esc) (intervalUs : UInt64) : Hw4Esc :=
  { e with intervalUs := max intervalUs 1 }

/-- Send the signature run after every `n` packets; zero never. -/
def withSignatureEvery (e : Hw4Esc) (n : UInt32) : Hw4Esc := { e with signatureEvery := n }

/-- Stream another packet from now on. -/
def setPacket (e : Hw4Esc) (packet : Hw4Packet) : Hw4Esc := { e with packet }

/-- Bytes arriving on the wire, appended to the FIFO. -/
def inject (e : Hw4Esc) (bytes : List UInt8) : Hw4Esc := { e with queue := e.queue.pushAll bytes }

/-- The signature run. -/
def signatureRun : List UInt8 :=
  [hw4SyncByte, hw4SyncByte] ++ List.replicate hw4SignatureSkip 0x9B

/-- What becomes of one packet: how it is damaged, if at all (`some true`: its sync byte is
lost, `some false`: its voltage high byte is pushed out of range), whether it is dropped,
and whether the signature run follows it. -/
structure Fate where
  damage : Option Bool
  dropped : Bool
  signature : Bool

/-- Move on to the next packet: give it the next counter value, count it as sent, and draw
its fate. -/
def advance (e : Hw4Esc) : Fate × Hw4Esc :=
  let packet := { e.packet with counter := (e.packet.counter + 1) &&& 0x00FFFFFF }
  let (corrupt, rng) := e.rng.chance e.faults.corruptRate
  let (damage, rng) := if corrupt then
      let (x, rng) := rng.next
      (some (x % 2 == 0), rng)
    else (none, rng)
  let (dropped, rng) := rng.chance e.faults.dropRate
  let sent := e.sent + 1
  let signature := decide (e.signatureEvery > 0 ∧ sent % e.signatureEvery = 0)
  (⟨damage, dropped, signature⟩, { e with packet, rng, sent })

/-- The bytes a packet of that fate puts on the wire. -/
def Fate.bytes (f : Fate) (packet : Hw4Packet) : List UInt8 :=
  let raw := match f.damage with
    | some true => packet.toBytes.toList.set 0 0x00
    | some false => packet.toBytes.toList.set 11 0xFF
    | none => packet.toBytes.toList
  (if f.dropped then [] else raw) ++ (if f.signature then signatureRun else [])

/-- Send one packet, with the next counter value. -/
def emit (e : Hw4Esc) : Hw4Esc :=
  let (fate, e) := e.advance
  { e with queue := e.queue.pushAll (fate.bytes e.packet) }

/-- Send `n` packets. -/
def emitMany (e : Hw4Esc) : Nat → Hw4Esc
  | 0 => e
  | n + 1 => (e.emit).emitMany n

/-- Whether the ESC never damages or drops a packet, and so never draws from its generator:
both fault rates are not positive. -/
def quiet (e : Hw4Esc) : Bool :=
  !(e.faults.corruptRate > 0.0) && !(e.faults.corruptRate ≥ 1.0) &&
    !(e.faults.dropRate > 0.0) && !(e.faults.dropRate ≥ 1.0)

/-- Move a quiet ESC on `n` packets without putting them in the FIFO: the counter and the
sent count advance by `n`, wrapping as they do one packet at a time. -/
def skipQuiet (e : Hw4Esc) (n : Nat) : Hw4Esc :=
  if n = 0 then e
  else
    { e with
      packet := { e.packet with counter := (e.packet.counter + n.toUInt32) &&& 0x00FFFFFF },
      sent := e.sent + n.toUInt32 }

/-- How many packets fill the FIFO on their own when none is dropped: each puts at least 19
bytes in, and 14 of them more than 256. -/
def fillingPackets : Nat := 14

/-- Move on `n` packets, keeping the fates of the newest ones that put bytes on the wire,
newest first, with their packets. Each such packet puts at least 13 bytes in, so once the
list reaches 40 it is cut back to the newest 20, which still fill the FIFO; `cut` records
that it was. -/
def gather : Nat → Hw4Esc → List (Fate × Hw4Packet) → Nat → Bool →
    Hw4Esc × List (Fate × Hw4Packet) × Bool
  | 0, e, recent, _, cut => (e, recent, cut)
  | n + 1, e, recent, count, cut =>
    let (fate, e) := e.advance
    if fate.dropped && !fate.signature then gather n e recent count cut
    else if count + 1 ≥ 40 then gather n e (((fate, e.packet) :: recent).take 20) 20 true
    else gather n e ((fate, e.packet) :: recent) (count + 1) cut

/-- Send `n` packets and keep the newest 256 bytes of the FIFO: the same ESC as
`emitMany` followed by trimming, reached without writing the bytes that the newest ones
push out. A quiet ESC's last `fillingPackets` packets fill the FIFO on their own, and the
ones before them only move its counters on; otherwise the fates of the newest packets are
kept as they come (`gather`). -/
def emitBurst (e : Hw4Esc) (n : Nat) : Hw4Esc :=
  if e.quiet && n > fillingPackets then
    let e := ({ e.skipQuiet (n - fillingPackets) with queue := {} } : Hw4Esc).emitMany
      fillingPackets
    { e with queue := e.queue.keepNewest rxQueueLimit }
  else
    let (moved, recent, cut) := gather n e [] 0 false
    let bytes := (recent.reverse.map fun (fate, packet) => fate.bytes packet).flatten
    let queue := if cut then ({} : Fifo).pushAll bytes else e.queue.pushAll bytes
    { moved with queue := queue.keepNewest rxQueueLimit }

/-- How many packets come due by `nowUs`, counting from `count`, when the next is due at
`next` and they follow every `interval` microseconds; and when the packet after them is
due. Due times live on the 64-bit clock and wrap past its end, so they may run on from zero
and be due again: each round covers one run of due times up to a wrap. In a run, the
packets at `next`, `next + interval`, ... up to `last` stay at or before `nowUs`, so none of
those sums wraps; the one after `last` wraps exactly when it comes out smaller.

Each round sends a packet or more, so `fuel` rounds count `fuel` packets at least. The due
times repeat after 2⁶⁴ packets, so a run of the sending loop that ends sends fewer than that,
and the 2⁶⁴ rounds that `step` gives are enough for it. The loop never ends when no due time
is past `nowUs`: the due times are the words congruent to `next` modulo the greatest common
divisor `g` of the interval and 2⁶⁴, so this is when `nowUs` is at or past `2⁶⁴ - g + next % g`,
for instance when it is the last microsecond of the clock, or when the interval is zero and
`next ≤ nowUs`. There the rounds run out and the count stops. -/
def dueBy (nowUs interval : UInt64) : Nat → UInt64 → Nat → Nat × UInt64
  | 0, next, count => (count, next)
  | fuel + 1, next, count =>
    if next ≤ nowUs then
      let burst := (nowUs - next) / interval + 1
      let last := next + (burst - 1) * interval
      let after := last + interval
      if last < after then (count + burst.toNat, after)
      else dueBy nowUs interval fuel after (count + burst.toNat)
    else (count, next)

/-- Send every packet due by `nowUs`, then keep the newest 256 bytes of the FIFO. -/
def step (e : Hw4Esc) (nowUs : UInt64) : Hw4Esc :=
  let (due, next) := dueBy nowUs e.intervalUs (Nat.pow 2 64) (e.nextPacketUs.getD nowUs) 0
  { e.emitBurst due with nextPacketUs := some next }

instance : SerialPort Hw4Esc where
  bytesWaiting e := e.queue.size
  readByte e := match e.queue.pop? with
    | none => (none, e)
    | some (b, rest) => (some b, { e with queue := rest })

end Hw4Esc

end EscTelemetry
