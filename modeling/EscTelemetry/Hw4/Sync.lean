import EscTelemetry.Hw4.Packet

/-!
# Finding packets in the Hobbywing byte stream

The stream has no framing beyond the sync byte `0x9B`, which can also occur inside a
packet. The synchroniser reassembles packets byte by byte:

* while it is idle, a sync byte starts a packet and any other byte is dropped;
* a second sync byte right after the first marks a signature run, and the eleven bytes
  after it are skipped;
* otherwise bytes are collected until nineteen are together, and the packet is emitted.

`Synchronizer.push` feeds one byte and returns the packet it completes, if any;
`Synchronizer.feed` feeds a list and collects the packets with the position of the byte
that completed each.
-/

namespace EscTelemetry

/-- Bytes skipped after a doubled sync byte. -/
def hw4SignatureSkip : Nat := 11

/-- The reassembly state: the bytes of the packet being collected, how many of them are
in, and how many bytes are still to be skipped. -/
structure Synchronizer where
  data : Vector UInt8 19 := Vector.replicate 19 0
  fill : Fin 19 := 0
  skip : Nat := 0
deriving DecidableEq, Repr

namespace Synchronizer

/-- The idle state, before any byte. -/
def idle : Synchronizer := {}

/-- How many bytes of the packet under way have been collected. -/
def bytesRead (s : Synchronizer) : Nat := s.fill.val

/-- Feed one byte; the packet it completes, if it completes one. -/
def push (s : Synchronizer) (b : UInt8) : Synchronizer × Option (Vector UInt8 19) :=
  if s.skip > 0 then ({ s with skip := s.skip - 1 }, none)
  else if s.fill.val = 0 ∧ b = hw4SyncByte then
    ({ s with data := s.data.set 0 b, fill := 1 }, none)
  else if s.fill.val = 1 ∧ b = hw4SyncByte then
    ({ s with fill := 0, skip := hw4SignatureSkip }, none)
  else if s.fill.val > 0 then
    let data := s.data.set s.fill b
    if h : s.fill.val + 1 < 19 then ({ s with data, fill := ⟨s.fill.val + 1, h⟩ }, none)
    else ({ s with data, fill := 0 }, some data)
  else (s, none)

/-- What feeding a byte sequence produced: the packets, each with the position of the byte
that completed it, and the fill level after every byte. -/
structure Trace where
  packets : Array (Nat × Vector UInt8 19) := #[]
  fills : Array Nat := #[]

/-- Feed a byte sequence from `s`, numbering the bytes from `start`. -/
def feedFrom (s : Synchronizer) (start : Nat) (acc : Trace) : List UInt8 → Synchronizer × Trace
  | [] => (s, acc)
  | b :: rest =>
    let (s', out) := s.push b
    let packets := match out with
      | some p => acc.packets.push (start, p)
      | none => acc.packets
    feedFrom s' (start + 1) { packets, fills := acc.fills.push s'.bytesRead } rest

/-- Feed a byte sequence from `s`. -/
def feed (s : Synchronizer) (bytes : List UInt8) : Synchronizer × Trace :=
  feedFrom s 0 {} bytes

end Synchronizer

end EscTelemetry
