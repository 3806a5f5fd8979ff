import EscTelemetry.Bytes
import EscTelemetry.FrameError

/-!
# Hobbywing V4 packets

A Hobbywing V4 ESC streams 19-byte packets at 19200 baud, with no checksum:

| bytes | field |
|-------|-------|
| 0     | sync byte `0x9B` |
| 1–3   | packet counter |
| 4–5   | throttle |
| 6–7   | PWM |
| 8–10  | eRPM |
| 11–12 | voltage ADC |
| 13–14 | current ADC |
| 15–16 | FET temperature ADC |
| 17–18 | BEC temperature ADC |

All fields are sent high byte first. Since nothing checks the packet, the only corruption
that can be seen is a high byte that no real reading produces: throttle, PWM and eRPM stay
below `0x04` in their top byte and the four ADC readings below `0x0F`. `Hw4Packet.parse`
reports the first such byte in the order of `plausibilityBounds`; it does not look at the
sync byte. `Hw4Packet.toBytes` writes the sync byte and the low 24 bits of counter and eRPM.
-/

namespace EscTelemetry

/-- The byte that starts every packet. -/
def hw4SyncByte : UInt8 := 0x9B

/-- Bytes in a Hobbywing V4 packet. -/
def hw4PacketSize : Nat := 19

/-- Offsets into a packet are numerals of `Fin 19`. The instance is stated with the `Zero Nat`
that `Fin.instOfNat` asks for. -/
instance packetOffset_neZero : @NeZero Nat Zero.ofOfNat0 19 := ⟨Nat.succ_ne_zero 18⟩

/-- The raw fields of one Hobbywing V4 packet. -/
structure Hw4Packet where
  counter : UInt32
  throttle : UInt16
  pwm : UInt16
  rpm : UInt32
  voltageRaw : UInt16
  currentRaw : UInt16
  tempFetRaw : UInt16
  tempBecRaw : UInt16
deriving DecidableEq, Repr, Inhabited

namespace Hw4Packet

/-- The checked high bytes, by offset, each with the bound it must stay below, in the
order they are checked. -/
def plausibilityBounds : List (Fin 19 × UInt8) :=
  [(4, 0x04), (6, 0x04), (8, 0x04), (11, 0x0F), (13, 0x0F), (15, 0x0F), (17, 0x0F)]

/-- The first checked byte that is out of range, as a refusal. -/
def firstOutOfRange (raw : Vector UInt8 19) : Option FrameError :=
  plausibilityBounds.findSome? fun (offset, limit) =>
    if raw[offset] < limit then none else some (.outOfRange offset raw[offset] limit)

/-- The fields of nineteen received bytes, whatever their values. -/
def fields (raw : Vector UInt8 19) : Hw4Packet where
  counter := Bytes.word24 raw[1] raw[2] raw[3]
  throttle := Bytes.word raw[4] raw[5]
  pwm := Bytes.word raw[6] raw[7]
  rpm := Bytes.word24 raw[8] raw[9] raw[10]
  voltageRaw := Bytes.word raw[11] raw[12]
  currentRaw := Bytes.word raw[13] raw[14]
  tempFetRaw := Bytes.word raw[15] raw[16]
  tempBecRaw := Bytes.word raw[17] raw[18]

/-- Read a packet: refused at the first high byte out of range. -/
def parse (raw : Vector UInt8 19) : Except FrameError Hw4Packet :=
  match firstOutOfRange raw with
  | some err => .error err
  | none => .ok (fields raw)

/-- The wire image of a packet: the sync byte, then every field high byte first, the
counter and eRPM cut to 24 bits. -/
def toBytes (p : Hw4Packet) : Vector UInt8 19 :=
  #v[hw4SyncByte, Bytes.byte2 p.counter, Bytes.byte1 p.counter, Bytes.byte0 p.counter,
    Bytes.high p.throttle, Bytes.low p.throttle, Bytes.high p.pwm, Bytes.low p.pwm,
    Bytes.byte2 p.rpm, Bytes.byte1 p.rpm, Bytes.byte0 p.rpm,
    Bytes.high p.voltageRaw, Bytes.low p.voltageRaw, Bytes.high p.currentRaw,
    Bytes.low p.currentRaw, Bytes.high p.tempFetRaw, Bytes.low p.tempFetRaw,
    Bytes.high p.tempBecRaw, Bytes.low p.tempBecRaw]

end Hw4Packet

end EscTelemetry
