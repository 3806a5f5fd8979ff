import EscTelemetry.Checksum
import EscTelemetry.Bytes
import EscTelemetry.FrameError

/-!
# KISS telemetry frames

An ESC answers a KISS telemetry request with ten bytes: the temperature in °C, then the
voltage (0.01 V), current (0.01 A), consumed charge (mAh) and eRPM / 100, each a 16-bit word
sent high byte first, and last the CRC-8 of the nine bytes before it.

`KissFrame.toBytes` writes a frame with its check byte; `KissFrame.parse` reads ten bytes
back. Reading checks the CRC and nothing else: no field has a range to respect.
-/

namespace EscTelemetry

/-- Bytes in a KISS telemetry frame. -/
def kissFrameSize : Nat := 10

/-- The decoded fields of one KISS telemetry frame. -/
structure KissFrame where
  /-- °C. -/
  temperature : UInt8
  /-- 0.01 V. -/
  voltage : UInt16
  /-- 0.01 A. -/
  current : UInt16
  /-- mAh. -/
  consumption : UInt16
  /-- eRPM / 100. -/
  rpm : UInt16
deriving DecidableEq, Repr, Inhabited

namespace KissFrame

/-- The nine bytes the check byte covers. -/
def payload (f : KissFrame) : Vector UInt8 9 :=
  #v[f.temperature, Bytes.high f.voltage, Bytes.low f.voltage, Bytes.high f.current,
    Bytes.low f.current, Bytes.high f.consumption, Bytes.low f.consumption,
    Bytes.high f.rpm, Bytes.low f.rpm]

/-- The wire image of a frame, as an ESC sends it: the payload and its CRC. -/
def toBytes (f : KissFrame) : Vector UInt8 10 :=
  f.payload.push (Crc8.ofBytes f.payload.toList)

/-- The CRC that the payload of ten received bytes calls for. -/
def expectedCheck (raw : Vector UInt8 10) : UInt8 :=
  Crc8.ofBytes (raw.toList.take 9)

/-- The fields of ten received bytes, whatever their check byte. -/
def fields (raw : Vector UInt8 10) : KissFrame where
  temperature := raw[0]
  voltage := Bytes.word raw[1] raw[2]
  current := Bytes.word raw[3] raw[4]
  consumption := Bytes.word raw[5] raw[6]
  rpm := Bytes.word raw[7] raw[8]

/-- Read ten received bytes: refused unless the last byte is the CRC of the others. -/
def parse (raw : Vector UInt8 10) : Except FrameError KissFrame :=
  if expectedCheck raw = raw[9] then .ok (fields raw)
  else .error (.crcMismatch (expectedCheck raw) raw[9])

end KissFrame

end EscTelemetry
