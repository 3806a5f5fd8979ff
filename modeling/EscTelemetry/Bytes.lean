/-!
# Words on the wire

Both telemetry protocols send multi-byte fields most significant byte first. These are the
two directions of that convention, for 16-bit words and for the 24-bit counters of the
Hobbywing stream.
-/

namespace EscTelemetry.Bytes

/-- The high byte of a 16-bit word. -/
def high (w : UInt16) : UInt8 := (w >>> 8).toUInt8

/-- The low byte of a 16-bit word. -/
def low (w : UInt16) : UInt8 := w.toUInt8

/-- The 16-bit word of a high and a low byte. -/
def word (hi lo : UInt8) : UInt16 := (hi.toUInt16 <<< 8) ||| lo.toUInt16

/-- The most significant of the low three bytes of a 32-bit word. -/
def byte2 (w : UInt32) : UInt8 := (w >>> 16).toUInt8

/-- The middle one of the low three bytes of a 32-bit word. -/
def byte1 (w : UInt32) : UInt8 := (w >>> 8).toUInt8

/-- The least significant byte of a 32-bit word. -/
def byte0 (w : UInt32) : UInt8 := w.toUInt8

/-- The 24-bit number of three bytes, most significant first. -/
def word24 (b2 b1 b0 : UInt8) : UInt32 :=
  (b2.toUInt32 <<< 16) ||| (b1.toUInt32 <<< 8) ||| b0.toUInt32

end EscTelemetry.Bytes
