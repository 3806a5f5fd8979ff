/-!
# The CRC-8 check of KISS frames

A KISS frame ends with an 8-bit cyclic redundancy check of the nine bytes before it. The
generator polynomial is x⁸ + x² + x + 1, written `0x07` without its leading term; the
register starts at zero, bits are taken most significant first, and nothing is reflected
or inverted.

`Crc8.update` feeds one byte: the byte is xored into the register, which is then shifted
eight times, the polynomial being subtracted (xored) whenever a set bit falls off the top.
`Crc8.ofBytes` feeds a list of bytes in order from a zero register. The lemmas say how the
check of a concatenation splits.
-/

namespace EscTelemetry.Crc8

/-- The generator polynomial x⁸ + x² + x + 1 without its x⁸ term. -/
def polynomial : UInt8 := 0x07

/-- One bit of the polynomial division: shift the register left, and subtract the
polynomial when the bit shifted out was set. -/
def shift (crc : UInt8) : UInt8 :=
  if crc &&& 0x80 = 0 then crc <<< 1 else (crc <<< 1) ^^^ polynomial

/-- Feed one byte into the register. -/
def update (crc byte : UInt8) : UInt8 :=
  Nat.repeat shift 8 (crc ^^^ byte)

/-- The check value of a byte sequence: every byte fed in order from a zero register. -/
def ofBytes (bytes : List UInt8) : UInt8 :=
  bytes.foldl update 0

@[simp] theorem ofBytes_nil : ofBytes [] = 0 := rfl

/-- Feeding a concatenation is feeding its second part from the register the first part
leaves. -/
theorem foldl_update_append (crc : UInt8) (xs ys : List UInt8) :
    (xs ++ ys).foldl update crc = ys.foldl update (xs.foldl update crc) :=
  List.foldl_append

theorem ofBytes_append_singleton (xs : List UInt8) (b : UInt8) :
    ofBytes (xs ++ [b]) = update (ofBytes xs) b := by
  simp [ofBytes, List.foldl_append]

end EscTelemetry.Crc8
