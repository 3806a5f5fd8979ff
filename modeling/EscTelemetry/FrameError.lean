import EscTelemetry.Text.Digits

/-!
# Why a frame was refused

A KISS frame is refused when its check byte disagrees with the CRC of its payload; a
Hobbywing packet, which carries no checksum, when one of its high bytes is larger than any
real reading could make it. `FrameError.message` is the one place that words them.
-/

namespace EscTelemetry

/-- The reason a received frame was not accepted. -/
inductive FrameError where
  /-- The CRC of the payload (`computed`) differs from the frame's last byte (`carried`). -/
  | crcMismatch (computed carried : UInt8)
  /-- The byte at `offset` holds `value`, which is not below `limit`. -/
  | outOfRange (offset : Nat) (value limit : UInt8)
deriving DecidableEq, Repr

/-- The text of a refusal, with bytes in two-digit hexadecimal and offsets in decimal. -/
def FrameError.message : FrameError → String
  | .crcMismatch computed carried =>
    "crc mismatch: computed " ++ Text.hexByte computed ++ ", frame carries " ++
      Text.hexByte carried
  | .outOfRange offset value limit =>
    "packet field at byte " ++ Text.decimal offset ++ " out of range (" ++
      Text.hexByte value ++ " >= " ++ Text.hexByte limit ++ ")"

/-- The name of the kind of refusal. -/
def FrameError.kind : FrameError → String
  | .crcMismatch .. => "CrcMismatch"
  | .outOfRange .. => "Implausible"

end EscTelemetry
