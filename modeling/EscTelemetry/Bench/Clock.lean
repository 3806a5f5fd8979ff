/-!
# A clock advanced by hand

Simulated time is a 64-bit count of microseconds that only moves when told to; advancing
wraps around at the end of the word.
-/

namespace EscTelemetry

/-- Simulated time in microseconds. -/
structure ManualClock where
  nowUs : UInt64 := 0
deriving Repr, DecidableEq

namespace ManualClock

/-- Move the clock on by `deltaUs` microseconds; the new time. -/
def advanceUs (c : ManualClock) (deltaUs : UInt64) : UInt64 × ManualClock :=
  (c.nowUs + deltaUs, ⟨c.nowUs + deltaUs⟩)

/-- Move the clock on by `deltaMs` milliseconds; the new time. -/
def advanceMs (c : ManualClock) (deltaMs : UInt64) : UInt64 × ManualClock :=
  c.advanceUs (deltaMs * 1000)

end ManualClock

end EscTelemetry
