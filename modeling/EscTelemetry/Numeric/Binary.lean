/-!
# IEEE 754 binary numbers, read exactly

The calibration arithmetic runs in single precision and the consumption integral in double
precision, and their results are turned into integers and text. This module gives those
bit patterns their exact meaning, so every later step is exact arithmetic on rationals:

* `decode` reads a bit pattern of a `Format` as not-a-number, an infinity, or a signed
  rational;
* `encodeNearest` goes back, rounding a rational to the nearest representable value with
  ties to the even significand, overflowing to infinity;
* `roundHalfEven`, `roundHalfAway` and `truncate` take rationals to integers, and
  `Value.castInt` and `Value.roundCastInt` are the saturating conversions to a bounded
  integer range: not-a-number gives zero, infinities and out-of-range values the nearer
  end of the range.
-/

namespace EscTelemetry.Binary

/-- An IEEE 754 binary interchange format, given by the widths of its exponent and
fraction fields. -/
structure Format where
  exponentBits : Nat
  fractionBits : Nat

/-- Single precision. -/
def binary32 : Format := ⟨8, 23⟩

/-- Double precision. -/
def binary64 : Format := ⟨11, 52⟩

namespace Format

/-- The exponent bias. -/
def bias (f : Format) : Nat := Nat.pow 2 (f.exponentBits - 1) - 1

/-- The exponent field of infinities and NaNs. -/
def topExponent (f : Format) : Nat := Nat.pow 2 f.exponentBits - 1

/-- The sign bit's weight in the pattern. -/
def signWeight (f : Format) : Nat := Nat.pow 2 (f.exponentBits + f.fractionBits)

/-- The pattern of an infinity. -/
def infinityBits (f : Format) (negative : Bool) : Nat :=
  (if negative then f.signWeight else 0) + f.topExponent * Nat.pow 2 f.fractionBits

/-- The pattern of the quiet NaN that conversions produce. -/
def nanBits (f : Format) : Nat :=
  f.topExponent * Nat.pow 2 f.fractionBits + Nat.pow 2 (f.fractionBits - 1)

end Format

/-- What a bit pattern stands for. -/
inductive Value where
  | nan
  | infinite (negative : Bool)
  /-- The rational `magnitude`, with the sign bit `negative`; zero keeps its sign. -/
  | finite (negative : Bool) (magnitude : Rat)
deriving Inhabited

/-- `2 ^ e` for an integer exponent. -/
def twoPow (e : Int) : Rat :=
  if 0 ≤ e then ((Nat.pow 2 e.toNat : Nat) : Rat) else 1 / ((Nat.pow 2 (-e).toNat : Nat) : Rat)

/-- The meaning of a bit pattern. -/
def decode (f : Format) (bits : Nat) : Value :=
  let fraction := bits % Nat.pow 2 f.fractionBits
  let exponent := (bits / Nat.pow 2 f.fractionBits) % Nat.pow 2 f.exponentBits
  let negative := (bits / f.signWeight) % 2 = 1
  if exponent = f.topExponent then
    if fraction = 0 then .infinite negative else .nan
  else if exponent = 0 then
    .finite negative (fraction * twoPow (1 - (f.bias : Int) - f.fractionBits))
  else
    .finite negative
      ((fraction + Nat.pow 2 f.fractionBits : Nat) * twoPow ((exponent : Int) - f.bias - f.fractionBits))

/-- The integer nearest to `q`, the even one of two equally near. -/
def roundHalfEven (q : Rat) : Int :=
  let down := q.floor
  let rest := q - down
  if rest < 1 / 2 then down
  else if 1 / 2 < rest then down + 1
  else if down % 2 = 0 then down else down + 1

/-- The integer nearest to `q`, the one farther from zero of two equally near. -/
def roundHalfAway (q : Rat) : Int :=
  if 0 ≤ q then (q + 1 / 2).floor else -((-q + 1 / 2).floor)

/-- The integer part of `q`, cut toward zero. -/
def truncate (q : Rat) : Int :=
  if 0 ≤ q then q.floor else -((-q).floor)

/-- `⌊log₂ q⌋` for a positive rational, found from the bit lengths of numerator and
denominator and corrected by one step either way. -/
def floorLog2 (q : Rat) : Int :=
  let guess : Int := (q.num.natAbs.log2 : Int) - q.den.log2
  if twoPow (guess + 1) ≤ q then guess + 1
  else if q < twoPow guess then guess - 1
  else guess

/-- The pattern of the representable value nearest to `(-1)^negative · q` (`q ≥ 0`),
ties going to the even significand; too large a magnitude becomes an infinity. -/
def encodeNearest (f : Format) (negative : Bool) (q : Rat) : Nat :=
  let sign := if negative then f.signWeight else 0
  if q ≤ 0 then sign
  else
    let minExponent : Int := 1 - (f.bias : Int)
    let scale : Int := max (floorLog2 q) minExponent - f.fractionBits
    let m := (roundHalfEven (q / twoPow scale)).toNat
    -- Rounding up can carry into one more bit.
    let (m, scale) := if m ≥ Nat.pow 2 (f.fractionBits + 1) then (m / 2, scale + 1) else (m, scale)
    if m < Nat.pow 2 f.fractionBits then sign + m
    else
      let exponent := scale + f.fractionBits + f.bias
      if exponent ≥ f.topExponent then f.infinityBits negative
      else sign + exponent.toNat * Nat.pow 2 f.fractionBits + (m - Nat.pow 2 f.fractionBits)

/-- The pattern of a value in format `f`: finite values rounded to nearest, ties to even. -/
def Value.encode (f : Format) : Value → Nat
  | .nan => f.nanBits
  | .infinite negative => f.infinityBits negative
  | .finite negative q => encodeNearest f negative q

/-- The signed rational of a finite value. -/
def signed (negative : Bool) (q : Rat) : Rat := if negative then -q else q

/-- `i` pushed into `[lo, hi]`. -/
def clampInt (lo hi i : Int) : Int := max lo (min hi i)

/-- The saturating conversion to `[lo, hi]`: the value cut toward zero, then clamped;
NaN gives zero and infinities the nearer end. -/
def Value.castInt (lo hi : Int) : Value → Int
  | .nan => 0
  | .infinite negative => if negative then lo else hi
  | .finite negative q => clampInt lo hi (truncate (signed negative q))

/-- Rounding to the nearest integer, halves away from zero, then the saturating
conversion to `[lo, hi]`. -/
def Value.roundCastInt (lo hi : Int) : Value → Int
  | .nan => 0
  | .infinite negative => if negative then lo else hi
  | .finite negative q => clampInt lo hi (roundHalfAway (signed negative q))

/-- Whether a value is neither NaN nor an infinity. -/
def Value.isFinite : Value → Bool
  | .finite .. => true
  | _ => false

end EscTelemetry.Binary

namespace Float32

/-- The exact meaning of a single-precision number. -/
def value (x : Float32) : EscTelemetry.Binary.Value :=
  EscTelemetry.Binary.decode EscTelemetry.Binary.binary32 x.toBits.toNat

/-- Rounded to the nearest integer, halves away from zero, and converted with saturation
to the 32-bit signed range. -/
def roundToInt32 (x : Float32) : Int32 :=
  Int32.ofInt (x.value.roundCastInt (-2147483648) 2147483647)

/-- Rounded to the nearest integer, halves away from zero, and converted with saturation
to the 16-bit signed range. -/
def roundToInt16 (x : Float32) : Int16 :=
  Int16.ofInt (x.value.roundCastInt (-32768) 32767)

/-- The single-precision number nearest to a double-precision one. -/
def ofFloat64 (x : Float) : Float32 :=
  Float32.ofBits
    (EscTelemetry.Binary.Value.encode EscTelemetry.Binary.binary32
      (EscTelemetry.Binary.decode EscTelemetry.Binary.binary64 x.toBits.toNat)).toUInt32

end Float32

namespace Float

/-- The exact meaning of a double-precision number. -/
def value (x : Float) : EscTelemetry.Binary.Value :=
  EscTelemetry.Binary.decode EscTelemetry.Binary.binary64 x.toBits.toNat

end Float
