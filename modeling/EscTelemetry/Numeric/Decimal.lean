import EscTelemetry.Numeric.Binary

/-!
# Decimal numbers and their nearest binary values

A `Decimal` is a signed significand times a power of ten, the form in which numbers are
written on a command line or in a JSON document. `Decimal.toBits` rounds it to the nearest
value of a binary format, ties to even, as a correctly rounded reader does: the exact
rational is formed and rounded once. Magnitudes far outside a format's range are settled
before any power of ten is built, so an absurd exponent costs nothing.

`parseFloatText` reads the command-line spelling of a floating-point number: an optional
sign, then `inf`, `infinity` or `nan` in any case, or digits with at most one point (digits
on at least one side of it) and an optional exponent `e`/`E`, sign and digits.
-/

namespace EscTelemetry

/-- `(-1)^negative · significand · 10^exponent`. -/
structure Decimal where
  negative : Bool
  significand : Nat
  exponent : Int
deriving Repr, Inhabited

namespace Decimal

/-- The number of base-ten digits of `n`; one for zero. -/
def digitCount (n : Nat) : Nat :=
  if n < 10 then 1 else digitCount (n / 10) + 1
termination_by n
decreasing_by omega

/-- `10 ^ e` for an integer exponent. -/
def tenPow (e : Int) : Rat :=
  if 0 ≤ e then ((Nat.pow 10 e.toNat : Nat) : Rat) else 1 / ((Nat.pow 10 (-e).toNat : Nat) : Rat)

/-- The magnitude as a rational. -/
def magnitude (d : Decimal) : Rat := (d.significand : Rat) * tenPow d.exponent

/-- The pattern of the value of format `f` nearest to `d`, ties to even. Numbers of more
than about `log₁₀` of the largest finite value in digits overflow to infinity, and numbers
below a tenth of the smallest subnormal become zero. -/
def toBits (f : Binary.Format) (d : Decimal) : Nat :=
  let order : Int := (digitCount d.significand : Int) + d.exponent
  let ceiling : Int := (f.bias + 1) * 302 / 1000 + 3
  let floor : Int := -(((f.bias + f.fractionBits) * 302 / 1000 : Nat) : Int) - 3
  if d.significand = 0 then Binary.encodeNearest f d.negative 0
  else if order > ceiling then f.infinityBits d.negative
  else if order < floor then Binary.encodeNearest f d.negative 0
  else Binary.encodeNearest f d.negative d.magnitude

/-- The nearest single-precision number. -/
def toFloat32 (d : Decimal) : Float32 :=
  Float32.ofBits (d.toBits Binary.binary32).toUInt32

/-- The nearest double-precision number. -/
def toFloat (d : Decimal) : Float :=
  Float.ofBits (d.toBits Binary.binary64).toUInt64

end Decimal

/-- A number read from text: a decimal, an infinity or not-a-number, each with its sign. -/
inductive FloatText where
  | number (d : Decimal)
  | infinity (negative : Bool)
  | nan (negative : Bool)

/-- The value of the digits `ds`, most significant first. -/
def digitsValue (ds : List Char) : Nat :=
  ds.foldl (fun acc c => acc * 10 + (c.toNat - 48)) 0

/-- Split off the longest prefix of decimal digits. -/
def spanDigits (cs : List Char) : List Char × List Char :=
  (cs.takeWhile Char.isDigit, cs.dropWhile Char.isDigit)

/-- Read an exponent part: optional sign, then at least one digit and nothing else. -/
def parseExponentText (cs : List Char) : Option Int :=
  let (negative, rest) := match cs with
    | '+' :: r => (false, r)
    | '-' :: r => (true, r)
    | r => (false, r)
  let (ds, tail) := spanDigits rest
  if ds.isEmpty || !tail.isEmpty then none
  else
    -- Exponents this large already settle overflow or underflow.
    let e : Int := min (digitsValue ds) 1000000
    some (if negative then -e else e)

/-- Read unsigned decimal digits with an optional point and exponent. -/
def parseUnsignedDecimal (negative : Bool) (cs : List Char) : Option Decimal :=
  let (whole, rest) := spanDigits cs
  let (fraction, rest) := match rest with
    | '.' :: r => spanDigits r
    | r => ([], r)
  if whole.isEmpty && fraction.isEmpty then none
  else
    let exponent : Option Int := match rest with
      | [] => some 0
      | c :: r => if c = 'e' || c = 'E' then parseExponentText r else none
    exponent.map fun e =>
      { negative, significand := digitsValue (whole ++ fraction),
        exponent := e - fraction.length }

/-- Read a floating-point number as a command line spells it. -/
def parseFloatText (s : String) : Option FloatText :=
  let cs := s.toList
  let (negative, rest) := match cs with
    | '+' :: r => (false, r)
    | '-' :: r => (true, r)
    | r => (false, r)
  let word := String.ofList (rest.map Char.toLower)
  if word = "inf" || word = "infinity" then some (.infinity negative)
  else if word = "nan" then some (.nan negative)
  else (parseUnsignedDecimal negative rest).map .number

/-- The single-precision number a text reads as, if it is a number. -/
def parseFloat32 (s : String) : Option Float32 :=
  (parseFloatText s).map fun
    | .number d => d.toFloat32
    | .infinity negative =>
      Float32.ofBits (Binary.binary32.infinityBits negative).toUInt32
    | .nan negative =>
      Float32.ofBits ((if negative then Binary.binary32.signWeight else 0) +
        Binary.binary32.nanBits).toUInt32

end EscTelemetry
