/-!
# Numbers written as text

Every number that reaches a log line or an error message goes through one of these
functions, so the spelling of numbers is decided here and nowhere else.

* `decimal` writes a natural number in base ten, with no sign and no leading zeros.
* `signedDecimal` puts a minus sign in front of a negative integer.
* `hexByte` writes a byte as `0x` followed by exactly two lowercase hexadecimal digits, the
  form the frame error messages use (`0x0a`, `0xff`).

`parseUnsigned` reads a command-line count: an optional `+`, then one or more decimal digits
and nothing else, refused above the given bound.
-/

namespace EscTelemetry.Text

/-- The base-ten digit of a number below ten. -/
def digitChar (d : Nat) : Char :=
  Char.ofNat (48 + d)

/-- The base-ten digits of `n`, most significant first; `[0]` for zero. -/
def decimalDigits (n : Nat) : List Nat :=
  if n < 10 then [n] else decimalDigits (n / 10) ++ [n % 10]
termination_by n
decreasing_by omega

/-- A natural number in base ten. -/
def decimal (n : Nat) : String :=
  String.ofList ((decimalDigits n).map digitChar)

/-- An integer in base ten, with a leading `-` when it is negative. -/
def signedDecimal (i : Int) : String :=
  if i < 0 then "-" ++ decimal i.natAbs else decimal i.natAbs

/-- The lowercase hexadecimal digit of a number below sixteen. -/
def hexDigit (d : Nat) : Char :=
  if d < 10 then Char.ofNat (48 + d) else Char.ofNat (87 + d)

/-- A byte as `0x` and two lowercase hexadecimal digits. -/
def hexByte (b : UInt8) : String :=
  String.ofList ['0', 'x', hexDigit (b.toNat / 16), hexDigit (b.toNat % 16)]

/-- Read an unsigned number of at most `bound`: an optional `+`, then decimal digits only. -/
def parseUnsigned (bound : Nat) (s : String) : Option Nat :=
  let ds := match s.toList with
    | '+' :: rest => rest
    | cs => cs
  if ds.isEmpty || !ds.all Char.isDigit then none
  else
    let n := ds.foldl (fun acc c => acc * 10 + (c.toNat - 48)) 0
    if n ≤ bound then some n else none

end EscTelemetry.Text
