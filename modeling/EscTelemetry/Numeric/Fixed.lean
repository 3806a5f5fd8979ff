import EscTelemetry.Numeric.Binary
import EscTelemetry.Text.Digits

/-!
# Numbers with a fixed count of decimals

Log lines show volts and amps with two decimals. The text is the exact value of the binary
number rounded to the requested places, an exact half going to the even last digit. The
sign is written whenever the sign bit is set, so negative zero prints as `-0.00`;
not-a-number prints as `NaN` and the infinities as `inf` and `-inf`.
-/

namespace EscTelemetry.Fixed

/-- `n` written with at least `width` digits, padded with leading zeros. -/
def padded (width n : Nat) : String :=
  let s := Text.decimal n
  String.ofList (List.replicate (width - s.length) '0') ++ s

/-- A non-negative rational rounded to `places` decimals (ties to even), as text. -/
def ofRat (places : Nat) (q : Rat) : String :=
  let scaled := (Binary.roundHalfEven (q * ((Nat.pow 10 places : Nat) : Rat))).toNat
  if places = 0 then Text.decimal scaled
  else Text.decimal (scaled / Nat.pow 10 places) ++ "." ++ padded places (scaled % Nat.pow 10 places)

/-- A binary value with `places` decimals. -/
def ofValue (places : Nat) : Binary.Value → String
  | .nan => "NaN"
  | .infinite negative => if negative then "-inf" else "inf"
  | .finite negative q => (if negative then "-" else "") ++ ofRat places q

end EscTelemetry.Fixed
