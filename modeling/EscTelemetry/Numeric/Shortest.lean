import EscTelemetry.Numeric.Binary
import EscTelemetry.Numeric.Decimal
import EscTelemetry.Text.Digits

/-!
# The shortest decimal text of a double

Error messages quote a number read as a double by its shortest decimal spelling: the
fewest significant digits that read back to the same double, the nearer of two candidates
with that many digits, an exact tie going to the even one.

The digits are found exactly. The doubles that read back to `x` are those in the interval
halfway to its neighbours, ends included when the significand of `x` is even. For one
digit, then two, and so on, the two multiples of the digit's unit around `x` are tested
against that interval.

`render` writes the digits positionally while the decimal point falls within sixteen digits
of them (`100.0`, `0.001234`), and otherwise as a mantissa and a signed exponent
(`1.8446744073709552e+19`, `5e-324`). A whole number keeps a `.0`.
-/

namespace EscTelemetry.Shortest

/-- `⌊log₁₀ q⌋` for a positive rational. -/
def floorLog10 (q : Rat) : Int :=
  let rec up : Nat → Int → Int
    | 0, e => e
    | n + 1, e => if Decimal.tenPow (e + 1) ≤ q then up n (e + 1) else e
  let rec down : Nat → Int → Int
    | 0, e => e
    | n + 1, e => if q < Decimal.tenPow e then down n (e - 1) else e
  down 400 (up 400 0)

/-- The significand and binary exponent of a finite double, `x = m · 2^e` in magnitude,
and whether the gap to the next smaller magnitude is half the usual one. -/
def significandOf (x : Float) : Nat × Int × Bool :=
  let bits : Nat := x.toBits.toNat
  let fraction : Nat := bits % Nat.pow 2 52
  let exponent : Nat := (bits / Nat.pow 2 52) % Nat.pow 2 11
  if exponent = 0 then (fraction, -1074, false)
  else (fraction + Nat.pow 2 52, (exponent : Int) - 1075, decide (fraction = 0 ∧ exponent > 1))

/-- Whether `q` reads back to the double of significand `m` and exponent `e`. -/
def readsBack (m : Nat) (e : Int) (narrowBelow : Bool) (q : Rat) : Bool :=
  let v := (m : Rat) * Binary.twoPow e
  let below := v - Binary.twoPow (if narrowBelow then e - 2 else e - 1)
  let above := v + Binary.twoPow (e - 1)
  if m % 2 = 0 then below ≤ q && q ≤ above else below < q && q < above

/-- The shortest digits `d` and exponent `k` with `d · 10^k` reading back to a finite,
non-zero double of magnitude `m · 2^e`. -/
def digitsOf (m : Nat) (e : Int) (narrowBelow : Bool) : Nat × Int :=
  let v := (m : Rat) * Binary.twoPow e
  let top := floorLog10 v
  let rec search : Nat → Nat → Nat × Int
    | 0, _ => (0, 0)
    | n + 1, k =>
      let unit := top - k + 1
      let step := Decimal.tenPow unit
      let lo := (v / step).floor.toNat
      let hi := lo + 1
      let okLo := readsBack m e narrowBelow (lo * step)
      let okHi := readsBack m e narrowBelow (hi * step)
      if okLo && okHi then
        let dLo := v - lo * step
        let dHi := hi * step - v
        if dLo < dHi then (lo, unit) else if dHi < dLo then (hi, unit)
        else if lo % 2 = 0 then (lo, unit) else (hi, unit)
      else if okLo then (lo, unit)
      else if okHi then (hi, unit)
      else search n (k + 1)
  search 17 1

/-- Strip trailing zero digits, raising the exponent. -/
def stripZeros : Nat → Nat → Int → Nat × Int
  | 0, d, k => (d, k)
  | n + 1, d, k => if d ≠ 0 ∧ d % 10 = 0 then stripZeros n (d / 10) (k + 1) else (d, k)

/-- `n` zeros. -/
def zeros (n : Nat) : String := String.ofList (List.replicate n '0')

/-- Lay out digits `ds` standing for `ds · 10^k`. -/
def layout (ds : String) (k : Int) : String :=
  let n : Int := ds.length
  let kk := n + k
  let exponent (x : Int) : String :=
    "e" ++ (if x < 0 then "-" else "+") ++ Text.decimal x.natAbs
  if 0 ≤ k ∧ kk ≤ 16 then ds ++ zeros k.toNat ++ ".0"
  else if 0 < kk ∧ kk ≤ 16 then
    String.ofList (ds.toList.take kk.toNat) ++ "." ++ String.ofList (ds.toList.drop kk.toNat)
  else if -5 < kk ∧ kk ≤ 0 then "0." ++ zeros (-kk).toNat ++ ds
  else if n = 1 then ds ++ exponent (kk - 1)
  else
    String.ofList (ds.toList.take 1) ++ "." ++ String.ofList (ds.toList.drop 1) ++
      exponent (kk - 1)

/-- The shortest text of a double. -/
def render (x : Float) : String :=
  match x.value with
  | .nan => "NaN"
  | .infinite negative => if negative then "-inf" else "inf"
  | .finite negative q =>
    let sign := if negative then "-" else ""
    if q = 0 then sign ++ "0.0"
    else
      let (m, e, narrow) := significandOf x
      let (d, k) := digitsOf m e narrow
      let (d, k) := stripZeros 20 d k
      sign ++ layout (Text.decimal d) k

end EscTelemetry.Shortest
