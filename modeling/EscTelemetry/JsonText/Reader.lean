import EscTelemetry.JsonText.Error
import EscTelemetry.Numeric.Decimal

/-!
# Reading JSON text byte by byte

The settings reader works on the UTF-8 bytes of the text with a cursor, so that every
error can say where the reader stood. Two positions are used: the cursor itself (after
the bytes read so far) for errors found in what was read, and one byte further for errors
found in the byte the reader was looking at (`failAhead`).

This module has the lexical layer: blanks, literal words, strings with their escapes,
numbers, and skipping a whole value of any shape. Numbers become `Number`s: unsigned and
negative integers that fit 64 bits stay integers; everything else is a double, built the
way the settings loader builds it (the integer significand, at most nineteen digits of
it, scaled by a power of ten in one rounding step).
-/

namespace EscTelemetry.JsonText

/-- The bytes of a text and the index of the next byte to read. -/
structure Cursor where
  bytes : ByteArray
  pos : Nat

/-- Reading with a cursor, failing with a positioned error. -/
abbrev Read := StateT Cursor (Except Error)

/-- Line and column of byte index `i`: lines count from one, the column is the number of
bytes between the start of the line and `i`. -/
def positionOf (bytes : ByteArray) (i : Nat) : Nat × Nat :=
  let before := (bytes.extract 0 i).toList
  let newlines := before.filter (· == 10)
  let lineStart := before.length - (before.reverse.takeWhile (· != 10)).length
  (newlines.length + 1, i - lineStart)

/-- An error at byte index `i`. -/
def Cursor.errorAt (c : Cursor) (i : Nat) (code : ErrorCode) : Error :=
  let (line, column) := positionOf c.bytes i
  { code, line, column }

variable {α : Type}

/-- Fail at the cursor. -/
def fail (code : ErrorCode) : Read α := do
  let c ← get
  throw (c.errorAt c.pos code)

/-- Fail at the byte the reader is looking at. -/
def failAhead (code : ErrorCode) : Read α := do
  let c ← get
  throw (c.errorAt (min (c.pos + 1) c.bytes.size) code)

/-- The next byte, without taking it. -/
def peek? : Read (Option UInt8) := do
  let c ← get
  pure c.bytes[c.pos]?

/-- Take the next byte. -/
def eat : Read Unit := modify fun c => { c with pos := c.pos + 1 }

/-- Take and return the next byte. -/
def next? : Read (Option UInt8) := do
  let b ← peek?
  if b.isSome then eat
  pure b

/-- A fuel bound for loops over the text: one more than its length. -/
def fuel : Read Nat := do
  let c ← get
  pure (c.bytes.size + 1)

/-- Skip blanks (space, tab, line feed, carriage return) and look at the byte after. -/
def skipBlanks : Read (Option UInt8) := do
  let rec go : Nat → Read (Option UInt8)
    | 0 => peek?
    | n + 1 => do
      match ← peek? with
      | some b =>
        if b == 32 || b == 9 || b == 10 || b == 13 then eat; go n
        else pure (some b)
      | none => pure none
  go (← fuel)

/-- Read the rest of a literal word, each byte of `rest` in turn. -/
def expectWord : List UInt8 → Read Unit
  | [] => pure ()
  | b :: rest => do
    match ← next? with
    | none => fail .eofWhileParsingValue
    | some c => if c == b then expectWord rest else fail .expectedSomeIdent

/-! ## Strings -/

/-- The UTF-8 encoding of a scalar value. -/
def utf8Bytes (n : Nat) : List UInt8 :=
  if n < 0x80 then [n.toUInt8]
  else if n < 0x800 then [(0xC0 + n / 64).toUInt8, (0x80 + n % 64).toUInt8]
  else if n < 0x10000 then
    [(0xE0 + n / 4096).toUInt8, (0x80 + n / 64 % 64).toUInt8, (0x80 + n % 64).toUInt8]
  else
    [(0xF0 + n / 262144).toUInt8, (0x80 + n / 4096 % 64).toUInt8,
      (0x80 + n / 64 % 64).toUInt8, (0x80 + n % 64).toUInt8]

/-- The value of a hexadecimal digit. -/
def hexValue (b : UInt8) : Option Nat :=
  if 48 ≤ b ∧ b ≤ 57 then some (b.toNat - 48)
  else if 65 ≤ b ∧ b ≤ 70 then some (b.toNat - 55)
  else if 97 ≤ b ∧ b ≤ 102 then some (b.toNat - 87)
  else none

/-- Read the four hexadecimal digits of a `\u` escape. -/
def hexEscape : Read Nat := do
  let c ← get
  if c.pos + 4 ≤ c.bytes.size then
    let ds := (c.bytes.extract c.pos (c.pos + 4)).toList
    set { c with pos := c.pos + 4 }
    match ds.mapM hexValue with
    | some [a, b, d, e] => pure (((a * 16 + b) * 16 + d) * 16 + e)
    | _ => fail .invalidEscape
  else
    set { c with pos := c.bytes.size }
    fail .eofWhileParsingString

/-- Read a `\u` escape, pairing surrogates; lone surrogates are refused. -/
def unicodeEscape : Read (List UInt8) := do
  let n ← hexEscape
  if 0xDC00 ≤ n ∧ n ≤ 0xDFFF then fail .loneLeadingSurrogateInHexEscape
  else if n < 0xD800 ∨ 0xDBFF < n then pure (utf8Bytes n)
  else
    match ← peek? with
    | none => fail .eofWhileParsingString
    | some b =>
      eat
      if b != 92 then fail .unexpectedEndOfHexEscape
      else
        match ← peek? with
        | none => fail .eofWhileParsingString
        | some b =>
          eat
          if b != 117 then fail .unexpectedEndOfHexEscape
          else
            let n2 ← hexEscape
            if n2 < 0xDC00 ∨ 0xDFFF < n2 then fail .loneLeadingSurrogateInHexEscape
            else pure (utf8Bytes (((n - 0xD800) * 1024 + (n2 - 0xDC00)) + 0x10000))

/-- Read one escape after its backslash, as bytes to append. When only skipping, a `\u`
escape is read as four hexadecimal digits and not checked further. -/
def escape (decode : Bool) : Read (List UInt8) := do
  match ← next? with
  | none => fail .eofWhileParsingString
  | some ch =>
    match ch with
    | 34 => pure [34]
    | 92 => pure [92]
    | 47 => pure [47]
    | 98 => pure [8]
    | 102 => pure [12]
    | 110 => pure [10]
    | 114 => pure [13]
    | 116 => pure [9]
    | 117 => if decode then unicodeEscape else do let _ ← hexEscape; pure []
    | _ => fail .invalidEscape

/-- Read the rest of a string after its opening quote, returning its bytes. When only
skipping, a control character is reported before it is taken, otherwise after. -/
def stringBody (decode : Bool) : Read ByteArray := do
  let rec go : Nat → ByteArray → Read ByteArray
    | 0, _ => fail .eofWhileParsingString
    | n + 1, acc => do
      match ← peek? with
      | none => fail .eofWhileParsingString
      | some b =>
        if b == 34 then eat; pure acc
        else if b == 92 then
          eat
          let more ← escape decode
          go n (more.foldl ByteArray.push acc)
        else if b < 32 then
          if decode then eat
          fail .controlCharacterWhileParsingString
        else
          eat
          go n (acc.push b)
  go (← fuel) ByteArray.empty

/-- Read the rest of a string after its opening quote. -/
def stringValue : Read String := do
  let bytes ← stringBody true
  pure ((String.fromUTF8? bytes).getD "")

/-! ## Numbers -/

/-- A number as the settings loader reads it. -/
inductive Number where
  | unsigned (n : Nat)
  | negative (i : Int)
  | float (x : Float)

/-- Largest 64-bit unsigned integer. -/
def u64Max : Nat := 18446744073709551615

/-- Whether `acc * 10 + d` would not fit 64 bits. -/
def wouldOverflow (acc d : Nat) : Bool :=
  acc ≥ u64Max / 10 && (acc > u64Max / 10 || d > u64Max % 10)

/-- Whether a byte is a decimal digit. -/
def isDigitByte (b : UInt8) : Bool := 48 ≤ b && b ≤ 57

/-- `10 ^ i` as a double, correctly rounded. -/
def powerOfTen (i : Nat) : Float := (Decimal.mk false 1 i).toFloat

/-- Scale a significand by a power of ten in double precision: the significand is
rounded to a double, then multiplied or divided by the double nearest to the power, with
out-of-range exponents brought in by steps of 10³⁰⁸. Too large a result is refused. -/
def fromParts (positive : Bool) (significand : Nat) (exponent : Int) : Read Float := do
  let rec go : Nat → Float → Int → Read Float
    | 0, f, _ => pure f
    | n + 1, f, e =>
      if e.natAbs ≤ 308 then
        if 0 ≤ e then
          let g := f * powerOfTen e.natAbs
          if g.isInf then fail .numberOutOfRange else pure g
        else pure (f / powerOfTen e.natAbs)
      else if f == 0.0 then pure f
      else if 0 ≤ e then fail .numberOutOfRange
      else go n (f / powerOfTen 308) (e + 308)
  let f ← go 8 significand.toUInt64.toFloat exponent
  pure (if positive then f else -f)

/-- Take digits as long as they come. -/
def skipDigits : Read Unit := do
  let rec go : Nat → Read Unit
    | 0 => pure ()
    | n + 1 => do
      match ← peek? with
      | some b => if isDigitByte b then eat; go n else pure ()
      | none => pure ()
  go (← fuel)

/-- Read an exponent after its `e`, and scale. -/
def exponentPart (positive : Bool) (significand : Nat) (start : Int) : Read Float := do
  eat
  let positiveExp ← do
    match ← peek? with
    | some 43 => eat; pure true
    | some 45 => eat; pure false
    | _ => pure true
  match ← next? with
  | none => fail .eofWhileParsingValue
  | some d =>
    if !isDigitByte d then fail .invalidNumber
    else
      let i32Max : Nat := 2147483647
      let rec go : Nat → Nat → Read (Option Nat)
        | 0, e => pure (some e)
        | n + 1, e => do
          match ← peek? with
          | some b =>
            if isDigitByte b then
              eat
              let digit := b.toNat - 48
              if e ≥ i32Max / 10 && (e > i32Max / 10 || digit > i32Max % 10) then pure none
              else go n (e * 10 + digit)
            else pure (some e)
          | none => pure (some e)
      match ← go (← fuel) (d.toNat - 48) with
      | none =>
        -- The exponent does not fit: a huge magnitude is refused, a tiny one is zero.
        if significand ≠ 0 && positiveExp then fail .numberOutOfRange
        else
          skipDigits
          pure (if positive then 0.0 else -0.0)
      | some e =>
        let clampI32 (i : Int) : Int := max (-2147483648) (min 2147483647 i)
        fromParts positive significand (clampI32 (if positiveExp then start + e else start - e))

/-- Read the fraction after its point, and an exponent if one follows. -/
def fractionPart (positive : Bool) (significand : Nat) (start : Int) : Read Float := do
  eat
  let rec go : Nat → Nat → Int → Read (Nat × Int × Bool)
    | 0, s, k => pure (s, k, false)
    | n + 1, s, k => do
      match ← peek? with
      | some b =>
        if isDigitByte b then
          let digit := b.toNat - 48
          if wouldOverflow s digit then pure (s, k, true)
          else eat; go n (s * 10 + digit) (k - 1)
        else pure (s, k, false)
      | none => pure (s, k, false)
  let (s, k, overflowed) ← go (← fuel) significand 0
  if overflowed then
    -- Further digits cannot be kept: they are read and dropped.
    skipDigits
    match ← peek? with
    | some 101 | some 69 => exponentPart positive s (start + k)
    | _ => fromParts positive s (start + k)
  else if k = 0 then
    match ← peek? with
    | some _ => failAhead .invalidNumber
    | none => failAhead .eofWhileParsingValue
  else
    match ← peek? with
    | some 101 | some 69 => exponentPart positive s (start + k)
    | _ => fromParts positive s (start + k)

/-- What follows the integer digits: a fraction, an exponent, or nothing. -/
def numberTail (positive : Bool) (significand : Nat) : Read Number := do
  match ← peek? with
  | some 46 => .float <$> fractionPart positive significand 0
  | some 101 | some 69 => .float <$> exponentPart positive significand 0
  | _ =>
    if positive then pure (.unsigned significand)
    else if significand = 0 ∨ significand > 9223372036854775808 then
      pure (.float (-(significand.toUInt64.toFloat)))
    else pure (.negative (-(significand : Int)))

/-- Integer digits too many for 64 bits: the rest only move the decimal exponent. -/
def longInteger (positive : Bool) (significand : Nat) : Read Float := do
  let rec go : Nat → Int → Read Float
    | 0, e => fromParts positive significand e
    | n + 1, e => do
      match ← peek? with
      | some b =>
        if isDigitByte b then eat; go n (e + 1)
        else if b == 46 then fractionPart positive significand e
        else if b == 101 || b == 69 then exponentPart positive significand e
        else fromParts positive significand e
      | none => fromParts positive significand e
  go (← fuel) 0

/-- Read a number whose sign, if any, has been taken. -/
def number (positive : Bool) : Read Number := do
  match ← next? with
  | none => fail .eofWhileParsingValue
  | some 48 =>
    match ← peek? with
    | some b => if isDigitByte b then failAhead .invalidNumber else numberTail positive 0
    | none => numberTail positive 0
  | some d =>
    if !isDigitByte d then fail .invalidNumber
    else
      let rec go : Nat → Nat → Read Number
        | 0, s => numberTail positive s
        | n + 1, s => do
          match ← peek? with
          | some b =>
            if isDigitByte b then
              let digit := b.toNat - 48
              if wouldOverflow s digit then .float <$> longInteger positive s
              else eat; go n (s * 10 + digit)
            else numberTail positive s
          | none => numberTail positive s
      go (← fuel) (d.toNat - 48)

/-! ## Skipping a value -/

/-- Skip a string after its opening quote. -/
def skipString : Read Unit := do let _ ← stringBody false

/-- A byte, or zero at the end of the text. -/
def peekOrZero : Read UInt8 := do pure ((← peek?).getD 0)

/-- Take a byte, or see zero at the end of the text without moving. -/
def nextOrZero : Read UInt8 := do pure ((← next?).getD 0)

/-- Skip an exponent after its `e`: optional sign, then at least one digit. -/
def skipExponent : Read Unit := do
  eat
  let s ← peekOrZero
  if s == 43 || s == 45 then eat
  if !isDigitByte (← nextOrZero) then fail .invalidNumber
  skipDigits

/-- Skip a number whose sign, if any, has been taken. Its digits are checked, not its
magnitude. -/
def skipNumber : Read Unit := do
  let first ← nextOrZero
  if first == 48 then
    if isDigitByte (← peekOrZero) then failAhead .invalidNumber
  else if isDigitByte first then skipDigits
  else fail .invalidNumber
  let b ← peekOrZero
  if b == 46 then
    eat
    if !isDigitByte (← peekOrZero) then failAhead .invalidNumber
    skipDigits
    let e ← peekOrZero
    if e == 101 || e == 69 then skipExponent
  else if b == 101 || b == 69 then skipExponent

/-- Skip a scalar value whose first byte `b` is being looked at; `false` when `b` starts
no value. -/
def skipScalar (b : UInt8) : Read Bool := do
  if b == 110 then eat; expectWord [117, 108, 108]; pure true
  else if b == 116 then eat; expectWord [114, 117, 101]; pure true
  else if b == 102 then eat; expectWord [97, 108, 115, 101]; pure true
  else if b == 45 then eat; skipNumber; pure true
  else if isDigitByte b then skipNumber; pure true
  else if b == 34 then eat; skipString; pure true
  else pure false

/-- After a value inside the container `frame` (`[` or `{`, with `outer` around it), or
right after opening it (`afterValue` false): take a comma, or close containers. Returns the
container that continues and its surroundings, or `none` when the outermost one closed. -/
def afterValue : Nat → Bool → UInt8 → List UInt8 → Read (Option (UInt8 × List UInt8))
  | 0, _, _, _ => pure none
  | n + 1, acceptComma, frame, outer => do
    match ← skipBlanks with
    | some b =>
      if b == 44 && acceptComma then eat; pure (some (frame, outer))
      else if (b == 93 && frame == 91) || (b == 125 && frame == 123) then
        eat
        match outer with
        | [] => pure none
        | f :: rest => afterValue n true f rest
      else if acceptComma then
        failAhead (if frame == 91 then .expectedListCommaOrEnd else .expectedObjectCommaOrEnd)
      else pure (some (frame, outer))
    | none => failAhead (if frame == 91 then .eofWhileParsingList else .eofWhileParsingObject)

/-- Read an object key and its colon. -/
def skipKey : Read Unit := do
  match ← skipBlanks with
  | some 34 => eat
  | some _ => failAhead .keyMustBeAString
  | none => failAhead .eofWhileParsingObject
  skipString
  match ← skipBlanks with
  | some 58 => eat
  | some _ => failAhead .expectedColon
  | none => failAhead .eofWhileParsingObject

/-- Skip one value of any shape, nested arrays and objects included, with no limit on
their depth: open containers are kept on an explicit stack, innermost first. -/
def skipValue : Read Unit := do
  let rec go : Nat → List UInt8 → Read Unit
    | 0, _ => pure ()
    | n + 1, stack => do
      match ← skipBlanks with
      | none => failAhead .eofWhileParsingValue
      | some b =>
        let next ← if b == 91 || b == 123 then do
            eat
            afterValue (← fuel) false b stack
          else do
            if !(← skipScalar b) then failAhead .expectedSomeValue
            match stack with
            | [] => pure none
            | f :: rest => afterValue (← fuel) true f rest
        match next with
        | none => pure ()
        | some (frame, outer) =>
          if frame == 123 then skipKey
          go n (frame :: outer)
  go (← fuel) []

end EscTelemetry.JsonText
