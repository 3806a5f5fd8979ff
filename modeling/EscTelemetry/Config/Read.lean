import EscTelemetry.Config
import EscTelemetry.JsonText.Reader
import EscTelemetry.Numeric.Shortest
import EscTelemetry.Text.Quoted

/-!
# Reading settings from JSON text

A settings document is an object whose known keys set the matching fields; unknown keys
are skipped whatever their value, and absent keys keep their defaults. An array of up to
six values, in field order, is read the same way. Refusals follow the settings loader word
for word:

* a field given twice: ``duplicate field `protocol` ``;
* a protocol name that is not `kiss` or `hw4` (case matters here): ``unknown variant `x`,
  expected `kiss` or `hw4` ``; a protocol that is not a string or single-key object:
  `expected value`;
* a number that is not a 16-bit unsigned integer: `invalid value: integer `-1`, expected
  u16` for integers, `invalid type: …` for anything else, floats written in their shortest
  form;
* a whole document that is not an object or array: `invalid type: …, expected struct
  EscSensorConfig`.

Each refusal carries the line and column where the reader stood. `SensorConfig.ofJsonText`
reads a document and then validates it.
-/

namespace EscTelemetry

namespace JsonText

variable {α : Type}

/-- How an unexpected number is described. -/
def Number.describe : Number → String
  | .unsigned n => "integer `" ++ Text.decimal n ++ "`"
  | .negative i => "integer `" ++ Text.signedDecimal i ++ "`"
  | .float x => "floating point `" ++ Shortest.render x ++ "`"

/-- A value of the wrong type. -/
def invalidType (unexpected expected : String) : ErrorCode :=
  .message ("invalid type: " ++ unexpected ++ ", expected " ++ expected)

/-- A value of the right type but out of range. -/
def invalidValue (unexpected expected : String) : ErrorCode :=
  .message ("invalid value: " ++ unexpected ++ ", expected " ++ expected)

/-- Refuse the value under the cursor, which is not what `expected` names: the value is
read so that the message can describe it. -/
def wrongKind (expected : String) : Read α := do
  match ← peek? with
  | some 110 => eat; expectWord [117, 108, 108]; fail (invalidType "null" expected)
  | some 116 => eat; expectWord [114, 117, 101]; fail (invalidType "boolean `true`" expected)
  | some 102 =>
    eat; expectWord [97, 108, 115, 101]; fail (invalidType "boolean `false`" expected)
  | some 45 => eat; let n ← number false; fail (invalidType n.describe expected)
  | some 34 =>
    eat; let s ← stringValue; fail (invalidType ("string " ++ Text.quoted s) expected)
  | some 91 => fail (invalidType "sequence" expected)
  | some 123 => fail (invalidType "map" expected)
  | some b =>
    if isDigitByte b then do let n ← number true; fail (invalidType n.describe expected)
    else failAhead .expectedSomeValue
  | none => failAhead .expectedSomeValue

/-- Read a 16-bit unsigned integer. -/
def readU16 : Read UInt16 := do
  let check (n : Number) : Read UInt16 :=
    match n with
    | .unsigned v => if v ≤ 65535 then pure v.toUInt16 else fail (invalidValue n.describe "u16")
    | .negative _ => fail (invalidValue n.describe "u16")
    | .float _ => fail (invalidType n.describe "u16")
  match ← skipBlanks with
  | none => failAhead .eofWhileParsingValue
  | some 45 => eat; check (← number false)
  | some b => if isDigitByte b then check (← number true) else wrongKind "u16"

/-- Read a boolean. -/
def readBool : Read Bool := do
  match ← skipBlanks with
  | none => failAhead .eofWhileParsingValue
  | some 116 => eat; expectWord [114, 117, 101]; pure true
  | some 102 => eat; expectWord [97, 108, 115, 101]; pure false
  | some _ => wrongKind "a boolean"

/-- Take a colon between a key and its value. -/
def colon : Read Unit := do
  match ← skipBlanks with
  | some 58 => eat
  | some _ => failAhead .expectedColon
  | none => failAhead .eofWhileParsingObject

/-- Read a protocol name as a string. -/
def protocolName : Read Protocol := do
  match ← skipBlanks with
  | none => failAhead .eofWhileParsingValue
  | some 34 =>
    eat
    let s ← stringValue
    if s = "kiss" then pure .kiss
    else if s = "hw4" then pure .hw4
    else fail (.message ("unknown variant `" ++ s ++ "`, expected `kiss` or `hw4`"))
  | some _ => wrongKind "variant identifier"

/-- Read a protocol: a name, or an object with the name as its one key and `null`. In the
object form the name is read as a key: an empty object lacks a value, anything but a
string where the key belongs is refused as a key. -/
def readProtocol : Read Protocol := do
  match ← skipBlanks with
  | none => failAhead .eofWhileParsingValue
  | some 34 => protocolName
  | some 123 =>
    eat
    let p ← match ← skipBlanks with
      | some 34 => protocolName
      | some 125 => failAhead .expectedSomeValue
      | some _ => failAhead .keyMustBeAString
      | none => fail .eofWhileParsingObject
    colon
    match ← skipBlanks with
    | none => failAhead .eofWhileParsingValue
    | some 110 => eat; expectWord [117, 108, 108]
    | some _ => wrongKind "unit"
    match ← skipBlanks with
    | some 125 => eat; pure p
    | some _ => fail .expectedSomeValue
    | none => fail .eofWhileParsingObject
  | some _ => failAhead .expectedSomeValue

end JsonText

namespace SensorConfig

open JsonText

/-- The settings' fields, in order, by name. -/
def fieldNames : List String :=
  ["protocol", "half_duplex", "update_hz", "hw4_current_offset", "hw4_current_gain",
    "hw4_voltage_gain"]

/-- Read the value of field number `i` into the settings. -/
def readField (c : SensorConfig) : Nat → Read SensorConfig
  | 0 => do pure { c with protocol := ← readProtocol }
  | 1 => do pure { c with halfDuplex := ← readBool }
  | 2 => do pure { c with updateHz := ← readU16 }
  | 3 => do pure { c with hw4CurrentOffset := ← readU16 }
  | 4 => do pure { c with hw4CurrentGain := ← readU16 }
  | _ => do pure { c with hw4VoltageGain := ← readU16 }

/-- Read the members of a settings object after its opening brace. -/
def readMembers : Read SensorConfig := do
  let rec go : Nat → Bool → List Nat → SensorConfig → Read SensorConfig
    | 0, _, _, c => pure c
    | n + 1, first, seen, c => do
      let start ← match ← skipBlanks with
        | some 125 => pure none
        | some 44 =>
          if first then failAhead .keyMustBeAString
          else do eat; pure (some (← skipBlanks))
        | some b =>
          if first then pure (some (some b)) else failAhead .expectedObjectCommaOrEnd
        | none => failAhead .eofWhileParsingObject
      match start with
      | none => pure c
      | some peeked =>
        match peeked with
        | some 34 =>
          eat
          let key ← stringValue
          match fieldNames.idxOf? key with
          | some i =>
            if i ∈ seen then
              -- The refusal is reported where the object's end was looked for.
              if (← skipBlanks) = some 125 then eat
              fail (.message ("duplicate field `" ++ key ++ "`"))
            else
              colon
              go n false (i :: seen) (← readField c i)
          | none =>
            colon
            skipValue
            go n false seen c
        | some 125 => failAhead .trailingComma
        | some _ => failAhead .keyMustBeAString
        | none => failAhead .eofWhileParsingValue
  let c ← go (← fuel) true [] {}
  -- The closing brace.
  eat
  pure c

/-- Read the elements of a settings array after its opening bracket, then its end. -/
def readElements : Read SensorConfig := do
  let hasNext (first : Bool) : Read Bool := do
    match ← skipBlanks with
    | none => failAhead .eofWhileParsingList
    | some 93 => pure false
    | some 44 =>
      if first then pure true
      else
        eat
        match ← skipBlanks with
        | some 93 => failAhead .trailingComma
        | some _ => pure true
        | none => failAhead .eofWhileParsingValue
    | some _ => if first then pure true else failAhead .expectedListCommaOrEnd
  let rec go : Nat → Bool → SensorConfig → Read SensorConfig
    | 0, _, c => pure c
    | n + 1, first, c => do
      if ← hasNext first then go n false (← readField c (6 - (n + 1)))
      else go n first c
  let c ← go 6 true {}
  match ← skipBlanks with
  | some 93 => eat; pure c
  | some 44 =>
    eat
    match ← skipBlanks with
    | some 93 => failAhead .trailingComma
    | _ => failAhead .trailingCharacters
  | some _ => failAhead .trailingCharacters
  | none => failAhead .eofWhileParsingList

/-- Read a settings document: an object or an array, and nothing after it but blanks. -/
def readDocument : Read SensorConfig := do
  let c ← match ← skipBlanks with
    | none => failAhead .eofWhileParsingValue
    | some 123 => eat; readMembers
    | some 91 => eat; readElements
    | some _ => wrongKind "struct EscSensorConfig"
  match ← skipBlanks with
  | some _ => failAhead .trailingCharacters
  | none => pure c

/-- Read settings from JSON text and validate them. -/
def ofJsonText (text : String) : Except ConfigError SensorConfig :=
  match readDocument.run ⟨text.toUTF8, 0⟩ with
  | .error e => .error (.parse e)
  | .ok (c, _) => do c.validate; pure c

end SensorConfig

end EscTelemetry
