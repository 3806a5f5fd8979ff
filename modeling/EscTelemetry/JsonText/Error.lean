import EscTelemetry.Text.Digits

/-!
# Errors of the settings reader

Reading a settings document fails either on the text itself (a missing colon, a number
that does not end well, a string cut short) or on a value of the wrong kind for its field.
Either way the error carries the line and column where the reader stood: lines count from
one, columns count bytes from the start of the line, so a column is the number of bytes
of the line read so far.

`Error.render` is the full text: the description, then ` at line L column C`.
-/

namespace EscTelemetry.JsonText

/-- What went wrong while reading. -/
inductive ErrorCode where
  | eofWhileParsingList
  | eofWhileParsingObject
  | eofWhileParsingString
  | eofWhileParsingValue
  | expectedColon
  | expectedListCommaOrEnd
  | expectedObjectCommaOrEnd
  | expectedSomeIdent
  | expectedSomeValue
  | invalidEscape
  | invalidNumber
  | numberOutOfRange
  | invalidUnicodeCodePoint
  | controlCharacterWhileParsingString
  | keyMustBeAString
  | loneLeadingSurrogateInHexEscape
  | trailingComma
  | trailingCharacters
  | unexpectedEndOfHexEscape
  | recursionLimitExceeded
  /-- A value that does not fit its field, described in words. -/
  | message (text : String)
deriving DecidableEq, Repr

/-- The description of an error. -/
def ErrorCode.text : ErrorCode → String
  | .eofWhileParsingList => "EOF while parsing a list"
  | .eofWhileParsingObject => "EOF while parsing an object"
  | .eofWhileParsingString => "EOF while parsing a string"
  | .eofWhileParsingValue => "EOF while parsing a value"
  | .expectedColon => "expected `:`"
  | .expectedListCommaOrEnd => "expected `,` or `]`"
  | .expectedObjectCommaOrEnd => "expected `,` or `\x7d`"
  | .expectedSomeIdent => "expected ident"
  | .expectedSomeValue => "expected value"
  | .invalidEscape => "invalid escape"
  | .invalidNumber => "invalid number"
  | .numberOutOfRange => "number out of range"
  | .invalidUnicodeCodePoint => "invalid unicode code point"
  | .controlCharacterWhileParsingString =>
    "control character (\\u0000-\\u001F) found while parsing a string"
  | .keyMustBeAString => "key must be a string"
  | .loneLeadingSurrogateInHexEscape => "lone leading surrogate in hex escape"
  | .trailingComma => "trailing comma"
  | .trailingCharacters => "trailing characters"
  | .unexpectedEndOfHexEscape => "unexpected end of hex escape"
  | .recursionLimitExceeded => "recursion limit exceeded"
  | .message text => text

/-- An error with the place where the reader stood. -/
structure Error where
  code : ErrorCode
  line : Nat
  column : Nat
deriving DecidableEq, Repr

/-- The full text of an error. -/
def Error.render (e : Error) : String :=
  e.code.text ++ " at line " ++ Text.decimal e.line ++ " column " ++ Text.decimal e.column

end EscTelemetry.JsonText
