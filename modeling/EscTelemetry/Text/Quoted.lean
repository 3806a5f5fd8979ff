import EscTelemetry.Text.Digits
import EscTelemetry.Text.GraphemeExtend
import EscTelemetry.Text.Printable

/-!
# Strings quoted for messages

When a message quotes a string value, it writes it between double quotes with the
characters that would not read well escaped: backslash and double quote get a backslash,
tab, carriage return, line feed and NUL their short escapes, and every grapheme extender
and every character that is not printable (other controls, format characters, spaces but
the plain one, private-use and unassigned code points) a braced hexadecimal escape such as
`\u{1b}` or `\u{300}`. Everything else is written as it is.
-/

namespace EscTelemetry.Text

/-- A number in lowercase hexadecimal, without leading zeros. -/
def hex (n : Nat) : String :=
  if n < 16 then String.singleton (hexDigit n) else hex (n / 16) ++ String.singleton (hexDigit (n % 16))
termination_by n
decreasing_by omega

/-- The quoted spelling of one character. -/
def escapeChar (c : Char) : String :=
  if c = '\\' then "\\\\"
  else if c = '"' then "\\\""
  else if c = '\t' then "\\t"
  else if c = '\r' then "\\r"
  else if c = '\n' then "\\n"
  else if c.toNat = 0 then "\\0"
  else if isGraphemeExtend c || !isPrintable c then "\\u\x7b" ++ hex c.toNat ++ "\x7d"
  else String.singleton c

/-- A string between double quotes, escaped for reading. -/
def quoted (s : String) : String :=
  "\"" ++ String.join (s.toList.map escapeChar) ++ "\""

end EscTelemetry.Text
