import EscTelemetry.Command.Run

/-!
# Writing log records

Log records go to standard output, one per line: as a JSON object with the level, the
target and the fields when JSON output is asked for, otherwise as the level, the target
and the fields in words (`INFO esc_sensor::runtime::app: esc-sensor running seconds=0`).

JSON strings escape the double quote, the backslash and every control character (the
usual short escapes where there is one, `\u00XX` otherwise).
-/

namespace EscTelemetry

/-- The JSON spelling of one character inside a string. -/
def jsonEscape (c : Char) : String :=
  if c = '"' then "\\\""
  else if c = '\\' then "\\\\"
  else if c = '\n' then "\\n"
  else if c = '\r' then "\\r"
  else if c = '\t' then "\\t"
  else if c.toNat = 8 then "\\b"
  else if c.toNat = 12 then "\\f"
  else if c.toNat < 32 then
    "\\u00" ++ String.singleton (Text.hexDigit (c.toNat / 16)) ++
      String.singleton (Text.hexDigit (c.toNat % 16))
  else String.singleton c

/-- A JSON string. -/
def jsonString (s : String) : String :=
  "\"" ++ String.join (s.toList.map jsonEscape) ++ "\""

/-- The JSON spelling of a field value. -/
def FieldValue.json : FieldValue → String
  | .text s => jsonString s
  | .number n => Text.signedDecimal n
  | .flag b => if b then "true" else "false"

/-- The plain spelling of a field value. -/
def FieldValue.plain : FieldValue → String
  | .text s => s
  | .number n => Text.signedDecimal n
  | .flag b => if b then "true" else "false"

/-- A record as one JSON line. -/
def Event.jsonLine (e : Event) : String :=
  let fields := e.fields.map fun (k, v) => jsonString k ++ ":" ++ v.json
  "\x7b\"level\":" ++ jsonString e.level.name ++ ",\"target\":" ++ jsonString e.target ++
    ",\"fields\":\x7b" ++ ",".intercalate fields ++ "\x7d\x7d"

/-- A record as one line of words. -/
def Event.plainLine (e : Event) : String :=
  let message := (e.fields.find? (·.1 == "message")).map (·.2.plain) |>.getD ""
  let rest := (e.fields.filter (·.1 != "message")).map fun (k, v) => k ++ "=" ++ v.plain
  " ".intercalate ([e.level.name, e.target ++ ":", message] ++ rest)

/-- A record as it is written, in JSON or in words. -/
def Event.line (json : Bool) (e : Event) : String :=
  if json then e.jsonLine else e.plainLine

end EscTelemetry
