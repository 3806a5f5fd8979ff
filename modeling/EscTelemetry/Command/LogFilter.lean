import EscTelemetry.Log
import EscTelemetry.Text.CharClass
import EscTelemetry.Regex.Compile

/-!
# Log filters

A log filter is a comma-separated list of directives; empty directives are skipped. A
directive is read by a small automaton over its characters with the white space at both
ends left out, while every piece it cuts out is taken from the text as given, at the same
byte offsets: leading white space thus shifts every piece to the left, and trailing white
space stays on the last one. The forms are

* `level`, a level name (`error`, `warn`, `info`, `debug`, `trace`, `off`, in any ASCII
  case) or a number from 0 for off to 5 for trace, which sets the level for every target;
  any other such word is a target enabled at every level;
* `target=level`, which sets the level for targets that start with `target`; an empty
  level means every level;
* `target[span{field,...}]=level`, where the target, the span name, the field list and the
  level may each be left out, and a field may ask for a value with `name=value`; the value
  must be a boolean, a number or a pattern that compiles (`Regex.compiles`).

A directive must start with an alphanumeric character, `-`, `:`, `_` or `[`; an empty
field, a field value that does not read, text after the closing `]` other than `=level`,
an unclosed bracket or brace, and a level that does not read make the whole filter
unreadable, and the program then falls back to its default filter.

Records here are never inside a span, so a directive that names a span or asks for a field
value lets nothing through. The others are *static*: a target prefix, a list of field
names and a level. A record passes when the most specific static directive that speaks for
it allows its level: a directive speaks for a record whose target starts with its target
and that carries every field it names; longer targets are more specific, then longer field
lists. Of two directives alike in target and field names the later one counts. A record no
directive speaks for is dropped.
-/

namespace EscTelemetry

/-- How verbose a directive lets records be: `none` is off. -/
abbrev Verbosity := Option Level

/-- Read a level name or number; the empty text reads as `error`. -/
def parseVerbosity (s : String) : Option Verbosity :=
  let lower := String.ofList (s.toList.map Char.toLower)
  let digits := match s.toList with
    | '+' :: rest => rest
    | cs => cs
  if !digits.isEmpty && digits.all Char.isDigit then
    match digits.foldl (fun acc c => acc * 10 + (c.toNat - 48)) 0 with
    | 0 => some none
    | 1 => some (some .error)
    | 2 => some (some .warn)
    | 3 => some (some .info)
    | 4 => some (some .debug)
    | 5 => some (some .trace)
    | _ => none
  else if lower = "" || lower = "error" then some (some .error)
  else if lower = "warn" then some (some .warn)
  else if lower = "info" then some (some .info)
  else if lower = "debug" then some (some .debug)
  else if lower = "trace" then some (some .trace)
  else if lower = "off" then some none
  else none

/-- A field a directive asks for: its name and, if given, the value it must have. -/
structure FieldMatch where
  name : String
  value : Option String

/-- Whether a text reads as a floating-point number: an optional sign, then `inf`,
`infinity` or `nan` in any case, or digits with an optional point and fraction (at least
one digit in all) and an optional exponent with at least one digit. Integers are numbers
of this form too. -/
def isNumberText (s : String) : Bool :=
  let unsigned := match s.toList with
    | '+' :: rest | '-' :: rest => rest
    | cs => cs
  let lower := String.ofList (unsigned.map Char.toLower)
  if lower == "inf" || lower == "infinity" || lower == "nan" then true
  else
    let whole := unsigned.takeWhile Char.isDigit
    let (fraction, rest) := match unsigned.dropWhile Char.isDigit with
      | '.' :: rest => (rest.takeWhile Char.isDigit, rest.dropWhile Char.isDigit)
      | rest => ([], rest)
    let exponentReads := match rest with
      | [] => true
      | e :: rest =>
        let digits := match rest with
          | '+' :: ds | '-' :: ds => ds
          | ds => ds
        (e == 'e' || e == 'E') && !digits.isEmpty && digits.all Char.isDigit
    (whole.length + fraction.length > 0) && exponentReads

/-- Whether a field value reads: a boolean, a number, or a pattern that compiles. -/
def valueReads (s : String) : Bool :=
  s == "true" || s == "false" || isNumberText s || Regex.compiles s

/-- Read `name` or `name=value`; text after a second `=` is ignored. A value must read. -/
def FieldMatch.parse? (s : String) : Option FieldMatch :=
  match s.splitOn "=" with
  | name :: value :: _ => if valueReads value then some ⟨name, some value⟩ else none
  | [name] => some ⟨name, none⟩
  | [] => some ⟨"", none⟩

/-- One directive of a log filter. -/
structure Directive where
  target : Option String := none
  span : Option String := none
  fields : List FieldMatch := []
  verbosity : Verbosity := some .trace

/-- Where the reading of a directive stands; the numbers are byte offsets where the piece
being read starts. -/
inductive DirectiveState where
  | start
  | levelOrTarget (start : Nat)
  | span (start : Nat)
  | field (start : Nat)
  | fields
  | target
  | level (start : Nat)

/-- The bytes `a` to `b` of a text (a cut inside a character gives the empty text). -/
def byteSlice (s : String) (a b : Nat) : String :=
  (String.fromUTF8? (s.toUTF8.extract a b)).getD ""

namespace Directive

/-- One step of the automaton: character `c` at byte `i`, pieces cut from `raw`. -/
def step (raw : String) (st : DirectiveState) (d : Directive) (i : Nat) (c : Char) :
    Option (DirectiveState × Directive) :=
  let cut (a : Nat) := byteSlice raw a i
  match st with
  | .start =>
    if c == '[' then some (.span (i + 1), d)
    else if c == '-' || c == ':' || c == '_' || Text.isAlphanumeric c then
      some (.levelOrTarget i, d)
    else none
  | .levelOrTarget a =>
    if c == '=' then some (.level (i + 1), { d with target := some (cut a) })
    else if c == '[' then some (.span (i + 1), { d with target := some (cut a) })
    else some (st, d)
  | .span a =>
    if c == ']' then some (.target, { d with span := some (cut a) })
    else if c == '{' then
      some (.field (i + 1), { d with span := if cut a = "" then none else some (cut a) })
    else some (st, d)
  | .field a =>
    if c == '}' then
      if cut a = "" then none
      else (FieldMatch.parse? (cut a)).map fun m => (.fields, { d with fields := d.fields ++ [m] })
    else some (st, d)
  | .fields => if c == ']' then some (.target, d) else none
  | .target => if c == '=' then some (.level (i + 1), d) else none
  | .level _ => some (st, d)

/-- Run the automaton over the characters `cs`, the first at byte `i`. -/
def scan (raw : String) : DirectiveState → Directive → Nat → List Char →
    Option (DirectiveState × Directive)
  | st, d, _, [] => some (st, d)
  | st, d, i, c :: cs =>
    match step raw st d i c with
    | some (st', d') => scan raw st' d' (i + c.utf8Size) cs
    | none => none

/-- Close a directive where the automaton stopped: a bare word is a level if it reads as
one and a target otherwise; a level runs to the end of the text as given. -/
def finish (raw : String) : DirectiveState × Directive → Option Directive
  | (.levelOrTarget a, d) =>
    let word := byteSlice raw a raw.utf8ByteSize
    if word = "" then some { d with target := none, verbosity := some .trace }
    else match parseVerbosity word with
      | some v => some { d with target := none, verbosity := v }
      | none => some { d with target := some word, verbosity := some .trace }
  | (.level a, d) =>
    let word := byteSlice raw a raw.utf8ByteSize
    if word = "" then some { d with verbosity := some .trace }
    else (parseVerbosity word).map fun v => { d with verbosity := v }
  | (.target, d) => some d
  | _ => none

/-- Read one directive (it holds no comma). -/
def parse (raw : String) : Option Directive :=
  (scan raw .start {} 0 (Text.trimWhite raw).toList).bind (finish raw)

end Directive

/-- A directive that filters by target and field names alone. -/
structure StaticDirective where
  target : Option String
  fieldNames : List String
  verbosity : Verbosity

/-- The static form of a directive, if it names no span and asks for no field value. -/
def Directive.toStatic? (d : Directive) : Option StaticDirective :=
  if d.span.isNone && d.fields.all (·.value.isNone) then
    some ⟨d.target, d.fields.map (·.name), d.verbosity⟩
  else none

namespace StaticDirective

/-- Order optional values with the missing one first. -/
def compareOption {α : Type} [Ord α] : Option α → Option α → Ordering
  | none, none => .eq
  | none, some _ => .lt
  | some _, none => .gt
  | some a, some b => compare a b

/-- Order lists of texts lexicographically. -/
def compareNames : List String → List String → Ordering
  | [], [] => .eq
  | [], _ :: _ => .lt
  | _ :: _, [] => .gt
  | a :: as, b :: bs => (compare a b).then (compareNames as bs)

/-- How specific a directive is against another, the more specific first: a longer target
(no target is the least), then more field names, then the greater target, then the greater
field names. Equal directives say the same thing of every record. -/
def rank (a b : StaticDirective) : Ordering :=
  (compareOption (b.target.map String.utf8ByteSize) (a.target.map String.utf8ByteSize)).then <|
  (compare b.fieldNames.length a.fieldNames.length).then <|
  (compareOption b.target a.target).then (compareNames b.fieldNames a.fieldNames)

/-- Put a directive into a list ranked by specificity, replacing an equal one. -/
def insert (d : StaticDirective) : List StaticDirective → List StaticDirective
  | [] => [d]
  | e :: es => match rank d e with
    | .lt => d :: e :: es
    | .eq => d :: es
    | .gt => e :: insert d es

/-- Whether a directive speaks for a record of that target and those field names. -/
def speaksFor (d : StaticDirective) (target : String) (fieldNames : List String) : Bool :=
  d.target.all (·.isPrefixOf target) && d.fieldNames.all (fieldNames.contains ·)

end StaticDirective

/-- A log filter: its directives in the order given. -/
structure LogFilter where
  directives : List Directive

namespace LogFilter

/-- Read a filter; `none` when a directive does not read. -/
def parse (s : String) : Option LogFilter :=
  ((s.splitOn ",").filter (· ≠ "")).mapM Directive.parse |>.map LogFilter.mk

/-- The filter the program uses when none is given or the given one does not read. -/
def default : LogFilter :=
  ⟨[{ verbosity := some .info }, { target := some "esc_sensor", verbosity := some .debug },
    { target := some "esc_core", verbosity := some .info }]⟩

/-- The filter for an optional filter text. -/
def ofEnv (text : Option String) : LogFilter :=
  match text with
  | some t => (parse t).getD default
  | none => default

/-- The static directives, most specific first. Directives without fields come before
those with fields, which matters only for the ones they replace. -/
def statics (f : LogFilter) : List StaticDirective :=
  let plain := f.directives.filter (·.fields.isEmpty)
  let withFields := f.directives.filter (!·.fields.isEmpty)
  ((plain ++ withFields).filterMap Directive.toStatic?).foldl
    (fun acc d => StaticDirective.insert d acc) []

/-- Whether a record of that level, target and field names passes. -/
def allows (f : LogFilter) (level : Level) (target : String) (fieldNames : List String) :
    Bool :=
  match f.statics.find? (·.speaksFor target fieldNames) with
  | some ⟨_, _, some v⟩ => level.rank ≤ v.rank
  | _ => false

end LogFilter

end EscTelemetry
