import EscTelemetry.Regex.Ast
import EscTelemetry.Text.CharClass

/-!
# Reading a pattern

A pattern reads left to right into a `Node`:

* `(` opens a group: `(?flags)` sets flags for the rest of the enclosing group,
  `(?flags:...)` is a group with flags, `(?P<name>...)` and `(?<name>...)` are named
  groups (a name starts with a letter or `_`, then letters, digits, `_`, `.`, `[`, `]`;
  names are unique); look-around `(?=`, `(?!`, `(?<=`, `(?<!` is refused, and so are
  unknown, repeated or dangling flags and `(?)`;
* `?`, `*`, `+` and `{n}`, `{n,}`, `{n,m}` (with `n ≤ m`, each below 2^32, a trailing
  `?` for laziness) repeat the item before them, which must be there and must not be a
  flag setting;
* `[` opens a bracketed class: a leading `^` negates it, leading `-` and a leading `]`
  are literal, `[:name:]` is a POSIX class, `[` opens a nested class, `&&`, `--` and `~~`
  combine what stands on their two sides, and `a-b` is a range with `a ≤ b`;
* `\` escapes: a meta character or any ASCII character that is not a letter, digit, `<`
  or `>` stands for itself; `\a \f \t \n \r \v` are controls; `\x`, `\u`, `\U` take 2, 4,
  8 hex digits or any number in braces; `\p`, `\P` name a Unicode class; `\d \s \w` and
  their capitals are Perl classes; `\A \z \b \B \< \>` and `\b{start}`, `\b{end}`,
  `\b{start-half}`, `\b{end-half}` are assertions; digits (back-references) and every
  other letter are refused;
* with the `x` flag, white space and `#` comments between items are skipped.

The reader works on the characters of the pattern with a position; every loop consumes a
character, so a fuel of twice the length plus a margin is never exhausted.
-/

namespace EscTelemetry.Regex

/-- Where the reading of a pattern stands. -/
structure Cursor where
  chars : Array Char
  pos : Nat := 0
  /-- Whether white space and comments are skipped (the `x` flag). -/
  spaced : Bool := false
  /-- The group names used so far. -/
  names : List String := []

/-- Reading that can fail. -/
abbrev Reader := StateT Cursor Option

/-- The position after white space and `#` comments from `pos` on. -/
def spaceEnd (cs : Array Char) (pos : Nat) (inComment : Bool) : Nat :=
  if h : pos < cs.size then
    let ch := cs[pos]
    if inComment then spaceEnd cs (pos + 1) (ch != '\n')
    else if Text.isWhite ch then spaceEnd cs (pos + 1) false
    else if ch == '#' then spaceEnd cs (pos + 1) true
    else pos
  else pos
termination_by cs.size - pos

/-- The first character from `pos` on that is neither white space nor the first `#`, or
the character at `fallback` when there is none. -/
def peekSpacedFrom (cs : Array Char) (pos : Nat) (seenHash : Bool) (fallback : Nat) :
    Option Char :=
  if h : pos < cs.size then
    let ch := cs[pos]
    if Text.isWhite ch then peekSpacedFrom cs (pos + 1) seenHash fallback
    else if !seenHash && ch == '#' then peekSpacedFrom cs (pos + 1) true fallback
    else some ch
  else cs[fallback]?
termination_by cs.size - pos

namespace Reader

/-- The current character, if any. -/
def current : Reader (Option Char) := do
  let c ← get
  pure c.chars[c.pos]?

/-- Whether the pattern is used up. -/
def atEnd : Reader Bool := do
  let c ← get
  pure (c.pos ≥ c.chars.size)

/-- Whether the current character is `ch`. -/
def isAt (ch : Char) : Reader Bool := do
  pure ((← current) == some ch)

/-- Move one character on. -/
def advance : Reader Unit :=
  modify fun c => { c with pos := c.pos + 1 }

/-- Move past the current character, if any; whether a character follows. -/
def bump : Reader Bool := do
  let c ← get
  if c.pos < c.chars.size then set { c with pos := c.pos + 1 }
  let c ← get
  pure (c.pos < c.chars.size)

/-- Skip white space and comments when the `x` flag is on. -/
def skipSpace : Reader Unit :=
  modify fun c => if c.spaced then { c with pos := spaceEnd c.chars c.pos false } else c

/-- Move past the current character and skip space; whether a character follows. -/
def bumpAndSpace : Reader Bool := do
  if !(← bump) then return false
  skipSpace
  pure !(← atEnd)

/-- The character after the current one. -/
def peek : Reader (Option Char) := do
  let c ← get
  if c.pos < c.chars.size then pure c.chars[c.pos + 1]? else pure none

/-- The character after the current one, skipping space when the `x` flag is on. -/
def peekSpace : Reader (Option Char) := do
  let c ← get
  if !c.spaced then peek
  else if c.pos < c.chars.size then pure (peekSpacedFrom c.chars (c.pos + 1) false (c.pos + 1))
  else pure none

/-- Move past `prefix` if the pattern continues with it. -/
def bumpIf (pre : List Char) : Reader Bool := do
  let c ← get
  if (c.chars.toList.drop c.pos).take pre.length == pre then
    set { c with pos := c.pos + pre.length }
    pure true
  else pure false

end Reader

open Reader

/-- Characters that an escape turns into themselves and that have a meaning unescaped. -/
def isMeta (c : Char) : Bool :=
  "\\.+*?()|[]\x7b\x7d^$#&-~".toList.contains c

/-- Characters that may be escaped to stand for themselves. -/
def isEscapeable (c : Char) : Bool :=
  isMeta c || (c.toNat < 128 && !c.isAlphanum && c != '<' && c != '>')

/-- Whether `c` may stand in a group name, as its first character or later. -/
def isNameChar (c : Char) (first : Bool) : Bool :=
  if first then c == '_' || Text.isAlphabetic c
  else c == '_' || c == '.' || c == '[' || c == ']' || Text.isAlphanumeric c

/-- The value of a hex digit. -/
def hexValue? (c : Char) : Option Nat :=
  if c.isDigit then some (c.toNat - 48)
  else if 'a' ≤ c && c ≤ 'f' then some (c.toNat - 87)
  else if 'A' ≤ c && c ≤ 'F' then some (c.toNat - 55)
  else none

/-- The character of a code point, unless it is a surrogate or too large. -/
def scalar? (n : Nat) : Option Char :=
  if n < 0xD800 || (0xDFFF < n && n ≤ 0x10FFFF) then some (Char.ofNat n) else none

/-- What one escape or plain character stands for. -/
inductive Primitive where
  | literal (l : Literal)
  | assertion (kind : Assertion)
  | dot
  | perl (kind : PerlClass) (negated : Bool)
  | unicode

/-- The node of a primitive. -/
def Primitive.node : Primitive → Node
  | .literal l => .literal l
  | .assertion a => .assertion a
  | .dot => .dot
  | .perl k n => .perl k n
  | .unicode => .unicode

/-- A primitive as a class item: assertions are refused inside brackets. -/
def Primitive.classItem? : Primitive → Option ClassSet
  | .literal l => some (.literal l)
  | .perl k n => some (.perl k n)
  | .unicode => some .unicode
  | _ => none

/-- Read hex digits, each possibly after space, up to `count` of them. -/
def readHexDigits : Nat → Nat → Nat → Reader Nat
  | 0, _, acc => pure acc
  | remaining + 1, i, acc => do
    if i > 0 then
      if !(← bumpAndSpace) then failure
    match (← current).bind hexValue? with
    | some d => readHexDigits remaining (i + 1) (acc * 16 + d)
    | none => failure

/-- Read hex digits up to a closing brace; fuel bounds the loop. -/
def readHexBrace : Nat → Nat → Nat → Reader (Nat × Nat)
  | 0, _, _ => failure
  | fuel + 1, count, acc => do
    if (← bumpAndSpace) && !(← isAt '\x7d') then
      match (← current).bind hexValue? with
      | some d => readHexBrace fuel (count + 1) (acc * 16 + d)
      | none => failure
    else pure (count, acc)

/-- Read `\x`, `\u` or `\U` and what follows, at the letter. -/
def readHex (fuel : Nat) : Reader Literal := do
  let digits := match ← current with
    | some 'x' => 2
    | some 'u' => 4
    | _ => 8
  if !(← bumpAndSpace) then failure
  if ← isAt '\x7b' then
    let (count, value) ← readHexBrace fuel 0 0
    if ← atEnd then failure
    let _ ← bumpAndSpace
    if count = 0 || value ≥ UInt32.size then failure
    match scalar? value with
    | some c => pure { c }
    | none => failure
  else
    let value ← readHexDigits digits 0 0
    let _ ← bumpAndSpace
    match scalar? value with
    | some c => pure { c, hexByte := digits == 2 }
    | none => failure

/-- Skip to a closing brace; fuel bounds the loop. -/
def skipToBrace : Nat → Reader Unit
  | 0 => failure
  | fuel + 1 => do
    if (← bumpAndSpace) && !(← isAt '\x7d') then skipToBrace fuel else pure ()

/-- Read `\p` or `\P` and the class name, at the letter. -/
def readUnicodeClass (fuel : Nat) : Reader Unit := do
  if !(← bumpAndSpace) then failure
  if ← isAt '\x7b' then
    skipToBrace fuel
    if ← atEnd then failure
    advance
  else
    if ← isAt '\\' then failure
    let _ ← bumpAndSpace

/-- Whether a character may stand in the name of a special word boundary. -/
def isBoundaryNameChar (c : Char) : Bool :=
  c.isAlpha || c == '-'

/-- Read letters and dashes, each possibly followed by space. -/
def readBoundaryName : Nat → List Char → Reader (List Char)
  | 0, acc => pure acc.reverse
  | fuel + 1, acc => do
    match ← current with
    | some c =>
      if isBoundaryNameChar c then
        let _ ← bumpAndSpace
        readBoundaryName fuel (c :: acc)
      else pure acc.reverse
    | none => pure acc.reverse

/-- After `\b`, at a brace: read `{start}`, `{end}`, `{start-half}` or `{end-half}`, or
step back when the brace opens a repetition count. -/
def readSpecialBoundary (fuel : Nat) : Reader (Option Assertion) := do
  let start := (← get).pos
  if !(← bumpAndSpace) then failure
  match ← current with
  | some c =>
    if !isBoundaryNameChar c then
      modify fun s => { s with pos := start }
      return none
  | none => failure
  let name ← readBoundaryName fuel []
  if !(← isAt '\x7d') then failure
  advance
  match String.ofList name with
  | "start" => pure (some .wordStart)
  | "end" => pure (some .wordEnd)
  | "start-half" => pure (some .wordStartHalf)
  | "end-half" => pure (some .wordEndHalf)
  | _ => failure

/-- Read an escape, at the backslash. -/
def readEscape (fuel : Nat) : Reader Primitive := do
  if !(← bump) then failure
  let some c ← current | failure
  if c.isDigit then failure
  if c == 'x' || c == 'u' || c == 'U' then
    let l ← readHex fuel
    return .literal l
  if c == 'p' || c == 'P' then
    readUnicodeClass fuel
    return .unicode
  if c == 'd' || c == 's' || c == 'w' || c == 'D' || c == 'S' || c == 'W' then
    advance
    let kind : PerlClass := if c == 'd' || c == 'D' then .digit
      else if c == 's' || c == 'S' then .space else .word
    return .perl kind c.isUpper
  advance
  if isEscapeable c then return .literal { c }
  match c with
  | 'a' => pure (.literal { c := Char.ofNat 7 })
  | 'f' => pure (.literal { c := Char.ofNat 12 })
  | 't' => pure (.literal { c := '\t' })
  | 'n' => pure (.literal { c := '\n' })
  | 'r' => pure (.literal { c := '\r' })
  | 'v' => pure (.literal { c := Char.ofNat 11 })
  | 'A' => pure (.assertion .startText)
  | 'z' => pure (.assertion .endText)
  | 'b' =>
    if (← isAt '\x7b') then
      match ← readSpecialBoundary fuel with
      | some kind => pure (.assertion kind)
      | none => pure (.assertion .wordBoundary)
    else pure (.assertion .wordBoundary)
  | 'B' => pure (.assertion .notWordBoundary)
  | '<' => pure (.assertion .wordStartAngle)
  | '>' => pure (.assertion .wordEndAngle)
  | _ => failure

/-- Read one primitive outside brackets. -/
def readPrimitive (fuel : Nat) : Reader Primitive := do
  match ← current with
  | some '\\' => readEscape fuel
  | some '.' => advance; pure .dot
  | some '^' => advance; pure (.assertion .startLine)
  | some '$' => advance; pure (.assertion .endLine)
  | some c => advance; pure (.literal { c })
  | none => failure

/-- Read the characters of a group name up to `>`. -/
def readNameChars : Nat → Nat → Reader Unit
  | 0, _ => failure
  | fuel + 1, start => do
    match ← current with
    | some '>' => pure ()
    | some c =>
      if !isNameChar c ((← get).pos == start) then failure
      if ← bump then readNameChars fuel start else pure ()
    | none => pure ()

/-- Read a group name and its closing `>`; names must be new. -/
def readCaptureName (fuel : Nat) : Reader Unit := do
  if ← atEnd then failure
  let start := (← get).pos
  readNameChars fuel start
  let stop := (← get).pos
  if ← atEnd then failure
  advance
  let c ← get
  let name := String.ofList ((c.chars.toList.drop start).take (stop - start))
  if name.isEmpty || c.names.contains name then failure
  set { c with names := name :: c.names }

/-- The flag of a letter. -/
def Flag.ofChar? : Char → Option Flag
  | 'i' => some .caseInsensitive
  | 'm' => some .multiLine
  | 's' => some .dotMatchesNewLine
  | 'U' => some .swapGreed
  | 'u' => some .unicode
  | 'R' => some .crlf
  | 'x' => some .ignoreWhitespace
  | _ => none

/-- Read flag letters and one `-` up to `:` or `)`; each flag is on unless it follows
the `-`. Repeated flags, a second `-` and a `-` at the end are refused. -/
def readFlags : Nat → List (Flag × Bool) → Bool → Bool → Reader (List (Flag × Bool))
  | 0, _, _, _ => failure
  | fuel + 1, items, negated, lastWasNegation => do
    match ← current with
    | some ':' | some ')' =>
      if lastWasNegation then failure
      pure items.reverse
    | some '-' =>
      if negated then failure
      if !(← bump) then failure
      readFlags fuel items true true
    | some c =>
      let some flag := Flag.ofChar? c | failure
      if items.any (·.1 == flag) then failure
      if !(← bump) then failure
      readFlags fuel ((flag, !negated) :: items) negated false
    | none => failure

/-- What an opening parenthesis starts. -/
inductive GroupOpen where
  /-- `(?flags)`: flags for the rest of the enclosing group. -/
  | setFlags (items : List (Flag × Bool))
  /-- A group, with the flags it sets for its inside. -/
  | group (items : List (Flag × Bool))

/-- Read what follows an opening parenthesis, up to the inside of the group. -/
def readGroupOpen (fuel : Nat) : Reader GroupOpen := do
  advance
  skipSpace
  for lookAround in [['?', '='], ['?', '!'], ['?', '<', '='], ['?', '<', '!']] do
    if ← bumpIf lookAround then failure
  for named in [['?', 'P', '<'], ['?', '<']] do
    if ← bumpIf named then
      readCaptureName fuel
      return .group []
  if ← bumpIf ['?'] then
    if ← atEnd then failure
    let items ← readFlags fuel [] false false
    let closing ← isAt ')'
    advance
    if closing then
      if items.isEmpty then failure
      return .setFlags items
    return .group items
  pure (.group [])

/-- Try `[:name:]` or `[:^name:]` at a bracket; step back when it is not one. -/
def readAsciiClass (fuel : Nat) : Reader (Option ClassSet) := do
  let start := (← get).pos
  let back : Reader (Option ClassSet) := do
    modify fun s => { s with pos := start }
    pure none
  if !(← bump) || !(← isAt ':') then return ← back
  if !(← bump) then return ← back
  let negated ← isAt '^'
  if negated then
    if !(← bump) then return ← back
  let nameStart := (← get).pos
  let rec toColon : Nat → Reader Unit
    | 0 => pure ()
    | n + 1 => do
      if ← isAt ':' then pure ()
      else if ← bump then toColon n
      else pure ()
  toColon fuel
  if ← atEnd then return ← back
  let c ← get
  let name := String.ofList ((c.chars.toList.drop nameStart).take (c.pos - nameStart))
  if !(← bumpIf [':', ']']) then return ← back
  match AsciiClass.ofName? name with
  | some kind => pure (some (.ascii kind negated))
  | none => back

/-- Read one item or range inside brackets. -/
def readClassRange (fuel : Nat) : Reader ClassSet := do
  let readItem : Reader Primitive := do
    match ← current with
    | some '\\' => readEscape fuel
    | some c => advance; pure (.literal { c })
    | none => failure
  let first ← readItem
  skipSpace
  if ← atEnd then failure
  let next ← peekSpace
  if !(← isAt '-') || next == some ']' || next == some '-' then
    match first.classItem? with
    | some item => return item
    | none => failure
  if !(← bumpAndSpace) then failure
  let second ← readItem
  match first, second with
  | .literal lo, .literal hi => if lo.c ≤ hi.c then pure (.range lo hi) else failure
  | _, _ => failure

/-- Join an operand onto a pending set operation. -/
def joinPending (pending : Option (SetOp × ClassSet)) (rhs : ClassSet) : ClassSet :=
  match pending with
  | some (kind, lhs) => .op kind lhs rhs
  | none => rhs

mutual

/-- Read a bracketed class, at its opening bracket: the set and whether it is negated. -/
def readBracketed : Nat → Reader (Bool × ClassSet)
  | 0 => failure
  | fuel + 1 => do
    if !(← bumpAndSpace) then failure
    let negated ← isAt '^'
    if negated then
      if !(← bumpAndSpace) then failure
    let rec dashes : Nat → Array ClassSet → Reader (Array ClassSet)
      | 0, items => pure items
      | n + 1, items => do
        if ← isAt '-' then
          if !(← bumpAndSpace) then failure
          dashes n (items.push (.literal { c := '-' }))
        else pure items
    let items ← dashes fuel #[]
    let items ← if items.isEmpty && (← isAt ']') then do
        if !(← bumpAndSpace) then failure
        pure (items.push (.literal { c := ']' }))
      else pure items
    let set ← readClassBody fuel items none
    pure (negated, set)

/-- Read the rest of a bracketed class up to and including its closing bracket. -/
def readClassBody : Nat → Array ClassSet → Option (SetOp × ClassSet) → Reader ClassSet
  | 0, _, _ => failure
  | fuel + 1, items, pending => do
    skipSpace
    let next ← peek
    match ← current with
    | none => failure
    | some '[' =>
      match ← readAsciiClass fuel with
      | some item => readClassBody fuel (items.push item) pending
      | none =>
        let (negated, set) ← readBracketed fuel
        readClassBody fuel (items.push (.bracketed negated set)) pending
    | some ']' =>
      advance
      pure (joinPending pending (unionOf items))
    | some c =>
      let op : Option SetOp :=
        if c == '&' && next == some '&' then some .intersection
        else if c == '-' && next == some '-' then some .difference
        else if c == '~' && next == some '~' then some .symmetricDifference
        else none
      match op with
      | some kind =>
        advance
        advance
        readClassBody fuel #[] (some (kind, joinPending pending (unionOf items)))
      | none =>
        let item ← readClassRange fuel
        readClassBody fuel (items.push item) pending

end

/-- Apply a repetition to the last item of a sequence. -/
def repeatLast (items : Array Node) : Option (Array Node) :=
  match items.back? with
  | none | some .empty | some (.setFlags _) => none
  | some n => some (items.pop.push (.repetition n))

/-- Skip white space (whatever the `x` flag says). -/
def skipWhite : Nat → Reader Unit
  | 0 => pure ()
  | n + 1 => do
    match ← current with
    | some c => if Text.isWhite c then let _ ← bump; skipWhite n else pure ()
    | none => pure ()

/-- Read decimal digits, each possibly followed by space. -/
def readDigits : Nat → Nat → Nat → Reader (Nat × Nat)
  | 0, count, acc => pure (count, acc)
  | n + 1, count, acc => do
    match ← current with
    | some c =>
      if c.isDigit then
        let _ ← bumpAndSpace
        readDigits n (count + 1) (acc * 10 + (c.toNat - 48))
      else pure (count, acc)
    | none => pure (count, acc)

/-- Skip white space, each step also skipping comments under the `x` flag. -/
def skipWhiteSpaced : Nat → Reader Unit
  | 0 => pure ()
  | n + 1 => do
    match ← current with
    | some c => if Text.isWhite c then let _ ← bumpAndSpace; skipWhiteSpaced n else pure ()
    | none => pure ()

/-- Read a repetition count: digits with white space around them, below 2^32. -/
def readDecimal (fuel : Nat) : Reader Nat := do
  skipWhite fuel
  let (count, value) ← readDigits fuel 0 0
  skipWhiteSpaced fuel
  if count = 0 || value ≥ UInt32.size then failure
  pure value

/-- Read a counted repetition, at its opening brace, and apply it to the last item. -/
def readCounted (fuel : Nat) (items : Array Node) : Reader (Array Node) := do
  let some items := repeatLast items | failure
  if !(← bumpAndSpace) then failure
  let low ← readDecimal fuel
  if ← atEnd then failure
  let mut high := low
  if ← isAt ',' then
    if !(← bumpAndSpace) then failure
    if !(← isAt '\x7d') then
      high ← readDecimal fuel
  if (← atEnd) || !(← isAt '\x7d') then failure
  if (← bumpAndSpace) && (← isAt '?') then advance
  if low > high then failure
  pure items

/-- A finished list of alternatives as one node. -/
def alternationOf (branches : Array Node) (items : Array Node) : Node :=
  if branches.isEmpty then concatOf items
  else .alternation (branches.push (concatOf items)).toList

/-- Read a sequence of alternatives up to the closing parenthesis of an open group
(`inGroup`, which is left unread) or the end of the pattern. -/
def readSequence : Nat → Bool → Array Node → Array Node → Reader Node
  | 0, _, _, _ => failure
  | fuel + 1, inGroup, items, branches => do
    skipSpace
    match ← current with
    | none => if inGroup then failure else pure (alternationOf branches items)
    | some ')' => if inGroup then pure (alternationOf branches items) else failure
    | some '|' =>
      advance
      readSequence fuel inGroup #[] (branches.push (concatOf items))
    | some '(' =>
      let outer := (← get).spaced
      match ← readGroupOpen fuel with
      | .setFlags flags =>
        match flags.find? (·.1 == .ignoreWhitespace) with
        | some (_, on) => modify fun c => { c with spaced := on }
        | none => pure ()
        readSequence fuel inGroup (items.push (.setFlags flags)) branches
      | .group flags =>
        match flags.find? (·.1 == .ignoreWhitespace) with
        | some (_, on) => modify fun c => { c with spaced := on }
        | none => pure ()
        let inner ← readSequence fuel true #[] #[]
        advance
        modify fun c => { c with spaced := outer }
        readSequence fuel inGroup (items.push (.group flags inner)) branches
    | some '[' =>
      let (negated, set) ← readBracketed fuel
      readSequence fuel inGroup (items.push (.bracketed negated set)) branches
    | some '?' | some '*' | some '+' =>
      let some items := repeatLast items | failure
      if (← bump) && (← isAt '?') then advance
      readSequence fuel inGroup items branches
    | some '\x7b' =>
      let items ← readCounted fuel items
      readSequence fuel inGroup items branches
    | some _ =>
      let p ← readPrimitive fuel
      readSequence fuel inGroup (items.push p.node) branches

/-- Read a whole pattern. -/
def parse? (pattern : String) : Option Node :=
  let chars := pattern.toList.toArray
  (readSequence (2 * chars.size + 4) false #[] #[]).run' { chars }

end EscTelemetry.Regex
