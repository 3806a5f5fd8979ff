import EscTelemetry.Regex.Parser

/-!
# Which patterns compile

A pattern compiles into the matcher used for field values when it reads (`parse?`), nests
no deeper than `nestLimit`, and each of its parts can be built under the flags in force
there. The matcher works on valid UTF-8 text and carries no Unicode tables, so:

* in Unicode mode (the default, flag `u`) the Perl classes `\d \s \w`, every `\p` class,
  every word-boundary assertion, and case-insensitive matching (flag `i`) of any literal or
  non-empty class are unavailable;
* with Unicode mode off, `.`, a negated Perl class, a negated POSIX class, a `\xHH`
  literal above `\x7F` and any bracketed class that can match a byte above `\x7F` could
  match invalid UTF-8 and are refused, each on its own even inside a larger class whose
  other parts cut those bytes away again; so are non-ASCII characters inside brackets and
  `\p` classes. Word boundaries and case-insensitive matching are plain ASCII there and
  fine.

Flags set by `(?flags)` hold for the rest of the enclosing group, across its alternatives;
a group's own flags hold inside it.

With Unicode mode off a class is computed exactly, as a set of bytes (a 256-bit mask).
-/

namespace EscTelemetry.Regex

/-- The flags that decide whether a part can be built. -/
structure Flags where
  unicode : Bool := true
  caseless : Bool := false

/-- Apply flag settings. -/
def Flags.apply (f : Flags) (items : List (Flag × Bool)) : Flags :=
  items.foldl (fun f (flag, on) =>
    match flag with
    | .unicode => { f with unicode := on }
    | .caseInsensitive => { f with caseless := on }
    | _ => f) f

/-- Byte sets as masks: bit `b` stands for byte `b`. -/
def byteRange (lo hi : Nat) : Nat :=
  Nat.pow 2 (hi + 1) - Nat.pow 2 lo

/-- All 256 bytes. -/
def allBytes : Nat := Nat.pow 2 256 - 1

/-- The bytes of a set of inclusive ranges. -/
def byteRanges (rs : List (Nat × Nat)) : Nat :=
  rs.foldl (fun m (lo, hi) => m ||| byteRange lo hi) 0

/-- The bytes of a POSIX class. -/
def AsciiClass.bytes : AsciiClass → Nat
  | .alnum => byteRanges [(48, 57), (65, 90), (97, 122)]
  | .alpha => byteRanges [(65, 90), (97, 122)]
  | .ascii => byteRanges [(0, 127)]
  | .blank => byteRanges [(9, 9), (32, 32)]
  | .cntrl => byteRanges [(0, 31), (127, 127)]
  | .digit => byteRanges [(48, 57)]
  | .graph => byteRanges [(33, 126)]
  | .lower => byteRanges [(97, 122)]
  | .print => byteRanges [(32, 126)]
  | .punct => byteRanges [(33, 47), (58, 64), (91, 96), (123, 126)]
  | .space => byteRanges [(9, 13), (32, 32)]
  | .upper => byteRanges [(65, 90)]
  | .word => byteRanges [(48, 57), (65, 90), (95, 95), (97, 122)]
  | .xdigit => byteRanges [(48, 57), (65, 70), (97, 102)]

/-- The bytes of a Perl class in ASCII mode. -/
def PerlClass.bytes : PerlClass → Nat
  | .digit => AsciiClass.digit.bytes
  | .space => AsciiClass.space.bytes
  | .word => AsciiClass.word.bytes

/-- Close a byte set under ASCII case: add the other case of every letter. -/
def foldCase (m : Nat) : Nat :=
  m ||| (((m >>> 97) &&& (Nat.pow 2 26 - 1)) <<< 65) ||| (((m >>> 65) &&& (Nat.pow 2 26 - 1)) <<< 97)

/-- Combine two byte sets. -/
def SetOp.bytes : SetOp → Nat → Nat → Nat
  | .intersection, a, b => a &&& b
  | .difference, a, b => a &&& (allBytes ^^^ b)
  | .symmetricDifference, a, b => a ^^^ b

/-- Whether a literal can stand in a byte class: only ASCII can. -/
def Literal.byte? (l : Literal) : Option Nat :=
  if l.c.toNat < 128 then some l.c.toNat else none

mutual

/-- The bytes of a class with Unicode mode off; `none` when it cannot be built. -/
def ClassSet.bytes (caseless : Bool) : ClassSet → Option Nat
  | .empty => some 0
  | .literal l => l.byte?.map fun b => Nat.pow 2 b
  | .range lo hi => do
    let a ← lo.byte?
    let b ← hi.byte?
    pure (byteRange a b)
  | .ascii kind negated =>
    if negated then none else some (if caseless then foldCase kind.bytes else kind.bytes)
  | .perl kind negated => if negated then none else some kind.bytes
  | .unicode => none
  | .bracketed negated s => do
    let m ← s.bytes caseless
    let m := if caseless then foldCase m else m
    let m := if negated then allBytes ^^^ m else m
    if m < Nat.pow 2 128 then pure m else none
  | .union items => ClassSet.unionBytes caseless items
  | .op kind l r => do
    let a ← l.bytes caseless
    let b ← r.bytes caseless
    if caseless then pure (kind.bytes (foldCase a) (foldCase b)) else pure (kind.bytes a b)

/-- The bytes of the items of a union, all of which must be buildable. -/
def ClassSet.unionBytes (caseless : Bool) : List ClassSet → Option Nat
  | [] => some 0
  | s :: rest => do
    let a ← s.bytes caseless
    let b ← ClassSet.unionBytes caseless rest
    pure (a ||| b)

end

mutual

/-- Whether a class with Unicode mode on is non-empty, as far as case folding needs to
know; `none` when it cannot be built. Folding a non-empty class needs the case tables. -/
def ClassSet.unicodeNonEmpty (caseless : Bool) : ClassSet → Option Bool
  | .empty => some false
  | .literal _ | .range _ _ => some true
  | .ascii _ _ => if caseless then none else some true
  | .perl _ _ | .unicode => none
  | .bracketed negated s => do
    let nonEmpty ← s.unicodeNonEmpty caseless
    if caseless && nonEmpty then none else pure (negated || nonEmpty)
  | .union items => ClassSet.unionNonEmpty caseless items
  | .op kind l r => do
    let a ← l.unicodeNonEmpty caseless
    let b ← r.unicodeNonEmpty caseless
    if caseless && (a || b) then none
    else pure (match kind with
      | .intersection => a && b
      | .difference => a
      | .symmetricDifference => a || b)

/-- Whether some item of a union is non-empty, all of them being buildable. -/
def ClassSet.unionNonEmpty (caseless : Bool) : List ClassSet → Option Bool
  | [] => some false
  | s :: rest => do
    let a ← s.unicodeNonEmpty caseless
    let b ← ClassSet.unionNonEmpty caseless rest
    pure (a || b)

end

/-- Whether a bracketed class can be built under the flags. -/
def classBuilds (f : Flags) (negated : Bool) (s : ClassSet) : Bool :=
  if f.unicode then ((ClassSet.bracketed negated s).unicodeNonEmpty f.caseless).isSome
  else ((ClassSet.bracketed negated s).bytes f.caseless).isSome

mutual

/-- Build a pattern under the flags in force, giving the flags after it; `none` when a
part cannot be built. -/
def Node.build : Node → Flags → Option Flags
  | .empty, f => some f
  | .setFlags items, f => some (f.apply items)
  | .literal l, f =>
    if f.unicode then (if f.caseless then none else some f)
    else if l.hexByte && l.c.toNat ≥ 128 then none else some f
  | .dot, f => if f.unicode then some f else none
  | .assertion a, f => if a.isWord && f.unicode then none else some f
  | .perl _ negated, f => if f.unicode || negated then none else some f
  | .unicode, _ => none
  | .bracketed negated s, f => if classBuilds f negated s then some f else none
  | .repetition n, f => n.build f
  | .group items n, f => (n.build (f.apply items)).map fun _ => f
  | .concat ns, f => Node.buildAll ns f
  | .alternation ns, f => Node.buildAll ns f

/-- Build parts one after the other, each under the flags the ones before leave. -/
def Node.buildAll : List Node → Flags → Option Flags
  | [], f => some f
  | n :: rest, f => do
    let f ← n.build f
    Node.buildAll rest f

end

/-- Whether a pattern compiles. -/
def compiles (pattern : String) : Bool :=
  match parse? pattern with
  | some n => n.depth ≤ nestLimit && (n.build {}).isSome
  | none => false

end EscTelemetry.Regex
