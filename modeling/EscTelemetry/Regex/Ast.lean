/-!
# Syntax trees of regular expressions

The syntax tree of a pattern, as far as deciding whether it compiles needs it: literals
remember whether they were written as a two-digit hex escape, assertions and classes
remember their kind, groups carry the flags they set, and a bracketed class keeps its
nesting, negations and set operations.

`Node.depth` and `ClassSet.depth` count how deeply groups, repetitions, sequences,
alternations, classes, unions and set operations nest; a pattern nested deeper than
`nestLimit` is refused.
-/

namespace EscTelemetry.Regex

/-- A literal character; `hexByte` when written as `\xHH`. -/
structure Literal where
  c : Char
  hexByte : Bool := false

/-- The flags a group can set. -/
inductive Flag where
  | caseInsensitive
  | multiLine
  | dotMatchesNewLine
  | swapGreed
  | unicode
  | crlf
  | ignoreWhitespace
  deriving DecidableEq, Repr

/-- Zero-width assertions. -/
inductive Assertion where
  | startLine
  | endLine
  | startText
  | endText
  | wordBoundary
  | notWordBoundary
  | wordStartAngle
  | wordEndAngle
  | wordStart
  | wordEnd
  | wordStartHalf
  | wordEndHalf
  deriving DecidableEq, Repr

/-- Whether an assertion looks at word boundaries. -/
def Assertion.isWord : Assertion → Bool
  | .startLine | .endLine | .startText | .endText => false
  | _ => true

/-- The Perl classes `\d`, `\s`, `\w`. -/
inductive PerlClass where
  | digit
  | space
  | word
  deriving DecidableEq, Repr

/-- The POSIX classes written `[:name:]` inside brackets. -/
inductive AsciiClass where
  | alnum | alpha | ascii | blank | cntrl | digit | graph
  | lower | print | punct | space | upper | word | xdigit
  deriving DecidableEq, Repr

/-- The POSIX class of a name. -/
def AsciiClass.ofName? : String → Option AsciiClass
  | "alnum" => some .alnum
  | "alpha" => some .alpha
  | "ascii" => some .ascii
  | "blank" => some .blank
  | "cntrl" => some .cntrl
  | "digit" => some .digit
  | "graph" => some .graph
  | "lower" => some .lower
  | "print" => some .print
  | "punct" => some .punct
  | "space" => some .space
  | "upper" => some .upper
  | "word" => some .word
  | "xdigit" => some .xdigit
  | _ => none

/-- The set operations inside brackets: `&&`, `--`, `~~`. -/
inductive SetOp where
  | intersection
  | difference
  | symmetricDifference
  deriving DecidableEq, Repr

/-- The contents of a bracketed class. -/
inductive ClassSet where
  | empty
  | literal (l : Literal)
  | range (lo hi : Literal)
  | ascii (kind : AsciiClass) (negated : Bool)
  | perl (kind : PerlClass) (negated : Bool)
  /-- A Unicode property class `\p{...}`. -/
  | unicode
  | bracketed (negated : Bool) (set : ClassSet)
  | union (items : List ClassSet)
  | op (kind : SetOp) (lhs rhs : ClassSet)

/-- A pattern. -/
inductive Node where
  | empty
  /-- Flags set for the rest of the enclosing group: each flag with whether it is on. -/
  | setFlags (items : List (Flag × Bool))
  | literal (l : Literal)
  | dot
  | assertion (kind : Assertion)
  | perl (kind : PerlClass) (negated : Bool)
  | unicode
  | bracketed (negated : Bool) (set : ClassSet)
  | repetition (inner : Node)
  /-- A group, with the flags it sets for its inside. -/
  | group (flags : List (Flag × Bool)) (inner : Node)
  | concat (items : List Node)
  | alternation (branches : List Node)

mutual

/-- How deeply the parts of a class nest. -/
def ClassSet.depth : ClassSet → Nat
  | .bracketed _ s => s.depth + 1
  | .union items => ClassSet.maxDepth items + 1
  | .op _ l r => max l.depth r.depth + 1
  | _ => 0

/-- The deepest nesting among class items. -/
def ClassSet.maxDepth : List ClassSet → Nat
  | [] => 0
  | s :: rest => max s.depth (ClassSet.maxDepth rest)

end

mutual

/-- How deeply the parts of a pattern nest. -/
def Node.depth : Node → Nat
  | .bracketed _ s => s.depth + 1
  | .repetition n => n.depth + 1
  | .group _ n => n.depth + 1
  | .concat ns => Node.maxDepth ns + 1
  | .alternation ns => Node.maxDepth ns + 1
  | _ => 0

/-- The deepest nesting among parts. -/
def Node.maxDepth : List Node → Nat
  | [] => 0
  | n :: rest => max n.depth (Node.maxDepth rest)

end

/-- The deepest nesting a pattern may have. -/
def nestLimit : Nat := 250

/-- A sequence of items as one node: nothing, the single item, or the sequence. -/
def concatOf (items : Array Node) : Node :=
  match items.toList with
  | [] => .empty
  | [n] => n
  | ns => .concat ns

/-- A union of class items as one item. -/
def unionOf (items : Array ClassSet) : ClassSet :=
  match items.toList with
  | [] => .empty
  | [s] => s
  | ss => .union ss

end EscTelemetry.Regex
