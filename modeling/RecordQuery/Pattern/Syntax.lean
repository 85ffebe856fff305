import RecordQuery.Text.CodeSet

/-!
Contract: the meaning of a parsed pattern in the normal form the automaton is built from.

Owns:
- `Pattern.Look`, the zero-width tests (text and line anchors, word boundaries);
- `Pattern.Node`: the empty pattern, a literal run of characters, one character of a set (the
  empty set never matches), a zero-width test, a repetition, a numbered capturing group, a
  concatenation and an alternation;
- `Pattern.Flags`, the modes a pattern is read under (case-insensitive, multi-line, dot matches
  line feed, Unicode classes, CRLF line ends, ignore whitespace, lazy by default).

A node is built only through the constructors of `Pattern.Normal`, which keep it in normal form:
a set has at least two characters or none, literals next to each other are one literal, and
nested concatenations and alternations are flattened. Groups and greediness do not change where
a match starts, but they change the automaton's size, so the form keeps them.
-/

set_option autoImplicit false

namespace RecordQuery

namespace Pattern

/-- A zero-width test at a position. -/
inductive Look where
  | startText
  | endText
  | startLine
  | endLine
  | startLineCrlf
  | endLineCrlf
  | wordBoundary (unicode : Bool)
  | notWordBoundary (unicode : Bool)
  | wordStart (unicode : Bool)
  | wordEnd (unicode : Bool)
  | wordStartHalf (unicode : Bool)
  | wordEndHalf (unicode : Bool)
  deriving BEq, Inhabited

/-- The meaning of a pattern. -/
inductive Node where
  | empty
  | literal (chars : List Char)
  | set (chars : Text.CodeSet)
  | look (test : Look)
  | rep (body : Node) (min : Nat) (max : Option Nat) (greedy : Bool)
  | group (index : Nat) (body : Node)
  | concat (items : List Node)
  | alt (branches : List Node)
  deriving Inhabited

/-- The node that matches nothing: a character of the empty set. -/
def Node.never : Node := .set Text.CodeSet.empty

/-- The modes a pattern is read under. -/
structure Flags where
  caseless : Bool
  multiLine : Bool
  dotNewline : Bool
  unicode : Bool
  crlf : Bool
  verbose : Bool
  swapGreed : Bool

/-- The modes at the start: Unicode classes on, everything else off except as given. -/
def Flags.initial (caseless : Bool) : Flags := ⟨caseless, false, false, true, false, false, false⟩

end Pattern

end RecordQuery
