import RecordQuery.Json.Writer
import RecordQuery.Pattern.Regex

/-!
Contract: compiled predicates, the form a WHERE expression takes once compiled.

Owns:
- `Plan.CompareOp`, the five comparisons, and their names;
- `Plan.FieldTest`: a comparison with an optional operand, a pattern that must match, a pattern
  that must not match (the negated form of a contains or like leaf), or an absent field;
- `Plan.Leaf` (a field and its test) and `Plan.Predicate`: a leaf, a negation, a conjunction of
  members, or a disjunction of members with a flag inverting it;
- `Predicate.leafCount` and the display text the explain output lists, e.g.
  `(name eq "Digg" AND NOT (NOT (founded_year eq 2004) OR acquired_by missing))`.

Operands are shown as compact JSON, a missing operand as `<no value>`, patterns as
`/source/i`.
-/

set_option autoImplicit false

namespace RecordQuery

namespace Plan

/-- A comparison between a field's value and an operand. -/
inductive CompareOp where
  | eq
  | lt
  | lte
  | gt
  | gte
  deriving DecidableEq, Repr

/-- The name of a comparison. -/
def CompareOp.name : CompareOp → String
  | .eq => "eq"
  | .lt => "lt"
  | .lte => "lte"
  | .gt => "gt"
  | .gte => "gte"

/-- What a leaf checks of its field. -/
inductive FieldTest where
  | compare (op : CompareOp) (operand : Option Json)
  | matches (pattern : Pattern.Regex)
  | excludes (pattern : Pattern.Regex)
  | missing

/-- A test of one field. -/
structure Leaf where
  field : String
  test : FieldTest

/-- A compiled predicate. -/
inductive Predicate where
  | leaf (l : Leaf)
  | not (inner : Predicate)
  | all (members : List Predicate)
  | any (members : List Predicate) (negated : Bool)

/-- The display text of a leaf. -/
def Leaf.display (l : Leaf) : String :=
  match l.test with
  | .compare op (some v) => l.field ++ " " ++ op.name ++ " " ++ v.compact
  | .compare op none => l.field ++ " " ++ op.name ++ " <no value>"
  | .matches r => l.field ++ " matches /" ++ r.source ++ "/i"
  | .excludes r => l.field ++ " excludes /" ++ r.source ++ "/i"
  | .missing => l.field ++ " missing"

namespace Predicate

mutual

/-- The number of leaves of a predicate. -/
def leafCount : Predicate → Nat
  | .leaf _ => 1
  | .not inner => inner.leafCount
  | .all members => leafCountOf members
  | .any members _ => leafCountOf members

/-- The number of leaves of a list of predicates. -/
def leafCountOf : List Predicate → Nat
  | [] => 0
  | p :: rest => p.leafCount + leafCountOf rest

end

mutual

/-- The display text of a predicate. -/
def display : Predicate → String
  | .leaf l => l.display
  | .not inner => "NOT (" ++ inner.display ++ ")"
  | .all members => "(" ++ displayChain " AND " members ++ ")"
  | .any members negated => (if negated then "NOT " else "") ++ "(" ++ displayChain " OR " members ++ ")"

/-- The display texts of members joined by a separator. -/
def displayChain (separator : String) : List Predicate → String
  | [] => ""
  | [p] => p.display
  | p :: rest => p.display ++ separator ++ displayChain separator rest

end

end Predicate

end Plan

end RecordQuery
