import RecordQuery.Plan.Predicate
import RecordQuery.Exec.Path
import RecordQuery.Loose.Compare
import RecordQuery.Loose.Display

/-!
Contract: whether a record passes compiled predicates.

Owns:
- `Exec.compareHolds`: `eq` is loose equality, the orders are loose comparisons (an unordered
  pair passes none of them);
- `Exec.excludes`: the display text of the raw top-level key's value fails outright when it
  holds a line feed, carriage return, U+2028 or U+2029; otherwise it passes when the pattern
  finds nothing, or when the first match starts at the very end;
- `Exec.leafHolds`: comparisons and positive patterns read the dotted path through
  `resolve?`, excludes tests the top-level key, missing tests the absence of an own key;
- `Exec.evaluate` over negation, conjunction and (possibly inverted) disjunction, and
  `Exec.passes`: every top-level filter holds.

Evaluation never fails: an absent value is one of the values a comparison sees.
-/

set_option autoImplicit false

namespace RecordQuery

namespace Exec

open Plan

/-- The characters that end a line for an excludes test. -/
def lineTerminators : List Char := ['\n', '\r', '\u2028', '\u2029']

/-- Whether a comparison holds between a field's value and an operand. -/
def compareHolds (actual : Option Json) (op : CompareOp) (expected : Option Json) : Bool :=
  match op with
  | .eq => Loose.looseEq actual expected
  | .lt => Loose.looseCompare actual expected == some .lt
  | .lte => Loose.looseCompare actual expected == some .lt || Loose.looseCompare actual expected == some .eq
  | .gt => Loose.looseCompare actual expected == some .gt
  | .gte => Loose.looseCompare actual expected == some .gt || Loose.looseCompare actual expected == some .eq

/-- Whether a value reads as one line in which no match of the pattern starts before the end. -/
def excludes (r : Pattern.Regex) (value : Option Json) : Bool :=
  let subject := Loose.display value
  if subject.toList.any lineTerminators.contains then false
  else
    match r.leftmostStart? subject with
    | none => true
    | some start => start == subject.length

/-- Whether a record passes one leaf. -/
def leafHolds (record : Json) (l : Leaf) : Bool :=
  match l.test with
  | .compare op operand => compareHolds (resolve? record l.field) op operand
  | .matches r => r.isMatch (Loose.display (resolve? record l.field))
  | .excludes r => excludes r (ownProperty? record l.field)
  | .missing => !hasOwnProperty record l.field

mutual

/-- Whether a record passes a predicate. -/
def evaluate (record : Json) : Predicate → Bool
  | .leaf l => leafHolds record l
  | .not inner => !evaluate record inner
  | .all members => evaluateAll record members
  | .any members negated => evaluateAny record members != negated

/-- Whether a record passes every predicate of a list. -/
def evaluateAll (record : Json) : List Predicate → Bool
  | [] => true
  | p :: rest => evaluate record p && evaluateAll record rest

/-- Whether a record passes some predicate of a list. -/
def evaluateAny (record : Json) : List Predicate → Bool
  | [] => false
  | p :: rest => evaluate record p || evaluateAny record rest

end

/-- Whether a record passes every top-level filter. -/
def passes (record : Json) (filters : List Predicate) : Bool := evaluateAll record filters

end Exec

end RecordQuery
