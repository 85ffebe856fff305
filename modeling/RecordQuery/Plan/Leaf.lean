import RecordQuery.Plan.Predicate
import RecordQuery.Query.Literal
import RecordQuery.Loose.Display
import RecordQuery.Query.Syntax

/-!
Contract: the compiled form of one predicate node under a pushed negation.

Owns `Plan.buildLeaf`:
- a missing-kind node is a missing test whatever its operator text; any other node's operator
  must be one of `eq lt lte gt gte contains like missing`, else the operator is not supported
  (reported on the field as written);
- the field is renamed through the field map's predicate keys;
- the operand is coerced (`%` expanded only for like-kind nodes);
- contains and like compile the operand's display text to a case-insensitive pattern; with no
  operand the pattern is empty, or `undefined` when negated; negated, the leaf becomes an
  excludes test, never a negation;
- comparisons and missing tests are wrapped in a negation when negated.

Errors come in the order the checks are listed: operator, then literal, then pattern.
-/

set_option autoImplicit false

namespace RecordQuery

namespace Plan

open Query

/-- A predicate, negated when `negated` holds. -/
def invert (p : Predicate) (negated : Bool) : Predicate := if negated then .not p else p

/-- The pattern text of a contains or like operand. -/
def patternSource (operand : Option Json) (negated : Bool) : String :=
  match operand with
  | none => if negated then Loose.display none else ""
  | some v => Loose.display (some v)

/-- The compiled pattern of an operand, or why it is no pattern. -/
def compilePattern (field : String) (operand : Option Json) (negated : Bool) :
    Except CompileError Pattern.Regex :=
  match Pattern.Regex.compile (patternSource operand negated) with
  | .ok r => .ok r
  | .error e => .error (.invalidPattern field e)

/-- The comparison an operator names, for the comparison operators. -/
def compareOp? : Operator → Option CompareOp
  | .eq => some .eq
  | .lt => some .lt
  | .lte => some .lte
  | .gt => some .gt
  | .gte => some .gte
  | _ => none

/-- The operator a node asks for: missing for missing-kind nodes, else its operator text. -/
def nodeOperator (kind : PredicateKind) (node : PredicateNode) : Except CompileError Operator :=
  match kind with
  | .missing => .ok .missing
  | _ =>
    match Operator.parse? node.operator with
    | some op => .ok op
    | none => .error (.unsupportedOperator node.field node.operator)

/-- The compiled form of a predicate node, negated when `negated` holds. -/
def buildLeaf (config : Config) (kind : PredicateKind) (node : PredicateNode) (negated : Bool) :
    Except CompileError Predicate := do
  let operator ← nodeOperator kind node
  let field := config.fieldMap.predicateKey node.field
  let operand := coerce config.params node.field node.value (kind == .like)
  match operator with
  | .missing => pure (invert (.leaf ⟨field, .missing⟩) negated)
  | .contains | .like =>
    let v ← operand
    let r ← compilePattern node.field v negated
    pure (.leaf ⟨field, if negated then .excludes r else .matches r⟩)
  | op =>
    let v ← operand
    match compareOp? op with
    | some c => pure (invert (.leaf ⟨field, .compare c v⟩) negated)
    | none => pure (invert (.leaf ⟨field, .missing⟩) negated)

end Plan

end RecordQuery
