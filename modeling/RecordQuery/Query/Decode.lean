import RecordQuery.Query.Syntax
import RecordQuery.Query.Error

/-!
Contract: reading a statement tree from its JSON form.

Owns the JSON form of a statement:
- every node is an object tagged by a string `type`; the ten known kinds are `SelectStatement`,
  `FieldList`, `Filter`, `OrderBy`, `Conjunction`, `Disjunction`, `ComparisonPredicate`,
  `ContainsPredicate`, `LikePredicate` and `MissingPredicate`;
- a `SelectStatement` has a required `fieldList` and optional `filter` and `orderBy` (null is
  absent); a `FieldList` has an array `fields` of names or `{name, alias}` records; a `Filter` has
  an `expression`; an `OrderBy` has `sorts`, a sequence of `{field, direction}` records;
- `Conjunction`/`Disjunction` have required `left` and `right` and an optional boolean
  `isNegated`; predicates have a required string `field`, a required string `operator` (a
  `MissingPredicate` takes `missing` when it is absent or null), an optional `value` (absent is no
  value, null is JSON null) and `isNegated`.

The first fault met while reading in that order is the one reported; within a binary node the whole
left subtree is read before the right one.
-/

set_option autoImplicit false

namespace RecordQuery

namespace Query

namespace Decode

/-- The node kinds the statement form knows. -/
def knownKinds : List String :=
  ["SelectStatement", "FieldList", "Filter", "OrderBy", "Conjunction", "Disjunction",
    "ComparisonPredicate", "ContainsPredicate", "LikePredicate", "MissingPredicate"]

/-- The fields of a node. -/
abbrev Node := List (String × Json)

/-- A node's kind and fields. -/
def tagged : Json → Except CompileError (String × Node)
  | .obj fields =>
    match Json.getField? "type" fields with
    | some (.str kind) => .ok (kind, fields)
    | _ => .error (.malformedNode "AST" .missingTypeTag)
  | _ => .error (.malformedNode "AST" .expectedObject)

/-- The fields of a node that must be of the expected kind. -/
def expectKind (v : Json) (expected : String) : Except CompileError Node := do
  let (kind, node) ← tagged v
  if kind == expected then pure node
  else if knownKinds.contains kind then throw (.malformedNode expected (.foundInPlace kind))
  else throw (.unknownNodeKind kind)

/-- A field that may be absent; null counts as absent. -/
def optional (node : Node) (key : String) : Option Json :=
  match Json.getField? key node with
  | some .null => none
  | other => other

/-- A field that must be present and not null. -/
def required (node : Node) (kind key : String) : Except CompileError Json :=
  match optional node key with
  | some v => .ok v
  | none => .error (.malformedNode kind (.missingKey key))

/-- A required string field. -/
def stringAttr (node : Node) (kind key : String) : Except CompileError String := do
  match ← required node kind key with
  | .str s => pure s
  | _ => throw (.malformedNode kind (.notString key))

/-- An optional boolean field, false when absent. -/
def flag (node : Node) (kind key : String) : Except CompileError Bool :=
  match optional node key with
  | none => .ok false
  | some (.bool b) => .ok b
  | some _ => .error (.malformedNode kind (.notBoolean key))

open Json in
/-- A field list entry written as a record, from an object or from a `[name, alias]` sequence. -/
def readSelectField : Reads SelectField
  | .obj fields => do
    let (name, asName) ← fields.foldlM (fun (acc : Option String × Option String) (kv : String × Json) =>
      if kv.1 == "alias" then (readOptString kv.2).map fun a => (acc.1, a)
      else if kv.1 == "name" then (readString kv.2).map fun n => (some n, acc.2)
      else .ok acc) (none, none)
    match name with
    | some n => pure ⟨n, asName⟩
    | none => throw (.missingField "name")
  | .arr items => do
    let name ← requiredElement items 0 "struct SelectField with 2 elements" readString
    let asName ← defaultedElement items 1 none readOptString
    checkNoneLeft items.length 2
    pure ⟨name, asName⟩
  | v => .error (.invalidType v "struct SelectField")

/-- The direction names, in the order a mismatch lists them. -/
def directionNames : List String := ["asc", "desc"]

open Json in
/-- A sort direction: its name, or an object with the name as its only key and null as value. -/
def readDirection : Reads SortDirection
  | .str s =>
    if s == "asc" then .ok .asc else if s == "desc" then .ok .desc
    else .error (.unknownVariant s directionNames)
  | .obj [(name, v)] => do
    let d ← if name == "asc" then pure SortDirection.asc else if name == "desc" then pure .desc
      else throw (.unknownVariant name directionNames)
    match v with
    | .null => pure d
    | other => throw (.invalidType other "unit")
  | .obj _ => .error (.invalidValue "map" "map with a single key")
  | v => .error (.invalidType v "string or map")

open Json in
/-- A sort key, from an object or from a `[field, direction]` sequence. -/
def readSortSpec : Reads SortSpec
  | .obj fields => do
    let (field, direction) ← fields.foldlM
      (fun (acc : Option String × SortDirection) (kv : String × Json) =>
        if kv.1 == "direction" then (readDirection kv.2).map fun d => (acc.1, d)
        else if kv.1 == "field" then (readString kv.2).map fun f => (some f, acc.2)
        else .ok acc) (none, .asc)
    match field with
    | some f => pure ⟨f, direction⟩
    | none => throw (.missingField "field")
  | .arr items => do
    let field ← requiredElement items 0 "struct SortSpec with 2 elements" readString
    let direction ← defaultedElement items 1 .asc readDirection
    checkNoneLeft items.length 2
    pure ⟨field, direction⟩
  | v => .error (.invalidType v "struct SortSpec")

/-- A predicate leaf of the given kind. -/
def predicate (node : Node) (kind : String) (isMissing : Bool) : Except CompileError PredicateNode := do
  let field ← stringAttr node kind "field"
  let operator ← if isMissing && (optional node "operator").isNone then pure "missing"
    else stringAttr node kind "operator"
  let negated ← flag node kind "isNegated"
  pure ⟨field, operator, Json.getField? "value" node, negated⟩

/-- The leaf class of a predicate node kind. -/
def predicateKind? : String → Option PredicateKind
  | "ComparisonPredicate" => some .comparison
  | "ContainsPredicate" => some .contains
  | "LikePredicate" => some .like
  | "MissingPredicate" => some .missing
  | _ => none

/-- A WHERE expression, with `fuel` at least one more than the nesting depth of the value. -/
def expressionWithin : Nat → Json → Except CompileError Expr
  | 0, _ => .error (.malformedNode "AST" .expectedObject)
  | fuel + 1, v => do
    let (kind, node) ← tagged v
    if kind == "Conjunction" || kind == "Disjunction" then
      let left ← expressionWithin fuel (← required node kind "left")
      let right ← expressionWithin fuel (← required node kind "right")
      let negated ← flag node kind "isNegated"
      pure (if kind == "Conjunction" then .conj left right negated else .disj left right negated)
    else
      match predicateKind? kind with
      | some pk => (predicate node kind (pk == .missing)).map (.pred pk)
      | none =>
        if knownKinds.contains kind then throw (.malformedNode kind .notValidInWhere)
        else throw (.unknownNodeKind kind)

/-- A WHERE expression. -/
def expression (v : Json) : Except CompileError Expr := expressionWithin (v.depth + 1) v

/-- A field list node. -/
def fieldList (v : Json) : Except CompileError (List SelectField) := do
  let node ← expectKind v "FieldList"
  match ← required node "FieldList" "fields" with
  | .arr entries =>
    entries.mapM fun entry => match entry with
      | .str name => .ok (SelectField.named name)
      | other => (readSelectField other).mapError fun e => .malformedNode "FieldList" (.schema e)
  | _ => throw (.malformedNode "FieldList" .fieldsNotArray)

/-- A filter node. -/
def filter (v : Json) : Except CompileError Expr := do
  let node ← expectKind v "Filter"
  expression (← required node "Filter" "expression")

/-- An order-by node. -/
def orderBy (v : Json) : Except CompileError (List SortSpec) := do
  let node ← expectKind v "OrderBy"
  let sorts ← required node "OrderBy" "sorts"
  (Json.readSeq readSortSpec sorts).mapError fun e => .malformedNode "OrderBy" (.schema e)

/-- A select statement. -/
def statement (v : Json) : Except CompileError Statement := do
  let node ← expectKind v "SelectStatement"
  let fields ← fieldList (← required node "SelectStatement" "fieldList")
  let filterExpr ← match optional node "filter" with
    | some f => (filter f).map some
    | none => pure none
  let sorts ← match optional node "orderBy" with
    | some o => (orderBy o).map some
    | none => pure none
  pure ⟨fields, filterExpr, sorts⟩

end Decode

end Query

end RecordQuery
