import RecordQuery.Json.Value

/-!
Contract: the statement tree of a select/where/order-by query and its builders.

Owns:
- `Query.SelectField` (a name, `*` for every field, with an optional output name),
  `Query.SortSpec`, `Query.PredicateNode`, `Query.PredicateKind`;
- `Query.Expr`: binary AND/OR nodes with their own negation flag, and predicate leaves tagged by
  their kind; the kind fixes how a leaf's operand is read (only `like` leaves expand `%`), the
  operator text picks its test;
- `Query.Statement` with its builders (`select`, `selectAll`, `withFilter`, `withSort`).

Does not own: reading the tree from JSON (`Query.Decode`) or compiling it (`Plan.Compile`).
-/

set_option autoImplicit false

namespace RecordQuery

namespace Query

/-- The tests a predicate operator can name. -/
inductive Operator where
  | eq
  | lt
  | lte
  | gt
  | gte
  | contains
  | like
  | missing
  deriving DecidableEq, Repr

/-- The operator a text names, if any. -/
def Operator.parse? : String → Option Operator
  | "eq" => some .eq
  | "lt" => some .lt
  | "lte" => some .lte
  | "gt" => some .gt
  | "gte" => some .gte
  | "contains" => some .contains
  | "like" => some .like
  | "missing" => some .missing
  | _ => none

/-- The direction of a sort key. -/
inductive SortDirection where
  | asc
  | desc
  deriving DecidableEq, Repr

/-- The name of a sort direction. -/
def SortDirection.name : SortDirection → String
  | .asc => "asc"
  | .desc => "desc"

/-- A sort key: a field and a direction. -/
structure SortSpec where
  field : String
  direction : SortDirection
  deriving DecidableEq, Repr

/-- An ascending sort key. -/
def SortSpec.asc (field : String) : SortSpec := ⟨field, .asc⟩

/-- A descending sort key. -/
def SortSpec.desc (field : String) : SortSpec := ⟨field, .desc⟩

/-- A selected field: a name (`*` selects every field) and the name it is written under. -/
structure SelectField where
  name : String
  asName : Option String
  deriving DecidableEq, Repr

namespace SelectField

/-- A field selected under its own name. -/
def named (name : String) : SelectField := ⟨name, none⟩

/-- The field list entry that selects every field. -/
def wildcard : SelectField := named "*"

/-- The same field written under another name. -/
def withAlias (f : SelectField) (asName : String) : SelectField := { f with asName := some asName }

/-- Whether the entry selects every field. -/
def isWildcard (f : SelectField) : Bool := f.name == "*"

/-- Whether the name is a dotted path. -/
def isNested (f : SelectField) : Bool := f.name.toList.contains '.'

end SelectField

/-- The class of a predicate leaf, fixed by its node kind. -/
inductive PredicateKind where
  | comparison
  | contains
  | like
  | missing
  deriving DecidableEq, Repr

/-- A predicate leaf: a field, an operator text, an optional operand (absent is no value, JSON
null is a value) and its own negation flag. -/
structure PredicateNode where
  field : String
  operator : String
  value : Option Json
  negated : Bool

/-- A WHERE expression. -/
inductive Expr where
  | conj (left right : Expr) (negated : Bool)
  | disj (left right : Expr) (negated : Bool)
  | pred (kind : PredicateKind) (node : PredicateNode)

namespace Expr

/-- `left AND right`. -/
def and (left right : Expr) : Expr := .conj left right false

/-- `left OR right`. -/
def or (left right : Expr) : Expr := .disj left right false

/-- A comparison leaf with an operand. -/
def compare (field operator : String) (value : Json) : Expr :=
  .pred .comparison ⟨field, operator, some value, false⟩

/-- A contains leaf. -/
def contains (field : String) (value : Json) : Expr := .pred .contains ⟨field, "contains", some value, false⟩

/-- A like leaf. -/
def like (field : String) (value : Json) : Expr := .pred .like ⟨field, "like", some value, false⟩

/-- A missing-field leaf. -/
def missing (field : String) : Expr := .pred .missing ⟨field, "missing", none, false⟩

/-- The expression with its own negation flag toggled. -/
def negate : Expr → Expr
  | .conj l r n => .conj l r (!n)
  | .disj l r n => .disj l r (!n)
  | .pred k node => .pred k { node with negated := !node.negated }

/-- The number of nodes. -/
def size : Expr → Nat
  | .conj l r _ => l.size + r.size + 1
  | .disj l r _ => l.size + r.size + 1
  | .pred _ _ => 1

end Expr

/-- A select statement: the field list, an optional filter and an optional list of sort keys. -/
structure Statement where
  fields : List SelectField
  filter : Option Expr
  orderBy : Option (List SortSpec)

namespace Statement

/-- A statement selecting the given fields, without filter or order. -/
def select (fields : List SelectField) : Statement := ⟨fields, none, none⟩

/-- A statement selecting every field. -/
def selectAll : Statement := select [SelectField.wildcard]

/-- The statement with a filter. -/
def withFilter (s : Statement) (e : Expr) : Statement := { s with filter := some e }

/-- The statement with one more sort key at the end. -/
def withSort (s : Statement) (spec : SortSpec) : Statement :=
  { s with orderBy := some ((s.orderBy.getD []) ++ [spec]) }

/-- The sort keys, none when there is no order. -/
def sorts (s : Statement) : List SortSpec := s.orderBy.getD []

end Statement

end Query

end RecordQuery
