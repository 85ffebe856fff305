import RecordQuery.Plan.Compile

/-!
Contract: the canonical JSON form of a statement, and reading it back.

Owns:
- the canonical form: every node an object tagged by its kind in `type`; a field list entry
  `{alias, name}` with `alias` left out when there is none; a sort key `{direction, field}`;
  conjunctions and disjunctions with `left`, `right` and `isNegated`; predicates with `field`,
  `operator`, `isNegated`, and `value` exactly when there is one; a statement with `fieldList`,
  and `filter` and `orderBy` only when it has them. Keys are written in sorted order, as every
  object of the library is;
- `statement_toJson`: reading the canonical form gives the statement back, whatever its names,
  operators and operands (no operand, JSON null, or any other value) and however deep its
  expression; so compiling the canonical form is compiling the statement, plan and error alike.

Reading needs, besides the round trip of each part, that the expression reader's fuel (one more
than the nesting depth of the value) covers the expression: each node of the expression is one
object level of its form.
-/

set_option autoImplicit false

namespace RecordQuery

namespace Query

/-! ### The canonical form -/

/-- The canonical form of a field list entry. -/
def SelectField.toJson (f : SelectField) : Json :=
  match f.asName with
  | some asName => .obj [("alias", .str asName), ("name", .str f.name)]
  | none => .obj [("name", .str f.name)]

/-- The canonical form of a sort key. -/
def SortSpec.toJson (s : SortSpec) : Json :=
  .obj [("direction", .str s.direction.name), ("field", .str s.field)]

/-- The node kind a predicate leaf is tagged with. -/
def PredicateKind.tag : PredicateKind → String
  | .comparison => "ComparisonPredicate"
  | .contains => "ContainsPredicate"
  | .like => "LikePredicate"
  | .missing => "MissingPredicate"

/-- The canonical form of a predicate leaf: `value` is written exactly when there is an operand. -/
def PredicateNode.toJson (kind : PredicateKind) (node : PredicateNode) : Json :=
  .obj ([("field", .str node.field), ("isNegated", .bool node.negated),
    ("operator", .str node.operator), ("type", .str kind.tag)] ++
    match node.value with
    | some v => [("value", v)]
    | none => [])

/-- The canonical form of a WHERE expression. -/
def Expr.toJson : Expr → Json
  | .conj l r k => .obj [("isNegated", .bool k), ("left", l.toJson), ("right", r.toJson),
      ("type", .str "Conjunction")]
  | .disj l r k => .obj [("isNegated", .bool k), ("left", l.toJson), ("right", r.toJson),
      ("type", .str "Disjunction")]
  | .pred kind node => node.toJson kind

/-- The canonical form of a statement: `filter` and `orderBy` only when it has them. -/
def Statement.toJson (s : Statement) : Json :=
  .obj ([("fieldList", .obj [("fields", .arr (s.fields.map SelectField.toJson)),
      ("type", .str "FieldList")])] ++
    (match s.filter with
      | some e => [("filter", .obj [("expression", e.toJson), ("type", .str "Filter")])]
      | none => []) ++
    (match s.orderBy with
      | some sorts => [("orderBy", .obj [("sorts", .arr (sorts.map SortSpec.toJson)),
          ("type", .str "OrderBy")])]
      | none => []) ++
    [("type", .str "SelectStatement")])

/-- The canonical form of an expression is an object. -/
theorem Expr.toJson_obj (e : Expr) : ∃ fields, e.toJson = .obj fields := by
  cases e <;> simp [Expr.toJson, PredicateNode.toJson]

namespace Decode

open Json

/-! ### Reading the parts back -/

/-- A list of values written one by one is read back by a reader that undoes the writing. -/
theorem mapM_map_of_roundTrip {ε α : Type} (write : α → Json) (read : Json → Except ε α)
    (roundTrip : ∀ a, read (write a) = .ok a) (items : List α) :
    (items.map write).mapM read = .ok items := by
  induction items with
  | nil => rfl
  | cons item items inductionHypothesis =>
    simp [List.mapM_cons, roundTrip, inductionHypothesis, bind, Except.bind, pure, Except.pure]

theorem readSelectField_toJson (f : SelectField) : readSelectField f.toJson = .ok f := by
  obtain ⟨name, asName⟩ := f
  cases asName <;>
    simp [SelectField.toJson, readSelectField, readString, readOptString, bind, Except.bind,
      pure, Except.pure, Except.map]

theorem readSortSpec_toJson (s : SortSpec) : readSortSpec s.toJson = .ok s := by
  obtain ⟨field, direction⟩ := s
  cases direction <;>
    simp [SortSpec.toJson, SortDirection.name, readSortSpec, readDirection, readString, bind,
      Except.bind, pure, Except.pure, Except.map]

theorem fieldList_toJson (fields : List SelectField) :
    fieldList (.obj [("fields", .arr (fields.map SelectField.toJson)),
      ("type", .str "FieldList")]) = .ok fields := by
  simp only [fieldList, expectKind, tagged, required, optional, getField?]
  simp [bind, Except.bind, pure, Except.pure, -List.mapM_map]
  apply mapM_map_of_roundTrip
  -- An entry written as an object is read as a record, never as a bare name.
  intro f
  have entry : (readSelectField f.toJson).mapError
      (fun e => CompileError.malformedNode "FieldList" (.schema e)) = .ok f := by
    rw [readSelectField_toJson]
    rfl
  obtain ⟨name, asName⟩ := f
  cases asName <;> exact entry

theorem orderBy_toJson (sorts : List SortSpec) :
    orderBy (.obj [("sorts", .arr (sorts.map SortSpec.toJson)), ("type", .str "OrderBy")]) =
      .ok sorts := by
  simp only [orderBy, expectKind, tagged, required, optional, getField?]
  simp [getField?, bind, Except.bind, pure, Except.pure, readSeq, -List.mapM_map,
    mapM_map_of_roundTrip SortSpec.toJson readSortSpec readSortSpec_toJson]
  rfl

/-! ### Expressions -/

/-- A field's value lies one level below its object. -/
theorem depth_lt_of_mem (key : String) (v : Json) :
    ∀ {fields : List (String × Json)}, (key, v) ∈ fields → v.depth < (Json.obj fields).depth
  | (k, w) :: rest, member => by
    have below : ∀ {u : Json}, u.depth < (Json.obj rest).depth → u.depth < (Json.obj ((k, w) :: rest)).depth := by
      intro u lower
      simp only [Json.depth, Json.depthFields] at lower ⊢
      omega
    rcases List.mem_cons.mp member with same | later
    · cases same
      simp only [Json.depth, Json.depthFields]
      omega
    · exact below (depth_lt_of_mem key v later)

/-- A predicate leaf's canonical form is read back as that leaf, with or without an operand. -/
theorem expressionWithin_pred_toJson (kind : PredicateKind) (node : PredicateNode) (fuel : Nat) :
    expressionWithin (fuel + 1) (node.toJson kind) = .ok (.pred kind node) := by
  obtain ⟨field, operator, value, negated⟩ := node
  cases kind <;> cases value <;>
    simp [PredicateNode.toJson, PredicateKind.tag, expressionWithin, tagged, predicateKind?,
      predicate, stringAttr, required, optional, flag, getField?, bind, Except.bind, pure,
      Except.pure, Except.map]

/-- The children of a binary node's canonical form lie one level below it. -/
theorem children_depth_lt (tag : String) (l r : Expr) (k : Bool) :
    l.toJson.depth < (Json.obj [("isNegated", .bool k), ("left", l.toJson), ("right", r.toJson),
        ("type", .str tag)]).depth ∧
      r.toJson.depth < (Json.obj [("isNegated", .bool k), ("left", l.toJson),
        ("right", r.toJson), ("type", .str tag)]).depth :=
  ⟨depth_lt_of_mem "left" l.toJson (by simp), depth_lt_of_mem "right" r.toJson (by simp)⟩

/-- A binary node's canonical form is read back once both children are. -/
theorem expressionWithin_binary {tag : String} (binary : tag = "Conjunction" ∨ tag = "Disjunction")
    (l r : Expr) (k : Bool) (fuel : Nat) (left : expressionWithin fuel l.toJson = .ok l)
    (right : expressionWithin fuel r.toJson = .ok r) :
    expressionWithin (fuel + 1) (.obj [("isNegated", .bool k), ("left", l.toJson),
        ("right", r.toJson), ("type", .str tag)]) =
      .ok (if tag = "Conjunction" then .conj l r k else .disj l r k) := by
  -- The children are objects, so neither reads as an absent (null) attribute.
  obtain ⟨leftFields, leftObj⟩ := l.toJson_obj
  obtain ⟨rightFields, rightObj⟩ := r.toJson_obj
  rw [leftObj] at left ⊢
  rw [rightObj] at right ⊢
  have isBinary : (tag == "Conjunction" || tag == "Disjunction") = true := by
    rcases binary with rfl | rfl <;> rfl
  simp [expressionWithin, tagged, required, optional, flag, getField?, isBinary, left, right,
    bind, Except.bind, pure, Except.pure]

/-- An expression's canonical form is read back by the reader given more fuel than its depth. -/
theorem expressionWithin_toJson (e : Expr) :
    ∀ fuel, e.toJson.depth < fuel → expressionWithin fuel e.toJson = .ok e := by
  induction e with
  | conj l r k left right =>
    intro fuel bound
    obtain ⟨fuel, rfl⟩ : ∃ rest, fuel = rest + 1 := ⟨fuel - 1, by omega⟩
    obtain ⟨leftBelow, rightBelow⟩ := children_depth_lt "Conjunction" l r k
    rw [Expr.toJson] at bound ⊢
    have read := expressionWithin_binary (.inl rfl) l r k fuel (left fuel (by omega))
      (right fuel (by omega))
    simpa using read
  | disj l r k left right =>
    intro fuel bound
    obtain ⟨fuel, rfl⟩ : ∃ rest, fuel = rest + 1 := ⟨fuel - 1, by omega⟩
    obtain ⟨leftBelow, rightBelow⟩ := children_depth_lt "Disjunction" l r k
    rw [Expr.toJson] at bound ⊢
    have read := expressionWithin_binary (.inr rfl) l r k fuel (left fuel (by omega))
      (right fuel (by omega))
    simpa using read
  | pred kind node =>
    intro fuel bound
    obtain ⟨fuel, rfl⟩ : ∃ rest, fuel = rest + 1 := ⟨fuel - 1, by omega⟩
    exact expressionWithin_pred_toJson kind node fuel

theorem expression_toJson (e : Expr) : expression e.toJson = .ok e :=
  expressionWithin_toJson e _ (Nat.lt_succ_self _)

theorem filter_toJson (e : Expr) :
    filter (.obj [("expression", e.toJson), ("type", .str "Filter")]) = .ok e := by
  have read := expression_toJson e
  obtain ⟨fields, obj⟩ := e.toJson_obj
  rw [obj] at read ⊢
  simp [filter, expectKind, tagged, required, optional, getField?, read, bind, Except.bind, pure,
    Except.pure]

/-! ### Statements -/

theorem statement_toJson (s : Statement) : statement s.toJson = .ok s := by
  obtain ⟨fields, filterExpr, sorts⟩ := s
  cases filterExpr <;> cases sorts <;>
    simp [Statement.toJson, statement, expectKind, tagged, required, optional, getField?,
      fieldList_toJson, filter_toJson, orderBy_toJson, bind, Except.bind, pure, Except.pure,
      Except.map]

/-- Reading the canonical form of a statement gives the statement back, whatever its field list,
names, operators, operands and expression depth; so compiling the canonical form compiles the
statement, plan and error alike. -/
theorem canonical_statement_round_trip (config : Config) (s : Statement) :
    statement s.toJson = .ok s ∧ Plan.compileJson config s.toJson = Plan.compile config s := by
  have read := statement_toJson s
  refine ⟨read, ?_⟩
  simp [Plan.compileJson, read, bind, Except.bind]

end Decode

end Query

end RecordQuery
