import RecordQuery.Proofs.StringLiteral
import RecordQuery.Proofs.PlanShape

/-!
Contract: the operands of a compiled plan are scalars.

Owns:
- `Json.Scalar`: null, a boolean, a number or a string;
- `Plan.ScalarOperand` (no value or a scalar) and `FieldTest.ScalarOperands`: a comparison's
  operand is one; a matches pattern is the empty text (a positive pattern leaf with no operand)
  or the display text of one; an excludes pattern is the display text of one;
- `Query.normalize_scalar`: every operand that normalises does so to no value or a scalar;
- `Plan.compiled_operands_scalar`: every leaf of a compiled plan has scalar operands, so no
  comparison of the plan meets two composites and the identity of stored values never decides
  a loose equality.

It holds because normalisation is the last step of every operand: composites are refused, null,
booleans and numbers stay, a numeric text becomes an integer or a float, and any other text is
read as a literal that starts with a quote, which reads, if at all, as a string. A parameter table
may hold arrays and objects; they are refused the same way when a leaf names them.
-/

set_option autoImplicit false

namespace RecordQuery

namespace Json

/-- A JSON null, boolean, number or string. -/
inductive Scalar : Json → Prop
  | null : Scalar .null
  | bool (b : Bool) : Scalar (.bool b)
  | int (i : Int) : Scalar (.int i)
  | float (x : Binary64) : Scalar (.float x)
  | str (s : String) : Scalar (.str s)

theorem Scalar.isComposite_eq_false {v : Json} (scalar : v.Scalar) : v.isComposite = false := by
  cases scalar <;> rfl

end Json

namespace Plan

/-- An operand that is no value or a scalar. -/
def ScalarOperand (operand : Option Json) : Prop := ∀ v, operand = some v → v.Scalar

/-- The operands of a leaf test are scalars: a comparison's operand is no value or a scalar; a
matches pattern is empty (a positive leaf with no operand) or the display text of such an
operand, and an excludes pattern the display text of such an operand. -/
def FieldTest.ScalarOperands : FieldTest → Prop
  | .compare _ operand => ScalarOperand operand
  | .matches r => r.source = "" ∨ ∃ operand, ScalarOperand operand ∧ r.source = Loose.display operand
  | .excludes r => ∃ operand, ScalarOperand operand ∧ r.source = Loose.display operand
  | .missing => True

theorem ScalarOperand.isCompositeOperand_eq_false {operand : Option Json}
    (scalar : ScalarOperand operand) : Loose.isCompositeOperand operand = false := by
  cases operand with
  | none => rfl
  | some v => exact (scalar v rfl).isComposite_eq_false

end Plan

namespace Loose

/-- Against an operand that is not composite, whether two operands are one stored value plays no
part in loose equality. -/
theorem looseEqShared_of_not_composite {b : Option Json} (notComposite : isCompositeOperand b = false)
    (shared : Bool) (a : Option Json) : looseEqShared shared a b = looseEq a b := by
  simp [looseEq, looseEqShared, notComposite]

end Loose

namespace Query

open Plan

/-- A numeric literal becomes an integer or a float. -/
theorem numberValue_scalar {field text : String} {n : Binary64} {v : Json}
    (valued : numberValue field text n = .ok v) : v.Scalar := by
  unfold numberValue at valued
  split at valued
  · rename_i i _
    split at valued <;> cases valued
    · exact .int i
    · exact .float n
  · split at valued
    · cases valued
      exact .float n
    · cases valued

/-- The quoted literal of a text reads, if at all, as a string: it starts with `"`, or with `'`
and does not read. -/
theorem parse_quotedLiteral {t : String} {v : Json} (read : Json.parse (quotedLiteral t) = .ok v) :
    ∃ s, v = .str s := by
  unfold quotedLiteral at read
  split at read
  · rename_i rest starts
    exact Json.parse_of_quote starts read
  · rename_i rest starts
    exact absurd read (Json.parse_of_apostrophe starts)
  · exact Json.parse_of_quote (Json.toList_quoted t) read

/-- Every operand that normalises does so to no value or a scalar. -/
theorem normalize_scalar {field : String} {operand result : Option Json}
    (normalized : normalize field operand = .ok result) : ScalarOperand result := by
  intro v isResult
  subst isResult
  unfold normalize at normalized
  -- One case for each kind of operand; composites are refused.
  split at normalized
  · cases normalized
  · cases normalized
    exact .null
  · cases normalized
    exact .bool _
  · cases normalized
    exact .int _
  · cases normalized
    exact .float _
  · rename_i text
    split at normalized
    · -- A text that spells a number.
      rename_i n _
      cases valued : numberValue field text n with
      | error err => rw [valued] at normalized; cases normalized
      | ok w =>
        rw [valued] at normalized
        cases normalized
        exact numberValue_scalar valued
    · -- Any other text, read as its quoted literal.
      dsimp only at normalized
      split at normalized
      · rename_i w read
        cases normalized
        obtain ⟨s, rfl⟩ := parse_quotedLiteral read
        exact .str s
      · cases normalized
  · cases normalized

theorem coerce_scalar {params : Option Params} {field : String} {raw result : Option Json}
    {like : Bool} (coerced : coerce params field raw like = .ok result) : ScalarOperand result :=
  normalize_scalar coerced

end Query

namespace Pattern.Regex

/-- A compiled pattern keeps the text it was compiled from. -/
theorem source_of_compile {text : String} {r : Regex} (compiled : compile text = .ok r) :
    r.source = text := by
  unfold compile at compiled
  cases parsed : Pattern.parse text true with
  | error err => simp [parsed, bind, Except.bind] at compiled
  | ok node =>
    simp only [parsed, bind, Except.bind] at compiled
    split at compiled
    · cases compiled
    · cases compiled
      rfl

end Pattern.Regex

namespace Plan

open Query

theorem compilePattern_source {field : String} {operand : Option Json} {negated : Bool}
    {r : Pattern.Regex} (compiled : compilePattern field operand negated = .ok r) :
    r.source = patternSource operand negated := by
  unfold compilePattern at compiled
  split at compiled
  · rename_i r' source
    cases compiled
    exact Pattern.Regex.source_of_compile source
  · cases compiled

/-- A comparison or absent-field leaf, negated or not, has the test it was built with. -/
theorem leaves_invert_leaf (l : Leaf) (negated : Bool) : (invert (.leaf l) negated).leaves = [l] := by
  cases negated <;> rfl

/-- Every leaf the leaf builder returns has scalar operands. -/
theorem buildLeaf_scalarOperands {config : Config} {kind : PredicateKind} {node : PredicateNode}
    {negated : Bool} {p : Predicate} (built : buildLeaf config kind node negated = .ok p) :
    ∀ l ∈ p.leaves, l.test.ScalarOperands := by
  cases asked : nodeOperator kind node with
  | error err =>
    rw [buildLeaf_of_operator_error config kind node negated asked] at built
    cases built
  | ok operator =>
    rcases operator_cases operator with rfl | pattern | ⟨op, compares⟩
    · rw [buildLeaf_of_missing config kind node negated asked] at built
      cases built
      intro l member
      rw [leaves_invert_leaf, List.mem_singleton] at member
      subst member
      trivial
    · rw [buildLeaf_of_pattern config kind node negated asked pattern] at built
      obtain ⟨v, coerced, compiled⟩ := ok_of_bind built
      obtain ⟨r, patterned, leaf⟩ := ok_of_bind compiled
      cases leaf
      have scalar := coerce_scalar coerced
      have source := compilePattern_source patterned
      intro l member
      simp only [Predicate.leaves, List.mem_singleton] at member
      subst member
      cases negated with
      | false =>
        -- No operand is the empty pattern; an operand is its display text.
        cases v with
        | none => exact .inl source
        | some w => exact .inr ⟨some w, scalar, source⟩
      | true =>
        -- Negated, no operand is the text `undefined`, the display text of no value.
        cases v with
        | none => exact ⟨none, scalar, source⟩
        | some w => exact ⟨some w, scalar, source⟩
    · rw [buildLeaf_of_compare config kind node negated asked compares] at built
      obtain ⟨v, coerced, rfl⟩ := ok_of_map built
      intro l member
      rw [leaves_invert_leaf, List.mem_singleton] at member
      subst member
      exact coerce_scalar coerced

/-- A leaf test the builder returns for a predicate node has scalar operands. -/
theorem BuildsLeaf.scalarOperands {config : Config} {call : PredicateKind × PredicateNode × Bool}
    {l : Leaf} (builds : BuildsLeaf config call l) : l.test.ScalarOperands := by
  obtain ⟨p, built, leaves⟩ := builds
  exact buildLeaf_scalarOperands built l (by simp [leaves])

/-- Every leaf of a compiled plan has scalar operands: a comparison's operand is no value, null,
a boolean, a number or a string, and a pattern is the empty text of a positive leaf with no
operand or the display text of such an operand. So no comparison meets two arrays or objects,
and whether two operands are one stored value never decides a loose equality. -/
theorem compiled_operands_scalar (config : Config) (e : Expr) (plan : QueryPlan)
    (compiled : compile config (Statement.selectAll.withFilter e) = .ok plan) :
    ∀ l ∈ Predicate.leavesOf plan.filters, l.test.ScalarOperands ∧
      ∀ op operand, l.test = .compare op operand →
        Loose.isCompositeOperand operand = false ∧
          ∀ shared actual, Loose.looseEqShared shared actual operand = Loose.looseEq actual operand := by
  obtain ⟨p, tree, rootFilters⟩ := compileTree_of_compile compiled
  have built := ((compileTree_flat config).1 e false p tree).2
  rw [← Predicate.leavesOf_rootFilters, rootFilters] at built
  -- Each leaf of the plan is one the leaf builder returned.
  have paired : List.Forall₂ (fun l call => l.test.ScalarOperands ∧ BuildsLeaf config call l)
      (Predicate.leavesOf plan.filters) (leafCalls e false) :=
    List.Forall₂.flip (built.imp fun _ _ builds => ⟨builds.scalarOperands, builds⟩)
  intro l member
  have scalar := ((List.forall₂_and_left _ _).mp paired).1 l member
  refine ⟨scalar, ?_⟩
  intro op operand isCompare
  rw [isCompare] at scalar
  have notComposite := ScalarOperand.isCompositeOperand_eq_false scalar
  exact ⟨notComposite, fun shared actual => Loose.looseEqShared_of_not_composite notComposite shared actual⟩

/-- Under a parameter table that also holds an array, `founded_year eq @year AND NOT (name eq
Digg)` compiles to a comparison with the parameter's number and a negated comparison with the
string the text reads as. -/
theorem compiled_operands_scalar_under_parameter_table :
    compile ⟨some [("tags", .arr [.int 1, .int 2]), ("year", .int 2006)], FieldMap.empty⟩
        (Statement.selectAll.withFilter (.conj
          (.pred .comparison ⟨"founded_year", "eq", some (.str "@year"), false⟩)
          (.pred .comparison ⟨"name", "eq", some (.str "Digg"), true⟩) false)) =
      .ok ⟨[.leaf ⟨"founded_year", .compare .eq (some (.int 2006))⟩,
          .not (.leaf ⟨"name", .compare .eq (some (.str "Digg"))⟩)],
        [SelectField.wildcard], [], FieldMap.empty⟩ ∧
    ∀ l ∈ Predicate.leavesOf [.leaf ⟨"founded_year", .compare .eq (some (.int 2006))⟩,
        .not (.leaf ⟨"name", .compare .eq (some (.str "Digg"))⟩)],
      l.test.ScalarOperands ∧
        ∀ op operand, l.test = .compare op operand →
          Loose.isCompositeOperand operand = false ∧
            ∀ shared actual, Loose.looseEqShared shared actual operand = Loose.looseEq actual operand := by
  -- The operand text is read as a JSON string literal, whose reader recurses on the text.
  have compiled :
      compile ⟨some [("tags", .arr [.int 1, .int 2]), ("year", .int 2006)], FieldMap.empty⟩
          (Statement.selectAll.withFilter (.conj
            (.pred .comparison ⟨"founded_year", "eq", some (.str "@year"), false⟩)
            (.pred .comparison ⟨"name", "eq", some (.str "Digg"), true⟩) false)) =
        .ok ⟨[.leaf ⟨"founded_year", .compare .eq (some (.int 2006))⟩,
            .not (.leaf ⟨"name", .compare .eq (some (.str "Digg"))⟩)],
          [SelectField.wildcard], [], FieldMap.empty⟩ := by
    with_unfolding_all rfl
  exact ⟨compiled, compiled_operands_scalar _ _ _ compiled⟩

end Plan

end RecordQuery
