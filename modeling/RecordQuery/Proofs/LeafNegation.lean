import RecordQuery.Plan.Leaf
import RecordQuery.Exec.Filter
import RecordQuery.Proofs.PathWalk

/-!
Contract: what building a leaf under a negation does, and when the negated leaf is the positive
one's complement.

Owns:
- one equation for each way `buildLeaf` can go: the operator is refused; an absent-field test;
  a pattern test (contains or like), whose operand is coerced and compiled; a comparison, whose
  operand is coerced. Later proofs cite these and never unfold `buildLeaf`;
- `Regex.matchesEmptyAtEnd`: whether a match of a pattern starts at the very end of a text;
- `excludes_eq_not_isMatch`: on one line, and unless the pattern matches the empty text at its
  end, an excludes test fails exactly where the pattern matches;
- `negated_leaf_complements_positive`: a leaf built negated accepts a record exactly when the
  leaf built positive rejects it, both failing alike when either fails. A comparison or an
  absent-field test is negated by an inversion, so this needs nothing; a pattern test is negated
  by an excludes test on the raw top-level key, so it needs a field without a dot, an operand
  (no operand is the empty pattern, but `undefined` once negated), a value on one line and no
  empty match at its end.
-/

set_option autoImplicit false

namespace RecordQuery

namespace Pattern.Regex

/-- Whether a match of the pattern starts at the end of the text, so it is empty. -/
def matchesEmptyAtEnd (r : Regex) (text : String) : Bool :=
  r.program.matchesAt text.toList.toArray text.length

/-- The leftmost match starts at a position where the pattern matches, within the text. -/
theorem matchesAt_of_leftmostStart? {r : Regex} {text : String} {start : Nat}
    (found : r.leftmostStart? text = some start) :
    r.program.matchesAt text.toList.toArray start = true ∧ start ≤ text.length := by
  unfold leftmostStart? at found
  have inRange := List.mem_range.mp (List.mem_of_find?_eq_some found)
  refine ⟨List.find?_some found, ?_⟩
  simp only [List.size_toArray, String.length_toList] at inRange
  omega

end Pattern.Regex

namespace Exec

/-- A text is on one line when none of its characters ends a line. -/
theorem any_lineTerminator_eq_false_iff (text : String) :
    text.toList.any lineTerminators.contains = false ↔ ∀ c ∈ lineTerminators, c ∉ text.toList := by
  simp only [List.any_eq_false, List.contains_iff_mem]
  exact ⟨fun noneEnds c terminator inText => noneEnds c inText terminator,
    fun noneEnds c inText terminator => noneEnds c terminator inText⟩

/-- On one line, and unless the pattern matches the empty text at the end, an excludes test holds
exactly where the pattern finds no match. -/
theorem excludes_eq_not_isMatch (r : Pattern.Regex) (value : Option Json)
    (oneLine : ∀ c ∈ lineTerminators, c ∉ (Loose.display value).toList)
    (noEmptyMatchAtEnd : r.matchesEmptyAtEnd (Loose.display value) = false) :
    excludes r value = !r.isMatch (Loose.display value) := by
  unfold excludes Pattern.Regex.isMatch
  simp only [(any_lineTerminator_eq_false_iff _).mpr oneLine, Bool.false_eq_true, if_false]
  cases found : r.leftmostStart? (Loose.display value) with
  | none => rfl
  | some start =>
    obtain ⟨matchesThere, _⟩ := Pattern.Regex.matchesAt_of_leftmostStart? found
    -- A leftmost start at the end would be an empty match there.
    have beforeEnd : start ≠ (Loose.display value).length := by
      rintro rfl
      simp [Pattern.Regex.matchesEmptyAtEnd, matchesThere] at noEmptyMatchAtEnd
    simp [beforeEnd]

/-- A negation inverts a predicate. -/
theorem evaluate_invert (record : Json) (p : Plan.Predicate) (negated : Bool) :
    evaluate record (Plan.invert p negated) = (evaluate record p != negated) := by
  cases negated <;> simp [Plan.invert, evaluate]

end Exec

namespace Plan

open Query

/-! ### The ways a leaf is built -/

/-- Every operator is an absent-field test, a pattern test or a comparison. -/
theorem operator_cases (operator : Operator) :
    operator = .missing ∨ (operator = .contains ∨ operator = .like) ∨
      ∃ op, compareOp? operator = some op := by
  cases operator <;> simp [compareOp?]

section

variable (config : Config) (kind : PredicateKind) (node : PredicateNode) (negated : Bool)

theorem buildLeaf_of_operator_error {err : CompileError}
    (refused : nodeOperator kind node = .error err) :
    buildLeaf config kind node negated = .error err := by
  simp [buildLeaf, refused, bind, Except.bind]

theorem buildLeaf_of_missing (asked : nodeOperator kind node = .ok .missing) :
    buildLeaf config kind node negated =
      .ok (invert (.leaf ⟨config.fieldMap.predicateKey node.field, .missing⟩) negated) := by
  simp [buildLeaf, asked, bind, Except.bind, pure, Except.pure]

theorem buildLeaf_of_pattern {operator : Operator} (asked : nodeOperator kind node = .ok operator)
    (pattern : operator = .contains ∨ operator = .like) :
    buildLeaf config kind node negated = (do
      let v ← coerce config.params node.field node.value (kind == .like)
      let r ← compilePattern node.field v negated
      pure (.leaf ⟨config.fieldMap.predicateKey node.field,
        if negated then .excludes r else .matches r⟩)) := by
  rcases pattern with rfl | rfl <;> simp [buildLeaf, asked, bind, Except.bind]

theorem buildLeaf_of_compare {operator : Operator} {op : CompareOp}
    (asked : nodeOperator kind node = .ok operator) (compares : compareOp? operator = some op) :
    buildLeaf config kind node negated =
      (fun v => invert (.leaf ⟨config.fieldMap.predicateKey node.field, .compare op v⟩) negated) <$>
        coerce config.params node.field node.value (kind == .like) := by
  unfold buildLeaf
  rw [asked]
  cases operator <;> cases compares <;>
    cases coerce config.params node.field node.value (kind == .like) <;> rfl

end

/-- With an operand, the pattern does not depend on the negation. -/
theorem compilePattern_of_operand (field : String) (operand : Json) (negated : Bool) :
    compilePattern field (some operand) negated =
      compilePattern field (some operand) false := by
  simp [compilePattern, patternSource]

/-! ### The complement law -/

/-- A negated leaf accepts a record exactly when the positive leaf rejects it, and fails to build
exactly when the positive one does, with the same error. -/
theorem negated_leaf_complements_positive (config : Config) (kind : PredicateKind)
    (node : PredicateNode) (operand : Json) (record : Json)
    (plain : '.' ∉ (config.fieldMap.predicateKey node.field).toList)
    (present : coerce config.params node.field node.value (kind == .like) = .ok (some operand))
    (oneLine : ∀ c ∈ Exec.lineTerminators, c ∉
      (Loose.display (Exec.ownProperty? record (config.fieldMap.predicateKey node.field))).toList)
    (noEmptyMatchAtEnd : ∀ r, Pattern.Regex.compile (Loose.display (some operand)) = .ok r →
      r.matchesEmptyAtEnd
        (Loose.display (Exec.ownProperty? record (config.fieldMap.predicateKey node.field))) =
        false) :
    Exec.evaluate record <$> buildLeaf config kind node true =
      (fun p => !Exec.evaluate record p) <$> buildLeaf config kind node false := by
  cases asked : nodeOperator kind node with
  | error err =>
    rw [buildLeaf_of_operator_error config kind node true asked,
      buildLeaf_of_operator_error config kind node false asked]
    rfl
  | ok operator =>
    rcases operator_cases operator with rfl | pattern | ⟨op, compares⟩
    · -- An absent-field test is negated by an inversion.
      rw [buildLeaf_of_missing config kind node true asked,
        buildLeaf_of_missing config kind node false asked]
      simp [Functor.map, Except.map, Exec.evaluate_invert]
    · -- A pattern test is negated by an excludes test of the same pattern on the own property.
      rw [buildLeaf_of_pattern config kind node true asked pattern,
        buildLeaf_of_pattern config kind node false asked pattern, present]
      simp only [bind, Except.bind]
      rw [compilePattern_of_operand _ _ true]
      cases compiled : compilePattern node.field (some operand) false with
      | error err => rfl
      | ok r =>
        have source : Pattern.Regex.compile (Loose.display (some operand)) = .ok r := by
          unfold compilePattern patternSource at compiled
          split at compiled <;> cases compiled
          assumption
        have excludes := Exec.excludes_eq_not_isMatch r _ oneLine (noEmptyMatchAtEnd r source)
        simp [Functor.map, Except.map, pure, Except.pure, Exec.evaluate, Exec.leafHolds,
          Exec.resolve?_of_plain record plain, excludes]
    · -- A comparison is negated by an inversion.
      rw [buildLeaf_of_compare config kind node true asked compares,
        buildLeaf_of_compare config kind node false asked compares]
      cases coerce config.params node.field node.value (kind == .like) <;>
        simp [Functor.map, Except.map, Exec.evaluate_invert]

/-- The anchor `^` on the one-line value `b`: the positive leaf matches at the start, so the
negated leaf rejects. -/
theorem negated_anchor_leaf_complements_positive :
    '.' ∉ (Config.default.fieldMap.predicateKey "name").toList ∧
      coerce none "name" (some (.str "^")) false = .ok (some (.str "^")) ∧
      (∀ c ∈ Exec.lineTerminators, c ∉ (Loose.display (Exec.ownProperty?
        (.obj [("name", .str "b")]) (Config.default.fieldMap.predicateKey "name"))).toList) ∧
      (∀ r, Pattern.Regex.compile (Loose.display (some (.str "^"))) = .ok r →
        r.matchesEmptyAtEnd (Loose.display (Exec.ownProperty? (.obj [("name", .str "b")])
          (Config.default.fieldMap.predicateKey "name"))) = false) ∧
      Exec.evaluate (.obj [("name", .str "b")]) <$>
          buildLeaf Config.default .contains ⟨"name", "contains", some (.str "^"), false⟩ true =
        (fun p => !Exec.evaluate (.obj [("name", .str "b")]) p) <$>
          buildLeaf Config.default .contains ⟨"name", "contains", some (.str "^"), false⟩ false := by
  have plain : '.' ∉ (Config.default.fieldMap.predicateKey "name").toList := by decide
  -- The operand text is read as a JSON string literal, whose reader recurses on the text.
  have present : coerce none "name" (some (.str "^")) false = .ok (some (.str "^")) := by
    with_unfolding_all rfl
  have shown : Loose.display (Exec.ownProperty? (.obj [("name", .str "b")])
      (Config.default.fieldMap.predicateKey "name")) = "b" := by
    decide
  have oneLine : ∀ c ∈ Exec.lineTerminators, c ∉ (Loose.display (Exec.ownProperty?
      (.obj [("name", .str "b")]) (Config.default.fieldMap.predicateKey "name"))).toList := by
    rw [shown]
    apply (Exec.any_lineTerminator_eq_false_iff _).mp
    decide
  have noEmptyMatchAtEnd : ∀ r, Pattern.Regex.compile (Loose.display (some (.str "^"))) = .ok r →
      r.matchesEmptyAtEnd (Loose.display (Exec.ownProperty? (.obj [("name", .str "b")])
        (Config.default.fieldMap.predicateKey "name"))) = false := by
    intro r compiled
    have atEnd :
        (Pattern.Regex.compile "^").toOption.map (·.matchesEmptyAtEnd "b") = some false := by
      decide
    rw [show Loose.display (some (.str "^")) = "^" from rfl] at compiled
    rw [compiled] at atEnd
    rw [shown]
    simpa [Except.toOption] using atEnd
  exact ⟨plain, present, oneLine, noEmptyMatchAtEnd,
    negated_leaf_complements_positive Config.default .contains
      ⟨"name", "contains", some (.str "^"), false⟩ (.str "^") (.obj [("name", .str "b")])
      plain present oneLine noEmptyMatchAtEnd⟩

end Plan

end RecordQuery
