import RecordQuery.Proofs.CompileTree
import RecordQuery.Exec.Filter

/-!
Contract: what a compiled WHERE expression means for a record.

Owns:
- `Plan.satisfies`, the meaning of an expression under a pushed negation: a conjunction pushes
  its own flag xor-ed with the pushed one into both children (so `NOT (a AND b)` is
  `NOT a AND NOT b` and two negations cancel); a disjunction is the disjunction of its operands,
  which inherit no negation, inverted by its own flag xor-ed with the pushed one; a leaf means
  the leaf built under its own flag xor-ed with the pushed one;
- `evaluate_compileTree`: a predicate the recursive compiler returns holds exactly when the
  expression is satisfied, and so do the members it puts into a chain;
- `passes_compiled_filters_eq_satisfies`: a record passes the top-level filters of a compiled
  statement exactly when it satisfies the WHERE expression. Flattening chains and splitting the
  root chain into separate filters change nothing.

A leaf whose build fails has no meaning; the statement is about compilations that succeed, and a
success builds every leaf.
-/

set_option autoImplicit false

namespace RecordQuery

namespace Exec

/-- A conjunction chain holds when each member does. -/
theorem evaluateAll_eq_all (record : Json) (members : List Plan.Predicate) :
    evaluateAll record members = members.all (evaluate record) := by
  induction members with
  | nil => rfl
  | cons member members inductionHypothesis =>
    simp [evaluateAll, inductionHypothesis]

/-- A disjunction chain holds when some member does. -/
theorem evaluateAny_eq_any (record : Json) (members : List Plan.Predicate) :
    evaluateAny record members = members.any (evaluate record) := by
  induction members with
  | nil => rfl
  | cons member members inductionHypothesis =>
    simp [evaluateAny, inductionHypothesis]

end Exec

namespace Plan

open Query

/-- Whether a record satisfies an expression under a pushed negation. -/
def satisfies (config : Config) (record : Json) : Expr → Bool → Bool
  | .conj l r k, n => satisfies config record l (k != n) && satisfies config record r (k != n)
  | .disj l r k, n =>
    (satisfies config record l false || satisfies config record r false) != (k != n)
  | .pred kind node, n =>
    match buildLeaf config kind node (node.negated != n) with
    | .ok p => Exec.evaluate record p
    | .error _ => false

/-- Splitting the root chain into top-level filters keeps the predicate's meaning. -/
theorem passes_rootFilters (record : Json) (p : Predicate) :
    Exec.passes record p.rootFilters = Exec.evaluate record p := by
  cases p <;> simp [Predicate.rootFilters, Exec.passes, Exec.evaluateAll, Exec.evaluate]

/-- Two computations in sequence succeed only when both do. -/
theorem ok_of_bind_bind {ε α β γ : Type} {x : Except ε α} {y : Except ε β} {g : α → β → γ}
    {result : γ} (succeeded : (do let left ← x; let right ← y; pure (g left right)) = .ok result) :
    ∃ left right, x = .ok left ∧ y = .ok right ∧ result = g left right := by
  cases x <;> cases y <;> cases succeeded
  exact ⟨_, _, rfl, rfl, rfl⟩

/-- A chain member that joins as itself comes from one successful compilation. -/
theorem ok_of_bind_singleton {ε α : Type} {x : Except ε α} {members : List α}
    (succeeded : (do pure [← x]) = .ok members) : ∃ p, x = .ok p ∧ members = [p] := by
  cases x <;> cases succeeded
  exact ⟨_, rfl, rfl⟩

/-- Whatever the recursive compiler returns holds exactly when the expression is satisfied; the
members it adds to a disjunction chain hold for some member exactly then, and those it adds to a
conjunction chain for every member. -/
theorem evaluate_compileTree (config : Config) (record : Json) :
    (∀ e n p, compileTree config e n = .ok p →
      Exec.evaluate record p = satisfies config record e n) ∧
    (∀ e members, disjMembers config e = .ok members →
      members.any (Exec.evaluate record) = satisfies config record e false) ∧
    (∀ e m members, conjMembers config e m = .ok members →
      members.all (Exec.evaluate record) = satisfies config record e m) := by
  refine compileTree.mutual_induct
    (fun e n => ∀ p, compileTree config e n = .ok p →
      Exec.evaluate record p = satisfies config record e n)
    (fun e => ∀ members, disjMembers config e = .ok members →
      members.any (Exec.evaluate record) = satisfies config record e false)
    (fun e m => ∀ members, conjMembers config e m = .ok members →
      members.all (Exec.evaluate record) = satisfies config record e m)
    ?conj ?disj ?pred ?disjFlatten ?disjMember ?conjFlatten ?conjMember
  case conj =>
    intro l r k n left right p compiled
    rw [compileTree.eq_1] at compiled
    obtain ⟨leftMembers, rightMembers, leftOk, rightOk, rfl⟩ := ok_of_bind_bind compiled
    simp [Exec.evaluate, Exec.evaluateAll_eq_all, satisfies, left leftMembers leftOk,
      right rightMembers rightOk]
  case disj =>
    intro l r k n left right p compiled
    rw [compileTree.eq_2] at compiled
    obtain ⟨leftMembers, rightMembers, leftOk, rightOk, rfl⟩ := ok_of_bind_bind compiled
    simp [Exec.evaluate, Exec.evaluateAny_eq_any, satisfies, left leftMembers leftOk,
      right rightMembers rightOk]
  case pred =>
    intro kind node n p compiled
    rw [compileTree.eq_3] at compiled
    simp [satisfies, compiled]
  case disjFlatten =>
    intro l r left right members compiled
    rw [disjMembers.eq_1] at compiled
    obtain ⟨leftMembers, rightMembers, leftOk, rightOk, rfl⟩ := ok_of_bind_bind compiled
    simp [satisfies, left leftMembers leftOk, right rightMembers rightOk]
  case disjMember =>
    intro e notPlainDisj member members compiled
    rw [disjMembers.eq_2 _ _ notPlainDisj] at compiled
    obtain ⟨p, tree, rfl⟩ := ok_of_bind_singleton compiled
    simp [member p tree]
  case conjFlatten =>
    intro l r k m left right members compiled
    rw [conjMembers.eq_1] at compiled
    obtain ⟨leftMembers, rightMembers, leftOk, rightOk, rfl⟩ := ok_of_bind_bind compiled
    simp [satisfies, left leftMembers leftOk, right rightMembers rightOk]
  case conjMember =>
    intro e m notConj member members compiled
    rw [conjMembers.eq_2 _ _ _ notConj] at compiled
    obtain ⟨p, tree, rfl⟩ := ok_of_bind_singleton compiled
    simp [member p tree]

/-- A record passes the filters of a compiled statement exactly when it satisfies the statement's
WHERE expression. -/
theorem passes_compiled_filters_eq_satisfies (config : Config) (e : Expr) (record : Json)
    (plan : QueryPlan) (compiled : compile config (Statement.selectAll.withFilter e) = .ok plan) :
    Exec.passes record plan.filters = satisfies config record e false := by
  have filters : Predicate.rootFilters <$> compileTree config e false = .ok plan.filters := by
    rw [← visit_eq_compileTree, ← compileFilter_eq_rootFilters,
      ← filters_compile_withFilter config Statement.selectAll e, compiled]
    rfl
  cases tree : compileTree config e false with
  | error err =>
    rw [tree] at filters
    cases filters
  | ok p =>
    rw [tree] at filters
    have rootFilters : p.rootFilters = plan.filters := Except.ok.inj filters
    rw [← rootFilters, passes_rootFilters]
    exact (evaluate_compileTree config record).1 e false p tree

/-- `NOT (NOT (a missing AND b missing) AND NOT (c missing OR d missing))`: the inner negations
cancel the outer one, and the record holding `a` fails. -/
theorem passes_compiled_filters_of_cancelled_negations :
    compile Config.default (Statement.selectAll.withFilter
        (.conj (.conj (Expr.missing "a") (Expr.missing "b") true)
          (.disj (Expr.missing "c") (Expr.missing "d") true) true)) =
      .ok ⟨[.leaf ⟨"a", .missing⟩, .leaf ⟨"b", .missing⟩,
          .any [.leaf ⟨"c", .missing⟩, .leaf ⟨"d", .missing⟩] false],
        [SelectField.wildcard], [], FieldMap.empty⟩ ∧
      Exec.passes (.obj [("a", .null)]) [.leaf ⟨"a", .missing⟩, .leaf ⟨"b", .missing⟩,
          .any [.leaf ⟨"c", .missing⟩, .leaf ⟨"d", .missing⟩] false] =
        satisfies Config.default (.obj [("a", .null)])
          (.conj (.conj (Expr.missing "a") (Expr.missing "b") true)
            (.disj (Expr.missing "c") (Expr.missing "d") true) true) false := by
  have compiled : compile Config.default (Statement.selectAll.withFilter
        (.conj (.conj (Expr.missing "a") (Expr.missing "b") true)
          (.disj (Expr.missing "c") (Expr.missing "d") true) true)) =
      .ok ⟨[.leaf ⟨"a", .missing⟩, .leaf ⟨"b", .missing⟩,
          .any [.leaf ⟨"c", .missing⟩, .leaf ⟨"d", .missing⟩] false],
        [SelectField.wildcard], [], FieldMap.empty⟩ := by
    simp [compile, compileFilter, Statement.withFilter, Statement.selectAll, Statement.select,
      Statement.sorts, visit, conjChain, disjChain, buildLeaf, nodeOperator, invert, Expr.missing, Bind.bind,
      Except.bind, pure, Except.pure, Config.default, FieldMap.predicateKey, FieldMap.empty,
      KeyTable.lookup?]
  exact ⟨compiled, passes_compiled_filters_eq_satisfies _ _ _ _ compiled⟩

end Plan

end RecordQuery
