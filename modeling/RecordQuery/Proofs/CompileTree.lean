import RecordQuery.Plan.Compile

/-!
Contract: the WHERE compiler as plain recursion, and its agreement with the stack-based one.

Owns:
- `Plan.compileTree`: a conjunction is the chain of its children's conjunction members, both
  children under the negation it pushes; a disjunction is the chain of its operands' disjunction
  members, inverted by its own flag; a leaf is the built leaf. `conjMembers` and `disjMembers`
  say what joins a chain: a conjunction joins a conjunction chain whatever its flag, a
  disjunction joins a disjunction chain only when it is not negated, anything else joins as
  itself. Every list is built left to right in the error monad;
- `traversal_eq_recursion`: `visit` computes exactly `compileTree`, result or error. The loops
  keep a stack of pending children whose top is the leftmost one; the invariant is that a chain
  ends as its finished members followed by the members of each pending child, top first;
- `leafCalls` and `firstLeafError`: the leaves of an expression from left to right, each with
  the negation it is built under, and the error of the first of them whose build fails;
- `Predicate.rootFilters`: a statement's top-level filters are the members of a root conjunction
  chain, or the compiled predicate alone.
-/

set_option autoImplicit false

namespace RecordQuery

namespace Plan

open Query

/-! ### The recursive compiler -/

mutual

/-- The compiled form of an expression under a pushed negation, by plain recursion. -/
def compileTree (config : Config) : Expr → Bool → Except CompileError Predicate
  | .conj l r k, n => do
    let left ← conjMembers config l (k != n)
    let right ← conjMembers config r (k != n)
    pure (.all (left ++ right))
  | .disj l r k, n => do
    let left ← disjMembers config l
    let right ← disjMembers config r
    pure (.any (left ++ right) (k != n))
  | .pred kind node, n => buildLeaf config kind node (node.negated != n)
termination_by e => 2 * e.size
decreasing_by all_goals simp only [Expr.size]; omega

/-- The members an expression adds to a conjunction chain under a pushed negation. -/
def conjMembers (config : Config) : Expr → Bool → Except CompileError (List Predicate)
  | .conj l r k, m => do
    let left ← conjMembers config l (k != m)
    let right ← conjMembers config r (k != m)
    pure (left ++ right)
  | e, m => do pure [← compileTree config e m]
termination_by e => 2 * e.size + 1
decreasing_by all_goals simp only [Expr.size, Nat.lt_add_one] <;> omega

/-- The members an expression adds to a disjunction chain; operands inherit no negation. -/
def disjMembers (config : Config) : Expr → Except CompileError (List Predicate)
  | .disj l r false => do
    let left ← disjMembers config l
    let right ← disjMembers config r
    pure (left ++ right)
  | e => do pure [← compileTree config e false]
termination_by e => 2 * e.size + 1
decreasing_by all_goals simp only [Expr.size, Nat.lt_add_one] <;> omega

end

/-! ### The stack invariant -/

private theorem ok_eq_pure {ε α : Type} (a : α) : (Except.ok a : Except ε α) = pure a := rfl

/-- The traversal and the recursion agree. For the loops: a chain whose stack holds `pending`
(top first) and whose finished members are `done` (latest first) ends as `done` in order followed
by the members of every pending entry. -/
theorem traversal_eq_recursion (config : Config) :
    (∀ e n, visit config e n = compileTree config e n) ∧
    (∀ pending done, disjChain config pending done =
      (fun members => done.reverse ++ members.flatten) <$> pending.mapM (disjMembers config)) ∧
    (∀ pending done, conjChain config pending done =
      (fun members => Predicate.all (done.reverse ++ members.flatten)) <$>
        pending.mapM (fun entry => conjMembers config entry.1 entry.2)) := by
  refine visit.mutual_induct (fun e n => visit config e n = compileTree config e n)
    (fun pending done => disjChain config pending done =
      (fun members => done.reverse ++ members.flatten) <$> pending.mapM (disjMembers config))
    (fun pending done => conjChain config pending done =
      (fun members => Predicate.all (done.reverse ++ members.flatten)) <$>
        pending.mapM (fun entry => conjMembers config entry.1 entry.2))
    ?conj ?disj ?pred ?disjEmpty ?disjFlatten ?disjMember ?conjEmpty ?conjFlatten ?conjMember
  case conj =>
    intro l r k n chain
    rw [visit.eq_1, chain, compileTree.eq_1]
    simp [List.mapM_cons]
  case disj =>
    intro l r k n chain
    rw [visit.eq_2, chain, compileTree.eq_2]
    simp [List.mapM_cons]
  case pred =>
    intro kind node n
    rw [visit.eq_3, compileTree.eq_3]
  case disjEmpty =>
    intro done
    rw [disjChain.eq_1]
    simp [ok_eq_pure]
  -- A plain inner disjunction is replaced on the stack by its two operands: the same members.
  case disjFlatten =>
    intro l r rest done chain
    rw [disjChain.eq_2, chain]
    simp [List.mapM_cons, disjMembers.eq_1]
  case disjMember =>
    intro e rest done notPlainDisj member chain
    rw [disjChain.eq_3 _ _ _ _ notPlainDisj, member]
    simp [List.mapM_cons, chain, disjMembers.eq_2 _ _ notPlainDisj]
  case conjEmpty =>
    intro done
    rw [conjChain.eq_1]
    simp [ok_eq_pure]
  -- An inner conjunction is replaced by its two children under its recomputed negation.
  case conjFlatten =>
    intro l r k m rest done chain
    rw [conjChain.eq_2, chain]
    simp [List.mapM_cons, conjMembers.eq_1]
  case conjMember =>
    intro e m rest done notConj member chain
    rw [conjChain.eq_3 _ _ _ _ _ notConj, member]
    simp [List.mapM_cons, chain, conjMembers.eq_2 _ _ _ notConj]

/-- The stack-based compiler is the recursive one. -/
theorem visit_eq_compileTree (config : Config) (e : Expr) (n : Bool) :
    visit config e n = compileTree config e n :=
  (traversal_eq_recursion config).1 e n

/-! ### Top-level filters -/

/-- The top-level filters a compiled WHERE expression splits into: the members of a conjunction
chain, or the predicate alone. -/
def Predicate.rootFilters : Predicate → List Predicate
  | .all members => members
  | p => [p]

theorem compileFilter_eq_rootFilters (config : Config) (e : Expr) :
    compileFilter config e = Predicate.rootFilters <$> visit config e false := by
  unfold compileFilter
  cases visit config e false with
  | error err => rfl
  | ok p => cases p <;> rfl

/-- A statement's filters are those of its WHERE expression, whatever else it holds. -/
theorem filters_compile_withFilter (config : Config) (s : Statement) (e : Expr) :
    QueryPlan.filters <$> compile config (s.withFilter e) = compileFilter config e := by
  simp only [compile, Statement.withFilter]
  cases compileFilter config e <;> rfl

/-- A compiled statement's filters are the top-level filters of what the recursive compiler
returns for its WHERE expression. -/
theorem compileTree_of_compile {config : Config} {s : Statement} {e : Expr} {plan : QueryPlan}
    (compiled : compile config (s.withFilter e) = .ok plan) :
    ∃ p, compileTree config e false = .ok p ∧ p.rootFilters = plan.filters := by
  have filters : Predicate.rootFilters <$> compileTree config e false = .ok plan.filters := by
    rw [← visit_eq_compileTree, ← compileFilter_eq_rootFilters,
      ← filters_compile_withFilter config s e, compiled]
    rfl
  cases tree : compileTree config e false with
  | error err =>
    rw [tree] at filters
    cases filters
  | ok p =>
    rw [tree] at filters
    exact ⟨p, rfl, Except.ok.inj filters⟩

/-! ### The first failing leaf -/

/-- The leaves of an expression from left to right, each with the negation it is built under:
conjunctions push theirs, disjunction operands are built with none. -/
def leafCalls : Expr → Bool → List (PredicateKind × PredicateNode × Bool)
  | .conj l r k, n => leafCalls l (k != n) ++ leafCalls r (k != n)
  | .disj l r _, _ => leafCalls l false ++ leafCalls r false
  | .pred kind node, n => [(kind, node, node.negated != n)]

/-- The error of the first leaf whose build fails. -/
def firstLeafError (config : Config) :
    List (PredicateKind × PredicateNode × Bool) → Option CompileError
  | [] => none
  | (kind, node, negated) :: rest =>
    match buildLeaf config kind node negated with
    | .error err => some err
    | .ok _ => firstLeafError config rest

/-- The error a computation fails with, none when it succeeds. -/
def failure? {ε α : Type} : Except ε α → Option ε
  | .ok _ => none
  | .error err => some err

theorem failure?_eq_some {ε α : Type} (x : Except ε α) (err : ε) :
    failure? x = some err ↔ x = .error err := by
  cases x <;> simp [failure?]

/-- Two computations in sequence fail with the first one's error, else the second one's. -/
theorem failure?_bind_bind {ε α β γ : Type} (x : Except ε α) (y : Except ε β) (g : α → β → γ) :
    failure? (do let left ← x; let right ← y; pure (g left right)) =
      (failure? x).or (failure? y) := by
  cases x <;> cases y <;> rfl

theorem firstLeafError_append (config : Config)
    (calls others : List (PredicateKind × PredicateNode × Bool)) :
    firstLeafError config (calls ++ others) =
      (firstLeafError config calls).or (firstLeafError config others) := by
  induction calls with
  | nil => simp [firstLeafError]
  | cons call calls inductionHypothesis =>
    obtain ⟨kind, node, negated⟩ := call
    cases built : buildLeaf config kind node negated <;>
      simp [firstLeafError, built, inductionHypothesis]

/-- The recursive compiler fails exactly with the error of its first failing leaf. -/
theorem failure?_compileTree (config : Config) :
    (∀ e n, failure? (compileTree config e n) = firstLeafError config (leafCalls e n)) ∧
    (∀ e, failure? (disjMembers config e) = firstLeafError config (leafCalls e false)) ∧
    (∀ e m, failure? (conjMembers config e m) = firstLeafError config (leafCalls e m)) := by
  refine compileTree.mutual_induct
    (fun e n => failure? (compileTree config e n) = firstLeafError config (leafCalls e n))
    (fun e => failure? (disjMembers config e) = firstLeafError config (leafCalls e false))
    (fun e m => failure? (conjMembers config e m) = firstLeafError config (leafCalls e m))
    ?conj ?disj ?pred ?disjFlatten ?disjMember ?conjFlatten ?conjMember
  case conj =>
    intro l r k n left right
    rw [compileTree.eq_1, failure?_bind_bind, left, right, leafCalls, firstLeafError_append]
  case disj =>
    intro l r k n left right
    rw [compileTree.eq_2, failure?_bind_bind, left, right, leafCalls, firstLeafError_append]
  case pred =>
    intro kind node n
    rw [compileTree.eq_3, leafCalls]
    cases built : buildLeaf config kind node (node.negated != n) <;>
      simp [failure?, firstLeafError, built]
  case disjFlatten =>
    intro l r left right
    rw [disjMembers.eq_1, failure?_bind_bind, left, right, leafCalls, firstLeafError_append]
  case disjMember =>
    intro e notPlainDisj member
    rw [disjMembers.eq_2 _ _ notPlainDisj, ← member]
    cases compileTree config e false <;> rfl
  case conjFlatten =>
    intro l r k m left right
    rw [conjMembers.eq_1, failure?_bind_bind, left, right, leafCalls, firstLeafError_append]
  case conjMember =>
    intro e m notConj member
    rw [conjMembers.eq_2 _ _ _ notConj, ← member]
    cases compileTree config e m <;> rfl

/-- The stack-based traversal is the plain recursive compiler, result and error alike; its error
is that of the first leaf from the left whose build fails; and a statement's top-level filters
are the recursive compiler's root conjunction members, or its one predicate. -/
theorem visit_eq_recursive_compiler (config : Config) (e : Expr) (n : Bool) :
    visit config e n = compileTree config e n ∧
      (∀ err, visit config e n = .error err ↔
        firstLeafError config (leafCalls e n) = some err) ∧
      QueryPlan.filters <$> compile config (Statement.selectAll.withFilter e) =
        Predicate.rootFilters <$> compileTree config e false := by
  have sameResult := visit_eq_compileTree config e n
  refine ⟨sameResult, ?_, ?_⟩
  · intro err
    rw [sameResult, ← failure?_eq_some, (failure?_compileTree config).1 e n]
  · rw [filters_compile_withFilter, compileFilter_eq_rootFilters, visit_eq_compileTree]

end Plan

end RecordQuery
