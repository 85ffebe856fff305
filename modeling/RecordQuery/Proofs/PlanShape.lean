import RecordQuery.Proofs.CompileMeaning
import RecordQuery.Proofs.LeafNegation
import Mathlib.Data.List.Forall2

/-!
Contract: the shape of a compiled plan.

Owns:
- `FieldTest.invertible`: the tests a negation may wrap, comparisons and absent-field tests;
- `Predicate.Flat`, the flattened normal form: a negation wraps one leaf with an invertible test,
  a conjunction has at least two members and none of them is a conjunction, a disjunction has at
  least two members and none of them is a disjunction that is not inverted;
- `Predicate.leaves`, the leaf tests of a predicate from left to right, and
  `Query.Expr.predicates`, the predicate nodes of an expression from left to right;
- `BuildsLeaf`: a leaf test is the one the leaf builder returns for a predicate node under its
  negation;
- `compiled_plan_flat_normal_form`: no top-level filter of a compiled statement is a conjunction
  and each is flat; the filters' leaves are the leaves built from the expression's predicate
  nodes, one each and in order; so the plan's leaf count is the number of predicate nodes.

It holds because a leaf is built as a leaf, a negated comparison or a negated absent-field test
(`buildLeaf_leafForm`); a conjunction chain takes as members only what compiles from expressions
that are not conjunctions, a disjunction chain only what compiles from expressions that are not
plain disjunctions; and each child of a binary node adds at least one member (`ChainMembers`).
-/

set_option autoImplicit false

namespace RecordQuery

namespace Query.Expr

/-- The predicate nodes of an expression from left to right. -/
def predicates : Expr → List (PredicateKind × PredicateNode)
  | .conj l r _ => l.predicates ++ r.predicates
  | .disj l r _ => l.predicates ++ r.predicates
  | .pred kind node => [(kind, node)]

end Query.Expr

namespace Plan

open Query

/-- Whether a negation may wrap the test: a comparison or an absent-field test, never a pattern. -/
def FieldTest.invertible : FieldTest → Bool
  | .compare _ _ => true
  | .missing => true
  | .matches _ => false
  | .excludes _ => false

namespace Predicate

/-- Whether a predicate is a conjunction chain. -/
def isAll : Predicate → Bool
  | .all _ => true
  | _ => false

/-- Whether a predicate is a disjunction chain that is not inverted. -/
def isPlainAny : Predicate → Bool
  | .any _ negated => !negated
  | _ => false

/-- The flattened normal form of a compiled predicate. -/
inductive Flat : Predicate → Prop
  | leaf (l : Leaf) : Flat (.leaf l)
  | not (l : Leaf) (invertible : l.test.invertible = true) : Flat (.not (.leaf l))
  | all (members : List Predicate) (several : 2 ≤ members.length)
      (flat : ∀ p ∈ members, Flat p) (noAll : ∀ p ∈ members, p.isAll = false) :
      Flat (.all members)
  | any (members : List Predicate) (negated : Bool) (several : 2 ≤ members.length)
      (flat : ∀ p ∈ members, Flat p) (noPlainAny : ∀ p ∈ members, p.isPlainAny = false) :
      Flat (.any members negated)

mutual

/-- The leaf tests of a predicate from left to right. -/
def leaves : Predicate → List Leaf
  | .leaf l => [l]
  | .not inner => inner.leaves
  | .all members => leavesOf members
  | .any members _ => leavesOf members

/-- The leaf tests of a list of predicates from left to right. -/
def leavesOf : List Predicate → List Leaf
  | [] => []
  | p :: rest => p.leaves ++ leavesOf rest

end

@[simp] theorem leavesOf_append (ps qs : List Predicate) :
    leavesOf (ps ++ qs) = leavesOf ps ++ leavesOf qs := by
  induction ps with
  | nil => rfl
  | cons p ps inductionHypothesis => simp [leavesOf, inductionHypothesis]

/-- A predicate's leaf count is the number of its leaf tests. -/
theorem leafCount_eq_length_leaves :
    (∀ p : Predicate, p.leafCount = p.leaves.length) ∧
      ∀ ps : List Predicate, leafCountOf ps = (leavesOf ps).length := by
  refine leaves.mutual_induct (fun p => p.leafCount = p.leaves.length)
    (fun ps => leafCountOf ps = (leavesOf ps).length) ?leaf ?not ?all ?any ?nil ?cons
  case leaf => intro l; rfl
  case not => intro inner counted; simpa [leafCount, leaves] using counted
  case all => intro members counted; simpa [leafCount, leaves] using counted
  case any => intro members negated counted; simpa [leafCount, leaves] using counted
  case nil => rfl
  case cons =>
    intro p rest countedHead countedRest
    simp [leafCountOf, leavesOf, countedHead, countedRest]

theorem leavesOf_rootFilters (p : Predicate) : leavesOf p.rootFilters = p.leaves := by
  cases p <;> simp [rootFilters, leaves, leavesOf]

/-- The top-level filters of a flat predicate are flat, and none of them is a conjunction. -/
theorem rootFilters_flat {p : Predicate} (flat : p.Flat) :
    ∀ q ∈ p.rootFilters, q.isAll = false ∧ q.Flat := by
  cases flat with
  | all members _ membersFlat noAll =>
    intro q member
    exact ⟨noAll q member, membersFlat q member⟩
  | leaf l => simpa [rootFilters, isAll] using Flat.leaf l
  | not l invertible => simpa [rootFilters, isAll] using Flat.not l invertible
  | any members negated several membersFlat noPlainAny =>
    simpa [rootFilters, isAll] using Flat.any members negated several membersFlat noPlainAny

/-- A leaf as the builder returns it: the test alone, or negated when a negation may wrap it. -/
def LeafForm (p : Predicate) (l : Leaf) : Prop :=
  p = .leaf l ∨ (l.test.invertible = true ∧ p = .not (.leaf l))

theorem LeafForm.flat {p : Predicate} {l : Leaf} (form : LeafForm p l) :
    p.Flat ∧ p.leaves = [l] ∧ p.isAll = false ∧ p.isPlainAny = false := by
  rcases form with rfl | ⟨invertible, rfl⟩
  · exact ⟨.leaf l, rfl, rfl, rfl⟩
  · exact ⟨.not l invertible, rfl, rfl, rfl⟩

end Predicate

/-! ### Built leaves -/

/-- A computation that succeeds after a bind succeeded at its first step. -/
theorem ok_of_bind {ε α β : Type} {x : Except ε α} {f : α → Except ε β} {b : β}
    (succeeded : x >>= f = .ok b) : ∃ a, x = .ok a ∧ f a = .ok b := by
  cases x with
  | error err => cases succeeded
  | ok a => exact ⟨a, rfl, succeeded⟩

/-- A mapped computation that succeeds comes from a success. -/
theorem ok_of_map {ε α β : Type} {x : Except ε α} {f : α → β} {b : β}
    (succeeded : f <$> x = .ok b) : ∃ a, x = .ok a ∧ f a = b := by
  cases x with
  | error err => cases succeeded
  | ok a => exact ⟨a, rfl, Except.ok.inj succeeded⟩

theorem invert_leafForm (l : Leaf) (invertible : l.test.invertible = true) (negated : Bool) :
    (invert (.leaf l) negated).LeafForm l := by
  cases negated
  · exact .inl rfl
  · exact .inr ⟨invertible, rfl⟩

/-- The leaf builder returns a leaf, or a negation around a comparison or absent-field test. -/
theorem buildLeaf_leafForm {config : Config} {kind : PredicateKind} {node : PredicateNode}
    {negated : Bool} {p : Predicate} (built : buildLeaf config kind node negated = .ok p) :
    ∃ l, p.LeafForm l := by
  cases asked : nodeOperator kind node with
  | error err =>
    rw [buildLeaf_of_operator_error config kind node negated asked] at built
    cases built
  | ok operator =>
    rcases operator_cases operator with rfl | pattern | ⟨op, compares⟩
    · rw [buildLeaf_of_missing config kind node negated asked] at built
      cases built
      exact ⟨_, invert_leafForm _ rfl negated⟩
    · -- A pattern test is never wrapped: negated, it becomes an excludes test.
      rw [buildLeaf_of_pattern config kind node negated asked pattern] at built
      obtain ⟨v, -, compiled⟩ := ok_of_bind built
      obtain ⟨r, -, leaf⟩ := ok_of_bind compiled
      cases leaf
      exact ⟨_, .inl rfl⟩
    · rw [buildLeaf_of_compare config kind node negated asked compares] at built
      obtain ⟨v, -, rfl⟩ := ok_of_map built
      exact ⟨_, invert_leafForm _ rfl negated⟩

/-- A leaf test is the one the leaf builder returns for a predicate node under a negation. -/
def BuildsLeaf (config : Config) (call : PredicateKind × PredicateNode × Bool) (l : Leaf) :
    Prop :=
  ∃ p, buildLeaf config call.1 call.2.1 call.2.2 = .ok p ∧ p.leaves = [l]

/-- The leaf calls of an expression are its predicate nodes, each with a negation. -/
theorem leafCalls_nodes (e : Expr) (n : Bool) :
    (leafCalls e n).map (fun call => (call.1, call.2.1)) = e.predicates := by
  induction e generalizing n with
  | conj l r k left right => simp [leafCalls, Expr.predicates, left, right]
  | disj l r k left right => simp [leafCalls, Expr.predicates, left, right]
  | pred kind node => rfl

/-! ### Chains -/

/-- The members of a chain: at least one, each flat and none of the kind the chain flattens into
itself, with the leaves the calls build, in order. -/
def ChainMembers (config : Config) (flattened : Predicate → Bool)
    (calls : List (PredicateKind × PredicateNode × Bool)) (members : List Predicate) : Prop :=
  members ≠ [] ∧ (∀ p ∈ members, p.Flat ∧ flattened p = false) ∧
    List.Forall₂ (BuildsLeaf config) calls (Predicate.leavesOf members)

section Chains

variable {config : Config} {flattened : Predicate → Bool}
  {calls others : List (PredicateKind × PredicateNode × Bool)} {members rest : List Predicate}

theorem ChainMembers.append (left : ChainMembers config flattened calls members)
    (right : ChainMembers config flattened others rest) :
    ChainMembers config flattened (calls ++ others) (members ++ rest) := by
  refine ⟨by simp [left.1], ?_, ?_⟩
  · intro p member
    rcases List.mem_append.mp member with inLeft | inRight
    · exact left.2.1 p inLeft
    · exact right.2.1 p inRight
  · rw [Predicate.leavesOf_append]
    exact List.rel_append left.2.2 right.2.2

/-- Two nonempty chains joined have at least two members. -/
theorem ChainMembers.several (left : ChainMembers config flattened calls members)
    (right : ChainMembers config flattened others rest) : 2 ≤ (members ++ rest).length := by
  have leftLength := List.length_pos_iff.mpr left.1
  have rightLength := List.length_pos_iff.mpr right.1
  rw [List.length_append]
  omega

theorem ChainMembers.single {p : Predicate} (flat : p.Flat) (kept : flattened p = false)
    (leaves : List.Forall₂ (BuildsLeaf config) calls p.leaves) :
    ChainMembers config flattened calls [p] :=
  ⟨List.cons_ne_nil p [], by simpa using ⟨flat, kept⟩, by simpa [Predicate.leavesOf] using leaves⟩

end Chains

/-! ### What the recursive compiler returns -/

theorem all_of_compileTree_conj {config : Config} {l r : Expr} {k n : Bool} {p : Predicate}
    (compiled : compileTree config (.conj l r k) n = .ok p) : p.isAll = true := by
  rw [compileTree.eq_1] at compiled
  obtain ⟨_, _, _, _, rfl⟩ := ok_of_bind_bind compiled
  rfl

theorem any_of_compileTree_disj {config : Config} {l r : Expr} {k n : Bool} {p : Predicate}
    (compiled : compileTree config (.disj l r k) n = .ok p) : ∃ members, p = .any members (k != n) := by
  rw [compileTree.eq_2] at compiled
  obtain ⟨_, _, _, _, rfl⟩ := ok_of_bind_bind compiled
  exact ⟨_, rfl⟩

/-- What compiles from an expression that is not a conjunction is no conjunction. -/
theorem isAll_compileTree {config : Config} {e : Expr} {n : Bool} {p : Predicate}
    (compiled : compileTree config e n = .ok p) (notConj : ∀ l r k, e = .conj l r k → False) :
    p.isAll = false := by
  cases e with
  | conj l r k => exact (notConj l r k rfl).elim
  | disj l r k =>
    obtain ⟨members, rfl⟩ := any_of_compileTree_disj compiled
    rfl
  | pred kind node =>
    rw [compileTree.eq_3] at compiled
    obtain ⟨l, form⟩ := buildLeaf_leafForm compiled
    exact form.flat.2.2.1

/-- What compiles without a pushed negation from an expression that is not a plain disjunction
is no plain disjunction. -/
theorem isPlainAny_compileTree {config : Config} {e : Expr} {p : Predicate}
    (compiled : compileTree config e false = .ok p)
    (notPlainDisj : ∀ l r, e = .disj l r false → False) : p.isPlainAny = false := by
  cases e with
  | conj l r k =>
    have conj := all_of_compileTree_conj compiled
    cases p <;> simp_all [Predicate.isAll, Predicate.isPlainAny]
  | disj l r k =>
    obtain ⟨members, rfl⟩ := any_of_compileTree_disj compiled
    -- Only an inverted disjunction is compiled as one, and it stays inverted.
    cases k with
    | false => exact (notPlainDisj l r rfl).elim
    | true => rfl
  | pred kind node =>
    rw [compileTree.eq_3] at compiled
    obtain ⟨l, form⟩ := buildLeaf_leafForm compiled
    exact form.flat.2.2.2

/-- The recursive compiler returns flat predicates whose leaves are built from the expression's
leaf calls in order; a disjunction chain's members are no plain disjunctions, a conjunction
chain's no conjunctions, and there is at least one. -/
theorem compileTree_flat (config : Config) :
    (∀ e n p, compileTree config e n = .ok p →
      p.Flat ∧ List.Forall₂ (BuildsLeaf config) (leafCalls e n) p.leaves) ∧
    (∀ e members, disjMembers config e = .ok members →
      ChainMembers config Predicate.isPlainAny (leafCalls e false) members) ∧
    (∀ e m members, conjMembers config e m = .ok members →
      ChainMembers config Predicate.isAll (leafCalls e m) members) := by
  refine compileTree.mutual_induct
    (fun e n => ∀ p, compileTree config e n = .ok p →
      p.Flat ∧ List.Forall₂ (BuildsLeaf config) (leafCalls e n) p.leaves)
    (fun e => ∀ members, disjMembers config e = .ok members →
      ChainMembers config Predicate.isPlainAny (leafCalls e false) members)
    (fun e m => ∀ members, conjMembers config e m = .ok members →
      ChainMembers config Predicate.isAll (leafCalls e m) members)
    ?conj ?disj ?pred ?disjFlatten ?disjMember ?conjFlatten ?conjMember
  case conj =>
    intro l r k n left right p compiled
    rw [compileTree.eq_1] at compiled
    obtain ⟨leftMembers, rightMembers, leftOk, rightOk, rfl⟩ := ok_of_bind_bind compiled
    have leftChain := left leftMembers leftOk
    have rightChain := right rightMembers rightOk
    have chain := leftChain.append rightChain
    exact ⟨.all _ (leftChain.several rightChain) (fun q member => (chain.2.1 q member).1)
      (fun q member => (chain.2.1 q member).2), chain.2.2⟩
  case disj =>
    intro l r k n left right p compiled
    rw [compileTree.eq_2] at compiled
    obtain ⟨leftMembers, rightMembers, leftOk, rightOk, rfl⟩ := ok_of_bind_bind compiled
    have leftChain := left leftMembers leftOk
    have rightChain := right rightMembers rightOk
    have chain := leftChain.append rightChain
    exact ⟨.any _ _ (leftChain.several rightChain) (fun q member => (chain.2.1 q member).1)
      (fun q member => (chain.2.1 q member).2), chain.2.2⟩
  case pred =>
    intro kind node n p compiled
    rw [compileTree.eq_3] at compiled
    obtain ⟨l, form⟩ := buildLeaf_leafForm compiled
    obtain ⟨flat, leaves, -⟩ := form.flat
    rw [leaves]
    exact ⟨flat, .cons ⟨p, compiled, leaves⟩ .nil⟩
  case disjFlatten =>
    intro l r left right members compiled
    rw [disjMembers.eq_1] at compiled
    obtain ⟨leftMembers, rightMembers, leftOk, rightOk, rfl⟩ := ok_of_bind_bind compiled
    exact (left leftMembers leftOk).append (right rightMembers rightOk)
  case disjMember =>
    intro e notPlainDisj member members compiled
    rw [disjMembers.eq_2 _ _ notPlainDisj] at compiled
    obtain ⟨p, tree, rfl⟩ := ok_of_bind_singleton compiled
    obtain ⟨flat, leaves⟩ := member p tree
    exact .single flat (isPlainAny_compileTree tree notPlainDisj) leaves
  case conjFlatten =>
    intro l r k m left right members compiled
    rw [conjMembers.eq_1] at compiled
    obtain ⟨leftMembers, rightMembers, leftOk, rightOk, rfl⟩ := ok_of_bind_bind compiled
    exact (left leftMembers leftOk).append (right rightMembers rightOk)
  case conjMember =>
    intro e m notConj member members compiled
    rw [conjMembers.eq_2 _ _ _ notConj] at compiled
    obtain ⟨p, tree, rfl⟩ := ok_of_bind_singleton compiled
    obtain ⟨flat, leaves⟩ := member p tree
    exact .single flat (isAll_compileTree tree notConj) leaves

/-! ### The plan -/

/-- A compiled plan is in flattened normal form: no top-level filter is a conjunction and every
filter is flat. Its leaves, read left to right, are the leaves built from the expression's
predicate nodes, one each and in order, so its leaf count is the number of predicate nodes. -/
theorem compiled_plan_flat_normal_form (config : Config) (e : Expr) (plan : QueryPlan)
    (compiled : compile config (Statement.selectAll.withFilter e) = .ok plan) :
    (∀ p ∈ plan.filters, p.isAll = false ∧ p.Flat) ∧
      List.Forall₂ (BuildsLeaf config) (leafCalls e false) (Predicate.leavesOf plan.filters) ∧
      (leafCalls e false).map (fun call => (call.1, call.2.1)) = e.predicates ∧
      plan.leafCount = e.predicates.length := by
  obtain ⟨p, tree, rootFilters⟩ := compileTree_of_compile compiled
  obtain ⟨flat, leaves⟩ := (compileTree_flat config).1 e false p tree
  have filterLeaves :
      List.Forall₂ (BuildsLeaf config) (leafCalls e false) (Predicate.leavesOf plan.filters) := by
    rw [← rootFilters, Predicate.leavesOf_rootFilters]
    exact leaves
  refine ⟨?_, filterLeaves, leafCalls_nodes e false, ?_⟩
  · rw [← rootFilters]
    exact Predicate.rootFilters_flat flat
  · calc plan.leafCount = (Predicate.leavesOf plan.filters).length :=
          Predicate.leafCount_eq_length_leaves.2 plan.filters
      _ = (leafCalls e false).length := filterLeaves.length_eq.symm
      _ = e.predicates.length := by rw [← leafCalls_nodes e false, List.length_map]


/-- `(a OR (b OR NOT (c OR d))) AND NOT (e AND f)`: the plain inner disjunction is flattened, the
inverted one stays a member, and the negated conjunction becomes two negated top-level filters. -/
theorem compiled_plan_flat_of_nested_chains :
    compile Config.default (Statement.selectAll.withFilter
        (.conj (.disj (Expr.missing "a") (.disj (Expr.missing "b")
            (.disj (Expr.missing "c") (Expr.missing "d") true) false) false)
          (.conj (Expr.missing "e") (Expr.missing "f") true) false)) =
      .ok ⟨[.any [.leaf ⟨"a", .missing⟩, .leaf ⟨"b", .missing⟩,
            .any [.leaf ⟨"c", .missing⟩, .leaf ⟨"d", .missing⟩] true] false,
          .not (.leaf ⟨"e", .missing⟩), .not (.leaf ⟨"f", .missing⟩)],
        [SelectField.wildcard], [], FieldMap.empty⟩ ∧
    ((∀ p ∈ [Predicate.any [.leaf ⟨"a", .missing⟩, .leaf ⟨"b", .missing⟩,
            .any [.leaf ⟨"c", .missing⟩, .leaf ⟨"d", .missing⟩] true] false,
          .not (.leaf ⟨"e", .missing⟩), .not (.leaf ⟨"f", .missing⟩)],
        p.isAll = false ∧ p.Flat) ∧
      List.Forall₂ (BuildsLeaf Config.default)
        (leafCalls (.conj (.disj (Expr.missing "a") (.disj (Expr.missing "b")
            (.disj (Expr.missing "c") (Expr.missing "d") true) false) false)
          (.conj (Expr.missing "e") (Expr.missing "f") true) false) false)
        (Predicate.leavesOf [.any [.leaf ⟨"a", .missing⟩, .leaf ⟨"b", .missing⟩,
            .any [.leaf ⟨"c", .missing⟩, .leaf ⟨"d", .missing⟩] true] false,
          .not (.leaf ⟨"e", .missing⟩), .not (.leaf ⟨"f", .missing⟩)]) ∧
      (leafCalls (.conj (.disj (Expr.missing "a") (.disj (Expr.missing "b")
            (.disj (Expr.missing "c") (Expr.missing "d") true) false) false)
          (.conj (Expr.missing "e") (Expr.missing "f") true) false) false).map
          (fun call => (call.1, call.2.1)) =
        Expr.predicates (.conj (.disj (Expr.missing "a") (.disj (Expr.missing "b")
            (.disj (Expr.missing "c") (Expr.missing "d") true) false) false)
          (.conj (Expr.missing "e") (Expr.missing "f") true) false) ∧
      QueryPlan.leafCount ⟨[.any [.leaf ⟨"a", .missing⟩, .leaf ⟨"b", .missing⟩,
            .any [.leaf ⟨"c", .missing⟩, .leaf ⟨"d", .missing⟩] true] false,
          .not (.leaf ⟨"e", .missing⟩), .not (.leaf ⟨"f", .missing⟩)],
        [SelectField.wildcard], [], FieldMap.empty⟩ =
        (Expr.predicates (.conj (.disj (Expr.missing "a") (.disj (Expr.missing "b")
            (.disj (Expr.missing "c") (Expr.missing "d") true) false) false)
          (.conj (Expr.missing "e") (Expr.missing "f") true) false)).length) := by
  -- The compilers recurse on the expression's size, so only full unfolding evaluates them.
  have compiled : compile Config.default (Statement.selectAll.withFilter
        (.conj (.disj (Expr.missing "a") (.disj (Expr.missing "b")
            (.disj (Expr.missing "c") (Expr.missing "d") true) false) false)
          (.conj (Expr.missing "e") (Expr.missing "f") true) false)) =
      .ok ⟨[.any [.leaf ⟨"a", .missing⟩, .leaf ⟨"b", .missing⟩,
            .any [.leaf ⟨"c", .missing⟩, .leaf ⟨"d", .missing⟩] true] false,
          .not (.leaf ⟨"e", .missing⟩), .not (.leaf ⟨"f", .missing⟩)],
        [SelectField.wildcard], [], FieldMap.empty⟩ := by
    with_unfolding_all rfl
  exact ⟨compiled, compiled_plan_flat_normal_form _ _ _ compiled⟩

end Plan

end RecordQuery
