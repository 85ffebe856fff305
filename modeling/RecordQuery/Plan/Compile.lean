import RecordQuery.Plan.Leaf
import RecordQuery.Query.Decode
import RecordQuery.Log.Line

/-!
Contract: compiling a statement into a plan, and the log record that reports it.

Owns:
- `Plan.QueryPlan`: the top-level filters (all must pass), the selected fields, the sort keys
  and the field map the plan was compiled with; `QueryPlan.isWildcard`;
- `Plan.visit`, the WHERE compiler. A conjunction flattens the conjunctions below it into one
  chain, its negation flag xor-ed into each child (so `NOT (a AND b)` is `NOT a AND NOT b`); a
  disjunction flattens the non-negated disjunctions below it and compiles its operands with no
  inherited negation, its own flag inverting the chain. Pending children are kept on a stack,
  left child on top, so leaves are compiled left to right and the first failing leaf decides the
  error;
- `Plan.compile`: the field list first, then the filter (a root chain splits into top-level
  filters), then the sort keys; `Plan.compileJson` decodes the tree first;
- `Plan.compileRecord`: trace `PLAN_COMPILED` with the counts of fields, filters, leaves and
  sorts, or info `PLAN_REJECTED` with the error's code and message.
-/

set_option autoImplicit false

namespace RecordQuery

namespace Plan

open Query

/-- A compiled statement. -/
structure QueryPlan where
  filters : List Predicate
  fields : List SelectField
  sorts : List SortSpec
  fieldMap : FieldMap

/-- Whether the plan keeps records whole: no fields, or a first field of `*`. -/
def QueryPlan.isWildcard (p : QueryPlan) : Bool :=
  match p.fields with
  | [] => true
  | f :: _ => f.isWildcard

/-- The total size of the expressions on a stack. -/
def pendingSize : List (Expr × Bool) → Nat
  | [] => 0
  | (e, _) :: rest => e.size + pendingSize rest

/-- The total size of a list of expressions. -/
def exprsSize : List Expr → Nat
  | [] => 0
  | e :: rest => e.size + exprsSize rest

theorem Expr.size_pos (e : Expr) : 0 < e.size := by
  cases e <;> simp [Expr.size]

mutual

/-- The compiled form of an expression under a pushed negation. -/
def visit (config : Config) : Expr → Bool → Except CompileError Predicate
  | .conj l r k, n => conjChain config [(l, k != n), (r, k != n)] []
  | .disj l r k, n => do
    let members ← disjChain config [l, r] []
    pure (.any members (k != n))
  | .pred kind node, n => buildLeaf config kind node (node.negated != n)
termination_by e => 2 * e.size
decreasing_by
  all_goals simp only [pendingSize, exprsSize, Expr.size]
  all_goals omega

/-- The members of a conjunction chain: pending children with their pushed negations, and the
members compiled so far (latest first). -/
def conjChain (config : Config) : List (Expr × Bool) → List Predicate → Except CompileError Predicate
  | [], done => .ok (.all done.reverse)
  | (.conj l r k, m) :: rest, done => conjChain config ((l, k != m) :: (r, k != m) :: rest) done
  | (e, m) :: rest, done => do
    let p ← visit config e m
    conjChain config rest (p :: done)
termination_by pending => 2 * pendingSize pending + 1
decreasing_by
  all_goals simp only [pendingSize, Expr.size]
  all_goals first | omega | (have hpos := Expr.size_pos e; omega)

/-- The members of a disjunction chain: pending operands, and the members compiled so far
(latest first). -/
def disjChain (config : Config) : List Expr → List Predicate → Except CompileError (List Predicate)
  | [], done => .ok done.reverse
  | .disj l r false :: rest, done => disjChain config (l :: r :: rest) done
  | e :: rest, done => do
    let p ← visit config e false
    disjChain config rest (p :: done)
termination_by pending => 2 * exprsSize pending + 1
decreasing_by
  all_goals simp only [exprsSize, Expr.size]
  all_goals first | omega | (have hpos := Expr.size_pos e; omega)

end

/-- The top-level filters of a WHERE expression: the members of a root conjunction chain, or the
one compiled predicate. -/
def compileFilter (config : Config) (e : Expr) : Except CompileError (List Predicate) := do
  match ← visit config e false with
  | .all members => pure members
  | p => pure [p]

/-- The plan of a statement under a configuration. -/
def compile (config : Config) (s : Statement) : Except CompileError QueryPlan := do
  let filters ← match s.filter with
    | some e => compileFilter config e
    | none => pure []
  pure ⟨filters, s.fields, s.sorts, config.fieldMap⟩

/-- The plan of a statement tree given as JSON. -/
def compileJson (config : Config) (tree : Json) : Except CompileError QueryPlan := do
  compile config (← Decode.statement tree)

/-- The total leaf count of a plan's filters. -/
def QueryPlan.leafCount (p : QueryPlan) : Nat := Predicate.leafCountOf p.filters

/-- The log record of a compilation. -/
def compileRecord : Except CompileError QueryPlan → Log.Record
  | .ok p => ⟨.trace, Event.planCompiled.name,
      [("fields", toString p.fields.length), ("filters", toString p.filters.length),
       ("leaves", toString p.leafCount), ("sorts", toString p.sorts.length)]⟩
  | .error e => ⟨.info, Event.planRejected.name, [("code", e.code), ("message", e.message)]⟩

end Plan

end RecordQuery
