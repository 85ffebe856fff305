import RecordQuery.Plan.Compile

/-!
Contract: the explain text of a plan or of a rejection.

Owns:
- `Plan.explain`: `=== EXPLAIN PLAN ===`, `Status: ACCEPTED`, `Select: …` (`*` for a wildcard
  plan, else each field, `name AS alias` when a plain field has an alias), then `Filters: none`
  or `Filters:` with one `  - filter` line each, then `Sort: field dir, …` when there are sort
  keys; every line ends in a line feed;
- `Plan.explainRejection`: `Status: REJECTED` with the error's code and message.
-/

set_option autoImplicit false

namespace RecordQuery

namespace Plan

open Query

/-- The title line every explain text starts with. -/
def explainTitle : String := "=== EXPLAIN PLAN ===\n"

/-- The entries of the `Select:` line. -/
def projectionText (p : QueryPlan) : List String :=
  if p.isWildcard then ["*"]
  else p.fields.map fun f =>
    match f.asName with
    | some a => if f.isNested then f.name else f.name ++ " AS " ++ a
    | none => f.name

/-- The filter lines of an explain text. -/
def filterLines (filters : List Predicate) : String :=
  if filters.isEmpty then "Filters: none\n"
  else "Filters:\n" ++ String.join (filters.map fun f => "  - " ++ f.display ++ "\n")

/-- The sort line of an explain text, empty without sort keys. -/
def sortLine (sorts : List SortSpec) : String :=
  if sorts.isEmpty then ""
  else "Sort: " ++ ", ".intercalate (sorts.map fun s => s.field ++ " " ++ s.direction.name) ++ "\n"

/-- The explain text of an accepted plan. -/
def explain (p : QueryPlan) : String :=
  explainTitle ++ "Status: ACCEPTED\n" ++ "Select: " ++ ", ".intercalate (projectionText p) ++ "\n" ++
    filterLines p.filters ++ sortLine p.sorts

/-- The explain text of a rejected statement. -/
def explainRejection (e : CompileError) : String :=
  explainTitle ++ "Status: REJECTED\n" ++ "Error Code: " ++ e.code ++ "\n" ++ "Reason: " ++ e.message ++ "\n"

end Plan

end RecordQuery
