import RecordQuery.Exec.Filter
import RecordQuery.Exec.Project
import RecordQuery.Exec.Sort
import RecordQuery.Plan.Compile

/-!
Contract: running a plan over records.

Owns:
- `Exec.ExecutionResult`: the rows, how many records were scanned and how many rows returned;
- `Exec.execute`: records kept in input order when they pass every filter, each projected, the
  projected rows then sorted;
- `Exec.executeRecord`: the trace `PLAN_EXECUTED` record with the returned and scanned counts.

Execution cannot fail and leaves the records as they are.
-/

set_option autoImplicit false

namespace RecordQuery

namespace Exec

open Plan

/-- The outcome of running a plan. -/
structure ExecutionResult where
  rows : List Json
  scanned : Nat
  returned : Nat

/-- The rows of a plan over records, with the counts. -/
def execute (plan : QueryPlan) (records : List Json) : ExecutionResult :=
  let kept := (records.filter fun r => passes r plan.filters).map (project plan.fields plan.fieldMap)
  let rows := sortRows kept plan.sorts
  ⟨rows, records.length, rows.length⟩

/-- The log record of an execution. -/
def executeRecord (r : ExecutionResult) : Log.Record :=
  ⟨.trace, Event.planExecuted.name, [("returned", toString r.returned), ("scanned", toString r.scanned)]⟩

end Exec

end RecordQuery
