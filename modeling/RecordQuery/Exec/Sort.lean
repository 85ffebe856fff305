import RecordQuery.Exec.Path
import RecordQuery.Loose.Compare
import RecordQuery.Query.Syntax

/-!
Contract: ordering rows by the ORDER BY keys.

Owns:
- `Exec.sortCompare`: two rows by one key's own top-level property under loose comparison, a
  pair it cannot order counting as equal, reversed for a descending key;
- `Exec.merge` and `Exec.mergeSort`: a top-down merge sort that splits at half the length
  (rounded down) and takes from the right run only when its head is strictly smaller than the
  left run's head, so equal rows keep their order;
- `Exec.sortRows`: one pass per key, last key first, so the first key dominates.

The comparison need not be a total preorder (loose comparison is not), so the exact split and
merge are part of the result, not only the sortedness.
-/

set_option autoImplicit false

namespace RecordQuery

namespace Exec

open Query

/-- Two rows by one sort key. -/
def sortCompare (spec : SortSpec) (a b : Json) : Ordering :=
  let ordering := match Loose.looseCompare (ownProperty? a spec.field) (ownProperty? b spec.field) with
    | some .lt => Ordering.lt
    | some .gt => .gt
    | _ => .eq
  match spec.direction with
  | .asc => ordering
  | .desc => ordering.swap

/-- Two runs merged: the right head is taken only when it is strictly smaller. -/
def merge {α : Type} (cmp : α → α → Ordering) : List α → List α → List α
  | [], right => right
  | left, [] => left
  | l :: left, r :: right =>
    if cmp r l = .lt then r :: merge cmp (l :: left) right
    else l :: merge cmp left (r :: right)
termination_by left right => left.length + right.length

/-- A list sorted by splitting at half its length and merging the sorted halves. -/
def mergeSort {α : Type} (cmp : α → α → Ordering) (items : List α) : List α :=
  if h : items.length ≤ 1 then items
  else
    let half := items.length / 2
    merge cmp (mergeSort cmp (items.take half)) (mergeSort cmp (items.drop half))
termination_by items.length
decreasing_by
  all_goals simp only [List.length_take, List.length_drop]
  all_goals omega

/-- Rows ordered by sort keys: one stable pass per key, last key first. -/
def sortRows (rows : List Json) (sorts : List SortSpec) : List Json :=
  sorts.reverse.foldl (fun rows spec => mergeSort (sortCompare spec) rows) rows

end Exec

end RecordQuery
