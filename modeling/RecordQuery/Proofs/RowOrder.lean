import RecordQuery.Proofs.MergeSort
import RecordQuery.Exec.Run

/-!
Contract: what running a plan returns, and the order of its rows.

Owns:
- `execute_rows_perm_kept`: the rows are the projections of the records that pass every filter,
  each exactly once, whatever the sort keys hold (absent keys, NaN, mixed texts and numbers);
  with no sort keys they keep the input order. The scanned and returned counts are the number
  of records and of rows;
- `sortRows_keeps_ordered`: rows in which, for every key, no later row sorts strictly before an
  earlier one stay in input order, whatever the comparison. A key that no row holds is the usual
  case: every row reads it as no value, no value converts to NaN, and a pair with NaN has no
  order;
- `Exec.TotalPreorderOn`: a comparison that orders the rows at hand as a total preorder;
- `sortRows_eq_lexicographic`: when every key orders the rows that way, the passes, last key
  first, are the stable sort by the keys taken lexicographically, each in its own direction.

The sorting laws themselves are proved for any element type in `Proofs.MergeSort`; here they are
read on the rows, as members of the row list, since a key need only be a preorder on those.
-/

set_option autoImplicit false

namespace RecordQuery

namespace Exec

open Plan Query

/-- Sorting keeps every row, once. -/
theorem sortRows_perm (rows : List Json) (sorts : List SortSpec) :
    (sortRows rows sorts).Perm rows := by
  unfold sortRows
  rw [List.foldl_reverse]
  exact foldr_mergeSort_perm sortCompare sorts rows

/-- Running a plan returns the projections of the records that pass its filters, each exactly once
and in input order when there are no sort keys, and counts what it scanned and returned. -/
theorem execute_rows_perm_kept (plan : QueryPlan) (records : List Json) :
    (execute plan records).rows.Perm
        ((records.filter fun r => passes r plan.filters).map (project plan.fields plan.fieldMap)) ∧
      (execute plan records).scanned = records.length ∧
      (execute plan records).returned = (execute plan records).rows.length ∧
      (plan.sorts = [] → (execute plan records).rows =
        (records.filter fun r => passes r plan.filters).map (project plan.fields plan.fieldMap)) := by
  refine ⟨sortRows_perm _ _, rfl, rfl, fun noSorts => ?_⟩
  simp [execute, sortRows, noSorts]

/-- One sort pass per key leaves rows alone that are ordered for every key. -/
theorem foldl_mergeSort_of_no_inversion (rows : List Json) :
    ∀ (specs : List SortSpec),
      (∀ spec ∈ specs, rows.Pairwise fun earlier later => sortCompare spec later earlier ≠ .lt) →
      specs.foldl (fun rows spec => mergeSort (sortCompare spec) rows) rows = rows
  | [], _ => rfl
  | spec :: specs, ordered => by
    rw [List.foldl_cons, mergeSort_of_no_inversion _ rows (ordered spec (by simp))]
    exact foldl_mergeSort_of_no_inversion rows specs
      (fun other inSpecs => ordered other (by simp [inSpecs]))

/-- Rows that no key would reorder stay in input order, whatever the comparison. -/
theorem sortRows_keeps_ordered (rows : List Json) (sorts : List SortSpec)
    (ordered : ∀ spec ∈ sorts, ∀ (i j : Nat) (before : i < j) (inside : j < rows.length),
      sortCompare spec rows[j] rows[i] ≠ .lt) :
    sortRows rows sorts = rows := by
  unfold sortRows
  apply foldl_mergeSort_of_no_inversion rows sorts.reverse
  intro spec inSorts
  rw [List.pairwise_iff_getElem]
  intro i j _ inside before
  exact ordered spec (List.mem_reverse.mp inSorts) i j before inside

/-- A row without the key and a text row without it keep their order under that key. -/
theorem sortRows_keeps_rows_without_key :
    (∀ spec ∈ [SortSpec.asc "k"], ∀ (i j : Nat) (before : i < j)
      (inside : j < [Json.null, Json.str "a"].length),
        sortCompare spec [Json.null, Json.str "a"][j] [Json.null, Json.str "a"][i] ≠ .lt) ∧
      sortRows [Json.null, Json.str "a"] [SortSpec.asc "k"] = [Json.null, Json.str "a"] :=
  have ordered : ∀ spec ∈ [SortSpec.asc "k"], ∀ (i j : Nat) (before : i < j)
      (inside : j < [Json.null, Json.str "a"].length),
        sortCompare spec [Json.null, Json.str "a"][j] [Json.null, Json.str "a"][i] ≠ .lt := by
    intro spec inSorts i j before inside
    simp only [List.mem_singleton] at inSorts
    subst inSorts
    simp only [List.length_cons, List.length_nil] at inside
    have first : i = 0 := by omega
    have second : j = 1 := by omega
    subst first
    subst second
    simp only [List.getElem_cons_succ, List.getElem_cons_zero]
    decide
  ⟨ordered, sortRows_keeps_ordered _ _ ordered⟩

/-- A comparison orders the members of `rows` as a total preorder: swapping two rows swaps the
outcome, and "not after" is transitive. -/
structure TotalPreorderOn {α : Type} (cmp : α → α → Ordering) (rows : List α) : Prop where
  swap : ∀ a ∈ rows, ∀ b ∈ rows, cmp a b = (cmp b a).swap
  trans : ∀ a ∈ rows, ∀ b ∈ rows, ∀ c ∈ rows,
    (cmp a b).isLE → (cmp b c).isLE → (cmp a c).isLE

instance {α : Type} (cmp : α → α → Ordering) (rows : List α) :
    Decidable (TotalPreorderOn cmp rows) :=
  decidable_of_iff ((∀ a ∈ rows, ∀ b ∈ rows, cmp a b = (cmp b a).swap) ∧
      ∀ a ∈ rows, ∀ b ∈ rows, ∀ c ∈ rows, (cmp a b).isLE → (cmp b c).isLE → (cmp a c).isLE)
    ⟨fun ⟨swaps, chains⟩ => ⟨swaps, chains⟩, fun ⟨swaps, chains⟩ => ⟨swaps, chains⟩⟩

/-- Read on the members of `rows`, a comparison that orders them as a total preorder is one. -/
theorem transCmp_of_totalPreorderOn {α : Type} {cmp : α → α → Ordering} {rows : List α}
    (preorder : TotalPreorderOn cmp rows) :
    Std.TransCmp fun a b : {row // row ∈ rows} => cmp a.1 b.1 where
  eq_swap := fun {a b} => preorder.swap a.1 a.2 b.1 b.2
  isLE_trans := fun {a b c} => preorder.trans a.1 a.2 b.1 b.2 c.1 c.2

/-- When every key orders the rows as a total preorder, sorting is the stable sort by the keys
taken lexicographically: the first key decides, later keys break its ties, and rows that tie on
every key keep their input order. -/
theorem sortRows_eq_lexicographic (rows : List Json) (sorts : List SortSpec)
    (preorders : ∀ spec ∈ sorts, TotalPreorderOn (sortCompare spec) rows) :
    sortRows rows sorts = rows.mergeSort fun a b => (lexCompare sortCompare sorts a b).isLE := by
  have members := foldl_mergeSort_eq_lexCompare
    (fun spec (a b : {row // row ∈ rows}) => sortCompare spec a.1 b.1) sorts
    (fun spec inSorts => transCmp_of_totalPreorderOn (preorders spec inSorts)) rows.attach
  calc sortRows rows sorts
      = sorts.reverse.foldl (fun sorted spec => mergeSort (sortCompare spec) sorted)
          (rows.attach.map Subtype.val) := by
        rw [List.attach_map_subtype_val]
        rfl
    _ = (sorts.reverse.foldl
          (fun sorted spec => mergeSort (fun a b => sortCompare spec a.1 b.1) sorted)
          rows.attach).map Subtype.val :=
        foldl_mergeSort_map sortCompare Subtype.val sorts.reverse rows.attach
    _ = (rows.attach.mergeSort fun a b =>
          (lexCompare (fun spec (a b : {row // row ∈ rows}) => sortCompare spec a.1 b.1)
            sorts a b).isLE).map Subtype.val := by
        rw [members]
    _ = (rows.attach.map Subtype.val).mergeSort fun a b =>
          (lexCompare sortCompare sorts a b).isLE :=
        List.map_mergeSort fun a _ b _ => by rw [lexCompare_comap]
    _ = rows.mergeSort fun a b => (lexCompare sortCompare sorts a b).isLE := by
        rw [List.attach_map_subtype_val]

/-- Three rows by year descending, then name: the two rows of the later year come first, in name
order. -/
theorem sortRows_by_year_then_name :
    (∀ spec ∈ [SortSpec.desc "year", SortSpec.asc "name"],
      TotalPreorderOn (sortCompare spec)
        [.obj [("name", .str "b"), ("year", .int 2)], .obj [("name", .str "c"), ("year", .int 1)],
          .obj [("name", .str "a"), ("year", .int 2)]]) ∧
    sortRows [.obj [("name", .str "b"), ("year", .int 2)],
        .obj [("name", .str "c"), ("year", .int 1)], .obj [("name", .str "a"), ("year", .int 2)]]
        [SortSpec.desc "year", SortSpec.asc "name"] =
      List.mergeSort [.obj [("name", .str "b"), ("year", .int 2)],
          .obj [("name", .str "c"), ("year", .int 1)], .obj [("name", .str "a"), ("year", .int 2)]]
        fun a b => (lexCompare sortCompare [SortSpec.desc "year", SortSpec.asc "name"] a b).isLE := by
  have preorders : ∀ spec ∈ [SortSpec.desc "year", SortSpec.asc "name"],
      TotalPreorderOn (sortCompare spec)
        [.obj [("name", .str "b"), ("year", .int 2)], .obj [("name", .str "c"), ("year", .int 1)],
          .obj [("name", .str "a"), ("year", .int 2)]] := by
    decide
  exact ⟨preorders, sortRows_eq_lexicographic _ _ preorders⟩

end Exec

end RecordQuery
