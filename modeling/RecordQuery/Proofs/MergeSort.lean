import RecordQuery.Exec.Sort

/-!
Contract: the laws of the row merge sort.

Owns:
- for every comparison, transitive or not: the merge is the library's `List.merge` with the left
  head going first unless the right head is strictly below it; merging and sorting permute
  their input, and sorting commutes with mapping the elements through the function the
  comparison reads them by. When no element is strictly below an earlier one, merging appends
  and sorting changes nothing, since every split of such a list again has that property;
- for a total preorder (`Std.TransCmp`): the sort is stable. Sorting a list already ordered by
  some `Q` leaves it ordered by the comparison and, among tied elements, by `Q`
  (`pairwise_mergeSort_sortedThen`); the invariant is that every merge sees two runs ordered
  this way with every left element `Q`-before every right one;
- `lexCompare`, comparison by several keys in turn, and `foldl_mergeSort_eq_lexCompare`: one
  stable pass per key, last key first, is the library's stable sort by the lexicographic
  comparison. Elements are decorated with their input position; the passes then order the
  decorated list strictly, and a strictly ordered permutation is unique.
-/

set_option autoImplicit false

namespace RecordQuery

namespace Exec

section AnyComparison

variable {α : Type} (cmp : α → α → Ordering)

/-- The merge is the library's merge: the left head goes first unless the right head is strictly
below it. -/
theorem merge_eq_listMerge (left right : List α) :
    merge cmp left right = left.merge right (fun l r => cmp r l != .lt) := by
  induction left, right using merge.induct cmp with
  | case1 right => simp [merge]
  | case2 left nonempty =>
    cases left with
    | nil => contradiction
    | cons l left => simp [merge]
  | case3 l left r right below inductionHypothesis =>
    rw [merge, if_pos below, inductionHypothesis, List.cons_merge_cons]
    simp [below]
  | case4 l left r right notBelow inductionHypothesis =>
    rw [merge, if_neg notBelow, inductionHypothesis, List.cons_merge_cons]
    simp [notBelow]

theorem merge_perm (left right : List α) : (merge cmp left right).Perm (left ++ right) := by
  rw [merge_eq_listMerge]
  exact List.merge_perm_append _

theorem mem_merge {left right : List α} {a : α} :
    a ∈ merge cmp left right ↔ a ∈ left ∨ a ∈ right := by
  rw [(merge_perm cmp left right).mem_iff, List.mem_append]

/-- Sorting loses no element and duplicates none, whatever the comparison. -/
theorem mergeSort_perm (items : List α) : (mergeSort cmp items).Perm items := by
  induction items using mergeSort.induct with
  | case1 items short => rw [mergeSort, dif_pos short]
  | case2 items long half front back =>
    rw [mergeSort, dif_neg long]
    calc List.Perm (merge cmp (mergeSort cmp (items.take half)) (mergeSort cmp (items.drop half)))
          (mergeSort cmp (items.take half) ++ mergeSort cmp (items.drop half)) :=
          merge_perm cmp _ _
      List.Perm _ (items.take half ++ items.drop half) := front.append back
      _ = items := List.take_append_drop _ _

/-- Merging commutes with mapping the elements through what the comparison reads of them. -/
theorem map_merge {β : Type} (f : β → α) (left right : List β) :
    (merge (fun a b => cmp (f a) (f b)) left right).map f =
      merge cmp (left.map f) (right.map f) := by
  rw [merge_eq_listMerge, merge_eq_listMerge]
  exact List.map_merge (fun _ _ _ _ => rfl)

/-- Sorting commutes with mapping the elements through what the comparison reads of them. -/
theorem map_mergeSort {β : Type} (f : β → α) (items : List β) :
    (mergeSort (fun a b => cmp (f a) (f b)) items).map f = mergeSort cmp (items.map f) := by
  induction items using mergeSort.induct with
  | case1 items short =>
    have shortImage : (items.map f).length ≤ 1 := by simpa using short
    rw [mergeSort, dif_pos short, mergeSort, dif_pos shortImage]
  | case2 items long half front back =>
    have longImage : ¬(items.map f).length ≤ 1 := by simpa using long
    rw [mergeSort, dif_neg long, mergeSort, dif_neg longImage]
    simp only [map_merge, front, back, List.map_take, List.map_drop, List.length_map, half]

end AnyComparison

/-- Merging appends the runs when no right element is strictly below a left element. -/
theorem merge_of_no_inversion {α : Type} (cmp : α → α → Ordering) :
    ∀ (left right : List α), (∀ l ∈ left, ∀ r ∈ right, cmp r l ≠ .lt) →
      merge cmp left right = left ++ right
  | [], right, _ => by simp [merge]
  | l :: left, [], _ => by simp [merge]
  | l :: left, r :: right, apart => by
    have notBelow : cmp r l ≠ .lt := apart l (by simp) r (by simp)
    rw [merge, if_neg notBelow, merge_of_no_inversion cmp left (r :: right)
      (fun l' inLeft r' inRight => apart l' (by simp [inLeft]) r' inRight)]
    rfl

/-- A list in which no later element is strictly below an earlier one is its own sort. -/
theorem mergeSort_of_no_inversion {α : Type} (cmp : α → α → Ordering) (items : List α)
    (ordered : items.Pairwise fun earlier later => cmp later earlier ≠ .lt) :
    mergeSort cmp items = items := by
  rw [mergeSort]
  split
  · rfl
  · have front := mergeSort_of_no_inversion cmp (items.take (items.length / 2))
      (ordered.sublist (List.take_sublist _ _))
    have back := mergeSort_of_no_inversion cmp (items.drop (items.length / 2))
      (ordered.sublist (List.drop_sublist _ _))
    have whole : (items.take (items.length / 2) ++ items.drop (items.length / 2)).Pairwise
        fun earlier later => cmp later earlier ≠ .lt := by
      rw [List.take_append_drop]
      exact ordered
    simp only [front, back]
    rw [merge_of_no_inversion cmp _ _ (List.pairwise_append.mp whole).2.2]
    exact List.take_append_drop _ _
termination_by items.length
decreasing_by
  all_goals simp only [List.length_take, List.length_drop]
  all_goals omega

section TotalPreorder

variable {α : Type} (cmp : α → α → Ordering) [Std.TransCmp cmp]

/-- `a` may stand before `b` in a list sorted by `cmp` and, among tied elements, by `Q`. -/
def SortedThen (Q : α → α → Prop) (a b : α) : Prop :=
  (cmp a b).isLE ∧ ((cmp b a).isLE → Q a b)

/-- A merge of two runs sorted by `cmp` then `Q`, in which every left element is `Q`-before every
right one, is sorted by `cmp` then `Q`. -/
theorem pairwise_merge_sortedThen {Q : α → α → Prop} (left right : List α)
    (leftSorted : left.Pairwise (SortedThen cmp Q)) (rightSorted : right.Pairwise (SortedThen cmp Q))
    (across : ∀ a ∈ left, ∀ b ∈ right, Q a b) :
    (merge cmp left right).Pairwise (SortedThen cmp Q) := by
  induction left, right using merge.induct cmp with
  | case1 right => simpa [merge] using rightSorted
  | case2 left nonempty =>
    cases left with
    | nil => contradiction
    | cons l left => simpa [merge] using leftSorted
  -- The right head goes first: it is strictly below the left head, hence below all of the left run.
  | case3 l left r right below inductionHypothesis =>
    rw [merge, if_pos below]
    have aboveLeft : cmp l r = .gt := Std.OrientedCmp.gt_of_lt below
    refine List.Pairwise.cons ?_ (inductionHypothesis leftSorted rightSorted.tail
      (fun a inLeft b inRight => across a inLeft b (List.mem_cons_of_mem r inRight)))
    intro z member
    rcases (mem_merge cmp).mp member with inLeft | inRight
    · rcases List.mem_cons.mp inLeft with rfl | inRest
      · refine ⟨by simp [below], fun tied => ?_⟩
        simp [aboveLeft] at tied
      · have headFirst := List.rel_of_pairwise_cons leftSorted inRest
        refine ⟨Std.TransCmp.isLE_trans (by simp [below]) headFirst.1, fun tied => ?_⟩
        have backwards := Std.TransCmp.isLE_trans headFirst.1 tied
        simp [aboveLeft] at backwards
    · exact List.rel_of_pairwise_cons rightSorted inRight
  -- The left head goes first: the right head is not strictly below it.
  | case4 l left r right notBelow inductionHypothesis =>
    rw [merge, if_neg notBelow]
    have headsOrdered : (cmp l r).isLE :=
      Decidable.byContradiction fun notLE => notBelow (Std.OrientedCmp.lt_of_not_isLE notLE)
    refine List.Pairwise.cons ?_ (inductionHypothesis leftSorted.tail rightSorted
      (fun a inLeft b inRight => across a (List.mem_cons_of_mem l inLeft) b inRight))
    intro z member
    rcases (mem_merge cmp).mp member with inLeft | inRight
    · exact List.rel_of_pairwise_cons leftSorted inLeft
    · have leftHead : Q l z := across l List.mem_cons_self z inRight
      rcases List.mem_cons.mp inRight with rfl | inRest
      · exact ⟨headsOrdered, fun _ => leftHead⟩
      · have headFirst := List.rel_of_pairwise_cons rightSorted inRest
        exact ⟨Std.TransCmp.isLE_trans headsOrdered headFirst.1, fun _ => leftHead⟩

/-- The sort is stable: a list ordered by `Q` comes back sorted by `cmp`, tied elements in
`Q`'s order. -/
theorem pairwise_mergeSort_sortedThen {Q : α → α → Prop} (items : List α)
    (ordered : items.Pairwise Q) : (mergeSort cmp items).Pairwise (SortedThen cmp Q) := by
  induction items using mergeSort.induct with
  | case1 items short =>
    rw [mergeSort, dif_pos short]
    match items, short with
    | [], _ => exact List.Pairwise.nil
    | [_], _ => exact List.pairwise_singleton _ _
  | case2 items long half front back =>
    rw [mergeSort, dif_neg long]
    have halves : (items.take (items.length / 2) ++ items.drop (items.length / 2)).Pairwise Q := by
      rw [List.take_append_drop]
      exact ordered
    apply pairwise_merge_sortedThen cmp
    · exact front (ordered.sublist (List.take_sublist _ _))
    · exact back (ordered.sublist (List.drop_sublist _ _))
    · intro a inFront b inBack
      exact (List.pairwise_append.mp halves).2.2 a ((mergeSort_perm cmp _).mem_iff.mp inFront)
        b ((mergeSort_perm cmp _).mem_iff.mp inBack)

/-- A comparison read through a function is a total preorder when the comparison is. -/
theorem transCmp_comap {β : Type} (f : β → α) : Std.TransCmp fun a b : β => cmp (f a) (f b) where
  eq_swap := Std.OrientedCmp.eq_swap
  isLE_trans := Std.TransCmp.isLE_trans

theorem isLE_or_isLE (a b : α) : ((cmp a b).isLE || (cmp b a).isLE) = true := by
  have swapped : cmp b a = (cmp a b).swap := Std.OrientedCmp.eq_swap
  rw [swapped]
  cases cmp a b <;> rfl

end TotalPreorder

section Passes

variable {ι α : Type}

/-- Passes by several comparisons lose no element and duplicate none. -/
theorem foldr_mergeSort_perm (key : ι → α → α → Ordering) (specs : List ι) (items : List α) :
    (specs.foldr (fun spec rows => mergeSort (key spec) rows) items).Perm items := by
  induction specs with
  | nil => exact List.Perm.refl items
  | cons spec specs inductionHypothesis =>
    exact (mergeSort_perm (key spec) _).trans inductionHypothesis

/-- Passes commute with mapping the elements through what the comparisons read of them. -/
theorem foldl_mergeSort_map {β : Type} (key : ι → α → α → Ordering) (f : β → α) (specs : List ι)
    (items : List β) :
    specs.foldl (fun rows spec => mergeSort (key spec) rows) (items.map f) =
      (specs.foldl (fun rows spec => mergeSort (fun a b => key spec (f a) (f b)) rows) items).map f := by
  induction specs generalizing items with
  | nil => rfl
  | cons spec specs inductionHypothesis =>
    rw [List.foldl_cons, List.foldl_cons, ← map_mergeSort, inductionHypothesis]

/-- Comparison by each key in turn, a later key breaking the ties of the earlier ones. -/
def lexCompare (key : ι → α → α → Ordering) : List ι → α → α → Ordering
  | [] => fun _ _ => .eq
  | spec :: specs => compareLex (key spec) (lexCompare key specs)

theorem lexCompare_comap {β : Type} (key : ι → α → α → Ordering) (f : β → α) (specs : List ι)
    (a b : β) :
    lexCompare (fun spec x y => key spec (f x) (f y)) specs a b =
      lexCompare key specs (f a) (f b) := by
  induction specs with
  | nil => rfl
  | cons spec specs inductionHypothesis => simp [lexCompare, compareLex, inductionHypothesis]

/-- Keys that are each a total preorder compare lexicographically as a total preorder. -/
theorem transCmp_lexCompare (key : ι → α → α → Ordering) (specs : List ι)
    (preorders : ∀ spec ∈ specs, Std.TransCmp (key spec)) :
    Std.TransCmp (lexCompare key specs) := by
  induction specs with
  | nil => exact { eq_swap := rfl, isLE_trans := fun _ _ => rfl }
  | cons spec specs inductionHypothesis =>
    have first := preorders spec List.mem_cons_self
    have rest := inductionHypothesis
      (fun other inSpecs => preorders other (List.mem_cons_of_mem spec inSpecs))
    exact inferInstanceAs (Std.TransCmp (compareLex (key spec) (lexCompare key specs)))

/-- One more pass by `spec` over a list sorted by the later keys (ties by position) sorts it by
`spec` and then the later keys (ties by position). -/
theorem zipIdxLE_cons_of_sortedThen (key : ι → α → α → Ordering) (spec : ι) (specs : List ι)
    [Std.TransCmp (key spec)] {x y : α × Nat}
    (sorted : SortedThen (fun x y : α × Nat => key spec x.1 y.1)
      (fun x y => List.zipIdxLE (fun a b => (lexCompare key specs a b).isLE) x y) x y) :
    List.zipIdxLE (fun a b => (lexCompare key (spec :: specs) a b).isLE) x y := by
  obtain ⟨ordered, tied⟩ := sorted
  have swapped : key spec y.1 x.1 = (key spec x.1 y.1).swap := Std.OrientedCmp.eq_swap
  cases first : key spec x.1 y.1 with
  | lt => simp [List.zipIdxLE, lexCompare, compareLex, first, swapped]
  | eq =>
    have later := tied (by simp [swapped, first])
    simpa [List.zipIdxLE, lexCompare, compareLex, first, swapped] using later
  | gt => simp [first] at ordered

/-- Passes by the keys, last key first, over a list decorated with increasing positions, sort it
lexicographically by the keys and then by position. -/
theorem pairwise_foldr_mergeSort_zipIdxLE (key : ι → α → α → Ordering) (specs : List ι)
    (preorders : ∀ spec ∈ specs, Std.TransCmp (key spec)) (decorated : List (α × Nat))
    (increasing : decorated.Pairwise fun x y => x.2 < y.2) :
    (specs.foldr (fun spec rows => mergeSort (fun x y => key spec x.1 y.1) rows) decorated).Pairwise
      fun x y => List.zipIdxLE (fun a b => (lexCompare key specs a b).isLE) x y := by
  induction specs with
  | nil =>
    refine increasing.imp fun before => ?_
    simp [List.zipIdxLE, lexCompare, Nat.le_of_lt before]
  | cons spec specs inductionHypothesis =>
    have first := preorders spec List.mem_cons_self
    have comap := transCmp_comap (key spec) (Prod.fst : α × Nat → α)
    have sorted := pairwise_mergeSort_sortedThen (fun x y : α × Nat => key spec x.1 y.1) _
      (inductionHypothesis (fun other inSpecs => preorders other (List.mem_cons_of_mem spec inSpecs)))
    exact sorted.imp (zipIdxLE_cons_of_sortedThen key spec specs)

/-- Positions strictly increase along a decorated list. -/
theorem pairwise_snd_lt_zipIdx (items : List α) : items.zipIdx.Pairwise fun x y => x.2 < y.2 := by
  have positions := List.pairwise_lt_range' (s := 0) (n := items.length)
  rw [← List.zipIdx_map_snd] at positions
  exact List.pairwise_map.mp positions

/-- Elements ordered both ways by a position tie-break sit at the same position. -/
theorem snd_eq_of_zipIdxLE {le : α → α → Bool} {x y : α × Nat}
    (before : List.zipIdxLE le x y) (after : List.zipIdxLE le y x) : x.2 = y.2 := by
  unfold List.zipIdxLE at before after
  cases forward : le x.1 y.1 <;> cases backward : le y.1 x.1 <;>
    simp [forward, backward] at before after
  omega

/-- A decorated list holds one element per position. -/
theorem eq_of_mem_zipIdx {items : List α} {x y : α × Nat} (inX : x ∈ items.zipIdx)
    (inY : y ∈ items.zipIdx) (samePosition : x.2 = y.2) : x = y := by
  rw [List.mem_zipIdx_iff_getElem?] at inX inY
  rw [samePosition, inY] at inX
  exact Prod.ext (Option.some.inj inX).symm samePosition

/-- One stable pass per key, last key first, is the library's stable sort by the lexicographic
comparison of the keys: ties on every key keep their input order. -/
theorem foldl_mergeSort_eq_lexCompare (key : ι → α → α → Ordering) (specs : List ι)
    (preorders : ∀ spec ∈ specs, Std.TransCmp (key spec)) (items : List α) :
    specs.reverse.foldl (fun rows spec => mergeSort (key spec) rows) items =
      items.mergeSort (fun a b => (lexCompare key specs a b).isLE) := by
  have lex := transCmp_lexCompare key specs preorders
  -- Decorated with positions, the passes and the library's sort give strictly ordered
  -- permutations of the same list, hence the same list.
  have decorated : specs.foldr (fun spec rows => mergeSort (fun x y => key spec x.1 y.1) rows)
        items.zipIdx =
      items.zipIdx.mergeSort (List.zipIdxLE fun a b => (lexCompare key specs a b).isLE) := by
    apply List.Perm.eq_of_pairwise _
      (pairwise_foldr_mergeSort_zipIdxLE key specs preorders _ (pairwise_snd_lt_zipIdx items))
      (List.pairwise_mergeSort (List.zipIdxLE_trans fun _ _ _ => Std.TransCmp.isLE_trans)
        (List.zipIdxLE_total (isLE_or_isLE (lexCompare key specs))) _)
      ((foldr_mergeSort_perm _ specs _).trans (List.mergeSort_perm _ _).symm)
    intro x y inPasses inSorted before after
    exact eq_of_mem_zipIdx ((foldr_mergeSort_perm _ specs _).mem_iff.mp inPasses)
      ((List.mergeSort_perm _ _).mem_iff.mp inSorted) (snd_eq_of_zipIdxLE before after)
  calc specs.reverse.foldl (fun rows spec => mergeSort (key spec) rows) items
      = specs.reverse.foldl (fun rows spec => mergeSort (key spec) rows)
          (items.zipIdx.map Prod.fst) := by rw [List.zipIdx_map_fst]
    _ = (specs.reverse.foldl (fun rows spec => mergeSort (fun x y => key spec x.1 y.1) rows)
          items.zipIdx).map Prod.fst := foldl_mergeSort_map key Prod.fst specs.reverse items.zipIdx
    _ = (specs.foldr (fun spec rows => mergeSort (fun x y => key spec x.1 y.1) rows)
          items.zipIdx).map Prod.fst := by rw [List.foldl_reverse]
    _ = (items.zipIdx.mergeSort (List.zipIdxLE fun a b => (lexCompare key specs a b).isLE)).map
          Prod.fst := by rw [decorated]
    _ = items.mergeSort (fun a b => (lexCompare key specs a b).isLE) := List.mergeSort_zipIdx

end Passes

end Exec

end RecordQuery
