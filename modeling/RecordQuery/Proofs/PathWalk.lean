import RecordQuery.Exec.Path

/-!
Contract: reading a record along a path of own keys.

Owns:
- `pathSegments_of_plain` and `eq_of_pathSegments_eq_singleton`: a path is one segment exactly
  when it has no dot, and that segment is the path itself;
- `Exec.walk`: the value a list of own keys reaches, when every key exists along the way;
- `resolve?_eq_walk`: when every segment of a path exists along the record, resolving the path is
  walking it, so neither fallback of `resolve?` (null for a missing parent, the container for a
  missing last key) comes into play;
- `resolve?_of_plain`: a key without a dot resolves to the record's own property.
-/

set_option autoImplicit false

namespace RecordQuery

namespace Exec

/-! ### Segments -/

theorem pathSegments_ne_nil (path : String) : pathSegments path ≠ [] := by
  simp [pathSegments, List.splitOn_ne_nil]

/-- A path without a dot is one segment. -/
theorem pathSegments_of_plain {path : String} (plain : '.' ∉ path.toList) :
    pathSegments path = [path] := by
  simp [pathSegments, List.splitOn_eq_singleton plain, String.ofList_toList]

/-- A path of one segment is that segment. -/
theorem eq_of_pathSegments_eq_singleton {path segment : String}
    (single : pathSegments path = [segment]) : segment = path := by
  obtain ⟨chars, split, rfl⟩ : ∃ chars, path.toList.splitOn '.' = [chars] ∧
      String.ofList chars = segment := by
    simpa [pathSegments, List.map_eq_singleton_iff] using single
  -- Joining the pieces at the separator gives the text back.
  have joined : ['.'].intercalate (path.toList.splitOn '.') = path.toList :=
    List.intercalate_splitOn '.'
  rw [split] at joined
  simp only [List.intercalate_singleton] at joined
  rw [joined, String.ofList_toList]

/-! ### Walking a path -/

/-- The value a list of own keys reaches from a value, when every key exists along the way. -/
def walk : Json → List String → Option Json
  | v, [] => some v
  | v, key :: rest => (ownProperty? v key).bind fun next => walk next rest

theorem walk_append (v : Json) (first second : List String) :
    walk v (first ++ second) = (walk v first).bind fun reached => walk reached second := by
  induction first generalizing v with
  | nil => rfl
  | cons key rest inductionHypothesis =>
    cases found : ownProperty? v key <;> simp [walk, found, inductionHypothesis]

/-- Where every parent exists, the walk with null for a missing parent is the plain walk. -/
theorem foldl_ownProperty_of_walk {v reached : Json} :
    ∀ {parents : List String}, walk v parents = some reached →
      parents.foldl (fun current segment => (ownProperty? current segment).getD .null) v =
        reached
  | [], walked => by simpa [walk] using walked
  | segment :: rest, walked => by
    obtain ⟨next, found, walkedRest⟩ := Option.bind_eq_some_iff.mp walked
    simp only [List.foldl_cons, found, Option.getD_some]
    exact foldl_ownProperty_of_walk walkedRest

/-- Where every segment of a path exists along the record, resolving the path walks it. -/
theorem resolve?_eq_walk (record : Json) (path : String)
    (exists_along : (walk record (pathSegments path)).isSome) :
    resolve? record path = walk record (pathSegments path) := by
  unfold resolve?
  rcases reversed : (pathSegments path).reverse with _ | ⟨last, _ | ⟨parent, parents⟩⟩
  · exact absurd (List.reverse_eq_nil_iff.mp reversed) (pathSegments_ne_nil path)
  · -- One segment: the path has no dot and is read as an own key.
    have single : pathSegments path = [last] := by
      simpa using congrArg List.reverse reversed
    rw [single, eq_of_pathSegments_eq_singleton single]
    simp [walk]
  · -- Two segments or more: the parents are walked first, then the last key is read.
    have segments : pathSegments path = (parent :: parents).reverse ++ [last] := by
      rw [← List.reverse_cons, ← reversed, List.reverse_reverse]
    rw [segments, walk_append] at exists_along ⊢
    obtain ⟨reached, walked⟩ := Option.isSome_iff_exists.mp exists_along
    obtain ⟨container, walkedParents, lastWalked⟩ := Option.bind_eq_some_iff.mp walked
    have found : ownProperty? container last = some reached := by
      simpa [walk] using lastWalked
    dsimp only
    rw [foldl_ownProperty_of_walk walkedParents, walkedParents, found]
    simp [walk, found]

/-- A key without a dot reads the record's own property. -/
theorem resolve?_of_plain (record : Json) {path : String} (plain : '.' ∉ path.toList) :
    resolve? record path = ownProperty? record path := by
  simp [resolve?, pathSegments_of_plain plain]

end Exec

end RecordQuery
