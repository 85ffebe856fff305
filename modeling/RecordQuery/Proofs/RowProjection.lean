import RecordQuery.Proofs.PathWalk
import RecordQuery.Proofs.OrderedJson
import RecordQuery.Exec.Project

/-!
Contract: a projected row is a part of its record, and reads like the record along every selected
path.

Owns:
- `Exec.Restricts`: `v` is a part of `w` when it is `w` itself, or an object each of whose keys is
  an own key of `w`, with a value that is a part of `w`'s value there; `FieldsWithin`, the same
  for the fields of a row under construction;
- `project_restricts_record`: when no plain entry is renamed, by its alias or by the field map,
  the row is a part of the record; and, for an ordered record (every record read from text is
  one, `Json.ordered_of_parse`), walking a selected path whose segments all exist along the
  record reaches exactly what the path resolves to, whatever the order of the entries and however
  dotted and plain entries overlap or share prefixes.

The induction is over the entries, with one step lemma per kind of entry, and for a dotted entry
over the segments of its branch. A step keeps the row a part of the record, keeps every complete
path complete (walking it in the row reaches what it reaches in the record) and makes the entry's
own path complete. A branch stops at a slot that holds no object; that slot is a part of the
record that is no object, so it is the record's value itself, and the path is complete already.
-/

set_option autoImplicit false

namespace RecordQuery

namespace Exec

open Query

/-! ### One value as a part of another -/

@[simp] theorem ownProperty?_obj (fields : List (String × Json)) (key : String) :
    ownProperty? (.obj fields) key = Json.getField? key fields := rfl

/-- `v` is a part of `w`: `w` itself, or an object each of whose keys is an own key of `w` with a
value that is a part of `w`'s value there. -/
inductive Restricts : Json → Json → Prop
  | self (v : Json) : Restricts v v
  | obj {fields : List (String × Json)} {w : Json}
      (present : ∀ key u, Json.getField? key fields = some u → (ownProperty? w key).isSome)
      (below : ∀ key u wk, Json.getField? key fields = some u → ownProperty? w key = some wk →
        Restricts u wk) :
      Restricts (.obj fields) w

/-- The fields of a row under construction are a part of a source value. -/
def FieldsWithin (fields : List (String × Json)) (source : Json) : Prop :=
  ∀ key u, Json.getField? key fields = some u →
    ∃ wk, ownProperty? source key = some wk ∧ Restricts u wk

theorem FieldsWithin.nil (source : Json) : FieldsWithin [] source := by
  intro key u found
  cases found

/-- The value a field of a row sits on is a part of the source's value under the same key. -/
theorem FieldsWithin.below {fields : List (String × Json)} {source : Json} {key : String}
    {u next : Json} (within : FieldsWithin fields source)
    (held : Json.getField? key fields = some u) (found : ownProperty? source key = some next) :
    Restricts u next := by
  obtain ⟨wk, reached, part⟩ := within key u held
  rw [found] at reached
  exact Option.some.inj reached ▸ part

theorem FieldsWithin.restricts {fields : List (String × Json)} {source : Json}
    (within : FieldsWithin fields source) : Restricts (.obj fields) source := by
  refine Restricts.obj (fun key u found => ?_) (fun key u wk found reached => ?_)
  · obtain ⟨wk, reached, _⟩ := within key u found
    simp [reached]
  · exact within.below found reached

/-- An object that is a part of a value has its fields within that value. -/
theorem Restricts.fieldsWithin {fields : List (String × Json)} {w : Json}
    (part : Restricts (.obj fields) w) : FieldsWithin fields w := by
  cases part with
  | self => exact fun key u found => ⟨u, found, Restricts.self u⟩
  | obj present below =>
    intro key u found
    obtain ⟨wk, reached⟩ := Option.isSome_iff_exists.mp (present key u found)
    exact ⟨wk, reached, below key u wk found reached⟩

/-- A part of a value that is no object is the value itself. -/
theorem Restricts.eq_of_not_obj {v w : Json} (part : Restricts v w)
    (notObj : ∀ fields, v ≠ .obj fields) : v = w := by
  cases part with
  | self => rfl
  | obj => exact absurd rfl (notObj _)

/-- Writing under a key a part of the source's value there keeps the fields within the source. -/
theorem FieldsWithin.insert {fields : List (String × Json)} {source : Json} {key : String}
    {v wk : Json} (within : FieldsWithin fields source) (found : ownProperty? source key = some wk)
    (part : Restricts v wk) : FieldsWithin (Json.insertField key v fields) source := by
  intro k u read
  rw [Json.getField?_insertField] at read
  by_cases same : k = key
  · subst same
    simp only [if_true, Option.some.injEq] at read
    exact ⟨wk, found, read ▸ part⟩
  · simp only [same, if_false] at read
    exact within k u read

theorem ordered_of_ownProperty? {source v : Json} {key : String} (ordered : source.Ordered)
    (found : ownProperty? source key = some v) : v.Ordered := by
  cases ordered with
  | scalar scalar => cases source <;> simp_all [ownProperty?, Json.isComposite]
  | arr each =>
    obtain ⟨i, _, item⟩ := Option.bind_eq_some_iff.mp found
    exact each v (List.mem_of_getElem? item)
  | obj _ each => exact each (key, v) (Json.mem_of_getField? found)

/-- Walking into an object after writing a key: the written value under that key. -/
theorem walk_insertField (k : String) (v : Json) (slot : List (String × Json)) (key : String)
    (path : List String) :
    walk (.obj (Json.insertField k v slot)) (key :: path) =
      if key = k then walk v path else walk (.obj slot) (key :: path) := by
  by_cases same : key = k <;> simp [walk, Json.getField?_insertField, same]

/-! ### Copying a branch -/

section Branch

variable (last : String)

/-- Copying a branch keeps the row's fields a part of the source. -/
theorem fieldsWithin_copyInto : ∀ (segments : List String) {source : Json}
    {slot : List (String × Json)},
    FieldsWithin slot source → FieldsWithin (copyInto source last segments slot) source
  | [], source, slot, within => by
    cases found : ownProperty? source last with
    | none => simpa [copyInto, found] using within
    | some v =>
      simp only [copyInto, found]
      exact within.insert found (Restricts.self v)
  | segment :: rest, source, slot, within => by
    cases found : ownProperty? source segment with
    | none => simpa [copyInto, found] using within
    | some next =>
      cases held : Json.getField? segment slot with
      | none =>
        simp only [copyInto, found, held]
        exact within.insert found (fieldsWithin_copyInto rest (FieldsWithin.nil next)).restricts
      | some u =>
        cases u with
        | obj inner =>
          have inner_within := (within.below held found).fieldsWithin
          simp only [copyInto, found, held]
          exact within.insert found (fieldsWithin_copyInto rest inner_within).restricts
        | _ => simpa [copyInto, found, held] using within

/-- Copying the fields of an ordered object into themselves changes nothing. -/
theorem copyInto_self : ∀ (segments : List String) {fields : List (String × Json)},
    (Json.obj fields).Ordered → copyInto (.obj fields) last segments fields = fields
  | [], fields, ordered => by
    cases found : Json.getField? last fields with
    | none => simp [copyInto, found]
    | some v =>
      simp [copyInto, found, Json.insertField_of_getField? ordered.increasing found]
  | segment :: rest, fields, ordered => by
    cases found : Json.getField? segment fields with
    | none => simp [copyInto, found]
    | some next =>
      cases next with
      | obj inner =>
        have kept := copyInto_self rest (ordered.of_getField? found)
        simp [copyInto, found, kept,
          Json.insertField_of_getField? ordered.increasing found]
      | _ => simp [copyInto, found]

/-- Copying a branch completes its own path: walking it in the row reaches what it reaches in the
source. -/
theorem walk_copyInto_own : ∀ (segments : List String) {source x : Json}
    {slot : List (String × Json)}, FieldsWithin slot source →
    walk source (segments ++ [last]) = some x →
      walk (.obj (copyInto source last segments slot)) (segments ++ [last]) = some x
  | [], source, x, slot, _, walked => by
    have found : ownProperty? source last = some x := by simpa [walk] using walked
    simp [copyInto, found, walk_insertField, walk]
  | segment :: rest, source, x, slot, within, walked => by
    obtain ⟨next, found, walkedRest⟩ := Option.bind_eq_some_iff.mp walked
    cases held : Json.getField? segment slot with
    | none =>
      have copied := walk_copyInto_own rest (FieldsWithin.nil next) walkedRest
      simp [copyInto, found, held, walk_insertField, copied]
    | some u =>
      cases u with
      | obj inner =>
        have copied := walk_copyInto_own rest (within.below held found).fieldsWithin walkedRest
        simp [copyInto, found, held, walk_insertField, copied]
      | _ =>
        -- The slot holds no object, so it is the source's value itself and the path reads on
        -- through it.
        have same := (within.below held found).eq_of_not_obj (by simp)
        have unchanged : copyInto source last (segment :: rest) slot = slot := by
          simp [copyInto, found, held]
        rw [unchanged, ← walked]
        simp [walk, held, found, same]

/-- Copying a branch writes under its first segment only. -/
theorem getField?_copyInto_of_ne (segments : List String) (source : Json)
    (slot : List (String × Json)) {key : String} (other : key ≠ segments.headD last) :
    Json.getField? key (copyInto source last segments slot) = Json.getField? key slot := by
  cases segments with
  | nil =>
    have other : key ≠ last := other
    cases found : ownProperty? source last <;>
      simp [copyInto, found, Json.getField?_insertField, other]
  | cons segment rest =>
    have other : key ≠ segment := other
    cases found : ownProperty? source segment with
    | none => simp [copyInto, found]
    | some next =>
      cases held : Json.getField? segment slot with
      | none => simp [copyInto, found, held, Json.getField?_insertField, other]
      | some u => cases u <;> simp [copyInto, found, held, Json.getField?_insertField, other]

theorem walk_copyInto_of_ne (segments : List String) (source : Json)
    (slot : List (String × Json)) {key : String} (path : List String)
    (other : key ≠ segments.headD last) :
    walk (.obj (copyInto source last segments slot)) (key :: path) =
      walk (.obj slot) (key :: path) := by
  simp [walk, getField?_copyInto_of_ne last segments source slot other]

/-- Copying a branch keeps every path on which the row already agrees with an ordered source. -/
theorem walk_copyInto_of_agrees : ∀ (segments : List String) {source : Json}
    {slot : List (String × Json)}, source.Ordered → ∀ path, (walk source path).isSome →
    walk (.obj slot) path = walk source path →
      walk (.obj (copyInto source last segments slot)) path = walk source path
  | segments, source, slot, ordered, [], _, agrees => by
    -- Agreeing on the empty path, the row is the source, and copying into it changes nothing.
    have same : Json.obj slot = source := Option.some.inj agrees
    subst same
    rw [copyInto_self last segments ordered]
  | [], source, slot, _, key :: path, _, agrees => by
    by_cases other : key = last
    · -- The path reads the copied key, which now holds the source's value.
      subst other
      cases found : ownProperty? source key with
      | none => simpa [copyInto, found] using agrees
      | some v =>
        simp only [copyInto, found]
        rw [walk_insertField, if_pos rfl]
        simp [walk, found]
    · rw [walk_copyInto_of_ne last [] source slot path other]
      exact agrees
  | segment :: rest, source, slot, ordered, key :: path, complete, agrees => by
    by_cases other : key = segment
    · -- The path goes through the branch: it agreed on the slot, so the slot holds an object
      -- that agrees with the source's value there, or the copy stops.
      subst other
      cases found : ownProperty? source key with
      | none => simpa [copyInto, found] using agrees
      | some next =>
        have completeNext : (walk next path).isSome := by simpa [walk, found] using complete
        cases held : Json.getField? key slot with
        | none =>
          have missing : walk (.obj slot) (key :: path) = none := by simp [walk, held]
          rw [missing] at agrees
          rw [← agrees] at complete
          cases complete
        | some u =>
          have agreesNext : walk u path = walk next path := by
            simpa [walk, held, found] using agrees
          cases u with
          | obj inner =>
            have kept := walk_copyInto_of_agrees rest (ordered_of_ownProperty? ordered found)
              path completeNext agreesNext
            simp only [copyInto, found, held]
            rw [walk_insertField, if_pos rfl, kept]
            simp [walk, found]
          | _ => simpa [copyInto, found, held] using agrees
    · rw [walk_copyInto_of_ne last (segment :: rest) source slot path other]
      exact agrees

end Branch

/-! ### Projecting a record -/

/-- A plain entry is written under its own name and read from it: its alias, if it has one, is its
name, and the field map sends its name to no other key. -/
def keepsOwnName (fieldMap : FieldMap) (f : SelectField) : Prop :=
  f.isNested = false →
    f.asName.getD f.name = f.name ∧ (fieldMap.projectionKey? f.name).getD f.name = f.name

instance (fieldMap : FieldMap) : DecidablePred (keepsOwnName fieldMap) := fun _ =>
  inferInstanceAs (Decidable (_ → _ ∧ _))

/-- A path is its segments before the last one, then the last one. -/
theorem pathSegments_eq_dropLast_append (path : String) :
    pathSegments path = (pathSegments path).dropLast ++ [(pathSegments path).getLastD ""] := by
  have nonempty := pathSegments_ne_nil path
  rw [List.getLastD_eq_getLast?, List.getLast?_eq_some_getLast nonempty, Option.getD_some,
    List.dropLast_append_getLast nonempty]

/-- An entry that keeps its own name copies the branch its path names; for a plain entry that
branch is the one key. -/
theorem projectField_eq_copyInto {fieldMap : FieldMap} {f : SelectField}
    (keeps : keepsOwnName fieldMap f) (record : Json) (output : List (String × Json)) :
    projectField fieldMap record output f =
      copyInto record ((pathSegments f.name).getLastD "") (pathSegments f.name).dropLast
        output := by
  unfold projectField
  by_cases nested : f.isNested = true
  · simp [nested, copyBranch]
  · have plain : f.isNested = false := by simpa using nested
    obtain ⟨unaliased, unmapped⟩ := keeps plain
    have noDot : '.' ∉ f.name.toList := by simpa [SelectField.isNested] using plain
    simp [plain, unaliased, unmapped, pathSegments_of_plain noDot, copyInto]

section Fold

variable {fieldMap : FieldMap} {record : Json}

theorem fieldsWithin_foldl_projectField : ∀ {fields : List SelectField}
    {output : List (String × Json)}, (∀ f ∈ fields, keepsOwnName fieldMap f) →
    FieldsWithin output record →
      FieldsWithin (fields.foldl (projectField fieldMap record) output) record
  | [], _, _, within => within
  | f :: rest, _, keeps, within => by
    obtain ⟨keepsFirst, keepsRest⟩ := List.forall_mem_cons.mp keeps
    rw [List.foldl_cons, projectField_eq_copyInto keepsFirst]
    exact fieldsWithin_foldl_projectField keepsRest (fieldsWithin_copyInto _ _ within)

/-- The entries keep every path on which the row already agrees with an ordered record. -/
theorem walk_foldl_projectField_of_agrees (ordered : record.Ordered) :
    ∀ {fields : List SelectField} {output : List (String × Json)},
    (∀ f ∈ fields, keepsOwnName fieldMap f) → ∀ path, (walk record path).isSome →
    walk (.obj output) path = walk record path →
      walk (.obj (fields.foldl (projectField fieldMap record) output)) path = walk record path
  | [], _, _, _, _, agrees => agrees
  | f :: rest, _, keeps, path, complete, agrees => by
    obtain ⟨keepsFirst, keepsRest⟩ := List.forall_mem_cons.mp keeps
    rw [List.foldl_cons, projectField_eq_copyInto keepsFirst]
    exact walk_foldl_projectField_of_agrees ordered keepsRest path complete
      (walk_copyInto_of_agrees _ _ ordered path complete agrees)

/-- Every selected path that exists along an ordered record reads in the row as in the record. -/
theorem walk_foldl_projectField_selected (ordered : record.Ordered) :
    ∀ {fields : List SelectField} {output : List (String × Json)},
    (∀ f ∈ fields, keepsOwnName fieldMap f) → FieldsWithin output record →
    ∀ f ∈ fields, (walk record (pathSegments f.name)).isSome →
      walk (.obj (fields.foldl (projectField fieldMap record) output)) (pathSegments f.name) =
        walk record (pathSegments f.name)
  | [], _, _, _, _, member, _ => by cases member
  | g :: rest, _, keeps, within, f, member, complete => by
    obtain ⟨keepsFirst, keepsRest⟩ := List.forall_mem_cons.mp keeps
    rw [List.foldl_cons, projectField_eq_copyInto keepsFirst]
    rcases List.mem_cons.mp member with same | later
    · -- The entry's own step completes its path, and the later entries keep it.
      subst same
      obtain ⟨x, walked⟩ := Option.isSome_iff_exists.mp complete
      rw [pathSegments_eq_dropLast_append] at walked
      have own := walk_copyInto_own _ _ within walked
      rw [← pathSegments_eq_dropLast_append] at own walked
      exact walk_foldl_projectField_of_agrees ordered keepsRest _ complete (own.trans walked.symm)
    · exact walk_foldl_projectField_selected ordered keepsRest (fieldsWithin_copyInto _ _ within)
        f later complete

end Fold

/-- When no plain entry is renamed, by its alias or by the field map, the row is a part of the
record: the record itself for a wildcard list, else an object whose every key is an own key of the
record with a part of its value there. And for an ordered record, every selected path whose
segments all exist along the record reads in the row exactly as it resolves in the record,
whatever the order of the entries and however they overlap. -/
theorem project_restricts_record (fields : List SelectField) (fieldMap : FieldMap) (record : Json)
    (keeps : ∀ f ∈ fields, keepsOwnName fieldMap f) :
    Restricts (project fields fieldMap record) record ∧
      (record.Ordered → ∀ f ∈ fields, (walk record (pathSegments f.name)).isSome →
        walk (project fields fieldMap record) (pathSegments f.name) = resolve? record f.name) := by
  unfold project
  by_cases whole : keepsWhole fields = true
  · rw [if_pos whole]
    exact ⟨Restricts.self record,
      fun _ f _ complete => (resolve?_eq_walk record f.name complete).symm⟩
  · rw [if_neg whole]
    refine ⟨(fieldsWithin_foldl_projectField keeps (FieldsWithin.nil record)).restricts, ?_⟩
    intro ordered f member complete
    rw [resolve?_eq_walk record f.name complete]
    exact walk_foldl_projectField_selected ordered keeps (FieldsWithin.nil record) f member complete

/-- A plain entry, then a dotted entry into the branch it copied, then a dotted entry under an
alias, which is ignored, over an ordered record. -/
theorem overlapping_entries_restrict_record :
    Restricts (project [⟨"a", none⟩, ⟨"a.b", none⟩, ⟨"c.d", some "e"⟩] FieldMap.empty
        (.obj [("a", .obj [("b", .int 1), ("c", .int 2)]), ("c", .obj [("d", .null)])]))
      (.obj [("a", .obj [("b", .int 1), ("c", .int 2)]), ("c", .obj [("d", .null)])]) ∧
    ∀ f ∈ ([⟨"a", none⟩, ⟨"a.b", none⟩, ⟨"c.d", some "e"⟩] : List SelectField),
      (walk (.obj [("a", .obj [("b", .int 1), ("c", .int 2)]), ("c", .obj [("d", .null)])])
        (pathSegments f.name)).isSome →
      walk (project [⟨"a", none⟩, ⟨"a.b", none⟩, ⟨"c.d", some "e"⟩] FieldMap.empty
          (.obj [("a", .obj [("b", .int 1), ("c", .int 2)]), ("c", .obj [("d", .null)])]))
        (pathSegments f.name) =
      resolve? (.obj [("a", .obj [("b", .int 1), ("c", .int 2)]), ("c", .obj [("d", .null)])])
        f.name := by
  have ordered : (Json.obj [("a", .obj [("b", .int 1), ("c", .int 2)]),
      ("c", .obj [("d", .null)])]).Ordered := by
    refine .obj (by decide) ?_
    simp only [List.mem_cons, List.not_mem_nil, or_false, forall_eq_or_imp, forall_eq]
    refine ⟨.obj (by decide) ?_, .obj (by decide) ?_⟩
    · simp only [List.mem_cons, List.not_mem_nil, or_false, forall_eq_or_imp, forall_eq]
      exact ⟨.scalar rfl, .scalar rfl⟩
    · simp only [List.mem_cons, List.not_mem_nil, or_false, forall_eq]
      exact .scalar rfl
  exact (project_restricts_record _ _ _ (by decide)).imp_right fun reads => reads ordered

end Exec

end RecordQuery
