import RecordQuery.Json.Reader
import Mathlib.Data.String.Basic

/-!
Contract: ordered JSON values, the form every JSON value has.

Owns:
- `Json.Ordered`: objects whose keys strictly increase, all the way down. An object is a map,
  kept as a key-sorted field list with each key once;
- the object operations on field lists: reading a key after writing it (`getField?_insertField`),
  writing into ordered fields, which keeps them ordered (`Ordered.insertField`), and writing a
  key's own value, which changes nothing;
- `ordered_of_parse`: every value the reader builds is ordered. Scalars are ordered as they are;
  an array collects ordered items; an object inserts ordered values one key at a time into
  ordered fields.
-/

set_option autoImplicit false

namespace RecordQuery

namespace Json

/-- Objects whose keys strictly increase, all the way down. -/
inductive Ordered : Json → Prop
  | scalar {v : Json} (scalar : v.isComposite = false) : Ordered v
  | arr {items : List Json} (each : ∀ item ∈ items, Ordered item) : Ordered (.arr items)
  | obj {fields : List (String × Json)} (increasing : fields.Pairwise (fun a b => a.1 < b.1))
      (each : ∀ field ∈ fields, Ordered field.2) : Ordered (.obj fields)

theorem mem_of_getField? {key : String} {v : Json} :
    ∀ {fields : List (String × Json)}, getField? key fields = some v → (key, v) ∈ fields
  | (k, w) :: rest, found => by
    by_cases same : k = key
    · simp only [getField?, same, if_true, Option.some.injEq] at found
      simp [same, found]
    · simp only [getField?, same, if_false] at found
      exact List.mem_cons_of_mem _ (mem_of_getField? found)

/-- Reading a key after writing one: the written value at that key, the old value elsewhere. -/
theorem getField?_insertField (k key : String) (v : Json) :
    ∀ fields : List (String × Json),
      getField? k (insertField key v fields) = if k = key then some v else getField? k fields
  | [] => by
    by_cases same : k = key <;> simp [insertField, getField?, same, eq_comm]
  | (k', v') :: rest => by
    by_cases before : key < k'
    · by_cases same : k = key <;> simp [insertField, getField?, before, same, eq_comm]
    · by_cases replaced : key = k'
      · subst replaced
        by_cases same : k = key <;> simp [insertField, getField?, same, eq_comm]
      · simp only [insertField, before, replaced, if_false, getField?]
        rw [getField?_insertField k key v rest]
        by_cases same : k = key
        · subst same
          simp [Ne.symm replaced]
        · simp [same]

/-- Writing into ordered fields the value a key already has changes nothing. -/
theorem insertField_of_getField? {key : String} {v : Json} :
    ∀ {fields : List (String × Json)}, fields.Pairwise (fun a b => a.1 < b.1) →
      getField? key fields = some v → insertField key v fields = fields
  | (k, w) :: rest, increasing, found => by
    by_cases same : k = key
    · subst same
      simp only [getField?, if_true, Option.some.injEq] at found
      simp [insertField, found]
    · -- The key sits further on, so it comes after `k`.
      simp only [getField?, same, if_false] at found
      have later : k < key :=
        (List.pairwise_cons.mp increasing).1 (key, v) (mem_of_getField? found)
      have notBefore : ¬ key < k := lt_asymm later
      simp only [insertField, notBefore, Ne.symm same, if_false]
      rw [insertField_of_getField? (List.pairwise_cons.mp increasing).2 found]

theorem mem_insertField {key : String} {v : Json} {field : String × Json} :
    ∀ {fields : List (String × Json)}, field ∈ insertField key v fields →
      field = (key, v) ∨ field ∈ fields
  | [], member => by simpa [insertField] using member
  | (k, w) :: rest, member => by
    by_cases before : key < k
    · simpa [insertField, before] using member
    · by_cases same : key = k
      · subst same
        simp only [insertField, before, if_true, if_false, List.mem_cons] at member
        rcases member with first | later
        · exact .inl first
        · exact .inr (List.mem_cons_of_mem _ later)
      · simp only [insertField, before, same, if_false, List.mem_cons] at member
        rcases member with first | later
        · exact .inr (List.mem_cons.mpr (.inl first))
        · rcases mem_insertField later with written | old
          · exact .inl written
          · exact .inr (List.mem_cons_of_mem _ old)

/-- Writing into key-sorted fields keeps them key-sorted. -/
theorem pairwise_insertField (key : String) (v : Json) :
    ∀ {fields : List (String × Json)}, fields.Pairwise (fun a b => a.1 < b.1) →
      (insertField key v fields).Pairwise (fun a b => a.1 < b.1)
  | [], _ => by simp [insertField]
  | (k, w) :: rest, increasing => by
    obtain ⟨headBelow, restIncreasing⟩ := List.pairwise_cons.mp increasing
    by_cases before : key < k
    · -- The new key goes first, below the old head and so below all of the rest.
      simp only [insertField, before, if_true]
      refine List.pairwise_cons.mpr ⟨fun field member => ?_, increasing⟩
      rcases List.mem_cons.mp member with rfl | later
      · exact before
      · exact lt_trans before (headBelow field later)
    · by_cases same : key = k
      · subst same
        simp only [insertField, before, if_true, if_false]
        exact List.pairwise_cons.mpr ⟨headBelow, restIncreasing⟩
      · -- The new key goes after the head, which stays below everything inserted into the rest.
        have after : k < key := lt_of_le_of_ne (not_lt.mp before) (Ne.symm same)
        simp only [insertField, before, same, if_false]
        refine List.pairwise_cons.mpr
          ⟨fun field member => ?_, pairwise_insertField key v restIncreasing⟩
        rcases mem_insertField member with rfl | old
        · exact after
        · exact headBelow field old

/-- Writing an ordered value into an ordered object keeps it ordered. -/
theorem Ordered.insertField {fields : List (String × Json)} {key : String} {v : Json}
    (ordered : (Json.obj fields).Ordered) (orderedValue : v.Ordered) :
    (Json.obj (insertField key v fields)).Ordered := by
  cases ordered with
  | scalar scalar => cases scalar
  | obj increasing each =>
    refine .obj (pairwise_insertField key v increasing) fun field member => ?_
    rcases mem_insertField member with rfl | old
    · exact orderedValue
    · exact each field old

theorem Ordered.of_getField? {fields : List (String × Json)} {key : String} {v : Json}
    (ordered : (Json.obj fields).Ordered) (found : getField? key fields = some v) : v.Ordered := by
  cases ordered with
  | scalar scalar => cases scalar
  | obj _ each => exact each (key, v) (mem_of_getField? found)

theorem Ordered.increasing {fields : List (String × Json)} (ordered : (Json.obj fields).Ordered) :
    fields.Pairwise (fun a b => a.1 < b.1) := by
  cases ordered with
  | scalar scalar => cases scalar
  | obj increasing _ => exact increasing

/-! ### Numbers -/

/-- A read that gives a scalar whenever it succeeds. -/
def ReadsScalar (read : Except Failure (Json × Cursor)) : Prop :=
  ∀ v c, read = .ok (v, c) → v.isComposite = false

@[simp] theorem readsScalar_error (failure : Failure) : ReadsScalar (.error failure) := by
  intro v c read
  cases read

@[simp] theorem readsScalar_ok {v : Json} (c : Cursor) :
    ReadsScalar (.ok (v, c)) ↔ v.isComposite = false := by
  constructor
  · intro scalar
    exact scalar v c rfl
  · intro scalar w d read
    cases read
    exact scalar

theorem floatOfParts_scalar (c : Cursor) (positive : Bool) (significand : Nat) (exponent : Int) :
    ReadsScalar (floatOfParts c positive significand exponent) := by
  unfold floatOfParts
  split <;> simp [isComposite]

theorem exponentOverflow_scalar (c : Cursor) (positive zeroSignificand positiveExp : Bool) :
    ReadsScalar (exponentOverflow c positive zeroSignificand positiveExp) := by
  unfold exponentOverflow
  split <;> simp [isComposite]

theorem exponentDigits_scalar (positive : Bool) (significand : Nat) (startingExp : Int)
    (positiveExp : Bool) :
    ∀ (exp : Int) (rest : List Char) (o : Nat),
      ReadsScalar (exponentDigits positive significand startingExp positiveExp exp rest o)
  | exp, ch :: r, o => by
    unfold exponentDigits
    dsimp only
    split
    · split
      · exact exponentOverflow_scalar _ _ _ _
      · exact exponentDigits_scalar positive significand startingExp positiveExp _ r (o + 1)
    · exact floatOfParts_scalar _ _ _ _
  | exp, [], o => by
    unfold exponentDigits
    dsimp only
    exact floatOfParts_scalar _ _ _ _

theorem exponentPart_scalar (c : Cursor) (positive : Bool) (significand : Nat) (startingExp : Int) :
    ReadsScalar (exponentPart c positive significand startingExp) := by
  unfold exponentPart
  dsimp only
  split <;> (try split) <;> simp [exponentDigits_scalar]

theorem afterDroppedDigits_scalar (c : Cursor) (positive : Bool) (significand : Nat)
    (exponent : Int) : ReadsScalar (afterDroppedDigits c positive significand exponent) := by
  unfold afterDroppedDigits
  dsimp only
  split <;> simp [exponentPart_scalar, floatOfParts_scalar]

theorem fractionDigits_scalar (positive : Bool) (exponentBefore : Int) :
    ∀ (significand : Nat) (after : Int) (rest : List Char) (o : Nat),
      ReadsScalar (fractionDigits positive exponentBefore significand after rest o)
  | significand, after, ch :: r, o => by
    unfold fractionDigits
    dsimp only
    split
    · split
      · exact afterDroppedDigits_scalar _ _ _ _
      · exact fractionDigits_scalar positive exponentBefore _ (after - 1) r (o + 1)
    · split_ifs <;> simp [exponentPart_scalar, floatOfParts_scalar]
  | significand, after, [], o => by
    unfold fractionDigits
    split_ifs <;> simp [floatOfParts_scalar]

theorem fractionPart_scalar (c : Cursor) (positive : Bool) (significand : Nat)
    (exponentBefore : Int) : ReadsScalar (fractionPart c positive significand exponentBefore) :=
  fractionDigits_scalar _ _ _ _ _ _

theorem afterInteger_scalar (c : Cursor) (positive : Bool) (significand : Nat) :
    ReadsScalar (afterInteger c positive significand) := by
  unfold afterInteger
  split
  · exact fractionPart_scalar _ _ _ _
  · exact exponentPart_scalar _ _ _ _
  · exact exponentPart_scalar _ _ _ _
  · split_ifs <;> simp [isComposite]

theorem longIntegerDigits_scalar (positive : Bool) (significand : Nat) :
    ∀ (exponent : Nat) (rest : List Char) (o : Nat),
      ReadsScalar (longIntegerDigits positive significand exponent rest o)
  | exponent, ch :: r, o => by
    unfold longIntegerDigits
    split
    · exact longIntegerDigits_scalar positive significand (exponent + 1) r (o + 1)
    · split_ifs <;> simp [fractionPart_scalar, exponentPart_scalar, floatOfParts_scalar]
  | exponent, [], o => by
    unfold longIntegerDigits
    exact floatOfParts_scalar _ _ _ _

theorem integerDigits_scalar (positive : Bool) :
    ∀ (significand : Nat) (rest : List Char) (o : Nat),
      ReadsScalar (integerDigits positive significand rest o)
  | significand, ch :: r, o => by
    unfold integerDigits
    dsimp only
    split
    · split
      · exact longIntegerDigits_scalar _ _ _ _ _
      · exact integerDigits_scalar positive _ r (o + 1)
    · exact afterInteger_scalar _ _ _
  | significand, [], o => by
    unfold integerDigits
    exact afterInteger_scalar _ _ _

/-- A number literal reads as an integer or a float. -/
theorem number_scalar (c : Cursor) (positive : Bool) : ReadsScalar (number c positive) := by
  unfold number
  dsimp only
  split
  · simp
  · split
    · split <;> simp [afterInteger_scalar]
    · exact afterInteger_scalar _ _ _
  · split <;> simp [integerDigits_scalar]

theorem readsScalar_map {α : Type} (read : Except Failure α) (f : α → Json × Cursor)
    (scalar : ∀ a, (f a).1.isComposite = false) : ReadsScalar (read.map f) := by
  intro v c mapped
  cases read with
  | error => cases mapped
  | ok a =>
    have same : f a = (v, c) := Except.ok.inj mapped
    simpa [same] using scalar a

theorem identTail_scalar {value : Json} (scalar : value.isComposite = false) :
    ∀ (expected : List Char) (c : Cursor), ReadsScalar (identTail value expected c)
  | [], c => by simpa [identTail] using scalar
  | ch :: more, c => by
    unfold identTail
    split
    · simp
    · split
      · exact identTail_scalar scalar more _
      · simp

/-! ### Values -/

mutual

/-- A value read with any fuel and nesting allowance is ordered. -/
theorem value_ordered : ∀ (fuel depth : Nat) (c : Cursor) {v : Json} {c' : Cursor},
    value fuel depth c = .ok (v, c') → v.Ordered
  | 0, depth, c, v, c', read => by simp [value] at read
  | fuel + 1, depth, c, v, c', read => by
    unfold value at read
    dsimp only at read
    -- One case for each way a value can start.
    split at read
    · cases read
    · exact .scalar (identTail_scalar rfl _ _ v c' read)
    · exact .scalar (identTail_scalar rfl _ _ v c' read)
    · exact .scalar (identTail_scalar rfl _ _ v c' read)
    · exact .scalar (number_scalar _ _ v c' read)
    · exact .scalar (readsScalar_map _ _ (fun _ => rfl) v c' read)
    · split at read
      · cases read
      · exact items_ordered fuel (depth - 1) true [] _ (by simp) read
    · split at read
      · cases read
      · exact fields_ordered fuel (depth - 1) true [] _ (.obj .nil (by simp)) read
    · split at read
      · exact .scalar (number_scalar _ _ v c' read)
      · cases read

/-- The items of an array, read after ordered ones, make an ordered array. -/
theorem items_ordered : ∀ (fuel depth : Nat) (first : Bool) (acc : List Json) (c : Cursor)
    {v : Json} {c' : Cursor}, (∀ item ∈ acc, item.Ordered) →
    items fuel depth first acc c = .ok (v, c') → v.Ordered
  | 0, depth, first, acc, c, v, c', _, read => by simp [items] at read
  | fuel + 1, depth, first, acc, c, v, c', each, read => by
    unfold items at read
    dsimp only at read
    split at read
    · cases read
    · -- The closing bracket: the items read so far, in order.
      cases read
      exact .arr fun item member => each item (List.mem_reverse.mp member)
    · -- A separator, then an item, then the rest of the array.
      split at read
      · cases read
      · split at read
        · cases read
        · cases read
        · split at read
          · cases read
          · rename_i item _ readItem
            exact items_ordered fuel depth false _ _
              (List.forall_mem_cons.mpr ⟨value_ordered fuel depth _ readItem, each⟩) read

/-- The fields of an object, inserted into ordered ones, make an ordered object. -/
theorem fields_ordered : ∀ (fuel depth : Nat) (first : Bool) (acc : List (String × Json))
    (c : Cursor) {v : Json} {c' : Cursor}, (Json.obj acc).Ordered →
    fields fuel depth first acc c = .ok (v, c') → v.Ordered
  | 0, depth, first, acc, c, v, c', _, read => by simp [fields] at read
  | fuel + 1, depth, first, acc, c, v, c', ordered, read => by
    unfold fields at read
    dsimp only at read
    split at read
    · cases read
    · -- The closing brace: the fields inserted so far.
      cases read
      exact ordered
    · -- A separator, then a key, a colon and a value, then the rest of the object.
      split at read
      · cases read
      · split at read
        · cases read
        · cases read
        · split at read
          · cases read
          · split at read
            · cases read
            · split at read
              · cases read
              · rename_i _ _ readValue
                exact fields_ordered fuel depth false _ _
                  (ordered.insertField (value_ordered fuel depth _ readValue)) read
            · cases read
        · cases read

end

/-- Every value read from a text is ordered: its objects list their keys in increasing order, each
once, all the way down. -/
theorem ordered_of_parse {text : String} {v : Json} (read : parse text = .ok v) : v.Ordered := by
  unfold parse at read
  dsimp only at read
  split at read
  next _ _ located =>
    -- The text is one value with only blanks after it, and that value is the result.
    cases read
    cases whole : value (2 * text.toList.length + 8) 128 ⟨text.toList, 0⟩ with
    | error failure => simp [whole, bind, Except.bind] at located
    | ok result =>
      obtain ⟨w, c⟩ := result
      simp only [whole, bind, Except.bind] at located
      split at located
      · cases located
        exact value_ordered _ _ _ whole
      · cases located
  next => cases read

end Json

end RecordQuery
