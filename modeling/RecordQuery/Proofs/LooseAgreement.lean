import RecordQuery.Exec.Filter

/-!
Contract: loose equality and loose order agree.

Owns:
- `Text.compareLex_swap` and `Text.compareLex_eq_eq_iff`: the lexicographic order of code units
  read the other way round is reversed, and it says `eq` only of equal lists;
- `Text.utf16Units_injective`: the UTF-16 code units of a string determine it. A character of the
  basic plane is one unit outside the surrogate range, any other a high surrogate then a low one,
  so no unit sequence is two characters' at once;
- `Binary64.compare?_swap`: the IEEE order read the other way round is reversed;
- `Loose.looseEq_agrees_with_looseCompare`: the loose order of two operands is the reverse of the
  order of the same operands swapped, loose equality is symmetric, and on operands that are
  neither absent nor null and not both composite, loose equality is exactly an `eq` of the loose
  order, so an `eq` leaf holds exactly when both the `lte` and the `gte` leaves hold.

The law stops at its boundary: null equals only null and no value but orders as 0, and two
composites are equal only as one stored value while their display texts may order them `eq`.
-/

set_option autoImplicit false

namespace RecordQuery

namespace Text

/-- The lexicographic order read the other way round is reversed. -/
theorem compareLex_swap : ∀ xs ys : List Nat, compareLex xs ys = (compareLex ys xs).swap
  | [], [] => rfl
  | [], _ :: _ => rfl
  | _ :: _, [] => rfl
  | a :: as, b :: bs => by
    simp only [compareLex]
    rw [← Nat.compare_swap b a, compareLex_swap as bs]
    cases compare b a <;> rfl

/-- The lexicographic order says `eq` only of equal lists. -/
theorem compareLex_eq_eq_iff : ∀ xs ys : List Nat, compareLex xs ys = .eq ↔ xs = ys
  | [], [] => by simp [compareLex]
  | [], _ :: _ => by simp [compareLex]
  | _ :: _, [] => by simp [compareLex]
  | a :: as, b :: bs => by
    simp only [compareLex, List.cons.injEq]
    cases heads : compare a b with
    | eq => simp [Nat.compare_eq_eq.mp heads, compareLex_eq_eq_iff as bs]
    | lt => simp [Nat.ne_of_lt (Nat.compare_eq_lt.mp heads)]
    | gt => simp [Nat.ne_of_gt (Nat.compare_eq_gt.mp heads)]

theorem charUnits_ne_nil (c : Char) : charUnits c ≠ [] := by
  unfold charUnits
  dsimp only
  split <;> simp

/-- The units of one character, followed by anything, tell the character and what follows. -/
theorem charUnits_append_inj {c d : Char} {xs ys : List Nat}
    (same : charUnits c ++ xs = charUnits d ++ ys) : c = d ∧ xs = ys := by
  -- A character is below U+D800, or above U+DFFF and below U+110000.
  have cValid : c.toNat < 0xD800 ∨ (0xDFFF < c.toNat ∧ c.toNat < 0x110000) := c.valid
  have dValid : d.toNat < 0xD800 ∨ (0xDFFF < d.toNat ∧ d.toNat < 0x110000) := d.valid
  have sameChar : c.toNat = d.toNat → c = d := Char.toNat_inj.mp
  unfold charUnits at same
  dsimp only at same
  simp only [Char.toNat] at cValid dValid sameChar
  by_cases cBasic : c.val.toNat < 0x10000 <;> by_cases dBasic : d.val.toNat < 0x10000 <;>
    simp only [cBasic, dBasic, if_true, if_false, List.cons_append, List.nil_append,
      List.cons.injEq] at same
  · exact ⟨sameChar same.1, same.2⟩
  · -- A basic-plane character is no high surrogate.
    omega
  · omega
  · exact ⟨sameChar (by omega), same.2.2⟩

theorem flatMap_charUnits_injective :
    ∀ {cs ds : List Char}, cs.flatMap charUnits = ds.flatMap charUnits → cs = ds
  | [], [], _ => rfl
  | [], d :: _, same => by
    simp only [List.flatMap_nil, List.flatMap_cons] at same
    exact absurd (List.append_eq_nil_iff.mp same.symm).1 (charUnits_ne_nil d)
  | c :: _, [], same => by
    simp only [List.flatMap_nil, List.flatMap_cons] at same
    exact absurd (List.append_eq_nil_iff.mp same).1 (charUnits_ne_nil c)
  | c :: cs, d :: ds, same => by
    simp only [List.flatMap_cons] at same
    obtain ⟨rfl, rest⟩ := charUnits_append_inj same
    rw [flatMap_charUnits_injective rest]

/-- The UTF-16 code units of a string determine it. -/
theorem utf16Units_injective {a b : String} (same : utf16Units a = utf16Units b) : a = b :=
  String.toList_inj.mp (flatMap_charUnits_injective same)

theorem compareUtf16_swap (a b : String) : compareUtf16 a b = (compareUtf16 b a).swap :=
  compareLex_swap _ _

/-- Two strings are `eq` in UTF-16 order exactly when they are equal. -/
theorem compareUtf16_eq_eq_iff (a b : String) : compareUtf16 a b = .eq ↔ a = b := by
  unfold compareUtf16
  rw [compareLex_eq_eq_iff]
  exact ⟨utf16Units_injective, fun same => same ▸ rfl⟩

end Text

namespace Binary64

/-- The IEEE order read the other way round is reversed; NaN stays unordered. -/
theorem compare?_swap (x y : Binary64) : x.compare? y = (y.compare? x).map Ordering.swap := by
  unfold compare?
  rw [Bool.or_comm y.isNaN, Bool.and_comm y.isZero]
  by_cases unordered : (x.isNaN || y.isNaN) = true
  · simp [unordered]
  · by_cases zeros : (x.isZero && y.isZero) = true
    · simp [unordered, zeros]
    · -- Both ordered and not both zero: the signs, then the magnitudes, decide.
      simp only [unordered, zeros]
      cases x.negative <;> cases y.negative <;> simp [Nat.compare_swap]

theorem equals_comm (x y : Binary64) : x.equals y = y.equals x := by
  unfold equals
  rw [compare?_swap x y]
  cases y.compare? x with
  | none => rfl
  | some order => cases order <;> rfl

end Binary64

namespace Loose

namespace Operand

theorem looseCompare_swap (l r : Operand) : l.looseCompare r = (r.looseCompare l).map Ordering.swap := by
  cases l <;> cases r
  case text.text a b => exact congrArg some (Text.compareUtf16_swap a b)
  -- Every other pair is ordered by number.
  all_goals exact Binary64.compare?_swap _ _

theorem looseEq_comm (l r : Operand) : l.looseEq r = r.looseEq l := by
  cases l <;> cases r <;> simp [looseEq, isNullish, Binary64.equals_comm, Bool.beq_comm]

/-- On operands that are neither absent nor null, loose equality is an `eq` of the loose order. -/
theorem looseEq_iff_looseCompare_eq (l r : Operand) (lPresent : l.isNullish = false)
    (rPresent : r.isNullish = false) : l.looseEq r = true ↔ l.looseCompare r = some .eq := by
  cases l <;> cases r <;> simp only [isNullish, Bool.true_eq_false] at lPresent rPresent
  case text.text a b => simp [looseEq, looseCompare, isNullish, Text.compareUtf16_eq_eq_iff]
  case bool.bool a b => cases a <;> cases b <;> decide
  -- Every other pair is compared by number on both sides.
  all_goals simp [looseEq, looseCompare, isNullish, Binary64.equals]

end Operand

theorem ofJson?_isNullish {a : Option Json} (present : a ≠ none) (notNull : a ≠ some .null) :
    (Operand.ofJson? a).isNullish = false := by
  cases a with
  | none => exact absurd rfl present
  | some v => cases v <;> simp_all [Operand.ofJson?, Operand.isNullish]

theorem looseCompare_swap (a b : Option Json) :
    looseCompare a b = (looseCompare b a).map Ordering.swap :=
  Operand.looseCompare_swap _ _

theorem looseEq_comm (a b : Option Json) : looseEq a b = looseEq b a := by
  unfold looseEq looseEqShared
  rw [Bool.and_comm, Operand.looseEq_comm]

/-- Loose equality of present, non-null operands that are not both composite is an `eq` of the
loose order. -/
theorem looseEq_iff_looseCompare_eq {a b : Option Json} (aPresent : a ≠ none)
    (aNotNull : a ≠ some .null) (bPresent : b ≠ none) (bNotNull : b ≠ some .null)
    (notBothComposite : ¬(isCompositeOperand a = true ∧ isCompositeOperand b = true)) :
    looseEq a b = true ↔ looseCompare a b = some .eq := by
  have primitive : looseEq a b = (Operand.ofJson? a).looseEq (Operand.ofJson? b) := by
    unfold looseEq looseEqShared
    rw [if_neg (by simpa using notBothComposite)]
  rw [primitive]
  exact Operand.looseEq_iff_looseCompare_eq _ _ (ofJson?_isNullish aPresent aNotNull)
    (ofJson?_isNullish bPresent bNotNull)

end Loose

namespace Exec

/-- Where loose equality is an `eq` of the loose order, an `eq` leaf holds exactly when both the
`lte` and the `gte` leaves hold. -/
theorem compareHolds_eq_of_agree {a b : Option Json}
    (agree : Loose.looseEq a b = true ↔ Loose.looseCompare a b = some .eq) :
    compareHolds a .eq b = (compareHolds a .lte b && compareHolds a .gte b) := by
  simp only [compareHolds]
  rw [Bool.eq_iff_iff, agree]
  cases Loose.looseCompare a b with
  | none => simp
  | some order => cases order <;> simp

end Exec

namespace Loose

/-- Loose order is reversed by swapping the operands and loose equality is symmetric; on operands
that are neither absent nor null and not both arrays or objects, loose equality holds exactly
when the loose order says `eq`, so an `eq` leaf accepts exactly when the `lte` and `gte` leaves
both do. -/
theorem looseEq_agrees_with_looseCompare (a b : Option Json) :
    looseCompare a b = (looseCompare b a).map Ordering.swap ∧ looseEq a b = looseEq b a ∧
      (a ≠ none → a ≠ some .null → b ≠ none → b ≠ some .null →
        ¬(isCompositeOperand a = true ∧ isCompositeOperand b = true) →
        (looseEq a b = true ↔ looseCompare a b = some .eq) ∧
          Exec.compareHolds a .eq b = (Exec.compareHolds a .lte b && Exec.compareHolds a .gte b)) := by
  refine ⟨looseCompare_swap a b, looseEq_comm a b, ?_⟩
  intro aPresent aNotNull bPresent bNotNull notBothComposite
  have agree := looseEq_iff_looseCompare_eq aPresent aNotNull bPresent bNotNull notBothComposite
  exact ⟨agree, Exec.compareHolds_eq_of_agree agree⟩

/-- The number 2007 and the text `2007`: present, not null and not composite, so equality and
order agree on them. -/
theorem looseEq_agrees_on_number_and_numeric_text :
    some (Json.int 2007) ≠ none ∧ some (Json.int 2007) ≠ some .null ∧
      some (Json.str "2007") ≠ none ∧ some (Json.str "2007") ≠ some .null ∧
      ¬(isCompositeOperand (some (.int 2007)) = true ∧
        isCompositeOperand (some (.str "2007")) = true) ∧
      (looseEq (some (.int 2007)) (some (.str "2007")) = true ↔
          looseCompare (some (.int 2007)) (some (.str "2007")) = some .eq) ∧
        Exec.compareHolds (some (.int 2007)) .eq (some (.str "2007")) =
          (Exec.compareHolds (some (.int 2007)) .lte (some (.str "2007")) &&
            Exec.compareHolds (some (.int 2007)) .gte (some (.str "2007"))) := by
  have aPresent : some (Json.int 2007) ≠ none := Option.some_ne_none _
  have aNotNull : some (Json.int 2007) ≠ some .null := by simp
  have bPresent : some (Json.str "2007") ≠ none := Option.some_ne_none _
  have bNotNull : some (Json.str "2007") ≠ some .null := by simp
  have notBothComposite : ¬(isCompositeOperand (some (.int 2007)) = true ∧
      isCompositeOperand (some (.str "2007")) = true) := by
    simp [isCompositeOperand, Json.isComposite]
  exact ⟨aPresent, aNotNull, bPresent, bNotNull, notBothComposite,
    (looseEq_agrees_with_looseCompare _ _).2.2 aPresent aNotNull bPresent bNotNull notBothComposite⟩

/-- Null against 0 is the boundary: they are not loosely equal, yet null orders as 0. -/
example : looseEq (some .null) (some (.int 0)) = false ∧
    looseCompare (some .null) (some (.int 0)) = some .eq := by
  decide

end Loose

end RecordQuery
