import RecordQuery.Proofs.RadixLiteral
import RecordQuery.Proofs.StringLiteral

/-!
Contract: what literal coercion makes of an operand text that spells a number.

Owns:
- `Loose.parseNumber_of_foreign`: a text that holds a character no number is written with (not
  blank, not an ASCII letter or digit, not a sign or a point) reads as NaN; so a text that spells
  a number has no `%` and does not start with `@` (`Loose.noWildcard_of_numericLiteral?`,
  `Loose.unreferenced_of_numericLiteral?`);
- `Query.coerce_of_numericLiteral?`: such a text reaches the number rule unchanged, whatever the
  parameter table and whether or not the leaf is a like leaf;
- `Query.numberValue_cases`: the number rule gives the integer a finite value equals when it lies
  in `[-2 ^ 63, 2 ^ 63)`, the value itself as a float when it is finite otherwise, and a malformed
  literal for an infinity;
- `Query.coerce_numeric_literal`, the two together.

The range test reads the value through `toInt?`, which answers for finite values with no
fractional part (`Binary64.toInt?_eq_some_iff`), so the upper bound `2 ^ 63` itself is a float.
-/

set_option autoImplicit false

namespace RecordQuery

namespace Text

theorem mem_dropWhile_of_not {α : Type} {p : α → Bool} {c : α} {l : List α} (member : c ∈ l)
    (kept : p c = false) : c ∈ l.dropWhile p := by
  rw [← @List.takeWhile_append_dropWhile _ p l] at member
  rcases List.mem_append.mp member with taken | dropped
  · have dropping := List.mem_takeWhile_imp taken
    rw [kept] at dropping
    cases dropping
  · exact dropped

theorem mem_trimBlankChars {c : Char} {cs : List Char} (member : c ∈ cs) (solid : isBlank c = false) :
    c ∈ trimBlankChars cs :=
  List.mem_reverse.mpr (mem_dropWhile_of_not (List.mem_reverse.mpr (mem_dropWhile_of_not member solid)) solid)

end Text

namespace Loose

theorem isAlphanum_of_range {c : Char}
    (range : (48 ≤ c.toNat ∧ c.toNat ≤ 57) ∨ (97 ≤ c.toNat ∧ c.toNat ≤ 122) ∨
      (65 ≤ c.toNat ∧ c.toNat ≤ 90)) : c.isAlphanum = true := by
  simp only [Char.toNat] at range
  simp only [Char.isAlphanum, Char.isAlpha, Char.isUpper, Char.isLower, Char.isDigit, Bool.or_eq_true,
    Bool.and_eq_true, decide_eq_true_eq, UInt32.le_iff_toNat_le, ge_iff_le, Char.reduceVal,
    UInt32.reduceToNat]
  omega

theorem digitIn?_of_not_alphanumeric {c : Char} (notAlphanumeric : c.isAlphanum = false) (radix : Nat) :
    digitIn? radix c = none := by
  cases digit : digitIn? radix c with
  | none => rfl
  | some v =>
    rw [isAlphanum_of_range (alphanumeric_of_digitIn? digit)] at notAlphanumeric
    cases notAlphanumeric

/-- Digits read as no number once one of them is a digit of no base. -/
theorem foldlM_digits_none (radix : Nat) {c : Char} (notDigit : digitIn? radix c = none) :
    ∀ (d : List Char) (acc : Nat), c ∈ d →
      d.foldlM (fun acc c => (digitIn? radix c).map fun v => acc * radix + v) acc = none
  | d :: rest, acc, member => by
    rw [List.foldlM_cons]
    cases digit : digitIn? radix d with
    | none => rfl
    | some v =>
      have later : c ∈ rest := by
        rcases List.mem_cons.mp member with rfl | later
        · rw [notDigit] at digit
          cases digit
        · exact later
      exact foldlM_digits_none radix notDigit rest (acc * radix + v) later

/-- `Infinity` is spelled with letters only. -/
theorem ne_infinity_of_mem {c : Char} {u : List Char} (notAlphanumeric : c.isAlphanum = false)
    (member : c ∈ u) : u ≠ "Infinity".toList := by
  rintro rfl
  have letters : "Infinity".toList.all Char.isAlphanum = true := by decide
  rw [List.all_eq_true.mp letters c member] at notAlphanumeric
  cases notAlphanumeric

/-- A decimal is written with digits, a point, an exponent letter and signs only. -/
theorem isDecimalChar_of_foreign {c : Char} (notAlphanumeric : c.isAlphanum = false) (notPlus : c ≠ '+')
    (notMinus : c ≠ '-') (notPoint : c ≠ '.') : isDecimalChar c = false := by
  have notDigit : c.isDigit = false := by
    simp only [Char.isAlphanum, Bool.or_eq_false_iff] at notAlphanumeric
    exact notAlphanumeric.2
  have notExponent : c ≠ 'e' ∧ c ≠ 'E' := by
    constructor <;> (rintro rfl; cases notAlphanumeric)
  simp [isDecimalChar, notDigit, notPoint, notExponent.1, notExponent.2, notPlus, notMinus]

/-- A text holding a character that no number is written with reads as NaN. -/
theorem parseNumber_of_foreign {text : String} {c : Char} (member : c ∈ text.toList)
    (solid : Text.isBlank c = false) (notAlphanumeric : c.isAlphanum = false) (notPlus : c ≠ '+')
    (notMinus : c ≠ '-') (notPoint : c ≠ '.') : parseNumber text = Binary64.nan := by
  have trimmed := Text.mem_trimBlankChars member solid
  have notDigit := digitIn?_of_not_alphanumeric notAlphanumeric
  unfold parseNumber
  generalize Text.trimBlankChars text.toList = t at trimmed ⊢
  have nonempty : t.isEmpty = false := by
    cases t with
    | nil => cases trimmed
    | cons _ _ => rfl
  simp only [nonempty, Bool.false_eq_true, if_false]
  split
  · -- A prefix is a zero and a letter, so the character is among the digits.
    rename_i radix digits body
    obtain ⟨⟨p, base⟩, found, same⟩ := Option.map_eq_some_iff.mp body
    simp only [Prod.mk.injEq] at same
    obtain ⟨rfl, rfl⟩ := same
    have prefixed := List.mem_of_find?_eq_some found
    have starts : p.isPrefixOf t = true := by simpa using List.find?_some found
    obtain ⟨letter, letterAlphanumeric, rfl⟩ := prefix_shape prefixed
    obtain ⟨rest, rfl⟩ := List.isPrefixOf_iff_prefix.mp starts
    have inDigits : c ∈ rest := by
      simp only [List.cons_append, List.nil_append, List.mem_cons] at trimmed
      rcases trimmed with rfl | rfl | inRest
      · cases notAlphanumeric
      · rw [letterAlphanumeric] at notAlphanumeric
        cases notAlphanumeric
      · exact inRest
    have unread : radixValue? base rest = none := foldlM_digits_none base (notDigit base) rest 0 inDigits
    simp only [List.length_cons, List.length_nil, List.cons_append, List.nil_append, List.drop_succ_cons,
      List.drop_zero, unread]
    split <;> rfl
  · -- Without a prefix the character stays in the text after its sign, where it is neither part
    -- of `Infinity` nor a decimal character.
    have readsNan : ∀ u : List Char, c ∈ u → ∀ (inf : Binary64) (decimal : Binary64),
        (if u = "Infinity".toList then inf else if (!u.all isDecimalChar) = true then Binary64.nan
          else decimal) = Binary64.nan := by
      intro u unsigned inf decimal
      have someNotDecimal : (!u.all isDecimalChar) = true := by
        simpa using List.all_eq_false.mpr
          ⟨c, unsigned, by simp [isDecimalChar_of_foreign notAlphanumeric notPlus notMinus notPoint]⟩
      rw [if_neg (ne_infinity_of_mem notAlphanumeric unsigned), if_pos someNotDecimal]
    split
    · exact readsNan _ ((List.mem_cons.mp trimmed).resolve_left notPlus) _ _
    · exact readsNan _ ((List.mem_cons.mp trimmed).resolve_left notMinus) _ _
    · exact readsNan _ trimmed _ _

/-- A text holding a character that no number is written with spells no number. -/
theorem numericLiteral?_of_foreign {text : String} {c : Char} (member : c ∈ text.toList)
    (solid : Text.isBlank c = false) (notAlphanumeric : c.isAlphanum = false) (notPlus : c ≠ '+')
    (notMinus : c ≠ '-') (notPoint : c ≠ '.') : numericLiteral? text = none := by
  unfold numericLiteral?
  split
  · rfl
  · rw [parseNumber_of_foreign member solid notAlphanumeric notPlus notMinus notPoint]
    rfl

theorem noWildcard_of_numericLiteral? {text : String} {n : Binary64}
    (numeric : numericLiteral? text = some n) : '%' ∉ text.toList := by
  intro member
  rw [numericLiteral?_of_foreign member (by decide) (by decide) (by decide) (by decide) (by decide)]
    at numeric
  cases numeric

/-- A text that spells a number does not start with `@`, so it names no parameter. -/
theorem unreferenced_of_numericLiteral? {text : String} {n : Binary64}
    (numeric : numericLiteral? text = some n) : text.toList.head? ≠ some '@' := by
  intro starts
  rw [numericLiteral?_of_foreign (List.mem_of_mem_head? starts) (by decide) (by decide) (by decide)
    (by decide) (by decide)] at numeric
  cases numeric

theorem isNaN_of_numericLiteral? {text : String} {n : Binary64}
    (numeric : numericLiteral? text = some n) : n.isNaN = false := by
  unfold numericLiteral? at numeric
  split at numeric
  · cases numeric
  · dsimp only at numeric
    split at numeric
    · cases numeric
    · rename_i notNaN
      cases numeric
      simpa using notNaN

end Loose

namespace Query

/-- Expanding like wildcards changes nothing in a text without `%`. -/
theorem expandLike_of_no_wildcard {s : String} (noWildcard : '%' ∉ s.toList) : expandLike s = s := by
  rw [String.ext_iff, expandLike, String.toList_join, List.flatMap_map]
  generalize s.toList = cs at noWildcard ⊢
  induction cs with
  | nil => rfl
  | cons c rest inductionHypothesis =>
    simp only [List.mem_cons, not_or] at noWildcard
    rw [List.flatMap_cons, if_neg (Ne.symm noWildcard.1), inductionHypothesis noWildcard.2]
    simp

/-- A text that spells a number reaches the number rule unchanged, whatever the parameter table
and whether or not the leaf is a like leaf. -/
theorem coerce_of_numericLiteral? (params : Option Params) (field : String) (like : Bool) {s : String}
    {n : Binary64} (numeric : Loose.numericLiteral? s = some n) :
    coerce params field (some (.str s)) like = (numberValue field s n).map some := by
  have expanded : expandLike s = s := expandLike_of_no_wildcard (Loose.noWildcard_of_numericLiteral? numeric)
  unfold coerce
  rw [substitute_of_unreferenced params (Loose.unreferenced_of_numericLiteral? numeric)]
  cases like <;> simp only [expanded, Bool.false_eq_true, if_true, if_false] <;> unfold normalize <;>
    simp only [numeric]

/-- The number rule gives an integer exactly for a finite value that equals an integer in
`[-2 ^ 63, 2 ^ 63)`, and that integer. -/
theorem numberValue_eq_int_iff (field text : String) (n : Binary64) (i : Int) :
    numberValue field text n = .ok (.int i) ↔
      n.isFinite = true ∧ n.toRat = i ∧ -2 ^ 63 ≤ i ∧ i < 2 ^ 63 := by
  rw [← and_assoc, ← Binary64.toInt?_eq_some_iff]
  unfold numberValue
  cases whole : n.toInt? with
  | some j =>
    have bounds : (-(Int.pow 2 63) ≤ j ∧ j < Int.pow 2 63) ↔ (-2 ^ 63 ≤ j ∧ j < 2 ^ 63) := Iff.rfl
    by_cases inRange : -(Int.pow 2 63) ≤ j ∧ j < Int.pow 2 63
    · simp only [inRange, and_self, if_true, Except.ok.injEq, Json.int.injEq, Option.some.injEq]
      constructor
      · rintro rfl
        exact ⟨rfl, bounds.mp inRange⟩
      · rintro ⟨rfl, -⟩
        rfl
    · simp only [inRange, if_false, Except.ok.injEq, reduceCtorEq, Option.some.injEq, false_iff]
      rintro ⟨rfl, bounded⟩
      exact inRange (bounds.mpr bounded)
  | none =>
    simp only [reduceCtorEq, false_and, iff_false]
    split <;> simp

/-- The number rule keeps a finite value as a float when it equals no integer of
`[-2 ^ 63, 2 ^ 63)`. -/
theorem numberValue_of_not_integer (field text : String) {n : Binary64} (finite : n.isFinite = true)
    (outside : ∀ i : Int, n.toRat = i → i < -2 ^ 63 ∨ 2 ^ 63 ≤ i) :
    numberValue field text n = .ok (.float n) := by
  unfold numberValue
  cases whole : n.toInt? with
  | some j =>
    have range := outside j ((Binary64.toInt?_eq_some_iff n j).mp whole).2
    have notInRange : ¬(-(Int.pow 2 63) ≤ j ∧ j < Int.pow 2 63) := by
      change ¬(-2 ^ 63 ≤ j ∧ j < 2 ^ 63)
      omega
    simp only [notInRange, if_false]
  | none => simp only [finite, if_true]

/-- The number rule refuses an infinity as a malformed literal with its own text. -/
theorem numberValue_of_infinite (field text : String) {n : Binary64} (infinite : n.isInfinite = true) :
    numberValue field text n = .error (.malformedLiteral field text .notFinite) := by
  have notFinite : n.isFinite = false := by
    simp only [Binary64.isInfinite, Bool.and_eq_true, beq_iff_eq] at infinite
    simp [Binary64.isFinite, infinite.1]
  have noInteger : n.toInt? = none := by
    cases whole : n.toInt? with
    | none => rfl
    | some j =>
      rw [((Binary64.toInt?_eq_some_iff n j).mp whole).1] at notFinite
      cases notFinite
  unfold numberValue
  simp only [noInteger, notFinite, Bool.false_eq_true, if_false]

/-- A numeric operand text coerces by its value: to the integer it equals when it is integral and
in `[-2 ^ 63, 2 ^ 63)`, to itself as a float when it is finite otherwise, and an infinity is a
malformed literal reported with the text as written and the reason `not a finite number`. This
holds under any parameter table and for like leaves too, since no numeric text starts with `@` or
holds a `%`. -/
theorem coerce_numeric_literal (params : Option Params) (field : String) (like : Bool) {s : String}
    {n : Binary64} (numeric : Loose.numericLiteral? s = some n) :
    (∀ i : Int, coerce params field (some (.str s)) like = .ok (some (.int i)) ↔
        n.isFinite = true ∧ n.toRat = i ∧ -2 ^ 63 ≤ i ∧ i < 2 ^ 63) ∧
      (n.isFinite = true → (∀ i : Int, n.toRat = i → i < -2 ^ 63 ∨ 2 ^ 63 ≤ i) →
        coerce params field (some (.str s)) like = .ok (some (.float n))) ∧
      (n.isInfinite = true →
        coerce params field (some (.str s)) like = .error (.malformedLiteral field s .notFinite) ∧
          (CompileError.malformedLiteral field s .notFinite).message =
            "Literal " ++ s ++ " for field '" ++ field ++ "' is malformed: " ++ "not a finite number") := by
  rw [coerce_of_numericLiteral? params field like numeric]
  refine ⟨fun i => ?integer, fun finite outside => ?float, fun infinite => ?refused⟩
  case integer =>
    rw [← numberValue_eq_int_iff field s n i]
    cases numberValue field s n <;> simp [Except.map]
  case float => rw [numberValue_of_not_integer field s finite outside]; rfl
  case refused => exact ⟨by rw [numberValue_of_infinite field s infinite]; rfl, rfl⟩

/-- The text `9223372036854775808` spells `2 ^ 63`, the first value past the signed 64-bit
range, so it coerces to a float and to no integer. -/
theorem coerce_two_pow_63_literal :
    Loose.numericLiteral? "9223372036854775808" = some (Binary64.ofNat 9223372036854775808) ∧
      ((∀ i : Int, coerce none "f" (some (.str "9223372036854775808")) false = .ok (some (.int i)) ↔
          (Binary64.ofNat 9223372036854775808).isFinite = true ∧
            (Binary64.ofNat 9223372036854775808).toRat = i ∧ -2 ^ 63 ≤ i ∧ i < 2 ^ 63) ∧
        ((Binary64.ofNat 9223372036854775808).isFinite = true →
          (∀ i : Int, (Binary64.ofNat 9223372036854775808).toRat = i → i < -2 ^ 63 ∨ 2 ^ 63 ≤ i) →
            coerce none "f" (some (.str "9223372036854775808")) false =
              .ok (some (.float (Binary64.ofNat 9223372036854775808)))) ∧
        ((Binary64.ofNat 9223372036854775808).isInfinite = true →
          coerce none "f" (some (.str "9223372036854775808")) false =
              .error (.malformedLiteral "f" "9223372036854775808" .notFinite) ∧
            (CompileError.malformedLiteral "f" "9223372036854775808" .notFinite).message =
              "Literal " ++ "9223372036854775808" ++ " for field '" ++ "f" ++ "' is malformed: " ++
                "not a finite number")) := by
  have numeric : Loose.numericLiteral? "9223372036854775808" = some (Binary64.ofNat 9223372036854775808) := by
    decide
  exact ⟨numeric, coerce_numeric_literal none "f" false numeric⟩

end Query

end RecordQuery
