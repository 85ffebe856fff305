import RecordQuery.Loose.Numeric
import RecordQuery.Proofs.ExactIntegers

/-!
Contract: what the loose number reading makes of a base-prefixed literal.

Owns:
- `Text.trimBlankChars_between`: trimming drops exactly the blanks around a text that starts and
  ends with characters that are not blank;
- `Loose.radixBody?_prefixed`: each of the six prefixes `0x 0X 0o 0O 0b 0B` is recognised with
  its base, and the rest of the text is its digits;
- `Loose.radixValue?_digits`: digits of a base read as their positional value;
- `Loose.parseNumber_radix_literal`: blanks, a prefix and a non-empty run of digits of its base
  read as the nearest binary64 to the digits' value when that value is below `2 ^ 64`, and as NaN
  from `2 ^ 64` on; below `2 ^ 53` the value is exact.

The digits are read into an unsigned 64-bit integer first, so a run of digits whose value does not
fit reads as NaN, however well formed it is.
-/

set_option autoImplicit false

namespace RecordQuery

namespace Text

/-- Trimming keeps a text whose first and last characters are not blank, between any blanks. -/
theorem trimBlankChars_between {lead rest trail : List Char} {first : Char}
    (blankLead : ∀ c ∈ lead, isBlank c = true) (blankTrail : ∀ c ∈ trail, isBlank c = true)
    (firstSolid : isBlank first = false)
    (lastSolid : isBlank ((first :: rest).getLast (List.cons_ne_nil first rest)) = false) :
    trimBlankChars (lead ++ (first :: rest) ++ trail) = first :: rest := by
  unfold trimBlankChars
  have ends := List.dropLast_append_getLast (List.cons_ne_nil first rest)
  rw [List.append_assoc, List.dropWhile_append_of_pos blankLead, List.cons_append,
    List.dropWhile_cons_of_neg (by simp [firstSolid]), ← List.cons_append, List.reverse_append,
    List.dropWhile_append_of_pos (by simpa using blankTrail), ← ends, List.reverse_append]
  -- The reversed text starts with its last character, which is not blank.
  rw [List.reverse_singleton, List.singleton_append, List.dropWhile_cons_of_neg (by simp [lastSolid]),
    List.reverse_cons, List.reverse_reverse]

end Text

namespace Loose

theorem toNat_between {c lo hi : Char} (between : lo ≤ c ∧ c ≤ hi) :
    lo.toNat ≤ c.toNat ∧ c.toNat ≤ hi.toNat :=
  between

theorem alphanumeric_of_digitIn? {radix : Nat} {c : Char} {v : Nat} (digit : digitIn? radix c = some v) :
    (48 ≤ c.toNat ∧ c.toNat ≤ 57) ∨ (97 ≤ c.toNat ∧ c.toNat ≤ 122) ∨ (65 ≤ c.toNat ∧ c.toNat ≤ 90) := by
  unfold digitIn? at digit
  by_cases decimal : '0' ≤ c ∧ c ≤ '9'
  · exact .inl (toNat_between decimal)
  · by_cases lower : 'a' ≤ c ∧ c ≤ 'z'
    · exact .inr (.inl (toNat_between lower))
    · by_cases upper : 'A' ≤ c ∧ c ≤ 'Z'
      · exact .inr (.inr (toNat_between upper))
      · simp [decimal, lower, upper] at digit

/-- A digit is not blank, so trimming stops at it. -/
theorem isBlank_of_digitIn? {radix : Nat} {c : Char} {v : Nat} (digit : digitIn? radix c = some v) :
    Text.isBlank c = false := by
  have range := alphanumeric_of_digitIn? digit
  simp only [Text.isBlank, Char.toNat] at range ⊢
  simp only [Bool.or_eq_false_iff, Bool.and_eq_false_iff, decide_eq_false_iff_not,
    beq_eq_false_iff_ne, UInt32.le_iff_toNat_le, ne_eq, UInt32.ext_iff, UInt32.toNat_ofNat]
  omega

/-- Each of the six prefixes is recognised with its base, and what follows it is its digits. -/
theorem radixBody?_prefixed {p : List Char} {radix : Nat} (prefixed : (p, radix) ∈ radixPrefixes)
    (digits : List Char) : radixBody? (p ++ digits) = some (radix, digits) := by
  simp only [radixPrefixes, List.mem_cons, Prod.mk.injEq, List.not_mem_nil, or_false] at prefixed
  rcases prefixed with ⟨rfl, rfl⟩ | ⟨rfl, rfl⟩ | ⟨rfl, rfl⟩ | ⟨rfl, rfl⟩ | ⟨rfl, rfl⟩ | ⟨rfl, rfl⟩ <;>
    simp [radixBody?, radixPrefixes, List.find?, List.isPrefixOf]

/-- Digits of a base, read after an accumulated value, append their positional value to it. -/
theorem foldlM_digits (radix : Nat) :
    ∀ (d : List Char) (ds : List Nat) (acc : Nat), d.map (digitIn? radix) = ds.map some →
      d.foldlM (fun acc c => (digitIn? radix c).map fun v => acc * radix + v) acc =
        some (acc * radix ^ ds.length + Nat.ofDigits radix ds.reverse)
  | [], [], acc, _ => by simp
  | c :: d, v :: vs, acc, digits => by
    simp only [List.map_cons, List.cons.injEq] at digits
    obtain ⟨first, rest⟩ := digits
    rw [List.foldlM_cons, first]
    simp only [Option.map_some, Option.bind_eq_bind, Option.bind_some]
    rw [foldlM_digits radix d vs (acc * radix + v) rest, List.reverse_cons, Nat.ofDigits_append,
      Nat.ofDigits_singleton, List.length_reverse, List.length_cons, Nat.pow_succ]
    ring_nf
  | [], _ :: _, _, digits => by simp at digits
  | _ :: _, [], _, digits => by simp at digits

/-- Digits of a base read as their positional value. -/
theorem radixValue?_digits {radix : Nat} {d : List Char} {ds : List Nat}
    (digits : d.map (digitIn? radix) = ds.map some) :
    radixValue? radix d = some (Nat.ofDigits radix ds.reverse) := by
  unfold radixValue?
  rw [foldlM_digits radix d ds 0 digits]
  simp

theorem prefix_shape {p : List Char} {radix : Nat} (prefixed : (p, radix) ∈ radixPrefixes) :
    ∃ letter, letter.isAlphanum = true ∧ p = ['0', letter] := by
  simp only [radixPrefixes, List.mem_cons, Prod.mk.injEq, List.not_mem_nil, or_false] at prefixed
  rcases prefixed with ⟨rfl, -⟩ | ⟨rfl, -⟩ | ⟨rfl, -⟩ | ⟨rfl, -⟩ | ⟨rfl, -⟩ | ⟨rfl, -⟩ <;>
    exact ⟨_, rfl, rfl⟩

/-- Blanks, a prefix and a non-empty run of digits of its base read as the nearest value to the
digits' value when it fits 64 bits, and as NaN when it does not. -/
theorem parseNumber_radix {p : List Char} {radix : Nat} (prefixed : (p, radix) ∈ radixPrefixes)
    {d : List Char} {ds : List Nat} (digits : d.map (digitIn? radix) = ds.map some) (nonempty : d ≠ [])
    {lead trail : List Char} (blankLead : ∀ c ∈ lead, Text.isBlank c = true)
    (blankTrail : ∀ c ∈ trail, Text.isBlank c = true) :
    parseNumber (String.ofList (lead ++ p ++ d ++ trail)) =
      if Nat.ofDigits radix ds.reverse < 2 ^ 64 then Binary64.ofNat (Nat.ofDigits radix ds.reverse)
      else Binary64.nan := by
  obtain ⟨letter, -, rfl⟩ := prefix_shape prefixed
  -- The last digit is a digit of the base, so trimming keeps it.
  have lastDigit : ∃ v, digitIn? radix (d.getLast nonempty) = some v := by
    have member : digitIn? radix (d.getLast nonempty) ∈ ds.map some := by
      rw [← digits]
      exact List.mem_map_of_mem (List.getLast_mem nonempty)
    obtain ⟨v, _, found⟩ := List.mem_map.mp member
    exact ⟨v, found.symm⟩
  obtain ⟨_, lastIsDigit⟩ := lastDigit
  have trimmed : Text.trimBlankChars (lead ++ ['0', letter] ++ d ++ trail) = '0' :: letter :: d := by
    rw [List.append_assoc lead, List.cons_append, List.cons_append, List.nil_append]
    refine Text.trimBlankChars_between blankLead blankTrail (by decide) ?_
    rw [List.getLast_cons (List.cons_ne_nil _ _), List.getLast_cons nonempty]
    exact isBlank_of_digitIn? lastIsDigit
  have body : radixBody? ('0' :: letter :: d) = some (radix, d) := radixBody?_prefixed prefixed d
  unfold parseNumber
  simp only [String.toList_ofList, trimmed, body, List.isEmpty_cons, Bool.false_eq_true, if_false,
    List.isEmpty_iff, nonempty, radixValue?_digits digits, Binary64.natPow_two_eq]

/-- A base-prefixed literal between blanks is a number exactly when its digits' value fits 64
bits, and below `2 ^ 53` it is that value exactly. -/
theorem radix_literal_nan_iff_overflow {p : List Char} {radix : Nat}
    (prefixed : (p, radix) ∈ radixPrefixes) {d : List Char} {ds : List Nat}
    (digits : d.map (digitIn? radix) = ds.map some) (nonempty : d ≠ []) {lead trail : List Char}
    (blankLead : ∀ c ∈ lead, Text.isBlank c = true) (blankTrail : ∀ c ∈ trail, Text.isBlank c = true) :
    ((parseNumber (String.ofList (lead ++ p ++ d ++ trail))).isNaN = true ↔
        2 ^ 64 ≤ Nat.ofDigits radix ds.reverse) ∧
      (Nat.ofDigits radix ds.reverse < 2 ^ 53 →
        (parseNumber (String.ofList (lead ++ p ++ d ++ trail))).isFinite = true ∧
          (parseNumber (String.ofList (lead ++ p ++ d ++ trail))).toRat =
            (Nat.ofDigits radix ds.reverse : Nat)) := by
  rw [parseNumber_radix prefixed digits nonempty blankLead blankTrail]
  constructor
  · by_cases fits : Nat.ofDigits radix ds.reverse < 2 ^ 64
    · simp only [fits, if_true, Binary64.ofNat, Binary64.ofRatio_isNaN, Bool.false_eq_true, false_iff]
      omega
    · simp only [fits, if_false]
      exact ⟨fun _ => by omega, fun _ => rfl⟩
  · intro small
    rw [if_pos (by omega)]
    exact Binary64.toRat_ofNat small

/-- `0xff` between a space and a tab reads as exactly 255. -/
theorem radix_literal_hex_ff :
    (['0', 'x'], 16) ∈ radixPrefixes ∧ ['f', 'f'].map (digitIn? 16) = [15, 15].map some ∧
      ['f', 'f'] ≠ [] ∧ (∀ c ∈ [' '], Text.isBlank c = true) ∧ (∀ c ∈ ['\t'], Text.isBlank c = true) ∧
      (((parseNumber (String.ofList ([' '] ++ ['0', 'x'] ++ ['f', 'f'] ++ ['\t']))).isNaN = true ↔
          2 ^ 64 ≤ Nat.ofDigits 16 [15, 15].reverse) ∧
        (Nat.ofDigits 16 [15, 15].reverse < 2 ^ 53 →
          (parseNumber (String.ofList ([' '] ++ ['0', 'x'] ++ ['f', 'f'] ++ ['\t']))).isFinite = true ∧
            (parseNumber (String.ofList ([' '] ++ ['0', 'x'] ++ ['f', 'f'] ++ ['\t']))).toRat =
              (Nat.ofDigits 16 [15, 15].reverse : Nat))) := by
  have prefixed : (['0', 'x'], 16) ∈ radixPrefixes := by simp [radixPrefixes]
  have digits : ['f', 'f'].map (digitIn? 16) = [15, 15].map some := by decide
  have blankLead : ∀ c ∈ [' '], Text.isBlank c = true := by simp [Text.isBlank]
  have blankTrail : ∀ c ∈ ['\t'], Text.isBlank c = true := by simp [Text.isBlank]
  exact ⟨prefixed, digits, by simp, blankLead, blankTrail,
    radix_literal_nan_iff_overflow prefixed digits (by simp) blankLead blankTrail⟩

/-- Seventeen hexadecimal digits worth `2 ^ 64` are well formed, yet read as NaN. -/
theorem hex_two_pow_64_reads_nan : (parseNumber "0x10000000000000000").isNaN = true := by
  decide

end Loose

end RecordQuery
