/-!
Contract: blank characters (the Unicode White_Space property) and trimming by them.

Owns:
- `Text.isBlank`: U+0009–U+000D, U+0020, U+0085, U+00A0, U+1680, U+2000–U+200A, U+2028, U+2029,
  U+202F, U+205F and U+3000 (not U+FEFF, not U+200B);
- `Text.trimBlank`: a string without its leading and trailing blanks.
-/

set_option autoImplicit false

namespace RecordQuery

namespace Text

/-- A character with the White_Space property. -/
def isBlank (c : Char) : Bool :=
  let n := c.val
  (0x09 ≤ n && n ≤ 0x0D) || n == 0x20 || n == 0x85 || n == 0xA0 || n == 0x1680 ||
    (0x2000 ≤ n && n ≤ 0x200A) || n == 0x2028 || n == 0x2029 || n == 0x202F || n == 0x205F ||
    n == 0x3000

/-- The characters without leading and trailing blanks. -/
def trimBlankChars (cs : List Char) : List Char :=
  ((cs.dropWhile isBlank).reverse.dropWhile isBlank).reverse

/-- A string without leading and trailing blanks. -/
def trimBlank (s : String) : String := String.ofList (trimBlankChars s.toList)

/-- Every core whitespace character is blank. -/
theorem isBlank_of_isWhitespace (c : Char) (h : c.isWhitespace = true) : isBlank c = true := by
  simp only [Char.isWhitespace, Bool.or_eq_true, decide_eq_true_eq] at h
  rcases h with ((h | h) | h) | h <;> simp [isBlank, h]

end Text

end RecordQuery
