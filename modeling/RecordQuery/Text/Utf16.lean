/-!
Contract: the UTF-16 code units of a string and the order they give.

Owns:
- `Text.utf16Units`: one unit per character of the basic plane, two (a surrogate pair) per
  character above it;
- `Text.compareUtf16`: the lexicographic order of those units, which differs from code point
  order when a character above U+FFFF meets one between U+E000 and U+FFFF.
-/

set_option autoImplicit false

namespace RecordQuery

namespace Text

/-- The UTF-16 code units of one character. -/
def charUnits (c : Char) : List Nat :=
  let n := c.val.toNat
  if n < 0x10000 then [n]
  else [0xD800 + (n - 0x10000) / 1024, 0xDC00 + (n - 0x10000) % 1024]

/-- The UTF-16 code units of a string. -/
def utf16Units (s : String) : List Nat := s.toList.flatMap charUnits

/-- The lexicographic order of two lists of numbers, a proper prefix first. -/
def compareLex : List Nat → List Nat → Ordering
  | [], [] => .eq
  | [], _ :: _ => .lt
  | _ :: _, [] => .gt
  | a :: as, b :: bs =>
    match compare a b with
    | .eq => compareLex as bs
    | o => o

/-- Strings ordered by their UTF-16 code units. -/
def compareUtf16 (a b : String) : Ordering := compareLex (utf16Units a) (utf16Units b)

end Text

end RecordQuery
