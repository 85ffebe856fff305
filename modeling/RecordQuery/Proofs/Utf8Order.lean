import RecordQuery.Text.Utf8Sequence
import Mathlib

/-!
Contract: UTF-8 keeps the order of code points, so texts compare as their bytes.

Owns:
- `Text.utf8Encode`: the UTF-8 bytes of a text, its characters' encodings in order;
- `Text.utf8Bytes_append_lt`: the encoding of a smaller code point is smaller, whatever bytes
  follow either encoding;
- `Text.utf8Encode_lt_iff`: one text is below another exactly when its bytes are, so sorting by
  characters and sorting by bytes agree.

The first byte of an encoding grows with the code point and tells the encoding's length
(`0x00–0x7F`, `0xC0–0xDF`, `0xE0–0xEF`, `0xF0–`); within one length the bytes are the code
point's digits in base 64 below a fixed lead. So two encodings differ before either ends, and the
first difference goes the way of the code points.
-/

set_option autoImplicit false

namespace RecordQuery

namespace Text

/-- The UTF-8 bytes of a text: the encodings of its characters, in order. -/
def utf8Encode (s : String) : List Nat := s.toList.flatMap fun c => utf8Bytes c.toNat

theorem utf8Bytes_ne_nil (c : Nat) : utf8Bytes c ≠ [] := by
  unfold utf8Bytes
  split_ifs <;> simp

/-- The encoding of a smaller code point is smaller, whatever follows either encoding: the two
differ before either ends. -/
theorem utf8Bytes_append_lt {a b : Nat} (lt : a < b) (s t : List Nat) :
    utf8Bytes a ++ s < utf8Bytes b ++ t := by
  unfold utf8Bytes
  -- One case per pair of encoding lengths; the first differing byte is found by arithmetic.
  split_ifs <;> simp only [List.cons_append, List.nil_append, List.cons_lt_cons_iff] <;> omega

/-- Encoding character by character keeps the order of character lists. -/
theorem flatMap_utf8Bytes_lt {x y : List Char} (lt : x < y) :
    (x.flatMap fun c => utf8Bytes c.toNat) < y.flatMap fun c => utf8Bytes c.toNat := by
  induction lt with
  | nil =>
    rename_i b rest
    rw [List.flatMap_nil, List.flatMap_cons]
    obtain ⟨first, more, encoded⟩ := List.exists_cons_of_ne_nil (utf8Bytes_ne_nil b.toNat)
    rw [encoded, List.cons_append]
    exact List.nil_lt_cons _ _
  | rel smaller =>
    rw [List.flatMap_cons, List.flatMap_cons]
    exact utf8Bytes_append_lt smaller _ _
  | cons _ inductionHypothesis =>
    rw [List.flatMap_cons, List.flatMap_cons]
    exact List.append_left_lt inductionHypothesis

/-- Texts compare as their UTF-8 bytes. -/
theorem utf8Encode_lt_iff (s t : String) : utf8Encode s < utf8Encode t ↔ s < t := by
  unfold utf8Encode
  rw [String.lt_iff_toList_lt]
  constructor
  · intro bytesBelow
    -- Otherwise `t` is below or equal to `s`, and so are its bytes.
    by_contra notBelow
    rcases List.le_iff_lt_or_eq.mp (List.not_lt.mp notBelow) with below | same
    · exact List.lt_asymm bytesBelow (flatMap_utf8Bytes_lt below)
    · rw [same] at bytesBelow
      exact List.lt_irrefl _ bytesBelow
  · exact flatMap_utf8Bytes_lt

end Text

end RecordQuery
