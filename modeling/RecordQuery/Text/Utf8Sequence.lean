import RecordQuery.Text.CodeSet

/-!
Contract: the UTF-8 encodings of a range of code points as sequences of byte ranges.

Owns:
- `Text.utf8Bytes`: the UTF-8 encoding of a code point;
- `Text.utf8Sequences`: for an inclusive range of code points, the sequences of byte ranges
  whose products are exactly the encodings of the range's scalar values (surrogates have none),
  in increasing order of code point. All code points of one sequence have encodings of the same
  length, and a sequence of several ranges fixes every byte but those its ranges allow.

The range is cut at the surrogate gap, at the last code point of each encoding length, and then
at the boundaries of 64, 4096 and 262144 code points, until both ends of a piece differ only in
the bytes that may vary independently; each such piece is one sequence.
-/

set_option autoImplicit false

namespace RecordQuery

namespace Text

/-- The UTF-8 encoding of a code point. -/
def utf8Bytes (c : Nat) : List Nat :=
  if c < 0x80 then [c]
  else if c < 0x800 then [0xC0 + c / 64, 0x80 + c % 64]
  else if c < 0x10000 then [0xE0 + c / 4096, 0x80 + c / 64 % 64, 0x80 + c % 64]
  else [0xF0 + c / 262144, 0x80 + c / 4096 % 64, 0x80 + c / 64 % 64, 0x80 + c % 64]

/-- The largest code point whose encoding has `width` bytes (width 1 to 3). -/
def widestOf (width : Nat) : Nat :=
  if width = 1 then 0x7F else if width = 2 then 0x7FF else 0xFFFF

/-- What to do with a range on the way to sequences: drop it, cut it in two (the first part is
handled first), or emit it as one sequence. -/
inductive Cut where
  | drop
  | split (first second : Nat × Nat)
  | emit (sequence : List (Nat × Nat))

/-- The first cut at a boundary of `Nat.pow 64 k` code points, for `k` from 1 to 3, that separates
the two ends of a range: the end of the block holding the start, or the start of the block holding
the end. -/
def blockCut (lo hi : Nat) : Option ((Nat × Nat) × (Nat × Nat)) :=
  [1, 2, 3].findSome? fun k =>
    let size := Nat.pow 64 k
    if lo / size != hi / size then
      if lo % size != 0 then some ((lo, lo - lo % size + size - 1), (lo - lo % size + size, hi))
      else if hi % size != size - 1 then some ((lo, hi - hi % size - 1), (hi - hi % size, hi))
      else none
    else none

/-- The next cut of a range. -/
def cutOf (lo hi : Nat) : Cut :=
  if lo < 0xE000 && 0xD7FF < hi then .split (lo, 0xD7FF) (0xE000, hi)
  else if hi < lo then .drop
  else
    match [1, 2, 3].find? (fun w => lo ≤ widestOf w && widestOf w < hi) with
    | some w => .split (lo, widestOf w) (widestOf w + 1, hi)
    | none =>
      if hi ≤ 0x7F then .emit [(lo, hi)]
      else
        match blockCut lo hi with
        | some (first, second) => .split first second
        | none => .emit ((utf8Bytes lo).zip (utf8Bytes hi))

/-- The sequences of the ranges on a stack (the head first), with `fuel` bounding the steps. -/
def sequencesOf : Nat → List (Nat × Nat) → List (List (Nat × Nat)) → List (List (Nat × Nat))
  | 0, _, out => out.reverse
  | _, [], out => out.reverse
  | fuel + 1, (lo, hi) :: stack, out =>
    match cutOf lo hi with
    | .drop => sequencesOf fuel stack out
    | .split first second => sequencesOf fuel (first :: second :: stack) out
    | .emit s => sequencesOf fuel stack (s :: out)

/-- The byte-range sequences of the scalar values from `lo` to `hi`. -/
def utf8Sequences (lo hi : Nat) : List (List (Nat × Nat)) := sequencesOf 1024 [(lo, hi)] []

end Text

end RecordQuery
