/-!
Contract: sets of code points as sorted ranges, with the set algebra character classes need.

Owns:
- `Text.CodeSet`: inclusive ranges, sorted, disjoint and not adjacent once normalised;
- `CodeSet.ofRanges` (normalising any list of ranges), `union`, `inter`, `diff`, `symmDiff`,
  `complement` (within U+0000–U+10FFFF);
- `CodeSet.contains`, a binary search over the ranges;
- reading a table of ranges written as hexadecimal text (`30-39 41-5A 5F`).
-/

set_option autoImplicit false

namespace RecordQuery

namespace Text

/-- The largest code point. -/
def maxCodePoint : Nat := 0x10FFFF

/-- A set of code points given by inclusive ranges. -/
structure CodeSet where
  ranges : Array (Nat × Nat)
  deriving Inhabited

namespace CodeSet

/-- The empty set. -/
def empty : CodeSet := ⟨#[]⟩

/-- Every code point. -/
def full : CodeSet := ⟨#[(0, maxCodePoint)]⟩

/-- Sorted ranges merged where they overlap or touch. -/
def mergeSorted : List (Nat × Nat) → List (Nat × Nat)
  | [] => []
  | [r] => [r]
  | (a, b) :: (c, d) :: rest =>
    if c ≤ b + 1 then mergeSorted ((a, max b d) :: rest) else (a, b) :: mergeSorted ((c, d) :: rest)
termination_by rs => rs.length

/-- The set of the given ranges (in any order; empty ranges are dropped). -/
def ofRanges (rs : List (Nat × Nat)) : CodeSet :=
  let valid := rs.filter fun r => r.1 ≤ r.2
  ⟨(mergeSorted (valid.mergeSort fun x y => x.1 ≤ y.1)).toArray⟩

/-- The set of one code point. -/
def single (c : Nat) : CodeSet := ⟨#[(c, c)]⟩

/-- The set of one range. -/
def range (lo hi : Nat) : CodeSet := ofRanges [(lo, hi)]

/-- The union of two sets. -/
def union (a b : CodeSet) : CodeSet := ofRanges (a.ranges.toList ++ b.ranges.toList)

/-- The gaps between sorted disjoint ranges, from `next` up to the largest code point. -/
def gaps : List (Nat × Nat) → Nat → List (Nat × Nat)
  | [], next => if next ≤ maxCodePoint then [(next, maxCodePoint)] else []
  | (a, b) :: rest, next => (if next < a then [(next, a - 1)] else []) ++ gaps rest (b + 1)

/-- The code points not in the set. -/
def complement (a : CodeSet) : CodeSet := ⟨(gaps a.ranges.toList 0).toArray⟩

/-- The intersection of two sets. -/
def inter (a b : CodeSet) : CodeSet := (a.complement.union b.complement).complement

/-- The code points of `a` not in `b`. -/
def diff (a b : CodeSet) : CodeSet := a.inter b.complement

/-- The code points in exactly one of the two sets. -/
def symmDiff (a b : CodeSet) : CodeSet := (a.diff b).union (b.diff a)

/-- Binary search for the range holding `c` among `ranges[lo:hi]`. -/
def search (ranges : Array (Nat × Nat)) (c : Nat) : Nat → Nat → Nat → Bool
  | 0, _, _ => false
  | fuel + 1, lo, hi =>
    if hi ≤ lo then false
    else
      let mid := (lo + hi) / 2
      match ranges[mid]? with
      | none => false
      | some (a, b) =>
        if c < a then search ranges c fuel lo mid
        else if b < c then search ranges c fuel (mid + 1) hi
        else true

/-- Whether a code point is in the set. -/
def contains (s : CodeSet) (c : Nat) : Bool :=
  search s.ranges c (s.ranges.size.log2 + 2) 0 s.ranges.size

/-- Whether a character is in the set. -/
def containsChar (s : CodeSet) (c : Char) : Bool := s.contains c.val.toNat

/-- Whether the set has no code point. -/
def isEmpty (s : CodeSet) : Bool := s.ranges.isEmpty

/-- The value of hexadecimal digits. -/
def hexValue (cs : List Char) : Nat :=
  cs.foldl (fun acc c =>
    let d := if '0' ≤ c ∧ c ≤ '9' then c.toNat - 48
      else if 'a' ≤ c ∧ c ≤ 'f' then c.toNat - 87
      else if 'A' ≤ c ∧ c ≤ 'F' then c.toNat - 55
      else 0
    acc * 16 + d) 0

/-- A range written `lo-hi` or a single code point `c`, in hexadecimal. -/
def readRange (word : String) : Nat × Nat :=
  match word.splitOn "-" with
  | [lo, hi] => (hexValue lo.toList, hexValue hi.toList)
  | _ => let c := hexValue word.toList; (c, c)

/-- A set written as space-separated hexadecimal ranges. -/
def ofTable (table : String) : CodeSet :=
  ofRanges ((table.splitOn " ").filter (fun w => !w.isEmpty) |>.map readRange)

end CodeSet

end Text

end RecordQuery
