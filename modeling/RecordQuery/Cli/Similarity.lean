import RecordQuery.Number.Binary64

/-!
Contract: how alike two names are, for "a similar … exists" suggestions.

Owns:
- `Cli.jaroCounts`: the Jaro matching of two character lists: characters of the first matched,
  left to right, to the first unmatched equal character of the second within the window
  `max(|a|, |b|) / 2 - 1` of its position; then half the number of matched pairs that are out of
  order;
- `Cli.similarity`: the Jaro similarity `(m/|a| + m/|b| + (m - t)/m) / 3` computed in binary64,
  every quotient and sum rounded as it is formed;
- `Cli.suggestions`: the candidates whose similarity to a name exceeds the binary64 nearest
  `0.7`, ordered from the least to the most similar (a stable order, so equally similar
  candidates keep theirs); the best suggestion is the last.
-/

set_option autoImplicit false

namespace RecordQuery

namespace Cli

/-- The index of the first unmatched character of `b` equal to `c` among positions
`[lo, hi)`, if any. -/
def firstFree (b : Array Char) (taken : Array Bool) (c : Char) (lo : Nat) : Nat → Nat → Option Nat
  | 0, _ => none
  | fuel + 1, j =>
    if b.size ≤ j then none
    else if j < lo then firstFree b taken c lo fuel (j + 1)
    else if b[j]? = some c && !(taken.getD j true) then some j
    else firstFree b taken c lo fuel (j + 1)

/-- Matching the characters of `a` from position `i` on: which positions of `a` and of `b` are
matched. -/
def matchFrom (b : Array Char) (window : Nat) :
    List Char → Nat → List Bool → Array Bool → List Bool × Array Bool
  | [], _, aFlags, bFlags => (aFlags.reverse, bFlags)
  | c :: rest, i, aFlags, bFlags =>
    let lo := i - window
    let hi := min b.size (i + window + 1)
    match firstFree b bFlags c lo hi 0 with
    | some j => matchFrom b window rest (i + 1) (true :: aFlags) (bFlags.set! j true)
    | none => matchFrom b window rest (i + 1) (false :: aFlags) bFlags

/-- The number of matched pairs whose characters differ when both sides are read in order. -/
def outOfOrder : List (Char × Bool) → List Char → Nat
  | [], _ => 0
  | (_, false) :: rest, bs => outOfOrder rest bs
  | (c, true) :: rest, d :: bs => (if c = d then 0 else 1) + outOfOrder rest bs
  | (_, true) :: _, [] => 0

/-- The Jaro counts of two names: matches and transpositions. -/
def jaroCounts (a b : List Char) : Nat × Nat :=
  let window := max a.length b.length / 2 - 1
  let bArr := b.toArray
  let (aFlags, bFlags) := matchFrom bArr window a 0 [] (Array.replicate b.length false)
  let matched := (aFlags.filter id).length
  let bMatched := (b.zip bFlags.toList).filterMap fun (d, f) => if f then some d else none
  (matched, outOfOrder (a.zip aFlags) bMatched / 2)

/-- The quotient `n / d` rounded to binary64. -/
def ratio (n d : Nat) : Binary64 := Binary64.ofRatio false n d

/-- The sum of two finite non-negative values, rounded to binary64. -/
def plus (x y : Binary64) : Binary64 :=
  Binary64.ofRatio false (x.scaledMagnitude + y.scaledMagnitude) (Nat.pow 2 1074)

/-- A third of a finite non-negative value, rounded to binary64. -/
def third (x : Binary64) : Binary64 := Binary64.ofRatio false x.scaledMagnitude (3 * Nat.pow 2 1074)

/-- The Jaro similarity of two names in binary64, each quotient and each sum rounded in the
order `((m/|a| + m/|b|) + (m - t)/m) / 3`; 1 for two empty names, 0 when nothing matches. -/
def similarity (a b : String) : Binary64 :=
  let x := a.toList
  let y := b.toList
  if x.isEmpty && y.isEmpty then Binary64.one
  else if x.isEmpty || y.isEmpty then Binary64.zero false
  else
    let (m, t) := jaroCounts x y
    if m = 0 then Binary64.zero false
    else third (plus (plus (ratio m x.length) (ratio m y.length)) (ratio (m - t) m))

/-- The binary64 nearest `0.7`, the similarity a suggestion must exceed. -/
def confidenceFloor : Binary64 := Binary64.ofDecimal false 7 (-1)

/-- Whether a similarity is high enough to suggest. Rounding matters here: a similarity of
exactly `7/10`, such as `(1/2 + 3/5 + 1) / 3`, rounds above the floor. -/
def confident (s : Binary64) : Bool := confidenceFloor.scaledMagnitude < s.scaledMagnitude

/-- The candidates similar enough to `name`, least similar first (a stable order, so equally
similar candidates keep theirs). -/
def suggestions (name : String) (candidates : List String) : List String :=
  let scored := candidates.filterMap fun c =>
    let s := similarity name c
    if confident s then some (s.scaledMagnitude, c) else none
  (scored.mergeSort fun p q => decide (p.1 ≤ q.1)).map Prod.snd

/-- The most similar candidate, if any is similar enough. -/
def bestSuggestion? (name : String) (candidates : List String) : Option String :=
  (suggestions name candidates).getLast?

end Cli

end RecordQuery
