import RecordQuery.Pattern.Syntax

/-!
Contract: the normal form of patterns and the measures of a node that the automaton's layout
depends on.

Owns:
- `Node.same`, structural equality (sets compare by their ranges, which are canonical);
- `Node.minBytes` and `Node.maxBytes`: the fewest and most UTF-8 bytes a match can span (none
  when the node cannot match, or has no bound);
- `Node.startsAnchored` and `Node.endsAnchored`: whether every match is tied to the start (the
  end) of the text by a test nothing can skip;
- the normalising constructors: `Node.classOf` (the empty set matches nothing, a one-character
  set is a literal, surrogate code points are dropped), `Node.concatOf` (nested concatenations
  flattened, empty items dropped, adjacent literals merged), `Node.altOf` (nested alternations
  flattened; alternatives that are all single characters or all sets become one set; a prefix
  shared by every alternative is factored out) and `Node.repOf` (a body that can only match the
  empty text is repeated at most once; `x{0}` is empty and `x{1}` is `x`).

These rules decide how many states the automaton of a pattern has, so they are part of what
makes a pattern too large.
-/

set_option autoImplicit false

namespace RecordQuery

namespace Pattern

open Text

mutual

/-- Structural equality of nodes. -/
def Node.same : Node → Node → Bool
  | .empty, .empty => true
  | .literal a, .literal b => a == b
  | .set a, .set b => a.ranges == b.ranges
  | .look a, .look b => a == b
  | .rep a m x g, .rep b m' x' g' => m == m' && x == x' && g == g' && a.same b
  | .group i a, .group j b => i == j && a.same b
  | .concat as, .concat bs => Node.sameList as bs
  | .alt as, .alt bs => Node.sameList as bs
  | _, _ => false

/-- Elementwise structural equality of two lists of nodes. -/
def Node.sameList : List Node → List Node → Bool
  | [], [] => true
  | a :: as, b :: bs => a.same b && Node.sameList as bs
  | _, _ => false

end

/-- The number of UTF-8 bytes of a code point. -/
def utf8Width (c : Nat) : Nat :=
  if c < 0x80 then 1 else if c < 0x800 then 2 else if c < 0x10000 then 3 else 4

/-- The number of UTF-8 bytes of a list of characters. -/
def utf8Size (cs : List Char) : Nat := cs.foldl (fun n c => n + utf8Width c.toNat) 0

/-- The sum of optional counts, none if any is none. -/
def sumSome : List (Option Nat) → Option Nat
  | [] => some 0
  | x :: xs => match x, sumSome xs with
    | some a, some b => some (a + b)
    | _, _ => none

/-- The least of optional counts, none if any is none (or the list is empty). -/
def leastSome : List (Option Nat) → Option Nat
  | [] => none
  | [x] => x
  | x :: xs => match x, leastSome xs with
    | some a, some b => some (Nat.min a b)
    | _, _ => none

/-- The greatest of optional counts, none if any is none (or the list is empty). -/
def greatestSome : List (Option Nat) → Option Nat
  | [] => none
  | [x] => x
  | x :: xs => match x, greatestSome xs with
    | some a, some b => some (Nat.max a b)
    | _, _ => none

/-- The fewest UTF-8 bytes a match of the node spans; none if it cannot match. -/
def Node.minBytes : Node → Option Nat
  | .empty => some 0
  | .literal cs => some (utf8Size cs)
  | .set s => s.ranges[0]?.map fun r => utf8Width r.1
  | .look _ => some 0
  | .rep body min _ _ => body.minBytes.map (· * min)
  | .group _ body => body.minBytes
  | .concat items => sumSome (items.attach.map fun ⟨n, _⟩ => n.minBytes)
  | .alt branches => leastSome (branches.attach.map fun ⟨n, _⟩ => n.minBytes)

/-- The most UTF-8 bytes a match of the node spans; none if it has no bound or cannot match. -/
def Node.maxBytes : Node → Option Nat
  | .empty => some 0
  | .literal cs => some (utf8Size cs)
  | .set s => s.ranges.back?.map fun r => utf8Width r.2
  | .look _ => some 0
  | .rep body _ max _ => match max, body.maxBytes with
    | some m, some b => some (b * m)
    | _, _ => none
  | .group _ body => body.maxBytes
  | .concat items => sumSome (items.attach.map fun ⟨n, _⟩ => n.maxBytes)
  | .alt branches => greatestSome (branches.attach.map fun ⟨n, _⟩ => n.maxBytes)

/-- Whether a node can match only the empty text. -/
def Node.onlyEmpty (n : Node) : Bool := n.maxBytes == some 0

mutual

/-- Whether every match of the node begins with the test `l`. -/
def Node.beginsWith (l : Look) : Node → Bool
  | .look t => t == l
  | .rep body min _ _ => 0 < min && body.beginsWith l
  | .group _ body => body.beginsWith l
  | .concat items => Node.leadBeginsWith l items
  | .alt branches => Node.allBeginWith l branches
  | _ => false

/-- Whether a test `l` stands among the items of a sequence that come before (or are) the first
item able to match a character. -/
def Node.leadBeginsWith (l : Look) : List Node → Bool
  | [] => false
  | n :: rest => n.beginsWith l || (n.onlyEmpty && Node.leadBeginsWith l rest)

/-- Whether every branch begins with the test `l` (false for no branches). -/
def Node.allBeginWith (l : Look) : List Node → Bool
  | [] => false
  | [n] => n.beginsWith l
  | n :: rest => n.beginsWith l && Node.allBeginWith l rest

end

mutual

/-- Whether every match of the node ends with the test `l`. -/
def Node.finishesWith (l : Look) : Node → Bool
  | .look t => t == l
  | .rep body min _ _ => 0 < min && body.finishesWith l
  | .group _ body => body.finishesWith l
  | .concat items => Node.tailFinishesWith l items
  | .alt branches => Node.allFinishWith l branches
  | _ => false

/-- Whether a test `l` stands among the items of a sequence that come after (or are) the last
item able to match a character. -/
def Node.tailFinishesWith (l : Look) : List Node → Bool
  | [] => false
  | n :: rest => (rest.all Node.onlyEmpty && n.finishesWith l) || Node.tailFinishesWith l rest

/-- Whether every branch ends with the test `l` (false for no branches). -/
def Node.allFinishWith (l : Look) : List Node → Bool
  | [] => false
  | [n] => n.finishesWith l
  | n :: rest => n.finishesWith l && Node.allFinishWith l rest

end

/-- Whether every match starts at the start of the text. -/
def Node.startsAnchored (n : Node) : Bool := n.beginsWith .startText

/-- Whether every match ends at the end of the text. -/
def Node.endsAnchored (n : Node) : Bool := n.finishesWith .endText

/-- The surrogate code points, which no character is. -/
def surrogates : CodeSet := CodeSet.range 0xD800 0xDFFF

/-- The node of one character of a set. -/
def Node.classOf (s : CodeSet) : Node :=
  let s := s.diff surrogates
  match s.ranges.toList with
  | [] => .never
  | [(a, b)] => if a == b then .literal [Char.ofNat a] else .set s
  | _ => .set s

/-- The items of a concatenation with nested concatenations opened and empty items dropped. -/
def flattenItems (items : List Node) : List Node :=
  items.flatMap fun n => match n with
    | .concat xs => xs
    | .empty => []
    | x => [x]

/-- One more item after `acc` (newest first, literal characters newest first): a literal
joins the literal before it. -/
def pushMerging (acc : List Node) (n : Node) : List Node :=
  match n, acc with
  | .literal b, .literal a :: rest => .literal (b.reverseAux a) :: rest
  | .literal b, _ => .literal b.reverse :: acc
  | n, _ => n :: acc

/-- The characters of a literal put back in reading order. -/
def Node.unreverse : Node → Node
  | .literal cs => .literal cs.reverse
  | n => n

/-- Adjacent literals joined into one. -/
def mergeLiterals (items : List Node) : List Node :=
  (items.foldl pushMerging []).reverse.map Node.unreverse

/-- The concatenation of nodes in normal form. -/
def Node.concatOf (items : List Node) : Node :=
  match mergeLiterals (flattenItems items) with
  | [] => .empty
  | [n] => n
  | ns => .concat ns

/-- The character of a literal of exactly one character. -/
def Node.singleChar? : Node → Option Char
  | .literal [c] => some c
  | _ => none

/-- The set of a set node. -/
def Node.set? : Node → Option CodeSet
  | .set s => some s
  | _ => none

/-- The items of a concatenation node. -/
def Node.items? : Node → Option (List Node)
  | .concat xs => some xs
  | _ => none

/-- The longest common prefix of a list with another, by structural equality. -/
def commonPrefix : List Node → List Node → List Node
  | a :: as, b :: bs => if a.same b then a :: commonPrefix as bs else []
  | _, _ => []

/-- A rough size of a node, bounding how often alternatives can be factored. -/
def Node.size : Node → Nat
  | .rep body _ _ _ => body.size + 1
  | .group _ body => body.size + 1
  | .concat items => (items.attach.map fun ⟨n, _⟩ => n.size).foldl (fun t x => t + x) 0 + 1
  | .alt branches => (branches.attach.map fun ⟨n, _⟩ => n.size).foldl (fun t x => t + x) 0 + 1
  | _ => 1

/-- Alternatives in normal form, with `fuel` bounding how often a shared prefix is factored. -/
def altWithin : Nat → List Node → Node
  | fuel, branches =>
    let flat := branches.flatMap fun n => match n with
      | .alt xs => xs
      | x => [x]
    match flat with
    | [] => .never
    | [n] => n
    | ns =>
      match ns.mapM Node.singleChar? with
      | some cs => Node.classOf (CodeSet.ofRanges (cs.map fun c => (c.toNat, c.toNat)))
      | none =>
        match ns.mapM Node.set? with
        | some sets => Node.classOf (sets.foldl CodeSet.union CodeSet.empty)
        | none =>
          match fuel, ns.mapM Node.items? with
          | fuel + 1, some (first :: others) =>
            let shared := others.foldl commonPrefix first
            if shared.isEmpty then .alt ns
            else
              let rests := (first :: others).map fun xs => Node.concatOf (xs.drop shared.length)
              Node.concatOf (shared ++ [altWithin fuel rests])
          | _, _ => .alt ns

/-- The alternation of nodes in normal form. -/
def Node.altOf (branches : List Node) : Node :=
  altWithin ((branches.map Node.size).foldl (fun t x => t + x) 1) branches

/-- A repetition in normal form. -/
def Node.repOf (body : Node) (min : Nat) (max : Option Nat) (greedy : Bool) : Node :=
  let (min, max) :=
    if body.onlyEmpty then (Nat.min min 1, some (match max with | some m => Nat.min m 1 | none => 1))
    else (min, max)
  if min == 0 && max == some 0 then .empty
  else if min == 1 && max == some 1 then body
  else .rep body min max greedy

end Pattern

end RecordQuery
