import Std.Data.HashMap
import RecordQuery.Pattern.Normal
import RecordQuery.Text.Utf8Sequence

/-!
Contract: the memory the byte automaton of a pattern occupies while it is built, and the limit
it must stay within.

The automaton is built by Thompson's construction over bytes, once forwards (with the states
that record groups) and once backwards (without them). Every state costs `stateBytes`; a state
with byte ranges costs `transitionBytes` more per range, and a choice state `alternateBytes` more
per alternative it is linked to. A pattern is too large when either build exceeds `sizeLimit`.

Owns:
- `Pattern.Tally`: the states made so far and the memory they take; each state is known by the
  count of states before it, and the caches of the class layouts key on these numbers;
- the layout of one character class: an ASCII class is one state with a range per run, ended by
  an empty state; a wider class is laid out forwards as a minimal automaton of its UTF-8
  sequences (states with equal transitions shared through a cache of 10000 slots), and backwards
  as one chain of byte states per sequence (chains sharing a tail through a cache of 1000 slots);
- the layout of an alternation of literals as a trie of their bytes, keeping the order in which
  the alternatives are preferred;
- `Node.footprint` for both directions, with a prefix that lets a match start anywhere unless
  every match is tied to the start (backwards: the end) of the text;
- `Node.fitsLimit`: whether both builds stay within the limit.

Laying out stops early once the limit is passed, so a repetition count far beyond it costs no
more than the limit.
-/

set_option autoImplicit false

namespace RecordQuery

namespace Pattern

open Text

/-- The memory of one state. -/
def stateBytes : Nat := 32

/-- The memory of one byte-range transition. -/
def transitionBytes : Nat := 8

/-- The memory of one alternative of a choice state. -/
def alternateBytes : Nat := 4

/-- The most memory an automaton may take while it is built: 10 MiB. -/
def sizeLimit : Nat := 10 * 1024 * 1024

/-- The states made so far and the memory they take. -/
structure Tally where
  states : Nat
  memory : Nat
  deriving Inhabited

namespace Tally

/-- Nothing built yet. -/
def zero : Tally := ⟨0, 0⟩

/-- One more state, with `extra` memory beyond the state itself. -/
def state (t : Tally) (extra : Nat) : Tally := ⟨t.states + 1, t.memory + stateBytes + extra⟩

/-- A link out of a state: it costs an alternative when the state is a choice. -/
def link (t : Tally) (fromChoice : Bool) : Tally :=
  if fromChoice then ⟨t.states, t.memory + alternateBytes⟩ else t

/-- Whether the memory is past the limit. -/
def pastLimit (t : Tally) : Bool := sizeLimit < t.memory

end Tally

/-- A laid-out piece: the tally after it and whether the state it ends in is a choice, which
decides what linking onwards from it costs. -/
abbrev Piece := Tally × Bool

/-- The direction an automaton reads the text in. -/
inductive Direction where
  | forward
  | backward
  deriving BEq

/-! ## Hashing of the layout caches -/

/-- One step of the 64-bit FNV-1a hash. -/
def fnvStep (h : UInt64) (x : Nat) : UInt64 := (h ^^^ x.toUInt64) * 1099511628211

/-- The start value of the 64-bit FNV-1a hash. -/
def fnvStart : UInt64 := 14695981039346656037

/-- A transition of the forward class automaton: a byte range and the state it leads to. -/
abbrev Transition := Nat × Nat × Nat

/-- The cache slot of a state's transitions (10000 slots). -/
def transitionsSlot (ts : Array Transition) : Nat :=
  (ts.foldl (fun h (lo, hi, next) => fnvStep (fnvStep (fnvStep h lo) hi) next) fnvStart).toNat % 10000

/-- The cache slot of a byte state leading to `next` (1000 slots). -/
def suffixSlot (next lo hi : Nat) : Nat :=
  (fnvStep (fnvStep (fnvStep fnvStart next) lo) hi).toNat % 1000

/-! ## Forward layout of a wide class: a minimal automaton of its UTF-8 sequences -/

/-- A state of the sequence trie not yet laid out: its finished transitions and the range of the
transition still open. -/
structure Open where
  transitions : Array Transition
  pending : Option (Nat × Nat)

/-- The transitions of an open state with its open range closed towards `next`. -/
def Open.close (o : Open) (next : Nat) : Array Transition :=
  match o.pending with
  | some (lo, hi) => o.transitions.push (lo, hi, next)
  | none => o.transitions

/-- The forward class builder: the tally, the state every sequence ends in, the cache of laid-out
states by slot, and the open states from the root down. -/
structure Minimizer where
  tally : Tally
  target : Nat
  cache : Std.HashMap Nat (Array Transition × Nat)
  opened : Array Open

namespace Minimizer

/-- The state with the given transitions: a cached one if its slot holds the same transitions,
else a new one, which then takes the slot. -/
def lay (m : Minimizer) (ts : Array Transition) : Minimizer × Nat :=
  let slot := transitionsSlot ts
  match m.cache.get? slot with
  | some (key, id) =>
    if key == ts then (m, id)
    else
      let id := m.tally.states
      ({ m with tally := m.tally.state (transitionBytes * ts.size), cache := m.cache.insert slot (ts, id) }, id)
  | none =>
    let id := m.tally.states
    ({ m with tally := m.tally.state (transitionBytes * ts.size), cache := m.cache.insert slot (ts, id) }, id)

/-- Lay out the open states below depth `keep`, deepest first, and close the open range at depth
`keep` towards what was laid out. -/
def settle (m : Minimizer) (keep : Nat) : Minimizer :=
  let rec go : Nat → Minimizer → Nat → Minimizer
    | 0, m, _ => m
    | fuel + 1, m, next =>
      if keep + 1 < m.opened.size then
        match m.opened.back? with
        | some o =>
          let (m, id) := { m with opened := m.opened.pop }.lay (o.close next)
          go fuel m id
        | none => m
      else
        match m.opened.back? with
        | some o => { m with opened := m.opened.pop.push ⟨o.close next, none⟩ }
        | none => m
  go (m.opened.size + 1) m m.target

/-- How many leading ranges of a sequence repeat the open ranges of the open states. -/
def sharedDepth (m : Minimizer) (seq : List (Nat × Nat)) : Nat :=
  let rec go : Nat → List (Nat × Nat) → Nat
    | i, r :: rest =>
      match m.opened[i]? with
      | some o => if o.pending == some r then go (i + 1) rest else i
      | none => i
    | i, [] => i
  go 0 seq

/-- Add one sequence, the sequences coming in increasing order. -/
def add (m : Minimizer) (seq : List (Nat × Nat)) : Minimizer :=
  let depth := m.sharedDepth seq
  let m := m.settle depth
  match seq.drop depth with
  | [] => m
  | first :: rest =>
    let opened := match m.opened.back? with
      | some o => m.opened.pop.push { o with pending := some first }
      | none => m.opened
    { m with opened := rest.foldl (fun acc r => acc.push ⟨#[], some r⟩) opened }

/-- Lay out what is still open, the root last. -/
def finish (m : Minimizer) : Tally :=
  let m := m.settle 0
  match m.opened[0]? with
  | some root => (m.lay root.transitions).1.tally
  | none => m.tally

end Minimizer

/-- The ranges of a class, each split into its UTF-8 sequences. -/
def classSequences (s : CodeSet) : List (List (Nat × Nat)) :=
  s.ranges.toList.flatMap fun (lo, hi) => utf8Sequences lo hi

/-- The forward layout of a class beyond ASCII. -/
def wideClassForward (t : Tally) (s : CodeSet) : Tally :=
  let m : Minimizer := ⟨t.state 0, t.states, {}, #[⟨#[], none⟩]⟩
  ((classSequences s).foldl Minimizer.add m).finish

/-- The backward layout of a class beyond ASCII: a choice, an end state, and per sequence a chain
of byte states read last byte first, sharing chains that end alike. -/
def wideClassBackward (t : Tally) (s : CodeSet) : Tally :=
  let t := (t.state 0).state 0
  let finalState := t.states - 1
  let step (acc : Tally × Std.HashMap Nat ((Nat × Nat × Nat) × Nat)) (seq : List (Nat × Nat)) :=
    let (t, cache) := acc
    let (t, cache, _) := seq.foldl (fun (t, cache, next) (lo, hi) =>
      let slot := suffixSlot next lo hi
      match cache.get? slot with
      | some (key, id) =>
        if key == (next, lo, hi) then (t, cache, id)
        else (t.state 0, cache.insert slot ((next, lo, hi), t.states), t.states)
      | none => (t.state 0, cache.insert slot ((next, lo, hi), t.states), t.states)) (t, cache, finalState)
    (t.link true, cache)
  ((classSequences s).foldl step (t, {})).1

/-- The layout of one character of a set: an empty set is an end state and a state with no
range; an ASCII set an end state and one state with its ranges. -/
def classPiece (dir : Direction) (t : Tally) (s : CodeSet) : Piece :=
  let ascii := s.ranges.all fun r => r.2 ≤ 0x7F
  if ascii then ((t.state 0).state (transitionBytes * s.ranges.size), false)
  else match dir with
    | .forward => (wideClassForward t s, false)
    | .backward => (wideClassBackward t s, false)

/-! ## Alternations of literals: a trie of their bytes -/

/-- A state of the literal trie: its transitions `(byte, next)`, and the cut points where an
alternative ends here, which split the transitions into groups that keep their preference. -/
structure TrieState where
  transitions : Array (Nat × Nat)
  cuts : Array Nat

/-- Where the group of transitions still open at a state starts. -/
def TrieState.openFrom (s : TrieState) : Nat := s.cuts.back?.getD 0

/-- The groups of transitions of a state in order of preference. -/
def TrieState.groups (s : TrieState) : List (Array (Nat × Nat)) :=
  let bounds := s.cuts.toList
  let starts := 0 :: bounds
  let ends := bounds ++ [s.transitions.size]
  (starts.zip ends).map fun (a, b) => s.transitions.extract a b

/-- The trie of the alternatives' bytes. -/
structure Trie where
  states : Array TrieState

namespace Trie

/-- The empty trie: its root alone. -/
def root : Trie := ⟨#[⟨#[], #[]⟩]⟩

/-- The state reached from `from` by `byte` in its open group, adding it if missing (kept in
byte order within the group). -/
def step (tr : Trie) (source byte : Nat) : Trie × Nat :=
  match tr.states[source]? with
  | none => (tr, 0)
  | some s =>
    let start := s.openFrom
    let group := s.transitions.extract start s.transitions.size
    match group.find? (·.1 == byte) with
    | some (_, next) => (tr, next)
    | none =>
      let next := tr.states.size
      let place := start + (group.filter (·.1 < byte)).size
      let s' := { s with transitions := s.transitions.insertIdxIfInBounds place (byte, next) }
      (⟨(tr.states.set! source s').push ⟨#[], #[]⟩⟩, next)

/-- Mark that an alternative ends at a state; nothing changes if the state has no transitions
and a mark is already there. -/
def markEnd (tr : Trie) (here : Nat) : Trie :=
  match tr.states[here]? with
  | none => tr
  | some s =>
    if !s.cuts.isEmpty && s.transitions.isEmpty then tr
    else ⟨tr.states.set! here { s with cuts := s.cuts.push s.transitions.size }⟩

/-- Add the bytes of one alternative. -/
def insert (tr : Trie) (bytes : List Nat) : Trie :=
  let (tr, last) := bytes.foldl (fun (tr, here) b => tr.step here b) (tr, 0)
  tr.markEnd last

/-- Lay out the trie state `here` and everything below it: per group one state with its byte
transitions (a plain byte state if it has one), the end of the automaton between groups, and a
choice over them; `final` is the shared end state. -/
def layout (tr : Trie) (final : Nat) : Nat → Tally → Nat → Tally × Nat
  | 0, t, _ => (t, final)
  | fuel + 1, t, here =>
    match tr.states[here]? with
    | none => (t, final)
    | some s =>
      let (t, alternatives, _) := s.groups.foldl (fun (t, alternatives, first) group =>
        let alternatives := if first then alternatives else alternatives + 1
        let (t, count) := group.foldl (fun (t, count) (_, next) =>
          let leaf := match tr.states[next]? with
            | some c => c.transitions.isEmpty
            | none => true
          if leaf then (t, count + 1) else ((tr.layout final fuel t next).1, count + 1)) (t, 0)
        if count == 0 then (t, alternatives, false)
        else
          let t := if count == 1 then t.state 0 else t.state (transitionBytes * count)
          (t, alternatives + 1, false)) (t, 0, true)
      let id := t.states
      (t.state (alternateBytes * alternatives), id)

end Trie

/-- The layout of an alternation of literals, given their bytes. -/
def trieAlternation (t : Tally) (words : List (List Nat)) : Piece :=
  let tr := words.foldl Trie.insert Trie.root
  let t := t.state 0
  ((tr.layout (t.states - 1) (tr.states.size + 1) t 0).1, false)

/-! ## The layout of a node -/

/-- `count` copies of a piece after a first one, each linked from the end of the one before. -/
def morePieces (lay : Tally → Piece) : Nat → Tally → Bool → Piece
  | 0, t, e => (t, e)
  | n + 1, t, e =>
    if t.pastLimit then (t, e)
    else
      let (t', e') := lay t
      morePieces lay n (t'.link e) e'

/-- Exactly `count` copies of a piece in sequence; an empty state for none. -/
def exactPieces (lay : Tally → Piece) (count : Nat) (t : Tally) : Piece :=
  match count with
  | 0 => (t.state 0, false)
  | n + 1 =>
    let (t, e) := lay t
    morePieces lay n t e

/-- Up to `extra` optional copies after a required part, each copy a choice to take it or go to
the shared end. -/
def optionalPieces (lay : Tally → Piece) : Nat → Tally → Bool → Tally
  | 0, t, prev => t.link prev
  | n + 1, t, prev =>
    if t.pastLimit then t
    else
      let t := t.state 0
      let (t, e) := lay t
      optionalPieces lay n (((t.link prev).link true).link true) e

/-- A repetition of a piece, `nonEmpty` telling whether each copy must consume a byte. -/
def repeatPiece (lay : Tally → Piece) (nonEmpty : Bool) (min : Nat) (max : Option Nat) (t : Tally) :
    Piece :=
  match min, max with
  | 0, some 1 =>
    let t := t.state 0
    let (t, e) := lay t
    (((t.state 0).link true |>.link true).link e, false)
  | 0, none =>
    if nonEmpty then
      let t := t.state 0
      let (t, e) := lay t
      ((t.link true).link e, true)
    else
      let (t, e) := lay t
      let t := ((t.state 0).link e).link true
      ((((t.state 0).state 0).link true |>.link true |>.link true), false)
  | 1, none =>
    let (t, e) := lay t
    (((t.state 0).link e).link true, true)
  | n + 2, none =>
    let (t, e) := exactPieces lay (n + 1) t
    let (t, e') := lay t
    ((((t.state 0).link e).link e').link true, true)
  | min, some max =>
    if min == max then exactPieces lay min t
    else
      let (t, e) := exactPieces lay min t
      (optionalPieces lay (max - min) (t.state 0) e, false)

/-- The bytes of a literal, in the order the direction reads them. -/
def literalBytes (dir : Direction) (cs : List Char) : List Nat :=
  let bytes := cs.flatMap fun c => utf8Bytes c.toNat
  if dir == .forward then bytes else bytes.reverse

mutual

/-- The layout of a node after the tally `t`. -/
def Node.lay (dir : Direction) : Node → Tally → Piece
  | .empty, t => (t.state 0, false)
  | .literal cs, t => ((literalBytes dir cs).foldl (fun t _ => t.state 0) t, false)
  | .set s, t => classPiece dir t s
  | .look _, t => (t.state 0, false)
  | .rep body min max _, t =>
    repeatPiece (fun t => body.lay dir t) (body.minBytes.any (0 < ·)) min max t
  | .group _ body, t =>
    if dir == .forward then
      let (t, e) := body.lay dir (t.state 0)
      (((t.state 0).link false).link e, false)
    else body.lay dir t
  | .concat items, t =>
    if dir == .forward then Node.laySeq dir items t none
    else
      match Node.laySeqBack dir items t with
      | (t, some e) => (t, e)
      | (t, none) => (t.state 0, false)
  | .alt branches, t =>
    match branches.mapM fun b => match b with | .literal cs => some cs | _ => none with
    | some words =>
      if 2 ≤ words.length then trieAlternation t (words.map (literalBytes dir))
      else Node.layAlts dir branches t none
    | none => Node.layAlts dir branches t none

/-- The layout of the items of a sequence, each linked from the end of the one before;
`prev` is the end of the item before, none at the first. -/
def Node.laySeq (dir : Direction) : List Node → Tally → Option Bool → Piece
  | [], t, none => (t.state 0, false)
  | [], t, some e => (t, e)
  | n :: rest, t, prev =>
    if t.pastLimit then (t, false)
    else
      let (t', e) := n.lay dir t
      let t' := match prev with
        | some p => t'.link p
        | none => t'
      Node.laySeq dir rest t' (some e)

/-- The layout of the items of a sequence from the last to the first, each linked from the end of
the one laid out before it; the end of the last one laid out, none for no items. -/
def Node.laySeqBack (dir : Direction) : List Node → Tally → Tally × Option Bool
  | [], t => (t, none)
  | n :: rest, t =>
    let (t, prev) := Node.laySeqBack dir rest t
    if t.pastLimit then (t, some false)
    else
      let (t', e) := n.lay dir t
      match prev with
      | some p => (t'.link p, some e)
      | none => (t', some e)

/-- The layout of the branches of an alternation: the first two, then a choice and an end state
linked to both, then each further branch linked in. `firstEnds` holds the ends of the branches
laid out before the choice exists. -/
def Node.layAlts (dir : Direction) : List Node → Tally → Option (List Bool) → Piece
  | [], t, none => (t.state 0, false)
  | [], t, some _ => (t, false)
  | n :: rest, t, ends =>
    let (t, e) := n.lay dir t
    match ends with
    | none => if rest.isEmpty then (t, e) else Node.layAlts dir rest t (some [e])
    | some [first] =>
      let t := ((((t.state 0).state 0).link true).link first |>.link true).link e
      Node.layAlts dir rest t (some [])
    | some _ => Node.layAlts dir rest ((t.link true).link e) (some [])

end

/-- The layout of the prefix that lets a match start anywhere: a choice that loops over one byte
of any value. -/
def anywherePrefix (t : Tally) : Piece :=
  let t := t.state 0
  (((t.state 0).state transitionBytes).link true, true)

/-- The memory of the automaton of a pattern read in a direction. -/
def Node.footprint (n : Node) (dir : Direction) : Nat :=
  let anchored := if dir == .forward then n.startsAnchored else n.endsAnchored
  let (t, prefixEnd) := if anchored then (Tally.zero.state 0, false) else anywherePrefix Tally.zero
  let t := match dir with
    | .forward =>
      let (t, e) := n.lay dir (t.state 0)
      ((t.state 0).link e).state 0
    | .backward =>
      let (t, e) := n.lay dir t
      (t.state 0).link e
  (t.link prefixEnd).memory

/-- Whether both automata of a pattern stay within the limit. -/
def Node.fitsLimit (n : Node) : Bool :=
  n.footprint .forward ≤ sizeLimit && n.footprint .backward ≤ sizeLimit

end Pattern

end RecordQuery
