import RecordQuery.Pattern.Syntax
import RecordQuery.Text.WordChar

/-!
Contract: a pattern's meaning as a program of steps, and whether it matches a text from a
position.

Owns:
- `Pattern.Step` and `Pattern.Program`: one character of a set, a choice of two steps, a
  zero-width test, or acceptance; steps name the step that follows by its index;
- `Program.ofNode`, laying a node out back to front, each piece given the index of what follows it;
  an unbounded repetition loops through a choice step, a literal is one step per character, and
  groups and greediness leave no trace (where a match starts does not depend on them);
- `Look.holds`, the zero-width tests at a position of a text;
- `Program.matchesAt`: whether some path of the program consumes a piece of the text starting at
  a position and reaches acceptance. The states alive after each character are kept as one set,
  so a text is read once from each start whatever the pattern.
-/

set_option autoImplicit false

namespace RecordQuery

namespace Pattern

open Text

/-- One step of a pattern program. -/
inductive Step where
  | chars (set : CodeSet) (next : Nat)
  | split (first second : Nat)
  | look (test : Look) (next : Nat)
  | accept
  deriving Inhabited

/-- A pattern program: its steps and the step it starts at. -/
structure Program where
  steps : Array Step
  entry : Nat

namespace Program

/-- `count` optional copies of a piece laid out by `piece`, each one either skipped to `exit` or
taken; `tail` is what follows the last copy. -/
def layoutOptional (piece : Array Step → Nat → Array Step × Nat) (exit : Nat) :
    Nat → Array Step → Nat → Array Step × Nat
  | 0, steps, tail => (steps, tail)
  | count + 1, steps, tail =>
    let (steps, start) := piece steps tail
    let here := steps.size
    layoutOptional piece exit count (steps.push (.split start exit)) here

/-- `count` required copies of a piece laid out by `piece`, before `tail`. -/
def layoutCopies (piece : Array Step → Nat → Array Step × Nat) :
    Nat → Array Step → Nat → Array Step × Nat
  | 0, steps, tail => (steps, tail)
  | count + 1, steps, tail =>
    let (steps, start) := piece steps tail
    layoutCopies piece count steps start

/-- The characters of a literal, last first, laid out before the step `next`. -/
def layoutChars (steps : Array Step) (next : Nat) : List Char → Array Step × Nat
  | [] => (steps, next)
  | c :: earlier =>
    let here := steps.size
    layoutChars (steps.push (.chars (CodeSet.single c.toNat) next)) here earlier

mutual

/-- The steps of a node laid out before the step `next`: the steps with the node's appended, and
the index where the node starts. -/
def layout (steps : Array Step) (next : Nat) : Node → Array Step × Nat
  | .empty => (steps, next)
  | .literal cs => layoutChars steps next cs.reverse
  | .set s => let here := steps.size; (steps.push (.chars s next), here)
  | .look l => let here := steps.size; (steps.push (.look l next), here)
  | .group _ body => layout steps next body
  | .concat items => layoutSeq steps next items
  | .alt branches => layoutAlt steps next branches
  | .rep body min max _ =>
    let (steps, tail) := match max with
      | none =>
        let loop := steps.size
        let (steps, start) := layout (steps.push (.split 0 next)) loop body
        (steps.set! loop (.split start next), loop)
      | some max => layoutOptional (fun s t => layout s t body) next (max - min) steps next
    layoutCopies (fun s t => layout s t body) min steps tail

/-- The items of a sequence, the last laid out first so each item runs into the next. -/
def layoutSeq (steps : Array Step) (next : Nat) : List Node → Array Step × Nat
  | [] => (steps, next)
  | n :: rest =>
    let (steps, restStart) := layoutSeq steps next rest
    layout steps restStart n

/-- The branches of an alternation; each choice prefers the earlier branch. -/
def layoutAlt (steps : Array Step) (next : Nat) : List Node → Array Step × Nat
  | [] => (steps, next)
  | [n] => layout steps next n
  | n :: rest =>
    let (steps, later) := layoutAlt steps next rest
    let (steps, first) := layout steps next n
    let here := steps.size
    (steps.push (.split first later), here)

end

/-- The program of a node: the node's steps before a final acceptance. -/
def ofNode (n : Node) : Program :=
  let (steps, entry) := layout #[.accept] 0 n
  ⟨steps, entry⟩

end Program

/-- Whether a character is a word character, in the Unicode or the ASCII sense. -/
def wordAt (unicode : Bool) (c : Option Char) : Bool :=
  match c with
  | none => false
  | some c =>
    if unicode then isWordChar c
    else c.isAlphanum || c = '_'

/-- Whether a zero-width test holds between `before` and `after`, the characters on each side of
a position (none at the text's ends). -/
def Look.holds (before after : Option Char) : Look → Bool
  | .startText => before.isNone
  | .endText => after.isNone
  | .startLine => before.isNone || before = some '\n'
  | .endLine => after.isNone || after = some '\n'
  | .startLineCrlf =>
    before.isNone || before = some '\n' || (before = some '\r' && after ≠ some '\n')
  | .endLineCrlf =>
    after.isNone || after = some '\r' || (after = some '\n' && before ≠ some '\r')
  | .wordBoundary u => wordAt u before != wordAt u after
  | .notWordBoundary u => wordAt u before == wordAt u after
  | .wordStart u => !wordAt u before && wordAt u after
  | .wordEnd u => wordAt u before && !wordAt u after
  | .wordStartHalf u => !wordAt u before
  | .wordEndHalf u => !wordAt u after

namespace Program

/-- The states reached from a stack of states without consuming a character: the character
steps found (in order) and whether acceptance was reached. Each state is entered once. -/
def closure (p : Program) (before after : Option Char) :
    Nat → List Nat → Array Bool → List (CodeSet × Nat) → Bool → List (CodeSet × Nat) × Bool
  | 0, _, _, found, accepted => (found.reverse, accepted)
  | _, [], _, found, accepted => (found.reverse, accepted)
  | fuel + 1, s :: stack, seen, found, accepted =>
    if seen.getD s true then closure p before after fuel stack seen found accepted
    else
      let seen := seen.set! s true
      match p.steps[s]? with
      | some (.chars set next) => closure p before after fuel stack seen ((set, next) :: found) accepted
      | some (.split a b) => closure p before after fuel (a :: b :: stack) seen found accepted
      | some (.look l next) =>
        if l.holds before after then closure p before after fuel (next :: stack) seen found accepted
        else closure p before after fuel stack seen found accepted
      | some .accept => closure p before after fuel stack seen found true
      | none => closure p before after fuel stack seen found accepted

/-- The closure of a list of states at position `i` of `text`. -/
def closeAt (p : Program) (text : Array Char) (i : Nat) (states : List Nat) :
    List (CodeSet × Nat) × Bool :=
  let before := if i = 0 then none else text[i - 1]?
  closure p before text[i]? (2 * p.steps.size + 2) states (Array.replicate p.steps.size false) [] false

/-- Whether acceptance is reached from the character steps `live`, reading `text` from position
`i` on; `remaining` counts the characters left. -/
def runFrom (p : Program) (text : Array Char) : Nat → Nat → List (CodeSet × Nat) → Bool
  | 0, _, _ => false
  | remaining + 1, i, live =>
    match text[i]? with
    | none => false
    | some c =>
      let next := live.filterMap fun (set, n) => if set.containsChar c then some n else none
      if next.isEmpty then false
      else
        let (live', accepted) := p.closeAt text (i + 1) next
        accepted || runFrom p text remaining (i + 1) live'

/-- Whether the program matches some piece of `text` that starts at position `start`. -/
def matchesAt (p : Program) (text : Array Char) (start : Nat) : Bool :=
  let (live, accepted) := p.closeAt text start [p.entry]
  accepted || p.runFrom text (text.size - start) start live

end Program

end Pattern

end RecordQuery
