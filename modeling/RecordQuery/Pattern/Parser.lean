import RecordQuery.Pattern.Escape
import RecordQuery.Pattern.Normal
import RecordQuery.Text.Alphanumeric

/-!
Contract: reading a whole pattern text into its meaning, or the fault that makes it no pattern.

Owns the grammar around escapes and classes:
- literals, `.`, `^`, `$`, alternation `|`, groups `( … )`, non-capturing groups `(?: … )`, named
  groups `(?P<name> … )` and `(?<name> … )` (a name is not empty, starts with an alphabetic
  character or `_`, goes on with alphabetic characters, numbers, `_`, `.`, `[`, `]`, and is not
  used twice); in verbose mode blanks may stand between `(` and `?`;
- flag groups `(?flags)` and `(?flags: … )` over `i m s U u R x`, at most one `-` and no flag
  twice, never empty before `)` and never ending in `-`; a flag group changes the modes for the
  rest of the group it stands in, later alternatives included;
- repetitions `*`, `+`, `?`, `{n}`, `{n,}`, `{n,m}` (`n ≤ m`, counts below `2 ^ 32`), each
  optionally followed by `?` (lazy; `U` swaps greedy and lazy), never after nothing or after a
  flag group;
- `.` is any character but line feed (and carriage return in CRLF mode; any character at all with
  `s`), `^`/`$` are the text ends, or line ends with `m`;
- in case-insensitive mode a literal is the class of the characters it folds together with;
- capturing groups are numbered from 1 in the order they open;
- the nesting limit: a group, a repetition, a bracketed class, and a sequence or alternation of
  two or more parts each stand one level above what they contain (a flag group counts as a part
  of its sequence), and a pattern more than `Pattern.nestLimit` levels deep is refused.

The meaning is built with the normalising constructors of `Pattern.Normal`.
-/

set_option autoImplicit false

namespace RecordQuery

namespace Pattern

open Text

/-- An item of a concatenation being read: a node with its nesting height, or the mark a flag
group leaves, which is a part of the sequence but matches only the empty text. -/
inductive Item where
  | node (n : Node) (height : Nat)
  | flagMark

/-- A part read: its meaning and its nesting height. -/
abbrev Parsed := Node × Nat

/-- The nesting height of a sequence or alternation of parts of the given heights: one level
above the highest when there are two or more parts, the part's own when there is one. -/
def heightOfParts : List Nat → Nat
  | [] => 0
  | [h] => h
  | hs => hs.foldl Nat.max 0 + 1

/-- The items of a sequence (read newest first) as one part. -/
def Item.sequence (items : List Item) : Parsed :=
  let items := items.reverse
  let nodes := items.filterMap fun i => match i with
    | .node n _ => some n
    | .flagMark => none
  let heights := items.map fun i => match i with
    | .node _ h => h
    | .flagMark => 0
  (Node.concatOf nodes, heightOfParts heights)

/-- Alternatives as one part. -/
def alternativesOf : List Parsed → Parsed
  | [b] => b
  | bs => (Node.altOf (bs.map (·.1)), heightOfParts (bs.map (·.2)))

/-- The modes after one flag letter, set or cleared. -/
def applyFlag (flags : Flags) (c : Char) (on : Bool) : Option Flags :=
  match c with
  | 'i' => some { flags with caseless := on }
  | 'm' => some { flags with multiLine := on }
  | 's' => some { flags with dotNewline := on }
  | 'U' => some { flags with swapGreed := on }
  | 'u' => some { flags with unicode := on }
  | 'R' => some { flags with crlf := on }
  | 'x' => some { flags with verbose := on }
  | _ => none

/-- A flag list up to `:` or `)`: the new modes, whether the list had any item, the terminator and
what follows it. -/
def flagList (flags : Flags) (seen : List Char) (negating lastWasNegation anyItem : Bool) :
    List Char → Except Error (Flags × Bool × Char × List Char)
  | [] => .error .invalidFlags
  | c :: r =>
    if c = ':' || c = ')' then
      if lastWasNegation then .error .invalidFlags else .ok (flags, anyItem, c, r)
    else if c = '-' then
      if negating then .error .invalidFlags
      else flagList flags seen true true true r
    else if seen.contains c then .error .invalidFlags
    else
      match applyFlag flags c (!negating) with
      | some flags' => flagList flags' (c :: seen) negating false true r
      | none => .error .invalidFlags

/-- Whether a character may start a group name: \_ or an alphabetic character of Unicode 17.0. -/
def isNameStart (c : Char) : Bool := c = '_' || Text.isAlphabetic c

/-- Whether a character may continue a group name: \_, `.`, `[`, `]` or an alphabetic or numeric
character of Unicode 17.0. -/
def isNameChar (c : Char) : Bool :=
  c = '_' || c = '.' || c = '[' || c = ']' || Text.isAlphanumeric c

/-- A group name up to its `>`, checked and recorded. -/
def groupName (rd : Reading) : Except Error Reading :=
  let name := rd.rest.takeWhile (· ≠ '>')
  match rd.rest.dropWhile (· ≠ '>') with
  | [] => .error .invalidGroupName
  | _ :: after =>
    match name with
    | [] => .error .invalidGroupName
    | first :: more =>
      if !isNameStart first || !more.all isNameChar then .error .invalidGroupName
      else
        let text := String.ofList name
        if rd.names.contains text then .error .duplicateGroupName
        else .ok { rd with rest := after, names := text :: rd.names }

/-- The items read so far with a repetition applied to the last one, greedy unless `lazy` (the
other way round when greed is swapped). -/
def repeatLast (flags : Flags) (items : List Item) (min : Nat) (max : Option Nat) (lazy : Bool) :
    Except Error (List Item) :=
  match items with
  | .node n h :: others => .ok (.node (Node.repOf n min max (lazy == flags.swapGreed)) (h + 1) :: others)
  | _ => .error .repetitionMissing

/-- Whether a `?` marking a repetition lazy follows, and what follows it. -/
def lazyMark : List Char → Bool × List Char
  | '?' :: r => (true, r)
  | cs => (false, cs)

/-- Blanks, which may stand around the digits of a count in any mode. -/
def skipBlanks (cs : List Char) : List Char := cs.dropWhile Text.isBlank

/-- The digits of a count and what follows them; in verbose mode blanks and comments may also
stand between the digits. -/
def countDigits (flags : Flags) : Nat → List Char → List Char → List Char × List Char
  | 0, acc, cs => (acc.reverse, cs)
  | _, acc, [] => (acc.reverse, [])
  | fuel + 1, acc, c :: r =>
    if c.isDigit then countDigits flags fuel (c :: acc) (skipSpace flags r) else (acc.reverse, c :: r)

/-- A count: decimal digits below `2 ^ 32`, with the blanks around them skipped. -/
def count (flags : Flags) (cs : List Char) : Except Error (Nat × List Char) :=
  let cs := skipBlanks cs
  let (digits, rest) := countDigits flags (cs.length + 1) [] cs
  if digits.isEmpty then .error .unclosedRepetition
  else
    let n := digits.foldl (fun acc d => acc * 10 + (d.toNat - 48)) 0
    if Nat.pow 2 32 ≤ n then .error .repetitionTooLarge
    else .ok (n, skipSpace flags (skipBlanks rest))

/-- A counted repetition after its `{`: the bounds and what follows the `}`. -/
def countedBounds (flags : Flags) (cs : List Char) : Except Error (Nat × Option Nat × List Char) := do
  let cs := skipSpace flags cs
  if cs.isEmpty then throw .unclosedRepetition
  let (min, rest) ← count flags cs
  match rest with
  | ',' :: r =>
    match skipSpace flags r with
    | [] => throw .unclosedRepetition
    | '}' :: after => pure (min, none, after)
    | r => do
      let (max, rest') ← count flags r
      match rest' with
      | '}' :: after =>
        if max < min then throw .invalidRepetitionRange
        pure (min, some max, after)
      | _ => throw .unclosedRepetition
  | '}' :: after => pure (min, some min, after)
  | _ => throw .unclosedRepetition

/-- One character of any kind but the line ends the modes exclude. -/
def dotSet (flags : Flags) : CodeSet :=
  if flags.dotNewline then CodeSet.full
  else if flags.crlf then CodeSet.full.diff (CodeSet.ofRanges [(0x0A, 0x0A), (0x0D, 0x0D)])
  else CodeSet.full.diff (CodeSet.single 0x0A)

/-- The node of one literal character: in case-insensitive mode the class of the characters it
folds together with (the character alone when there are none); outside Unicode mode a character
beyond ASCII is a fault. -/
def literalNode (flags : Flags) (c : Char) : Except Error Node :=
  if !flags.unicode && 0x7F < c.toNat then .error .beyondAscii
  else if flags.caseless then .ok (Node.classOf (foldIf flags (CodeSet.single c.toNat)))
  else .ok (.literal [c])

/-- The node of an escape outside a class. -/
def escapedNode (flags : Flags) : Escaped → Except Error Node
  | .literal c => literalNode flags c
  | .chars s => if !flags.unicode && hasNonAscii s then .error .beyondAscii else .ok (Node.classOf s)
  | .look l => .ok (.look l)

/-- The test `^` stands for under the modes. -/
def startLook (flags : Flags) : Look :=
  if flags.multiLine then (if flags.crlf then .startLineCrlf else .startLine) else .startText

/-- The test `$` stands for under the modes. -/
def endLook (flags : Flags) : Look :=
  if flags.multiLine then (if flags.crlf then .endLineCrlf else .endLine) else .endText

mutual

/-- The alternatives of a group (or of the whole pattern at depth 0), up to but not past the
closing `)`. -/
def alternation (fuel : Nat) (flags : Flags) (depth : Nat) (rd : Reading) :
    Except Error (List Parsed × Reading) :=
  match fuel with
  | 0 => .error .unclosedGroup
  | fuel + 1 => do
    let (items, flags', rd') ← sequence fuel flags depth [] rd
    let here := Item.sequence items
    match rd'.rest with
    | '|' :: r =>
      let (more, rd'') ← alternation fuel flags' depth { rd' with rest := r }
      pure (here :: more, rd'')
    | ')' :: _ => if depth = 0 then throw .unopenedGroup else pure ([here], rd')
    | _ => if depth = 0 then pure ([here], rd') else throw .unclosedGroup

/-- The items of one alternative, newest first, up to `|`, `)` or the end; with the modes that
hold after them. -/
def sequence (fuel : Nat) (flags : Flags) (depth : Nat) (items : List Item) (rd : Reading) :
    Except Error (List Item × Flags × Reading) :=
  match fuel with
  | 0 => .error .unclosedGroup
  | fuel + 1 =>
    let continueWith (items : List Item) (flags : Flags) (rd : Reading) :=
      sequence fuel flags depth items rd
    let leaf (n : Node) (rest : List Char) :=
      continueWith (.node n 0 :: items) flags { rd with rest := rest }
    let repeated (min : Nat) (max : Option Nat) (lazy : Bool) (rest : List Char) := do
      continueWith (← repeatLast flags items min max lazy) flags { rd with rest := rest }
    match skipSpace flags rd.rest with
    | [] => .ok (items, flags, { rd with rest := [] })
    | '|' :: r => .ok (items, flags, { rd with rest := '|' :: r })
    | ')' :: r => .ok (items, flags, { rd with rest := ')' :: r })
    | '(' :: r => do
      match skipSpace flags r with
      | '?' :: 'P' :: '<' :: r' | '?' :: '<' :: r' =>
        let index := rd.groups + 1
        let named ← groupName { rd with rest := r', groups := index }
        let ((inner, height), rd') ← group fuel flags depth named
        continueWith (.node (.group index inner) (height + 1) :: items) flags rd'
      | '?' :: r' =>
        let (flags', anyItem, stop, after) ← flagList flags [] false false false r'
        if stop = ')' then
          if !anyItem then throw .repetitionMissing
          continueWith (.flagMark :: items) flags' { rd with rest := after }
        else
          let ((inner, height), rd') ← group fuel flags' depth { rd with rest := after }
          continueWith (.node inner (height + 1) :: items) flags rd'
      | r' =>
        let index := rd.groups + 1
        let ((inner, height), rd') ← group fuel flags depth { rd with rest := r', groups := index }
        continueWith (.node (.group index inner) (height + 1) :: items) flags rd'
    | '[' :: r => do
      let ((s, height), rest) ← classOpen flags (r.length + 2) r
      continueWith (.node (Node.classOf s) height :: items) flags { rd with rest := rest }
    | '*' :: r => let (lazy, rest) := lazyMark r; repeated 0 none lazy rest
    | '+' :: r => let (lazy, rest) := lazyMark r; repeated 1 none lazy rest
    | '?' :: r => let (lazy, rest) := lazyMark r; repeated 0 (some 1) lazy rest
    | '{' :: r => do
      match items with
      | .node _ _ :: _ =>
        let (min, max, after) ← countedBounds flags r
        let (lazy, rest) := lazyMark (skipSpace flags after)
        repeated min max lazy rest
      | _ => throw .repetitionMissing
    | '\\' :: r => do
      let (e, rest) ← escape flags r
      leaf (← escapedNode flags e) rest
    | '.' :: r =>
      if !flags.unicode then .error .beyondAscii else leaf (Node.classOf (dotSet flags)) r
    | '^' :: r => leaf (.look (startLook flags)) r
    | '$' :: r => leaf (.look (endLook flags)) r
    | c :: r => do leaf (← literalNode flags c) r

/-- A group's alternatives after its opener as one part, and what follows its `)`. -/
def group (fuel : Nat) (flags : Flags) (depth : Nat) (rd : Reading) : Except Error (Parsed × Reading) :=
  match fuel with
  | 0 => .error .unclosedGroup
  | fuel + 1 => do
    let (branches, rd') ← alternation fuel flags (depth + 1) rd
    match rd'.rest with
    | ')' :: r => pure (alternativesOf branches, { rd' with rest := r })
    | _ => throw .unclosedGroup

end

/-- The deepest nesting a pattern may have. -/
def nestLimit : Nat := 250

/-- The meaning of a pattern text, read case-insensitively when `caseless` holds. -/
def parse (source : String) (caseless : Bool) : Except Error Node := do
  let cs := source.toList
  let (branches, _) ← alternation (4 * cs.length + 16) (Flags.initial caseless) 0 ⟨cs, [], 0⟩
  let (node, height) := alternativesOf branches
  if nestLimit < height then throw .nestedTooDeep
  pure node

end Pattern

end RecordQuery
