import RecordQuery.Pattern.Class

/-!
Contract: the escapes and bracketed classes of the pattern language.

Owns:
- escapes: the punctuation that can be escaped, `\a \f \t \n \r \v`, `\x..`, `\x{…}`, `\u…`,
  `\U…`, the classes `\d \s \w` and their negations, `\p…`/`\P…` properties (also negated by
  `!=`), and the zero-width `\A \z \b \B \< \>` and `\b{start}`, `\b{end}`, `\b{start-half}`,
  `\b{end-half}`; any other escaped letter or digit is a fault;
- bracketed classes: ranges, ASCII classes `[:name:]` and `[:^name:]`, nested brackets, the set
  operations `&&`, `--` and `~~` (left to right, each operand closed under folding first), leading
  `-` and a leading `]` read literally, a `-` before `]` or `-` read literally;
- in case-insensitive mode a class is closed under simple case folding before it is negated;
- outside Unicode mode classes range over the 256 byte values, a literal beyond ASCII is a fault
  (inside a class `\xHH` names a byte), and so is a class that reaches beyond ASCII when it is
  closed;
- in verbose mode blanks and `#` comments are skipped between the parts of an escape: after
  `\p`, `\P`, `\x`, `\u` and `\U`, between hexadecimal digits, inside braces, and between the
  items of a class;
- the nesting height of a class: a bracketed class stands one level above its contents, and a
  union of two or more items and each set operation one level above their operands.

Does not own: groups, alternation and repetition (`Pattern.Parser`).
-/

set_option autoImplicit false

namespace RecordQuery

namespace Pattern

open Text

/-- What the parser has read so far: the rest of the text, the group names met, and how many
capturing groups have been opened. -/
structure Reading where
  rest : List Char
  names : List String
  groups : Nat

/-- The characters that keep their meaning only when escaped. -/
def isMetaChar (c : Char) : Bool := "\\.+*?()|[]{}^$#&-~".toList.contains c

/-- Characters that may be escaped to stand for themselves: the punctuation above, and any other
ASCII character that is neither a letter, a digit, `<` nor `>`. -/
def isEscapable (c : Char) : Bool :=
  isMetaChar c || (c.toNat ≤ 0x7F && !c.isAlphanum && c != '<' && c != '>')

/-- Skip blanks and `#` comments in verbose mode. -/
def skipSpace (flags : Flags) (cs : List Char) : List Char :=
  if !flags.verbose then cs else go cs cs.length
where
  go : List Char → Nat → List Char
    | cs, 0 => cs
    | [], _ => []
    | c :: r, fuel + 1 =>
      if Text.isBlank c then go r fuel
      else if c = '#' then go ((r.dropWhile (· ≠ '\n')).drop 1) fuel
      else c :: r

/-- Whether a code point can be a character. -/
def isScalar (n : Nat) : Bool := n ≤ maxCodePoint && !(0xD800 ≤ n && n ≤ 0xDFFF)

/-- Whether a character is a hexadecimal digit. -/
def isHexDigit (c : Char) : Bool := c.isDigit || ('a' ≤ c && c ≤ 'f') || ('A' ≤ c && c ≤ 'F')

/-- Whether a set has a code point beyond ASCII. -/
def hasNonAscii (s : CodeSet) : Bool := !(s.diff (CodeSet.range 0 0x7F)).isEmpty

/-- The complement of a set among what the modes can match: every code point in Unicode mode,
the 256 byte values otherwise. -/
def complementIn (flags : Flags) (s : CodeSet) : CodeSet :=
  if flags.unicode then s.complement else s.complement.inter (CodeSet.range 0 0xFF)

/-- What an escape stands for: a literal character, a class of characters, or a zero-width
test. -/
inductive Escaped where
  | literal (c : Char)
  | chars (set : CodeSet)
  | look (test : Look)

/-- Exactly `count` hexadecimal digits, each followed by the blanks verbose mode skips. -/
def hexFixed (flags : Flags) : Nat → List Char → List Char → Except Error (List Char × List Char)
  | 0, acc, cs => .ok (acc.reverse, cs)
  | _ + 1, _, [] => .error .invalidHexEscape
  | n + 1, acc, c :: r =>
    if isHexDigit c then hexFixed flags n (c :: acc) (skipSpace flags r) else .error .invalidHexEscape

/-- The digits of a braced hexadecimal escape after its `{`, and what follows the `}`: at least
one digit, and nothing but digits (and, in verbose mode, blanks). -/
def hexBraced (flags : Flags) : Nat → List Char → List Char → Except Error (List Char × List Char)
  | 0, _, _ => .error .invalidHexEscape
  | fuel + 1, acc, cs =>
    match skipSpace flags cs with
    | [] => .error .invalidHexEscape
    | '}' :: r => if acc.isEmpty then .error .invalidHexEscape else .ok (acc.reverse, skipSpace flags r)
    | c :: r => if isHexDigit c then hexBraced flags fuel (c :: acc) r else .error .invalidHexEscape

/-- A hexadecimal escape after its letter: braced, or `count` digits. The value must be a
character. -/
def hexEscape (flags : Flags) (count : Nat) (cs : List Char) : Except Error (Escaped × List Char) := do
  let (digits, rest) ← match skipSpace flags cs with
    | '{' :: r => hexBraced flags (r.length + 1) [] r
    | cs' => hexFixed flags count [] cs'
  let n := CodeSet.hexValue digits
  if isScalar n then pure (.literal (Char.ofNat n), rest)
  else throw .invalidHexEscape

/-- The characters of a braced property body after its `{`, and what follows the `}`. -/
def propertyText (flags : Flags) : Nat → List Char → List Char → Except Error (List Char × List Char)
  | 0, _, _ => .error .escapeAtEnd
  | fuel + 1, acc, cs =>
    match skipSpace flags cs with
    | [] => .error .escapeAtEnd
    | '}' :: r => .ok (acc.reverse, r)
    | c :: r => propertyText flags fuel (c :: acc) r

/-- The text before and after the first occurrence of `sep`. -/
def splitFirst (sep : List Char) : List Char → Option (List Char × List Char)
  | [] => none
  | c :: r =>
    if sep.isPrefixOf (c :: r) then some ([], (c :: r).drop sep.length)
    else (splitFirst sep r).map fun (a, b) => (c :: a, b)

/-- The query of a braced property body, and whether the body negates it: `name!=value`
(negating), else `name:value`, else `name=value`, else a name. -/
def propertyQuery (body : List Char) : PropertyQuery × Bool :=
  let valued (p v : List Char) : PropertyQuery := .value (String.ofList p) (String.ofList v)
  match splitFirst ['!', '='] body with
  | some (p, v) => (valued p v, true)
  | none =>
    match splitFirst [':'] body with
    | some (p, v) => (valued p v, false)
    | none =>
      match splitFirst ['='] body with
      | some (p, v) => (valued p v, false)
      | none => (.name (String.ofList body), false)

/-- A property escape after `p` or `P`: a one-letter name or a braced body. The set is closed
under folding in case-insensitive mode before it is negated; outside Unicode mode it is a
fault. -/
def propertyEscape (flags : Flags) (negated : Bool) (cs : List Char) : Except Error (Escaped × List Char) := do
  let (query, negates, rest) ← match skipSpace flags cs with
    | [] => .error .escapeAtEnd
    | '{' :: r => do
      let (body, rest) ← propertyText flags (r.length + 1) [] r
      let (q, n) := propertyQuery body
      pure (q, n, rest)
    | c :: r =>
      if c = '\\' then .error .unknownProperty
      else .ok (PropertyQuery.name (String.singleton c), false, skipSpace flags r)
  if !flags.unicode then throw .beyondAscii
  let set := foldIf flags (← propertyClass query)
  pure (.chars (if negated != negates then set.complement else set), rest)

/-- The special word boundary names `\b{…}`. -/
def specialBoundary? (unicode : Bool) : String → Option Look
  | "start" => some (.wordStart unicode)
  | "end" => some (.wordEnd unicode)
  | "start-half" => some (.wordStartHalf unicode)
  | "end-half" => some (.wordEndHalf unicode)
  | _ => none

/-- Whether a character may stand in the name of a special word boundary. -/
def isBoundaryNameChar (c : Char) : Bool := ('A' ≤ c && c ≤ 'Z') || ('a' ≤ c && c ≤ 'z') || c = '-'

/-- The name of a special word boundary, and what follows it. -/
def boundaryName (flags : Flags) : Nat → List Char → List Char → List Char × List Char
  | 0, acc, cs => (acc.reverse, cs)
  | _, acc, [] => (acc.reverse, [])
  | fuel + 1, acc, c :: r =>
    if isBoundaryNameChar c then boundaryName flags fuel (c :: acc) (skipSpace flags r)
    else (acc.reverse, c :: r)

/-- A word boundary after `\b`: a special one when a brace opens a name, the plain one otherwise
(a brace that opens no name starts a count). -/
def wordBoundaryEscape (flags : Flags) (cs : List Char) : Except Error (Escaped × List Char) :=
  let plain : Escaped := .look (.wordBoundary flags.unicode)
  match cs with
  | '{' :: r =>
    match skipSpace flags r with
    | [] => .error .unrecognizedEscape
    | c :: more =>
      if !isBoundaryNameChar c then .ok (plain, cs)
      else
        match boundaryName flags (more.length + 2) [] (c :: more) with
        | (name, '}' :: after) =>
          match specialBoundary? flags.unicode (String.ofList name) with
          | some l => .ok (.look l, after)
          | none => .error .unrecognizedEscape
        | _ => .error .unrecognizedEscape
  | _ => .ok (plain, cs)

/-- A Perl class escape, negated by its capital letter; outside Unicode mode the ASCII class,
whose negation reaches beyond ASCII and is a fault. -/
def perlEscape (flags : Flags) (letter : Char) (negated : Bool) (rest : List Char) :
    Except Error (Escaped × List Char) :=
  let s := perlClass flags.unicode letter
  let s := if negated then complementIn flags s else s
  if !flags.unicode && hasNonAscii s then .error .beyondAscii else .ok (.chars s, rest)

/-- An escape after its backslash. -/
def escape (flags : Flags) : List Char → Except Error (Escaped × List Char)
  | [] => .error .escapeAtEnd
  | c :: r =>
    if isEscapable c then .ok (.literal c, r)
    else match c with
    | 'a' => .ok (.literal (Char.ofNat 7), r)
    | 'f' => .ok (.literal (Char.ofNat 12), r)
    | 't' => .ok (.literal '\t', r)
    | 'n' => .ok (.literal '\n', r)
    | 'r' => .ok (.literal '\r', r)
    | 'v' => .ok (.literal (Char.ofNat 11), r)
    | 'x' => hexEscape flags 2 r
    | 'u' => hexEscape flags 4 r
    | 'U' => hexEscape flags 8 r
    | 'p' => propertyEscape flags false r
    | 'P' => propertyEscape flags true r
    | 'd' => perlEscape flags 'd' false r
    | 's' => perlEscape flags 's' false r
    | 'w' => perlEscape flags 'w' false r
    | 'D' => perlEscape flags 'd' true r
    | 'S' => perlEscape flags 's' true r
    | 'W' => perlEscape flags 'w' true r
    | 'A' => .ok (.look .startText, r)
    | 'z' => .ok (.look .endText, r)
    | 'B' => if flags.unicode then .ok (.look (.notWordBoundary true), r) else .error .beyondAscii
    | '<' => .ok (.look (.wordStart flags.unicode), r)
    | '>' => .ok (.look (.wordEnd flags.unicode), r)
    | 'b' => wordBoundaryEscape flags r
    | _ => .error .unrecognizedEscape

/-- The character of a class item that may end a range, or the set of a class escape. -/
inductive ClassItem where
  | char (c : Nat)
  | chars (s : CodeSet)

/-- One item of a bracketed class: an escape or a character. Outside Unicode mode a character
beyond ASCII is a fault, however it is written: a byte above `0x7F` cannot stand alone in text. -/
def classItem (flags : Flags) : List Char → Except Error (ClassItem × List Char)
  | [] => .error .unclosedClass
  | '\\' :: r => do
    let (e, rest) ← escape flags r
    match e with
    | .literal c =>
      if !flags.unicode && 0x7F < c.toNat then throw .beyondAscii
      pure (.char c.toNat, rest)
    | .chars s => pure (.chars s, rest)
    | .look _ => throw .unrecognizedEscape
  | c :: r =>
    if !flags.unicode && 0x7F < c.toNat then .error .beyondAscii else .ok (.char c.toNat, r)

/-- A class item as a set. -/
def ClassItem.toSet : ClassItem → CodeSet
  | .char c => CodeSet.single c
  | .chars s => s

/-- The set operations between operands of a bracketed class. -/
inductive ClassOp where
  | inter
  | diff
  | symm

/-- Combine two operands of a bracketed class, each closed under folding first. -/
def ClassOp.apply (flags : Flags) (op : ClassOp) (lhs rhs : CodeSet) : CodeSet :=
  let lhs := foldIf flags lhs
  let rhs := foldIf flags rhs
  match op with
  | .inter => lhs.inter rhs
  | .diff => lhs.diff rhs
  | .symm => lhs.symmDiff rhs

/-- A bracketed ASCII class `[:name:]` or `[:^name:]` at `[`, if the text is one: folded, then
negated. -/
def asciiBracket? (flags : Flags) (cs : List Char) : Option (CodeSet × List Char) :=
  match cs with
  | '[' :: ':' :: r =>
    let (negated, r) := match r with
      | '^' :: r' => (true, r')
      | _ => (false, r)
    let name := r.takeWhile (· ≠ ':')
    match r.dropWhile (· ≠ ':') with
    | ':' :: ']' :: after =>
      (asciiClass? (String.ofList name)).map fun s =>
        let s := foldIf flags s
        (if negated then complementIn flags s else s, after)
    | _ => none
  | _ => none

/-- The end of a bracketed class: fold, negate, and outside Unicode mode refuse a class that
reaches beyond ASCII. -/
def closeClass (flags : Flags) (negated : Bool) (s : CodeSet) : Except Error CodeSet :=
  let s := foldIf flags s
  let s := if negated then complementIn flags s else s
  if !flags.unicode && hasNonAscii s then .error .beyondAscii else .ok s

/-- The items of a class read since its start or its last operator: their union, how many there
are, and the greatest height among them. -/
structure ClassUnion where
  set : CodeSet
  count : Nat
  height : Nat

namespace ClassUnion

/-- No items. -/
def empty : ClassUnion := ⟨CodeSet.empty, 0, 0⟩

/-- One more item, of the given height. -/
def add (u : ClassUnion) (s : CodeSet) (height : Nat) : ClassUnion :=
  ⟨u.set.union s, u.count + 1, Nat.max u.height height⟩

/-- The height of the items as one operand: a lone item keeps its own, two or more stand one
level above the highest. -/
def operandHeight (u : ClassUnion) : Nat := if 2 ≤ u.count then u.height + 1 else u.height

end ClassUnion

/-- The operand before a set operator: its set, its height, and the operator. -/
structure ClassPending where
  lhs : CodeSet
  height : Nat
  op : ClassOp

/-- The operand a class has so far, with its height: the items alone, or the pending operation
applied to them. -/
def combineOperand (flags : Flags) : Option ClassPending → ClassUnion → CodeSet × Nat
  | some p, u => (p.op.apply flags p.lhs u.set, Nat.max p.height u.operandHeight + 1)
  | none, u => (u.set, u.operandHeight)

/-- The leading `-` of a class, each one literal item. -/
def leadingDashes (flags : Flags) : Nat → ClassUnion → List Char → ClassUnion × List Char
  | 0, u, cs => (u, cs)
  | fuel + 1, u, '-' :: r => leadingDashes flags fuel (u.add (CodeSet.single 0x2D) 0) (skipSpace flags r)
  | _, u, cs => (u, cs)

mutual

/-- The body of a bracketed class after its `[`, optional `^` and leading literals: the set and
the height of the class, and what follows its `]`. -/
def classBody (flags : Flags) (negated : Bool) :
    Nat → Option ClassPending → ClassUnion → List Char → Except Error ((CodeSet × Nat) × List Char)
  | 0, _, _, _ => .error .unclosedClass
  | fuel + 1, pending, items, cs =>
    let pushOp (op : ClassOp) (rest : List Char) :=
      let (lhs, height) := combineOperand flags pending items
      classBody flags negated fuel (some ⟨lhs, height, op⟩) ClassUnion.empty rest
    match skipSpace flags cs with
    | [] => .error .unclosedClass
    | ']' :: r => do
      let (whole, height) := combineOperand flags pending items
      pure ((← closeClass flags negated whole, height + 1), r)
    | '&' :: '&' :: r => pushOp .inter r
    | '-' :: '-' :: r => pushOp .diff r
    | '~' :: '~' :: r => pushOp .symm r
    | '[' :: r =>
      match asciiBracket? flags ('[' :: r) with
      | some (s, rest) =>
        if !flags.unicode && hasNonAscii s then .error .beyondAscii
        else classBody flags negated fuel pending (items.add s 0) rest
      | none => do
        let ((nested, height), rest) ← classOpen flags fuel r
        classBody flags negated fuel pending (items.add nested height) rest
    | cs' => do
      let (first, rest) ← classItem flags cs'
      match skipSpace flags rest with
      | [] => .error .unclosedClass
      | '-' :: afterDash =>
        match skipSpace flags afterDash with
        | ']' :: _ => classBody flags negated fuel pending (items.add first.toSet 0) rest
        | '-' :: _ => classBody flags negated fuel pending (items.add first.toSet 0) rest
        | [] => .error .unclosedClass
        | more => do
          let (second, rest') ← classItem flags more
          match first, second with
          | .char a, .char b =>
            if b < a then throw .invalidClassRange
            classBody flags negated fuel pending (items.add (CodeSet.range a b) 0) rest'
          | _, _ => throw .invalidClassRange
      | _ => classBody flags negated fuel pending (items.add first.toSet 0) rest

/-- A bracketed class after its `[`: the negation mark, literal leading `-` (or else a literal
leading `]`), then the body. -/
def classOpen (flags : Flags) : Nat → List Char → Except Error ((CodeSet × Nat) × List Char)
  | 0, _ => .error .unclosedClass
  | fuel + 1, cs =>
    let cs := skipSpace flags cs
    let (negated, cs) := match cs with
      | '^' :: r => (true, skipSpace flags r)
      | _ => (false, cs)
    let (items, cs) := leadingDashes flags (cs.length + 1) ClassUnion.empty cs
    let (items, cs) :=
      if items.count == 0 then
        match cs with
        | ']' :: r => (items.add (CodeSet.single 0x5D) 0, skipSpace flags r)
        | _ => (items, cs)
      else (items, cs)
    if cs.isEmpty then .error .unclosedClass
    else classBody flags negated fuel none items cs

end

end Pattern

end RecordQuery
