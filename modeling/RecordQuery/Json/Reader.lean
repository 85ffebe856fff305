import RecordQuery.Json.Value

/-!
Contract: reading JSON text into `Json`, with the exact cause and place of every failure.

Owns:
- `ReadErrorCode` and `ReadError`: why a text is not JSON and the line and byte column it is
  reported at (columns count UTF-8 bytes from the start of the line);
- the number rules: an integer literal is an integer when it fits the 64-bit range of its sign,
  `-0` is the float negative zero, a literal with a point or an exponent is a float whose
  significand keeps the first digits that fit 64 bits and is scaled by one rounded power of ten at
  a time; a float that overflows is refused;
- string literals with the standard escapes, surrogate pairs required to be whole;
- nesting limited to 127 levels;
- `Json.parse`, which refuses trailing non-blank text.

Where a failure is reported: a failure found when looking at the next character is placed one byte
past the current offset (`peekOffset`); a failure found after taking a character is placed where
reading stopped.
-/

namespace RecordQuery

namespace Json

/-- Why a text is not JSON. -/
inductive ReadErrorCode where
  | eofWhileParsingList
  | eofWhileParsingObject
  | eofWhileParsingString
  | eofWhileParsingValue
  | expectedColon
  | expectedListCommaOrEnd
  | expectedObjectCommaOrEnd
  | expectedSomeIdent
  | expectedSomeValue
  | invalidEscape
  | invalidNumber
  | numberOutOfRange
  | controlCharacterInString
  | keyMustBeAString
  | loneLeadingSurrogate
  | trailingComma
  | trailingCharacters
  | unexpectedEndOfHexEscape
  | recursionLimitExceeded
  deriving DecidableEq, Repr

/-- The wording of a reading failure. -/
def ReadErrorCode.text : ReadErrorCode → String
  | .eofWhileParsingList => "EOF while parsing a list"
  | .eofWhileParsingObject => "EOF while parsing an object"
  | .eofWhileParsingString => "EOF while parsing a string"
  | .eofWhileParsingValue => "EOF while parsing a value"
  | .expectedColon => "expected `:`"
  | .expectedListCommaOrEnd => "expected `,` or `]`"
  | .expectedObjectCommaOrEnd => "expected `,` or `\x7d`"
  | .expectedSomeIdent => "expected ident"
  | .expectedSomeValue => "expected value"
  | .invalidEscape => "invalid escape"
  | .invalidNumber => "invalid number"
  | .numberOutOfRange => "number out of range"
  | .controlCharacterInString => "control character (\\u0000-\\u001F) found while parsing a string"
  | .keyMustBeAString => "key must be a string"
  | .loneLeadingSurrogate => "lone leading surrogate in hex escape"
  | .trailingComma => "trailing comma"
  | .trailingCharacters => "trailing characters"
  | .unexpectedEndOfHexEscape => "unexpected end of hex escape"
  | .recursionLimitExceeded => "recursion limit exceeded"

/-- A reading failure with its line (from 1) and byte column. -/
structure ReadError where
  code : ReadErrorCode
  line : Nat
  column : Nat
  deriving DecidableEq, Repr

/-- The text of a reading failure, `<cause> at line <l> column <c>`. -/
def ReadError.message (e : ReadError) : String :=
  e.code.text ++ " at line " ++ toString e.line ++ " column " ++ toString e.column

/-- A failure and the byte offset it is reported at. -/
abbrev Failure := ReadErrorCode × Nat

/-- The unread characters and the number of bytes read so far. -/
structure Cursor where
  rest : List Char
  offset : Nat

namespace Cursor

/-- The cursor after the next character. -/
def advance (c : Cursor) : Cursor :=
  match c.rest with
  | [] => c
  | ch :: r => ⟨r, c.offset + ch.utf8Size⟩

/-- The next character, if any. -/
def peek? (c : Cursor) : Option Char := c.rest.head?

/-- The offset a failure found by looking at the next character is reported at: one byte further,
but never past the end. -/
def peekOffset (c : Cursor) : Nat := if c.rest.isEmpty then c.offset else c.offset + 1

/-- The cursor past blanks (space, line feed, tab, carriage return). -/
def skipBlank (c : Cursor) : Cursor :=
  go c.rest c.offset
where
  go : List Char → Nat → Cursor
    | ch :: r, o => if ch = ' ' || ch = '\n' || ch = '\t' || ch = '\r' then go r (o + 1) else ⟨ch :: r, o⟩
    | [], o => ⟨[], o⟩

end Cursor

/-- The line and byte column of a byte offset in a text. -/
def lineColumn (text : List Char) (offset : Nat) : Nat × Nat :=
  go text 0 1 0
where
  go : List Char → Nat → Nat → Nat → Nat × Nat
    | [], _, line, lineStart => (line, offset - lineStart)
    | ch :: r, o, line, lineStart =>
      if o < offset then
        if ch = '\n' then go r (o + 1) (line + 1) (o + 1) else go r (o + ch.utf8Size) line lineStart
      else (line, offset - lineStart)

/-! ## Numbers -/

/-- The largest unsigned 64-bit integer. -/
def u64Max : Nat := Nat.pow 2 64 - 1

/-- The largest signed 32-bit integer, the bound of an exponent. -/
def i32Max : Int := Int.pow 2 31 - 1

/-- The value of an ASCII digit. -/
def digitValue (ch : Char) : Nat := ch.toNat - 48

/-- An exponent clamped to the signed 32-bit range. -/
def clampExponent (e : Int) : Int := max (-(Int.pow 2 31)) (min e i32Max)

/-- The magnitude of a float scaled by a power of ten, one rounded step at a time: a multiplication
or a division by the nearest binary64 of `10 ^ k` for `k ≤ 308`, and below `-308` divisions by
`1e308` until the power fits or the value is zero. `none` when the value overflows. -/
def scaleByPow10 : Nat → Binary64 → Int → Option Binary64
  | 0, f, _ => some f
  | fuel + 1, f, exponent =>
    if exponent.natAbs ≤ 308 then
      let pow := Binary64.ofDecimal false 1 exponent.natAbs
      if 0 ≤ exponent then
        let product := Binary64.ofRatio false (f.scaledMagnitude * pow.scaledMagnitude) (Nat.pow 2 1074 * Nat.pow 2 1074)
        if product.isInfinite then none else some product
      else
        some (Binary64.ofRatio false f.scaledMagnitude pow.scaledMagnitude)
    else if f.isZero then some f
    else if 0 ≤ exponent then none
    else
      let pow := Binary64.ofDecimal false 1 308
      scaleByPow10 fuel (Binary64.ofRatio false f.scaledMagnitude pow.scaledMagnitude) (exponent + 308)

/-- A float from its parts: the significand rounded to binary64, then scaled by `10 ^ exponent`;
overflow is refused at the current offset. -/
def floatOfParts (c : Cursor) (positive : Bool) (significand : Nat) (exponent : Int) :
    Except Failure (Json × Cursor) :=
  match scaleByPow10 (exponent.natAbs / 308 + 2) (Binary64.ofNat significand) exponent with
  | none => .error (.numberOutOfRange, c.offset)
  | some f => .ok (.float (if positive then f else f.neg), c)

/-- The digits of an exponent after it overflowed 32 bits: a positive exponent of a non-zero
significand is refused, anything else is zero. -/
def exponentOverflow (c : Cursor) (positive zeroSignificand positiveExp : Bool) :
    Except Failure (Json × Cursor) :=
  if !zeroSignificand && positiveExp then .error (.numberOutOfRange, c.offset)
  else
    let rest := c.rest.dropWhile Char.isDigit
    let taken := c.rest.length - rest.length
    .ok (.float (Binary64.zero (!positive)), ⟨rest, c.offset + taken⟩)

/-- The exponent digits after the first one. -/
def exponentDigits (positive : Bool) (significand : Nat) (startingExp : Int) (positiveExp : Bool) :
    Int → List Char → Nat → Except Failure (Json × Cursor)
  | exp, ch :: r, o =>
    if ch.isDigit then
      let next := exp * 10 + digitValue ch
      if i32Max < next then exponentOverflow ⟨r, o + 1⟩ positive (significand == 0) positiveExp
      else exponentDigits positive significand startingExp positiveExp next r (o + 1)
    else
      let final := clampExponent (if positiveExp then startingExp + exp else startingExp - exp)
      floatOfParts ⟨ch :: r, o⟩ positive significand final
  | exp, [], o =>
    let final := clampExponent (if positiveExp then startingExp + exp else startingExp - exp)
    floatOfParts ⟨[], o⟩ positive significand final

/-- An exponent part, from its `e` or `E`. -/
def exponentPart (c : Cursor) (positive : Bool) (significand : Nat) (startingExp : Int) :
    Except Failure (Json × Cursor) :=
  let c := c.advance
  let (positiveExp, c) := match c.peek? with
    | some '+' => (true, c.advance)
    | some '-' => (false, c.advance)
    | _ => (true, c)
  match c.rest with
  | [] => .error (.eofWhileParsingValue, c.offset)
  | ch :: r =>
    if ch.isDigit then exponentDigits positive significand startingExp positiveExp (digitValue ch) r (c.offset + 1)
    else .error (.invalidNumber, c.offset + 1)

/-- After a significand that stopped taking digits: the exponent part, if any, or the float. -/
def afterDroppedDigits (c : Cursor) (positive : Bool) (significand : Nat) (exponent : Int) :
    Except Failure (Json × Cursor) :=
  let rest := c.rest.dropWhile Char.isDigit
  let c : Cursor := ⟨rest, c.offset + (c.rest.length - rest.length)⟩
  match c.peek? with
  | some 'e' | some 'E' => exponentPart c positive significand exponent
  | _ => floatOfParts c positive significand exponent

/-- The digits of a fraction part. -/
def fractionDigits (positive : Bool) (exponentBefore : Int) :
    Nat → Int → List Char → Nat → Except Failure (Json × Cursor)
  | significand, after, ch :: r, o =>
    if ch.isDigit then
      let next := significand * 10 + digitValue ch
      if u64Max < next then afterDroppedDigits ⟨ch :: r, o⟩ positive significand (exponentBefore + after)
      else fractionDigits positive exponentBefore next (after - 1) r (o + 1)
    else if after = 0 then .error (.invalidNumber, o + 1)
    else if ch = 'e' || ch = 'E' then exponentPart ⟨ch :: r, o⟩ positive significand (exponentBefore + after)
    else floatOfParts ⟨ch :: r, o⟩ positive significand (exponentBefore + after)
  | significand, after, [], o =>
    if after = 0 then .error (.eofWhileParsingValue, o)
    else floatOfParts ⟨[], o⟩ positive significand (exponentBefore + after)

/-- A fraction part, from its point. -/
def fractionPart (c : Cursor) (positive : Bool) (significand : Nat) (exponentBefore : Int) :
    Except Failure (Json × Cursor) :=
  let c := c.advance
  fractionDigits positive exponentBefore significand 0 c.rest c.offset

/-- After the integer digits: a fraction or exponent part, or the integer itself. A negative
integer stays an integer down to `-2 ^ 63`; `-0` and larger negative magnitudes are floats. -/
def afterInteger (c : Cursor) (positive : Bool) (significand : Nat) : Except Failure (Json × Cursor) :=
  match c.peek? with
  | some '.' => fractionPart c positive significand 0
  | some 'e' | some 'E' => exponentPart c positive significand 0
  | _ =>
    if positive then .ok (.int significand, c)
    else if 1 ≤ significand ∧ significand ≤ Nat.pow 2 63 then .ok (.int (-(significand : Int)), c)
    else .ok (.float (Binary64.ofNat significand).neg, c)

/-- Integer digits past the 64-bit range: counted as powers of ten and otherwise dropped. -/
def longIntegerDigits (positive : Bool) (significand : Nat) :
    Nat → List Char → Nat → Except Failure (Json × Cursor)
  | exponent, ch :: r, o =>
    if ch.isDigit then longIntegerDigits positive significand (exponent + 1) r (o + 1)
    else if ch = '.' then fractionPart ⟨ch :: r, o⟩ positive significand exponent
    else if ch = 'e' || ch = 'E' then exponentPart ⟨ch :: r, o⟩ positive significand exponent
    else floatOfParts ⟨ch :: r, o⟩ positive significand exponent
  | exponent, [], o => floatOfParts ⟨[], o⟩ positive significand exponent

/-- Integer digits after a non-zero first digit. -/
def integerDigits (positive : Bool) : Nat → List Char → Nat → Except Failure (Json × Cursor)
  | significand, ch :: r, o =>
    if ch.isDigit then
      let next := significand * 10 + digitValue ch
      if u64Max < next then longIntegerDigits positive significand 0 (ch :: r) o
      else integerDigits positive next r (o + 1)
    else afterInteger ⟨ch :: r, o⟩ positive significand
  | significand, [], o => afterInteger ⟨[], o⟩ positive significand

/-- A number, at its first digit (after the minus sign of a negative one). A zero may not be
followed by another digit. -/
def number (c : Cursor) (positive : Bool) : Except Failure (Json × Cursor) :=
  match c.rest with
  | [] => .error (.eofWhileParsingValue, c.offset)
  | '0' :: r =>
    let c : Cursor := ⟨r, c.offset + 1⟩
    match c.peek? with
    | some d => if d.isDigit then .error (.invalidNumber, c.peekOffset) else afterInteger c positive 0
    | none => afterInteger c positive 0
  | ch :: r =>
    if ch.isDigit then integerDigits positive (digitValue ch) r (c.offset + 1)
    else .error (.invalidNumber, c.offset + 1)

/-! ## Strings -/

/-- The value of a hexadecimal digit. -/
def hexValue? (ch : Char) : Option Nat :=
  if '0' ≤ ch ∧ ch ≤ '9' then some (ch.toNat - 48)
  else if 'a' ≤ ch ∧ ch ≤ 'f' then some (ch.toNat - 87)
  else if 'A' ≤ ch ∧ ch ≤ 'F' then some (ch.toNat - 55)
  else none

/-- The UTF-8 length of some characters. -/
def utf8Length (cs : List Char) : Nat := cs.foldl (fun n c => n + c.utf8Size) 0

/-- Four hexadecimal digits of a `\u` escape at `o`: their value and what follows, a missing
digit at the end of the text, or a non-digit among the next four bytes. -/
def hexEscape (rest : List Char) (o : Nat) : Except Failure (Nat × List Char × Nat) :=
  match rest with
  | a :: b :: c :: d :: r =>
    match hexValue? a, hexValue? b, hexValue? c, hexValue? d with
    | some a, some b, some c, some d => .ok (((a * 16 + b) * 16 + c) * 16 + d, r, o + 4)
    | _, _, _, _ =>
      if utf8Length [a, b, c, d] < 4 then .error (.eofWhileParsingString, o + utf8Length rest)
      else .error (.invalidEscape, o + 4)
  | _ =>
    if utf8Length rest < 4 then .error (.eofWhileParsingString, o + utf8Length rest)
    else .error (.invalidEscape, o + 4)

/-- The character of a code point below U+D800 or between U+E000 and U+FFFF, or of a whole
surrogate pair. -/
def codePointChar (n : Nat) : Char := Char.ofNat n

/-- The second half of a surrogate pair, after its leading half `high`. -/
def trailingSurrogate (high : Nat) (rest : List Char) (o : Nat) : Except Failure (Char × List Char × Nat) :=
  match rest with
  | [] => .error (.eofWhileParsingString, o)
  | '\\' :: r =>
    match r with
    | [] => .error (.eofWhileParsingString, o + 1)
    | 'u' :: r => do
      let (low, r, o) ← hexEscape r (o + 2)
      if 0xDC00 ≤ low ∧ low ≤ 0xDFFF then
        .ok (codePointChar ((high - 0xD800) * 1024 + (low - 0xDC00) + 0x10000), r, o)
      else .error (.loneLeadingSurrogate, o)
    | _ :: _ => .error (.unexpectedEndOfHexEscape, o + 2)
  | _ :: _ => .error (.unexpectedEndOfHexEscape, o + 1)

/-- The character of a `\u` escape whose four digits are at `o`, a surrogate pair included. -/
def unicodeEscape (rest : List Char) (o : Nat) : Except Failure (Char × List Char × Nat) := do
  let (n, r, o) ← hexEscape rest o
  if 0xDC00 ≤ n ∧ n ≤ 0xDFFF then .error (.loneLeadingSurrogate, o)
  else if 0xD800 ≤ n ∧ n ≤ 0xDBFF then trailingSurrogate n r o
  else .ok (codePointChar n, r, o)

/-- The character a one-letter escape stands for. -/
def simpleEscape? : Char → Option Char
  | '"' => some '"'
  | '\\' => some '\\'
  | '/' => some '/'
  | 'b' => some (Char.ofNat 8)
  | 'f' => some (Char.ofNat 12)
  | 'n' => some '\n'
  | 'r' => some '\r'
  | 't' => some '\t'
  | _ => none

/-- The body of a string literal after its opening quote: the characters read (reversed onto
`acc`), up to and past the closing quote. -/
def stringBody (acc : List Char) : List Char → Nat → Except Failure (String × Cursor)
  | [], o => .error (.eofWhileParsingString, o)
  | '"' :: r, o => .ok (String.ofList acc.reverse, ⟨r, o + 1⟩)
  | '\\' :: r, o =>
    match r with
    | [] => .error (.eofWhileParsingString, o + 1)
    | 'u' :: r' =>
      match unicodeEscape r' (o + 2) with
      | .error e => .error e
      | .ok (ch, r'', o') =>
        -- the escape consumed part of `r'`, so the recursion is on a shorter list
        if r''.length < r'.length then stringBody (ch :: acc) r'' o'
        else .error (.eofWhileParsingString, o')
    | e :: r' =>
      match simpleEscape? e with
      | some ch => stringBody (ch :: acc) r' (o + 2)
      | none => .error (.invalidEscape, o + 2)
  | ch :: r, o =>
    if ch.toNat < 32 then .error (.controlCharacterInString, o + 1)
    else stringBody (ch :: acc) r (o + ch.utf8Size)
termination_by rest => rest.length
decreasing_by all_goals simp_all <;> omega

/-! ## Values -/

/-- The rest of an identifier (`ull`, `rue`, `alse`) after its first letter. -/
def identTail (value : Json) : List Char → Cursor → Except Failure (Json × Cursor)
  | [], c => .ok (value, c)
  | expected :: more, c =>
    match c.rest with
    | [] => .error (.eofWhileParsingValue, c.offset)
    | ch :: r => if ch = expected then identTail value more ⟨r, c.offset + 1⟩ else .error (.expectedSomeIdent, c.offset + 1)

mutual

/-- A value at the cursor, with `depth` more levels of nesting allowed and `fuel` bounding the
calls (enough for any text: each nested call reads at least one character first). -/
def value (fuel depth : Nat) (c : Cursor) : Except Failure (Json × Cursor) :=
  match fuel with
  | 0 => .error (.eofWhileParsingValue, c.offset)
  | fuel + 1 =>
    let c := c.skipBlank
    match c.rest with
    | [] => .error (.eofWhileParsingValue, c.peekOffset)
    | 'n' :: r => identTail .null ['u', 'l', 'l'] ⟨r, c.offset + 1⟩
    | 't' :: r => identTail (.bool true) ['r', 'u', 'e'] ⟨r, c.offset + 1⟩
    | 'f' :: r => identTail (.bool false) ['a', 'l', 's', 'e'] ⟨r, c.offset + 1⟩
    | '-' :: r => number ⟨r, c.offset + 1⟩ false
    | '"' :: r => (stringBody [] r (c.offset + 1)).map fun (s, c) => (.str s, c)
    | '[' :: r =>
      if depth ≤ 1 then .error (.recursionLimitExceeded, c.peekOffset)
      else items fuel (depth - 1) true [] ⟨r, c.offset + 1⟩
    | '{' :: r =>
      if depth ≤ 1 then .error (.recursionLimitExceeded, c.peekOffset)
      else fields fuel (depth - 1) true [] ⟨r, c.offset + 1⟩
    | ch :: _ => if ch.isDigit then number c true else .error (.expectedSomeValue, c.peekOffset)

/-- The items of an array after its `[` (or after an item), collected in reverse. -/
def items (fuel depth : Nat) (first : Bool) (acc : List Json) (c : Cursor) : Except Failure (Json × Cursor) :=
  match fuel with
  | 0 => .error (.eofWhileParsingList, c.offset)
  | fuel + 1 =>
    let c := c.skipBlank
    match c.rest with
    | [] => .error (.eofWhileParsingList, c.peekOffset)
    | ']' :: r => .ok (.arr acc.reverse, ⟨r, c.offset + 1⟩)
    | ch :: r =>
      let next : Except Failure Cursor :=
        if ch = ',' && !first then .ok (Cursor.skipBlank ⟨r, c.offset + 1⟩)
        else if first then .ok c
        else .error (.expectedListCommaOrEnd, c.peekOffset)
      match next with
      | .error e => .error e
      | .ok c =>
        match c.rest with
        | [] => .error (.eofWhileParsingValue, c.peekOffset)
        | ']' :: _ => .error (.trailingComma, c.peekOffset)
        | _ =>
          match value fuel depth c with
          | .error e => .error e
          | .ok (item, c) => items fuel depth false (item :: acc) c

/-- The fields of an object after its `{` (or after a field), inserted in key order. -/
def fields (fuel depth : Nat) (first : Bool) (acc : List (String × Json)) (c : Cursor) :
    Except Failure (Json × Cursor) :=
  match fuel with
  | 0 => .error (.eofWhileParsingObject, c.offset)
  | fuel + 1 =>
    let c := c.skipBlank
    match c.rest with
    | [] => .error (.eofWhileParsingObject, c.peekOffset)
    | '}' :: r => .ok (.obj acc, ⟨r, c.offset + 1⟩)
    | ch :: r =>
      let next : Except Failure Cursor :=
        if ch = ',' && !first then .ok (Cursor.skipBlank ⟨r, c.offset + 1⟩)
        else if first then .ok c
        else .error (.expectedObjectCommaOrEnd, c.peekOffset)
      match next with
      | .error e => .error e
      | .ok c =>
        match c.rest with
        | [] => .error (.eofWhileParsingValue, c.peekOffset)
        | '}' :: _ => .error (.trailingComma, c.peekOffset)
        | '"' :: r =>
          match stringBody [] r (c.offset + 1) with
          | .error e => .error e
          | .ok (key, c) =>
            let c := c.skipBlank
            match c.rest with
            | [] => .error (.eofWhileParsingObject, c.peekOffset)
            | ':' :: r =>
              match value fuel depth ⟨r, c.offset + 1⟩ with
              | .error e => .error e
              | .ok (v, c) => fields fuel depth false (insertField key v acc) c
            | _ :: _ => .error (.expectedColon, c.peekOffset)
        | _ :: _ => .error (.keyMustBeAString, c.peekOffset)

end

/-- Read a whole text as one JSON value; blanks may surround it, anything else after it is
refused. -/
def parse (text : String) : Except ReadError Json :=
  let chars := text.toList
  let located : Except Failure Json := do
    let (v, c) ← value (2 * chars.length + 8) 128 ⟨chars, 0⟩
    let c := c.skipBlank
    if c.rest.isEmpty then pure v else throw (.trailingCharacters, c.peekOffset)
  match located with
  | .ok v => .ok v
  | .error (code, offset) =>
    let (line, column) := lineColumn chars offset
    .error ⟨code, line, column⟩

end Json

end RecordQuery
