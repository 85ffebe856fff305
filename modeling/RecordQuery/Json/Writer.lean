import RecordQuery.Json.Value
import RecordQuery.Number.Layout

/-!
Contract: compact JSON text of a value.

Owns:
- `Json.quote`: a string literal in which `"` and `\` are escaped, the controls `\b \f \n \r \t`
  take their short escapes and every other character below U+0020 is written `\u00xx` in lowercase
  hex; everything else, DEL and all non-ASCII characters included, is written as itself;
- `Json.compact`: values without any whitespace, numbers in the JSON float layout; `renderWith`
  with the ASCII style also escapes every non-ASCII character as UTF-16 `\\u` escapes.

Does not own: reading (`Json.Reader`).
-/

namespace RecordQuery

namespace Json

/-- A lowercase hexadecimal digit. -/
def hexDigit (n : Nat) : Char :=
  if n < 10 then Char.ofNat (48 + n) else Char.ofNat (87 + n)

/-- Four lowercase hexadecimal digits of a number below `2 ^ 16`. -/
def hex4 (n : Nat) : List Char :=
  [hexDigit (n / 4096 % 16), hexDigit (n / 256 % 16), hexDigit (n / 16 % 16), hexDigit (n % 16)]

/-- How string literals are written: `asciiOnly` also escapes every non-ASCII character as
`\uxxxx`, an astral one as its two UTF-16 surrogates. -/
structure TextStyle where
  asciiOnly : Bool

/-- Characters as themselves beyond ASCII. -/
def TextStyle.standard : TextStyle := ⟨false⟩

/-- Pure ASCII text. -/
def TextStyle.ascii : TextStyle := ⟨true⟩

/-- The `\u` escapes of a non-ASCII character: one for the basic plane, a surrogate pair above. -/
def unicodeEscapes (c : Char) : List Char :=
  let n := c.val.toNat
  if n < 0x10000 then '\\' :: 'u' :: hex4 n
  else
    let m := n - 0x10000
    ('\\' :: 'u' :: hex4 (0xD800 + m / 1024)) ++ ('\\' :: 'u' :: hex4 (0xDC00 + m % 1024))

/-- The escaped form of one character inside a string literal. -/
def escapeChar (style : TextStyle) (c : Char) : List Char :=
  if c = '"' then ['\\', '"']
  else if c = '\\' then ['\\', '\\']
  else if c = '\n' then ['\\', 'n']
  else if c = '\r' then ['\\', 'r']
  else if c = '\t' then ['\\', 't']
  else if c.val = 8 then ['\\', 'b']
  else if c.val = 12 then ['\\', 'f']
  else if c.val < 32 then
    ['\\', 'u', '0', '0', hexDigit (c.val.toNat / 16), hexDigit (c.val.toNat % 16)]
  else if style.asciiOnly && 127 < c.val.toNat then unicodeEscapes c
  else [c]

/-- A string literal with its quotes. -/
def quoteWith (style : TextStyle) (s : String) : String :=
  String.ofList ('"' :: (s.toList.flatMap (escapeChar style) ++ ['"']))

/-- A string literal with its quotes, non-ASCII characters as themselves. -/
def quote (s : String) : String := quoteWith .standard s

mutual

/-- JSON text without whitespace, fields in their stored order. -/
def renderWith (style : TextStyle) : Json → String
  | .null => "null"
  | .bool true => "true"
  | .bool false => "false"
  | .int i => toString i
  | .float x => x.render .json
  | .str s => quoteWith style s
  | .arr items => "[" ++ ",".intercalate (renderItems style items) ++ "]"
  | .obj fields => "\x7b" ++ ",".intercalate (renderFields style fields) ++ "\x7d"

/-- The texts of array items. -/
def renderItems (style : TextStyle) : List Json → List String
  | [] => []
  | item :: rest => renderWith style item :: renderItems style rest

/-- The texts `"key":value` of object fields. -/
def renderFields (style : TextStyle) : List (String × Json) → List String
  | [] => []
  | (k, v) :: rest => (quoteWith style k ++ ":" ++ renderWith style v) :: renderFields style rest

end

/-- Compact JSON text, non-ASCII characters as themselves. -/
def compact (v : Json) : String := renderWith .standard v

end Json

end RecordQuery
