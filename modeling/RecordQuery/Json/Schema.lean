import RecordQuery.Json.Value
import RecordQuery.Number.Layout
import RecordQuery.Text.Printable

/-!
Contract: reading typed records out of JSON values, with the wording of every mismatch.

Owns:
- `Json.describe`: how a value is named in a mismatch (`null`, ``boolean `true` ``,
  ``integer `5` ``, ``floating point `1.5` `` with the number as JSON text writes it,
  `string "cfg"`, `sequence`, `map`);
- `Json.SchemaError` and its message: a value of the wrong type, a sequence of the wrong length,
  a missing field, an unknown enum variant, an invalid value;
- the record readers shared by every typed record: a field from an object, an element from a
  sequence, and the check that a sequence has no element left over.

A record is read from an object by visiting its keys in sorted order, so of two bad fields the
one with the smaller key is reported; unknown keys are skipped, and a missing required field is
reported after all present ones were read. A record is read from a sequence position by position.
-/

set_option autoImplicit false

namespace RecordQuery

namespace Json

/-- A string as it is quoted in a mismatch: backslash, double quote, tab, carriage return, line
feed and NUL escaped, every other character that does not print as itself (`Text.writesByCode`)
as `\u{…}` in lowercase hex. -/
def debugQuote (s : String) : String :=
  let hex (n : Nat) : String := String.ofList (Nat.toDigits 16 n)
  let esc (c : Char) : String :=
    if c = '\\' then "\\\\"
    else if c = '"' then "\\\""
    else if c = '\t' then "\\t"
    else if c = '\r' then "\\r"
    else if c = '\n' then "\\n"
    else if c.val = 0 then "\\0"
    else if Text.writesByCode c then "\\u" ++ "\x7b" ++ hex c.val.toNat ++ "\x7d"
    else c.toString
  "\"" ++ String.join (s.toList.map esc) ++ "\""

/-- How a value is named when it has the wrong type. -/
def describe : Json → String
  | .null => "null"
  | .bool b => "boolean `" ++ toString b ++ "`"
  | .int i => "integer `" ++ toString i ++ "`"
  | .float x => "floating point `" ++ x.render .json ++ "`"
  | .str s => "string " ++ debugQuote s
  | .arr _ => "sequence"
  | .obj _ => "map"

/-- Why a value does not read as a typed record. -/
inductive SchemaError where
  | invalidType (found : Json) (expected : String)
  | invalidValue (found : String) (expected : String)
  | invalidLength (length : Nat) (expected : String)
  | missingField (name : String)
  | unknownVariant (name : String) (variants : List String)

/-- The variants of an enum as a mismatch lists them. -/
def variantList : List String → String
  | [] => "there are no variants"
  | [a] => "`" ++ a ++ "`"
  | [a, b] => "`" ++ a ++ "` or `" ++ b ++ "`"
  | vs => "one of " ++ ", ".intercalate (vs.map fun v => "`" ++ v ++ "`")

/-- The text of a mismatch. -/
def SchemaError.message : SchemaError → String
  | .invalidType found expected => "invalid type: " ++ describe found ++ ", expected " ++ expected
  | .invalidValue found expected => "invalid value: " ++ found ++ ", expected " ++ expected
  | .invalidLength n expected => "invalid length " ++ toString n ++ ", expected " ++ expected
  | .missingField name => "missing field `" ++ name ++ "`"
  | .unknownVariant name variants => "unknown variant `" ++ name ++ "`, expected " ++ variantList variants

/-- A reader of a typed value. -/
abbrev Reads (α : Type) := Json → Except SchemaError α

/-- A string. -/
def readString : Reads String
  | .str s => .ok s
  | v => .error (.invalidType v "a string")

/-- A string or null. -/
def readOptString : Reads (Option String)
  | .null => .ok none
  | .str s => .ok (some s)
  | v => .error (.invalidType v "a string")

/-- An object, as its fields. -/
def readMap : Reads (List (String × Json))
  | .obj fields => .ok fields
  | v => .error (.invalidType v "a map")

/-- An object whose values are all strings. -/
def readStringMap : Reads (List (String × String))
  | .obj fields => fields.mapM fun (k, v) => (readString v).map fun s => (k, s)
  | v => .error (.invalidType v "a map")

/-- An array of values of one type, read in order. -/
def readSeq {α : Type} (item : Reads α) : Reads (List α)
  | .arr items => items.mapM item
  | v => .error (.invalidType v "a sequence")

/-- Fails when a sequence read as a record had elements left over. -/
def checkNoneLeft (total used : Nat) : Except SchemaError Unit :=
  if used < total then .error (.invalidLength total "fewer elements in array") else .ok ()

/-- The element at a position of a sequence read as a record: a required one is a length error
when missing (counting the elements read before it). -/
def requiredElement {α : Type} (items : List Json) (position : Nat) (recordName : String) (read : Reads α) :
    Except SchemaError α :=
  match items[position]? with
  | some v => read v
  | none => .error (.invalidLength position recordName)

/-- The element at a position of a sequence read as a record, with a default when missing. -/
def defaultedElement {α : Type} (items : List Json) (position : Nat) (default : α) (read : Reads α) :
    Except SchemaError α :=
  match items[position]? with
  | some v => read v
  | none => .ok default

end Json

end RecordQuery
