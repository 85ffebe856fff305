import RecordQuery.Query.Config
import RecordQuery.Query.Error
import RecordQuery.Loose.Numeric
import RecordQuery.Json.Writer

/-!
Contract: how an operand literal becomes the value a leaf compares with.

Owns:
- `Query.substitute`: a string `@name` is the parameter `name` (no value when the table lacks it)
  when there is a table, and itself when there is none;
- `Query.expandLike`: in a like operand every `%` becomes `(?:.*)`;
- `Query.normalize`: null, booleans and numbers stay; arrays and objects are refused; a string that
  spells a number (`numericLiteral?`) becomes that number, an integer when it is integral and in
  `[-2 ^ 63, 2 ^ 63)`; any other string is read as a JSON string literal, wrapped in double quotes
  unless it already starts with `"` or `'`;
- `Query.coerce`, the three steps in that order.
-/

set_option autoImplicit false

namespace RecordQuery

namespace Query

/-- What a `%` of a like operand becomes. -/
def likeWildcard : String := "(?:.*)"

/-- A like operand with every `%` replaced by the wildcard. -/
def expandLike (s : String) : String :=
  String.join (s.toList.map fun c => if c = '%' then likeWildcard else c.toString)

/-- A `@name` operand replaced by its parameter, when there is a table. -/
def substitute (params : Option Params) (raw : Option Json) : Option Json :=
  match raw, params with
  | some (.str s), some table =>
    match s.toList with
    | '@' :: name => Json.getField? (String.ofList name) table
    | _ => raw
  | _, _ => raw

/-- The value of a numeric literal: an integer when integral and within the signed 64-bit range,
else the float; infinities are refused with the literal's own text. -/
def numberValue (field text : String) (n : Binary64) : Except CompileError Json :=
  match n.toInt? with
  | some i => if -(Int.pow 2 63) ≤ i ∧ i < Int.pow 2 63 then .ok (.int i) else .ok (.float n)
  | none => if n.isFinite then .ok (.float n) else .error (.malformedLiteral field text .notFinite)

/-- The text read as a JSON string literal: itself if it starts with a quote, else wrapped in
double quotes. -/
def quotedLiteral (text : String) : String :=
  match text.toList with
  | '"' :: _ => text
  | '\'' :: _ => text
  | _ => "\"" ++ text ++ "\""

/-- The normal form of a substituted operand. -/
def normalize (field : String) : Option Json → Except CompileError (Option Json)
  | none => .ok none
  | some .null => .ok (some .null)
  | some (.bool b) => .ok (some (.bool b))
  | some (.int i) => .ok (some (.int i))
  | some (.float x) => .ok (some (.float x))
  | some (.str text) =>
    match Loose.numericLiteral? text with
    | some n => (numberValue field text n).map some
    | none =>
      let literal := quotedLiteral text
      match Json.parse literal with
      | .ok v => .ok (some v)
      | .error e => .error (.malformedLiteral field literal (.unreadable e))
  | some v => .error (.malformedLiteral field v.compact .expectedScalar)

/-- The operand a leaf compares with: substituted, `%`-expanded for like leaves, normalised. -/
def coerce (params : Option Params) (field : String) (raw : Option Json) (like : Bool) :
    Except CompileError (Option Json) :=
  let value := substitute params raw
  let value := match value with
    | some (.str s) => if like then some (.str (expandLike s)) else value
    | _ => value
  normalize field value

end Query

end RecordQuery
