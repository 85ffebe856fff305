import RecordQuery.Json.Value
import RecordQuery.Number.Layout

/-!
Contract: the display text of an operand, the text a pattern is tested against.

Owns:
- `Binary64.displayText`: `NaN`, `Infinity`, `-Infinity`, `0` for both zeros, the shortest digits
  positionally from `1e-6` up to below `1e21`, and `d.ddde±N` outside;
- `Loose.display`: no value is `undefined`, null `null`, booleans `true`/`false`, integers in
  decimal, strings themselves, arrays their items' texts joined by commas with null items empty,
  and objects `[object Object]`.
-/

set_option autoImplicit false

namespace RecordQuery

/-- The display text of a binary64 value. -/
def Binary64.displayText (x : Binary64) : String :=
  if x.isNaN then "NaN"
  else if x.isInfinite then (if x.negative then "-Infinity" else "Infinity")
  else if x.isZero then "0"
  else x.render .display

namespace Loose

mutual

/-- The display text of a JSON value. -/
def displayJson : Json → String
  | .null => "null"
  | .bool true => "true"
  | .bool false => "false"
  | .int i => toString i
  | .float x => x.displayText
  | .str s => s
  | .arr items => ",".intercalate (displayItems items)
  | .obj _ => "[object Object]"

/-- The display texts of array items, null items empty. -/
def displayItems : List Json → List String
  | [] => []
  | .null :: rest => "" :: displayItems rest
  | item :: rest => displayJson item :: displayItems rest

end

/-- The display text of an operand; no value is `undefined`. -/
def display : Option Json → String
  | none => "undefined"
  | some v => displayJson v

end Loose

end RecordQuery
