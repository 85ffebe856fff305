import RecordQuery.Loose.Numeric
import RecordQuery.Loose.Display
import RecordQuery.Text.Utf16

/-!
Contract: loose equality and loose order of two operands.

Owns:
- `Loose.Operand`, an operand after primitive conversion: no value, null, a boolean, a number or
  a text (an array or object becomes its display text);
- `Loose.Operand.toNumber`: no value is NaN, null and `false` are 0, `true` is 1, a text is
  `parseNumber` of it;
- `Loose.looseEqShared`: two composites are equal only when they are one stored value; otherwise
  no value and null equal each other and nothing else, texts compare as texts, booleans as
  booleans, and every other pair by number (so NaN equals nothing);
- `Loose.looseCompare`: two texts by UTF-16 code units, every other pair by number, no order when
  a NaN takes part.
-/

set_option autoImplicit false

namespace RecordQuery

namespace Loose

/-- An operand after primitive conversion. -/
inductive Operand where
  | undefined
  | null
  | bool (b : Bool)
  | number (x : Binary64)
  | text (s : String)

namespace Operand

/-- The primitive form of an operand: numbers by their binary64 value, composites by their
display text. -/
def ofJson? : Option Json → Operand
  | none => .undefined
  | some .null => .null
  | some (.bool b) => .bool b
  | some (.int i) => .number (Binary64.ofInt i)
  | some (.float x) => .number x
  | some (.str s) => .text s
  | some v => .text (displayJson v)

/-- The number an operand stands for. -/
def toNumber : Operand → Binary64
  | .undefined => Binary64.nan
  | .null => Binary64.zero false
  | .bool true => Binary64.one
  | .bool false => Binary64.zero false
  | .number x => x
  | .text s => parseNumber s

/-- No value or null. -/
def isNullish : Operand → Bool
  | .undefined => true
  | .null => true
  | _ => false

end Operand

/-- An array or an object. -/
def isCompositeOperand : Option Json → Bool
  | some v => v.isComposite
  | none => false

/-- Loose equality of the primitive forms. -/
def Operand.looseEq : Operand → Operand → Bool
  | l, r =>
    if l.isNullish || r.isNullish then l.isNullish && r.isNullish
    else
      match l, r with
      | .text a, .text b => a == b
      | .bool a, .bool b => a == b
      | l, r => l.toNumber.equals r.toNumber

/-- Loose equality of two operands. `shared` says whether the two are one stored value: two
composites are equal exactly then, since composites compare by identity. -/
def looseEqShared (shared : Bool) (a b : Option Json) : Bool :=
  if isCompositeOperand a && isCompositeOperand b then shared
  else (Operand.ofJson? a).looseEq (Operand.ofJson? b)

/-- Loose equality of two separately stored operands. -/
def looseEq (a b : Option Json) : Bool := looseEqShared false a b

/-- Loose order of the primitive forms. -/
def Operand.looseCompare : Operand → Operand → Option Ordering
  | .text a, .text b => some (Text.compareUtf16 a b)
  | l, r => l.toNumber.compare? r.toNumber

/-- Loose order of two operands: texts by UTF-16 code units, all else by number; `none` when a
NaN takes part. -/
def looseCompare (a b : Option Json) : Option Ordering :=
  (Operand.ofJson? a).looseCompare (Operand.ofJson? b)

end Loose

end RecordQuery
