import RecordQuery.Number.Binary64
import RecordQuery.Text.Blank

/-!
Contract: the number a string reads as under the loose rules.

Owns:
- `Loose.readDecimal?`: the decimal grammar `[+-] digits [. digits] [(e|E) [+-] digits]` with at
  least one mantissa digit (`5.`, `.5` and `+1` are numbers, `.`, `1e` and `+-1` are not), read to
  the nearest binary64; exponent digits stop counting once the exponent reaches 65536;
- `Loose.parseNumber`: blanks around are ignored and a blank string is zero; a `0x`/`0X`, `0o`/`0O`
  or `0b`/`0B` prefix reads the rest as digits of base 16, 8 or 2 (refused when empty, when a digit
  is out of range, or past `2 ^ 64 - 1`), rounded to binary64; `Infinity` after at most one sign is
  infinite; any character other than a digit or one of `.eE+-` makes NaN, and so does text outside
  the decimal grammar;
- `Loose.numericLiteral?`: the same, except that blank text and NaN are no number.
-/

set_option autoImplicit false

namespace RecordQuery

namespace Loose

/-- The number written by decimal digits. -/
def digitsValue (ds : List Char) : Nat := ds.foldl (fun acc d => acc * 10 + (d.toNat - 48)) 0

/-- The exponent written by decimal digits, where a digit after the exponent has reached 65536
no longer counts. -/
def exponentValue (ds : List Char) : Nat :=
  ds.foldl (fun acc d => if acc < 0x10000 then acc * 10 + (d.toNat - 48) else acc) 0

/-- An exponent part after its `e`: an optional sign, then digits to the end. -/
def readExponent? (cs : List Char) : Option Int :=
  let (negative, digits) := match cs with
    | '-' :: r => (true, r)
    | '+' :: r => (false, r)
    | _ => (false, cs)
  if !digits.isEmpty && digits.all Char.isDigit then
    let e : Int := exponentValue digits
    some (if negative then -e else e)
  else none

/-- A decimal literal, read to the nearest binary64, or `none` outside the grammar. -/
def readDecimal? (cs : List Char) : Option Binary64 :=
  let (negative, body) := match cs with
    | '-' :: r => (true, r)
    | '+' :: r => (false, r)
    | _ => (false, cs)
  let intDigits := body.takeWhile Char.isDigit
  let afterInt := body.dropWhile Char.isDigit
  let (fracDigits, afterFrac) := match afterInt with
    | '.' :: r => (r.takeWhile Char.isDigit, r.dropWhile Char.isDigit)
    | _ => ([], afterInt)
  if intDigits.length + fracDigits.length = 0 then none
  else
    let exponent : Option Int := match afterFrac with
      | [] => some 0
      | e :: r => if e = 'e' || e = 'E' then readExponent? r else none
    exponent.map fun exp =>
      Binary64.ofDecimal negative (digitsValue (intDigits ++ fracDigits)) (exp - fracDigits.length)

/-- The value of a digit in a base up to 36, if it is one. -/
def digitIn? (radix : Nat) (c : Char) : Option Nat :=
  let v :=
    if '0' ≤ c ∧ c ≤ '9' then c.toNat - 48
    else if 'a' ≤ c ∧ c ≤ 'z' then c.toNat - 87
    else if 'A' ≤ c ∧ c ≤ 'Z' then c.toNat - 55
    else radix
  if v < radix then some v else none

/-- Digits of a base as a number, `none` if one is not a digit of the base. -/
def radixValue? (radix : Nat) (ds : List Char) : Option Nat :=
  ds.foldlM (fun acc d => (digitIn? radix d).map fun v => acc * radix + v) 0

/-- The base prefixes, each in its two spellings. -/
def radixPrefixes : List (List Char × Nat) :=
  [(['0', 'x'], 16), (['0', 'X'], 16), (['0', 'o'], 8), (['0', 'O'], 8), (['0', 'b'], 2), (['0', 'B'], 2)]

/-- The digits after a base prefix, with the base, if the text starts with one. -/
def radixBody? (cs : List Char) : Option (Nat × List Char) :=
  (radixPrefixes.find? fun (p, _) => p.isPrefixOf cs).map fun (p, radix) => (radix, cs.drop p.length)

/-- Characters a decimal literal may consist of. -/
def isDecimalChar (c : Char) : Bool :=
  c.isDigit || c = '.' || c = 'e' || c = 'E' || c = '+' || c = '-'

/-- The number a string reads as under the loose rules; NaN when it reads as none. -/
def parseNumber (text : String) : Binary64 :=
  let trimmed := Text.trimBlankChars text.toList
  if trimmed.isEmpty then Binary64.zero false
  else
    match radixBody? trimmed with
    | some (radix, digits) =>
      if digits.isEmpty then Binary64.nan
      else
        match radixValue? radix digits with
        | some n => if n < Nat.pow 2 64 then Binary64.ofNat n else Binary64.nan
        | none => Binary64.nan
    | none =>
      let unsigned := match trimmed with
        | '+' :: r => r
        | '-' :: r => r
        | _ => trimmed
      if unsigned = "Infinity".toList then Binary64.infinity (trimmed.head? == some '-')
      else if !unsigned.all isDecimalChar then Binary64.nan
      else (readDecimal? trimmed).getD Binary64.nan

/-- The number a literal string spells: as `parseNumber`, but blank text and NaN are none. -/
def numericLiteral? (text : String) : Option Binary64 :=
  if (Text.trimBlankChars text.toList).isEmpty then none
  else
    let n := parseNumber text
    if n.isNaN then none else some n

end Loose

end RecordQuery
