import RecordQuery.Number.Shortest

/-!
Contract: the text of a binary64 value from its shortest decimal, under a layout record.

Owns:
- `FloatLayout`, the decisions a number format makes about a shortest decimal: which leading-digit
  exponents are written positionally, whether an integral positional value keeps `.0`, and whether
  a non-negative exponent carries `+`;
- the two layouts the library writes: JSON text (also used when a mismatch names a number) and
  the display text of an operand;
- `Binary64.render`, the signed text of a finite value.

Does not own: NaN and infinity texts (they are chosen by the caller that can meet them).
-/

namespace RecordQuery

/-- What a number format decides about a shortest decimal whose leading digit has exponent
`lead` (so the value lies in `[10 ^ lead, 10 ^ (lead + 1))`). -/
structure FloatLayout where
  /-- The smallest leading-digit exponent written positionally. -/
  plainLow : Int
  /-- The largest leading-digit exponent written positionally. -/
  plainHigh : Int
  /-- Whether an integral value written positionally ends in `.0`. -/
  integralPoint : Bool
  /-- Whether a non-negative exponent is written with a `+`. -/
  plusExponent : Bool

namespace FloatLayout

/-- JSON text: positional from `1e-5` up to below `1e16`, `.0` on integral values, exponents
with an explicit sign (`1e+16`, `1.5e-7`). -/
def json : FloatLayout := ⟨-5, 15, true, true⟩

/-- The display text of an operand: positional from `1e-6` up to below `1e21`, integral values
without a point, exponents with an explicit sign (`2.5e+25`, `1e-7`). -/
def display : FloatLayout := ⟨-6, 20, false, true⟩

/-- `n` zero characters. -/
def zeros (n : Nat) : String := String.ofList (List.replicate n '0')

/-- The text of a decimal's magnitude under the layout. -/
def write (layout : FloatLayout) (d : Decimal) : String :=
  let digits := d.digitChars
  let count := digits.length
  let lead : Int := (count : Int) - 1 + d.exponent
  if layout.plainLow ≤ lead ∧ lead ≤ layout.plainHigh then
    if 0 ≤ d.exponent then
      String.ofList digits ++ zeros d.exponent.toNat ++ (if layout.integralPoint then ".0" else "")
    else if 0 ≤ lead then
      let whole := (lead + 1).toNat
      String.ofList (digits.take whole) ++ "." ++ String.ofList (digits.drop whole)
    else
      "0." ++ zeros (-lead - 1).toNat ++ String.ofList digits
  else
    let head := String.ofList (digits.take 1)
    let tail := if count > 1 then "." ++ String.ofList (digits.drop 1) else ""
    let sign := if 0 ≤ lead ∧ layout.plusExponent then "+" else ""
    head ++ tail ++ "e" ++ sign ++ toString lead

end FloatLayout

namespace Binary64

/-- The text of a finite value under a layout, with `-` before a negative one (negative zero
included). Infinities and NaN are not finite and have no text here; they give the text of
their shortest decimal, zero. -/
def render (layout : FloatLayout) (x : Binary64) : String :=
  (if x.negative then "-" else "") ++ layout.write x.shortest

end Binary64

end RecordQuery
