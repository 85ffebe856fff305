/-!
Contract: IEEE 754 binary64 values as explicit fields, with the operations the query library
needs and no runtime `Float`.

Owns:
- the value type `Binary64` (sign, biased exponent, fraction) and its classes;
- the IEEE order `compare?` (unordered when a NaN takes part, equal on the two zeros) and the IEEE
  equality `equals` built from it;
- rounding of an exact non-negative ratio to the nearest value, ties to the even significand,
  with overflow to infinity;
- integral values and the integer they equal.

Does not own: decimal text in either direction (`Number.Shortest`, `Number.Layout`,
`Number.DecimalText`).
-/

namespace RecordQuery

/-- An IEEE 754 binary64 value: a sign, an 11-bit biased exponent and a 52-bit fraction.
The biased exponent 2047 marks the infinities (fraction zero) and the NaNs (fraction non-zero);
the biased exponent 0 marks zero and the subnormal values. -/
structure Binary64 where
  negative : Bool
  exponent : Nat
  fraction : Nat
  exponent_lt : exponent < 2048
  fraction_lt : fraction < Nat.pow 2 52

namespace Binary64

/-- Two values are equal exactly when their three fields are. -/
theorem ext_fields {x y : Binary64} (negativeEq : x.negative = y.negative)
    (exponentEq : x.exponent = y.exponent) (fractionEq : x.fraction = y.fraction) : x = y := by
  cases x
  cases y
  simp_all

instance : DecidableEq Binary64 := fun x y =>
  if h : x.negative = y.negative ∧ x.exponent = y.exponent ∧ x.fraction = y.fraction then
    isTrue (ext_fields h.1 h.2.1 h.2.2)
  else
    isFalse (fun e => h (by subst e; exact ⟨rfl, rfl, rfl⟩))

/-- Zero with the given sign. -/
def zero (negative : Bool) : Binary64 := ⟨negative, 0, 0, by decide, by decide⟩

/-- Infinity with the given sign. -/
def infinity (negative : Bool) : Binary64 := ⟨negative, 2047, 0, by decide, by decide⟩

/-- The quiet NaN with the highest fraction bit set and a clear sign. -/
def nan : Binary64 := ⟨false, 2047, Nat.pow 2 51, by decide, by decide⟩

/-- The value one. -/
def one : Binary64 := ⟨false, 1023, 0, by decide, by decide⟩

/-- NaN: the all-ones exponent with a non-zero fraction. -/
def isNaN (x : Binary64) : Bool := x.exponent == 2047 && x.fraction != 0

/-- An infinity: the all-ones exponent with a zero fraction. -/
def isInfinite (x : Binary64) : Bool := x.exponent == 2047 && x.fraction == 0

/-- Neither an infinity nor a NaN. -/
def isFinite (x : Binary64) : Bool := x.exponent != 2047

/-- Zero of either sign. -/
def isZero (x : Binary64) : Bool := x.exponent == 0 && x.fraction == 0

/-- The integer significand of a finite value: the fraction with the hidden bit for normal
values, the bare fraction for subnormal ones. -/
def significand (x : Binary64) : Nat :=
  if x.exponent = 0 then x.fraction else Nat.pow 2 52 + x.fraction

/-- The power of two the significand is scaled by, above the smallest one: the magnitude of a
finite value is `significand * 2 ^ scale / 2 ^ 1074`. Subnormals share the scale of the
smallest normal exponent. -/
def scale (x : Binary64) : Nat := x.exponent - 1

/-- The order key of the magnitude: the exponent and fraction read as one number. For values
that are not NaN, a larger key is a larger magnitude. -/
def magnitudeKey (x : Binary64) : Nat := x.exponent * Nat.pow 2 52 + x.fraction

/-- The IEEE comparison: `none` when either side is NaN, `eq` on the two zeros, and otherwise the
order of the signed magnitudes. -/
def compare? (x y : Binary64) : Option Ordering :=
  if x.isNaN || y.isNaN then none
  else if x.isZero && y.isZero then some .eq
  else
    match x.negative, y.negative with
    | false, false => some (compare x.magnitudeKey y.magnitudeKey)
    | true, true => some (compare y.magnitudeKey x.magnitudeKey)
    | false, true => some .gt
    | true, false => some .lt

/-- IEEE equality: NaN equals nothing, and the two zeros are equal. -/
def equals (x y : Binary64) : Bool := x.compare? y == some .eq

/-- The value with the given sign and fields when they describe a finite value, and the infinity
of that sign when the exponent has run past the largest finite one. -/
def finiteOrInfinity (negative : Bool) (exponent fraction : Nat) : Binary64 :=
  if h : exponent < 2047 ∧ fraction < Nat.pow 2 52 then
    ⟨negative, exponent, fraction, by omega, h.2⟩
  else
    infinity negative

/-- `num * 2 ^ -shift ≥ den * 2 ^ shift` read for a signed shift: whether `num / den ≥ 2 ^ shift`. -/
def ratioAtLeastPow (num den : Nat) (shift : Int) : Bool :=
  den * Nat.pow 2 shift.toNat ≤ num * Nat.pow 2 (-shift).toNat

/-- The exponent of the leading binary digit of `num / den`, for a positive ratio:
the `k` with `2 ^ k ≤ num / den < 2 ^ (k + 1)`. -/
def ratioLog2 (num den : Nat) : Int :=
  let guess : Int := (num.log2 : Int) - den.log2
  if ratioAtLeastPow num den guess then guess else guess - 1

/-- Whether a quotient `q` with remainder `r` of a division by `d` rounds up to the nearest
integer, a tie going to the even one. -/
def roundsUp (q r d : Nat) : Bool :=
  d < 2 * r || (2 * r == d && q % 2 == 1)

/-- The nearest binary64 value to `num / den` with the given sign, a tie going to the even
significand; a ratio past the largest finite value gives infinity, and a zero numerator (or a zero
denominator, which no caller passes) gives zero. -/
def ofRatio (negative : Bool) (num den : Nat) : Binary64 :=
  if num = 0 || den = 0 then zero negative
  else
    let unit : Int := max (ratioLog2 num den - 52) (-1074)
    let scaledNum := num * Nat.pow 2 (-unit).toNat
    let scaledDen := den * Nat.pow 2 unit.toNat
    let quotient := scaledNum / scaledDen
    let rounded := quotient + (if roundsUp quotient (scaledNum % scaledDen) scaledDen then 1 else 0)
    if rounded < Nat.pow 2 52 then
      finiteOrInfinity negative 0 rounded
    else if rounded = Nat.pow 2 53 then
      finiteOrInfinity negative (unit + 1076).toNat 0
    else
      finiteOrInfinity negative (unit + 1075).toNat (rounded - Nat.pow 2 52)

/-- The nearest value to a natural number. -/
def ofNat (n : Nat) : Binary64 := ofRatio false n 1

/-- The nearest value to an integer; zero is the positive zero. -/
def ofInt (i : Int) : Binary64 := ofRatio (decide (i < 0)) i.natAbs 1

/-- The nearest value to `digits * 10 ^ exp10` with the given sign. Exponents beyond any
representable magnitude are settled without computing the power: a non-zero mantissa with a
decimal exponent past 400 overflows, and one more than 400 decimal places below its own binary
length underflows to zero. -/
def ofDecimal (negative : Bool) (digits : Nat) (exp10 : Int) : Binary64 :=
  if digits = 0 then zero negative
  else if 400 < exp10 then infinity negative
  else if exp10 < -(400 + (digits.log2 : Int)) then zero negative
  else if 0 ≤ exp10 then ofRatio negative (digits * Nat.pow 10 exp10.toNat) 1
  else ofRatio negative digits (Nat.pow 10 (-exp10).toNat)

/-- The exact magnitude of a finite value, times `2 ^ 1074`. -/
def scaledMagnitude (x : Binary64) : Nat := x.significand * Nat.pow 2 x.scale

/-- The integer a finite value equals when it has no fractional part; `none` for values with a
fractional part, for the infinities and for NaN. Negative zero gives `0`. -/
def toInt? (x : Binary64) : Option Int :=
  if x.exponent = 2047 then none
  else if x.scaledMagnitude % Nat.pow 2 1074 = 0 then
    let whole : Int := (x.scaledMagnitude / Nat.pow 2 1074 : Nat)
    some (if x.negative then -whole else whole)
  else none

/-- The value with the sign flipped. -/
def neg (x : Binary64) : Binary64 := { x with negative := !x.negative }

end Binary64

end RecordQuery
