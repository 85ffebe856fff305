import RecordQuery.Number.Binary64

/-!
Contract: the shortest decimal that reads back as a given binary64 value.

Owns:
- `Decimal`, a natural mantissa with a power-of-ten exponent;
- the rounding interval of a finite value (the reals that round to it, ends included when its
  significand is even);
- `Binary64.shortest`: the fewest significant digits whose decimal lies in that interval, and of
  the two neighbours of the value on that decimal grid the nearer one (a tie to the even one).

The search is the plain one: for 1, 2, … 17 digits, test the value's two neighbours on the grid
of that many digits in exact `Nat` arithmetic. If any point of a grid lies in the interval, so does
one of the two neighbours, because the interval is convex and contains the value.

Does not own: where a text writes the point or an exponent (`Number.Layout`).
-/

namespace RecordQuery

/-- The decimal `mantissa * 10 ^ exponent`. -/
structure Decimal where
  mantissa : Nat
  exponent : Int
  deriving DecidableEq, Repr

namespace Decimal

/-- The same decimal without trailing zero digits in the mantissa. -/
def trim (d : Decimal) : Decimal :=
  go 400 d.mantissa d.exponent
where
  go : Nat → Nat → Int → Decimal
    | 0, m, e => ⟨m, e⟩
    | fuel + 1, m, e =>
      if m ≠ 0 ∧ m % 10 = 0 then go fuel (m / 10) (e + 1) else ⟨m, e⟩

/-- The decimal digits of the mantissa, most significant first (`[0]` for zero). -/
def digitChars (d : Decimal) : List Char := (Nat.toDigits 10 d.mantissa)

end Decimal

/-- A positive rational `num / den` with a power of two attached: `a * 2 ^ e` is compared against
`c * 10 ^ k` exactly, by moving every negative power to the other side. -/
def compareScaled (a : Nat) (e : Int) (c : Nat) (k : Int) : Ordering :=
  compare (a * Nat.pow 2 e.toNat * Nat.pow 10 (-k).toNat) (c * Nat.pow 10 k.toNat * Nat.pow 2 (-e).toNat)

/-- `floor (a * 2 ^ e / 10 ^ k)`. -/
def floorScaled (a : Nat) (e : Int) (k : Int) : Nat :=
  (a * Nat.pow 2 e.toNat * Nat.pow 10 (-k).toNat) / (Nat.pow 10 k.toNat * Nat.pow 2 (-e).toNat)

/-- The exponent of the leading decimal digit of a positive `a * 2 ^ e`: the `g` with
`10 ^ g ≤ a * 2 ^ e < 10 ^ (g + 1)`. A first guess from the binary length is off by at most one
either way, and a few exact steps settle it. -/
def leadingPower10 (a : Nat) (e : Int) : Int :=
  let guess : Int := (((a.log2 : Int) + e) * 30103) / 100000
  settle 4 guess
where
  settle : Nat → Int → Int
    | 0, g => g
    | fuel + 1, g =>
      if compareScaled a e 1 g == .lt then settle fuel (g - 1)
      else if compareScaled a e 1 (g + 1) != .lt then settle fuel (g + 1)
      else g

namespace Binary64

/-- The rounding interval of a finite non-zero value, as `(low, value, high)` numerators over the
common factor `2 ^ (scale - 1076)`: the value is `4 * significand`, the upper end two above it,
and the lower end two below it, or one below at the bottom of a binade where the gap below is
half as wide. -/
def roundingInterval (x : Binary64) : Nat × Nat × Nat :=
  let m := x.significand
  let low := if x.fraction = 0 ∧ 1 < x.exponent then 4 * m - 1 else 4 * m - 2
  (low, 4 * m, 4 * m + 2)

/-- The binary exponent of the interval numerators of `roundingInterval`. -/
def intervalExponent (x : Binary64) : Int := (x.scale : Int) - 1076

/-- Whether `c * 10 ^ k` lies in the rounding interval of `x`, ends included exactly when the
significand of `x` is even (those ends read back as `x` under ties to even). -/
def inInterval (x : Binary64) (c : Nat) (k : Int) : Bool :=
  let (low, _, high) := x.roundingInterval
  let e := x.intervalExponent
  let inclusive := x.significand % 2 == 0
  let aboveLow := match compareScaled low e c k with
    | .lt => true
    | .eq => inclusive
    | .gt => false
  let belowHigh := match compareScaled high e c k with
    | .gt => true
    | .eq => inclusive
    | .lt => false
  aboveLow && belowHigh

/-- Of the two neighbours `c` and `c + 1` on the grid `10 ^ k`, those in the interval, the nearer
to the value first, a tie to the even one. -/
def pickNeighbour (x : Binary64) (c : Nat) (k : Int) : Option Nat :=
  let (_, v, _) := x.roundingInterval
  let e := x.intervalExponent
  let lowIn := x.inInterval c k
  let highIn := x.inInterval (c + 1) k
  if lowIn && highIn then
    -- compare 2v with (2c + 1) * 10 ^ k
    match compareScaled (2 * v) e (2 * c + 1) k with
    | .lt => some c
    | .gt => some (c + 1)
    | .eq => some (if c % 2 = 0 then c else c + 1)
  else if lowIn then some c
  else if highIn then some (c + 1)
  else none

/-- The shortest decimal of the magnitude of a finite value; zero for the zeros. Among decimals
with the fewest significant digits that lie in the rounding interval it is the nearest to the
value. The result carries no trailing zero digit. -/
def shortest (x : Binary64) : Decimal :=
  if x.isZero || !x.isFinite then ⟨0, 0⟩
  else
    let (_, v, _) := x.roundingInterval
    let e := x.intervalExponent
    let lead := leadingPower10 v e
    search v e lead 17 1
where
  search (v : Nat) (e : Int) (lead : Int) : Nat → Nat → Decimal
    | 0, _ => ⟨floorScaled v e (lead - 16), lead - 16⟩
    | fuel + 1, n =>
      let k := lead - (n : Int) + 1
      let c := floorScaled v e k
      match x.pickNeighbour c k with
      | some d => Decimal.trim ⟨d, k⟩
      | none => search v e lead fuel (n + 1)

end Binary64

end RecordQuery
