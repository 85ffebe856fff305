import RecordQuery.Number.Binary64
import Mathlib

/-!
Contract: the exact value of a binary64 value, which values are integers, and which integers are
values exactly.

Owns:
- `Binary64.signedMagnitude` and `Binary64.toRat`: a finite value is its signed scaled magnitude
  over `2 ^ 1074`;
- `Binary64.toInt?_eq_some_iff`: `toInt?` gives exactly the integer a finite value equals, and
  nothing for a value with a fractional part or one that is not finite;
- rounding never makes NaN (`ofRatio_isNaN`), and every natural number below `2 ^ 53` is a value
  exactly (`toRat_ofNat`).

Values are compared through integers: `x` equals the integer `i` when its signed magnitude is
`i * 2 ^ 1074`. The scale is kept as the model writes it, `Nat.pow 2 1074`, and abstracted before
any arithmetic, so that no proof step evaluates the power.
-/

set_option autoImplicit false

namespace RecordQuery

namespace Binary64

/-- The exact value of a finite value times `2 ^ 1074`, with its sign. -/
def signedMagnitude (x : Binary64) : Int :=
  if x.negative then -(x.scaledMagnitude : Int) else x.scaledMagnitude

/-- The exact value of a finite value: its signed magnitude over `2 ^ 1074`. -/
def toRat (x : Binary64) : ℚ := (x.signedMagnitude : ℚ) / (Nat.pow 2 1074 : Nat)

theorem natPow_two_eq (e : Nat) : Nat.pow 2 e = 2 ^ e := rfl

theorem natPow_two_pos (e : Nat) : 0 < Nat.pow 2 e := Nat.two_pow_pos e

theorem natPow_two_mul (a b : Nat) : Nat.pow 2 a * Nat.pow 2 b = Nat.pow 2 (a + b) :=
  (Nat.pow_add 2 a b).symm

/-- A value equals an integer when its signed magnitude is that many steps of `2 ^ -1074`. -/
theorem toRat_eq_intCast_iff (x : Binary64) (i : Int) :
    x.toRat = i ↔ x.signedMagnitude = i * (Nat.pow 2 1074 : Nat) := by
  unfold toRat
  have positive : 0 < Nat.pow 2 1074 := by apply natPow_two_pos
  generalize Nat.pow 2 1074 = step at positive ⊢
  rw [div_eq_iff (by positivity)]
  constructor <;> intro same <;> exact_mod_cast same

/-- A natural number is `i` whole steps exactly when it is a multiple of the step with quotient
`i`. -/
theorem natCast_eq_mul_iff (m step : Nat) (positive : 0 < step) (i : Int) :
    (m % step = 0 ∧ ((m / step : Nat) : Int) = i) ↔ (m : Int) = i * step := by
  constructor
  · rintro ⟨whole, rfl⟩
    exact_mod_cast (Nat.div_mul_cancel (Nat.dvd_of_mod_eq_zero whole)).symm
  · intro same
    -- The quotient is not negative, so it is a natural number.
    obtain ⟨k, rfl⟩ : ∃ k : Nat, i = k := by
      refine ⟨i.toNat, (Int.toNat_of_nonneg ?_).symm⟩
      by_contra negative
      have : i * (step : Int) < 0 := Int.mul_neg_of_neg_of_pos (by omega) (by exact_mod_cast positive)
      omega
    obtain rfl : m = k * step := by exact_mod_cast same
    exact ⟨Nat.mul_mod_left k step, by rw [Nat.mul_div_cancel k positive]⟩

@[simp] theorem isFinite_iff (x : Binary64) : x.isFinite = true ↔ x.exponent ≠ 2047 := by
  simp [isFinite]

/-- `toInt?` reads the integer a value equals: it answers exactly for finite values whose
magnitude is a whole multiple of `2 ^ 1074`, with that multiple and the value's sign. -/
theorem toInt?_eq_some_iff (x : Binary64) (i : Int) :
    x.toInt? = some i ↔ x.isFinite = true ∧ x.toRat = i := by
  rw [toRat_eq_intCast_iff, isFinite_iff]
  unfold toInt? signedMagnitude
  by_cases infinite : x.exponent = 2047
  · simp only [infinite, if_true, reduceCtorEq, ne_eq, not_true_eq_false, false_and]
  · have positive : 0 < Nat.pow 2 1074 := by apply natPow_two_pos
    generalize Nat.pow 2 1074 = step at positive ⊢
    simp only [infinite, if_false, ne_eq, not_false_eq_true, true_and]
    have whole := natCast_eq_mul_iff x.scaledMagnitude step positive
    -- The sign picks the side of zero the integer lies on.
    cases x.negative
    · simp only [Bool.false_eq_true, if_false, ← whole i]
      by_cases divides : x.scaledMagnitude % step = 0 <;> simp [divides]
    · have flip : -(x.scaledMagnitude : Int) = i * step ↔ (x.scaledMagnitude : Int) = -i * step := by
        constructor <;> intro same <;> linarith
      simp only [if_true, flip, ← whole (-i)]
      by_cases divides : x.scaledMagnitude % step = 0 <;> simp [divides]
      omega

/-! ### Rounding -/

/-- Rounding never makes NaN: it gives a zero, a finite value or an infinity. -/
theorem finiteOrInfinity_isNaN (negative : Bool) (exponent fraction : Nat) :
    (finiteOrInfinity negative exponent fraction).isNaN = false := by
  unfold finiteOrInfinity
  split
  · rename_i fits
    simp [isNaN, Nat.ne_of_lt fits.1]
  · rfl

theorem zero_isNaN (negative : Bool) : (zero negative).isNaN = false := rfl

theorem ofRatio_isNaN (negative : Bool) (num den : Nat) : (ofRatio negative num den).isNaN = false := by
  unfold ofRatio
  dsimp only
  split_ifs <;> simp only [zero_isNaN, finiteOrInfinity_isNaN]

theorem finiteOrInfinity_fields {negative : Bool} {exponent fraction : Nat} (finite : exponent < 2047)
    (fits : fraction < 2 ^ 52) :
    (finiteOrInfinity negative exponent fraction).negative = negative ∧
      (finiteOrInfinity negative exponent fraction).exponent = exponent ∧
      (finiteOrInfinity negative exponent fraction).fraction = fraction := by
  unfold finiteOrInfinity
  rw [dif_pos ⟨finite, fits⟩]
  exact ⟨rfl, rfl, rfl⟩

/-! ### Whole numbers below `2 ^ 53` -/

/-- The leading binary digit of a positive whole number is its `log2`. -/
theorem ratioLog2_of_den_one {n : Nat} (positive : 0 < n) : ratioLog2 n 1 = n.log2 := by
  have below : 2 ^ n.log2 ≤ n := Nat.log2_self_le (by omega)
  have logOne : Nat.log2 1 = 0 := by decide
  simp [ratioLog2, ratioAtLeastPow, logOne, below]

/-- A positive whole number below `2 ^ 53`, shifted up to 53 binary digits, lies in
`[2 ^ 52, 2 ^ 53)`: it is its own significand. -/
theorem shifted_bounds {n : Nat} (positive : 0 < n) (small : n < 2 ^ 53) :
    2 ^ 52 ≤ n * 2 ^ (52 - n.log2) ∧ n * 2 ^ (52 - n.log2) < 2 ^ 53 := by
  have below : 2 ^ n.log2 ≤ n := Nat.log2_self_le (by omega)
  have above : n < 2 ^ (n.log2 + 1) := Nat.lt_log2_self
  have width : n.log2 < 53 := (Nat.log2_lt (by omega)).mpr small
  have low : 2 ^ 52 = 2 ^ n.log2 * 2 ^ (52 - n.log2) := by
    rw [← Nat.pow_add, Nat.add_sub_cancel' (by omega)]
  have high : 2 ^ 53 = 2 ^ (n.log2 + 1) * 2 ^ (52 - n.log2) := by
    rw [← Nat.pow_add, show n.log2 + 1 + (52 - n.log2) = 53 by omega]
  constructor
  · rw [low]
    exact Nat.mul_le_mul_right _ below
  · rw [high]
    exact Nat.mul_lt_mul_of_pos_right above (Nat.two_pow_pos _)

/-- Rounding a positive whole number below `2 ^ 53` is exact: no bit is lost, so the remainder is
zero and the result has the number's own significand and the exponent of its leading digit. -/
theorem ofNat_fields {n : Nat} (positive : 0 < n) (small : n < 2 ^ 53) :
    ofNat n = finiteOrInfinity false (n.log2 + 1023) (n * 2 ^ (52 - n.log2) - 2 ^ 52) := by
  have width : n.log2 < 53 := (Nat.log2_lt (by omega)).mpr small
  obtain ⟨atLeast, lessThan⟩ := shifted_bounds positive small
  have unit : max ((n.log2 : Int) - 52) (-1074) = (n.log2 : Int) - 52 := by omega
  have upShift : (-((n.log2 : Int) - 52)).toNat = 52 - n.log2 := by omega
  have downShift : ((n.log2 : Int) - 52).toNat = 0 := by omega
  have biased : ((n.log2 : Int) - 52 + 1075).toNat = n.log2 + 1023 := by omega
  have exact : roundsUp (n * 2 ^ (52 - n.log2)) 0 1 = false := by simp [roundsUp]
  have nonzero : (decide (n = 0) || decide (1 = 0)) = false := by simp; omega
  unfold ofNat ofRatio
  simp only [ratioLog2_of_den_one positive, unit, upShift, downShift, biased, natPow_two_eq,
    Nat.pow_zero, Nat.mul_one, Nat.div_one, Nat.mod_one, exact, Bool.false_eq_true, if_false,
    Nat.add_zero, if_neg (Nat.not_lt.mpr atLeast), if_neg (Nat.ne_of_lt lessThan), nonzero]

/-- A value with a clear sign and `n` whole steps of magnitude is the number `n`. -/
theorem toRat_of_scaledMagnitude {x : Binary64} {n : Nat} (sign : x.negative = false)
    (magnitude : x.scaledMagnitude = n * Nat.pow 2 1074) : x.toRat = n := by
  have signed : x.signedMagnitude = (n : Int) * (Nat.pow 2 1074 : Nat) := by
    unfold signedMagnitude
    rw [sign, magnitude, if_neg Bool.false_ne_true]
    exact Nat.cast_mul n (Nat.pow 2 1074)
  exact_mod_cast (toRat_eq_intCast_iff x n).mpr signed

/-- A natural number below `2 ^ 53` rounds to a finite value with a clear sign and exactly its
own magnitude. -/
theorem scaledMagnitude_ofNat {n : Nat} (small : n < 2 ^ 53) :
    (ofNat n).negative = false ∧ (ofNat n).exponent ≠ 2047 ∧
      (ofNat n).scaledMagnitude = n * Nat.pow 2 1074 := by
  by_cases zero : n = 0
  · subst zero
    refine ⟨rfl, by decide, ?_⟩
    apply Eq.symm
    apply Nat.zero_mul
  · have positive : 0 < n := Nat.pos_of_ne_zero zero
    have width : n.log2 < 53 := (Nat.log2_lt zero).mpr small
    obtain ⟨atLeast, lessThan⟩ := shifted_bounds positive small
    obtain ⟨sign, exponent, fraction⟩ := @finiteOrInfinity_fields false (n.log2 + 1023) _
      (show n.log2 + 1023 < 2047 by omega) (show n * 2 ^ (52 - n.log2) - 2 ^ 52 < 2 ^ 52 by omega)
    rw [ofNat_fields positive small]
    refine ⟨sign, by omega, ?_⟩
    unfold scaledMagnitude significand scale
    rewrite [exponent, fraction, if_neg (by omega), natPow_two_eq 52, Nat.add_sub_cancel' atLeast,
      ← natPow_two_eq (52 - n.log2), Nat.mul_assoc, natPow_two_mul]
    -- The shift up to the significand and the scale of the exponent make up `2 ^ 1074`.
    apply congrArg (n * ·)
    apply congrArg (Nat.pow 2)
    omega

/-- Every natural number below `2 ^ 53` is a binary64 value exactly. -/
theorem toRat_ofNat {n : Nat} (small : n < 2 ^ 53) :
    (ofNat n).isFinite = true ∧ (ofNat n).toRat = n := by
  obtain ⟨sign, finite, magnitude⟩ := scaledMagnitude_ofNat small
  exact ⟨(isFinite_iff _).mpr finite, toRat_of_scaledMagnitude sign magnitude⟩

end Binary64

end RecordQuery
