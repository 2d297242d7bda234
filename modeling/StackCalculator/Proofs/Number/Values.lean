/-
The values of doubles, and what it is to round to one.

The value of a double is read off the fields of its pattern as the format lays
them out: a sign, an exponent field of 11 bits and a fraction of 52. A rational
rounds to a finite double when it is under the overflow threshold and no finite
double is nearer to it, with a tie between two values going to the even
significand. This says nothing of how a nearest double is found, nor of the
grid: that the two notions of rounding are one is `roundsTo_signed_iff`.

Two zeros have the value zero, so the sign of what is rounded is given apart
from its size.
-/
import StackCalculator.Proofs.Number.Bits
import StackCalculator.Proofs.Number.Rounding
import Mathlib

set_option autoImplicit false

namespace StackCalculator.Number

/-! ## Signs -/

/-- A size with a sign. -/
def signed (negative : Bool) (a : ℚ) : ℚ := if negative then -a else a

section Signed

variable (b c : Bool) (x y : ℚ)

@[simp] theorem abs_signed : |signed b x| = |x| := by
  cases b
  · rfl
  · exact abs_neg x

theorem abs_signed_sub_signed : |signed b x - signed b y| = |x - y| := by
  cases b
  · rfl
  · rw [← abs_neg (x - y)]
    simp only [signed, if_true]
    ring_nf

variable {x y}

theorem abs_signed_sub_signed_not (hx : 0 ≤ x) (hy : 0 ≤ y) :
    |signed b x - signed (!b) y| = x + y := by
  rw [← abs_of_nonneg (add_nonneg hx hy)]
  cases b
  · rw [signed, signed, Bool.not_false, if_neg Bool.false_ne_true, if_pos rfl, sub_neg_eq_add]
  · rw [signed, signed, Bool.not_true, if_pos rfl, if_neg Bool.false_ne_true, ← neg_add',
      abs_neg]

theorem abs_sub_le_of_signed (hx : 0 ≤ x) (hy : 0 ≤ y) :
    |x - y| ≤ |signed b x - signed c y| := by
  have h := abs_abs_sub_abs_le_abs_sub (signed b x) (signed c y)
  rwa [abs_signed, abs_signed, abs_of_nonneg hx, abs_of_nonneg hy] at h

end Signed

/-! ## The value of a double -/

/-- The exponent field: zero for the subnormals, 2047 for what is not finite. -/
def exponentField (x : Float) : ℕ := magnitude x / 2 ^ 52

/-- The fraction field. -/
def fractionField (x : Float) : ℕ := magnitude x % 2 ^ 52

/-- The significand as a whole number: a one leads the fraction, except in a
subnormal. -/
def significand (x : Float) : ℕ :=
  if exponentField x = 0 then fractionField x else 2 ^ 52 + fractionField x

/-- The size of a finite double. A subnormal is scaled like the least normal
numbers. -/
def size (x : Float) : ℚ := significand x * 2 ^ ((max (exponentField x) 1 : ℕ) - 1075 : ℤ)

/-- **The value of a finite double.** -/
def value (x : Float) : ℚ := signed (isNegative x) (size x)

theorem size_nonneg (x : Float) : 0 ≤ size x := by
  unfold size
  positivity

theorem even_significand_iff (x : Float) : Even (significand x) ↔ Even (magnitude x) := by
  unfold significand fractionField
  rw [Nat.even_iff, Nat.even_iff]
  split <;> omega

/-- **The grid holds the values**: a size is its magnitude's number of steps. -/
theorem size_eq (x : Float) : size x = Grid.steps (magnitude x) / 2 ^ 1074 := by
  have hshift : Grid.shift (magnitude x) = exponentField x - 1 := rfl
  have hsteps : Grid.steps (magnitude x) = significand x * 2 ^ (exponentField x - 1) := by
    unfold Grid.steps
    rw [hshift, Nat.pow_eq, Nat.pow_eq]
    congr 1
    unfold significand fractionField exponentField
    split <;> omega
  have hscale : ((max (exponentField x) 1 : ℕ) - 1075 : ℤ) = (exponentField x - 1 : ℕ) - 1074 := by
    omega
  rw [size, hscale, hsteps, zpow_sub₀ two_ne_zero, zpow_natCast, Nat.cast_mul, Nat.cast_pow,
    Nat.cast_ofNat, mul_div_assoc]
  rfl

theorem abs_value (x : Float) : |value x| = size x := by
  rw [value, abs_signed, abs_of_nonneg (size_nonneg x)]

/-! ## Rounding to a double -/

/-- **A rational rounds to a finite double**: to nearest, ties to even. -/
structure RoundsTo (q : ℚ) (x : Float) : Prop where
  finite : isFinite x = true
  noOverflow : |q| < 2 ^ 1024 - 2 ^ 970
  nearest : ∀ y, isFinite y = true → |q - value x| ≤ |q - value y|
  even : ∀ y, isFinite y = true → value y ≠ value x → |q - value y| = |q - value x| →
    Even (significand x)

section Scale

variable {a : ℚ} {x y : Float}

/-- Distances of sizes, counted in steps. -/
theorem abs_sub_size (a : ℚ) (x : Float) :
    |a - size x| * 2 ^ 1074 = |a * 2 ^ 1074 - Grid.steps (magnitude x)| := by
  have hunit : (0 : ℚ) < 2 ^ 1074 := by positivity
  rw [size_eq, ← abs_of_pos hunit, ← abs_mul, sub_mul, abs_of_pos hunit,
    div_mul_cancel₀ _ hunit.ne']

theorem abs_sub_size_le_iff : |a - size x| ≤ |a - size y| ↔
    |a * 2 ^ 1074 - Grid.steps (magnitude x)| ≤ |a * 2 ^ 1074 - Grid.steps (magnitude y)| := by
  rw [← abs_sub_size, ← abs_sub_size]
  exact (mul_le_mul_iff_left₀ (by positivity)).symm

theorem abs_sub_size_eq_iff : |a - size x| = |a - size y| ↔
    |a * 2 ^ 1074 - Grid.steps (magnitude x)| = |a * 2 ^ 1074 - Grid.steps (magnitude y)| := by
  rw [le_antisymm_iff, le_antisymm_iff, abs_sub_size_le_iff, abs_sub_size_le_iff]

theorem size_eq_iff : size x = size y ↔ magnitude x = magnitude y := by
  rw [size_eq, size_eq, div_left_inj' (by positivity), Nat.cast_inj,
    Grid.steps_strictMono.injective.eq_iff]

theorem magnitude_eq_zero_of_size (h : size x = 0) : magnitude x = 0 := by
  rw [size_eq, div_eq_zero_iff, or_iff_left (by positivity), Nat.cast_eq_zero] at h
  exact Grid.steps_strictMono.injective h

end Scale

section Rounding

variable {a : ℚ} {x : Float}

theorem abs_signed_sub_value (a : ℚ) (x : Float) :
    |signed (isNegative x) a - value x| = |a - size x| :=
  abs_signed_sub_signed _ _ _

theorem RoundsTo.rounds (ha : 0 ≤ a) (h : RoundsTo (signed (isNegative x) a) x) :
    Grid.Rounds (a * 2 ^ 1074) (magnitude x) := by
  have hbelow := h.noOverflow
  rw [abs_signed, abs_of_nonneg ha] at hbelow
  rw [Grid.rounds_iff_nearest (of_decide_eq_true h.finite) (by positivity)
    (lt_midpoint_infinity_iff.mpr hbelow)]
  -- every magnitude below infinity is that of a finite double of the same sign
  have hdistance (j : ℕ) (hj : j < Grid.infinity) :
      |signed (isNegative x) a - value (ofMagnitude (isNegative x) j)|
        = |a - size (ofMagnitude (isNegative x) j)| := by
    rw [value, isNegative_ofMagnitude _ hj, abs_signed_sub_signed]
  refine ⟨fun j hj => ?_, fun j hj hne htie => ?_⟩
  · have hnear := h.nearest _ (isFinite_ofMagnitude (isNegative x) hj)
    rw [abs_signed_sub_value, hdistance j hj, abs_sub_size_le_iff,
      magnitude_ofMagnitude _ hj] at hnear
    exact hnear
  · rw [← even_significand_iff]
    refine h.even _ (isFinite_ofMagnitude (isNegative x) hj) ?_ ?_
    · intro hsame
      have hsame := congrArg abs hsame
      rw [abs_value, abs_value, size_eq_iff, magnitude_ofMagnitude _ hj] at hsame
      exact hne hsame
    · rw [abs_signed_sub_value, hdistance j hj, abs_sub_size_eq_iff, magnitude_ofMagnitude _ hj]
      exact htie

/-- A value as near to a double as to its opposite rounds to zero. -/
theorem magnitude_eq_zero_of_opposite (h : Grid.Rounds (a * 2 ^ 1074) (magnitude x))
    (hopposite : a + size x = |a - size x|) : magnitude x = 0 := by
  rcases abs_cases (a - size x) with ⟨habs, -⟩ | ⟨habs, -⟩
  · exact magnitude_eq_zero_of_size (by linarith)
  · have hzero : a = 0 := by linarith
    rw [hzero, zero_mul] at h
    exact h.unique (rounds_zero (le_refl _) (by norm_num))

theorem RoundsTo.of_rounds (ha : 0 ≤ a) (hfinite : isFinite x = true)
    (hbelow : a < 2 ^ 1024 - 2 ^ 970) (h : Grid.Rounds (a * 2 ^ 1074) (magnitude x)) :
    RoundsTo (signed (isNegative x) a) x := by
  -- a change of sign takes a double no nearer
  have hother (y : Float) : |a - size y| ≤ |signed (isNegative x) a - value y| :=
    abs_sub_le_of_signed _ _ ha (size_nonneg y)
  have hnearest (y : Float) : |a - size x| ≤ |a - size y| := by
    by_cases hmagnitude : magnitude y = magnitude x
    · rw [size_eq_iff.mpr hmagnitude]
    · exact abs_sub_size_le_iff.mpr (h.nearest hmagnitude).1
  refine ⟨hfinite, ?_, fun y _ => ?_, fun y _ hne htie => ?_⟩
  · rwa [abs_signed, abs_of_nonneg ha]
  · rw [abs_signed_sub_value]
    exact (hnearest y).trans (hother y)
  · rw [even_significand_iff]
    rw [abs_signed_sub_value] at htie
    by_cases hmagnitude : magnitude y = magnitude x
    · -- two values of one size are opposite
      have hsign : isNegative y = !isNegative x :=
        Bool.eq_not.mpr fun hsame => hne (by rw [value, value, hsame, size_eq_iff.mpr hmagnitude])
      rw [value, hsign, abs_signed_sub_signed_not _ ha (size_nonneg y),
        size_eq_iff.mpr hmagnitude] at htie
      rw [magnitude_eq_zero_of_opposite h htie]
      exact Even.zero
    · have hsize : |a - size y| = |a - size x| :=
        le_antisymm ((hother y).trans htie.le) (hnearest y)
      exact (h.nearest hmagnitude).2 (abs_sub_size_eq_iff.mp hsize)

/-- **The two notions of rounding are one.** A size given the sign of a double
rounds to that double when it rounds to its magnitude on the grid. -/
theorem roundsTo_signed_iff (ha : 0 ≤ a) (x : Float) :
    RoundsTo (signed (isNegative x) a) x ↔
      isFinite x = true ∧ a < 2 ^ 1024 - 2 ^ 970 ∧
        Grid.Rounds (a * 2 ^ 1074) (magnitude x) := by
  constructor
  · intro h
    have hbelow := h.noOverflow
    rw [abs_signed, abs_of_nonneg ha] at hbelow
    exact ⟨h.finite, hbelow, h.rounds ha⟩
  · rintro ⟨hfinite, hbelow, hrounds⟩
    exact RoundsTo.of_rounds ha hfinite hbelow hrounds

end Rounding

end StackCalculator.Number
