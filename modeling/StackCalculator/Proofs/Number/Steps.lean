/-
Steps of the grid, and rounding to it.

Going up the grid by one magnitude adds the spacing of the binade that is left:
`2 ^ shift` steps (`steps_succ`). So the grid is strictly increasing, and what
rounds to a magnitude is the stretch between its two midpoints. `Rounds` says
this, with a midpoint going to the even one of its two magnitudes; no value
rounds to two magnitudes, and the magnitude that a value rounds to is nearer to
it than any other.

The lower of the two gaps is half as wide as the upper one where a binade
begins. Only `steps_succ` looks at where binades end, and, for a value that is
rounded at one spacing, `rounds_of_significand`.
-/
import StackCalculator.Number.Grid
import Mathlib

set_option autoImplicit false

namespace StackCalculator.Number.Grid

/-! ## The spacing -/

theorem shift_add_mul {s m : ℕ} (hlow : 2 ^ 52 ≤ m) (hhigh : m < 2 ^ 53) :
    shift (s * 2 ^ 52 + m) = s := by
  unfold shift
  rw [Nat.pow_eq]
  omega

theorem shift_of_lt {m : ℕ} (hhigh : m < 2 ^ 53) : shift m = 0 := by
  unfold shift
  rw [Nat.pow_eq]
  omega

/-- **A significand at a shift.** One bit too many is one more unit of the
exponent field, and stands for the same number of steps. -/
theorem steps_add_mul {s m : ℕ} (hlow : s = 0 ∨ 2 ^ 52 ≤ m) (hhigh : m ≤ 2 ^ 53) :
    steps (s * 2 ^ 52 + m) = m * 2 ^ s := by
  unfold steps
  rw [Nat.pow_eq, Nat.pow_eq]
  by_cases hcarry : m = 2 ^ 53
  · have hsum : s * 2 ^ 52 + m = (s + 1) * 2 ^ 52 + 2 ^ 52 := by omega
    rw [hsum, shift_add_mul (le_refl _) (by norm_num), Nat.add_sub_cancel_left, hcarry]
    ring
  · have hlt : m < 2 ^ 53 := lt_of_le_of_ne hhigh hcarry
    have hshift : shift (s * 2 ^ 52 + m) = s := by
      rcases hlow with rfl | hlow
      · rw [Nat.zero_mul, Nat.zero_add, shift_of_lt hlt]
      · exact shift_add_mul hlow hlt
    rw [hshift, Nat.add_sub_cancel_left]

/-- Every magnitude is a significand at its shift. -/
theorem exists_eq_add_mul (i : ℕ) :
    ∃ m, i = shift i * 2 ^ 52 + m ∧ (shift i = 0 ∨ 2 ^ 52 ≤ m) ∧ m < 2 ^ 53 := by
  unfold shift
  rw [Nat.pow_eq]
  exact ⟨i - (i / 2 ^ 52 - 1) * 2 ^ 52, by omega, by omega, by omega⟩

/-- **The next magnitude** is one spacing further. -/
theorem steps_succ (i : ℕ) : steps (i + 1) = steps i + 2 ^ shift i := by
  obtain ⟨m, hi, hlow, hhigh⟩ := exists_eq_add_mul i
  generalize shift i = s at hi hlow ⊢
  have hnext : i + 1 = s * 2 ^ 52 + (m + 1) := by omega
  rw [hnext, hi, steps_add_mul (hlow.imp_right (Nat.le_add_right_of_le)) hhigh,
    steps_add_mul hlow hhigh.le, Nat.add_mul, Nat.one_mul]

theorem steps_strictMono : StrictMono steps :=
  strictMono_nat_of_lt_succ fun i => by
    rw [steps_succ]
    exact Nat.lt_add_of_pos_right (Nat.two_pow_pos _)

theorem steps_zero : steps 0 = 0 := rfl

/-! ## Rounding -/

/-- **A number of steps rounds to a magnitude** when it lies between the
midpoints with the magnitudes below and above, or on one of them and the
magnitude is even. -/
structure Rounds (v : ℚ) (i : ℕ) : Prop where
  low : (steps (i - 1) : ℚ) + steps i ≤ 2 * v
  high : 2 * v ≤ (steps i : ℚ) + steps (i + 1)
  even : 2 * v = (steps (i - 1) : ℚ) + steps i ∨ 2 * v = (steps i : ℚ) + steps (i + 1) → Even i

/-- A point of the grid rounds to itself. -/
theorem rounds_steps (i : ℕ) : Rounds (steps i) i := by
  have habove : (steps i : ℚ) < steps (i + 1) :=
    Nat.cast_lt.mpr (steps_strictMono (Nat.lt_succ_self i))
  have hbelow : (steps (i - 1) : ℚ) ≤ steps i :=
    Nat.cast_le.mpr (steps_strictMono.monotone (Nat.sub_le i 1))
  refine ⟨by linarith, by linarith, ?_⟩
  rintro (hmid | hmid)
  · -- only zero is as far up as the magnitude below it
    have hsame : steps (i - 1) = steps i := Nat.cast_injective (R := ℚ) (by linarith)
    have hpred : i - 1 = i := steps_strictMono.injective hsame
    obtain rfl : i = 0 := by omega
    exact Even.zero
  · linarith

namespace Rounds

variable {v : ℚ} {i j : ℕ}

theorem not_lt (hi : Rounds v i) (hj : Rounds v j) : ¬ i < j := by
  intro hlt
  have hbelow : (steps i : ℚ) ≤ steps (j - 1) :=
    Nat.cast_le.mpr (steps_strictMono.monotone (Nat.le_sub_one_of_lt hlt))
  have habove : (steps (i + 1) : ℚ) ≤ steps j :=
    Nat.cast_le.mpr (steps_strictMono.monotone hlt)
  have hhigh := hi.high
  have hlow := hj.low
  -- the two midpoints are the same, so the magnitudes are neighbours and both even
  have hsame : steps (j - 1) = steps i := Nat.cast_injective (R := ℚ) (by linarith)
  have hsucc : j - 1 = i := steps_strictMono.injective hsame
  have hieven : Even i := hi.even (.inr (by linarith))
  have hjeven : Even j := hj.even (.inl (by linarith))
  rw [Nat.even_iff] at hieven hjeven
  omega

/-- **No value rounds to two magnitudes.** -/
theorem unique (hi : Rounds v i) (hj : Rounds v j) : i = j :=
  le_antisymm (Nat.not_lt.mp (hj.not_lt hi)) (Nat.not_lt.mp (hi.not_lt hj))

/-- What lies between two values that round to a magnitude does so too. -/
theorem between {u w : ℚ} (hu : Rounds u i) (hw : Rounds w i) (huv : u ≤ v) (hvw : v ≤ w) :
    Rounds v i := by
  have hlow := hu.low
  have hhigh := hw.high
  refine ⟨by linarith, by linarith, ?_⟩
  -- a midpoint in between is one of the two values
  rintro (hmid | hmid)
  · exact hu.even (.inl (by linarith))
  · exact hw.even (.inr (by linarith))

end Rounds

/-! ## Rounding is going to the nearest -/

section Nearest

variable {a b v : ℚ}

theorem abs_sub_le_iff_of_lt (hab : a < b) : |v - b| ≤ |v - a| ↔ a + b ≤ 2 * v := by
  have hdiff : (v - a) ^ 2 - (v - b) ^ 2 = (b - a) * (2 * v - (a + b)) := by ring
  rw [← sq_le_sq, ← sub_nonneg, hdiff, mul_nonneg_iff_of_pos_left (sub_pos.mpr hab), sub_nonneg]

theorem abs_sub_ge_iff_of_lt (hab : a < b) : |v - a| ≤ |v - b| ↔ 2 * v ≤ a + b := by
  have hdiff : (v - b) ^ 2 - (v - a) ^ 2 = (b - a) * (a + b - 2 * v) := by ring
  rw [← sq_le_sq, ← sub_nonneg, hdiff, mul_nonneg_iff_of_pos_left (sub_pos.mpr hab), sub_nonneg]

theorem abs_sub_eq_iff_of_lt (hab : a < b) : |v - b| = |v - a| ↔ 2 * v = a + b := by
  rw [le_antisymm_iff, abs_sub_le_iff_of_lt hab, abs_sub_ge_iff_of_lt hab, and_comm,
    ← le_antisymm_iff]

end Nearest

namespace Rounds

variable {v : ℚ} {i j n : ℕ}

/-- What rounds to a magnitude is as near to it as to any other, and as near to
another only where the magnitude is even. -/
theorem nearest (h : Rounds v i) (hne : j ≠ i) :
    |v - steps i| ≤ |v - steps j| ∧ (|v - steps j| = |v - steps i| → Even i) := by
  rcases Nat.lt_or_gt_of_ne hne with hlt | hlt
  · have hstrict : (steps j : ℚ) < steps i := Nat.cast_lt.mpr (steps_strictMono hlt)
    have hbelow : (steps j : ℚ) ≤ steps (i - 1) :=
      Nat.cast_le.mpr (steps_strictMono.monotone (Nat.le_sub_one_of_lt hlt))
    have hlow := h.low
    refine ⟨(abs_sub_le_iff_of_lt hstrict).mpr (by linarith), fun htie => h.even (.inl ?_)⟩
    have hmid := (abs_sub_eq_iff_of_lt hstrict).mp htie.symm
    linarith
  · have hstrict : (steps i : ℚ) < steps j := Nat.cast_lt.mpr (steps_strictMono hlt)
    have habove : (steps (i + 1) : ℚ) ≤ steps j :=
      Nat.cast_le.mpr (steps_strictMono.monotone hlt)
    have hhigh := h.high
    refine ⟨(abs_sub_ge_iff_of_lt hstrict).mpr (by linarith), fun htie => h.even (.inr ?_)⟩
    have hmid := (abs_sub_eq_iff_of_lt hstrict).mp htie
    linarith

/-- **The magnitude rounded to is below an even bound** exactly when the value
is below the midpoint under that bound. -/
theorem lt_iff (h : Rounds v i) (hpos : 0 < n) (heven : Even n) :
    i < n ↔ 2 * v < (steps (n - 1) : ℚ) + steps n := by
  constructor
  · intro hlt
    have hat : (steps i : ℚ) ≤ steps (n - 1) :=
      Nat.cast_le.mpr (steps_strictMono.monotone (Nat.le_sub_one_of_lt hlt))
    have habove : (steps (i + 1) : ℚ) ≤ steps n :=
      Nat.cast_le.mpr (steps_strictMono.monotone hlt)
    have hhigh := h.high
    refine lt_of_le_of_ne (by linarith) fun hmid => ?_
    -- on the midpoint the magnitude would be the odd one under the bound
    have hsame : steps i = steps (n - 1) := Nat.cast_injective (R := ℚ) (by linarith)
    have hpred : i = n - 1 := steps_strictMono.injective hsame
    have hieven : Even i := h.even (.inr (by linarith))
    rw [Nat.even_iff] at hieven heven
    omega
  · intro hlt
    by_contra hge
    have hbelow : (steps (n - 1) : ℚ) ≤ steps (i - 1) :=
      Nat.cast_le.mpr (steps_strictMono.monotone (by omega))
    have hat : (steps n : ℚ) ≤ steps i :=
      Nat.cast_le.mpr (steps_strictMono.monotone (by omega))
    have hlow := h.low
    linarith

end Rounds

/-- **Rounding among the magnitudes below a bound** is going to the nearest of
them, a tie to an even one, for a value below the midpoint under the bound. -/
theorem rounds_iff_nearest {v : ℚ} {i n : ℕ} (hi : i < n) (hv : 0 ≤ v)
    (hbound : 2 * v < (steps (n - 1) : ℚ) + steps n) :
    Rounds v i ↔ (∀ j < n, |v - steps i| ≤ |v - steps j|) ∧
      ∀ j < n, j ≠ i → |v - steps j| = |v - steps i| → Even i := by
  constructor
  · intro h
    refine ⟨fun j _ => ?_, fun j _ hne => (h.nearest hne).2⟩
    by_cases hij : j = i
    · rw [hij]
    · exact (h.nearest hij).1
  · rintro ⟨hnearest, htie⟩
    have hbelow (hpos : 0 < i) : (steps (i - 1) : ℚ) < steps i :=
      Nat.cast_lt.mpr (steps_strictMono (Nat.sub_one_lt (Nat.ne_of_gt hpos)))
    have habove : (steps i : ℚ) < steps (i + 1) :=
      Nat.cast_lt.mpr (steps_strictMono (Nat.lt_succ_self i))
    have hlast (hnext : ¬ i + 1 < n) : 2 * v < (steps i : ℚ) + steps (i + 1) := by
      obtain rfl : n = i + 1 := by omega
      exact hbound
    constructor
    case low =>
      rcases Nat.eq_zero_or_pos i with rfl | hpos
      · rw [Nat.zero_sub, steps_zero, Nat.cast_zero]
        linarith
      · exact (abs_sub_le_iff_of_lt (hbelow hpos)).mp (hnearest _ (by omega))
    case high =>
      by_cases hnext : i + 1 < n
      · exact (abs_sub_ge_iff_of_lt habove).mp (hnearest _ hnext)
      · exact (hlast hnext).le
    case even =>
      rintro (hmid | hmid)
      · rcases Nat.eq_zero_or_pos i with rfl | hpos
        · exact Even.zero
        · exact htie (i - 1) (by omega) (by omega)
            ((abs_sub_eq_iff_of_lt (hbelow hpos)).mpr hmid).symm
      · by_cases hnext : i + 1 < n
        · exact htie (i + 1) hnext (by omega) ((abs_sub_eq_iff_of_lt habove).mpr hmid)
        · exact absurd hmid (hlast hnext).ne

/-! ## Rounding a significand -/

section Significand

variable {s m : ℕ}

/-- One spacing down, unless the spacing changes below the significand. -/
theorem steps_pred_add_mul (hpos : 0 < m) (hlow : s = 0 ∨ 2 ^ 52 < m) (hhigh : m ≤ 2 ^ 53) :
    (steps (s * 2 ^ 52 + m - 1) : ℚ) = (m - 1) * 2 ^ s := by
  have hbelow : s = 0 ∨ 2 ^ 52 ≤ m - 1 := hlow.imp_right Nat.le_sub_one_of_lt
  rw [Nat.add_sub_assoc hpos, steps_add_mul hbelow (by omega), Nat.cast_mul, Nat.cast_sub hpos]
  push_cast
  rfl

/-- One spacing up, unless the significand has a bit too many. -/
theorem steps_succ_add_mul (hlow : s = 0 ∨ 2 ^ 52 ≤ m) (hhigh : m < 2 ^ 53) :
    (steps (s * 2 ^ 52 + m + 1) : ℚ) = (m + 1) * 2 ^ s := by
  rw [Nat.add_assoc, steps_add_mul (hlow.imp_right Nat.le_add_right_of_le) hhigh]
  push_cast
  rfl

theorem steps_succ_add_mul_ge (hlow : s = 0 ∨ 2 ^ 52 ≤ m) (hhigh : m ≤ 2 ^ 53) :
    (m + 1 : ℚ) * 2 ^ s ≤ steps (s * 2 ^ 52 + m + 1) := by
  have hshift : s ≤ shift (s * 2 ^ 52 + m) := by
    unfold shift
    rw [Nat.pow_eq]
    omega
  have hwidth : (2 : ℚ) ^ s ≤ 2 ^ shift (s * 2 ^ 52 + m) :=
    pow_le_pow_right₀ (by norm_num) hshift
  rw [steps_succ, steps_add_mul hlow hhigh, Nat.cast_add, Nat.cast_mul, Nat.cast_pow,
    Nat.cast_pow, Nat.cast_ofNat]
  linarith

/-- **Rounding at one spacing.** A value within half a spacing of a significand
rounds to it. Where the grid is finer below the significand or coarser above
it, the significand is a power of two, so that ties go to it in any case. -/
theorem rounds_of_significand {v : ℚ} (hnormal : s = 0 ∨ 2 ^ 52 ≤ m) (hcarry : m ≤ 2 ^ 53)
    (hv : 0 ≤ v) (hstart : s = 0 ∨ (2 ^ 52 : ℚ) * 2 ^ s ≤ v)
    (hlow : (2 * m - 1 : ℚ) * 2 ^ s ≤ 2 * v) (hhigh : 2 * v ≤ (2 * m + 1 : ℚ) * 2 ^ s)
    (heven : 2 * v = (2 * m - 1 : ℚ) * 2 ^ s ∨ 2 * v = (2 * m + 1 : ℚ) * 2 ^ s → Even m) :
    Rounds v (s * 2 ^ 52 + m) := by
  have hat : (steps (s * 2 ^ 52 + m) : ℚ) = m * 2 ^ s := by
    rw [steps_add_mul hnormal hcarry]
    push_cast
    rfl
  have hparity : Even m → Even (s * 2 ^ 52 + m) := by
    rw [Nat.even_iff, Nat.even_iff]
    omega
  have hbelow : s * 2 ^ 52 + m = 0 ∨ (0 < s ∧ m = 2 ^ 52) ∨
      (steps (s * 2 ^ 52 + m - 1) : ℚ) = (m - 1) * 2 ^ s := by
    by_cases hzero : s * 2 ^ 52 + m = 0
    · exact .inl hzero
    · by_cases hfirst : 0 < s ∧ m = 2 ^ 52
      · exact .inr (.inl hfirst)
      · exact .inr (.inr (steps_pred_add_mul (by omega) (by omega) hcarry))
  constructor
  case low =>
    rcases hbelow with hzero | ⟨hs, rfl⟩ | hpred
    · rw [hzero, Nat.zero_sub, steps_zero, Nat.cast_zero]
      linarith
    · have hless : (steps (s * 2 ^ 52 + 2 ^ 52 - 1) : ℚ) ≤ steps (s * 2 ^ 52 + 2 ^ 52) :=
        Nat.cast_le.mpr (steps_strictMono.monotone (Nat.sub_le _ _))
      have hfrom := hstart.resolve_left (Nat.ne_of_gt hs)
      rw [Nat.cast_pow, Nat.cast_ofNat] at hat
      linarith
    · rw [hat, hpred]
      linarith
  case high =>
    have habove := steps_succ_add_mul_ge hnormal hcarry
    rw [hat]
    linarith
  case even =>
    rintro (hmid | hmid)
    · rcases hbelow with hzero | ⟨hs, rfl⟩ | hpred
      · rw [hzero]
        exact Even.zero
      · exact hparity (by decide)
      · rw [hat, hpred] at hmid
        exact hparity (heven (.inl (by linarith)))
    · rcases Nat.lt_or_eq_of_le hcarry with hlt | rfl
      · rw [hat, steps_succ_add_mul hnormal hlt] at hmid
        exact hparity (heven (.inr (by linarith)))
      · exact hparity (by decide)

end Significand

end StackCalculator.Number.Grid
