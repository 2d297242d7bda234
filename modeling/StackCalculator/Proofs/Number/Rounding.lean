/-
The reader's rounding is rounding to the grid.

`nearest` computes with natural numbers: it finds the leading bit of the
value, divides once and rounds the quotient half to even. That quotient is the
significand at the right spacing, so what it returns is the magnitude that the
value rounds to (`rounds_nearest`). The short cuts of `nearestDecimal` are
right as well: past `10^310` the value is above the midpoint under infinity,
and where the exponent is low enough it is under half the smallest step.

All told, `nearestDecimal` stays below infinity exactly for the values under
the overflow threshold `2^1024 - 2^970`, and then gives the magnitude they
round to.
-/
import StackCalculator.Number.Nearest
import StackCalculator.Proofs.Number.Steps
import Mathlib

set_option autoImplicit false

namespace StackCalculator.Number

open Grid (Rounds steps)

/-! ## Rounding a quotient -/

section Quotient

variable (num den : ℕ)

theorem le_roundHalfEven : num / den ≤ roundHalfEven num den := by
  unfold roundHalfEven
  grind

theorem roundHalfEven_le : roundHalfEven num den ≤ num / den + 1 := by
  unfold roundHalfEven
  grind

/-- **Half to even.** The whole number is within a half of the quotient, and
even where it is a half away. -/
theorem roundHalfEven_spec {den : ℕ} (hden : 0 < den) :
    2 * (roundHalfEven num den * den) ≤ 2 * num + den ∧
      2 * num ≤ 2 * (roundHalfEven num den * den) + den ∧
      (2 * (roundHalfEven num den * den) = 2 * num + den ∨
        2 * num = 2 * (roundHalfEven num den * den) + den → Even (roundHalfEven num den)) := by
  have hdiv : num / den * den + num % den = num := Nat.div_add_mod' num den
  have hrest : num % den < den := Nat.mod_lt num hden
  have hsucc : (num / den + 1) * den = num / den * den + den := Nat.succ_mul _ _
  unfold roundHalfEven
  simp only
  by_cases hdown : 2 * (num % den) < den
  · rw [if_pos hdown]
    exact ⟨by omega, by omega, by omega⟩
  rw [if_neg hdown]
  by_cases hup : den < 2 * (num % den)
  · rw [if_pos hup, hsucc]
    exact ⟨by omega, by omega, by omega⟩
  rw [if_neg hup]
  have heven : Even (num / den + num / den % 2) := by
    rw [Nat.even_iff]
    omega
  -- halfway: both neighbours are a half away, and the even one is taken
  rcases Nat.mod_two_eq_zero_or_one (num / den) with hparity | hparity
  · rw [hparity] at heven ⊢
    rw [Nat.add_zero]
    exact ⟨by omega, by omega, fun _ => heven⟩
  · rw [hparity] at heven ⊢
    rw [hsucc]
    exact ⟨by omega, by omega, fun _ => heven⟩

end Quotient

/-! ## Rounding a fraction -/

/-- A value in steps, from a fraction. -/
theorem rounds_quotient {scaled den s : ℕ} (hden : 0 < den)
    (hfrom : s = 0 ∨ 2 ^ 52 * 2 ^ s ≤ scaled / den) (hbelow : scaled / den < 2 ^ 53 * 2 ^ s) :
    Rounds (scaled / den : ℚ) (s * 2 ^ 52 + roundHalfEven scaled (den * 2 ^ s)) := by
  have hwidth : 0 < den * 2 ^ s := by positivity
  obtain ⟨hlow, hhigh, heven⟩ := roundHalfEven_spec scaled hwidth
  have hquotient : scaled / (den * 2 ^ s) = scaled / den / 2 ^ s := (Nat.div_div_eq_div_mul ..).symm
  have hmin := le_roundHalfEven scaled (den * 2 ^ s)
  have hmax := roundHalfEven_le scaled (den * 2 ^ s)
  rw [hquotient] at hmin hmax
  generalize roundHalfEven scaled (den * 2 ^ s) = m at *
  have hdenQ : (0 : ℚ) < den := Nat.cast_pos.mpr hden
  have hvalue : (scaled / den : ℚ) * den = scaled := div_mul_cancel₀ _ hdenQ.ne'
  apply Grid.rounds_of_significand
  · exact hfrom.imp_right fun h => ((Nat.le_div_iff_mul_le (by positivity)).mpr h).trans hmin
  · exact hmax.trans ((Nat.div_lt_iff_lt_mul (by positivity)).mpr hbelow)
  · positivity
  · refine hfrom.imp_right fun h => ?_
    have h := (Nat.le_div_iff_mul_le hden).mp h
    rw [le_div_iff₀ hdenQ]
    exact_mod_cast h
  · have hlow : (2 * (m * (den * 2 ^ s)) : ℚ) ≤ 2 * scaled + den * 2 ^ s := mod_cast hlow
    exact le_of_mul_le_mul_right (by linarith) hdenQ
  · have hhigh : (2 * scaled : ℚ) ≤ 2 * (m * (den * 2 ^ s)) + den * 2 ^ s := mod_cast hhigh
    exact le_of_mul_le_mul_right (by linarith) hdenQ
  · intro hmid
    apply heven
    -- a midpoint times the denominator is a midpoint of whole numbers
    rcases hmid with hmid | hmid
    · left
      have hnat : (2 * (m * (den * 2 ^ s)) : ℚ) = 2 * scaled + den * 2 ^ s := by
        linear_combination 2 * hvalue - (den : ℚ) * hmid
      exact_mod_cast hnat
    · right
      have hnat : (2 * scaled : ℚ) = 2 * (m * (den * 2 ^ s)) + den * 2 ^ s := by
        linear_combination (den : ℚ) * hmid - 2 * hvalue
      exact_mod_cast hnat

/-- The leading bit gives the spacing. -/
theorem rounds_leading {scaled den s : ℕ} (hden : 0 < den) (hs : s = (scaled / den).log2 - 52) :
    Rounds (scaled / den) (s * Nat.pow 2 52 + roundHalfEven scaled (den * Nat.pow 2 s)) := by
  have hleading : scaled / den < 2 ^ ((scaled / den).log2 + 1) := Nat.lt_log2_self
  rw [Nat.pow_eq, Nat.pow_eq]
  refine rounds_quotient hden ?_ ?_
  · rcases Nat.lt_or_ge 52 (scaled / den).log2 with hlog | hlog
    · right
      rw [← pow_add, hs, Nat.add_sub_cancel' hlog.le]
      exact Nat.log2_self_le (by rintro hzero; rw [hzero] at hlog; exact absurd hlog (by decide))
    · exact .inl (hs.trans (Nat.sub_eq_zero_of_le hlog))
  · refine hleading.trans_le ?_
    rw [← pow_add]
    exact Nat.pow_le_pow_right (by decide) (by omega)

theorem div_mul_two_pow (num den e : ℕ) :
    (num / den * 2 ^ e : ℚ) = (num * Nat.pow 2 e : ℕ) / den := by
  rw [Nat.pow_eq, Nat.cast_mul, Nat.cast_pow, Nat.cast_ofNat]
  ring

/-- **The nearest double** is the one the fraction rounds to. -/
theorem rounds_nearest (num : ℕ) {den : ℕ} (hden : 0 < den) :
    Rounds (num / den * 2 ^ 1074) (nearest num den) := by
  -- the power is never to be computed
  obtain ⟨e, he⟩ : ∃ e, e = 1074 := ⟨_, rfl⟩
  unfold nearest
  rw [← he, div_mul_two_pow]
  exact rounds_leading hden rfl

/-! ## Rounding a decimal -/

/-- Up to half a step everything rounds to zero. -/
theorem rounds_zero {v : ℚ} (hv : 0 ≤ v) (hhalf : 2 * v ≤ 1) : Rounds v 0 := by
  have hone : steps 1 = 1 := rfl
  refine ⟨?_, ?_, fun _ => Even.zero⟩
  · rw [Nat.zero_sub, Grid.steps_zero, Nat.cast_zero]
    linarith
  · rw [Nat.zero_add, hone, Grid.steps_zero, Nat.cast_zero, Nat.cast_one]
    linarith

/-- The magnitude of infinity is a significand of one bit too many. -/
theorem infinity_eq : Grid.infinity = 2045 * 2 ^ 52 + 2 ^ 53 := by
  unfold Grid.infinity
  rw [Nat.pow_eq]
  norm_num

/-- **The overflow threshold** is the midpoint under infinity. -/
theorem midpoint_infinity :
    (steps (Grid.infinity - 1) : ℚ) + steps Grid.infinity
      = 2 * ((2 ^ 1024 - 2 ^ 970) * 2 ^ 1074) := by
  have hpred : (steps (Grid.infinity - 1) : ℚ) = ((2 ^ 53 : ℕ) - 1) * 2 ^ 2045 := by
    rw [infinity_eq]
    exact Grid.steps_pred_add_mul (by decide) (by decide) (le_refl _)
  have hat : steps Grid.infinity = 2 ^ 53 * 2 ^ 2045 := by
    rw [infinity_eq]
    exact Grid.steps_add_mul (by decide) (le_refl _)
  have hwidth : (2 : ℚ) ^ 2045 = 2 * 2 ^ 970 * 2 ^ 1074 := by
    rw [← pow_succ', ← pow_add]
  have htop : (2 : ℚ) ^ 1024 = 2 ^ 54 * 2 ^ 970 := by rw [← pow_add]
  rw [hpred, hat, Nat.cast_mul, Nat.cast_pow, Nat.cast_pow, Nat.cast_ofNat, hwidth, htop]
  generalize (2 : ℚ) ^ 970 = a
  generalize (2 : ℚ) ^ 1074 = b
  ring

theorem lt_midpoint_infinity_iff {a : ℚ} :
    2 * (a * 2 ^ 1074) < (steps (Grid.infinity - 1) : ℚ) + steps Grid.infinity ↔
      a < 2 ^ 1024 - 2 ^ 970 := by
  have hunit : (0 : ℚ) < 2 ^ 1074 := by positivity
  rw [midpoint_infinity, mul_lt_mul_iff_right₀ two_pos, mul_lt_mul_iff_left₀ hunit]

/-- A power of ten past which there is no double. -/
theorem overflow_le_pow {e : ℕ} (h : 310 ≤ e) : (2 ^ 1024 - 2 ^ 970 : ℚ) ≤ 10 ^ e := by
  have hcast (a b : ℕ) (h : 2 ^ a ≤ 10 ^ b) : (2 ^ a : ℚ) ≤ 10 ^ b := mod_cast h
  calc (2 ^ 1024 - 2 ^ 970 : ℚ) ≤ 2 ^ 1024 := sub_le_self _ (by positivity)
    _ ≤ 10 ^ 310 := hcast 1024 310 (by decide +kernel)
    _ ≤ 10 ^ e := pow_le_pow_right₀ (by norm_num) h

/-- A negative power of ten by which a coefficient is under half a step. -/
theorem mul_half_step_le {c k : ℕ} (h : c.log2 + 1077 ≤ 3 * k) : c * 2 ^ 1075 ≤ 10 ^ k := by
  calc c * 2 ^ 1075 ≤ 2 ^ (c.log2 + 1) * 2 ^ 1075 := Nat.mul_le_mul_right _ Nat.lt_log2_self.le
    _ = 2 ^ (c.log2 + 1 + 1075) := (pow_add ..).symm
    _ ≤ 2 ^ (3 * k) := Nat.pow_le_pow_right (by decide) (by omega)
    _ = 8 ^ k := pow_mul 2 3 k
    _ ≤ 10 ^ k := Nat.pow_le_pow_left (by decide) k

section Decimal

variable (coefficient : ℕ) (exponent : ℤ)

/-- **Each short cut is right**: what `nearestDecimal` returns is rounded to, or
it is infinity and the value is at or above the overflow threshold. -/
theorem nearestDecimal_cases :
    Rounds (coefficient * 10 ^ exponent * 2 ^ 1074) (nearestDecimal coefficient exponent) ∨
      (nearestDecimal coefficient exponent = Grid.infinity ∧
        (2 ^ 1024 : ℚ) - 2 ^ 970 ≤ coefficient * 10 ^ exponent) := by
  unfold nearestDecimal
  by_cases hzero : coefficient = 0
  · left
    rw [if_pos hzero, hzero, Nat.cast_zero, zero_mul, zero_mul]
    exact rounds_zero (le_refl _) (by norm_num)
  rw [if_neg hzero]
  have hone : (1 : ℚ) ≤ coefficient := Nat.one_le_cast.mpr (Nat.pos_of_ne_zero hzero)
  cases exponent with
  | ofNat e =>
    simp only [Int.ofNat_eq_natCast, zpow_natCast]
    by_cases hlarge : 310 ≤ e
    · right
      rw [if_pos hlarge]
      exact ⟨rfl, (overflow_le_pow hlarge).trans (le_mul_of_one_le_left (by positivity) hone)⟩
    · left
      rw [if_neg hlarge]
      have hnearest := rounds_nearest (coefficient * Nat.pow 10 e) Nat.one_pos
      rwa [Nat.cast_one, div_one, Nat.pow_eq, Nat.cast_mul, Nat.cast_pow, Nat.cast_ofNat]
        at hnearest
  | negSucc e =>
    simp only [zpow_negSucc]
    by_cases hsmall : coefficient.log2 + 1077 ≤ 3 * (e + 1)
    · left
      rw [if_pos hsmall]
      have hpower : (0 : ℚ) < 10 ^ (e + 1) := by positivity
      have hstep : (coefficient * 2 ^ 1075 : ℚ) ≤ 10 ^ (e + 1) :=
        mod_cast mul_half_step_le hsmall
      refine rounds_zero (by positivity) ?_
      rw [← div_eq_mul_inv, div_mul_eq_mul_div, ← mul_div_assoc, div_le_one₀ hpower,
        mul_left_comm, ← pow_succ']
      exact hstep
    · left
      rw [if_neg hsmall]
      have hpower : 0 < Nat.pow 10 (e + 1) := Nat.pow_pos (by decide)
      have hnearest := rounds_nearest coefficient hpower
      rwa [div_eq_mul_inv, Nat.pow_eq, Nat.cast_pow, Nat.cast_ofNat] at hnearest

/-- **The nearest double overflows** from the threshold on. -/
theorem nearestDecimal_lt_iff :
    nearestDecimal coefficient exponent < Grid.infinity ↔
      (coefficient * 10 ^ exponent : ℚ) < 2 ^ 1024 - 2 ^ 970 := by
  rcases nearestDecimal_cases coefficient exponent with hrounds | ⟨hinfinity, hlarge⟩
  · exact (hrounds.lt_iff (by decide) (by decide)).trans lt_midpoint_infinity_iff
  · rw [hinfinity]
    exact iff_of_false (lt_irrefl _) (not_lt.mpr hlarge)

theorem rounds_nearestDecimal (h : nearestDecimal coefficient exponent < Grid.infinity) :
    Rounds (coefficient * 10 ^ exponent * 2 ^ 1074) (nearestDecimal coefficient exponent) := by
  rcases nearestDecimal_cases coefficient exponent with hrounds | ⟨hinfinity, -⟩
  · exact hrounds
  · rw [hinfinity] at h
    exact absurd h (lt_irrefl _)

end Decimal

end StackCalculator.Number
