/-
A finite number that is written reads back.

Wherever the point falls, the text of a decimal is a mantissa that stands for
the decimal's value (`Decimal.exists_laidOut`): zeros behind the digits raise
the coefficient, and zeros before them leave it and lower the scale.
The shortest decimal of a magnitude rounds to it, so the text reads as the
double of that magnitude, with the sign that is written.

Only the zeros need a look at the spelling: one that hides the sign of a zero
reads back as the zero without it.
-/
import StackCalculator.Number.Written
import StackCalculator.Proofs.Number.Interval
import StackCalculator.Proofs.Recognition

set_option autoImplicit false

namespace StackCalculator.Number

/-! ## Digits -/

namespace Numeral

theorem digits_toDigits (n : ℕ) : Digits (Nat.toDigits 10 n) :=
  fun _ hc => Nat.isDigit_of_mem_toDigits (by decide) (by decide) hc

theorem digits_replicate_zero (k : ℕ) : Digits (List.replicate k '0') := by
  intro c hc
  rw [List.eq_of_mem_replicate hc]
  rfl

theorem Digits.append {front back : List Char} (hfront : Digits front) (hback : Digits back) :
    Digits (front ++ back) := by
  intro c hc
  rcases List.mem_append.mp hc with hc | hc
  · exact hfront c hc
  · exact hback c hc

/-- Zeros before the digits change nothing. -/
theorem ofDigitChars_zeros_append (k n : ℕ) :
    Nat.ofDigitChars 10 (List.replicate k '0' ++ Nat.toDigits 10 n) 0 = n := by
  rw [ofDigitChars_append_zero, Nat.ofDigitChars_replicate_zero, Nat.mul_zero, Nat.mul_zero,
    Nat.zero_add, Nat.ofDigitChars_ten_toDigits]

/-- Zeros behind them are as many tens. -/
theorem ofDigitChars_append_zeros (n k : ℕ) :
    Nat.ofDigitChars 10 (Nat.toDigits 10 n ++ List.replicate k '0') 0 = n * 10 ^ k := by
  rw [Nat.ofDigitChars_append, Nat.ofDigitChars_ten_toDigits, Nat.ofDigitChars_replicate_zero,
    Nat.mul_comm]

end Numeral

/-! ## A decimal without exponent -/

namespace Decimal

open Numeral (MantissaText ofDigitChars_zeros_append ofDigitChars_append_zeros)

/-- A decimal is written without exponent, its digits cut where the point is. -/
structure LaidOut (d : Decimal) (whole fraction : List Char) : Prop where
  mantissa : MantissaText d.plain whole fraction
  value : (Nat.ofDigitChars 10 (whole ++ fraction) 0 * 10 ^ (-(fraction.length : ℤ)) : ℚ)
    = d.coefficient * 10 ^ d.exponent

section Layouts

variable (n : ℕ)

theorem laidOut_zeros_behind (zeros : ℕ) :
    LaidOut ⟨n, .ofNat zeros⟩ (Nat.toDigits 10 n ++ List.replicate zeros '0') [] := by
  constructor
  · exact .whole (List.append_ne_nil_of_left_ne_nil Nat.toDigits_ne_nil _)
      ((Numeral.digits_toDigits n).append (Numeral.digits_replicate_zero zeros))
  · rw [List.append_nil, ofDigitChars_append_zeros, Nat.cast_mul, Nat.cast_pow, Nat.cast_ofNat,
      List.length_nil, Int.ofNat_eq_natCast, zpow_natCast]
    simp

variable {n} {below : ℕ}

theorem laidOut_zeros_before (h : (Nat.toDigits 10 n).length ≤ below + 1) :
    LaidOut ⟨n, .negSucc below⟩ ['0']
      (List.replicate (below + 1 - (Nat.toDigits 10 n).length) '0' ++ Nat.toDigits 10 n) := by
  constructor
  · simp only [plain]
    rw [if_pos h]
    exact .pointed (List.cons_ne_nil _ _) (Numeral.digits_replicate_zero 1)
      ((Numeral.digits_replicate_zero _).append (Numeral.digits_toDigits n))
  · have hzeros := ofDigitChars_zeros_append (below + 1 - (Nat.toDigits 10 n).length + 1) n
    rw [List.replicate_succ, List.cons_append] at hzeros
    rw [List.singleton_append, hzeros, List.length_append, List.length_replicate,
      Nat.sub_add_cancel h]
    rfl

theorem laidOut_point_inside (h : ¬ (Nat.toDigits 10 n).length ≤ below + 1) :
    LaidOut ⟨n, .negSucc below⟩
      ((Nat.toDigits 10 n).take ((Nat.toDigits 10 n).length - (below + 1)))
      ((Nat.toDigits 10 n).drop ((Nat.toDigits 10 n).length - (below + 1))) := by
  have hdigits := Numeral.digits_toDigits n
  constructor
  · simp only [plain]
    rw [if_neg h]
    refine .pointed ?_ (fun c hc => hdigits c (List.mem_of_mem_take hc))
      (fun c hc => hdigits c (List.mem_of_mem_drop hc))
    rw [← List.length_pos_iff_ne_nil, List.length_take]
    omega
  · have hlength : (Nat.toDigits 10 n).length - ((Nat.toDigits 10 n).length - (below + 1))
        = below + 1 := by omega
    rw [List.take_append_drop, Nat.ofDigitChars_ten_toDigits, List.length_drop, hlength]
    rfl

end Layouts

/-- **The point falls into place.** -/
theorem exists_laidOut (d : Decimal) : ∃ whole fraction, LaidOut d whole fraction := by
  obtain ⟨n, zeros | below⟩ := d
  · exact ⟨_, _, laidOut_zeros_behind n zeros⟩
  · by_cases h : (Nat.toDigits 10 n).length ≤ below + 1
    · exact ⟨_, _, laidOut_zeros_before h⟩
    · exact ⟨_, _, laidOut_point_inside h⟩

end Decimal

/-! ## Reading what is written -/

/-- **A decimal reads back** as the double it rounds to, with the sign before it. -/
theorem read?_plain {d : Decimal} {i : ℕ} (negative : Bool)
    (hrounds : Grid.Rounds (d.coefficient * 10 ^ d.exponent * 2 ^ 1074) i)
    (hi : i < Grid.infinity) :
    read? ((if negative then "-" else "") ++ String.ofList d.plain)
      = some (ofMagnitude negative i) := by
  obtain ⟨whole, fraction, hmantissa, hvalue⟩ := d.exists_laidOut
  let n : Numeral := ⟨negative, whole, fraction, 0⟩
  have hsize : n.size = d.coefficient * 10 ^ d.exponent := by
    rw [Numeral.size_eq_mul, Numeral.coefficient, Numeral.scale, Int.zero_sub]
    exact hvalue
  have hbelow := (hrounds.lt_iff (by decide) (by decide)).mp hi
  rw [← hsize] at hrounds hbelow
  rw [read?_eq_some_iff]
  refine ⟨n, ?_, ?_, isNegative_ofMagnitude negative hi⟩
  · have hspells (sign : List Char) (hsign : Numeral.SignText sign negative) :
        Numeral.Spells (sign ++ (d.plain ++ [])) n := .intro hsign hmantissa .absent
    rw [String.toList_append, String.toList_ofList]
    cases negative with
    | false => simpa using hspells [] .absent
    | true => simpa using hspells ['-'] .minus
  · have hrounded := RoundsTo.of_rounds n.size_nonneg (isFinite_ofMagnitude negative hi)
      (lt_midpoint_infinity_iff.mp hbelow) (by rwa [magnitude_ofMagnitude negative hi])
    rwa [isNegative_ofMagnitude negative hi] at hrounded

namespace Spelling

theorem unsigned_eq (s : Spelling) {i : ℕ} (hzero : i ≠ 0) (hi : i < Grid.infinity) :
    s.unsigned i = String.ofList (shortest i).plain := by
  rw [unsigned, if_neg hzero, if_pos hi]

/-- What is written without its sign is a decimal that rounds to the magnitude. -/
theorem exists_decimal (s : Spelling) {i : ℕ} (hi : i < Grid.infinity) :
    ∃ d : Decimal, s.unsigned i = String.ofList d.plain ∧
      Grid.Rounds (d.coefficient * 10 ^ d.exponent * 2 ^ 1074) i := by
  by_cases hzero : i = 0
  · refine ⟨⟨0, 0⟩, ?_, ?_⟩
    · rw [unsigned, if_pos hzero]
      rfl
    · rw [hzero, Nat.cast_zero, zero_mul, zero_mul]
      exact rounds_zero (le_refl _) (by norm_num)
  · exact ⟨shortest i, s.unsigned_eq hzero hi, rounds_shortest i⟩

/-- **A finite number reads back** from what is written, with the sign that is
shown. -/
theorem read?_write (s : Spelling) {x : Float} (h : isFinite x = true) :
    read? (s.write x) = some (ofMagnitude (isNegative x && (s.signedZero || magnitude x != 0))
      (magnitude x)) := by
  have hi : magnitude x < Grid.infinity := of_decide_eq_true h
  obtain ⟨d, hunsigned, hrounds⟩ := s.exists_decimal hi
  have hread := read?_plain (isNegative x && (s.signedZero || magnitude x != 0)) hrounds hi
  rw [← hunsigned] at hread
  unfold write
  simp only
  rw [if_neg (Nat.lt_asymm hi)]
  split
  · next hminus => rwa [if_pos hminus] at hread
  · next hplus => rwa [if_neg hplus, String.empty_append] at hread

end Spelling

/-- **A finite token reads back** as the same double. -/
theorem read?_tokenText {x : Float} (h : isFinite x = true) : read? (tokenText x) = some x := by
  have hread := tokenSpelling.read?_write h
  have hsign : (isNegative x && (tokenSpelling.signedZero || magnitude x != 0)) = isNegative x := by
    rw [tokenSpelling, Bool.true_or, Bool.and_true]
  rwa [hsign, ofMagnitude_magnitude h] at hread

/-- The only double of magnitude zero besides zero is `-0.0`. -/
theorem eq_zero_of_magnitude {x : Float} (h : magnitude x = 0) :
    ofMagnitude false 0 = if x = -0.0 then 0.0 else x := by
  have hfinite : isFinite x = true := decide_eq_true (by rw [h]; decide)
  have hx := ofMagnitude_magnitude hfinite
  rw [h] at hx
  rw [← hx]
  cases isNegative x
  · exact (if_neg (by decide +kernel)).symm
  · exact (if_pos (by decide +kernel)).symm

/-- A result shows the sign of what is no zero. -/
theorem resultSpelling_sign {x : Float} (h : magnitude x ≠ 0) :
    (isNegative x && (resultSpelling.signedZero || magnitude x != 0)) = isNegative x := by
  rw [bne_iff_ne.mpr h, Bool.or_true, Bool.and_true]

/-- **A finite result reads back** as the same double, but for a zero's sign. -/
theorem read?_resultText {x : Float} (h : isFinite x = true) :
    read? (resultText x) = some (if x = -0.0 then 0.0 else x) := by
  have hread := resultSpelling.read?_write h
  by_cases hzero : magnitude x = 0
  · rw [resultSpelling, Bool.false_or, hzero, bne_self_eq_false, Bool.and_false,
      eq_zero_of_magnitude hzero] at hread
    exact hread
  · have hne : x ≠ -0.0 := by
      rintro rfl
      exact hzero (by decide +kernel)
    rw [resultSpelling_sign hzero, ofMagnitude_magnitude h] at hread
    rw [if_neg hne]
    exact hread

end StackCalculator.Number
