/-
What the text of a result tells of it.

A result is a numeral or one of three words. A numeral reads back as the number
it was written for, so two results that are written alike are one number, and
the words tell what is not finite apart. The one thing not shown is the sign of
a zero: `0.0` and `-0.0` are both written `0`. No other two doubles are written
alike (`resultText_eq_iff`).
-/
import StackCalculator.Proofs.Number.Printing

set_option autoImplicit false

namespace StackCalculator.Number

/-! ## Words -/

/-- **What is not finite** is written as a word. -/
theorem resultText_of_not_isFinite {x : Float} (h : isFinite x = false) :
    resultText x = if Grid.infinity < magnitude x then "NaN"
      else if isNegative x then "-Infinity" else "Infinity" := by
  have hlarge : ¬ magnitude x < Grid.infinity := of_decide_eq_false h
  have hzero : magnitude x ≠ 0 := by
    intro hzero
    exact hlarge (hzero ▸ by decide)
  have hunsigned : resultSpelling.unsigned (magnitude x) = "Infinity" := by
    rw [Spelling.unsigned, if_neg hzero, if_neg hlarge]
    rfl
  rw [resultText, Spelling.write]
  simp only [hunsigned, resultSpelling_sign hzero]
  rfl

/-- No word is a numeral. -/
theorem read?_resultText_of_not_isFinite {x : Float} (h : isFinite x = false) :
    read? (resultText x) = none := by
  rw [resultText_of_not_isFinite h]
  split
  · rfl
  · split
    · rfl
    · rfl

/-- The words are different words. -/
theorem eq_of_resultText_of_not_isFinite {x y : Float} (hx : isFinite x = false)
    (hy : isFinite y = false) (h : resultText x = resultText y) : x = y := by
  have hxlarge : Grid.infinity ≤ magnitude x := Nat.not_lt.mp (of_decide_eq_false hx)
  have hylarge : Grid.infinity ≤ magnitude y := Nat.not_lt.mp (of_decide_eq_false hy)
  have hword (negative : Bool) : (if negative then "-Infinity" else "Infinity") ≠ "NaN" := by
    cases negative <;> decide
  have hsigns (negative other : Bool) (hwords : (if negative then "-Infinity" else "Infinity")
      = if other then "-Infinity" else "Infinity") : negative = other := by
    revert negative other
    decide
  rw [resultText_of_not_isFinite hx, resultText_of_not_isFinite hy] at h
  by_cases hxnan : Grid.infinity < magnitude x
  · by_cases hynan : Grid.infinity < magnitude y
    · rw [eq_notANumber hxnan, eq_notANumber hynan]
    · rw [if_pos hxnan, if_neg hynan] at h
      exact absurd h.symm (hword _)
  · by_cases hynan : Grid.infinity < magnitude y
    · rw [if_neg hxnan, if_pos hynan] at h
      exact absurd h (hword _)
    · -- both are infinite, and the words show their signs
      rw [if_neg hxnan, if_neg hynan] at h
      exact eq_of_magnitude (hsigns _ _ h) (by omega)

/-! ## Results written alike -/

/-- **The same number**: the same double, or a zero of the other sign. -/
def Same (x y : Float) : Prop := x = y ∨ ((x == 0.0) = true ∧ (y == 0.0) = true)

/-- A result reads as its number without the sign of a zero, so what reads the
same is the same. -/
theorem same_of_unsigned {x y : Float}
    (h : (if x = -0.0 then 0.0 else x) = if y = -0.0 then 0.0 else y) : Same x y := by
  by_cases hx : x = -0.0
  · by_cases hy : y = -0.0
    · exact .inl (hx.trans hy.symm)
    · rw [if_pos hx, if_neg hy] at h
      exact .inr ⟨(beq_zero_iff x).mpr (.inr hx), (beq_zero_iff y).mpr (.inl h.symm)⟩
  · by_cases hy : y = -0.0
    · rw [if_neg hx, if_pos hy] at h
      exact .inr ⟨(beq_zero_iff x).mpr (.inl h), (beq_zero_iff y).mpr (.inr hy)⟩
    · rw [if_neg hx, if_neg hy] at h
      exact .inl h

theorem resultText_of_beq_zero {x : Float} (h : (x == 0.0) = true) : resultText x = "0" := by
  rcases (beq_zero_iff x).mp h with rfl | rfl
  · decide +kernel
  · decide +kernel

/-- **Results are written alike** when they are the same number. -/
theorem resultText_eq_iff {x y : Float} : resultText x = resultText y ↔ Same x y := by
  constructor
  · intro h
    have hread : read? (resultText x) = read? (resultText y) := congrArg read? h
    by_cases hx : isFinite x = true
    · by_cases hy : isFinite y = true
      · rw [read?_resultText hx, read?_resultText hy, Option.some_inj] at hread
        exact same_of_unsigned hread
      · have hy := Bool.eq_false_iff.mpr hy
        rw [read?_resultText hx, read?_resultText_of_not_isFinite hy] at hread
        exact absurd hread nofun
    · have hx := Bool.eq_false_iff.mpr hx
      by_cases hy : isFinite y = true
      · rw [read?_resultText hy, read?_resultText_of_not_isFinite hx] at hread
        exact absurd hread nofun
      · exact .inl (eq_of_resultText_of_not_isFinite hx (Bool.eq_false_iff.mpr hy) h)
  · rintro (rfl | ⟨hx, hy⟩)
    · rfl
    · rw [resultText_of_beq_zero hx, resultText_of_beq_zero hy]

end StackCalculator.Number
