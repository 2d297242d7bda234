/-
What a piece is recognised as.

A piece is a number exactly when it spells a numeral whose value rounds to a
finite double, and then it is that double, with the sign that is written: a
minus stays on a zero, and on what is too small for any other double. Whatever
spells no numeral is no number, and neither is a numeral at or above the
overflow threshold. No operator spells a numeral, so the order in which the two
are tried decides nothing.
-/
import StackCalculator.Proofs.Classes
import StackCalculator.Proofs.Number.Spelling

set_option autoImplicit false

namespace StackCalculator

namespace Number

/-! ## Rounding a numeral -/

namespace Numeral

theorem nearestDecimal_lt_iff_size (n : Numeral) :
    nearestDecimal n.coefficient n.scale < Grid.infinity ↔ n.size < 2 ^ 1024 - 2 ^ 970 := by
  rw [nearestDecimal_lt_iff, size_eq_mul]

theorem toFloat?_eq_none_iff (n : Numeral) :
    n.toFloat? = none ↔ 2 ^ 1024 - 2 ^ 970 ≤ |n.value| := by
  rw [value, abs_signed, abs_of_nonneg n.size_nonneg, ← not_lt, ← nearestDecimal_lt_iff_size]
  simp [toFloat?]

/-- **A numeral is the double it rounds to**, with its own sign. -/
theorem toFloat?_eq_some_iff (n : Numeral) (x : Float) :
    n.toFloat? = some x ↔ RoundsTo n.value x ∧ isNegative x = n.negative := by
  constructor
  · intro h
    simp only [toFloat?] at h
    split at h
    · next hlt =>
      have hx := Option.some.inj h
      have hnegative : isNegative x = n.negative := by rw [← hx, isNegative_ofMagnitude _ hlt]
      have hrounds := rounds_nearestDecimal _ _ hlt
      have hbelow := (nearestDecimal_lt_iff_size n).mp hlt
      rw [← size_eq_mul] at hrounds
      refine ⟨?_, hnegative⟩
      rw [value, ← hnegative]
      apply RoundsTo.of_rounds n.size_nonneg ?_ hbelow ?_
      · rw [← hx]
        exact isFinite_ofMagnitude _ hlt
      · rwa [← hx, magnitude_ofMagnitude _ hlt]
    · exact absurd h (by simp)
  · rintro ⟨hrounds, hnegative⟩
    rw [value, ← hnegative] at hrounds
    obtain ⟨hfinite, hbelow, hrounds⟩ := (roundsTo_signed_iff n.size_nonneg x).mp hrounds
    have hlt := (nearestDecimal_lt_iff_size n).mpr hbelow
    have hnearest := rounds_nearestDecimal _ _ hlt
    rw [← size_eq_mul] at hnearest
    have hmagnitude := hrounds.unique hnearest
    simp only [toFloat?]
    rw [if_pos hlt, ← hmagnitude, ← hnegative, ofMagnitude_magnitude hfinite]

end Numeral

/-! ## Reading a number -/

theorem read?_eq_some_iff (piece : String) (x : Float) :
    read? piece = some x ↔
      ∃ n, Numeral.Spells piece.toList n ∧ RoundsTo n.value x ∧ isNegative x = n.negative := by
  rw [read?, Option.bind_eq_some_iff]
  simp only [Numeral.read?_eq_some_iff, Numeral.toFloat?_eq_some_iff]

-- halfway between two doubles, and under half the smallest
example : read? "9007199254740993" = read? "9007199254740992" := by decide +kernel
example : read? "-1e-400" = some (-0.0) := by decide +kernel

theorem read?_eq_none_iff (piece : String) :
    read? piece = none ↔
      ∀ n, Numeral.Spells piece.toList n → 2 ^ 1024 - 2 ^ 970 ≤ |n.value| := by
  rw [read?, Option.bind_eq_none_iff]
  simp only [Numeral.read?_eq_some_iff, Numeral.toFloat?_eq_none_iff]

end Number

/-! ## Recognising a piece -/

namespace Token

theorem classify_eq_operator_iff (piece : String) (op : Operator) :
    classify piece = .ok (operator op) ↔ Operator.ofSymbol? piece = some op := by
  unfold classify
  rcases Operator.ofSymbol? piece with _ | other
  · rcases Number.read? piece with _ | x
    · simp
    · simp
  · simp

theorem classify_eq_number_iff (piece : String) (x : Float) :
    classify piece = .ok (number x) ↔ Number.read? piece = some x := by
  constructor
  · intro h
    unfold classify at h
    split at h
    · exact absurd h (by simp)
    · split at h
      · next hread =>
        rw [hread]
        exact congrArg some (Token.number.inj (Except.ok.inj h))
      · exact absurd h (by simp)
  · exact fun h => classify_piece ⟨piece, x, h⟩

theorem classify_eq_error_iff (piece : String) (e : EvalError) :
    classify piece = .error e ↔
      Operator.ofSymbol? piece = none ∧ Number.read? piece = none ∧
        e = .malformedToken piece := by
  unfold classify
  rcases Operator.ofSymbol? piece with _ | op
  · rcases Number.read? piece with _ | x
    · simp [eq_comm]
    · simp
  · simp

end Token

/-- **Numbers are recognised correctly.** A piece is a number exactly when it
spells a numeral that rounds to a finite double: that double, with the sign
that is written. It is no number exactly when it spells none below the overflow
threshold. No piece is both an operator and a number, so classifying it finds
the one that it is, and fails on what is neither. -/
theorem number_recognised_iff (piece : String) :
    (∀ x, Number.read? piece = some x ↔ ∃ n, Number.Numeral.Spells piece.toList n ∧
        Number.RoundsTo n.value x ∧ Number.isNegative x = n.negative) ∧
      (Number.read? piece = none ↔
        ∀ n, Number.Numeral.Spells piece.toList n → 2 ^ 1024 - 2 ^ 970 ≤ |n.value|) ∧
      (Operator.ofSymbol? piece = none ∨ Number.read? piece = none) ∧
      (∀ op, Token.classify piece = .ok (.operator op) ↔ Operator.ofSymbol? piece = some op) ∧
      (∀ x, Token.classify piece = .ok (.number x) ↔ Number.read? piece = some x) ∧
      (∀ e, Token.classify piece = .error e ↔
        Operator.ofSymbol? piece = none ∧ Number.read? piece = none ∧
          e = .malformedToken piece) := by
  refine ⟨Number.read?_eq_some_iff piece, Number.read?_eq_none_iff piece, ?_,
    Token.classify_eq_operator_iff piece, Token.classify_eq_number_iff piece,
    Token.classify_eq_error_iff piece⟩
  rcases hread : Number.read? piece with _ | x
  · exact .inr rfl
  · exact .inl (Operator.ofSymbol?_eq_none_of_read? hread)

end StackCalculator
