/-
One operation, in either notation.

The two evaluations go about a single operation in opposite ways. The Polish
one finds an operator and two numbers side by side and applies the one to the
others. The parenthesised one pushes all three and reduces, and a reduction
takes the later operand first. The result is the same, and it is that of the
operator: what decides it is the two numbers, and not how they are spelled. A
minus that belongs to a number is no operator, whatever follows it.

Applying an operator fails for one reason. The divisor is compared with zero,
and two doubles compare equal to it, one of either sign.
-/
import StackCalculator.Proofs.Grouping
import StackCalculator.Proofs.Number.Printing

set_option autoImplicit false

namespace StackCalculator

/-! ## The one failure -/

namespace Operator

/-- **An operator fails** when it divides by a zero of either sign. -/
theorem apply_eq_divisionByZero_iff (op : Operator) (left right : Float) :
    op.apply left right = .error .divisionByZero ↔
      op = .divide ∧ (right = 0.0 ∨ right = -0.0) := by
  cases op with
  | divide =>
    rw [← Number.beq_zero_iff]
    unfold apply
    by_cases hzero : (right == 0.0) = true
    · simp [hzero]
    · simp [hzero]
  | _ => simp [apply]

theorem apply_eq_ok_iff (op : Operator) (left right : Float) :
    (∃ x, op.apply left right = .ok x) ↔ ¬ (op = .divide ∧ (right = 0.0 ∨ right = -0.0)) := by
  rw [← op.apply_eq_divisionByZero_iff left right]
  rcases op.apply_cases left right with ⟨x, hx⟩ | hx
  · simp [hx]
  · simp [hx]

end Operator

/-! ## The two notations -/

/-- **A spelling of a number**: the text of its token, or any numeral that is
read as it. -/
def IsSpelling (piece : String) (x : Float) : Prop :=
  piece = (Token.number x).text ∨ Number.read? piece = some x

theorem IsSpelling.read?_eq {piece : String} {x : Float} (hx : Number.isFinite x = true)
    (h : IsSpelling piece x) : Number.read? piece = some x := by
  rcases h with rfl | h
  · exact Number.read?_tokenText hx
  · exact h

/-- The Polish text of an operation on two numbers has three pieces. -/
theorem evaluate_polish_operation (op : Operator) (left right : Numeric) :
    evaluate .polish (op.symbol ++ " " ++ left.piece ++ " " ++ right.piece)
      = op.apply left.value right.value := by
  have hsplit : Pieces.split (op.symbol ++ " " ++ left.piece ++ " " ++ right.piece)
      = [op.symbol, left.piece, right.piece] := by
    rw [Pieces.split_append, Pieces.split_append, op.split_symbol, left.split_piece,
      right.split_piece]
    rfl
  rw [evaluate, hsplit, evaluatePieces, Polish.evaluate, Polish.evaluateWith,
    Operator.ofSymbol?_symbol, left.reads, right.reads]

/-- The parenthesised text of an operation on two numbers is that of a tree. -/
theorem evaluate_parenthesised_operation (op : Operator) (left right : Numeric) :
    evaluate .parenthesised ("( " ++ left.piece ++ " " ++ op.symbol ++ " " ++ right.piece ++ " )")
      = op.apply left.value right.value := by
  let tree := Expression.node op (.leaf left) (.leaf right)
  have hvalue : evaluate .parenthesised tree.text = tree.value := by
    rw [evaluate, tree.split_text]
    exact Parenthesised.evaluate_parenthesised tree
  exact hvalue

/-- **The notations agree on a single operation.** However two finite numbers
are spelled, both texts of an operation on them have the outcome of the operator
on the numbers, to the bit. It is a division by zero when the operator divides
and the right number is a zero of either sign, and a number otherwise. -/
theorem evaluate_operation (op : Operator) {x y : Float} {left right : String}
    (hx : Number.isFinite x = true) (hy : Number.isFinite y = true) (hleft : IsSpelling left x)
    (hright : IsSpelling right y) :
    evaluate .polish (op.symbol ++ " " ++ left ++ " " ++ right) = op.apply x y ∧
      evaluate .parenthesised ("( " ++ left ++ " " ++ op.symbol ++ " " ++ right ++ " )")
        = op.apply x y ∧
      (op.apply x y = .error .divisionByZero ↔ op = .divide ∧ (y = 0.0 ∨ y = -0.0)) ∧
      ((∃ z, op.apply x y = .ok z) ↔ ¬ (op = .divide ∧ (y = 0.0 ∨ y = -0.0))) := by
  let l : Numeric := ⟨left, x, hleft.read?_eq hx⟩
  let r : Numeric := ⟨right, y, hright.read?_eq hy⟩
  exact ⟨evaluate_polish_operation op l r, evaluate_parenthesised_operation op l r,
    op.apply_eq_divisionByZero_iff x y, op.apply_eq_ok_iff x y⟩

/-- A numeral with an exponent, and a negative zero written as its token. -/
theorem evaluate_operation_negative_zero :
    IsSpelling "-15e-1" (-1.5) ∧ IsSpelling "-0" (-0.0) ∧
      evaluate .polish "/ -15e-1 -0" = .error .divisionByZero ∧
      evaluate .parenthesised "( -15e-1 / -0 )" = .error .divisionByZero := by
  have hleft : IsSpelling "-15e-1" (-1.5) := .inr (by decide +kernel)
  have hright : IsSpelling "-0" (-0.0) := .inl (by decide +kernel)
  obtain ⟨hpolish, hparenthesised, hdivision, -⟩ :=
    evaluate_operation .divide (by decide +kernel) (by decide +kernel) hleft hright
  have hvalue := hdivision.mpr ⟨rfl, .inr rfl⟩
  exact ⟨hleft, hright, hpolish.trans hvalue, hparenthesised.trans hvalue⟩

end StackCalculator
