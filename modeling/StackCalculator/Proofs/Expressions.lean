/-
Expressions as trees.

A tree is what the two notations write: numbers at its leaves, operators at its
nodes. Its value is the usual one, the left operand before the right, with no
stack in sight, so it is what the evaluations of the two notations are measured
by. A leaf holds the piece it is written as, since one number has many numerals.
-/
import StackCalculator.Proofs.Classes
import StackCalculator.Proofs.Outcomes

set_option autoImplicit false

namespace StackCalculator

/-- **An expression.** -/
inductive Expression where
  | leaf (n : Numeric)
  | node (op : Operator) (left right : Expression)

namespace Expression

/-! ## Writing -/

/-- The text of an expression with every operation in its own parentheses and
single spaces around every token. -/
def text : Expression → String
  | leaf n => n.piece
  | node op left right => "( " ++ left.text ++ " " ++ op.symbol ++ " " ++ right.text ++ " )"

/-- The pieces of the parenthesised notation. -/
def parenthesised : Expression → List String
  | leaf n => [n.piece]
  | node op left right => "(" :: left.parenthesised ++ op.symbol :: right.parenthesised ++ [")"]

/-- The pieces of the Polish notation. -/
def polish : Expression → List String
  | leaf n => [n.piece]
  | node op left right => op.symbol :: left.polish ++ right.polish

theorem split_text (e : Expression) : Pieces.split e.text = e.parenthesised := by
  induction e with
  | leaf n => exact n.split_piece
  | node op left right ihl ihr =>
    have htext : (node op left right).text
        = "(" ++ " " ++ left.text ++ " " ++ op.symbol ++ " " ++ right.text ++ " " ++ ")" := by
      simp only [text, String.append_assoc]
      rfl
    have hopening : Pieces.split "(" = ["("] := Pieces.split_eq_singleton (by decide)
    have hclosing : Pieces.split ")" = [")"] := Pieces.split_eq_singleton (by decide)
    rw [htext, Pieces.split_append, Pieces.split_append, Pieces.split_append,
      Pieces.split_append, hopening, hclosing, op.split_symbol, ihl, ihr]
    simp only [parenthesised, List.append_assoc, List.cons_append, List.nil_append]

/-! ## Value -/

/-- **The value of an expression.** -/
def value : Expression → Except EvalError Float
  | leaf n => .ok n.value
  | node op left right => do
    let x ← left.value
    let y ← right.value
    op.apply x y

/-- Some operation of the expression is applied and divides by a zero. -/
inductive DividesByZero : Expression → Prop where
  | here {op : Operator} {left right : Expression} {x y : Float} :
      left.value = .ok x → right.value = .ok y → op.apply x y = .error .divisionByZero →
      DividesByZero (node op left right)
  | left {op : Operator} {left right : Expression} :
      DividesByZero left → DividesByZero (node op left right)
  | right {op : Operator} {left right : Expression} :
      DividesByZero right → DividesByZero (node op left right)

/-- An expression has a number for its value unless it divides by a zero. -/
theorem value_cases (e : Expression) :
    (∃ x, e.value = .ok x ∧ ¬ e.DividesByZero) ∨
      (e.value = .error .divisionByZero ∧ e.DividesByZero) := by
  induction e with
  | leaf n => exact .inl ⟨n.value, rfl, fun h => nomatch h⟩
  | node op left right ihl ihr =>
    rcases ihl with ⟨x, hx, hleft⟩ | ⟨hx, hleft⟩
    · rcases ihr with ⟨y, hy, hright⟩ | ⟨hy, hright⟩
      · rcases op.apply_cases x y with ⟨z, hz⟩ | hz
        · refine .inl ⟨z, by simp [value, hx, hy, hz], ?_⟩
          intro h
          cases h with
          | here hx' hy' hz' =>
            rw [Except.ok.inj (hx.symm.trans hx'), Except.ok.inj (hy.symm.trans hy'), hz'] at hz
            exact absurd hz (by simp)
          | left h => exact hleft h
          | right h => exact hright h
        · exact .inr ⟨by simp [value, hx, hy, hz], .here hx hy hz⟩
      · exact .inr ⟨by simp [value, hx, hy], .right hright⟩
    · exact .inr ⟨by simp [value, hx], .left hleft⟩

theorem value_eq_divisionByZero_iff (e : Expression) :
    e.value = .error .divisionByZero ↔ e.DividesByZero := by
  rcases e.value_cases with ⟨x, hx, h⟩ | ⟨hx, h⟩
  · simp [hx, h]
  · simp [hx, h]

theorem value_eq_ok_iff (e : Expression) : (∃ x, e.value = .ok x) ↔ ¬ e.DividesByZero := by
  rcases e.value_cases with ⟨x, hx, h⟩ | ⟨hx, h⟩
  · simp [hx, h]
  · simp [hx, h]

end Expression
end StackCalculator
