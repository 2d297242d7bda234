/-
The four operators and what they compute.

Arithmetic is that of binary64 doubles and never fails, with one exception: a
division by a zero of either sign is an error and not an infinity.
-/
import StackCalculator.Error

set_option autoImplicit false

namespace StackCalculator

/-- An operation on two numbers. -/
inductive Operator where
  | plus
  | minus
  | times
  | divide
deriving DecidableEq, Repr

namespace Operator

/-- The character an operator is written with. -/
def symbol : Operator → String
  | plus => "+"
  | minus => "-"
  | times => "*"
  | divide => "/"

/-- The operator that a piece is, if it is exactly a symbol. -/
def ofSymbol? (piece : String) : Option Operator :=
  if piece = "+" then some plus
  else if piece = "-" then some minus
  else if piece = "*" then some times
  else if piece = "/" then some divide
  else none

/-- **Applies an operator** to a left and a right operand. -/
def apply (op : Operator) (left right : Float) : Except EvalError Float :=
  match op with
  | plus => .ok (left + right)
  | minus => .ok (left - right)
  | times => .ok (left * right)
  | divide => if right == 0.0 then .error .divisionByZero else .ok (left / right)

end Operator
end StackCalculator
