/-
Tokens: what a piece of an entry stands for.

A piece is tried as an operator before it is tried as a number, so a lone sign
is an operator; no piece is both. Parentheses count in the parenthesised mode
only.
-/
import StackCalculator.Operator
import StackCalculator.Number.Numeral
import StackCalculator.Number.Written

set_option autoImplicit false

namespace StackCalculator

/-- A classified piece. -/
inductive Token where
  | number (x : Float)
  | operator (op : Operator)
  | opening
  | closing
deriving DecidableEq, Repr

namespace Token

/-- How a token is written. -/
def text : Token → String
  | number x => Number.tokenText x
  | operator op => op.symbol
  | opening => "("
  | closing => ")"

/-- **Classifies a piece** as an operator or a number. -/
def classify (piece : String) : Except EvalError Token :=
  match Operator.ofSymbol? piece with
  | some op => .ok (operator op)
  | none =>
    match Number.read? piece with
    | some x => .ok (number x)
    | none => .error (.malformedToken piece)

/-- **Classifies a piece** where parentheses are tokens too. -/
def classifyParenthesised (piece : String) : Except EvalError Token :=
  if piece = "(" then .ok opening
  else if piece = ")" then .ok closing
  else classify piece

end Token
end StackCalculator
