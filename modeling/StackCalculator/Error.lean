/-
Why an evaluation fails.

The causes form a closed set. Each carries what it accuses, the piece, the whole
entry, the mode asked for or the sizes of the stacks; a division by zero accuses
nothing and carries nothing. `EvalError.message` holds the wording, once for
every way of showing an error.
-/
set_option autoImplicit false

namespace StackCalculator

/-- **The causes of failure.** -/
inductive EvalError where
  /-- The stored mode names no known way of writing. -/
  | unsupportedMode (requested : String)
  /-- A piece is neither an operator nor a number, nor a parenthesis where those count. -/
  | malformedToken (piece : String)
  /-- A Polish entry of two pieces, or of three that are not operator, number, number. -/
  | malformedInput (entry : String)
  /-- A reduction without two operands and an operator; the sizes are those before it. -/
  | stackUnderflow (operands operators : Nat)
  /-- A division whose divisor is a zero. -/
  | divisionByZero
  /-- A parenthesis closed that was not open, or left open at the end. -/
  | unbalancedParentheses (entry : String)
deriving DecidableEq, Repr

namespace EvalError

/-- The wording of an error. -/
def message : EvalError → String
  | unsupportedMode requested =>
    "mode inattendu '" ++ requested ++ "' : choisir prefix ou infix avant d’évaluer"
  | malformedToken piece => "jeton invalide (ni nombre, ni opérateur) : '" ++ piece ++ "'"
  | malformedInput entry => "entrée mal formée : '" ++ entry ++ "'"
  | stackUnderflow operands operators =>
    "opération impossible : il faut deux opérandes et un opérateur (restants : "
      ++ operands.repr ++ " opérande(s), " ++ operators.repr ++ " opérateur(s))"
  | divisionByZero => "division par zéro"
  | unbalancedParentheses entry => "parenthèses non équilibrées : '" ++ entry ++ "'"

end EvalError
end StackCalculator
