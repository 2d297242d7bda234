/-
Parenthesised entries: the operator between its operands.

The tokens are read from first to last. A number or an operator goes on its
stack; an opening parenthesis only counts one level deeper; a closing one comes
back a level and reduces, the later operand on the right, and the value takes
the place of its operands on top. The answer is the bottom operand at the end.
Nothing ranks one operator above another: the parentheses alone decide.

The levels must come out even: never below zero, and zero at the end. An entry
of parentheses alone is judged before it is read, since its first closing one
could only reduce empty stacks.

How a token is pushed is a parameter of the reading, so that it can be said what
an evaluation pushes. Evaluations push with `Stacks.push`.
-/
import StackCalculator.Stacks
import StackCalculator.Pieces

set_option autoImplicit false

namespace StackCalculator.Parenthesised

/-! ## Balance -/

/-- How many parentheses are open after a piece, if none closes too many. -/
def level (depth : Nat) (piece : String) : Option Nat :=
  if piece = "(" then some (depth + 1)
  else if piece = ")" then
    match depth with
    | 0 => none
    | outer + 1 => some outer
  else some depth

/-- Whether every parenthesis among the pieces is closed in its turn. -/
def balanced (pieces : List String) : Bool := pieces.foldlM level 0 == some 0

/-- Whether a piece is a parenthesis. -/
def isParenthesis (piece : String) : Bool := piece == "(" || piece == ")"

/-! ## Reading -/

/-- The state of the reading: the stacks and how many parentheses are open. -/
structure Scan where
  held : Stacks := {}
  depth : Nat := 0
deriving DecidableEq, Repr

/-- **Reads one piece.** The entry is there to be named by an error. -/
def stepWith (push : Stacks.Pushing) (entry : String) (s : Scan) (piece : String) :
    Except EvalError Scan := do
  match ← Token.classifyParenthesised piece with
  | .opening => return { s with depth := s.depth + 1 }
  | .closing =>
    match s.depth with
    | 0 => throw (.unbalancedParentheses entry)
    | outer + 1 =>
      let value ← s.held.reduced .topRight
      return { held := s.held.remaining.pushTop value, depth := outer }
  | token =>
    let held ← push token s.held
    return { s with held }

/-- Reads pieces in order. -/
def scanWith (push : Stacks.Pushing) (entry : String) (s : Scan) (pieces : List String) :
    Except EvalError Scan :=
  pieces.foldlM (stepWith push entry) s

/-- `stepWith`, pushing in the usual way. -/
def step : String → Scan → String → Except EvalError Scan := stepWith Stacks.push

/-- `scanWith`, pushing in the usual way. -/
def scan : String → Scan → List String → Except EvalError Scan := scanWith Stacks.push

/-- The answer at the end of the reading. -/
def answer (entry : String) (s : Scan) : Except EvalError Float :=
  if s.depth ≠ 0 then .error (.unbalancedParentheses entry)
  else match s.held.operands.getLast? with
    | some bottom => .ok bottom
    | none => .error (.stackUnderflow 0 s.held.operators.length)

/-! ## Evaluating -/

/-- The value of a parenthesised entry. -/
def evaluateWith (push : Stacks.Pushing) (pieces : List String) : Except EvalError Float :=
  let entry := Pieces.join pieces
  let tokens := pieces.flatMap Pieces.burst
  if tokens.all isParenthesis && !balanced tokens then .error (.unbalancedParentheses entry)
  else scanWith push entry {} tokens >>= answer entry

/-- **The value of a parenthesised entry**, given by its pieces. -/
def evaluate : List String → Except EvalError Float := evaluateWith Stacks.push

/-! ## Small facts -/

theorem scan_eq (entry : String) (s : Scan) (pieces : List String) :
    scan entry s pieces = pieces.foldlM (step entry) s := rfl

theorem evaluate_eq (pieces : List String) :
    evaluate pieces =
      let entry := Pieces.join pieces
      let tokens := pieces.flatMap Pieces.burst
      if tokens.all isParenthesis && !balanced tokens then .error (.unbalancedParentheses entry)
      else scan entry {} tokens >>= answer entry := rfl

end StackCalculator.Parenthesised
