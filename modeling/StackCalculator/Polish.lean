/-
Polish entries: the operator before its operands.

Short entries are direct. One piece is its own value, or not-a-number if it is
no number; two pieces are malformed; three are an operator and its operands.

Every other entry is reduced with the stacks, in two phases. *Reading* goes
through the pieces from the last to the first. Before it takes a piece it
reduces while the stacks are ready, and puts each value under the operands; a
reduction that becomes possible with the very last piece read is left alone.
*Draining* then turns the operands upside down once, and reduces while the
stacks are ready; the answer is the sum of these values, which is zero where
nothing is left to reduce.

Neither phase is the usual evaluation of Polish notation: values go to the far
end of the operands, and the sum would add results that no operator joins.

How a piece is pushed is a parameter of the reading, so that it can be said
what an evaluation pushes. Evaluations push with `Stacks.push`.
-/
import StackCalculator.Stacks
import StackCalculator.Pieces

set_option autoImplicit false

namespace StackCalculator.Polish

/-! ## Reading -/

/-- The state of the reading phase: the stacks, and the values of the
reductions made so far, the latest first. -/
structure Reading where
  held : Stacks := {}
  results : List Float := []
deriving DecidableEq, Repr

/-- Reduces while the stacks are ready, each value going under the operands. -/
def settle (r : Reading) : Except EvalError Reading :=
  if _ : r.held.ready then do
    let value ← r.held.reduced .topLeft
    settle {
      held := r.held.remaining.pushBottom value
      results := value :: r.results }
  else .ok r
termination_by r.held.operators.length
decreasing_by exact Stacks.length_operators_remaining _ ‹_›

/-- Settles the stacks, then pushes the token that the piece is. -/
def readPieceWith (push : Stacks.Pushing) (piece : String) (r : Reading) :
    Except EvalError Reading := do
  let settled ← settle r
  let token ← Token.classify piece
  let held ← push token settled.held
  return { settled with held }

/-- Reads the pieces from the last to the first. -/
def readWith (push : Stacks.Pushing) (pieces : List String) : Except EvalError Reading :=
  pieces.foldrM (readPieceWith push) {}

/-- `readPieceWith`, pushing in the usual way. -/
def readPiece : String → Reading → Except EvalError Reading := readPieceWith Stacks.push

/-- **Reads** the pieces from the last to the first, pushing in the usual way. -/
def read : List String → Except EvalError Reading := readWith Stacks.push

/-! ## Draining -/

/-- **Drains**: the values of the reductions made while the stacks are ready,
in the order they are made. -/
def drain (s : Stacks) : Except EvalError (List Float) :=
  if _ : s.ready then do
    let value ← s.reduced .topLeft
    let rest ← drain s.remaining
    return value :: rest
  else .ok []
termination_by s.operators.length
decreasing_by exact Stacks.length_operators_remaining _ ‹_›

/-! ## Evaluating -/

/-- The value of an entry by reading and draining. -/
def reduceAllWith (push : Stacks.Pushing) (pieces : List String) : Except EvalError Float := do
  let reading ← readWith push pieces
  let results ← drain reading.held.turned
  return results.foldl (· + ·) 0.0

/-- The value of a Polish entry. Short entries push nothing. -/
def evaluateWith (push : Stacks.Pushing) (pieces : List String) : Except EvalError Float :=
  match pieces with
  | [piece] => .ok ((Number.read? piece).getD Number.notANumber)
  | [_, _] => .error (.malformedInput (Pieces.join pieces))
  | [first, second, third] =>
    match Operator.ofSymbol? first, Number.read? second, Number.read? third with
    | some op, some left, some right => op.apply left right
    | _, _, _ => .error (.malformedInput (Pieces.join pieces))
  | _ => reduceAllWith push pieces

/-- `reduceAllWith`, pushing in the usual way. -/
def reduceAll : List String → Except EvalError Float := reduceAllWith Stacks.push

/-- **The value of a Polish entry**, given by its pieces. -/
def evaluate : List String → Except EvalError Float := evaluateWith Stacks.push

/-! ## Small facts -/

theorem read_eq (pieces : List String) : read pieces = pieces.foldrM readPiece {} := rfl

theorem reduceAll_eq (pieces : List String) :
    reduceAll pieces = (do
      let reading ← read pieces
      let results ← drain reading.held.turned
      return results.foldl (· + ·) 0.0) := rfl

end StackCalculator.Polish
