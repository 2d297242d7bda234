/-
Stacks worked by hand.

A command pushes a token or a number, or reduces and disposes of the value.
Commands are taken in order from empty stacks, and one that fails does not
stop those after it; what it took from the stacks stays taken.
-/
import StackCalculator.Stacks

set_option autoImplicit false

namespace StackCalculator.Stacks

/-- Where the value of a reduction goes. -/
inductive Destination where
  | nowhere
  /-- On top of the operands. -/
  | top
  /-- Under the operands. -/
  | bottom
deriving DecidableEq, Repr

/-- A thing to do with the stacks. -/
inductive Command where
  /-- Classifies a piece, parentheses included, and pushes the token. -/
  | push (piece : String)
  /-- Pushes a number. -/
  | pushNumber (x : Float)
  /-- Reduces. -/
  | reduce (order : OperandOrder) (destination : Destination)
deriving DecidableEq, Repr

/-- The outcome of a command: a value if it was a reduction. -/
abbrev Outcome := Except EvalError (Option Float)

/-- Puts a value where it goes. -/
def put (x : Float) (s : Stacks) : Destination → Stacks
  | .nowhere => s
  | .top => s.pushTop x
  | .bottom => s.pushBottom x

/-- **Carries out a command.** -/
def perform (s : Stacks) : Command → Outcome × Stacks
  | .push piece =>
    match Token.classifyParenthesised piece >>= (s.push ·) with
    | .ok pushed => (.ok none, pushed)
    | .error e => (.error e, s)
  | .pushNumber x => (.ok none, s.pushTop x)
  | .reduce order destination =>
    match s.reduce order with
    | (.ok value, rest) => (.ok (some value), rest.put value destination)
    | (.error e, rest) => (.error e, rest)

/-- Carries out commands in order: each outcome, with the stacks after it. -/
def performAll (s : Stacks) : List Command → List (Outcome × Stacks)
  | [] => []
  | first :: rest =>
    let (outcome, next) := s.perform first
    (outcome, next) :: next.performAll rest

end StackCalculator.Stacks
