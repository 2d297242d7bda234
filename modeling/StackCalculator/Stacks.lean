/-
The two stacks of an evaluation.

Operands and operators are pushed on stacks of their own. A reduction takes the
two topmost operands and the topmost operator and computes a value; which of
the two operands stands on the left is for the caller to say. The value is not
pushed: one way of reading puts it back on top, the other at the bottom.

What a reduction leaves behind does not depend on its outcome. One that fails,
for want of operands or by a zero divisor, has taken what there was to take.
-/
import StackCalculator.Token

set_option autoImplicit false

namespace StackCalculator

/-- The stacks, each with its top first. -/
structure Stacks where
  operands : List Float := []
  operators : List Operator := []
deriving DecidableEq, Repr

/-- Which operand of a reduction stands on the left. -/
inductive OperandOrder where
  /-- The topmost operand is the left one. -/
  | topLeft
  /-- The topmost operand is the right one. -/
  | topRight
deriving DecidableEq, Repr

namespace Stacks

/-! ## Pushing -/

/-- Puts a number on top of the operands. -/
def pushTop (x : Float) (s : Stacks) : Stacks := { s with operands := x :: s.operands }

/-- Puts a number under all the operands. -/
def pushBottom (x : Float) (s : Stacks) : Stacks := { s with operands := s.operands ++ [x] }

/-- **Pushes a token** on the stack of its kind. Parentheses have no stack. -/
def push (token : Token) (s : Stacks) : Except EvalError Stacks :=
  match token with
  | .number x => .ok (s.pushTop x)
  | .operator op => .ok { s with operators := op :: s.operators }
  | .opening | .closing => .error (.malformedToken token.text)

/-- **A way of pushing** tokens; `push` is the usual one. -/
abbrev Pushing := Token → Stacks → Except EvalError Stacks

/-- Turns the operands upside down. -/
def turned (s : Stacks) : Stacks := { s with operands := s.operands.reverse }

/-! ## Reducing -/

/-- Whether there are two operands and an operator. -/
def ready (s : Stacks) : Bool := 2 ≤ s.operands.length && !s.operators.isEmpty

/-- The value of a reduction, or why there is none. -/
def reduced (order : OperandOrder) (s : Stacks) : Except EvalError Float :=
  match s.operands, s.operators with
  | top :: next :: _, op :: _ =>
    match order with
    | .topLeft => op.apply top next
    | .topRight => op.apply next top
  | _, _ => .error (.stackUnderflow s.operands.length s.operators.length)

/-- What a reduction leaves: up to two operands and one operator are gone. -/
def remaining (s : Stacks) : Stacks :=
  { operands := s.operands.drop 2, operators := s.operators.drop 1 }

/-- **Reduces**: the outcome, and the stacks after it. -/
def reduce (order : OperandOrder) (s : Stacks) : Except EvalError Float × Stacks :=
  (s.reduced order, s.remaining)

/-! ## Small facts -/

/-- A reduction of stacks that are ready uses up an operator. -/
theorem length_operators_remaining (s : Stacks) (h : s.ready = true) :
    s.remaining.operators.length < s.operators.length := by
  cases hs : s.operators with
  | nil => simp [ready, hs] at h
  | cons op rest => simp [remaining, hs]

end Stacks
end StackCalculator
