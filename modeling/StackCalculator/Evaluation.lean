/-
Evaluating an entry in a mode, and the trace of it.

The entry is cut into pieces and the pieces are evaluated in the mode's way.
An evaluation also leaves two records for whoever keeps a log: the pieces it
found, and its outcome beside the entry in quotes.
-/
import StackCalculator.Mode
import StackCalculator.Polish
import StackCalculator.Parenthesised
import StackCalculator.Text.Quoted

set_option autoImplicit false

namespace StackCalculator

/-! ## Values -/

/-- The value of an entry given by its pieces. -/
def evaluatePieces : Mode → List String → Except EvalError Float
  | .polish => Polish.evaluate
  | .parenthesised => Parenthesised.evaluate

/-- **The value of an entry** in a mode. -/
def evaluate (mode : Mode) (entry : String) : Except EvalError Float :=
  evaluatePieces mode (Pieces.split entry)

/-! ## Trace -/

/-- How much a record matters. -/
inductive Severity where
  /-- Of use to whoever looks for a fault. -/
  | debug
  /-- A change that a user asked for. -/
  | info
deriving DecidableEq, Repr

/-- One line of a log. -/
structure Record where
  severity : Severity
  message : String
deriving DecidableEq, Repr

/-- The outcome of an evaluation, as it follows the quoted entry. -/
def outcomeText : Except EvalError Float → String
  | .ok value => " = " ++ Number.tokenText value
  | .error e => " échoue : " ++ e.message

/-- **The records of an evaluation**: its pieces, then its outcome. -/
def evaluationRecords (mode : Mode) (entry : String) : List Record := [
  { severity := .debug,
    message := mode.label ++ " : jetons [" ++ Pieces.visible (Pieces.split entry) ++ "]" },
  { severity := .debug,
    message := mode.label ++ " : " ++ Text.quoted entry ++ outcomeText (evaluate mode entry) }]

end StackCalculator
