/-
The calculator: a mode asked for, and evaluations in it.

A calculator keeps one thing, the text by which its mode was last asked for,
and keeps it as it was given. Whether the text names a mode is found out at
each evaluation. No stack outlives an evaluation, so evaluations leave a
calculator as it was, whether they succeed or fail.
-/
import StackCalculator.Evaluation

set_option autoImplicit false

namespace StackCalculator

/-- **A calculator.** -/
structure Calculator where
  /-- The mode as it was asked for. -/
  requested : String := Mode.polish.name
deriving DecidableEq, Repr

namespace Calculator

/-- A new calculator reads Polish notation. -/
instance : Inhabited Calculator := ⟨{}⟩

/-- The calculator after a mode is asked for. -/
def setMode (requested : String) (_ : Calculator) : Calculator := { requested }

/-- The mode that the stored request names. -/
def mode (c : Calculator) : Except EvalError Mode := Mode.ofRequest c.requested

/-- **Evaluates an entry** in the stored mode. -/
def evaluate (c : Calculator) (entry : String) : Except EvalError Float := do
  StackCalculator.evaluate (← c.mode) entry

/-! ## Trace -/

/-- The record of a mode being asked for. -/
def setModeRecords (requested : String) : List Record :=
  [{ severity := .info, message := "mode de la calculatrice : " ++ requested }]

/-- The records of an evaluation. Where the stored request names no mode,
nothing is evaluated and nothing recorded. -/
def evaluateRecords (c : Calculator) (entry : String) : List Record :=
  match c.mode with
  | .ok mode => evaluationRecords mode entry
  | .error _ => []

end Calculator
end StackCalculator
