/-
Sessions of several calculators.

A session is a list of calculators, told apart by their slot, the place in the
list. It starts with one; a step may add a new one or a copy of another at the
end, and no calculator is ever taken away. Every other step addresses one slot
and touches no calculator but that.
-/
import StackCalculator.Calculator

set_option autoImplicit false

namespace StackCalculator.Session

/-- What a step does. -/
inductive Action where
  /-- Adds a new calculator. -/
  | create
  /-- Adds a copy of the calculator addressed. -/
  | copy
  /-- Asks for a mode. -/
  | setMode (requested : String)
  /-- Asks which mode is stored. -/
  | mode
  /-- Evaluates an entry. -/
  | evaluate (entry : String)
deriving DecidableEq, Repr

/-- An action and the slot it addresses. -/
structure Step where
  slot : Nat
  action : Action
deriving DecidableEq, Repr

/-- What a step answers. -/
inductive Reply where
  /-- The slot of the calculator added. -/
  | added (slot : Nat)
  | done
  | mode (outcome : Except EvalError Mode)
  | value (outcome : Except EvalError Float)

/-- The account of a step: its answer, the mode asked for as the addressed
calculator stores it afterwards, and the records it left. -/
structure Report where
  reply : Reply
  requested : String
  records : List Record

/-- The calculators of a session, by slot. -/
abbrev Calculators := List Calculator

/-- A session that has just begun. -/
def start : Calculators := [default]

/-- **Takes a step**, if the slot it addresses is there. -/
def step? (cs : Calculators) (s : Step) : Option (Calculators × Report) := do
  let c ← cs[s.slot]?
  match s.action with
  | .create => return (cs ++ [default], ⟨.added cs.length, c.requested, []⟩)
  | .copy => return (cs ++ [c], ⟨.added cs.length, c.requested, []⟩)
  | .setMode requested =>
    return (cs.set s.slot (c.setMode requested),
      ⟨.done, requested, Calculator.setModeRecords requested⟩)
  | .mode => return (cs, ⟨.mode c.mode, c.requested, []⟩)
  | .evaluate entry =>
    return (cs, ⟨.value (c.evaluate entry), c.requested, c.evaluateRecords entry⟩)

/-- **Takes steps in order**, if every slot they address is there. -/
def run? (cs : Calculators) : List Step → Option (List Report)
  | [] => some []
  | s :: rest => do
    let (next, report) ← step? cs s
    let reports ← run? next rest
    return report :: reports

end StackCalculator.Session
