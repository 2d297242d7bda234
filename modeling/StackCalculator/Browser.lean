/-
The calculator as an object on a web page.

A page makes the object, asks it for a mode and has it evaluate entries. An
evaluation returns a number or throws the wording of an error as a string; the
page can read the mode back at any time, as it was asked for.
-/
import StackCalculator.Calculator

set_option autoImplicit false

namespace StackCalculator.Browser

/-- What a page calls. -/
inductive Call where
  /-- Makes a new object in place of the one there is. -/
  | construct
  | setMode (requested : String)
  | evaluate (entry : String)
deriving DecidableEq, Repr

/-- What a call gives back. -/
inductive Reply where
  | done
  | returned (value : Float)
  | thrown (message : String)
deriving DecidableEq, Repr

/-- An evaluation as the page sees it. -/
def Reply.ofOutcome : Except EvalError Float → Reply
  | .ok value => returned value
  | .error e => thrown e.message

/-- **Makes a call** on the object. -/
def call (c : Calculator) : Call → Calculator × Reply
  | .construct => ({}, .done)
  | .setMode requested => (c.setMode requested, .done)
  | .evaluate entry => (c, .ofOutcome (c.evaluate entry))

/-- Makes calls in order: each reply, with the mode read back after it. -/
def run (c : Calculator) : List Call → List (Reply × String)
  | [] => []
  | first :: rest =>
    let (next, reply) := call c first
    (reply, next.requested) :: run next rest

end StackCalculator.Browser
