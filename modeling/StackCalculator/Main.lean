/-
The terminal program.

Lines of the standard input are answered as they come. What becomes of a byte
of it, and of its end, is for the library to say, and so is all that is written.
-/
import StackCalculator.Terminal.Program

set_option autoImplicit false

namespace StackCalculator.Terminal

/-- Writes on the two outputs. -/
def Printed.write (p : Printed) : IO Unit := do
  IO.print p.out
  IO.eprint p.err
  (← IO.getStdout).flush

/-- Shows an ending. -/
def Ending.finish (e : Ending) : IO UInt32 := do
  e.printed.write
  return e.status.toUInt32

/-- Takes the bytes of the input as they come, up to the end of the run. -/
partial def LineRun.serve (r : LineRun) (input : IO.FS.Stream) : IO UInt32 := do
  match (← input.read 1).toList with
  | [] => r.takeEnd.finish
  | b :: _ =>
    match r.take b with
    | .goesOn next printed =>
      printed.write
      next.serve input
    | .ended ending => ending.finish

/-- Answers what the arguments ask for. Only a run that reads lines looks at
the standard input, and it answers each as it comes. -/
def serve (arguments : List String) : IO UInt32 := do
  match Request.ofArguments? arguments with
  | none =>
    IO.eprint helpText
    return misuse.toUInt32
  | some (.evaluate mode []) =>
    LineRun.serve { calculator := startingCalculator mode } (← IO.getStdin)
  | some request => (request.answer []).finish

end StackCalculator.Terminal

/-- Runs the terminal program. -/
def main (arguments : List String) : IO UInt32 := StackCalculator.Terminal.serve arguments
