/-
The terminal program as a function.

With expressions among its arguments the program evaluates each of them, and
fails at the end if any failed. Without, it reads lines: `:mode` and a name
change the mode, a blank line is skipped, and any other line is evaluated as it
stands, blanks at its ends included. A failed line does not fail the run; only
a line that is no valid UTF-8 ends it. The input is taken byte by byte, and a
line is answered as soon as it has ended.

A result goes to the standard output and an error to the standard error, each
on a line of its own. The two are gathered apart, in the order they are written.
-/
import StackCalculator.Calculator
import StackCalculator.Text.Blank
import StackCalculator.Terminal.Arguments
import StackCalculator.Terminal.Lines

set_option autoImplicit false

namespace StackCalculator.Terminal

/-- What is written on the two outputs. -/
structure Printed where
  out : String := ""
  err : String := ""
deriving DecidableEq, Repr

namespace Printed

/-- One thing written after another. -/
instance : Append Printed := ⟨fun p q => ⟨p.out ++ q.out, p.err ++ q.err⟩⟩

/-- Things written in order. -/
def all (ps : List Printed) : Printed := ps.foldl (· ++ ·) {}

end Printed

/-- The end of a run: the exit status, and all that was written. -/
structure Ending where
  status : Nat
  printed : Printed
deriving DecidableEq, Repr

/-- An ending, with what was written before it. -/
def Ending.after (printed : Printed) (e : Ending) : Ending :=
  { e with printed := printed ++ e.printed }

/-! ## Evaluating and showing -/

/-- An outcome as it is shown. -/
def Printed.ofOutcome : Except EvalError Float → Printed
  | .ok value => { out := Number.resultText value ++ "\n" }
  | .error e => { err := "erreur : " ++ e.message ++ "\n" }

/-! ## Expressions among the arguments -/

/-- **Evaluates expressions** in order, and counts those that fail. -/
def runExpressions (c : Calculator) (expressions : List String) : Ending :=
  let outcomes := expressions.map c.evaluate
  let printed := Printed.all (outcomes.map .ofOutcome)
  let failures := outcomes.countP fun outcome => !outcome.isOk
  if failures = 0 then { status := 0, printed }
  else {
    status := 1
    printed := printed ++ { err := "Error: " ++ failures.repr ++ " expression(s) en erreur\n" } }

/-! ## Line by line -/

/-- The word that changes the mode. -/
def modeCommand : String := ":mode"

/-- What follows the mode command on a line that starts with it, blanks aside. -/
def modeRequest? (line : String) : Option String :=
  let text := Text.trimStart line.toList
  if modeCommand.toList.isPrefixOf text then
    some (String.ofList (Text.trim (text.drop modeCommand.length)))
  else none

/-- The answer to a mode command, once the mode is stored. -/
def Printed.ofMode (c : Calculator) : Printed :=
  match c.mode with
  | .ok mode => { out := "mode : " ++ mode.label ++ "\n" }
  | .error e => { out := "mode : " ++ c.requested ++ " (" ++ e.message ++ ")\n" }

/-- **Answers a line**: the calculator after it, and what is written. -/
def answerLine (c : Calculator) (line : String) : Calculator × Printed :=
  if line.toList.all Text.isBlank then (c, {})
  else match modeRequest? line with
    | some requested =>
      let changed := c.setMode requested
      (changed, .ofMode changed)
    | none => (c, .ofOutcome (c.evaluate line))

/-- What is written when a line cannot be read. -/
def unreadable : Printed where
  err := "Error: lecture de l’entrée standard\n\nCaused by:\n    stream did not contain valid UTF-8\n"

/-- **A run over lines**, where it has come to: its calculator, and the bytes
of the line that has not ended, the last one first. -/
structure LineRun where
  calculator : Calculator := {}
  unended : List UInt8 := []
deriving DecidableEq, Repr

/-- What becomes of a run: it goes on from where it has come to, once something
is written, or it has ended. -/
inductive Progress where
  | goesOn (next : LineRun) (printed : Printed)
  | ended (ending : Ending)
deriving DecidableEq, Repr

/-- **Answers the bytes of a line**, or ends where they cannot be read. -/
def answerBytes (c : Calculator) (line : List UInt8) : Progress :=
  match lineText? line with
  | some text =>
    let (calculator, printed) := answerLine c text
    .goesOn { calculator } printed
  | none => .ended { status := 1, printed := unreadable }

namespace LineRun

/-- **Takes a byte** of the input. A line feed ends a line. -/
def take (r : LineRun) (b : UInt8) : Progress :=
  if b = lineFeed then answerBytes r.calculator (b :: r.unended).reverse
  else .goesOn { r with unended := b :: r.unended } {}

/-- **Takes the end** of the input, which ends a line if there is one. -/
def takeEnd (r : LineRun) : Ending :=
  if r.unended = [] then { status := 0, printed := {} }
  else match answerBytes r.calculator r.unended.reverse with
    | .goesOn _ printed => { status := 0, printed }
    | .ended ending => ending

/-- **Takes an input**, byte by byte, and then its end. -/
def takeAll (r : LineRun) : List UInt8 → Ending
  | [] => r.takeEnd
  | b :: rest =>
    match r.take b with
    | .goesOn next printed => (next.takeAll rest).after printed
    | .ended ending => ending

end LineRun

/-- **Reads the standard input** and answers its lines, up to one that cannot
be read. -/
def runLines (c : Calculator) (input : List UInt8) : Ending :=
  LineRun.takeAll { calculator := c } input

/-! ## The program -/

/-- The calculator of a run, in the mode asked for if one is. -/
def startingCalculator : Option String → Calculator
  | some requested => Calculator.setMode requested {}
  | none => {}

/-- The name of the program and its version. -/
def versionText : String := "calculatrice 0.1.0\n"

/-- The use of the program. -/
def helpText : String :=
  "Calculatrice préfixe / infixe parenthésée\n\n"
    ++ "Usage: calculatrice [OPTIONS] [EXPRESSIONS]...\n\n"
    ++ "Arguments:\n"
    ++ "  [EXPRESSIONS]...  Expressions à évaluer ; sans expression, lit l’entrée standard\n\n"
    ++ "Options:\n"
    ++ "  -m, --mode <MODE>  Notation : prefix ou infix (vérifiée seulement à l’évaluation) "
    ++ "[default: prefix]\n"
    ++ "  -h, --help         Print help\n"
    ++ "  -V, --version      Print version\n"

/-- The status of a run whose arguments are no correct use. -/
def misuse : Nat := 2

/-- **Answers a request** with the bytes of the standard input at hand. -/
def Request.answer (input : List UInt8) : Request → Ending
  | .evaluate mode [] => runLines (startingCalculator mode) input
  | .evaluate mode expressions => runExpressions (startingCalculator mode) expressions
  | .help => { status := 0, printed := { out := helpText } }
  | .version => { status := 0, printed := { out := versionText } }

/-- **The program**: its ending for the arguments and the bytes of the standard
input; none if the arguments are no correct use. -/
def run? (arguments : List String) (input : List UInt8) : Option Ending :=
  (Request.ofArguments? arguments).map (Request.answer input)

end StackCalculator.Terminal
