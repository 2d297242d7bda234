/-
The two ways of writing an expression.

In the Polish mode an operator stands before its operands, as in `+ 1 * 2 3`;
in the parenthesised mode it stands between them and every operation has its
own parentheses, as in `( 1 + ( 2 * 3 ) )`. A mode is asked for by name, and
the case of ASCII letters does not matter.
-/
import StackCalculator.Error

set_option autoImplicit false

namespace StackCalculator

/-- A way of writing expressions. -/
inductive Mode where
  /-- The operator before its operands. -/
  | polish
  /-- The operator between its operands, in parentheses. -/
  | parenthesised
deriving DecidableEq, Repr

namespace Mode

/-- A calculator that was never told otherwise reads Polish notation. -/
instance : Inhabited Mode := ⟨polish⟩

/-- The name by which a mode is asked for. -/
def name : Mode → String
  | polish => "prefix"
  | parenthesised => "infix"

/-- The name shown to a reader. -/
def label : Mode → String
  | polish => "Prefix"
  | parenthesised => "Infix"

/-- Whether a text is a name up to the case of ASCII letters; `name` is given
in lower case. -/
def isNamed (name text : String) : Bool := text.toList.map Char.toLower == name.toList

/-- **The mode asked for** by a text. -/
def ofRequest (text : String) : Except EvalError Mode :=
  if isNamed polish.name text then .ok polish
  else if isNamed parenthesised.name text then .ok parenthesised
  else .error (.unsupportedMode text)

end Mode
end StackCalculator
