/-
Text in quotes, for the trace.

A quoted text stands between double quotes on one line. Tab, line feed,
carriage return and the null character have a letter or digit behind a
backslash; so do the double quote and the backslash themselves. Every other
hidden character is spelled by its number in hexadecimal, and all else stands
for itself, the single quote included.
-/
import StackCalculator.Text.Hidden

set_option autoImplicit false

namespace StackCalculator.Text

/-- One character as it stands between quotes. -/
def escape (c : Char) : List Char :=
  match c with
  | '\t' => ['\\', 't']
  | '\n' => ['\\', 'n']
  | '\r' => ['\\', 'r']
  | '\x00' => ['\\', '0']
  | '"' => ['\\', '"']
  | '\\' => ['\\', '\\']
  | _ =>
    if isHidden c then "\\u\x7b".toList ++ Nat.toDigits 16 c.toNat ++ ['\x7d']
    else [c]

/-- **A text in quotes.** -/
def quoted (text : String) : String :=
  String.ofList ('"' :: (text.toList.flatMap escape ++ ['"']))

end StackCalculator.Text
