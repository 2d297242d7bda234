/-
Lines of the standard input.

The input is a list of bytes. A line ends with a line feed, and the last one
may lack it. Each line is decoded from UTF-8 by itself, so a fault in one says
nothing of the others. Its text is what stands before the line feed, less one
carriage return there; without a line feed a carriage return is kept.
-/
set_option autoImplicit false

namespace StackCalculator.Terminal

/-- The byte of a line feed. -/
def lineFeed : UInt8 := 10

/-- The characters of a line before its end. -/
def dropLineEnd (cs : List Char) : List Char :=
  match cs.reverse with
  | '\n' :: '\r' :: rest => rest.reverse
  | '\n' :: rest => rest.reverse
  | _ => cs

/-- **The text of a line**, if its bytes are valid UTF-8. -/
def lineText? (line : List UInt8) : Option String :=
  (String.fromUTF8? line.toByteArray).map fun text =>
    String.ofList (dropLineEnd text.toList)

end StackCalculator.Terminal
