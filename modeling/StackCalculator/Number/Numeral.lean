/-
Decimal numerals and the doubles they stand for.

A numeral is an optional sign, digits with at most one point among them, and
an optional exponent:

    [+-] ( digits [ . [digits] ] | . digits ) [ (e | E) [+-] digits ]

Only ASCII digits count, nothing may stand around it, and at least one digit
stands before the exponent. Its value is exact; the number read is the double
nearest to it. A numeral whose nearest double would be infinite is refused,
while one too small for any double but zero is a zero of the numeral's sign.
The words for infinity and not-a-number are no numerals.
-/
import StackCalculator.Number.Nearest

set_option autoImplicit false

namespace StackCalculator.Number

/-- The parts of a numeral: its sign, the digits before and after the point,
and the value of its exponent, zero where none is written. -/
structure Numeral where
  negative : Bool
  whole : List Char
  fraction : List Char
  exponent : Int
deriving DecidableEq, Repr

namespace Numeral

/-! ## Reading the parts -/

/-- Splits off an optional sign; the flag is set by `-` only. -/
def takeSign : List Char → Bool × List Char
  | '+' :: rest => (false, rest)
  | '-' :: rest => (true, rest)
  | cs => (false, cs)

/-- The fraction's digits, if a point comes first, and what follows them. -/
def takeFraction : List Char → List Char × List Char
  | '.' :: rest => (rest.takeWhile Char.isDigit, rest.dropWhile Char.isDigit)
  | cs => ([], cs)

/-- The value of an exponent part that fills the whole rest of the numeral.
An empty rest means exponent zero. -/
def readExponent? : List Char → Option Int
  | [] => some 0
  | mark :: rest =>
    let (negative, digits) := takeSign rest
    if (mark = 'e' ∨ mark = 'E') ∧ digits ≠ [] ∧ digits.all Char.isDigit then
      let size := Nat.ofDigitChars 10 digits 0
      some (if negative then -(size : Int) else size)
    else none

/-- **Reads a numeral** that fills the whole text. -/
def read? (cs : List Char) : Option Numeral :=
  let (negative, unsigned) := takeSign cs
  let whole := unsigned.takeWhile Char.isDigit
  let (fraction, rest) := takeFraction (unsigned.dropWhile Char.isDigit)
  if whole = [] ∧ fraction = [] then none
  else (readExponent? rest).map fun exponent => { negative, whole, fraction, exponent }

/-! ## The value -/

/-- All the digits read as one whole number. -/
def coefficient (n : Numeral) : Nat := Nat.ofDigitChars 10 (n.whole ++ n.fraction) 0

/-- The power of ten that the coefficient is multiplied by: each digit after
the point lowers the written exponent by one. -/
def scale (n : Numeral) : Int := n.exponent - n.fraction.length

/-- **The double nearest to the numeral**, if it is finite. -/
def toFloat? (n : Numeral) : Option Float :=
  let i := nearestDecimal n.coefficient n.scale
  if i < Grid.infinity then some (ofMagnitude n.negative i) else none

end Numeral

/-- **Reads a number** from a piece of text: the finite double nearest to the
numeral that the piece is. -/
def read? (piece : String) : Option Float :=
  (Numeral.read? piece.toList).bind Numeral.toFloat?

end StackCalculator.Number
