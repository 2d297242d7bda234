/-
How a number is written.

A finite number is written with the digits of its shortest decimal and never
with an exponent: zeros are added on either side of the digits until the point
falls into place. The number before the point has no leading zero but a lone
one, and a point is written only when digits follow it.

Two spellings differ in what is no ordinary number. A *result* spells out
infinity and shows both zeros as `0`; a *token* writes `inf` and keeps the
sign of a zero, so that a finite token reads back as the same double.
-/
import StackCalculator.Number.Shortest

set_option autoImplicit false

namespace StackCalculator.Number

/-- **A decimal without exponent.** -/
def Decimal.plain (d : Decimal) : List Char :=
  let digits := Nat.toDigits 10 d.coefficient
  match d.exponent with
  | .ofNat zeros => digits ++ List.replicate zeros '0'
  | .negSucc below =>
    let places := below + 1
    if digits.length ≤ places then
      '0' :: '.' :: (List.replicate (places - digits.length) '0' ++ digits)
    else
      let whole := digits.length - places
      digits.take whole ++ '.' :: digits.drop whole

/-- What a spelling of numbers decides for itself. -/
structure Spelling where
  /-- The word for a not-a-number. -/
  notANumber : String
  /-- The word for infinity, which a minus may precede. -/
  infinity : String
  /-- Whether a zero with its sign bit set is written with a minus. -/
  signedZero : Bool

namespace Spelling

/-- A magnitude without its sign. -/
def unsigned (s : Spelling) (i : Nat) : String :=
  if i = 0 then "0"
  else if i < Grid.infinity then String.ofList (shortest i).plain
  else s.infinity

/-- **Writes a number**: the sign, then the magnitude. -/
def write (s : Spelling) (x : Float) : String :=
  let i := magnitude x
  if Grid.infinity < i then s.notANumber
  else if isNegative x && (s.signedZero || i != 0) then "-" ++ s.unsigned i
  else s.unsigned i

end Spelling

/-- Results name infinity in full and show no sign on a zero. -/
def resultSpelling : Spelling where
  notANumber := "NaN"
  infinity := "Infinity"
  signedZero := false

/-- Tokens and traces are brief, and keep the sign of a zero. -/
def tokenSpelling : Spelling where
  notANumber := "NaN"
  infinity := "inf"
  signedZero := true

/-- A number as the result of an evaluation. -/
def resultText (x : Float) : String := resultSpelling.write x

/-- A number as a token. -/
def tokenText (x : Float) : String := tokenSpelling.write x

end StackCalculator.Number
