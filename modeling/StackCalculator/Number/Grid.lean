/-
The doubles of one sign as a grid of natural numbers.

A double is a sign bit and 63 more bits. Read as a natural number, those 63
bits are its *magnitude*, and magnitudes are ordered as the values are: zero,
then every subnormal, then every normal number, then infinity, then the
not-a-numbers. The neighbours of a double are therefore the magnitudes one
above and one below, whether or not a power of two lies between them.

Every finite double is a whole number of steps of `2^-1074`, the smallest
subnormal. `Grid.steps` gives that number, so a question about the values of
doubles is a question about natural numbers. The grid goes on past infinity
with the same rule; the magnitude of infinity stands at `2^1024`, where the
next double would be if the exponents did not end there.

Powers are spelled `Nat.pow`, which names one function whatever instances of
`^` are in scope.
-/
set_option autoImplicit false

namespace StackCalculator.Number

/-! ## The grid -/

/-- The exponent field less one, and zero for the subnormals: two neighbours
at magnitude `i` and `i + 1` are `2 ^ Grid.shift i` steps apart. -/
def Grid.shift (i : Nat) : Nat := i / Nat.pow 2 52 - 1

/-- The value of the double of magnitude `i`, counted in steps of `2^-1074`.
The significand is what remains of `i` when one unit of the exponent field
(the hidden bit) is left in place. -/
def Grid.steps (i : Nat) : Nat :=
  (i - Grid.shift i * Nat.pow 2 52) * Nat.pow 2 (Grid.shift i)

/-- The magnitude of infinity: the finite doubles lie below it. -/
def Grid.infinity : Nat := 2047 * Nat.pow 2 52

/-! ## Sign and magnitude of a double -/

/-- The bits of a double other than its sign, as a number. -/
def magnitude (x : Float) : Nat := x.toBits.toNat % Nat.pow 2 63

/-- Whether the sign bit is set, as it is in `-0.0` too. -/
def isNegative (x : Float) : Bool := Nat.pow 2 63 ≤ x.toBits.toNat

/-- Neither infinite nor a not-a-number. -/
def isFinite (x : Float) : Bool := magnitude x < Grid.infinity

/-- The double of the given sign and magnitude. -/
def ofMagnitude (negative : Bool) (i : Nat) : Float :=
  Float.ofBits (UInt64.ofNat (if negative then Nat.pow 2 63 + i else i))

/-- The value of what is no number. -/
def notANumber : Float := 0.0 / 0.0

end StackCalculator.Number
