/-
The double nearest to an exact value.

`nearest` takes a nonnegative fraction and returns the magnitude of the double
closest to it, of two equally close ones the even magnitude, which is the one
with the even significand. A value at or above the midpoint between the
greatest finite double and `2^1024` gets a magnitude of `Grid.infinity` or
more, so overflow is visible as a comparison.

`nearestDecimal` does the same for a coefficient times a power of ten. Its two
short cuts answer without forming the power where the exponent alone decides:
the work stays in proportion to the length of the numeral.
-/
import StackCalculator.Number.Grid

set_option autoImplicit false

namespace StackCalculator.Number

/-- The whole number closest to `num / den`, a half going to the even one. -/
def roundHalfEven (num den : Nat) : Nat :=
  let below := num / den
  let rest := num % den
  if 2 * rest < den then below
  else if den < 2 * rest then below + 1
  else below + below % 2

/-- **The nearest double** to `num / den`, as a magnitude. The value in steps
of `2^-1074` has a leading bit; the significand keeps 53 bits from there, or
all of them when there are fewer, and the rest is rounded away. A significand
rounded up to `2^53` carries into the exponent field by itself. -/
def nearest (num den : Nat) : Nat :=
  let scaled := num * Nat.pow 2 1074
  let shift := (scaled / den).log2 - 52
  shift * Nat.pow 2 52 + roundHalfEven scaled (den * Nat.pow 2 shift)

/-- **The nearest double** to `coefficient * 10 ^ exponent`, as a magnitude.
From `10^310` on the value is above every double; and as `10 ≥ 2^3`, a
coefficient below `2 ^ (log2 + 1)` is under half the smallest step once three
times the negated exponent reaches `log2 + 1077`. -/
def nearestDecimal (coefficient : Nat) (exponent : Int) : Nat :=
  if coefficient = 0 then 0
  else match exponent with
    | .ofNat e =>
      if 310 ≤ e then Grid.infinity else nearest (coefficient * Nat.pow 10 e) 1
    | .negSucc e =>
      if coefficient.log2 + 1077 ≤ 3 * (e + 1) then 0
      else nearest coefficient (Nat.pow 10 (e + 1))

end StackCalculator.Number
