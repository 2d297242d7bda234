/-
The shortest decimal that reads back as a given double.

The reals nearest to the double of magnitude `i` form an interval: from the
midpoint with the magnitude below to the midpoint with the magnitude above,
the ends included exactly when `i` is even, since ties go to even magnitudes.
Midpoints are whole numbers of half steps, `2^-1075`, and one half step is
`5^1075` units of `10^-1075`; counted in those units the interval and the
value in it are natural numbers and nothing is rounded.

A decimal with few digits is a multiple of a large power of ten. So the
search goes down the powers of ten and stops at the first that has a multiple
in the interval: no decimal with fewer significant digits lies there. If any
multiple does, one of the two around the value does; of two the nearer is
taken, and the upper one where the value is halfway.
-/
import StackCalculator.Number.Grid

set_option autoImplicit false

namespace StackCalculator.Number

/-- A coefficient times a power of ten. -/
structure Decimal where
  coefficient : Nat
  exponent : Int
deriving DecidableEq, Repr

/-! ## The interval of a double -/

/-- The reals that round to one double, in units of `10^-1075`: the value,
the two ends, and whether the ends belong to it. -/
structure Interval where
  value : Nat
  low : Nat
  high : Nat
  closed : Bool
deriving DecidableEq, Repr

namespace Interval

/-- The interval of the double of magnitude `i`. -/
def ofMagnitude (i : Nat) : Interval where
  value := 2 * Grid.steps i * Nat.pow 5 1075
  low := (Grid.steps (i - 1) + Grid.steps i) * Nat.pow 5 1075
  high := (Grid.steps i + Grid.steps (i + 1)) * Nat.pow 5 1075
  closed := i % 2 == 0

/-- Whether `n` units lie in the interval. -/
def contains (r : Interval) (n : Nat) : Bool :=
  if r.closed then r.low ≤ n && n ≤ r.high else r.low < n && n < r.high

/-! ## The search -/

/-- How many times `unit` goes into a point of the interval, for the multiple
of `unit` nearest to the value, if one of its two neighbours is inside. -/
def multiple? (r : Interval) (unit : Nat) : Option Nat :=
  let below := r.value / unit
  match r.contains (below * unit), r.contains ((below + 1) * unit) with
  | true, true => some (if 2 * (r.value % unit) < unit then below else below + 1)
  | true, false => some below
  | false, true => some (below + 1)
  | false, false => none

/-- The coarsest grid of spacing `10 ^ places` or finer that has a point in
the interval, and that point. Spacing one always has: the value itself. -/
def coarsest (r : Interval) : Nat → Nat × Nat
  | 0 => (r.value, 0)
  | places + 1 =>
    match r.multiple? (Nat.pow 10 (places + 1)) with
    | some n => (n, places + 1)
    | none => r.coarsest places

/-- A power of ten above every point of the interval. Each 23 bits are
worth at most seven decimal digits, as `2^23 < 10^7`. -/
def ceiling (r : Interval) : Nat := 7 * (r.high.log2 / 23 + 1)

end Interval

/-- **The shortest decimal** among those that read back as the double of
magnitude `i`, and the nearest to it among those of that length. -/
def shortest (i : Nat) : Decimal :=
  let r := Interval.ofMagnitude i
  let (coefficient, places) := r.coarsest r.ceiling
  { coefficient, exponent := (places : Int) - 1075 }

end StackCalculator.Number
