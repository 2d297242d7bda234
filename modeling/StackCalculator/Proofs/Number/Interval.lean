/-
The shortest decimal of a double rounds to that double.

The printer works in units of `10^-1075`, the reader in steps of `2^-1074`, and
one half step is `5^1075` units. Counted in steps, what lies in the interval of
a magnitude is what rounds to it (`contains_iff`). How many units there are to
a half step is kept general until then (`Spans`). The search for a coarser
grid never leaves the interval: it starts from the value itself and only takes
multiples that it has found inside. So whichever decimal it ends with, that
decimal rounds to the magnitude (`rounds_shortest`); that none is shorter plays
no part.
-/
import StackCalculator.Number.Shortest
import StackCalculator.Proofs.Number.Steps
import Mathlib

set_option autoImplicit false

namespace StackCalculator.Number

open Grid (Rounds steps)

namespace Interval

/-! ## Units and steps -/

theorem pow_five_pos (k : ℕ) : 0 < Nat.pow 5 k := Nat.pow_pos (by decide)

section Ends

variable {a n u : ℕ}

theorem mul_le_iff (hu : 0 < u) : a * u ≤ n ↔ (a : ℚ) ≤ n / u := by
  rw [le_div_iff₀ (Nat.cast_pos.mpr hu)]
  exact_mod_cast Iff.rfl

theorem le_mul_iff (hu : 0 < u) : n ≤ a * u ↔ (n / u : ℚ) ≤ a := by
  rw [div_le_iff₀ (Nat.cast_pos.mpr hu)]
  exact_mod_cast Iff.rfl

theorem eq_mul_iff (hu : 0 < u) : n = a * u ↔ (n / u : ℚ) = a := by
  rw [div_eq_iff (Nat.cast_ne_zero.mpr hu.ne')]
  exact_mod_cast Iff.rfl

end Ends

/-- The ends of an interval count where it is closed. -/
theorem contains_eq_true_iff (r : Interval) (n : ℕ) :
    r.contains n = true ↔
      r.low ≤ n ∧ n ≤ r.high ∧ (n = r.low ∨ n = r.high → r.closed = true) := by
  unfold contains
  by_cases hclosed : r.closed = true
  · rw [if_pos hclosed, Bool.and_eq_true, decide_eq_true_iff, decide_eq_true_iff]
    exact ⟨fun ⟨hlow, hhigh⟩ => ⟨hlow, hhigh, fun _ => hclosed⟩,
      fun ⟨hlow, hhigh, _⟩ => ⟨hlow, hhigh⟩⟩
  · rw [if_neg hclosed, Bool.and_eq_true, decide_eq_true_iff, decide_eq_true_iff]
    refine ⟨fun ⟨hlow, hhigh⟩ => ⟨hlow.le, hhigh.le, ?_⟩, fun ⟨hlow, hhigh, hends⟩ => ?_⟩
    · omega
    · have hinside := mt hends hclosed
      omega

/-- An interval of a magnitude, in units of which there are `u` to a half step. -/
structure Spans (r : Interval) (i u : ℕ) : Prop where
  unit_pos : 0 < u
  low : r.low = (steps (i - 1) + steps i) * u
  high : r.high = (steps i + steps (i + 1)) * u
  closed : r.closed = true ↔ Even i

/-- **The interval of a magnitude** holds what rounds to it. -/
theorem Spans.contains_iff {r : Interval} {i u n : ℕ} {v : ℚ} (h : Spans r i u)
    (hv : (n / u : ℚ) = 2 * v) : r.contains n = true ↔ Rounds v i := by
  rw [contains_eq_true_iff, h.low, h.high, h.closed, mul_le_iff h.unit_pos,
    le_mul_iff h.unit_pos, eq_mul_iff h.unit_pos, eq_mul_iff h.unit_pos, hv, Nat.cast_add,
    Nat.cast_add]
  exact ⟨fun ⟨hlow, hhigh, heven⟩ => ⟨hlow, hhigh, heven⟩, fun h => ⟨h.low, h.high, h.even⟩⟩

/-- The units of a magnitude's interval. The exponent goes by a name, so that
the power is never computed. -/
theorem spans_ofMagnitude (i : ℕ) : ∃ m, m = 1075 ∧ Spans (ofMagnitude i) i (Nat.pow 5 m) := by
  obtain ⟨m, hm⟩ : ∃ m, m = 1075 := ⟨_, rfl⟩
  refine ⟨m, hm, pow_five_pos m, ?_, ?_, ?_⟩
  · rw [ofMagnitude, ← hm]
  · rw [ofMagnitude, ← hm]
  · rw [Nat.even_iff]
    exact beq_iff_eq

/-- Units of a power of ten, as many to a half step as there are fives in it. -/
theorem div_unit (coefficient places : ℕ) {k m : ℕ} (hm : m = k + 1) :
    ((coefficient * 10 ^ places : ℕ) / (Nat.pow 5 m : ℕ) : ℚ)
      = 2 * (coefficient * 10 ^ ((places : ℤ) - m) * 2 ^ k) := by
  have hten : (10 : ℚ) ^ m = 2 * 2 ^ k * 5 ^ m := by
    rw [hm, ← pow_succ', ← mul_pow]
    norm_num
  rw [zpow_sub₀ (by norm_num), zpow_natCast, zpow_natCast, hten, Nat.pow_eq, Nat.cast_mul,
    Nat.cast_pow, Nat.cast_pow, Nat.cast_ofNat, Nat.cast_ofNat]
  field_simp

/-- A point of an interval, as a coefficient times a power of ten. -/
theorem contains_iff (i coefficient places : ℕ) :
    (ofMagnitude i).contains (coefficient * 10 ^ places) = true ↔
      Rounds (coefficient * 10 ^ ((places : ℤ) - 1075) * 2 ^ 1074) i := by
  obtain ⟨m, hm, hspans⟩ := spans_ofMagnitude i
  have hunit := div_unit coefficient places hm
  have hcast : (m : ℤ) = 1075 := mod_cast hm
  rw [hcast] at hunit
  exact hspans.contains_iff hunit

/-! ## The search -/

theorem contains_value (i : ℕ) : (ofMagnitude i).contains (ofMagnitude i).value = true := by
  obtain ⟨m, hm, hspans⟩ := spans_ofMagnitude i
  have hvalue : (ofMagnitude i).value = 2 * steps i * Nat.pow 5 m := by rw [ofMagnitude, ← hm]
  refine (hspans.contains_iff ?_).mpr (Grid.rounds_steps i)
  rw [(eq_mul_iff hspans.unit_pos).mp hvalue, Nat.cast_mul, Nat.cast_ofNat]

/-- A multiple that is found lies in the interval. -/
theorem contains_of_multiple? {r : Interval} {unit n : ℕ} (h : r.multiple? unit = some n) :
    r.contains (n * unit) = true := by
  unfold multiple? at h
  simp only at h
  split at h
  · next hbelow habove =>
    rw [← Option.some.inj h]
    split
    · exact hbelow
    · exact habove
  · next hbelow _ =>
    rw [← Option.some.inj h]
    exact hbelow
  · next habove =>
    rw [← Option.some.inj h]
    exact habove
  · exact absurd h (by simp)

/-- **The search stays in the interval.** -/
theorem contains_coarsest {r : Interval} (hvalue : r.contains r.value = true) (places : ℕ) :
    r.contains ((r.coarsest places).1 * 10 ^ (r.coarsest places).2) = true := by
  induction places with
  | zero =>
    rw [coarsest, pow_zero, mul_one]
    exact hvalue
  | succ places ih =>
    unfold coarsest
    split
    · next hmultiple => exact contains_of_multiple? hmultiple
    · exact ih

end Interval

theorem shortest_eq (i : ℕ) :
    shortest i = match (Interval.ofMagnitude i).coarsest (Interval.ofMagnitude i).ceiling with
      | (coefficient, places) => { coefficient, exponent := (places : ℤ) - 1075 } := by
  -- compared as functions: at one magnitude the kernel would run the search
  have hfunction : shortest = fun i =>
      match (Interval.ofMagnitude i).coarsest (Interval.ofMagnitude i).ceiling with
      | (coefficient, places) => { coefficient, exponent := (places : ℤ) - 1075 } := rfl
  exact congrFun hfunction i

/-- **The shortest decimal** of a magnitude rounds to it. -/
theorem rounds_shortest (i : ℕ) :
    Rounds ((shortest i).coefficient * 10 ^ (shortest i).exponent * 2 ^ 1074) i := by
  have hcontains := Interval.contains_coarsest (Interval.contains_value i)
    (Interval.ofMagnitude i).ceiling
  rw [shortest_eq]
  generalize (Interval.ofMagnitude i).coarsest (Interval.ofMagnitude i).ceiling = found
    at hcontains ⊢
  obtain ⟨coefficient, places⟩ := found
  exact (Interval.contains_iff i coefficient places).mp hcontains

end StackCalculator.Number
