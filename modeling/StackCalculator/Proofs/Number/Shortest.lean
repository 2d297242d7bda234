/-
No shorter decimal rounds to the double.

The search goes down the powers of ten. Where it finds no multiple of a power
next to the value there is none in the whole interval, since an interval that
held one further away would hold the one next to the value as well; and it
starts from a power above everything in the interval. So no multiple of a power
coarser than the one it stops at rounds to the magnitude
(`not_rounds_of_exponent_lt`).

The rest follows from that alone. The coefficient does not end in zero, or it
would be a multiple of the next power. And a decimal of fewer digits would lie
at a finer power and so below `10 ^ k`, counted at the power of the search, with
the decimal that was found not below it; but `10 ^ k` itself is then in between
and rounds to the magnitude, and is a multiple of the next power.
-/
import StackCalculator.Proofs.Number.Interval
import Mathlib

set_option autoImplicit false

namespace StackCalculator.Number

open Grid (Rounds steps)

/-! ## The search misses nothing -/

namespace Interval

variable {r : Interval}

/-- What lies between two points of an interval belongs to it. -/
theorem contains_between {a b c : ℕ} (ha : r.contains a = true) (hc : r.contains c = true)
    (hab : a ≤ b) (hbc : b ≤ c) : r.contains b = true := by
  rw [contains_eq_true_iff] at ha hc ⊢
  obtain ⟨hlow, -, hlowend⟩ := ha
  obtain ⟨-, hhigh, hhighend⟩ := hc
  refine ⟨hlow.trans hab, hbc.trans hhigh, ?_⟩
  -- an end in between is one of the two points
  rintro (hend | hend)
  · exact hlowend (.inl (by omega))
  · exact hhighend (.inr (by omega))

/-- **Where no multiple is next to the value** there is none at all. -/
theorem not_contains_of_multiple? {unit : ℕ} (hunit : 0 < unit)
    (hvalue : r.contains r.value = true) (h : r.multiple? unit = none) (n : ℕ) :
    ¬ r.contains (n * unit) = true := by
  have hnone : r.contains (r.value / unit * unit) = false ∧
      r.contains ((r.value / unit + 1) * unit) = false := by
    unfold multiple? at h
    simp only at h
    split at h
    · exact absurd h (by simp)
    · exact absurd h (by simp)
    · exact absurd h (by simp)
    · next hbelow habove => exact ⟨hbelow, habove⟩
  intro hn
  rcases Nat.lt_or_ge (r.value / unit) n with hlt | hle
  · have hnext : r.value ≤ (r.value / unit + 1) * unit := by
      rw [Nat.succ_mul]
      exact (Nat.lt_div_mul_add hunit).le
    have habove := contains_between hvalue hn hnext (Nat.mul_le_mul_right unit hlt)
    rw [hnone.2] at habove
    exact absurd habove (by simp)
  · have hbelow := contains_between hn hvalue (Nat.mul_le_mul_right unit hle)
      (Nat.div_mul_le_self r.value unit)
    rw [hnone.1] at hbelow
    exact absurd hbelow (by simp)

/-- Between the power that the search starts from and the one it stops at there
is no multiple. -/
theorem not_contains_of_coarsest_lt (hvalue : r.contains r.value = true) {start places : ℕ}
    (hstop : (r.coarsest start).2 < places) (hstart : places ≤ start) (n : ℕ) :
    ¬ r.contains (n * 10 ^ places) = true := by
  induction start with
  | zero => omega
  | succ start ih =>
    unfold coarsest at hstop
    split at hstop
    · simp only at hstop
      omega
    · next hnone =>
      by_cases hplaces : places = start + 1
      · rw [hplaces]
        exact not_contains_of_multiple? (Nat.pow_pos (by decide)) hvalue hnone n
      · exact ih hstop (by omega)

/-- **The search starts above the interval.** -/
theorem high_lt_ceiling (r : Interval) : r.high < 10 ^ r.ceiling := by
  have hblocks : r.high.log2 + 1 ≤ 23 * (r.high.log2 / 23 + 1) := by omega
  calc r.high < 2 ^ (r.high.log2 + 1) := Nat.lt_log2_self
    _ ≤ 2 ^ (23 * (r.high.log2 / 23 + 1)) := Nat.pow_le_pow_right (by decide) hblocks
    _ = (2 ^ 23) ^ (r.high.log2 / 23 + 1) := pow_mul 2 23 _
    _ ≤ (10 ^ 7) ^ (r.high.log2 / 23 + 1) := Nat.pow_le_pow_left (by decide) _
    _ = 10 ^ r.ceiling := (pow_mul 10 7 _).symm

/-- Only the interval of zero reaches down to zero. -/
theorem low_pos {i : ℕ} (hi : 0 < i) : 0 < (ofMagnitude i).low := by
  have hsteps : steps 0 < steps i := Grid.steps_strictMono hi
  rw [Grid.steps_zero] at hsteps
  obtain ⟨m, -, hspans⟩ := spans_ofMagnitude i
  rw [hspans.low]
  exact Nat.mul_pos (by omega) hspans.unit_pos

/-- **No multiple of a coarser power** lies in the interval. -/
theorem not_contains_of_coarser {i : ℕ} (hi : 0 < i) {places : ℕ}
    (h : ((ofMagnitude i).coarsest (ofMagnitude i).ceiling).2 < places) (n : ℕ) :
    ¬ (ofMagnitude i).contains (n * 10 ^ places) = true := by
  rcases Nat.lt_or_ge (ofMagnitude i).ceiling places with hlt | hle
  · -- there the only multiple that is not too large is zero, and that is too small
    intro hcontains
    obtain ⟨hlow, hhigh, -⟩ := (contains_eq_true_iff _ _).mp hcontains
    have hpos := low_pos hi
    have hone : 1 ≤ n := Nat.pos_of_ne_zero fun hzero => by
      rw [hzero, Nat.zero_mul] at hlow
      omega
    have hceiling := high_lt_ceiling (ofMagnitude i)
    have hpower : 10 ^ (ofMagnitude i).ceiling ≤ 10 ^ places :=
      Nat.pow_le_pow_right (by decide) hlt.le
    have hmultiple : 10 ^ places ≤ n * 10 ^ places := Nat.le_mul_of_pos_left _ hone
    omega
  · exact not_contains_of_coarsest_lt (contains_value i) h hle n

end Interval

/-! ## The decimal that is found -/

section Shortest

variable {i : ℕ}

/-- **Nothing coarser rounds to the magnitude.** -/
theorem not_rounds_of_exponent_lt (hi : 0 < i) {e : ℤ} (h : (shortest i).exponent < e) (n : ℕ) :
    ¬ Rounds (n * 10 ^ e * 2 ^ 1074) i := by
  have hcoarser (places : ℕ) (h : _ < places) := Interval.not_contains_of_coarser hi h
  rw [shortest_eq] at h
  generalize (Interval.ofMagnitude i).coarsest (Interval.ofMagnitude i).ceiling = found
    at h hcoarser
  obtain ⟨coefficient, places⟩ := found
  simp only at h hcoarser
  intro hrounds
  have he : e = ((e + 1075).toNat : ℤ) - 1075 := by omega
  rw [he, ← Interval.contains_iff] at hrounds
  exact hcoarser _ (by omega) n hrounds

/-- The coefficient does not end in a zero. -/
theorem not_dvd_shortest (hi : 0 < i) : ¬ 10 ∣ (shortest i).coefficient := by
  rintro ⟨n, hn⟩
  have hrounds := rounds_shortest i
  have hnext : ((shortest i).coefficient * 10 ^ (shortest i).exponent : ℚ)
      = n * 10 ^ ((shortest i).exponent + 1) := by
    rw [hn, zpow_add_one₀ (by norm_num), Nat.cast_mul, Nat.cast_ofNat]
    ring
  rw [hnext] at hrounds
  exact not_rounds_of_exponent_lt hi (lt_add_one _) n hrounds

/-- Zero rounds to no other magnitude. -/
theorem ne_zero_of_rounds (hi : 0 < i) {c : ℕ} {e : ℤ} (h : Rounds (c * 10 ^ e * 2 ^ 1074) i) :
    c ≠ 0 := by
  rintro rfl
  refine not_rounds_of_exponent_lt hi (lt_add_one _) 0 ?_
  rwa [Nat.cast_zero, zero_mul, zero_mul] at h ⊢

/-- **No decimal with fewer digits** rounds to the magnitude. -/
theorem shortest_lt_pow (hi : 0 < i) {c k : ℕ} {e : ℤ} (hrounds : Rounds (c * 10 ^ e * 2 ^ 1074) i)
    (hc : c < 10 ^ k) : (shortest i).coefficient < 10 ^ k := by
  by_contra hle
  have hfiner : e ≤ (shortest i).exponent := by
    by_contra hcoarser
    exact not_rounds_of_exponent_lt hi (not_le.mp hcoarser) c hrounds
  have hpos : 0 < k := by
    refine Nat.pos_of_ne_zero fun hk => ne_zero_of_rounds hi hrounds ?_
    rwa [hk, pow_zero, Nat.lt_one_iff] at hc
  have hcoefficient : ((10 ^ k : ℕ) : ℚ) ≤ (shortest i).coefficient :=
    Nat.cast_le.mpr (not_lt.mp hle)
  have hscale : (10 : ℚ) ^ e ≤ 10 ^ (shortest i).exponent :=
    zpow_le_zpow_right₀ (by norm_num) hfiner
  -- the power of ten is between the decimal and the one that was found
  have hbetween : Rounds ((10 ^ k : ℕ) * 10 ^ (shortest i).exponent * 2 ^ 1074) i := by
    refine hrounds.between (rounds_shortest i) ?_ ?_
    · have hbelow : (c : ℚ) ≤ (10 ^ k : ℕ) := Nat.cast_le.mpr hc.le
      gcongr
    · gcongr
  have hnext : ((10 ^ k : ℕ) * 10 ^ (shortest i).exponent : ℚ)
      = (10 ^ (k - 1) : ℕ) * 10 ^ ((shortest i).exponent + 1) := by
    obtain ⟨l, rfl⟩ := Nat.exists_eq_add_one.mpr hpos
    rw [Nat.add_sub_cancel, zpow_add_one₀ (by norm_num), pow_succ, Nat.cast_mul, Nat.cast_ofNat]
    ring
  rw [hnext] at hbetween
  exact not_rounds_of_exponent_lt hi (lt_add_one _) (10 ^ (k - 1)) hbetween

end Shortest

end StackCalculator.Number
