/-
Finite results are written in one plain form, and with no more digits than they
need.

A result is a minus where it is below zero, a whole part without a leading zero
but a lone one, and a point only where digits follow that do not end in zero. The
coefficient of the shortest decimal neither starts with a zero nor ends in one,
so what zeros the layout adds on either side of it are where this form allows
them (`Decimal.exists_written`).

They are also the zeros that are not counted as significant. So a result has as
many significant digits as its coefficient, and any numeral that reads as the
same double is a decimal with no more digits than it has significant ones, so
that it has at least as many.
-/
import StackCalculator.Proofs.Number.Printing
import StackCalculator.Proofs.Number.Shortest

set_option autoImplicit false

namespace StackCalculator.Number

/-! ## Significant digits -/

namespace Numeral

/-- Whether a digit is a zero. -/
def isZero (c : Char) : Bool := c == '0'

/-- **The significant digits** of a numeral: those from the first that is no zero
on, and of a numeral without a fraction only those up to the last. -/
def significant (n : Numeral) : List Char :=
  let digits := (n.whole ++ n.fraction).dropWhile isZero
  if n.fraction = [] then digits.rdropWhile isZero else digits

/-! ## Zeros at either end -/

section Zeros

variable {cs : List Char}

theorem dropWhile_of_head? (h : cs.head? ≠ some '0') : cs.dropWhile isZero = cs := by
  cases cs with
  | nil => rfl
  | cons c rest =>
    have hc : c ≠ '0' := fun hc => h (congrArg some hc)
    exact List.dropWhile_cons_of_neg (by simpa [isZero] using hc)

theorem dropWhile_zeros_append (zeros : ℕ) (h : cs.head? ≠ some '0') :
    (List.replicate zeros '0' ++ cs).dropWhile isZero = cs := by
  have hzeros : ∀ c ∈ List.replicate zeros '0', isZero c = true := by
    intro c hc
    rw [List.eq_of_mem_replicate hc]
    rfl
  rw [List.dropWhile_append_of_pos hzeros, dropWhile_of_head? h]

theorem rdropWhile_append_zeros (zeros : ℕ) (h : cs.getLast? ≠ some '0') :
    (cs ++ List.replicate zeros '0').rdropWhile isZero = cs := by
  rw [List.rdropWhile, List.reverse_append, List.reverse_replicate, dropWhile_zeros_append,
    List.reverse_reverse]
  rwa [List.head?_reverse]

end Zeros

/-! ## The value of the significant digits -/

section Value

variable {cs : List Char}

theorem digits_dropWhile (h : Digits cs) : Digits (cs.dropWhile isZero) :=
  fun c hc => h c ((List.dropWhile_suffix isZero).subset hc)

theorem digits_rdropWhile (h : Digits cs) : Digits (cs.rdropWhile isZero) :=
  fun c hc => h c ((List.rdropWhile_prefix isZero cs).subset hc)

/-- Leading zeros do not count. -/
theorem ofDigitChars_dropWhile (cs : List Char) :
    Nat.ofDigitChars 10 (cs.dropWhile isZero) 0 = Nat.ofDigitChars 10 cs 0 := by
  induction cs with
  | nil => rfl
  | cons c rest ih =>
    by_cases hzero : c = '0'
    · rw [hzero, List.dropWhile_cons_of_pos rfl, ih, Nat.ofDigitChars_cons]
      rfl
    · rw [List.dropWhile_cons_of_neg (by simpa [isZero] using hzero)]

/-- Trailing zeros are as many tens. -/
theorem exists_ofDigitChars_rdropWhile (cs : List Char) :
    ∃ zeros, Nat.ofDigitChars 10 cs 0
      = Nat.ofDigitChars 10 (cs.rdropWhile isZero) 0 * 10 ^ zeros := by
  induction cs using List.reverseRecOn with
  | nil => exact ⟨0, rfl⟩
  | append_singleton cs c ih =>
    by_cases hzero : c = '0'
    · obtain ⟨zeros, hcs⟩ := ih
      refine ⟨zeros + 1, ?_⟩
      have hlast : Nat.ofDigitChars 10 ['0'] 0 = 0 := rfl
      rw [hzero, List.rdropWhile_concat_pos _ _ _ rfl, ofDigitChars_append_zero, hcs, hlast,
        List.length_singleton, pow_succ]
      ring
    · refine ⟨0, ?_⟩
      rw [List.rdropWhile_concat_neg _ _ _ (by simpa [isZero] using hzero), pow_zero, mul_one]

/-- A number of so many digits is below that power of ten. -/
theorem ofDigitChars_lt (h : Digits cs) : Nat.ofDigitChars 10 cs 0 < 10 ^ cs.length := by
  induction cs with
  | nil => decide
  | cons c rest ih =>
    have hrest := ih fun d hd => h d (List.mem_cons_of_mem c hd)
    have hdigit := h c List.mem_cons_self
    have hfirst : Nat.ofDigitChars 10 [c] 0 ≤ 9 := by
      rw [Nat.ofDigitChars_cons, Nat.ofDigitChars_nil]
      simp only [Char.isDigit, Bool.and_eq_true, decide_eq_true_eq,
        UInt32.le_iff_toNat_le] at hdigit
      have hzero : '0'.toNat = 48 := rfl
      have hnine : '9'.val.toNat = 57 := rfl
      have hc : c.toNat = c.val.toNat := rfl
      omega
    rw [← List.singleton_append, ofDigitChars_append_zero, List.length_append,
      List.length_singleton, pow_add, pow_one]
    nlinarith

end Value

/-- **The significant digits give the value**, at some scale. -/
theorem exists_size_significant (n : Numeral) :
    ∃ e : ℤ, n.size = Nat.ofDigitChars 10 n.significant 0 * 10 ^ e := by
  obtain ⟨zeros, hzeros⟩ :=
    exists_ofDigitChars_rdropWhile ((n.whole ++ n.fraction).dropWhile isZero)
  rw [ofDigitChars_dropWhile] at hzeros
  rw [size_eq_mul, coefficient]
  unfold significant
  simp only
  split
  · refine ⟨zeros + n.scale, ?_⟩
    rw [hzeros, zpow_add₀ (by norm_num), zpow_natCast, Nat.cast_mul, Nat.cast_pow, Nat.cast_ofNat]
    ring
  · exact ⟨n.scale, by rw [ofDigitChars_dropWhile]⟩

theorem digits_significant {n : Numeral} (h : Digits (n.whole ++ n.fraction)) :
    Digits n.significant := by
  unfold significant
  simp only
  split
  · exact digits_rdropWhile (digits_dropWhile h)
  · exact digits_dropWhile h

theorem Spells.digits {text : List Char} {n : Numeral} (h : Spells text n) :
    Digits (n.whole ++ n.fraction) := by
  obtain ⟨-, hmantissa, -⟩ := h
  generalize n.whole = whole at hmantissa ⊢
  generalize n.fraction = fraction at hmantissa ⊢
  cases hmantissa with
  | whole hne hwhole => exact hwhole.append nofun
  | pointed hne hwhole hfraction => exact hwhole.append hfraction
  | bare hne hfraction => exact hfraction

end Numeral

/-! ## The digits of a coefficient -/

section Coefficient

variable {n : ℕ}

theorem pos_of_not_dvd (h : ¬ 10 ∣ n) : 0 < n :=
  Nat.pos_of_ne_zero fun hzero => h (hzero ▸ Nat.dvd_zero 10)

theorem head?_toDigits_ne (h : 0 < n) : (Nat.toDigits 10 n).head? ≠ some '0' := by
  intro hhead
  obtain ⟨rest, hrest⟩ := List.head?_eq_some_iff.mp hhead
  have hdigits : Numeral.Digits rest := fun c hc =>
    Numeral.digits_toDigits n c (hrest ▸ List.mem_cons_of_mem _ hc)
  -- without the zero the digits give the same number, and are too few for it
  have hvalue : Nat.ofDigitChars 10 rest 0 = n := by
    rw [← Nat.ofDigitChars_ten_toDigits (n := n), hrest, Nat.ofDigitChars_cons]
    rfl
  have hlt := Numeral.ofDigitChars_lt hdigits
  rw [hvalue] at hlt
  have hpos : 0 < rest.length := by
    refine Nat.pos_of_ne_zero fun hzero => ?_
    rw [hzero, pow_zero] at hlt
    omega
  have hlength := (Nat.length_toDigits_le_iff (by decide) hpos).mpr hlt
  rw [hrest, List.length_cons] at hlength
  omega

theorem getLast?_toDigits_ne (h : ¬ 10 ∣ n) : (Nat.toDigits 10 n).getLast? ≠ some '0' := by
  intro hlast
  obtain ⟨front, hfront⟩ := List.getLast?_eq_some_iff.mp hlast
  refine h ⟨Nat.ofDigitChars 10 front 0, ?_⟩
  have hvalue : Nat.ofDigitChars 10 (Nat.toDigits 10 n) 0 = n := Nat.ofDigitChars_ten_toDigits
  have hzero : Nat.ofDigitChars 10 ['0'] 0 = 0 := rfl
  rw [hfront, Numeral.ofDigitChars_append_zero, hzero] at hvalue
  rw [← hvalue, List.length_singleton, pow_one, Nat.add_zero]

end Coefficient

/-! ## The plain form -/

open Numeral (Digits MantissaText)

/-- **The plain form** of a decimal without sign: a whole part that has no leading
zero but a lone one, and a fraction, if any, that does not end in zero. -/
structure Canonical (text whole fraction : List Char) : Prop where
  text_eq : text = whole ++ if fraction = [] then [] else '.' :: fraction
  whole_ne : whole ≠ []
  whole_digits : Digits whole
  whole_head : whole.head? = some '0' → whole = ['0']
  fraction_digits : Digits fraction
  fraction_last : fraction.getLast? ≠ some '0'

theorem Canonical.mantissa {text whole fraction : List Char} (h : Canonical text whole fraction) :
    MantissaText text whole fraction := by
  rw [h.text_eq]
  split
  · next hempty =>
    rw [hempty, List.append_nil]
    exact .whole h.whole_ne h.whole_digits
  · exact .pointed h.whole_ne h.whole_digits h.fraction_digits

/-- With or without a minus it is a numeral. -/
theorem Canonical.spells {text whole fraction : List Char} (h : Canonical text whole fraction)
    (negative : Bool) :
    Numeral.Spells ((if negative then ['-'] else []) ++ text) ⟨negative, whole, fraction, 0⟩ := by
  have hspells {sign : List Char} (hsign : Numeral.SignText sign negative) :
      Numeral.Spells (sign ++ (text ++ [])) ⟨negative, whole, fraction, 0⟩ :=
    .intro hsign h.mantissa .absent
  rw [List.append_nil] at hspells
  cases negative with
  | false => exact hspells .absent
  | true => exact hspells .minus

namespace Decimal

/-- **What a decimal is written as**: the plain form, with the digits of its
coefficient for the significant ones. -/
structure Written (d : Decimal) (whole fraction : List Char) : Prop where
  canonical : Canonical d.plain whole fraction
  significant (negative : Bool) (exponent : ℤ) :
    Numeral.significant ⟨negative, whole, fraction, exponent⟩ = Nat.toDigits 10 d.coefficient

section Layouts

variable {n : ℕ} {below : ℕ} (hdvd : ¬ 10 ∣ n)

include hdvd

theorem written_zeros_behind (zeros : ℕ) :
    Written ⟨n, .ofNat zeros⟩ (Nat.toDigits 10 n ++ List.replicate zeros '0') [] := by
  have hhead := head?_toDigits_ne (pos_of_not_dvd hdvd)
  have hwhole : (Nat.toDigits 10 n ++ List.replicate zeros '0').head?
      = (Nat.toDigits 10 n).head? := List.head?_append_of_ne_nil _ Nat.toDigits_ne_nil
  refine ⟨⟨(List.append_nil _).symm, List.append_ne_nil_of_left_ne_nil Nat.toDigits_ne_nil _,
    (Numeral.digits_toDigits n).append (Numeral.digits_replicate_zero zeros),
    fun hzero => absurd (hwhole.symm.trans hzero) hhead, nofun, nofun⟩, fun _ _ => ?_⟩
  rw [Numeral.significant, List.append_nil, if_pos rfl,
    Numeral.dropWhile_of_head? (by rwa [hwhole])]
  exact Numeral.rdropWhile_append_zeros zeros (getLast?_toDigits_ne hdvd)

theorem written_zeros_before (h : (Nat.toDigits 10 n).length ≤ below + 1) :
    Written ⟨n, .negSucc below⟩ ['0']
      (List.replicate (below + 1 - (Nat.toDigits 10 n).length) '0' ++ Nat.toDigits 10 n) := by
  have hhead := head?_toDigits_ne (pos_of_not_dvd hdvd)
  have hne : List.replicate (below + 1 - (Nat.toDigits 10 n).length) '0' ++ Nat.toDigits 10 n
      ≠ [] := List.append_ne_nil_of_right_ne_nil _ Nat.toDigits_ne_nil
  refine ⟨⟨?_, List.cons_ne_nil _ _, Numeral.digits_replicate_zero 1, fun _ => rfl,
    (Numeral.digits_replicate_zero _).append (Numeral.digits_toDigits n), ?_⟩, fun _ _ => ?_⟩
  · simp only [plain]
    rw [if_pos h, if_neg hne]
    rfl
  · rw [List.getLast?_append_of_ne_nil _ Nat.toDigits_ne_nil]
    exact getLast?_toDigits_ne hdvd
  · -- the whole part is one more of the zeros before the digits
    rw [Numeral.significant, if_neg hne, List.singleton_append, ← List.cons_append,
      ← List.replicate_succ]
    exact Numeral.dropWhile_zeros_append _ hhead

theorem written_point_inside (h : ¬ (Nat.toDigits 10 n).length ≤ below + 1) :
    Written ⟨n, .negSucc below⟩
      ((Nat.toDigits 10 n).take ((Nat.toDigits 10 n).length - (below + 1)))
      ((Nat.toDigits 10 n).drop ((Nat.toDigits 10 n).length - (below + 1))) := by
  have hhead := head?_toDigits_ne (pos_of_not_dvd hdvd)
  have hdigits := Numeral.digits_toDigits n
  have htext : plain ⟨n, .negSucc below⟩
      = (Nat.toDigits 10 n).take ((Nat.toDigits 10 n).length - (below + 1)) ++
        '.' :: (Nat.toDigits 10 n).drop ((Nat.toDigits 10 n).length - (below + 1)) := by
    simp only [plain]
    rw [if_neg h]
  have hpos : (Nat.toDigits 10 n).length - (below + 1) ≠ 0 := by omega
  have hlt : ¬ (Nat.toDigits 10 n).length ≤ (Nat.toDigits 10 n).length - (below + 1) := by omega
  -- both parts have a digit, so the first and the last of all are theirs
  generalize (Nat.toDigits 10 n).length - (below + 1) = k at hpos hlt htext ⊢
  have hne : (Nat.toDigits 10 n).drop k ≠ [] := fun hempty => hlt (List.drop_eq_nil_iff.mp hempty)
  have hwhole : ((Nat.toDigits 10 n).take k).head? = (Nat.toDigits 10 n).head? := by
    rw [List.head?_take, if_neg hpos]
  refine ⟨⟨?_, ?_, fun c hc => hdigits c (List.mem_of_mem_take hc),
    fun hzero => absurd (hwhole.symm.trans hzero) hhead,
    fun c hc => hdigits c (List.mem_of_mem_drop hc), ?_⟩, fun _ _ => ?_⟩
  · rw [htext, if_neg hne]
  · rw [Ne, List.take_eq_nil_iff]
    exact not_or.mpr ⟨hpos, Nat.toDigits_ne_nil⟩
  · rw [List.getLast?_drop, if_neg hlt]
    exact getLast?_toDigits_ne hdvd
  · rw [Numeral.significant, if_neg hne, List.take_append_drop]
    exact Numeral.dropWhile_of_head? hhead

end Layouts

/-- **A decimal whose coefficient does not end in zero** is written in the plain form. -/
theorem exists_written {d : Decimal} (hdvd : ¬ 10 ∣ d.coefficient) :
    ∃ whole fraction, Written d whole fraction := by
  obtain ⟨n, zeros | below⟩ := d
  · exact ⟨_, _, written_zeros_behind hdvd zeros⟩
  · by_cases h : (Nat.toDigits 10 n).length ≤ below + 1
    · exact ⟨_, _, written_zeros_before hdvd h⟩
    · exact ⟨_, _, written_point_inside hdvd h⟩

end Decimal

/-! ## Results -/

/-- How many digits of a numeral are significant, and none of what is no numeral. -/
def significantDigits (text : String) : ℕ :=
  match Numeral.read? text.toList with
  | some n => n.significant.length
  | none => 0

-- zeros before the first other digit never count, zeros at the end only in a fraction
example : significantDigits "-1200" = 2 := by decide
example : significantDigits "0.0120" = 3 := by decide

theorem significantDigits_of_spells {text : String} {n : Numeral}
    (h : Numeral.Spells text.toList n) : significantDigits text = n.significant.length := by
  rw [significantDigits, Numeral.read?_eq_some_iff.mpr h]

theorem magnitude_ne_zero {x : Float} (hfinite : isFinite x = true) (hzero : (x == 0.0) = false) :
    magnitude x ≠ 0 := by
  intro hmagnitude
  have hx := ofMagnitude_magnitude hfinite
  rw [hmagnitude] at hx
  rw [← hx] at hzero
  cases hsign : isNegative x with
  | false =>
    rw [hsign] at hzero
    exact absurd hzero (by decide +kernel)
  | true =>
    rw [hsign] at hzero
    exact absurd hzero (by decide +kernel)

theorem resultText_eq {x : Float} (hfinite : isFinite x = true) (hzero : magnitude x ≠ 0) :
    resultText x = if isNegative x then "-" ++ resultSpelling.unsigned (magnitude x)
      else resultSpelling.unsigned (magnitude x) := by
  have hi : magnitude x < Grid.infinity := of_decide_eq_true hfinite
  rw [resultText, Spelling.write]
  simp only [resultSpelling_sign hzero]
  exact if_neg (Nat.lt_asymm hi)

theorem toList_sign_append (negative : Bool) (text : List Char) :
    (if negative then "-" ++ String.ofList text else String.ofList text).toList
      = (if negative then ['-'] else []) ++ text := by
  have hlist : (String.ofList text).toList = text := String.toList_ofList
  cases negative with
  | false => exact hlist
  | true =>
    rw [if_pos rfl, if_pos rfl, String.toList_append, hlist]
    rfl

/-- A result is a decimal with a sign. -/
theorem toList_resultText {x : Float} (hfinite : isFinite x = true) (hzero : magnitude x ≠ 0) :
    (resultText x).toList
      = (if isNegative x then ['-'] else []) ++ (shortest (magnitude x)).plain := by
  have hi : magnitude x < Grid.infinity := of_decide_eq_true hfinite
  rw [resultText_eq hfinite hzero, resultSpelling.unsigned_eq hzero hi]
  exact toList_sign_append _ _

/-- **A numeral that reads as the same double** has no fewer significant digits. -/
theorem length_toDigits_le {x : Float} (hpos : 0 < magnitude x) {text : String}
    (h : read? text = some x) :
    (Nat.toDigits 10 (shortest (magnitude x)).coefficient).length ≤ significantDigits text := by
  obtain ⟨n, hspells, hrounds, hsign⟩ := (read?_eq_some_iff text x).mp h
  rw [Numeral.value, ← hsign, roundsTo_signed_iff n.size_nonneg] at hrounds
  obtain ⟨-, -, hrounds⟩ := hrounds
  obtain ⟨e, hsize⟩ := n.exists_size_significant
  rw [hsize] at hrounds
  have hlt := shortest_lt_pow hpos hrounds
    (Numeral.ofDigitChars_lt (Numeral.digits_significant hspells.digits))
  have hcoefficient := pos_of_not_dvd (not_dvd_shortest hpos)
  -- a numeral without significant digits is a zero
  have hlength : 0 < n.significant.length := by
    refine Nat.pos_of_ne_zero fun hzero => ?_
    rw [hzero, pow_zero] at hlt
    omega
  rw [significantDigits_of_spells hspells]
  exact (Nat.length_toDigits_le_iff (by decide) hlength).mpr hlt

/-- **Finite results are canonical.** A finite number other than zero is written as
a decimal without exponent, after a minus exactly when it is below zero: the whole
part has no leading zero unless it is `0`, and the fraction, where there is one,
does not end in zero. The text reads back as the number, and nothing that does
has fewer significant digits. -/
theorem resultText_canonical {x : Float} (hfinite : isFinite x = true)
    (hzero : (x == 0.0) = false) :
    (∃ text whole fraction, Canonical text whole fraction ∧
        (resultText x).toList = (if x < 0.0 then ['-'] else []) ++ text) ∧
      read? (resultText x) = some x ∧
      ∀ text, read? text = some x → significantDigits (resultText x) ≤ significantDigits text := by
  have hmagnitude := magnitude_ne_zero hfinite hzero
  have hpos := Nat.pos_of_ne_zero hmagnitude
  obtain ⟨whole, fraction, hwritten⟩ := Decimal.exists_written (not_dvd_shortest hpos)
  have htext := toList_resultText hfinite hmagnitude
  refine ⟨⟨_, whole, fraction, hwritten.canonical, ?_⟩, ?_, fun text h => ?_⟩
  · rw [htext]
    simp only [lt_zero_iff hfinite hzero]
  · have hne : x ≠ -0.0 := by
      rintro rfl
      exact absurd hzero (by decide +kernel)
    rw [read?_resultText hfinite, if_neg hne]
  · have hspells := hwritten.canonical.spells (isNegative x)
    rw [← htext] at hspells
    rw [significantDigits_of_spells hspells, hwritten.significant]
    exact length_toDigits_le hpos h

/-- The sum of `0.1` and `0.2` is not written `0.3`, which reads as another double:
it takes all of 17 digits. -/
theorem resultText_canonical_sum :
    isFinite (0.1 + 0.2) = true ∧ ((0.1 + 0.2 : Float) == 0.0) = false ∧
      resultText (0.1 + 0.2) = "0.30000000000000004" ∧
      read? "0.30000000000000004" = some (0.1 + 0.2) ∧
      ∀ text, read? text = some (0.1 + 0.2) → 17 ≤ significantDigits text := by
  have hfinite : isFinite (0.1 + 0.2) = true := by decide +kernel
  have hzero : ((0.1 + 0.2 : Float) == 0.0) = false := by decide +kernel
  have htext : resultText (0.1 + 0.2) = "0.30000000000000004" := by decide +kernel
  have hdigits : significantDigits "0.30000000000000004" = 17 := by decide +kernel
  obtain ⟨-, hread, hshortest⟩ := resultText_canonical hfinite hzero
  rw [htext] at hread
  rw [htext, hdigits] at hshortest
  exact ⟨hfinite, hzero, htext, hread, hshortest⟩

end StackCalculator.Number
