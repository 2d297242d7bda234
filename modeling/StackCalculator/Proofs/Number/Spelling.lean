/-
The grammar of numerals and their exact values.

`Spells` is the grammar as it is written down: an optional sign, digits with
at most one point among them, an optional exponent. It is a relation between a
text and the parts of a numeral, and cuts the text nowhere in particular; the
reader cuts where a run of digits ends. Both agree, because what may follow a
run of digits never starts with a digit (`read?_eq_some_iff`).

The value of a numeral is read digit by digit on either side of the point, and
is the coefficient times the power of ten that the reader hands on to be
rounded (`size_eq_mul`).
-/
import StackCalculator.Number.Numeral
import StackCalculator.Proofs.Number.Values
import Mathlib

set_option autoImplicit false

namespace StackCalculator.Number.Numeral

/-! ## The grammar -/

/-- A run of ASCII digits, or nothing. -/
def Digits (cs : List Char) : Prop := ∀ c ∈ cs, c.isDigit = true

/-- An optional sign, and whether it is a minus. -/
inductive SignText : List Char → Bool → Prop where
  | absent : SignText [] false
  | plus : SignText ['+'] false
  | minus : SignText ['-'] true

/-- A mantissa with its digits before and after the point. There is at least
one digit. -/
inductive MantissaText : List Char → List Char → List Char → Prop where
  | whole {whole : List Char} (hne : whole ≠ []) (hwhole : Digits whole) :
      MantissaText whole whole []
  | pointed {whole fraction : List Char} (hne : whole ≠ []) (hwhole : Digits whole)
      (hfraction : Digits fraction) : MantissaText (whole ++ '.' :: fraction) whole fraction
  | bare {fraction : List Char} (hne : fraction ≠ []) (hfraction : Digits fraction) :
      MantissaText ('.' :: fraction) [] fraction

/-- An optional exponent and its value, zero where none is written. -/
inductive ExponentText : List Char → ℤ → Prop where
  | absent : ExponentText [] 0
  | marked {mark : Char} {sign digits : List Char} {negative : Bool}
      (hmark : mark = 'e' ∨ mark = 'E') (hsign : SignText sign negative) (hne : digits ≠ [])
      (hdigits : Digits digits) :
      ExponentText (mark :: (sign ++ digits))
        (if negative then -(Nat.ofDigitChars 10 digits 0 : ℤ) else Nat.ofDigitChars 10 digits 0)

/-- **A text spells a numeral.** -/
inductive Spells : List Char → Numeral → Prop where
  | intro {sign mantissa exponent : List Char} {n : Numeral} (hsign : SignText sign n.negative)
      (hmantissa : MantissaText mantissa n.whole n.fraction)
      (hexponent : ExponentText exponent n.exponent) :
      Spells (sign ++ (mantissa ++ exponent)) n

/-! ## Where a run of digits ends -/

section Runs

variable {digits rest : List Char}

theorem takeWhile_digits (hdigits : Digits digits) (hrest : ∀ c ∈ rest.head?, c.isDigit = false) :
    (digits ++ rest).takeWhile Char.isDigit = digits := by
  rw [List.takeWhile_append_of_pos hdigits]
  cases rest with
  | nil => exact List.append_nil digits
  | cons c rest =>
    rw [List.takeWhile_cons_of_neg (by simp [hrest c rfl]), List.append_nil]

theorem dropWhile_digits (hdigits : Digits digits) (hrest : ∀ c ∈ rest.head?, c.isDigit = false) :
    (digits ++ rest).dropWhile Char.isDigit = rest := by
  rw [List.dropWhile_append_of_pos hdigits]
  cases rest with
  | nil => rfl
  | cons c rest => exact List.dropWhile_cons_of_neg (by simp [hrest c rfl])

theorem digits_takeWhile (cs : List Char) : Digits (cs.takeWhile Char.isDigit) :=
  fun _ hc => List.all_eq_true.mp List.all_takeWhile _ hc

end Runs

/-! ## Reading the parts -/

theorem takeSign_append {sign rest : List Char} {negative : Bool} (h : SignText sign negative)
    (hrest : ∀ c ∈ rest.head?, c ≠ '+' ∧ c ≠ '-') : takeSign (sign ++ rest) = (negative, rest) := by
  cases h with
  | absent =>
    cases rest with
    | nil => rfl
    | cons c rest =>
      obtain ⟨hplus, hminus⟩ := hrest c rfl
      unfold takeSign
      simp [hplus, hminus]
  | plus => rfl
  | minus => rfl

theorem ne_sign_of_isDigit {c : Char} (h : c.isDigit = true) : c ≠ '+' ∧ c ≠ '-' := by
  constructor
  · rintro rfl
    exact absurd h (by decide)
  · rintro rfl
    exact absurd h (by decide)

theorem exists_signText (cs : List Char) :
    ∃ sign, SignText sign (takeSign cs).1 ∧ cs = sign ++ (takeSign cs).2 := by
  unfold takeSign
  split
  · exact ⟨_, .plus, rfl⟩
  · exact ⟨_, .minus, rfl⟩
  · exact ⟨_, .absent, rfl⟩

/-- **The exponent is read** as the grammar has it. -/
theorem readExponent?_eq_some_iff {cs : List Char} {exponent : ℤ} :
    readExponent? cs = some exponent ↔ ExponentText cs exponent := by
  constructor
  · intro h
    cases cs with
    | nil =>
      obtain rfl : 0 = exponent := Option.some.inj h
      exact .absent
    | cons mark rest =>
      obtain ⟨sign, hsign, hrest⟩ := exists_signText rest
      simp only [readExponent?] at h
      split at h
      · next hparts =>
        obtain ⟨hmark, hne, hdigits⟩ := hparts
        have htext : mark :: rest = mark :: (sign ++ (takeSign rest).2) := congrArg _ hrest
        rw [← Option.some.inj h, htext]
        exact .marked hmark hsign hne (List.all_eq_true.mp hdigits)
      · exact absurd h (by simp)
  · intro h
    cases h with
    | absent => rfl
    | marked hmark hsign hne hdigits =>
      have hhead := fun c hc => ne_sign_of_isDigit (hdigits c (List.mem_of_mem_head? hc))
      have hall := List.all_eq_true.mpr hdigits
      simp only [readExponent?, takeSign_append hsign hhead]
      rw [if_pos ⟨hmark, hne, hall⟩]

theorem ExponentText.head?_ne {text : List Char} {exponent : ℤ} (h : ExponentText text exponent) :
    ∀ c ∈ text.head?, c.isDigit = false ∧ c ≠ '.' := by
  cases h with
  | absent => nofun
  | marked hmark =>
    intro c hc
    obtain rfl := Option.some.inj hc
    rcases hmark with rfl | rfl
    · decide
    · decide

/-! ## Reading a mantissa -/

theorem takeFraction_of_head? {rest : List Char} (h : ∀ c ∈ rest.head?, c ≠ '.') :
    takeFraction rest = ([], rest) := by
  cases rest with
  | nil => rfl
  | cons c rest =>
    have hc := h c rfl
    unfold takeFraction
    simp [hc]

theorem takeFraction_point {fraction rest : List Char} (hfraction : Digits fraction)
    (hrest : ∀ c ∈ rest.head?, c.isDigit = false) :
    takeFraction ('.' :: (fraction ++ rest)) = (fraction, rest) := by
  rw [takeFraction, takeWhile_digits hfraction hrest, dropWhile_digits hfraction hrest]

/-- **A mantissa is cut** into its two runs of digits. -/
theorem MantissaText.cut {text whole fraction rest : List Char}
    (h : MantissaText text whole fraction)
    (hrest : ∀ c ∈ rest.head?, c.isDigit = false ∧ c ≠ '.') :
    (text ++ rest).takeWhile Char.isDigit = whole ∧
      takeFraction ((text ++ rest).dropWhile Char.isDigit) = (fraction, rest) ∧
      ¬ (whole = [] ∧ fraction = []) := by
  have hdigit : ∀ c ∈ rest.head?, c.isDigit = false := fun c hc => (hrest c hc).1
  have hpoint (tail : List Char) : ∀ c ∈ ('.' :: tail).head?, c.isDigit = false := by
    rintro c ⟨⟩
    rfl
  cases h with
  | whole hne hwhole =>
    rw [takeWhile_digits hwhole hdigit, dropWhile_digits hwhole hdigit]
    exact ⟨rfl, takeFraction_of_head? fun c hc => (hrest c hc).2, fun h => hne h.1⟩
  | pointed hne hwhole hfraction =>
    rw [List.append_assoc, List.cons_append, takeWhile_digits hwhole (hpoint _),
      dropWhile_digits hwhole (hpoint _)]
    exact ⟨rfl, takeFraction_point hfraction hdigit, fun h => hne h.1⟩
  | bare hne hfraction =>
    exact ⟨rfl, takeFraction_point hfraction hdigit, fun h => hne h.2⟩

theorem exists_mantissaText {cs whole fraction rest : List Char}
    (hwhole : cs.takeWhile Char.isDigit = whole)
    (hfraction : takeFraction (cs.dropWhile Char.isDigit) = (fraction, rest))
    (hne : ¬ (whole = [] ∧ fraction = [])) :
    ∃ text, MantissaText text whole fraction ∧ cs = text ++ rest := by
  have hdigits : Digits whole := hwhole ▸ digits_takeWhile cs
  have hcut := List.takeWhile_append_dropWhile (p := Char.isDigit) (l := cs)
  rw [hwhole] at hcut
  generalize cs.dropWhile Char.isDigit = tail at hfraction hcut
  subst hcut
  unfold takeFraction at hfraction
  split at hfraction
  · next after =>
    obtain ⟨rfl, rfl⟩ := Prod.mk.inj hfraction
    have htail : '.' :: after
        = '.' :: after.takeWhile Char.isDigit ++ after.dropWhile Char.isDigit := by
      rw [List.cons_append, List.takeWhile_append_dropWhile]
    rcases eq_or_ne whole [] with rfl | hempty
    · exact ⟨_, .bare (fun h => hne ⟨rfl, h⟩) (digits_takeWhile after), htail⟩
    · refine ⟨_, .pointed hempty hdigits (digits_takeWhile after), ?_⟩
      rw [List.append_assoc]
      exact congrArg (whole ++ ·) htail
  · obtain ⟨rfl, rfl⟩ := Prod.mk.inj hfraction
    exact ⟨whole, .whole (fun h => hne ⟨h, rfl⟩) hdigits, rfl⟩

/-! ## Reading a numeral -/

theorem MantissaText.head?_ne {text whole fraction : List Char}
    (h : MantissaText text whole fraction) (rest : List Char) :
    ∀ c ∈ (text ++ rest).head?, c ≠ '+' ∧ c ≠ '-' := by
  have hstart {digits tail : List Char} (hne : digits ≠ []) (hdigits : Digits digits) :
      ∀ c ∈ (digits ++ tail).head?, c ≠ '+' ∧ c ≠ '-' := by
    intro c hc
    rw [List.head?_append_of_ne_nil _ hne] at hc
    exact ne_sign_of_isDigit (hdigits c (List.mem_of_mem_head? hc))
  cases h with
  | whole hne hwhole => exact hstart hne hwhole
  | pointed hne hwhole =>
    rw [List.append_assoc]
    exact hstart hne hwhole
  | bare =>
    rintro c ⟨⟩
    decide

theorem read?_of_spells {cs : List Char} {n : Numeral} (h : Spells cs n) : read? cs = some n := by
  obtain ⟨hsign, hmantissa, hexponent⟩ := h
  obtain ⟨hwhole, hfraction, hne⟩ := hmantissa.cut hexponent.head?_ne
  simp only [read?, takeSign_append hsign (hmantissa.head?_ne _), hwhole, hfraction]
  rw [if_neg hne, readExponent?_eq_some_iff.mpr hexponent]
  rfl

theorem spells_of_read? {cs : List Char} {n : Numeral} (h : read? cs = some n) : Spells cs n := by
  obtain ⟨sign, hsign, hcs⟩ := exists_signText cs
  rcases hunsigned : takeSign cs with ⟨negative, unsigned⟩
  rcases hfraction : takeFraction (unsigned.dropWhile Char.isDigit) with ⟨fraction, rest⟩
  rw [hunsigned] at hsign hcs
  simp only [read?, hunsigned, hfraction] at h
  split at h
  · exact absurd h (by simp)
  · next hne =>
    obtain ⟨exponent, hexponent, rfl⟩ := Option.map_eq_some_iff.mp h
    obtain ⟨mantissa, hmantissa, hrest⟩ := exists_mantissaText rfl hfraction hne
    have hspells : Spells (sign ++ (mantissa ++ rest))
        ⟨negative, unsigned.takeWhile Char.isDigit, fraction, exponent⟩ :=
      .intro hsign hmantissa (readExponent?_eq_some_iff.mp hexponent)
    rwa [← hrest, ← hcs] at hspells

/-- **The reader accepts the grammar**, and finds the parts. -/
theorem read?_eq_some_iff {cs : List Char} {n : Numeral} : read? cs = some n ↔ Spells cs n :=
  ⟨spells_of_read?, read?_of_spells⟩

/-! ## The value -/

/-- The value of the digits after a point. -/
def fractionValue : List Char → ℚ
  | [] => 0
  | c :: rest => ((c.toNat - '0'.toNat : ℕ) + fractionValue rest) / 10

/-- The value of a numeral without its sign. -/
def size (n : Numeral) : ℚ :=
  (Nat.ofDigitChars 10 n.whole 0 + fractionValue n.fraction) * 10 ^ n.exponent

/-- **The exact value of a numeral.** -/
def value (n : Numeral) : ℚ := signed n.negative n.size

theorem ofDigitChars_append_zero (front back : List Char) :
    Nat.ofDigitChars 10 (front ++ back) 0
      = 10 ^ back.length * Nat.ofDigitChars 10 front 0 + Nat.ofDigitChars 10 back 0 := by
  rw [Nat.ofDigitChars_append, Nat.ofDigitChars_eq_ofDigitChars_zero]

/-- The digits after a point are a whole number of their last place. -/
theorem fractionValue_eq (cs : List Char) :
    fractionValue cs = Nat.ofDigitChars 10 cs 0 / 10 ^ cs.length := by
  induction cs with
  | nil => simp [fractionValue]
  | cons c rest ih =>
    have hfirst : Nat.ofDigitChars 10 (c :: rest) 0
        = 10 ^ rest.length * (c.toNat - '0'.toNat) + Nat.ofDigitChars 10 rest 0 :=
      (ofDigitChars_append_zero [c] rest).trans (by simp [Nat.ofDigitChars_cons])
    rw [fractionValue, ih, hfirst, List.length_cons, pow_succ, Nat.cast_add, Nat.cast_mul,
      Nat.cast_pow, Nat.cast_ofNat]
    field_simp

/-- **The value is the coefficient at its scale.** -/
theorem size_eq_mul (n : Numeral) : n.size = n.coefficient * 10 ^ n.scale := by
  have hten : (10 : ℚ) ≠ 0 := by norm_num
  rw [size, coefficient, scale, fractionValue_eq, ofDigitChars_append_zero, zpow_sub₀ hten,
    zpow_natCast, Nat.cast_add, Nat.cast_mul, Nat.cast_pow, Nat.cast_ofNat]
  field_simp

theorem size_nonneg (n : Numeral) : 0 ≤ n.size := by
  rw [size_eq_mul]
  positivity

end StackCalculator.Number.Numeral
