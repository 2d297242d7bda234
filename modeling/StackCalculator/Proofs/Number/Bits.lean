/-
The bits of a double.

A double keeps a finite pattern that it is made from. Its arithmetic goes
through an unpacked form, a sign with a significand and an exponent, and a
pattern is kept because packing undoes unpacking; only the patterns of the
not-a-numbers run together.

With the pattern cut into its sign and its magnitude, this reads: every finite
double is the double of its own sign and magnitude, and every sign and
magnitude below infinity belong to a double.
-/
import StackCalculator.Number.Grid
import Mathlib

set_option autoImplicit false

namespace StackCalculator.Number

open Float.Model (Format UnpackedFloat)
open Float.Model.UnpackedFloat

/-! ## Packing what was unpacked -/

section Packing

variable {b : BitVec Format.binary64.numBits}

/-- A pattern is put together again from its three fields. -/
theorem packComponents_unpack (b : BitVec Format.binary64.numBits) :
    packComponents .binary64 (Sign.ofBitVec (unpackSign b)) (unpackExponent b) (unpackMantissa b)
      = b := by
  have hsign (v : BitVec 1) : (Sign.ofBitVec v).toBitVec = v := by
    revert v
    decide
  simp only [packComponents, hsign, unpackSign, unpackExponent, unpackMantissa,
    BitVec.extractLsb]
  ext i hi
  grind

theorem packComponents_of_fields {e : BitVec 11} {m : BitVec 52} (he : unpackExponent b = e)
    (hm : unpackMantissa b = m) :
    packComponents .binary64 (Sign.ofBitVec (unpackSign b)) e m = b := by
  rw [← he, ← hm]
  exact packComponents_unpack b

/-- A significand of fewer than 53 bits is packed as it is. -/
theorem pack_subnormal (s : Sign) {m : Nat} (hpos : 0 < m) (hm : m < Nat.pow 2 52) :
    pack .binary64 (.finite s m (-1074) hpos)
      = packComponents .binary64 s 0#11 (BitVec.ofNat 52 m) := by
  have hlog : ¬ m.log2 + 1 = Format.binary64.mantissaBits := by
    have hlt : m.log2 < 52 := (Nat.log2_lt (by omega)).mpr hm
    have hbits : Format.binary64.mantissaBits = 53 := rfl
    omega
  have hbias : (-1074 + (Format.binary64.exponentBias : Int)
      + (Format.binary64.mantissaBitsWithoutImplicit : Int)).toNat = 1 := by decide
  rw [pack]
  simp only [hbias]
  rw [if_neg (by decide), if_neg hlog]

/-- One of 53 bits is packed without the first of them. -/
theorem pack_normal (s : Sign) {e : BitVec 11} {m : BitVec 52} (he : e ≠ -1#11)
    (hpos : 0 < (1#1 ++ m).toNat) :
    pack .binary64 (.finite s (1#1 ++ m).toNat ((e.toNat : Int) - 1075) hpos)
      = packComponents .binary64 s e m := by
  have hm : (1#1 ++ m).toNat = 2 ^ 52 + m.toNat := by
    rw [BitVec.toNat_append, ← Nat.shiftLeft_add_eq_or_of_lt m.isLt]
    rfl
  have hlt := m.isLt
  have hlog : (1#1 ++ m).toNat.log2 + 1 = Format.binary64.mantissaBits := by
    have hlow : 52 ≤ (1#1 ++ m).toNat.log2 := (Nat.le_log2 (by omega)).mpr (by omega)
    have hhigh : (1#1 ++ m).toNat.log2 < 53 := (Nat.log2_lt (by omega)).mpr (by omega)
    have hbits : Format.binary64.mantissaBits = 53 := rfl
    omega
  have hbias : ((e.toNat : Int) - 1075 + (Format.binary64.exponentBias : Int)
      + (Format.binary64.mantissaBitsWithoutImplicit : Int)).toNat = e.toNat := by
    have hsum : (Format.binary64.exponentBias : Int)
      + (Format.binary64.mantissaBitsWithoutImplicit : Int) = 1075 := rfl
    omega
  have hfinite : ¬ 2 ^ Format.binary64.exponentBits ≤ e.toNat + 1 := by
    have hne : e.toNat ≠ 2047 := fun h => he (BitVec.eq_of_toNat_eq h)
    have helt := e.isLt
    have hbound : 2 ^ Format.binary64.exponentBits = 2048 := rfl
    omega
  rw [pack]
  simp only [hbias]
  rw [if_neg hfinite, if_pos hlog]
  congr 1
  · exact BitVec.eq_of_toNat_eq (by rw [BitVec.toNat_ofNat, Nat.mod_eq_of_lt e.isLt])
  · apply BitVec.eq_of_toNat_eq
    rw [BitVec.toNat_ofNat, hm, Nat.add_mod_left, Nat.mod_eq_of_lt hlt]

/-- **Packing what was unpacked** from a finite pattern gives the pattern. -/
theorem pack_unpack (h : unpackExponent b ≠ -1#11) : pack .binary64 (unpack .binary64 b) = b := by
  unfold unpack
  rw [if_neg h]
  by_cases hexponent : unpackExponent b = 0#11
  · rw [if_pos hexponent]
    by_cases hmantissa : unpackMantissa b = 0#52
    · rw [dif_pos hmantissa]
      exact packComponents_of_fields hexponent hmantissa
    · have hpos := BitVec.toNat_pos_of_ne_zero hmantissa
      have hbias : ((unpackExponent b).toNat : Int) - ((Format.binary64.exponentBias : Int)
          + (Format.binary64.mantissaBitsWithoutImplicit : Int)) + 1 = -1074 := by
        rw [hexponent]
        rfl
      rw [dif_neg hmantissa]
      simp only [hbias]
      rw [pack_subnormal _ hpos (unpackMantissa b).isLt, BitVec.ofNat_toNat, BitVec.setWidth_eq]
      exact packComponents_of_fields hexponent rfl
  · rw [if_neg hexponent]
    exact (pack_normal _ h _).trans (packComponents_of_fields rfl rfl)

end Packing

/-! ## The bits of a double -/

theorem eq_of_toBits_eq {x y : Float} (h : x.toBits = y.toBits) : x = y := by
  obtain ⟨⟨bits, hx⟩⟩ := x
  obtain ⟨⟨bits', hy⟩⟩ := y
  obtain rfl : bits = bits' := h
  rfl

/-- The exponent field of a finite pattern is not that of infinity. -/
theorem unpackExponent_ne {bits : UInt64} (h : bits.toNat % Nat.pow 2 63 < Grid.infinity) :
    @unpackExponent .binary64 bits.toBitVec ≠ -1#11 := by
  intro hones
  -- the field of all ones is that of infinity and what lies above it
  have hfield : bits.toNat >>> 52 % 2 ^ 11 = 2047 := congrArg BitVec.toNat hones
  rw [Nat.shiftRight_eq_div_pow] at hfield
  simp only [Grid.infinity, Nat.pow_eq] at h
  omega

/-- **A double keeps a finite pattern** that it is made from. -/
theorem toBits_ofBits {bits : UInt64} (h : bits.toNat % Nat.pow 2 63 < Grid.infinity) :
    (Float.ofBits bits).toBits = bits :=
  congrArg UInt64.ofBitVec (pack_unpack (unpackExponent_ne h))

section Magnitude

variable {i : Nat} (negative : Bool) (h : i < Grid.infinity)

include h

theorem toNat_toBits_ofMagnitude :
    (ofMagnitude negative i).toBits.toNat = if negative then Nat.pow 2 63 + i else i := by
  have hi : i < Nat.pow 2 63 := Nat.lt_trans h (by decide)
  have hpattern : (UInt64.ofNat (if negative then Nat.pow 2 63 + i else i)).toNat
      = if negative then Nat.pow 2 63 + i else i := by
    apply UInt64.toNat_ofNat_of_lt'
    simp only [Nat.pow_eq, UInt64.size] at hi ⊢
    split <;> omega
  have hfinite : (if negative then Nat.pow 2 63 + i else i) % Nat.pow 2 63 < Grid.infinity := by
    split
    · rwa [Nat.add_mod_left, Nat.mod_eq_of_lt hi]
    · rwa [Nat.mod_eq_of_lt hi]
  rw [ofMagnitude, toBits_ofBits, hpattern]
  rwa [hpattern]

/-- **Every magnitude below infinity** belongs to a double of either sign. -/
theorem magnitude_ofMagnitude : magnitude (ofMagnitude negative i) = i := by
  have hi : i < Nat.pow 2 63 := Nat.lt_trans h (by decide)
  rw [magnitude, toNat_toBits_ofMagnitude negative h]
  split
  · rw [Nat.add_mod_left, Nat.mod_eq_of_lt hi]
  · rw [Nat.mod_eq_of_lt hi]

theorem isNegative_ofMagnitude : isNegative (ofMagnitude negative i) = negative := by
  have hi : i < Nat.pow 2 63 := Nat.lt_trans h (by decide)
  rw [isNegative, toNat_toBits_ofMagnitude negative h]
  cases negative with
  | false => exact decide_eq_false (Nat.not_le.mpr hi)
  | true => exact decide_eq_true (Nat.le_add_right _ _)

theorem isFinite_ofMagnitude : isFinite (ofMagnitude negative i) = true := by
  rw [isFinite, magnitude_ofMagnitude negative h]
  exact decide_eq_true h

end Magnitude

/-- Sign and magnitude make up the pattern. -/
theorem toNat_toBits (x : Float) :
    x.toBits.toNat = if isNegative x then Nat.pow 2 63 + magnitude x else magnitude x := by
  have hlt := x.toBits.toNat_lt
  unfold magnitude isNegative
  generalize x.toBits.toNat = bits at hlt ⊢
  simp only [Nat.pow_eq, decide_eq_true_eq]
  split <;> omega

/-- **A finite double** is the one of its sign and magnitude. -/
theorem ofMagnitude_magnitude {x : Float} (h : isFinite x = true) :
    ofMagnitude (isNegative x) (magnitude x) = x := by
  apply eq_of_toBits_eq
  apply UInt64.toNat_inj.mp
  rw [toNat_toBits_ofMagnitude _ (of_decide_eq_true h), toNat_toBits x]

/-- Sign and magnitude make up a double. -/
theorem eq_of_magnitude {x y : Float} (hsign : isNegative x = isNegative y)
    (hmagnitude : magnitude x = magnitude y) : x = y := by
  apply eq_of_toBits_eq
  apply UInt64.toNat_inj.mp
  rw [toNat_toBits x, toNat_toBits y, hsign, hmagnitude]

/-- **There is one not-a-number**: all patterns above infinity are kept as one. -/
theorem eq_notANumber {x : Float} (h : Grid.infinity < magnitude x) : x = notANumber := by
  have hpattern {y : Float} (hy : Grid.infinity < magnitude y) :
      y.toBits.toBitVec = packedNaN .binary64 := by
    obtain ⟨⟨bits, hvalid⟩⟩ := y
    have hlarge : Grid.infinity < bits.toNat % Nat.pow 2 63 := hy
    simp only [Grid.infinity, Nat.pow_eq] at hlarge
    apply hvalid.eq_packedNaN
    · have hfield : bits.toNat >>> 52 % 2 ^ 11 = 2047 := by
        rw [Nat.shiftRight_eq_div_pow]
        omega
      exact BitVec.eq_of_toNat_eq hfield
    · intro hzero
      have hfield : bits.toNat % 2 ^ 52 = 0 := congrArg BitVec.toNat hzero
      omega
  apply eq_of_toBits_eq
  apply UInt64.toBitVec_inj.mp
  rw [hpattern h, hpattern (by decide +kernel : Grid.infinity < magnitude notANumber)]

/-! ## The zeros -/

/-- Only a zero has both fields empty, whatever its sign. -/
theorem fields_of_unpack_zero {b : BitVec Format.binary64.numBits} {s : Sign}
    (h : unpack .binary64 b = .zero s) : unpackExponent b = 0#11 ∧ unpackMantissa b = 0#52 := by
  unfold unpack at h
  simp only at h
  split at h
  · split at h
    · exact absurd h nofun
    · exact absurd h nofun
  · split at h
    · next hexponent =>
      split at h
      · next hmantissa => exact ⟨hexponent, hmantissa⟩
      · exact absurd h nofun
    · exact absurd h nofun

theorem eq_zero_of_beq {u : UnpackedFloat} {s : Sign} (h : u.beq (.zero s) = true) :
    ∃ t, u = .zero t := by
  cases u with
  | infinity t => cases t <;> exact absurd h nofun
  | notANumber => exact absurd h nofun
  | zero t => exact ⟨t, rfl⟩
  | finite t m e hpos => cases t <;> exact absurd h nofun

/-- **The zeros** are the two doubles that compare equal to zero. -/
theorem beq_zero_iff (x : Float) : (x == 0.0) = true ↔ x = 0.0 ∨ x = -0.0 := by
  constructor
  · intro h
    obtain ⟨⟨bits, hvalid⟩⟩ := x
    have hzero : (unpack .binary64 bits.toBitVec).beq (.zero .positive) = true := h
    obtain ⟨s, hs⟩ := eq_zero_of_beq hzero
    obtain ⟨hexponent, hmantissa⟩ := fields_of_unpack_zero hs
    have hbits := packComponents_of_fields hexponent hmantissa
    -- the pattern has no bit besides its sign
    generalize Sign.ofBitVec (@unpackSign .binary64 bits.toBitVec) = sign at hbits
    cases sign with
    | positive => exact .inl (eq_of_toBits_eq (UInt64.toBitVec_inj.mp hbits.symm))
    | negative => exact .inr (eq_of_toBits_eq (UInt64.toBitVec_inj.mp hbits.symm))
  · rintro (rfl | rfl)
    · rfl
    · rfl

/-! ## Below zero -/

/-- What is neither a zero nor past the finite numbers is below a zero when its
sign bit is set. -/
theorem unpack_lt_zero_iff {b : BitVec Format.binary64.numBits} (s : Sign)
    (hfinite : unpackExponent b ≠ -1#11) (hzero : ∀ t, unpack .binary64 b ≠ .zero t) :
    (unpack .binary64 b).lt (.zero s) = true ↔ unpackSign b ≠ 0#1 := by
  have hsign {m : Nat} {e : Int} (hpos : 0 < m) :
      (UnpackedFloat.finite (Sign.ofBitVec (unpackSign b)) m e hpos).lt (.zero s) = true ↔
        unpackSign b ≠ 0#1 := by
    rw [Sign.ofBitVec]
    split
    · next hclear => exact iff_of_false nofun (not_not.mpr hclear)
    · next hset => exact iff_of_true rfl hset
  unfold unpack at hzero ⊢
  simp only at hzero ⊢
  rw [if_neg hfinite] at hzero ⊢
  by_cases hexponent : unpackExponent b = 0#11
  · rw [if_pos hexponent] at hzero ⊢
    by_cases hmantissa : unpackMantissa b = 0#52
    · rw [dif_pos hmantissa] at hzero
      exact absurd rfl (hzero _)
    · rw [dif_neg hmantissa]
      exact hsign _
  · rw [if_neg hexponent]
    exact hsign _

/-- **Below zero** are, of the finite doubles that are no zeros, those with their
sign bit set. -/
theorem lt_zero_iff {x : Float} (hfinite : isFinite x = true) (hzero : (x == 0.0) = false) :
    x < 0.0 ↔ isNegative x = true := by
  have hlt : x < 0.0 ↔ (unpack .binary64 x.toBits.toBitVec).lt (.zero .positive) = true :=
    decide_eq_true_iff
  have hbeq : (unpack .binary64 x.toBits.toBitVec).beq (.zero .positive) = false := hzero
  have hexponent := unpackExponent_ne (of_decide_eq_true hfinite)
  have hnegative : isNegative x = true ↔ 2 ^ 63 ≤ x.toBits.toNat := decide_eq_true_iff
  have hbits := x.toBits.toNat_lt
  rw [hlt, hnegative]
  generalize x.toBits = bits at hbeq hexponent hbits ⊢
  -- every zero compares equal to zero
  have hne (s : Sign) : unpack .binary64 bits.toBitVec ≠ .zero s := by
    intro hs
    rw [hs] at hbeq
    exact absurd hbeq nofun
  have hfield : (@unpackSign .binary64 bits.toBitVec).toNat = bits.toNat >>> 63 % 2 ^ 1 := rfl
  have hclear : @unpackSign .binary64 bits.toBitVec = 0#1 ↔ bits.toNat >>> 63 % 2 ^ 1 = 0 := by
    rw [← hfield]
    exact BitVec.toNat_inj.symm
  rw [unpack_lt_zero_iff .positive hexponent hne, Ne, hclear, Nat.shiftRight_eq_div_pow]
  omega

end StackCalculator.Number
