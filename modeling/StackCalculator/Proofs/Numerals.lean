/-
What a numeral is made of.

`Numeral.read?` cuts its text into a sign, digits, a fraction and an exponent,
and accepts only when nothing is left over. So every character of a numeral is
a digit, a sign, the point or an exponent mark, which is all that cutting an
entry needs to know of the grammar: a numeral holds no space to be cut at and
no parenthesis to be burst, and a lone operator is none.
-/
import StackCalculator.Token

set_option autoImplicit false

namespace StackCalculator.Number

namespace Numeral

/-! ## The characters of a numeral -/

/-- Whether a character may stand in a numeral. -/
def isMark (c : Char) : Bool :=
  c.isDigit || c == '+' || c == '-' || c == '.' || c == 'e' || c == 'E'

theorem isMark_of_isDigit {c : Char} (h : c.isDigit = true) : isMark c = true := by
  rw [isMark, h]
  rfl

theorem all_isMark_of_dropWhile (cs : List Char)
    (h : (cs.dropWhile Char.isDigit).all isMark = true) : cs.all isMark = true := by
  rw [← List.takeWhile_append_dropWhile (p := Char.isDigit) (l := cs), List.all_append, h,
    Bool.and_true, List.all_eq_true]
  intro c hc
  exact isMark_of_isDigit (List.all_eq_true.mp List.all_takeWhile c hc)

theorem all_isMark_of_takeSign (cs : List Char) (h : (takeSign cs).2.all isMark = true) :
    cs.all isMark = true := by
  unfold takeSign at h
  split at h
  · rw [List.all_cons, h]
    rfl
  · rw [List.all_cons, h]
    rfl
  · exact h

theorem all_isMark_of_takeFraction (cs : List Char)
    (h : (takeFraction cs).2.all isMark = true) : cs.all isMark = true := by
  unfold takeFraction at h
  split at h
  · rw [List.all_cons, all_isMark_of_dropWhile _ h]
    rfl
  · exact h

theorem all_isMark_of_readExponent? {cs : List Char} {exponent : Int}
    (h : readExponent? cs = some exponent) : cs.all isMark = true := by
  cases cs with
  | nil => rfl
  | cons mark rest =>
    simp only [readExponent?] at h
    split at h
    · next hparts =>
      obtain ⟨hmark, -, hdigits⟩ := hparts
      -- behind the exponent's mark stand a sign, if any, and digits
      have hrest : rest.all isMark = true := by
        apply all_isMark_of_takeSign
        rw [List.all_eq_true] at hdigits ⊢
        exact fun c hc => isMark_of_isDigit (hdigits c hc)
      rw [List.all_cons, hrest]
      rcases hmark with rfl | rfl <;> rfl
    · exact absurd h (by simp)

/-- **Every character of a numeral is a mark.** -/
theorem all_isMark_of_read? {cs : List Char} {n : Numeral} (h : read? cs = some n) :
    cs.all isMark = true := by
  simp only [read?] at h
  split at h
  · exact absurd h (by simp)
  · obtain ⟨exponent, hexponent, -⟩ := Option.map_eq_some_iff.mp h
    -- each cut took marks off the front, so the text is put together again from its end
    apply all_isMark_of_takeSign
    apply all_isMark_of_dropWhile
    apply all_isMark_of_takeFraction
    exact all_isMark_of_readExponent? hexponent

end Numeral

theorem all_isMark_of_read? {piece : String} {x : Float} (h : read? piece = some x) :
    piece.toList.all Numeral.isMark = true := by
  obtain ⟨n, hn, -⟩ := Option.bind_eq_some_iff.mp h
  exact Numeral.all_isMark_of_read? hn

/-- A piece with a character that is no mark is no number. -/
theorem read?_eq_none_of_mem {piece : String} {c : Char} (hc : c ∈ piece.toList)
    (hmark : Numeral.isMark c = false) : read? piece = none := by
  rw [Option.eq_none_iff_forall_ne_some]
  intro x hx
  have hall := List.all_eq_true.mp (all_isMark_of_read? hx) c hc
  rw [hmark] at hall
  exact Bool.false_ne_true hall

theorem ne_empty_of_read? {piece : String} {x : Float} (h : read? piece = some x) :
    piece ≠ "" := by
  rintro rfl
  have hnone : read? "" = none := rfl
  rw [hnone] at h
  exact absurd h (by simp)

/-- A lone sign, or any other operator, is no number. -/
theorem read?_symbol (op : Operator) : read? op.symbol = none := by
  cases op <;> decide

end StackCalculator.Number
