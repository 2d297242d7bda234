/-
The classes of pieces.

Every piece is an operator, a number or malformed, and no piece is two of
these: an operator's symbol is no numeral. `Numeric` is a piece together with
the number it is read as, so that trees and combs of such pieces carry their own
well-formedness. The lemmas say what an operator's symbol and a numeric piece
are to each function that looks at a piece: cutting, bursting, classifying.
-/
import StackCalculator.Proofs.Numerals
import StackCalculator.Proofs.Entries

set_option autoImplicit false

namespace StackCalculator

/-- **A numeric piece**, with the number it is read as. -/
structure Numeric where
  piece : String
  value : Float
  reads : Number.read? piece = some value

/-! ## Operators -/

namespace Operator

@[simp] theorem ofSymbol?_symbol (op : Operator) : ofSymbol? op.symbol = some op := by
  cases op <;> rfl

theorem eq_symbol_of_ofSymbol? {piece : String} {op : Operator}
    (h : ofSymbol? piece = some op) : piece = op.symbol := by
  unfold ofSymbol? at h
  grind [Operator.symbol]

/-- **No number is an operator.** -/
theorem ofSymbol?_eq_none_of_read? {piece : String} {x : Float}
    (h : Number.read? piece = some x) : ofSymbol? piece = none := by
  rw [Option.eq_none_iff_forall_ne_some]
  intro op hop
  have hnone := Number.read?_symbol op
  rw [← eq_symbol_of_ofSymbol? hop, h] at hnone
  exact absurd hnone (by simp)

theorem split_symbol (op : Operator) : Pieces.split op.symbol = [op.symbol] := by
  apply Pieces.split_eq_singleton
  cases op <;> decide

@[simp] theorem burst_symbol (op : Operator) : Pieces.burst op.symbol = [op.symbol] := by
  cases op <;> rfl

theorem symbol_ne_closing (op : Operator) : op.symbol ≠ ")" := by
  cases op <;> decide

end Operator

/-! ## Numeric pieces -/

namespace Numeric

theorem ofSymbol?_piece (n : Numeric) : Operator.ofSymbol? n.piece = none :=
  Operator.ofSymbol?_eq_none_of_read? n.reads

/-- A numeric piece holds no character that is no mark. -/
theorem not_mem_piece (n : Numeric) {c : Char} (hmark : Number.Numeral.isMark c = false) :
    c ∉ n.piece.toList := by
  intro hc
  have hnone := Number.read?_eq_none_of_mem hc hmark
  rw [n.reads] at hnone
  exact absurd hnone (by simp)

theorem split_piece (n : Numeric) : Pieces.split n.piece = [n.piece] :=
  Pieces.split_eq_singleton (n.not_mem_piece rfl)

/-- A numeric piece starts with a character, and that is no parenthesis. -/
@[simp] theorem burst_piece (n : Numeric) : Pieces.burst n.piece = [n.piece] := by
  cases hlist : n.piece.toList with
  | nil => exact absurd (String.toList_eq_nil_iff.mp hlist) (Number.ne_empty_of_read? n.reads)
  | cons c rest =>
    -- the first character alone keeps the piece from being a run of parentheses
    have hc : c ∈ n.piece.toList := by
      rw [hlist]
      exact List.mem_cons_self
    refine Pieces.burst_eq_singleton hc ?_
    have hopening : c ≠ '(' := fun h => n.not_mem_piece rfl (h ▸ hc)
    have hclosing : c ≠ ')' := fun h => n.not_mem_piece rfl (h ▸ hc)
    simp [Pieces.isParenthesis, hopening, hclosing]

/-- A numeric piece is no text that holds such a character. -/
theorem piece_ne (n : Numeric) {text : String} {c : Char} (hc : c ∈ text.toList)
    (hmark : Number.Numeral.isMark c = false) : n.piece ≠ text := by
  rintro rfl
  exact n.not_mem_piece hmark hc

theorem piece_ne_opening (n : Numeric) : n.piece ≠ "(" :=
  n.piece_ne (List.mem_singleton_self '(') rfl

theorem piece_ne_closing (n : Numeric) : n.piece ≠ ")" :=
  n.piece_ne (List.mem_singleton_self ')') rfl

end Numeric

/-! ## Valid pieces -/

namespace Pieces

/-- Whether a piece is an operator. -/
def isOperator (piece : String) : Bool := (Operator.ofSymbol? piece).isSome

/-- Whether a piece is a number. -/
def isNumber (piece : String) : Bool := (Number.read? piece).isSome

/-- Whether a piece is neither. -/
def isMalformed (piece : String) : Bool := !isOperator piece && !isNumber piece

@[simp] theorem isOperator_symbol (op : Operator) : isOperator op.symbol = true := by
  rw [isOperator, Operator.ofSymbol?_symbol]
  rfl

@[simp] theorem isNumber_symbol (op : Operator) : isNumber op.symbol = false := by
  rw [isNumber, Number.read?_symbol]
  rfl

@[simp] theorem isOperator_piece (n : Numeric) : isOperator n.piece = false := by
  rw [isOperator, n.ofSymbol?_piece]
  rfl

@[simp] theorem isNumber_piece (n : Numeric) : isNumber n.piece = true := by
  rw [isNumber, n.reads]
  rfl

theorem eq_symbol_of_isOperator {piece : String} (h : isOperator piece = true) :
    ∃ op : Operator, piece = op.symbol := by
  obtain ⟨op, hop⟩ := Option.isSome_iff_exists.mp h
  exact ⟨op, Operator.eq_symbol_of_ofSymbol? hop⟩

theorem eq_piece_of_isNumber {piece : String} (h : isNumber piece = true) :
    ∃ n : Numeric, piece = n.piece := by
  obtain ⟨x, hx⟩ := Option.isSome_iff_exists.mp h
  exact ⟨⟨piece, x, hx⟩, rfl⟩

/-- **Every piece** is an operator, a number or malformed. -/
theorem piece_cases (piece : String) :
    (∃ op : Operator, piece = op.symbol) ∨ (∃ n : Numeric, piece = n.piece) ∨
      isMalformed piece = true := by
  rcases hoperator : isOperator piece with _ | _
  · rcases hnumber : isNumber piece with _ | _
    · exact .inr (.inr (by rw [isMalformed, hoperator, hnumber]; rfl))
    · exact .inr (.inl (eq_piece_of_isNumber hnumber))
  · exact .inl (eq_symbol_of_isOperator hoperator)

@[simp] theorem isMalformed_symbol (op : Operator) : isMalformed op.symbol = false := by
  rw [isMalformed, isOperator_symbol]
  rfl

@[simp] theorem isMalformed_piece (n : Numeric) : isMalformed n.piece = false := by
  rw [isMalformed, isNumber_piece, Bool.not_true, Bool.and_false]

end Pieces

/-! ## Classifying -/

namespace Token

theorem classify_symbol (op : Operator) : classify op.symbol = .ok (operator op) := by
  rw [classify, Operator.ofSymbol?_symbol]

theorem classify_piece (n : Numeric) : classify n.piece = .ok (number n.value) := by
  rw [classify, n.ofSymbol?_piece, n.reads]

theorem classify_of_isMalformed {piece : String} (h : Pieces.isMalformed piece = true) :
    classify piece = .error (.malformedToken piece) := by
  simp only [Pieces.isMalformed, Pieces.isOperator, Pieces.isNumber, Bool.and_eq_true,
    Bool.not_eq_true', Option.isSome_eq_false_iff, Option.isNone_iff_eq_none] at h
  rw [classify, h.1, h.2]

/-- Where parentheses do not count, no piece is classified as one. -/
theorem ne_parenthesis_of_classify {piece : String} {token : Token}
    (h : classify piece = .ok token) : token ≠ .opening ∧ token ≠ .closing := by
  rcases Pieces.piece_cases piece with ⟨op, rfl⟩ | ⟨n, rfl⟩ | hmalformed
  · rw [classify_symbol] at h
    rw [← Except.ok.inj h]
    exact ⟨nofun, nofun⟩
  · rw [classify_piece] at h
    rw [← Except.ok.inj h]
    exact ⟨nofun, nofun⟩
  · rw [classify_of_isMalformed hmalformed] at h
    exact absurd h nofun

theorem classifyParenthesised_symbol (op : Operator) :
    classifyParenthesised op.symbol = .ok (operator op) := by
  cases op <;> rfl

theorem classifyParenthesised_piece (n : Numeric) :
    classifyParenthesised n.piece = .ok (number n.value) := by
  rw [classifyParenthesised, if_neg n.piece_ne_opening, if_neg n.piece_ne_closing,
    classify_piece]

end Token
end StackCalculator
