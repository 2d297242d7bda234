/-
A displayed number is an entry.

The text of a finite number is one numeric piece, so each mode evaluates it to
what it reads as: there is no space to cut at, no parenthesis and no operator.
A result that is no finite number is a word. It is one piece too, but reads as
no number, which the Polish mode answers with not-a-number and the
parenthesised mode refuses.
-/
import StackCalculator.Proofs.Balance
import StackCalculator.Proofs.Grouping
import StackCalculator.Proofs.Number.Printing

set_option autoImplicit false

namespace StackCalculator

/-! ## Numbers -/

/-- A lone piece needs no operator in the Polish mode. -/
theorem evaluate_polish_of_split {entry : String} (h : Pieces.split entry = [entry]) :
    evaluate .polish entry = .ok ((Number.read? entry).getD Number.notANumber) := by
  rw [evaluate, h]
  rfl

/-- **A lone number** is its own value in either mode. -/
theorem evaluate_piece (mode : Mode) (n : Numeric) : evaluate mode n.piece = .ok n.value := by
  cases mode with
  | polish =>
    rw [evaluate_polish_of_split n.split_piece, n.reads]
    rfl
  | parenthesised =>
    rw [evaluate, n.split_piece]
    exact Parenthesised.evaluate_parenthesised (.leaf n)

/-! ## Words -/

/-- A piece that is neither a number, nor an operator, nor of parentheses: it
holds a letter that stands in none of them. -/
structure IsWord (piece : String) : Prop where
  letter : ∃ c ∈ piece.toList,
    Number.Numeral.isMark c = false ∧ Pieces.isParenthesis c = false
  noSpace : ' ' ∉ piece.toList
  noSymbol : Operator.ofSymbol? piece = none

namespace IsWord

variable {piece : String}

theorem read?_eq_none (h : IsWord piece) : Number.read? piece = none := by
  obtain ⟨c, hc, hmark, -⟩ := h.letter
  exact Number.read?_eq_none_of_mem hc hmark

theorem split_eq (h : IsWord piece) : Pieces.split piece = [piece] :=
  Pieces.split_eq_singleton h.noSpace

theorem burst_eq (h : IsWord piece) : Pieces.burst piece = [piece] := by
  obtain ⟨c, hc, -, hparen⟩ := h.letter
  exact Pieces.burst_eq_singleton hc hparen

theorem ne_of_isParenthesis (h : IsWord piece) {text : String}
    (htext : text.toList.all Pieces.isParenthesis = true) : piece ≠ text := by
  rintro rfl
  obtain ⟨c, hc, -, hparen⟩ := h.letter
  rw [List.all_eq_true.mp htext c hc] at hparen
  exact Bool.false_ne_true hparen.symm

theorem classifyParenthesised_eq (h : IsWord piece) :
    Token.classifyParenthesised piece = .error (.malformedToken piece) := by
  rw [Token.classifyParenthesised, if_neg (h.ne_of_isParenthesis (by decide)),
    if_neg (h.ne_of_isParenthesis (by decide)), Token.classify_eq_error_iff]
  exact ⟨h.noSymbol, h.read?_eq_none, rfl⟩

/-- **A lone word** is not-a-number in the Polish mode. -/
theorem evaluate_polish (h : IsWord piece) :
    evaluate .polish piece = .ok Number.notANumber := by
  rw [evaluate_polish_of_split h.split_eq, h.read?_eq_none]
  rfl

/-- **A lone word** is refused by name in the parenthesised mode. -/
theorem evaluate_parenthesised (h : IsWord piece) :
    evaluate .parenthesised piece = .error (.malformedToken piece) := by
  have hburst : [piece].flatMap Pieces.burst = [piece] := by
    rw [List.flatMap_singleton, h.burst_eq]
  have hparen : Parenthesised.isParenthesis piece = false := by
    rw [Parenthesised.isParenthesis, beq_false_of_ne (h.ne_of_isParenthesis (by decide)),
      beq_false_of_ne (h.ne_of_isParenthesis (by decide))]
    rfl
  have hall : ([piece].flatMap Pieces.burst).all Parenthesised.isParenthesis = false := by
    rw [hburst, List.all_cons, hparen, Bool.false_and]
  rw [evaluate, h.split_eq]
  refine (Parenthesised.evaluate_of_balanced_or (.inl hall)).trans ?_
  rw [hburst, Parenthesised.scan_cons, Parenthesised.step_eq_bind, h.classifyParenthesised_eq]
  rfl

end IsWord

/-! ## Results -/

/-- What is not finite is spelled as a word. -/
theorem isWord_resultText {x : Float} (h : Number.isFinite x = false) :
    IsWord (Number.resultText x) := by
  have hlarge : ¬ Number.magnitude x < Number.Grid.infinity := of_decide_eq_false h
  have hzero : Number.magnitude x ≠ 0 := by
    intro hzero
    exact hlarge (hzero ▸ by decide)
  simp only [Number.resultText, Number.Spelling.write, Number.Spelling.unsigned]
  rw [if_neg hzero, if_neg hlarge]
  split
  · exact ⟨⟨'N', by decide, rfl, rfl⟩, by decide, rfl⟩
  · split
    · exact ⟨⟨'I', by decide, rfl, rfl⟩, by decide, rfl⟩
    · exact ⟨⟨'I', by decide, rfl, rfl⟩, by decide, rfl⟩

theorem infinity_lt_magnitude_notANumber :
    Number.Grid.infinity < Number.magnitude Number.notANumber := by
  decide +kernel

/-- **A displayed number reads back exactly.** The token of a finite number is
that number, to the bit. The text of a finite result has that result as its
value in either mode, but `-0.0` comes back as `0.0`. The text of any other
result is not-a-number in the Polish mode, and in the parenthesised mode it is
the token refused. -/
theorem displayed_number_reads_back (x : Float) :
    (Number.isFinite x = true →
      Token.classifyParenthesised (Token.number x).text = .ok (.number x) ∧
        ∀ mode, evaluate mode (Number.resultText x) = .ok (if x = -0.0 then 0.0 else x)) ∧
      (Number.isFinite x = false →
        (evaluate .polish (Number.resultText x) = .ok Number.notANumber ∧
          Number.Grid.infinity < Number.magnitude Number.notANumber) ∧
        evaluate .parenthesised (Number.resultText x)
          = .error (.malformedToken (Number.resultText x))) := by
  constructor
  · intro hfinite
    let token : Numeric := ⟨Number.tokenText x, x, Number.read?_tokenText hfinite⟩
    let result : Numeric := ⟨Number.resultText x, _, Number.read?_resultText hfinite⟩
    exact ⟨Token.classifyParenthesised_piece token, fun mode => evaluate_piece mode result⟩
  · intro hinfinite
    have hword := isWord_resultText hinfinite
    exact ⟨⟨hword.evaluate_polish, infinity_lt_magnitude_notANumber⟩,
      hword.evaluate_parenthesised⟩

end StackCalculator
