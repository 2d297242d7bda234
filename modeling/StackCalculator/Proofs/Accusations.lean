/-
What an error says.

Every cause of failure but a division carries something: the text by which a
mode was asked for, a piece, the entry, or the sizes of the stacks. All of it is
true of what the calculator was given. The text is the one stored, and names no
mode; the piece stands in the entry between single spaces, and is no token of
the mode; the entry is the whole of it, to the character; and one of the sizes
is too small to reduce.

The two evaluations know the pieces only, and what they say of those, in
`Polish.Fails` and `Parenthesised.Fails`, is carried over to the entry. Joining
undoes cutting. A token that is refused was not burst out of a longer piece,
since what is burst comes out as parentheses.
-/
import StackCalculator.Calculator
import StackCalculator.Proofs.Failures

set_option autoImplicit false

namespace StackCalculator

/-! ## The mode asked for -/

namespace Mode

theorem isNamed_iff (name text : String) : isNamed name text = true ↔ text.toLower = name := by
  have hlower : text.toLower.toList = text.toList.map Char.toLower := String.toList_map
  rw [isNamed, beq_iff_eq, ← String.toList_inj, hlower]

/-- **A request is refused** exactly when it is neither name in small letters. -/
theorem ofRequest_eq_error_iff {text : String} {e : EvalError} :
    ofRequest text = .error e ↔
      e = .unsupportedMode text ∧ text.toLower ≠ "prefix" ∧ text.toLower ≠ "infix" := by
  unfold ofRequest
  by_cases hpolish : isNamed polish.name text = true
  · have hname : text.toLower = "prefix" := (isNamed_iff _ _).mp hpolish
    rw [if_pos hpolish]
    exact ⟨nofun, fun h => absurd hname h.2.1⟩
  by_cases hparenthesised : isNamed parenthesised.name text = true
  · have hname : text.toLower = "infix" := (isNamed_iff _ _).mp hparenthesised
    rw [if_neg hpolish, if_pos hparenthesised]
    exact ⟨nofun, fun h => absurd hname h.2.2⟩
  · rw [if_neg hpolish, if_neg hparenthesised, Except.error.injEq]
    refine ⟨fun h => ⟨h.symm, ?_, ?_⟩, fun h => h.1.symm⟩
    · exact mt (isNamed_iff _ _).mpr hpolish
    · exact mt (isNamed_iff _ _).mpr hparenthesised

end Mode

/-! ## The piece refused -/

namespace Pieces

/-- Whether a piece is burst: a run of parentheses, and not empty. -/
def isRun (piece : String) : Bool := piece != "" && piece.toList.all isParenthesis

theorem isRun_iff {piece : String} :
    isRun piece = true ↔ piece ≠ "" ∧ piece.toList.all isParenthesis = true := by
  rw [isRun, Bool.and_eq_true, bne_iff_ne]

/-- What comes out of a piece and is no parenthesis is the piece itself. -/
theorem eq_of_mem_burst {piece token : String} (hmem : token ∈ burst piece)
    (htoken : Parenthesised.isParenthesis token = false) : token = piece ∧ isRun piece = false := by
  unfold burst at hmem
  split at hmem
  · next hrun =>
    obtain ⟨c, hc, rfl⟩ := List.mem_map.mp hmem
    have hparen : isParenthesis c = true := List.all_eq_true.mp hrun.2 c hc
    have hcases : c = '(' ∨ c = ')' := by simpa [isParenthesis] using hparen
    rcases hcases with rfl | rfl
    · exact absurd htoken (by decide)
    · exact absurd htoken (by decide)
  · next hrun =>
    exact ⟨List.mem_singleton.mp hmem, Bool.eq_false_iff.mpr (mt isRun_iff.mp hrun)⟩

end Pieces

/-! ## What an error says -/

/-- **What an error says is true** of the mode asked for and of the entry. -/
def EvalError.TrueOf (requested entry : String) : EvalError → Prop
  | unsupportedMode text =>
    text = requested ∧ requested.toLower ≠ "prefix" ∧ requested.toLower ≠ "infix"
  | malformedInput text | unbalancedParentheses text => text = entry
  | malformedToken piece =>
    piece ∈ Pieces.split entry ∧ Pieces.isMalformed piece = true ∧
      (Mode.ofRequest requested = .ok .parenthesised → Pieces.isRun piece = false)
  | stackUnderflow operands operators => operands < 2 ∨ operators = 0
  | divisionByZero => True

section Evaluations

variable {requested entry : String} {e : EvalError}

theorem Polish.Fails.trueOf (hmode : Mode.ofRequest requested = .ok .polish)
    (h : Polish.Fails (Pieces.split entry) e) : e.TrueOf requested entry := by
  cases h with
  | divisionByZero => trivial
  | malformedInput hlength => exact Pieces.join_split entry
  | malformedToken hlength hmem hpiece =>
    refine ⟨hmem, hpiece, fun hother => ?_⟩
    rw [hmode] at hother
    exact absurd hother nofun

theorem Parenthesised.Fails.trueOf (h : Parenthesised.Fails (Pieces.split entry) e) :
    e.TrueOf requested entry := by
  cases h with
  | divisionByZero => trivial
  | malformedToken hmem htoken =>
    obtain ⟨piece, hpiece, hburst⟩ := List.mem_flatMap.mp hmem
    rw [Parenthesised.isMalformed, Bool.and_eq_true, Bool.not_eq_true'] at htoken
    obtain ⟨rfl, hrun⟩ := Pieces.eq_of_mem_burst hburst htoken.1
    exact ⟨hpiece, htoken.2, fun _ => hrun⟩
  | stackUnderflow hsizes => exact hsizes
  | unbalancedParentheses => exact Pieces.join_split entry

end Evaluations

namespace Calculator

/-- **An error tells the truth.** Whatever mode was asked for and whatever the
entry: a mode that is refused is the one asked for, and no name of a mode in any
case of letters; an entry that is named is the entry; a piece that is named
stands in it, and is neither an operator nor a number, nor a run of parentheses
where these count; and stacks with too little to reduce are short of operands or
have no operator. -/
theorem evaluate_error_true {c : Calculator} {entry : String} {e : EvalError}
    (h : c.evaluate entry = .error e) : e.TrueOf c.requested entry := by
  rcases bind_eq_error.mp h with hmode | ⟨mode, hmode, hentry⟩
  · obtain ⟨rfl, hnames⟩ := Mode.ofRequest_eq_error_iff.mp hmode
    exact ⟨rfl, hnames⟩
  · cases mode with
    | polish => exact (Polish.evaluate_fails hentry).trueOf hmode
    | parenthesised => exact (Parenthesised.evaluate_fails hentry).trueOf

/-- A parenthesis glued to a number is refused as a piece of the entry. -/
theorem evaluate_error_true_glued :
    let c : Calculator := { requested := "Infix" }
    c.evaluate "(( 1 + (2 ) )" = .error (.malformedToken "(2") ∧
      EvalError.TrueOf c.requested "(( 1 + (2 ) )" (.malformedToken "(2") := by
  intro c
  have hvalue : c.evaluate "(( 1 + (2 ) )" = .error (.malformedToken "(2") := by decide +kernel
  exact ⟨hvalue, evaluate_error_true hvalue⟩

end Calculator
end StackCalculator
