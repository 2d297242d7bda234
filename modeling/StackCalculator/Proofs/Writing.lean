/-
Other ways of writing an entry.

An entry is a text, and the two evaluations are given its pieces. Nothing comes
in between. Cutting and joining undo each other: a text is the join of its
pieces, and pieces that hold no space, if there are any, are the cut of their
join. So what is said of pieces is said of entries, whatever else the pieces
hold; white space other than the space is a character like any other.

Pieces that are runs of parentheses are burst before anything is read, and how
the parentheses were grouped is forgotten by then. What is read are the tokens.
Lists of pieces with the same tokens are counted alike, read alike and answered
alike (`evaluate_of_tokens`), and only an error that names the entry tells which
of them was written.
-/
import StackCalculator.Proofs.Accusations

set_option autoImplicit false

namespace StackCalculator

/-! ## Pieces joined by spaces -/

/-- **Entries and their pieces** are two views of one thing. Every entry is the
join of its pieces; none of them holds a space, and there is one more of them
than there are spaces. Pieces without spaces, as long as there is one, are the
pieces of their join, and to evaluate that is to evaluate them, in either mode. -/
theorem evaluate_join :
    (∀ entry, Pieces.join (Pieces.split entry) = entry ∧
      (∀ piece ∈ Pieces.split entry, ' ' ∉ piece.toList) ∧
      (Pieces.split entry).length = entry.toList.count ' ' + 1) ∧
    ∀ pieces : List String, pieces ≠ [] → (∀ piece ∈ pieces, ' ' ∉ piece.toList) →
      Pieces.split (Pieces.join pieces) = pieces ∧
        evaluate .polish (Pieces.join pieces) = Polish.evaluate pieces ∧
        evaluate .parenthesised (Pieces.join pieces) = Parenthesised.evaluate pieces := by
  constructor
  · intro entry
    exact ⟨Pieces.join_split entry, fun _ => Pieces.not_mem_of_mem_split,
      Pieces.length_split entry⟩
  · intro pieces hne hspace
    have hsplit : Pieces.split (Pieces.join pieces) = pieces := Pieces.split_join hne hspace
    refine ⟨hsplit, ?_, ?_⟩
    · rw [evaluate, hsplit, evaluatePieces]
    · rw [evaluate, hsplit, evaluatePieces]

/-- A tab, a no-break space and a line feed belong to their pieces, and so the
pieces are malformed; an empty piece is a piece as well. -/
theorem evaluate_join_blanks :
    let pieces := ["+", "1\t2", "", "3\u00a0", "4\n"]
    Pieces.join pieces = "+ 1\t2  3\u00a0 4\n" ∧
      evaluate .polish "+ 1\t2  3\u00a0 4\n" = .error (.malformedToken "4\n") ∧
      evaluate .parenthesised "+ 1\t2  3\u00a0 4\n" = .error (.malformedToken "1\t2") := by
  intro pieces
  have hjoin : Pieces.join pieces = "+ 1\t2  3\u00a0 4\n" := by decide
  obtain ⟨-, hpolish, hparenthesised⟩ :=
    evaluate_join.2 pieces (List.cons_ne_nil _ _) (by decide)
  rw [hjoin] at hpolish hparenthesised
  rw [hpolish, hparenthesised]
  exact ⟨hjoin, by decide +kernel, by decide +kernel⟩

/-! ## Runs of parentheses -/

namespace Pieces

variable {a b piece : String}

theorem burst_of_isRun (h : isRun piece = true) :
    burst piece = piece.toList.map String.singleton := if_pos (isRun_iff.mp h)

/-- **A run of parentheses is burst** alike in one piece and in two. -/
theorem burst_append (ha : isRun a = true) (hb : isRun b = true) :
    burst (a ++ b) = burst a ++ burst b := by
  have hab : isRun (a ++ b) = true := by
    rw [isRun_iff] at ha hb ⊢
    refine ⟨fun hempty => ha.1 (String.append_eq_empty_iff.mp hempty).1, ?_⟩
    rw [String.toList_append, List.all_append, ha.2, hb.2, Bool.and_self]
  rw [burst_of_isRun hab, burst_of_isRun ha, burst_of_isRun hb, String.toList_append,
    List.map_append]

/-- No other piece is divided. -/
theorem burst_of_empty_or (h : piece = "" ∨ ∃ c ∈ piece.toList, c ≠ '(' ∧ c ≠ ')') :
    burst piece = [piece] := by
  rcases h with rfl | ⟨c, hc, hopening, hclosing⟩
  · rfl
  · apply burst_eq_singleton hc
    rw [isParenthesis, beq_false_of_ne hopening, beq_false_of_ne hclosing, Bool.or_self]

end Pieces

namespace Parenthesised

/-! ## The same tokens -/

theorem answer_naming (entry other : String) (s : Scan) :
    answer other s = (answer entry s).mapError (EvalError.naming other) := by
  unfold answer
  by_cases hdepth : s.depth ≠ 0
  · rw [if_pos hdepth, if_pos hdepth]
    rfl
  · rw [if_neg hdepth, if_neg hdepth]
    cases s.held.operands.getLast? with
    | some bottom => rfl
    | none => rfl

/-- **Pieces with the same tokens** have the same value or the same error, in
which each names its own entry. -/
theorem evaluate_of_tokens {p q : List String}
    (h : p.flatMap Pieces.burst = q.flatMap Pieces.burst) :
    evaluate q = (evaluate p).mapError (EvalError.naming (Pieces.join q)) := by
  simp only [evaluate_eq, h]
  split
  · rfl
  · rw [mapError_bind, ← scan_naming]
    exact bind_congr fun s => answer_naming _ _ s

/-- **Gluing parentheses** changes no evaluation. Let two runs of parentheses
stand side by side in any entry, as pieces of their own or as one. Either both
entries are refused for their parentheses, and each refusal names its entry; or
they have the same value or the same other error. A piece with any other
character in it, or with none at all, stays one token. -/
theorem evaluate_glued {a b : String} (ha : Pieces.isRun a = true) (hb : Pieces.isRun b = true)
    (u v : List String) :
    ((evaluate (u ++ [a, b] ++ v)
          = .error (.unbalancedParentheses (Pieces.join (u ++ [a, b] ++ v))) ∧
        evaluate (u ++ [a ++ b] ++ v)
          = .error (.unbalancedParentheses (Pieces.join (u ++ [a ++ b] ++ v)))) ∨
      (evaluate (u ++ [a, b] ++ v) = evaluate (u ++ [a ++ b] ++ v) ∧
        ∀ text, evaluate (u ++ [a, b] ++ v) ≠ .error (.unbalancedParentheses text))) ∧
    ∀ piece : String, (piece = "" ∨ ∃ c ∈ piece.toList, c ≠ '(' ∧ c ≠ ')') →
      Pieces.burst piece = [piece] := by
  refine ⟨?_, fun piece => Pieces.burst_of_empty_or⟩
  have htokens : (u ++ [a, b] ++ v).flatMap Pieces.burst
      = (u ++ [a ++ b] ++ v).flatMap Pieces.burst := by
    simp [List.flatMap_append, Pieces.burst_append ha hb]
  have hglued := evaluate_of_tokens htokens
  rcases hapart : evaluate (u ++ [a, b] ++ v) with e | x
  · rw [hapart, mapError_error] at hglued
    -- an error that names no entry is the same for both
    cases evaluate_fails hapart with
    | unbalancedParentheses => exact .inl ⟨rfl, hglued⟩
    | divisionByZero => exact .inr ⟨hglued.symm, by simp⟩
    | malformedToken => exact .inr ⟨hglued.symm, by simp⟩
    | stackUnderflow => exact .inr ⟨hglued.symm, by simp⟩
  · rw [hapart] at hglued
    exact .inr ⟨hglued.symm, by simp⟩

/-- Two closing parentheses glued to an opening one, in an entry that is
refused, and two glued together in one that has a value. -/
theorem evaluate_glued_closing :
    Pieces.isRun ")" = true ∧ Pieces.isRun ")(" = true ∧
      evaluate ["(", "1", "+", "2", ")", ")("]
        = .error (.unbalancedParentheses "( 1 + 2 ) )(") ∧
      evaluate ["(", "1", "+", "2", "))("]
        = .error (.unbalancedParentheses "( 1 + 2 ))(") ∧
      evaluate ["(", "1", "+", "(", "2", "*", "3", ")", ")"]
        = evaluate ["(", "1", "+", "(", "2", "*", "3", "))"] := by
  have hclosing : Pieces.isRun ")" = true := by decide
  have hturned : Pieces.isRun ")(" = true := by decide
  have hrefused := (evaluate_glued hclosing hturned ["(", "1", "+", "2"] []).1
  have hvalued := (evaluate_glued hclosing hclosing ["(", "1", "+", "(", "2", "*", "3"] []).1
  have hapart : evaluate ["(", "1", "+", "2", ")", ")("]
      = .error (.unbalancedParentheses "( 1 + 2 ) )(") := by decide +kernel
  have hvalue : evaluate ["(", "1", "+", "(", "2", "*", "3", ")", ")"] = .ok 7.0 := by
    decide +kernel
  obtain ⟨-, hglued⟩ := hrefused.resolve_right fun h => h.2 _ hapart
  obtain ⟨hsame, -⟩ := hvalued.resolve_left fun h => absurd (h.1.symm.trans hvalue) (by simp)
  exact ⟨hclosing, hturned, hapart, hglued, hsame⟩

end Parenthesised
end StackCalculator
