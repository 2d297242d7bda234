/-
The parenthesised notation is read correctly.

The reading knows no grammar: it has two stacks and a count of open
parentheses. What makes it right on a fully parenthesised expression is that
its pieces, read from any stacks at any depth, push its value and leave the
rest as it was. That is `scan_parenthesised`, by induction on the tree, stated
over the pieces that follow so that the two operands of a node can be read one
after the other. A division by a zero anywhere ends the reading there, as it
ends the evaluation of the tree.
-/
import StackCalculator.Evaluation
import StackCalculator.Proofs.Expressions
import StackCalculator.Proofs.Scanning

set_option autoImplicit false

namespace StackCalculator

namespace Parenthesised

/-! ## Reading a tree -/

/-- **The pieces of an expression push its value** on any stacks at any depth,
and change nothing else. -/
theorem scan_parenthesised (entry : String) (e : Expression) (s : Scan) (rest : List String) :
    scan entry s (e.parenthesised ++ rest)
      = e.value >>= fun x => scan entry { s with held := s.held.pushTop x } rest := by
  induction e generalizing s rest with
  | leaf n =>
    rw [Expression.parenthesised, List.singleton_append, scan_cons, step_piece]
    rfl
  | node op left right ihl ihr =>
    have hpieces : (Expression.node op left right).parenthesised ++ rest
        = "(" :: (left.parenthesised ++ op.symbol :: (right.parenthesised ++ ")" :: rest)) := by
      simp [Expression.parenthesised]
    rw [hpieces, scan_cons, step_opening, ok_bind, ihl, Expression.value, bind_assoc]
    -- an operand without a value ends the reading where it ends the evaluation
    rcases left.value with e | x
    · rfl
    rw [ok_bind, ok_bind, scan_cons, step_symbol, ok_bind, ihr, bind_assoc]
    rcases right.value with e | y
    · rfl
    -- both values and the operator are on top now, in the order they were read
    rw [ok_bind, ok_bind, scan_cons]
    have hclosing := step_closing entry s.held op x y s.depth
    rw [Stacks.pushTop, Stacks.pushTop, hclosing, bind_assoc]
    rfl

/-! ## Evaluating a tree -/

theorem burst_of_mem_parenthesised {e : Expression} {piece : String}
    (h : piece ∈ e.parenthesised) : Pieces.burst piece = [piece] := by
  induction e with
  | leaf n =>
    rw [List.mem_singleton.mp h, n.burst_piece]
  | node op left right ihl ihr =>
    simp only [Expression.parenthesised, List.cons_append, List.append_assoc, List.mem_cons,
      List.mem_append, List.mem_nil_iff, or_false] at h
    rcases h with rfl | hleft | rfl | hright | rfl
    · rfl
    · exact ihl hleft
    · exact op.burst_symbol
    · exact ihr hright
    · rfl

/-- Pieces taken from an expression stay as they are. -/
theorem flatMap_burst_of_subset {e : Expression} {pieces : List String}
    (h : pieces ⊆ e.parenthesised) : pieces.flatMap Pieces.burst = pieces := by
  have hmap : pieces.map Pieces.burst = pieces.map fun piece => [piece] :=
    List.map_congr_left fun piece hpiece => burst_of_mem_parenthesised (h hpiece)
  rw [List.flatMap_def, hmap, ← List.flatMap_def, List.flatMap_singleton']

theorem flatMap_burst_parenthesised (e : Expression) :
    e.parenthesised.flatMap Pieces.burst = e.parenthesised :=
  flatMap_burst_of_subset (List.Subset.refl _)

/-- An expression has a piece that is no parenthesis, its first number. -/
theorem not_all_isParenthesis (e : Expression) :
    e.parenthesised.all isParenthesis = false := by
  induction e with
  | leaf n =>
    simp [Expression.parenthesised, isParenthesis, n.piece_ne_opening, n.piece_ne_closing]
  | node op left right ihl ihr =>
    simp [Expression.parenthesised, ihl]

/-- **The value of the pieces of an expression** is its own. -/
theorem evaluate_parenthesised (e : Expression) : evaluate e.parenthesised = e.value := by
  have hscan := scan_parenthesised (Pieces.join e.parenthesised) e {} []
  rw [List.append_nil] at hscan
  simp only [evaluate_eq, flatMap_burst_parenthesised, not_all_isParenthesis, Bool.false_and,
    Bool.false_eq_true, if_false, hscan]
  rcases e.value with e | x
  · rfl
  · rfl

end Parenthesised

/-! ## Evaluating a text -/

/-- **A fully parenthesised text has the value of its expression**: the left
operand, the right operand, then the operator on the two in that order. It
fails exactly when an operation of the expression divides by a zero, and then
with that error. -/
theorem evaluate_text (e : Expression) :
    evaluate .parenthesised e.text = e.value ∧
      (evaluate .parenthesised e.text = .error .divisionByZero ↔ e.DividesByZero) ∧
      ((∃ x, evaluate .parenthesised e.text = .ok x) ↔ ¬ e.DividesByZero) := by
  have hvalue : evaluate .parenthesised e.text = e.value := by
    rw [evaluate, e.split_text]
    exact Parenthesised.evaluate_parenthesised e
  rw [hvalue]
  exact ⟨rfl, e.value_eq_divisionByZero_iff, e.value_eq_ok_iff⟩

end StackCalculator
