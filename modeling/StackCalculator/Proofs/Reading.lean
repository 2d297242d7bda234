/-
The two phases of the Polish reduction, one step at a time.

Settling and draining are loops, so each is opened here once: what it does when
the stacks are ready and when they are not, and that it stops after a single
reduction when there is one operator only, or too few operands for a second.
Everything else about the two phases is proved from these equations.

A piece is pushed on settled stacks. `settled` is the reading of pieces with
the settling that would come before the next one, and so it is the state that
an invariant of the reading speaks of.
-/
import StackCalculator.Polish
import StackCalculator.Proofs.Classes
import StackCalculator.Proofs.Outcomes

set_option autoImplicit false

namespace StackCalculator.Polish

/-! ## Settling -/

theorem settle_of_not_ready {r : Reading} (h : r.held.ready = false) : settle r = .ok r := by
  rw [settle, dif_neg (by simp [h])]

theorem settle_of_ready {r : Reading} (h : r.held.ready = true) :
    settle r = r.held.reduced .topLeft >>= fun value =>
      settle ⟨r.held.remaining.pushBottom value, value :: r.results⟩ := by
  rw [settle, dif_pos h]

/-- With one operator, or two operands, settling is a single reduction. -/
theorem settle_once {top next : Float} {operands : List Float} {op : Operator}
    {operators : List Operator} (results : List Float) (h : operands = [] ∨ operators = []) :
    settle ⟨⟨top :: next :: operands, op :: operators⟩, results⟩ = do
      let value ← op.apply top next
      return ⟨⟨operands ++ [value], operators⟩, value :: results⟩ := by
  -- the value is either alone among the operands or has no operator over it
  have hrest (value : Float) : settle ⟨⟨operands ++ [value], operators⟩, value :: results⟩
      = .ok ⟨⟨operands ++ [value], operators⟩, value :: results⟩ := by
    apply settle_of_not_ready
    rcases h with rfl | rfl
    · rfl
    · simp [Stacks.ready]
  rw [settle_of_ready rfl]
  exact bind_congr hrest

/-- Without an operator there is nothing to settle. -/
theorem settle_operands (operands results : List Float) :
    settle ⟨⟨operands, []⟩, results⟩ = .ok ⟨⟨operands, []⟩, results⟩ :=
  settle_of_not_ready (by simp [Stacks.ready])

/-! ## Draining -/

theorem drain_of_not_ready {s : Stacks} (h : s.ready = false) : drain s = .ok [] := by
  rw [drain, dif_neg (by simp [h])]

theorem drain_once {s : Stacks} (hready : s.ready = true)
    (h : s.operands.length = 2 ∨ s.operators.length = 1) :
    drain s = do
      let value ← s.reduced .topLeft
      return [value] := by
  have hrest : s.remaining.ready = false := by
    rw [Stacks.not_ready_iff_length, Stacks.remaining, List.length_drop, List.length_drop]
    omega
  rw [drain, dif_pos hready, drain_of_not_ready hrest]
  rfl

/-- Turning the operands over leaves one reduction where there was one. -/
theorem drain_turned_once {s : Stacks} (hready : s.ready = true)
    (h : s.operands.length = 2 ∨ s.operators.length = 1) :
    drain s.turned = do
      let value ← s.turned.reduced .topLeft
      return [value] := by
  apply drain_once
  · rw [Stacks.ready_turned, hready]
  · rwa [Stacks.turned, List.length_reverse]

/-! ## Reading a piece -/

/-- The reading of pieces, settled as it is before the next piece is taken. -/
def settled (pieces : List String) : Except EvalError Reading := read pieces >>= settle

theorem settled_nil : settled [] = .ok {} := settle_of_not_ready rfl

/-- **A piece is read** on top of what follows it, settled. -/
theorem read_cons (piece : String) (rest : List String) :
    read (piece :: rest) = do
      let t ← settled rest
      let token ← Token.classify piece
      let held ← t.held.push token
      return { t with held } := by
  rw [read_eq, List.foldrM_cons, settled, bind_assoc]
  rfl

theorem settled_of_read {pieces : List String} {r : Reading} (h : read pieces = .ok r) :
    settled pieces = settle r := by
  rw [settled, h, ok_bind]

section Pushing

variable {rest : List String} {t : Reading}

theorem read_piece (h : settled rest = .ok t) (n : Numeric) :
    read (n.piece :: rest) = .ok { t with held := t.held.pushTop n.value } := by
  rw [read_cons, h, Token.classify_piece]
  rfl

theorem read_symbol (h : settled rest = .ok t) (op : Operator) :
    read (op.symbol :: rest) = .ok { t with held.operators := op :: t.held.operators } := by
  rw [read_cons, h, Token.classify_symbol]
  rfl

/-- Numbers are only pushed while no operator is there. -/
theorem settled_piece {operands results : List Float}
    (h : settled rest = .ok ⟨⟨operands, []⟩, results⟩) (n : Numeric) :
    settled (n.piece :: rest) = .ok ⟨⟨n.value :: operands, []⟩, results⟩ :=
  (settled_of_read (read_piece h n)).trans (settle_operands _ _)

end Pushing

theorem read_cons_error {rest : List String} {e : EvalError} (h : settled rest = .error e)
    (piece : String) : read (piece :: rest) = .error e := by
  rw [read_cons, h]
  rfl

theorem settled_cons_error {rest : List String} {e : EvalError} (h : settled rest = .error e)
    (piece : String) : settled (piece :: rest) = .error e := by
  rw [settled, read_cons_error h]
  rfl

/-! ## The whole reduction -/

/-- Entries of four pieces or more, and the empty one, are reduced with the stacks. -/
theorem evaluate_eq_reduceAll {pieces : List String}
    (h : pieces.length = 0 ∨ 4 ≤ pieces.length) : evaluate pieces = reduceAll pieces := by
  match pieces, h with
  | [], _ => rfl
  | [_], h => simp at h
  | [_, _], h => simp at h
  | [_, _, _], h => simp at h
  | _ :: _ :: _ :: _ :: _, _ => rfl

/-- **With one reduction to come** the answer is its value, added to zero. -/
theorem reduceAll_once {pieces : List String} {r : Reading} (hread : read pieces = .ok r)
    (hready : r.held.ready = true)
    (h : r.held.operands.length = 2 ∨ r.held.operators.length = 1) :
    reduceAll pieces = do
      let value ← r.held.turned.reduced .topLeft
      return 0.0 + value := by
  rw [reduceAll_eq, hread, ok_bind, drain_turned_once hready h, bind_assoc]
  rfl

theorem reduceAll_error {pieces : List String} {e : EvalError} (hread : read pieces = .error e) :
    reduceAll pieces = .error e := by
  rw [reduceAll_eq, hread]
  rfl

end StackCalculator.Polish
