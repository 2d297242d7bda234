/-
Polish entries that are evaluated as they are meant.

The reading puts each value under the operands, where an operator of a general
expression would not look for it. On a right comb it does no harm: the operands
to the right of an operator have been reduced to one value by the time the
operator's own number is read, so the value is the only operand there and both
ends of the stack are the same. A comb is settled to its value alone.

The draining is different. It turns the operands over before the last
reduction, which is the outermost one, so that one meets its operands the other
way round. They come out right where the left operand was reduced last and
stands at the bottom, as in `op op2 a b r` with a comb `r`. In a comb itself the
number on the left was pushed last and stands on top, so the value of the rest
comes out to its left: `- 1 * 2 3` is `6 - 1`.
-/
import StackCalculator.Proofs.Operations
import StackCalculator.Proofs.Reading

set_option autoImplicit false

namespace StackCalculator

/-- **A right comb**: numbers joined by operators, each with everything after
it for its right operand. -/
inductive Comb where
  | last (n : Numeric)
  | link (op : Operator) (n : Numeric) (rest : Comb)

def Comb.expression : Comb → Expression
  | last n => .leaf n
  | link op n rest => .node op (.leaf n) rest.expression

namespace Polish

/-! ## Reading a comb -/

/-- **A comb is settled to its value**, which is then the only operand and has
no operator over it; or it divides by a zero. -/
theorem settled_comb (c : Comb) :
    (∃ x results, c.expression.value = .ok x ∧
      settled c.expression.polish = .ok ⟨⟨[x], []⟩, results⟩) ∨
    (c.expression.value = .error .divisionByZero ∧
      settled c.expression.polish = .error .divisionByZero) := by
  induction c with
  | last n =>
    refine .inl ⟨n.value, [], rfl, ?_⟩
    rw [Comb.expression, Expression.polish]
    exact settled_piece settled_nil n
  | link op n rest ih =>
    have hpieces : (Comb.link op n rest).expression.polish
        = op.symbol :: n.piece :: rest.expression.polish := rfl
    have hvalue : (Comb.link op n rest).expression.value
        = rest.expression.value >>= op.apply n.value := rfl
    rw [hpieces, hvalue]
    rcases ih with ⟨x, results, hx, hrest⟩ | ⟨hx, hrest⟩
    · -- the value of the rest lies under the number, and the operator over both: there
      -- are two operands in all, so the value lands where it would on top as well
      have hnumber := settled_piece hrest n
      have hboth : settled (op.symbol :: n.piece :: rest.expression.polish)
          = op.apply n.value x >>= fun y => return ⟨⟨[y], []⟩, y :: results⟩ :=
        (settled_of_read (read_symbol hnumber op)).trans (settle_once results (.inl rfl))
      rw [hx, ok_bind, hboth]
      rcases op.apply_cases n.value x with ⟨y, hy⟩ | hy
      · exact .inl ⟨y, y :: results, hy, by rw [hy]; rfl⟩
      · exact .inr ⟨hy, by rw [hy]; rfl⟩
    · rw [hx]
      exact .inr ⟨rfl, settled_cons_error (settled_cons_error hrest n.piece) op.symbol⟩

/-! ## Evaluating with a comb on the right -/

/-- An operation on two numbers is reduced before what comes next is read, and
its value goes under that of the comb. -/
theorem settled_pair {rest : List String} {y : Float} {results : List Float}
    (h : settled rest = .ok ⟨⟨[y], []⟩, results⟩) (op : Operator) (a b : Numeric) :
    settled (op.symbol :: a.piece :: b.piece :: rest) = do
      let x ← op.apply a.value b.value
      return ⟨⟨[y, x], []⟩, x :: results⟩ := by
  have hnumbers := settled_piece (settled_piece h b) a
  rw [settled_of_read (read_symbol hnumbers op)]
  exact settle_once results (.inr rfl)

/-- **A Polish entry evaluated as it is meant**: an operator over an operation
on two numbers and a comb. Its value is that of the expression, added to zero,
and it fails exactly when an operation of the expression divides by a zero. -/
theorem evaluate_pair_comb (op op2 : Operator) (a b : Numeric) (c : Comb) :
    let pieces := op.symbol :: op2.symbol :: a.piece :: b.piece :: c.expression.polish
    let e := Expression.node op (.node op2 (.leaf a) (.leaf b)) c.expression
    evaluate pieces = (do
      let x ← e.value
      return 0.0 + x) ∧
      (evaluate pieces = .error .divisionByZero ↔ e.DividesByZero) ∧
      ((∃ x, evaluate pieces = .ok x) ↔ ¬ e.DividesByZero) := by
  intro pieces e
  have hvalue : evaluate pieces = (do
      let x ← e.value
      return 0.0 + x) := by
    rw [evaluate_eq_reduceAll (.inr (by simp [pieces]))]
    have he : e.value = (do
        let x ← op2.apply a.value b.value
        let y ← c.expression.value
        op.apply x y) := rfl
    rw [he]
    rcases settled_comb c with ⟨y, results, hy, hc⟩ | ⟨hy, hc⟩
    · have hpair := settled_pair hc op2 a b
      rcases op2.apply_cases a.value b.value with ⟨x, hx⟩ | hx
      · rw [hx, ok_bind] at hpair
        -- the draining turns the two values over, so the left one is on top
        rw [reduceAll_once (read_symbol hpair op) rfl (.inr rfl), hx, hy]
        rfl
      · rw [hx, error_bind] at hpair
        rw [reduceAll_error (read_cons_error hpair op.symbol), hx]
        rfl
    · have hrest := settled_cons_error (settled_cons_error hc b.piece) a.piece
      rw [reduceAll_error (read_cons_error (settled_cons_error hrest op2.symbol) op.symbol), hy]
      rcases op2.apply_cases a.value b.value with ⟨x, hx⟩ | hx
      · rw [hx]
        rfl
      · rw [hx]
        rfl
  refine ⟨hvalue, ?_, ?_⟩
  · rw [hvalue, bind_return_eq_error]
    exact e.value_eq_divisionByZero_iff
  · rw [hvalue, bind_return_eq_ok]
    exact e.value_eq_ok_iff

/-! ## Evaluating a comb -/

/-- **A comb is evaluated as it is meant, but for its outermost operation**,
which meets its operands the other way round: the value of the rest is on the
left, and the number that is written on the left is on the right. The rest must
have an operation of its own; three pieces are not reduced with the stacks. It
fails exactly when the rest does, or when the outermost operation divides by its
number and that is a zero. -/
theorem evaluate_comb (op op2 : Operator) (a b : Numeric) (c : Comb) :
    let rest := (Comb.link op2 b c).expression
    let pieces := op.symbol :: a.piece :: rest.polish
    evaluate pieces = (do
      let x ← rest.value
      let y ← op.apply x a.value
      return 0.0 + y) ∧
      (evaluate pieces = .error .divisionByZero ↔
        rest.value = .error .divisionByZero ∨
          (op = .divide ∧ (a.value = 0.0 ∨ a.value = -0.0))) ∧
      ((∃ y, evaluate pieces = .ok y) ↔
        ¬ (rest.value = .error .divisionByZero ∨
          (op = .divide ∧ (a.value = 0.0 ∨ a.value = -0.0)))) := by
  intro rest pieces
  have hlength : 4 ≤ pieces.length := by
    simp [pieces, rest, Comb.expression, Expression.polish]
  rw [evaluate_eq_reduceAll (.inr hlength)]
  rcases settled_comb (.link op2 b c) with ⟨x, results, hx, hc⟩ | ⟨hx, hc⟩
  · have hread := read_symbol (settled_piece hc a) op
    have hvalue : reduceAll pieces = op.apply x a.value >>= fun y => return 0.0 + y := by
      -- the number was pushed last, so it is the lower one once they are turned over
      rw [reduceAll_once hread rfl (.inr rfl)]
      rfl
    have hrest : rest.value ≠ .error .divisionByZero := by
      show (Comb.link op2 b c).expression.value ≠ _
      rw [hx]
      simp
    rw [hvalue, bind_return_eq_error, bind_return_eq_ok, op.apply_eq_divisionByZero_iff,
      op.apply_eq_ok_iff, or_iff_right hrest]
    refine ⟨?_, Iff.rfl, Iff.rfl⟩
    show _ = (Comb.link op2 b c).expression.value >>= _
    rw [hx, ok_bind]
  · have hvalue : reduceAll pieces = .error .divisionByZero :=
      reduceAll_error (read_cons_error (settled_cons_error hc a.piece) op.symbol)
    have hrest : rest.value = .error .divisionByZero := hx
    rw [hvalue, hrest]
    exact ⟨rfl, iff_of_true rfl (.inl rfl), iff_of_false (by simp) (fun h => h (.inl rfl))⟩

-- the rest comes out on the left, and its zero is no divisor there
example : evaluate ["-", "1", "*", "2", "3"] = .ok 5.0 := by decide +kernel
example : evaluate ["/", "6", "*", "0", "3"] = .ok 0.0 := by decide +kernel

end Polish
end StackCalculator
