/-
A reduction and its guard.

A reduction takes before it judges: what lies on top is gone, up to two operands
and an operator, whether or not a value comes of it. So how much it takes depends
on the sizes alone. Where there was enough, what comes of it depends on what it
took alone: nothing beneath is looked at (`reduced_taken`). Where there was too
little the guard said so before, and the failure names the sizes of that moment
(`reduced_eq_stackUnderflow_iff`).

None of this needs the stacks to have come about in some way, and nothing would
be gained by asking for it. Pushing alone leads to any stacks at all, so those
that commands lead to are all there are (`exists_after`).
-/
import StackCalculator.Proofs.Classes
import StackCalculator.Proofs.Outcomes
import StackCalculator.Stacks.Command

set_option autoImplicit false

namespace StackCalculator.Stacks

/-! ## Where commands lead -/

/-- **The stacks after commands**: those shown with the last outcome, and the
first ones where there is no command. -/
def after (s : Stacks) (commands : List Command) : Stacks :=
  ((s.performAll commands).map Prod.snd).getLastD s

theorem after_nil (s : Stacks) : s.after [] = s := rfl

theorem after_cons (s : Stacks) (first : Command) (rest : List Command) :
    s.after (first :: rest) = (s.perform first).2.after rest := by
  rw [after, performAll, List.map_cons, List.getLastD_cons]
  rfl

theorem after_append (s : Stacks) (earlier later : List Command) :
    s.after (earlier ++ later) = (s.after earlier).after later := by
  induction earlier generalizing s with
  | nil => rw [List.nil_append, after_nil]
  | cons first rest ih => rw [List.cons_append, after_cons, ih, ← after_cons]

/-- Numbers pushed one after the other lie in reverse. -/
theorem after_numbers (s : Stacks) (numbers : List Float) :
    s.after (numbers.map .pushNumber) = { s with operands := numbers.reverse ++ s.operands } := by
  induction numbers generalizing s with
  | nil => exact s.after_nil
  | cons x rest ih =>
    rw [List.map_cons, after_cons, ih, List.reverse_cons, List.append_assoc]
    rfl

theorem perform_symbol (s : Stacks) (op : Operator) :
    s.perform (.push op.symbol) = (.ok none, { s with operators := op :: s.operators }) := by
  rw [perform, Token.classifyParenthesised_symbol]
  rfl

/-- Operators pushed one after the other lie in reverse. -/
theorem after_symbols (s : Stacks) (ops : List Operator) :
    s.after (ops.map (.push ·.symbol)) = { s with operators := ops.reverse ++ s.operators } := by
  induction ops generalizing s with
  | nil => exact s.after_nil
  | cons op rest ih =>
    rw [List.map_cons, after_cons, perform_symbol, ih, List.reverse_cons, List.append_assoc]
    rfl

/-- **Every pair of stacks** is where some commands lead from empty ones. -/
theorem exists_after (s : Stacks) : ∃ commands, ({} : Stacks).after commands = s := by
  refine ⟨s.operands.reverse.map .pushNumber ++ s.operators.reverse.map (.push ·.symbol), ?_⟩
  rw [after_append, after_numbers, after_symbols, List.reverse_reverse, List.reverse_reverse,
    List.append_nil, List.append_nil]

/-! ## What a reduction takes -/

/-- What a reduction takes from the top. -/
def taken (s : Stacks) : Stacks :=
  { operands := s.operands.take 2, operators := s.operators.take 1 }

theorem operands_taken_append (s : Stacks) :
    s.taken.operands ++ s.remaining.operands = s.operands := List.take_append_drop 2 s.operands

theorem operators_taken_append (s : Stacks) :
    s.taken.operators ++ s.remaining.operators = s.operators :=
  List.take_append_drop 1 s.operators

/-- A reduction does not look beneath what it takes. -/
theorem reduced_taken (order : OperandOrder) {s : Stacks} (h : s.ready = true) :
    s.taken.reduced order = s.reduced order := by
  obtain ⟨top, next, operands, op, operators, rfl⟩ := s.ready_iff.mp h
  cases order with
  | topLeft => rfl
  | topRight => rfl

/-! ## What comes of a reduction -/

/-- **A reduction finds too little** when the guard said so, and it names the
sizes that the guard looked at. -/
theorem reduced_eq_stackUnderflow_iff (order : OperandOrder) (s : Stacks) (m n : Nat) :
    s.reduced order = .error (.stackUnderflow m n) ↔
      s.ready = false ∧ m = s.operands.length ∧ n = s.operators.length := by
  constructor
  · intro h
    rcases reduced_error_cases h with hdivides | ⟨hready, hsizes⟩
    · exact absurd hdivides (by simp)
    · obtain ⟨hm, hn⟩ := EvalError.stackUnderflow.inj hsizes
      exact ⟨hready, hm, hn⟩
  · rintro ⟨hready, rfl, rfl⟩
    exact reduced_of_not_ready order hready

/-- An operand is missing, and the one that was there is gone. -/
example : reduce .topLeft ⟨[1.0], [.plus, .times]⟩
    = (.error (.stackUnderflow 1 2), ⟨[], [.times]⟩) := rfl

/-- The two topmost operands exchanged, where there are two. -/
def exchanged (s : Stacks) : Stacks :=
  match s.operands with
  | top :: next :: below => { s with operands := next :: top :: below }
  | _ => s

/-- Which operand stands on the left is only a matter of which lies on top. The
cases are those of `reduced`; in the short ones nothing is exchanged, or nothing
but the sizes is told. -/
theorem reduce_exchanged (s : Stacks) :
    s.exchanged.reduce .topRight = s.reduce .topLeft := by
  obtain ⟨operands, operators⟩ := s
  match operands, operators with
  | [], _ => rfl
  | [_], _ => rfl
  | _ :: _ :: _, [] => rfl
  | _ :: _ :: _, _ :: _ => rfl

/-- **A reduction and its guard agree** on every pair of stacks that commands
lead to, and every pair is one. The reduction underflows exactly when the guard
found the stacks not ready, and names the sizes that they had. Whatever comes of
it, it has taken up to two operands and one operator from the top and left what
lies beneath in its order; from stacks that were ready it makes what it would
make of the taken ones alone. With the topmost operand on the left it does what
it does, with that operand on the right, to the stacks with the two exchanged. -/
theorem reduce_agrees_with_ready (s : Stacks) (order : OperandOrder) :
    (∃ commands, ({} : Stacks).after commands = s) ∧
      (∀ m n, (s.reduce order).1 = .error (.stackUnderflow m n) ↔
        s.ready = false ∧ m = s.operands.length ∧ n = s.operators.length) ∧
      (∃ top : Stacks,
        s.operands = top.operands ++ (s.reduce order).2.operands ∧
          top.operands.length = min 2 s.operands.length ∧
          s.operators = top.operators ++ (s.reduce order).2.operators ∧
          top.operators.length = min 1 s.operators.length ∧
          (s.ready = true → (s.reduce order).1 = (top.reduce order).1)) ∧
      s.reduce .topLeft = s.exchanged.reduce .topRight := by
  refine ⟨s.exists_after, s.reduced_eq_stackUnderflow_iff order, ?_, s.reduce_exchanged.symm⟩
  have hoperands : s.taken.operands.length = min 2 s.operands.length := List.length_take
  have hoperators : s.taken.operators.length = min 1 s.operators.length := List.length_take
  exact ⟨s.taken, s.operands_taken_append.symm, hoperands, s.operators_taken_append.symm,
    hoperators, fun hready => (reduced_taken order hready).symm⟩

end StackCalculator.Stacks
