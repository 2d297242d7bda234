/-
What a computation that may fail comes to.

A chain of steps gives a value exactly when every step does, and otherwise the
error of the first that fails. Applying an operator is the only step on numbers
that fails, and it fails in one way, by dividing by a zero; so once the stacks
hold two operands and an operator, a reduction can fail in no other way.
-/
import StackCalculator.Stacks

set_option autoImplicit false

namespace StackCalculator

/-! ## Chains of steps -/

section Chains

variable {α β : Type} {outcome : Except EvalError α} {next : α → Except EvalError β}

@[simp] theorem ok_bind (a : α) (f : α → Except EvalError β) : (Except.ok a >>= f) = f a := rfl

@[simp] theorem error_bind (e : EvalError) (f : α → Except EvalError β) :
    (Except.error e >>= f) = Except.error e := rfl

theorem bind_eq_ok {b : β} :
    (outcome >>= next) = .ok b ↔ ∃ a, outcome = .ok a ∧ next a = .ok b := by
  rcases outcome with e | a
  · simp
  · simp

theorem bind_eq_error {e : EvalError} :
    (outcome >>= next) = .error e ↔ outcome = .error e ∨ ∃ a, outcome = .ok a ∧ next a = .error e := by
  rcases outcome with d | a
  · simp
  · simp

/-- A last step that cannot fail leaves the failures as they are. -/
theorem bind_return_eq_error {f : α → β} {e : EvalError} :
    (outcome >>= fun a => return f a) = .error e ↔ outcome = .error e := by
  rcases outcome with e' | a
  · rw [error_bind, Except.error.injEq, Except.error.injEq]
  · exact ⟨nofun, nofun⟩

theorem bind_return_eq_ok {f : α → β} :
    (∃ b, (outcome >>= fun a => return f a) = .ok b) ↔ ∃ a, outcome = .ok a := by
  rcases outcome with e | a
  · exact ⟨nofun, nofun⟩
  · exact ⟨fun _ => ⟨a, rfl⟩, fun _ => ⟨f a, rfl⟩⟩

end Chains

/-! ## Applying an operator -/

namespace Operator

/-- **Applying an operator** gives a number, or divides by a zero. -/
theorem apply_cases (op : Operator) (left right : Float) :
    (∃ x, op.apply left right = .ok x) ∨ op.apply left right = .error .divisionByZero := by
  cases op with
  | plus => exact .inl ⟨_, rfl⟩
  | minus => exact .inl ⟨_, rfl⟩
  | times => exact .inl ⟨_, rfl⟩
  | divide =>
    -- the only operator that looks at an operand before it computes
    unfold apply
    by_cases hzero : right == 0.0
    · exact .inr (if_pos hzero)
    · exact .inl ⟨_, if_neg hzero⟩

end Operator

/-! ## Reducing -/

namespace Stacks

/-- Stacks are ready when two operands and an operator can be named. The cases
are those in which a reduction finds too little. -/
theorem ready_iff (s : Stacks) :
    s.ready = true ↔ ∃ top next operands op operators,
      s = ⟨top :: next :: operands, op :: operators⟩ := by
  obtain ⟨operands, operators⟩ := s
  match operands, operators with
  | [], _ => simp [ready]
  | [_], _ => simp [ready]
  | _ :: _ :: _, [] => simp [ready]
  | _ :: _ :: _, _ :: _ => simp [ready]

theorem ready_iff_length (s : Stacks) :
    s.ready = true ↔ 2 ≤ s.operands.length ∧ 0 < s.operators.length := by
  simp [ready, List.isEmpty_eq_false_iff, List.length_pos_iff]

theorem not_ready_iff_length (s : Stacks) :
    s.ready = false ↔ s.operands.length < 2 ∨ s.operators.length = 0 := by
  rw [← Bool.not_eq_true, ready_iff_length]
  omega

/-- A number that makes stacks ready is the second operand there. -/
theorem length_operands_of_ready_pushTop {s : Stacks} {x : Float} (h : s.ready = false)
    (hready : (s.pushTop x).ready = true) : (s.pushTop x).operands.length = 2 := by
  have hshort := (not_ready_iff_length s).mp h
  have hlong := (ready_iff_length (s.pushTop x)).mp hready
  simp only [pushTop, List.length_cons] at hlong ⊢
  omega

/-- An operator that makes stacks ready is the only one there. -/
theorem length_operators_of_ready_cons {s : Stacks} {op : Operator} (h : s.ready = false)
    (hready : ({ s with operators := op :: s.operators } : Stacks).ready = true) :
    (op :: s.operators).length = 1 := by
  have hshort := (not_ready_iff_length s).mp h
  have hlong := (ready_iff_length _).mp hready
  simp only [List.length_cons] at hlong ⊢
  omega

@[simp] theorem ready_turned (s : Stacks) : s.turned.ready = s.ready := by
  simp [ready, turned]

/-- A reduction of stacks that are ready gives a number, or divides by a zero. -/
theorem reduced_cases (order : OperandOrder) {s : Stacks} (h : s.ready = true) :
    (∃ x, s.reduced order = .ok x) ∨ s.reduced order = .error .divisionByZero := by
  obtain ⟨top, next, operands, op, operators, rfl⟩ := s.ready_iff.mp h
  cases order with
  | topLeft => exact op.apply_cases top next
  | topRight => exact op.apply_cases next top

/-- A reduction of stacks that are not ready names their sizes. -/
theorem reduced_of_not_ready (order : OperandOrder) {s : Stacks} (h : s.ready = false) :
    s.reduced order = .error (.stackUnderflow s.operands.length s.operators.length) := by
  obtain ⟨operands, operators⟩ := s
  match operands, operators, h with
  | [], _, _ => rfl
  | [_], _, _ => rfl
  | _ :: _ :: _, [], _ => rfl
  | _ :: _ :: _, _ :: _, h => simp [ready] at h

/-- A reduction that gives a number was of stacks that are ready. -/
theorem ready_of_reduced {order : OperandOrder} {s : Stacks} {x : Float}
    (h : s.reduced order = .ok x) : s.ready = true := by
  rw [← Bool.not_eq_false]
  intro hshort
  rw [reduced_of_not_ready order hshort] at h
  exact absurd h (by simp)

/-- **A reduction that fails** divides by a zero, or has too little to reduce. -/
theorem reduced_error_cases {order : OperandOrder} {s : Stacks} {e : EvalError}
    (h : s.reduced order = .error e) :
    e = .divisionByZero ∨
      (s.ready = false ∧ e = .stackUnderflow s.operands.length s.operators.length) := by
  by_cases hready : s.ready = true
  · rcases s.reduced_cases order hready with ⟨x, hx⟩ | hx
    · exact absurd (hx.symm.trans h) (by simp)
    · exact .inl (Except.error.inj (h.symm.trans hx))
  · have hready := Bool.eq_false_iff.mpr hready
    exact .inr ⟨hready, Except.error.inj (h.symm.trans (reduced_of_not_ready order hready))⟩

/-- Every reduction gives a number, divides by a zero or names the sizes. -/
theorem reduced_outcomes (order : OperandOrder) (s : Stacks) :
    (∃ x, s.reduced order = .ok x) ∨ s.reduced order = .error .divisionByZero ∨
      s.reduced order = .error (.stackUnderflow s.operands.length s.operators.length) := by
  by_cases h : s.ready = true
  · exact (s.reduced_cases order h).imp_right .inl
  · exact .inr (.inr (reduced_of_not_ready order (Bool.eq_false_iff.mpr h)))

end Stacks
end StackCalculator
