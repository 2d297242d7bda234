/-
Polish entries with all of their operators first.

The reading comes to the numbers first and pushes them, so that the first number
lies on top. From there on it makes one reduction for each operator, before it
takes the next: two operands leave at the top, and their value comes in under
all the others. What is left at one end and entered at the other is a queue.
`turn` is what an operator does to it, told without stacks, and `settled_queue`
says that the reading does that and nothing else.

The last reduction is not one of these. No piece is left after the first
operator, so it falls to the draining, which has turned the operands over: it
takes the two numbers that came in last, the very last one on the left. Numbers
that are still waiting are dropped.
-/
import StackCalculator.Proofs.Reading
import Mathlib.Data.List.Basic

set_option autoImplicit false

namespace StackCalculator.Polish

/-! ## The queue -/

/-- **A turn of the queue**: the first two numbers leave it, the operator is
applied to them as they stood, and the result comes in at the end. -/
def turn (op : Operator) : List Float → Except EvalError (List Float)
  | x :: y :: rest => do
    let value ← op.apply x y
    return rest ++ [value]
  | queue => .error (.stackUnderflow queue.length 1)

/-- The queue after a turn for each operator, from the last one written to the
first. -/
def turns (ops : List Operator) (queue : List Float) : Except EvalError (List Float) :=
  ops.foldrM turn queue

theorem turns_cons (op : Operator) (ops : List Operator) (queue : List Float) :
    turns (op :: ops) queue = turns ops queue >>= turn op := List.foldrM_cons

/-! ## Reading is turning the queue -/

/-- Numbers alone are queued as they are written. -/
theorem settled_numbers (numbers : List Numeric) :
    settled (numbers.map Numeric.piece) = .ok ⟨⟨numbers.map Numeric.value, []⟩, []⟩ := by
  induction numbers with
  | nil => exact settled_nil
  | cons n rest ih => exact settled_piece ih n

/-- **Reading operators before numbers turns the queue** once for each operator.
A turn leaves one number fewer, so with more numbers than operators there are
always two to take, and the only way to fail is to divide by a zero. -/
theorem settled_queue {ops : List Operator} {numbers : List Numeric}
    (h : ops.length < numbers.length) :
    (∃ queue results, turns ops (numbers.map Numeric.value) = .ok queue ∧
      queue.length + ops.length = numbers.length ∧
      settled (ops.map Operator.symbol ++ numbers.map Numeric.piece)
        = .ok ⟨⟨queue, []⟩, results⟩) ∨
    (turns ops (numbers.map Numeric.value) = .error .divisionByZero ∧
      settled (ops.map Operator.symbol ++ numbers.map Numeric.piece)
        = .error .divisionByZero) := by
  induction ops with
  | nil =>
    refine .inl ⟨numbers.map Numeric.value, [], rfl, ?_, settled_numbers numbers⟩
    simp
  | cons op ops ih =>
    rw [turns_cons, List.map_cons, List.cons_append]
    rcases ih (Nat.lt_of_succ_lt h) with ⟨queue, results, hturns, hlength, hrest⟩ | ⟨hturns, hrest⟩
    · -- the two numbers that the operator takes are there
      rcases queue with _ | ⟨x, _ | ⟨y, waiting⟩⟩
      · simp only [List.length_cons, List.length_nil] at h hlength
        omega
      · simp only [List.length_cons, List.length_nil] at h hlength
        omega
      have hsettled :=
        (settled_of_read (read_symbol hrest op)).trans (settle_once results (.inr rfl))
      rw [hturns, ok_bind, turn, hsettled]
      rcases op.apply_cases x y with ⟨value, hvalue⟩ | hvalue
      · rw [hvalue]
        refine .inl ⟨waiting ++ [value], value :: results, rfl, ?_, rfl⟩
        simp only [List.length_append, List.length_cons, List.length_nil] at hlength ⊢
        omega
      · rw [hvalue]
        exact .inr ⟨rfl, rfl⟩
    · rw [hturns]
      exact .inr ⟨rfl, settled_cons_error hrest op.symbol⟩

/-! ## The answer -/

/-- The two numbers that came in last. -/
theorem exists_last_two {queue : List Float} (h : 2 ≤ queue.length) :
    ∃ waiting y z, queue = waiting ++ [y, z] := by
  have hlast : (queue.drop (queue.length - 2)).length = 2 := by
    rw [List.length_drop]
    omega
  obtain ⟨y, z, hyz⟩ := List.length_eq_two.mp hlast
  exact ⟨queue.take (queue.length - 2), y, z, by rw [← hyz, List.take_append_drop]⟩

/-- **Operators before numbers are worked off by a queue.** It starts with the
numbers as they are written, and each operator but the first has a turn, from
the last of them on. If a turn divides by a zero, so does the entry. Otherwise
the first operator is applied to the two numbers that came in last, the very
last on the left, and its value is added to zero; what else waits in the queue
is dropped. -/
theorem evaluate_queue (first : Operator) (others : List Operator) (numbers : List Numeric)
    (hlength : 4 ≤ (first :: others).length + numbers.length)
    (hsurplus : (first :: others).length ≤ numbers.length - 1) :
    let pieces := (first :: others).map Operator.symbol ++ numbers.map Numeric.piece
    let queue := turns others (numbers.map Numeric.value)
    (queue = .error .divisionByZero ∧ evaluate pieces = .error .divisionByZero) ∨
      ∃ waiting y z, queue = .ok (waiting ++ [y, z]) ∧
        evaluate pieces = do
          let value ← first.apply z y
          return 0.0 + value := by
  intro pieces queue
  have hpieces : 4 ≤ pieces.length := by
    show 4 ≤ ((first :: others).map Operator.symbol ++ numbers.map Numeric.piece).length
    rwa [List.length_append, List.length_map, List.length_map]
  rw [List.length_cons] at hsurplus
  rw [evaluate_eq_reduceAll (.inr hpieces)]
  have hturned : others.length < numbers.length := by omega
  rcases settled_queue hturned with
    ⟨final, results, hturns, hfinal, hsettled⟩ | ⟨hturns, hsettled⟩
  · have htwo : 2 ≤ final.length := by omega
    obtain ⟨waiting, y, z, rfl⟩ := exists_last_two htwo
    refine .inr ⟨waiting, y, z, hturns, ?_⟩
    have hready : Stacks.ready ⟨waiting ++ [y, z], [first]⟩ = true := by
      rw [Stacks.ready_iff_length]
      simp
    -- turned over, the queue starts with what came in last
    have hreverse : (waiting ++ [y, z]).reverse = z :: y :: waiting.reverse := by simp
    have hreduced : (Stacks.turned ⟨waiting ++ [y, z], [first]⟩).reduced .topLeft
        = first.apply z y := by
      rw [Stacks.turned, hreverse]
      rfl
    have hvalue := reduceAll_once (read_symbol hsettled first) hready (.inr rfl)
    rwa [hreduced] at hvalue
  · exact .inl ⟨hturns, reduceAll_error (read_cons_error hsettled first.symbol)⟩

/-- In `- + * 1 2 3 4 5` the product and then the sum of what is first are queued,
which leaves `5`, `2` and `7`; the answer is `7 - 2`, and the `5` is dropped. -/
theorem evaluate_queue_dropping :
    let numbers : List Numeric := [⟨"1", 1.0, by decide +kernel⟩, ⟨"2", 2.0, by decide +kernel⟩,
      ⟨"3", 3.0, by decide +kernel⟩, ⟨"4", 4.0, by decide +kernel⟩, ⟨"5", 5.0, by decide +kernel⟩]
    4 ≤ [Operator.minus, .plus, .times].length + numbers.length ∧
      [Operator.minus, .plus, .times].length ≤ numbers.length - 1 ∧
      turns [.plus, .times] (numbers.map Numeric.value) = .ok [5.0, 2.0, 7.0] ∧
      evaluate ["-", "+", "*", "1", "2", "3", "4", "5"] = .ok 5.0 := by
  intro numbers
  have hturns : turns [.plus, .times] (numbers.map Numeric.value) = .ok [5.0, 2.0, 7.0] := by
    decide +kernel
  have hlength : 4 ≤ [Operator.minus, .plus, .times].length + numbers.length := by decide
  have hsurplus : [Operator.minus, .plus, .times].length ≤ numbers.length - 1 := by decide
  refine ⟨hlength, hsurplus, hturns, ?_⟩
  rcases evaluate_queue .minus [.plus, .times] numbers hlength hsurplus with
    ⟨hdivides, -⟩ | ⟨waiting, y, z, hqueue, hvalue⟩
  · rw [hturns] at hdivides
    exact absurd hdivides (by simp)
  · -- the two ways to name what is left in the queue are one
    have hsame : [(5.0 : Float)] ++ [2.0, 7.0] = waiting ++ [y, z] :=
      Except.ok.inj (hturns.symm.trans hqueue)
    obtain ⟨-, hlast⟩ := List.append_inj' hsame rfl
    simp only [List.cons.injEq] at hlast
    obtain ⟨rfl, rfl, -⟩ := hlast
    exact hvalue.trans (by decide +kernel)

end StackCalculator.Polish
