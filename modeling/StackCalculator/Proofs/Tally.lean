/-
How many reductions a Polish entry comes to.

Each reduction uses up an operator and leaves one operand fewer. So the lengths
of the stacks and the number of reductions made are tied to what was read: both
stacks, with the reductions made so far, account for all the numbers and all
the operators. That is `Tally`, and it holds along the reading whatever the
order of the pieces. Where the stacks are settled it determines the number of
reductions, and with the piece read last it decides whether one is left for the
draining. There is never a second: the stacks were settled before that piece,
so it brings two operands at most, or a single operator.
-/
import StackCalculator.Proofs.Reading

set_option autoImplicit false

namespace StackCalculator.Polish

/-! ## The account of a reading -/

/-- **The account of a reading** of so many numbers and operators. -/
structure Tally (numbers operators : Nat) (r : Reading) : Prop where
  operands : r.held.operands.length + r.results.length = numbers
  operators : r.held.operators.length + r.results.length = operators
  /-- Reductions leave an operand where there was any. -/
  remains : 0 < numbers → 0 < r.held.operands.length

namespace Tally

variable {n m : Nat} {r : Reading}

theorem start : Tally 0 0 {} := ⟨rfl, rfl, id⟩

theorem pushTop (h : Tally n m r) (x : Float) :
    Tally (n + 1) m { r with held := r.held.pushTop x } := by
  obtain ⟨hoperands, hoperators, -⟩ := h
  refine ⟨?_, hoperators, fun _ => Nat.succ_pos _⟩
  simp only [Stacks.pushTop, List.length_cons]
  omega

theorem pushOperator (h : Tally n m r) (op : Operator) :
    Tally n (m + 1) { r with held.operators := op :: r.held.operators } := by
  obtain ⟨hoperands, hoperators, hremains⟩ := h
  refine ⟨hoperands, ?_, hremains⟩
  simp only [List.length_cons]
  omega

theorem reduce (h : Tally n m r) (hready : r.held.ready = true) (value : Float) :
    Tally n m ⟨r.held.remaining.pushBottom value, value :: r.results⟩ := by
  obtain ⟨hoperands, hoperators, -⟩ := h
  obtain ⟨top, next, operands, op, operators, hheld⟩ := r.held.ready_iff.mp hready
  rw [hheld] at hoperands hoperators ⊢
  simp only [List.length_cons] at hoperands hoperators
  -- two operands and an operator are gone, one operand and one result have come
  refine ⟨?_, ?_, fun _ => ?_⟩
  all_goals
    simp only [Stacks.remaining, Stacks.pushBottom, List.drop_succ_cons, List.drop_zero,
      List.length_append, List.length_cons, List.length_nil]
    omega

/-- **Settling keeps the account**, and leaves the stacks not ready. -/
theorem settle (h : Tally n m r) :
    Polish.settle r = .error .divisionByZero ∨
      ∃ t, Polish.settle r = .ok t ∧ Tally n m t ∧ t.held.ready = false := by
  fun_induction Polish.settle r with
  | case1 r hready ih =>
    rcases Stacks.reduced_cases .topLeft hready with ⟨value, hvalue⟩ | hvalue
    · -- the loop goes on from stacks of the same account
      rw [hvalue, ok_bind]
      exact ih value (h.reduce hready value)
    · rw [hvalue]
      exact .inl rfl
  | case2 r hready => exact .inr ⟨r, rfl, h, by simpa using hready⟩

/-! ## What the account decides -/

/-- **Settled stacks** have made every reduction that the counts allow. -/
theorem length_results (h : Tally n m r) (hready : r.held.ready = false) :
    r.results.length = min m (n - 1) := by
  obtain ⟨hoperands, hoperators, hremains⟩ := h
  rw [Stacks.not_ready_iff_length] at hready
  omega

/-- With a single reduction to come, it is the last one that the counts allow. -/
theorem length_results_succ (h : Tally n m r) (hready : r.held.ready = true)
    (hsingle : r.held.operands.length = 2 ∨ r.held.operators.length = 1) :
    r.results.length + 1 = min m (n - 1) := by
  obtain ⟨hoperands, hoperators, -⟩ := h
  rw [Stacks.ready_iff_length] at hready
  omega

theorem ready_pushTop_iff (h : Tally n m r) (hready : r.held.ready = false) (x : Float) :
    (r.held.pushTop x).ready = true ↔ 1 ≤ n ∧ n ≤ m := by
  obtain ⟨hoperands, hoperators, hremains⟩ := h
  rw [Stacks.not_ready_iff_length] at hready
  rw [Stacks.ready_iff_length]
  simp only [Stacks.pushTop, List.length_cons]
  omega

theorem ready_pushOperator_iff (h : Tally n m r) (hready : r.held.ready = false)
    (op : Operator) :
    ({ r.held with operators := op :: r.held.operators } : Stacks).ready = true
      ↔ m + 1 < n := by
  obtain ⟨hoperands, hoperators, hremains⟩ := h
  rw [Stacks.not_ready_iff_length] at hready
  rw [Stacks.ready_iff_length]
  simp only [List.length_cons]
  omega

end Tally

/-! ## The account of an entry -/

def operatorCount (pieces : List String) : Nat := pieces.countP Pieces.isOperator

def numberCount (pieces : List String) : Nat := pieces.countP Pieces.isNumber

/-- Every piece is an operator or a number. -/
def Valid (pieces : List String) : Prop :=
  ∀ p ∈ pieces, Pieces.isOperator p = true ∨ Pieces.isNumber p = true

instance (pieces : List String) : Decidable (Valid pieces) :=
  inferInstanceAs (Decidable (∀ p ∈ pieces, _))

/-- **The pieces leave a reduction to the draining**: the one that the piece
read last, which is the first of them, made possible. -/
def LeavesOne : List String → Prop
  | [] => False
  | first :: rest =>
    (Pieces.isOperator first = true ∧ operatorCount (first :: rest) < numberCount (first :: rest))
    ∨ (Pieces.isNumber first = true ∧ 2 ≤ numberCount (first :: rest) ∧
      numberCount (first :: rest) ≤ operatorCount (first :: rest) + 1)

instance : DecidablePred LeavesOne
  | [] => inferInstanceAs (Decidable False)
  | _ :: _ => inferInstanceAs (Decidable (_ ∨ _))

/-- **The account of a reading that is settled.** -/
theorem settled_tally {pieces : List String} (hvalid : Valid pieces) :
    settled pieces = .error .divisionByZero ∨
      ∃ t, settled pieces = .ok t ∧ Tally (numberCount pieces) (operatorCount pieces) t ∧
        t.held.ready = false := by
  induction pieces with
  | nil => exact .inr ⟨{}, settled_nil, Tally.start, rfl⟩
  | cons first rest ih =>
    rcases ih (fun p hp => hvalid p (List.mem_cons_of_mem first hp)) with
      hrest | ⟨t, hrest, htally, -⟩
    · exact .inl (settled_cons_error hrest first)
    -- that the stacks were settled before the push plays no part in the counts
    rcases hvalid first List.mem_cons_self with hfirst | hfirst
    · obtain ⟨op, rfl⟩ := Pieces.eq_symbol_of_isOperator hfirst
      rw [settled_of_read (read_symbol hrest op)]
      simpa [numberCount, operatorCount] using (htally.pushOperator op).settle
    · obtain ⟨n, rfl⟩ := Pieces.eq_piece_of_isNumber hfirst
      rw [settled_of_read (read_piece hrest n)]
      simpa [numberCount, operatorCount] using (htally.pushTop n.value).settle

/-- **The account of a reading that is not settled.** One piece was pushed on
settled stacks, so there is a single reduction to come, if there is one. -/
theorem read_tally {pieces : List String} (hvalid : Valid pieces) :
    read pieces = .error .divisionByZero ∨
      ∃ r, read pieces = .ok r ∧ Tally (numberCount pieces) (operatorCount pieces) r ∧
        (r.held.ready = true ↔ LeavesOne pieces) ∧
        (r.held.ready = true → r.held.operands.length = 2 ∨ r.held.operators.length = 1) := by
  cases pieces with
  | nil => exact .inr ⟨{}, rfl, Tally.start, by simp [LeavesOne, Stacks.ready], nofun⟩
  | cons first rest =>
    rcases settled_tally (fun p hp => hvalid p (List.mem_cons_of_mem first hp)) with
      hrest | ⟨t, hrest, htally, hready⟩
    · exact .inl (read_cons_error hrest first)
    -- here it does: the piece pushed on settled stacks is all that makes them ready
    rcases hvalid first List.mem_cons_self with hfirst | hfirst
    · obtain ⟨op, rfl⟩ := Pieces.eq_symbol_of_isOperator hfirst
      refine .inr ⟨_, read_symbol hrest op, ?_, ?_, fun h => ?_⟩
      · simpa [numberCount, operatorCount] using htally.pushOperator op
      · rw [htally.ready_pushOperator_iff hready]
        simp [LeavesOne, numberCount, operatorCount]
      · exact .inr (Stacks.length_operators_of_ready_cons hready h)
    · obtain ⟨n, rfl⟩ := Pieces.eq_piece_of_isNumber hfirst
      refine .inr ⟨_, read_piece hrest n, ?_, ?_, fun h => ?_⟩
      · simpa [numberCount, operatorCount] using htally.pushTop n.value
      · rw [htally.ready_pushTop_iff hready]
        simp [LeavesOne, numberCount, operatorCount]
      · exact .inl (Stacks.length_operands_of_ready_pushTop hready h)

/-! ## The answer -/

/-- **What the general reduction of a valid entry comes to**, when it does not
divide by a zero. The draining makes one reduction or none, so its sum never
has two terms; `LeavesOne` says which, from the counts and the first piece. With
none the answer is zero, whatever the numbers are. In the two phases together
there are as many reductions as operators, or one fewer than numbers, whichever
is less. -/
theorem evaluate_of_valid {pieces : List String}
    (hlength : pieces.length = 0 ∨ 4 ≤ pieces.length) (hvalid : Valid pieces)
    (hdivision : evaluate pieces ≠ .error .divisionByZero) :
    ∃ reading drained, read pieces = .ok reading ∧
      drain reading.held.turned = .ok drained ∧
      drained.length ≤ 1 ∧
      (drained.length = 1 ↔ LeavesOne pieces) ∧
      (LeavesOne pieces → ∃ r, reading.held.turned.reduced .topLeft = .ok r ∧
        drained = [r] ∧ evaluate pieces = .ok (0.0 + r)) ∧
      (¬ LeavesOne pieces → evaluate pieces = .ok 0.0) ∧
      reading.results.length + drained.length
        = min (operatorCount pieces) (numberCount pieces - 1) := by
  rw [evaluate_eq_reduceAll hlength, reduceAll_eq] at hdivision ⊢
  rcases read_tally hvalid with hread | ⟨r, hread, htally, hleaves, hsingle⟩
  · rw [hread] at hdivision
    exact absurd rfl hdivision
  rw [hread, ok_bind] at hdivision ⊢
  by_cases hready : r.held.ready = true
  · have hturned : r.held.turned.ready = true := by rw [Stacks.ready_turned, hready]
    have hdrain := drain_turned_once hready (hsingle hready)
    have hleft : LeavesOne pieces := hleaves.mp hready
    have hcount := htally.length_results_succ hready (hsingle hready)
    -- the reduction that is left has a value, since the entry divides by no zero
    rcases Stacks.reduced_cases .topLeft hturned with ⟨value, hvalue⟩ | hvalue
    · rw [hvalue] at hdrain
      rw [hdrain]
      exact ⟨r, [value], rfl, hdrain, Nat.le_refl 1, iff_of_true rfl hleft,
        fun _ => ⟨value, hvalue, rfl, rfl⟩, fun h => absurd hleft h, hcount⟩
    · rw [hdrain, hvalue] at hdivision
      exact absurd rfl hdivision
  · have hnot : r.held.ready = false := Bool.eq_false_iff.mpr hready
    have hdrain : drain r.held.turned = .ok [] :=
      drain_of_not_ready (by rw [Stacks.ready_turned, hnot])
    have hleft : ¬ LeavesOne pieces := fun h => hready (hleaves.mpr h)
    rw [hdrain]
    exact ⟨r, [], rfl, hdrain, Nat.zero_le 1, iff_of_false (by simp) hleft,
      fun h => absurd h hleft, fun _ => rfl, htally.length_results hnot⟩

/-- Nine pieces of which one reduction is left to the draining: the reading
makes the other three. -/
theorem evaluate_of_valid_difference :
    let pieces := ["-", "/", "10", "+", "1", "1", "*", "1", "2"]
    4 ≤ pieces.length ∧ Valid pieces ∧ evaluate pieces ≠ .error .divisionByZero ∧
      ∃ reading drained, read pieces = .ok reading ∧
        drain reading.held.turned = .ok drained ∧ drained.length = 1 ∧
        reading.results.length + drained.length = 4 := by
  intro pieces
  have hlength : 4 ≤ pieces.length := by decide
  have hvalid : Valid pieces := by decide +kernel
  have hleaves : LeavesOne pieces := by decide +kernel
  have hdivision : evaluate pieces ≠ .error .divisionByZero := by
    intro h
    have hok : (evaluate pieces).isOk = true := by decide +kernel
    rw [h] at hok
    exact absurd hok (by decide)
  obtain ⟨reading, drained, hread, hdrain, -, hone, -, -, hcount⟩ :=
    evaluate_of_valid (.inr hlength) hvalid hdivision
  have hcounts : min (operatorCount pieces) (numberCount pieces - 1) = 4 := by decide +kernel
  exact ⟨hlength, hvalid, hdivision, reading, drained, hread, hdrain, hone.mpr hleaves,
    hcount.trans hcounts⟩

end StackCalculator.Polish
