/-
Where a parenthesised reading stops.

A reading that fails does so at one token, for a reason that lies there: the
token is malformed, or it is a closing parenthesis with no level to come back
to, with too little to reduce or with a zero to divide by. `Stops` lists these
reasons and `scan_stops` finds the token; what stands before it was read, so
nothing there is malformed, and what stands after it is never looked at.

The entry has no part in this beyond being named. Read for another entry, the
same tokens stop at the same place with the same error, in which the other
entry is named (`scan_naming`). So an error that names none is the error of
every longer entry as well, provided that the shorter one was read at all. The
count made beforehand, which looks at the whole entry, does not get in the way:
an entry that it may refuse holds parentheses alone, and has no operand to fail
with.
-/
import StackCalculator.Proofs.Balance

set_option autoImplicit false

namespace StackCalculator

/-- **The same error for another entry**, which is named where an entry is. -/
def EvalError.naming (entry : String) : EvalError → EvalError
  | malformedInput _ => malformedInput entry
  | unbalancedParentheses _ => unbalancedParentheses entry
  | e => e

namespace Parenthesised

variable {entry token : String} {s t : Scan} {tokens : List String} {e : EvalError}

/-! ## Classes of tokens -/

/-- Whether a token is neither a parenthesis, nor an operator, nor a number. -/
def isMalformed (token : String) : Bool := !isParenthesis token && Pieces.isMalformed token

/-- **Every token** is a parenthesis, an operator, a number or malformed. -/
theorem token_cases (token : String) :
    token = "(" ∨ token = ")" ∨ (∃ op : Operator, token = op.symbol) ∨
      (∃ n : Numeric, token = n.piece) ∨ isMalformed token = true := by
  by_cases hopening : token = "("
  · exact .inl hopening
  by_cases hclosing : token = ")"
  · exact .inr (.inl hclosing)
  refine .inr (.inr ((Pieces.piece_cases token).imp_right (Or.imp_right fun hmalformed => ?_)))
  rw [isMalformed, isParenthesis, beq_false_of_ne hopening, beq_false_of_ne hclosing, hmalformed]
  rfl

theorem step_of_isMalformed (entry : String) (s : Scan) (h : isMalformed token = true) :
    step entry s token = .error (.malformedToken token) := by
  rw [isMalformed, Bool.and_eq_true] at h
  obtain ⟨hparen, hpiece⟩ := h
  have hopening : token ≠ "(" := fun h => by rw [h] at hparen; exact absurd hparen (by decide)
  have hclosing : token ≠ ")" := fun h => by rw [h] at hparen; exact absurd hparen (by decide)
  rw [step_eq_bind, Token.classifyParenthesised, if_neg hopening, if_neg hclosing,
    Token.classify_of_isMalformed hpiece]
  rfl

/-! ## Stopping -/

/-- **The reasons to stop** at a token, in the state that it is met in. -/
inductive Stops (entry : String) (s : Scan) : String → EvalError → Prop where
  | malformed {token : String} (h : isMalformed token = true) :
      Stops entry s token (.malformedToken token)
  | unopened (h : s.depth = 0) : Stops entry s ")" (.unbalancedParentheses entry)
  | underflow (h : s.held.ready = false) :
      Stops entry s ")" (.stackUnderflow s.held.operands.length s.held.operators.length)
  | division (h : s.held.reduced .topRight = .error .divisionByZero) :
      Stops entry s ")" .divisionByZero

/-- **A step that fails** has one of these reasons. -/
theorem step_stops (h : step entry s token = .error e) : Stops entry s token e := by
  rcases token_cases token with rfl | rfl | ⟨op, rfl⟩ | ⟨n, rfl⟩ | hmalformed
  · exact absurd h nofun
  · obtain ⟨held, depth⟩ := s
    rcases depth with _ | outer
    · rw [step_unopened, Except.error.injEq] at h
      rw [← h]
      exact .unopened rfl
    · rw [step_reduce, bind_return_eq_error] at h
      rcases Stacks.reduced_error_cases h with rfl | ⟨hready, rfl⟩
      · exact .division h
      · exact .underflow hready
  · rw [step_symbol] at h
    exact absurd h nofun
  · rw [step_piece] at h
    exact absurd h nofun
  · rw [step_of_isMalformed entry s hmalformed, Except.error.injEq] at h
    rw [← h]
    exact .malformed hmalformed

/-- **A reading that fails** does so at one token, once it has read those before. -/
theorem scan_fails (h : scan entry s tokens = .error e) :
    ∃ before token after t, tokens = before ++ token :: after ∧
      scan entry s before = .ok t ∧ step entry t token = .error e := by
  induction tokens generalizing s with
  | nil => exact absurd h nofun
  | cons token rest ih =>
    rw [scan_cons] at h
    rcases hstep : step entry s token with d | u
    · rw [hstep, error_bind, Except.error.injEq] at h
      rw [h] at hstep
      exact ⟨[], token, rest, s, rfl, rfl, hstep⟩
    · rw [hstep, ok_bind] at h
      obtain ⟨before, stop, after, t, rfl, hbefore, hfails⟩ := ih h
      refine ⟨token :: before, stop, after, t, rfl, ?_, hfails⟩
      rw [scan_cons, hstep, ok_bind, hbefore]

/-- It has a reason to stop there. -/
theorem scan_stops (h : scan entry s tokens = .error e) :
    ∃ before token after t, tokens = before ++ token :: after ∧
      scan entry s before = .ok t ∧ Stops entry t token e := by
  obtain ⟨before, token, after, t, htokens, hbefore, hstep⟩ := scan_fails h
  exact ⟨before, token, after, t, htokens, hbefore, step_stops hstep⟩

/-- What was read has nothing malformed in it. -/
theorem find?_of_scan_eq_ok (h : scan entry s tokens = .ok t) :
    tokens.find? isMalformed = none := by
  induction tokens generalizing s with
  | nil => rfl
  | cons token rest ih =>
    rw [scan_cons, bind_eq_ok] at h
    obtain ⟨u, hu, hrest⟩ := h
    have hwell : ¬ isMalformed token = true := by
      intro hmalformed
      rw [step_of_isMalformed entry s hmalformed] at hu
      exact absurd hu nofun
    rw [List.find?_cons_of_neg hwell]
    exact ih hrest

/-- A token is named by the error only if it is the first that is malformed. -/
theorem find?_of_scan_eq_error {x : String}
    (h : scan entry s tokens = .error (.malformedToken x)) :
    tokens.find? isMalformed = some x := by
  obtain ⟨before, token, after, t, rfl, hbefore, hstops⟩ := scan_stops h
  cases hstops with
  | malformed hmalformed =>
    rw [List.find?_append, find?_of_scan_eq_ok hbefore, List.find?_cons_of_pos hmalformed]
    rfl

/-! ## Another entry -/

theorem mapError_error {α : Type} (e : EvalError) (f : EvalError → EvalError) :
    (Except.error e : Except EvalError α).mapError f = .error (f e) := rfl

theorem mapError_bind {α β : Type} (outcome : Except EvalError α) (next : α → Except EvalError β)
    (f : EvalError → EvalError) :
    (outcome >>= next).mapError f = outcome.mapError f >>= fun a => (next a).mapError f := by
  cases outcome <;> rfl

theorem step_naming (entry other : String) (s : Scan) (token : String) :
    step other s token = (step entry s token).mapError (EvalError.naming other) := by
  rcases token_cases token with rfl | rfl | ⟨op, rfl⟩ | ⟨n, rfl⟩ | hmalformed
  · rfl
  · obtain ⟨held, depth⟩ := s
    rcases depth with _ | outer
    · rfl
    · rw [step_reduce, step_reduce]
      rcases held.reduced_outcomes .topRight with ⟨x, hx⟩ | hx | hx
      · rw [hx]
        rfl
      · rw [hx]
        rfl
      · rw [hx]
        rfl
  · rw [step_symbol, step_symbol]
    rfl
  · rw [step_piece, step_piece]
    rfl
  · rw [step_of_isMalformed other s hmalformed, step_of_isMalformed entry s hmalformed]
    rfl

/-- **Read for another entry**, tokens come to the same, and an error that names
the entry names the other one. -/
theorem scan_naming (entry other : String) (s : Scan) (tokens : List String) :
    scan other s tokens = (scan entry s tokens).mapError (EvalError.naming other) := by
  induction tokens generalizing s with
  | nil => rfl
  | cons token rest ih =>
    rw [scan_cons, scan_cons, mapError_bind, ← step_naming]
    exact bind_congr ih

/-! ## Longer entries -/

/-- **A lasting error**: a malformed token, a division by zero, or too little to
reduce where there was a number already. -/
def Lasting : EvalError → Prop
  | .malformedToken _ | .divisionByZero => True
  | .stackUnderflow operands _ => 0 < operands
  | _ => False

theorem Lasting.naming_eq (h : Lasting e) (other : String) : e.naming other = e := by
  cases e with
  | malformedInput entry => exact h.elim
  | unbalancedParentheses entry => exact h.elim
  | _ => rfl

/-- The end of a reading has no such error. -/
theorem not_lasting_of_answer (h : answer entry s = .error e) : ¬ Lasting e := by
  unfold answer at h
  split at h
  · rw [← Except.error.inj h]
    exact id
  · split at h
    · exact absurd h nofun
    · rw [← Except.error.inj h]
      exact Nat.lt_irrefl 0

/-- Nor has an entry of parentheses alone. -/
theorem not_lasting_of_all_isParenthesis {pieces : List String}
    (hparen : (pieces.flatMap Pieces.burst).all isParenthesis = true)
    (h : evaluate pieces = .error e) : ¬ Lasting e := by
  by_cases hbalanced : Balanced (pieces.flatMap Pieces.burst)
  · rw [evaluate_of_balanced_or (.inr hbalanced),
      scan_parentheses _ hparen ((foldlM_level_eq_some_zero_iff _).mpr hbalanced)] at h
    rw [← Except.error.inj h]
    exact Nat.lt_irrefl 0
  · rw [evaluate_of_not_balanced hparen hbalanced] at h
    rw [← Except.error.inj h]
    exact id

/-- **A lasting error** is found by the reading, at a token. -/
theorem scan_of_lasting {pieces : List String} (hlasting : Lasting e)
    (h : evaluate pieces = .error e) :
    (pieces.flatMap Pieces.burst).all isParenthesis = false ∧
      scan (Pieces.join pieces) {} (pieces.flatMap Pieces.burst) = .error e := by
  have hparen : (pieces.flatMap Pieces.burst).all isParenthesis = false :=
    Bool.eq_false_iff.mpr fun hparen => not_lasting_of_all_isParenthesis hparen h hlasting
  refine ⟨hparen, ?_⟩
  rw [evaluate_of_balanced_or (.inl hparen)] at h
  rcases hscan : scan (Pieces.join pieces) {} (pieces.flatMap Pieces.burst) with d | t
  · rw [hscan, error_bind, Except.error.injEq] at h
    rw [h]
  · rw [hscan, ok_bind] at h
    exact absurd hlasting (not_lasting_of_answer h)

/-- **Errors are reported in reading order.** A lasting error of some pieces is
the error of every entry that begins with them. An entry with a malformed token
never has a value, and if a token is refused it is the first that is malformed. -/
theorem evaluate_reading_order (pieces : List String) :
    (∀ e, Lasting e → evaluate pieces = .error e →
        ∀ more, evaluate (pieces ++ more) = .error e) ∧
      ((∃ token ∈ pieces.flatMap Pieces.burst, isMalformed token = true) →
        (∀ x, evaluate pieces ≠ .ok x) ∧
          ∀ token, evaluate pieces = .error (.malformedToken token) →
            (pieces.flatMap Pieces.burst).find? isMalformed = some token) := by
  refine ⟨fun e hlasting h more => ?_, fun ⟨token, hmem, hmalformed⟩ => ⟨fun x hx => ?_,
    fun refused h => ?_⟩⟩
  · obtain ⟨hparen, hscan⟩ := scan_of_lasting hlasting h
    have happend : ((pieces ++ more).flatMap Pieces.burst).all isParenthesis = false := by
      rw [List.flatMap_append, List.all_append, hparen, Bool.false_and]
    have hother := scan_naming (Pieces.join pieces) (Pieces.join (pieces ++ more)) {}
      (pieces.flatMap Pieces.burst)
    rw [hscan, mapError_error, hlasting.naming_eq] at hother
    rw [evaluate_of_balanced_or (.inl happend), List.flatMap_append, scan_append, hother]
    rfl
  · -- the token is no parenthesis, so the entry was read, and read to its end
    have hother : ¬ isParenthesis token = true := by
      intro hparen
      rw [isMalformed, hparen] at hmalformed
      exact Bool.false_ne_true hmalformed
    have hparen : (pieces.flatMap Pieces.burst).all isParenthesis = false :=
      List.all_eq_false.mpr ⟨token, hmem, hother⟩
    rw [evaluate_of_balanced_or (.inl hparen)] at hx
    obtain ⟨t, hscan, -⟩ := bind_eq_ok.mp hx
    exact List.find?_eq_none.mp (find?_of_scan_eq_ok hscan) token hmem hmalformed
  · exact find?_of_scan_eq_error (scan_of_lasting (e := .malformedToken refused) trivial h).2

end Parenthesised
end StackCalculator
