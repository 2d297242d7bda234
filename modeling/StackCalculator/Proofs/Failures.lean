/-
How an evaluation can fail.

Each notation has failures of its own. A short Polish entry is malformed as a
whole or divides by a zero. A long one has a malformed piece or divides by a
zero, and nothing else goes wrong: both of its phases reduce only stacks that
are ready, so they never find too little to reduce. In the parenthesised
notation a closing parenthesis reduces whatever there is, so there can be too
little; but an entry is never malformed as a whole. `Polish.Fails` and
`Parenthesised.Fails` list the failures, each with what it says of the entry.

Pushing refuses parentheses, and neither evaluation ever asks it to take one.
That is a statement about every push of every evaluation. Evaluations take the
way of pushing as a parameter, and `evaluateWith` is an evaluation with another
one in the place of the usual. If the two differ on parentheses alone, no entry
tells them apart.
-/
import StackCalculator.Proofs.Eager
import StackCalculator.Proofs.Stopping

set_option autoImplicit false

namespace StackCalculator

/-! ## Failures of the Polish notation -/

namespace Polish

variable {pieces : List String} {e : EvalError}

/-- Whether these are the three pieces of an operation on two numbers. -/
def isOperation : List String → Bool
  | [first, second, third] =>
    Pieces.isOperator first && Pieces.isNumber second && Pieces.isNumber third
  | _ => false

/-- **The failures of a Polish entry.** -/
inductive Fails (pieces : List String) : EvalError → Prop where
  | divisionByZero : Fails pieces .divisionByZero
  | malformedInput (h : pieces.length = 2 ∨ pieces.length = 3 ∧ isOperation pieces = false) :
      Fails pieces (.malformedInput (Pieces.join pieces))
  | malformedToken {piece : String} (hlength : 4 ≤ pieces.length) (hmem : piece ∈ pieces)
      (h : Pieces.isMalformed piece = true) : Fails pieces (.malformedToken piece)

/-- **Three pieces** are an operation, or malformed. -/
theorem evaluate_three (first second third : String) :
    (isOperation [first, second, third] = true ∧
      ((∃ x, evaluate [first, second, third] = .ok x) ∨
        evaluate [first, second, third] = .error .divisionByZero)) ∨
      (isOperation [first, second, third] = false ∧
        evaluate [first, second, third]
          = .error (.malformedInput (Pieces.join [first, second, third]))) := by
  simp only [isOperation, Pieces.isOperator, Pieces.isNumber, evaluate, evaluateWith]
  rcases Operator.ofSymbol? first with _ | op
  · exact .inr ⟨rfl, rfl⟩
  rcases Number.read? second with _ | left
  · exact .inr ⟨rfl, rfl⟩
  rcases Number.read? third with _ | right
  · exact .inr ⟨rfl, rfl⟩
  · exact .inl ⟨rfl, op.apply_cases left right⟩

theorem drain_cases (s : Stacks) :
    (∃ xs, drain s = .ok xs) ∨ drain s = .error .divisionByZero := by
  fun_induction drain s with
  | case1 s hready ih =>
    rcases Stacks.reduced_cases .topLeft hready with ⟨value, hvalue⟩ | hvalue
    · rw [hvalue, ok_bind]
      rcases ih with ⟨xs, hxs⟩ | hxs
      · rw [hxs]
        exact .inl ⟨value :: xs, rfl⟩
      · rw [hxs]
        exact .inr rfl
    · rw [hvalue]
      exact .inr rfl
  | case2 s hready => exact .inl ⟨[], rfl⟩

/-- Reading and draining fail at a piece, or by a division. -/
theorem reduceAll_error_cases (h : reduceAll pieces = .error e) :
    e = .divisionByZero ∨
      ∃ piece ∈ pieces, Pieces.isMalformed piece = true ∧ e = .malformedToken piece := by
  rw [reduceAll_eq] at h
  rcases hread : read pieces with d | r
  · rw [hread, error_bind, Except.error.injEq] at h
    have hsettled : settled pieces = .error e := by rw [settled, hread, error_bind, h]
    rcases settled_cases pieces with ⟨t, ht, -⟩ | ⟨ht, -⟩ | ⟨piece, hmem, hpiece, ht⟩
    · exact absurd (ht.symm.trans hsettled) (by simp)
    · exact .inl (Except.error.inj (hsettled.symm.trans ht))
    · exact .inr ⟨piece, hmem, hpiece, Except.error.inj (hsettled.symm.trans ht)⟩
  · rw [hread, ok_bind, bind_return_eq_error] at h
    rcases drain_cases r.held.turned with ⟨xs, hxs⟩ | hxs
    · exact absurd (hxs.symm.trans h) (by simp)
    · exact .inl (Except.error.inj (h.symm.trans hxs))

/-- **A Polish entry that fails** does so in one of these ways. -/
theorem evaluate_fails (h : evaluate pieces = .error e) : Fails pieces e := by
  by_cases hlength : pieces.length = 0 ∨ 4 ≤ pieces.length
  · rw [evaluate_eq_reduceAll hlength] at h
    rcases reduceAll_error_cases h with rfl | ⟨piece, hmem, hpiece, rfl⟩
    · exact .divisionByZero
    · have hpos := List.length_pos_of_mem hmem
      exact .malformedToken (by omega) hmem hpiece
  match pieces, hlength with
  | [], hlength => exact absurd (.inl rfl) hlength
  | [_], _ => exact absurd h nofun
  | [_, _], _ =>
    rw [← Except.error.inj h]
    exact .malformedInput (.inl rfl)
  | [first, second, third], _ =>
    rcases evaluate_three first second third with ⟨-, ⟨x, hx⟩ | hx⟩ | ⟨hoperation, hx⟩
    · rw [hx] at h
      exact absurd h nofun
    · rw [← Except.error.inj (hx.symm.trans h)]
      exact .divisionByZero
    · rw [← Except.error.inj (hx.symm.trans h)]
      exact .malformedInput (.inr ⟨rfl, hoperation⟩)
  | _ :: _ :: _ :: _ :: _, hlength => exact absurd (.inr (by simp)) hlength

/-- **An entry is malformed as a whole** when it has two pieces, or three that
are no operation. -/
theorem evaluate_malformedInput_iff (pieces : List String) :
    (∃ entry, evaluate pieces = .error (.malformedInput entry)) ↔
      pieces.length = 2 ∨ pieces.length = 3 ∧ isOperation pieces = false := by
  constructor
  · rintro ⟨entry, h⟩
    cases evaluate_fails h with
    | malformedInput hlength => exact hlength
  · rintro (hlength | ⟨hlength, hoperation⟩)
    · match pieces, hlength with
      | [_, _], _ => exact ⟨_, rfl⟩
    · match pieces, hlength with
      | [first, second, third], _ =>
        rcases evaluate_three first second third with ⟨h, -⟩ | ⟨-, hvalue⟩
        · rw [hoperation] at h
          exact absurd h Bool.false_ne_true
        · exact ⟨_, hvalue⟩

end Polish

/-! ## Failures of the parenthesised notation -/

namespace Parenthesised

variable {pieces : List String} {e : EvalError}

/-- **The failures of a parenthesised entry.** -/
inductive Fails (pieces : List String) : EvalError → Prop where
  | divisionByZero : Fails pieces .divisionByZero
  | malformedToken {token : String} (hmem : token ∈ pieces.flatMap Pieces.burst)
      (h : isMalformed token = true) : Fails pieces (.malformedToken token)
  | stackUnderflow {operands operators : Nat} (h : operands < 2 ∨ operators = 0) :
      Fails pieces (.stackUnderflow operands operators)
  | unbalancedParentheses : Fails pieces (.unbalancedParentheses (Pieces.join pieces))

/-- **A parenthesised entry that fails** does so in one of these ways. -/
theorem evaluate_fails (h : evaluate pieces = .error e) : Fails pieces e := by
  simp only [evaluate_eq] at h
  split at h
  · rw [← Except.error.inj h]
    exact .unbalancedParentheses
  rcases hscan : scan (Pieces.join pieces) {} (pieces.flatMap Pieces.burst) with d | t
  · rw [hscan, error_bind, Except.error.injEq] at h
    rw [h] at hscan
    obtain ⟨before, token, after, t, htokens, -, hstops⟩ := scan_stops hscan
    cases hstops with
    | malformed hmalformed =>
      have hmem : token ∈ before ++ token :: after := by simp
      exact .malformedToken (htokens ▸ hmem) hmalformed
    | unopened => exact .unbalancedParentheses
    | underflow hready => exact .stackUnderflow ((Stacks.not_ready_iff_length _).mp hready)
    | division => exact .divisionByZero
  · rw [hscan, ok_bind, answer] at h
    split at h
    · rw [← Except.error.inj h]
      exact .unbalancedParentheses
    · split at h
      · exact absurd h (by simp)
      · rw [← Except.error.inj h]
        exact .stackUnderflow (.inl Nat.zero_lt_two)

end Parenthesised

/-! ## What is pushed -/

/-- **A way of pushing** that may differ from the usual one on parentheses, and
on nothing else. -/
def PushesAlike (push : Stacks.Pushing) : Prop :=
  ∀ token held, token ≠ .opening → token ≠ .closing → push token held = held.push token

namespace Polish

variable {push : Stacks.Pushing}

theorem readPieceWith_eq (h : PushesAlike push) : readPieceWith push = readPiece := by
  funext piece r
  unfold readPiece readPieceWith
  refine bind_congr fun settled => ?_
  rcases hclassify : Token.classify piece with e | token
  · rfl
  · obtain ⟨hopening, hclosing⟩ := Token.ne_parenthesis_of_classify hclassify
    rw [ok_bind, ok_bind, h token settled.held hopening hclosing]

theorem reduceAllWith_eq (h : PushesAlike push) (pieces : List String) :
    reduceAllWith push pieces = reduceAll pieces := by
  rw [reduceAllWith, readWith, readPieceWith_eq h, reduceAll_eq, read_eq]

/-- **A Polish evaluation never pushes a parenthesis.** -/
theorem evaluateWith_eq (h : PushesAlike push) (pieces : List String) :
    evaluateWith push pieces = evaluate pieces := by
  match pieces with
  | [] => exact reduceAllWith_eq h []
  | [_] => rfl
  | [_, _] => rfl
  | [_, _, _] => rfl
  | _ :: _ :: _ :: _ :: _ => exact reduceAllWith_eq h _

end Polish

namespace Parenthesised

variable {push : Stacks.Pushing}

theorem stepWith_eq (h : PushesAlike push) (entry : String) : stepWith push entry = step entry := by
  funext s piece
  unfold step stepWith
  refine bind_congr fun token => ?_
  cases token with
  | number x => exact congrArg (· >>= _) (h (.number x) s.held nofun nofun)
  | operator op => exact congrArg (· >>= _) (h (.operator op) s.held nofun nofun)
  | opening => rfl
  | closing => rfl

/-- **A parenthesised evaluation never pushes a parenthesis.** -/
theorem evaluateWith_eq (h : PushesAlike push) (pieces : List String) :
    evaluateWith push pieces = evaluate pieces := by
  rw [evaluate_eq, evaluateWith]
  simp only [scanWith, stepWith_eq h, scan_eq]

end Parenthesised

/-! ## Both notations -/

/-- **Each notation fails in its own ways.** A Polish entry is never short of
operands, has no parentheses out of balance and names no mode. It is malformed
as a whole when it has two pieces, or three that are no operation; a single
piece always has a value, and a piece is refused only among four or more. A
parenthesised entry is never malformed as a whole and names no mode. Neither
evaluation ever pushes a parenthesis. -/
theorem evaluate_failures (pieces : List String) :
    ((∀ operands operators,
        Polish.evaluate pieces ≠ .error (.stackUnderflow operands operators)) ∧
      (∀ entry, Polish.evaluate pieces ≠ .error (.unbalancedParentheses entry)) ∧
      (∀ requested, Polish.evaluate pieces ≠ .error (.unsupportedMode requested)) ∧
      ((∃ entry, Polish.evaluate pieces = .error (.malformedInput entry)) ↔
        pieces.length = 2 ∨ pieces.length = 3 ∧ Polish.isOperation pieces = false) ∧
      (pieces.length = 1 → ∃ x, Polish.evaluate pieces = .ok x) ∧
      ((∃ piece, Polish.evaluate pieces = .error (.malformedToken piece)) →
        4 ≤ pieces.length)) ∧
    ((∀ entry, Parenthesised.evaluate pieces ≠ .error (.malformedInput entry)) ∧
      (∀ requested, Parenthesised.evaluate pieces ≠ .error (.unsupportedMode requested))) ∧
    ∀ push, PushesAlike push →
      Polish.evaluateWith push pieces = Polish.evaluate pieces ∧
        Parenthesised.evaluateWith push pieces = Parenthesised.evaluate pieces := by
  refine ⟨⟨?_, ?_, ?_, Polish.evaluate_malformedInput_iff pieces, ?_, ?_⟩, ⟨?_, ?_⟩, ?_⟩
  · exact fun operands operators h => nomatch Polish.evaluate_fails h
  · exact fun entry h => nomatch Polish.evaluate_fails h
  · exact fun requested h => nomatch Polish.evaluate_fails h
  · intro hlength
    obtain ⟨piece, rfl⟩ := List.length_eq_one_iff.mp hlength
    exact ⟨_, rfl⟩
  · rintro ⟨piece, h⟩
    cases Polish.evaluate_fails h with
    | malformedToken hlength hmem hpiece => exact hlength
  · exact fun entry h => nomatch Parenthesised.evaluate_fails h
  · exact fun requested h => nomatch Parenthesised.evaluate_fails h
  · intro push hpush
    exact ⟨Polish.evaluateWith_eq hpush pieces, Parenthesised.evaluateWith_eq hpush pieces⟩

end StackCalculator
