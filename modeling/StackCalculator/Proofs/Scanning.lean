/-
Reading tokens rather than pieces.

A step of the parenthesised reading classifies a piece and then acts on the
token; `take` is what it does with the token alone. Once every piece is known to
classify, a reading is a run of `take` over the tokens, and what they were
written as no longer matters, except in the entry that an error names.
-/
import StackCalculator.Parenthesised
import StackCalculator.Proofs.Classes
import StackCalculator.Proofs.Outcomes

set_option autoImplicit false

namespace StackCalculator.Parenthesised

variable (entry : String) (s : Scan)

/-! ## One token -/

/-- What the reading does with a token. -/
def take : Token → Except EvalError Scan
  | .number x => .ok { s with held := s.held.pushTop x }
  | .operator op => .ok { s with held.operators := op :: s.held.operators }
  | .opening => .ok { s with depth := s.depth + 1 }
  | .closing =>
    match s.depth with
    | 0 => .error (.unbalancedParentheses entry)
    | outer + 1 => do
      let value ← s.held.reduced .topRight
      return { held := s.held.remaining.pushTop value, depth := outer }

/-- **A step** classifies its piece and takes the token. -/
theorem step_eq_bind (piece : String) :
    step entry s piece = Token.classifyParenthesised piece >>= take entry s := by
  unfold step stepWith
  rcases Token.classifyParenthesised piece with e | token
  · rfl
  · cases token <;> rfl

theorem step_of_classify {piece : String} {token : Token}
    (h : Token.classifyParenthesised piece = .ok token) :
    step entry s piece = take entry s token := by
  rw [step_eq_bind, h, ok_bind]

theorem step_piece (n : Numeric) :
    step entry s n.piece = .ok { s with held := s.held.pushTop n.value } :=
  step_of_classify entry s (Token.classifyParenthesised_piece n)

theorem step_symbol (op : Operator) :
    step entry s op.symbol = .ok { s with held.operators := op :: s.held.operators } :=
  step_of_classify entry s (Token.classifyParenthesised_symbol op)

theorem step_opening : step entry s "(" = .ok { s with depth := s.depth + 1 } := rfl

/-- A closing parenthesis with no level to come back to. -/
theorem step_unopened (held : Stacks) :
    step entry ⟨held, 0⟩ ")" = .error (.unbalancedParentheses entry) := rfl

/-- **A closing parenthesis** comes back a level, and reduces. -/
theorem step_reduce (held : Stacks) (outer : Nat) :
    step entry ⟨held, outer + 1⟩ ")" = do
      let value ← held.reduced .topRight
      return ⟨held.remaining.pushTop value, outer⟩ := rfl

/-- A closing parenthesis takes the operands and the operator that its group
pushed, and leaves what the group was pushed on. -/
theorem step_closing (held : Stacks) (op : Operator) (x y : Float) (outer : Nat) :
    step entry ⟨⟨y :: x :: held.operands, op :: held.operators⟩, outer + 1⟩ ")" = do
      let value ← op.apply x y
      return ⟨held.pushTop value, outer⟩ := rfl

/-! ## All of them -/

theorem scan_cons (piece : String) (rest : List String) :
    scan entry s (piece :: rest) = step entry s piece >>= fun t => scan entry t rest := rfl

theorem scan_append (front back : List String) :
    scan entry s (front ++ back) = scan entry s front >>= fun t => scan entry t back :=
  List.foldlM_append

theorem scan_concat (pieces : List String) (piece : String) :
    scan entry s (pieces ++ [piece]) = scan entry s pieces >>= fun t => step entry t piece := by
  rw [scan_append]
  refine bind_congr fun t => ?_
  rw [scan_cons]
  exact bind_pure _

def takeAll (tokens : List Token) : Except EvalError Scan := tokens.foldlM (take entry) s

theorem takeAll_cons (token : Token) (rest : List Token) :
    takeAll entry s (token :: rest) = take entry s token >>= fun t => takeAll entry t rest := rfl

/-- **Reading pieces that classify** is reading their tokens. -/
theorem scan_eq_takeAll {pieces : List String} {tokens : List Token}
    (h : pieces.mapM Token.classifyParenthesised = .ok tokens) :
    scan entry s pieces = takeAll entry s tokens := by
  induction pieces generalizing s tokens with
  | nil =>
    rw [List.mapM_nil] at h
    rw [← Except.ok.inj h]
    rfl
  | cons piece rest ih =>
    rw [List.mapM_cons, bind_eq_ok] at h
    obtain ⟨token, htoken, h⟩ := h
    obtain ⟨others, hothers, h⟩ := bind_eq_ok.mp h
    rw [← Except.ok.inj h, scan_cons, takeAll_cons, step_of_classify entry s htoken]
    exact bind_congr fun t => ih t hothers

end StackCalculator.Parenthesised
