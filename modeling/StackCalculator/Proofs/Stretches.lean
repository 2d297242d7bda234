/-
What the order of tokens matters for.

Between two closing parentheses the reading only pushes: numbers on one stack,
operators on the other, and an opening parenthesis is counted. So a stretch of
tokens without a closing one is known by its numbers in order and its operators
in order. `outcome` evaluates a list of such stretches with a reduction between
each and the next, and counts no parentheses at all. A reading either finds the
parentheses unbalanced or has the outcome of its stretches (`evaluate_stretches`);
two entries with the same stretches can differ in nothing else.
-/
import StackCalculator.Proofs.Scanning
import Mathlib.Control.Monad.Basic

set_option autoImplicit false

namespace StackCalculator

/-! ## Stretches of tokens -/

namespace Token

def number? : Token → Option Float
  | number x => some x
  | _ => none

def operator? : Token → Option Operator
  | operator op => some op
  | _ => none

end Token

namespace Parenthesised

/-- **A stretch of tokens** without a closing parenthesis, as far as the stacks
go: its numbers and its operators, each in the order they are read. -/
structure Stretch where
  numbers : List Float
  operators : List Operator
deriving DecidableEq

def Stretch.ofTokens (tokens : List Token) : Stretch where
  numbers := tokens.filterMap Token.number?
  operators := tokens.filterMap Token.operator?

/-- **The stretches of a list of tokens**, cut at the closing parentheses. -/
def stretches (tokens : List Token) : List Stretch :=
  (tokens.splitOn .closing).map Stretch.ofTokens

theorem stretches_closing (rest : List Token) :
    stretches (.closing :: rest) = ⟨[], []⟩ :: stretches rest := by
  rw [stretches, List.splitOn_cons_eq_if_modifyHead, if_pos (beq_self_eq_true _)]
  rfl

theorem stretches_ne_nil (tokens : List Token) : stretches tokens ≠ [] := by
  rw [stretches, Ne, List.map_eq_nil_iff]
  exact List.splitOn_ne_nil _ _

/-- A token that closes nothing belongs to the first of the stretches. -/
theorem stretches_cons (token : Token) (h : token ≠ .closing) (rest : List Token) :
    ∃ segment others, stretches rest = Stretch.ofTokens segment :: others ∧
      stretches (token :: rest) = Stretch.ofTokens (token :: segment) :: others := by
  cases hsplit : rest.splitOn .closing with
  | nil => exact absurd hsplit (List.splitOn_ne_nil _ _)
  | cons segment segments =>
    refine ⟨segment, segments.map Stretch.ofTokens, ?_, ?_⟩
    · rw [stretches, hsplit, List.map_cons]
    · rw [stretches, List.splitOn_cons_eq_if_modifyHead, if_neg (by simpa using h), hsplit]
      rfl

/-! ## The outcome of stretches -/

/-- Puts a stretch on the stacks. -/
def load (held : Stacks) (stretch : Stretch) : Stacks where
  operands := stretch.numbers.reverse ++ held.operands
  operators := stretch.operators.reverse ++ held.operators

/-- The bottom operand, which is the answer once everything is read. -/
def bottom (held : Stacks) : Except EvalError Float :=
  match held.operands.getLast? with
  | some x => .ok x
  | none => .error (.stackUnderflow 0 held.operators.length)

/-- **The outcome of stretches**: each is put on the stacks, with a reduction
before the next. -/
def outcome (held : Stacks) : List Stretch → Except EvalError Float
  | [] => bottom held
  | [last] => bottom (load held last)
  | first :: second :: rest => do
    let loaded := load held first
    let value ← loaded.reduced .topRight
    outcome (loaded.remaining.pushTop value) (second :: rest)

/-- What a first stretch is loaded on matters only through the stacks it makes. -/
theorem outcome_cons_congr {held held' : Stacks} {first first' : Stretch}
    (h : load held first = load held' first') (others : List Stretch) :
    outcome held (first :: others) = outcome held' (first' :: others) := by
  cases others with
  | nil => rw [outcome, h, outcome]
  | cons second rest => rw [outcome, h, outcome]

/-- A number at the head of its stretch may be pushed before it. -/
theorem load_number (held : Stacks) (x : Float) (segment : List Token) :
    load held (Stretch.ofTokens (.number x :: segment))
      = load (held.pushTop x) (Stretch.ofTokens segment) := by
  have hstretch : Stretch.ofTokens (.number x :: segment)
      = ⟨x :: (Stretch.ofTokens segment).numbers, (Stretch.ofTokens segment).operators⟩ := rfl
  rw [hstretch]
  simp [load, Stacks.pushTop]

theorem load_operator (held : Stacks) (op : Operator) (segment : List Token) :
    load held (Stretch.ofTokens (.operator op :: segment))
      = load { held with operators := op :: held.operators } (Stretch.ofTokens segment) := by
  have hstretch : Stretch.ofTokens (.operator op :: segment)
      = ⟨(Stretch.ofTokens segment).numbers, op :: (Stretch.ofTokens segment).operators⟩ := rfl
  rw [hstretch]
  simp [load]

/-- A closing parenthesis ends a stretch that has nothing more in it. -/
theorem outcome_closing (held : Stacks) (tokens : List Token) :
    outcome held (stretches (.closing :: tokens)) = held.reduced .topRight >>= fun value =>
      outcome (held.remaining.pushTop value) (stretches tokens) := by
  obtain ⟨first, others, hfirst⟩ := List.exists_cons_of_ne_nil (stretches_ne_nil tokens)
  rw [stretches_closing, hfirst]
  rfl

/-! ## Reading is evaluating stretches -/

/-- **A reading finds the parentheses unbalanced, or has the outcome of its
stretches**, from any stacks and at any depth. -/
theorem takeAll_stretches (entry : String) (tokens : List Token) (s : Scan) :
    (takeAll entry s tokens >>= answer entry) = .error (.unbalancedParentheses entry) ∨
      (takeAll entry s tokens >>= answer entry) = outcome s.held (stretches tokens) := by
  induction tokens generalizing s with
  | nil =>
    obtain ⟨held, depth⟩ := s
    -- nothing is left to read, so the levels that are open decide
    cases depth with
    | zero => exact .inr rfl
    | succ depth => exact .inl rfl
  | cons token rest ih =>
    rw [takeAll_cons]
    cases token with
    | number x =>
      obtain ⟨segment, others, hrest, hcons⟩ := stretches_cons (.number x) nofun rest
      -- pushing it now and loading it with its stretch make the same stacks
      rw [hcons, outcome_cons_congr (load_number s.held x segment), ← hrest]
      exact ih { s with held := s.held.pushTop x }
    | operator op =>
      obtain ⟨segment, others, hrest, hcons⟩ := stretches_cons (.operator op) nofun rest
      rw [hcons, outcome_cons_congr (load_operator s.held op segment), ← hrest]
      exact ih { s with held.operators := op :: s.held.operators }
    | opening =>
      obtain ⟨segment, others, hrest, hcons⟩ := stretches_cons .opening nofun rest
      -- the level is all that changes, and the outcome does not look at it
      have hopening : Stretch.ofTokens (.opening :: segment) = Stretch.ofTokens segment := rfl
      rw [hcons, hopening, ← hrest]
      exact ih { s with depth := s.depth + 1 }
    | closing =>
      obtain ⟨held, depth⟩ := s
      -- with no level to come back to the reading stops before it reduces
      cases depth with
      | zero => exact .inl rfl
      | succ outer =>
        rw [outcome_closing, take]
        rcases held.reduced .topRight with e | value
        · exact .inr rfl
        · exact ih ⟨held.remaining.pushTop value, outer⟩

/-- **The value of an entry whose tokens all classify**: unbalanced, or the
outcome of its stretches. -/
theorem evaluate_stretches {pieces : List String} {tokens : List Token}
    (h : (pieces.flatMap Pieces.burst).mapM Token.classifyParenthesised = .ok tokens) :
    evaluate pieces = .error (.unbalancedParentheses (Pieces.join pieces)) ∨
      evaluate pieces = outcome {} (stretches tokens) := by
  simp only [evaluate_eq]
  split
  · exact .inl rfl
  · rw [scan_eq_takeAll _ _ h]
    exact takeAll_stretches _ tokens {}

theorem bottom_cases (held : Stacks) :
    (∃ x, bottom held = .ok x) ∨ bottom held = .error .divisionByZero ∨
      ∃ operands operators, bottom held = .error (.stackUnderflow operands operators) := by
  unfold bottom
  split
  · exact .inl ⟨_, rfl⟩
  · exact .inr (.inr ⟨0, _, rfl⟩)

theorem outcome_cases (held : Stacks) (ss : List Stretch) :
    (∃ x, outcome held ss = .ok x) ∨ outcome held ss = .error .divisionByZero ∨
      ∃ operands operators, outcome held ss = .error (.stackUnderflow operands operators) := by
  fun_induction outcome held ss with
  | case1 held => exact bottom_cases held
  | case2 held last => exact bottom_cases _
  | case3 held first second rest loaded ih =>
    rcases loaded.reduced_outcomes .topRight with ⟨x, hx⟩ | hx | hx
    · rw [hx]
      exact ih x
    · rw [hx]
      exact .inr (.inl rfl)
    · rw [hx]
      exact .inr (.inr ⟨_, _, rfl⟩)

/-! ## Two entries with the same stretches -/

/-- **Only the stretches matter**: entries whose tokens classify and have the
same stretches, however numbers, operators and opening parentheses stand in
each, have the same value or the same failure, unless the parentheses of one of
them are unbalanced. -/
theorem evaluate_eq_of_stretches {p q : List String} {ts us : List Token}
    (hp : (p.flatMap Pieces.burst).mapM Token.classifyParenthesised = .ok ts)
    (hq : (q.flatMap Pieces.burst).mapM Token.classifyParenthesised = .ok us)
    (hstretches : stretches ts = stretches us)
    (hpbalanced : ∀ entry, evaluate p ≠ .error (.unbalancedParentheses entry))
    (hqbalanced : ∀ entry, evaluate q ≠ .error (.unbalancedParentheses entry)) :
    evaluate p = evaluate q ∧
      ((∃ x, evaluate p = .ok x) ∨ evaluate p = .error .divisionByZero ∨
        ∃ operands operators, evaluate p = .error (.stackUnderflow operands operators)) := by
  have hpoutcome := (evaluate_stretches hp).resolve_left (hpbalanced _)
  have hqoutcome := (evaluate_stretches hq).resolve_left (hqbalanced _)
  refine ⟨?_, ?_⟩
  · rw [hpoutcome, hqoutcome, hstretches]
  · rw [hpoutcome]
    exact outcome_cases {} (stretches ts)

/-- `( ( 8 - 2 ) / 3 )` and `- (( 8 2 ) 3 / )` have the same stretches. -/
theorem evaluate_eq_of_stretches_displaced :
    let p := ["(", "(", "8", "-", "2", ")", "/", "3", ")"]
    let q := ["-", "((", "8", "2", ")", "3", "/", ")"]
    let ts : List Token := [.opening, .opening, .number 8.0, .operator .minus, .number 2.0,
      .closing, .operator .divide, .number 3.0, .closing]
    let us : List Token := [.operator .minus, .opening, .opening, .number 8.0, .number 2.0,
      .closing, .number 3.0, .operator .divide, .closing]
    (p.flatMap Pieces.burst).mapM Token.classifyParenthesised = .ok ts ∧
      (q.flatMap Pieces.burst).mapM Token.classifyParenthesised = .ok us ∧
      stretches ts = stretches us ∧
      (∀ entry, evaluate p ≠ .error (.unbalancedParentheses entry)) ∧
      (∀ entry, evaluate q ≠ .error (.unbalancedParentheses entry)) ∧
      evaluate p = .ok 2.0 ∧ evaluate q = .ok 2.0 := by
  intro p q ts us
  have hp : (p.flatMap Pieces.burst).mapM Token.classifyParenthesised = .ok ts := by
    decide +kernel
  have hq : (q.flatMap Pieces.burst).mapM Token.classifyParenthesised = .ok us := by
    decide +kernel
  have hstretches : stretches ts = stretches us := by decide +kernel
  have hpvalue : evaluate p = .ok 2.0 := by decide +kernel
  have hqvalue : evaluate q = .ok 2.0 := by decide +kernel
  have hpbalanced (entry : String) : evaluate p ≠ .error (.unbalancedParentheses entry) := by
    rw [hpvalue]
    nofun
  have hqbalanced (entry : String) : evaluate q ≠ .error (.unbalancedParentheses entry) := by
    rw [hqvalue]
    nofun
  have hsame := (evaluate_eq_of_stretches hp hq hstretches hpbalanced hqbalanced).1
  exact ⟨hp, hq, hstretches, hpbalanced, hqbalanced, hpvalue, hsame.symm.trans hpvalue⟩

end Parenthesised
end StackCalculator
