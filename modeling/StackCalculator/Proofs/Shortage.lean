/-
What is missing at a closing parenthesis.

How many operands and operators a closing parenthesis finds can be counted in
the tokens before it: every number and every operator has added one, and every
earlier closing parenthesis has taken one of each away. `Short` is that count
where it is too low, and the first closing parenthesis that is short is the only
one where the reading can run out. The sizes that the error gives are what the
count leaves (`FailsAt.shortFirst`).

The reading may not get as far. What else can stop it before, or at the same
parenthesis, is a division by zero or a parenthesis that was never opened
(`scan_shortFirst`).
-/
import StackCalculator.Proofs.Bottom

set_option autoImplicit false

namespace StackCalculator.Parenthesised

variable {entry token : String} {s t : Scan} {tokens front part : List String} {e : EvalError}
  {a b : Nat}

/-! ## Counting operators -/

/-- How many operators stand among tokens. -/
def operators (tokens : List String) : Nat := tokens.countP Pieces.isOperator

theorem operators_concat (tokens : List String) (token : String) :
    operators (tokens ++ [token])
      = operators tokens + if Pieces.isOperator token then 1 else 0 := by
  rw [operators, operators, List.countP_append, List.countP_singleton]

/-- **The account of both stacks** once tokens are read: each closing parenthesis
has taken away an operator as well as an operand. -/
structure Accounted (tokens : List String) (s : Scan) : Prop extends Counted tokens s where
  operators_add : s.held.operators.length + closings tokens = operators tokens

theorem Accounted.start : Accounted [] {} := ⟨.start, rfl⟩

/-- **A step keeps the account.** -/
theorem Accounted.step (h : Accounted tokens s) (hreads : Reads s token t) :
    Accounted (tokens ++ [token]) t := by
  refine ⟨h.toCounted.step hreads, ?_⟩
  have hadd := h.operators_add
  cases hreads with
  | opening s =>
    have hoperator : Pieces.isOperator "(" = false := rfl
    rw [operators_concat, closings_concat, hoperator]
    exact hadd
  | closing outer hx =>
    -- the operator that it takes was there
    have hready := (Stacks.ready_iff_length _).mp (Stacks.ready_of_reduced hx)
    have hoperator : Pieces.isOperator ")" = false := rfl
    rw [operators_concat, closings_concat, hoperator, if_pos rfl]
    simp only [Stacks.pushTop, Stacks.remaining, List.length_drop, Bool.false_eq_true, if_false]
    simp only at hadd
    omega
  | operator s op =>
    rw [operators_concat, closings_concat, Pieces.isOperator_symbol, if_pos rfl,
      if_neg op.symbol_ne_closing]
    simp only [List.length_cons]
    omega
  | number s n =>
    rw [operators_concat, closings_concat, Pieces.isOperator_piece, if_neg n.piece_ne_closing]
    exact hadd

/-- **After a reading** the account is right. -/
theorem scan_accounted (h : scan entry {} tokens = .ok s) : Accounted tokens s := by
  induction tokens using List.reverseRecOn generalizing s with
  | nil =>
    obtain rfl := Except.ok.inj h
    exact .start
  | append_singleton tokens token ih =>
    rw [scan_concat, bind_eq_ok] at h
    obtain ⟨r, hscan, hstep⟩ := h
    exact (ih hscan).step (step_reads hstep)

/-! ## Short closing parentheses -/

/-- **A short closing parenthesis** of some tokens, known by the tokens before
it. It is the `k`-th of all, for `k` one more than those among them, and there
are not `k + 1` numbers and `k` operators before it. -/
structure Short (tokens front : List String) : Prop where
  closes : front ++ [")"] <+: tokens
  count : numbers front < (closings front + 1) + 1 ∨ operators front < closings front + 1

instance (tokens front : List String) : Decidable (Short tokens front) :=
  decidable_of_iff (front ++ [")"] <+: tokens ∧
      (numbers front < (closings front + 1) + 1 ∨ operators front < closings front + 1))
    ⟨fun ⟨hcloses, hcount⟩ => ⟨hcloses, hcount⟩, fun ⟨hcloses, hcount⟩ => ⟨hcloses, hcount⟩⟩

/-- One number and no operator are left for the second of two. -/
example : Short ["(", "(", "1", "+", "2", ")", ")"] ["(", "(", "1", "+", "2", ")"] := by
  decide +kernel

/-- **The first short closing parenthesis** of some tokens. -/
structure ShortFirst (tokens front : List String) : Prop extends Short tokens front where
  first : ∀ other, Short tokens other → front <+: other

theorem ShortFirst.unique (h : ShortFirst tokens front) (hpart : ShortFirst tokens part) :
    front = part := by
  have hle := h.first part hpart.toShort
  have hge := hpart.first front h.toShort
  exact hle.eq_of_length_le hge.length_le

/-- The count says whether a reduction has enough. -/
theorem Accounted.ready_eq_false_iff (h : Accounted tokens s) :
    s.held.ready = false ↔
      numbers tokens < (closings tokens + 1) + 1 ∨ operators tokens < closings tokens + 1 := by
  have hnumbers := h.length_add
  have hoperators := h.operators_add
  rw [Stacks.not_ready_iff_length]
  omega

theorem ready_of_closing (h : step entry s ")" = .ok t) : s.held.ready = true := by
  obtain ⟨held, depth⟩ := s
  rcases depth with _ | outer
  · rw [step_unopened] at h
    exact absurd h (by simp)
  · rw [step_reduce, bind_eq_ok] at h
    obtain ⟨x, hx, -⟩ := h
    exact Stacks.ready_of_reduced hx

/-- No closing parenthesis that was read is short. -/
theorem not_short_of_scan (h : scan entry {} tokens = .ok s) : ¬ Short tokens front := by
  rintro ⟨⟨after, rfl⟩, hcount⟩
  -- it was read after what stands before it, and that was enough to reduce
  rw [scan_append, bind_eq_ok] at h
  obtain ⟨u, hu, -⟩ := h
  rw [scan_concat, bind_eq_ok] at hu
  obtain ⟨r, hr, hstep⟩ := hu
  have hready := (scan_accounted hr).ready_eq_false_iff.mpr hcount
  rw [ready_of_closing hstep] at hready
  exact absurd hready (by simp)

/-! ## Closing parentheses that fail -/

/-- A reading that fails in some tokens fails in all that begin with them. -/
theorem scan_of_front (hpart : part <+: tokens) (h : scan entry s part = .error e) :
    scan entry s tokens = .error e := by
  obtain ⟨after, rfl⟩ := hpart
  rw [scan_append, h]
  rfl

/-- **A closing parenthesis of some tokens fails**: those before it are read, and
it comes to an error. -/
structure FailsAt (entry : String) (tokens front : List String) (e : EvalError) : Prop where
  closes : front ++ [")"] <+: tokens
  fails : ∃ s, scan entry {} front = .ok s ∧ step entry s ")" = .error e

theorem FailsAt.scan_eq (h : FailsAt entry tokens front e) : scan entry {} tokens = .error e := by
  obtain ⟨hcloses, s, hscan, hstep⟩ := h
  refine scan_of_front hcloses ?_
  rw [scan_concat, hscan, ok_bind, hstep]

/-- **A closing parenthesis of some tokens divides by a zero.** -/
def Divides (entry : String) (tokens : List String) : Prop :=
  ∃ front, FailsAt entry tokens front .divisionByZero

/-! ## Closing too many -/

/-- **Some front of the tokens closes more parentheses than it opens.** -/
def Overclosed (tokens : List String) : Prop :=
  ∃ front, front <+: tokens ∧ front.count "(" < front.count ")"

theorem overclosed_iff (tokens : List String) :
    Overclosed tokens ↔ tokens.foldlM level 0 = none := by
  rw [Option.eq_none_iff_forall_ne_some]
  constructor
  · rintro ⟨front, hfront, hcount⟩ final hfinal
    have hle := (foldlM_level_eq_some_iff.mp hfinal).covered front hfront
    omega
  · -- otherwise there is a level after the tokens, which is what they leave open
    intro h
    by_contra hnot
    have hcovered (front : List String) (hfront : front <+: tokens) :
        front.count ")" ≤ front.count "(" := by
      by_contra hlt
      exact hnot ⟨front, hfront, Nat.lt_of_not_le hlt⟩
    have hall := hcovered tokens List.prefix_rfl
    refine h (tokens.count "(" - tokens.count ")") (foldlM_level_eq_some_iff.mpr ⟨?_, ?_⟩)
    · intro front hfront
      have hle := hcovered front hfront
      omega
    · omega

theorem level_of_scan (h : scan entry {} tokens = .ok s) :
    tokens.foldlM level 0 = some s.depth := by
  have hjudged := scan_judged entry {} tokens
  rw [h] at hjudged
  show tokens.foldlM level ({} : Scan).depth = some s.depth
  generalize tokens.foldlM level ({} : Scan).depth = l at hjudged ⊢
  cases hjudged with
  | reads t => rfl

theorem overclosed_of_unbalanced {text : String}
    (h : scan entry {} tokens = .error (.unbalancedParentheses text)) : Overclosed tokens := by
  have hjudged := scan_judged entry {} tokens
  rw [h] at hjudged
  generalize hlevel : tokens.foldlM level ({} : Scan).depth = l at hjudged
  cases hjudged with
  | accuses => exact (overclosed_iff tokens).mpr hlevel
  | fails hother l => exact absurd rfl (hother text)

/-- A reading counts the levels it has left. -/
theorem depth_of_scan (h : scan entry {} tokens = .ok s) :
    s.depth + tokens.count ")" = tokens.count "(" := by
  have hleads := foldlM_level_eq_some_iff.mp (level_of_scan h)
  rw [hleads.final_add, Nat.zero_add]

/-! ## Running out at a closing parenthesis -/

/-- **It runs out at the first that is short**, and the sizes are what the counts
leave. -/
theorem FailsAt.shortFirst (h : FailsAt entry tokens front (.stackUnderflow a b)) :
    ShortFirst tokens front ∧ a = numbers front - closings front ∧
      b = operators front - closings front := by
  obtain ⟨hcloses, s, hscan, hstep⟩ := h
  have haccounted := scan_accounted hscan
  have hnumbers := haccounted.length_add
  have hoperators := haccounted.operators_add
  cases step_stops hstep with
  | underflow hready =>
    refine ⟨⟨⟨hcloses, haccounted.ready_eq_false_iff.mp hready⟩, ?_⟩, by omega, by omega⟩
    intro other hother
    -- of two closing parentheses one comes first, and it is not the other one
    have hfront : front <+: tokens := (List.prefix_append front [")"]).trans hcloses
    have hbefore : other <+: tokens := (List.prefix_append other [")"]).trans hother.closes
    refine List.prefix_of_prefix_length_le hfront hbefore (Nat.le_of_not_lt fun hlt => ?_)
    have hinside : other ++ [")"] <+: front :=
      List.prefix_of_prefix_length_le hother.closes hfront (by
        rw [List.length_append, List.length_singleton]
        exact hlt)
    exact not_short_of_scan hscan ⟨hinside, hother.count⟩

theorem FailsAt.not_overclosed (h : FailsAt entry tokens front (.stackUnderflow a b)) :
    ¬ Overclosed (front ++ [")"]) := by
  obtain ⟨-, ⟨held, depth⟩, hscan, hstep⟩ := h
  rw [overclosed_iff, List.foldlM_append, level_of_scan hscan]
  rcases depth with _ | outer
  · rw [step_unopened] at hstep
    exact absurd hstep (by simp)
  · exact Option.some_ne_none outer

/-- What fails was not reached after an earlier division by zero. -/
theorem FailsAt.not_divides (h : FailsAt entry tokens front e) : ¬ Divides entry front := by
  obtain ⟨-, s, hscan, -⟩ := h
  rintro ⟨earlier, hdivides⟩
  rw [hdivides.scan_eq] at hscan
  exact absurd hscan (by simp)

theorem failsAt_of_scan (h : scan entry {} tokens = .error (.stackUnderflow a b)) :
    ∃ front, FailsAt entry tokens front (.stackUnderflow a b) := by
  obtain ⟨front, token, after, s, rfl, hscan, hstep⟩ := scan_fails h
  cases step_stops hstep with
  | underflow hready => exact ⟨front, ⟨after, by simp⟩, s, hscan, hstep⟩

/-- **What a reading comes to at the first short closing parenthesis**: it runs
out there, unless an earlier one divides by a zero, or a parenthesis is closed,
there or before, that was not open. -/
theorem scan_shortFirst (hwell : ∀ token ∈ tokens, isMalformed token = false)
    (h : ShortFirst tokens front) (entry : String) :
    FailsAt entry tokens front (.stackUnderflow (numbers front - closings front)
        (operators front - closings front)) ∨
      (scan entry {} tokens = .error .divisionByZero ∧ Divides entry front) ∨
      (scan entry {} tokens = .error (.unbalancedParentheses entry) ∧
        Overclosed (front ++ [")"])) := by
  have hfront : front <+: tokens := (List.prefix_append front [")"]).trans h.closes
  rcases hscan : scan entry {} front with e | s
  · -- the reading stops before, and what stops it is not a want of operands
    obtain ⟨before, token, after, t, heq, hbefore, hstep⟩ := scan_fails hscan
    have hearlier : before ++ [token] <+: front := ⟨after, by rw [heq]; simp⟩
    cases step_stops hstep with
    | malformed hmalformed =>
      have hmem : token ∈ tokens := (hearlier.trans hfront).subset (by simp)
      rw [hwell token hmem] at hmalformed
      exact absurd hmalformed (by simp)
    | unopened hdepth =>
      obtain ⟨least, hleast, hcount⟩ := overclosed_of_unbalanced hscan
      exact .inr (.inr ⟨scan_of_front hfront hscan,
        least, hleast.trans (List.prefix_append front [")"]), hcount⟩)
    | underflow hready =>
      have hfails : FailsAt entry tokens before _ := ⟨hearlier.trans hfront, t, hbefore, hstep⟩
      have hlength := hearlier.length_le
      rw [hfails.shortFirst.1.unique h, List.length_append, List.length_singleton] at hlength
      omega
    | division hx =>
      exact .inr (.inl ⟨scan_of_front hfront hscan, before, hearlier, t, hbefore, hstep⟩)
  · have haccounted := scan_accounted hscan
    have hready := haccounted.ready_eq_false_iff.mpr h.count
    obtain ⟨held, depth⟩ := s
    rcases depth with _ | outer
    · have hclosing : scan entry {} (front ++ [")"]) = .error (.unbalancedParentheses entry) := by
        rw [scan_concat, hscan, ok_bind, step_unopened]
      exact .inr (.inr ⟨scan_of_front h.closes hclosing, overclosed_of_unbalanced hclosing⟩)
    · have hoperands : held.operands.length = numbers front - closings front := by
        have hadd := haccounted.length_add
        simp only at hadd
        omega
      have hoperators : held.operators.length = operators front - closings front := by
        have hadd := haccounted.operators_add
        simp only at hadd
        omega
      have hstep : step entry ⟨held, outer + 1⟩ ")" = .error (.stackUnderflow
          (numbers front - closings front) (operators front - closings front)) := by
        rw [step_reduce, Stacks.reduced_of_not_ready .topRight hready, hoperands, hoperators]
        rfl
      exact .inl ⟨h.closes, _, hscan, hstep⟩

end StackCalculator.Parenthesised
