/-
Evaluations that run out.

An evaluation runs out at the first closing parenthesis that is short, if it
gets there. Apart from that only the end is left, and the end finds no operand
only where there was nothing but operators to read.

None of the counts looks at what a number is, and `shape` is a token without
that. So two entries that differ in their numbers alone run out at the same
place and with the same sizes (`ShortFirst.of_shape`), unless one of them
divides by a zero before.
-/
import StackCalculator.Proofs.Shortage

set_option autoImplicit false

namespace StackCalculator.Parenthesised

variable {entry : String} {s : Scan} {tokens others front : List String} {a b : Nat}

/-! ## Running out at the end -/

/-- **Operators alone**: no number and no parenthesis among tokens. -/
structure OperatorsOnly (tokens : List String) : Prop where
  numbers_eq : numbers tokens = 0
  opened_eq : tokens.count "(" = 0
  closed_eq : tokens.count ")" = 0

instance (tokens : List String) : Decidable (OperatorsOnly tokens) :=
  decidable_of_iff (numbers tokens = 0 ∧ tokens.count "(" = 0 ∧ tokens.count ")" = 0)
    ⟨fun ⟨hnumbers, hopened, hclosed⟩ => ⟨hnumbers, hopened, hclosed⟩,
      fun ⟨hnumbers, hopened, hclosed⟩ => ⟨hnumbers, hopened, hclosed⟩⟩

/-- Operators are all read, and the end finds nothing but them. -/
theorem OperatorsOnly.scan_eq (hwell : ∀ token ∈ tokens, isMalformed token = false)
    (h : OperatorsOnly tokens) (entry : String) :
    (scan entry {} tokens >>= answer entry) = .error (.stackUnderflow 0 (operators tokens)) := by
  rcases hscan : scan entry {} tokens with e | s
  · obtain ⟨before, token, after, t, rfl, -, hstep⟩ := scan_fails hscan
    have hmem : token ∈ before ++ token :: after := by simp
    have hclosing : token ≠ ")" := by
      rintro rfl
      exact List.count_eq_zero.mp h.closed_eq hmem
    cases step_stops hstep with
    | malformed hmalformed =>
      rw [hwell token hmem] at hmalformed
      exact absurd hmalformed (by simp)
    | _ => exact absurd rfl hclosing
  · have haccounted := scan_accounted hscan
    have hadd := haccounted.length_add
    have hoperators := haccounted.operators_add
    have hfinal := depth_of_scan hscan
    rw [closings, h.closed_eq] at hoperators hadd
    rw [h.numbers_eq] at hadd
    rw [h.opened_eq, h.closed_eq] at hfinal
    have hdepth : s.depth = 0 := hfinal
    have hempty : s.held.operands = [] := List.length_eq_zero_iff.mp hadd
    have hheld : s.held.operators.length = operators tokens := hoperators
    rw [ok_bind, answer, if_neg (not_not.mpr hdepth), hempty, ← hheld]
    rfl

/-- **The end finds no operand** only where there are operators alone. -/
theorem operatorsOnly_of_answer (hscan : scan entry {} tokens = .ok s)
    (h : answer entry s = .error (.stackUnderflow a b)) :
    OperatorsOnly tokens ∧ a = 0 ∧ b = operators tokens := by
  have haccounted := scan_accounted hscan
  have hadd := haccounted.length_add
  have hoperators := haccounted.operators_add
  have hdepth := depth_of_scan hscan
  rw [answer] at h
  split at h
  · exact absurd h (by simp)
  · next hzero =>
    split at h
    · exact absurd h (by simp)
    · next hnone =>
      rw [List.getLast?_eq_none_iff] at hnone
      -- a reduction would have left its value
      have hclosed : closings tokens = 0 := by
        have hpos := haccounted.length_pos
        rw [hnone, List.length_nil] at hpos
        omega
      rw [hnone, List.length_nil] at hadd
      rw [Except.error.injEq, EvalError.stackUnderflow.injEq] at h
      have hcount : tokens.count ")" = 0 := hclosed
      exact ⟨⟨by omega, by omega, hcount⟩, h.1.symm, by omega⟩

/-! ## The value of an entry -/

section Value

variable {pieces : List String}

/-- An entry whose evaluation runs out was read. -/
theorem read_of_underflow (h : evaluate pieces = .error (.stackUnderflow a b)) :
    (pieces.flatMap Pieces.burst).all isParenthesis = false ∨
      Balanced (pieces.flatMap Pieces.burst) := by
  by_contra hnot
  obtain ⟨hparen, hbalanced⟩ := not_or.mp hnot
  rw [evaluate_of_not_balanced (Bool.of_not_eq_false hparen) hbalanced] at h
  exact absurd h (by simp)

/-- **Where an evaluation runs out**, and with which sizes. -/
theorem evaluate_underflow_cases (h : evaluate pieces = .error (.stackUnderflow a b)) :
    (∃ front, FailsAt (Pieces.join pieces) (pieces.flatMap Pieces.burst) front
        (.stackUnderflow a b)) ∨
      (OperatorsOnly (pieces.flatMap Pieces.burst) ∧ a = 0 ∧
        b = operators (pieces.flatMap Pieces.burst)) := by
  have hvalue := evaluate_of_balanced_or (read_of_underflow h)
  rw [h] at hvalue
  rcases bind_eq_error.mp hvalue.symm with hfails | ⟨s, hscan, hanswer⟩
  · exact .inl (failsAt_of_scan hfails)
  · exact .inr (operatorsOnly_of_answer hscan hanswer)

theorem evaluate_of_failsAt
    (hread : (pieces.flatMap Pieces.burst).all isParenthesis = false ∨
      Balanced (pieces.flatMap Pieces.burst))
    (h : FailsAt (Pieces.join pieces) (pieces.flatMap Pieces.burst) front (.stackUnderflow a b)) :
    evaluate pieces = .error (.stackUnderflow a b) := by
  rw [evaluate_of_balanced_or hread, h.scan_eq]
  rfl

/-- **What may forestall an underflow** at the closing parenthesis behind a front
of the tokens: one before it divides by a zero, one at most there closes a level
that was not open, or the tokens are parentheses alone and refused unread. -/
def Forestalled (entry : String) (tokens front : List String) : Prop :=
  Divides entry front ∨ Overclosed (front ++ [")"]) ∨
    (tokens.all isParenthesis = true ∧ ¬ Balanced tokens)

/-- **At the first short closing parenthesis** an evaluation runs out, with the
sizes that the counts leave, exactly when nothing forestalls it. -/
theorem evaluate_shortFirst
    (hwell : ∀ token ∈ pieces.flatMap Pieces.burst, isMalformed token = false)
    (h : ShortFirst (pieces.flatMap Pieces.burst) front) :
    evaluate pieces = .error (.stackUnderflow (numbers front - closings front)
        (operators front - closings front)) ↔
      ¬ Forestalled (Pieces.join pieces) (pieces.flatMap Pieces.burst) front := by
  constructor
  · intro hunderflow hforestalled
    have hread := read_of_underflow hunderflow
    rw [evaluate_of_balanced_or hread] at hunderflow
    rcases scan_shortFirst hwell h (Pieces.join pieces) with hfails | ⟨hscan, -⟩ | ⟨hscan, -⟩
    · rcases hforestalled with hnot | hnot | ⟨hparen, hnot⟩
      · exact hfails.not_divides hnot
      · exact hfails.not_overclosed hnot
      · rw [hparen] at hread
        exact hread.elim (by simp) hnot
    · rw [hscan, error_bind] at hunderflow
      exact absurd hunderflow (by simp)
    · rw [hscan, error_bind] at hunderflow
      exact absurd hunderflow (by simp)
  · intro hforestalled
    obtain ⟨hdivides, hnot⟩ := not_or.mp hforestalled
    obtain ⟨hoverclosed, hnot⟩ := not_or.mp hnot
    have hread : (pieces.flatMap Pieces.burst).all isParenthesis = false ∨
        Balanced (pieces.flatMap Pieces.burst) := by
      rw [or_iff_not_imp_left]
      intro hparen
      by_contra hbalanced
      exact hnot ⟨Bool.of_not_eq_false hparen, hbalanced⟩
    rcases scan_shortFirst hwell h (Pieces.join pieces) with hfails | ⟨-, hnot⟩ | ⟨-, hnot⟩
    · exact evaluate_of_failsAt hread hfails
    · exact absurd hnot hdivides
    · exact absurd hnot hoverclosed

end Value

/-! ## Other numbers -/

/-- **What a token is** when the value of a number is left out. -/
def shape (token : String) : Option String := if Pieces.isNumber token then none else some token

/-- A count that takes all numbers alike depends on the shapes alone. -/
theorem countP_eq_of_shape {p : String → Bool} {c : Bool} (hp : ∀ n : Numeric, p n.piece = c)
    (h : others.map shape = tokens.map shape) : others.countP p = tokens.countP p := by
  have hshape (tokens : List String) :
      tokens.countP p = (tokens.map shape).countP fun kind => kind.elim c p := by
    rw [List.countP_map]
    refine List.countP_congr fun token _ => ?_
    rw [Function.comp_apply, shape]
    split
    · next hnumber =>
      obtain ⟨n, rfl⟩ := Pieces.eq_piece_of_isNumber hnumber
      rw [hp, Option.elim_none]
    · rw [Option.elim_some]
  rw [hshape others, hshape tokens, h]

theorem numbers_eq_of_shape (h : others.map shape = tokens.map shape) :
    numbers others = numbers tokens :=
  countP_eq_of_shape Pieces.isNumber_piece h

theorem operators_eq_of_shape (h : others.map shape = tokens.map shape) :
    operators others = operators tokens :=
  countP_eq_of_shape Pieces.isOperator_piece h

theorem opened_eq_of_shape (h : others.map shape = tokens.map shape) :
    others.count "(" = tokens.count "(" :=
  countP_eq_of_shape (fun n => beq_false_of_ne n.piece_ne_opening) h

theorem closings_eq_of_shape (h : others.map shape = tokens.map shape) :
    closings others = closings tokens :=
  countP_eq_of_shape (fun n => beq_false_of_ne n.piece_ne_closing) h

theorem well_of_shape (h : others.map shape = tokens.map shape)
    (hwell : ∀ token ∈ tokens, isMalformed token = false) :
    ∀ token ∈ others, isMalformed token = false := by
  have hpiece (n : Numeric) : isMalformed n.piece = false := by
    rw [isMalformed, Pieces.isMalformed_piece, Bool.and_false]
  have hcount : others.countP isMalformed = tokens.countP isMalformed :=
    countP_eq_of_shape hpiece h
  have hnone : tokens.countP isMalformed = 0 := by
    simpa [List.countP_eq_zero] using hwell
  rw [hnone] at hcount
  simpa [List.countP_eq_zero] using hcount

/-- Without numbers there is nothing to differ in. -/
theorem eq_of_shape (h : others.map shape = tokens.map shape) (hnumbers : numbers tokens = 0) :
    others = tokens := by
  have hshape {tokens : List String} (hnumbers : numbers tokens = 0) :
      tokens.map shape = tokens.map some := by
    refine List.map_congr_left fun token htoken => ?_
    rw [shape, if_neg (List.countP_eq_zero.mp hnumbers token htoken)]
  have hothers := (numbers_eq_of_shape h).trans hnumbers
  rw [hshape hnumbers, hshape hothers] at h
  exact List.map_injective_iff.mpr (fun _ _ => Option.some.inj) h

theorem exists_prefix_of_shape (h : others.map shape = tokens.map shape)
    (hfront : front <+: tokens) : ∃ part, part <+: others ∧ part.map shape = front.map shape := by
  obtain ⟨after, rfl⟩ := hfront
  rw [List.map_append] at h
  obtain ⟨part, rest, rfl, hpart, -⟩ := List.map_eq_append_iff.mp h
  exact ⟨part, List.prefix_append part rest, hpart⟩

/-- A closing parenthesis has its like. -/
theorem exists_closes_of_shape (h : others.map shape = tokens.map shape)
    (hcloses : front ++ [")"] <+: tokens) :
    ∃ part, part ++ [")"] <+: others ∧ part.map shape = front.map shape := by
  obtain ⟨closed, hclosed, hshape⟩ := exists_prefix_of_shape h hcloses
  rw [List.map_append, List.map_singleton] at hshape
  obtain ⟨part, last, rfl, hpart, hlast⟩ := List.map_eq_append_iff.mp hshape
  obtain ⟨token, rfl, htoken⟩ := List.map_eq_singleton_iff.mp hlast
  have hclosing : shape ")" = some ")" := rfl
  rw [hclosing, shape] at htoken
  split at htoken
  · exact absurd htoken (by simp)
  · rw [Option.some_inj.mp htoken] at hclosed
    exact ⟨part, hclosed, hpart⟩

theorem Short.of_shape (h : others.map shape = tokens.map shape) (hshort : Short tokens front) :
    ∃ part, Short others part ∧ part.map shape = front.map shape := by
  obtain ⟨part, hcloses, hpart⟩ := exists_closes_of_shape h hshort.closes
  refine ⟨part, ⟨hcloses, ?_⟩, hpart⟩
  rw [numbers_eq_of_shape hpart, closings_eq_of_shape hpart, operators_eq_of_shape hpart]
  exact hshort.count

/-- **The first short closing parenthesis is at the same place**, whatever the
numbers are. -/
theorem ShortFirst.of_shape (h : others.map shape = tokens.map shape)
    (hfirst : ShortFirst tokens front) :
    ∃ part, ShortFirst others part ∧ part.map shape = front.map shape := by
  obtain ⟨part, hshort, hpart⟩ := hfirst.toShort.of_shape h
  refine ⟨part, ⟨hshort, fun other hother => ?_⟩, hpart⟩
  -- another one has its like among the first tokens, and that comes no earlier
  obtain ⟨back, hback, hshape⟩ := hother.of_shape h.symm
  have hlength := (hfirst.first back hback).length_le
  have hpartlength := congrArg List.length hpart
  have hbacklength := congrArg List.length hshape
  rw [List.length_map, List.length_map] at hpartlength hbacklength
  refine List.prefix_of_prefix_length_le ((List.prefix_append part _).trans hshort.closes)
    ((List.prefix_append other _).trans hother.closes) (by omega)

theorem Overclosed.of_shape (h : others.map shape = tokens.map shape)
    (hoverclosed : Overclosed tokens) : Overclosed others := by
  obtain ⟨front, hfront, hcount⟩ := hoverclosed
  obtain ⟨part, hpart, hshape⟩ := exists_prefix_of_shape h hfront
  have hopened := opened_eq_of_shape hshape
  have hclosed : part.count ")" = front.count ")" := closings_eq_of_shape hshape
  exact ⟨part, hpart, by omega⟩

/-- **The numbers do not matter** to an underflow at a closing parenthesis: with
others it is raised at the same one, in stacks of the same sizes, unless one
before it then divides by a zero. -/
theorem FailsAt.of_shape (hwell : ∀ token ∈ tokens, isMalformed token = false)
    (h : others.map shape = tokens.map shape)
    (hfails : FailsAt entry tokens front (.stackUnderflow a b)) (another : String) :
    ∃ part, part <+: others ∧ part.map shape = front.map shape ∧
      (FailsAt another others part (.stackUnderflow a b) ∨ Divides another part) := by
  obtain ⟨hfirst, ha, hb⟩ := hfails.shortFirst
  obtain ⟨part, hpart, hshape⟩ := hfirst.of_shape h
  have hclosed : (front ++ [")"]).map shape = (part ++ [")"]).map shape := by
    rw [List.map_append, List.map_append, hshape]
  refine ⟨part, (List.prefix_append part _).trans hpart.closes, hshape, ?_⟩
  -- closing too many is no matter of numbers, so of what may come before only a
  -- division is left
  rcases scan_shortFirst (well_of_shape h hwell) hpart another with
    hruns | ⟨-, hdivides⟩ | ⟨-, hoverclosed⟩
  · rw [numbers_eq_of_shape hshape, closings_eq_of_shape hshape, operators_eq_of_shape hshape,
      ← ha, ← hb] at hruns
    exact .inl hruns
  · exact .inr hdivides
  · exact absurd (hoverclosed.of_shape hclosed) hfails.not_overclosed

section Alike

variable {pieces alike : List String}

/-- An entry with a number holds more than parentheses. -/
theorem all_isParenthesis_of_numbers (h : numbers tokens ≠ 0) :
    tokens.all isParenthesis = false := by
  obtain ⟨token, hmem, hnumber⟩ := List.countP_pos_iff.mp (Nat.pos_of_ne_zero h)
  obtain ⟨n, rfl⟩ := Pieces.eq_piece_of_isNumber hnumber
  refine List.all_eq_false.mpr ⟨n.piece, hmem, ?_⟩
  rw [isParenthesis, beq_false_of_ne n.piece_ne_opening, beq_false_of_ne n.piece_ne_closing]
  simp

/-- An entry is read whatever its numbers are. -/
theorem read_of_shape (h : others.map shape = tokens.map shape)
    (hread : tokens.all isParenthesis = false ∨ Balanced tokens) :
    others.all isParenthesis = false ∨ Balanced others := by
  by_cases hnumbers : numbers tokens = 0
  · rw [eq_of_shape h hnumbers]
    exact hread
  · rw [← numbers_eq_of_shape h] at hnumbers
    exact .inl (all_isParenthesis_of_numbers hnumbers)

/-- **The numbers do not matter** to an evaluation that runs out. -/
theorem evaluate_of_shape
    (hwell : ∀ token ∈ pieces.flatMap Pieces.burst, isMalformed token = false)
    (hshape : (alike.flatMap Pieces.burst).map shape = (pieces.flatMap Pieces.burst).map shape)
    (h : evaluate pieces = .error (.stackUnderflow a b)) :
    (evaluate alike = .error (.stackUnderflow a b) ∧
        ∀ front, FailsAt (Pieces.join pieces) (pieces.flatMap Pieces.burst) front
            (.stackUnderflow a b) →
          ∃ part, part.map shape = front.map shape ∧
            FailsAt (Pieces.join alike) (alike.flatMap Pieces.burst) part (.stackUnderflow a b)) ∨
      (evaluate alike = .error .divisionByZero ∧
        ∃ front part, FailsAt (Pieces.join pieces) (pieces.flatMap Pieces.burst) front
            (.stackUnderflow a b) ∧
          part.map shape = front.map shape ∧ Divides (Pieces.join alike) part) := by
  have hread := read_of_shape hshape (read_of_underflow h)
  rcases evaluate_underflow_cases h with ⟨front, hfails⟩ | ⟨honly, rfl, rfl⟩
  · obtain ⟨part, hpart, hlike, hruns | hdivides⟩ :=
      hfails.of_shape hwell hshape (Pieces.join alike)
    · refine .inl ⟨evaluate_of_failsAt hread hruns, fun other hother => ?_⟩
      rw [hother.shortFirst.1.unique hfails.shortFirst.1]
      exact ⟨part, hlike, hruns⟩
    · refine .inr ⟨?_, front, part, hfails, hlike, hdivides⟩
      obtain ⟨earlier, hdivides⟩ := hdivides
      rw [evaluate_of_balanced_or hread, scan_of_front hpart hdivides.scan_eq]
      rfl
  · -- without numbers the tokens are the same, however they are glued
    have hsame := eq_of_shape hshape honly.numbers_eq
    refine .inl ⟨?_, fun front hfails => ?_⟩
    · rw [evaluate_of_balanced_or hread, hsame]
      exact honly.scan_eq hwell _
    · have hmem : ")" ∈ pieces.flatMap Pieces.burst := hfails.closes.subset (by simp)
      exact absurd hmem (List.count_eq_zero.mp honly.closed_eq)

end Alike

/-- **Too little to reduce is a matter of counting.** Take an entry whose tokens are
all well formed, and call a closing parenthesis short, the `k`-th one, if fewer
than `k + 1` numbers or fewer than `k` operators stand before it.

An underflow is raised at the first short one, and its sizes are the numbers and
the operators before it, less the `k - 1` that the closing parentheses before it
have taken; or else the entry holds operators alone, and they are all that the
end finds. Where there is a first short one the underflow is raised, unless
something forestalls it. And another entry that differs in its numbers alone
has the same underflow at the same place, unless it divides by a zero before. -/
theorem evaluate_underflow {pieces : List String}
    (hwell : ∀ token ∈ pieces.flatMap Pieces.burst, isMalformed token = false) :
    let entry := Pieces.join pieces
    let tokens := pieces.flatMap Pieces.burst
    (∀ a b, evaluate pieces = .error (.stackUnderflow a b) →
      (∃ front, FailsAt entry tokens front (.stackUnderflow a b) ∧ ShortFirst tokens front ∧
          a = numbers front - closings front ∧ b = operators front - closings front) ∨
        (OperatorsOnly tokens ∧ a = 0 ∧ b = operators tokens)) ∧
    (∀ front, ShortFirst tokens front →
      (evaluate pieces = .error (.stackUnderflow (numbers front - closings front)
          (operators front - closings front)) ↔ ¬ Forestalled entry tokens front)) ∧
    (∀ alike, (alike.flatMap Pieces.burst).map shape = tokens.map shape →
      ∀ a b, evaluate pieces = .error (.stackUnderflow a b) →
        (evaluate alike = .error (.stackUnderflow a b) ∧
          ∀ front, FailsAt entry tokens front (.stackUnderflow a b) →
            ∃ part, part.map shape = front.map shape ∧
              FailsAt (Pieces.join alike) (alike.flatMap Pieces.burst) part (.stackUnderflow a b)) ∨
        (evaluate alike = .error .divisionByZero ∧
          ∃ front part, FailsAt entry tokens front (.stackUnderflow a b) ∧
            part.map shape = front.map shape ∧ Divides (Pieces.join alike) part)) := by
  intro entry tokens
  refine ⟨fun a b h => ?_, fun front hfirst => evaluate_shortFirst hwell hfirst,
    fun alike hshape a b h => evaluate_of_shape hwell hshape h⟩
  rcases evaluate_underflow_cases h with ⟨front, hfails⟩ | honly
  · exact .inl ⟨front, hfails, hfails.shortFirst⟩
  · exact .inr honly

/-- In `( ( 6 / 2 ) 3 )` the second closing parenthesis is the first short one: three
numbers stand before it, but one operator only. With `0` for `2` the first one
divides by a zero instead. -/
theorem evaluate_underflow_or_division :
    let short := ["(", "(", "6", "/", "2", ")", "3", ")"]
    let zero := ["(", "(", "6", "/", "0", ")", "3", ")"]
    (∀ token ∈ short.flatMap Pieces.burst, isMalformed token = false) ∧
      evaluate short = .error (.stackUnderflow 2 0) ∧
      evaluate zero = .error .divisionByZero ∧
      ∃ front part,
        FailsAt (Pieces.join short) (short.flatMap Pieces.burst) front (.stackUnderflow 2 0) ∧
        ShortFirst (short.flatMap Pieces.burst) front ∧
        2 = numbers front - closings front ∧ 0 = operators front - closings front ∧
        ¬ Forestalled (Pieces.join short) (short.flatMap Pieces.burst) front ∧
        part.map shape = front.map shape ∧ Divides (Pieces.join zero) part := by
  intro short zero
  have hwell : ∀ token ∈ short.flatMap Pieces.burst, isMalformed token = false := by
    decide +kernel
  have hshort : evaluate short = .error (.stackUnderflow 2 0) := by decide +kernel
  have hzero : evaluate zero = .error .divisionByZero := by decide +kernel
  have hshape : (zero.flatMap Pieces.burst).map shape = (short.flatMap Pieces.burst).map shape := by
    decide +kernel
  have honly : ¬ OperatorsOnly (short.flatMap Pieces.burst) := by decide +kernel
  obtain ⟨hcases, hconverse, hvalues⟩ := evaluate_underflow hwell
  rcases hcases 2 0 hshort with ⟨front, hfails, hfirst, ha, hb⟩ | ⟨hnot, -⟩
  · have hfree : ¬ Forestalled (Pieces.join short) (short.flatMap Pieces.burst) front := by
      rw [← hconverse front hfirst, ← ha, ← hb]
      exact hshort
    rcases hvalues zero hshape 2 0 hshort with
      ⟨hsame, -⟩ | ⟨-, other, part, hother, hlike, hdivides⟩
    · rw [hzero] at hsame
      exact absurd hsame (by simp)
    · rw [hother.shortFirst.1.unique hfirst] at hlike
      exact ⟨hwell, hshort, hzero, front, part, hfails, hfirst, ha, hb, hfree, hlike, hdivides⟩
  · exact absurd hnot honly

end StackCalculator.Parenthesised
