/-
Expressions cut short, and expressions closed once too often.

A fully parenthesised expression keeps at least one parenthesis open from its
first piece to its last but one. So wherever it is cut, what was read cannot
answer; and after the whole of it no parenthesis is open for one more to close.
Both are refused for their parentheses, with one exception: a group that was
closed in what was read has been reduced, and if that divided by a zero, the
reading ended there.

`ReadsAbove` is what holds of a reading on the way: it stops at such a group,
or it goes through without coming back below a level. It holds of every front
of an expression, from any stacks at any depth (`readsAbove_front`), by
induction on the tree. Nothing else can go wrong: no group is closed before its
operands and its operator have been read.
-/
import StackCalculator.Proofs.Balance
import StackCalculator.Proofs.Grouping

set_option autoImplicit false

namespace StackCalculator.Parenthesised

variable {entry : String} {s t : Scan} {floor : Nat}

/-! ## Groups among the pieces -/

/-- **A group divides by a zero**: an operation in its own parentheses stands
whole among the pieces, and some operation in it divides by a zero. -/
def GroupDivides (pieces : List String) : Prop :=
  ∃ op left right, (Expression.node op left right).parenthesised <:+: pieces ∧
    (Expression.node op left right).DividesByZero

theorem GroupDivides.mono {part pieces : List String} (h : GroupDivides part)
    (hpart : part <:+: pieces) : GroupDivides pieces := by
  obtain ⟨op, left, right, hgroup, hdivides⟩ := h
  exact ⟨op, left, right, hgroup.trans hpart, hdivides⟩

/-- An expression that divides by a zero is no lone number, so it is a group. -/
theorem groupDivides_parenthesised {e : Expression} (h : e.DividesByZero) :
    GroupDivides e.parenthesised := by
  rcases e with n | ⟨op, left, right⟩
  · exact nomatch h
  · exact ⟨op, left, right, List.infix_rfl, h⟩

/-- A group that divides by a zero is never read to its end. -/
theorem not_groupDivides_of_scan {pieces : List String} (h : scan entry s pieces = .ok t) :
    ¬ GroupDivides pieces := by
  rintro ⟨op, left, right, ⟨before, after, rfl⟩, hdivides⟩
  rw [scan_eq, List.foldlM_append, List.foldlM_append, bind_eq_ok] at h
  obtain ⟨u, hu, -⟩ := h
  obtain ⟨r, -, hgroup⟩ := bind_eq_ok.mp hu
  have hscan := scan_parenthesised entry (.node op left right) r []
  rw [List.append_nil, (Expression.value_eq_divisionByZero_iff _).mpr hdivides] at hscan
  exact absurd (hgroup.symm.trans hscan) nofun

/-- A group has a piece that is no parenthesis. -/
theorem not_groupDivides_of_all_isParenthesis {pieces : List String}
    (h : pieces.all isParenthesis = true) : ¬ GroupDivides pieces := by
  rintro ⟨op, left, right, hgroup, -⟩
  have hall : (Expression.node op left right).parenthesised.all isParenthesis = true := by
    rw [List.all_eq_true] at h ⊢
    exact fun p hp => h p (hgroup.subset hp)
  rw [not_all_isParenthesis] at hall
  exact Bool.false_ne_true hall

/-! ## Reading a front -/

/-- **The reading of some pieces stops at a group** that divides by a zero, or
goes through them and ends at no lower level. -/
def ReadsAbove (entry : String) (s : Scan) (floor : Nat) (pieces : List String) : Prop :=
  (scan entry s pieces = .error .divisionByZero ∧ GroupDivides pieces) ∨
    ∃ t, scan entry s pieces = .ok t ∧ floor ≤ t.depth

theorem readsAbove_nil (h : floor ≤ s.depth) : ReadsAbove entry s floor [] :=
  .inr ⟨s, rfl, h⟩

theorem ReadsAbove.cons {piece : String} {rest : List String} (hstep : step entry s piece = .ok t)
    (h : ReadsAbove entry t floor rest) : ReadsAbove entry s floor (piece :: rest) := by
  have hscan : scan entry s (piece :: rest) = scan entry t rest := by
    rw [scan_cons, hstep, ok_bind]
  rcases h with ⟨hrest, hdivides⟩ | ⟨u, hrest, hu⟩
  · exact .inl ⟨hscan.trans hrest, hdivides.mono (List.suffix_cons piece rest).isInfix⟩
  · exact .inr ⟨u, hscan.trans hrest, hu⟩

theorem ReadsAbove.mono {lower : Nat} {pieces : List String}
    (h : ReadsAbove entry s floor pieces) (hlower : lower ≤ floor) :
    ReadsAbove entry s lower pieces :=
  h.imp_right fun ⟨t, ht, hfloor⟩ => ⟨t, ht, Nat.le_trans hlower hfloor⟩

/-- A whole expression pushes its value, so only what follows it matters. -/
theorem ReadsAbove.expression_append (e : Expression) {rest : List String}
    (h : ∀ x, ReadsAbove entry { s with held := s.held.pushTop x } floor rest) :
    ReadsAbove entry s floor (e.parenthesised ++ rest) := by
  have hscan := scan_parenthesised entry e s rest
  rcases e.value_cases with ⟨x, hx, -⟩ | ⟨hx, hdivides⟩
  · rw [hx, ok_bind] at hscan
    rcases h x with ⟨hrest, hdivides⟩ | ⟨t, hrest, ht⟩
    · have hinfix : rest <:+: e.parenthesised ++ rest := (List.suffix_append _ _).isInfix
      exact .inl ⟨hscan.trans hrest, hdivides.mono hinfix⟩
    · exact .inr ⟨t, hscan.trans hrest, ht⟩
  · rw [hx, error_bind] at hscan
    have hinfix : e.parenthesised <:+: e.parenthesised ++ rest := (List.prefix_append _ _).isInfix
    exact .inl ⟨hscan, (groupDivides_parenthesised hdivides).mono hinfix⟩

theorem ReadsAbove.expression (e : Expression) (h : floor ≤ s.depth) :
    ReadsAbove entry s floor e.parenthesised := by
  have happend : ReadsAbove entry s floor (e.parenthesised ++ []) :=
    .expression_append e fun _ => readsAbove_nil h
  rwa [List.append_nil] at happend

theorem prefix_append_cases {front first second : List String} (h : front <+: first ++ second) :
    front <+: first ∨ ∃ rest, front = first ++ rest ∧ rest <+: second := by
  rcases List.prefix_or_prefix_of_prefix h (List.prefix_append first second) with
    hfront | ⟨rest, rfl⟩
  · exact .inl hfront
  · exact .inr ⟨rest, rfl, (List.prefix_append_right_inj first).mp h⟩

/-- Between the parentheses of a group: a front of the left operand, or all of
it and then a front of the operator and the right operand. -/
theorem readsAbove_inside {op : Operator} {left right : Expression} {front : List String}
    (hleft : ∀ (s : Scan) (front : List String), front <+: left.parenthesised →
      ReadsAbove entry s s.depth front)
    (hright : ∀ (s : Scan) (front : List String), front <+: right.parenthesised →
      ReadsAbove entry s s.depth front)
    (h : front <+: left.parenthesised ++ op.symbol :: right.parenthesised) :
    ReadsAbove entry s s.depth front := by
  rcases prefix_append_cases h with hfront | ⟨rest, rfl, hrest⟩
  · exact hleft s front hfront
  refine .expression_append left fun x => ?_
  rcases List.prefix_cons_iff.mp hrest with rfl | ⟨operand, rfl, hoperand⟩
  · exact readsAbove_nil (Nat.le_refl _)
  · exact .cons (step_symbol entry _ op) (hright _ operand hoperand)

/-- **A front of an expression** is read at no lower level than it begins. -/
theorem readsAbove_front (e : Expression) (s : Scan) {front : List String}
    (h : front <+: e.parenthesised) : ReadsAbove entry s s.depth front := by
  induction e generalizing s front with
  | leaf n =>
    rcases List.prefix_cons_iff.mp h with rfl | ⟨rest, rfl, hrest⟩
    · exact readsAbove_nil (Nat.le_refl _)
    · rw [List.prefix_nil.mp hrest]
      exact .expression (.leaf n) (Nat.le_refl _)
  | node op left right ihl ihr =>
    -- all of it, nothing of it, or a front of what its parentheses hold
    rcases List.prefix_concat_iff.mp h with rfl | hcut
    · exact .expression (.node op left right) (Nat.le_refl _)
    rcases List.prefix_cons_iff.mp hcut with rfl | ⟨inside, rfl, hinside⟩
    · exact readsAbove_nil (Nat.le_refl _)
    · refine .cons (step_opening entry s) ?_
      exact (readsAbove_inside ihl ihr hinside).mono (Nat.le_succ _)

/-- A front that is neither empty nor the whole leaves a parenthesis open. -/
theorem readsAbove_cut (e : Expression) (s : Scan) {front : List String}
    (h : front <+: e.parenthesised) (hempty : front ≠ []) (hwhole : front ≠ e.parenthesised) :
    ReadsAbove entry s (s.depth + 1) front := by
  rcases e with n | ⟨op, left, right⟩
  · rcases List.prefix_cons_iff.mp h with rfl | ⟨rest, rfl, hrest⟩
    · exact absurd rfl hempty
    · rw [List.prefix_nil.mp hrest] at hwhole
      exact absurd rfl hwhole
  · have hcut := (List.prefix_concat_iff.mp h).resolve_left hwhole
    obtain ⟨inside, rfl, hinside⟩ := (List.prefix_cons_iff.mp hcut).resolve_left hempty
    exact .cons (step_opening entry s)
      (readsAbove_inside (readsAbove_front left) (readsAbove_front right) hinside)

/-! ## The value of a cut or overclosed expression -/

/-- **An expression cut short**: a group closed before the cut divides by a
zero, or the parentheses are unbalanced. -/
theorem evaluate_front {e : Expression} {front : List String} (h : front <+: e.parenthesised)
    (hempty : front ≠ []) (hwhole : front ≠ e.parenthesised) :
    (GroupDivides front ∧ evaluate front = .error .divisionByZero) ∨
      (¬ GroupDivides front ∧
        evaluate front = .error (.unbalancedParentheses (Pieces.join front))) := by
  have hburst : front.flatMap Pieces.burst = front := flatMap_burst_of_subset h.subset
  by_cases hread : front.all isParenthesis = false ∨ Balanced front
  · have hvalue : evaluate front = scan (Pieces.join front) {} front >>=
        answer (Pieces.join front) := by
      rw [← hburst] at hread
      rw [evaluate_of_balanced_or hread, hburst]
    rcases readsAbove_cut e {} h hempty hwhole with ⟨hscan, hdivides⟩ | ⟨t, hscan, ht⟩
    · rw [hscan, error_bind] at hvalue
      exact .inl ⟨hdivides, hvalue⟩
    · rw [hscan, ok_bind, answer, if_pos (Nat.ne_of_gt ht)] at hvalue
      exact .inr ⟨not_groupDivides_of_scan hscan, hvalue⟩
  · obtain ⟨hparen, hbalanced⟩ := not_or.mp hread
    have hparen := Bool.of_not_eq_false hparen
    refine .inr ⟨not_groupDivides_of_all_isParenthesis hparen, ?_⟩
    rw [← hburst] at hparen hbalanced
    exact evaluate_of_not_balanced hparen hbalanced

/-- **An expression closed once too often**: it divides by a zero, or the
parentheses are unbalanced, whatever follows. -/
theorem evaluate_overclosed (e : Expression) (rest : List String) :
    let pieces := e.parenthesised ++ ")" :: rest
    (e.DividesByZero ∧ evaluate pieces = .error .divisionByZero) ∨
      (¬ e.DividesByZero ∧
        evaluate pieces = .error (.unbalancedParentheses (Pieces.join pieces))) := by
  intro pieces
  have hburst : pieces.flatMap Pieces.burst
      = e.parenthesised ++ ")" :: rest.flatMap Pieces.burst := by
    rw [List.flatMap_append, flatMap_burst_parenthesised]
    rfl
  have hparen : (pieces.flatMap Pieces.burst).all isParenthesis = false := by
    rw [hburst, List.all_append, not_all_isParenthesis, Bool.false_and]
  have hvalue := evaluate_of_balanced_or (.inl hparen)
  rw [hburst, scan_parenthesised] at hvalue
  -- at level zero the closing parenthesis is refused before anything is reduced
  rcases e.value_cases with ⟨x, hx, hdivides⟩ | ⟨hx, hdivides⟩
  · rw [hx] at hvalue
    exact .inr ⟨hdivides, hvalue⟩
  · rw [hx] at hvalue
    exact .inl ⟨hdivides, hvalue⟩

/-- **Cut or overclosed expressions are refused**, with the right error. Cut
anywhere into two parts, the first is refused for a division by zero if a group
closed in it makes one, and otherwise for its parentheses. With one more closing
parenthesis, and anything after that, an expression is refused for a division
by zero if it makes one itself, and otherwise for its parentheses. -/
theorem evaluate_cut_or_overclosed (e : Expression) :
    (∀ front back, front ++ back = e.parenthesised → front ≠ [] → back ≠ [] →
      (GroupDivides front ∧ evaluate front = .error .divisionByZero) ∨
        (¬ GroupDivides front ∧
          evaluate front = .error (.unbalancedParentheses (Pieces.join front)))) ∧
      ∀ rest, let pieces := e.parenthesised ++ ")" :: rest
        (e.DividesByZero ∧ evaluate pieces = .error .divisionByZero) ∨
          (¬ e.DividesByZero ∧
            evaluate pieces = .error (.unbalancedParentheses (Pieces.join pieces))) := by
  refine ⟨fun front back h hfront hback => ?_, evaluate_overclosed e⟩
  have hprefix : front <+: e.parenthesised := ⟨back, h⟩
  have hwhole : front ≠ e.parenthesised := by
    rintro rfl
    exact hback (List.append_right_eq_self.mp h)
  exact evaluate_front hprefix hfront hwhole

/-- `( ( 1 / 0 ) +` has been cut from an expression after a group that divides
by a zero. -/
theorem evaluate_cut_or_overclosed_divides :
    let front := ["(", "(", "1", "/", "0", ")", "+"]
    GroupDivides front ∧ evaluate front = .error .divisionByZero := by
  intro front
  let one : Numeric := ⟨"1", 1.0, by decide +kernel⟩
  let zero : Numeric := ⟨"0", 0.0, by decide +kernel⟩
  let quotient : Expression := .node .divide (.leaf one) (.leaf zero)
  have hdivides : quotient.DividesByZero :=
    .here rfl rfl (if_pos (by decide +kernel))
  have hgroup : GroupDivides front :=
    ⟨.divide, .leaf one, .leaf zero, ⟨["("], ["+"], rfl⟩, hdivides⟩
  have hcut := (evaluate_cut_or_overclosed (.node .plus quotient (.leaf one))).1 front ["1", ")"]
    rfl (by simp [front]) (by simp)
  rcases hcut with hcut | ⟨hnone, -⟩
  · exact hcut
  · exact absurd hgroup hnone

end StackCalculator.Parenthesised
