/-
Balance of parentheses.

Two counters judge the parentheses of an entry: the reading's own depth, which
may not go below zero and must be zero at the end, and the level that is
counted beforehand where an entry holds nothing but parentheses. Neither of
them looks at the entry as a whole, and a reading that fails for another reason
stops counting. `Balanced` says what both are meant to find, of the fronts of
the tokens.

The level after some tokens exists exactly when no front of them closes too
many, and is then what is left open (`foldlM_level_eq_some_iff`). A reading
keeps to that level as far as it goes (`scan_judged`), so it accuses the
parentheses where the level gives out and nowhere else.
-/
import StackCalculator.Proofs.Scanning

set_option autoImplicit false

namespace StackCalculator.Parenthesised

/-! ## Balanced tokens -/

/-- **Balanced tokens**: no front of them closes more parentheses than it
opens, and in the end as many are closed as are opened. -/
structure Balanced (tokens : List String) : Prop where
  covered : ∀ front, front <+: tokens → front.count ")" ≤ front.count "("
  even : tokens.count "(" = tokens.count ")"

/-- Tokens that lead from one level to another and never below zero. -/
structure Leads (depth : Nat) (tokens : List String) (final : Nat) : Prop where
  covered : ∀ front, front <+: tokens → front.count ")" ≤ depth + front.count "("
  final_add : final + tokens.count ")" = depth + tokens.count "("

theorem balanced_iff_leads (tokens : List String) : Balanced tokens ↔ Leads 0 tokens 0 := by
  constructor
  · rintro ⟨hcovered, heven⟩
    refine ⟨fun front hfront => ?_, by omega⟩
    have hle := hcovered front hfront
    omega
  · rintro ⟨hcovered, hfinal⟩
    refine ⟨fun front hfront => ?_, by omega⟩
    have hle := hcovered front hfront
    omega

theorem leads_nil_iff {depth final : Nat} : Leads depth [] final ↔ final = depth := by
  constructor
  · rintro ⟨-, hfinal⟩
    exact hfinal
  · rintro rfl
    refine ⟨fun front hfront => ?_, rfl⟩
    rw [List.prefix_nil.mp hfront]
    exact Nat.zero_le _

/-- A token lowers the level by what it closes, which the level must cover, and
raises it by what it opens. -/
theorem leads_cons_iff {depth final : Nat} {token : String} {rest : List String} :
    Leads depth (token :: rest) final ↔
      ∃ next, next + [token].count ")" = depth + [token].count "(" ∧ Leads next rest final := by
  have hopened (tokens : List String) :
      (token :: tokens).count "(" = [token].count "(" + tokens.count "(" := by
    rw [← List.singleton_append, List.count_append]
  have hclosed (tokens : List String) :
      (token :: tokens).count ")" = [token].count ")" + tokens.count ")" := by
    rw [← List.singleton_append, List.count_append]
  constructor
  · rintro ⟨hcovered, hfinal⟩
    -- the front that is the token alone says that the level covers it
    have hfirst := hcovered [token] (List.prefix_append [token] rest)
    refine ⟨depth + [token].count "(" - [token].count ")", by omega, fun front hfront => ?_, ?_⟩
    · have hle := hcovered (token :: front) ((List.prefix_cons_inj token).mpr hfront)
      rw [hopened front, hclosed front] at hle
      omega
    · rw [hopened rest, hclosed rest] at hfinal
      omega
  · rintro ⟨next, hnext, hcovered, hfinal⟩
    refine ⟨fun front hfront => ?_, ?_⟩
    · rcases List.prefix_cons_iff.mp hfront with rfl | ⟨others, rfl, hothers⟩
      · exact Nat.zero_le _
      · have hle := hcovered others hothers
        rw [hopened others, hclosed others]
        omega
    · rw [hopened rest, hclosed rest]
      omega

/-! ## The count made beforehand -/

theorem level_eq_some_iff {depth next : Nat} {token : String} :
    level depth token = some next ↔
      next + [token].count ")" = depth + [token].count "(" := by
  unfold level
  by_cases hopening : token = "("
  · have hcounts : ["("].count "(" = 1 ∧ ["("].count ")" = 0 := by decide
    rw [if_pos hopening, hopening, Option.some_inj, hcounts.1, hcounts.2]
    omega
  by_cases hclosing : token = ")"
  · have hcounts : [")"].count "(" = 0 ∧ [")"].count ")" = 1 := by decide
    rw [if_neg hopening, if_pos hclosing, hclosing, hcounts.1, hcounts.2]
    rcases depth with _ | outer
    · exact ⟨nofun, by omega⟩
    · rw [Option.some_inj]
      omega
  · have hopen : [token].count "(" = 0 :=
      List.count_eq_zero.mpr (by simpa using Ne.symm hopening)
    have hclose : [token].count ")" = 0 :=
      List.count_eq_zero.mpr (by simpa using Ne.symm hclosing)
    rw [if_neg hopening, if_neg hclosing, Option.some_inj, hopen, hclose]
    omega

/-- **The level after tokens** exists when no front of them closes too many,
and is then what is left open. -/
theorem foldlM_level_eq_some_iff {tokens : List String} {depth final : Nat} :
    tokens.foldlM level depth = some final ↔ Leads depth tokens final := by
  induction tokens generalizing depth with
  | nil =>
    rw [List.foldlM_nil, leads_nil_iff]
    exact Option.some_inj.trans eq_comm
  | cons token rest ih =>
    rw [List.foldlM_cons, leads_cons_iff, Option.bind_eq_bind, Option.bind_eq_some_iff]
    exact exists_congr fun next => and_congr level_eq_some_iff ih

theorem foldlM_level_eq_some_zero_iff (tokens : List String) :
    tokens.foldlM level 0 = some 0 ↔ Balanced tokens := by
  rw [foldlM_level_eq_some_iff, balanced_iff_leads]

theorem balanced_eq_true_iff (tokens : List String) :
    balanced tokens = true ↔ Balanced tokens := by
  rw [balanced, beq_iff_eq, foldlM_level_eq_some_zero_iff]

/-! ## The reading's own count -/

/-- **What a reading says of the parentheses**, beside the level they reach: a
reading that goes through has the same level, one that accuses them does so
where there is no level, and one that fails otherwise says nothing. -/
inductive Judged (entry : String) : Except EvalError Scan → Option Nat → Prop where
  | reads (t : Scan) : Judged entry (.ok t) (some t.depth)
  | accuses : Judged entry (.error (.unbalancedParentheses entry)) none
  | fails {e : EvalError} (h : ∀ text, e ≠ .unbalancedParentheses text) (l : Option Nat) :
      Judged entry (.error e) l

theorem step_judged (entry : String) (s : Scan) (piece : String) :
    Judged entry (step entry s piece) (level s.depth piece) := by
  by_cases hopening : piece = "("
  · subst hopening
    exact .reads _
  by_cases hclosing : piece = ")"
  · subst hclosing
    obtain ⟨held, depth⟩ := s
    rcases depth with _ | outer
    · exact .accuses
    -- with a level to come back to, only the reduction can fail
    · rw [step_reduce]
      rcases held.reduced_outcomes .topRight with ⟨x, hx⟩ | hx | hx
      · rw [hx]
        exact .reads _
      · rw [hx]
        exact .fails (by simp) _
      · rw [hx]
        exact .fails (by simp) _
  · have hlevel : level s.depth piece = some s.depth := by
      unfold level
      rw [if_neg hopening, if_neg hclosing]
    rw [hlevel, step_eq_bind, Token.classifyParenthesised, if_neg hopening, if_neg hclosing]
    rcases Pieces.piece_cases piece with ⟨op, rfl⟩ | ⟨n, rfl⟩ | hmalformed
    · rw [Token.classify_symbol]
      exact .reads _
    · rw [Token.classify_piece]
      exact .reads _
    · rw [Token.classify_of_isMalformed hmalformed]
      exact .fails (by simp) _

/-- **A reading keeps to the level of its tokens** for as long as it goes. -/
theorem scan_judged (entry : String) (s : Scan) (tokens : List String) :
    Judged entry (scan entry s tokens) (tokens.foldlM level s.depth) := by
  induction tokens generalizing s with
  | nil => exact .reads s
  | cons token rest ih =>
    have hstep := step_judged entry s token
    rw [scan_cons, List.foldlM_cons]
    generalize step entry s token = outcome at hstep ⊢
    generalize level s.depth token = next at hstep ⊢
    cases hstep with
    | reads t => exact ih t
    | accuses => exact .accuses
    | fails h => exact .fails h _

/-! ## The end of a reading -/

section End

variable {entry : String} {outcome : Except EvalError Scan} {l : Option Nat}

/-- An answer is given at level zero only. -/
theorem Judged.eq_some_zero_of_ok (h : Judged entry outcome l) {x : Float}
    (hx : (outcome >>= answer entry) = .ok x) : l = some 0 := by
  cases h with
  | reads t =>
    rw [ok_bind, answer] at hx
    split at hx
    · exact absurd hx nofun
    · next hdepth => rw [Decidable.not_not.mp hdepth]
  | accuses => exact absurd hx nofun
  | fails h l => exact absurd hx nofun

/-- An entry is accused where the level gives out, or does not end at zero. -/
theorem Judged.ne_some_zero_of_unbalanced (h : Judged entry outcome l) {text : String}
    (htext : (outcome >>= answer entry) = .error (.unbalancedParentheses text)) :
    l ≠ some 0 ∧ text = entry := by
  cases h with
  | reads t =>
    rw [ok_bind, answer] at htext
    split at htext
    · next hdepth =>
      rw [Except.error.injEq, EvalError.unbalancedParentheses.injEq] at htext
      exact ⟨fun hl => hdepth (Option.some_inj.mp hl), htext.symm⟩
    · split at htext
      · exact absurd htext nofun
      · exact absurd htext (by simp)
  | accuses =>
    rw [error_bind, Except.error.injEq, EvalError.unbalancedParentheses.injEq] at htext
    exact ⟨nofun, htext.symm⟩
  | fails h l =>
    rw [error_bind, Except.error.injEq] at htext
    exact absurd htext (h text)

end End

/-! ## Parentheses alone -/

/-- Parentheses that lead back to level zero reduce empty stacks at the first
closing one; without any, there is nothing to answer. -/
theorem scan_parentheses (entry : String) {tokens : List String} {depth : Nat}
    (hparen : tokens.all isParenthesis = true) (hlevel : tokens.foldlM level depth = some 0) :
    (scan entry ⟨{}, depth⟩ tokens >>= answer entry) = .error (.stackUnderflow 0 0) := by
  induction tokens generalizing depth with
  | nil =>
    have hdepth : depth = 0 := Option.some_inj.mp hlevel
    rw [hdepth]
    rfl
  | cons token rest ih =>
    rw [List.all_cons, Bool.and_eq_true] at hparen
    rw [List.foldlM_cons] at hlevel
    have htoken : token = "(" ∨ token = ")" := by simpa [isParenthesis] using hparen.1
    rcases htoken with rfl | rfl
    · exact ih hparen.2 hlevel
    · rcases depth with _ | outer
      · exact absurd hlevel nofun
      · rfl

/-! ## The value of an entry -/

/-- An entry of parentheses alone that are not balanced is not read. -/
theorem evaluate_of_not_balanced {pieces : List String}
    (hparen : (pieces.flatMap Pieces.burst).all isParenthesis = true)
    (h : ¬ Balanced (pieces.flatMap Pieces.burst)) :
    evaluate pieces = .error (.unbalancedParentheses (Pieces.join pieces)) := by
  have hbalanced := Bool.eq_false_iff.mpr (mt (balanced_eq_true_iff _).mp h)
  simp only [evaluate_eq, hparen, hbalanced]
  rfl

/-- Every other entry is. -/
theorem evaluate_of_balanced_or {pieces : List String}
    (h : (pieces.flatMap Pieces.burst).all isParenthesis = false ∨
      Balanced (pieces.flatMap Pieces.burst)) :
    evaluate pieces = scan (Pieces.join pieces) {} (pieces.flatMap Pieces.burst) >>=
      answer (Pieces.join pieces) := by
  simp only [evaluate_eq]
  rw [if_neg]
  rcases h with hparen | hbalanced
  · rw [hparen]
    nofun
  · rw [(balanced_eq_true_iff _).mpr hbalanced]
    simp

/-- **The parentheses of an entry are judged soundly.** An entry with a value
is balanced. One that is refused for its parentheses is not, and the refusal
names the entry. Where there are parentheses alone, or nothing, it is refused so
exactly when it is not balanced, and otherwise for want of operands. -/
theorem evaluate_balance (pieces : List String) :
    (∀ x, evaluate pieces = .ok x → Balanced (pieces.flatMap Pieces.burst)) ∧
      (∀ text, evaluate pieces = .error (.unbalancedParentheses text) →
        ¬ Balanced (pieces.flatMap Pieces.burst) ∧ text = Pieces.join pieces) ∧
      ((pieces.flatMap Pieces.burst).all isParenthesis = true →
        (evaluate pieces = .error (.unbalancedParentheses (Pieces.join pieces)) ↔
          ¬ Balanced (pieces.flatMap Pieces.burst)) ∧
        (Balanced (pieces.flatMap Pieces.burst) →
          evaluate pieces = .error (.stackUnderflow 0 0))) := by
  have hscan := scan_judged (Pieces.join pieces) {} (pieces.flatMap Pieces.burst)
  have hlevel := foldlM_level_eq_some_zero_iff (pieces.flatMap Pieces.burst)
  by_cases hread : (pieces.flatMap Pieces.burst).all isParenthesis = false ∨
      Balanced (pieces.flatMap Pieces.burst)
  · have hvalue := evaluate_of_balanced_or hread
    refine ⟨fun x hx => ?_, fun text htext => ?_, fun hparen => ?_⟩
    · rw [hvalue] at hx
      exact hlevel.mp (hscan.eq_some_zero_of_ok hx)
    · rw [hvalue] at htext
      obtain ⟨hne, htext⟩ := hscan.ne_some_zero_of_unbalanced htext
      exact ⟨mt hlevel.mpr hne, htext⟩
    · have hbalanced := hread.resolve_left (by rw [hparen]; nofun)
      have hunderflow : evaluate pieces = .error (.stackUnderflow 0 0) :=
        hvalue.trans (scan_parentheses _ hparen (hlevel.mpr hbalanced))
      refine ⟨?_, fun _ => hunderflow⟩
      rw [hunderflow]
      exact ⟨nofun, fun h => absurd hbalanced h⟩
  · obtain ⟨hparen, hbalanced⟩ := not_or.mp hread
    have hparen := Bool.of_not_eq_false hparen
    have hvalue := evaluate_of_not_balanced hparen hbalanced
    refine ⟨fun x hx => ?_, fun text htext => ?_, fun _ => ⟨?_, fun h => absurd h hbalanced⟩⟩
    · rw [hvalue] at hx
      exact absurd hx nofun
    · rw [hvalue, Except.error.injEq, EvalError.unbalancedParentheses.injEq] at htext
      exact ⟨hbalanced, htext.symm⟩
    · exact iff_of_true hvalue hbalanced

end StackCalculator.Parenthesised
