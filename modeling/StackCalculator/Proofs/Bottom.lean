/-
Which reduction decides.

The answer is the bottom operand, and most of what a reading does leaves that
operand alone: a token is pushed above it, and a reduction takes the two
topmost operands. It is put down by the first number, and replaced by a
reduction that finds exactly two operands. So the last reduction of this kind
decides; where there is none, nothing that the entry says after its first
number is heard.

How many operands a reduction finds can be counted in the tokens, whatever
their order. Each number adds one and each reduction takes one away, since it
takes two and gives one back (`Counted.length_add`). `Decides` is that count.
-/
import StackCalculator.Proofs.Stopping
import Mathlib.Data.List.Induction
import Mathlib.Data.List.Infix

set_option autoImplicit false

namespace StackCalculator.Parenthesised

variable {entry token : String} {s t : Scan} {tokens : List String}

/-! ## A step that goes through -/

/-- **What a step does** when it does not fail: the state before it, the token
and the state after it. -/
inductive Reads : Scan → String → Scan → Prop where
  | opening (s : Scan) : Reads s "(" { s with depth := s.depth + 1 }
  | closing {held : Stacks} {x : Float} (outer : Nat) (h : held.reduced .topRight = .ok x) :
      Reads ⟨held, outer + 1⟩ ")" ⟨held.remaining.pushTop x, outer⟩
  | operator (s : Scan) (op : Operator) :
      Reads s op.symbol { s with held.operators := op :: s.held.operators }
  | number (s : Scan) (n : Numeric) : Reads s n.piece { s with held := s.held.pushTop n.value }

theorem step_reads (h : step entry s token = .ok t) : Reads s token t := by
  rcases token_cases token with rfl | rfl | ⟨op, rfl⟩ | ⟨n, rfl⟩ | hmalformed
  · rw [step_opening, Except.ok.injEq] at h
    subst h
    exact .opening s
  · obtain ⟨held, depth⟩ := s
    rcases depth with _ | outer
    · rw [step_unopened] at h
      exact absurd h (by simp)
    · rw [step_reduce, bind_eq_ok] at h
      obtain ⟨x, hx, h⟩ := h
      obtain rfl := Except.ok.inj h
      exact .closing outer hx
  · rw [step_symbol, Except.ok.injEq] at h
    subst h
    exact .operator s op
  · rw [step_piece, Except.ok.injEq] at h
    subst h
    exact .number s n
  · rw [step_of_isMalformed entry s hmalformed] at h
    exact absurd h (by simp)

/-- A reduction that succeeds has two operands to take. -/
theorem operands_of_reduced {held : Stacks} {x : Float} (h : held.reduced .topRight = .ok x) :
    ∃ top next rest, held.operands = top :: next :: rest := by
  obtain ⟨top, next, rest, op, operators, rfl⟩ := held.ready_iff.mp (Stacks.ready_of_reduced h)
  exact ⟨top, next, rest, rfl⟩

/-! ## Counting operands -/

/-- How many numbers stand among tokens. -/
def numbers (tokens : List String) : Nat := tokens.countP Pieces.isNumber

/-- How many closing parentheses stand among tokens. -/
def closings (tokens : List String) : Nat := tokens.count ")"

theorem numbers_concat (tokens : List String) (token : String) :
    numbers (tokens ++ [token]) = numbers tokens + if Pieces.isNumber token then 1 else 0 := by
  rw [numbers, numbers, List.countP_append, List.countP_singleton]

theorem closings_concat (tokens : List String) (token : String) :
    closings (tokens ++ [token]) = closings tokens + if token = ")" then 1 else 0 := by
  rw [closings, closings, List.count_append, List.count_singleton]
  simp only [beq_iff_eq]

/-- **The account of the operands** once tokens are read: each number has added
one, each closing parenthesis has taken one away, and never the last. -/
structure Counted (tokens : List String) (s : Scan) : Prop where
  length_add : s.held.operands.length + closings tokens = numbers tokens
  length_pos : 0 < closings tokens → 0 < s.held.operands.length

theorem Counted.start : Counted [] {} := ⟨rfl, id⟩

/-- **A step keeps the account.** -/
theorem Counted.step (h : Counted tokens s) (hreads : Reads s token t) :
    Counted (tokens ++ [token]) t := by
  obtain ⟨hadd, hpos⟩ := h
  cases hreads with
  | opening s =>
    have hnumber : Pieces.isNumber "(" = false := rfl
    refine ⟨?_, ?_⟩
    · rw [numbers_concat, closings_concat, hnumber]
      exact hadd
    · rw [closings_concat]
      exact hpos
  | closing outer hx =>
    obtain ⟨top, next, rest, hheld⟩ := operands_of_reduced hx
    have hnumber : Pieces.isNumber ")" = false := rfl
    simp only [hheld, List.length_cons] at hadd
    refine ⟨?_, fun _ => Nat.succ_pos _⟩
    rw [numbers_concat, closings_concat, hnumber, if_pos rfl]
    simp only [Stacks.pushTop, Stacks.remaining, hheld, List.drop_succ_cons, List.drop_zero,
      List.length_cons, Bool.false_eq_true, if_false]
    omega
  | operator s op =>
    refine ⟨?_, ?_⟩
    · rw [numbers_concat, closings_concat, Pieces.isNumber_symbol, if_neg op.symbol_ne_closing]
      exact hadd
    · rw [closings_concat, if_neg op.symbol_ne_closing]
      exact hpos
  | number s n =>
    refine ⟨?_, fun _ => Nat.succ_pos _⟩
    rw [numbers_concat, closings_concat, Pieces.isNumber_piece, if_pos rfl,
      if_neg n.piece_ne_closing]
    simp only [Stacks.pushTop, List.length_cons]
    omega

/-! ## Deciding reductions -/

/-- **A deciding reduction** of some tokens, known by the tokens before it: the
closing parenthesis behind them is the `k`-th of all, for `k` one more than those
among them, and the numbers among them are `k + 1`. -/
structure Decides (tokens front : List String) : Prop where
  closes : front ++ [")"] <+: tokens
  count : numbers front = (closings front + 1) + 1

instance (tokens front : List String) : Decidable (Decides tokens front) :=
  decidable_of_iff (front ++ [")"] <+: tokens ∧ numbers front = (closings front + 1) + 1)
    ⟨fun ⟨hcloses, hcount⟩ => ⟨hcloses, hcount⟩, fun ⟨hcloses, hcount⟩ => ⟨hcloses, hcount⟩⟩

/-- **The last deciding reduction** of some tokens. -/
structure DecidesLast (tokens front : List String) : Prop extends Decides tokens front where
  last : ∀ other, Decides tokens other → other <+: front

/-- A token more is a reduction more if it closes, and decides if the count is right. -/
theorem decides_concat_iff {front : List String} :
    Decides (tokens ++ [token]) front ↔
      (front = tokens ∧ token = ")" ∧ numbers tokens = (closings tokens + 1) + 1) ∨
        Decides tokens front := by
  constructor
  · rintro ⟨hcloses, hcount⟩
    rcases List.prefix_concat_iff.mp hcloses with heq | hbefore
    · obtain ⟨rfl, htoken⟩ := List.append_inj' heq rfl
      exact .inl ⟨rfl, (List.singleton_inj.mp htoken).symm, hcount⟩
    · exact .inr ⟨hbefore, hcount⟩
  · rintro (⟨rfl, rfl, hcount⟩ | ⟨hcloses, hcount⟩)
    · exact ⟨List.prefix_rfl, hcount⟩
    · exact ⟨hcloses.trans (List.prefix_append _ _), hcount⟩

theorem not_decides_of_closings (h : closings tokens = 0) (front : List String) :
    ¬ Decides tokens front := by
  rintro ⟨hcloses, -⟩
  have hmem : ")" ∈ tokens := hcloses.subset (by simp)
  have hpos : 0 < tokens.count ")" := List.count_pos_iff.mpr hmem
  rw [closings] at h
  omega

/-! ## The bottom operand -/

/-- **What the bottom operand is** by the tokens that were read: the value of the
last deciding reduction, or else the first number. -/
def IsBottom (entry : String) (tokens : List String) (x : Float) : Prop :=
  (∃ front s, DecidesLast tokens front ∧ scan entry {} front = .ok s ∧
      s.held.operands.length = 2 ∧ s.held.reduced .topRight = .ok x) ∨
    ((∀ front, ¬ Decides tokens front) ∧ tokens.findSome? Number.read? = some x)

/-- A token that decides nothing leaves the bottom operand what it was. -/
theorem IsBottom.concat {x : Float} (h : IsBottom entry tokens x)
    (hkeeps : ¬ (token = ")" ∧ numbers tokens = (closings tokens + 1) + 1)) :
    IsBottom entry (tokens ++ [token]) x := by
  have hdecides (front : List String) :
      Decides (tokens ++ [token]) front ↔ Decides tokens front := by
    rw [decides_concat_iff]
    exact or_iff_right fun hlast => hkeeps hlast.2
  rcases h with ⟨front, s, hlast, hrun⟩ | ⟨hnone, hfirst⟩
  · refine .inl ⟨front, s, ⟨(hdecides front).mpr hlast.toDecides, ?_⟩, hrun⟩
    intro other hother
    exact hlast.last other ((hdecides other).mp hother)
  · refine .inr ⟨fun front => mt (hdecides front).mp (hnone front), ?_⟩
    rw [List.findSome?_append, hfirst, Option.some_or]

/-- The first number is the bottom operand when it is read. -/
theorem isBottom_first (entry : String) (n : Numeric) (hnumbers : numbers tokens = 0)
    (hclosings : closings tokens = 0) : IsBottom entry (tokens ++ [n.piece]) n.value := by
  have hnone : tokens.findSome? Number.read? = none := by
    rw [List.findSome?_eq_none_iff]
    intro piece hpiece
    have hnumber := List.countP_eq_zero.mp hnumbers piece hpiece
    simpa [Pieces.isNumber] using hnumber
  have hclosed : closings (tokens ++ [n.piece]) = 0 := by
    rw [closings_concat, if_neg n.piece_ne_closing, hclosings]
  refine .inr ⟨not_decides_of_closings hclosed, ?_⟩
  rw [List.findSome?_append, hnone, Option.none_or, List.findSome?_singleton, n.reads]

/-- A reduction of exactly two operands puts its value at the bottom. -/
theorem isBottom_decided {x : Float} (hscan : scan entry {} tokens = .ok s)
    (hcounted : Counted tokens s) (htwo : s.held.operands.length = 2)
    (hx : s.held.reduced .topRight = .ok x) : IsBottom entry (tokens ++ [")"]) x := by
  have hcount : numbers tokens = (closings tokens + 1) + 1 := by
    rw [← hcounted.length_add, htwo]
    omega
  refine .inl ⟨tokens, s, ⟨⟨List.prefix_rfl, hcount⟩, ?_⟩, hscan, htwo, hx⟩
  intro other hother
  rcases decides_concat_iff.mp hother with ⟨rfl, -⟩ | hbefore
  · exact List.prefix_rfl
  · exact (List.prefix_append other _).trans hbefore.closes

/-- **A step keeps the bottom operand** to what the tokens say it is. -/
theorem isBottom_step (hscan : scan entry {} tokens = .ok s) (hcounted : Counted tokens s)
    (h : ∀ x, s.held.operands.getLast? = some x → IsBottom entry tokens x)
    (hreads : Reads s token t) {x : Float} (hx : t.held.operands.getLast? = some x) :
    IsBottom entry (tokens ++ [token]) x := by
  cases hreads with
  | opening r => exact (h x hx).concat fun hlast => absurd hlast.1 (by decide)
  | operator r op => exact (h x hx).concat fun hlast => op.symbol_ne_closing hlast.1
  | number r n =>
    by_cases hempty : s.held.operands = []
    · -- nothing was there, so nothing was closed and no number was read
      obtain ⟨hadd, hpos⟩ := hcounted
      rw [hempty, List.length_nil] at hadd hpos
      have hvalue : x = n.value := by
        rw [Stacks.pushTop, hempty, List.getLast?_singleton, Option.some_inj] at hx
        exact hx.symm
      rw [hvalue]
      exact isBottom_first entry n (by omega) (by omega)
    · rw [Stacks.pushTop, List.getLast?_cons_of_ne_nil hempty] at hx
      exact (h x hx).concat fun hlast => n.piece_ne_closing hlast.1
  | @closing held value outer hvalue =>
    obtain ⟨top, next, rest, hheld⟩ := operands_of_reduced hvalue
    have hbottom : (held.remaining.pushTop value).operands = value :: rest := by
      rw [Stacks.pushTop, Stacks.remaining, hheld]
      rfl
    rw [hbottom] at hx
    by_cases hrest : rest = []
    · have htwo : held.operands.length = 2 := by rw [hheld, hrest]; rfl
      rw [hrest, List.getLast?_singleton, Option.some_inj] at hx
      rw [← hx]
      exact isBottom_decided hscan hcounted htwo hvalue
    · -- the bottom operand is below the two that are taken
      have hsame : held.operands.getLast? = some x := by
        rw [hheld, List.getLast?_cons_cons, List.getLast?_cons_of_ne_nil hrest,
          ← List.getLast?_cons_of_ne_nil hrest, hx]
      refine (h x hsame).concat ?_
      rintro ⟨-, hcount⟩
      have hadd := hcounted.length_add
      have hlong := List.length_pos_iff.mpr hrest
      simp only [hheld, List.length_cons] at hadd
      omega

/-- **After a reading** the account is right, and the bottom operand is the one
that the tokens say. -/
theorem scan_bottom (h : scan entry {} tokens = .ok s) :
    Counted tokens s ∧ ∀ x, s.held.operands.getLast? = some x → IsBottom entry tokens x := by
  -- from the right, since a reduction is known by the tokens before it
  induction tokens using List.reverseRecOn generalizing s with
  | nil =>
    obtain rfl := Except.ok.inj h
    exact ⟨.start, nofun⟩
  | append_singleton tokens token ih =>
    rw [scan_concat, bind_eq_ok] at h
    obtain ⟨r, hscan, hstep⟩ := h
    obtain ⟨hcounted, hbottom⟩ := ih hscan
    have hreads := step_reads hstep
    exact ⟨hcounted.step hreads, fun x hx => isBottom_step hscan hcounted hbottom hreads hx⟩

/-! ## The answer -/

/-- An entry with a value was read to its end, and the value is the bottom operand. -/
theorem scan_of_evaluate_eq_ok {pieces : List String} {x : Float} (h : evaluate pieces = .ok x) :
    ∃ s, scan (Pieces.join pieces) {} (pieces.flatMap Pieces.burst) = .ok s ∧
      s.held.operands.getLast? = some x := by
  simp only [evaluate_eq] at h
  split at h
  · cases h
  · obtain ⟨s, hscan, hanswer⟩ := bind_eq_ok.mp h
    refine ⟨s, hscan, ?_⟩
    rw [answer] at hanswer
    split at hanswer
    · cases hanswer
    · split at hanswer
      · next bottom hbottom => rw [hbottom, Except.ok.inj hanswer]
      · cases hanswer

/-- **The last deciding reduction is the answer.** Of an entry with a value, number
the closing parentheses; the `k`-th one decides if `k + 1` numbers stand before
it, which is to say that its reduction finds exactly two operands. If any
decides, the value is what the reduction at the last of them gives. If none
does, the value is the first number of the entry. -/
theorem evaluate_decided {pieces : List String} {x : Float} (h : evaluate pieces = .ok x) :
    ((∃ front, Decides (pieces.flatMap Pieces.burst) front) →
        ∃ front s, DecidesLast (pieces.flatMap Pieces.burst) front ∧
          scan (Pieces.join pieces) {} front = .ok s ∧
          s.held.operands.length = 2 ∧ s.held.reduced .topRight = .ok x) ∧
      ((∀ front, ¬ Decides (pieces.flatMap Pieces.burst) front) →
        (pieces.flatMap Pieces.burst).findSome? Number.read? = some x) := by
  obtain ⟨s, hscan, hbottom⟩ := scan_of_evaluate_eq_ok h
  rcases (scan_bottom hscan).2 x hbottom with hdecided | ⟨hnone, hfirst⟩
  · refine ⟨fun _ => hdecided, fun hnone => ?_⟩
    obtain ⟨front, -, hlast, -⟩ := hdecided
    exact absurd hlast.toDecides (hnone front)
  · refine ⟨fun hsome => ?_, fun _ => hfirst⟩
    obtain ⟨front, hfront⟩ := hsome
    exact absurd hfront (hnone front)

/-- In `( ( 8 - 2 ) + 5 * 7 )` the first of two reductions decides, since the
second finds three operands; in `( 1 + 2 * 3 )` none does. -/
theorem evaluate_decided_early :
    let early := ["(", "(", "8", "-", "2", ")", "+", "5", "*", "7", ")"]
    let never := ["(", "1", "+", "2", "*", "3", ")"]
    (evaluate early = .ok 6.0 ∧
        ∃ front s, DecidesLast (early.flatMap Pieces.burst) front ∧
          scan (Pieces.join early) {} front = .ok s ∧
          s.held.operands.length = 2 ∧ s.held.reduced .topRight = .ok 6.0) ∧
      (evaluate never = .ok 1.0 ∧
        (never.flatMap Pieces.burst).findSome? Number.read? = some 1.0) := by
  intro early never
  have hearly : evaluate early = .ok 6.0 := by decide +kernel
  have hnever : evaluate never = .ok 1.0 := by decide +kernel
  have hfirst : Decides (early.flatMap Pieces.burst) ["(", "(", "8", "-", "2"] := by
    decide +kernel
  have hnone : ∀ front, ¬ Decides (never.flatMap Pieces.burst) front := by
    intro front hfront
    have hall : ∀ other ∈ (never.flatMap Pieces.burst).inits,
        ¬ Decides (never.flatMap Pieces.burst) other := by
      decide +kernel
    have hmem : front ∈ (never.flatMap Pieces.burst).inits :=
      (List.mem_inits _ _).mpr ((List.prefix_append _ _).trans hfront.closes)
    exact hall front hmem hfront
  exact ⟨⟨hearly, (evaluate_decided hearly).1 ⟨_, hfirst⟩⟩,
    ⟨hnever, (evaluate_decided hnever).2 hnone⟩⟩

end StackCalculator.Parenthesised
