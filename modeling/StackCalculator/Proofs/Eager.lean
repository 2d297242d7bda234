/-
The reading of a Polish entry, reduction by reduction.

The reading alternates between reducing and taking a piece. It reduces whenever
the stacks are ready and there is a piece left to take, so a reduction that can
be made is made before the next piece is looked at. `Passes` follows it one
reduction or one piece at a time, through every state that it comes by. From any
of these states the rest of the settling is the same (`Passes.settled_eq`), so
the reading fails with a division by zero exactly when one of these reductions
divides by a zero (`settled_eq_divisionByZero_iff`).

A malformed piece ends the reading, if nothing before has. Since an entry is
read from its end, what stands before the piece is never reached and counts for
nothing. The reductions behind it have all been made, the one included that was
only possible with the piece just before, and any of them may divide by a zero.
-/
import StackCalculator.Proofs.Tally
import Mathlib.Control.Monad.Basic

set_option autoImplicit false

namespace StackCalculator.Polish

variable {pieces back : List String} {r : Reading} {piece : String} {e : EvalError}

/-! ## The states of a reading -/

/-- **The reading passes through a state** when it has taken some pieces: it
starts with empty stacks, reduces while it can, and takes a piece when it
cannot. -/
inductive Passes : List String → Reading → Prop where
  | start : Passes [] {}
  | reduce {pieces : List String} {r : Reading} {value : Float} (h : Passes pieces r)
      (hready : r.held.ready = true) (hvalue : r.held.reduced .topLeft = .ok value) :
      Passes pieces ⟨r.held.remaining.pushBottom value, value :: r.results⟩
  | take {rest : List String} {r : Reading} {piece : String} {token : Token} {held : Stacks}
      (h : Passes rest r) (hready : r.held.ready = false)
      (htoken : Token.classify piece = .ok token) (hpush : r.held.push token = .ok held) :
      Passes (piece :: rest) { r with held }

/-- **A reduction made early divides by a zero**: the reading, having taken all
of the pieces or those at their end, passes through a state where it does. -/
def DividesEarly (pieces : List String) : Prop :=
  ∃ back r, back <:+ pieces ∧ Passes back r ∧ r.held.ready = true ∧
    r.held.reduced .topLeft = .error .divisionByZero

theorem DividesEarly.cons (h : DividesEarly back) (piece : String) :
    DividesEarly (piece :: back) := by
  obtain ⟨part, r, hpart, hpasses⟩ := h
  exact ⟨part, r, hpart.trans (List.suffix_cons piece back), hpasses⟩

/-- **Settling passes through the states it makes**, and comes to stacks that
are not ready unless it divides by a zero. -/
theorem Passes.settle_cases (h : Passes pieces r) :
    (∃ t, settle r = .ok t ∧ Passes pieces t ∧ t.held.ready = false) ∨
      (settle r = .error .divisionByZero ∧ DividesEarly pieces) := by
  fun_induction settle r with
  | case1 r hready ih =>
    rcases Stacks.reduced_cases .topLeft hready with ⟨value, hvalue⟩ | hvalue
    · rw [hvalue, ok_bind]
      exact ih value (h.reduce hready hvalue)
    · rw [hvalue]
      exact .inr ⟨rfl, pieces, r, List.suffix_rfl, h, hready, hvalue⟩
  | case2 r hready => exact .inl ⟨r, rfl, h, by simpa using hready⟩

/-- **Settled pieces** are in a state that their reading passes through, unless
the reading divided by a zero or met a malformed piece. -/
theorem settled_cases (pieces : List String) :
    (∃ t, settled pieces = .ok t ∧ Passes pieces t ∧ t.held.ready = false) ∨
      (settled pieces = .error .divisionByZero ∧ DividesEarly pieces) ∨
      ∃ piece ∈ pieces, Pieces.isMalformed piece = true ∧
        settled pieces = .error (.malformedToken piece) := by
  induction pieces with
  | nil => exact .inl ⟨{}, settled_nil, .start, rfl⟩
  | cons first rest ih =>
    rcases ih with ⟨t, hrest, hpasses, hready⟩ | ⟨hrest, hdivides⟩ | ⟨piece, hmem, hpiece, hrest⟩
    · -- the first piece is taken in the state that the others are settled to
      rcases Pieces.piece_cases first with ⟨op, rfl⟩ | ⟨n, rfl⟩ | hfirst
      · rw [settled_of_read (read_symbol hrest op)]
        have htaken := hpasses.take hready (Token.classify_symbol op) rfl
        exact htaken.settle_cases.imp_right .inl
      · rw [settled_of_read (read_piece hrest n)]
        have htaken := hpasses.take hready (Token.classify_piece n) rfl
        exact htaken.settle_cases.imp_right .inl
      · refine .inr (.inr ⟨first, List.mem_cons_self, hfirst, ?_⟩)
        rw [settled, read_cons, hrest, ok_bind, Token.classify_of_isMalformed hfirst]
        rfl
    · exact .inr (.inl ⟨settled_cons_error hrest first, hdivides.cons first⟩)
    · exact .inr (.inr ⟨piece, List.mem_cons_of_mem first hmem, hpiece,
        settled_cons_error hrest first⟩)

/-! ## Divisions by zero -/

/-- **From every state passed through** the rest of the settling is the same. -/
theorem Passes.settled_eq (h : Passes pieces r) : settled pieces = settle r := by
  induction h with
  | start => rfl
  | reduce h hready hvalue ih => rw [ih, settle_of_ready hready, hvalue, ok_bind]
  | take h hready htoken hpush ih =>
    apply settled_of_read
    rw [read_cons, ih, settle_of_not_ready hready, ok_bind, htoken, ok_bind, hpush]
    rfl

theorem settled_append_error (h : settled back = .error e) (front : List String) :
    settled (front ++ back) = .error e := by
  induction front with
  | nil => exact h
  | cons first rest ih => exact settled_cons_error ih first

/-- **Reading and settling divides by a zero** exactly when a reduction on the
way does. -/
theorem settled_eq_divisionByZero_iff (pieces : List String) :
    settled pieces = .error .divisionByZero ↔ DividesEarly pieces := by
  constructor
  · intro h
    rcases settled_cases pieces with ⟨t, ht, -⟩ | ⟨-, hdivides⟩ | ⟨piece, -, -, hpiece⟩
    · rw [ht] at h
      exact absurd h nofun
    · exact hdivides
    · rw [hpiece] at h
      exact absurd h (by simp)
  · rintro ⟨back, r, ⟨front, rfl⟩, hpasses, hready, hdivides⟩
    apply settled_append_error
    rw [hpasses.settled_eq, settle_of_ready hready, hdivides]
    rfl

/-! ## A malformed piece -/

/-- A malformed piece is refused once the pieces behind it are settled. -/
theorem read_cons_malformed (h : Pieces.isMalformed piece = true) (back : List String) :
    read (piece :: back) = settled back >>= fun _ => .error (.malformedToken piece) := by
  rw [read_cons, Token.classify_of_isMalformed h]
  rfl

/-- Where the reading has failed, the pieces before make no difference. -/
theorem evaluate_append_of_read (h : read back = .error e) {front : List String}
    (hlength : 4 ≤ (front ++ back).length) : evaluate (front ++ back) = .error e := by
  have happend : read (front ++ back) = read back >>= fun r => front.foldrM readPiece r :=
    List.foldrM_append
  rw [h, error_bind] at happend
  rw [evaluate_eq_reduceAll (.inr hlength), reduceAll_error happend]

theorem Valid.not_isMalformed (h : Valid pieces) (hmem : piece ∈ pieces) :
    Pieces.isMalformed piece = false := by
  rcases h piece hmem with hoperator | hnumber
  · obtain ⟨op, rfl⟩ := Pieces.eq_symbol_of_isOperator hoperator
    exact Pieces.isMalformed_symbol op
  · obtain ⟨n, rfl⟩ := Pieces.eq_piece_of_isNumber hnumber
    exact Pieces.isMalformed_piece n

/-- **The error of a malformed piece** and the pieces behind it, which is that
of every entry that ends with them. -/
theorem exists_error_of_isMalformed (h : Pieces.isMalformed piece = true) (back : List String) :
    ∃ e, (∀ front : List String, 4 ≤ (front ++ piece :: back).length →
        evaluate (front ++ piece :: back) = .error e) ∧
      (Valid back → e = .malformedToken piece ∨ e = .divisionByZero) ∧
      (e = .divisionByZero ↔ DividesEarly back) := by
  have hread := read_cons_malformed h back
  have hdivision := settled_eq_divisionByZero_iff back
  rcases settled_cases back with ⟨t, hsettled, -⟩ | ⟨hsettled, -⟩ | ⟨refused, hmem, hbad, hsettled⟩
  · rw [hsettled, ok_bind] at hread
    rw [← hdivision, hsettled]
    exact ⟨_, fun front => evaluate_append_of_read hread, fun _ => .inl rfl, by simp⟩
  · rw [hsettled, error_bind] at hread
    rw [← hdivision, hsettled]
    exact ⟨_, fun front => evaluate_append_of_read hread, fun _ => .inr rfl, by simp⟩
  · -- a malformed piece further back is refused first
    rw [hsettled, error_bind] at hread
    rw [← hdivision, hsettled]
    refine ⟨_, fun front => evaluate_append_of_read hread, fun hvalid => ?_, by simp⟩
    rw [hvalid.not_isMalformed hmem] at hbad
    exact absurd hbad Bool.false_ne_true

/-- **A malformed piece is never ignored**, and nothing before it matters. The
entry divides by a zero exactly when a reduction made behind the piece does; if
the pieces behind it are valid, it is the piece that is refused otherwise. -/
theorem evaluate_malformed_piece (h : Pieces.isMalformed piece = true)
    {front other back : List String} (hfront : 4 ≤ (front ++ piece :: back).length)
    (hother : 4 ≤ (other ++ piece :: back).length) :
    evaluate (front ++ piece :: back) = evaluate (other ++ piece :: back) ∧
      (∀ x, evaluate (front ++ piece :: back) ≠ .ok x) ∧
      (Valid back → evaluate (front ++ piece :: back) = .error (.malformedToken piece) ∨
        evaluate (front ++ piece :: back) = .error .divisionByZero) ∧
      (evaluate (front ++ piece :: back) = .error .divisionByZero ↔ DividesEarly back) := by
  obtain ⟨e, hvalue, hvalid, hdivides⟩ := exists_error_of_isMalformed h back
  rw [hvalue front hfront, hvalue other hother]
  refine ⟨rfl, nofun, fun h => (hvalid h).imp (congrArg _) (congrArg _), ?_⟩
  rw [Except.error.injEq]
  exact hdivides

/-- In `y / 1 0` the division is made before `y` is looked at, and so it is in
any longer entry that ends like this. -/
theorem evaluate_malformed_piece_division :
    let back := ["/", "1", "0"]
    Pieces.isMalformed "y" = true ∧ 4 ≤ (["+", "2"] ++ "y" :: back).length ∧
      4 ≤ ([] ++ "y" :: back).length ∧ Valid back ∧ DividesEarly back ∧
      evaluate (["+", "2"] ++ "y" :: back) = evaluate ([] ++ "y" :: back) ∧
      evaluate (["+", "2"] ++ "y" :: back) = .error .divisionByZero := by
  intro back
  have hmalformed : Pieces.isMalformed "y" = true := by decide +kernel
  have hlong : 4 ≤ (["+", "2"] ++ "y" :: back).length := by decide
  have hshort : 4 ≤ ([] ++ "y" :: back).length := by decide
  have hvalid : Valid back := by decide +kernel
  have hvalue : evaluate (["+", "2"] ++ "y" :: back) = .error .divisionByZero := by
    decide +kernel
  obtain ⟨hsame, -, -, hdivides⟩ := evaluate_malformed_piece hmalformed hlong hshort
  exact ⟨hmalformed, hlong, hshort, hvalid, hdivides.mp hvalue, hsame, hvalue⟩

end StackCalculator.Polish
