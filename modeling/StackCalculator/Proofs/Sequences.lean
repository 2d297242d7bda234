/-
Entries without parentheses around them.

Bare operators and whole expressions may stand side by side in any order. The
reading takes them one after the other: an operator stays on its stack, since
every closing parenthesis belongs to an expression, and an expression pushes its
value and takes nothing that was there before it. So in the end the operands
are the values of the expressions, and the answer, which is the bottom one, is
the value of the first. The operators between them are never applied.

`scan_items` is that statement for a reading from any stacks at any depth. An
expression that divides by a zero ends the reading, wherever it stands.
-/
import StackCalculator.Proofs.Balance
import StackCalculator.Proofs.Grouping
import StackCalculator.Proofs.Stretches

set_option autoImplicit false

namespace StackCalculator

/-! ## Items -/

/-- **An item of an entry**: an operator by itself, or a whole expression. -/
inductive Item where
  | operator (op : Operator)
  | expression (e : Expression)

namespace Item

def pieces : Item → List String
  | operator op => [op.symbol]
  | expression e => e.parenthesised

/-- The operators that stand by themselves, in order. -/
def operators : List Item → List Operator
  | [] => []
  | operator op :: rest => op :: operators rest
  | expression _ :: rest => operators rest

/-- The expressions, in order. -/
def expressions : List Item → List Expression
  | [] => []
  | operator _ :: rest => expressions rest
  | expression e :: rest => e :: expressions rest

theorem length_operators_add (items : List Item) :
    (operators items).length + (expressions items).length = items.length := by
  induction items with
  | nil => rfl
  | cons item rest ih =>
    cases item with
    | operator op =>
      rw [operators, expressions, List.length_cons, List.length_cons]
      omega
    | expression e =>
      rw [operators, expressions, List.length_cons, List.length_cons]
      omega

/-- Bursting leaves the pieces of an item as they are. -/
theorem flatMap_burst_pieces (item : Item) :
    item.pieces.flatMap Pieces.burst = item.pieces := by
  cases item with
  | operator op => rw [pieces, List.flatMap_singleton, op.burst_symbol]
  | expression e => exact Parenthesised.flatMap_burst_parenthesised e

theorem not_all_isParenthesis (item : Item) :
    item.pieces.all Parenthesised.isParenthesis = false := by
  cases item with
  | operator op => cases op <;> rfl
  | expression e => exact Parenthesised.not_all_isParenthesis e

end Item

/-! ## The values of several expressions -/

namespace Expression

/-- Expressions have values all together, or one of them divides by a zero. -/
theorem values_cases (es : List Expression) :
    (∃ xs, es.mapM value = .ok xs ∧ ∀ e ∈ es, e.value ≠ .error .divisionByZero) ∨
      (es.mapM value = .error .divisionByZero ∧ ∃ e ∈ es, e.value = .error .divisionByZero) := by
  induction es with
  | nil => exact .inl ⟨[], rfl, nofun⟩
  | cons e rest ih =>
    rw [List.mapM_cons]
    rcases e.value_cases with ⟨x, hx, -⟩ | ⟨hx, -⟩
    · rw [hx, ok_bind]
      rcases ih with ⟨xs, hxs, hrest⟩ | ⟨hxs, d, hd, hdivides⟩
      · refine .inl ⟨x :: xs, by rw [hxs]; rfl, ?_⟩
        rw [List.forall_mem_cons, hx]
        exact ⟨nofun, hrest⟩
      · exact .inr ⟨by rw [hxs]; rfl, d, List.mem_cons_of_mem e hd, hdivides⟩
    · exact .inr ⟨by rw [hx]; rfl, e, List.mem_cons_self, hx⟩

/-- The first of the values is that of the first expression. -/
theorem value_head {es : List Expression} {xs : List Float} {first : Expression}
    (h : es.mapM value = .ok xs) (hfirst : es.head? = some first) :
    ∃ x, first.value = .ok x ∧ xs.head? = some x := by
  obtain ⟨rest, rfl⟩ := List.head?_eq_some_iff.mp hfirst
  rw [List.mapM_cons] at h
  obtain ⟨x, hx, h⟩ := bind_eq_ok.mp h
  obtain ⟨others, -, h⟩ := bind_eq_ok.mp h
  exact ⟨x, hx, by rw [← Except.ok.inj h]; rfl⟩

end Expression

namespace Parenthesised

/-! ## Reading items -/

/-- **Items are read one after the other**: the values of the expressions and
the operators are put on any stacks at any depth, each kind in its order, and
no operator is applied. -/
theorem scan_items (entry : String) (items : List Item) (s : Scan) :
    scan entry s (items.flatMap Item.pieces)
      = (Item.expressions items).mapM Expression.value >>= fun xs =>
        .ok { s with held := load s.held ⟨xs, Item.operators items⟩ } := by
  induction items generalizing s with
  | nil => rfl
  | cons item rest ih =>
    rw [List.flatMap_cons]
    cases item with
    | operator op =>
      rw [Item.pieces, List.singleton_append, scan_cons, step_symbol, ok_bind, ih]
      -- what is on a stack and what comes on top of it make the same stack
      refine bind_congr fun xs => ?_
      simp [load, Item.operators]
    | expression e =>
      rw [Item.pieces, scan_parenthesised, Item.expressions, List.mapM_cons]
      -- without a value of its own, the expression ends the reading
      rcases e.value with e | x
      · rfl
      rw [ok_bind, ok_bind, ih, bind_assoc]
      refine bind_congr fun xs => ?_
      simp [load, Stacks.pushTop, Item.operators]

/-! ## The value of items -/

/-- An entry made of items is read, the empty one too, and answers with the
bottom of the values. -/
theorem evaluate_flatMap_pieces (items : List Item) :
    evaluate (items.flatMap Item.pieces)
      = (Item.expressions items).mapM Expression.value >>= fun xs =>
        bottom (load {} ⟨xs, Item.operators items⟩) := by
  have hburst : (items.flatMap Item.pieces).flatMap Pieces.burst = items.flatMap Item.pieces := by
    rw [List.flatMap_assoc]
    exact congrArg items.flatMap (funext Item.flatMap_burst_pieces)
  have hread : (items.flatMap Item.pieces).all isParenthesis = false ∨
      Balanced (items.flatMap Item.pieces) := by
    cases items with
    | nil => exact .inr ((balanced_eq_true_iff []).mp rfl)
    | cons item rest =>
      rw [List.flatMap_cons, List.all_append, item.not_all_isParenthesis]
      exact .inl (Bool.false_and _)
  rw [← hburst] at hread
  rw [evaluate_of_balanced_or hread, hburst, scan_items, bind_assoc]
  rfl

/-- **Without parentheses around them** items have the value of their first
expression, whatever stands before and after it. One expression that divides by
a zero is enough to fail so. With no expression at all there is nothing to
answer, and every item is an operator left over. -/
theorem evaluate_items (items : List Item) :
    let pieces := items.flatMap Item.pieces
    let expressions := Item.expressions items
    ((∃ e ∈ expressions, e.value = .error .divisionByZero) →
        evaluate pieces = .error .divisionByZero) ∧
      ((∀ e ∈ expressions, e.value ≠ .error .divisionByZero) →
        ∀ first, expressions.head? = some first →
          ∃ x, first.value = .ok x ∧ evaluate pieces = .ok x) ∧
      (expressions = [] → evaluate pieces = .error (.stackUnderflow 0 items.length)) := by
  intro pieces expressions
  have hvalue : evaluate pieces = expressions.mapM Expression.value >>= fun xs =>
      bottom (load {} ⟨xs, Item.operators items⟩) := evaluate_flatMap_pieces items
  rcases Expression.values_cases expressions with ⟨xs, hxs, hnone⟩ | ⟨hxs, e, he, hdivides⟩
  · rw [hxs, ok_bind] at hvalue
    refine ⟨fun ⟨e, he, hdivides⟩ => absurd hdivides (hnone e he), fun _ first hfirst => ?_,
      fun hempty => ?_⟩
    · obtain ⟨x, hx, hhead⟩ := Expression.value_head hxs hfirst
      refine ⟨x, hx, hvalue.trans ?_⟩
      simp [bottom, load, hhead]
    · have hlength : (Item.operators items).length = items.length := by
        have hadd := Item.length_operators_add items
        rwa [show Item.expressions items = [] from hempty] at hadd
      rw [hempty] at hxs
      rw [hvalue, ← Except.ok.inj hxs, ← hlength]
      simp [bottom, load]
  · rw [hxs, error_bind] at hvalue
    refine ⟨fun _ => hvalue, fun hnone => absurd hdivides (hnone e he), fun hempty => ?_⟩
    rw [hempty] at he
    exact absurd he List.not_mem_nil

-- nothing is multiplied by three
example : evaluate ["(", "1", "+", "2", ")", "*", "3"] = .ok 3.0 := by decide +kernel

end Parenthesised
end StackCalculator
