/-
The two uses of the program.

Expressions may stand among the arguments, or on lines of the standard input.
Both uses evaluate each expression as it is written, in the mode asked for, and
write what comes of it; they part in what they make of failures. Expressions
among the arguments are counted when they fail, and a count above zero is
reported at the end and in the status. Lines are not counted.

A line gives the text of an expression back only if it can hold that text: no
line feed within, and no carriage return at its end, since reading would take it
off. It is evaluated only if it is neither blank nor a mode command. Of a list
of such expressions the two uses write the same.
-/
import StackCalculator.Proofs.Terminal.Answers

set_option autoImplicit false

namespace StackCalculator.Terminal

/-! ## Arguments for every use -/

/-- A mode behind an equals sign is taken as it stands. -/
theorem ofArgument?_attached (requested : String) :
    Choice.ofArgument? ("--mode=" ++ requested) = some (.mode (some requested)) := by
  have hlist : ("--mode=" ++ requested).toList = "--mode=".toList ++ requested.toList :=
    String.toList_append
  simp [Choice.ofArgument?, hlist, Choice.ofLong?]

/-- **Every mode and every list of expressions** can be asked for. -/
theorem ofArguments?_attached (requested : String) (expressions : List String) :
    Request.ofArguments? (("--mode=" ++ requested) :: "--" :: expressions)
      = some (.evaluate (some requested) expressions) := by
  have hend : Choice.ofArgument? "--" = some .endOfOptions := by decide
  rw [Request.ofArguments?, readArguments?, ofArgument?_attached]
  simp only [Option.isSome_none, Bool.false_eq_true, if_false]
  unfold readArguments?
  rw [hend]

/-! ## Expressions that a line can hold -/

/-- **An expression for a line**: one that reading gives back, and that is
neither skipped nor taken for a mode command. -/
structure IsExpressionLine (expression : String) : Prop where
  noLineFeed : '\n' ∉ expression.toList
  noReturn : expression.toList.getLast? ≠ some '\r'
  notBlank : ∃ c ∈ expression.toList, Text.isBlank c = false
  notCommand : ¬ modeCommand.toList <+: Text.trimStart expression.toList

namespace IsExpressionLine

variable {expression : String}

instance : Decidable (IsExpressionLine expression) :=
  decidable_of_iff
    ('\n' ∉ expression.toList ∧ expression.toList.getLast? ≠ some '\r' ∧
      isBlankLine expression = false ∧ ¬ modeCommand.toList <+: Text.trimStart expression.toList)
    ⟨fun ⟨hfeed, hreturn, hblank, hcommand⟩ =>
        ⟨hfeed, hreturn, isBlankLine_eq_false_iff.mp hblank, hcommand⟩,
      fun h => ⟨h.noLineFeed, h.noReturn, isBlankLine_eq_false_iff.mpr h.notBlank, h.notCommand⟩⟩

theorem dropReturn_eq (h : IsExpressionLine expression) : dropReturn expression = expression :=
  dropReturn_of_getLast? h.noReturn

theorem isBlankLine_eq_false (h : IsExpressionLine expression) :
    isBlankLine expression = false :=
  isBlankLine_eq_false_iff.mpr h.notBlank

theorem modeRequest?_eq_none (h : IsExpressionLine expression) : modeRequest? expression = none :=
  modeRequest?_of_not_command h.notCommand

end IsExpressionLine

/-! ## The two runs -/

section Runs

variable (c : Calculator) {expressions : List String}

/-- How many expressions fail. -/
def failures (expressions : List String) : Nat :=
  expressions.countP fun expression => !(c.evaluate expression).isOk

/-- What is reported at the end, if any failed. -/
def failureReport (count : Nat) : String :=
  if 0 < count then "Error: " ++ count.repr ++ " expression(s) en erreur\n" else ""

theorem runExpressions_eq (expressions : List String) :
    runExpressions c expressions
      = { status := if 0 < failures c expressions then 1 else 0
          printed := printedOf c expressions
            ++ { err := failureReport (failures c expressions) } } := by
  have hprinted : Printed.all ((expressions.map c.evaluate).map .ofOutcome)
      = printedOf c expressions := by
    rw [List.map_map]
    rfl
  have hcount : (expressions.map c.evaluate).countP (fun outcome => !outcome.isOk)
      = failures c expressions := List.countP_map
  simp only [runExpressions, hprinted, hcount, failureReport]
  rcases Nat.eq_zero_or_pos (failures c expressions) with hzero | hpos
  · simp [hzero]
  · rw [if_neg (Nat.ne_of_gt hpos), if_pos hpos, if_pos hpos]

/-- **Expressions on lines** are read back and evaluated, each of them. -/
theorem runLines_expressions (h : ∀ expression ∈ expressions, IsExpressionLine expression) :
    runLines c (inputOf (terminated expressions))
      = { status := 0, printed := printedOf c expressions } := by
  have hread : expressions.map dropReturn = expressions := by
    rw [List.map_congr_left fun e he => (h e he).dropReturn_eq, List.map_id']
  have hkept : (expressions.filter fun line => !isBlankLine line) = expressions := by
    rw [List.filter_eq_self]
    intro expression hmem
    rw [(h expression hmem).isBlankLine_eq_false]
    rfl
  rw [runLines_lines c fun e he => (h e he).noLineFeed, hread,
    printedFor_of_none c fun e he => (h e he).modeRequest?_eq_none, hkept]

end Runs

/-- **The two uses agree.** Let arguments ask for a mode and for expressions
that lines can hold, and others for that mode alone. Run with the first, and with
the others on the lines of the expressions, the program writes the same on the
standard output. On the standard error the run with expressions adds its report
if any of them failed; its status is 1 then and 0 otherwise, while the run over
lines ends with 0. -/
theorem run_expressions_lines {arguments bare expressions : List String} {mode : Option String}
    (harguments : Request.ofArguments? arguments = some (.evaluate mode expressions))
    (hbare : Request.ofArguments? bare = some (.evaluate mode []))
    (hne : expressions ≠ []) (h : ∀ expression ∈ expressions, IsExpressionLine expression)
    (input : List UInt8) :
    ∃ named lines : Ending,
      run? arguments input = some named ∧
      run? bare (inputOf (terminated expressions)) = some lines ∧
      named.printed.out = lines.printed.out ∧
      named.printed.err
        = lines.printed.err ++ failureReport (failures (startingCalculator mode) expressions) ∧
      named.status = (if 0 < failures (startingCalculator mode) expressions then 1 else 0) ∧
      lines.status = 0 := by
  have hnamed : run? arguments input
      = some (runExpressions (startingCalculator mode) expressions) := by
    rw [run?, harguments, Option.map_some]
    obtain ⟨first, rest, rfl⟩ := List.exists_cons_of_ne_nil hne
    rfl
  have hlines : run? bare (inputOf (terminated expressions))
      = some { status := 0, printed := printedOf (startingCalculator mode) expressions } := by
    rw [run?_lines hbare, runLines_expressions _ h]
  rw [runExpressions_eq] at hnamed
  -- the report goes to the standard error, and nothing is added to the other output
  refine ⟨_, _, hnamed, hlines, ?_, ?_, rfl, rfl⟩
  · rw [Printed.append_out, String.append_empty]
  · rw [Printed.append_err]

/-- Three expressions, one of them with blanks at its ends and two that fail. -/
theorem run_expressions_lines_infix :
    let expressions := ["( 1 + 2 )", " ( 4 * 5 ) ", "( 1 / 0 )"]
    let errors := "erreur : jeton invalide (ni nombre, ni opérateur) : ''\n"
      ++ "erreur : division par zéro\n"
    run? ("--mode=Infix" :: "--" :: expressions) [] = some {
        status := 1
        printed := { out := "3\n", err := errors ++ "Error: 2 expression(s) en erreur\n" } } ∧
      run? ["-m", "Infix"] (inputOf (terminated expressions)) = some {
        status := 0
        printed := { out := "3\n", err := errors } } := by
  intro expressions errors
  have hcount : failures (startingCalculator (some "Infix")) expressions = 2 := by decide +kernel
  obtain ⟨named, lines, hnamed, hlines, hout, herr, hstatus, hzero⟩ :=
    run_expressions_lines (ofArguments?_attached "Infix" expressions)
      (by decide : Request.ofArguments? ["-m", "Infix"] = some (.evaluate (some "Infix") []))
      (List.cons_ne_nil _ _) (by decide) []
  rw [hcount] at herr hstatus
  have hread : run? ["-m", "Infix"] (inputOf (terminated expressions)) = some {
      status := 0
      printed := { out := "3\n", err := errors } } := by decide +kernel
  obtain rfl := Option.some_inj.mp (hlines.symm.trans hread)
  -- the run with expressions is known by its fields
  obtain ⟨status, out, err⟩ := named
  obtain rfl : status = 1 := hstatus
  obtain rfl : out = "3\n" := hout
  obtain rfl : err = errors ++ "Error: 2 expression(s) en erreur\n" := herr
  exact ⟨hnamed, hread⟩

end StackCalculator.Terminal
