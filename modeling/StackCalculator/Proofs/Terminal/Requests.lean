/-
Which lines ask for a mode.

A line asks for a mode if its first word begins with the command, and for
nothing else otherwise. The word may go on behind the command. What follows is
taken for the name of the mode then as well, from the same word on; so a line
that holds some other word with this beginning is not evaluated, and the lines
behind it are evaluated in another mode, if in any
(`glued_word_changes_mode`).

Every line of a run is answered where the run has come to, by the calculator
that the lines before it leave; and the lines behind it are answered from the
one that it leaves itself. A line whose first word begins in another way leaves
the calculator as it was, and is evaluated unless it is blank (`run_line`).
-/
import StackCalculator.Proofs.Terminal.Answers

set_option autoImplicit false

namespace StackCalculator.Terminal

/-! ## The first word -/

/-- **The first word of a line**, up to the first blank behind it. -/
def firstWord (line : String) : String :=
  String.ofList ((Text.trimStart line.toList).takeWhile fun c => !Text.isBlank c)

/-- The command holds no blank, so a line begins with it if its first word does. -/
theorem prefix_firstWord_iff (line : String) :
    modeCommand.toList <+: (firstWord line).toList ↔
      modeCommand.toList <+: Text.trimStart line.toList := by
  rw [firstWord, String.toList_ofList]
  constructor
  · intro h
    exact h.trans (List.takeWhile_prefix _)
  · rintro ⟨rest, hrest⟩
    have hword : ∀ c ∈ modeCommand.toList, (!Text.isBlank c) = true := by
      intro c hc
      rw [Bool.eq_false_iff.mpr (List.any_eq_false.mp any_isBlank_modeCommand c hc)]
      rfl
    rw [← hrest, List.takeWhile_append_of_pos hword]
    exact List.prefix_append _ _

variable {line : String}

theorem modeRequest?_of_not_prefix (h : ¬ modeCommand.toList <+: (firstWord line).toList) :
    modeRequest? line = none := by
  rw [prefix_firstWord_iff] at h
  exact modeRequest?_of_not_command h

theorem modeRequest?_of_prefix (h : modeCommand.toList <+: (firstWord line).toList) :
    ∃ name, Text.trimStart line.toList = modeCommand.toList ++ name ∧
      modeRequest? line = some (String.ofList (Text.trim name)) := by
  obtain ⟨name, hname⟩ := (prefix_firstWord_iff line).mp h
  exact ⟨name, hname.symm, modeRequest?_of_command hname.symm⟩

/-! ## One line of a run -/

/-- **A line of a text**: how it is written, what follows it, and what it is read
as. The last line may lack its end, and then nothing follows. -/
inductive ReadAs : String → String → String → Prop where
  | ended {line : String} (back : String) (h : '\n' ∉ line.toList) :
      ReadAs (line ++ "\n") back (dropReturn line)
  | unended {line : String} (h : '\n' ∉ line.toList) (hne : line ≠ "") : ReadAs line "" line

/-- **The calculator after a run** over a text, from the one before. -/
def calculatorAfter (c : Calculator) (text : String) : Calculator := afterLines c (textsOf text)

section Line

variable {written back : String}

theorem textsOf_line (h : ReadAs written back line) :
    textsOf (written ++ back) = line :: textsOf back := by
  cases h with
  | ended back hfeed =>
    have hread := textsOf_terminated (List.forall_mem_singleton.mpr hfeed) back
    rwa [terminated_cons, terminated_nil, String.append_empty] at hread
  | unended hfeed hne =>
    rw [String.append_empty, textsOf, readTexts_rest hfeed, if_neg hne, textsOf_empty]

/-- A line is read alike when nothing follows it. -/
theorem ReadAs.alone (h : ReadAs written back line) : textsOf written = [line] := by
  have hlast : ReadAs written "" line := by
    cases h with
    | ended back hfeed => exact .ended "" hfeed
    | unended hfeed hne => exact .unended hfeed hne
  have htexts := textsOf_line hlast
  rwa [String.append_empty] at htexts

end Line

variable (c : Calculator) {front written back : String}

/-- **A line in its place** is answered by the calculator that stands there. -/
theorem calculatorAfter_line (hfront : front = "" ∨ front.toList.getLast? = some '\n')
    (hline : ReadAs written back line) :
    calculatorAfter c (front ++ written) = (answerLine (calculatorAfter c front) line).1 := by
  rw [calculatorAfter, textsOf_append hfront, hline.alone, afterLines_append]
  rfl

theorem runLines_line (hfront : front = "" ∨ front.toList.getLast? = some '\n')
    (hline : ReadAs written back line) :
    runLines c (inputOf (front ++ written ++ back)) = {
      status := 0
      printed := (runLines c (inputOf front)).printed
        ++ (answerLine (calculatorAfter c front) line).2
        ++ (runLines (calculatorAfter c (front ++ written)) (inputOf back)).printed } := by
  have htexts : textsOf (front ++ written ++ back) = textsOf front ++ line :: textsOf back := by
    rw [String.append_assoc, textsOf_append hfront, textsOf_line hline]
  rw [calculatorAfter_line c hfront hline, runLines_textsOf, htexts, printedFor_append,
    printedFor_cons, ← Printed.append_assoc, runLines_textsOf, runLines_textsOf]
  rfl

/-- **The first word decides** what becomes of a line, wherever it stands in a
text. What is written is what the lines before it make the run write, then the
answer to the line, and then what is written over the rest from the calculator
that the line leaves. If its first word does not begin with the command, that is
the calculator before it; the answer is nothing for a blank line, and for any
other the result or the error of evaluating it. If the word does, whether or not
it ends there, the mode is what stands behind the command, less the blanks at
either end, and the answer tells of the mode. -/
theorem run_line (hfront : front = "" ∨ front.toList.getLast? = some '\n')
    (hline : ReadAs written back line) :
    ∃ answer : Printed,
      runLines c (inputOf (front ++ written ++ back)) = {
        status := 0
        printed := (runLines c (inputOf front)).printed ++ answer
          ++ (runLines (calculatorAfter c (front ++ written)) (inputOf back)).printed } ∧
      (¬ modeCommand.toList <+: (firstWord line).toList →
        calculatorAfter c (front ++ written) = calculatorAfter c front ∧
          answer = if isBlankLine line then {}
            else .ofOutcome ((calculatorAfter c front).evaluate line)) ∧
      (modeCommand.toList <+: (firstWord line).toList →
        ∃ name, Text.trimStart line.toList = modeCommand.toList ++ name ∧
          calculatorAfter c (front ++ written) = { requested := String.ofList (Text.trim name) } ∧
          answer = .ofMode (calculatorAfter c (front ++ written))) := by
  refine ⟨_, runLines_line c hfront hline, fun hword => ?_, fun hword => ?_⟩
  · have hnone := modeRequest?_of_not_prefix hword
    rw [calculatorAfter_line c hfront hline]
    rcases hblank : isBlankLine line with _ | _
    · rw [answerLine_of_expression _ hblank hnone]
      exact ⟨rfl, rfl⟩
    · rw [answerLine_of_isBlankLine _ hblank]
      exact ⟨rfl, rfl⟩
  · obtain ⟨name, hname, hrequest⟩ := modeRequest?_of_prefix hword
    rw [calculatorAfter_line c hfront hline, answerLine_of_request _ hrequest]
    exact ⟨name, hname, rfl, rfl⟩

/-- The command as the second word of a line, which is evaluated and fails; the
mode stays, and so does what the last line comes to. -/
theorem run_line_second_word :
    let front := "+ 1 2\n"
    let written := " mode :mode infix\r\n"
    let line := " mode :mode infix"
    (front = "" ∨ front.toList.getLast? = some '\n') ∧ ReadAs written "+ 3 4" line ∧
      ¬ modeCommand.toList <+: (firstWord line).toList ∧
      calculatorAfter {} (front ++ written) = {} ∧
      runLines {} (inputOf (front ++ written ++ "+ 3 4")) = {
        status := 0
        printed := { out := "3\n" } ++ .ofOutcome (.error (.malformedToken "infix"))
          ++ { out := "7\n" } } := by
  intro front written line
  have hlast : front.toList.getLast? = some '\n' := by decide
  have hline : ReadAs written "+ 3 4" line := by
    have hfeed : '\n' ∉ " mode :mode infix\r".toList := by decide
    exact .ended "+ 3 4" hfeed
  have hword : ¬ modeCommand.toList <+: (firstWord line).toList := by decide
  have hstored : calculatorAfter {} front = {} := by decide +kernel
  have hvalue : ({} : Calculator).evaluate line = .error (.malformedToken "infix") := by
    decide +kernel
  obtain ⟨answer, hrun, hother, -⟩ := run_line {} (.inr hlast) hline
  obtain ⟨hkept, hanswer⟩ := hother hword
  have hblank : isBlankLine line = false := by decide
  rw [hstored, hblank, if_neg Bool.false_ne_true, hvalue] at hanswer
  rw [hstored] at hkept
  have hfront : (runLines {} (inputOf front)).printed = { out := "3\n" } := by decide +kernel
  have hback : (runLines {} (inputOf "+ 3 4")).printed = { out := "7\n" } := by decide +kernel
  rw [hfront, hkept, hback, hanswer] at hrun
  exact ⟨.inr hlast, hline, hword, hkept, hrun⟩

/-- **A glued word changes the mode.** The first word of the line is not the
command, and the line is not evaluated: it stores a mode, and the expression on
the next line is evaluated in that mode. In the mode that stood before, one line
would be answered with not-a-number and the other with 5. -/
theorem glued_word_changes_mode :
    ReadAs ":modeinfix\n" "+ 3 2\n" ":modeinfix" ∧ firstWord ":modeinfix" ≠ modeCommand ∧
      isBlankLine ":modeinfix" = false ∧
      calculatorAfter {} "" = { requested := "prefix" } ∧
      calculatorAfter {} ":modeinfix\n" = { requested := "infix" } ∧
      runLines {} (inputOf ":modeinfix\n+ 3 2\n")
        = { status := 0, printed := { out := "mode : Infix\n3\n" } } ∧
      Printed.ofOutcome (({} : Calculator).evaluate ":modeinfix") = { out := "NaN\n" } ∧
      Printed.ofOutcome (({} : Calculator).evaluate "+ 3 2") = { out := "5\n" } := by
  have hline : ReadAs ":modeinfix\n" "+ 3 2\n" ":modeinfix" := by
    have hfeed : '\n' ∉ ":modeinfix".toList := by decide
    exact .ended "+ 3 2\n" hfeed
  exact ⟨hline, by decide, by decide, by decide +kernel, by decide +kernel, by decide +kernel,
    by decide +kernel, by decide +kernel⟩

end StackCalculator.Terminal
