/-
What a line asks for.

A line is blank and skipped, or a mode command, or an expression; which of these
it is depends on the line alone. It does not depend on the blanks at its end,
and so not on how the line was ended: the carriage return that reading takes off
is a blank. Only the evaluation of an expression looks at its ends.
-/
import StackCalculator.Terminal.Program
import StackCalculator.Proofs.Terminal.Lines

set_option autoImplicit false

namespace StackCalculator

/-! ## Blanks at an end -/

namespace Text

variable {c : Char}

theorem trimStart_eq_nil {cs : List Char} (h : cs.all isBlank = true) : trimStart cs = [] := by
  rw [trimStart, ← List.append_nil cs, List.dropWhile_append_of_pos (List.all_eq_true.mp h),
    List.dropWhile_nil]

/-- A blank at the end is trimmed from the start only if nothing else is left. -/
theorem trimStart_append_blank (hc : isBlank c = true) (cs : List Char) :
    trimStart (cs ++ [c]) = trimStart cs ∨ trimStart (cs ++ [c]) = trimStart cs ++ [c] := by
  have happend := @List.dropWhile_append _ isBlank cs [c]
  by_cases hempty : (cs.dropWhile isBlank).isEmpty = true
  · rw [if_pos hempty, List.dropWhile_cons_of_pos hc] at happend
    refine .inl (happend.trans ?_)
    exact (List.isEmpty_iff.mp hempty).symm
  · rw [if_neg hempty] at happend
    exact .inr happend

theorem trimEnd_append_blank (hc : isBlank c = true) (cs : List Char) :
    trimEnd (cs ++ [c]) = trimEnd cs := by
  rw [trimEnd, trimEnd, List.reverse_concat, List.dropWhile_cons_of_pos hc]

theorem trim_append_blank (hc : isBlank c = true) (cs : List Char) :
    trim (cs ++ [c]) = trim cs := by
  rcases trimStart_append_blank hc cs with h | h
  · rw [trim, h, trim]
  · rw [trim, h, trimEnd_append_blank hc, trim]

/-- A text that starts with no blank loses nothing at its start. -/
theorem trimStart_eq_self {cs : List Char} (h : cs.head?.any isBlank = false) :
    trimStart cs = cs := by
  cases cs with
  | nil => rfl
  | cons first rest => exact List.dropWhile_cons_of_neg (Bool.eq_false_iff.mp h)

theorem trimEnd_eq_self {cs : List Char} (h : cs.getLast?.any isBlank = false) :
    trimEnd cs = cs := by
  rw [← List.head?_reverse] at h
  have hreverse : cs.reverse.dropWhile isBlank = cs.reverse := trimStart_eq_self h
  rw [trimEnd, hreverse, List.reverse_reverse]

theorem trim_cons_blank (hc : isBlank c = true) (cs : List Char) : trim (c :: cs) = trim cs :=
  congrArg trimEnd (List.dropWhile_cons_of_pos hc)

end Text

namespace Terminal

variable {line : String}

/-! ## Blank lines and commands -/

/-- Whether a line is blank. -/
def isBlankLine (line : String) : Bool := line.toList.all Text.isBlank

theorem isBlankLine_eq_false_iff :
    isBlankLine line = false ↔ ∃ c ∈ line.toList, Text.isBlank c = false := by
  simp only [isBlankLine, List.all_eq_false, Bool.not_eq_true]

/-- The command is one word. -/
theorem any_isBlank_modeCommand : modeCommand.toList.any Text.isBlank = false := by decide

/-- A line that begins with anything but the command asks for nothing. -/
theorem modeRequest?_of_not_command (h : ¬ modeCommand.toList <+: Text.trimStart line.toList) :
    modeRequest? line = none :=
  if_neg (mt List.isPrefixOf_iff_prefix.mp h)

/-- **What a line asks for** is all that follows the command, less the blanks at
either end. -/
theorem modeRequest?_of_command {name : List Char}
    (h : Text.trimStart line.toList = modeCommand.toList ++ name) :
    modeRequest? line = some (String.ofList (Text.trim name)) := by
  have hdrop : (modeCommand.toList ++ name).drop modeCommand.length = name := List.drop_left
  simp only [modeRequest?, h]
  rw [if_pos (List.isPrefixOf_iff_prefix.mpr (List.prefix_append _ _)), hdrop]

theorem modeRequest?_of_isBlankLine (h : isBlankLine line = true) : modeRequest? line = none := by
  simp only [modeRequest?, Text.trimStart_eq_nil h]
  rfl

/-- A blank behind a line is no part of what the line asks for. -/
theorem modeRequest?_of_append_blank {other : String} {c : Char} (hc : Text.isBlank c = true)
    (h : other.toList = line.toList ++ [c]) : modeRequest? other = modeRequest? line := by
  have hcommand : c ∉ modeCommand.toList := by
    intro hmem
    exact List.any_eq_false.mp any_isBlank_modeCommand c hmem hc
  rcases Text.trimStart_append_blank hc line.toList with htext | htext
  · simp only [modeRequest?, h, htext]
  rw [← h] at htext
  by_cases hword : modeCommand.toList <+: Text.trimStart line.toList
  · obtain ⟨name, hname⟩ := hword
    rw [← hname, List.append_assoc] at htext
    rw [modeRequest?_of_command htext, modeRequest?_of_command hname.symm,
      Text.trim_append_blank hc]
  · -- the blank does not complete the word
    have hlonger : ¬ modeCommand.toList <+: Text.trimStart other.toList := by
      rw [htext, List.prefix_concat_iff, not_or]
      refine ⟨fun heq => hcommand ?_, hword⟩
      rw [heq]
      exact List.mem_concat_self
    rw [modeRequest?_of_not_command hword, modeRequest?_of_not_command hlonger]

@[simp] theorem modeRequest?_dropReturn (line : String) :
    modeRequest? (dropReturn line) = modeRequest? line := by
  rcases eq_dropReturn_or line with h | h
  · rw [h]
  · exact (modeRequest?_of_append_blank (by decide) h).symm

@[simp] theorem isBlankLine_dropReturn (line : String) :
    isBlankLine (dropReturn line) = isBlankLine line := by
  rcases eq_dropReturn_or line with h | h
  · rw [h]
  · have hreturn : ['\r'].all Text.isBlank = true := by decide
    rw [isBlankLine, isBlankLine, h, List.all_append, hreturn, Bool.and_true]

/-! ## Answering one line -/

variable (c : Calculator)

theorem answerLine_of_isBlankLine (h : isBlankLine line = true) : answerLine c line = (c, {}) :=
  if_pos h

theorem answerLine_of_request {requested : String} (h : modeRequest? line = some requested) :
    answerLine c line = (c.setMode requested, .ofMode (c.setMode requested)) := by
  have hblank : ¬ isBlankLine line = true := by
    intro hblank
    rw [modeRequest?_of_isBlankLine hblank] at h
    exact absurd h nofun
  unfold isBlankLine at hblank
  rw [answerLine, if_neg hblank, h]

theorem answerLine_of_expression (hblank : isBlankLine line = false)
    (h : modeRequest? line = none) :
    answerLine c line = (c, .ofOutcome (c.evaluate line)) := by
  unfold isBlankLine at hblank
  rw [answerLine, if_neg (Bool.eq_false_iff.mp hblank), h]

/-- **After a line** the calculator has the mode that the line asks for, or the
one that it had. -/
theorem answerLine_requested (line : String) :
    (answerLine c line).1 = { requested := (modeRequest? line).getD c.requested } := by
  cases hrequest : modeRequest? line with
  | some requested => rw [answerLine_of_request c hrequest]; rfl
  | none =>
    rcases hblank : isBlankLine line with _ | _
    · rw [answerLine_of_expression c hblank hrequest]
      rfl
    · rw [answerLine_of_isBlankLine c hblank]
      rfl

end Terminal
end StackCalculator
