/-
Line ends and blank lines.

A run answers the texts that it reads, and several inputs are read as the same
texts. A carriage return before a line feed is taken off with it, one and no
more; so a text without any is read alike with and without one before each of
its line feeds. The last line is read whether it is ended or not, as long as
there is something on it. Were there carriage returns in the text itself, both
would fail: of two before a line feed one stays on the line, and the last line
keeps its own until a line feed is put behind it.

Blank lines are read, and then answered with nothing: they print nothing and
leave the mode that stands. This holds of the carriage returns on them too, which
are blanks, and whatever is on the other lines.
-/
import StackCalculator.Proofs.Terminal.Answers

set_option autoImplicit false

namespace StackCalculator.Terminal

/-! ## Carriage returns -/

/-- **A text with a carriage return** before each of its line feeds. -/
def withReturns (text : String) : String :=
  String.ofList (text.toList.flatMap fun c => if c = '\n' then ['\r', '\n'] else [c])

theorem withReturns_append (front back : String) :
    withReturns (front ++ back) = withReturns front ++ withReturns back := by
  rw [withReturns, String.toList_append, List.flatMap_append, String.ofList_append, withReturns,
    withReturns]

theorem withReturns_of_not_mem {text : String} (h : '\n' ∉ text.toList) :
    withReturns text = text := by
  have hkept : ∀ c ∈ text.toList, (if c = '\n' then ['\r', '\n'] else [c]) = [c] := by
    intro c hc
    have hfeed : c ≠ '\n' := fun hfeed => h (by rwa [hfeed] at hc)
    exact if_neg hfeed
  rw [withReturns, List.flatMap_def, List.map_congr_left hkept, ← List.flatMap_def,
    List.flatMap_singleton', String.ofList_toList]

/-- The returns go to the ends of the lines. -/
theorem withReturns_terminated {lines : List String} (h : ∀ line ∈ lines, '\n' ∉ line.toList) :
    withReturns (terminated lines) = terminated (lines.map (· ++ "\r")) := by
  induction lines with
  | nil => rfl
  | cons line rest ih =>
    rw [List.forall_mem_cons] at h
    have hfeed : withReturns "\n" = "\r" ++ "\n" := by decide
    have hline : line ++ "\r" ++ "\n" = line ++ ("\r" ++ "\n") := String.append_assoc
    rw [terminated_cons, withReturns_append, withReturns_append, withReturns_of_not_mem h.1, hfeed,
      ih h.2, List.map_cons, terminated_cons, hline]

/-- What stands on a line stands in the text. -/
theorem mem_terminated {lines : List String} {line : String} (hline : line ∈ lines) {c : Char}
    (hc : c ∈ line.toList) : c ∈ (terminated lines).toList := by
  rw [terminated, String.toList_join, List.mem_flatMap]
  refine ⟨line ++ "\n", List.mem_map_of_mem hline, ?_⟩
  rw [String.toList_append]
  exact List.mem_append_left _ hc

theorem terminated_concat (lines : List String) (line : String) :
    terminated (lines ++ [line]) = terminated lines ++ line ++ "\n" := by
  rw [terminated, List.map_append, String.join_append, ← terminated, List.map_singleton,
    String.join_cons, String.join_nil, String.append_empty, String.append_assoc]

/-- Lines end in a line feed, if there are any. -/
theorem getLast?_terminated {lines : List String} (h : lines ≠ []) :
    (terminated lines).toList.getLast? = some '\n' := by
  rcases List.eq_nil_or_concat lines with rfl | ⟨front, line, rfl⟩
  · exact absurd rfl h
  · rw [List.concat_eq_append, terminated_concat, String.toList_append, List.getLast?_append]
    rfl

theorem dropReturn_append_return (line : String) : dropReturn (line ++ "\r") = line := by
  have hlist : (line ++ "\r").toList ++ ['\n'] = line.toList ++ ['\r', '\n'] := by simp
  rw [dropReturn, hlist, dropLineEnd_return, String.ofList_toList]

theorem dropReturn_of_not_mem {line : String} (h : '\r' ∉ line.toList) : dropReturn line = line :=
  dropReturn_of_getLast? (mt List.mem_of_getLast? h)

section Reading

variable {lines : List String} {rest text : String}

theorem textsRead_returns (h : ∀ line ∈ lines, '\r' ∉ line.toList) :
    textsRead (lines.map (· ++ "\r")) rest = textsRead lines rest := by
  have hlines : (lines.map (· ++ "\r")).map dropReturn = lines.map dropReturn := by
    rw [List.map_map]
    apply List.map_congr_left
    intro line hline
    rw [Function.comp_apply, dropReturn_append_return, dropReturn_of_not_mem (h line hline)]
  rw [textsRead, hlines, textsRead]

/-- The last line is read without its line feed, too. -/
theorem textsRead_concat (hrest : '\r' ∉ rest.toList) (hne : rest ≠ "") :
    textsRead (lines ++ [rest]) "" = textsRead lines rest := by
  rw [textsRead, if_pos rfl, List.append_nil, List.map_append, List.map_singleton,
    dropReturn_of_not_mem hrest, textsRead, if_neg hne]

/-- **Returns before line feeds** are not read. -/
theorem textsOf_withReturns (h : '\r' ∉ text.toList) :
    textsOf (withReturns text) = textsOf text := by
  obtain ⟨lines, rest, rfl, hlines, hrest⟩ := exists_lines text
  rw [String.toList_append, List.mem_append, not_or] at h
  have hreturns : ∀ line ∈ lines, '\r' ∉ line.toList :=
    fun line hline hmem => h.1 (mem_terminated hline hmem)
  have hended : ∀ line ∈ lines.map (· ++ "\r"), '\n' ∉ line.toList := by
    rw [List.forall_mem_map]
    intro line hline
    rw [String.toList_append, List.mem_append, not_or]
    exact ⟨hlines line hline, by decide⟩
  rw [withReturns_append, withReturns_terminated hlines, withReturns_of_not_mem hrest,
    textsOf_eq hended hrest, textsOf_eq hlines hrest, textsRead_returns hreturns]

/-- **A last line that is ended** is read as it is without its end. -/
theorem textsOf_ended (h : '\r' ∉ text.toList) (hne : text ≠ "")
    (hlast : text.toList.getLast? ≠ some '\n') : textsOf (text ++ "\n") = textsOf text := by
  obtain ⟨lines, rest, rfl, hlines, hrest⟩ := exists_lines text
  rw [String.toList_append, List.mem_append, not_or] at h
  -- without a rest the text would be empty, or end in a line feed
  have hempty : rest ≠ "" := by
    rintro rfl
    rw [String.append_empty] at hne hlast
    have hlines : lines ≠ [] := fun hnil => hne (congrArg terminated hnil)
    exact hlast (getLast?_terminated hlines)
  have hall : ∀ line ∈ lines ++ [rest], '\n' ∉ line.toList := by
    rw [List.forall_mem_append]
    exact ⟨hlines, List.forall_mem_singleton.mpr hrest⟩
  have hended : terminated lines ++ rest ++ "\n" = terminated (lines ++ [rest]) ++ "" := by
    rw [terminated_concat, String.append_empty]
  rw [hended, textsOf_eq hall (by decide), textsOf_eq hlines hrest, textsRead_concat h.2 hempty]

end Reading

/-! ## Blank lines -/

/-- **Blank lines** are passed over, and so are the carriage returns on them. -/
theorem printedFor_blank_append (c : Calculator) {lines : List String}
    (h : ∀ line ∈ lines, isBlankLine line = true) (others : List String) :
    printedFor c (lines.map dropReturn ++ others) = printedFor c others := by
  induction lines with
  | nil => rfl
  | cons line rest ih =>
    rw [List.forall_mem_cons] at h
    have hread : isBlankLine (dropReturn line) = true := by
      rw [isBlankLine_dropReturn]
      exact h.1
    rw [List.map_cons, List.cons_append, printedFor_cons, answerLine_of_isBlankLine c hread,
      Printed.empty_append, ih h.2]

/-- **A text with blank lines put into it**, in any number of places: before
lines of it, or behind its last line if that is ended. -/
inductive Padded (text : String) : String → Prop where
  | unpadded : Padded text text
  | pad {front back : String} {blanks : List String} (h : Padded text (front ++ back))
      (hfront : front = "" ∨ front.toList.getLast? = some '\n')
      (hblanks : ∀ line ∈ blanks, '\n' ∉ line.toList ∧ isBlankLine line = true) :
      Padded text (front ++ terminated blanks ++ back)

variable {text : String}

/-- **Blank lines put into a text** add nothing to what is written. -/
theorem printedFor_padded (c : Calculator) {padded : String} (h : Padded text padded) :
    printedFor c (textsOf padded) = printedFor c (textsOf text) := by
  induction h with
  | unpadded => rfl
  | pad _ hfront hblanks ih =>
    rw [← ih, String.append_assoc, textsOf_append hfront, textsOf_append hfront,
      textsOf_terminated fun line hline => (hblanks line hline).1, printedFor_append,
      printedFor_blank_append _ fun line hline => (hblanks line hline).2, printedFor_append]

/-! ## Runs -/

/-- **Line ends and blank lines** make no difference. Let arguments ask for
lines to be read, in any mode, and let a text have no carriage return in it. The
program ends alike, with the same status and the same on both outputs, over the
text, over the text with a carriage return before every line feed, over the text
with a line feed behind it if its last line has none, and over the text with any
number of blank lines put into it. -/
theorem run_line_ends {arguments : List String} {mode : Option String}
    (harguments : Request.ofArguments? arguments = some (.evaluate mode []))
    (hreturn : '\r' ∉ text.toList) :
    ∃ ending : Ending,
      run? arguments (inputOf text) = some ending ∧
      run? arguments (inputOf (withReturns text)) = some ending ∧
      (text ≠ "" → text.toList.getLast? ≠ some '\n' →
        run? arguments (inputOf (text ++ "\n")) = some ending) ∧
      ∀ padded, Padded text padded → run? arguments (inputOf padded) = some ending := by
  refine ⟨runLines (startingCalculator mode) (inputOf text), run?_lines harguments _, ?_, ?_, ?_⟩
  · rw [run?_lines harguments, runLines_textsOf, textsOf_withReturns hreturn, runLines_textsOf]
  · intro hne hlast
    rw [run?_lines harguments, runLines_textsOf, textsOf_ended hreturn hne hlast,
      runLines_textsOf]
  · intro padded hpadded
    rw [run?_lines harguments, runLines_textsOf, printedFor_padded _ hpadded, runLines_textsOf]

/-- A result, a command and a result, with a carriage return on one of the blank
lines that are put between them. -/
theorem run_line_ends_command :
    let text := "( 1 + 2 )\n:mode prefix\n+ 3 4"
    let answered : Ending := { status := 0, printed := { out := "3\nmode : Prefix\n7\n" } }
    '\r' ∉ text.toList ∧
      run? ["-m", "infix"] (inputOf "( 1 + 2 )\r\n:mode prefix\r\n+ 3 4") = some answered ∧
      run? ["-m", "infix"] (inputOf "( 1 + 2 )\n:mode prefix\n+ 3 4\n") = some answered ∧
      run? ["-m", "infix"] (inputOf "\u00a0\t\n( 1 + 2 )\n:mode prefix\n\n \r\n+ 3 4")
        = some answered := by
  intro text answered
  have harguments : Request.ofArguments? ["-m", "infix"] = some (.evaluate (some "infix") []) := by
    decide
  have hreturn : '\r' ∉ text.toList := by decide
  obtain ⟨ending, htext, hreturns, hended, hpadded⟩ := run_line_ends harguments hreturn
  have hanswered : run? ["-m", "infix"] (inputOf text) = some answered := by decide +kernel
  obtain rfl := Option.some_inj.mp (htext.symm.trans hanswered)
  have hwritten : withReturns text = "( 1 + 2 )\r\n:mode prefix\r\n+ 3 4" := by decide
  rw [hwritten] at hreturns
  -- the blank lines are put in at two places, one after the other
  have hfirst : Padded text ("" ++ terminated ["\u00a0\t"] ++ text) := by
    refine .pad ?_ (.inl rfl) (by decide)
    rw [String.empty_append]
    exact .unpadded
  have hsecond : Padded text
      ("\u00a0\t\n( 1 + 2 )\n:mode prefix\n" ++ terminated ["", " \r"] ++ "+ 3 4") := by
    refine .pad ?_ (.inr (by decide)) (by decide)
    have hsame : "\u00a0\t\n( 1 + 2 )\n:mode prefix\n" ++ "+ 3 4"
        = "" ++ terminated ["\u00a0\t"] ++ text := by decide
    rw [hsame]
    exact hfirst
  exact ⟨hreturn, hreturns, hended (by decide) (by decide), hpadded _ hsecond⟩

end StackCalculator.Terminal
