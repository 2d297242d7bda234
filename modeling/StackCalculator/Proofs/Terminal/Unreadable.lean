/-
A line that cannot be read.

The input is cut into lines before any of it is decoded, and a line is decoded
by itself. A fault in the encoding therefore belongs to one line and is found
when that line is reached: what stands before it has been answered by then,
what stands after it has not been looked at, and of the line itself nothing is
used. A character cut short by the end of its line is such a fault, whatever
the next line begins with, since no byte of another line can complete it.

So the run over the lines before the fault is the whole of what is answered
(`runLines_terminated`), and the complaint is all that follows.
-/
import StackCalculator.Proofs.Terminal.Uses

set_option autoImplicit false

namespace StackCalculator.Terminal

/-! ## Lines of bytes -/

/-- **A line of an input, and what follows it.** A line ends with its line feed,
the only one in it; the last line may lack it, and then nothing follows. -/
inductive IsLine : List UInt8 → List UInt8 → Prop where
  | ended {text : List UInt8} (rest : List UInt8) (h : lineFeed ∉ text) :
      IsLine (text ++ [lineFeed]) rest
  | unended {line : List UInt8} (h : lineFeed ∉ line) : IsLine line []

/-- **A line is decoded** exactly when it is valid UTF-8. -/
theorem lineText?_eq_none_iff {line : List UInt8} :
    lineText? line = none ↔ ¬ line.toByteArray.IsValidUTF8 := by
  rw [lineText?, Option.map_eq_none_iff]
  by_cases hvalid : line.toByteArray.IsValidUTF8
  · have hsome : String.fromUTF8? line.toByteArray
        = some (String.fromUTF8 line.toByteArray hvalid) := dif_pos hvalid
    rw [hsome]
    exact iff_of_false (Option.some_ne_none _) (not_not_intro hvalid)
  · have hnone : String.fromUTF8? line.toByteArray = none := dif_neg hvalid
    exact iff_of_true hnone hvalid

/-- No bytes at all are the encoding of no characters. -/
theorem ne_nil_of_invalid {line : List UInt8} (h : ¬ line.toByteArray.IsValidUTF8) :
    line ≠ [] := by
  rintro rfl
  have hnone := lineText?_eq_none_iff.mpr h
  rw [← inputOf_empty, lineText?_inputOf] at hnone
  exact absurd hnone nofun

/-- Cutting takes off a line at the front, whatever follows it. -/
theorem splitLines_line {line rest : List UInt8} (h : IsLine line rest) (hne : line ≠ []) :
    splitLines (line ++ rest) = line :: splitLines rest := by
  cases h with
  | @ended text rest hfeed =>
    rw [List.append_assoc, List.singleton_append, splitLines_cons hfeed]
  | unended hfeed =>
    rw [List.append_nil, splitLines_last hne hfeed]
    rfl

/-! ## The end of a run -/

/-- **A run that meets a fault first** answers nothing. -/
theorem runLines_unreadable (c : Calculator) {line rest : List UInt8} (hline : IsLine line rest)
    (hinvalid : ¬ line.toByteArray.IsValidUTF8) :
    runLines c (line ++ rest) = { status := 1, printed := unreadable } := by
  have hread : readTexts (splitLines (line ++ rest)) = ([], false) := by
    rw [splitLines_line hline (ne_nil_of_invalid hinvalid), readTexts,
      lineText?_eq_none_iff.mpr hinvalid]
  rw [runLines_eq, hread, endingFor_unread]

/-- **A fault ends the run at its line.** Let arguments ask for lines to be
read, in any mode. Over whole lines, a line that is no valid UTF-8 and any bytes
behind it, the program writes what it writes over the whole lines alone and
then, on the standard error only, that the standard input could not be read and
why; its status is 1. The bytes behind the line have no part in that. -/
theorem run_unreadable {arguments : List String} {mode : Option String}
    (harguments : Request.ofArguments? arguments = some (.evaluate mode []))
    {front : String} (hfront : front = "" ∨ front.toList.getLast? = some '\n')
    {line rest : List UInt8} (hline : IsLine line rest)
    (hinvalid : ¬ line.toByteArray.IsValidUTF8) :
    ∃ before : Ending,
      run? arguments (inputOf front) = some before ∧
      run? arguments (inputOf front ++ line ++ rest) = some {
        status := 1
        printed := {
          out := before.printed.out
          err := before.printed.err
            ++ "Error: lecture de l’entrée standard\n\nCaused by:\n"
            ++ "    stream did not contain valid UTF-8\n" } } := by
  obtain ⟨lines, rfl, hlines⟩ := exists_terminated hfront
  refine ⟨_, run?_lines harguments _, ?_⟩
  rw [run?_lines harguments, List.append_assoc, runLines_terminated _ hlines,
    runLines_unreadable _ hline hinvalid, runLines_lines _ hlines]
  -- the complaint is all of it for the standard error
  have hout : unreadable.out = "" := rfl
  have herr : unreadable.err = "Error: lecture de l’entrée standard\n\nCaused by:\n"
      ++ "    stream did not contain valid UTF-8\n" := by decide
  refine congrArg (fun printed => some (Ending.mk 1 printed)) (Printed.ext_outputs ?_ ?_)
  · rw [Printed.append_out, hout, String.append_empty]
  · rw [Printed.append_err, herr, String.append_assoc]

/-- Two lines are answered, one of them with an error. In the third the first
two bytes of `€` stand before the line feed, and its last byte behind it. -/
theorem run_unreadable_cut_short :
    let front := "( 1 + 2 )\r\n( 1 / 0 )\n"
    let line : List UInt8 := [0x37, 0x20, 0xE2, 0x82, 0x0A]
    let rest : List UInt8 := [0xAC, 0x0A, 0x38, 0x0A]
    IsLine line rest ∧ ¬ line.toByteArray.IsValidUTF8 ∧
      run? ["-m", "infix"] (inputOf front ++ line ++ rest) = some {
        status := 1
        printed := {
          out := "3\n"
          err := "erreur : division par zéro\n"
            ++ "Error: lecture de l’entrée standard\n\nCaused by:\n"
            ++ "    stream did not contain valid UTF-8\n" } } := by
  intro front line rest
  have harguments : Request.ofArguments? ["-m", "infix"] = some (.evaluate (some "infix") []) := by
    decide
  have hlast : front.toList.getLast? = some '\n' := by decide
  have hfeed : lineFeed ∉ ([0x37, 0x20, 0xE2, 0x82] : List UInt8) := by decide
  have hline : IsLine line rest := .ended rest hfeed
  have hinvalid : ¬ line.toByteArray.IsValidUTF8 := by decide +kernel
  obtain ⟨before, hbefore, hrun⟩ := run_unreadable harguments (.inr hlast) hline hinvalid
  have hfront : run? ["-m", "infix"] (inputOf front) = some {
      status := 0
      printed := { out := "3\n", err := "erreur : division par zéro\n" } } := by decide +kernel
  obtain rfl := Option.some_inj.mp (hbefore.symm.trans hfront)
  exact ⟨hline, hinvalid, hrun⟩

end StackCalculator.Terminal
