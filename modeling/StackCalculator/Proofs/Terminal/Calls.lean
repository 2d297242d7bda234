/-
A page and a terminal.

What a page asks of its calculator by calls can be asked of the program on
lines: a mode by a command that names it, an evaluation by the entry itself. The
line has to hold the text. A mode is kept as a command gives it only if no blank
stands at its ends, since the command takes those off; it may be empty, and need
not name a mode. An entry is kept if it is an expression for a line.

Call by call the two then say the same. Both store the mode as it is asked for.
An evaluation that throws a text is reported with that text on the standard
error, and one that returns a number is shown as the text of the number on the
standard output. The text of a number tells which number it is (zeros of either
sign are one number), so what is shown tells what is returned.
-/
import StackCalculator.Browser
import StackCalculator.Proofs.Number.Results
import StackCalculator.Proofs.Terminal.Uses

set_option autoImplicit false

namespace StackCalculator.Terminal

open Browser (Call Reply)

/-! ## Calls on lines -/

/-- **A mode for a line**: one that a command gives back. -/
structure IsModeText (requested : String) : Prop where
  noLineFeed : '\n' ∉ requested.toList
  noBlankInFront : requested.toList.head?.any Text.isBlank = false
  noBlankBehind : requested.toList.getLast?.any Text.isBlank = false

instance {requested : String} : Decidable (IsModeText requested) :=
  decidable_of_iff
    ('\n' ∉ requested.toList ∧ requested.toList.head?.any Text.isBlank = false ∧
      requested.toList.getLast?.any Text.isBlank = false)
    ⟨fun ⟨hfeed, hfront, hbehind⟩ => ⟨hfeed, hfront, hbehind⟩,
      fun h => ⟨h.noLineFeed, h.noBlankInFront, h.noBlankBehind⟩⟩

/-- The command that asks for a mode. -/
def modeLine (requested : String) : String := modeCommand ++ " " ++ requested

/-- **A call written on a line.** The making of a new object is no line. -/
inductive Written : Call → String → Prop where
  | setMode {requested : String} (h : IsModeText requested) :
      Written (.setMode requested) (modeLine requested)
  | evaluate {expression : String} (h : IsExpressionLine expression) :
      Written (.evaluate expression) expression

namespace IsModeText

variable {requested : String}

theorem toList_modeLine (requested : String) :
    (modeLine requested).toList = modeCommand.toList ++ ' ' :: requested.toList := by
  simp [modeLine]

/-- **The command gives the mode back** as it was asked for. -/
theorem modeRequest?_modeLine (h : IsModeText requested) :
    modeRequest? (modeLine requested) = some requested := by
  have htext : Text.trimStart (modeLine requested).toList
      = modeCommand.toList ++ ' ' :: requested.toList := by
    rw [toList_modeLine]
    apply Text.trimStart_eq_self
    rw [List.head?_append]
    rfl
  have hblank : Text.isBlank ' ' = true := by decide
  rw [modeRequest?_of_command htext, Text.trim_cons_blank hblank, Text.trim,
    Text.trimStart_eq_self h.noBlankInFront, Text.trimEnd_eq_self h.noBlankBehind,
    String.ofList_toList]

theorem noLineFeed_modeLine (h : IsModeText requested) : '\n' ∉ (modeLine requested).toList := by
  have hcommand : '\n' ∉ modeCommand.toList := by decide
  rw [toList_modeLine, List.mem_append, List.mem_cons]
  rintro (hmem | hmem | hmem)
  · exact hcommand hmem
  · exact absurd hmem (by decide)
  · exact h.noLineFeed hmem

theorem dropReturn_modeLine (h : IsModeText requested) :
    dropReturn (modeLine requested) = modeLine requested := by
  apply dropReturn_of_getLast?
  rw [toList_modeLine, List.getLast?_append, List.getLast?_cons]
  intro hlast
  -- the line ends in the mode, or else in the blank before it
  cases hmode : requested.toList.getLast? with
  | none =>
    rw [hmode] at hlast
    exact absurd hlast (by decide)
  | some last =>
    rw [hmode] at hlast
    obtain rfl : last = '\r' := Option.some.inj hlast
    have hblank := h.noBlankBehind
    rw [hmode] at hblank
    exact absurd hblank (by decide)

end IsModeText

namespace Written

variable {call : Call} {line : String}

theorem noLineFeed (h : Written call line) : '\n' ∉ line.toList := by
  cases h with
  | setMode h => exact h.noLineFeed_modeLine
  | evaluate h => exact h.noLineFeed

theorem dropReturn_eq (h : Written call line) : dropReturn line = line := by
  cases h with
  | setMode h => exact h.dropReturn_modeLine
  | evaluate h => exact h.dropReturn_eq

end Written

/-! ## Replies and answers -/

/-- The page is given this number, where zeros of either sign are one number. -/
def Returns (reply : Reply) (value : Float) : Prop :=
  ∃ given, reply = .returned given ∧ Number.Same given value

/-- A number on the standard output. -/
def shown (value : Float) : String := Number.resultText value ++ "\n"

/-- An error on the standard error. -/
def reported (message : String) : String := "erreur : " ++ message ++ "\n"

theorem line_ne_empty (text : String) : text ++ "\n" ≠ "" := by
  intro h
  exact absurd (String.append_eq_empty_iff.mp h).2 (by decide)

theorem shown_eq_iff {x y : Float} : shown x = shown y ↔ Number.Same x y := by
  rw [shown, shown, String.append_left_inj, Number.resultText_eq_iff]

theorem reported_eq_iff {message other : String} :
    reported message = reported other ↔ message = other := by
  rw [reported, reported, String.append_left_inj, String.append_right_inj]

variable (outcome : Except EvalError Float)

/-- **A number is returned** if it is what is shown. -/
theorem returns_iff (value : Float) :
    Returns (.ofOutcome outcome) value ↔ (Printed.ofOutcome outcome).out = shown value := by
  cases outcome with
  | ok given =>
    have hshown : (Printed.ofOutcome (.ok given)).out = shown given := rfl
    rw [hshown, shown_eq_iff]
    constructor
    · rintro ⟨_, hreply, hsame⟩
      exact Reply.returned.inj hreply ▸ hsame
    · intro hsame
      exact ⟨given, rfl, hsame⟩
  | error e =>
    constructor
    · rintro ⟨_, hreply, -⟩
      exact absurd hreply nofun
    · intro hout
      exact absurd hout.symm (line_ne_empty _)

/-- **A text is thrown** if it is what is reported. -/
theorem thrown_iff (message : String) :
    Reply.ofOutcome outcome = .thrown message
      ↔ (Printed.ofOutcome outcome).err = reported message := by
  cases outcome with
  | ok value =>
    constructor
    · intro hreply
      exact absurd hreply nofun
    · intro herr
      exact absurd herr.symm (line_ne_empty _)
  | error e =>
    have hreported : (Printed.ofOutcome (.error e)).err = reported e.message := rfl
    rw [hreported, reported_eq_iff]
    exact Reply.thrown.injEq e.message message ▸ Iff.rfl

/-- **What a call gives back and how a line is answered**, side by side. -/
structure Agree (call : Call) (reply : Reply × String) (answer : Calculator × Printed) : Prop where
  /-- The page reads back the mode that the program has stored. -/
  mode : reply.2 = answer.1.requested
  returned : ∀ entry, call = .evaluate entry →
    ∀ value, Returns reply.1 value ↔ answer.2.out = shown value
  thrown : ∀ entry, call = .evaluate entry →
    ∀ message, reply.1 = .thrown message ↔ answer.2.err = reported message

/-! ## Calls and lines in order -/

variable (c : Calculator)

/-- **One call and its line** leave the same calculator and agree. -/
theorem call_answerLine {call : Call} {line : String} (h : Written call line) :
    (Browser.call c call).1 = (answerLine c line).1 ∧
      Agree call ((Browser.call c call).2, (Browser.call c call).1.requested)
        (answerLine c line) := by
  cases h with
  | setMode h =>
    rw [answerLine_of_request c h.modeRequest?_modeLine]
    exact ⟨rfl, rfl, nofun, nofun⟩
  | evaluate h =>
    rw [answerLine_of_expression c h.isBlankLine_eq_false h.modeRequest?_eq_none]
    exact ⟨rfl, rfl, fun _ _ => returns_iff _, fun _ _ => thrown_iff _⟩

/-- **Calls and their lines in order** agree, each with its own. -/
theorem run_answerLines {calls : List Call} {lines : List String}
    (h : List.Forall₂ Written calls lines) {i : Nat} {call : Call} (hcall : calls[i]? = some call) :
    ∃ reply answer, (Browser.run c calls)[i]? = some reply ∧
      (answerLines c lines)[i]? = some answer ∧ Agree call reply answer := by
  induction h generalizing c i with
  | nil => exact absurd hcall nofun
  | @cons first line calls lines hfirst _ ih =>
    obtain ⟨hnext, hagree⟩ := call_answerLine c hfirst
    cases i with
    | zero =>
      obtain rfl : first = call := Option.some.inj hcall
      exact ⟨_, _, rfl, rfl, hagree⟩
    | succ i =>
      -- the others are made on one calculator, whichever side left it
      obtain ⟨reply, answer, hreply, hanswer, hothers⟩ := ih (Browser.call c first).1 hcall
      refine ⟨reply, answer, hreply, ?_, hothers⟩
      rw [hnext] at hanswer
      exact hanswer

/-- Lines that calls are written on are read as they stand. -/
theorem map_dropReturn {calls : List Call} {lines : List String}
    (h : List.Forall₂ Written calls lines) :
    (∀ line ∈ lines, '\n' ∉ line.toList) ∧ lines.map dropReturn = lines := by
  induction h with
  | nil => exact ⟨nofun, rfl⟩
  | cons hfirst _ ih =>
    refine ⟨List.forall_mem_cons.mpr ⟨hfirst.noLineFeed, ih.1⟩, ?_⟩
    rw [List.map_cons, hfirst.dropReturn_eq, ih.2]

/-- **A page and a terminal agree.** Let calls on a new object be written on the
lines of the standard input, and let the arguments ask for no mode and for no
expression. Then the program reads all of the input and writes its answers line
by line; and for every call, the answer to its line and what the page is given
agree: on the mode stored after it and, where the call is an evaluation, on the
number that comes of it or else on the text of the error. -/
theorem run_calls_lines {arguments : List String}
    (harguments : Request.ofArguments? arguments = some (.evaluate none []))
    {calls : List Call} {lines : List String} (h : List.Forall₂ Written calls lines) :
    run? arguments (inputOf (terminated lines))
        = some { status := 0, printed := Printed.all ((answerLines {} lines).map Prod.snd) } ∧
      ∀ (i : Nat) (call : Call), calls[i]? = some call →
        ∃ reply answer, (Browser.run {} calls)[i]? = some reply ∧
          (answerLines {} lines)[i]? = some answer ∧ Agree call reply answer := by
  constructor
  · obtain ⟨hlines, hread⟩ := map_dropReturn h
    have hrun : runLines {} (inputOf (terminated lines))
        = { status := 0, printed := printedFor {} lines } := by
      rw [runLines_lines {} hlines, hread]
    exact (run?_lines harguments _).trans (congrArg some hrun)
  · intro i call hcall
    exact run_answerLines {} h hcall

/-- A zero whose sign is not shown, a division by zero in a mode asked for in
odd case, and an entry where no mode is named at all. -/
theorem run_calls_lines_refused :
    let calls : List Call :=
      [.evaluate "* 0 -1", .setMode "InFix", .evaluate "( 1 / 0 )", .setMode "", .evaluate " 1 "]
    let lines := ["* 0 -1", ":mode InFix", "( 1 / 0 )", ":mode ", " 1 "]
    List.Forall₂ Written calls lines ∧
      run? ["--"] (inputOf (terminated lines))
        = some { status := 0, printed := Printed.all ((answerLines {} lines).map Prod.snd) } ∧
      ∃ zero divided refused, (answerLines {} lines)[0]? = some zero ∧
        (answerLines {} lines)[2]? = some divided ∧ (answerLines {} lines)[4]? = some refused ∧
        Agree (.evaluate "* 0 -1") (.returned (-0.0), "prefix") zero ∧
        Agree (.evaluate "( 1 / 0 )") (.thrown EvalError.divisionByZero.message, "InFix") divided ∧
        Agree (.evaluate " 1 ") (.thrown (EvalError.unsupportedMode "").message, "") refused := by
  intro calls lines
  have hwritten : List.Forall₂ Written calls lines :=
    .cons (.evaluate (by decide)) (.cons (.setMode (by decide)) (.cons (.evaluate (by decide))
      (.cons (.setMode (by decide)) (.cons (.evaluate (by decide)) .nil))))
  have harguments : Request.ofArguments? ["--"] = some (.evaluate none []) := by decide
  obtain ⟨hrun, hcalls⟩ := run_calls_lines harguments hwritten
  have hreplies : Browser.run {} calls =
      [(.returned (-0.0), "prefix"), (.done, "InFix"),
        (.thrown EvalError.divisionByZero.message, "InFix"), (.done, ""),
        (.thrown (EvalError.unsupportedMode "").message, "")] := by decide +kernel
  rw [hreplies] at hcalls
  obtain ⟨_, zero, hreply, hzero, hagreeZero⟩ := hcalls 0 _ rfl
  obtain rfl := Option.some.inj hreply
  obtain ⟨_, divided, hreply, hdivided, hagreeDivided⟩ := hcalls 2 _ rfl
  obtain rfl := Option.some.inj hreply
  obtain ⟨_, refused, hreply, hrefused, hagreeRefused⟩ := hcalls 4 _ rfl
  obtain rfl := Option.some.inj hreply
  exact ⟨hwritten, hrun, zero, divided, refused, hzero, hdivided, hrefused, hagreeZero,
    hagreeDivided, hagreeRefused⟩

end StackCalculator.Terminal
