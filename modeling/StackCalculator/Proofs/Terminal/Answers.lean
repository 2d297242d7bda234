/-
What one line leaves to the next.

The run keeps a calculator from line to line, and a calculator is a mode asked
for. So what is carried over a stretch of lines is the last request made on
them, or the one that stood before; no evaluation leaves a trace, whatever came
of it, and neither does a blank line. A request is carried whether or not it
names a mode. One that names none makes every expression fail up to the next.

What is written is gathered in order, and gathering is associative. A run over
two texts, the first of whole lines, is therefore the run over the first and
then, from the mode it leaves, the run over the second.
-/
import StackCalculator.Proofs.Accusations
import StackCalculator.Proofs.Terminal.Commands

set_option autoImplicit false

namespace StackCalculator.Terminal

/-! ## Writing in order -/

namespace Printed

@[simp] theorem append_out (p q : Printed) : (p ++ q).out = p.out ++ q.out := rfl

@[simp] theorem append_err (p q : Printed) : (p ++ q).err = p.err ++ q.err := rfl

theorem ext_outputs {p q : Printed} (hout : p.out = q.out) (herr : p.err = q.err) : p = q := by
  obtain ⟨out, err⟩ := p
  obtain rfl : out = q.out := hout
  obtain rfl : err = q.err := herr
  rfl

theorem append_assoc (p q r : Printed) : p ++ q ++ r = p ++ (q ++ r) := by
  apply ext_outputs
  · simp only [append_out, String.append_assoc]
  · simp only [append_err, String.append_assoc]

instance : Std.Associative fun p q : Printed => p ++ q := ⟨append_assoc⟩

@[simp] theorem append_empty (p : Printed) : p ++ {} = p := by
  apply ext_outputs
  · rw [append_out, String.append_empty]
  · rw [append_err, String.append_empty]

@[simp] theorem empty_append (p : Printed) : {} ++ p = p := by
  apply ext_outputs
  · rw [append_out, String.empty_append]
  · rw [append_err, String.empty_append]

/-- **Writing two lists of things** is writing the one and then the other. -/
theorem all_append (ps qs : List Printed) : all (ps ++ qs) = all ps ++ all qs :=
  calc (ps ++ qs).foldl (· ++ ·) {}
      = qs.foldl (· ++ ·) (all ps ++ {}) := by rw [List.foldl_append, append_empty, all]
    _ = all ps ++ qs.foldl (· ++ ·) {} := List.foldl_assoc

@[simp] theorem all_cons (p : Printed) (ps : List Printed) : all (p :: ps) = p ++ all ps := by
  rw [← List.singleton_append, all_append, all, List.foldl_cons, List.foldl_nil, empty_append]

end Printed

/-! ## Answering lines in order -/

/-- **Answers lines in order**: the calculator after each, and what is written. -/
def answerLines (c : Calculator) : List String → List (Calculator × Printed)
  | [] => []
  | line :: rest =>
    let answered := answerLine c line
    answered :: answerLines answered.1 rest

/-- **The calculator after lines** are answered. -/
def afterLines (c : Calculator) (lines : List String) : Calculator :=
  lines.foldl (fun c line => (answerLine c line).1) c

/-- What is written of entries that are evaluated one after another. -/
def printedOf (c : Calculator) (entries : List String) : Printed :=
  Printed.all (entries.map fun entry => .ofOutcome (c.evaluate entry))

/-- What is written in answer to lines. -/
def printedFor (c : Calculator) (lines : List String) : Printed :=
  Printed.all ((answerLines c lines).map Prod.snd)

theorem answerLines_append (c : Calculator) (front back : List String) :
    answerLines c (front ++ back)
      = answerLines c front ++ answerLines (afterLines c front) back := by
  induction front generalizing c with
  | nil => rfl
  | cons line rest ih => rw [List.cons_append, answerLines, ih]; rfl

theorem printedFor_cons (c : Calculator) (line : String) (rest : List String) :
    printedFor c (line :: rest)
      = (answerLine c line).2 ++ printedFor (answerLine c line).1 rest := Printed.all_cons _ _

theorem afterLines_append (c : Calculator) (front back : List String) :
    afterLines c (front ++ back) = afterLines (afterLines c front) back := List.foldl_append

/-- **Lines after lines** are answered from the mode that the first ones leave. -/
theorem printedFor_append (c : Calculator) (front back : List String) :
    printedFor c (front ++ back) = printedFor c front ++ printedFor (afterLines c front) back := by
  rw [printedFor, answerLines_append, List.map_append, Printed.all_append]
  rfl

/-- **What is carried over lines** is the last request made on them. -/
theorem afterLines_eq (c : Calculator) (lines : List String) :
    afterLines c lines = { requested := (lines.filterMap modeRequest?).getLastD c.requested } := by
  induction lines generalizing c with
  | nil => rfl
  | cons line rest ih =>
    have hstep : afterLines c (line :: rest) = afterLines (answerLine c line).1 rest := rfl
    rw [hstep, ih, answerLine_requested]
    cases hrequest : modeRequest? line with
    | none => rw [List.filterMap_cons_none hrequest]; rfl
    | some requested => rw [List.filterMap_cons_some hrequest, List.getLastD_cons]; rfl

/-! ## Runs over texts -/

/-- The ending of a run by the texts that are read, and whether that was all. -/
def endingFor (c : Calculator) : List String × Bool → Ending
  | (texts, true) => { status := 0, printed := printedFor c texts }
  | (texts, false) => { status := 1, printed := printedFor c texts ++ unreadable }

/-- A run that can read nothing writes the complaint alone. -/
theorem endingFor_unread (c : Calculator) :
    endingFor c ([], false) = { status := 1, printed := unreadable } :=
  congrArg (Ending.mk 1) (Printed.empty_append unreadable)

/-- **Texts after texts** are answered from the mode that the first ones leave,
and the complaint, if there is one, comes after both. -/
theorem endingFor_append (c : Calculator) (front texts : List String) (complete : Bool) :
    endingFor c (front ++ texts, complete)
      = (endingFor (afterLines c front) (texts, complete)).after (printedFor c front) := by
  have hprinted := printedFor_append c front texts
  cases complete with
  | true => exact congrArg (Ending.mk 0) hprinted
  | false =>
    have hunreadable := congrArg (· ++ unreadable) hprinted
    exact congrArg (Ending.mk 1) (hunreadable.trans (Printed.append_assoc _ _ _))

theorem endingFor_cons (c : Calculator) (text : String) (texts : List String) (complete : Bool) :
    endingFor c (text :: texts, complete)
      = (endingFor (answerLine c text).1 (texts, complete)).after (answerLine c text).2 := by
  have hprinted : printedFor c [text] = (answerLine c text).2 :=
    (printedFor_cons c text []).trans (Printed.append_empty _)
  rw [← hprinted]
  exact endingFor_append c [text] texts complete

namespace LineRun

/-- A byte that ends no line is kept for the line. -/
theorem takeAll_unended (r : LineRun) {b : UInt8} (h : b ≠ lineFeed) (rest : List UInt8) :
    r.takeAll (b :: rest) = takeAll { r with unended := b :: r.unended } rest := by
  rw [takeAll, take, if_neg h]
  exact congrArg (Ending.mk _) (Printed.empty_append _)

/-- **A line feed** has the line answered, and the next one starts with nothing. -/
theorem takeAll_lineFeed (r : LineRun) (rest : List UInt8) :
    r.takeAll (lineFeed :: rest) =
      match lineText? (r.unended.reverse ++ [lineFeed]) with
      | some text =>
        (takeAll { calculator := (answerLine r.calculator text).1 } rest).after
          (answerLine r.calculator text).2
      | none => { status := 1, printed := unreadable } := by
  rw [takeAll, take, if_pos rfl, answerBytes, List.reverse_cons]
  cases lineText? (r.unended.reverse ++ [lineFeed]) with
  | none => rfl
  | some text => rfl

/-- **The end of the input** has a line answered that lacks its line feed. -/
theorem takeEnd_unended (r : LineRun) (h : r.unended ≠ []) :
    r.takeEnd =
      match lineText? r.unended.reverse with
      | some text => { status := 0, printed := (answerLine r.calculator text).2 }
      | none => { status := 1, printed := unreadable } := by
  rw [takeEnd, if_neg h, answerBytes]
  cases lineText? r.unended.reverse with
  | none => rfl
  | some text => rfl

/-- **Taking bytes one by one** is cutting them into lines and reading those. What
has been taken of a line that has not ended belongs to the first of them. -/
theorem takeAll_eq (r : LineRun) (h : lineFeed ∉ r.unended) (input : List UInt8) :
    r.takeAll input
      = endingFor r.calculator (readTexts (splitLines (r.unended.reverse ++ input))) := by
  have hreverse : lineFeed ∉ r.unended.reverse := List.mem_reverse.not.mpr h
  induction input generalizing r with
  | nil =>
    rw [takeAll, List.append_nil]
    by_cases hempty : r.unended = []
    · rw [takeEnd, if_pos hempty, hempty]
      rfl
    · rw [takeEnd_unended r hempty, splitLines_last (List.reverse_ne_nil_iff.mpr hempty) hreverse,
        readTexts]
      cases lineText? r.unended.reverse with
      | none => exact (endingFor_unread _).symm
      | some text =>
        rw [readTexts, endingFor_cons]
        exact congrArg (Ending.mk 0) (Printed.append_empty _).symm
  | cons b rest ih =>
    by_cases hfeed : b = lineFeed
    · rw [hfeed, takeAll_lineFeed, splitLines_cons hreverse, readTexts]
      cases lineText? (r.unended.reverse ++ [lineFeed]) with
      | none => exact (endingFor_unread _).symm
      | some text =>
        rw [endingFor_cons, ← List.nil_append rest, ← List.reverse_nil]
        exact congrArg (Ending.after (answerLine r.calculator text).2)
          (ih { calculator := (answerLine r.calculator text).1 } List.not_mem_nil List.not_mem_nil)
    · have hunended : lineFeed ∉ b :: r.unended := by
        rw [List.mem_cons, not_or]
        exact ⟨Ne.symm hfeed, h⟩
      rw [takeAll_unended r hfeed, ih _ hunended (List.mem_reverse.not.mpr hunended),
        List.reverse_cons, List.append_assoc, List.singleton_append]

end LineRun

/-- A run answers what it can read, and complains of what it cannot. -/
theorem runLines_eq (c : Calculator) (input : List UInt8) :
    runLines c input = endingFor c (readTexts (splitLines input)) :=
  LineRun.takeAll_eq { calculator := c } List.not_mem_nil input

/-- **The program over lines**: without expressions among its arguments it runs
over its input. -/
theorem run?_lines {arguments : List String} {mode : Option String}
    (h : Request.ofArguments? arguments = some (.evaluate mode [])) (input : List UInt8) :
    run? arguments input = some (runLines (startingCalculator mode) input) := by
  rw [run?, h, Option.map_some]
  rfl

/-- **A run over lines and more** answers the lines, and goes on from there. -/
theorem runLines_terminated (c : Calculator) {lines : List String}
    (h : ∀ line ∈ lines, '\n' ∉ line.toList) (more : List UInt8) :
    runLines c (inputOf (terminated lines) ++ more)
      = { status := (runLines (afterLines c (lines.map dropReturn)) more).status
          printed := printedFor c (lines.map dropReturn)
            ++ (runLines (afterLines c (lines.map dropReturn)) more).printed } := by
  rw [runLines_eq, runLines_eq, readTexts_terminated h more]
  exact endingFor_append c (lines.map dropReturn) _ _

/-- The texts that a text is read as: its lines, and what follows them. -/
def textsRead (lines : List String) (rest : String) : List String :=
  lines.map dropReturn ++ if rest = "" then [] else [rest]

theorem readTexts_text {lines : List String} {rest : String}
    (hlines : ∀ line ∈ lines, '\n' ∉ line.toList) (hrest : '\n' ∉ rest.toList) :
    readTexts (splitLines (inputOf (terminated lines ++ rest))) = (textsRead lines rest, true) := by
  have hread := readTexts_terminated hlines (inputOf rest)
  rwa [← inputOf_append, readTexts_rest hrest] at hread

theorem runLines_text (c : Calculator) {lines : List String} {rest : String}
    (hlines : ∀ line ∈ lines, '\n' ∉ line.toList) (hrest : '\n' ∉ rest.toList) :
    runLines c (inputOf (terminated lines ++ rest))
      = { status := 0, printed := printedFor c (textsRead lines rest) } := by
  rw [runLines_eq, readTexts_text hlines hrest]
  rfl

/-- A run over whole lines. -/
theorem runLines_lines (c : Calculator) {lines : List String}
    (h : ∀ line ∈ lines, '\n' ∉ line.toList) :
    runLines c (inputOf (terminated lines))
      = { status := 0, printed := printedFor c (lines.map dropReturn) } := by
  have htext := @runLines_text c lines "" h List.not_mem_nil
  rwa [String.append_empty, textsRead, if_pos rfl, List.append_nil] at htext

/-- The texts that are read of a text. -/
def textsOf (text : String) : List String := (readTexts (splitLines (inputOf text))).1

theorem textsOf_eq {lines : List String} {rest : String}
    (hlines : ∀ line ∈ lines, '\n' ∉ line.toList) (hrest : '\n' ∉ rest.toList) :
    textsOf (terminated lines ++ rest) = textsRead lines rest := by
  rw [textsOf, readTexts_text hlines hrest]

theorem textsOf_empty : textsOf "" = [] := by
  rw [textsOf, inputOf_empty]
  rfl

/-- **What lines and more** are read as: the lines, less their carriage returns,
and then what the rest is read as. -/
theorem textsOf_terminated {lines : List String} (h : ∀ line ∈ lines, '\n' ∉ line.toList)
    (back : String) : textsOf (terminated lines ++ back) = lines.map dropReturn ++ textsOf back := by
  rw [textsOf, inputOf_append, readTexts_terminated h, textsOf]

theorem textsOf_append {front : String} (hfront : front = "" ∨ front.toList.getLast? = some '\n')
    (back : String) : textsOf (front ++ back) = textsOf front ++ textsOf back := by
  obtain ⟨lines, rfl, hlines⟩ := exists_terminated hfront
  have hwhole := textsOf_terminated hlines ""
  rw [String.append_empty, textsOf_empty, List.append_nil] at hwhole
  rw [textsOf_terminated hlines, hwhole]

/-- **A run over a text** answers all that is read of it, and does not fail. -/
theorem runLines_textsOf (c : Calculator) (text : String) :
    runLines c (inputOf text) = { status := 0, printed := printedFor c (textsOf text) } := by
  obtain ⟨lines, rest, rfl, hlines, hrest⟩ := exists_lines text
  rw [runLines_text c hlines hrest, textsOf_eq hlines hrest]

/-- **A run over a text** does not fail. -/
theorem runLines_status (c : Calculator) (text : String) :
    (runLines c (inputOf text)).status = 0 := by
  rw [runLines_textsOf]

/-- What holds of the lines as they are read, and of the rest, holds of every
text read. -/
theorem forall_textsRead {p : String → Prop} {lines : List String} {rest : String}
    (hlines : ∀ line ∈ lines, p (dropReturn line)) (hrest : p rest) :
    ∀ line ∈ textsRead lines rest, p line := by
  intro line hline
  rcases List.mem_append.mp hline with hline | hline
  · obtain ⟨written, hwritten, rfl⟩ := List.mem_map.mp hline
    exact hlines written hwritten
  · split at hline
    · exact absurd hline List.not_mem_nil
    · exact List.mem_singleton.mp hline ▸ hrest

theorem countP_textsRead (lines : List String) (rest : String) :
    (textsRead lines rest).countP (fun line => !isBlankLine line)
      = (lines ++ [rest]).countP fun line => !isBlankLine line := by
  have hblank : (fun line => !isBlankLine line) ∘ dropReturn = fun line => !isBlankLine line := by
    funext line
    rw [Function.comp_apply, isBlankLine_dropReturn]
  rw [textsRead, List.countP_append, List.countP_append, List.countP_map, hblank]
  split
  · next hempty => rw [hempty]; rfl
  · rfl

/-- **The request that stands after a text**: the last one made on its lines,
or the one before if there is none. -/
def requestAfter (requested text : String) : String :=
  ((linesOf text).filterMap modeRequest?).getLastD requested

/-- Requests made on lines, and then on what follows them. -/
theorem requestAfter_terminated (requested : String) {lines : List String}
    (h : ∀ line ∈ lines, '\n' ∉ line.toList) (back : String) :
    requestAfter requested (terminated lines ++ back)
      = requestAfter ((lines.filterMap modeRequest?).getLastD requested) back := by
  rw [requestAfter, linesOf_terminated h, List.filterMap_append, requestAfter]
  simp [List.getLastD_eq_getLast?]

theorem requestAfter_lines (requested : String) {lines : List String}
    (h : ∀ line ∈ lines, '\n' ∉ line.toList) :
    requestAfter requested (terminated lines)
      = (lines.filterMap modeRequest?).getLastD requested := by
  have happend := requestAfter_terminated requested h ""
  have hempty (stored : String) : requestAfter stored "" = stored := rfl
  rwa [String.append_empty, hempty] at happend

/-- Reading takes carriage returns off, and no request with them. -/
theorem afterLines_dropReturn (requested : String) {lines : List String}
    (h : ∀ line ∈ lines, '\n' ∉ line.toList) :
    afterLines { requested } (lines.map dropReturn)
      = { requested := requestAfter requested (terminated lines) } := by
  have hrequests : modeRequest? ∘ dropReturn = modeRequest? := by
    funext line
    rw [Function.comp_apply, modeRequest?_dropReturn]
  rw [afterLines_eq, requestAfter_lines requested h, List.filterMap_map, hrequests]

/-- **Lines that ask for no mode** are evaluated in the one that stands, the
blank lines apart. -/
theorem printedFor_of_none (c : Calculator) {lines : List String}
    (h : ∀ line ∈ lines, modeRequest? line = none) :
    printedFor c lines = printedOf c (lines.filter fun line => !isBlankLine line) := by
  induction lines with
  | nil => rfl
  | cons line rest ih =>
    rw [List.forall_mem_cons] at h
    rcases hblank : isBlankLine line with _ | _
    · rw [printedFor_cons, answerLine_of_expression c hblank h.1, ih h.2,
        List.filter_cons_of_pos (by rw [hblank]; rfl), printedOf, printedOf, List.map_cons,
        Printed.all_cons]
    · rw [printedFor_cons, answerLine_of_isBlankLine c hblank, ih h.2,
        List.filter_cons_of_neg (by rw [hblank]; decide), Printed.empty_append]

/-- Where the mode asked for is refused, every evaluation fails by that. -/
theorem evaluate_refused {c : Calculator} {e : EvalError} (hmode : c.mode = .error e)
    (entry : String) : c.evaluate entry = .error e := by
  rw [Calculator.evaluate, hmode]
  rfl

/-- Where the mode asked for is refused, every expression is answered by that. -/
theorem printedFor_refused {c : Calculator} {e : EvalError} (hmode : c.mode = .error e)
    {lines : List String} (h : ∀ line ∈ lines, modeRequest? line = none) :
    printedFor c lines = Printed.all
      (List.replicate (lines.countP fun line => !isBlankLine line) (.ofOutcome (.error e))) := by
  simp only [printedFor_of_none c h, printedOf, evaluate_refused hmode, List.map_const',
    List.countP_eq_length_filter]

/-- A text without requests leaves the one that stood before. -/
theorem requestAfter_of_none (requested : String) {text : String}
    (h : ∀ line ∈ linesOf text, modeRequest? line = none) :
    requestAfter requested text = requested := by
  rw [requestAfter, List.filterMap_eq_nil_iff.mpr h, List.getLastD_nil]

/-- **Only the mode is carried from line to line.** A run over whole lines and
what follows them writes what the run over the lines writes, and then what the
run over the rest writes from the mode that the lines leave. That is the last
one asked for on them, whether there is such a mode or not; a text that asks for
none leaves it as it is. While it is no name of a mode, every evaluation fails
by that, and so does every line that is not blank, up to the next request. -/
theorem runLines_append (requested : String) {front : String}
    (hfront : front = "" ∨ front.toList.getLast? = some '\n') (back : String) :
    runLines { requested } (inputOf (front ++ back))
        = { status := 0
            printed := (runLines { requested } (inputOf front)).printed
              ++ (runLines { requested := requestAfter requested front } (inputOf back)).printed } ∧
      ((requestAfter requested front).toLower ≠ "prefix" →
        (requestAfter requested front).toLower ≠ "infix" →
        ∀ entry, ({ requested := requestAfter requested front } : Calculator).evaluate entry
          = .error (.unsupportedMode (requestAfter requested front))) ∧
      ((∀ line ∈ linesOf back, modeRequest? line = none) →
        requestAfter requested (front ++ back) = requestAfter requested front ∧
          ((requestAfter requested front).toLower ≠ "prefix" →
            (requestAfter requested front).toLower ≠ "infix" →
            (runLines { requested := requestAfter requested front } (inputOf back)).printed
              = Printed.all (List.replicate ((linesOf back).countP fun line => !isBlankLine line)
                  (.ofOutcome (.error (.unsupportedMode (requestAfter requested front))))))) := by
  have hmode (hpolish : (requestAfter requested front).toLower ≠ "prefix")
      (hparenthesised : (requestAfter requested front).toLower ≠ "infix") :
      ({ requested := requestAfter requested front } : Calculator).mode
        = .error (.unsupportedMode (requestAfter requested front)) :=
    Mode.ofRequest_eq_error_iff.mpr ⟨rfl, hpolish, hparenthesised⟩
  obtain ⟨lines, rfl, hlines⟩ := exists_terminated hfront
  refine ⟨?_, fun hpolish hparenthesised => evaluate_refused (hmode hpolish hparenthesised), ?_⟩
  · have hwhole := runLines_terminated { requested } hlines (inputOf back)
    rw [← inputOf_append, afterLines_dropReturn requested hlines, runLines_status] at hwhole
    rw [hwhole, runLines_lines _ hlines]
  intro hnone
  constructor
  · rw [requestAfter_terminated requested hlines, ← requestAfter_lines requested hlines,
      requestAfter_of_none _ hnone]
  · intro hpolish hparenthesised
    have hrefused := hmode hpolish hparenthesised
    obtain ⟨others, rest, rfl, hothers, hrest⟩ := exists_lines back
    rw [linesOf_terminated hothers, linesOf_eq_singleton hrest] at hnone ⊢
    have hread : ∀ line ∈ textsRead others rest, modeRequest? line = none := by
      apply forall_textsRead
      · intro line hline
        rw [modeRequest?_dropReturn]
        exact hnone line (List.mem_append_left _ hline)
      · exact hnone rest (List.mem_append_right _ List.mem_cons_self)
    rw [runLines_text _ hothers hrest, printedFor_refused hrefused hread, countP_textsRead]

/-- A mode that does not exist, asked for and refused, and what comes of the
same expression before and after. -/
theorem runLines_append_refused :
    let front := "+ 1 2\n  :mode  postfix \r\n\n"
    let back := "+ 1 2\r\n \n( 1 + 2 )"
    let refusal := "mode inattendu 'postfix' : choisir prefix ou infix avant d’évaluer"
    requestAfter "prefix" front = "postfix" ∧
      ({ requested := "postfix" } : Calculator).evaluate "+ 1 2"
        = .error (.unsupportedMode "postfix") ∧
      runLines { requested := "prefix" } (inputOf (front ++ back)) = {
        status := 0
        printed := {
          out := "3\n" ++ "mode : postfix (" ++ refusal ++ ")\n"
          err := "erreur : " ++ refusal ++ "\n" ++ "erreur : " ++ refusal ++ "\n" } } := by
  intro front back refusal
  have hrequest : requestAfter "prefix" front = "postfix" := by decide +kernel
  have hlast : front.toList.getLast? = some '\n' := by decide
  obtain ⟨hwhole, hevaluate, hlines⟩ := runLines_append "prefix" (.inr hlast) back
  obtain ⟨-, hback⟩ := hlines (by decide +kernel)
  rw [hrequest] at hwhole hevaluate hback
  have hprinted : (runLines { requested := "prefix" } (inputOf front)).printed
      = { out := "3\n" ++ "mode : postfix (" ++ refusal ++ ")\n" } := by decide +kernel
  rw [hwhole, hprinted, hback (by decide +kernel) (by decide +kernel)]
  exact ⟨hrequest, hevaluate (by decide +kernel) (by decide +kernel) "+ 1 2", by decide +kernel⟩

end StackCalculator.Terminal
