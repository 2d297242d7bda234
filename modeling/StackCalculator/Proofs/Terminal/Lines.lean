/-
Texts on the standard input.

The program takes bytes, and decodes a line when it has come to the end of it.
Told at once, it cuts the input into lines (`splitLines`) and decodes each
(`readTexts`). For the bytes of a text nothing is lost by that order. In UTF-8
the byte of a line feed occurs in no other character, so the bytes are cut where
the text has its line feeds, and what lies between two cuts is the encoding of a
line.

Every text is a number of lines, each ended by a line feed, and a rest without
one. Reading takes these lines off one by one, whatever bytes follow
(`readTexts_terminated`). The text of each is the line, less a carriage return
at its end; the rest, if there is one, is taken as it stands.
-/
import StackCalculator.Terminal.Lines

set_option autoImplicit false

namespace StackCalculator.Terminal

/-! ## Lines of bytes -/

/-- **The lines of an input**, each with its line feed. -/
def splitLines : List UInt8 → List (List UInt8)
  | [] => []
  | b :: rest =>
    if b = lineFeed then [b] :: splitLines rest
    else match splitLines rest with
      | [] => [[b]]
      | line :: others => (b :: line) :: others

/-- **The texts of lines** up to the first that is not valid UTF-8, and whether
all were valid. -/
def readTexts : List (List UInt8) → List String × Bool
  | [] => ([], true)
  | line :: rest =>
    match lineText? line with
    | none => ([], false)
    | some text =>
      let (texts, complete) := readTexts rest
      (text :: texts, complete)

/-! ## The bytes of a text -/

/-- **The standard input** that a text makes up. -/
def inputOf (text : String) : List UInt8 := text.toUTF8.data.toList

theorem inputOf_eq_flatMap (text : String) :
    inputOf text = text.toList.flatMap String.utf8EncodeChar := by
  rw [inputOf, String.toUTF8_eq_toByteArray, ← String.ofList_toList (s := text),
    String.toByteArray_ofList, List.utf8Encode, List.toList_data_toByteArray,
    String.toList_ofList]

@[simp] theorem inputOf_empty : inputOf "" = [] := by
  rw [inputOf_eq_flatMap]
  rfl

@[simp] theorem inputOf_append (front back : String) :
    inputOf (front ++ back) = inputOf front ++ inputOf back := by
  rw [inputOf_eq_flatMap, inputOf_eq_flatMap, inputOf_eq_flatMap, String.toList_append,
    List.flatMap_append]

theorem inputOf_lineFeed : inputOf "\n" = [lineFeed] := by
  rw [inputOf_eq_flatMap]
  decide

/-- A byte of an encoding is the code point by itself, or 128 or above. -/
theorem le_toNat_of_mem_utf8EncodeChar {c : Char} {b : UInt8}
    (h : b ∈ String.utf8EncodeChar c) : b.toNat = c.toNat ∨ 128 ≤ b.toNat := by
  have hbyte (n : Nat) : (UInt8.ofNat n).toNat = n % 256 := UInt8.toNat_ofNat'
  unfold String.utf8EncodeChar at h
  simp only at h
  split at h
  · next hsmall =>
    rw [List.mem_singleton.mp h, hbyte]
    exact .inl (Nat.mod_eq_of_lt (by omega))
  -- longer encodings start at 192 or above and go on at 128 or above
  refine .inr ?_
  split at h
  · simp only [List.mem_cons, List.not_mem_nil, or_false] at h
    rcases h with rfl | rfl
    all_goals rw [hbyte]; omega
  split at h
  · simp only [List.mem_cons, List.not_mem_nil, or_false] at h
    rcases h with rfl | rfl | rfl
    all_goals rw [hbyte]; omega
  · simp only [List.mem_cons, List.not_mem_nil, or_false] at h
    rcases h with rfl | rfl | rfl | rfl
    all_goals rw [hbyte]; omega

/-- **The byte of a line feed** occurs where there is a line feed. -/
theorem lineFeed_not_mem_inputOf {text : String} (h : '\n' ∉ text.toList) :
    lineFeed ∉ inputOf text := by
  rw [inputOf_eq_flatMap, List.mem_flatMap]
  rintro ⟨c, hc, hbyte⟩
  rcases le_toNat_of_mem_utf8EncodeChar hbyte with hcode | hlarge
  · have hfeed : c = '\n' := Char.ext (UInt32.toNat_inj.mp hcode.symm)
    exact h (hfeed ▸ hc)
  · exact absurd hlarge (by decide)

/-! ## Cutting bytes into lines -/

theorem splitLines_cons {line : List UInt8} (h : lineFeed ∉ line) (rest : List UInt8) :
    splitLines (line ++ lineFeed :: rest) = (line ++ [lineFeed]) :: splitLines rest := by
  induction line with
  | nil => rw [List.nil_append, splitLines, if_pos rfl, List.nil_append]
  | cons b others ih =>
    rw [List.mem_cons, not_or] at h
    rw [List.cons_append, splitLines, if_neg (Ne.symm h.1), ih h.2]
    rfl

theorem splitLines_last {line : List UInt8} (hne : line ≠ []) (h : lineFeed ∉ line) :
    splitLines line = [line] := by
  induction line with
  | nil => exact absurd rfl hne
  | cons b others ih =>
    rw [List.mem_cons, not_or] at h
    rw [splitLines, if_neg (Ne.symm h.1)]
    cases others with
    | nil => rfl
    | cons b' others => rw [ih (List.cons_ne_nil b' others) h.2]

/-! ## The end of a line -/

theorem dropLineEnd_return (cs : List Char) : dropLineEnd (cs ++ ['\r', '\n']) = cs := by
  simp [dropLineEnd]

theorem dropLineEnd_lineFeed {cs : List Char} (h : cs.getLast? ≠ some '\r') :
    dropLineEnd (cs ++ ['\n']) = cs := by
  rw [← List.head?_reverse] at h
  rw [dropLineEnd, List.reverse_append]
  cases hreverse : cs.reverse with
  | nil => simpa using hreverse.symm
  | cons c rest =>
    have hc : c ≠ '\r' := fun hc => h (by rw [hreverse, hc]; rfl)
    have hcs : (c :: rest).reverse = cs := by rw [← hreverse, List.reverse_reverse]
    simp [hc, hcs]

theorem dropLineEnd_of_not_mem {cs : List Char} (h : '\n' ∉ cs) : dropLineEnd cs = cs := by
  rw [← List.mem_reverse] at h
  rw [dropLineEnd]
  cases hreverse : cs.reverse with
  | nil => rfl
  | cons c rest =>
    have hc : c ≠ '\n' := fun hc => h (by rw [hreverse, hc]; exact List.mem_cons_self)
    simp [hc]

/-- A line as it is read: less a carriage return at its end. -/
def dropReturn (line : String) : String := String.ofList (dropLineEnd (line.toList ++ ['\n']))

theorem dropReturn_of_getLast? {line : String} (h : line.toList.getLast? ≠ some '\r') :
    dropReturn line = line := by
  rw [dropReturn, dropLineEnd_lineFeed h, String.ofList_toList]

/-- **What is dropped** from a line is nothing, or a carriage return. -/
theorem eq_dropReturn_or (line : String) :
    dropReturn line = line ∨ line.toList = (dropReturn line).toList ++ ['\r'] := by
  by_cases h : line.toList.getLast? = some '\r'
  · obtain ⟨front, hfront⟩ := List.getLast?_eq_some_iff.mp h
    refine .inr ?_
    rw [dropReturn, hfront, List.append_assoc, List.singleton_append, dropLineEnd_return,
      String.toList_ofList]
  · exact .inl (dropReturn_of_getLast? h)

/-! ## Lines of a text -/

/-- Lines, each ended by a line feed. -/
def terminated (lines : List String) : String := String.join (lines.map (· ++ "\n"))

@[simp] theorem terminated_nil : terminated [] = "" := rfl

@[simp] theorem terminated_cons (line : String) (rest : List String) :
    terminated (line :: rest) = line ++ "\n" ++ terminated rest := by
  rw [terminated, List.map_cons, String.join_cons, terminated]

/-- **The lines of a text**: what stands between its line feeds. -/
def linesOf (text : String) : List String := (text.toList.splitOn '\n').map String.ofList

theorem linesOf_terminated {lines : List String} (h : ∀ line ∈ lines, '\n' ∉ line.toList)
    (rest : String) : linesOf (terminated lines ++ rest) = lines ++ linesOf rest := by
  induction lines with
  | nil => simp
  | cons line others ih =>
    rw [List.forall_mem_cons] at h
    have htext : (terminated (line :: others) ++ rest).toList
        = line.toList ++ '\n' :: (terminated others ++ rest).toList := by
      simp
    rw [linesOf, htext, List.splitOn_append_cons_self, List.splitOn_eq_singleton h.1,
      List.map_append, List.map_singleton, String.ofList_toList, ← linesOf, ih h.2]
    rfl

theorem linesOf_eq_singleton {text : String} (h : '\n' ∉ text.toList) : linesOf text = [text] := by
  rw [linesOf, List.splitOn_eq_singleton h, List.map_singleton, String.ofList_toList]

/-- **Every text** is a number of lines, each ended by a line feed, and a rest
without one. -/
theorem exists_lines (text : String) :
    ∃ lines rest, text = terminated lines ++ rest ∧ (∀ line ∈ lines, '\n' ∉ line.toList) ∧
      '\n' ∉ rest.toList := by
  induction hcs : text.toList generalizing text with
  | nil => exact ⟨[], text, by simp, by simp, by simp [hcs]⟩
  | cons c cs ih =>
    obtain ⟨lines, rest, htext, hlines, hrest⟩ := ih (String.ofList cs) String.toList_ofList
    have hlist : text.toList = c :: (terminated lines ++ rest).toList := by
      rw [hcs, ← htext, String.toList_ofList]
    by_cases hc : c = '\n'
    · refine ⟨"" :: lines, rest, String.toList_inj.mp ?_, ?_, hrest⟩
      · rw [hlist, hc]
        simp
      · exact List.forall_mem_cons.mpr ⟨by simp, hlines⟩
    -- any other character stands at the front of the first line, or of the rest
    cases lines with
    | nil =>
      refine ⟨[], String.ofList (c :: rest.toList), String.toList_inj.mp ?_, hlines, ?_⟩
      · rw [hlist]
        simp
      · simpa [Ne.symm hc] using hrest
    | cons line others =>
      rw [List.forall_mem_cons] at hlines
      refine ⟨String.ofList (c :: line.toList) :: others, rest, String.toList_inj.mp ?_, ?_, hrest⟩
      · rw [hlist]
        simp
      · exact List.forall_mem_cons.mpr ⟨by simpa [Ne.symm hc] using hlines.1, hlines.2⟩

/-- A text that ends in a line feed, or is empty, is whole lines. -/
theorem exists_terminated {text : String} (h : text = "" ∨ text.toList.getLast? = some '\n') :
    ∃ lines, text = terminated lines ∧ ∀ line ∈ lines, '\n' ∉ line.toList := by
  obtain ⟨lines, rest, rfl, hlines, hrest⟩ := exists_lines text
  have hempty : rest.toList = [] := by
    rw [← String.toList_eq_nil_iff, String.toList_append] at h
    rcases h with hnil | hlast
    · exact (List.append_eq_nil_iff.mp hnil).2
    · -- the last character of a rest that is not empty would be the line feed
      refine Decidable.byContradiction fun hne => hrest ?_
      rw [List.getLast?_append, List.getLast?_eq_some_getLast hne, Option.some_or,
        Option.some_inj] at hlast
      exact hlast ▸ List.getLast_mem hne
  exact ⟨lines, by rw [String.toList_eq_nil_iff.mp hempty, String.append_empty], hlines⟩

/-! ## Reading lines -/

/-- The bytes of a text are decoded to that text. -/
theorem lineText?_inputOf (text : String) :
    lineText? (inputOf text) = some (String.ofList (dropLineEnd text.toList)) := by
  have hbytes : (inputOf text).toByteArray = text.toByteArray := by
    apply ByteArray.ext
    rw [List.data_toByteArray, inputOf, String.toUTF8_eq_toByteArray]
  have hvalid : String.fromUTF8? text.toByteArray = some text := dif_pos text.isValidUTF8
  rw [lineText?, hbytes, hvalid, Option.map_some]

/-- **Reading takes the lines of a text off one by one**, whatever follows. -/
theorem readTexts_terminated {lines : List String} (h : ∀ line ∈ lines, '\n' ∉ line.toList)
    (rest : List UInt8) :
    readTexts (splitLines (inputOf (terminated lines) ++ rest))
      = (lines.map dropReturn ++ (readTexts (splitLines rest)).1,
          (readTexts (splitLines rest)).2) := by
  induction lines with
  | nil => simp
  | cons line others ih =>
    rw [List.forall_mem_cons] at h
    have hinput : inputOf (terminated (line :: others)) ++ rest
        = inputOf line ++ lineFeed :: (inputOf (terminated others) ++ rest) := by
      simp [inputOf_lineFeed]
    have hline : inputOf line ++ [lineFeed] = inputOf (line ++ "\n") := by
      rw [inputOf_append, inputOf_lineFeed]
    rw [hinput, splitLines_cons (lineFeed_not_mem_inputOf h.1), hline, readTexts,
      lineText?_inputOf, ih h.2, String.toList_append]
    rfl

/-- What has no line feed is read as one line, unless it is empty. -/
theorem readTexts_rest {rest : String} (h : '\n' ∉ rest.toList) :
    readTexts (splitLines (inputOf rest)) = (if rest = "" then [] else [rest], true) := by
  by_cases hempty : rest = ""
  · rw [if_pos hempty, hempty, inputOf_empty]
    rfl
  · have hne : inputOf rest ≠ [] := by
      intro hinput
      have htext := lineText?_inputOf rest
      rw [hinput, ← inputOf_empty, lineText?_inputOf, dropLineEnd_of_not_mem h,
        String.ofList_toList, Option.some_inj] at htext
      exact hempty htext.symm
    rw [if_neg hempty, splitLines_last hne (lineFeed_not_mem_inputOf h), readTexts,
      lineText?_inputOf, dropLineEnd_of_not_mem h, String.ofList_toList]
    rfl

end StackCalculator.Terminal
