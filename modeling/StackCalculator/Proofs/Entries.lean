/-
Cutting an entry and bursting its pieces.

Cutting at spaces turns the joining of two texts by a space into the joining of
their lists of pieces, so a text that is put together with single spaces is cut
into what it was put together from. Bursting is the identity on every piece
that holds something besides parentheses, and on a parenthesis by itself.
-/
import StackCalculator.Pieces

set_option autoImplicit false

namespace StackCalculator.Pieces

/-! ## Cutting -/

/-- **Cutting two texts with a space between them** cuts each of the two. -/
theorem split_append (first second : String) :
    split (first ++ " " ++ second) = split first ++ split second := by
  have hlist : (first ++ " " ++ second).toList = first.toList ++ ' ' :: second.toList := by
    simp
  rw [split, hlist, List.splitOn_append_cons_self, List.map_append]
  rfl

theorem split_eq_singleton {piece : String} (h : ' ' ∉ piece.toList) :
    split piece = [piece] := by
  rw [split, List.splitOn_eq_singleton h, List.map_singleton, String.ofList_toList]

/-- **Joining the pieces of an entry** gives it back. -/
theorem join_split (entry : String) : join (split entry) = entry := by
  apply String.toList_inj.mp
  have hpieces : (split entry).map String.toList = entry.toList.splitOn ' ' := by
    have hlist : String.toList ∘ String.ofList = id := funext fun cs => String.toList_ofList
    rw [split, List.map_map, hlist, List.map_id]
  have hspace : " ".toList = [' '] := rfl
  rw [join, String.toList_intercalate, hpieces, hspace, List.intercalate_splitOn]

/-- **The pieces are one more** than the spaces. -/
theorem length_split (entry : String) :
    (split entry).length = entry.toList.count ' ' + 1 := by
  rw [split, List.length_map]
  induction entry.toList with
  | nil => rfl
  | cons c rest ih =>
    rw [List.splitOn_cons_eq_if_modifyHead]
    by_cases hc : c = ' '
    · rw [if_pos (beq_iff_eq.mpr hc), List.length_cons, ih, hc, List.count_cons_self]
    · rw [if_neg (mt beq_iff_eq.mp hc), List.length_modifyHead, ih, List.count_cons_of_ne hc]

/-- **No piece holds a space.** -/
theorem not_mem_of_mem_split {entry piece : String} (h : piece ∈ split entry) :
    ' ' ∉ piece.toList := by
  rw [split, List.mem_map] at h
  obtain ⟨cs, hcs, rfl⟩ := h
  rw [String.toList_ofList]
  generalize entry.toList = text at hcs
  induction text generalizing cs with
  | nil =>
    rw [List.splitOn_nil, List.mem_singleton] at hcs
    rw [hcs]
    exact List.not_mem_nil
  | cons c rest ih =>
    rw [List.splitOn_cons_eq_if_modifyHead] at hcs
    by_cases hc : c = ' '
    · rw [if_pos (beq_iff_eq.mpr hc)] at hcs
      rcases List.mem_cons.mp hcs with rfl | hcs
      · exact List.not_mem_nil
      · exact ih cs hcs
    · -- any other character goes to the front of the first piece
      rw [if_neg (mt beq_iff_eq.mp hc)] at hcs
      obtain ⟨first, others, hrest⟩ := List.exists_cons_of_ne_nil (List.splitOn_ne_nil ' ' rest)
      rw [hrest, List.modifyHead_cons, List.mem_cons] at hcs
      rcases hcs with rfl | hcs
      · rw [List.mem_cons, not_or]
        exact ⟨Ne.symm hc, ih first (hrest ▸ List.mem_cons_self)⟩
      · exact ih cs (hrest ▸ List.mem_cons_of_mem first hcs)

/-- **Cutting what was joined** gives the pieces back, if there are any and none
of them holds a space. -/
theorem split_join {pieces : List String} (hne : pieces ≠ [])
    (h : ∀ piece ∈ pieces, ' ' ∉ piece.toList) : split (join pieces) = pieces := by
  have hjoin : (join pieces).toList = [' '].intercalate (pieces.map String.toList) :=
    String.toList_intercalate
  have hcut : ([' '].intercalate (pieces.map String.toList)).splitOn ' '
      = pieces.map String.toList := by
    apply List.splitOn_intercalate
    · exact List.forall_mem_map.mpr h
    · exact mt List.map_eq_nil_iff.mp hne
  have hstring : String.ofList ∘ String.toList = id := funext fun s => String.ofList_toList
  rw [split, hjoin, hcut, List.map_map, hstring, List.map_id]

/-! ## Bursting -/

/-- A piece with a character that is no parenthesis stays whole. -/
theorem burst_eq_singleton {piece : String} {c : Char} (hc : c ∈ piece.toList)
    (hparen : isParenthesis c = false) : burst piece = [piece] := by
  have hall : ¬ piece.toList.all isParenthesis = true := by
    intro h
    rw [List.all_eq_true.mp h c hc] at hparen
    exact Bool.false_ne_true hparen.symm
  rw [burst, if_neg (fun h => hall h.2)]

end StackCalculator.Pieces
