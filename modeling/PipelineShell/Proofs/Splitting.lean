import Mathlib.Data.List.TakeWhile

/-!
# Lists cut at a separator

What `splitOn` and `intercalate` owe to each other beyond being inverse: no piece of a
cut list holds the separator, the last item ends the last piece, and joining pieces in two
parts joins the parts.
-/

namespace PipelineShell

variable {α : Type} [BEq α] [LawfulBEq α]

theorem not_mem_of_mem_splitOn {separator : α} {items piece : List α}
    (hpiece : piece ∈ items.splitOn separator) : separator ∉ piece := by
  induction items generalizing piece with
  | nil => simp_all
  | cons item items ih =>
      rw [List.splitOn_cons_eq_if_modifyHead] at hpiece
      obtain ⟨first, rest, hsplit⟩ := List.exists_cons_of_ne_nil
        (List.splitOn_ne_nil separator items)
      by_cases hitem : item = separator
      · rw [if_pos (by simpa using hitem), List.mem_cons] at hpiece
        rcases hpiece with rfl | hmem
        · exact List.not_mem_nil
        · exact ih hmem
      · rw [if_neg (by simpa using hitem), hsplit, List.modifyHead_cons, List.mem_cons] at hpiece
        rcases hpiece with rfl | hmem
        · rw [List.mem_cons, not_or]
          exact ⟨Ne.symm hitem, ih (by simp [hsplit])⟩
        · exact ih (by simp [hsplit, hmem])

/-- The last item is the last one of the last piece. -/
theorem splitOn_concat (separator : α) (items : List α) :
    ∃ front piece, ∀ last, last ≠ separator →
      (items ++ [last]).splitOn separator = front ++ [piece ++ [last]] := by
  induction items with
  | nil =>
      refine ⟨[], [], fun last hlast => ?_⟩
      simp [List.splitOn_cons_eq_if_modifyHead, hlast]
  | cons item items ih =>
      obtain ⟨front, piece, hsplit⟩ := ih
      by_cases hitem : item = separator
      · refine ⟨[] :: front, piece, fun last hlast => ?_⟩
        simp [List.splitOn_cons_eq_if_modifyHead, hitem, hsplit last hlast]
      · cases front with
        | nil =>
            refine ⟨[], item :: piece, fun last hlast => ?_⟩
            simp [List.splitOn_cons_eq_if_modifyHead, hitem, hsplit last hlast]
        | cons first front =>
            refine ⟨(item :: first) :: front, piece, fun last hlast => ?_⟩
            simp [List.splitOn_cons_eq_if_modifyHead, hitem, hsplit last hlast]

omit [BEq α] [LawfulBEq α] in
theorem intercalate_append (separator : List α) {front rest : List (List α)} (hfront : front ≠ [])
    (hrest : rest ≠ []) : separator.intercalate (front ++ rest) =
      separator.intercalate front ++ separator ++ separator.intercalate rest := by
  induction front with
  | nil => exact absurd rfl hfront
  | cons piece front ih =>
      cases front with
      | nil =>
          obtain ⟨next, rest, rfl⟩ := List.exists_cons_of_ne_nil hrest
          rw [List.singleton_append, List.intercalate_cons_cons, List.intercalate_singleton]
      | cons next front =>
          have hnext := ih (List.cons_ne_nil next front)
          rw [List.cons_append, List.cons_append, List.intercalate_cons_cons, ← List.cons_append,
            hnext, List.intercalate_cons_cons]
          simp only [List.append_assoc]

omit [BEq α] [LawfulBEq α] in
/-- Empty pieces are joined to separators only. -/
theorem mem_of_mem_intercalate {separator : List α} {pieces : List (List α)}
    (hpieces : ∀ piece ∈ pieces, piece = []) {item : α}
    (hitem : item ∈ separator.intercalate pieces) : item ∈ separator := by
  induction pieces with
  | nil => nomatch hitem
  | cons piece pieces ih =>
      obtain ⟨rfl, hrest⟩ := List.forall_mem_cons.1 hpieces
      cases pieces with
      | nil => nomatch hitem
      | cons next pieces =>
          rw [List.intercalate_cons_cons, List.nil_append] at hitem
          rcases List.mem_append.1 hitem with hseparator | hmem
          · exact hseparator
          · exact ih hrest hmem

end PipelineShell
