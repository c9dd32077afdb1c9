import Mathlib.Data.List.Basic

/-!
# Texts and their separators

A text is taken apart at a character, and joined with that character between the pieces. **Each
undoes the other** (`intercalate_splitOn_toList`, `splitOn_toList_intercalate`), as long as no piece
that is joined holds the separator; and no piece of a text does (`not_mem_of_mem_splitOn`).
-/

namespace JavaDeps

/-- No piece holds the separator. -/
theorem not_mem_of_mem_splitOn {sep : Char} {l piece : List Char} (h : piece ∈ l.splitOn sep) :
    sep ∉ piece := by
  induction l generalizing piece with
  | nil =>
    rw [List.splitOn_nil, List.mem_singleton] at h
    rw [h]
    exact List.not_mem_nil
  | cons c l ih =>
    obtain ⟨head, body, hsplit⟩ := List.exists_cons_of_ne_nil (List.splitOn_ne_nil sep l)
    rw [List.splitOn_cons_eq_if_modifyHead, hsplit, List.modifyHead_cons] at h
    rw [hsplit] at ih
    split at h
    · rcases List.mem_cons.1 h with rfl | h
      · exact List.not_mem_nil
      · exact ih h
    · next hc =>
      rcases List.mem_cons.1 h with rfl | h
      · rw [List.mem_cons, not_or]
        exact ⟨fun heq ↦ hc (by rw [heq, beq_self_eq_true]), ih List.mem_cons_self⟩
      · exact ih (List.mem_cons_of_mem _ h)

section

variable {sep : Char} {separator : String} (hsep : separator.toList = [sep])

include hsep

/-- **The pieces of a text, joined, are the text.** -/
theorem intercalate_splitOn_toList (s : String) :
    separator.intercalate ((s.toList.splitOn sep).map String.ofList) = s := by
  have hpieces : ((s.toList.splitOn sep).map String.ofList).map String.toList =
      s.toList.splitOn sep := by
    rw [List.map_map]
    exact List.map_id'' (fun _ ↦ String.toList_ofList) _
  rw [← String.toList_inj, String.toList_intercalate, hsep, hpieces, List.intercalate_splitOn]

/-- **The pieces of a joined text are those that it was joined from.** -/
theorem splitOn_toList_intercalate {pieces : List String} (hpieces : pieces ≠ [])
    (h : ∀ s ∈ pieces, sep ∉ s.toList) :
    (separator.intercalate pieces).toList.splitOn sep = pieces.map String.toList := by
  rw [String.toList_intercalate, hsep, List.splitOn_intercalate sep (List.forall_mem_map.2 h)
    (mt List.map_eq_nil_iff.1 hpieces)]

end

end JavaDeps
