import JavaDeps.Json.Value
import JavaDeps.Text.Lines
import Mathlib.Tactic.IntervalCases

/-!
# Written values are lines

Whatever a value holds, **its text has no control character**, so no line ends inside it. Written
values with line ends between them are the lines that were written.
-/

namespace JavaDeps

namespace Json

/-! ### No control characters -/

theorem printable_of_all {cs : List Char} (h : cs.all (fun c ↦ 0x20 ≤ c.toNat) = true) :
    ∀ c ∈ cs, 0x20 ≤ c.toNat := by
  simpa using h

theorem printable_escapeChar_of_control {n : Nat} (hn : n < 0x20) :
    ∀ c ∈ escapeChar (Char.ofNat n), 0x20 ≤ c.toNat := by
  refine printable_of_all ?_
  interval_cases n <;> decide

/-- No character is left a control character by escaping. -/
theorem printable_escapeChar (c : Char) : ∀ d ∈ escapeChar c, 0x20 ≤ d.toNat := by
  by_cases hcontrol : c.toNat < 0x20
  · rw [← Char.ofNat_toNat c]
    exact printable_escapeChar_of_control hcontrol
  · rw [escapeChar]
    split
    · exact printable_of_all (by decide)
    · split
      · exact printable_of_all (by decide)
      · rw [List.forall_mem_singleton]
        exact Nat.le_of_not_lt hcontrol

/-- A quoted text has no control characters in it. -/
theorem printable_quoted (s : String) : ∀ c ∈ quoted s, 0x20 ≤ c.toNat := by
  intro c hc
  rw [quoted, List.cons_append, List.mem_cons, List.mem_append, List.mem_flatMap,
    List.mem_singleton] at hc
  rcases hc with rfl | ⟨d, -, hd⟩ | rfl
  · decide
  · exact printable_escapeChar d c hd
  · decide

theorem printable_of_isDigit {c : Char} (h : c.isDigit = true) : 0x20 ≤ c.toNat := by
  rw [Char.isDigit, Bool.and_eq_true, decide_eq_true_iff] at h
  exact Nat.le_trans (by decide) (show '0'.toNat ≤ c.toNat from h.1)

mutual

/-- **A written value has no control character.** -/
theorem printable_chars (v : Value) : ∀ c ∈ v.chars, 0x20 ≤ c.toNat := by
  cases v with
  | null => exact printable_of_all (by decide)
  | bool b =>
    refine printable_of_all ?_
    cases b <;> decide
  | nat n =>
    exact fun c hc ↦ printable_of_isDigit (Nat.isDigit_of_mem_toDigits (by decide) (by decide) hc)
  | string s => exact printable_quoted s
  | array items =>
    intro c hc
    rw [Value.chars, List.cons_append, List.mem_cons, List.mem_append, List.mem_singleton] at hc
    rcases hc with rfl | hc | rfl
    · decide
    · exact printable_itemChars items c hc
    · decide
  | object fields =>
    intro c hc
    rw [Value.chars, List.cons_append, List.mem_cons, List.mem_append, List.mem_singleton] at hc
    rcases hc with rfl | hc | rfl
    · decide
    · exact printable_fieldChars fields c hc
    · decide

/-- The items of an array are written without control characters. -/
theorem printable_itemChars (items : List Value) : ∀ c ∈ itemChars items, 0x20 ≤ c.toNat := by
  match items with
  | [] => exact fun c hc ↦ absurd hc List.not_mem_nil
  | [v] => exact printable_chars v
  | v :: w :: items =>
    intro c hc
    rw [itemChars, List.mem_append, List.mem_cons] at hc
    · rcases hc with hc | rfl | hc
      · exact printable_chars v c hc
      · decide
      · exact printable_itemChars (w :: items) c hc
    · simp

/-- The fields of an object are written without control characters. -/
theorem printable_fieldChars (fields : List (String × Value)) :
    ∀ c ∈ fieldChars fields, 0x20 ≤ c.toNat := by
  match fields with
  | [] => exact fun c hc ↦ absurd hc List.not_mem_nil
  | [(k, v)] =>
    intro c hc
    rw [fieldChars, List.mem_append, List.mem_cons] at hc
    rcases hc with hc | rfl | hc
    · exact printable_quoted k c hc
    · decide
    · exact printable_chars v c hc
  | (k, v) :: f :: fields =>
    intro c hc
    rw [fieldChars, List.append_assoc, List.cons_append, List.mem_append, List.mem_cons,
      List.mem_append, List.mem_cons] at hc
    · rcases hc with hc | rfl | hc | rfl | hc
      · exact printable_quoted k c hc
      · decide
      · exact printable_chars v c hc
      · decide
      · exact printable_fieldChars (f :: fields) c hc
    · simp

end

/-- **No control character stands in a compact text**, line breaks included. -/
theorem not_mem_compact_of_control {c : Char} (hc : c.toNat < 0x20) (v : Value) :
    c ∉ v.compact.toList := by
  rw [Value.compact, String.toList_ofList]
  exact fun hmem ↦ Nat.not_lt.2 (printable_chars v c hmem) hc

end Json

/-! ### Lines -/

namespace Text

/-- A text without line ends, and a line end, are one line; what follows makes the others. -/
theorem lines_cons {line : String} (hfeed : '\n' ∉ line.toList) (hreturn : '\r' ∉ line.toList)
    (rest : String) : lines (line ++ "\n" ++ rest) = line :: lines rest := by
  have htext : (line ++ "\n" ++ rest).toList = line.toList ++ '\n' :: rest.toList := by
    rw [String.toList_append, String.toList_append, List.append_assoc]
    rfl
  have hne : rest.toList.splitOn '\n' ≠ [] := List.splitOn_ne_nil _ _
  have hdrop : dropReturn '\r' line.toList = line.toList := by
    rw [dropReturn, if_neg]
    exact fun h ↦ hreturn (List.mem_of_getLast? (beq_iff_eq.1 h))
  rw [lines, htext, List.splitOn_append_cons_self_of_not_mem hfeed, linesOfPieces, hdrop,
    List.map_cons, String.ofList_toList]
  · rfl
  · exact fun _ h ↦ hne h
  · exact fun h ↦ hne h

end Text

end JavaDeps
