import JavaDeps.Toml.Value
import Mathlib.Data.List.Basic

/-!
# Settings over settings

What a merged table holds under a key is settled by what the two tables hold under that key
(`lookup_overlayEntries`): **a key that the upper one leaves out is untouched**, and one that both
have is merged again. A table lies over anything but a table as it lies over an empty one
(`overlayOption_table`).
-/

namespace JavaDeps.Toml

/-- A key is looked up in the first entry, or else in those behind it. -/
theorem lookup_cons_eq {α : Type} (key k : String) (a : α) (entries : List (String × α)) :
    ((key, a) :: entries).lookup k = if k = key then some a else entries.lookup k := by
  rw [List.lookup_cons]
  by_cases hk : k = key
  · rw [if_pos hk, hk, beq_self_eq_true]
  · rw [if_neg hk, beq_false_of_ne hk]

/-- A key that no entry has is not found. -/
theorem lookup_eq_none_of_not_mem {α : Type} {entries : List (String × α)} {key : String}
    (h : key ∉ entries.map Prod.fst) : entries.lookup key = none := by
  induction entries with
  | nil => rfl
  | cons entry rest ih =>
    rw [List.map_cons, List.mem_cons, not_or] at h
    rw [lookup_cons_eq, if_neg h.1, ih h.2]

/-- An entry that was set is found under its key, and the others are as they were. -/
theorem lookup_setEntry (key k : String) (v : Value) (entries : Entries) :
    (setEntry key v entries).lookup k = if k = key then some v else entries.lookup k := by
  induction entries with
  | nil => rw [setEntry, lookup_cons_eq]
  | cons entry rest ih =>
    obtain ⟨first, old⟩ := entry
    rw [setEntry]
    by_cases hfirst : first = key
    · rw [if_pos hfirst, lookup_cons_eq, lookup_cons_eq, hfirst]
      split <;> rfl
    · rw [if_neg hfirst, lookup_cons_eq, lookup_cons_eq, ih]
      by_cases hk : k = key
      · rw [if_pos hk, if_pos hk, if_neg (hk ▸ Ne.symm hfirst)]
      · rw [if_neg hk, if_neg hk]

/-- An entry with a new key goes behind the others. -/
theorem setEntry_of_not_mem {key : String} {entries : Entries} (v : Value)
    (h : key ∉ entries.map Prod.fst) : setEntry key v entries = entries ++ [(key, v)] := by
  induction entries with
  | nil => rfl
  | cons entry rest ih =>
    rw [List.map_cons, List.mem_cons, not_or] at h
    rw [setEntry, if_neg (Ne.symm h.1), ih h.2, List.cons_append]

/-! ### Key by key -/

/-- An upper value over a lower one, or over nothing. -/
def overlayOption (lower : Option Value) (upper : Value) : Value :=
  lower.elim upper (overlay · upper)

/-- **Tables are merged key by key.** -/
theorem lookup_overlayEntries {upper : Entries} (hupper : (upper.map Prod.fst).Nodup)
    (lower : Entries) (key : String) :
    (overlayEntries lower upper).lookup key =
      match upper.lookup key with
      | none => lower.lookup key
      | some v => some (overlayOption (lower.lookup key) v) := by
  induction upper generalizing lower with
  | nil => rw [overlayEntries, List.lookup_nil]
  | cons entry rest ih =>
    obtain ⟨first, v⟩ := entry
    obtain ⟨hfirst, hrest⟩ := List.nodup_cons.1 hupper
    rw [overlayEntries, ih hrest, lookup_cons_eq, lookup_setEntry]
    by_cases hkey : key = first
    · rw [if_pos hkey, if_pos hkey, hkey, lookup_eq_none_of_not_mem hfirst]
      cases lower.lookup first <;> rfl
    · rw [if_neg hkey, if_neg hkey]

/-- Entries over others with none of their keys stand behind these. -/
theorem overlayEntries_of_disjoint {upper : Entries} (hupper : (upper.map Prod.fst).Nodup)
    {lower : Entries} (h : ∀ key ∈ upper.map Prod.fst, key ∉ lower.map Prod.fst) :
    overlayEntries lower upper = lower ++ upper := by
  induction upper generalizing lower with
  | nil => rw [overlayEntries, List.append_nil]
  | cons entry rest ih =>
    obtain ⟨hfirst, hrest⟩ := List.nodup_cons.1 hupper
    obtain ⟨hlower, hdisjoint⟩ := List.forall_mem_cons.1 h
    rw [overlayEntries, lookup_eq_none_of_not_mem hlower, setEntry_of_not_mem _ hlower, ih hrest,
      List.append_assoc, List.singleton_append]
    intro key hkey
    rw [List.map_append, List.mem_append, not_or]
    refine ⟨hdisjoint key hkey, fun hmem ↦ hfirst ?_⟩
    obtain rfl := List.mem_singleton.1 hmem
    exact hkey

theorem overlayEntries_nil {upper : Entries} (hupper : (upper.map Prod.fst).Nodup) :
    overlayEntries [] upper = upper :=
  overlayEntries_of_disjoint hupper (by simp)

/-! ### Whole values -/

/-- The entries that a table over some value is merged with. -/
def entriesBelow (lower : Option Value) : Entries := (lower.map Value.entries).getD []

/-- **A table replaces anything but a table.** -/
theorem overlayOption_table {upper : Entries} (hupper : (upper.map Prod.fst).Nodup)
    (lower : Option Value) :
    overlayOption lower (.table upper) = .table (overlayEntries (entriesBelow lower) upper) := by
  have hreplace : Value.table upper = .table (overlayEntries [] upper) := by
    rw [overlayEntries_nil hupper]
  rcases lower with - | lower
  · exact hreplace
  · rw [overlayOption, Option.elim_some, overlay.eq_def]
    cases lower with
    | table lower => rfl
    | _ => exact hreplace

/-- **Anything but a table replaces what it lies over.** -/
theorem overlayOption_of_entries {upper : Value} (hupper : ∀ entries, upper ≠ .table entries)
    (lower : Option Value) : overlayOption lower upper = upper := by
  rcases lower with - | lower
  · rfl
  · rw [overlayOption, Option.elim_some, overlay.eq_def]
    split
    · exact absurd rfl (hupper _)
    · rfl

end JavaDeps.Toml
