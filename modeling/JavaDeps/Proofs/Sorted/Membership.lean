import JavaDeps.Sorted.Map
import JavaDeps.Sorted.Set
import Mathlib.Data.List.Induction
import Mathlib.Data.List.Sort

/-!
# What sorted maps and sets hold

The operations of `SortedMap` and `SortedSet` said through `get?` and `contains`. The order need not
tell all keys apart: **paths compare equal in several spellings**, so membership up to `compare` is
the only membership there is for them. A lawful order is asked for only where a set is put together
again from its members.
-/

namespace JavaDeps

variable {κ ν : Type} [Ord κ]

theorem ne_of_compare_eq_lt [Std.ReflOrd κ] {a b : κ} (h : compare a b = .lt) : a ≠ b := by
  rintro rfl
  rw [Std.ReflOrd.compare_self] at h
  cases h

/-- A list that increases by a comparison is determined by its members. -/
theorem eq_of_cmp_increasing {α : Type} (cmp : α → α → Ordering) [Std.TransCmp cmp] {l l' : List α}
    (hl : l.Pairwise fun a b ↦ cmp a b = .lt) (hl' : l'.Pairwise fun a b ↦ cmp a b = .lt)
    (h : ∀ a, a ∈ l ↔ a ∈ l') : l = l' := by
  have hirrefl : Std.Irrefl fun a b : α ↦ cmp a b = .lt := ⟨fun a ha ↦ by
    have hself : cmp a a = .eq := Std.ReflCmp.compare_self
    rw [hself] at ha
    cases ha⟩
  have hantisymm : Std.Antisymm fun a b : α ↦ cmp a b = .lt :=
    ⟨fun _ _ hab hba ↦ absurd hba (Std.OrientedCmp.not_lt_of_lt hab)⟩
  exact hl.eq_of_mem_iff hl' h

/-- An increasing list is determined by its members. -/
theorem eq_of_increasing [Std.TransOrd κ] {l l' : List κ}
    (hl : l.Pairwise (fun a b ↦ compare a b = .lt))
    (hl' : l'.Pairwise (fun a b ↦ compare a b = .lt)) (h : ∀ a, a ∈ l ↔ a ∈ l') : l = l' :=
  eq_of_cmp_increasing compare hl hl' h

/-- What is sorted by a comparison is in its order. -/
theorem pairwise_mergeSort_isLE {α : Type} (cmp : α → α → Ordering) [Std.TransCmp cmp]
    (l : List α) : (l.mergeSort fun a b ↦ (cmp a b).isLE).Pairwise fun a b ↦ (cmp a b).isLE := by
  refine List.pairwise_mergeSort (fun a b c hab hbc ↦ ?_) (fun a b ↦ ?_) l
  · exact Std.TransCmp.isLE_trans hab hbc
  · have hswap : cmp b a = (cmp a b).swap := Std.OrientedCmp.eq_swap
    rw [Bool.or_eq_true, hswap]
    cases cmp a b <;> decide

/-- Members of an increasing list that compare equal are one. -/
theorem eq_of_cmp_eq {α : Type} (cmp : α → α → Ordering) [Std.TransCmp cmp] {l : List α}
    (h : l.Pairwise fun a b ↦ cmp a b = .lt) {a b : α} (ha : a ∈ l) (hb : b ∈ l)
    (heq : cmp a b = .eq) : a = b := by
  have hlt : ∀ {a b : α}, cmp a b = .lt → cmp a b = .eq → a = b := fun hlt heq ↦ by
    rw [hlt] at heq
    cases heq
  exact List.Pairwise.forall_of_forall_of_flip (R := fun a b ↦ cmp a b = .eq → a = b)
    (fun _ _ _ ↦ rfl) (h.imp hlt)
    (h.imp fun hba heq ↦ (hlt hba (Std.OrientedCmp.eq_symm heq)).symm) ha hb heq

/-- Sorting finds an increasing list again. -/
theorem mergeSort_eq_of_perm {α : Type} (cmp : α → α → Ordering) [Std.TransCmp cmp]
    {l l' : List α} (hperm : l.Perm l') (h : l'.Pairwise fun a b ↦ cmp a b = .lt) :
    (l.mergeSort fun a b ↦ (cmp a b).isLE) = l' := by
  have hsorted := (List.mergeSort_perm l fun a b ↦ (cmp a b).isLE).trans hperm
  refine hsorted.eq_of_pairwise (fun a b ha hb hab hba ↦ ?_) (pairwise_mergeSort_isLE cmp l)
    (h.imp fun hlt ↦ by rw [hlt]; rfl)
  exact eq_of_cmp_eq cmp h (hsorted.mem_iff.1 ha) hb (Std.OrientedCmp.isLE_antisymm hab hba)

namespace SortedMap

@[simp] theorem get?_empty (k : κ) : (∅ : SortedMap κ ν).get? k = none := rfl

variable [Std.TransOrd κ]

/-- Two entries of a map whose keys compare equal are one entry. -/
theorem eq_of_mem_entries {m : SortedMap κ ν} {e e' : κ × ν} (he : e ∈ m.entries)
    (he' : e' ∈ m.entries) (h : compare e.1 e'.1 = .eq) : e = e' :=
  eq_of_cmp_eq (compareOn Prod.fst) m.increasing he he' h

/-- A map has a value under a key if one of its keys compares equal to it. -/
theorem get?_eq_some_iff {m : SortedMap κ ν} {k : κ} {v : ν} :
    m.get? k = some v ↔ ∃ k', (k', v) ∈ m.entries ∧ compare k k' = .eq := by
  rw [get?, findEntry?, Option.map_eq_some_iff]
  constructor
  · rintro ⟨⟨k', v'⟩, hfind, rfl⟩
    exact ⟨k', List.mem_of_find?_eq_some hfind, by simpa using List.find?_some hfind⟩
  · rintro ⟨k', hmem, hcmp⟩
    rcases hfind : m.entries.find? fun e ↦ compare k e.1 == .eq with - | e
    · exact absurd hcmp (by simpa using List.find?_eq_none.1 hfind _ hmem)
    · have he : compare k e.1 = .eq := by simpa using List.find?_some hfind
      have hkey : compare k' e.1 = .eq := Std.TransCmp.eq_trans (Std.OrientedCmp.eq_symm hcmp) he
      exact ⟨e, hfind, by rw [← eq_of_mem_entries hmem (List.mem_of_find?_eq_some hfind) hkey]⟩

/-- Where only equal keys compare equal, the entries of a map are what it holds. -/
theorem mem_entries_iff [Std.LawfulEqOrd κ] {m : SortedMap κ ν} {k : κ} {v : ν} :
    (k, v) ∈ m.entries ↔ m.get? k = some v := by
  rw [get?_eq_some_iff]
  simp only [Std.LawfulEqOrd.compare_eq_iff_eq, exists_eq_right']

/-- Where only equal keys compare equal, a map is determined by what it holds. -/
theorem ext_get? [Std.LawfulEqOrd κ] {m m' : SortedMap κ ν} (h : ∀ k, m.get? k = m'.get? k) :
    m = m' := by
  refine ext (eq_of_cmp_increasing (compareOn Prod.fst) m.increasing m'.increasing ?_)
  rintro ⟨k, v⟩
  rw [mem_entries_iff, mem_entries_iff, h]

/-- Keys that compare equal have one value. -/
theorem get?_congr (m : SortedMap κ ν) {k k' : κ} (h : compare k k' = .eq) :
    m.get? k = m.get? k' := by
  ext v
  rw [get?_eq_some_iff, get?_eq_some_iff]
  simp only [Std.TransCmp.congr_left h]

/-- The values of a map are those that it has under some key. -/
theorem mem_values {m : SortedMap κ ν} {v : ν} : v ∈ m.values ↔ ∃ k, m.get? k = some v := by
  rw [values, List.mem_map]
  constructor
  · rintro ⟨⟨k, v⟩, hmem, rfl⟩
    exact ⟨k, get?_eq_some_iff.2 ⟨k, hmem, Std.ReflCmp.compare_self⟩⟩
  · rintro ⟨k, hk⟩
    obtain ⟨k', hmem, -⟩ := get?_eq_some_iff.1 hk
    exact ⟨(k', v), hmem, rfl⟩

/-- There is a value under a key just if it is among the keys. -/
theorem isSome_get? {m : SortedMap κ ν} {k : κ} :
    (m.get? k).isSome ↔ ∃ k' ∈ m.keys, compare k k' = .eq := by
  rw [Option.isSome_iff_exists, keys]
  constructor
  · rintro ⟨v, hv⟩
    obtain ⟨k', hmem, hcmp⟩ := get?_eq_some_iff.1 hv
    exact ⟨k', List.mem_map.2 ⟨_, hmem, rfl⟩, hcmp⟩
  · rintro ⟨k', hmem, hcmp⟩
    obtain ⟨⟨k'', v⟩, hentry, rfl⟩ := List.mem_map.1 hmem
    exact ⟨v, get?_eq_some_iff.2 ⟨_, hentry, hcmp⟩⟩

omit [Std.TransOrd κ] in
/-- An update that adds things to what a value holds adds them to what all values hold. -/
theorem perm_flatMap_alterEntries {α : Type} {g : ν → List α} {as : List α}
    {f : Option ν → Option ν}
    (hf : ∀ old, ((f old).toList.flatMap g).Perm (as ++ old.toList.flatMap g)) (k : κ)
    (l : List (κ × ν)) :
    ((alterEntries k f l).flatMap fun e ↦ g e.2).Perm (as ++ l.flatMap fun e ↦ g e.2) := by
  have hentry : ∀ (k : κ) (o : Option ν),
      (o.map fun w ↦ (k, w)).toList.flatMap (fun e ↦ g e.2) = o.toList.flatMap g := by
    intro k o
    cases o <;> rfl
  induction l with
  | nil =>
    rw [alterEntries, hentry]
    exact hf none
  | cons e rest ih =>
    obtain ⟨k', v⟩ := e
    rw [alterEntries]
    split
    · rw [List.flatMap_append, hentry]
      have hnone := hf none
      rw [Option.toList_none, List.flatMap_nil, List.append_nil] at hnone
      exact hnone.append_right _
    · rw [List.flatMap_append, hentry, List.flatMap_cons, ← List.append_assoc]
      have hsome := hf (some v)
      rw [Option.toList_some, List.flatMap_singleton] at hsome
      exact hsome.append_right _
    · rw [List.flatMap_cons, List.flatMap_cons]
      exact (ih.append_left _).trans (List.perm_append_comm_assoc ..)

omit [Std.TransOrd κ] in
/-- A new key is added to the entries, wherever it goes. -/
theorem perm_alterEntries_of_new {k : κ} (v : ν) {l : List (κ × ν)}
    (h : ∀ e ∈ l, compare k e.1 ≠ .eq) :
    (alterEntries k (fun _ ↦ some v) l).Perm ((k, v) :: l) := by
  induction l with
  | nil => exact .refl _
  | cons e rest ih =>
    obtain ⟨hfirst, hrest⟩ := List.forall_mem_cons.1 h
    rw [alterEntries]
    split
    · exact .refl _
    · next heq => exact absurd heq hfirst
    · exact ((ih hrest).cons e).trans (.swap ..)

/-- **A map made from entries with different keys has these entries.** -/
theorem perm_entries_ofList [Std.LawfulEqOrd κ] {l : List (κ × ν)} (h : (l.map Prod.fst).Nodup) :
    (ofList l).entries.Perm l := by
  induction l using List.reverseRecOn with
  | nil => exact .refl _
  | append_singleton front e ih =>
    rw [List.map_append, List.map_singleton, ← List.concat_eq_append, List.nodup_concat] at h
    have hfront : (ofList front).entries.Perm front := ih h.2
    have hinsert : (ofList (front ++ [e])).entries =
        alterEntries e.1 (fun _ ↦ some e.2) (ofList front).entries := by
      rw [ofList, List.foldl_append]
      rfl
    rw [hinsert]
    refine (perm_alterEntries_of_new e.2 fun e' he' hcmp ↦ h.1 ?_).trans ?_
    · rw [Std.LawfulEqOrd.eq_of_compare hcmp]
      exact List.mem_map_of_mem (hfront.mem_iff.1 he')
    · exact (hfront.cons e).trans (List.perm_append_singleton e front).symm

/-- A map made from entries in the order of their keys has them as they are. -/
theorem entries_ofList [Std.LawfulEqOrd κ] {l : List (κ × ν)}
    (h : l.Pairwise fun e e' ↦ compare e.1 e'.1 = .lt) : (ofList l).entries = l := by
  have hkeys : (l.map Prod.fst).Nodup :=
    List.pairwise_map.2 (h.imp fun hlt ↦ ne_of_compare_eq_lt hlt)
  exact eq_of_cmp_increasing (compareOn Prod.fst) (ofList l).increasing h
    fun e ↦ (perm_entries_ofList hkeys).mem_iff

omit [Std.TransOrd κ] in
theorem get?_mapValues {ω : Type} (g : ν → ω) (m : SortedMap κ ν) (k : κ) :
    (m.mapValues g).get? k = (m.get? k).map g := by
  simp only [get?, findEntry?, mapValues, List.find?_map, Option.map_map]
  rfl

omit [Std.TransOrd κ] in
theorem keys_increasing (m : SortedMap κ ν) :
    m.keys.Pairwise (fun a b ↦ compare a b = .lt) :=
  List.pairwise_map.2 m.increasing

end SortedMap

namespace SortedSet

variable {α : Type} [Ord α]

@[simp] theorem contains_empty (a : α) : (∅ : SortedSet α).contains a = false := rfl

theorem contains_eq_true_iff {s : SortedSet α} {a : α} :
    s.contains a = true ↔ ∃ b ∈ s.toList, compare a b = .eq := by
  simp [contains]

variable [Std.TransOrd α]

/-- A set with one more member contains what compares equal to it, and what it did before. -/
theorem contains_insert {s : SortedSet α} {a b : α} :
    (s.insert a).contains b = true ↔ compare b a = .eq ∨ s.contains b = true := by
  show (insertOrdered a s.toList).any (fun c ↦ compare b c == .eq) = true ↔ _
  rw [contains]
  induction s.toList with
  | nil => simp [insertOrdered]
  | cons c rest ih =>
    rw [insertOrdered]
    rcases hac : compare a c with - | - | -
    · simp
    · -- the old member stays, and compares to `b` as the new one does
      have : compare b a = compare b c := Std.TransCmp.congr_right hac
      simp [this]
    · simp only [List.any_cons, Bool.or_eq_true, ih]
      tauto

/-- A set without a member contains what it did before, but for what compares equal to it. -/
theorem contains_erase {s : SortedSet α} {a b : α} :
    (s.erase a).contains b = true ↔ compare b a ≠ .eq ∧ s.contains b = true := by
  simp only [contains_eq_true_iff, erase, toList_filter, List.mem_filter, bne_iff_ne]
  constructor
  · rintro ⟨c, ⟨hc, hca⟩, hbc⟩
    refine ⟨fun hba ↦ hca ?_, c, hc, hbc⟩
    exact Std.TransCmp.eq_trans (Std.OrientedCmp.eq_symm hba) hbc
  · rintro ⟨hba, c, hc, hbc⟩
    refine ⟨c, ⟨hc, fun hac ↦ hba ?_⟩, hbc⟩
    exact Std.TransCmp.eq_trans hbc (Std.OrientedCmp.eq_symm hac)

/-- A set is determined by its members in order. -/
theorem ofList_toList [Std.LawfulEqOrd α] (s : SortedSet α) : ofList s.toList = s :=
  ext (eq_of_increasing (ofList s.toList).increasing s.increasing fun _ ↦ mem_ofList)

end SortedSet

end JavaDeps
