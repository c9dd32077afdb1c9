/-!
# Finite maps in order of their keys

A finite map from an ordered type of keys, kept as the list of its entries with strictly increasing
keys. Keys that compare equal are one key: looking one up finds the other's value, and an update
**keeps the key that came first**. That is what a table keyed by paths needs, where two spellings
name one place and the spelling seen first stays on display.
-/

namespace JavaDeps

/-- A finite map, as its entries with strictly increasing keys. So two maps with the same entries
are the same value, however they were put together. -/
structure SortedMap (κ ν : Type) [Ord κ] where
  entries : List (κ × ν)
  increasing : entries.Pairwise (fun a b ↦ compare a.1 b.1 = .lt) := by exact .nil

namespace SortedMap

variable {κ ν : Type} [Ord κ]

/-- Replaces what an ordered list of entries holds for `k` by what `f` makes of it. -/
def alterEntries (k : κ) (f : Option ν → Option ν) : List (κ × ν) → List (κ × ν)
  | [] => ((f none).map fun w ↦ (k, w)).toList
  | (k', v) :: rest =>
    match compare k k' with
    | .lt => ((f none).map fun w ↦ (k, w)).toList ++ (k', v) :: rest
    | .eq => ((f (some v)).map fun w ↦ (k', w)).toList ++ rest
    | .gt => (k', v) :: alterEntries k f rest

theorem key_mem_of_mem_alterEntries {k : κ} {f : Option ν → Option ν} {l : List (κ × ν)}
    {e : κ × ν} (h : e ∈ alterEntries k f l) : e.1 = k ∨ ∃ e' ∈ l, e'.1 = e.1 := by
  induction l with
  | nil =>
    simp only [alterEntries, Option.mem_toList, Option.map_eq_some_iff] at h
    grind
  | cons hd rest ih =>
    obtain ⟨k', v⟩ := hd
    unfold alterEntries at h
    split at h <;>
      simp only [List.mem_append, Option.mem_toList, Option.map_eq_some_iff, List.mem_cons] at h
    next => grind
    next =>
      rcases h with ⟨w, -, rfl⟩ | h
      · exact .inr ⟨(k', v), by simp, rfl⟩
      · exact .inr ⟨e, by simp [h], rfl⟩
    next => grind

theorem alterEntries_increasing [Std.TransOrd κ] (k : κ) (f : Option ν → Option ν)
    {l : List (κ × ν)} (h : l.Pairwise (fun a b ↦ compare a.1 b.1 = .lt)) :
    (alterEntries k f l).Pairwise (fun a b ↦ compare a.1 b.1 = .lt) := by
  induction l with
  | nil => cases hf : f none <;> simp [alterEntries, hf]
  | cons hd rest ih =>
    obtain ⟨k', v⟩ := hd
    obtain ⟨hhd, hrest⟩ := List.pairwise_cons.1 h
    unfold alterEntries
    split
    next hk =>
      cases hf : f none with
      | none => simpa using h
      | some w =>
        simp only [Option.map_some, Option.toList_some, List.cons_append, List.nil_append]
        refine List.pairwise_cons.2 ⟨fun e he ↦ ?_, h⟩
        rcases List.mem_cons.1 he with rfl | he
        · exact hk
        · exact Std.TransCmp.lt_trans hk (hhd e he)
    next hk =>
      cases hf : f (some v) with
      | none => simpa using hrest
      | some w =>
        simp only [Option.map_some, Option.toList_some, List.cons_append, List.nil_append]
        exact List.pairwise_cons.2 ⟨fun e he ↦ hhd e he, hrest⟩
    next hk =>
      refine List.pairwise_cons.2 ⟨fun e he ↦ ?_, ih hrest⟩
      rcases key_mem_of_mem_alterEntries he with h1 | ⟨e', he', h1⟩
      · rw [h1]; exact Std.OrientedCmp.gt_iff_lt.1 hk
      · rw [← h1]; exact hhd e' he'

instance : EmptyCollection (SortedMap κ ν) := ⟨{ entries := [] }⟩

instance : Inhabited (SortedMap κ ν) := ⟨∅⟩

@[ext] theorem ext {s t : SortedMap κ ν} (h : s.entries = t.entries) : s = t := by
  cases s; cases t; simp_all

instance [DecidableEq κ] [DecidableEq ν] : DecidableEq (SortedMap κ ν) := fun s t ↦
  decidable_of_iff (s.entries = t.entries) <| by
    cases s; cases t; simp

@[simp] theorem entries_empty : (∅ : SortedMap κ ν).entries = [] := rfl

/-- The entry whose key compares equal to `k`, with the key as it was first given. -/
def findEntry? (m : SortedMap κ ν) (k : κ) : Option (κ × ν) :=
  m.entries.find? fun e ↦ compare k e.1 == .eq

/-- The value kept for a key. -/
def get? (m : SortedMap κ ν) (k : κ) : Option ν :=
  (m.findEntry? k).map (·.2)

/-- Whether some key compares equal to `k`. -/
def contains (m : SortedMap κ ν) (k : κ) : Bool :=
  (m.get? k).isSome

/-- The keys, in increasing order. -/
def keys (m : SortedMap κ ν) : List κ := m.entries.map (·.1)

/-- The values, in the order of their keys. -/
def values (m : SortedMap κ ν) : List ν := m.entries.map (·.2)

/-- The number of entries. -/
def size (m : SortedMap κ ν) : Nat := m.entries.length

/-- Whether there are no entries. -/
def isEmpty (m : SortedMap κ ν) : Bool := m.entries.isEmpty

/-- The map with every value replaced by its image. -/
def mapValues {ω : Type} (g : ν → ω) (m : SortedMap κ ν) : SortedMap κ ω where
  entries := m.entries.map fun e ↦ (e.1, g e.2)
  increasing := List.pairwise_map.2 m.increasing

variable [Std.TransOrd κ]

/-- The map in which the value for `k` is what `f` makes of the present one. -/
def alter (m : SortedMap κ ν) (k : κ) (f : Option ν → Option ν) : SortedMap κ ν where
  entries := alterEntries k f m.entries
  increasing := alterEntries_increasing k f m.increasing

/-- The map with a value set. A key that compares equal to one that is there does not replace it. -/
def insert (m : SortedMap κ ν) (k : κ) (v : ν) : SortedMap κ ν :=
  m.alter k fun _ ↦ some v

/-- The map with a value set where there was none. -/
def insertNew (m : SortedMap κ ν) (k : κ) (v : ν) : SortedMap κ ν :=
  m.alter k fun old ↦ some (old.getD v)

/-- The map without a key. -/
def erase (m : SortedMap κ ν) (k : κ) : SortedMap κ ν :=
  m.alter k fun _ ↦ none

/-- The map of a list of entries; of two values for one key the later stays. -/
def ofList (l : List (κ × ν)) : SortedMap κ ν :=
  l.foldl (fun m e ↦ m.insert e.1 e.2) ∅

/-! ### Looking up after an update -/

theorem find?_alterEntries (k k' : κ) (f : Option ν → Option ν) {l : List (κ × ν)}
    (h : l.Pairwise (fun a b ↦ compare a.1 b.1 = .lt)) :
    ((alterEntries k f l).find? fun e ↦ compare k' e.1 == .eq).map (·.2) =
      if compare k' k = .eq then f ((l.find? fun e ↦ compare k e.1 == .eq).map (·.2))
      else (l.find? fun e ↦ compare k' e.1 == .eq).map (·.2) := by
  induction l with
  | nil => cases hf : f none <;> by_cases hk : compare k' k = .eq <;> simp [alterEntries, hf, hk]
  | cons hd rest ih =>
    obtain ⟨k₀, v⟩ := hd
    obtain ⟨hhd, hrest⟩ := List.pairwise_cons.1 h
    have none_below : ∀ x : κ, compare x k₀ ≠ .gt →
        (rest.find? fun e ↦ compare x e.1 == .eq) = none := by
      intro x hx
      refine List.find?_eq_none.2 fun e he ↦ ?_
      have h1 := hhd e he
      simp only [beq_iff_eq]
      intro h2
      cases h3 : compare x k₀ with
      | lt => rw [Std.TransCmp.lt_trans h3 h1] at h2; cases h2
      | eq => rw [Std.TransCmp.lt_of_eq_of_lt h3 h1] at h2; cases h2
      | gt => exact hx h3
    unfold alterEntries
    split
    next hk =>
      have hrestk := none_below k (by simp [hk])
      by_cases hk' : compare k' k = .eq
      · have : compare k' k₀ = .lt := Std.TransCmp.lt_of_eq_of_lt hk' hk
        have hrestk' := none_below k' (by simp [this])
        cases hf : f none <;> simp [hk, hk', this, hrestk, hrestk', hf]
      · cases hf : f none <;> simp [hk', List.find?_cons]
    next hk =>
      have hcongr : compare k' k = compare k' k₀ := Std.TransCmp.congr_right hk
      by_cases hk' : compare k' k = .eq
      · have hrestk' := none_below k' (by simp [← hcongr, hk'])
        cases hf : f (some v) <;> simp [hk, hk', ← hcongr, hrestk', hf]
      · cases hf : f (some v) <;> simp [hk', ← hcongr]
    next hk =>
      have ih := ih hrest
      by_cases hk' : compare k' k = .eq
      · have : compare k' k₀ = .gt := Std.TransCmp.gt_of_eq_of_gt hk' hk
        simpa [List.find?_cons, hk, hk', this] using ih
      · simp only [List.find?_cons]
        by_cases hk0 : compare k' k₀ = .eq
        · simp [hk0, hk']
        · have hne : (compare k' k₀ == .eq) = false := by simpa using hk0
          simpa [hne, hk'] using ih

theorem get?_alter (m : SortedMap κ ν) (k k' : κ) (f : Option ν → Option ν) :
    (m.alter k f).get? k' = if compare k' k = .eq then f (m.get? k) else m.get? k' :=
  find?_alterEntries k k' f m.increasing

theorem get?_insert (m : SortedMap κ ν) (k k' : κ) (v : ν) :
    (m.insert k v).get? k' = if compare k' k = .eq then some v else m.get? k' :=
  m.get?_alter k k' _

theorem get?_erase (m : SortedMap κ ν) (k k' : κ) :
    (m.erase k).get? k' = if compare k' k = .eq then none else m.get? k' :=
  m.get?_alter k k' _

end SortedMap

end JavaDeps
