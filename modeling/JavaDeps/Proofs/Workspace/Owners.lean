import JavaDeps.Proofs.Workspace.History
import Mathlib.Tactic.Tauto

/-!
# The table of owners under a recording

A recording takes its directory off the types that vanish from the directory and puts it among the
owners of those that appear. `owns_record` says what that comes to: **the directory owns just what
it declares now, and every other directory what it owned before**, however many files of either
declare a type. The one thing asked of the table is that it was right about the directory itself.
-/

namespace JavaDeps.Workspace

/-! ### One owner more or less -/

/-- Whether a table of owners has a directory among those of a type. -/
def Owns (owners : SortedMap String (SortedSet Path)) (directory : Path) (symbol : String) : Prop :=
  ∃ ds, owners.get? symbol = some ds ∧ ds.contains directory = true

theorem not_owns_empty (directory : Path) (symbol : String) : ¬ Owns ∅ directory symbol := by
  rintro ⟨ds, h, -⟩
  cases h

/-- To disown a symbol takes it from one directory, however that is spelled. -/
theorem owns_disown {owners : SortedMap String (SortedSet Path)} {d e : Path} {s t : String} :
    Owns (Index.disown d owners s) e t ↔ Owns owners e t ∧ ¬ (t = s ∧ d.same e = true) := by
  simp only [Owns, Index.disown, SortedMap.get?_alter, Std.LawfulEqOrd.compare_eq_iff_eq]
  by_cases hts : t = s
  · subst hts
    rcases hold : owners.get? t with - | old
    · simp
    · have herase :
          (old.erase d).contains e = true ↔ ¬ d.same e = true ∧ old.contains e = true := by
        rw [SortedSet.contains_erase, same_comm, same_iff_compare]
      by_cases hempty : (old.erase d).isEmpty
      · -- nothing is left, so `e` was `d` or no owner at all
        have hno : (old.erase d).contains e = false := by
          rw [SortedSet.isEmpty, List.isEmpty_iff] at hempty
          rw [SortedSet.contains, hempty, List.any_nil]
        simp only [hempty, if_true]
        constructor
        · rintro ⟨ds, h, -⟩
          cases h
        · rintro ⟨⟨ds, h, hds⟩, hne⟩
          obtain rfl := Option.some.inj h
          have hyes := herase.2 ⟨fun hde ↦ hne ⟨trivial, hde⟩, hds⟩
          rw [hno] at hyes
          cases hyes
      · simp only [hempty, if_true]
        constructor
        · rintro ⟨ds, h, hds⟩
          obtain rfl := Option.some.inj h
          obtain ⟨hde, hold'⟩ := herase.1 hds
          exact ⟨⟨old, rfl, hold'⟩, fun hne ↦ hde hne.2⟩
        · rintro ⟨⟨ds, h, hds⟩, hne⟩
          obtain rfl := Option.some.inj h
          exact ⟨_, rfl, herase.2 ⟨fun hde ↦ hne ⟨trivial, hde⟩, hds⟩⟩
  · simp [hts]

/-- To own a symbol gives it to one directory, however that is spelled. -/
theorem owns_own {owners : SortedMap String (SortedSet Path)} {d e : Path} {s t : String} :
    Owns (Index.own d owners s) e t ↔ Owns owners e t ∨ (t = s ∧ d.same e = true) := by
  simp only [Owns, Index.own, SortedMap.get?_alter, Std.LawfulEqOrd.compare_eq_iff_eq]
  by_cases hts : t = s
  · subst hts
    rcases hold : owners.get? t with - | old
    · simp [SortedSet.contains_insert, same_comm (p := d), same_iff_compare]
    · simp [SortedSet.contains_insert, same_comm (p := d), same_iff_compare, or_comm]
  · simp [hts]

/-- To disown a list of symbols takes these from one directory. -/
theorem owns_foldl_disown {d e : Path} {t : String} (l : List String) :
    ∀ owners : SortedMap String (SortedSet Path), Owns (l.foldl (Index.disown d) owners) e t ↔
      Owns owners e t ∧ ¬ (t ∈ l ∧ d.same e = true) := by
  induction l with
  | nil => simp
  | cons s l ih =>
    intro owners
    rw [List.foldl_cons, ih, owns_disown, List.mem_cons]
    tauto

/-- To own a list of symbols gives these to one directory. -/
theorem owns_foldl_own {d e : Path} {t : String} (l : List String) :
    ∀ owners : SortedMap String (SortedSet Path), Owns (l.foldl (Index.own d) owners) e t ↔
      Owns owners e t ∨ (t ∈ l ∧ d.same e = true) := by
  induction l with
  | nil => simp
  | cons s l ih =>
    intro owners
    rw [List.foldl_cons, ih, owns_own, List.mem_cons]
    tauto

/-! ### A recording -/

/-- What is recorded of a directory, which may be nothing. -/
def Index.packageAt (index : Index) (directory : Path) : Package :=
  (index.packages.get? directory).getD { directory }

/-- **A recording sets right what its directory owns, and touches no other directory.** -/
theorem owns_record {index : Index} {d e path : Path} {r : FileRecord} {t : String}
    (hd : ∀ {e : Path}, d.same e = true →
      (Owns index.owners e t ↔ t ∈ (index.packageAt d).declared)) :
    Owns (index.record d path r).owners e t ↔
      if d.same e then t ∈ ((index.packageAt d).record path r (index.generation + 1)).declared
      else Owns index.owners e t := by
  set before := (index.packageAt d).declared with hbefore
  set after := ((index.packageAt d).record path r (index.generation + 1)).declared with hafter
  have hrecord : (index.record d path r).owners =
      (after.toList.filter (!before.contains ·)).foldl (Index.own d)
        ((before.toList.filter (!after.contains ·)).foldl (Index.disown d) index.owners) := rfl
  rw [hrecord, owns_foldl_own, owns_foldl_disown]
  simp only [List.mem_filter, ← SortedSet.mem_iff, Bool.not_eq_true', ← Bool.not_eq_true,
    SortedSet.contains_iff]
  by_cases hde : d.same e = true
  · rw [if_pos hde, hd hde]
    by_cases hb : t ∈ before <;> by_cases ha : t ∈ after <;> simp [hb, ha, hde]
  · simp [hde]

end JavaDeps.Workspace
