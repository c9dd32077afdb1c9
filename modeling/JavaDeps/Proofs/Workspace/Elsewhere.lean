import JavaDeps.Proofs.Workspace.Refinement

/-!
# What a recording leaves alone

A recording changes the files of one directory and the owners of some types. **The only types it can
change the owners of are those that the file declares now, or declared when it was recorded last**
(`ownersOf_record`): a type that the directory also declares in another file neither appears nor
vanishes, so its owners are not touched, not even in their spelling. The files of every other
directory stay as they are (`get?_packages_record`).
-/

namespace JavaDeps.Workspace

/-- Whether recording a file changes what the file says of a type: it declares the type now, or did
so when it was recorded last. -/
def Touches (history : List Event) (directory path : Path) (r : FileRecord) (symbol : String) :
    Prop :=
  symbol ∈ r.facts.qualifiedTypes ∨
    ∃ old, recorded? history directory path = some old ∧ symbol ∈ old.facts.qualifiedTypes

/-! ### The owners of other types -/

theorem get?_disown {d : Path} {owners : SortedMap String (SortedSet Path)} {s t : String}
    (h : t ≠ s) : (Index.disown d owners s).get? t = owners.get? t := by
  rw [Index.disown, SortedMap.get?_alter, if_neg (mt Std.LawfulEqOrd.compare_eq_iff_eq.1 h)]

theorem get?_own {d : Path} {owners : SortedMap String (SortedSet Path)} {s t : String}
    (h : t ≠ s) : (Index.own d owners s).get? t = owners.get? t := by
  rw [Index.own, SortedMap.get?_alter, if_neg (mt Std.LawfulEqOrd.compare_eq_iff_eq.1 h)]

/-- Steps that each leave a type alone leave it alone together. -/
theorem get?_foldl {step : SortedMap String (SortedSet Path) → String →
      SortedMap String (SortedSet Path)} {t : String}
    (hstep : ∀ owners s, t ≠ s → (step owners s).get? t = owners.get? t) {l : List String}
    (h : t ∉ l) (owners : SortedMap String (SortedSet Path)) :
    (l.foldl step owners).get? t = owners.get? t := by
  induction l generalizing owners with
  | nil => rfl
  | cons s l ih =>
    rw [List.mem_cons, not_or] at h
    rw [List.foldl_cons, ih h.2, hstep owners s h.1]

/-! ### The types of the directory -/

/-- **A type appears in a directory, or vanishes from it, only with the file that is recorded.** -/
theorem Package.mem_declared_record {p : Package} {path : Path} {r : FileRecord} {n : Nat}
    {symbol : String} (hnew : symbol ∉ r.facts.qualifiedTypes)
    (hold : ∀ old, p.files.get? path = some old → symbol ∉ old.facts.qualifiedTypes) :
    symbol ∈ (p.record path r n).declared ↔ symbol ∈ p.declared := by
  rw [mem_declared, mem_declared]
  constructor
  · rintro ⟨path', r', hr', hsymbol⟩
    rw [get?_files_record] at hr'
    split at hr'
    · rw [← Option.some.inj hr'] at hsymbol
      exact absurd hsymbol hnew
    · exact ⟨path', r', hr', hsymbol⟩
  · rintro ⟨path', r', hr', hsymbol⟩
    refine ⟨path', r', ?_, hsymbol⟩
    rw [get?_files_record, if_neg]
    · exact hr'
    · -- the file that is replaced did not declare the type
      intro hsame
      refine hold r' ?_ hsymbol
      rw [← hr', p.files.get?_congr (same_iff_compare.1 hsame)]

/-- What is in both sets is not among what one has and the other lacks. -/
theorem not_mem_filter_not_contains {s u : SortedSet String} {t : String} (h : t ∈ s → t ∈ u) :
    t ∉ s.toList.filter (!u.contains ·) := by
  rw [List.mem_filter, ← SortedSet.mem_iff, Bool.not_eq_true', ← Bool.not_eq_true,
    SortedSet.contains_iff]
  exact fun hmem ↦ hmem.2 (h hmem.1)

section Record

variable {index : Index} {history : List Event} {d e path : Path} {r : FileRecord}

/-- **A recording leaves the owners of a type alone unless the file declares it, or did.** -/
theorem ownersOf_record (h : Tracks index history) {symbol : String}
    (huntouched : ¬ Touches history e path r symbol) :
    (index.record e path r).ownersOf symbol = index.ownersOf symbol := by
  rw [Touches, not_or, not_exists] at huntouched
  set before := index.packageAt e
  set after := before.record path r (index.generation + 1)
  have hdeclared : symbol ∈ after.declared ↔ symbol ∈ before.declared :=
    Package.mem_declared_record huntouched.1 fun old hold hsymbol ↦
      huntouched.2 old ⟨(h.get?_files_packageAt e path).symm.trans hold, hsymbol⟩
  have hremoved : symbol ∉ before.declared.toList.filter (!after.declared.contains ·) :=
    not_mem_filter_not_contains hdeclared.2
  have hadded : symbol ∉ after.declared.toList.filter (!before.declared.contains ·) :=
    not_mem_filter_not_contains hdeclared.1
  have howners : (index.record e path r).owners.get? symbol = index.owners.get? symbol :=
    (get?_foldl (fun _ _ ↦ get?_own) hadded _).trans (get?_foldl (fun _ _ ↦ get?_disown) hremoved _)
  rw [Index.ownersOf, howners, Index.ownersOf]

/-- A recording leaves the files of every other directory alone. -/
theorem get?_packages_record (hother : e.same d = false) :
    (index.record e path r).packages.get? d = index.packages.get? d := by
  show (index.packages.insert e _).get? d = _
  rw [SortedMap.get?_insert, if_neg]
  intro hcompare
  rw [same_comm, same_iff_compare.2 hcompare] at hother
  cases hother

end Record

end JavaDeps.Workspace
